/-!
# White space

The characters with the Unicode property `White_Space`, and what they are cut off from or stand between.
-/

namespace ServiceFlow.Text

/-- The character has the property `White_Space`. -/
def isWhite (c : Char) : Bool :=
  let n := c.toNat
  (0x09 ≤ n && n ≤ 0x0D) || n == 0x20 || n == 0x85 || n == 0xA0 || n == 0x1680 ||
  (0x2000 ≤ n && n ≤ 0x200A) || n == 0x2028 || n == 0x2029 || n == 0x202F || n == 0x205F ||
  n == 0x3000

/-- The maximal runs of characters that are not white. -/
def words : List Char → List (List Char)
  | [] => []
  | c :: cs =>
    if isWhite c then words cs
    else
      match cs, words cs with
      | d :: _, w :: ws => if isWhite d then [c] :: w :: ws else (c :: w) :: ws
      | _, ws => [c] :: ws

/-- The text without white space at either end. -/
def trim (cs : List Char) : List Char :=
  ((cs.dropWhile isWhite).reverse.dropWhile isWhite).reverse

end ServiceFlow.Text
