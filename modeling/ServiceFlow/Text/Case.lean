import ServiceFlow.Text.Blank
import ServiceFlow.Text.CaseTable

/-!
# Upper, lower and title case

Case conversion of whole texts by the full mappings of Unicode: one character may become several, and
a capital sigma at the end of a word becomes its final form.

* `upper` and `lower` convert a text.
* `title` takes a text apart at white space and joins the words by single spaces, the first character
  of each in upper case and the others in lower case.
-/

namespace ServiceFlow.Text

/-- The code point lies in one of the closed ranges. -/
def inRanges (ranges : List (Nat × Nat)) (n : Nat) : Bool :=
  ranges.any fun r => r.1 ≤ n && n ≤ r.2

/-- The image of a code point under the ranges, which leave the others as they are. -/
def mapRanges (ranges : List CaseRange) (n : Nat) : Nat :=
  match ranges.find? fun r => r.first ≤ n && n ≤ r.last && (n - r.first) % r.step == 0 with
  | some r => (n + r.offset).toNat
  | none => n

/-- The image of a character: a sequence if it has one, else one character. -/
def mapChar (sequences : List (Nat × List Nat)) (ranges : List CaseRange) (c : Char) : List Char :=
  match sequences.lookup c.toNat with
  | some ns => ns.map Char.ofNat
  | none => [Char.ofNat (mapRanges ranges c.toNat)]

/-- A character in upper case. -/
def upperChar (c : Char) : List Char := mapChar upperSequences upperRanges c

/-- A character in lower case, whatever stands around it. -/
def lowerChar (c : Char) : List Char := mapChar lowerSequences lowerRanges c

/-- The character has no bearing on where a word ends. -/
def isCaseIgnorable (c : Char) : Bool := inRanges ignorableRanges c.toNat

/-- The first character that is not case-ignorable is cased. -/
def startsCased (cs : List Char) : Bool :=
  match cs.dropWhile isCaseIgnorable with
  | [] => false
  | c :: _ => inRanges casedRanges c.toNat

/-- The text in upper case. -/
def upper (cs : List Char) : List Char := cs.flatMap upperChar

/-- The rest of a text in lower case, after the characters `before`, the last one first. -/
def lowerFrom (before : List Char) : List Char → List Char
  | [] => []
  | c :: cs =>
    let image :=
      if c = 'Σ' then (if startsCased before && !startsCased cs then ['ς'] else ['σ'])
      else lowerChar c
    image ++ lowerFrom (c :: before) cs

/-- The text in lower case. -/
def lower (cs : List Char) : List Char := lowerFrom [] cs

/-- A word with its first character in upper case. -/
def titleWord : List Char → List Char
  | [] => []
  | c :: cs => upperChar c ++ lower cs

/-- The words of the text in title case, joined by single spaces. -/
def title (cs : List Char) : List Char := [' '].intercalate ((words cs).map titleWord)

end ServiceFlow.Text
