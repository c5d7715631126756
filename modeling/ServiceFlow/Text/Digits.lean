/-!
# Digits of a base

Numbers written in digits of a base up to 16, and characters written by their number.
-/

namespace ServiceFlow.Text

/-- The value of a digit of a base up to 16, in either case. -/
def baseDigit? (base : Nat) (c : Char) : Option Nat :=
  let n := c.toNat
  let value :=
    if c.isDigit then n - '0'.toNat
    else if 'a' ≤ c && c ≤ 'f' then n - 'a'.toNat + 10
    else if 'A' ≤ c && c ≤ 'F' then n - 'A'.toNat + 10
    else base
  if value < base then some value else none

/-- The value of one or more digits of a base. -/
def readBase? (base : Nat) (cs : List Char) : Option Nat :=
  if cs.isEmpty then none
  else cs.foldlM (fun n c => (baseDigit? base c).map fun d => n * base + d) 0

/-- The character whose number stands in the first `width` characters in hexadecimal. -/
def readCode? (width : Nat) (cs : List Char) : Option Char := do
  if cs.length < width then none
  let n ← readBase? 16 (cs.take width)
  if n.isValidChar then some (Char.ofNat n) else none

end ServiceFlow.Text
