/-!
# Decimal integers in commands and addresses

Model of reading an unsigned decimal integer with an upper bound: an optional `+`, then one or more
ASCII digits, leading zeros allowed. The text is read from the left, and the first character that
cannot be taken decides the error: a character that is no digit, or a digit that takes the value
above the bound.

Results:
* `readDigits_le`: what is read does not exceed the bound.
-/

namespace ServiceFlow.Text

/-- Why a text is no integer. -/
inductive IntegerError where
  | empty
  | invalidDigit
  | tooLarge
deriving DecidableEq, Repr

/-- The wording of each cause. -/
def IntegerError.message : IntegerError → String
  | .empty => "cannot parse integer from empty string"
  | .invalidDigit => "invalid digit found in string"
  | .tooLarge => "number too large to fit in target type"

/-- The value of an ASCII digit. -/
def digit? (c : Char) : Option Nat :=
  if c.isDigit then some (c.toNat - '0'.toNat) else none

/-- Reads digits onto `value`, which stays at most `max`. -/
def readDigits (max value : Nat) : List Char → Except IntegerError Nat
  | [] => .ok value
  | c :: cs =>
    match digit? c with
    | none => .error .invalidDigit
    | some d => if max < value * 10 + d then .error .tooLarge else readDigits max (value * 10 + d) cs

/-- Reads an unsigned integer of at most `max`; a sign alone is no integer. -/
def readNat (max : Nat) : List Char → Except IntegerError Nat
  | [] => .error .empty
  | ['+'] => .error .invalidDigit
  | '+' :: cs => readDigits max 0 cs
  | cs => readDigits max 0 cs

theorem readDigits_le {max value n : Nat} {cs : List Char} (h : value ≤ max)
    (hr : readDigits max value cs = .ok n) : n ≤ max := by
  induction cs generalizing value with
  | nil => cases hr; exact h
  | cons c cs ih =>
    rw [readDigits] at hr
    split at hr
    · cases hr
    · split at hr
      · cases hr
      · exact ih (by omega) hr

/-- The greatest value of a 64-bit word. -/
def maxWord : Nat := UInt64.size - 1

end ServiceFlow.Text
