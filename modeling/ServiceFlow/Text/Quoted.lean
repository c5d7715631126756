import ServiceFlow.Text.Case
import ServiceFlow.Text.EscapeTable
import ServiceFlow.Text.Split

/-!
# Quoted text

A text between quotes, in which every character that would not be read as itself is escaped: the
quote, the backslash, four controls by a letter, and all others of `escapedRanges` by their number.
-/

namespace ServiceFlow.Text

/-- The hexadecimal digits of a number. -/
def hex (n : Nat) : String := String.ofList (Nat.toDigits 16 n)

/-- A character inside quotes. -/
def quoteChar (c : Char) : String :=
  match c with
  | '"' => "\\\""
  | '\\' => "\\\\"
  | '\n' => "\\n"
  | '\r' => "\\r"
  | '\t' => "\\t"
  | '\x00' => "\\0"
  | c =>
    if inRanges escapedRanges c.toNat then "\\u\x7b" ++ hex c.toNat ++ "\x7d" else c.toString

/-- A text in quotes. -/
def quoted (s : String) : String := "\"" ++ String.join (s.toList.map quoteChar) ++ "\""

/-- The texts in quotes, in brackets. -/
def quotedList (texts : List String) : String := "[" ++ join ", " (texts.map quoted) ++ "]"

end ServiceFlow.Text
