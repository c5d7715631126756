/-!
# JSON values

A `Json` value keeps the members of an object in their order. A number is an integer that fits a
signed or unsigned 64-bit word, or else the text of any other decimal.

* `Json.text` writes a value without blanks. In strings the quote, the backslash and the controls
  below U+0020 are escaped, the controls by their short forms where there is one.
* `Json.member?` reads a member of an object; of repeated keys the last counts.
-/

namespace ServiceFlow

/-- A JSON value. -/
inductive Json where
  | null
  | bool (value : Bool)
  | int (value : Int)
  | decimal (digits : String)
  | str (value : String)
  | arr (items : List Json)
  | obj (members : List (String × Json))
deriving Inhabited

namespace Json

/-- A lower-case hexadecimal digit. -/
def hexDigit (n : Nat) : Char :=
  if n < 10 then Char.ofNat ('0'.toNat + n) else Char.ofNat ('a'.toNat + (n - 10))

/-- A character inside a string. -/
def escapeChar (c : Char) : String :=
  match c with
  | '"' => "\\\""
  | '\\' => "\\\\"
  | '\x08' => "\\b"
  | '\x0c' => "\\f"
  | '\n' => "\\n"
  | '\r' => "\\r"
  | '\t' => "\\t"
  | c =>
    if c.toNat < 0x20 then
      "\\u00" ++ String.ofList [hexDigit (c.toNat / 16), hexDigit (c.toNat % 16)]
    else c.toString

/-- A string in quotes. -/
def quote (s : String) : String :=
  s.toList.foldl (fun out c => out ++ escapeChar c) "\"" ++ "\""

mutual

/-- The compact text of a value. -/
def text : Json → String
  | .null => "null"
  | .bool true => "true"
  | .bool false => "false"
  | .int n => toString n
  | .decimal d => d
  | .str s => quote s
  | .arr items => "[" ++ ",".intercalate (itemTexts items) ++ "]"
  | .obj members => "\x7b" ++ ",".intercalate (memberTexts members) ++ "\x7d"

/-- The texts of the items of an array. -/
def itemTexts : List Json → List String
  | [] => []
  | v :: vs => v.text :: itemTexts vs

/-- The texts of the members of an object. -/
def memberTexts : List (String × Json) → List String
  | [] => []
  | (k, v) :: ms => (quote k ++ ":" ++ v.text) :: memberTexts ms

end

/-- The last member of this key, if the value is an object that has it. -/
def member? (key : String) : Json → Option Json
  | .obj members => (members.reverse.find? fun m => m.1 == key).map (·.2)
  | _ => none

/-- A list of texts as an array. -/
def ofTexts (texts : List String) : Json := .arr (texts.map .str)

end Json

end ServiceFlow
