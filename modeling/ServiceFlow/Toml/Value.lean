import ServiceFlow.Config.Tree
import ServiceFlow.Text.Digits
import ServiceFlow.Text.Split

/-!
# TOML words, texts and numbers

Model of what stands in one place of a TOML file: blanks, comments and line breaks; the texts in single
or double quotes, on one line or between three quotes on several; and the words without quotes, which
are integers, fractions, flags and dates.

* A text between three quotes may start with a line break, which does not count, and hold one or two
  quotes anywhere, also at its end.
* Integers fit a signed word of 64 bits, in any base.

Each reader takes the characters from a position on and gives what stands after the part it took.
-/

namespace ServiceFlow.Toml

/-- A blank within a line. -/
def isBlank (c : Char) : Bool := c == ' ' || c == '\t'

/-- A character that comments and texts may hold: no control but the tab. -/
def isPrintable (c : Char) : Bool := c == '\t' || (0x20 ≤ c.toNat && c.toNat != 0x7F)

/-- Passes over blanks. -/
def skipBlanks (cs : List Char) : List Char := cs.dropWhile isBlank

/-- Passes over a line break. -/
def lineBreak? : List Char → Option (List Char)
  | '\n' :: cs => some cs
  | '\r' :: '\n' :: cs => some cs
  | _ => none

/-- Passes over the rest of a line: blanks, a comment, and the line break or the end. -/
def endLine? (cs : List Char) : Option (List Char) :=
  let cs := match skipBlanks cs with
    | '#' :: r => r.dropWhile isPrintable
    | r => r
  if cs.isEmpty then some [] else lineBreak? cs

/-- Passes over blanks, comments and line breaks. -/
def skipLines : Nat → List Char → List Char
  | 0, cs => cs
  | n + 1, cs =>
    let cs := skipBlanks cs
    if cs.isEmpty then cs
    else
      match endLine? cs with
      | some r => skipLines n r
      | none => cs

/-! ## Texts -/

/-- The character of an escape of one letter. -/
def escape? : Char → Option Char
  | 'b' => some '\x08'
  | 't' => some '\t'
  | 'n' => some '\n'
  | 'f' => some '\x0c'
  | 'r' => some '\r'
  | '"' => some '"'
  | '\\' => some '\\'
  | _ => none

/-- The character of an escape whose backslash has been read. -/
def readEscape? : List Char → Option (Char × List Char)
  | [] => none
  | c :: cs =>
    if c = 'u' then (Text.readCode? 4 cs).map fun d => (d, cs.drop 4)
    else if c = 'U' then (Text.readCode? 8 cs).map fun d => (d, cs.drop 8)
    else (escape? c).map fun d => (d, cs)

/-- A text up to a quote on the same line. Double quotes know escapes, single ones do not. -/
def readLineText (quote : Char) : Nat → List Char → Option (List Char × List Char)
  | 0, _ => none
  | _ + 1, [] => none
  | n + 1, c :: cs =>
    if c = quote then some ([], cs)
    else if c = '\\' && quote == '"' then do
      let (d, cs) ← readEscape? cs
      let (text, r) ← readLineText quote n cs
      return (d :: text, r)
    else if isPrintable c then do
      let (text, r) ← readLineText quote n cs
      return (c :: text, r)
    else none

/-- Passes over the blanks and line breaks after a backslash at the end of a line. -/
def skipFold? (cs : List Char) : Option (List Char) :=
  (lineBreak? (skipBlanks cs)).map fun r =>
    r.dropWhile fun c => isBlank c || c == '\n' || c == '\r'

/-- A text up to three quotes, of which up to two more belong to the text. -/
def readLongText (quote : Char) : Nat → List Char → Option (List Char × List Char)
  | 0, _ => none
  | _ + 1, [] => none
  | n + 1, c :: cs =>
    if c = quote then
      let run := (c :: cs).takeWhile (· == quote)
      let r := (c :: cs).drop run.length
      if run.length < 3 then do
        let (text, r) ← readLongText quote n r
        return (run ++ text, r)
      else if run.length < 6 then some (run.drop 3, r)
      else none
    else if c = '\\' && quote == '"' then
      match skipFold? cs with
      | some cs => readLongText quote n cs
      | none => do
        let (d, cs) ← readEscape? cs
        let (text, r) ← readLongText quote n cs
        return (d :: text, r)
    else
      match lineBreak? (c :: cs) with
      | some cs => do
        let (text, r) ← readLongText quote n cs
        return ('\n' :: text, r)
      | none =>
        if isPrintable c then do
          let (text, r) ← readLongText quote n cs
          return (c :: text, r)
        else none

/-- A text after its first quote. -/
def readText (quote : Char) (cs : List Char) : Option (String × List Char) :=
  let long? := match cs with
    | a :: b :: r => if a = quote ∧ b = quote then some r else none
    | _ => none
  let found := match long? with
    | some r => readLongText quote (r.length + 1) ((lineBreak? r).getD r)
    | none => readLineText quote (cs.length + 1) cs
  found.map fun (text, r) => (String.ofList text, r)

/-! ## Words without quotes -/

/-- A character of a key without quotes. -/
def isKeyChar (c : Char) : Bool := c.isAlphanum || c == '-' || c == '_'

/-- A character of a value without quotes. -/
def isWordChar (c : Char) : Bool := isKeyChar c || c == '.' || c == '+' || c == ':'

/-- The digits of a number, among which single underscores may stand. -/
def stripUnderscores? (cs : List Char) : Option (List Char) :=
  let parts := Text.splitAll '_' cs
  if parts.any List.isEmpty then none else some parts.flatten

/-- The number without its sign, which is negative after a minus. -/
def splitSign : List Char → Bool × List Char
  | '+' :: cs => (false, cs)
  | '-' :: cs => (true, cs)
  | cs => (false, cs)

/-- Decimal digits without a leading zero. -/
def readWhole? (cs : List Char) : Option Nat := do
  let digits ← stripUnderscores? cs
  match digits with
  | '0' :: _ :: _ => none
  | _ => Text.readBase? 10 digits

/-- An integer that fits a signed word. -/
def readInteger? (cs : List Char) : Option Int := do
  let n : Int ← match cs with
    | '0' :: 'x' :: r => do Text.readBase? 16 (← stripUnderscores? r)
    | '0' :: 'o' :: r => do Text.readBase? 8 (← stripUnderscores? r)
    | '0' :: 'b' :: r => do Text.readBase? 2 (← stripUnderscores? r)
    | _ =>
      let (negative, r) := splitSign cs
      (readWhole? r).map fun n => if negative then -(n : Int) else n
  if Int64.minValue.toInt ≤ n ∧ n ≤ Int64.maxValue.toInt then some n else none

/-- One or more decimal digits. -/
def isDigits (cs : List Char) : Bool :=
  match stripUnderscores? cs with
  | some digits => !digits.isEmpty && digits.all Char.isDigit
  | none => false

/-- A fraction or an exponent after a whole number, or one of the words for what is no number. -/
def isFraction (cs : List Char) : Bool :=
  let (_, r) := splitSign cs
  let (mantissa, exponent?) := match Text.splitAll 'e' (r.map Char.toLower) with
    | [m] => (m, some none)
    | [m, e] => (m, some (some (splitSign e).2))
    | _ => ([], none)
  let whole (cs : List Char) := (readWhole? cs).isSome
  r == "inf".toList || r == "nan".toList ||
    match Text.splitAll '.' mantissa, exponent? with
    | [w], some (some e) => whole w && isDigits e
    | [w, f], some none => whole w && isDigits f
    | [w, f], some (some e) => whole w && isDigits f && isDigits e
    | _, _ => false

/-- A number of so many digits between bounds. -/
def isField (width low high : Nat) (cs : List Char) : Bool :=
  cs.length == width && cs.all Char.isDigit &&
    match Text.readBase? 10 cs with
    | some n => low ≤ n && n ≤ high
    | none => false

/-- Year, month and day. -/
def isDate (cs : List Char) : Bool :=
  match Text.splitAll '-' cs with
  | [y, m, d] => isField 4 0 9999 y && isField 2 1 12 m && isField 2 1 31 d
  | _ => false

/-- Hour, minute and second, the second with an optional fraction. -/
def isTime (cs : List Char) : Bool :=
  match Text.splitAll ':' cs with
  | [h, m, s] =>
    isField 2 0 23 h && isField 2 0 59 m &&
      match Text.splitAll '.' s with
      | [s] => isField 2 0 60 s
      | [s, f] => isField 2 0 60 s && !f.isEmpty && f.all Char.isDigit
      | _ => false
  | _ => false

/-- A time with its distance from the universal time, or without. -/
def isZonedTime (cs : List Char) : Bool :=
  let clock (cs : List Char) : Bool :=
    match Text.splitAll ':' cs with
    | [h, m] => isField 2 0 23 h && isField 2 0 59 m
    | _ => false
  match Text.splitFirst? 'z' cs, Text.splitFirst? '+' cs, Text.splitFirst? '-' cs with
  | some (t, r), _, _ => isTime t && r.isEmpty
  | _, some (t, o), _ => isTime t && clock o
  | _, _, some (t, o) => isTime t && clock o
  | _, _, _ => isTime cs

/-- A date, a time, or both. -/
def isMoment (cs : List Char) : Bool :=
  let cs := cs.map Char.toLower
  isDate cs || isTime cs ||
    (isDate (cs.take 10) &&
      match cs.drop 10 with
      | c :: r => (c == 't' || c == ' ') && isZonedTime r
      | [] => false)

/-- The characters of a word. A date and a time may stand apart by one space. -/
def takeWord (cs : List Char) : List Char × List Char :=
  let word := cs.takeWhile isWordChar
  let r := cs.drop word.length
  match r with
  | ' ' :: d :: more =>
    if isDate word && d.isDigit then
      let time := (d :: more).takeWhile isWordChar
      (word ++ ' ' :: time, (d :: more).drop time.length)
    else (word, r)
  | _ => (word, r)

/-- A value without quotes. -/
def readWord? (cs : List Char) : Option (Tree × List Char) :=
  let (word, r) := takeWord cs
  match readInteger? word with
  | some n => some (.number n, r)
  | none =>
    if word == "true".toList || word == "false".toList || isFraction word || isMoment word then
      some (.other, r)
    else none

end ServiceFlow.Toml
