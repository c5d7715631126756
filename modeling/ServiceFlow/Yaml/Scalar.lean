import ServiceFlow.Text.Digits
import ServiceFlow.Text.Split

/-!
# YAML scalars

Model of the four ways to write a text in YAML: plain, in single or double quotes, and as a block of
lines below `|` or `>`.

* A text may run over lines. In plain and quoted texts the blanks around a line break are dropped; one
  break is a space, and of several the first is dropped.
* In a block below `>` a break between two lines that do not start with a blank is folded like this; all
  others are kept. What ends the block is kept once, or never after `-`, or in full after `+`.
* A plain text ends before `: `, before ` #`, and within brackets also before `,[]` and braces.

Each reader takes the characters from a position on and gives what stands after the text.
-/

namespace ServiceFlow.Yaml

/-- A position: the characters from there, the column, and whether only blanks stand before it on its
line. -/
structure Cursor where
  rest : List Char
  column : Nat
  fresh : Bool

/-- A blank within a line. -/
def isBlank (c : Char) : Bool := c == ' ' || c == '\t'

/-- A blank, a line break or the end comes next. -/
def startsBlank : List Char → Bool
  | [] => true
  | c :: _ => isBlank c || c == '\n'

/-- The characters without blanks at the end. -/
def trimEnd (cs : List Char) : List Char := (cs.reverse.dropWhile isBlank).reverse

/-! ## Positions -/

/-- The next position with a character on it, comments and line breaks passed over. A tab is passed over
within brackets or after something on its line. -/
def skipFrom (inBrackets comment : Bool) (column : Nat) (fresh : Bool) : List Char → Cursor
  | [] => ⟨[], column, fresh⟩
  | c :: cs =>
    if c = '\n' then skipFrom inBrackets false 0 true cs
    else if comment then skipFrom inBrackets true column fresh cs
    else if c = ' ' || (c = '\t' && (inBrackets || !fresh)) then
      skipFrom inBrackets false (column + 1) fresh cs
    else if c = '#' then skipFrom inBrackets true column fresh cs
    else ⟨c :: cs, column, fresh⟩

/-- The next position from which a node, a key or a mark starts. -/
def Cursor.skip (p : Cursor) : Cursor := skipFrom false false p.column p.fresh p.rest

/-- What comes next within brackets. -/
def skipInBrackets (cs : List Char) : List Char := (skipFrom true false 0 false cs).rest

/-- The line starts with this mark. -/
def Cursor.isMark (p : Cursor) (mark : String) : Bool :=
  p.fresh && p.column == 0 &&
    match Text.after? mark.toList p.rest with
    | some r => startsBlank r
    | none => false

/-- The document ends. -/
def Cursor.atEnd (p : Cursor) : Bool := p.rest.isEmpty || p.isMark "---" || p.isMark "..."

/-! ## Line breaks within texts -/

/-- What separates two pieces of a text: blanks of one line, or line breaks, of which the first may be
escaped. -/
inductive Gap where
  | blanks (cs : List Char)
  | breaks (count : Nat)
  | escaped (count : Nat)

/-- The gap with a further blank. -/
def Gap.blank (c : Char) : Gap → Gap
  | .blanks cs => .blanks (cs ++ [c])
  | g => g

/-- The gap with a further line break. -/
def Gap.newline : Gap → Gap
  | .blanks _ => .breaks 1
  | .breaks n => .breaks (n + 1)
  | .escaped n => .escaped (n + 1)

/-- What a gap counts as. -/
def Gap.text : Gap → List Char
  | .blanks cs => cs
  | .breaks 1 => [' ']
  | .breaks n => List.replicate (n - 1) '\n'
  | .escaped n => List.replicate n '\n'

/-! ## Quoted texts -/

/-- The text after a single quote. -/
def readSingle (gap : Gap) : List Char → Option (List Char × List Char)
  | [] => none
  | '\'' :: '\'' :: cs => do
    let (text, r) ← readSingle (.blanks []) cs
    return (gap.text ++ '\'' :: text, r)
  | c :: cs =>
    if c = '\'' then some (gap.text, cs)
    else if c = '\n' then readSingle gap.newline cs
    else if isBlank c then readSingle (gap.blank c) cs
    else do
      let (text, r) ← readSingle (.blanks []) cs
      return (gap.text ++ c :: text, r)

/-- The character of an escape of one letter. -/
def escape? : Char → Option Char
  | '0' => some '\x00'
  | 'a' => some '\x07'
  | 'b' => some '\x08'
  | 't' | '\t' => some '\t'
  | 'n' => some '\n'
  | 'v' => some '\x0b'
  | 'f' => some '\x0c'
  | 'r' => some '\r'
  | 'e' => some '\x1b'
  | ' ' => some ' '
  | '"' => some '"'
  | '/' => some '/'
  | '\\' => some '\\'
  | 'N' => some '\u0085'
  | '_' => some '\u00a0'
  | 'L' => some '\u2028'
  | 'P' => some '\u2029'
  | _ => none

/-- How many digits follow the letter of a numeric escape. -/
def escapeWidth? : Char → Option Nat
  | 'x' => some 2
  | 'u' => some 4
  | 'U' => some 8
  | _ => none

/-- The text after a double quote. -/
def readDouble : Nat → Gap → List Char → Option (List Char × List Char)
  | 0, _, _ => none
  | _ + 1, _, [] => none
  | n + 1, gap, '\\' :: e :: cs =>
    if e = '\n' then do
      let (text, r) ← readDouble n (.escaped 0) cs
      return (gap.text ++ text, r)
    else
      match escapeWidth? e with
      | some width => do
        let c ← Text.readCode? width cs
        let (text, r) ← readDouble n (.blanks []) (cs.drop width)
        return (gap.text ++ c :: text, r)
      | none => do
        let c ← escape? e
        let (text, r) ← readDouble n (.blanks []) cs
        return (gap.text ++ c :: text, r)
  | n + 1, gap, c :: cs =>
    if c = '"' then some (gap.text, cs)
    else if c = '\n' then readDouble n gap.newline cs
    else if isBlank c then readDouble n (gap.blank c) cs
    else do
      let (text, r) ← readDouble n (.blanks []) cs
      return (gap.text ++ c :: text, r)

/-- A quoted text, if one starts here. -/
def readQuoted? : List Char → Option (List Char × List Char)
  | '\'' :: cs => readSingle (.blanks []) cs
  | '"' :: cs => readDouble (cs.length + 1) (.blanks []) cs
  | _ => none

/-! ## Plain texts -/

/-- The characters that start something else than a plain text. -/
def indicators : List Char := ",[]\x7b\x7d#&*!|>'\"%@`".toList

/-- The characters that end a plain text within brackets. -/
def bracketMarks : List Char := ",[]\x7b\x7d".toList

/-- A plain text may start here. -/
def startsPlain (inBrackets : Bool) : List Char → Bool
  | [] => false
  | c :: cs =>
    if c = '-' then !startsBlank cs
    else if c = '?' || c = ':' then !inBrackets && !startsBlank cs
    else !startsBlank [c] && !indicators.contains c

/-- The plain characters of one line, and what ends them. A colon before a mark of brackets is an error
within these. -/
def readRun (inBrackets blankBefore : Bool) : List Char → Option (List Char × List Char)
  | [] => some ([], [])
  | c :: cs =>
    let clash := match cs with
      | d :: _ => inBrackets && c == ':' && (d == '?' || bracketMarks.contains d)
      | [] => false
    if c = '\n' || (c = ':' && startsBlank cs) || (c = '#' && blankBefore) ||
        (inBrackets && bracketMarks.contains c) then
      some ([], c :: cs)
    else if clash then none
    else do
      let (run, r) ← readRun inBrackets (isBlank c) cs
      return (c :: run, r)

/-- The line breaks from here on, the column of the next character, and what starts there. -/
def readBreaks (count column : Nat) : List Char → Nat × Nat × List Char
  | [] => (count, column, [])
  | c :: cs =>
    if c = '\n' then readBreaks (count + 1) 0 cs
    else if c = ' ' then readBreaks count (column + 1) cs
    else (count, column, c :: cs)

/-- A plain text that continues on lines from the column `floor` on. -/
def readPlain (inBrackets : Bool) (floor : Nat) : Nat → List Char → Option (List Char × List Char)
  | 0, _ => none
  | n + 1, cs => do
    let (run, r) ← readRun inBrackets false cs
    let run := trimEnd run
    let (count, column, next) := readBreaks 0 0 r
    let next := next.dropWhile fun c => c == '\t' && (inBrackets || floor ≤ column)
    let inReach := count != 0 && (inBrackets || floor ≤ column)
    let goesOn := inReach && !(Cursor.mk next column true).atEnd &&
      match next with
      | [] => false
      | c :: after => c != '#' && !(c == ':' && startsBlank after) && !startsBlank [c] &&
          !(inBrackets && bracketMarks.contains c)
    if goesOn then do
      let (text, r) ← readPlain inBrackets floor n next
      return (run ++ (Gap.breaks count).text ++ text, r)
    else return (run, r)

/-! ## Blocks of lines -/

/-- How the end of a block is kept. -/
inductive Ending where
  | strip
  | clip
  | keep

/-- What stands after `|` or `>`: the ending, and the depth of the lines if it is given. -/
def readHeader? : List Char → Option (Ending × Option Nat)
  | [] => some (.clip, none)
  | c :: cs =>
    let ending? (c : Char) : Option Ending :=
      if c = '-' then some .strip else if c = '+' then some .keep else none
    let depth? (c : Char) : Option Nat :=
      if c.isDigit && c != '0' then some (c.toNat - '0'.toNat) else none
    match ending? c, depth? c, cs with
    | some e, _, d :: _ => some (e, depth? d)
    | some e, _, [] => some (e, none)
    | none, some d, e :: _ => some ((ending? e).getD .clip, some d)
    | none, some d, [] => some (.clip, some d)
    | none, none, _ => some (.clip, none)

/-- The header line holds nothing else but a comment. -/
def isHeader (cs : List Char) : Bool :=
  let marks := cs.takeWhile fun c => c == '-' || c == '+' || c.isDigit
  let r := cs.drop marks.length
  (marks.length ≤ 1 || (marks.length == 2 && (marks.filter Char.isDigit).length == 1)) &&
    !marks.contains '0' &&
    match r.dropWhile isBlank with
    | [] => true
    | c :: _ => c == '#'

/-- The number of spaces at the start of a line. -/
def depthOf (line : List Char) : Nat := (line.takeWhile (· == ' ')).length

/-- The depth of a block that gives none: that of its first line with a text on it, or of a deeper
line of spaces before. -/
def findDepth (deepest : Nat) : List (List Char) → Nat
  | [] => deepest
  | line :: rest =>
    let deepest := max deepest (depthOf line)
    if depthOf line = line.length then findDepth deepest rest else deepest

/-- What stands between two lines of a block. `before` and `after` are the lines of text, the first none
at the start, and `empty` the number of empty lines between them. -/
def joinLines (literal : Bool) (before : Option (List Char)) (empty : Nat) (after : List Char) :
    List Char :=
  match before with
  | none => List.replicate empty '\n'
  | some line =>
    if !literal && !startsBlank line && !startsBlank after then (Gap.breaks (empty + 1)).text
    else List.replicate (empty + 1) '\n'

/-- The end of a block after so many empty lines. `broken` tells that the last line of text has a line
break. -/
def Ending.text (ending : Ending) (before : Option (List Char)) (broken : Bool) (empty : Nat) :
    List Char :=
  match ending, before with
  | .strip, _ => []
  | .clip, none => []
  | .clip, some _ => if broken then ['\n'] else []
  | .keep, none => List.replicate empty '\n'
  | .keep, some _ => if broken then List.replicate (empty + 1) '\n' else []

/-- The text of a block of lines at this depth, and the lines after it. The last of all lines is the one
without a line break. -/
def readLines (literal : Bool) (ending : Ending) (depth : Nat) (before : Option (List Char))
    (empty : Nat) : List (List Char) → List Char × List (List Char)
  | [] => (ending.text before false empty, [])
  | line :: rest =>
    if line.length ≤ depth && depthOf line = line.length then
      if rest.isEmpty then (ending.text before true empty, [])
      else readLines literal ending depth before (empty + 1) rest
    else if depthOf line < depth then (ending.text before true empty, line :: rest)
    else
      let content := line.drop depth
      let (text, r) := readLines literal ending depth (some content) 0 rest
      (joinLines literal before empty content ++ content ++ text, r)

/-- The block of lines after `|` or `>`, for a node that starts at the column `floor` at least. -/
def readBlock? (literal : Bool) (floor : Nat) (cs : List Char) : Option (List Char × Cursor) :=
  match Text.splitAll '\n' cs with
  | [] => none
  | header :: lines =>
    if isHeader header then do
      let (ending, depth?) ← readHeader? header
      let depth := match depth? with
        | some d => (floor - 1) + d
        | none => max (findDepth 0 lines) (max floor 1)
      let (text, rest) := readLines literal ending depth none 0 lines
      return (text, ⟨Text.joinWith '\n' rest, 0, true⟩)
    else none

end ServiceFlow.Yaml
