import ServiceFlow.Toml.Table
import ServiceFlow.Toml.Value

/-!
# Reading TOML

Model of TOML files: lines of headers, of keys with values, and of comments.

* A value may also be a list in brackets, over several lines, or a table in braces on one line.
* `Toml.parse?` gives the table that all lines together fill, if every line is well-formed.
-/

namespace ServiceFlow.Toml

/-! ## Keys -/

/-- One part of a key. -/
def readKeyPart? (cs : List Char) : Option (String × List Char) :=
  match cs with
  | '"' :: r => (readLineText '"' (r.length + 1) r).map fun (text, r) => (String.ofList text, r)
  | '\'' :: r => (readLineText '\'' (r.length + 1) r).map fun (text, r) => (String.ofList text, r)
  | _ =>
    let word := cs.takeWhile isKeyChar
    if word.isEmpty then none else some (String.ofList word, cs.drop word.length)

/-- A key with dots: the parts before the last, and the last. -/
def readKey : Nat → List Char → Option ((List String × String) × List Char)
  | 0, _ => none
  | n + 1, cs => do
    let (part, r) ← readKeyPart? (skipBlanks cs)
    match skipBlanks r with
    | '.' :: r => do
      let ((path, last), r) ← readKey n r
      return ((part :: path, last), r)
    | r => return (([], part), r)

/-- A key and the sign that its value comes next. -/
def readAssigned (cs : List Char) : Option ((List String × String) × List Char) := do
  match ← readKey (cs.length + 1) cs with
  | (key, '=' :: r) => return (key, skipBlanks r)
  | _ => none

/-! ## Values -/

mutual

/-- A value. -/
def readValue : Nat → List Char → Option (Tree × List Char)
  | 0, _ => none
  | _ + 1, [] => none
  | n + 1, c :: cs =>
    if c = '"' || c = '\'' then (readText c cs).map fun (s, r) => (.text s, r)
    else if c = '[' then do
      let (items, r) ← readItems n cs
      return (.list items, r)
    else if c = '\x7b' then
      match skipBlanks cs with
      | '\x7d' :: r => some (.table [], r)
      | cs => do
        let (entries, r) ← readEntries n [] cs
        return (.table (treesOf entries), r)
    else readWord? (c :: cs)

/-- The items of a list up to its bracket. -/
def readItems : Nat → List Char → Option (List Tree × List Char)
  | 0, _ => none
  | n + 1, cs =>
    match skipLines (cs.length + 1) cs with
    | ']' :: r => some ([], r)
    | cs => do
      let (v, r) ← readValue n cs
      match skipLines (r.length + 1) r with
      | ']' :: r => return ([v], r)
      | ',' :: r =>
        let (vs, r) ← readItems n r
        return (v :: vs, r)
      | _ => none

/-- The entries of a table up to its brace; there is at least one more. -/
def readEntries : Nat → Entries → List Char → Option (Entries × List Char)
  | 0, _, _ => none
  | n + 1, entries, cs => do
    let ((path, key), r) ← readAssigned cs
    let (v, r) ← readValue n r
    let entries ← assign path key v .header entries
    match skipBlanks r with
    | '\x7d' :: r => return (entries, r)
    | ',' :: r => readEntries n entries r
    | _ => none

end

/-! ## Lines -/

/-- The whole file so far, and the path of the last header. -/
structure Document where
  entries : Entries
  header : List String

/-- A header after its bracket, in single or double brackets. -/
def readHeader (d : Document) (cs : List Char) : Option (Document × List Char) :=
  match cs with
  | '[' :: r => do
    match ← readKey (r.length + 1) r with
    | ((path, key), ']' :: ']' :: r) =>
      return (⟨← atHeader path (fun _ => openRow? key) d.entries, path ++ [key]⟩, r)
    | _ => none
  | r => do
    match ← readKey (r.length + 1) r with
    | ((path, key), ']' :: r) =>
      return (⟨← atHeader path (fun _ => open? key) d.entries, path ++ [key]⟩, r)
    | _ => none

/-- One line that is not empty. -/
def readLine (d : Document) (cs : List Char) : Option (Document × List Char) :=
  match cs with
  | '[' :: r => readHeader d r
  | _ => do
    let ((path, key), r) ← readAssigned cs
    let (v, r) ← readValue (r.length + 1) r
    return ({ d with entries := ← atHeader d.header (assign path key v) d.entries }, r)

/-- All lines. -/
def readLines : Nat → Document → List Char → Option Document
  | 0, _, _ => none
  | n + 1, d, cs =>
    let cs := skipLines (cs.length + 1) cs
    if cs.isEmpty then some d
    else do
      let (d, r) ← readLine d cs
      readLines n d (← endLine? r)

/-- The tree that a text holds. -/
def parse? (s : String) : Option Tree :=
  let cs := match s.toList with
    | '\ufeff' :: cs => cs
    | cs => cs
  (readLines (cs.length + 1) ⟨[], []⟩ cs).map fun d => .table (treesOf d.entries)

end ServiceFlow.Toml
