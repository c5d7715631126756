import ServiceFlow.Config.Tree
import ServiceFlow.Yaml.Scalar

/-!
# Reading YAML

Model of the part of YAML that configurations are written in: maps and lists by indentation and in
brackets, plain and quoted texts, blocks of lines, and comments, in one document. Anchors, tags,
directives and keys that are no texts are refused.

* The entries of a map stand in one column, as do the dashes of a list. What belongs to an entry stands
  on its line or further right; the list of an entry may also stand in the column of its key.
* A value that is left out is an empty bare text.

A node takes at least one character, so the depth of recursion is bounded by the length of the text.
-/

namespace ServiceFlow.Yaml

/-- A value that is left out. -/
def leftOut : Tree := .bare ""

/-- The tree of a plain text. -/
def bareOf (cs : List Char) : Tree := .bare (String.ofList cs)

/-- A quoted text as a tree. -/
def readQuotedTree? (cs : List Char) : Option (Tree × List Char) :=
  (readQuoted? cs).map fun (text, r) => (.text (String.ofList text), r)

/-! ## Brackets -/

/-- An item ends here. -/
def endsItem (close : Char) : List Char → Bool
  | [] => true
  | c :: _ => c == ',' || c == close

mutual

/-- A node within brackets. -/
def readNode : Nat → List Char → Option (Tree × List Char)
  | 0, _ => none
  | n + 1, cs =>
    match skipInBrackets cs with
    | [] => none
    | c :: r =>
      if c = '[' then do
        let (items, r) ← readItems n r
        return (.list items, r)
      else if c = '\x7b' then do
        let (entries, r) ← readEntries n r
        return (.table entries, r)
      else if c = '"' || c = '\'' then readQuotedTree? (c :: r)
      else if startsPlain true (c :: r) then do
        let (text, r) ← readPlain true 0 (r.length + 2) (c :: r)
        return (bareOf text, r)
      else none

/-- The value after a colon within brackets, which may be left out. -/
def readValue (close : Char) : Nat → List Char → Option (Tree × List Char)
  | 0, _ => none
  | n + 1, cs =>
    let cs := skipInBrackets cs
    if endsItem close cs then some (leftOut, cs) else readNode n cs

/-- The items of a list up to its bracket. An item may be a map of one entry without braces. -/
def readItems : Nat → List Char → Option (List Tree × List Char)
  | 0, _ => none
  | n + 1, cs =>
    match skipInBrackets cs with
    | ']' :: r => some ([], r)
    | cs => do
      let (item, r) ← readNode n cs
      let (item, r) ← match skipInBrackets r with
        | ':' :: r => do
          let (v, r) ← readValue ']' n r
          pure (Tree.table [(← item.text?, v)], skipInBrackets r)
        | r => pure (item, r)
      match r with
      | ']' :: r => return ([item], r)
      | ',' :: r =>
        let (items, r) ← readItems n r
        return (item :: items, r)
      | _ => none

/-- The entries of a map up to its brace. -/
def readEntries : Nat → List Char → Option (List (String × Tree) × List Char)
  | 0, _ => none
  | n + 1, cs =>
    match skipInBrackets cs with
    | '\x7d' :: r => some ([], r)
    | cs => do
      let (key, r) ← readNode n cs
      let key ← key.text?
      let (v, r) ← match skipInBrackets r with
        | ':' :: r => do
          let (v, r) ← readValue '\x7d' n r
          pure (v, skipInBrackets r)
        | r => pure (leftOut, r)
      match r with
      | '\x7d' :: r => return ([(key, v)], r)
      | ',' :: r =>
        let (entries, r) ← readEntries n r
        return ((key, v) :: entries, r)
      | _ => none

end

/-! ## Lines -/

/-- A dash that starts an item comes next. -/
def startsItem : List Char → Bool
  | '-' :: cs => startsBlank cs
  | _ => false

/-- The key of an entry that starts here, and what stands after its colon. A key is a text of one
line. -/
def readKey? (cs : List Char) : Option (String × List Char) := do
  let (key, r) ← match readQuoted? cs with
    | some (text, r) =>
      if (cs.take (cs.length - r.length)).contains '\n' then none
      else pure (text, r.dropWhile isBlank)
    | none =>
      if startsPlain false cs then do
        let (run, r) ← readRun false false cs
        pure (trimEnd run, r)
      else none
  match r with
  | ':' :: r => if startsBlank r then return (String.ofList key, r) else none
  | _ => none

/-- A text, a block of lines or brackets, in columns from `floor` on. -/
def readInline (floor : Nat) (cs : List Char) : Option (Tree × Cursor) :=
  match cs with
  | [] => none
  | c :: r =>
    let closed := Option.map fun (t, r) => (t, (⟨r, 0, false⟩ : Cursor))
    if c = '|' || c = '>' then
      (readBlock? (c == '|') floor r).map fun (text, p) => (.text (String.ofList text), p)
    else if c = '"' || c = '\'' then closed (readQuotedTree? cs)
    else if c = '[' || c = '\x7b' then closed (readNode (2 * cs.length + 2) cs)
    else if startsPlain false cs then
      closed ((readPlain false floor (cs.length + 1) cs).map fun (text, r) => (bareOf text, r))
    else none

/-- What comes after a node: nothing more in this column, or the next of a series. -/
inductive Following where
  | done
  | next (p : Cursor)

/-- Looks for the next entry or item of a series in a column. -/
def following? (column : Nat) (isNext : Cursor → Bool) (p : Cursor) : Option Following :=
  if p.atEnd then some .done
  else if !p.fresh || column < p.column then none
  else if p.column = column && isNext p then some (.next p)
  else some .done

mutual

/-- A node in columns from `floor` on, which may be a map or a list by indentation. -/
def readBlockNode (floor : Nat) : Nat → Cursor → Option (Tree × Cursor)
  | 0, _ => none
  | n + 1, p =>
    if startsItem p.rest then do
      let (items, r) ← readBlockItems p.column n p
      return (.list items, r)
    else if (readKey? p.rest).isSome then do
      let (entries, r) ← readBlockEntries p.column n p
      return (.table entries, r)
    else readInline floor p.rest

/-- The items of a list whose dashes stand in this column; one stands here. -/
def readBlockItems (column : Nat) : Nat → Cursor → Option (List Tree × Cursor)
  | 0, _ => none
  | n + 1, p => do
    let inner := (Cursor.mk (p.rest.drop 1) (column + 1) false).skip
    let (item, r) ←
      if inner.atEnd || (inner.fresh && inner.column ≤ column) then pure (leftOut, inner)
      else readBlockNode (column + 1) n inner
    let r := r.skip
    match ← following? column (fun p => startsItem p.rest) r with
    | .done => return ([item], r)
    | .next p =>
      let (items, r) ← readBlockItems column n p
      return (item :: items, r)

/-- The entries of a map whose keys stand in this column; one stands here. -/
def readBlockEntries (column : Nat) : Nat → Cursor → Option (List (String × Tree) × Cursor)
  | 0, _ => none
  | n + 1, p => do
    let (key, rest) ← readKey? p.rest
    let inner := (Cursor.mk rest (column + 1) false).skip
    let (v, r) ←
      if inner.atEnd then pure (leftOut, inner)
      else if !inner.fresh then readInline (column + 1) inner.rest
      else if column < inner.column then readBlockNode (column + 1) n inner
      else if inner.column = column && startsItem inner.rest then do
        let (items, r) ← readBlockItems column n inner
        pure (Tree.list items, r)
      else pure (leftOut, inner)
    let r := r.skip
    match ← following? column (fun _ => true) r with
    | .done => return ([(key, v)], r)
    | .next p =>
      let (entries, r) ← readBlockEntries column n p
      return ((key, v) :: entries, r)

end

/-! ## Documents -/

/-- The characters with one kind of line break and without a mark of the byte order. -/
def normalize : List Char → List Char
  | [] => []
  | '\r' :: '\n' :: cs => '\n' :: normalize cs
  | c :: cs => (if c = '\r' || c = '\u0085' then '\n' else c) :: normalize cs

/-- A character that a text may hold unescaped. -/
def isPrintable (c : Char) : Bool :=
  let n := c.toNat
  c == '\t' || c == '\n' || (0x20 ≤ n && n ≤ 0x7E) || (0xA0 ≤ n && n ≤ 0xFFFD && n != 0xFEFF) ||
    0x10000 ≤ n

/-- The only document of a text. -/
def readDocument? (p : Cursor) : Option Tree := do
  let p := p.skip
  let start := if p.isMark "---" then (Cursor.mk (p.rest.drop 3) 3 false).skip else p
  if start.atEnd then none
  let (t, r) ←
    if start.fresh then readBlockNode 0 (2 * start.rest.length + 2) start
    else readInline 0 start.rest
  let r := r.skip
  let r := if r.isMark "..." then (Cursor.mk (r.rest.drop 3) 3 false).skip else r
  if r.rest.isEmpty then some t else none

/-- The tree that a text holds. -/
def parse? (s : String) : Option Tree :=
  let cs := match s.toList with
    | '\ufeff' :: cs => normalize cs
    | cs => normalize cs
  if cs.all isPrintable then readDocument? ⟨cs, 0, true⟩ else none

end ServiceFlow.Yaml
