import ServiceFlow.Config.Basic
import ServiceFlow.Json.Fields
import ServiceFlow.Text.Digits

/-!
# Configurations as trees

A file of any format holds a tree of tables and lists over texts and numbers, and a configuration is
read off that tree.

* A `bare` text is one without quotes in a format that leaves open what it is: it counts as a text, as
  a number or as nothing, whichever is asked for.
* `Reading` says what a format allows beyond tables, lists, texts and numbers.
* `Config.ofTree?` takes the known fields of a table. Unknown ones are passed over; a known one given
  twice, missing without a default, or of another kind than asked for, spoils the tree.
-/

namespace ServiceFlow

/-- What a file holds. A value of a kind that no setting has is `other`. -/
inductive Tree where
  | nothing
  | bare (text : String)
  | text (text : String)
  | number (value : Int)
  | other
  | list (items : List Tree)
  | table (entries : List (String × Tree))
deriving Inhabited

/-- Whether the fields of a table may be given as a list of values in their order. -/
inductive RowRule where
  | never
  | whole
  | leading
deriving DecidableEq

/-- What a format allows beyond tables, lists, texts and numbers. -/
structure Reading where
  /-- A table may be given as the list of its values: as no more of them than fields, or as any
  number of which those beyond the fields do not count. -/
  rows : RowRule
  /-- An empty text stands for an empty list and an empty table. -/
  emptyText : Bool
  /-- What stands beside a word, if a choice of that word may be given as a table. -/
  beside : Tree → Bool

/-- A field of a table: its value, or where it was expected. The end of a list is passed by all the
fields after its last value. -/
inductive Slot where
  | given (value : Tree)
  | missing
  | passed

/-! ## Numbers without quotes -/

/-- A number without a sign: hexadecimal after `0x`, octal after `0o`, binary after `0b`, or decimal
without leading zeros. -/
def readBareNat? (cs : List Char) : Option Nat :=
  let cs := match cs with
    | '+' :: r => r
    | _ => cs
  match cs with
  | '0' :: 'x' :: r => Text.readBase? 16 r
  | '0' :: 'o' :: r => Text.readBase? 8 r
  | '0' :: 'b' :: r => Text.readBase? 2 r
  | ['0'] => some 0
  | '0' :: _ => none
  | _ => Text.readBase? 10 cs

/-- The bare texts that stand for nothing. -/
def emptyWords : List String := ["", "~", "null", "Null", "NULL"]

namespace Tree

/-! ## Values -/

/-- The entries whose key does not come again. -/
def lastEntries : List (String × Tree) → List (String × Tree)
  | [] => []
  | e :: rest => if rest.any (·.1 == e.1) then lastEntries rest else e :: lastEntries rest

mutual

/-- A JSON value as a tree; of repeated members the last counts. -/
def ofJson : Json → Tree
  | .null => .nothing
  | .int n => .number n
  | .str s => .text s
  | .arr items => .list (ofItems items)
  | .obj members => .table (lastEntries (ofMembers members))
  | .bool _ => .other
  | .decimal _ => .other

/-- The items of an array as trees. -/
def ofItems : List Json → List Tree
  | [] => []
  | v :: vs => ofJson v :: ofItems vs

/-- The members of an object as trees. -/
def ofMembers : List (String × Json) → List (String × Tree)
  | [] => []
  | (key, v) :: ms => (key, ofJson v) :: ofMembers ms

end

/-- A text. -/
def text? : Tree → Option String
  | .text s | .bare s => some s
  | _ => none

/-- A number of at most `max`. -/
def nat? (max : Nat) : Tree → Option Nat
  | .number n => if 0 ≤ n ∧ n ≤ max then some n.toNat else none
  | .bare s => (readBareNat? s.toList).filter (· ≤ max)
  | _ => none

/-- Nothing is there. -/
def isNothing : Tree → Bool
  | .nothing => true
  | .bare s => emptyWords.contains s
  | _ => false

/-- An empty text. -/
def isEmptyText : Tree → Bool
  | .text s | .bare s => s.isEmpty
  | _ => false

/-- A list. -/
def items? (rules : Reading) : Tree → Option (List Tree)
  | .list items => some items
  | t => if rules.emptyText && t.isEmptyText then some [] else none

/-- The values of a field among entries, of which there may be one at most. -/
def slotOf? (entries : List (String × Tree)) (field : String) : Option Slot :=
  match entries.filter (·.1 == field) with
  | [] => some .missing
  | [(_, v)] => some (.given v)
  | _ => none

/-- The slots of a list of values. -/
def slotsOf (fields : List String) (items : List Tree) : List Slot :=
  (items.map Slot.given ++ fields.map fun _ => Slot.passed).take fields.length

/-- The known fields of a table, in their order. -/
def slots? (rules : Reading) (fields : List String) : Tree → Option (List Slot)
  | .table entries => fields.mapM (slotOf? entries)
  | .list items =>
    match rules.rows with
    | .never => none
    | .whole => if items.length ≤ fields.length then some (slotsOf fields items) else none
    | .leading => some (slotsOf fields items)
  | t => if rules.emptyText && t.isEmptyText then some (fields.map fun _ => .missing) else none

/-- A word for one of a few choices. -/
def choice? {α : Type} (rules : Reading) (read : String → Option α) : Tree → Option α
  | .table [(word, v)] => if rules.beside v then read word else none
  | t => t.text?.bind read

end Tree

namespace Slot

variable {α : Type}

/-- A field that has to be given. -/
def required (read : Tree → Option α) : Slot → Option α
  | .given v => read v
  | _ => none

/-- A field that may be missing or nothing. -/
def optional (read : Tree → Option α) : Slot → Option (Option α)
  | .given v => if v.isNothing then some none else (read v).map some
  | .missing => some none
  | .passed => none

/-- A field that may be missing. -/
def orElse (default : α) (read : Tree → Option α) : Slot → Option α
  | .given v => read v
  | _ => some default

/-- A word of 64 bits. -/
def word? (s : Slot) : Option (Option UInt64) :=
  s.optional fun t => (t.nat? (UInt64.size - 1)).map UInt64.ofNat

end Slot

/-! ## Sections -/

/-- The section of a DPE. -/
def DpeSection.ofTree? (rules : Reading) (t : Tree) : Option DpeSection := do
  match ← t.slots? rules
      ["host", "port", "lang", "front_end", "pool_size", "barrier_ttl_secs", "queue_capacity"] with
  | [host, port, lang, frontEnd, poolSize, barrierTtl, queueCapacity] =>
    return ⟨← host.required Tree.text?,
      ← port.optional fun t => (t.nat? (UInt16.size - 1)).map UInt16.ofNat,
      ← lang.required (Tree.choice? rules Lang.ofText?), ← frontEnd.optional Tree.text?,
      ← poolSize.word?, ← barrierTtl.word?, ← queueCapacity.word?⟩
  | _ => none

/-- The section of a service. -/
def ServiceSection.ofTree? (rules : Reading) (t : Tree) : Option ServiceSection := do
  match ← t.slots? rules ["engine", "engine_type", "pool_size", "description"] with
  | [engine, engineType, poolSize, description] =>
    return ⟨← engine.required Tree.text?, ← engineType.required Tree.text?, ← poolSize.word?,
      ← description.orElse "" Tree.text?⟩
  | _ => none

/-- The section of a container. -/
def ContainerSection.ofTree? (rules : Reading) (t : Tree) : Option ContainerSection := do
  match ← t.slots? rules ["name", "description", "services"] with
  | [name, description, services] =>
    return ⟨← name.required Tree.text?, ← description.orElse "" Tree.text?,
      ← services.orElse [] fun t => do (← t.items? rules).mapM (ServiceSection.ofTree? rules)⟩
  | _ => none

/-- The section of a request. -/
def RequestSection.ofTree? (rules : Reading) (t : Tree) : Option RequestSection := do
  match ← t.slots? rules ["composition", "input", "timeout_ms"] with
  | [composition, input, timeoutMs] =>
    return ⟨← composition.required Tree.text?, ← input.required Tree.text?, ← timeoutMs.word?⟩
  | _ => none

/-- The configuration that a tree holds. -/
def Config.ofTree? (rules : Reading) (t : Tree) : Option Config := do
  match ← t.slots? rules ["dpe", "containers", "request"] with
  | [dpe, containers, request] =>
    return ⟨← dpe.required (DpeSection.ofTree? rules),
      ← containers.orElse [] fun t => do (← t.items? rules).mapM (ContainerSection.ofTree? rules),
      ← request.optional (RequestSection.ofTree? rules)⟩
  | _ => none

/-- JSON: tables may be given as lists, and a choice as the only key of a table beside null. -/
def Reading.json : Reading := ⟨.whole, false, fun t => match t with | .nothing => true | _ => false⟩

/-- The configuration that a JSON value holds. -/
def Config.ofJson? (j : Json) : Option Config := Config.ofTree? .json (.ofJson j)

end ServiceFlow
