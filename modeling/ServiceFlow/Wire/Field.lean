import ServiceFlow.Wire.Varint

/-!
# Fields on the wire

A message on the wire is a sequence of fields, each a tag from 1 on and a value: a number, a run of
bytes with its length before it, four or eight bytes, or a group of fields up to an end mark with the
same tag. Readers pass over fields that they do not know, so every field has to be well-formed.

* `writeField`, `writeFields` write fields with numbers and runs of bytes.
* `readFields depth` reads a whole sequence of any fields. Groups may nest only so deep.
-/

namespace ServiceFlow.Wire

/-- The value of a field. What no known field holds is kept without its content. -/
inductive FieldValue where
  | number (n : Nat)
  | bytes (bs : Bytes)
  | eightBytes
  | fourBytes
  | group
deriving DecidableEq, Repr

/-- A field on the wire. -/
structure Field where
  tag : Nat
  value : FieldValue
deriving DecidableEq, Repr

/-- A field as written; only numbers and runs of bytes are. -/
def writeField (f : Field) : Bytes :=
  match f.value with
  | .number n => writeVarint (f.tag * 8) ++ writeVarint n
  | .bytes bs => writeVarint (f.tag * 8 + 2) ++ (writeVarint bs.length ++ bs)
  | _ => []

/-- The fields one after the other. -/
def writeFields (fs : List Field) : Bytes := fs.flatMap writeField

/-- The tag and the kind of value of the next field. -/
def readKey (bs : Bytes) : Option (Nat × Nat × Bytes) := do
  let (key, r) ← readVarint bs
  if UInt32.size ≤ key || key < 8 then none else some (key / 8, key % 8, r)

/-- Takes the given number of bytes. -/
def takeBytes (n : Nat) (bs : Bytes) : Option (Bytes × Bytes) :=
  if n ≤ bs.length then some (bs.take n, bs.drop n) else none

/-- Takes a run of bytes with its length before it. -/
def readRun (bs : Bytes) : Option (Bytes × Bytes) := do
  let (n, r) ← readVarint bs
  takeBytes n r

mutual

/-- What follows the value of a field that is passed over, `depth` levels being left. -/
def skipField : Nat → Nat → Nat → Nat → Bytes → Option Bytes
  | 0, _, _, _, _ => none
  | _ + 1, 0, _, _, _ => none
  | fuel + 1, depth + 1, tag, kind, bs =>
    match kind with
    | 0 => (readVarint bs).map (·.2)
    | 1 => (takeBytes 8 bs).map (·.2)
    | 2 => (readRun bs).map (·.2)
    | 3 => skipGroup fuel depth tag bs
    | 5 => (takeBytes 4 bs).map (·.2)
    | _ => none

/-- What follows the end mark of a group. -/
def skipGroup : Nat → Nat → Nat → Bytes → Option Bytes
  | 0, _, _, _ => none
  | fuel + 1, depth, tag, bs => do
    let (t, kind, r) ← readKey bs
    if kind = 4 then (if t = tag then some r else none)
    else do
      let r ← skipField fuel depth t kind r
      skipGroup fuel depth tag r

end

/-- The next field. -/
def readField (depth : Nat) (bs : Bytes) : Option (Field × Bytes) := do
  let (tag, kind, r) ← readKey bs
  match kind with
  | 0 => do
    let (n, r) ← readVarint r
    return (⟨tag, .number n⟩, r)
  | 1 => do
    let (_, r) ← takeBytes 8 r
    return (⟨tag, .eightBytes⟩, r)
  | 2 => do
    let (content, r) ← readRun r
    return (⟨tag, .bytes content⟩, r)
  | 3 => do
    let r ← skipField (2 * bs.length + 2) depth tag 3 r
    return (⟨tag, .group⟩, r)
  | 5 => do
    let (_, r) ← takeBytes 4 r
    return (⟨tag, .fourBytes⟩, r)
  | _ => none

/-- Reads fields to the end of the bytes; each takes one byte at least. -/
def readFieldsFrom (depth : Nat) : Nat → Bytes → Option (List Field)
  | _, [] => some []
  | 0, _ :: _ => none
  | fuel + 1, b :: bs => do
    let (f, r) ← readField depth (b :: bs)
    let fs ← readFieldsFrom depth fuel r
    return f :: fs

/-- The fields that the bytes hold. -/
def readFields (depth : Nat) (bs : Bytes) : Option (List Field) :=
  readFieldsFrom depth bs.length bs

end ServiceFlow.Wire
