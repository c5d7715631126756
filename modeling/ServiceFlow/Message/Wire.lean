import ServiceFlow.Message.Basic
import ServiceFlow.Wire.Field

/-!
# Messages on the wire

A message is written as up to three fields, its topic, its header and its payload, and the header as
up to fourteen, in the order of their tags. A number 0, an empty text and an empty payload are left out;
the header, and a text that may be absent, are written whenever there is one. A signed number is
written as its 64-bit two's complement.

A reader takes the fields in any order: of a field that comes twice the later counts, and a second
header is read on top of the first. Fields with other tags are passed over.
-/

namespace ServiceFlow

open Text Wire

/-! ## Writing -/

namespace Header

/-- A number, unless it is 0. -/
def numberField (tag n : Nat) : List Field := if n = 0 then [] else [⟨tag, .number n⟩]

/-- A text, unless it is empty. -/
def textField (tag : Nat) (s : String) : List Field :=
  if s.isEmpty then [] else [⟨tag, .bytes (Utf8.encode s)⟩]

/-- A text that may be absent. -/
def optionalField (tag : Nat) (s : Option String) : List Field :=
  s.toList.map fun s => ⟨tag, .bytes (Utf8.encode s)⟩

/-- The two's complement of a signed number. -/
def signed (n : Int32) : Nat := n.toInt64.toUInt64.toNat

/-- The fields of a header. -/
def toFields (h : Header) : List Field :=
  textField 1 h.author ++
  textField 2 h.composition ++
  numberField 3 h.id.toUInt64.toNat ++
  numberField 4 (signed h.action) ++
  optionalField 5 h.state ++
  numberField 6 (signed h.status) ++
  numberField 7 h.severity.toNat ++
  textField 8 h.description ++
  optionalField 9 h.replyTo ++
  textField 10 h.mime ++
  numberField 11 (signed h.location) ++
  numberField 12 (signed h.mode) ++
  numberField 13 h.timeoutMs.toNat ++
  numberField 14 h.executionMs.toNat

/-! ## Reading -/

/-- The signed number of 32 bits in a number on the wire. -/
def readSigned (n : Nat) : Int32 := Int32.ofInt n

/-- The header with one more field, unless the value of the field is of the wrong kind. -/
def addField (h : Header) (f : Field) : Option Header :=
  match f.tag, f.value with
  | 1, .bytes bs => (Utf8.decode? bs).map fun s => { h with author := s }
  | 2, .bytes bs => (Utf8.decode? bs).map fun s => { h with composition := s }
  | 3, .number n => some { h with id := (UInt64.ofNat n).toInt64 }
  | 4, .number n => some { h with action := readSigned n }
  | 5, .bytes bs => (Utf8.decode? bs).map fun s => { h with state := some s }
  | 6, .number n => some { h with status := readSigned n }
  | 7, .number n => some { h with severity := UInt32.ofNat n }
  | 8, .bytes bs => (Utf8.decode? bs).map fun s => { h with description := s }
  | 9, .bytes bs => (Utf8.decode? bs).map fun s => { h with replyTo := some s }
  | 10, .bytes bs => (Utf8.decode? bs).map fun s => { h with mime := s }
  | 11, .number n => some { h with location := readSigned n }
  | 12, .number n => some { h with mode := readSigned n }
  | 13, .number n => some { h with timeoutMs := UInt64.ofNat n }
  | 14, .number n => some { h with executionMs := UInt64.ofNat n }
  | tag, _ => if 1 ≤ tag && tag ≤ 14 then none else some h

end Header

namespace Message

/-- The levels that groups and headers may nest. -/
def nestingLimit : Nat := 100

/-- The fields of a message. -/
def toFields (m : Message) : List Field :=
  Header.textField 1 m.topic.text ++
  [⟨2, .bytes (writeFields m.header.toFields)⟩] ++
  (if m.data.isEmpty then [] else [⟨3, .bytes m.data⟩])

/-- The bytes of a message. -/
def encode (m : Message) : Bytes := writeFields m.toFields

/-- The message with one more field, unless the field is malformed. -/
def addField (m : Message) (f : Field) : Option Message :=
  match f.tag, f.value with
  | 1, .bytes bs => (Utf8.decode? bs).map fun s => { m with topic := ⟨s⟩ }
  | 2, .bytes bs => do
    let fields ← readFields (nestingLimit - 1) bs
    let header ← fields.foldlM Header.addField m.header
    return { m with header := header }
  | 3, .bytes bs => some { m with data := bs }
  | tag, _ => if 1 ≤ tag && tag ≤ 3 then none else some m

/-- The message that the bytes hold. -/
def decode? (bs : Bytes) : Option Message := do
  let fields ← readFields nestingLimit bs
  fields.foldlM addField ⟨⟨""⟩, Header.blank, []⟩

/-- The number of bytes of a message on the wire. -/
def wireSize (m : Message) : Nat := m.encode.length

end Message

end ServiceFlow
