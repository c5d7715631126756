import ServiceFlow.Message.Wire
import ServiceFlow.Proofs.Text.Utf8
import ServiceFlow.Proofs.Wire.Fields

/-!
# Messages read back

Whatever a message holds, a reader takes the same message from its bytes: any texts, numbers of any
sign, choices that nothing is known of, texts that are there but empty. The writer leaves out what a
reader puts in anyway, and the reader goes through the fields in the order in which they were written,
so after each field the header read so far is the one written, as far as it goes.

A run of bytes is written with its length, which is a number of 64 bits. So the statements are about
messages that take less than `2 ^ 64` bytes, as all do that fit into a memory.

* `Takes`: what reading some fields makes of what was read before.
* `Header.takes_toFields`, `Message.takes_toFields`: the fields of a header and of a message.
* `Message.WireForm`: what is written of a message, and what is left out; `Message.wireForm_encode`.
* `Message.written_and_read_back`: the reader takes back what was written, in that form.
-/

namespace ServiceFlow

open Text Wire

/-! ## Reading one field after the other -/

section Reading

variable {α : Type} {add : α → Field → Option α} {a b c : α} {p q : List Field}

/-- Adding the fields to `a` gives `b`. -/
def Takes (add : α → Field → Option α) (fields : List Field) (a b : α) : Prop :=
  fields.foldlM add a = some b

theorem Takes.append (hp : Takes add p a b) (hq : Takes add q b c) : Takes add (p ++ q) a c := by
  unfold Takes at *
  rw [List.foldlM_append, hp]
  exact hq

theorem takes_single {f : Field} (h : add a f = some b) : Takes add [f] a b := by
  unfold Takes
  rw [List.foldlM_cons, h]
  rfl

/-- A text that is left out if it is empty. Nothing is lost if `a` has an empty text in its place. -/
theorem takes_textField (tag : Nat) (put : α → String → α)
    (hput : ∀ bs, add a ⟨tag, .bytes bs⟩ = (Utf8.decode? bs).map (put a)) (hempty : put a "" = a)
    (s : String) : Takes add (Header.textField tag s) a (put a s) := by
  unfold Header.textField
  split
  · rename_i hs
    rw [String.isEmpty_iff.mp hs, hempty]
    rfl
  · exact takes_single (by rw [hput, Utf8.decode?_encode]; rfl)

/-- A number that is left out if it is 0. -/
theorem takes_numberField (tag : Nat) (put : α → Nat → α)
    (hput : ∀ n, add a ⟨tag, .number n⟩ = some (put a n)) (hzero : put a 0 = a) (n : Nat) :
    Takes add (Header.numberField tag n) a (put a n) := by
  unfold Header.numberField
  split
  · rename_i hn
    rw [hn, hzero]
    rfl
  · exact takes_single (hput n)

/-- A text that may be absent. -/
theorem takes_optionalField (tag : Nat) (put : α → Option String → α)
    (hput : ∀ bs, add a ⟨tag, .bytes bs⟩ = (Utf8.decode? bs).map fun s => put a (some s))
    (hnone : put a none = a) (s : Option String) :
    Takes add (Header.optionalField tag s) a (put a s) := by
  cases s with
  | none => exact congrArg some hnone.symm
  | some s => exact takes_single (by rw [hput, Utf8.decode?_encode]; rfl)

end Reading

/-! ## Headers -/

namespace Header

/-- The two's complement of 64 bits is that of 32 bits with the sign repeated. -/
theorem signed_eq (n : Int32) :
    signed n =
      n.toBitVec.toNat + if n.toBitVec.msb = true then UInt64.size - UInt32.size else 0 := by
  have hbits : signed n = (n.toBitVec.signExtend 64).toNat := rfl
  have hlow : (n.toBitVec.setWidth 64).toNat = n.toBitVec.toNat := by
    have hlt := n.toBitVec.isLt
    rw [BitVec.toNat_setWidth]
    exact Nat.mod_eq_of_lt (by omega)
  rw [hbits, BitVec.toNat_signExtend, hlow]

theorem readSigned_signed (n : Int32) : readSigned (signed n) = n := by
  have hmod : signed n % UInt32.size = n.toBitVec.toNat := by
    have hlt := n.toBitVec.isLt
    have h32 : UInt32.size = 4294967296 := rfl
    have h64 : UInt64.size = 18446744073709551616 := rfl
    rw [signed_eq, h64, h32]
    split <;> omega
  unfold readSigned
  rw [← Int32.toBitVec_inj, Int32.toBitVec_ofInt, BitVec.ofInt_natCast]
  exact BitVec.eq_of_toNat_eq ((BitVec.toNat_ofNat _ _).trans hmod)

theorem signed_eq_zero {n : Int32} : signed n = 0 ↔ n = 0 := by
  constructor
  · intro h
    rw [← readSigned_signed n, h]
    rfl
  · rintro rfl
    rfl

theorem signed_lt (n : Int32) : signed n < UInt64.size := n.toInt64.toUInt64.toNat_lt

/-- The highest bit of a negative number is set, so it takes ten bytes. -/
theorem length_signed {n : Int32} (h : n < 0) : (writeVarint (signed n)).length = 10 := by
  have hmsb : n.toBitVec.msb = true := by
    have hneg := Int32.lt_iff_toInt_lt.mp h
    rw [BitVec.msb_eq_toInt]
    simpa using hneg
  have hlow : capacity 9 ≤ signed n := by
    have hcapacity : capacity 9 ≤ UInt64.size - UInt32.size := by decide
    rw [signed_eq, if_pos hmsb]
    exact Nat.le_trans hcapacity (Nat.le_add_left _ _)
  have hhigh : signed n < capacity 10 := Nat.lt_trans (signed_lt n) (by decide)
  exact length_writeVarint (Or.inr hlow) hhigh

/-- The reader goes from the blank header to the one written, one field at a time. -/
theorem takes_toFields (h : Header) : Takes addField h.toFields blank h := by
  have author : Takes addField (textField 1 h.author) blank { blank with author := h.author } :=
    takes_textField 1 (fun (g : Header) s => { g with author := s }) (fun _ => rfl) rfl h.author
  have toState := ((((author.append
    (takes_textField 2 (fun g s => { g with composition := s }) (fun _ => rfl) rfl
      h.composition)).append
    (takes_numberField 3 (fun g n => { g with id := (UInt64.ofNat n).toInt64 }) (fun _ => rfl) rfl
      h.id.toUInt64.toNat)).append
    (takes_numberField 4 (fun g n => { g with action := readSigned n }) (fun _ => rfl) rfl
      (signed h.action))).append
    (takes_optionalField 5 (fun g s => { g with state := s }) (fun _ => rfl) rfl h.state))
  have toMime := (((((toState.append
    (takes_numberField 6 (fun g n => { g with status := readSigned n }) (fun _ => rfl) rfl
      (signed h.status))).append
    (takes_numberField 7 (fun g n => { g with severity := UInt32.ofNat n }) (fun _ => rfl) rfl
      h.severity.toNat)).append
    (takes_textField 8 (fun g s => { g with description := s }) (fun _ => rfl) rfl
      h.description)).append
    (takes_optionalField 9 (fun g s => { g with replyTo := s }) (fun _ => rfl) rfl
      h.replyTo)).append
    (takes_textField 10 (fun g s => { g with mime := s }) (fun _ => rfl) rfl h.mime))
  have toEnd := ((((toMime.append
    (takes_numberField 11 (fun g n => { g with location := readSigned n }) (fun _ => rfl) rfl
      (signed h.location))).append
    (takes_numberField 12 (fun g n => { g with mode := readSigned n }) (fun _ => rfl) rfl
      (signed h.mode))).append
    (takes_numberField 13 (fun g n => { g with timeoutMs := UInt64.ofNat n }) (fun _ => rfl) rfl
      h.timeoutMs.toNat)).append
    (takes_numberField 14 (fun g n => { g with executionMs := UInt64.ofNat n }) (fun _ => rfl) rfl
      h.executionMs.toNat))
  simp only [readSigned_signed, UInt32.ofNat_toNat, UInt64.ofNat_toNat] at toEnd
  exact toEnd

end Header

/-! ## The form of a message -/

/-- The header says something at a tag: the fields of its wire form. A signed number is there as its
two's complement of 64 bits. A number 0 and an empty text say nothing, unless the text may be absent. -/
inductive Header.Says (h : Header) : Field → Prop
  | author (hs : h.author ≠ "") : Says h ⟨1, .bytes (Utf8.encode h.author)⟩
  | composition (hs : h.composition ≠ "") : Says h ⟨2, .bytes (Utf8.encode h.composition)⟩
  | id (hn : h.id ≠ 0) : Says h ⟨3, .number h.id.toUInt64.toNat⟩
  | action (hn : h.action ≠ 0) : Says h ⟨4, .number (Header.signed h.action)⟩
  | state (s : String) (hs : h.state = some s) : Says h ⟨5, .bytes (Utf8.encode s)⟩
  | status (hn : h.status ≠ 0) : Says h ⟨6, .number (Header.signed h.status)⟩
  | severity (hn : h.severity ≠ 0) : Says h ⟨7, .number h.severity.toNat⟩
  | description (hs : h.description ≠ "") : Says h ⟨8, .bytes (Utf8.encode h.description)⟩
  | replyTo (s : String) (hs : h.replyTo = some s) : Says h ⟨9, .bytes (Utf8.encode s)⟩
  | mime (hs : h.mime ≠ "") : Says h ⟨10, .bytes (Utf8.encode h.mime)⟩
  | location (hn : h.location ≠ 0) : Says h ⟨11, .number (Header.signed h.location)⟩
  | mode (hn : h.mode ≠ 0) : Says h ⟨12, .number (Header.signed h.mode)⟩
  | timeoutMs (hn : h.timeoutMs ≠ 0) : Says h ⟨13, .number h.timeoutMs.toNat⟩
  | executionMs (hn : h.executionMs ≠ 0) : Says h ⟨14, .number h.executionMs.toNat⟩

/-- The fields of a message whose header has the wire form `header`; there is always a header. -/
inductive Message.Says (m : Message) (header : Bytes) : Field → Prop
  | topic (hs : m.topic.text ≠ "") : Says m header ⟨1, .bytes (Utf8.encode m.topic.text)⟩
  | header : Says m header ⟨2, .bytes header⟩
  | data (hd : m.data ≠ []) : Says m header ⟨3, .bytes m.data⟩

/-- The bytes are the fields that satisfy `Says`, in the order of their tags. -/
def InForm (Says : Field → Prop) (bytes : Bytes) : Prop :=
  ∃ fields : List Field, bytes = writeFields fields ∧
    (fields.map (·.tag)).Pairwise (· < ·) ∧ ∀ f, f ∈ fields ↔ Says f

/-- The bytes are what is written of the message. -/
def Message.WireForm (m : Message) (bytes : Bytes) : Prop :=
  ∃ header, InForm m.header.Says header ∧ InForm (m.Says header) bytes

/-! ### Which fields are written -/

namespace Header

variable {f : Field} {tag : Nat}

theorem mem_textField {s : String} :
    f ∈ textField tag s ↔ s ≠ "" ∧ f = ⟨tag, .bytes (Utf8.encode s)⟩ := by
  unfold textField
  split
  · rename_i hs
    simp [String.isEmpty_iff.mp hs]
  · rename_i hs
    simp [mt String.isEmpty_iff.mpr hs]

theorem mem_numberField {n : Nat} : f ∈ numberField tag n ↔ n ≠ 0 ∧ f = ⟨tag, .number n⟩ := by
  unfold numberField
  split
  · rename_i hn
    simp [hn]
  · rename_i hn
    simp [hn]

theorem mem_optionalField {s : Option String} :
    f ∈ optionalField tag s ↔ ∃ t, s = some t ∧ f = ⟨tag, .bytes (Utf8.encode t)⟩ := by
  cases s <;> simp [optionalField]

/-- **The fields of a header** are those that say something. -/
theorem mem_toFields {h : Header} : f ∈ h.toFields ↔ h.Says f := by
  have hid : h.id.toUInt64.toNat = 0 ↔ h.id = 0 := by
    rw [← UInt64.toNat_zero, UInt64.toNat_inj]
    exact ⟨fun e => congrArg UInt64.toInt64 e, fun e => congrArg Int64.toUInt64 e⟩
  have hsmall (n : UInt32) : n.toNat = 0 ↔ n = 0 := by rw [← UInt32.toNat_zero, UInt32.toNat_inj]
  have hwide (n : UInt64) : n.toNat = 0 ↔ n = 0 := by rw [← UInt64.toNat_zero, UInt64.toNat_inj]
  unfold toFields
  simp only [List.mem_append, mem_textField, mem_numberField, mem_optionalField, ne_eq,
    signed_eq_zero, hid, hsmall, hwide]
  constructor
  · rintro (((((((((((((⟨hs, rfl⟩ | ⟨hs, rfl⟩) | ⟨hn, rfl⟩) | ⟨hn, rfl⟩) | ⟨s, hs, rfl⟩) |
      ⟨hn, rfl⟩) | ⟨hn, rfl⟩) | ⟨hs, rfl⟩) | ⟨s, hs, rfl⟩) | ⟨hs, rfl⟩) | ⟨hn, rfl⟩) | ⟨hn, rfl⟩) |
      ⟨hn, rfl⟩) | ⟨hn, rfl⟩)
    · exact .author hs
    · exact .composition hs
    · exact .id hn
    · exact .action hn
    · exact .state s hs
    · exact .status hn
    · exact .severity hn
    · exact .description hs
    · exact .replyTo s hs
    · exact .mime hs
    · exact .location hn
    · exact .mode hn
    · exact .timeoutMs hn
    · exact .executionMs hn
  · intro hf
    cases hf <;> simp_all

theorem tags_ascend (h : Header) : (h.toFields.map (·.tag)).Pairwise (· < ·) := by
  have text (tag : Nat) (s : String) : ((textField tag s).map (·.tag)).Sublist [tag] := by
    unfold textField
    split
    · exact List.nil_sublist _
    · exact List.Sublist.refl _
  have number (tag n : Nat) : ((numberField tag n).map (·.tag)).Sublist [tag] := by
    unfold numberField
    split
    · exact List.nil_sublist _
    · exact List.Sublist.refl _
  have option (tag : Nat) (s : Option String) : ((optionalField tag s).map (·.tag)).Sublist [tag] := by
    cases s with
    | none => exact List.nil_sublist _
    | some s => exact List.Sublist.refl _
  have hall : (h.toFields.map (·.tag)).Sublist [1, 2, 3, 4, 5, 6, 7, 8, 9, 10, 11, 12, 13, 14] := by
    unfold toFields
    simp only [List.map_append]
    exact (((((((((((((text 1 _).append (text 2 _)).append (number 3 _)).append (number 4 _)).append
      (option 5 _)).append (number 6 _)).append (number 7 _)).append (text 8 _)).append
      (option 9 _)).append (text 10 _)).append (number 11 _)).append (number 12 _)).append
      (number 13 _)).append (number 14 _)
  exact List.Pairwise.sublist hall (by decide)

theorem Says.tag_range {h : Header} (hf : h.Says f) : 1 ≤ f.tag ∧ f.tag ≤ 14 := by
  cases hf <;> simp

/-- What a header says can be written, but for the length of its texts. -/
theorem Says.value {h : Header} (hf : h.Says f) :
    (∃ n, f.value = .number n ∧ n < UInt64.size) ∨ ∃ bs, f.value = .bytes bs := by
  have small (n : UInt32) : n.toNat < UInt64.size := Nat.lt_trans n.toNat_lt (by decide)
  cases hf with
  | author | composition | state | description | replyTo | mime => exact Or.inr ⟨_, rfl⟩
  | id | timeoutMs | executionMs => exact Or.inl ⟨_, rfl, UInt64.toNat_lt _⟩
  | action | status | location | mode => exact Or.inl ⟨_, rfl, signed_lt _⟩
  | severity => exact Or.inl ⟨_, rfl, small _⟩

end Header

/-- A run of bytes is part of what is written. -/
theorem length_le_writeFields {fs : List Field} {tag : Nat} {bs : Bytes}
    (h : ⟨tag, .bytes bs⟩ ∈ fs) : bs.length ≤ (writeFields fs).length := by
  obtain ⟨before, after, rfl⟩ := List.append_of_mem h
  have hrun : bs.length ≤ (writeField ⟨tag, .bytes bs⟩).length := by
    simp only [writeField, List.length_append]
    omega
  simp only [writeFields, List.flatMap_append, List.flatMap_cons, List.length_append]
  omega

theorem writable_of_mem {fs : List Field} {f : Field} (hlen : (writeFields fs).length < UInt64.size)
    (hf : f ∈ fs) (htag : 1 ≤ f.tag ∧ f.tag ≤ 14)
    (hvalue : (∃ n, f.value = .number n ∧ n < UInt64.size) ∨ ∃ bs, f.value = .bytes bs) :
    f.Writable := by
  have hroom : 14 < UInt32.size / 8 := by decide
  refine ⟨htag.1, Nat.lt_of_le_of_lt htag.2 hroom, hvalue.imp_right ?_⟩
  rintro ⟨bs, hbs⟩
  obtain ⟨tag, value⟩ := f
  obtain rfl : value = .bytes bs := hbs
  exact ⟨bs, rfl, Nat.lt_of_le_of_lt (length_le_writeFields hf) hlen⟩

/-! ## Messages -/

namespace Message

variable {m : Message} {f : Field}

theorem mem_toFields : f ∈ m.toFields ↔ m.Says (writeFields m.header.toFields) f := by
  unfold toFields
  simp only [List.mem_append, Header.mem_textField, List.mem_singleton]
  constructor
  · rintro ((⟨hs, rfl⟩ | rfl) | hd)
    · exact .topic hs
    · exact .header
    · split at hd
      · cases hd
      · rename_i hne
        obtain rfl := List.mem_singleton.mp hd
        exact .data fun e => hne (List.isEmpty_iff.mpr e)
  · intro hf
    cases hf with
    | topic hs => exact Or.inl (Or.inl ⟨hs, rfl⟩)
    | header => exact Or.inl (Or.inr rfl)
    | data hd =>
      refine Or.inr ?_
      rw [if_neg (mt List.isEmpty_iff.mp hd)]
      exact List.mem_singleton.mpr rfl

theorem tags_ascend (m : Message) : (m.toFields.map (·.tag)).Pairwise (· < ·) := by
  unfold toFields Header.textField
  split <;> split <;> simp

/-- **The writer keeps to the form.** -/
theorem wireForm_encode (m : Message) : m.WireForm m.encode :=
  ⟨writeFields m.header.toFields,
    ⟨m.header.toFields, rfl, m.header.tags_ascend, fun _ => Header.mem_toFields⟩,
    ⟨m.toFields, rfl, m.tags_ascend, fun _ => mem_toFields⟩⟩

/-- The header of a message is shorter than the message. -/
theorem length_header_le (m : Message) : (writeFields m.header.toFields).length ≤ m.wireSize :=
  length_le_writeFields (mem_toFields.mpr .header)

theorem takes_header (h : m.wireSize < UInt64.size) {topic : Topic} :
    addField ⟨topic, Header.blank, []⟩ ⟨2, .bytes (writeFields m.header.toFields)⟩ =
      some ⟨topic, m.header, []⟩ := by
  have hlen := Nat.lt_of_le_of_lt m.length_header_le h
  have hread : readFields (nestingLimit - 1) (writeFields m.header.toFields) =
      some m.header.toFields :=
    readFields_writeFields (fun f hf =>
      writable_of_mem hlen hf (Header.mem_toFields.mp hf).tag_range
        (Header.mem_toFields.mp hf).value) _
  have htakes : m.header.toFields.foldlM Header.addField Header.blank = some m.header :=
    m.header.takes_toFields
  simp only [addField, hread, Option.bind_eq_bind, Option.bind_some, htakes]
  rfl

theorem takes_toFields (h : m.wireSize < UInt64.size) :
    Takes addField m.toFields ⟨⟨""⟩, Header.blank, []⟩ m := by
  have topic : Takes addField (Header.textField 1 m.topic.text) ⟨⟨""⟩, Header.blank, []⟩
      ⟨m.topic, Header.blank, []⟩ :=
    takes_textField 1 (fun (g : Message) s => { g with topic := ⟨s⟩ }) (fun _ => rfl) rfl
      m.topic.text
  refine (topic.append (takes_single (takes_header h))).append ?_
  split
  · rename_i hd
    unfold Takes
    rw [List.foldlM_nil, ← List.isEmpty_iff.mp hd]
    rfl
  · exact takes_single rfl

theorem decode?_encode (h : m.wireSize < UInt64.size) : decode? m.encode = some m := by
  have hwritable : ∀ f ∈ m.toFields, f.Writable := by
    intro f hf
    refine writable_of_mem h hf ?_ ?_
    · cases mem_toFields.mp hf <;> simp
    · cases mem_toFields.mp hf <;> exact Or.inr ⟨_, rfl⟩
  have hread : readFields nestingLimit m.encode = some m.toFields :=
    readFields_writeFields hwritable nestingLimit
  unfold decode?
  rw [hread]
  exact takes_toFields h

/-- **Messages are read back.** What is written of a message is its wire form, in which negative
numbers of 32 bits take ten bytes, and the reader takes the same message from it. -/
theorem written_and_read_back (h : m.wireSize < UInt64.size) :
    m.WireForm m.encode ∧ decode? m.encode = some m ∧
      ∀ n : Int32, n < 0 → (writeVarint (Header.signed n)).length = 10 :=
  ⟨m.wireForm_encode, decode?_encode h, fun _ hn => Header.length_signed hn⟩

/-- Numbers with the highest bit set, a choice that nothing is known of, a text that is there but
empty, and letters of two, three and four bytes. -/
def extreme : Message :=
  ⟨⟨"ζ:€"⟩,
    { Header.blank with
      id := -1, action := -2, state := some "", status := 77, severity := 4294967295,
      description := "é🙂", timeoutMs := 18446744073709551615 },
    [0, 255]⟩

theorem extreme_read_back :
    extreme.wireSize < UInt64.size ∧ decode? extreme.encode = some extreme := by
  have hsize : extreme.wireSize < UInt64.size := by decide +kernel
  exact ⟨hsize, (written_and_read_back hsize).2.1⟩

end Message

end ServiceFlow
