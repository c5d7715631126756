import ServiceFlow.Wire.Field

/-!
# Fields read back

A field that is written with a number of 64 bits, or a run of bytes whose length is one, is read back
as it was, whatever follows it; and so is a sequence of such fields to the end of the bytes.

* `length_writeVarint`: how many bytes a number takes, so ten for those with the highest bit set.
* `readField_writeField`: one field.
* `readFields_writeFields`: a whole sequence.
-/

namespace ServiceFlow.Wire

/-! ## Numbers -/

theorem writeVarint_ne_nil (n : Nat) : writeVarint n ≠ [] := by
  rw [writeVarint]
  split <;> exact List.cons_ne_nil _ _

/-- How many numbers fit into so many bytes. -/
def capacity : Nat → Nat
  | 0 => 1
  | k + 1 => 128 * capacity k

theorem capacity_pos (k : Nat) : 0 < capacity k := by
  induction k with
  | zero => decide
  | succ k ih => exact Nat.mul_pos (by decide) ih

/-- A number takes one byte for each group of seven bits. -/
theorem length_writeVarint {k n : Nat} (hlow : k = 0 ∨ capacity k ≤ n)
    (hhigh : n < capacity (k + 1)) : (writeVarint n).length = k + 1 := by
  induction k generalizing n with
  | zero =>
    have hone : n < 128 := hhigh
    rw [writeVarint, if_pos hone]
    rfl
  | succ k ih =>
    have hlow : 128 * capacity k ≤ n := hlow.resolve_left (Nat.succ_ne_zero k)
    have hhigh : n < 128 * capacity (k + 1) := hhigh
    have hpos := capacity_pos k
    rw [writeVarint, if_neg (by omega), List.length_cons, ih]
    · exact Or.inr ((Nat.le_div_iff_mul_le (by decide)).mpr (by omega))
    · exact Nat.div_lt_of_lt_mul hhigh

/-! ## One field -/

/-- A field that a reader takes back: the tag leaves room for the kind of value, and the number, or
the length of the run of bytes, is one of 64 bits. -/
structure Field.Writable (f : Field) : Prop where
  tag_pos : 1 ≤ f.tag
  tag_lt : f.tag < UInt32.size / 8
  value_fits :
    (∃ n, f.value = .number n ∧ n < UInt64.size) ∨
      ∃ bs, f.value = .bytes bs ∧ bs.length < UInt64.size

theorem readKey_writeVarint {tag : Nat} (hpos : 1 ≤ tag) (hlt : tag < UInt32.size / 8) {kind : Nat}
    (hk : kind < 8) (rest : Bytes) :
    readKey (writeVarint (tag * 8 + kind) ++ rest) = some (tag, kind, rest) := by
  have hsize : UInt32.size = 4294967296 := rfl
  have hkey : tag * 8 + kind < UInt64.size := by
    have : UInt64.size = 18446744073709551616 := rfl
    omega
  have hin : (decide (UInt32.size ≤ tag * 8 + kind) || decide (tag * 8 + kind < 8)) = false := by
    rw [Bool.or_eq_false_iff, decide_eq_false_iff_not, decide_eq_false_iff_not]
    omega
  have htag : (tag * 8 + kind) / 8 = tag := by omega
  have hkind : (tag * 8 + kind) % 8 = kind := by omega
  unfold readKey
  rw [readVarint_writeVarint hkey]
  simp only [Option.bind_eq_bind, Option.bind_some, hin, htag, hkind, Bool.false_eq_true, if_false]

theorem takeBytes_append (bs rest : Bytes) :
    takeBytes bs.length (bs ++ rest) = some (bs, rest) := by
  have hlen : bs.length ≤ (bs ++ rest).length := by
    rw [List.length_append]
    exact Nat.le_add_right _ _
  rw [takeBytes, if_pos hlen, List.take_left, List.drop_left]

theorem readRun_append {bs : Bytes} (h : bs.length < UInt64.size) (rest : Bytes) :
    readRun (writeVarint bs.length ++ (bs ++ rest)) = some (bs, rest) := by
  unfold readRun
  rw [readVarint_writeVarint h]
  exact takeBytes_append bs rest

/-- **A field is read back**, whatever follows it. -/
theorem readField_writeField {f : Field} (h : f.Writable) (depth : Nat) (rest : Bytes) :
    readField depth (writeField f ++ rest) = some (f, rest) := by
  obtain ⟨tag, value⟩ := f
  rcases h.value_fits with ⟨n, hv, hn⟩ | ⟨bs, hv, hbs⟩
  · obtain rfl : value = .number n := hv
    have hkey : readKey (writeVarint (tag * 8) ++ (writeVarint n ++ rest)) =
        some (tag, 0, writeVarint n ++ rest) :=
      readKey_writeVarint h.tag_pos h.tag_lt (show 0 < 8 by decide) _
    simp only [readField, writeField, List.append_assoc, hkey, Option.bind_eq_bind,
      Option.bind_some, readVarint_writeVarint hn]
    rfl
  · obtain rfl : value = .bytes bs := hv
    have hkey : readKey (writeVarint (tag * 8 + 2) ++ (writeVarint bs.length ++ (bs ++ rest))) =
        some (tag, 2, writeVarint bs.length ++ (bs ++ rest)) :=
      readKey_writeVarint h.tag_pos h.tag_lt (by decide) _
    simp only [readField, writeField, List.append_assoc, hkey, Option.bind_eq_bind,
      Option.bind_some, readRun_append hbs]
    rfl

theorem writeField_ne_nil {f : Field} (h : f.Writable) : writeField f ≠ [] := by
  unfold writeField
  rcases h.value_fits with ⟨n, hv, -⟩ | ⟨bs, hv, -⟩
  · rw [hv]
    exact List.append_ne_nil_of_left_ne_nil (writeVarint_ne_nil _) _
  · rw [hv]
    exact List.append_ne_nil_of_left_ne_nil (writeVarint_ne_nil _) _

/-! ## Sequences -/

/-- Each field takes a byte at least, so as many steps as bytes are enough. -/
theorem readFieldsFrom_writeFields {fs : List Field} (h : ∀ f ∈ fs, f.Writable) (depth : Nat)
    {fuel : Nat} (hfuel : (writeFields fs).length ≤ fuel) :
    readFieldsFrom depth fuel (writeFields fs) = some fs := by
  induction fs generalizing fuel with
  | nil => rw [writeFields, List.flatMap_nil, readFieldsFrom]
  | cons f fs ih =>
    have hf := h f List.mem_cons_self
    have hwrite : writeFields (f :: fs) = writeField f ++ writeFields fs := List.flatMap_cons
    obtain ⟨b, bs, hb⟩ := List.exists_cons_of_ne_nil (writeField_ne_nil hf)
    have hread : readField depth (b :: (bs ++ writeFields fs)) = some (f, writeFields fs) := by
      rw [← List.cons_append, ← hb]
      exact readField_writeField hf depth (writeFields fs)
    rw [hwrite, hb, List.cons_append] at hfuel ⊢
    rw [List.length_cons, List.length_append] at hfuel
    cases fuel with
    | zero => omega
    | succ fuel =>
      have hrest : readFieldsFrom depth fuel (writeFields fs) = some fs :=
        ih (fun g hg => h g (List.mem_cons_of_mem f hg)) (by omega)
      simp only [readFieldsFrom, hread, Option.bind_eq_bind, Option.bind_some, hrest]
      rfl

/-- **A sequence of fields is read back.** -/
theorem readFields_writeFields {fs : List Field} (h : ∀ f ∈ fs, f.Writable) (depth : Nat) :
    readFields depth (writeFields fs) = some fs :=
  readFieldsFrom_writeFields h depth (Nat.le_refl _)

end ServiceFlow.Wire
