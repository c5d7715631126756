import ServiceFlow.Proofs.Results
import ServiceFlow.Text.Utf8

/-!
# Texts as bytes and back

Every text is read back from its own bytes. A character takes one to four bytes by its size, and each
of the four forms is read by the branch of the reader that its first byte selects. No character is a
surrogate and none is above the last code point, so the tighter bounds on second bytes are met.

* `decodeFrom_encodeChar`: a reader takes back one character, whatever follows it.
* `decode_encode`: and so a whole text.
-/

namespace ServiceFlow.Text.Utf8

variable {a b c d : UInt8} {r : Bytes} {pos : Nat}

/-! ## The four forms -/

/-- A byte from `0x80` on is not the only one of its character. -/
theorem not_single (h : 0x80 ≤ a.toNat) : ¬ a < 0x80 := by
  rw [UInt8.lt_iff_toNat_lt]
  exact Nat.not_lt.mpr h

theorem between_iff {low high : UInt8} {l h : Nat} (hl : low.toNat = l) (hh : high.toNat = h) :
    (decide (low ≤ a) && decide (a ≤ high)) = true ↔ l ≤ a.toNat ∧ a.toNat ≤ h := by
  rw [Bool.and_eq_true, decide_eq_true_iff, decide_eq_true_iff, UInt8.le_iff_toNat_le,
    UInt8.le_iff_toNat_le, hl, hh]

theorem not_between {low high : UInt8} {l h : Nat} (hl : low.toNat = l) (hh : high.toNat = h)
    (ha : ¬ (l ≤ a.toNat ∧ a.toNat ≤ h)) : (decide (low ≤ a) && decide (a ≤ high)) = false :=
  Bool.eq_false_iff.mpr fun hb => ha ((between_iff hl hh).mp hb)

theorem isTail_iff : isTail a = true ↔ 0x80 ≤ a.toNat ∧ a.toNat ≤ 0xBF := between_iff rfl rfl

theorem decodeFrom_one (ha : a.toNat < 0x80) :
    decodeFrom pos (a :: r) = (decodeFrom (pos + 1) r).map (Char.ofNat a.toNat :: ·) := by
  have h1 : a < 0x80 := UInt8.lt_iff_toNat_lt.mpr ha
  rw [decodeFrom.eq_def]
  simp only [h1, if_true]
  rfl

theorem decodeFrom_two (ha : 0xC2 ≤ a.toNat ∧ a.toNat ≤ 0xDF)
    (hb : 0x80 ≤ b.toNat ∧ b.toNat ≤ 0xBF) :
    decodeFrom pos (a :: b :: r) =
      (decodeFrom (pos + 2) r).map
        (Char.ofNat ((a.toNat - 0xC0) * 0x40 + (b.toNat - 0x80)) :: ·) := by
  have h1 : ¬ a < 0x80 := not_single (by omega)
  have h2 : (decide (0xC2 ≤ a) && decide (a ≤ 0xDF)) = true := (between_iff rfl rfl).mpr ha
  rw [decodeFrom.eq_def]
  simp only [h1, h2, isTail_iff.mpr hb, if_true, if_false]
  rfl

theorem isSecondOfThree_iff :
    isSecondOfThree a b = true ↔ 0x80 ≤ b.toNat ∧ b.toNat ≤ 0xBF ∧
      (a.toNat = 0xE0 → 0xA0 ≤ b.toNat) ∧ (a.toNat = 0xED → b.toNat ≤ 0x9F) := by
  unfold isSecondOfThree
  split
  · rename_i h
    have e : a.toNat = 0xE0 := congrArg UInt8.toNat h
    rw [between_iff (l := 0xA0) (h := 0xBF) rfl rfl]
    omega
  · rename_i h
    have hne : a.toNat ≠ 0xE0 := fun e => h (UInt8.toNat_inj.mp e)
    split
    · rename_i h
      have e : a.toNat = 0xED := congrArg UInt8.toNat h
      rw [between_iff (l := 0x80) (h := 0x9F) rfl rfl]
      omega
    · rename_i h
      have hne' : a.toNat ≠ 0xED := fun e => h (UInt8.toNat_inj.mp e)
      rw [isTail_iff]
      omega

theorem decodeFrom_three (ha : 0xE0 ≤ a.toNat ∧ a.toNat ≤ 0xEF)
    (hb : isSecondOfThree a b = true) (hc : 0x80 ≤ c.toNat ∧ c.toNat ≤ 0xBF) :
    decodeFrom pos (a :: b :: c :: r) =
      (decodeFrom (pos + 3) r).map
        (Char.ofNat ((a.toNat - 0xE0) * 0x1000 + (b.toNat - 0x80) * 0x40 + (c.toNat - 0x80)) ::
          ·) := by
  have h1 : ¬ a < 0x80 := not_single (by omega)
  have h2 : (decide (0xC2 ≤ a) && decide (a ≤ 0xDF)) = false :=
    not_between (l := 0xC2) (h := 0xDF) rfl rfl (by omega)
  have h3 : (decide (0xE0 ≤ a) && decide (a ≤ 0xEF)) = true := (between_iff rfl rfl).mpr ha
  rw [decodeFrom.eq_def]
  simp only [h1, h2, h3, hb, isTail_iff.mpr hc, if_true, if_false, Bool.false_eq_true]
  rfl

theorem isSecondOfFour_iff :
    isSecondOfFour a b = true ↔ 0x80 ≤ b.toNat ∧ b.toNat ≤ 0xBF ∧
      (a.toNat = 0xF0 → 0x90 ≤ b.toNat) ∧ (a.toNat = 0xF4 → b.toNat ≤ 0x8F) := by
  unfold isSecondOfFour
  split
  · rename_i h
    have e : a.toNat = 0xF0 := congrArg UInt8.toNat h
    rw [between_iff (l := 0x90) (h := 0xBF) rfl rfl]
    omega
  · rename_i h
    have hne : a.toNat ≠ 0xF0 := fun e => h (UInt8.toNat_inj.mp e)
    split
    · rename_i h
      have e : a.toNat = 0xF4 := congrArg UInt8.toNat h
      rw [between_iff (l := 0x80) (h := 0x8F) rfl rfl]
      omega
    · rename_i h
      have hne' : a.toNat ≠ 0xF4 := fun e => h (UInt8.toNat_inj.mp e)
      rw [isTail_iff]
      omega

theorem decodeFrom_four (ha : 0xF0 ≤ a.toNat ∧ a.toNat ≤ 0xF4)
    (hb : isSecondOfFour a b = true) (hc : 0x80 ≤ c.toNat ∧ c.toNat ≤ 0xBF)
    (hd : 0x80 ≤ d.toNat ∧ d.toNat ≤ 0xBF) :
    decodeFrom pos (a :: b :: c :: d :: r) =
      (decodeFrom (pos + 4) r).map
        (Char.ofNat ((a.toNat - 0xF0) * 0x40000 + (b.toNat - 0x80) * 0x1000 +
          (c.toNat - 0x80) * 0x40 + (d.toNat - 0x80)) :: ·) := by
  have h1 : ¬ a < 0x80 := not_single (by omega)
  have h2 : (decide (0xC2 ≤ a) && decide (a ≤ 0xDF)) = false :=
    not_between (l := 0xC2) (h := 0xDF) rfl rfl (by omega)
  have h3 : (decide (0xE0 ≤ a) && decide (a ≤ 0xEF)) = false :=
    not_between (l := 0xE0) (h := 0xEF) rfl rfl (by omega)
  have h4 : (decide (0xF0 ≤ a) && decide (a ≤ 0xF4)) = true := (between_iff rfl rfl).mpr ha
  rw [decodeFrom.eq_def]
  simp only [h1, h2, h3, h4, hb, isTail_iff.mpr hc, isTail_iff.mpr hd, if_true, if_false,
    Bool.false_eq_true]
  rfl

/-! ## Texts -/

/-- The numbers of characters leave out the surrogates. -/
theorem code_lt (ch : Char) :
    ch.toNat < 0xD800 ∨ 0xE000 ≤ ch.toNat ∧ ch.toNat < 0x110000 := by
  have h := ch.valid
  unfold UInt32.isValidChar Nat.isValidChar at h
  have e : ch.val.toNat = ch.toNat := rfl
  omega

/-- A reader takes back one character, whatever follows it. -/
theorem decodeFrom_encodeChar (ch : Char) (r : Bytes) (pos : Nat) :
    ∃ next, decodeFrom pos (String.utf8EncodeChar ch ++ r) = (decodeFrom next r).map (ch :: ·) := by
  have hcode := code_lt ch
  have back {n : Nat} (h : n = ch.toNat) : Char.ofNat n = ch := by rw [h, Char.ofNat_toNat]
  unfold String.utf8EncodeChar
  generalize he : ch.val.toNat = v
  have hv : v = ch.toNat := he.symm
  have byte {n : Nat} (h : n < 256) : (UInt8.ofNat n).toNat = n := by
    rw [UInt8.toNat_ofNat']
    omega
  simp only
  split
  · have e := byte (n := v) (by omega)
    refine ⟨pos + 1, ?_⟩
    rw [List.singleton_append, decodeFrom_one (by omega), e, back hv]
  split
  · have e1 := byte (n := v / 64 % 32 + 192) (by omega)
    have e2 := byte (n := v % 64 + 128) (by omega)
    refine ⟨pos + 2, ?_⟩
    rw [List.cons_append, List.singleton_append, decodeFrom_two (by omega) (by omega), e1, e2,
      back (by omega)]
  split
  · have e1 := byte (n := v / 4096 % 16 + 224) (by omega)
    have e2 := byte (n := v / 64 % 64 + 128) (by omega)
    have e3 := byte (n := v % 64 + 128) (by omega)
    refine ⟨pos + 3, ?_⟩
    rw [List.cons_append, List.cons_append, List.singleton_append,
      decodeFrom_three (by omega) (isSecondOfThree_iff.mpr (by omega)) (by omega), e1, e2, e3,
      back (by omega)]
  · have e1 := byte (n := v / 262144 % 8 + 240) (by omega)
    have e2 := byte (n := v / 4096 % 64 + 128) (by omega)
    have e3 := byte (n := v / 64 % 64 + 128) (by omega)
    have e4 := byte (n := v % 64 + 128) (by omega)
    refine ⟨pos + 4, ?_⟩
    rw [List.cons_append, List.cons_append, List.cons_append, List.singleton_append,
      decodeFrom_four (by omega) (isSecondOfFour_iff.mpr (by omega)) (by omega) (by omega), e1, e2,
      e3, e4, back (by omega)]

theorem decodeFrom_encode (cs : List Char) (pos : Nat) :
    decodeFrom pos (cs.flatMap String.utf8EncodeChar) = .ok cs := by
  induction cs generalizing pos with
  | nil => rw [List.flatMap_nil, decodeFrom]
  | cons ch cs ih =>
    obtain ⟨next, h⟩ := decodeFrom_encodeChar ch (cs.flatMap String.utf8EncodeChar) pos
    rw [List.flatMap_cons, h, ih]
    rfl

/-- **Every text is read back from its bytes.** -/
theorem decode_encode (s : String) : decode (encode s) = .ok s := by
  unfold decode encode
  rw [decodeFrom_encode]
  exact congrArg Except.ok (String.ofList_toList)

theorem decode?_encode (s : String) : decode? (encode s) = some s := by
  rw [decode?, decode_encode]
  rfl

end ServiceFlow.Text.Utf8
