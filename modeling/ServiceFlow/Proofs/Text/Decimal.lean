import Mathlib.Data.List.Induction
import Mathlib.Data.Nat.Digits.Defs
import ServiceFlow.Text.Integer

/-!
# Decimal numbers read back

A number is written in decimal digits without a sign, and is read back under every bound that it does
not exceed.

* `readNat_toString`: the number of a written number.
* `isDigit_of_mem_toString`: what it is written with.
* `readNat_eq_ok`: all that is read as a number, which may begin with a sign and with zeros (`Numeral`).
* `numeral_iff`: the numerals of a number are the digits that stand for it (`decimal`), after a sign or none.
-/

namespace ServiceFlow.Text

variable {n max : Nat}

/-- The last digit comes off the end. -/
theorem toList_toString (n : Nat) :
    (toString n).toList =
      (if n < 10 then [] else (toString (n / 10)).toList) ++ [Nat.digitChar (n % 10)] := by
  rw [Nat.toString_eq_ofList_toDigits, Nat.toString_eq_ofList_toDigits, String.toList_ofList,
    String.toList_ofList, Nat.toDigits_eq_if (by decide)]
  split
  · rename_i h
    rw [Nat.mod_eq_of_lt h, List.nil_append]
  · rfl

theorem isDigit_of_mem_toString {c : Char} (h : c ∈ (toString n).toList) : c.isDigit = true := by
  rw [Nat.toString_eq_ofList_toDigits, String.toList_ofList] at h
  exact Nat.isDigit_of_mem_toDigits (by decide) (by decide) h

theorem toList_toString_ne_nil (n : Nat) : (toString n).toList ≠ [] := by
  rw [toList_toString]
  exact List.append_ne_nil_of_right_ne_nil _ (List.cons_ne_nil _ _)

theorem digit?_digitChar {d : Nat} (h : d < 10) : digit? (Nat.digitChar d) = some d := by
  have hall : ∀ d < 10, digit? (Nat.digitChar d) = some d := by decide
  exact hall d h

theorem readDigits_concat {value m d : Nat} {c : Char} {cs : List Char}
    (h : readDigits max value cs = .ok m) (hc : digit? c = some d) (hle : m * 10 + d ≤ max) :
    readDigits max value (cs ++ [c]) = .ok (m * 10 + d) := by
  induction cs generalizing value with
  | nil =>
    cases h
    simp only [List.nil_append, readDigits, hc]
    rw [if_neg (Nat.not_lt.mpr hle)]
  | cons e cs ih =>
    rw [readDigits] at h
    rw [List.cons_append, readDigits]
    split at h
    · cases h
    · split at h
      · cases h
      · rename_i hbound
        rw [if_neg hbound]
        exact ih h

theorem readDigits_toString (h : n ≤ max) : readDigits max 0 (toString n).toList = .ok n := by
  induction n using Nat.strong_induction_on with
  | h n ih =>
    have hdigit := digit?_digitChar (Nat.mod_lt n (by decide : 0 < 10))
    have hvalue : n / 10 * 10 + n % 10 = n := by omega
    -- what stands before the last digit is read as the number without it
    have hfront : readDigits max 0 (if n < 10 then [] else (toString (n / 10)).toList) =
        .ok (n / 10) := by
      split
      · rw [readDigits, Nat.div_eq_of_lt ‹n < 10›]
      · exact ih (n / 10) (by omega) (by omega)
    rw [toList_toString, readDigits_concat hfront hdigit (by omega), hvalue]

/-! ## Everything that is read -/

theorem digit?_eq_some {c : Char} {d : Nat} (h : digit? c = some d) : d < 10 ∧ c = Nat.digitChar d := by
  unfold digit? at h
  split at h
  · rename_i hdigit
    have hrange : 48 ≤ c.toNat ∧ c.toNat ≤ 57 := by
      simpa [Char.isDigit, UInt32.le_iff_toNat_le] using hdigit
    have hd : c.toNat - 48 = d := Option.some.inj h
    have hc : c = Char.ofNat (d + 48) := by
      rw [← hd, Nat.sub_add_cancel hrange.1, Char.ofNat_toNat]
    have hlt : d < 10 := by omega
    have hall : ∀ d < 10, Char.ofNat (d + 48) = Nat.digitChar d := by decide
    exact ⟨hlt, hc.trans (hall d hlt)⟩
  · cases h

/-- What the last digit adds. -/
theorem readDigits_concat_eq_ok {value : Nat} {c : Char} {cs : List Char}
    (h : readDigits max value (cs ++ [c]) = .ok n) :
    ∃ m d, readDigits max value cs = .ok m ∧ digit? c = some d ∧ n = m * 10 + d := by
  induction cs generalizing value with
  | nil =>
    rw [List.nil_append, readDigits] at h
    split at h
    · cases h
    · rename_i d hd
      split at h
      · cases h
      · exact ⟨value, d, rfl, hd, (Except.ok.inj h).symm⟩
  | cons e cs ih =>
    rw [List.cons_append, readDigits] at h
    rw [readDigits]
    split at h
    · cases h
    · split at h
      · cases h
      · rename_i hbound
        rw [if_neg hbound]
        exact ih h

/-- Digits are zeros and then the number that they stand for. -/
theorem exists_zeros_of_readDigits {cs : List Char} (hne : cs ≠ [])
    (h : readDigits max 0 cs = .ok n) :
    ∃ zeros, cs = List.replicate zeros '0' ++ (toString n).toList := by
  induction cs using List.reverseRecOn generalizing n with
  | nil => exact absurd rfl hne
  | append_singleton cs c ih =>
    obtain ⟨m, d, hm, hc, rfl⟩ := readDigits_concat_eq_ok h
    obtain ⟨hd, rfl⟩ := digit?_eq_some hc
    have hlast : (m * 10 + d) % 10 = d := by omega
    have hrest : (m * 10 + d) / 10 = m := by omega
    rw [toList_toString, hlast, hrest]
    by_cases hcs : cs = []
    · subst hcs
      obtain rfl : 0 = m := Except.ok.inj hm
      exact ⟨0, by rw [if_pos (by omega)]; rfl⟩
    · obtain ⟨zeros, hzeros⟩ := ih hcs hm
      by_cases hzero : m = 0
      · subst hzero
        refine ⟨zeros + 1, ?_⟩
        rw [hzeros, if_pos (by omega), List.nil_append, List.replicate_succ']
        rfl
      · exact ⟨zeros, by rw [hzeros, if_neg (by omega), List.append_assoc]⟩

theorem readDigits_replicate_zero (zeros : Nat) (cs : List Char) :
    readDigits max 0 (List.replicate zeros '0' ++ cs) = readDigits max 0 cs := by
  induction zeros with
  | zero => rfl
  | succ zeros ih =>
    have hzero : digit? '0' = some 0 := rfl
    rw [List.replicate_succ, List.cons_append, readDigits, hzero]
    exact (if_neg (Nat.not_lt_zero max)).trans ih

/-- The text spells the number: a sign or none, any number of zeros, and its digits. -/
def Numeral (n : Nat) (cs : List Char) : Prop :=
  ∃ sign zeros, (sign = [] ∨ sign = ['+']) ∧
    cs = sign ++ (List.replicate zeros '0' ++ (toString n).toList)

/-- **A number is read from its spellings** and from nothing else. -/
theorem readNat_eq_ok {cs : List Char} : readNat max cs = .ok n ↔ n ≤ max ∧ Numeral n cs := by
  have hne : ∀ zeros, List.replicate zeros '0' ++ (toString n).toList ≠ [] :=
    fun zeros => List.append_ne_nil_of_right_ne_nil _ (toList_toString_ne_nil n)
  constructor
  · intro h
    unfold readNat at h
    split at h
    · cases h
    · cases h
    · rename_i cs hcs
      obtain ⟨zeros, rfl⟩ := exists_zeros_of_readDigits hcs h
      exact ⟨readDigits_le (Nat.zero_le max) h, ['+'], zeros, Or.inr rfl, rfl⟩
    · rename_i hcs _ _
      obtain ⟨zeros, rfl⟩ := exists_zeros_of_readDigits hcs h
      exact ⟨readDigits_le (Nat.zero_le max) h, [], zeros, Or.inl rfl, rfl⟩
  · rintro ⟨hmax, sign, zeros, hsign, rfl⟩
    have hdigits : readDigits max 0 (List.replicate zeros '0' ++ (toString n).toList) = .ok n := by
      rw [readDigits_replicate_zero, readDigits_toString hmax]
    obtain ⟨c, cs, hcs⟩ := List.exists_cons_of_ne_nil (hne zeros)
    have hplus : c ≠ '+' := by
      have hc : c ∈ List.replicate zeros '0' ++ (toString n).toList := hcs ▸ List.mem_cons_self
      rcases List.mem_append.mp hc with hc | hc
      · rw [List.eq_of_mem_replicate hc]
        decide
      · rintro rfl
        cases isDigit_of_mem_toString hc
    rw [hcs] at hdigits ⊢
    rcases hsign with rfl | rfl
    · rw [List.nil_append]
      unfold readNat
      split
      · rename_i he
        cases he
      · rename_i he
        exact absurd (List.cons.inj he).1 hplus
      · rename_i he
        exact absurd (List.cons.inj he).1 hplus
      · exact hdigits
    · exact hdigits

theorem readNat_toString (h : n ≤ max) : readNat max (toString n).toList = .ok n :=
  readNat_eq_ok.mpr ⟨h, [], 0, Or.inl rfl, rfl⟩

/-! ## What digits stand for -/

/-- The number that digits stand for when they follow those of `value`. -/
def decimalAfter (value : Nat) (digits : List Char) : Nat :=
  digits.foldl (fun n c => 10 * n + (c.toNat - '0'.toNat)) value

/-- The number that digits stand for. -/
def decimal (digits : List Char) : Nat := decimalAfter 0 digits

theorem le_decimalAfter (value : Nat) (digits : List Char) : value ≤ decimalAfter value digits := by
  induction digits generalizing value with
  | nil => exact Nat.le_refl value
  | cons c cs ih =>
    have hrest : 10 * value + (c.toNat - '0'.toNat) ≤ decimalAfter value (c :: cs) := ih _
    omega

/-- Digits are read as the number that they stand for, unless it is too large. -/
theorem readDigits_eq_ok {value : Nat} {cs : List Char} (h : value ≤ max) :
    readDigits max value cs = .ok n ↔
      (∀ c ∈ cs, c.isDigit = true) ∧ decimalAfter value cs = n ∧ n ≤ max := by
  induction cs generalizing value with
  | nil =>
    rw [readDigits, Except.ok.injEq, decimalAfter, List.foldl_nil]
    constructor
    · rintro rfl
      exact ⟨List.forall_mem_nil _, rfl, h⟩
    · exact fun hn => hn.2.1
  | cons c cs ih =>
    have hstep : decimalAfter value (c :: cs) =
        decimalAfter (value * 10 + (c.toNat - '0'.toNat)) cs := by
      rw [decimalAfter, List.foldl_cons, Nat.mul_comm]
      rfl
    rw [readDigits, digit?, List.forall_mem_cons, hstep]
    by_cases hc : c.isDigit = true
    · rw [if_pos hc, and_iff_right hc]
      simp only
      split
      · -- what follows can only make the number larger
        rename_i hlarge
        refine iff_of_false (fun hread => by cases hread) ?_
        rintro ⟨-, rfl, hn⟩
        exact absurd (le_decimalAfter (value * 10 + (c.toNat - '0'.toNat)) cs) (by omega)
      · rename_i hsmall
        exact ih (Nat.le_of_not_lt hsmall)
    · rw [if_neg hc]
      exact iff_of_false (fun hread => by cases hread) fun hn => hc hn.1.1

/-- **The numerals of a number** are the digits that stand for it, after a sign or none. -/
theorem numeral_iff {cs : List Char} :
    Numeral n cs ↔ ∃ sign digits, (sign = [] ∨ sign = ['+']) ∧ digits ≠ [] ∧
      (∀ c ∈ digits, c.isDigit = true) ∧ decimal digits = n ∧ cs = sign ++ digits := by
  constructor
  · rintro ⟨sign, zeros, hsign, rfl⟩
    have hread : readDigits n 0 (List.replicate zeros '0' ++ (toString n).toList) = .ok n := by
      rw [readDigits_replicate_zero, readDigits_toString (Nat.le_refl n)]
    obtain ⟨hdigits, hvalue, -⟩ := (readDigits_eq_ok (Nat.zero_le n)).mp hread
    exact ⟨sign, _, hsign, List.append_ne_nil_of_right_ne_nil _ (toList_toString_ne_nil n), hdigits,
      hvalue, rfl⟩
  · rintro ⟨sign, digits, hsign, hne, hdigits, hvalue, rfl⟩
    have hread : readDigits n 0 digits = .ok n :=
      (readDigits_eq_ok (Nat.zero_le n)).mpr ⟨hdigits, hvalue, Nat.le_refl n⟩
    obtain ⟨zeros, rfl⟩ := exists_zeros_of_readDigits hne hread
    exact ⟨sign, zeros, hsign, rfl⟩

end ServiceFlow.Text
