import ServiceFlow.Text.Split

/-!
# Cuts are exact

A text is cut at the separator and nowhere else: parts without it, put together with the separator
between them, come apart again where they were joined. The last part may hold the separator and is
then cut itself.

* `splitAll_append`: a stretch without the separator stays in one part.
* `splitAll_cut`: a text is cut at each of its separators.
* `splitAll_joinWith`: parts that were joined come apart.
-/

namespace ServiceFlow.Text

/-! ## Places in a text -/

/-- What is so at each character of a text is so at the first one and at each of the others. -/
theorem forall_split_cons {P : List Char → Char → List Char → Prop} {c : Char} {cs : List Char} :
    (∀ pre d post, c :: cs = pre ++ d :: post → P pre d post) ↔
      P [] c cs ∧ ∀ pre d post, cs = pre ++ d :: post → P (c :: pre) d post := by
  constructor
  · intro h
    exact ⟨h [] c cs rfl, fun pre d post he => h (c :: pre) d post (congrArg (c :: ·) he)⟩
  · rintro ⟨hfirst, hrest⟩ pre d post he
    cases pre with
    | nil =>
      obtain ⟨rfl, rfl⟩ := List.cons.inj he
      exact hfirst
    | cons c' pre =>
      obtain ⟨rfl, rfl⟩ := List.cons.inj he
      exact hrest pre d post rfl

/-! ## All cuts -/

/-- A stretch of text in front of the first part. -/
def prependPart (p : List Char) : List (List Char) → List (List Char)
  | [] => [p]
  | r :: ps => (p ++ r) :: ps

theorem consPart_prependPart (c : Char) (p : List Char) (ps : List (List Char)) :
    consPart c (prependPart p ps) = prependPart (c :: p) ps := by
  cases ps <;> rfl

theorem prependPart_prependPart (p p' : List Char) (ps : List (List Char)) :
    prependPart p (prependPart p' ps) = prependPart (p ++ p') ps := by
  cases ps with
  | nil => rfl
  | cons r ps => exact congrArg (· :: ps) (List.append_assoc p p' r).symm

theorem prependPart_nil {ps : List (List Char)} (h : ps ≠ []) : prependPart [] ps = ps := by
  cases ps with
  | nil => exact absurd rfl h
  | cons r ps => rfl

theorem splitAll_append {s : Char} {p : List Char} (h : s ∉ p) (rest : List Char) :
    splitAll s (p ++ rest) = prependPart p (splitAll s rest) := by
  induction p with
  | nil => exact (prependPart_nil (splitAll_ne_nil s rest)).symm
  | cons c p ih =>
    rw [List.mem_cons, not_or] at h
    rw [List.cons_append, splitAll, if_neg (Ne.symm h.1), ih h.2, consPart_prependPart]

theorem splitAll_separator (s : Char) (rest : List Char) :
    splitAll s (s :: rest) = [] :: splitAll s rest := by
  rw [splitAll, if_pos rfl]

/-- No part holds the character that the text was cut at. -/
theorem not_mem_of_mem_splitAll {s : Char} {cs p : List Char} (h : p ∈ splitAll s cs) : s ∉ p := by
  induction cs generalizing p with
  | nil =>
    simp only [splitAll, List.mem_singleton] at h
    rw [h]
    exact List.not_mem_nil
  | cons c cs ih =>
    unfold splitAll at h
    split at h
    · rcases List.mem_cons.mp h with rfl | h
      · exact List.not_mem_nil
      · exact ih h
    · rename_i hc
      cases hs : splitAll s cs with
      | nil => exact absurd hs (splitAll_ne_nil s cs)
      | cons t ts =>
        rw [hs] at h ih
        rcases List.mem_cons.mp h with rfl | h
        · rw [List.mem_cons, not_or]
          exact ⟨Ne.symm hc, ih List.mem_cons_self⟩
        · exact ih (List.mem_cons_of_mem t h)

variable {s : Char} {p : List Char}

theorem splitAll_of_not_mem (h : s ∉ p) : splitAll s p = [p] := by
  have hcut := splitAll_append h []
  rw [List.append_nil] at hcut
  rw [hcut, splitAll, prependPart, List.append_nil]

theorem splitAll_append_separator (h : s ∉ p) (rest : List Char) :
    splitAll s (p ++ s :: rest) = p :: splitAll s rest := by
  rw [splitAll_append h, splitAll_separator, prependPart, List.append_nil]

theorem joinWith_cons (s : Char) (p : List Char) {ps : List (List Char)} (h : ps ≠ []) :
    joinWith s (p :: ps) = p ++ s :: joinWith s ps := by
  cases ps with
  | nil => exact absurd rfl h
  | cons q ps => rfl

/-- **Parts that were joined come apart**; the last one is cut where it holds the separator. -/
theorem splitAll_joinWith {ps : List (List Char)} (h : ∀ p ∈ ps, s ∉ p) (last : List Char) :
    splitAll s (joinWith s (ps ++ [last])) = ps ++ splitAll s last := by
  induction ps with
  | nil => rfl
  | cons p ps ih =>
    rw [List.cons_append, joinWith_cons s p (by simp),
      splitAll_append_separator (h p List.mem_cons_self),
      ih fun q hq => h q (List.mem_cons_of_mem p hq), List.cons_append]

theorem consPart_append (c : Char) {ps : List (List Char)} (h : ps ≠ []) (qs : List (List Char)) :
    consPart c (ps ++ qs) = consPart c ps ++ qs := by
  cases ps with
  | nil => exact absurd rfl h
  | cons p ps => rfl

/-- A text is cut at each of its separators. -/
theorem splitAll_cut (s : Char) (p rest : List Char) :
    splitAll s (p ++ s :: rest) = splitAll s p ++ splitAll s rest := by
  induction p with
  | nil => exact splitAll_separator s rest
  | cons c p ih =>
    rw [List.cons_append, splitAll, splitAll, ih]
    by_cases h : c = s
    · rw [if_pos h, if_pos h, List.cons_append]
    · rw [if_neg h, if_neg h, consPart_append c (splitAll_ne_nil s p)]

theorem joinWith_append (s : Char) {ps qs : List (List Char)} (hp : ps ≠ []) (hq : qs ≠ []) :
    joinWith s (ps ++ qs) = joinWith s ps ++ s :: joinWith s qs := by
  induction ps with
  | nil => exact absurd rfl hp
  | cons p ps ih =>
    by_cases h : ps = []
    · subst h
      exact joinWith_cons s p hq
    · rw [List.cons_append, joinWith_cons s p (by simp [h]), ih h, joinWith_cons s p h,
        List.append_assoc, List.cons_append]

theorem splitAll_joinWith_of_not_mem {ps : List (List Char)} (hne : ps ≠ [])
    (h : ∀ p ∈ ps, s ∉ p) : splitAll s (joinWith s ps) = ps := by
  rcases List.eq_nil_or_concat ps with he | ⟨front, last, rfl⟩
  · exact absurd he hne
  · rw [List.concat_eq_append] at h ⊢
    rw [splitAll_joinWith fun p hp => h p (List.mem_append_left _ hp),
      splitAll_of_not_mem (h last (by simp))]

/-! ## The first cut -/

theorem splitFirst?_append (h : s ∉ p) (rest : List Char) :
    splitFirst? s (p ++ s :: rest) = some (p, rest) := by
  induction p with
  | nil => rw [List.nil_append, splitFirst?, if_pos rfl]
  | cons c p ih =>
    rw [List.mem_cons, not_or] at h
    rw [List.cons_append, splitFirst?, if_neg (Ne.symm h.1), ih h.2]
    rfl

theorem splitFirst?_of_not_mem (h : s ∉ p) : splitFirst? s p = none := by
  induction p with
  | nil => rfl
  | cons c p ih =>
    rw [List.mem_cons, not_or] at h
    rw [splitFirst?, if_neg (Ne.symm h.1), ih h.2]
    rfl

end ServiceFlow.Text
