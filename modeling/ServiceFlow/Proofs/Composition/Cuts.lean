import ServiceFlow.Proofs.Composition.Grammar
import ServiceFlow.Proofs.Results
import ServiceFlow.Proofs.Text.Split

/-!
# The cuts of a composition are lossless and exact

Every stage of reading cuts a text into parts. Lossless: the parts with the separator between them
are the text (`separated_splitAll`, `separated_cutPairs`, `separated_splitClausesFrom`). Exact: a
stretch of text in which the separator does not occur outside literals is never cut
(`Text.splitAll_append`, `cutPairs_append`, `cutFirstPair?_append`, `readEnclosedFrom_append`,
`Passes`), so parts that were put together come apart again where they were joined.

* `Avoids bad q cs q'` says which characters may not stand outside literals in `cs`, where `q` and
  `q'` say whether a literal is open before and after it.
* `Passes d q cs d' q'` says that the cut into clauses goes through `cs` without cutting it.
-/

namespace ServiceFlow.Composition

open Text

/-! ## Nothing is lost -/

section Lossless

variable {sep : List Char} {c : Char} {cs : List Char} {parts : List (List Char)}

theorem Separated.ne_nil {α : Type} {Spells : α → List Char → Prop} {xs : List α}
    (h : Separated sep Spells xs cs) : xs ≠ [] := by
  cases h <;> exact List.cons_ne_nil _ _

/-- A character in front of the text is one in front of its first part. -/
theorem Separated.consPart (h : Separated sep (· = ·) parts cs) :
    Separated sep (· = ·) (consPart c parts) (c :: cs) := by
  cases h with
  | one hx => exact .one (congrArg (c :: ·) hx)
  | more hx hxs =>
    subst hx
    exact .more (x := c :: _) rfl hxs

theorem separated_splitAll (s : Char) (cs : List Char) :
    Separated [s] (· = ·) (splitAll s cs) cs := by
  induction cs with
  | nil => exact .one rfl
  | cons c cs ih =>
    unfold splitAll
    split
    · rename_i hc
      subst hc
      exact .more (x := []) rfl ih
    · exact ih.consPart

theorem separated_cutPairs (a b : Char) (q : Bool) (cs : List Char) :
    Separated [a, b] (· = ·) (cutPairs a b q cs) cs := by
  fun_induction cutPairs a b q cs with
  | case1 => exact .one rfl
  | case2 => exact .one rfl
  | case3 q d cs ih => exact ih.consPart
  | case4 q c d cs hq hop ih =>
    simp only [Bool.and_eq_true, decide_eq_true_eq] at hop
    obtain ⟨⟨-, rfl⟩, rfl⟩ := hop
    exact .more (x := []) rfl ih
  | case5 q c d cs hq hop ih => exact ih.consPart

theorem separated_splitClausesFrom {d : Nat} {q : Bool}
    (h : splitClausesFrom d q cs = .ok parts) : Separated [';'] (· = ·) parts cs := by
  induction cs generalizing d q parts with
  | nil =>
    unfold splitClausesFrom at h
    split at h
    · cases h; exact .one rfl
    · cases h
  | cons c cs ih =>
    -- every branch but the cut keeps `c` in front of the first part
    have step {d : Nat} {q : Bool}
        (h : (splitClausesFrom d q cs).map (Text.consPart c) = .ok parts) :
        Separated [';'] (· = ·) parts (c :: cs) := by
      obtain ⟨ps, hp, rfl⟩ := map_eq_ok.mp h
      exact (ih hp).consPart
    unfold splitClausesFrom at h
    split at h
    · exact step h
    split at h
    · exact step h
    split at h
    · exact step h
    split at h
    · cases d with
      | zero => cases h
      | succ d => exact step h
    split at h
    · rename_i hc
      simp only [Bool.and_eq_true, decide_eq_true_eq] at hc
      obtain ⟨rfl, -⟩ := hc
      obtain ⟨ps, hp, rfl⟩ := map_eq_ok.mp h
      exact .more (x := []) rfl (ih hp)
    · exact step h

theorem cutFirstPair?_eq_some {a b : Char} {q : Bool} {p r : List Char}
    (h : cutFirstPair? a b q cs = some (p, r)) : cs = p ++ a :: b :: r := by
  fun_induction cutFirstPair? a b q cs generalizing p r with
  | case1 => cases h
  | case2 => cases h
  | case3 q d cs ih =>
    obtain ⟨⟨p, r⟩, hp, he⟩ := Option.map_eq_some_iff.mp h
    cases he
    rw [ih hp]
    rfl
  | case4 q c d cs hq hop =>
    cases h
    simp only [Bool.and_eq_true, decide_eq_true_eq] at hop
    obtain ⟨⟨-, rfl⟩, rfl⟩ := hop
    rfl
  | case5 q c d cs hq hop ih =>
    obtain ⟨⟨p, r⟩, hp, he⟩ := Option.map_eq_some_iff.mp h
    cases he
    rw [ih hp]
    rfl

end Lossless

/-- What the parts spell, the text spells. -/
theorem Separated.of_forall₂ {α : Type} {sep cs : List Char} {parts : List (List Char)}
    {Spells : α → List Char → Prop} {xs : List α} (h : Separated sep (· = ·) parts cs)
    (hs : List.Forall₂ Spells xs parts) : Separated sep Spells xs cs := by
  induction h generalizing xs with
  | one hx =>
    cases hs with
    | cons hp hn => cases hn; exact .one (hx ▸ hp)
  | more hx _ ih =>
    cases hs with
    | cons hp hs => exact .more (hx ▸ hp) (ih hs)

/-- What the parts that are not empty spell, the text spells. -/
theorem Listed.of_forall₂ {α : Type} {cs : List Char} {parts : List (List Char)}
    {Spells : α → List Char → Prop} {xs : List α} (h : Separated [';'] (· = ·) parts cs)
    (hs : List.Forall₂ Spells xs (parts.filter fun p => !p.isEmpty)) : Listed Spells xs cs := by
  induction h generalizing xs with
  | @one p cs hx =>
    subst hx
    cases p with
    | nil => cases hs; exact .nil
    | cons c p =>
      cases hs with
      | cons hp hn => cases hn; exact .one hp
  | @more p ps cs rest hx _ ih =>
    subst hx
    cases p with
    | nil => exact .skip (ih hs)
    | cons c p =>
      cases hs with
      | cons hp hs =>
        rw [List.append_assoc]
        exact .cons hp (ih hs)

/-! ## What stands outside literals -/

/-- From the state `q` to the state `q'` of whether a literal is open, no character of `bad` stands
outside literals. -/
inductive Avoids (bad : List Char) : Bool → List Char → Bool → Prop
  | nil (q : Bool) : Avoids bad q [] q
  | quote {q q' : Bool} {cs : List Char} (h : Avoids bad (!q) cs q') : Avoids bad q ('"' :: cs) q'
  | inside {c : Char} {q' : Bool} {cs : List Char} (hc : c ≠ '"') (h : Avoids bad true cs q') :
      Avoids bad true (c :: cs) q'
  | outside {c : Char} {q' : Bool} {cs : List Char} (hc : c ≠ '"') (hb : c ∉ bad)
      (h : Avoids bad false cs q') : Avoids bad false (c :: cs) q'

section Avoids

variable {bad cs ds : List Char} {q q' q'' : Bool}

theorem Avoids.append (h : Avoids bad q cs q') (h' : Avoids bad q' ds q'') :
    Avoids bad q (cs ++ ds) q'' := by
  induction h with
  | nil q => exact h'
  | quote _ ih => exact .quote (ih h')
  | inside hc _ ih => exact .inside hc (ih h')
  | outside hc hb _ ih => exact .outside hc hb (ih h')

theorem Avoids.of_forall (h : ∀ c ∈ cs, c ≠ '"' ∧ c ∉ bad) : Avoids bad false cs false := by
  induction cs with
  | nil => exact .nil false
  | cons c cs ih =>
    obtain ⟨hq, hb⟩ := h c List.mem_cons_self
    exact .outside hq hb (ih fun d hd => h d (List.mem_cons_of_mem c hd))

/-- A literal avoids every character. -/
theorem Avoids.literal {s : String} (h : '"' ∉ s.toList) : Avoids bad false (quoted s) false := by
  have inside {cs : List Char} (hcs : '"' ∉ cs) : Avoids bad true cs true := by
    induction cs with
    | nil => exact .nil true
    | cons c cs ih =>
      rw [List.mem_cons, not_or] at hcs
      exact .inside (Ne.symm hcs.1) (ih hcs.2)
  exact .quote ((inside h).append (.quote (.nil false)))

end Avoids

/-! ## Nothing is cut but at separators -/

section Pairs

variable {a b : Char} {q q' : Bool} {bad p : List Char}

theorem cutPairs_ne_nil (a b : Char) (q : Bool) (cs : List Char) : cutPairs a b q cs ≠ [] :=
  (separated_cutPairs a b q cs).ne_nil

/-- No operator begins within a literal or at another character. -/
theorem not_operator {c d : Char} (h : q = true ∨ c ≠ a) :
    ¬ (!q && decide (c = a) && decide (d = b)) = true := by
  simp only [Bool.and_eq_true, Bool.not_eq_true', decide_eq_true_eq]
  rintro ⟨⟨hq, hca⟩, -⟩
  rcases h with h | h
  · rw [h] at hq
    cases hq
  · exact h hca

theorem cutPairs_cons {c : Char} (h : c = '"' ∨ q = true ∨ c ≠ a) (cs : List Char) :
    cutPairs a b q (c :: cs) = consPart c (cutPairs a b (if c = '"' then !q else q) cs) := by
  cases cs with
  | nil => rfl
  | cons d cs =>
    rw [cutPairs]
    by_cases hc : c = '"'
    · rw [if_pos hc, if_pos hc]
    · rw [if_neg hc, if_neg (not_operator (h.resolve_left hc)), if_neg hc]

theorem cutPairs_append (hp : Avoids bad q p q') (ha : a ∈ bad) (rest : List Char) :
    cutPairs a b q (p ++ rest) = prependPart p (cutPairs a b q' rest) := by
  induction hp with
  | nil q => exact (prependPart_nil (cutPairs_ne_nil a b q rest)).symm
  | quote _ ih =>
    rw [List.cons_append, cutPairs_cons (Or.inl rfl), if_pos rfl, ih, consPart_prependPart]
  | inside hc _ ih =>
    rw [List.cons_append, cutPairs_cons (Or.inr (Or.inl rfl)), if_neg hc, ih,
      consPart_prependPart]
  | outside hc hb _ ih =>
    rw [List.cons_append, cutPairs_cons (Or.inr (Or.inr (ne_of_mem_of_not_mem ha hb).symm)),
      if_neg hc, ih, consPart_prependPart]

theorem cutPairs_operator (ha : a ≠ '"') (rest : List Char) :
    cutPairs a b false (a :: b :: rest) = [] :: cutPairs a b false rest := by
  rw [cutPairs, if_neg ha, if_pos (by simp)]

theorem cutFirstPair?_cons {c : Char} (h : c = '"' ∨ q = true ∨ c ≠ a) (cs : List Char) :
    cutFirstPair? a b q (c :: cs) =
      (cutFirstPair? a b (if c = '"' then !q else q) cs).map fun e => (c :: e.1, e.2) := by
  cases cs with
  | nil => rfl
  | cons d cs =>
    rw [cutFirstPair?]
    by_cases hc : c = '"'
    · rw [if_pos hc, if_pos hc]
    · rw [if_neg hc, if_neg (not_operator (h.resolve_left hc)), if_neg hc]

theorem cutFirstPair?_append (hp : Avoids bad q p q') (ha : a ∈ bad) (rest : List Char) :
    cutFirstPair? a b q (p ++ rest) =
      (cutFirstPair? a b q' rest).map fun e => (p ++ e.1, e.2) := by
  have cons {c : Char} {p : List Char} (o : Option (List Char × List Char)) :
      (o.map fun e => (p ++ e.1, e.2)).map (fun e => (c :: e.1, e.2)) =
        o.map fun e => (c :: p ++ e.1, e.2) := by
    cases o <;> rfl
  induction hp with
  | nil q =>
    rw [List.nil_append]
    cases cutFirstPair? a b q rest <;> rfl
  | quote _ ih => rw [List.cons_append, cutFirstPair?_cons (Or.inl rfl), if_pos rfl, ih, cons]
  | inside hc _ ih =>
    rw [List.cons_append, cutFirstPair?_cons (Or.inr (Or.inl rfl)), if_neg hc, ih, cons]
  | outside hc hb _ ih =>
    rw [List.cons_append, cutFirstPair?_cons (Or.inr (Or.inr (ne_of_mem_of_not_mem ha hb).symm)),
      if_neg hc, ih, cons]

theorem cutFirstPair?_operator (ha : a ≠ '"') (rest : List Char) :
    cutFirstPair? a b false (a :: b :: rest) = some ([], rest) := by
  rw [cutFirstPair?, if_neg ha, if_pos (by simp)]

end Pairs

/-! ## Brackets close where they were opened -/

theorem readEnclosedFrom_append {opening close : Char} {q : Bool} {bad p : List Char}
    (hp : Avoids bad q p false) (ho : opening ∈ bad) (hc : close ∈ bad) (hq : close ≠ '"')
    (rest : List Char) :
    readEnclosedFrom opening close q (p ++ close :: rest) = .ok (p, rest) := by
  generalize hf : false = q' at hp
  induction hp with
  | nil q =>
    subst hf
    rw [List.nil_append, readEnclosedFrom, if_neg hq, if_neg Bool.false_ne_true, if_pos rfl]
  | quote _ ih => rw [List.cons_append, readEnclosedFrom, if_pos rfl, ih hf]; rfl
  | inside hd _ ih =>
    rw [List.cons_append, readEnclosedFrom, if_neg hd, if_pos rfl, ih hf]; rfl
  | outside hd hb _ ih =>
    rw [List.cons_append, readEnclosedFrom, if_neg hd, if_neg Bool.false_ne_true,
      if_neg (ne_of_mem_of_not_mem hc hb).symm, if_neg (ne_of_mem_of_not_mem ho hb).symm, ih hf]
    rfl

theorem readEnclosed_append {opening close : Char} {bad p : List Char}
    (hp : Avoids bad false p false) (ho : opening ∈ bad) (hc : close ∈ bad) (hq : close ≠ '"')
    (rest : List Char) : readEnclosed opening close (p ++ close :: rest) = .ok (p, rest) :=
  readEnclosedFrom_append hp ho hc hq rest

/-! ## Clauses are cut at the top level only -/

/-- The cut into clauses goes through `p` without cutting it, from `d` open braces and the state
`q` to `d'` open braces and the state `q'`. -/
def Passes (d : Nat) (q : Bool) (p : List Char) (d' : Nat) (q' : Bool) : Prop :=
  ∀ rest parts, splitClausesFrom d' q' rest = .ok parts →
    splitClausesFrom d q (p ++ rest) = .ok (prependPart p parts)

section Passes

variable {d d' d'' : Nat} {q q' q'' : Bool} {p p' : List Char}

theorem splitClausesFrom_cons {c : Char}
    (h : c = '"' ∨ q = true ∨ c ≠ '\x7b' ∧ c ≠ '\x7d' ∧ (c = ';' → d ≠ 0)) (cs : List Char) :
    splitClausesFrom d q (c :: cs) =
      (splitClausesFrom d (if c = '"' then !q else q) cs).map (consPart c) := by
  rw [splitClausesFrom.eq_def]
  by_cases hc : c = '"'
  · simp only [if_pos hc]
  · cases q with
    | true => simp only [if_neg hc, if_true]
    | false =>
      obtain ⟨ho, hcl, hs⟩ := (h.resolve_left hc).resolve_left Bool.false_ne_true
      have hn : ¬ (decide (c = ';') && decide (d = 0)) = true := by
        simp only [Bool.and_eq_true, decide_eq_true_eq, not_and]
        exact hs
      simp only [if_neg hc, if_neg ho, if_neg hcl, if_neg hn, if_neg Bool.false_ne_true]

theorem splitClausesFrom_separator (cs : List Char) :
    splitClausesFrom 0 false (';' :: cs) = (splitClausesFrom 0 false cs).map ([] :: ·) := rfl

theorem Passes.append (h : Passes d q p d' q') (h' : Passes d' q' p' d'' q'') :
    Passes d q (p ++ p') d'' q'' := by
  intro rest parts hr
  have hp := h _ _ (h' rest parts hr)
  rw [prependPart_prependPart] at hp
  rw [List.append_assoc]
  exact hp

theorem Passes.nil : Passes d q [] d q := by
  intro rest parts hr
  rw [prependPart_nil (separated_splitClausesFrom hr).ne_nil]
  exact hr

theorem Passes.of_avoids (h : Avoids [';', '\x7b', '\x7d'] q p q') : Passes d q p d q' := by
  intro rest parts hr
  induction h with
  | nil q => exact Passes.nil rest parts hr
  | quote _ ih =>
    rw [List.cons_append, splitClausesFrom_cons (Or.inl rfl), if_pos rfl, ih hr,
      ← consPart_prependPart]
    rfl
  | inside hc _ ih =>
    rw [List.cons_append, splitClausesFrom_cons (Or.inr (Or.inl rfl)), if_neg hc, ih hr,
      ← consPart_prependPart]
    rfl
  | outside hc hb _ ih =>
    simp only [List.mem_cons, List.not_mem_nil, or_false, not_or] at hb
    obtain ⟨hs, ho, hcl⟩ := hb
    rw [List.cons_append, splitClausesFrom_cons (Or.inr (Or.inr ⟨ho, hcl, fun e => absurd e hs⟩)),
      if_neg hc, ih hr, ← consPart_prependPart]
    rfl

theorem Passes.opening : Passes d false ['\x7b'] (d + 1) false := by
  intro rest parts hr
  have e : splitClausesFrom d false ('\x7b' :: rest) =
      (splitClausesFrom (d + 1) false rest).map (consPart '\x7b') := rfl
  rw [List.singleton_append, e, hr]
  cases parts <;> rfl

theorem Passes.closing : Passes (d + 1) false ['\x7d'] d false := by
  intro rest parts hr
  have e : splitClausesFrom (d + 1) false ('\x7d' :: rest) =
      (splitClausesFrom d false rest).map (consPart '\x7d') := rfl
  rw [List.singleton_append, e, hr]
  cases parts <;> rfl

/-- A `;` within braces is not a separator of clauses. -/
theorem Passes.semicolon : Passes (d + 1) false [';'] (d + 1) false := by
  intro rest parts hr
  have kept : (';' : Char) ≠ '\x7b' ∧ (';' : Char) ≠ '\x7d' ∧ ((';' : Char) = ';' → d + 1 ≠ 0) :=
    ⟨by decide, by decide, fun _ => Nat.succ_ne_zero d⟩
  rw [List.singleton_append, splitClausesFrom_cons (Or.inr (Or.inr kept)), if_neg (by decide), hr]
  cases parts <;> rfl

end Passes

/-! ## Lists come apart again -/

/-- Chains and blocks: the parts of the text spell the items. -/
theorem Separated.splitAll {α : Type} {s : Char} {Spells : α → List Char → Prop}
    (hs : ∀ x p, Spells x p → s ∉ p) {xs : List α} {cs : List Char}
    (h : Separated [s] Spells xs cs) : List.Forall₂ Spells xs (Text.splitAll s cs) := by
  induction h with
  | @one x cs hx =>
    have e := splitAll_append (hs x cs hx) []
    rw [List.append_nil] at e
    rw [e]
    exact .cons (by simpa using hx) .nil
  | @more x xs cs rest hx _ ih =>
    rw [List.append_assoc, splitAll_append (hs x cs hx), List.singleton_append,
      splitAll_separator]
    exact .cons (by simpa using hx) ih

/-- Conditions: the parts of the text spell the items. -/
theorem Separated.cutPairs {α : Type} {a b : Char} {Spells : α → List Char → Prop} (ha : a ≠ '"')
    (hs : ∀ x p, Spells x p → Avoids [a] false p false) {xs : List α} {cs : List Char}
    (h : Separated [a, b] Spells xs cs) :
    List.Forall₂ Spells xs (Composition.cutPairs a b false cs) := by
  induction h with
  | @one x cs hx =>
    have e := cutPairs_append (b := b) (hs x cs hx) List.mem_cons_self []
    rw [List.append_nil] at e
    rw [e]
    exact .cons (by simpa using hx) .nil
  | @more x xs cs rest hx _ ih =>
    rw [List.append_assoc, cutPairs_append (hs x cs hx) List.mem_cons_self, List.cons_append,
      List.singleton_append, cutPairs_operator ha]
    exact .cons (by simpa using hx) ih

/-- Blocks: the parts of the text that are not empty spell the items. -/
theorem Listed.splitAll {α : Type} {Spells : α → List Char → Prop}
    (hs : ∀ x p, Spells x p → p ≠ [] ∧ ';' ∉ p) {xs : List α} {cs : List Char}
    (h : Listed Spells xs cs) :
    List.Forall₂ Spells xs ((Text.splitAll ';' cs).filter fun p => !p.isEmpty) := by
  induction h with
  | nil => exact .nil
  | @one x cs hx =>
    obtain ⟨hne, hn⟩ := hs x cs hx
    have e := splitAll_append hn []
    rw [List.append_nil] at e
    rw [e]
    cases cs with
    | nil => exact absurd rfl hne
    | cons c cs => exact .cons (by simpa using hx) .nil
  | skip _ ih =>
    rw [splitAll_separator]
    exact ih
  | @cons x xs cs rest hx _ ih =>
    obtain ⟨hne, hn⟩ := hs x cs hx
    rw [splitAll_append hn, splitAll_separator]
    cases cs with
    | nil => exact absurd rfl hne
    | cons c cs => exact .cons (by simpa using hx) ih

/-- Compositions: the text is cut, and its parts that are not empty spell the items. -/
theorem Listed.splitClauses {α : Type} {Spells : α → List Char → Prop}
    (hs : ∀ x p, Spells x p → p ≠ [] ∧ Passes 0 false p 0 false) {xs : List α} {cs : List Char}
    (h : Listed Spells xs cs) : ∃ parts, splitClausesFrom 0 false cs = .ok parts ∧
      List.Forall₂ Spells xs (parts.filter fun p => !p.isEmpty) := by
  induction h with
  | nil => exact ⟨[[]], rfl, .nil⟩
  | @one x cs hx =>
    obtain ⟨hne, hp⟩ := hs x cs hx
    have e := hp [] [[]] rfl
    rw [List.append_nil] at e
    refine ⟨[cs], by simpa [prependPart] using e, ?_⟩
    cases cs with
    | nil => exact absurd rfl hne
    | cons c cs => exact .cons hx .nil
  | skip _ ih =>
    obtain ⟨parts, hp, hf⟩ := ih
    refine ⟨[] :: parts, ?_, hf⟩
    rw [splitClausesFrom_separator, hp]
    rfl
  | @cons x xs cs rest hx _ ih =>
    obtain ⟨hne, hpass⟩ := hs x cs hx
    obtain ⟨parts, hp, hf⟩ := ih
    have e : splitClausesFrom 0 false (';' :: rest) = .ok ([] :: parts) := by
      rw [splitClausesFrom_separator, hp]
      rfl
    refine ⟨cs :: parts, by simpa [prependPart] using hpass _ _ e, ?_⟩
    cases cs with
    | nil => exact absurd rfl hne
    | cons c cs => exact .cons hx hf

end ServiceFlow.Composition
