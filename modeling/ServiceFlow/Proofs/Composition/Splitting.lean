import Mathlib.Algebra.Group.Nat.Even
import Mathlib.Logic.Relation
import ServiceFlow.Proofs.Composition.Reading

/-!
# Splitting a composition around its literals

What the cuts of `Composition/Tokens.lean` give, said without them: by the characters that stand outside
literals, the braces among these, and the positions in the text.

* `outside`, `quotedAfter`: the characters outside literals, and whether a text ends in one. An even number of
  quotes leaves none open (`quotedAfter_eq_iff`).
* `Overcloses`, `Whole`: the braces of a text outside literals. A part is whole if it balances and each `;` in
  it is covered by a literal or by braces. `splitClausesFrom_eq_error` says when the cut into clauses fails,
  `splitClauses_eq_ok` what it gives.
* `StandsAt`, `Leftmost`, `cuts`: the positions at which an operator stands, those of them that do not overlap
  an earlier one, and those that the parts leave out (`leftmost_cutPairs`).
* `readEnclosed_eq_ok`: what stands between brackets.
* `Round`: one block of a conditional clause. What is left behind it is a proper end of the text
  (`Round.shortens`), and nothing is left at the end (`rounds_of_readClause`).
* `splitting_exact`: all of this of any text.
-/

namespace ServiceFlow.Composition

open Text

/-! ## Literals -/

/-- A literal is open after the text; `quoted` says whether one was open before it. -/
def quotedAfter (quoted : Bool) (cs : List Char) : Bool :=
  cs.foldl (fun q c => if c = '"' then !q else q) quoted

/-- The characters outside literals, without the quotes. -/
def outside (quoted : Bool) : List Char → List Char
  | [] => []
  | c :: cs =>
    if c = '"' then outside (!quoted) cs
    else if quoted then outside quoted cs
    else c :: outside quoted cs

section Literals

variable {q q' : Bool} {c : Char} {cs : List Char}

theorem quotedAfter_cons (q : Bool) (c : Char) (cs : List Char) :
    quotedAfter q (c :: cs) = quotedAfter (if c = '"' then !q else q) cs := rfl

theorem outside_quote (q : Bool) (cs : List Char) : outside q ('"' :: cs) = outside (!q) cs := rfl

theorem outside_inside (hc : c ≠ '"') (cs : List Char) : outside true (c :: cs) = outside true cs := by
  rw [outside, if_neg hc, if_pos rfl]

theorem outside_bare (hc : c ≠ '"') (cs : List Char) :
    outside false (c :: cs) = c :: outside false cs := by
  rw [outside, if_neg hc, if_neg Bool.false_ne_true]

/-- An even number of quotes leaves things as they were. -/
theorem quotedAfter_eq_iff : quotedAfter q cs = q ↔ Even (cs.count '"') := by
  induction cs generalizing q with
  | nil => exact iff_of_true rfl (by decide)
  | cons c cs ih =>
    rw [quotedAfter_cons]
    by_cases hc : c = '"'
    · subst hc
      rw [if_pos rfl, List.count_cons_self, Nat.even_add_one, ← ih (q := !q)]
      cases q <;> cases quotedAfter _ cs <;> simp
    · rw [if_neg hc, List.count_cons_of_ne hc, ih]

theorem avoids_iff {bad : List Char} :
    Avoids bad q cs q' ↔ quotedAfter q cs = q' ∧ ∀ c ∈ bad, c ∉ outside q cs := by
  constructor
  · intro h
    induction h with
    | nil q => exact ⟨rfl, fun _ _ => List.not_mem_nil⟩
    | quote _ ih => exact ih
    | inside hc _ ih =>
      rw [quotedAfter_cons, if_neg hc, outside_inside hc]
      exact ih
    | outside hc hb _ ih =>
      rw [quotedAfter_cons, if_neg hc, outside_bare hc]
      refine ⟨ih.1, fun d hd hmem => ?_⟩
      rcases List.mem_cons.mp hmem with rfl | hmem
      · exact hb hd
      · exact ih.2 d hd hmem
  · rintro ⟨rfl, hbad⟩
    induction cs generalizing q with
    | nil => exact .nil q
    | cons c cs ih =>
      by_cases hc : c = '"'
      · subst hc
        exact .quote (ih hbad)
      · rw [quotedAfter_cons, if_neg hc]
        cases q with
        | true => exact .inside hc (ih (outside_inside hc cs ▸ hbad))
        | false =>
          rw [outside_bare hc] at hbad
          exact .outside hc (fun hmem => hbad c hmem List.mem_cons_self)
            (ih fun d hd hmem => hbad d hd (List.mem_cons_of_mem c hmem))

end Literals

/-! ## Braces -/

/-- The braces opened outside literals. -/
def opened (quoted : Bool) (cs : List Char) : Nat := (outside quoted cs).count '\x7b'

/-- The braces closed outside literals. -/
def closed (quoted : Bool) (cs : List Char) : Nat := (outside quoted cs).count '\x7d'

/-- Somewhere the text has closed more braces than were open, `depth` of them from before it. -/
def Overcloses (depth : Nat) (quoted : Bool) (cs : List Char) : Prop :=
  ∃ p, p <+: cs ∧ depth + opened quoted p < closed quoted p

/-- The text closes the `depth` braces that are open and all that it opens, and no others; it ends outside
literals; and each `;` in it stands within a literal or within braces. -/
structure Whole (depth : Nat) (quoted : Bool) (cs : List Char) : Prop where
  opens_first : ¬ Overcloses depth quoted cs
  balanced : depth + opened quoted cs = closed quoted cs
  unquoted : quotedAfter quoted cs = false
  uncut : ∀ before after, cs = before ++ ';' :: after →
    quotedAfter quoted before = true ∨ closed quoted before < depth + opened quoted before

/-- The character leads from `d` open braces and the state `q` to `d'` and `q'`. -/
inductive Moves : Nat → Bool → Char → Nat → Bool → Prop
  | quote (d : Nat) (q : Bool) : Moves d q '"' d (!q)
  | inside {c : Char} (d : Nat) (hc : c ≠ '"') : Moves d true c d true
  | opening (d : Nat) : Moves d false '\x7b' (d + 1) false
  | closing (d : Nat) : Moves (d + 1) false '\x7d' d false
  | other {c : Char} (d : Nat) (hc : c ≠ '"') (ho : c ≠ '\x7b') (hcl : c ≠ '\x7d') :
      Moves d false c d false

/-- The character does not separate clauses: it is no `;`, or stands within a literal or within braces. -/
def Kept (d : Nat) (q : Bool) (c : Char) : Prop := c = ';' → q = true ∨ 0 < d

theorem kept_or_cut (d : Nat) (q : Bool) (c : Char) : Kept d q c ∨ c = ';' ∧ q = false ∧ d = 0 := by
  by_cases hk : Kept d q c
  · exact .inl hk
  · exact .inr (by simpa [Kept, Nat.pos_iff_ne_zero] using hk)

/-- Every character leads on but a closing brace where none is open. -/
theorem moves_or_closes (d : Nat) (q : Bool) (c : Char) :
    (∃ d' q', Moves d q c d' q') ∨ d = 0 ∧ q = false ∧ c = '\x7d' := by
  by_cases hc : c = '"'
  · exact .inl ⟨d, !q, hc ▸ .quote d q⟩
  cases q with
  | true => exact .inl ⟨d, true, .inside d hc⟩
  | false =>
    by_cases ho : c = '\x7b'
    · exact .inl ⟨d + 1, false, ho ▸ .opening d⟩
    by_cases hcl : c = '\x7d'
    · cases d with
      | zero => exact .inr ⟨rfl, rfl, hcl⟩
      | succ d => exact .inl ⟨d, false, hcl ▸ .closing d⟩
    · exact .inl ⟨d, false, .other d hc ho hcl⟩

namespace Moves

variable {d d' : Nat} {q q' : Bool} {c : Char}

/-- What the character does to the depth is what it does to the count of braces. -/
theorem balance (h : Moves d q c d' q') (cs : List Char) :
    d + opened q (c :: cs) + closed q' cs = d' + opened q' cs + closed q (c :: cs) := by
  unfold opened closed
  cases h with
  | quote => rw [outside_quote]
  | inside _ hc => rw [outside_inside hc]
  | opening =>
    rw [outside_bare (by decide), List.count_cons_self, List.count_cons_of_ne (by decide)]
    omega
  | closing =>
    rw [outside_bare (by decide), List.count_cons_self, List.count_cons_of_ne (by decide)]
    omega
  | other _ hc ho hcl =>
    rw [outside_bare hc, List.count_cons_of_ne ho, List.count_cons_of_ne hcl]

theorem quotedAfter_eq (h : Moves d q c d' q') (cs : List Char) :
    quotedAfter q (c :: cs) = quotedAfter q' cs := by
  rw [quotedAfter_cons]
  cases h with
  | quote => rw [if_pos rfl]
  | inside _ hc => rw [if_neg hc]
  | opening | closing => rfl
  | other _ hc => rw [if_neg hc]

theorem overcloses (h : Moves d q c d' q') {cs : List Char} :
    Overcloses d q (c :: cs) ↔ Overcloses d' q' cs := by
  constructor
  · rintro ⟨p, hp, hlt⟩
    rcases List.prefix_cons_iff.mp hp with rfl | ⟨t, rfl, ht⟩
    · exact absurd hlt (Nat.not_lt_zero _)
    · have hbalance := h.balance t
      exact ⟨t, ht, by omega⟩
  · rintro ⟨t, ht, hlt⟩
    have hbalance := h.balance t
    exact ⟨c :: t, List.cons_prefix_cons.mpr ⟨rfl, ht⟩, by omega⟩

/-- A character that does not separate clauses stays with the first of them. -/
theorem kept (h : Moves d q c d' q') (hk : Kept d q c) (cs : List Char) :
    splitClausesFrom d q (c :: cs) = (splitClausesFrom d' q' cs).map (consPart c) := by
  cases h with
  | quote => rw [splitClausesFrom_cons (.inl rfl), if_pos rfl]
  | inside _ hc => rw [splitClausesFrom_cons (.inr (.inl rfl)), if_neg hc]
  | opening | closing => rfl
  | other _ hc ho hcl =>
    have hdepth : c = ';' → d ≠ 0 := fun he =>
      Nat.pos_iff_ne_zero.mp ((hk he).resolve_left Bool.false_ne_true)
    rw [splitClausesFrom_cons (.inr (.inr ⟨ho, hcl, hdepth⟩)), if_neg hc]

theorem fails (h : Moves d q c d' q') {cs : List Char} {fault : CompositionFault} :
    splitClausesFrom d q (c :: cs) = .error fault ↔ splitClausesFrom d' q' cs = .error fault := by
  rcases kept_or_cut d q c with hk | ⟨rfl, rfl, rfl⟩
  · rw [h.kept hk, map_eq_error]
  · cases h
    rw [splitClausesFrom_separator, map_eq_error]

end Moves

section Clauses

variable {d : Nat} {q : Bool} {cs p : List Char} {parts : List (List Char)}

theorem overcloses_closing (cs : List Char) : Overcloses 0 false ('\x7d' :: cs) :=
  ⟨['\x7d'], List.cons_prefix_cons.mpr ⟨rfl, List.nil_prefix⟩, by decide⟩

theorem not_overcloses_nil (d : Nat) (q : Bool) : ¬ Overcloses d q [] := by
  rintro ⟨p, hp, hlt⟩
  rw [List.prefix_nil.mp hp] at hlt
  exact Nat.not_lt_zero _ hlt

/-- **When the cut into clauses fails**: a brace is closed that was not open, or else one is left open. -/
theorem splitClausesFrom_eq_error {fault : CompositionFault} :
    splitClausesFrom d q cs = .error fault ↔
      fault = .unbalancedClose ∧ Overcloses d q cs ∨
      fault = .unbalancedOpen ∧ ¬ Overcloses d q cs ∧ d + opened q cs ≠ closed q cs := by
  induction cs generalizing d q with
  | nil =>
    have hno := not_overcloses_nil d q
    rw [splitClausesFrom]
    by_cases hd : d = 0
    · subst hd
      simp [hno, opened, closed, outside]
    · simp [hno, hd, opened, closed, outside, eq_comm]
  | cons c cs ih =>
    rcases moves_or_closes d q c with ⟨d', q', h⟩ | ⟨rfl, rfl, rfl⟩
    · -- what `c` adds to the braces is in the depth behind it, so both sides are those of the rest
      have hbalance := h.balance cs
      have htotal : d + opened q (c :: cs) ≠ closed q (c :: cs) ↔
          d' + opened q' cs ≠ closed q' cs := by omega
      rw [h.fails, ih, h.overcloses, htotal]
    · have hover := overcloses_closing cs
      simp [splitClausesFrom, hover, eq_comm]

theorem whole_nil : Whole d q [] ↔ d = 0 ∧ q = false := by
  constructor
  · intro h
    exact ⟨h.balanced, h.unquoted⟩
  · rintro ⟨rfl, rfl⟩
    exact ⟨not_overcloses_nil 0 false, rfl, rfl, by simp⟩

theorem whole_cons {d' : Nat} {q' : Bool} {c : Char} (h : Moves d q c d' q') :
    Whole d q (c :: p) ↔ Kept d q c ∧ Whole d' q' p := by
  have hbalance := h.balance
  have hwithin (before : List Char) :
      (quotedAfter q (c :: before) = true ∨ closed q (c :: before) < d + opened q (c :: before)) ↔
        (quotedAfter q' before = true ∨ closed q' before < d' + opened q' before) := by
    have hb := hbalance before
    rw [h.quotedAfter_eq]
    exact or_congr_right (by omega)
  have huncut := @forall_split_cons
    (fun before x _ => x = ';' → quotedAfter q before = true ∨ closed q before < d + opened q before) c p
  constructor
  · rintro ⟨hfirst, hbalanced, hunquoted, hcut⟩
    obtain ⟨hk, hrest⟩ := huncut.mp fun before x after he hx => hcut before after (hx ▸ he)
    refine ⟨hk, h.overcloses.not.mp hfirst, ?_, (h.quotedAfter_eq p) ▸ hunquoted, ?_⟩
    · have hb := hbalance p
      omega
    · exact fun before after he => (hwithin before).mp (hrest before ';' after he rfl)
  · rintro ⟨hk, hfirst, hbalanced, hunquoted, hcut⟩
    refine ⟨h.overcloses.not.mpr hfirst, ?_, (h.quotedAfter_eq p).trans hunquoted, ?_⟩
    · have hb := hbalance p
      omega
    · refine fun before after he => huncut.mpr ⟨hk, ?_⟩ before ';' after he rfl
      rintro before x after he rfl
      exact (hwithin before).mpr (hcut before after he)

/-- What the cut into clauses gives is whole: the first part from where the text starts, the others from the
top level. -/
theorem whole_of_splitClausesFrom (h : splitClausesFrom d q cs = .ok parts)
    (hq : quotedAfter q cs = false) :
    ∃ p ps, parts = p :: ps ∧ Whole d q p ∧ ∀ r ∈ ps, Whole 0 false r := by
  induction cs generalizing d q parts with
  | nil =>
    unfold splitClausesFrom at h
    split at h
    · rename_i hd
      cases h
      exact ⟨[], [], rfl, whole_nil.mpr ⟨hd, hq⟩, fun _ hr => absurd hr List.not_mem_nil⟩
    · cases h
  | cons c cs ih =>
    rcases moves_or_closes d q c with ⟨d', q', hm⟩ | ⟨rfl, rfl, rfl⟩
    · rcases kept_or_cut d q c with hk | ⟨rfl, rfl, rfl⟩
      · rw [hm.kept hk] at h
        obtain ⟨parts, hparts, rfl⟩ := map_eq_ok.mp h
        obtain ⟨p, ps, rfl, hp, hps⟩ := ih hparts (hm.quotedAfter_eq cs ▸ hq)
        exact ⟨c :: p, ps, rfl, (whole_cons hm).mpr ⟨hk, hp⟩, hps⟩
      · -- nothing is left of the part that ends here, and the next one begins at the top level
        rw [splitClausesFrom_separator] at h
        obtain ⟨parts, hparts, rfl⟩ := map_eq_ok.mp h
        obtain ⟨p, ps, rfl, hp, hps⟩ := ih hparts hq
        exact ⟨[], p :: ps, rfl, whole_nil.mpr ⟨rfl, rfl⟩, List.forall_mem_cons.mpr ⟨hp, hps⟩⟩
    · cases h

/-- What is whole is not cut. -/
theorem Whole.passes (h : Whole d q p) : Passes d q p 0 false := by
  induction p generalizing d q with
  | nil =>
    obtain ⟨rfl, rfl⟩ := whole_nil.mp h
    exact .nil
  | cons c p ih =>
    rcases moves_or_closes d q c with ⟨d', q', hm⟩ | ⟨rfl, rfl, rfl⟩
    · obtain ⟨hk, hp⟩ := (whole_cons hm).mp h
      intro rest parts hr
      rw [List.cons_append, hm.kept hk, ih hp rest parts hr, ← consPart_prependPart]
      rfl
    · exact absurd (overcloses_closing p) h.opens_first

/-- The parts put together with the separator between them. -/
theorem separated_iff_intercalate {sep : List Char} :
    Separated sep (· = ·) parts cs ↔ parts ≠ [] ∧ sep.intercalate parts = cs := by
  constructor
  · intro h
    refine ⟨h.ne_nil, ?_⟩
    induction h with
    | one hx =>
      rw [List.intercalate_singleton]
      exact hx
    | more hx hxs ih =>
      obtain ⟨r, rs, rfl⟩ := List.exists_cons_of_ne_nil hxs.ne_nil
      rw [List.intercalate_cons_cons, ih, hx]
  · rintro ⟨hne, rfl⟩
    induction parts with
    | nil => exact absurd rfl hne
    | cons p ps ih =>
      cases ps with
      | nil => exact .one (List.intercalate_singleton).symm
      | cons r ps =>
        rw [List.intercalate_cons_cons]
        exact .more rfl (ih (List.cons_ne_nil r ps))

/-- Parts that are whole come apart where they were put together. -/
theorem splitClausesFrom_separated (h : Separated [';'] (· = ·) parts cs)
    (hw : ∀ p ∈ parts, Whole 0 false p) : splitClausesFrom 0 false cs = .ok parts := by
  induction h with
  | @one p cs hx =>
    subst hx
    have hpass := (hw p List.mem_cons_self).passes [] [[]] rfl
    simpa [prependPart] using hpass
  | @more p ps cs rest hx _ ih =>
    subst hx
    obtain ⟨hp, hps⟩ := List.forall_mem_cons.mp hw
    have hcut : splitClausesFrom 0 false (';' :: rest) = .ok ([] :: ps) := by
      rw [splitClausesFrom_separator, ih hps]
      rfl
    simpa [prependPart] using hp.passes _ _ hcut

/-- **The cut into clauses is exact**: it gives the one list of whole parts that make up the text. -/
theorem splitClauses_eq_ok (hq : Even (cs.count '"')) :
    splitClauses cs = .ok parts ↔
      parts ≠ [] ∧ [';'].intercalate parts = cs ∧ ∀ p ∈ parts, Whole 0 false p := by
  constructor
  · intro h
    obtain ⟨hne, hjoin⟩ := separated_iff_intercalate.mp (separated_splitClausesFrom h)
    obtain ⟨p, ps, rfl, hp, hps⟩ := whole_of_splitClausesFrom h (quotedAfter_eq_iff.mpr hq)
    exact ⟨hne, hjoin, List.forall_mem_cons.mpr ⟨hp, hps⟩⟩
  · rintro ⟨hne, hjoin, hw⟩
    exact splitClausesFrom_separated (separated_iff_intercalate.mpr ⟨hne, hjoin⟩) hw

end Clauses

/-! ## Operators -/

/-- The operator `ab` stands outside literals at this position of the text. -/
def StandsAt (a b : Char) (quoted : Bool) (cs : List Char) (i : Nat) : Prop :=
  quotedAfter quoted (cs.take i) = false ∧ [a, b] <+: cs.drop i

/-- The positions of the operators between the parts, in the text that these make up. -/
def cuts : List (List Char) → List Nat
  | p :: r :: ps => p.length :: (cuts (r :: ps)).map (· + (p.length + 2))
  | _ => []

/-- Of the positions where something of length 2 stands, those that are found from the left: each that does
not overlap one found before it. -/
def Leftmost (Stands : Nat → Prop) (found : List Nat) : Prop :=
  ∀ i, i ∈ found ↔ Stands i ∧ ∀ j ∈ found, j < i → j + 2 ≤ i

section Operators

variable {a b c : Char} {q : Bool} {cs p r : List Char} {parts : List (List Char)}
  {Stands Stands' : Nat → Prop} {found : List Nat}

/-- Nothing stands anywhere. -/
theorem Leftmost.nil (hno : ∀ i, ¬ Stands i) : Leftmost Stands [] := fun i =>
  iff_of_false List.not_mem_nil fun h => hno i h.1

/-- What is found in a part that begins `w` characters later overlaps the same. -/
theorem Leftmost.shift (w i : Nat) (h : Leftmost Stands found) :
    i + w ∈ found.map (· + w) ↔ Stands i ∧ ∀ j ∈ found.map (· + w), j < i + w → j + 2 ≤ i + w := by
  rw [List.forall_mem_map, List.mem_map_of_injective (add_left_injective w), h i]
  refine and_congr_right fun _ => forall₂_congr fun j _ => ?_
  omega

/-- Nothing stands at the first position. -/
theorem Leftmost.pass (hno : ¬ Stands 0) (hrest : ∀ i, Stands (i + 1) ↔ Stands' i)
    (h : Leftmost Stands' found) : Leftmost Stands (found.map (· + 1)) := by
  intro i
  cases i with
  | zero => exact iff_of_false (by simp) fun hzero => hno hzero.1
  | succ i =>
    rw [hrest]
    exact h.shift 1 i

/-- What stands at the first position is found, and what overlaps it is not. -/
theorem Leftmost.hit (hfirst : Stands 0) (hrest : ∀ i, Stands (i + 2) ↔ Stands' i)
    (h : Leftmost Stands' found) : Leftmost Stands (0 :: found.map (· + 2)) := by
  intro i
  rw [List.forall_mem_cons]
  match i with
  | 0 =>
    exact iff_of_true List.mem_cons_self
      ⟨hfirst, fun hlt => absurd hlt (Nat.not_lt_zero 0), fun _ _ hlt => absurd hlt (Nat.not_lt_zero _)⟩
  | 1 => exact iff_of_false (by simp) fun hone => absurd (hone.2.1 Nat.zero_lt_one) (by decide)
  | i + 2 =>
    have hfar : 0 < i + 2 → 0 + 2 ≤ i + 2 := fun _ => by omega
    rw [hrest, List.mem_cons, or_iff_right (Nat.succ_ne_zero _), and_iff_right hfar]
    exact h.shift 2 i

theorem cuts_consPart (h : parts ≠ []) : cuts (consPart c parts) = (cuts parts).map (· + 1) := by
  match parts, h with
  | [p], _ => rfl
  | p :: r :: ps, _ =>
    simp only [consPart, cuts, List.length_cons, List.map_cons, List.map_map]
    congr 2

theorem cuts_nil_cons (h : parts ≠ []) : cuts ([] :: parts) = 0 :: (cuts parts).map (· + 2) := by
  match parts, h with
  | p :: ps, _ => simp [cuts]

theorem standsAt_succ (i : Nat) :
    StandsAt a b q (c :: cs) (i + 1) ↔ StandsAt a b (if c = '"' then !q else q) cs i := Iff.rfl

theorem standsAt_zero : StandsAt a b q cs 0 ↔ q = false ∧ [a, b] <+: cs := Iff.rfl

theorem not_standsAt_of_short (h : cs.length < 2) (i : Nat) : ¬ StandsAt a b q cs i := by
  rintro ⟨-, hprefix⟩
  have hlength := hprefix.length_le
  rw [List.length_drop] at hlength
  exact absurd hlength (by simp only [List.length_cons, List.length_nil]; omega)

/-- **An operator is cut at wherever it is found from the left.** -/
theorem leftmost_cutPairs (ha : a ≠ '"') (hb : b ≠ '"') :
    Leftmost (StandsAt a b q cs) (cuts (cutPairs a b q cs)) := by
  fun_induction cutPairs a b q cs with
  | case1 q => exact .nil (not_standsAt_of_short (by decide))
  | case2 q c => exact .nil (not_standsAt_of_short (by simp))
  | case3 q d cs ih =>
    rw [cuts_consPart (cutPairs_ne_nil a b _ _)]
    refine ih.pass (fun h => ?_) fun i => (standsAt_succ i).trans (by rw [if_pos rfl])
    exact ha (List.cons_prefix_cons.mp h.2).1
  | case4 q c d cs hc hop ih =>
    simp only [Bool.and_eq_true, Bool.not_eq_true', decide_eq_true_eq] at hop
    obtain ⟨⟨rfl, rfl⟩, rfl⟩ := hop
    -- what begins at the second character overlaps the operator, so the search goes on behind both
    rw [cuts_nil_cons (cutPairs_ne_nil _ _ _ _)]
    refine ih.hit ⟨rfl, List.prefix_append _ cs⟩ fun i => ?_
    rw [standsAt_succ, standsAt_succ, if_neg ha, if_neg hb]
  | case5 q c d cs hc hop ih =>
    rw [cuts_consPart (cutPairs_ne_nil a b _ _)]
    refine ih.pass (fun h => ?_) fun i => (standsAt_succ i).trans (by rw [if_neg hc])
    obtain ⟨rfl, hprefix⟩ := standsAt_zero.mp h
    obtain ⟨rfl, hsecond⟩ := List.cons_prefix_cons.mp hprefix
    obtain ⟨rfl, -⟩ := List.cons_prefix_cons.mp hsecond
    exact hop (by simp)

/-- The first cut is the first of all cuts. -/
theorem cutFirstPair?_iff :
    cutFirstPair? a b q cs = some (p, r) ↔
      ∃ ps, ps ≠ [] ∧ cutPairs a b q cs = p :: ps ∧ [a, b].intercalate ps = r := by
  -- a character that is passed comes in front of the first part
  have step {c : Char} {q : Bool} {cs p r : List Char}
      (ih : ∀ {p r}, cutFirstPair? a b q cs = some (p, r) ↔
        ∃ ps, ps ≠ [] ∧ cutPairs a b q cs = p :: ps ∧ [a, b].intercalate ps = r) :
      (cutFirstPair? a b q cs).map (fun e => (c :: e.1, e.2)) = some (p, r) ↔
        ∃ ps, ps ≠ [] ∧ consPart c (cutPairs a b q cs) = p :: ps ∧ [a, b].intercalate ps = r := by
    obtain ⟨p', ps', hcut⟩ := List.exists_cons_of_ne_nil (cutPairs_ne_nil a b q cs)
    rw [Option.map_eq_some_iff]
    constructor
    · rintro ⟨⟨p, r⟩, hp, he⟩
      cases he
      obtain ⟨ps, hne, hps, hr⟩ := ih.mp hp
      exact ⟨ps, hne, by rw [hps]; rfl, hr⟩
    · rintro ⟨ps, hne, hps, hr⟩
      rw [hcut] at hps
      cases hps
      exact ⟨(p', r), ih.mpr ⟨_, hne, hcut, hr⟩, rfl⟩
  fun_induction cutPairs a b q cs generalizing p r with
  | case1 q => simp [cutFirstPair?]
  | case2 q c => simp [cutFirstPair?]
  | case3 q d cs ih =>
    rw [cutFirstPair?, if_pos rfl]
    exact step ih
  | case4 q c d cs hc hop ih =>
    simp only [Bool.and_eq_true, Bool.not_eq_true', decide_eq_true_eq] at hop
    obtain ⟨⟨rfl, rfl⟩, rfl⟩ := hop
    obtain ⟨hne, hjoin⟩ := separated_iff_intercalate.mp (separated_cutPairs c d false cs)
    rw [cutFirstPair?, if_neg hc, if_pos (by simp)]
    constructor
    · intro h
      cases h
      exact ⟨_, hne, rfl, hjoin⟩
    · rintro ⟨ps, -, hps, rfl⟩
      cases hps
      rw [hjoin]
  | case5 q c d cs hc hop ih =>
    rw [cutFirstPair?, if_neg hc, if_neg hop]
    exact step ih

end Operators

/-! ## Brackets -/

section Brackets

variable {opening close : Char} {q : Bool} {cs body rest : List Char}

theorem avoids_of_readEnclosedFrom (h : readEnclosedFrom opening close q cs = .ok (body, rest)) :
    close ≠ '"' ∧ Avoids [opening, close] q body false := by
  induction cs generalizing q body with
  | nil => cases h
  | cons c cs ih =>
    have step {q : Bool}
        (h : (readEnclosedFrom opening close q cs).map (fun e => (c :: e.1, e.2)) = .ok (body, rest)) :
        ∃ p, body = c :: p ∧ close ≠ '"' ∧ Avoids [opening, close] q p false := by
      obtain ⟨⟨p, r⟩, hp, he⟩ := map_eq_ok.mp h
      cases he
      exact ⟨p, rfl, ih hp⟩
    rw [readEnclosedFrom] at h
    split at h
    · rename_i hc
      obtain ⟨p, rfl, hclose, hp⟩ := step h
      exact ⟨hclose, hc ▸ .quote hp⟩
    rename_i hc
    split at h
    · rename_i hq
      obtain ⟨p, rfl, hclose, hp⟩ := step h
      rw [hq] at hp ⊢
      exact ⟨hclose, .inside hc hp⟩
    rename_i hq
    rw [Bool.not_eq_true] at hq
    subst hq
    split at h
    · rename_i hend
      cases h
      exact ⟨hend ▸ hc, .nil false⟩
    rename_i hclose
    split at h
    · cases h
    · rename_i hopening
      obtain ⟨p, rfl, hne, hp⟩ := step h
      exact ⟨hne, .outside hc (by simp [hclose, hopening]) hp⟩

/-- **What brackets enclose** is all before the first closing one outside literals, if no other is opened
before. -/
theorem readEnclosed_eq_ok :
    readEnclosed opening close cs = .ok (body, rest) ↔
      close ≠ '"' ∧ cs = body ++ close :: rest ∧ Even (body.count '"') ∧
        opening ∉ outside false body ∧ close ∉ outside false body := by
  have havoids : Avoids [opening, close] false body false ↔
      Even (body.count '"') ∧ opening ∉ outside false body ∧ close ∉ outside false body := by
    rw [avoids_iff, quotedAfter_eq_iff, List.forall_mem_cons, List.forall_mem_singleton]
  rw [← havoids]
  constructor
  · intro h
    obtain ⟨hclose, hbody⟩ := avoids_of_readEnclosedFrom h
    exact ⟨hclose, readEnclosed_eq h, hbody⟩
  · rintro ⟨hclose, rfl, hbody⟩
    exact readEnclosed_append hbody (by simp) (by simp) hclose rest

end Brackets

/-! ## Conditional clauses -/

/-- One round over what is left of a conditional clause: the keyword of a block is taken off, and then what
the brackets behind it enclose. -/
inductive Round (refuse : Chain → Option CompositionFault) (cs : List Char) : List Char → Prop
  | guarded {keyword after rest : List Char} {block : GuardedBlock}
      (hk : keyword = ['i', 'f', '('] ∨ keyword = ['e', 'l', 's', 'e', 'i', 'f', '('])
      (ha : after? keyword cs = some after) (hb : readGuarded refuse after = .ok (block, rest)) :
      Round refuse cs rest
  | otherwise {after body rest : List Char} (ha : after? ['e', 'l', 's', 'e', '\x7b'] cs = some after)
      (hb : readEnclosed '\x7b' '\x7d' after = .ok (body, rest)) : Round refuse cs rest

section Rounds

variable {refuse : Chain → Option CompositionFault} {cs rest : List Char}

/-- **Each round leaves less**: a proper end of the text. -/
theorem Round.shortens (h : Round refuse cs rest) : rest <:+ cs ∧ rest.length < cs.length := by
  cases h with
  | @guarded keyword after _ block hk ha hb =>
    obtain ⟨-, p, -, rfl⟩ := readGuarded_eq_ok.mp hb
    have hlength := length_readGuarded hb
    rw [after?_eq_some.mp ha, List.length_append, ← List.append_assoc]
    exact ⟨List.suffix_append _ _, by omega⟩
  | @otherwise after body _ ha hb =>
    rw [after?_eq_some.mp ha, readEnclosed_eq hb]
    refine ⟨⟨['e', 'l', 's', 'e', '\x7b'] ++ (body ++ ['\x7d']), by simp⟩, ?_⟩
    simp only [List.length_append, List.length_cons]
    omega

theorem rounds_of_readAlternatives {blocks : List GuardedBlock} {otherwise : Option (List Chain)}
    (h : readAlternatives refuse cs = .ok (blocks, otherwise)) :
    Relation.ReflTransGen (Round refuse) cs [] := by
  fun_induction readAlternatives refuse cs generalizing blocks otherwise with
  | case1 cs he =>
    rw [List.isEmpty_iff.mp he]
  | case2 => cases h
  | case3 => cases h
  | case4 cs _ after hafter b rest hb bs' o' halt ih =>
    exact .head (.guarded (.inr rfl) hafter hb) (ih halt)
  | case5 => cases h
  | case6 cs _ _ after hafter chains hchains =>
    obtain ⟨-, body, hb, rfl⟩ := readElse_eq_ok.mp hchains
    exact .single (.otherwise hafter (readEnclosed_block hb))
  | case7 => cases h

/-- A conditional clause is read round by round until nothing is left of it. -/
theorem rounds_of_readClause {blocks : List GuardedBlock} {otherwise : Option (List Chain)}
    (h : readClause refuse cs = .ok (.conditional blocks otherwise)) :
    Relation.TransGen (Round refuse) cs [] := by
  unfold readClause at h
  split at h
  · rename_i after ha
    obtain ⟨⟨block, rest⟩, hb, h⟩ := bind_eq_ok.mp h
    obtain ⟨⟨blocks, otherwise⟩, halt, -⟩ := bind_eq_ok.mp h
    exact .head' (.guarded (.inl rfl) ha hb) (rounds_of_readAlternatives halt)
  · obtain ⟨chain, -, h⟩ := bind_eq_ok.mp h
    cases h

end Rounds

/-! ## All cuts -/

/-- **The cuts are lossless and exact**, for every text. The cut into clauses, the quotes being even in number,
fails just if more braces are closed than were opened, somewhere or in all, and gives the one list of whole
parts that make up the text. An operator is cut at wherever it stands outside literals, as found from the
left, and the first cut is the first of these. Brackets enclose what stands before the first closing one
outside literals. A round over the rest of a conditional clause leaves a proper end of it, and the clause is
read in such rounds. -/
theorem splitting_exact (cs : List Char) :
    (Even (cs.count '"') →
      ((∃ fault, splitClauses cs = .error fault) ↔
        Overcloses 0 false cs ∨ opened false cs ≠ closed false cs) ∧
      ∀ parts, splitClauses cs = .ok parts ↔
        parts ≠ [] ∧ [';'].intercalate parts = cs ∧ ∀ p ∈ parts, Whole 0 false p) ∧
    (∀ a b, a ≠ '"' → b ≠ '"' →
      [a, b].intercalate (cutPairs a b false cs) = cs ∧
      Leftmost (StandsAt a b false cs) (cuts (cutPairs a b false cs)) ∧
      ∀ p r, cutFirstPair? a b false cs = some (p, r) ↔
        ∃ ps, ps ≠ [] ∧ cutPairs a b false cs = p :: ps ∧ [a, b].intercalate ps = r) ∧
    (∀ opening close body rest, readEnclosed opening close cs = .ok (body, rest) ↔
      close ≠ '"' ∧ cs = body ++ close :: rest ∧ Even (body.count '"') ∧
        opening ∉ outside false body ∧ close ∉ outside false body) ∧
    ∀ refuse,
      (∀ rest, Round refuse cs rest → rest <:+ cs ∧ rest.length < cs.length) ∧
      ∀ blocks otherwise, readClause refuse cs = .ok (.conditional blocks otherwise) →
        Relation.TransGen (Round refuse) cs [] := by
  refine ⟨fun hq => ⟨?_, fun parts => splitClauses_eq_ok hq⟩, fun a b ha hb => ?_,
    fun _ _ _ _ => readEnclosed_eq_ok,
    fun refuse => ⟨fun _ => Round.shortens, fun _ _ => rounds_of_readClause⟩⟩
  · simp only [splitClauses, splitClausesFrom_eq_error, Nat.zero_add]
    constructor
    · rintro ⟨fault, ⟨-, hover⟩ | ⟨-, -, hne⟩⟩
      · exact .inl hover
      · exact .inr hne
    · intro h
      by_cases hover : Overcloses 0 false cs
      · exact ⟨_, .inl ⟨rfl, hover⟩⟩
      · exact ⟨_, .inr ⟨rfl, hover, h.resolve_left hover⟩⟩
  · obtain ⟨-, hjoin⟩ := separated_iff_intercalate.mp (separated_cutPairs a b false cs)
    exact ⟨hjoin, leftmost_cutPairs ha hb, fun _ _ => cutFirstPair?_iff⟩

/-- A conditional clause with marks in a literal, and a `;` in its block. -/
def markedClause : String :=
  "if(h_java:c:A==\"a;&&\x7d\"&&h_java:c:B!=\"x\")\x7bh_java:c:A;h_java:c:B\x7d"

/-- A chain behind it is cut off, its predicates are cut apart, and a first round leaves less of it. -/
theorem markedClause_cut :
    Even ((markedClause ++ ";h_java:c:A").toList.count '"') ∧
      splitClauses (markedClause ++ ";h_java:c:A").toList =
        .ok [markedClause.toList, "h_java:c:A".toList] ∧
      (∀ p ∈ [markedClause.toList, "h_java:c:A".toList], Whole 0 false p) ∧
      Leftmost (StandsAt '&' '&' false (markedClause ++ ";h_java:c:A").toList) [22] ∧
      ∃ rest, Round (fun _ => none) markedClause.toList rest ∧
        rest.length < markedClause.toList.length := by
  have heven : Even ((markedClause ++ ";h_java:c:A").toList.count '"') := by decide
  have hsplit : splitClauses (markedClause ++ ";h_java:c:A").toList =
      .ok [markedClause.toList, "h_java:c:A".toList] := eq_ok_of_toOption (by decide +kernel)
  have hcuts : cuts (cutPairs '&' '&' false (markedClause ++ ";h_java:c:A").toList) = [22] := by
    decide +kernel
  have hread : ∃ blocks otherwise,
      readClause (fun _ => none) markedClause.toList = .ok (.conditional blocks otherwise) := by
    have hshape : (match readClause (fun _ => none) markedClause.toList with
        | .ok (.conditional _ _) => true
        | _ => false) = true := by decide +kernel
    split at hshape
    · exact ⟨_, _, ‹_›⟩
    · cases hshape
  obtain ⟨hclauses, hpairs, -, -⟩ := splitting_exact (markedClause ++ ";h_java:c:A").toList
  obtain ⟨-, -, -, hrounds⟩ := splitting_exact markedClause.toList
  obtain ⟨-, hwhole⟩ := (((hclauses heven).2 _).mp hsplit).2
  obtain ⟨-, hleftmost, -⟩ := hpairs '&' '&' (by decide) (by decide)
  obtain ⟨hshorter, hall⟩ := hrounds fun _ => none
  obtain ⟨blocks, otherwise, hclause⟩ := hread
  obtain ⟨rest, hround, -⟩ := Relation.TransGen.head'_iff.mp (hall blocks otherwise hclause)
  exact ⟨heven, hsplit, hwhole, hcuts ▸ hleftmost, rest, hround, (hshorter rest hround).2⟩

end ServiceFlow.Composition
