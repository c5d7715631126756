import ServiceFlow.Proofs.Composition.Cuts
import ServiceFlow.Proofs.Name.Spelling

/-!
# Reading a composition gives what it is written for

Each reader of `Composition/Clause.lean` gives a result exactly if the text is written for that
result, in the sense of `Grammar.lean`, and no chain in it is refused. So the readers are sound and
complete for the grammar, and a text is written for at most one list of clauses.

* `readChain_eq_ok`, `readCondition_eq_ok`, `readClause_eq_ok`: the parts of a composition.
* `readClauses_eq_ok`: a whole composition.
* `Written.unique`: the grammar leaves no choice.
-/

namespace ServiceFlow

open Text ServiceFlow.Composition

/-! ## Which characters stand where -/

theorem Name.Spelled.chars {n : Name} {cs : List Char} (h : n.Spelled cs) :
    ∀ c ∈ cs, Name.spellable c = true := by
  have hp := Name.parseService_chars h
  rwa [String.toList_ofList] at hp

theorem Name.Spelled.ne_nil {n : Name} {cs : List Char} (h : n.Spelled cs) : cs ≠ [] := by
  rintro rfl
  cases h

/-- A text of names and marks avoids all other characters. -/
theorem Composition.Avoids.of_chars {marks bad cs : List Char}
    (hcs : ∀ c ∈ cs, Name.spellable c = true ∨ c ∈ marks) (hq : '"' ∉ marks)
    (hb : ∀ c ∈ bad, Name.spellable c = false ∧ c ∉ marks) : Avoids bad false cs false := by
  refine Avoids.of_forall fun c hc => ⟨?_, fun hbad => ?_⟩
  · rintro rfl
    rcases hcs _ hc with h | h
    · exact absurd h (by decide)
    · exact hq h
  · obtain ⟨hs, hm⟩ := hb c hbad
    rcases hcs c hc with h | h
    · exact Bool.false_ne_true (hs.symm.trans h)
    · exact hm h

/-- Outside literals a name holds no character that cannot be part of one. -/
theorem Name.Spelled.avoids {n : Name} {cs bad : List Char} (h : n.Spelled cs)
    (hb : ∀ c ∈ bad, Name.spellable c = false) : Avoids bad false cs false :=
  Avoids.of_chars (fun c hc => Or.inl (h.chars c hc)) List.not_mem_nil
    fun c hc => ⟨hb c hc, List.not_mem_nil⟩

namespace Composition

section Separated

variable {α : Type} {sep bad cs : List Char} {Spells : α → List Char → Prop} {xs : List α}

theorem Separated.chars {P : Char → Prop} (h : Separated sep Spells xs cs)
    (hs : ∀ x p, Spells x p → ∀ c ∈ p, P c) (hsep : ∀ c ∈ sep, P c) : ∀ c ∈ cs, P c := by
  induction h with
  | one hx => exact hs _ _ hx
  | more hx _ ih =>
    intro c hc
    rcases List.mem_append.mp hc with hc | hc
    · rcases List.mem_append.mp hc with hc | hc
      · exact hs _ _ hx c hc
      · exact hsep c hc
    · exact ih c hc

theorem Separated.avoids (h : Separated sep Spells xs cs)
    (hs : ∀ x p, Spells x p → Avoids bad false p false) (hsep : Avoids bad false sep false) :
    Avoids bad false cs false := by
  induction h with
  | one hx => exact hs _ _ hx
  | more hx _ ih => exact ((hs _ _ hx).append hsep).append ih

theorem Separated.text_ne_nil (h : Separated sep Spells xs cs)
    (hs : ∀ x p, Spells x p → p ≠ []) : cs ≠ [] := by
  cases h with
  | one hx => exact hs _ _ hx
  | more hx _ =>
    intro he
    exact hs _ _ hx (List.append_eq_nil_iff.mp (List.append_eq_nil_iff.mp he).1).1

theorem Listed.chars {P : Char → Prop} (h : Listed Spells xs cs)
    (hs : ∀ x p, Spells x p → ∀ c ∈ p, P c) (hsep : P ';') : ∀ c ∈ cs, P c := by
  induction h with
  | nil => exact fun c hc => absurd hc List.not_mem_nil
  | one hx => exact hs _ _ hx
  | skip _ ih =>
    intro c hc
    rcases List.mem_cons.mp hc with rfl | hc
    · exact hsep
    · exact ih c hc
  | cons hx _ ih =>
    intro c hc
    rcases List.mem_append.mp hc with hc | hc
    · exact hs _ _ hx c hc
    rcases List.mem_cons.mp hc with rfl | hc
    · exact hsep
    · exact ih c hc

end Separated

end Composition

/-- The characters of chains: those of names, and the marks between names and terms. -/
def chainChar (c : Char) : Prop := Name.spellable c = true ∨ c ∈ [',', '&', '+']

theorem chars_of_spelledInChain {ns : List Name} {cs : List Char}
    (h : Separated [','] Name.SpelledInChain ns cs) :
    ∀ c ∈ cs, (Name.spellable c = true ∧ c ≠ '+') ∨ c = ',' :=
  h.chars (fun _ _ hn c hc => Or.inl ⟨hn.1.chars c hc, fun e => hn.2 (e ▸ hc)⟩)
    (fun _ hc => Or.inr (List.mem_singleton.mp hc))

theorem Term.Written.chars {t : Term} {cs : List Char} (h : t.Written cs) :
    ∀ c ∈ cs, chainChar c := by
  have names {ns : List Name} {cs : List Char} (h : Separated [','] Name.SpelledInChain ns cs) :
      ∀ c ∈ cs, chainChar c := by
    intro c hc
    rcases chars_of_spelledInChain h c hc with hs | rfl
    · exact Or.inl hs.1
    · exact Or.inr List.mem_cons_self
  cases h with
  | plain h => exact names h
  | marked h =>
    intro c hc
    rcases List.mem_cons.mp hc with rfl | hc
    · exact Or.inr (by decide)
    · exact names h c hc

theorem Term.Written.no_plus {t : Term} {cs : List Char} (h : t.Written cs) : '+' ∉ cs := by
  have names {ns : List Name} {cs : List Char} (h : Separated [','] Name.SpelledInChain ns cs) :
      '+' ∉ cs := by
    intro hc
    rcases chars_of_spelledInChain h '+' hc with hs | hs
    · exact hs.2 rfl
    · exact absurd hs (by decide)
  cases h with
  | plain h => exact names h
  | marked h =>
    rw [List.mem_cons, not_or]
    exact ⟨by decide, names h⟩

theorem Term.Written.ne_nil {t : Term} {cs : List Char} (h : t.Written cs) : cs ≠ [] := by
  cases h with
  | plain h => exact h.text_ne_nil fun _ _ hn => hn.1.ne_nil
  | marked h => exact List.cons_ne_nil _ _

theorem Term.Written.names_ne_nil {t : Term} {cs : List Char} (h : t.Written cs) :
    t.names ≠ [] := by
  cases h with
  | plain h => exact h.ne_nil
  | marked h => exact h.ne_nil

theorem Chain.Written.chars {chain : Chain} {cs : List Char} (h : Chain.Written chain cs) :
    ∀ c ∈ cs, chainChar c :=
  Separated.chars h (fun _ _ ht => ht.chars)
    (fun _ hc => by rw [List.mem_singleton.mp hc]; exact Or.inr (by decide))

theorem Chain.Written.ne_nil {chain : Chain} {cs : List Char} (h : Chain.Written chain cs) :
    cs ≠ [] :=
  Separated.text_ne_nil h fun _ _ ht => ht.ne_nil

theorem Clause.Written.ne_nil {clause : Clause} {cs : List Char} (h : clause.Written cs) :
    cs ≠ [] := by
  cases h with
  | chain h => exact Chain.Written.ne_nil h
  | conditional _ _ => exact List.cons_ne_nil _ _

/-- Chains hold no quotes, brackets or other marks. -/
theorem Chain.Written.not_mem {chain : Chain} {cs : List Char} (h : Chain.Written chain cs)
    {c : Char} (hs : Name.spellable c = false) (hc : c ∉ [',', '&', '+']) : c ∉ cs := by
  intro hm
  rcases Chain.Written.chars h c hm with h | h
  · rw [hs] at h
    exact Bool.false_ne_true h
  · exact hc h

/-- Outside its marks a chain avoids everything. -/
theorem Chain.Written.avoids {chain : Chain} {cs bad : List Char} (h : Chain.Written chain cs)
    (hb : ∀ c ∈ bad, Name.spellable c = false ∧ c ∉ [',', '&', '+']) : Avoids bad false cs false :=
  Avoids.of_chars (Chain.Written.chars h) (by decide) hb

/-- Outside the marks of chains and the `;` between them, a block avoids everything. -/
theorem Block.Written.avoids {chains : List Chain} {cs bad : List Char}
    (h : Block.Written chains cs)
    (hb : ∀ c ∈ bad, Name.spellable c = false ∧ c ∉ [',', '&', '+', ';']) :
    Avoids bad false cs false := by
  have hcs : ∀ c ∈ cs, Name.spellable c = true ∨ c ∈ [',', '&', '+', ';'] := by
    refine Listed.chars h (fun _ _ hc c hm => ?_) (Or.inr (by decide))
    rcases Chain.Written.chars hc c hm with h | h
    · exact Or.inl h
    · exact Or.inr (List.mem_append_left [';'] h)
  exact Avoids.of_chars hcs (by decide) hb

/-! ## Chains -/

namespace Composition

theorem readService_eq_ok {n : Name} {cs : List Char} :
    readService cs = .ok n ↔ n.Spelled cs := by
  unfold readService Name.Spelled
  cases Name.parseService (String.ofList cs) with
  | error e => simp
  | ok m => simp

/-- The names of a term. -/
theorem readServices_eq_ok {ns : List Name} {cs : List Char} (hp : '+' ∉ cs) :
    (splitAll ',' cs).mapM readService = .ok ns ↔
      Separated [','] Name.SpelledInChain ns cs := by
  rw [mapM_eq_ok]
  constructor
  · intro h
    have parts := separated_splitAll ',' cs
    refine parts.of_forall₂ ?_
    have free : ∀ p ∈ splitAll ',' cs, '+' ∉ p := by
      intro p hm hc
      have sub : ∀ {ps : List (List Char)} {ds : List Char}, Separated [','] (· = ·) ps ds →
          p ∈ ps → '+' ∈ ds := by
        intro ps ds hs
        induction hs with
        | one hx =>
          intro hm
          rw [← hx, ← List.mem_singleton.mp hm]
          exact hc
        | more hx _ ih =>
          intro hm
          rw [List.append_assoc]
          rcases List.mem_cons.mp hm with rfl | hm
          · exact List.mem_append_left _ (hx ▸ hc)
          · exact List.mem_append_right _ (List.mem_append_right _ (ih hm))
      exact hp (sub parts hm)
    exact (forall₂_and_right h free).imp fun n p hn =>
      ⟨readService_eq_ok.mp hn.1, hn.2⟩
  · intro h
    have comma : ∀ n p, Name.SpelledInChain n p → ',' ∉ p := by
      intro n p hn hc
      exact absurd (hn.1.chars ',' hc) (by decide)
    exact (h.splitAll comma).imp fun n p hn => readService_eq_ok.mpr hn.1

theorem readTerm_eq_ok {t : Term} {cs : List Char} (hp : '+' ∉ cs) :
    readTerm cs = .ok t ↔ t.Written cs := by
  constructor
  · intro h
    unfold readTerm at h
    split at h
    · cases h
    · rename_i cs
      obtain ⟨ns, hn, he⟩ := bind_eq_ok.mp h
      cases he
      exact .marked ((readServices_eq_ok fun hc => hp (List.mem_cons_of_mem _ hc)).mp hn)
    · obtain ⟨ns, hn, he⟩ := bind_eq_ok.mp h
      cases he
      exact .plain ((readServices_eq_ok hp).mp hn)
  · intro h
    cases h with
    | @plain ns cs h =>
      unfold readTerm
      split
      · exact absurd rfl (h.text_ne_nil fun _ _ hn => hn.1.ne_nil)
      · rcases chars_of_spelledInChain h '&' List.mem_cons_self with hs | hs
        · exact absurd hs.1 (by decide)
        · exact absurd hs (by decide)
      · rw [(readServices_eq_ok hp).mpr h]
        rfl
    | @marked ns cs h =>
      have hp' : '+' ∉ cs := fun hc => hp (List.mem_cons_of_mem _ hc)
      rw [readTerm, (readServices_eq_ok hp').mpr h]
      rfl

theorem readChain_eq_ok {chain : Chain} {cs : List Char} :
    readChain cs = .ok chain ↔ Chain.Written chain cs := by
  unfold readChain
  constructor
  · intro h
    split at h
    · cases h
    · rw [mapM_eq_ok] at h
      have free : ∀ p ∈ splitAll '+' cs, '+' ∉ p := fun p hm => not_mem_of_mem_splitAll hm
      exact (separated_splitAll '+' cs).of_forall₂ <|
        (forall₂_and_right h free).imp fun t p ht => (readTerm_eq_ok ht.2).mp ht.1
  · intro h
    have hpar : '(' ∉ cs := Chain.Written.not_mem h (by decide) (by decide)
    have hif : startsGuarded cs = false := by
      rw [Bool.eq_false_iff]
      intro hs
      obtain ⟨r, rfl⟩ := List.isPrefixOf_iff_prefix.mp hs
      exact hpar (by simp)
    have hany : (cs.any fun c => ['\x7b', '\x7d', '(', ')'].contains c) = false := by
      rw [List.any_eq_false]
      intro c hc hb
      rw [List.contains_iff_mem] at hb
      rcases Chain.Written.chars h c hc with hs | hs
      · simp only [List.mem_cons, List.not_mem_nil, or_false] at hb
        rcases hb with rfl | rfl | rfl | rfl <;> exact absurd hs (by decide)
      · simp only [List.mem_cons, List.not_mem_nil, or_false] at hb
        rcases hb with rfl | rfl | rfl | rfl <;> exact absurd hs (by decide)
    rw [hif, hany]
    refine mapM_eq_ok.mpr ?_
    have plus : ∀ t p, Term.Written t p → '+' ∉ p := fun _ _ ht => ht.no_plus
    exact (Separated.splitAll plus h).imp fun t p ht => (readTerm_eq_ok ht.no_plus).mpr ht

theorem readChainWith_eq_ok {refuse : Chain → Option CompositionFault} {chain : Chain}
    {cs : List Char} :
    readChainWith refuse cs = .ok chain ↔ refuse chain = none ∧ Chain.Written chain cs := by
  unfold readChainWith
  rw [bind_eq_ok]
  constructor
  · rintro ⟨c, hc, h⟩
    split at h
    · cases h
    · rename_i hr
      cases h
      exact ⟨hr, readChain_eq_ok.mp hc⟩
  · rintro ⟨hr, h⟩
    refine ⟨chain, readChain_eq_ok.mpr h, ?_⟩
    rw [hr]
    rfl

theorem readBlock_eq_ok {refuse : Chain → Option CompositionFault} {chains : List Chain}
    {cs : List Char} :
    readBlock refuse cs = .ok chains ↔
      (∀ c ∈ chains, refuse c = none) ∧ Block.Written chains cs := by
  unfold readBlock
  rw [mapM_eq_ok]
  simp only [readChainWith_eq_ok]
  rw [List.forall₂_and_left]
  constructor
  · rintro ⟨hr, h⟩
    exact ⟨hr, Listed.of_forall₂ (separated_splitAll ';' cs) h⟩
  · rintro ⟨hr, h⟩
    have sep : ∀ c p, Chain.Written c p → p ≠ [] ∧ ';' ∉ p := fun c p hc =>
      ⟨Chain.Written.ne_nil hc, Chain.Written.not_mem hc (by decide) (by decide)⟩
    exact ⟨hr, Listed.splitAll sep h⟩

/-! ## Guards -/

theorem readState_eq_ok {state : String} {cs : List Char} :
    readState cs = .ok state ↔ cs = quoted state ∧ '"' ∉ state.toList := by
  constructor
  · intro h
    unfold readState at h
    split at h
    · rename_i rest
      split at h
      · rename_i content hrev
        split at h
        · cases h
        · rename_i hc
          cases h
          have hrest := congrArg List.reverse hrev
          rw [List.reverse_reverse, List.reverse_cons] at hrest
          rw [List.contains_iff_mem] at hc
          rw [quoted, String.toList_ofList, hrest]
          exact ⟨rfl, fun hm => hc (List.mem_reverse.mp hm)⟩
      · cases h
    · cases h
  · rintro ⟨rfl, hs⟩
    have hc : ¬ state.toList.reverse.contains '"' = true := by
      rw [List.contains_iff_mem, List.mem_reverse]
      exact hs
    simp only [readState, quoted, List.reverse_append, List.reverse_singleton,
      List.singleton_append, if_neg hc, List.reverse_reverse, String.ofList_toList]

theorem readCompared_eq_ok {k : Comparison} {p : Predicate} {service literal : List Char} :
    readCompared k service literal = .ok p ↔
      p.comparison = k ∧ p.service.Spelled service ∧ literal = quoted p.state ∧
        '"' ∉ p.state.toList := by
  unfold readCompared
  rw [bind_eq_ok]
  constructor
  · rintro ⟨state, hs, h⟩
    split at h
    · rename_i n hn
      cases h
      exact ⟨rfl, hn, readState_eq_ok.mp hs⟩
    · cases h
  · rintro ⟨rfl, hn, hl⟩
    refine ⟨p.state, readState_eq_ok.mpr hl, ?_⟩
    have hn' : Name.parseService (String.ofList service) = .ok p.service := hn
    rw [hn']
    rfl

/-- The comparison of a predicate is found where its name ends. -/
theorem cutFirstPair?_predicate {n : Name} {cs rest : List Char} {a b : Char} (h : n.Spelled cs)
    (ha : Name.spellable a = false) (hq : a ≠ '"') :
    cutFirstPair? a b false (cs ++ a :: b :: rest) = some (cs, rest) := by
  have avoids : Avoids [a] false cs false :=
    h.avoids fun c hc => by rw [List.mem_singleton.mp hc]; exact ha
  rw [cutFirstPair?_append avoids List.mem_cons_self, cutFirstPair?_operator hq]
  simp

/-- A predicate with `!=` holds no `==` outside its literal. -/
theorem cutFirstPair?_differs {n : Name} {cs : List Char} {state : String} (h : n.Spelled cs)
    (hs : '"' ∉ state.toList) :
    cutFirstPair? '=' '=' false (cs ++ '!' :: '=' :: quoted state) = none := by
  have avoids : Avoids ['='] false cs false :=
    h.avoids fun c hc => by rw [List.mem_singleton.mp hc]; decide
  have literal : cutFirstPair? '=' '=' false (quoted state) = none := by
    have avoids : Avoids ['='] false (quoted state) false := Avoids.literal hs
    have e := cutFirstPair?_append (a := '=') (b := '=') avoids List.mem_cons_self []
    rw [List.append_nil] at e
    rw [e]
    rfl
  have mark : cutFirstPair? '=' '=' false ('=' :: quoted state) = none := by
    have hop : ¬ (!false && decide ('=' = '=') && decide ('"' = '=')) = true := by decide
    unfold quoted at literal ⊢
    rw [cutFirstPair?, if_neg (by decide), if_neg hop, literal]
    rfl
  rw [cutFirstPair?_append avoids List.mem_cons_self,
    cutFirstPair?_cons (Or.inr (Or.inr (by decide))), if_neg (by decide), mark]
  rfl

theorem readPredicate_eq_ok {p : Predicate} {cs : List Char} :
    readPredicate cs = .ok p ↔ p.Written cs := by
  constructor
  · intro h
    unfold readPredicate at h
    split at h
    · rename_i service literal hcut
      obtain ⟨hk, hn, rfl, hs⟩ := readCompared_eq_ok.mp h
      rw [cutFirstPair?_eq_some hcut]
      obtain ⟨n, k, state⟩ := p
      subst hk
      exact .equals hn hs
    · split at h
      · rename_i service literal hcut
        obtain ⟨hk, hn, rfl, hs⟩ := readCompared_eq_ok.mp h
        rw [cutFirstPair?_eq_some hcut]
        obtain ⟨n, k, state⟩ := p
        subst hk
        exact .differs hn hs
      · cases h
  · intro h
    unfold readPredicate
    cases h with
    | equals hn hs =>
      rw [cutFirstPair?_predicate hn (by decide) (by decide)]
      exact readCompared_eq_ok.mpr ⟨rfl, hn, rfl, hs⟩
    | differs hn hs =>
      rw [cutFirstPair?_differs hn hs]
      simp only
      rw [cutFirstPair?_predicate hn (by decide) (by decide)]
      exact readCompared_eq_ok.mpr ⟨rfl, hn, rfl, hs⟩

end Composition

/-- Outside its comparison a predicate avoids all marks. -/
theorem Predicate.Written.avoids {p : Predicate} {cs bad : List Char} (h : p.Written cs)
    (hb : ∀ c ∈ bad, Name.spellable c = false ∧ c ∉ ['=', '!']) : Avoids bad false cs false := by
  have mark {c : Char} (hc : c ∈ ['=', '!']) : c ∉ bad := fun hm => (hb c hm).2 hc
  have name {n : Name} {cs : List Char} (hn : n.Spelled cs) : Avoids bad false cs false :=
    hn.avoids fun c hm => (hb c hm).1
  cases h with
  | equals hn hs =>
    exact (name hn).append <| .outside (by decide) (mark (by decide)) <|
      .outside (by decide) (mark (by decide)) (Avoids.literal hs)
  | differs hn hs =>
    exact (name hn).append <| .outside (by decide) (mark (by decide)) <|
      .outside (by decide) (mark (by decide)) (Avoids.literal hs)

/-- Outside its comparisons and junctions a condition avoids all marks. -/
theorem Condition.Written.avoids {c : Condition} {cs bad : List Char} (h : c.Written cs)
    (hb : ∀ c ∈ bad, Name.spellable c = false ∧ c ∉ ['=', '!', '&', '|']) :
    Avoids bad false cs false := by
  have predicate (p : Predicate) (cs : List Char) (hp : p.Written cs) : Avoids bad false cs false :=
    hp.avoids fun c hm => ⟨(hb c hm).1, fun hc => (hb c hm).2 (List.mem_append_left ['&', '|'] hc)⟩
  have mark {c : Char} (hc : c ∈ ['=', '!', '&', '|']) : c ∉ bad := fun hm => (hb c hm).2 hc
  cases h with
  | all h =>
    exact h.avoids predicate <| .outside (by decide) (mark (by decide)) <|
      .outside (by decide) (mark (by decide)) (.nil false)
  | any h _ =>
    exact h.avoids predicate <| .outside (by decide) (mark (by decide)) <|
      .outside (by decide) (mark (by decide)) (.nil false)

namespace Composition

/-- The parts at an operator that no predicate holds are the predicates. -/
theorem cutPairs_predicates {a : Char} {ps : List Predicate} {cs : List Char}
    (h : Separated [a, a] Predicate.Written ps cs) (hs : Name.spellable a = false)
    (ha : a ∉ ['=', '!', '"']) :
    List.Forall₂ Predicate.Written ps (cutPairs a a false cs) := by
  simp only [List.mem_cons, List.not_mem_nil, or_false, not_or] at ha
  refine h.cutPairs ha.2.2 fun p cs hp => hp.avoids fun c hc => ?_
  rw [List.mem_singleton.mp hc]
  exact ⟨hs, by simp [ha.1, ha.2.1]⟩

/-- An operator that does not stand between the predicates does not cut the condition. -/
theorem cutPairs_other {a b : Char} {ps : List Predicate} {cs : List Char}
    (h : Separated [a, a] Predicate.Written ps cs) (hs : Name.spellable b = false)
    (hab : a ≠ b) (ha : a ≠ '"') (hb : b ∉ ['=', '!']) : cutPairs b b false cs = [cs] := by
  have predicate (p : Predicate) (cs : List Char) (hp : p.Written cs) :
      Avoids [b] false cs false :=
    hp.avoids fun c hc => by rw [List.mem_singleton.mp hc]; exact ⟨hs, hb⟩
  have mark : a ∉ [b] := fun hm => hab (List.mem_singleton.mp hm)
  have avoids : Avoids [b] false cs false :=
    h.avoids predicate (.outside ha mark (.outside ha mark (.nil false)))
  have e := cutPairs_append (b := b) avoids List.mem_cons_self []
  rw [List.append_nil] at e
  rw [e]
  simp [cutPairs, prependPart]

theorem readCondition_eq_ok {c : Condition} {cs : List Char} :
    readCondition cs = .ok c ↔ c.Written cs := by
  constructor
  · intro h
    unfold readCondition at h
    simp only at h
    split at h
    · cases h
    · split at h
      · rename_i hany
        obtain ⟨ps, hp, he⟩ := bind_eq_ok.mp h
        cases he
        have parts := mapM_eq_ok.mp hp
        refine .any ((separated_cutPairs '|' '|' false cs).of_forall₂ ?_) ?_
        · exact parts.imp fun p cs hp => readPredicate_eq_ok.mp hp
        · rw [parts.length_eq]
          exact hany
      · obtain ⟨ps, hp, he⟩ := bind_eq_ok.mp h
        cases he
        exact .all <| (separated_cutPairs '&' '&' false cs).of_forall₂ <|
          (mapM_eq_ok.mp hp).imp fun p cs hp => readPredicate_eq_ok.mp hp
  · intro h
    unfold readCondition
    cases h with
    | @all ps cs h =>
      have parts := cutPairs_predicates h (by decide) (by decide)
      have read := mapM_eq_ok.mpr (parts.imp fun p cs hp => readPredicate_eq_ok.mpr hp)
      have one := cutPairs_other (b := '|') h (by decide) (by decide) (by decide) (by decide)
      simp only [one, List.length_singleton, Nat.lt_irrefl, decide_false, Bool.and_false,
        Bool.false_eq_true, if_false, read]
      rfl
    | @any ps cs h hl =>
      have parts := cutPairs_predicates h (by decide) (by decide)
      have read := mapM_eq_ok.mpr (parts.imp fun p cs hp => readPredicate_eq_ok.mpr hp)
      have one := cutPairs_other (b := '&') h (by decide) (by decide) (by decide) (by decide)
      have many : 1 < (cutPairs '|' '|' false cs).length := parts.length_eq ▸ hl
      simp only [one, List.length_singleton, Nat.lt_irrefl, decide_false, Bool.false_and,
        Bool.false_eq_true, if_false, if_pos many, read]
      rfl

/-! ## Clauses -/

section Clauses

variable {refuse : Chain → Option CompositionFault}

/-- The chains of the blocks that may follow a guarded block. -/
def alternativeChains (bs : List GuardedBlock) (o : Option (List Chain)) : List Chain :=
  bs.flatMap (·.chains) ++ o.getD []

theorem forall_alternativeChains_cons {b : GuardedBlock} {bs : List GuardedBlock}
    {o : Option (List Chain)} {P : Chain → Prop} :
    (∀ c ∈ alternativeChains (b :: bs) o, P c) ↔
      (∀ c ∈ b.chains, P c) ∧ ∀ c ∈ alternativeChains bs o, P c := by
  unfold alternativeChains
  rw [List.flatMap_cons, List.append_assoc]
  exact List.forall_mem_append

/-- The braces of a block close where it ends. -/
theorem readEnclosed_block {chains : List Chain} {body rest : List Char}
    (hb : Block.Written chains body) :
    readEnclosed '\x7b' '\x7d' (body ++ '\x7d' :: rest) = .ok (body, rest) := by
  have avoids : Avoids ['\x7b', '\x7d'] false body false :=
    Block.Written.avoids hb (forall_mem_of_all (by decide))
  exact readEnclosed_append avoids (by decide) (by decide) (by decide) rest

theorem readGuarded_eq_ok {b : GuardedBlock} {cs rest : List Char} :
    readGuarded refuse cs = .ok (b, rest) ↔
      (∀ c ∈ b.chains, refuse c = none) ∧ ∃ p, b.Written p ∧ cs = p ++ rest := by
  constructor
  · intro h
    unfold readGuarded at h
    split at h
    · cases h
    rename_i guard r1 h1
    split at h
    · cases h
    rename_i condition hcond
    split at h
    · rename_i r2
      split at h
      · cases h
      rename_i body r3 h3
      split at h
      · cases h
      rename_i chains hchains
      cases h
      obtain ⟨hr, hb⟩ := readBlock_eq_ok.mp hchains
      refine ⟨hr, _, .mk (readCondition_eq_ok.mp hcond) hb, ?_⟩
      rw [readEnclosed_eq h1, readEnclosed_eq h3]
      simp
    · cases h
  · rintro ⟨hr, p, hw, rfl⟩
    cases hw with
    | @mk c chains guard body hc hb =>
      have avoids : Avoids ['(', ')'] false guard false :=
        hc.avoids (forall_mem_of_all (by decide))
      have paren : readEnclosed '(' ')' (guard ++ ')' :: '\x7b' :: (body ++ '\x7d' :: rest)) =
          .ok (guard, '\x7b' :: (body ++ '\x7d' :: rest)) :=
        readEnclosed_append avoids (by decide) (by decide) (by decide) _
      have text : guard ++ ')' :: '\x7b' :: (body ++ ['\x7d']) ++ rest =
          guard ++ ')' :: '\x7b' :: (body ++ '\x7d' :: rest) := by simp
      unfold readGuarded
      rw [text, paren]
      simp only
      rw [readCondition_eq_ok.mpr hc]
      simp only
      rw [readEnclosed_block hb]
      simp only
      rw [readBlock_eq_ok.mpr ⟨hr, hb⟩]

theorem readElse_eq_ok {chains : List Chain} {cs : List Char} :
    readElse refuse cs = .ok chains ↔
      (∀ c ∈ chains, refuse c = none) ∧
        ∃ body, Block.Written chains body ∧ cs = body ++ ['\x7d'] := by
  constructor
  · intro h
    obtain ⟨⟨body, rest⟩, he, h⟩ := bind_eq_ok.mp h
    obtain ⟨chains', hchains, h⟩ := bind_eq_ok.mp h
    split at h
    · rename_i hrest
      cases h
      obtain ⟨hr, hb⟩ := readBlock_eq_ok.mp hchains
      refine ⟨hr, body, hb, ?_⟩
      rw [readEnclosed_eq he, List.isEmpty_iff.mp hrest]
    · cases h
  · rintro ⟨hr, body, hb, rfl⟩
    refine bind_eq_ok.mpr ⟨(body, []), readEnclosed_block hb, ?_⟩
    exact bind_eq_ok.mpr ⟨chains, readBlock_eq_ok.mpr ⟨hr, hb⟩, rfl⟩

theorem written_of_readAlternatives {bs : List GuardedBlock} {o : Option (List Chain)}
    {cs : List Char} (h : readAlternatives refuse cs = .ok (bs, o)) :
    (∀ c ∈ alternativeChains bs o, refuse c = none) ∧ Alternatives.Written bs o cs := by
  fun_induction readAlternatives refuse cs generalizing bs o with
  | case1 cs he =>
    cases h
    rw [List.isEmpty_iff.mp he]
    exact ⟨fun c hc => absurd hc List.not_mem_nil, .none⟩
  | case2 => cases h
  | case3 => cases h
  | case4 cs _ after hafter b rest hb bs' o' halt ih =>
    cases h
    obtain ⟨hr, hw⟩ := ih halt
    obtain ⟨hr', p, hp, rfl⟩ := readGuarded_eq_ok.mp hb
    rw [after?_eq_some.mp hafter]
    exact ⟨forall_alternativeChains_cons.mpr ⟨hr', hr⟩, .elseIf hp hw⟩
  | case5 => cases h
  | case6 cs _ _ after hafter chains hchains =>
    cases h
    obtain ⟨hr, body, hb, rfl⟩ := readElse_eq_ok.mp hchains
    rw [after?_eq_some.mp hafter]
    exact ⟨hr, .otherwise hb⟩
  | case7 => cases h

/-- What follows `elseif(` is a guarded block, and then more alternatives. -/
theorem readAlternatives_elseIf {b : GuardedBlock} {bs : List GuardedBlock}
    {o : Option (List Chain)} {cs rest : List Char}
    (hguarded : readGuarded refuse cs = .ok (b, rest))
    (halt : readAlternatives refuse rest = .ok (bs, o)) :
    readAlternatives refuse (['e', 'l', 's', 'e', 'i', 'f', '('] ++ cs) = .ok (b :: bs, o) := by
  have hafter : after? ['e', 'l', 's', 'e', 'i', 'f', '(']
      (['e', 'l', 's', 'e', 'i', 'f', '('] ++ cs) = some cs := after?_eq_some.mpr rfl
  rw [readAlternatives, if_neg (by simp)]
  split
  · rename_i after h
    rw [hafter] at h
    obtain rfl := Option.some.inj h
    split
    · rename_i e he
      rw [hguarded] at he
      cases he
    · rename_i hg
      rw [hguarded] at hg
      cases hg
      rw [halt]
  · rename_i h
    rw [hafter] at h
    cases h

theorem readAlternatives_eq_ok {bs : List GuardedBlock} {o : Option (List Chain)}
    {cs : List Char} :
    readAlternatives refuse cs = .ok (bs, o) ↔
      (∀ c ∈ alternativeChains bs o, refuse c = none) ∧ Alternatives.Written bs o cs := by
  refine ⟨written_of_readAlternatives, ?_⟩
  rintro ⟨hr, hw⟩
  induction hw with
  | none =>
    rw [readAlternatives]
    rfl
  | @otherwise chains body hb =>
    have helse : readElse refuse (body ++ ['\x7d']) = .ok chains :=
      readElse_eq_ok.mpr ⟨hr, body, hb, rfl⟩
    rw [readAlternatives]
    simp [after?, helse]
  | elseIf hb _ ih =>
    obtain ⟨hr, hrest⟩ := forall_alternativeChains_cons.mp hr
    exact readAlternatives_elseIf (readGuarded_eq_ok.mpr ⟨hr, _, hb, rfl⟩) (ih hrest)

/-- A chain does not begin like a conditional. -/
theorem after?_if_chain {chain : Chain} {cs : List Char} (h : Chain.Written chain cs) :
    after? ['i', 'f', '('] cs = none := by
  cases hcs : after? ['i', 'f', '('] cs with
  | none => rfl
  | some r =>
    have hpar : '(' ∉ cs := Chain.Written.not_mem h (by decide) (by decide)
    rw [after?_eq_some.mp hcs] at hpar
    exact absurd (by simp) hpar

theorem readClause_eq_ok {clause : Clause} {cs : List Char} :
    readClause refuse cs = .ok clause ↔
      (∀ c ∈ clause.chains, refuse c = none) ∧ clause.Written cs := by
  constructor
  · intro h
    unfold readClause at h
    split at h
    · rename_i after hafter
      obtain ⟨⟨b, rest⟩, hb, h⟩ := bind_eq_ok.mp h
      obtain ⟨⟨bs, o⟩, ho, h⟩ := bind_eq_ok.mp h
      cases h
      obtain ⟨hr, p, hp, rfl⟩ := readGuarded_eq_ok.mp hb
      obtain ⟨hr', hw⟩ := readAlternatives_eq_ok.mp ho
      rw [after?_eq_some.mp hafter]
      exact ⟨forall_alternativeChains_cons.mpr ⟨hr, hr'⟩, .conditional hp hw⟩
    · obtain ⟨c, hc, h⟩ := bind_eq_ok.mp h
      cases h
      obtain ⟨hr, hw⟩ := readChainWith_eq_ok.mp hc
      exact ⟨fun d hd => List.mem_singleton.mp hd ▸ hr, .chain hw⟩
  · rintro ⟨hr, hw⟩
    cases hw with
    | @chain c cs h =>
      unfold readClause
      rw [after?_if_chain h]
      exact bind_eq_ok.mpr ⟨c, readChainWith_eq_ok.mpr ⟨hr c List.mem_cons_self, h⟩, rfl⟩
    | @conditional b bs o cs rest hb hrest =>
      obtain ⟨hr, hr'⟩ := forall_alternativeChains_cons.mp hr
      have hafter : after? ['i', 'f', '('] (['i', 'f', '('] ++ (cs ++ rest)) = some (cs ++ rest) :=
        after?_eq_some.mpr rfl
      have hguarded : readGuarded refuse (cs ++ rest) = .ok (b, rest) :=
        readGuarded_eq_ok.mpr ⟨hr, cs, hb, rfl⟩
      have halt : readAlternatives refuse rest = .ok (bs, o) :=
        readAlternatives_eq_ok.mpr ⟨hr', hrest⟩
      unfold readClause
      rw [hafter]
      exact bind_eq_ok.mpr ⟨(b, rest), hguarded, bind_eq_ok.mpr ⟨(bs, o), halt, rfl⟩⟩

/-! ## Whole compositions -/

/-- The cut into clauses goes through a block in braces. -/
theorem passes_block {chains : List Chain} {body : List Char} (h : Block.Written chains body) :
    Passes 1 false body 1 false := by
  have chain {c : Chain} {cs : List Char} (hc : Chain.Written c cs) :
      Passes 1 false cs 1 false :=
    Passes.of_avoids (Chain.Written.avoids hc (forall_mem_of_all (by decide)))
  induction h with
  | nil => exact Passes.nil
  | one hx => exact chain hx
  | skip _ ih => exact Passes.semicolon.append ih
  | cons hx _ ih => exact (chain hx).append (Passes.semicolon.append ih)

theorem passes_guarded {b : GuardedBlock} {cs : List Char} (h : b.Written cs) :
    Passes 0 false cs 0 false := by
  cases h with
  | @mk c chains guard body hc hb =>
    have paren : Passes 0 false [')'] 0 false :=
      Passes.of_avoids (.outside (by decide) (by decide) (.nil false))
    have braces := (Passes.opening (d := 0)).append ((passes_block hb).append Passes.closing)
    have condition : Passes 0 false guard 0 false :=
      Passes.of_avoids (hc.avoids (forall_mem_of_all (by decide)))
    exact condition.append (paren.append braces)

theorem passes_alternatives {bs : List GuardedBlock} {o : Option (List Chain)} {cs : List Char}
    (h : Alternatives.Written bs o cs) : Passes 0 false cs 0 false := by
  have word : Passes 0 false ['e', 'l', 's', 'e'] 0 false :=
    Passes.of_avoids (Avoids.of_forall (forall_mem_of_all (by decide)))
  have words : Passes 0 false ['e', 'l', 's', 'e', 'i', 'f', '('] 0 false :=
    Passes.of_avoids (Avoids.of_forall (forall_mem_of_all (by decide)))
  induction h with
  | none => exact Passes.nil
  | @otherwise chains body hb =>
    have braces := (Passes.opening (d := 0)).append ((passes_block hb).append Passes.closing)
    exact word.append braces
  | elseIf hb _ ih => exact words.append ((passes_guarded hb).append ih)

theorem passes_clause {clause : Clause} {cs : List Char} (h : clause.Written cs) :
    Passes 0 false cs 0 false := by
  cases h with
  | chain h =>
    exact Passes.of_avoids (Chain.Written.avoids h (forall_mem_of_all (by decide)))
  | conditional hb hr =>
    have keyword : Passes 0 false ['i', 'f', '('] 0 false :=
      Passes.of_avoids (Avoids.of_forall (forall_mem_of_all (by decide)))
    exact keyword.append ((passes_guarded hb).append (passes_alternatives hr))

/-- Dropping white space changes nothing but that, if it is allowed at all. -/
theorem stripBlanksFrom_eq {quoted gap : Bool} {byte : Nat} {written cs t : List Char}
    (h : stripBlanksFrom quoted gap byte written cs = .ok t) :
    t = written.reverse ++ unspaced quoted cs := by
  induction cs generalizing quoted gap byte written with
  | nil =>
    rw [stripBlanksFrom] at h
    split at h
    · cases h
    · cases h
      exact (List.append_nil _).symm
  | cons c cs ih =>
    -- `written` grows by the characters that are kept, so the induction is over all `written`
    have kept {q q' g : Bool}
        (he : stripBlanksFrom q' g (byte + c.utf8Size) (c :: written) cs = .ok t)
        (hq : unspaced q (c :: cs) = c :: unspaced q' cs) :
        t = written.reverse ++ unspaced q (c :: cs) := by
      rw [ih he, hq, List.reverse_cons, List.append_assoc]
      rfl
    rw [stripBlanksFrom] at h
    split at h
    · rename_i hquoted
      refine kept h ?_
      by_cases hc : c = '"'
      · simp [unspaced, hquoted, hc]
      · simp [unspaced, hquoted, hc, bne_iff_ne.mpr hc]
    rename_i hquoted
    have hquoted : quoted = false := Bool.eq_false_iff.mpr hquoted
    split at h
    · rename_i hwhite
      have hc : c ≠ '"' := by
        rintro rfl
        exact absurd hwhite (by decide)
      rw [ih h]
      simp [unspaced, hquoted, hc, hwhite]
    rename_i hwhite
    split at h
    · cases h
    · refine kept h ?_
      by_cases hc : c = '"'
      · simp [unspaced, hquoted, hc]
      · simp [unspaced, hquoted, hc, hwhite, beq_false_of_ne hc]

theorem stripBlanks_eq {cs t : List Char} (h : stripBlanks cs = .ok t) : t = unspaced false cs :=
  stripBlanksFrom_eq h

/-- The texts of the clauses that are not empty are read as the clauses. -/
theorem mapM_readClause_eq_ok {parts : List (List Char)} {clauses : List Clause} {cs : List Char}
    (hp : splitClauses cs = .ok parts) :
    (parts.filter fun part => !part.isEmpty).mapM (readClause refuse) = .ok clauses ↔
      (∀ clause ∈ clauses, ∀ c ∈ clause.chains, refuse c = none) ∧
        Listed Clause.Written clauses cs := by
  rw [mapM_eq_ok]
  simp only [readClause_eq_ok]
  rw [List.forall₂_and_left]
  constructor
  · rintro ⟨hr, h⟩
    exact ⟨hr, .of_forall₂ (separated_splitClausesFrom hp) h⟩
  · rintro ⟨hr, h⟩
    obtain ⟨parts', hp', hf⟩ := h.splitClauses fun _ _ hc => ⟨hc.ne_nil, passes_clause hc⟩
    obtain rfl : parts = parts' := Except.ok.inj (hp.symm.trans hp')
    exact ⟨hr, hf⟩

/-- The reader accepts a text without forbidden gaps exactly for the clauses that it is written
for. -/
theorem readClauses_eq_ok {text : String} {clauses : List Clause} {t : List Char}
    (hs : stripBlanks text.toList = .ok t) :
    readClauses refuse text = .ok clauses ↔
      (∀ clause ∈ clauses, ∀ c ∈ clause.chains, refuse c = none) ∧ Written text clauses := by
  unfold Written
  rw [← stripBlanks_eq hs]
  constructor
  · intro h
    obtain ⟨texts, ht, h⟩ := bind_eq_ok.mp h
    obtain ⟨t', ht', ht⟩ := bind_eq_ok.mp ht
    obtain rfl : t = t' := Except.ok.inj (hs.symm.trans ht')
    obtain ⟨parts, hp, he⟩ := bind_eq_ok.mp ht
    cases he
    exact (mapM_readClause_eq_ok hp).mp h
  · rintro ⟨hr, hw⟩
    obtain ⟨parts, hp, -⟩ := hw.splitClauses fun _ _ hc => ⟨hc.ne_nil, passes_clause hc⟩
    refine bind_eq_ok.mpr ⟨_, bind_eq_ok.mpr ⟨t, hs, bind_eq_ok.mpr ⟨parts, hp, rfl⟩⟩, ?_⟩
    exact (mapM_readClause_eq_ok hp).mpr ⟨hr, hw⟩

/-- What the reader gives, the text is written for. -/
theorem written_of_readClauses {text : String} {clauses : List Clause}
    (h : readClauses refuse text = .ok clauses) :
    (∀ clause ∈ clauses, ∀ c ∈ clause.chains, refuse c = none) ∧ Written text clauses := by
  obtain ⟨texts, ht, -⟩ := bind_eq_ok.mp h
  obtain ⟨t, hs, -⟩ := bind_eq_ok.mp ht
  exact (readClauses_eq_ok hs).mp h

/-- **The grammar leaves no choice**: a text is written for one list of clauses at most. -/
theorem Written.unique {text : String} {clauses clauses' : List Clause} (h : Written text clauses)
    (h' : Written text clauses') : clauses = clauses' := by
  obtain ⟨parts, hp, -⟩ := h.splitClauses fun _ _ hc => ⟨hc.ne_nil, passes_clause hc⟩
  have read {clauses : List Clause} (h : Written text clauses) :
      (parts.filter fun part => !part.isEmpty).mapM (readClause fun _ => none) = .ok clauses :=
    (mapM_readClause_eq_ok hp).mpr ⟨fun _ _ _ _ => rfl, h⟩
  exact Except.ok.inj ((read h).symm.trans (read h'))

end Clauses

end Composition

end ServiceFlow
