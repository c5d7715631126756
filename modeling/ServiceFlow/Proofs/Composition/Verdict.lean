import ServiceFlow.Proofs.Routing.Destinations

/-!
# What becomes of a text

Compiling a text for a service has three outcomes. Which of them it is can be told from the grammar
alone, once white space has been taken out of the text: whether the text is derivable, whether a
waiting term with the owner heads one of its chains, and whether the owner stands in any of them.

* `stripBlanks_of_written`: there is no white space to take out of a written chain.
* `malformed_iff`: the text is refused exactly if the reader gives no clauses for this owner.
* `readClauses_iff_derived`: it gives those that the text is derived for, unless the owner waits at
  the head of a chain.
* `no_statements_iff`: the owner is left without statements exactly if no chain names it.
* `compile_verdict`: the three outcomes, each with its condition.
-/

namespace ServiceFlow.Composition

open Text

variable {owner : Name} {text : String} {clauses : List Clause} {t : List Char}

/-! ## White space -/

/-- No character of a chain is white, nor opens a literal. -/
theorem bare_of_chainChar {a : Char} (h : chainChar a) : isWhite a = false ∧ a ≠ '"' := by
  have hcode : 0x25 ≤ a.toNat ∧ a.toNat ≤ 0x7A := by
    rcases h with h | h
    · exact Name.code_of_spellable h
    · have hmarks : ∀ c ∈ [',', '&', '+'], 0x25 ≤ c.toNat ∧ c.toNat ≤ 0x7A :=
        forall_mem_of_all (by decide)
      exact hmarks a h
  constructor
  · exact not_white_of_code (by omega) (by omega)
  · rintro rfl
    exact absurd hcode (by decide)

theorem stripBlanksFrom_of_bare {byte : Nat} {kept cs : List Char}
    (h : ∀ a ∈ cs, isWhite a = false ∧ a ≠ '"') :
    stripBlanksFrom false false byte kept cs = .ok (kept.reverse ++ cs) := by
  induction cs generalizing byte kept with
  | nil => rw [stripBlanksFrom, if_neg Bool.false_ne_true, List.append_nil]
  | cons a cs ih =>
    obtain ⟨hwhite, hquote⟩ := h a List.mem_cons_self
    rw [stripBlanksFrom, if_neg Bool.false_ne_true, hwhite, if_neg Bool.false_ne_true]
    rw [Bool.false_and, Bool.false_and, Bool.false_and, if_neg Bool.false_ne_true,
      beq_false_of_ne hquote, ih fun b hb => h b (List.mem_cons_of_mem a hb),
      List.reverse_cons, List.append_assoc]
    rfl

/-- A chain holds no white space that could be taken out of it. -/
theorem stripBlanks_of_written {chain : Chain} {cs : List Char} (h : Chain.Written chain cs) :
    stripBlanks cs = .ok cs :=
  stripBlanksFrom_of_bare fun a ha => bare_of_chainChar (h.chars a ha)

/-! ## Clauses -/

/-- A term that waits and names the owner is the first of its chain. -/
def WaitsAtHead (owner : Name) (clauses : List Clause) : Prop :=
  ∃ clause ∈ clauses, ∃ chain ∈ clause.chains, ∃ u, chain[0]? = some u ∧ u.awaitsAll = true ∧
    owner ∈ u.names

theorem refuseWaitingHead_eq_none {chain : Chain} :
    refuseWaitingHead owner chain = none ↔
      ¬ ∃ u, chain[0]? = some u ∧ u.awaitsAll = true ∧ owner ∈ u.names := by
  cases chain with
  | nil => simp [refuseWaitingHead]
  | cons u us => simp [refuseWaitingHead]

theorem not_waitsAtHead :
    (∀ clause ∈ clauses, ∀ chain ∈ clause.chains, refuseWaitingHead owner chain = none) ↔
      ¬ WaitsAtHead owner clauses := by
  simp only [refuseWaitingHead_eq_none, WaitsAtHead, not_exists, not_and]

/-- The clauses that the reader gives are those that the text is derived for. -/
theorem readClauses_iff_derived (hs : stripBlanks text.toList = .ok t) :
    readClauses (refuseWaitingHead owner) text = .ok clauses ↔
      ¬ WaitsAtHead owner clauses ∧ Listed Clause.Written clauses t := by
  rw [readClauses_eq_ok hs, not_waitsAtHead, stripBlanks_eq hs]
  rfl

/-- A text that is read has no forbidden gaps, and is derived for the clauses that it is read as. -/
theorem derived_of_readClauses {refuse : Chain → Option CompositionFault}
    (h : readClauses refuse text = .ok clauses) :
    ∃ t, stripBlanks text.toList = .ok t ∧ Listed Clause.Written clauses t := by
  obtain ⟨texts, ht, -⟩ := bind_eq_ok.mp h
  obtain ⟨t, hs, -⟩ := bind_eq_ok.mp ht
  refine ⟨t, hs, ?_⟩
  rw [stripBlanks_eq hs]
  exact (written_of_readClauses h).2

/-! ## Statements -/

theorem positions_eq_nil {chain : Chain} :
    positions owner chain = [] ↔ ∀ u ∈ chain, owner ∉ u.names := by
  constructor
  · intro h u hu ho
    obtain ⟨i, hi⟩ := List.mem_iff_getElem?.mp hu
    have hp := mem_positions.mpr ⟨i, u, hi, ho, rfl⟩
    rw [h] at hp
    exact List.not_mem_nil hp
  · intro h
    rw [List.eq_nil_iff_forall_not_mem]
    intro p hp
    obtain ⟨i, u, hu, ho, -⟩ := mem_positions.mp hp
    exact h u (List.mem_of_getElem? hu) ho

/-- The owner is left without statements exactly if no chain names it. -/
theorem no_statements_iff :
    ((instructionsOf owner 0 clauses).all fun i => i.statements.isEmpty) = true ↔
      Outside clauses owner := by
  have hnone : ((instructionsOf owner 0 clauses).all fun i => i.statements.isEmpty) = true ↔
      (instructionsOf owner 0 clauses).flatMap (·.statements) = [] := by
    simp only [List.all_eq_true, List.isEmpty_iff, List.flatMap_eq_nil_iff]
  have hplaces (first : Nat) (ps : List Position) : numberFrom first ps = [] ↔ ps = [] := by
    cases ps <;> simp [numberFrom]
  rw [hnone, statements_instructionsOf, hplaces]
  simp only [List.flatMap_eq_nil_iff, List.mem_flatMap, positions_eq_nil, Outside]
  constructor
  · intro h clause hclause chain hchain
    exact h chain ⟨clause, hclause, hchain⟩
  · rintro h chain ⟨clause, hclause, hchain⟩
    exact h clause hclause chain hchain

/-! ## Outcomes -/

theorem malformed_iff :
    (∃ fault, compile text owner = .error (.malformed text fault)) ↔
      ∀ clauses, readClauses (refuseWaitingHead owner) text ≠ .ok clauses := by
  unfold compile
  cases readClauses (refuseWaitingHead owner) text with
  | error fault => simp
  | ok clauses =>
    simp only [ne_eq, Except.ok.injEq, forall_eq', iff_false, not_exists]
    intro fault h
    split at h <;> cases h

theorem compile_of_outside (hr : readClauses (refuseWaitingHead owner) text = .ok clauses)
    (ho : Outside clauses owner) :
    compile text owner = .error (.ownerNotFound owner.text text) := by
  unfold compile
  rw [hr]
  exact if_pos (no_statements_iff.mpr ho)

/-- A text that names its owner compiles to the instructions of its clauses. -/
theorem compile_of_named (hr : readClauses (refuseWaitingHead owner) text = .ok clauses)
    (ho : ¬ Outside clauses owner) :
    compile text owner =
      .ok ⟨text, owner, instructionsOf owner 0 clauses, NameSet.ofList (namesOf clauses)⟩ := by
  unfold compile
  rw [hr]
  exact if_neg fun h => ho (no_statements_iff.mp h)

/-- **What becomes of a text** without forbidden gaps. It is malformed for an owner exactly if it
cannot be derived from the grammar, or a waiting term with the owner heads one of its chains.
Otherwise the owner is not found exactly if no chain names it, and in all remaining cases the text
compiles, to the instructions of the clauses that it is derived for. -/
theorem compile_verdict (hs : stripBlanks text.toList = .ok t) (owner : Name) :
    ((∃ fault, compile text owner = .error (.malformed text fault)) ↔
      (¬ ∃ clauses, Listed Clause.Written clauses t) ∨
        ∃ clauses, Listed Clause.Written clauses t ∧ WaitsAtHead owner clauses) ∧
      ∀ clauses, Listed Clause.Written clauses t → ¬ WaitsAtHead owner clauses →
        (compile text owner = .error (.ownerNotFound owner.text text) ↔ Outside clauses owner) ∧
        (¬ Outside clauses owner → compile text owner =
          .ok ⟨text, owner, instructionsOf owner 0 clauses, NameSet.ofList (namesOf clauses)⟩) := by
  constructor
  · rw [malformed_iff]
    simp only [ne_eq, readClauses_iff_derived hs, not_and, not_exists]
    constructor
    · intro h
      by_cases hd : ∃ clauses, Listed Clause.Written clauses t
      · obtain ⟨clauses, hc⟩ := hd
        by_contra hno
        rw [not_or] at hno
        exact h clauses (fun hw => hno.2 ⟨clauses, hc, hw⟩) hc
      · exact Or.inl fun clauses hc => hd ⟨clauses, hc⟩
    · rintro (hno | ⟨clauses, hc, hw⟩) clauses' hhead hc'
      · exact hno clauses' hc'
      · -- the grammar leaves no choice, so the clauses are the same
        rw [stripBlanks_eq hs] at hc hc'
        have hread : Written text clauses := hc
        obtain rfl := hread.unique hc'
        exact hhead hw
  · intro clauses hc hhead
    have hr := (readClauses_iff_derived hs).mpr ⟨hhead, hc⟩
    refine ⟨⟨fun h => ?_, compile_of_outside hr⟩, compile_of_named hr⟩
    by_contra ho
    rw [compile_of_named hr ho] at h
    cases h

/-- White space, an empty clause, a literal with separators in it, and a chain that `D` heads. -/
def spacedText : String :=
  "h_java:c:A + h_java:c:B ;; if (h_java:c:A == \"x;&&y\") \x7b h_java:c:A,h_java:c:C \x7d " ++
    "else if (h_java:c:B != \"\") \x7b ; \x7d else \x7b &h_java:c:D + h_java:c:B \x7d"

/-- The clauses of `spacedText`. -/
def spacedClauses : List Clause :=
  [.chain [⟨false, [.sample "A"]⟩, ⟨false, [.sample "B"]⟩],
    .conditional
      [⟨⟨.all, [⟨.sample "A", .equals, "x;&&y"⟩]⟩, [[⟨false, [.sample "A", .sample "C"]⟩]]⟩,
        ⟨⟨.all, [⟨.sample "B", .differs, ""⟩]⟩, []⟩]
      (some [[⟨true, [.sample "D"]⟩, ⟨false, [.sample "B"]⟩]])]

/-- All three outcomes: `D` has nothing to wait for, `E` is not named, and the text compiles for
`B`. -/
theorem spacedText_verdicts :
    ∃ t, stripBlanks spacedText.toList = .ok t ∧ Listed Clause.Written spacedClauses t ∧
      (∃ fault, compile spacedText (.sample "D") = .error (.malformed spacedText fault)) ∧
      compile spacedText (.sample "E") =
        .error (.ownerNotFound (Name.sample "E").text spacedText) ∧
      compile spacedText (.sample "B") =
        .ok ⟨spacedText, .sample "B", instructionsOf (.sample "B") 0 spacedClauses,
          NameSet.ofList (namesOf spacedClauses)⟩ := by
  have hread : readClauses (fun _ => none) spacedText = .ok spacedClauses :=
    eq_ok_of_toOption (by decide +kernel)
  obtain ⟨t, ht, hc⟩ := derived_of_readClauses hread
  have hD : WaitsAtHead (.sample "D") spacedClauses :=
    ⟨_, List.mem_cons_of_mem _ List.mem_cons_self, [⟨true, [.sample "D"]⟩, ⟨false, [.sample "B"]⟩],
      by decide, ⟨true, [.sample "D"]⟩, rfl, rfl, by decide⟩
  have hB : ¬ WaitsAtHead (.sample "B") spacedClauses := not_waitsAtHead.mp (by decide)
  have hE : ¬ WaitsAtHead (.sample "E") spacedClauses := not_waitsAtHead.mp (by decide)
  have outside : Outside spacedClauses (.sample "E") := by unfold Outside; decide
  have named : ¬ Outside spacedClauses (.sample "B") := by unfold Outside; decide
  exact ⟨t, ht, hc, (compile_verdict ht (.sample "D")).1.mpr (Or.inr ⟨_, hc, hD⟩),
    ((compile_verdict ht (.sample "E")).2 _ hc hE).1.mpr outside,
    ((compile_verdict ht (.sample "B")).2 _ hc hB).2 named⟩

end ServiceFlow.Composition
