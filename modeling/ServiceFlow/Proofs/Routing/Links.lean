import ServiceFlow.Proofs.Routing.FanIn

/-!
# The two ends of a link agree

Each service compiles the text of a composition for itself, and keeps of it what concerns it. A link
leads from `x` to `y` where `x` stands in a term of a chain and `y` in the next one: `x` then has a
statement that sends to `y`, and `y` one that hears from `x`. Neither has one without the other.

* `Adjacent`: a link, as the chain has it; `exists_output` and `exists_input` are its two ends.
* `instructionPerClause`: what one service makes of each clause, also of those that it has no place in.
* `Mirrors`: what two services make of one clause agrees, in conditionals block by block.
* `links_agree`: so it is for all compositions. Without conditionals no service gets a message that it
  does not expect.
-/

namespace ServiceFlow

open ServiceFlow.Composition

namespace Composition

variable {x y owner sender : Name} {first first' : Nat}

/-! ## Links in chains -/

/-- A link: `x` stands in a term of the chain and `y` in the next one. -/
def Adjacent (x y : Name) (chain : Chain) : Prop :=
  ∃ i t u, chain[i]? = some t ∧ chain[i + 1]? = some u ∧ x ∈ t.names ∧ y ∈ u.names

/-- The end of a link that sends. -/
theorem exists_output {chain : Chain} :
    (∃ p ∈ positions x chain, y ∈ p.outputs) ↔ Adjacent x y chain := by
  constructor
  · rintro ⟨p, hp, hy⟩
    obtain ⟨i, t, ht, hx, rfl⟩ := mem_positions.mp hp
    obtain ⟨u, hu, hy⟩ := mem_headNames_drop.mp hy
    exact ⟨i, t, u, ht, hu, hx, hy⟩
  · rintro ⟨i, t, u, ht, hu, hx, hy⟩
    exact ⟨_, mem_positions.mpr ⟨i, t, ht, hx, rfl⟩, mem_headNames_drop.mpr ⟨u, hu, hy⟩⟩

/-- The end of a link that hears; nothing is heard at the head of a chain. -/
theorem exists_input {chain : Chain} :
    (∃ p ∈ positions y chain, x ∈ p.inputs) ↔ Adjacent x y chain := by
  constructor
  · rintro ⟨p, hp, hx⟩
    obtain ⟨i, u, hu, hy, rfl⟩ := mem_positions.mp hp
    cases i with
    | zero => exact absurd hx (NameSet.not_mem_empty x)
    | succ i =>
      obtain ⟨t, ht, hx⟩ := mem_headNames_drop.mp hx
      exact ⟨i, t, u, ht, hu, hx, hy⟩
  · rintro ⟨i, t, u, ht, hu, hx, hy⟩
    exact ⟨_, mem_positions.mpr ⟨i + 1, u, hu, hy, rfl⟩, mem_headNames_drop.mpr ⟨t, ht, hx⟩⟩

/-! ## Links between statements -/

/-- Some statement among the first sends to `y` exactly if some among the second hears from `x`. -/
def Linked (x y : Name) (ss ss' : List Statement) : Prop :=
  (∃ s ∈ ss, y ∈ s.outputs) ↔ ∃ s ∈ ss', x ∈ s.inputs

/-- What two services make of one clause agrees on the links from `x` to `y`, in conditionals block
by block. -/
inductive Mirrors (x y : Name) : Instruction → Instruction → Prop
  | unconditional {ss ss' : List Statement} (h : Linked x y ss ss') :
      Mirrors x y (.unconditional ss) (.unconditional ss')
  | conditional {bs bs' : List Branch} {o o' : Option (List Statement)}
      (hb : List.Forall₂
        (fun b b' => b.condition = b'.condition ∧ Linked x y b.statements b'.statements) bs bs')
      (ho : Option.Rel (Linked x y) o o') : Mirrors x y (.conditional bs o) (.conditional bs' o')

theorem exists_numberFrom {ps : List Position} {Q : Position → Prop} :
    (∃ s ∈ numberFrom first ps, Q s.toPosition) ↔ ∃ p ∈ ps, Q p := by
  conv_rhs => rw [← map_position_numberFrom first ps]
  simp only [List.mem_map, exists_exists_and_eq_and]

/-- The places of two services in the same chains. -/
theorem linked_numberFrom (x y : Name) (first first' : Nat) (chains : List Chain) :
    Linked x y (numberFrom first (chains.flatMap (positions x)))
      (numberFrom first' (chains.flatMap (positions y))) := by
  have place {z : Name} {Q : Position → Prop} :
      (∃ p ∈ chains.flatMap (positions z), Q p) ↔ ∃ chain ∈ chains, ∃ p ∈ positions z chain, Q p := by
    simp only [List.mem_flatMap]
    constructor
    · rintro ⟨p, ⟨chain, hchain, hp⟩, hq⟩
      exact ⟨chain, hchain, p, hp, hq⟩
    · rintro ⟨chain, hchain, p, hp, hq⟩
      exact ⟨p, ⟨chain, hchain, hp⟩, hq⟩
  unfold Linked
  rw [exists_numberFrom (Q := fun p => y ∈ p.outputs), place,
    exists_numberFrom (Q := fun p => x ∈ p.inputs), place]
  simp only [exists_output, exists_input]

theorem mirrors_branchesOf (x y : Name) (first first' : Nat) (blocks : List GuardedBlock) :
    List.Forall₂ (fun b b' => b.condition = b'.condition ∧ Linked x y b.statements b'.statements)
      (branchesOf x first blocks) (branchesOf y first' blocks) := by
  induction blocks generalizing first first' with
  | nil => exact .nil
  | cons b bs ih => exact .cons ⟨rfl, linked_numberFrom x y _ _ b.chains⟩ (ih _ _)

theorem mirrors_instructionOf (x y : Name) (first first' : Nat) (clause : Clause) :
    Mirrors x y (instructionOf x first clause) (instructionOf y first' clause) := by
  cases clause with
  | chain chain => exact .unconditional (linked_numberFrom x y first first' [chain])
  | conditional blocks otherwise =>
    refine .conditional (mirrors_branchesOf x y first first' blocks) ?_
    cases otherwise with
    | none => exact .none
    | some chains => exact .some (linked_numberFrom x y _ _ chains)

/-! ## Links between compositions -/

/-- The instruction of every clause, in the order of the text; none is left out. -/
def instructionPerClause (owner : Name) (first : Nat) : List Clause → List Instruction
  | [] => []
  | c :: cs =>
    let i := instructionOf owner first c
    i :: instructionPerClause owner (first + i.statements.length) cs

/-- A compiled composition leaves out the chains that its owner has no place in, and nothing else. -/
theorem instructionsOf_eq_filter (owner : Name) (first : Nat) (clauses : List Clause) :
    instructionsOf owner first clauses =
      (instructionPerClause owner first clauses).filter fun i => !isVacant i := by
  induction clauses generalizing first with
  | nil => rfl
  | cons clause clauses ih =>
    unfold instructionsOf instructionPerClause
    simp only [List.filter_cons, ih]
    cases isVacant (instructionOf owner first clause) <;> rfl

theorem mirrors_instructionPerClause (x y : Name) (first first' : Nat) (clauses : List Clause) :
    List.Forall₂ (Mirrors x y) (instructionPerClause x first clauses)
      (instructionPerClause y first' clauses) := by
  induction clauses generalizing first first' with
  | nil => exact .nil
  | cons clause clauses ih => exact .cons (mirrors_instructionOf x y first first' clause) (ih _ _)

end Composition

namespace Router

variable {P : Type} {r : Router P} {states : StateTable} {now : Nat} {c : Composition}
  {sender owner other : Name} {id : CommunicationId} {payload : P}

/-! ## Messages that nothing expects -/

/-- A group refuses a message for no other reason than that its sender has delivered. -/
theorem deliver_refusal {d : Delivery P} {ss : List Statement} {e : RoutingError}
    (h : (deliver owner sender id payload now d ss).2 = some e) :
    e = .duplicateSender owner sender id := by
  induction ss generalizing d with
  | nil => cases h
  | cons s ss ih =>
    unfold deliver at h
    split at h
    · exact (Option.some.inj h).symm
    · exact ih h
    · exact ih h

/-- A message that comes unexpected finds no statement that hears from its sender. -/
theorem unheard_of_unexpected
    (h : (r.admission states now c sender id payload).2.2 = .error (.unexpectedSender owner other)) :
    groupTargets c states.get? sender = [] ∧ plainAccepts c sender = false := by
  rw [admission_eq] at h
  simp only at h
  split at h
  · rename_i e he
    have hd := deliver_refusal he
    rw [hd] at h
    cases h
  · unfold answer at h
    split at h
    · rename_i ht
      split at h
      · rename_i hp
        rw [Bool.and_eq_true, Bool.not_eq_true'] at hp
        exact ⟨List.isEmpty_iff.mp ht, hp.1⟩
      · cases h
    · split at h
      · cases h
      · split at h <;> cases h

/-- Without conditionals, what some statement hears from is never unexpected. -/
theorem expected_of_input (hu : c.Unconditional) {s : Statement} (hs : s ∈ c.statements)
    (hin : sender ∈ s.inputs) :
    (r.admission states now c sender id payload).2.2 ≠ .error (.unexpectedSender owner other) := by
  intro h
  obtain ⟨htargets, hplain⟩ := unheard_of_unexpected h
  cases hw : s.awaitsAll with
  | true =>
    have ht : s ∈ groupTargets c states.get? sender :=
      (mem_groupTargets_unconditional hu).mpr ⟨hs, hw, hin⟩
    rw [htargets] at ht
    exact List.not_mem_nil ht
  | false =>
    refine not_accepts_of_plainAccepts hplain hs hw ?_
    have hhead : ¬ s.isHead = true := fun he => NameSet.isEmpty_iff.mp he sender hin
    rw [accepts, if_neg hhead]
    exact decide_eq_true hin

/-- **The two ends of every link agree.** Of two services that compile one text, the first has a
statement that sends to the second exactly if the second has one that hears from the first; and so it
is in each clause and in each block of a conditional. If the text has no conditionals, the output of
`x` never comes unexpected to a service that it is sent to, whatever made `x` send it and whatever
groups are open there. -/
theorem links_agree {text : String} {x y : Name} {cx cy : Composition}
    (hx : compile text x = .ok cx) (hy : compile text y = .ok cy) :
    ((∃ s ∈ cx.statements, y ∈ s.outputs) ↔ ∃ s ∈ cy.statements, x ∈ s.inputs) ∧
      ∃ clauses, Written text clauses ∧
        cx.instructions = (instructionPerClause x 0 clauses).filter (fun i => !isVacant i) ∧
        cy.instructions = (instructionPerClause y 0 clauses).filter (fun i => !isVacant i) ∧
        List.Forall₂ (Mirrors x y) (instructionPerClause x 0 clauses)
          (instructionPerClause y 0 clauses) ∧
        ((∀ clause ∈ clauses, ∃ chain, clause = .chain chain) →
          ∀ (states : StateTable) (sender : Name) (joined : List Nat),
            y ∈ destinations cx states sender joined →
          ∀ (P : Type) (r : Router P) (states' : StateTable) (now : Nat) (id : CommunicationId)
            (payload : P) (owner other : Name),
            (r.admission states' now cy x id payload).2.2 ≠
              .error (.unexpectedSender owner other)) := by
  obtain ⟨clauses, hw, -, -, hcx⟩ := compile_eq_ok hx
  obtain ⟨clauses', hw', -, -, hcy⟩ := compile_eq_ok hy
  obtain rfl := hw.unique hw'
  have hall : Linked x y cx.statements cy.statements := by
    rw [hcx, hcy]
    unfold Composition.statements
    rw [statements_instructionsOf, statements_instructionsOf]
    exact linked_numberFrom x y 0 0 _
  refine ⟨hall, clauses, hw, ?_, ?_, mirrors_instructionPerClause x y 0 0 clauses, ?_⟩
  · rw [hcx]
    exact instructionsOf_eq_filter x 0 clauses
  · rw [hcy]
    exact instructionsOf_eq_filter y 0 clauses
  · intro hchains states sender joined hd P r states' now id payload owner other
    obtain ⟨s, hs, -, hout⟩ := mem_destinations.mp hd
    obtain ⟨s', hs', hin⟩ := hall.mp ⟨s, (selected_sublist cx _).subset hs, hout⟩
    exact expected_of_input ((unconditional_iff hy hw).mpr hchains) hs' hin

/-- The composition of `mixedText` as the service `A` sees it. -/
def mixedAtA : Composition :=
  ⟨mixedText, .sample "A",
    [.unconditional [⟨⟨∅, .ofList [.sample "B"], false⟩, 0⟩],
      .unconditional [⟨⟨∅, .ofList [.sample "B"], false⟩, 1⟩]],
    .ofList [.sample "A", .sample "B", .sample "C", .sample "D", .sample "E"]⟩

/-- A client starts `A`, whose output goes to `B`, and whatever groups are open there it is expected. -/
theorem mixed_links_agree :
    compile mixedText (.sample "A") = .ok mixedAtA ∧ compile mixedText (.sample "B") = .ok mixed ∧
      (∃ s ∈ mixed.statements, .sample "A" ∈ s.inputs) ∧
      .sample "B" ∈ destinations mixedAtA ∅ (.sample "Client") [] ∧
      ∀ (r : Router String) (owner other : Name),
        (r.admission ∅ 0 mixed (.sample "A") 1 "a").2.2 ≠ .error (.unexpectedSender owner other) := by
  have hA : compile mixedText (.sample "A") = .ok mixedAtA :=
    eq_ok_of_toOption (by decide +kernel)
  have hout : ∃ s ∈ mixedAtA.statements, .sample "B" ∈ s.outputs := by decide +kernel
  have hsent : .sample "B" ∈ destinations mixedAtA ∅ (.sample "Client") [] := by decide +kernel
  obtain ⟨hlinks, clauses, hw, -, -, -, hexpected⟩ := links_agree hA compile_mixed
  have hchains := (unconditional_iff compile_mixed hw).mp unconditional_mixed
  exact ⟨hA, compile_mixed, hlinks.mp hout, hsent,
    fun r => hexpected hchains ∅ _ [] hsent String r ∅ 0 1 "a"⟩

end Router

end ServiceFlow
