import ServiceFlow.Proofs.Composition.Statements

/-!
# What holds of every compiled composition

The router keeps what has arrived for a statement that waits under the number of the statement, so no two
statements may have one number, from whichever chain, branch or `else` block they come. This and what
else the routing relies on are said here of every composition that compiles, in terms of the clauses
that its text is written for.

* `Composition.StandsFor`: statements that stand for the places of the owner in one chain, each once.
* `Composition.WellFormed`: the numbers, links, participants and instructions of a composition.
* `Composition.compile_wellFormed`: what compiles is well formed.
-/

namespace ServiceFlow

open ServiceFlow.Composition

/-- What is left without repetitions holds nothing twice. -/
theorem nodup_eraseDups {α : Type} [BEq α] [LawfulBEq α] : (l : List α) → l.eraseDups.Nodup
  | [] => List.nodup_nil
  | a :: l => by
    rw [List.eraseDups_cons, List.nodup_cons]
    refine ⟨fun h => ?_, nodup_eraseDups _⟩
    rw [List.mem_eraseDups, List.mem_filter, beq_self_eq_true] at h
    exact Bool.false_ne_true h.2
termination_by l => l.length
decreasing_by exact Nat.lt_succ_of_le (List.length_filter_le _ l)

/-- Statements stand for one position if they agree in their links and in what they wait for. -/
theorem Statement.toPosition_eq_iff {s s' : Statement} :
    s.toPosition = s'.toPosition ↔
      s.inputs = s'.inputs ∧ s.outputs = s'.outputs ∧ s.group? = s'.group? := by
  obtain ⟨⟨inputs, outputs, awaitsAll⟩, id⟩ := s
  obtain ⟨⟨inputs', outputs', awaitsAll'⟩, id'⟩ := s'
  constructor
  · intro h
    cases h
    exact ⟨rfl, rfl, rfl⟩
  · rintro ⟨hinputs, houtputs, hgroup⟩
    cases hinputs
    cases houtputs
    -- one of two statements waits and the other does not: only one has a group
    cases awaitsAll <;> cases awaitsAll' <;> first | rfl | cases hgroup

namespace Composition

variable {owner n : Name} {clauses : List Clause} {first : Nat}

/-! ## One chain -/

/-- Statements that stand for the places of the owner in a chain: each place has one, and no two agree in
their links and in what they wait for. -/
structure StandsFor (owner : Name) (chain : Chain) (ss : List Statement) : Prop where
  places : ∀ p, (∃ s ∈ ss, s.toPosition = p) ↔
    ∃ i t, chain[i]? = some t ∧ owner ∈ t.names ∧ p = placeAt ∅ chain i t.awaitsAll
  distinct : ss.Pairwise fun s s' =>
    ¬ (s.inputs = s'.inputs ∧ s.outputs = s'.outputs ∧ s.group? = s'.group?)

theorem standsFor_of_positions {chain : Chain} {ss : List Statement}
    (h : ss.map (·.toPosition) = positions owner chain) : StandsFor owner chain ss := by
  constructor
  case places =>
    intro p
    rw [← mem_positions, ← h, List.mem_map]
  case distinct =>
    have hnodup : (ss.map (·.toPosition)).Nodup := h ▸ nodup_eraseDups _
    refine (List.pairwise_map.mp hnodup).imp fun hne hagree => ?_
    exact hne (Statement.toPosition_eq_iff.mpr hagree)

/-- Numbered statements fall into those of one chain after the other. -/
theorem exists_blocks (first : Nat) (chains : List Chain) :
    ∃ blocks : List (List Statement),
      numberFrom first (chains.flatMap (positions owner)) = blocks.flatten ∧
        List.Forall₂ (StandsFor owner) chains blocks := by
  induction chains generalizing first with
  | nil => exact ⟨[], rfl, .nil⟩
  | cons chain chains ih =>
    obtain ⟨blocks, hblocks, hchains⟩ := ih (first + (positions owner chain).length)
    refine ⟨numberFrom first (positions owner chain) :: blocks, ?_, .cons ?_ hchains⟩
    · rw [List.flatMap_cons, numberFrom_append, hblocks, List.flatten_cons]
    · exact standsFor_of_positions (map_position_numberFrom first _)

/-! ## The whole composition -/

/-- Some chain of the clauses names the service. -/
def Named (clauses : List Clause) (n : Name) : Prop :=
  ∃ clause ∈ clauses, ∃ chain ∈ clause.chains, ∃ t ∈ chain, n ∈ t.names

/-- A composition compiled from clauses is as the routing relies on. -/
structure WellFormed (clauses : List Clause) (c : Composition) : Prop where
  /-- The statements are numbered from 0 on in their order. -/
  numbered : c.statements.map (·.id) = List.range c.statements.length
  inhabited : 1 ≤ c.statements.length
  /-- A statement that waits has inputs, and waits for them all. -/
  groups : ∀ s ∈ c.statements, s.group? = none ∨ s.group? = some s.inputs ∧ s.inputs ≠ ∅
  inputs : ∀ s ∈ c.statements, ∀ n ∈ s.inputs, n ∈ c.participants
  outputs : ∀ s ∈ c.statements, ∀ n ∈ s.outputs, n ∈ c.participants
  owner : c.owner ∈ c.participants
  participants : ∀ n, n ∈ c.participants ↔ Named clauses n
  /-- A chain without the owner leaves no instruction. -/
  instructions : .unconditional [] ∉ c.instructions
  /-- The statements are those of one chain after the other, and those of one chain differ. -/
  chains : ∃ blocks : List (List Statement), c.statements = blocks.flatten ∧
    List.Forall₂ (StandsFor c.owner) (clauses.flatMap (·.chains)) blocks

theorem mem_ofList_namesOf : n ∈ NameSet.ofList (namesOf clauses) ↔ Named clauses n := by
  rw [NameSet.mem_ofList]
  simp only [namesOf, List.mem_flatMap, Named]

/-- The services before and after a place are named in its chain. -/
theorem exists_of_mem_placeAt {chain : Chain} {i : Nat} {w : Bool}
    (h : n ∈ (placeAt ∅ chain i w).inputs ∨ n ∈ (placeAt ∅ chain i w).outputs) :
    ∃ t ∈ chain, n ∈ t.names := by
  have hdrop {j : Nat} (hj : n ∈ headNames (chain.drop j)) : ∃ t ∈ chain, n ∈ t.names := by
    obtain ⟨t, ht, hn⟩ := mem_headNames_drop.mp hj
    exact ⟨t, List.mem_of_getElem? ht, hn⟩
  rcases h with h | h
  · cases i with
    | zero => exact absurd h (NameSet.not_mem_empty n)
    | succ i => exact hdrop h
  · exact hdrop h

theorem named_of_mem_statement {s : Statement}
    (hs : s ∈ (instructionsOf owner 0 clauses).flatMap (·.statements))
    (hn : n ∈ s.inputs ∨ n ∈ s.outputs) : Named clauses n := by
  obtain ⟨clause, hclause, chain, hchain, i, t, -, -, hplace⟩ := place_of_mem_statements hs
  rw [congrArg Position.inputs hplace, congrArg Position.outputs hplace] at hn
  exact ⟨clause, hclause, chain, hchain, exists_of_mem_placeAt hn⟩

/-- A statement of the owner stands in a term that names it. -/
theorem named_owner (h : (instructionsOf owner 0 clauses).flatMap (·.statements) ≠ []) :
    Named clauses owner := by
  obtain ⟨s, hs⟩ := List.exists_mem_of_ne_nil _ h
  obtain ⟨clause, hclause, chain, hchain, i, t, ht, ho, -⟩ := place_of_mem_statements hs
  exact ⟨clause, hclause, chain, hchain, t, List.mem_of_getElem? ht, ho⟩

theorem not_isVacant_of_mem {i : Instruction} (h : i ∈ instructionsOf owner first clauses) :
    isVacant i = false := by
  induction clauses generalizing first with
  | nil => exact absurd h List.not_mem_nil
  | cons clause clauses ih =>
    unfold instructionsOf at h
    simp only at h
    split at h
    · exact ih h
    · rename_i hv
      rcases List.mem_cons.mp h with rfl | h
      · exact Bool.eq_false_iff.mpr hv
      · exact ih h

/-- **What compiles is well formed**, with the clauses that its text, and no other, is written for. -/
theorem compile_wellFormed {text : String} {owner : Name} {c : Composition}
    (h : compile text owner = .ok c) :
    c.text = text ∧ c.owner = owner ∧
      ∃ clauses, (∀ clauses', Written text clauses' ↔ clauses' = clauses) ∧
        WellFormed clauses c := by
  have hgroups (s : Statement) (hs : s ∈ c.statements) :
      s.group? = none ∨ s.group? = some s.inputs ∧ s.inputs ≠ ∅ := by
    unfold Statement.group?
    cases hw : s.awaitsAll with
    | false => exact .inl rfl
    | true =>
      obtain ⟨n, hn⟩ := inputs_of_mem_statements h hs hw
      exact .inr ⟨rfl, fun he => NameSet.not_mem_empty n (he ▸ hn)⟩
  obtain ⟨clauses, hwritten, -, hsome, rfl⟩ := compile_eq_ok h
  refine ⟨rfl, rfl, clauses, fun _ => ⟨fun h' => h'.unique hwritten, fun e => e ▸ hwritten⟩, ?_⟩
  have hstatements := statements_instructionsOf owner 0 clauses
  constructor
  case numbered =>
    unfold statements
    rw [hstatements, map_id_numberFrom, length_numberFrom, List.range_eq_range']
  case inhabited => exact List.length_pos_of_ne_nil hsome
  case groups => exact hgroups
  case inputs => exact fun s hs n hn => mem_ofList_namesOf.mpr (named_of_mem_statement hs (.inl hn))
  case outputs => exact fun s hs n hn => mem_ofList_namesOf.mpr (named_of_mem_statement hs (.inr hn))
  case owner => exact mem_ofList_namesOf.mpr (named_owner hsome)
  case participants => exact fun n => mem_ofList_namesOf
  case instructions =>
    intro hi
    cases not_isVacant_of_mem hi
  case chains =>
    obtain ⟨blocks, hblocks, hchains⟩ := exists_blocks 0 (clauses.flatMap (·.chains))
    exact ⟨blocks, hstatements.trans hblocks, hchains⟩

/-- A chain in which `B` stands three times and has two places, another without `B`, and a conditional
whose branches number on. -/
def numberedText : String :=
  "h_java:c:A+h_java:c:B+h_java:c:A+h_java:c:B+h_java:c:A+&h_java:c:B;h_java:c:A+h_java:c:D;" ++
    "if(h_java:c:S==\"on\")\x7bh_java:c:A,h_java:c:D+&h_java:c:B\x7delse\x7bh_java:c:B+h_java:c:A\x7d"

theorem numberedText_wellFormed :
    ∃ c clauses, compile numberedText (.sample "B") = .ok c ∧ c.statements.length = 4 ∧
      Written numberedText clauses ∧ WellFormed clauses c := by
  have hok : ((compile numberedText (.sample "B")).toOption.map fun c => c.statements.length) =
      some 4 := by decide +kernel
  obtain ⟨c, hc, hlength⟩ := Option.map_eq_some_iff.mp hok
  have hcompile := eq_ok_of_toOption hc
  obtain ⟨-, -, clauses, hwritten, hwell⟩ := compile_wellFormed hcompile
  exact ⟨c, clauses, hcompile, hlength, (hwritten clauses).mpr rfl, hwell⟩

end Composition

end ServiceFlow
