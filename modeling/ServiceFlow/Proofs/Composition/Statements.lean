import ServiceFlow.Composition.Compiled
import ServiceFlow.Proofs.Composition.Reading
import ServiceFlow.Proofs.Name.Collections

/-!
# The statements of a compiled composition

A statement stands for the places of the owner in one chain that agree in what comes before, what
follows and whether the owner waits. Here the statements of a compiled composition are tied to
places in the chains of its text.

* `statements_instructionsOf`: numbered from 0 in the order of the text, none of them missing.
* `selected_instructionsOf`: the selected ones are those of the chains active under the reported
  states (`Clause.activeChains`).
* `mem_positions`: a position is where the owner stands in some term of the chain (`placeAt`).
* `compile_eq_ok`: what a text that compiles gives.
* `inputs_of_mem_statements`: a compiled statement that waits has inputs to wait for.
* `Unconditional.selected`: without conditionals all statements are selected.
-/

namespace ServiceFlow

open ServiceFlow.Composition

/-- The chains of a clause that are active under the reported states: its only chain, or those of
the first block whose guard holds, or those of the `else` block. -/
def Clause.activeChains (stateOf : Name → Option String) : Clause → List Chain
  | .chain c => [c]
  | .conditional blocks otherwise =>
    match blocks.find? fun b => b.condition.holds stateOf with
    | some b => b.chains
    | none => otherwise.getD []

namespace Composition

variable {owner : Name} {first : Nat} {stateOf : Name → Option String}

/-! ## Numbering -/

theorem length_numberFrom (first : Nat) (ps : List Position) :
    (numberFrom first ps).length = ps.length := by
  induction ps generalizing first with
  | nil => rfl
  | cons p ps ih => simp [numberFrom, ih]

theorem map_id_numberFrom (first : Nat) (ps : List Position) :
    (numberFrom first ps).map (·.id) = List.range' first ps.length := by
  induction ps generalizing first with
  | nil => rfl
  | cons p ps ih => simp [numberFrom, ih, List.range'_succ]

theorem map_position_numberFrom (first : Nat) (ps : List Position) :
    (numberFrom first ps).map (·.toPosition) = ps := by
  induction ps generalizing first with
  | nil => rfl
  | cons p ps ih => simp [numberFrom, ih]

theorem numberFrom_append (first : Nat) (ps qs : List Position) :
    numberFrom first (ps ++ qs) = numberFrom first ps ++ numberFrom (first + ps.length) qs := by
  induction ps generalizing first with
  | nil => simp [numberFrom]
  | cons p ps ih =>
    have e : first + (ps.length + 1) = first + 1 + ps.length := by omega
    simp only [List.cons_append, numberFrom, ih, List.length_cons, e]

/-! ## Statements in the order of the text -/

theorem statements_branchesOf (owner : Name) (first : Nat) (bs : List GuardedBlock) :
    (branchesOf owner first bs).flatMap (·.statements) =
      numberFrom first ((bs.flatMap (·.chains)).flatMap (positions owner)) := by
  induction bs generalizing first with
  | nil => rfl
  | cons b bs ih =>
    unfold branchesOf
    rw [List.flatMap_cons, ih, List.flatMap_cons, List.flatMap_append, numberFrom_append]
    simp only [statementsOf, length_numberFrom]

theorem statements_instructionOf (owner : Name) (first : Nat) (clause : Clause) :
    (instructionOf owner first clause).statements =
      numberFrom first (clause.chains.flatMap (positions owner)) := by
  cases clause with
  | chain c => rfl
  | conditional bs o =>
    unfold instructionOf Instruction.statements Clause.chains
    simp only
    rw [statements_branchesOf, length_numberFrom, List.flatMap_append, numberFrom_append]
    cases o <;> rfl

/-- A vacant instruction, which is left out, has no statements. -/
theorem statements_of_isVacant {i : Instruction} (h : isVacant i = true) : i.statements = [] := by
  unfold isVacant at h
  split at h
  · rfl
  · cases h

/-- **All places of the owner are statements**, numbered in the order of the text. -/
theorem statements_instructionsOf (owner : Name) (first : Nat) (clauses : List Clause) :
    (instructionsOf owner first clauses).flatMap (·.statements) =
      numberFrom first ((clauses.flatMap (·.chains)).flatMap (positions owner)) := by
  induction clauses generalizing first with
  | nil => rfl
  | cons clause clauses ih =>
    have hi := statements_instructionOf owner first clause
    have hl : (instructionOf owner first clause).statements.length =
        (clause.chains.flatMap (positions owner)).length := by rw [hi, length_numberFrom]
    unfold instructionsOf
    rw [List.flatMap_cons, List.flatMap_append, numberFrom_append, ← hi, ← hl, ← ih]
    simp only
    split
    · rename_i hv
      rw [statements_of_isVacant hv]
      rfl
    · rw [List.flatMap_cons]

/-! ## Selected statements -/

theorem find?_branchesOf (p : Condition → Bool) (owner : Name) (first : Nat)
    (bs : List GuardedBlock) :
    ((branchesOf owner first bs).find? fun b => p b.condition).map
        (fun b => b.statements.map (·.toPosition)) =
      (bs.find? fun b => p b.condition).map fun b => b.chains.flatMap (positions owner) := by
  induction bs generalizing first with
  | nil => rfl
  | cons b bs ih =>
    unfold branchesOf
    simp only [List.find?_cons]
    cases p b.condition with
    | true => exact congrArg some (map_position_numberFrom first _)
    | false => exact ih _

/-- A clause selects the positions of its active chains. -/
theorem select_instructionOf (owner : Name) (first : Nat) (clause : Clause) :
    (((instructionOf owner first clause).select stateOf).getD []).map (·.toPosition) =
      (clause.activeChains stateOf).flatMap (positions owner) := by
  cases clause with
  | chain c => exact map_position_numberFrom first _
  | conditional bs o =>
    have hf := find?_branchesOf (fun c => c.holds stateOf) owner first bs
    unfold instructionOf Instruction.select Clause.activeChains
    simp only
    cases hb : bs.find? fun b => b.condition.holds stateOf with
    | some b =>
      rw [hb] at hf
      obtain ⟨branch, hbranch, hp⟩ := Option.map_eq_some_iff.mp hf
      rw [hbranch]
      exact hp
    | none =>
      rw [hb] at hf
      rw [Option.map_eq_none_iff.mp hf]
      cases o with
      | none => rfl
      | some chains => exact map_position_numberFrom _ _

theorem selected_instructionsOf (owner : Name) (first : Nat) (clauses : List Clause) :
    ((instructionsOf owner first clauses).flatMap
        fun i => (i.select stateOf).getD []).map (·.toPosition) =
      (clauses.flatMap (·.activeChains stateOf)).flatMap (positions owner) := by
  induction clauses generalizing first with
  | nil => rfl
  | cons clause clauses ih =>
    unfold instructionsOf
    rw [List.flatMap_cons, List.flatMap_append, ← select_instructionOf owner first clause,
      ← ih (first + (instructionOf owner first clause).statements.length)]
    simp only
    split
    · rename_i hv
      unfold isVacant at hv
      split at hv
      · rename_i he
        rw [he]
        rfl
      · cases hv
    · rw [List.flatMap_cons, List.map_append]

theorem select_sublist {i : Instruction} : ((i.select stateOf).getD []).Sublist i.statements := by
  cases i with
  | unconditional ss => exact List.Sublist.refl ss
  | conditional bs o =>
    unfold Instruction.select Instruction.statements
    simp only
    cases hb : bs.find? fun b => b.condition.holds stateOf with
    | some b =>
      have hm : b.statements ∈ bs.map (·.statements) :=
        List.mem_map_of_mem (List.mem_of_find?_eq_some hb)
      rw [List.flatMap_def]
      exact (List.sublist_flatten_of_mem hm).trans (List.sublist_append_left _ _)
    | none =>
      exact List.sublist_append_right _ _

/-- The selected statements are statements, in the same order. -/
theorem selected_sublist (c : Composition) (stateOf : Name → Option String) :
    (c.selected stateOf).Sublist c.statements := by
  unfold selected statements
  induction c.instructions with
  | nil => exact List.Sublist.slnil
  | cons i is ih => exact select_sublist.append ih

/-! ## Places in chains -/

/-- The services of the term before term `i`; `before` are those of the term before the chain. -/
def namesBefore (before : NameSet) (chain : Chain) : Nat → NameSet
  | 0 => before
  | i + 1 => headNames (chain.drop i)

/-- What stands around term `i` of a chain. -/
def placeAt (before : NameSet) (chain : Chain) (i : Nat) (awaitsAll : Bool) : Position :=
  ⟨namesBefore before chain i, headNames (chain.drop (i + 1)), awaitsAll⟩

theorem mem_headNames_drop {n : Name} {chain : Chain} {i : Nat} :
    n ∈ headNames (chain.drop i) ↔ ∃ t, chain[i]? = some t ∧ n ∈ t.names := by
  have head : ∀ ts : Chain, n ∈ headNames ts ↔ ∃ t, ts.head? = some t ∧ n ∈ t.names := by
    intro ts
    cases ts <;> simp [headNames]
  rw [head, List.head?_drop]

theorem placeAt_succ (before : NameSet) (t : Term) (ts : Chain) (i : Nat) (awaitsAll : Bool) :
    placeAt before (t :: ts) (i + 1) awaitsAll =
      placeAt (NameSet.ofList t.names) ts i awaitsAll := by
  cases i <;> rfl

theorem mem_positionsAfter {p : Position} {before : NameSet} {chain : Chain} :
    p ∈ positionsAfter owner before chain ↔
      ∃ i t, chain[i]? = some t ∧ owner ∈ t.names ∧ p = placeAt before chain i t.awaitsAll := by
  induction chain generalizing before with
  | nil => simp [positionsAfter]
  | cons t ts ih =>
    -- a place in the rest is one of the whole chain, one further on and with `t` before it
    have later : (∃ i u, ts[i]? = some u ∧ owner ∈ u.names ∧
        p = placeAt (NameSet.ofList t.names) ts i u.awaitsAll) ↔
        ∃ i u, (t :: ts)[i + 1]? = some u ∧ owner ∈ u.names ∧
          p = placeAt before (t :: ts) (i + 1) u.awaitsAll := by
      simp only [List.getElem?_cons_succ, placeAt_succ]
    have here : p = ⟨before, headNames ts, t.awaitsAll⟩ ↔
        p = placeAt before (t :: ts) 0 t.awaitsAll := Iff.rfl
    unfold positionsAfter
    simp only
    split
    · rename_i ho
      rw [List.mem_cons, ih, later, here]
      constructor
      · rintro (hp | ⟨i, u, h⟩)
        · exact ⟨0, t, rfl, ho, hp⟩
        · exact ⟨i + 1, u, h⟩
      · rintro ⟨i, u, hu, h⟩
        cases i with
        | zero =>
          cases hu
          exact Or.inl h.2
        | succ i => exact Or.inr ⟨i, u, hu, h⟩
    · rename_i ho
      rw [ih, later]
      constructor
      · rintro ⟨i, u, h⟩
        exact ⟨i + 1, u, h⟩
      · rintro ⟨i, u, hu, h⟩
        cases i with
        | zero =>
          cases hu
          exact absurd h.1 ho
        | succ i => exact ⟨i, u, hu, h⟩

/-- **The positions in a chain are the places of the owner in it.** -/
theorem mem_positions {p : Position} {chain : Chain} :
    p ∈ positions owner chain ↔
      ∃ i t, chain[i]? = some t ∧ owner ∈ t.names ∧ p = placeAt ∅ chain i t.awaitsAll := by
  unfold positions
  rw [List.mem_eraseDups, mem_positionsAfter]

/-! ## No term is empty -/

theorem Separated.spelled {α : Type} {sep cs : List Char} {Spells : α → List Char → Prop}
    {xs : List α} (h : Separated sep Spells xs cs) : ∀ x ∈ xs, ∃ p, Spells x p := by
  induction h with
  | one hx =>
    intro y hy
    exact List.mem_singleton.mp hy ▸ ⟨_, hx⟩
  | more hx _ ih =>
    intro y hy
    rcases List.mem_cons.mp hy with rfl | hy
    · exact ⟨_, hx⟩
    · exact ih y hy

theorem Listed.spelled {α : Type} {cs : List Char} {Spells : α → List Char → Prop} {xs : List α}
    (h : Listed Spells xs cs) : ∀ x ∈ xs, ∃ p, Spells x p := by
  induction h with
  | nil => exact fun y hy => absurd hy List.not_mem_nil
  | one hx =>
    intro y hy
    exact List.mem_singleton.mp hy ▸ ⟨_, hx⟩
  | skip _ ih => exact ih
  | cons hx _ ih =>
    intro y hy
    rcases List.mem_cons.mp hy with rfl | hy
    · exact ⟨_, hx⟩
    · exact ih y hy

theorem block_written {b : GuardedBlock} {cs : List Char} (h : b.Written cs) :
    ∀ chain ∈ b.chains, ∃ p, Chain.Written chain p := by
  cases h with
  | mk _ hb => exact Listed.spelled hb

theorem alternatives_written {bs : List GuardedBlock} {o : Option (List Chain)} {cs : List Char}
    (h : Alternatives.Written bs o cs) :
    ∀ chain ∈ alternativeChains bs o, ∃ p, Chain.Written chain p := by
  induction h with
  | none => exact fun y hy => absurd hy List.not_mem_nil
  | otherwise hb => exact Listed.spelled hb
  | elseIf hb _ ih => exact forall_alternativeChains_cons.mpr ⟨block_written hb, ih⟩

/-- Each chain of a written clause is written somewhere in it. -/
theorem chain_written {clause : Clause} {cs : List Char} (h : clause.Written cs) :
    ∀ chain ∈ clause.chains, ∃ p, Chain.Written chain p := by
  cases h with
  | chain h => exact fun chain hc => List.mem_singleton.mp hc ▸ ⟨_, h⟩
  | conditional hb hr =>
    exact forall_alternativeChains_cons.mpr ⟨block_written hb, alternatives_written hr⟩

/-- Every term of a written text names a service. -/
theorem Written.names_ne_nil {text : String} {clauses : List Clause} (h : Written text clauses)
    {clause : Clause} (hclause : clause ∈ clauses) {chain : Chain} (hchain : chain ∈ clause.chains)
    {t : Term} (ht : t ∈ chain) : t.names ≠ [] := by
  obtain ⟨cs, hcs⟩ := Listed.spelled h clause hclause
  obtain ⟨p, hp⟩ := chain_written hcs chain hchain
  obtain ⟨q, hq⟩ := Separated.spelled hp t ht
  exact hq.names_ne_nil

/-! ## Compiled compositions -/

/-- What a text that compiles is written for, and what becomes of it. -/
theorem compile_eq_ok {text : String} {c : Composition} (h : compile text owner = .ok c) :
    ∃ clauses, Written text clauses ∧
      (∀ clause ∈ clauses, ∀ chain ∈ clause.chains, refuseWaitingHead owner chain = none) ∧
      c.statements ≠ [] ∧
      c = ⟨text, owner, instructionsOf owner 0 clauses, NameSet.ofList (namesOf clauses)⟩ := by
  unfold compile at h
  split at h
  · cases h
  rename_i clauses hread
  simp only at h
  split at h
  · cases h
  rename_i hsome
  cases h
  obtain ⟨hr, hw⟩ := written_of_readClauses hread
  refine ⟨clauses, hw, hr, fun hnil => hsome ?_, rfl⟩
  rw [List.all_eq_true]
  intro i hi
  rw [List.isEmpty_iff]
  exact List.flatMap_eq_nil_iff.mp hnil i hi

theorem compile_text {text : String} {c : Composition} (h : compile text owner = .ok c) :
    c.text = text := by
  obtain ⟨clauses, -, -, -, rfl⟩ := compile_eq_ok h
  rfl

/-- A place comes without inputs only at the head of its chain. -/
theorem placeAt_inputs_isEmpty {chain : Chain} {i : Nat} {t : Term} {w : Bool}
    (hn : ∀ u ∈ chain, u.names ≠ []) (ht : chain[i]? = some t) :
    (placeAt ∅ chain i w).inputs.isEmpty = true ↔ i = 0 := by
  cases i with
  | zero => exact iff_of_true rfl rfl
  | succ i =>
    refine iff_of_false (fun he => ?_) (Nat.succ_ne_zero i)
    have hlt : i < chain.length := by
      have := (List.getElem?_eq_some_iff.mp ht).1
      omega
    obtain ⟨n, hm⟩ := List.exists_mem_of_ne_nil _ (hn _ (List.getElem_mem hlt))
    refine NameSet.isEmpty_iff.mp he n (mem_headNames_drop.mpr ⟨chain[i], ?_, hm⟩)
    exact List.getElem?_eq_getElem hlt

/-- The statements of the owner stand for its places in the chains of the clauses. -/
theorem place_of_mem_statements {clauses : List Clause} {s : Statement}
    (hs : s ∈ (instructionsOf owner 0 clauses).flatMap (·.statements)) :
    ∃ clause ∈ clauses, ∃ chain ∈ clause.chains, ∃ i t, chain[i]? = some t ∧ owner ∈ t.names ∧
      s.toPosition = placeAt ∅ chain i t.awaitsAll := by
  rw [statements_instructionsOf] at hs
  have hp := List.mem_map_of_mem (f := (·.toPosition)) hs
  rw [map_position_numberFrom] at hp
  obtain ⟨chain, hchain, hp⟩ := List.mem_flatMap.mp hp
  obtain ⟨clause, hclause, hchain⟩ := List.mem_flatMap.mp hchain
  exact ⟨clause, hclause, chain, hchain, mem_positions.mp hp⟩

/-- The selected statements stand for the places in the active chains, and leave none out. -/
theorem exists_selected {clauses : List Clause} {p : Position} :
    (∃ s ∈ (instructionsOf owner 0 clauses).flatMap fun i => (i.select stateOf).getD [],
        s.toPosition = p) ↔
      ∃ clause ∈ clauses, ∃ chain ∈ clause.activeChains stateOf, ∃ i t, chain[i]? = some t ∧
        owner ∈ t.names ∧ p = placeAt ∅ chain i t.awaitsAll := by
  rw [← List.mem_map, selected_instructionsOf, List.mem_flatMap]
  simp only [mem_positions, List.mem_flatMap]
  constructor
  · rintro ⟨chain, ⟨clause, hclause, hchain⟩, h⟩
    exact ⟨clause, hclause, chain, hchain, h⟩
  · rintro ⟨clause, hclause, chain, hchain, h⟩
    exact ⟨chain, ⟨clause, hclause, hchain⟩, h⟩

/-- A chain that is not refused has no waiting place of the owner at its head. -/
theorem not_waiting_head {chain : Chain} {t : Term} (h : refuseWaitingHead owner chain = none)
    (ht : chain[0]? = some t) (ho : owner ∈ t.names) : t.awaitsAll = false := by
  cases chain with
  | nil => cases ht
  | cons u us =>
    cases ht
    cases hw : t.awaitsAll with
    | false => rfl
    | true => simp [refuseWaitingHead, hw, ho] at h

/-- **A compiled statement that waits has inputs to wait for.** -/
theorem inputs_of_mem_statements {text : String} {c : Composition}
    (h : compile text owner = .ok c) {s : Statement} (hs : s ∈ c.statements)
    (hw : s.awaitsAll = true) : ∃ n, n ∈ s.inputs := by
  obtain ⟨clauses, hwritten, hr, -, rfl⟩ := compile_eq_ok h
  obtain ⟨clause, hclause, chain, hchain, i, t, ht, ho, he⟩ := place_of_mem_statements hs
  have hwt : t.awaitsAll = true := (congrArg Position.awaitsAll he).symm.trans hw
  have hi : i ≠ 0 := by
    rintro rfl
    have hf := not_waiting_head (hr clause hclause chain hchain) ht ho
    exact Bool.false_ne_true (hf.symm.trans hwt)
  by_contra hnone
  have hempty : s.inputs.isEmpty = true :=
    NameSet.isEmpty_iff.mpr fun n hn => hnone ⟨n, hn⟩
  rw [he] at hempty
  exact hi ((placeAt_inputs_isEmpty
    (fun u hu => hwritten.names_ne_nil hclause hchain hu) ht).mp hempty)

/-- No two statements have one number. -/
theorem nodup_statements_id {text : String} {c : Composition} (h : compile text owner = .ok c) :
    (c.statements.map (·.id)).Nodup := by
  obtain ⟨clauses, -, -, -, rfl⟩ := compile_eq_ok h
  unfold statements
  rw [statements_instructionsOf, map_id_numberFrom]
  exact List.nodup_range'

/-! ## Compositions without conditionals -/

/-- No statement depends on what the services have reported. -/
def Unconditional (c : Composition) : Prop := ∀ i ∈ c.instructions, ∃ ss, i = .unconditional ss

theorem Unconditional.selected {c : Composition} (h : c.Unconditional)
    (stateOf : Name → Option String) : c.selected stateOf = c.statements := by
  unfold Composition.selected statements
  refine List.flatMap_congr fun i hi => ?_
  obtain ⟨ss, rfl⟩ := h i hi
  rfl

/-- A compiled composition is unconditional exactly if the clauses of its text are chains. -/
theorem unconditional_iff {text : String} {c : Composition} (h : compile text owner = .ok c)
    {clauses : List Clause} (hw : Written text clauses) :
    c.Unconditional ↔ ∀ clause ∈ clauses, ∃ chain, clause = .chain chain := by
  obtain ⟨clauses', hw', -, -, rfl⟩ := compile_eq_ok h
  obtain rfl := hw.unique hw'
  unfold Unconditional
  simp only
  clear hw hw' h
  generalize 0 = first
  induction clauses generalizing first with
  | nil => simp [instructionsOf]
  | cons clause clauses ih =>
    unfold instructionsOf
    simp only
    rw [List.forall_mem_cons, ← ih (first + (instructionOf owner first clause).statements.length)]
    cases clause with
    | chain chain =>
      have hchain : ∃ d, Clause.chain chain = .chain d := ⟨chain, rfl⟩
      have hfirst : ∃ ss, instructionOf owner first (.chain chain) = .unconditional ss := ⟨_, rfl⟩
      split
      · simp only [hchain, true_and]
      · rw [List.forall_mem_cons]
        simp only [hchain, hfirst, true_and]
    | conditional bs o =>
      have hno : ¬ ∃ d, Clause.conditional bs o = .chain d := by
        rintro ⟨d, hd⟩
        cases hd
      rw [if_neg (by unfold instructionOf isVacant; exact Bool.false_ne_true),
        List.forall_mem_cons]
      refine iff_of_false (fun hall => ?_) fun hall => hno hall.1
      obtain ⟨ss, hss⟩ := hall.1
      cases hss

end Composition

end ServiceFlow
