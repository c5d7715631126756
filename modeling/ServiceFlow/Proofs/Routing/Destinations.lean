import ServiceFlow.Proofs.Composition.Statements
import ServiceFlow.Routing.Router

/-!
# Destinations as the text gives them

After an execution the router sends the output where the chains of the composition lead. Here that
is said of the text itself, with no mention of statements, instructions or their numbers.

* `Leads`: the owner stands in a term of a chain and its output goes to a name in the next term.
* `Enters`: a message gets into a chain at a term. The first term is entered from outside the
  composition, every other from the term before it.
* `mem_destinations_iff`: the destinations are where the active chains lead from the terms entered,
  and a term that waits leads on only if its statement is among the joined ones.
-/

namespace ServiceFlow.Composition

/-- The owner stands in term `i` of the chain, which waits or not, and `d` in the next term. -/
def Leads (owner : Name) (waits : Bool) (chain : Chain) (i : Nat) (d : Name) : Prop :=
  ∃ t u, chain[i]? = some t ∧ chain[i + 1]? = some u ∧ t.awaitsAll = waits ∧ owner ∈ t.names ∧
    d ∈ u.names

/-- The name stands in no chain of the clauses. -/
def Outside (clauses : List Clause) (n : Name) : Prop :=
  ∀ clause ∈ clauses, ∀ chain ∈ clause.chains, ∀ t ∈ chain, n ∉ t.names

/-- A message from `sender` enters the chain at a term. -/
def Enters (clauses : List Clause) (sender : Name) (chain : Chain) : Nat → Prop
  | 0 => Outside clauses sender
  | i + 1 => ∃ t, chain[i]? = some t ∧ sender ∈ t.names

variable {owner sender d : Name} {stateOf : Name → Option String} {clauses : List Clause}

theorem not_mem_participants :
    sender ∉ NameSet.ofList (namesOf clauses) ↔ Outside clauses sender := by
  rw [NameSet.mem_ofList]
  simp only [namesOf, List.mem_flatMap, not_exists, not_and, Outside]

theorem mem_activeChains {clause : Clause} {chain : Chain}
    (h : chain ∈ clause.activeChains stateOf) : chain ∈ clause.chains := by
  cases clause with
  | chain c => exact h
  | conditional bs o =>
    unfold Clause.activeChains at h
    unfold Clause.chains
    simp only at h
    split at h
    · rename_i b hb
      exact List.mem_append_left _ (List.mem_flatMap.mpr ⟨b, List.mem_of_find?_eq_some hb, h⟩)
    · exact List.mem_append_right _ h

/-- What stands around a term says which senders enter there. -/
theorem accepts_place {c : Composition} {s : Statement} {chain : Chain} {i : Nat} {t : Term}
    (hn : ∀ u ∈ chain, u.names ≠ []) (ht : chain[i]? = some t)
    (hp : c.participants = NameSet.ofList (namesOf clauses))
    (hs : s.toPosition = placeAt ∅ chain i t.awaitsAll) :
    c.accepts s sender = true ↔ Enters clauses sender chain i := by
  have hinputs : s.inputs = namesBefore ∅ chain i := congrArg Position.inputs hs
  have hhead : s.isHead = true ↔ i = 0 := by
    unfold Statement.isHead
    rw [hs]
    exact placeAt_inputs_isEmpty hn ht
  unfold accepts
  cases i with
  | zero =>
    rw [if_pos (hhead.mpr rfl), decide_eq_true_iff, hp, not_mem_participants]
    rfl
  | succ i =>
    rw [if_neg (fun h => Nat.succ_ne_zero i (hhead.mp h)), decide_eq_true_iff, hinputs]
    exact mem_headNames_drop

theorem leads_iff {w : Bool} {chain : Chain} {i : Nat} :
    Leads owner w chain i d ↔
      ∃ t, chain[i]? = some t ∧ owner ∈ t.names ∧ t.awaitsAll = w ∧
        d ∈ (placeAt ∅ chain i w).outputs := by
  unfold Leads placeAt
  simp only [mem_headNames_drop]
  constructor
  · rintro ⟨t, u, ht, hu, hw, ho, hd⟩
    exact ⟨t, ht, ho, hw, u, hu, hd⟩
  · rintro ⟨t, ht, ho, hw, u, hu, hd⟩
    exact ⟨t, u, ht, hu, hw, ho, hd⟩

theorem mem_destinations {c : Composition} {states : StateTable} {joined : List Nat} :
    d ∈ Router.destinations c states sender joined ↔
      ∃ s ∈ c.selected states.get?, Router.fires c sender joined s = true ∧ d ∈ s.outputs := by
  unfold Router.destinations
  rw [NameSet.mem_ofList, List.mem_flatMap]
  simp only [List.mem_filter, and_assoc]
  rfl

theorem fires_iff {c : Composition} {joined : List Nat} {s : Statement} :
    Router.fires c sender joined s = true ↔
      s.awaitsAll = false ∧ c.accepts s sender = true ∨ s.awaitsAll = true ∧ s.id ∈ joined := by
  unfold Router.fires
  cases s.awaitsAll with
  | false => simp
  | true => simp

section Compiled

variable {text : String} {c : Composition}

/-- The selected statements of a compiled composition stand for the places in the active chains of
its text. -/
theorem exists_selected_compiled
    (hc : c = ⟨text, owner, instructionsOf owner 0 clauses, NameSet.ofList (namesOf clauses)⟩)
    {p : Position} :
    (∃ s ∈ c.selected stateOf, s.toPosition = p) ↔
      ∃ clause ∈ clauses, ∃ chain ∈ clause.activeChains stateOf, ∃ i t, chain[i]? = some t ∧
        owner ∈ t.names ∧ p = placeAt ∅ chain i t.awaitsAll := by
  rw [hc]
  exact exists_selected

theorem mem_destinations_compiled (hw : Written text clauses)
    (hc : c = ⟨text, owner, instructionsOf owner 0 clauses, NameSet.ofList (namesOf clauses)⟩)
    {states : StateTable} {joined : List Nat} :
    d ∈ Router.destinations c states sender joined ↔
      ∃ clause ∈ clauses, ∃ chain ∈ clause.activeChains states.get?, ∃ i,
        Leads owner false chain i d ∧ Enters clauses sender chain i ∨
        Leads owner true chain i d ∧ ∃ s ∈ c.selected states.get?,
          s.toPosition = placeAt ∅ chain i true ∧ s.id ∈ joined := by
  have hparticipants : c.participants = NameSet.ofList (namesOf clauses) := by rw [hc]
  rw [mem_destinations]
  constructor
  · rintro ⟨s, hs, hf, hd⟩
    obtain ⟨clause, hclause, chain, hchain, i, t, ht, ho, hp⟩ :=
      (exists_selected_compiled hc).mp ⟨s, hs, rfl⟩
    have hn : ∀ u ∈ chain, u.names ≠ [] := fun u hu =>
      hw.names_ne_nil hclause (mem_activeChains hchain) hu
    have ha : s.awaitsAll = t.awaitsAll := congrArg Position.awaitsAll hp
    refine ⟨clause, hclause, chain, hchain, i, ?_⟩
    rw [congrArg Position.outputs hp] at hd
    rcases fires_iff.mp hf with ⟨hwait, he⟩ | ⟨hwait, hj⟩
    · rw [ha] at hwait
      rw [hwait] at hd
      have leads := leads_iff.mpr ⟨t, ht, ho, hwait, hd⟩
      exact Or.inl ⟨leads, (accepts_place hn ht hparticipants hp).mp he⟩
    · rw [ha] at hwait
      rw [hwait] at hd hp
      have leads := leads_iff.mpr ⟨t, ht, ho, hwait, hd⟩
      exact Or.inr ⟨leads, s, hs, hp, hj⟩
  · rintro ⟨clause, hclause, chain, hchain, i, ⟨hl, he⟩ | ⟨hl, s, hs, hp, hj⟩⟩
    · obtain ⟨t, ht, ho, hwait, hd⟩ := leads_iff.mp hl
      have hn : ∀ u ∈ chain, u.names ≠ [] := fun u hu =>
        hw.names_ne_nil hclause (mem_activeChains hchain) hu
      obtain ⟨s, hs, hp⟩ :=
        (exists_selected_compiled hc).mpr ⟨clause, hclause, chain, hchain, i, t, ht, ho, rfl⟩
      have ha : s.awaitsAll = false := (congrArg Position.awaitsAll hp).trans hwait
      have accepted := (accepts_place hn ht hparticipants hp).mpr he
      refine ⟨s, hs, fires_iff.mpr (Or.inl ⟨ha, accepted⟩), ?_⟩
      rw [congrArg Position.outputs hp, hwait]
      exact hd
    · obtain ⟨t, ht, ho, hwait, hd⟩ := leads_iff.mp hl
      have ha : s.awaitsAll = true := congrArg Position.awaitsAll hp
      refine ⟨s, hs, fires_iff.mpr (Or.inr ⟨ha, hj⟩), ?_⟩
      rw [congrArg Position.outputs hp]
      exact hd

/-- **The destinations are what the text says.** A text that compiles is written for one list of
clauses. Whatever states are reported, the output that `sender` has started goes to `d` exactly if
some active chain leads there from a term of the owner that does not wait and that `sender` enters,
or from one that waits and whose statement is among the joined ones; if none is joined, the first
alone. -/
theorem mem_destinations_iff (h : compile text owner = .ok c) :
    ∃ clauses, (∀ clauses', Written text clauses' ↔ clauses' = clauses) ∧
      (∀ (states : StateTable) (sender d : Name),
        d ∈ Router.destinations c states sender [] ↔
          ∃ clause ∈ clauses, ∃ chain ∈ clause.activeChains states.get?, ∃ i,
            Leads owner false chain i d ∧ Enters clauses sender chain i) ∧
      ∀ (states : StateTable) (sender : Name) (joined : List Nat) (d : Name),
        d ∈ Router.destinations c states sender joined ↔
          ∃ clause ∈ clauses, ∃ chain ∈ clause.activeChains states.get?, ∃ i,
            Leads owner false chain i d ∧ Enters clauses sender chain i ∨
            Leads owner true chain i d ∧ ∃ s ∈ c.selected states.get?,
              s.toPosition = placeAt ∅ chain i true ∧ s.id ∈ joined := by
  obtain ⟨clauses, hw, -, -, hc⟩ := compile_eq_ok h
  refine ⟨clauses, fun clauses' => ⟨fun h' => h'.unique hw, fun e => e ▸ hw⟩, ?_, ?_⟩
  · intro states sender d
    rw [mem_destinations_compiled hw hc]
    simp only [List.not_mem_nil, and_false, exists_false, or_false]
  · intro states sender joined d
    exact mem_destinations_compiled hw hc

/-- A conditional between two chains; its literal holds a separator and an operator. -/
def guardedText : String :=
  "h_java:c:A+h_java:c:B;" ++
    "if(h_java:c:A==\"x;&&y\")\x7bh_java:c:A+h_java:c:B+h_java:c:D\x7d" ++
    "else\x7bh_java:c:A+h_java:c:B+h_java:c:E\x7d;" ++
    "h_java:c:A,h_java:c:D+&h_java:c:B+h_java:c:F"

theorem destinations_of_guardedText :
    ∃ c clauses, compile guardedText (.sample "B") = .ok c ∧
      ∀ (states : StateTable) (sender d : Name),
        d ∈ Router.destinations c states sender [] ↔
          ∃ clause ∈ clauses, ∃ chain ∈ clause.activeChains states.get?, ∃ i,
            Leads (.sample "B") false chain i d ∧ Enters clauses sender chain i := by
  have hok : (compile guardedText (.sample "B")).isOk = true := by decide +kernel
  obtain ⟨c, hc⟩ := exists_of_isOk hok
  obtain ⟨clauses, -, hplain, -⟩ := mem_destinations_iff hc
  exact ⟨c, clauses, hc, hplain⟩

end Compiled

end ServiceFlow.Composition
