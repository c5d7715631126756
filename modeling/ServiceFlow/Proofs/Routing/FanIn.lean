import ServiceFlow.Proofs.Routing.Arrivals
import ServiceFlow.Proofs.Routing.Destinations
import ServiceFlow.Proofs.Routing.Reachable

/-!
# Fan-in does not depend on the order of the messages

Different services each deliver one message of a request, under a composition without conditionals
and with no time to live. Whatever the order, the messages between them start every plain statement
that accepts one of them, and every waiting statement whose inputs are all among them.

* `admissions`, `routes`: what the router answers to the messages, in turn.
* `Fits`: the router is as the messages so far leave it; `Fits.step`: it stays so.
* `Fits.joins_iff`, `Fits.mem_route`, `Fits.handed_out`: the groups that one message joins, where
  its output goes, and the inputs that it hands out.
* `fan_in`: the same for all messages together.
-/

namespace ServiceFlow.Router

open ServiceFlow.Composition

variable {P : Type}

/-! ## A run of messages -/

/-- What the router answers to each of the messages, in turn. -/
def admissions (c : Composition) (id : CommunicationId) (r : Router P) :
    List (Arriving P) → List (Except RoutingError (Admission P))
  | [] => []
  | m :: ms =>
    let (r, _, a) := r.admission m.states m.now c m.sender id m.payload
    a :: admissions c id r ms

/-- Where the output for each of the messages goes, in turn. -/
def routes (c : Composition) (id : CommunicationId) (r : Router P) :
    List (Arriving P) → List (Except RoutingError NameSet)
  | [] => []
  | m :: ms =>
    let (r, _, ns) := r.route m.states m.now c m.sender id m.payload
    ns :: routes c id r ms

/-- The statement of this number is among those whose groups the message completes. -/
def Joins (a : Except RoutingError (Admission P)) (statement : Nat) : Prop :=
  ∃ inputs joined, a = .ok (.ready inputs joined) ∧ statement ∈ joined

/-! ## The groups after some messages -/

section Groups

variable {owner : Name} {text : String} {c : Composition} {id : CommunicationId} {r : Router P}
  {ms : List (Arriving P)} {m : Arriving P} {s : Statement} {n : Name}

/-- The groups of the request hold what the messages so far have left there. -/
structure Fits (c : Composition) (id : CommunicationId) (r : Router P) (ms : List (Arriving P)) :
    Prop where
  no_ttl : r.barriers.ttl = none
  held : ∀ s ∈ c.statements, s.awaitsAll = true → ∀ n,
    ((r.barriers.supersede c.text).1.held ⟨s.id, id⟩).get? n = gathered s.inputs ms n

/-- No group of the request is open at first. -/
theorem Fits.nil (httl : r.barriers.ttl = none)
    (hid : ∀ k, r.barriers.groups.get? ⟨k, id⟩ = none) : Fits c id r [] := by
  refine ⟨httl, fun s _ _ n => ?_⟩
  have hnone : (r.barriers.supersede c.text).1.groups.get? ⟨s.id, id⟩ = none := by
    unfold BarrierStore.supersede
    split
    · exact hid s.id
    · rfl
  rw [BarrierStore.held_of_get?_eq_none hnone, NameMap.get?_empty]
  unfold gathered
  rw [payloadOf_eq_none List.not_mem_nil, ite_self, ite_self]

theorem mem_groupTargets_unconditional (hu : c.Unconditional) {stateOf : Name → Option String} :
    s ∈ groupTargets c stateOf n ↔ s ∈ c.statements ∧ s.awaitsAll = true ∧ n ∈ s.inputs := by
  rw [mem_groupTargets, hu.selected]

section Step

variable (hc : compile text owner = .ok c) (hu : c.Unconditional) (hf : Fits c id r ms)
  (hnew : m.sender ∉ ms.map (·.sender))
include hf hnew

/-- What the group of a statement that waits for the sender holds before its message. -/
theorem Fits.held_target (hs : s ∈ c.statements) (hw : s.awaitsAll = true)
    (hin : m.sender ∈ s.inputs) (n : Name) :
    ((r.start c.text m.now).barriers.held ⟨s.id, id⟩).get? n =
      if n ∈ s.inputs then payloadOf ms n else none := by
  rw [start_barriers hf.no_ttl, hf.held s hs hw n, gathered, if_neg (not_covered hin hnew)]

theorem Fits.has_target (hs : s ∈ c.statements) (hw : s.awaitsAll = true)
    (hin : m.sender ∈ s.inputs) (n : Name) :
    ((r.start c.text m.now).barriers.held ⟨s.id, id⟩).has n = true ↔
      n ∈ s.inputs ∧ n ∈ ms.map (·.sender) := by
  rw [NameMap.has_eq_true, hf.held_target hnew hs hw hin]
  constructor
  · rintro ⟨p, hp⟩
    split at hp
    · rename_i hn
      refine ⟨hn, ?_⟩
      by_contra hm
      rw [payloadOf_eq_none hm] at hp
      cases hp
    · cases hp
  · rintro ⟨hn, hm⟩
    rw [if_pos hn]
    exact exists_payloadOf hm

/-- What the group holds with the message. -/
theorem Fits.grown_target (hs : s ∈ c.statements) (hw : s.awaitsAll = true)
    (hin : m.sender ∈ s.inputs) (n : Name) :
    (((r.start c.text m.now).barriers.held ⟨s.id, id⟩).set m.sender m.payload).get? n =
      if n ∈ s.inputs then payloadOf (ms ++ [m]) n else none := by
  rw [NameMap.get?_set, hf.held_target hnew hs hw hin, payloadOf_append, payloadOf_singleton]
  by_cases he : m.sender = n
  · rw [← he, if_pos rfl, if_pos hin, payloadOf_eq_none hnew, if_pos rfl, Option.none_or]
  · rw [if_neg he, if_neg he, Option.or_none]

/-- The message completes the group exactly if it brings the last of its inputs. -/
theorem Fits.completes_iff (hs : s ∈ c.statements) (hw : s.awaitsAll = true)
    (hin : m.sender ∈ s.inputs) :
    (r.start c.text m.now).barriers.Completes ⟨s.id, id⟩ m.sender s.inputs ↔
      Covered s.inputs (ms ++ [m]) := by
  unfold BarrierStore.Completes Covered
  simp only [hf.has_target hnew hs hw hin, mem_senders_append]
  constructor
  · intro h n hn
    rcases (h n).mpr hn with he | ⟨-, hm⟩
    · exact Or.inr he
    · exact Or.inl hm
  · intro h n
    constructor
    · rintro (rfl | ⟨hn, -⟩)
      · exact hin
      · exact hn
    · intro hn
      rcases h n hn with hm | he
      · exact Or.inr ⟨hn, hm⟩
      · exact Or.inl he

include hc hu

/-- No group refuses the message. -/
theorem Fits.free :
    Free m.sender id (r.start c.text m.now).barriers
      (groupTargets c m.states.get? m.sender) := by
  refine ⟨nodup_groupTargets_id hc, fun s hs => ?_⟩
  obtain ⟨hs, hw, hin⟩ := (mem_groupTargets_unconditional hu).mp hs
  rw [Bool.eq_false_iff]
  intro hhas
  exact hnew ((hf.has_target hnew hs hw hin m.sender).mp hhas).2

theorem Fits.taking_eq :
    r.taking m.states m.now c m.sender id = groupTargets c m.states.get? m.sender := by
  unfold taking reached
  rw [List.takeWhile_eq_self_iff]
  intro s hs
  have hfree := (hf.free hc hu hnew).free s hs
  change (!((r.start c.text m.now).barriers.held ⟨s.id, id⟩).has m.sender) = true
  rw [hfree]
  rfl

theorem Fits.delivery_eq :
    r.delivery m.states m.now c m.sender id m.payload =
      ((groupTargets c m.states.get? m.sender).foldl
        (accept r.owner m.sender id m.payload m.now) (r.start c.text m.now), none) := by
  rw [Router.delivery_eq hc, hf.taking_eq hc hu hnew, if_pos rfl]

/-- **The message leaves the groups as it should.** -/
theorem Fits.step :
    Fits c id (r.admission m.states m.now c m.sender id m.payload).1 (ms ++ [m]) := by
  have hfree := hf.free hc hu hnew
  obtain ⟨hcomposition, httl⟩ := foldl_accept_bound r.owner m.payload m.now hfree
  rw [admission_eq, hf.delivery_eq hc hu hnew]
  refine ⟨httl.trans ?_, fun s hs hw n => ?_⟩
  · rw [start_barriers hf.no_ttl]
    unfold BarrierStore.supersede
    split <;> exact hf.no_ttl
  have hbound : ((groupTargets c m.states.get? m.sender).foldl
      (accept r.owner m.sender id m.payload m.now) (r.start c.text m.now)).barriers.composition =
      some c.text := hcomposition.trans refresh_composition
  unfold BarrierStore.supersede
  simp only [hbound, if_true]
  -- the groups that wait for the sender take its message in, all others are left alone
  by_cases hin : m.sender ∈ s.inputs
  · have hself := get?_foldl_accept r.owner m.payload m.now hfree
      ((mem_groupTargets_unconditional hu).mpr ⟨hs, hw, hin⟩)
    simp only [hf.completes_iff hnew hs hw hin] at hself
    unfold gathered
    split at hself
    · rename_i hcov
      rw [BarrierStore.held_of_get?_eq_none hself, NameMap.get?_empty, if_pos hcov]
    · rename_i hcov
      rw [BarrierStore.held_of_get?_eq_some hself, if_neg hcov]
      exact hf.grown_target hnew hs hw hin n
  · have hother : ∀ s' ∈ groupTargets c m.states.get? m.sender,
        (⟨s.id, id⟩ : GroupKey) ≠ ⟨s'.id, id⟩ := by
      intro s' hs' he
      obtain ⟨hs', -, hin'⟩ := (mem_groupTargets_unconditional hu).mp hs'
      obtain rfl := statement_unique hc hs hs' (congrArg GroupKey.statement he)
      exact hin hin'
    have same := get?_foldl_accept_of_ne r.owner m.payload m.now hfree hother
    rw [BarrierStore.held_congr same, start_barriers hf.no_ttl, hf.held s hs hw n,
      gathered_append_of_not_mem hin]

end Step

end Groups

/-! ## The answer to one message -/

section Answers

variable {owner sender : Name} {text : String} {c : Composition} {id : CommunicationId}
  {payload : P} {r : Router P} {states : StateTable} {d : Delivery P} {k : Nat} {n : Name}

theorem joins_ready {inputs : List (Name × P)} {joined : List Nat} :
    Joins (.ok (.ready inputs joined)) k ↔ k ∈ joined := by
  constructor
  · rintro ⟨_, _, he, hk⟩
    cases he
    exact hk
  · exact fun hk => ⟨_, _, rfl, hk⟩

theorem not_joins_error {e : RoutingError} : ¬ Joins (P := P) (.error e) k := by
  rintro ⟨_, _, he, -⟩
  cases he

theorem not_joins_pending : ¬ Joins (P := P) (.ok .pending) k := by
  rintro ⟨_, _, he, -⟩
  cases he

/-- A message that no statement waits for completes no group. -/
theorem joins_answer (h : groupTargets c states.get? sender = [] → d.joined = []) :
    Joins (answer states c owner sender payload d) k ↔ k ∈ d.joined := by
  unfold answer
  split
  · rename_i hnone
    rw [h (List.isEmpty_iff.mp hnone)]
    split
    · exact iff_of_false not_joins_error List.not_mem_nil
    · exact joins_ready
  · split
    · exact joins_ready
    · rename_i hjoined
      rw [Bool.not_eq_true, Bool.not_eq_false', List.isEmpty_iff] at hjoined
      rw [hjoined]
      split
      · exact joins_ready
      · exact iff_of_false not_joins_pending List.not_mem_nil

/-- Where the output goes after an answer. -/
def goesTo (c : Composition) (states : StateTable) (sender : Name) :
    Except RoutingError (Admission P) → Except RoutingError NameSet
  | .error e => .error e
  | .ok .pending => .ok ∅
  | .ok (.ready _ joined) => .ok (destinations c states sender joined)

/-- A route is an admission, and where its answer leads. -/
theorem route_eq {now : Nat} :
    r.route states now c sender id payload =
      ((r.admission states now c sender id payload).1,
        (r.admission states now c sender id payload).2.1,
        goesTo c states sender (r.admission states now c sender id payload).2.2) := by
  unfold route
  rcases r.admission states now c sender id payload with ⟨r', logs, e | a⟩
  · rfl
  · cases a <;> rfl

/-- No plain statement accepts a sender whose message is refused or kept. -/
theorem not_accepts_of_plainAccepts (h : plainAccepts c sender = false) {s : Statement}
    (hs : s ∈ c.statements) (hw : s.awaitsAll = false) : ¬ c.accepts s sender = true := by
  unfold plainAccepts at h
  rw [List.any_eq_false] at h
  have hno := h s hs
  rw [hw] at hno
  simpa using hno

/-- The plain statements that accept the sender, and those that wait and whose groups the message
completes. -/
def Fires (c : Composition) (sender : Name) (a : Except RoutingError (Admission P))
    (s : Statement) : Prop :=
  s.awaitsAll = false ∧ c.accepts s sender = true ∨ s.awaitsAll = true ∧ Joins a s.id

theorem not_fires {a : Except RoutingError (Admission P)} (hplain : plainAccepts c sender = false)
    (ha : ∀ k, ¬ Joins a k) {s : Statement} (hs : s ∈ c.statements) : ¬ Fires c sender a s := by
  rintro (⟨hw, hacc⟩ | ⟨-, hj⟩)
  · exact not_accepts_of_plainAccepts hplain hs hw hacc
  · exact ha s.id hj

/-- An execution sends its output where the statements that fire lead. -/
theorem mem_goesTo_ready {inputs : List (Name × P)} {joined : List Nat} :
    (∃ ns, goesTo c states sender (.ok (.ready inputs joined)) = .ok ns ∧ n ∈ ns) ↔
      ∃ s ∈ c.selected states.get?, Fires c sender (.ok (.ready inputs joined)) s ∧
        n ∈ s.outputs := by
  unfold goesTo Fires
  simp only [Except.ok.injEq, exists_eq_left', mem_destinations, fires_iff, joins_ready]

/-- **The output goes where the statements that fire lead**, also if the message is refused or
kept, as none fires then. -/
theorem mem_goesTo_answer :
    (∃ ns, goesTo c states sender (answer states c owner sender payload d) = .ok ns ∧ n ∈ ns) ↔
      ∃ s ∈ c.selected states.get?, Fires c sender (answer states c owner sender payload d) s ∧
        n ∈ s.outputs := by
  unfold answer
  split
  · split
    · rename_i hrefused
      have hplain : plainAccepts c sender = false :=
        Bool.not_eq_true' _ ▸ (Bool.and_eq_true_iff.mp hrefused).1
      constructor
      · rintro ⟨ns, he, -⟩
        cases he
      · rintro ⟨s, hs, hf, -⟩
        exact absurd hf (not_fires hplain (fun k => not_joins_error)
          ((selected_sublist c _).subset hs))
    · exact mem_goesTo_ready
  · split
    · exact mem_goesTo_ready
    · split
      · exact mem_goesTo_ready
      · rename_i hplain
        rw [Bool.not_eq_true] at hplain
        constructor
        · rintro ⟨ns, he, hn⟩
          cases he
          exact absurd hn (NameSet.not_mem_empty n)
        · rintro ⟨s, hs, hf, -⟩
          exact absurd hf (not_fires hplain (fun k => not_joins_pending)
            ((selected_sublist c _).subset hs))

end Answers

/-! ## What one message brings about -/

/-- The statements whose groups the message completes. -/
def closing (c : Composition) (id : CommunicationId) (r : Router P) (m : Arriving P) :
    List Statement :=
  completed (r.start c.text m.now).barriers m.sender id (groupTargets c m.states.get? m.sender)

section Message

variable {owner : Name} {text : String} {c : Composition} {id : CommunicationId} {r : Router P}
  {ms : List (Arriving P)} {m : Arriving P} {s : Statement} {n : Name} {p : P}
  (hc : compile text owner = .ok c) (hu : c.Unconditional) (hf : Fits c id r ms)
  (hnew : m.sender ∉ ms.map (·.sender))
include hc hu hf hnew

/-- What the admission answers when the groups have taken the message in. -/
theorem Fits.answer_eq :
    (r.admission m.states m.now c m.sender id m.payload).2.2 =
      answer m.states c r.owner m.sender m.payload
        ((groupTargets c m.states.get? m.sender).foldl
          (accept r.owner m.sender id m.payload m.now) (r.start c.text m.now)) := by
  rw [admission_eq, hf.delivery_eq hc hu hnew]

omit hc in
theorem Fits.mem_closing :
    s ∈ closing c id r m ↔ s ∈ c.statements ∧ s.awaitsAll = true ∧ Closes s.inputs ms m := by
  unfold closing completed Closes
  rw [List.mem_filter, mem_groupTargets_unconditional hu, decide_eq_true_iff]
  constructor
  · rintro ⟨⟨hs, hw, hin⟩, hcomp⟩
    exact ⟨hs, hw, hin, (hf.completes_iff hnew hs hw hin).mp hcomp⟩
  · rintro ⟨hs, hw, hin, hcov⟩
    exact ⟨⟨hs, hw, hin⟩, (hf.completes_iff hnew hs hw hin).mpr hcov⟩

theorem Fits.joined_eq :
    ((groupTargets c m.states.get? m.sender).foldl
        (accept r.owner m.sender id m.payload m.now) (r.start c.text m.now)).joined =
      (closing c id r m).map (·.id) :=
  joined_foldl_accept (hf.free hc hu hnew)

theorem Fits.inputs_eq :
    ((groupTargets c m.states.get? m.sender).foldl
        (accept r.owner m.sender id m.payload m.now) (r.start c.text m.now)).inputs =
      addInputs [] (brought (r.start c.text m.now).barriers m.sender id m.payload
        (closing c id r m)) :=
  inputs_foldl_accept (hf.free hc hu hnew)

/-- A statement is among the joined ones exactly if the message completes its group. -/
theorem Fits.id_mem_closing (hs : s ∈ c.statements) :
    s.id ∈ (closing c id r m).map (·.id) ↔ s ∈ closing c id r m := by
  refine ⟨fun hid => ?_, fun hd => List.mem_map_of_mem hd⟩
  obtain ⟨s', hs', he⟩ := List.mem_map.mp hid
  obtain rfl := statement_unique hc ((hf.mem_closing hu hnew).mp hs').1 hs he
  exact hs'

/-- **A message joins the groups of which it is the last input.** -/
theorem Fits.joins_iff {k : Nat} :
    Joins (r.admission m.states m.now c m.sender id m.payload).2.2 k ↔
      ∃ s ∈ c.statements, s.awaitsAll = true ∧ Closes s.inputs ms m ∧ s.id = k := by
  have hnone (h : groupTargets c m.states.get? m.sender = []) :
      ((groupTargets c m.states.get? m.sender).foldl
        (accept r.owner m.sender id m.payload m.now) (r.start c.text m.now)).joined = [] := by
    rw [h]
    rfl
  rw [hf.answer_eq hc hu hnew, joins_answer hnone, hf.joined_eq hc hu hnew, List.mem_map]
  simp only [hf.mem_closing hu hnew, and_assoc]

/-- The same for one statement. -/
theorem Fits.joins_statement (hs : s ∈ c.statements) (hw : s.awaitsAll = true) :
    Joins (r.admission m.states m.now c m.sender id m.payload).2.2 s.id ↔
      Closes s.inputs ms m := by
  rw [hf.joins_iff hc hu hnew]
  constructor
  · rintro ⟨s', hs', -, hclose, hid⟩
    obtain rfl := statement_unique hc hs' hs hid
    exact hclose
  · exact fun hclose => ⟨s, hs, hw, hclose, rfl⟩

/-- **The output goes where the plain statements lead that accept the sender, and those that wait
for the sender last.** -/
theorem Fits.mem_route :
    (∃ ns, (r.route m.states m.now c m.sender id m.payload).2.2 = .ok ns ∧ n ∈ ns) ↔
      ∃ s ∈ c.statements,
        (s.awaitsAll = false ∧ c.accepts s m.sender = true ∨
          s.awaitsAll = true ∧ Closes s.inputs ms m) ∧ n ∈ s.outputs := by
  have hanswer := hf.answer_eq hc hu hnew
  rw [route_eq]
  simp only
  rw [hanswer, mem_goesTo_answer, hu.selected]
  refine exists_congr fun s => and_congr_right fun hs => and_congr_left fun _ => or_congr_right ?_
  refine and_congr_right fun hw => ?_
  rw [← hanswer]
  exact hf.joins_statement hc hu hnew hs hw

omit hc in
/-- Each input of the groups that the message completes is there, with what it has delivered. -/
theorem Fits.mem_brought :
    (n, p) ∈ brought (r.start c.text m.now).barriers m.sender id m.payload (closing c id r m) ↔
      (∃ s ∈ closing c id r m, n ∈ s.inputs) ∧ payloadOf (ms ++ [m]) n = some p := by
  unfold brought
  rw [List.mem_flatMap]
  simp only [NameMap.mem_entries]
  constructor
  · rintro ⟨s, hd, he⟩
    obtain ⟨hs, hw, hclose⟩ := (hf.mem_closing hu hnew).mp hd
    rw [hf.grown_target hnew hs hw hclose.1] at he
    split at he
    · rename_i hn
      exact ⟨⟨s, hd, hn⟩, he⟩
    · cases he
  · rintro ⟨⟨s, hd, hn⟩, hp⟩
    obtain ⟨hs, hw, hclose⟩ := (hf.mem_closing hu hnew).mp hd
    refine ⟨s, hd, ?_⟩
    rw [hf.grown_target hnew hs hw hclose.1, if_pos hn, hp]

/-- The inputs of one group come in the order of its names. -/
theorem Fits.brought_single (hs : s ∈ c.statements)
    (h : (closing c id r m).map (·.id) = [s.id]) :
    (addInputs [] (brought (r.start c.text m.now).barriers m.sender id m.payload
      (closing c id r m))).map (·.1) = s.inputs.toList := by
  obtain ⟨s', hd, he⟩ := List.map_eq_singleton_iff.mp h
  have hmem : s' ∈ closing c id r m := hd ▸ List.mem_singleton_self s'
  obtain ⟨hs', hw, hclose⟩ := (hf.mem_closing hu hnew).mp hmem
  obtain rfl := statement_unique hc hs' hs he
  have hcomp := (hf.completes_iff hnew hs hw hclose.1).mpr hclose.2
  have hnames : (((r.start c.text m.now).barriers.held ⟨s'.id, id⟩).set m.sender
      m.payload).names = s'.inputs.toList := BarrierStore.completes_iff.mpr hcomp
  rw [hd, brought, List.flatMap_singleton, addInputs_entries]
  exact hnames

/-- **The inputs handed out**: of every member of every joined group what it has delivered, each
once, and in the order of the names if there is one group. -/
theorem Fits.handed_out {inputs : List (Name × P)} {joined : List Nat}
    (h : (r.admission m.states m.now c m.sender id m.payload).2.2 = .ok (.ready inputs joined))
    (hj : joined ≠ []) :
    joined.Nodup ∧ (inputs.map (·.1)).Nodup ∧
      (∀ n p, (n, p) ∈ inputs ↔
        (∃ s ∈ c.statements, s.id ∈ joined ∧ n ∈ s.inputs) ∧
          payloadOf (ms ++ [m]) n = some p) ∧
      ∀ s ∈ c.statements, joined = [s.id] → inputs.map (·.1) = s.inputs.toList := by
  rw [hf.answer_eq hc hu hnew] at h
  obtain ⟨rfl, rfl⟩ := answer_ready h hj
  have hfree := hf.free hc hu hnew
  rw [hf.joined_eq hc hu hnew, hf.inputs_eq hc hu hnew]
  have hsub : (closing c id r m).Sublist (groupTargets c m.states.get? m.sender) :=
    List.filter_sublist
  have hempty : (([] : List (Name × P)).map (·.1)).Nodup := List.nodup_nil
  refine ⟨(hsub.map _).nodup hfree.nodup, nodup_addInputs hempty, fun n p => ?_,
    fun s hs he => hf.brought_single hc hu hnew hs he⟩
  -- an input of two groups is handed out once: its sender has one payload
  have hone : ∀ n p p',
      (n, p) ∈ brought (r.start c.text m.now).barriers m.sender id m.payload (closing c id r m) →
      (n, p') ∈ brought (r.start c.text m.now).barriers m.sender id m.payload (closing c id r m) →
      p = p' := by
    intro n p p' h h'
    rw [hf.mem_brought hu hnew] at h h'
    exact Option.some.inj (h.2.symm.trans h'.2)
  rw [mem_addInputs hone, hf.mem_brought hu hnew]
  refine and_congr_left fun _ => ?_
  constructor
  · rintro ⟨s, hd, hn⟩
    have hs := ((hf.mem_closing hu hnew).mp hd).1
    exact ⟨s, hs, (hf.id_mem_closing hc hu hnew hs).mpr hd, hn⟩
  · rintro ⟨s, hs, hid, hn⟩
    exact ⟨s, (hf.id_mem_closing hc hu hnew hs).mp hid, hn⟩

end Message

/-! ## All the messages -/

/-- The router after the messages. -/
def settled (c : Composition) (id : CommunicationId) (r : Router P) (ms : List (Arriving P)) :
    Router P :=
  ms.foldl (fun r m => (r.admission m.states m.now c m.sender id m.payload).1) r

section Run

variable {owner : Name} {text : String} {c : Composition} {id : CommunicationId} {r : Router P}
  {ms : List (Arriving P)} {n : Name} {p : P}

theorem getElem?_admissions {i : Nat} :
    (admissions c id r ms)[i]? = ms[i]?.map fun m =>
      ((settled c id r (ms.take i)).admission m.states m.now c m.sender id m.payload).2.2 := by
  induction ms generalizing r i with
  | nil => rfl
  | cons m ms ih =>
    cases i with
    | zero => rfl
    | succ i => exact ih

theorem getElem?_routes {i : Nat} :
    (routes c id r ms)[i]? = ms[i]?.map fun m =>
      ((settled c id r (ms.take i)).route m.states m.now c m.sender id m.payload).2.2 := by
  induction ms generalizing r i with
  | nil => rfl
  | cons m ms ih =>
    cases i with
    | zero => rfl
    | succ i =>
      unfold routes
      rw [route_eq]
      exact ih

/-- The groups fit the messages at any time. -/
theorem Fits.settled (hc : compile text owner = .ok c) (hu : c.Unconditional)
    {pre : List (Arriving P)} (hf : Fits c id r pre) (hn : ((pre ++ ms).map (·.sender)).Nodup) :
    Fits c id (settled c id r ms) (pre ++ ms) := by
  induction ms generalizing r pre with
  | nil =>
    rw [List.append_nil]
    exact hf
  | cons m ms ih =>
    have hnew : m.sender ∉ pre.map (·.sender) := by
      rw [List.map_append, List.nodup_append] at hn
      exact fun h => hn.2.2 _ h _ (List.mem_map_of_mem List.mem_cons_self) rfl
    rw [List.append_cons] at hn ⊢
    exact ih (hf.step hc hu hnew) hn

section Whole

variable (hc : compile text owner = .ok c) (hu : c.Unconditional) (httl : r.barriers.ttl = none)
  (hid : ∀ k, r.barriers.groups.get? ⟨k, id⟩ = none) (hn : (ms.map (·.sender)).Nodup)
include hc hu httl hid hn

theorem fits_take (i : Nat) : Fits c id (settled c id r (ms.take i)) (ms.take i) := by
  have hnil : Fits c id r ([] : List (Arriving P)) := Fits.nil httl hid
  have hsub := ((List.take_sublist i ms).map (·.sender)).nodup hn
  exact hnil.settled hc hu hsub

/-- **The outputs of all messages**: where the plain statements lead that accept one of the senders,
and those that wait for none but the senders. -/
theorem mem_routes :
    (∃ ns, .ok ns ∈ routes c id r ms ∧ n ∈ ns) ↔
      ∃ s ∈ c.statements,
        (s.awaitsAll = false ∧ (∃ m ∈ ms, c.accepts s m.sender = true) ∨
          s.awaitsAll = true ∧ Covered s.inputs ms) ∧ n ∈ s.outputs := by
  have hone {i : Nat} {m : Arriving P} (hm : ms[i]? = some m) :=
    (fits_take hc hu httl hid hn i).mem_route hc hu (not_mem_senders_take hn hm) (n := n)
  constructor
  · rintro ⟨ns, hns, hmem⟩
    obtain ⟨i, hi⟩ := List.mem_iff_getElem?.mp hns
    rw [getElem?_routes] at hi
    obtain ⟨m, hm, he⟩ := Option.map_eq_some_iff.mp hi
    obtain ⟨s, hs, hfires, hout⟩ := (hone hm).mp ⟨ns, he, hmem⟩
    refine ⟨s, hs, hfires.imp ?_ ?_, hout⟩
    · exact fun ⟨hw, hacc⟩ => ⟨hw, m, List.mem_of_getElem? hm, hacc⟩
    · exact fun ⟨hw, hclose⟩ => ⟨hw, hclose.covered hm⟩
  · rintro ⟨s, hs, hfires, hout⟩
    have hat : ∃ i m, ms[i]? = some m ∧
        (s.awaitsAll = false ∧ c.accepts s m.sender = true ∨
          s.awaitsAll = true ∧ Closes s.inputs (ms.take i) m) := by
      rcases hfires with ⟨hw, m, hm, hacc⟩ | ⟨hw, hcov⟩
      · obtain ⟨i, hi⟩ := List.mem_iff_getElem?.mp hm
        exact ⟨i, m, hi, Or.inl ⟨hw, hacc⟩⟩
      · obtain ⟨i, m, hi, hclose⟩ := exists_closes (inputs_of_mem_statements hc hs hw) hcov
        exact ⟨i, m, hi, Or.inr ⟨hw, hclose⟩⟩
    obtain ⟨i, m, hm, hfires⟩ := hat
    obtain ⟨ns, he, hmem⟩ := (hone hm).mpr ⟨s, hs, hfires, hout⟩
    refine ⟨ns, List.mem_iff_getElem?.mpr ⟨i, ?_⟩, hmem⟩
    rw [getElem?_routes, hm, ← he]
    rfl

/-- **When a waiting statement joins**: at the message that is the last of its inputs. -/
theorem joins_at {s : Statement} (hs : s ∈ c.statements) (hw : s.awaitsAll = true) {i : Nat} :
    (∃ a, (admissions c id r ms)[i]? = some a ∧ Joins a s.id) ↔
      ∃ m, ms[i]? = some m ∧ Closes s.inputs (ms.take i) m := by
  have hone {m : Arriving P} (hm : ms[i]? = some m) :=
    (fits_take hc hu httl hid hn i).joins_statement hc hu (not_mem_senders_take hn hm) hs hw
  rw [getElem?_admissions]
  constructor
  · rintro ⟨a, ha, hj⟩
    obtain ⟨m, hm, rfl⟩ := Option.map_eq_some_iff.mp ha
    exact ⟨m, hm, (hone hm).mp hj⟩
  · rintro ⟨m, hm, hclose⟩
    rw [hm]
    exact ⟨_, rfl, (hone hm).mpr hclose⟩

/-- A waiting statement whose inputs are all among the senders joins once, at the last of them. -/
theorem joins_last {s : Statement} (hs : s ∈ c.statements) (hw : s.awaitsAll = true)
    (hcov : Covered s.inputs ms) :
    ∃ (i : Nat) (m : Arriving P), ms[i]? = some m ∧ m.sender ∈ s.inputs ∧
      (∀ (j : Nat) (m' : Arriving P), ms[j]? = some m' → m'.sender ∈ s.inputs → j ≤ i) ∧
      ∀ j : Nat, (∃ a, (admissions c id r ms)[j]? = some a ∧ Joins a s.id) ↔ j = i := by
  obtain ⟨i, m, hm, hclose⟩ := exists_closes (inputs_of_mem_statements hc hs hw) hcov
  refine ⟨i, m, hm, hclose.1, fun j m' hm' hin => hclose.le hn hm hm' hin, fun j => ?_⟩
  rw [joins_at hc hu httl hid hn hs hw]
  constructor
  · rintro ⟨m', hm', hclose'⟩
    have hji := hclose.le hn hm hm' hclose'.1
    have hij := hclose'.le hn hm' hm hclose.1
    omega
  · rintro rfl
    exact ⟨m, hm, hclose⟩

/-- A waiting statement with an input that is not among the senders never joins. -/
theorem not_joins {s : Statement} (hs : s ∈ c.statements) (hw : s.awaitsAll = true)
    (hcov : ¬ Covered s.inputs ms) {a : Except RoutingError (Admission P)}
    (ha : a ∈ admissions c id r ms) : ¬ Joins a s.id := by
  intro hj
  obtain ⟨i, hi⟩ := List.mem_iff_getElem?.mp ha
  obtain ⟨m, hm, hclose⟩ := (joins_at hc hu httl hid hn hs hw).mp ⟨a, hi, hj⟩
  exact hcov (hclose.covered hm)

/-- **What a message hands out** that joins groups: of every member of these groups the payload that
it delivers. -/
theorem handed_out_at {inputs : List (Name × P)} {joined : List Nat}
    (h : .ok (.ready inputs joined) ∈ admissions c id r ms) (hj : joined ≠ []) :
    joined.Nodup ∧ (∀ k ∈ joined, ∃ s ∈ c.statements, s.awaitsAll = true ∧ s.id = k) ∧
      (inputs.map (·.1)).Nodup ∧
      (∀ n p, (n, p) ∈ inputs ↔
        (∃ s ∈ c.statements, s.id ∈ joined ∧ n ∈ s.inputs) ∧ payloadOf ms n = some p) ∧
      ∀ s ∈ c.statements, joined = [s.id] → inputs.map (·.1) = s.inputs.toList := by
  obtain ⟨i, hi⟩ := List.mem_iff_getElem?.mp h
  rw [getElem?_admissions] at hi
  obtain ⟨m, hm, ha⟩ := Option.map_eq_some_iff.mp hi
  have hf := fits_take hc hu httl hid hn i
  have hnew := not_mem_senders_take hn hm
  obtain ⟨hnodup, hnames, hmem, hsingle⟩ := hf.handed_out hc hu hnew ha hj
  -- a joined group has all its members among the first `i + 1` messages
  have hjoined {k : Nat} (hk : k ∈ joined) :
      ∃ s ∈ c.statements, s.awaitsAll = true ∧ Closes s.inputs (ms.take i) m ∧ s.id = k :=
    (hf.joins_iff hc hu hnew).mp ⟨inputs, joined, ha, hk⟩
  refine ⟨hnodup, fun k hk => ?_, hnames, fun n p => ?_, hsingle⟩
  · obtain ⟨s, hs, hw, -, hid⟩ := hjoined hk
    exact ⟨s, hs, hw, hid⟩
  · rw [hmem n p, take_append hm]
    refine and_congr_right ?_
    rintro ⟨s, hs, hk, hin⟩
    obtain ⟨s', hs', -, hclose, he⟩ := hjoined hk
    obtain rfl := statement_unique hc hs' hs he
    have hall := hclose.2
    rw [take_append hm] at hall
    rw [payloadOf_take (hall n hin)]

omit hn in
/-- **Fan-in does not depend on the order of the messages.** The senders of `S` each deliver their
payload once, in any order, at any times and with any reported states.

The outputs are those of the plain statements that accept one of the senders, and of the waiting
statements whose inputs are all among them. Such a statement joins once, at the last of its inputs;
any other waiting statement never joins. What is handed out then are the payloads of all the members
of the groups joined, each once, and in the order of the names if there is one group. -/
theorem fan_in {S : List (Name × P)} (hS : (S.map (·.1)).Nodup)
    (horder : (ms.map fun m => (m.sender, m.payload)).Perm S) :
    (∀ d, (∃ ns, .ok ns ∈ routes c id r ms ∧ d ∈ ns) ↔
      ∃ s ∈ c.statements,
        (s.awaitsAll = false ∧ (∃ e ∈ S, c.accepts s e.1 = true) ∨
          s.awaitsAll = true ∧ ∀ n ∈ s.inputs, n ∈ S.map (·.1)) ∧ d ∈ s.outputs) ∧
    (∀ s ∈ c.statements, s.awaitsAll = true →
      ((∀ n ∈ s.inputs, n ∈ S.map (·.1)) →
        ∃ (i : Nat) (m : Arriving P), ms[i]? = some m ∧ m.sender ∈ s.inputs ∧
          (∀ (j : Nat) (m' : Arriving P), ms[j]? = some m' → m'.sender ∈ s.inputs → j ≤ i) ∧
          ∀ j : Nat, (∃ a, (admissions c id r ms)[j]? = some a ∧ Joins a s.id) ↔ j = i) ∧
      ((¬ ∀ n ∈ s.inputs, n ∈ S.map (·.1)) →
        ∀ a ∈ admissions c id r ms, ¬ Joins a s.id)) ∧
    ∀ inputs joined, .ok (.ready inputs joined) ∈ admissions c id r ms → joined ≠ [] →
      joined.Nodup ∧ (∀ k ∈ joined, ∃ s ∈ c.statements, s.awaitsAll = true ∧ s.id = k) ∧
      (inputs.map (·.1)).Nodup ∧
      (∀ n p, (n, p) ∈ inputs ↔
        (∃ s ∈ c.statements, s.id ∈ joined ∧ n ∈ s.inputs) ∧ (n, p) ∈ S) ∧
      ∀ s ∈ c.statements, joined = [s.id] → inputs.map (·.1) = s.inputs.toList := by
  have hsenders : (ms.map (·.sender)).Perm (S.map (·.1)) := by
    have h := horder.map (·.1)
    rwa [List.map_map] at h
  have hn : (ms.map (·.sender)).Nodup := hsenders.nodup_iff.mpr hS
  have covered {inputs : NameSet} :
      Covered inputs ms ↔ ∀ n ∈ inputs, n ∈ S.map (·.1) :=
    forall₂_congr fun n _ => hsenders.mem_iff
  have delivered {n : Name} {p : P} : (n, p) ∈ S ↔ payloadOf ms n = some p := by
    rw [payloadOf_eq_some hn, ← horder.mem_iff, List.mem_map]
    simp only [Prod.mk.injEq]
  have accepted {s : Statement} :
      (∃ e ∈ S, c.accepts s e.1 = true) ↔ ∃ m ∈ ms, c.accepts s m.sender = true := by
    simp only [← horder.mem_iff, List.mem_map, exists_exists_and_eq_and]
  simp only [← covered, accepted]
  simp only [delivered]
  exact ⟨fun d => mem_routes hc hu httl hid hn,
    fun s hs hw => ⟨fun hcov => joins_last hc hu httl hid hn hs hw hcov,
      fun hcov a ha => not_joins hc hu httl hid hn hs hw hcov ha⟩,
    fun inputs joined h hj => handed_out_at hc hu httl hid hn h hj⟩

end Whole

/-- The service `B` sends the output for `A` to `C`, and waits for `A` and `E` to send to `D`. -/
def mixedText : String :=
  "h_java:c:A+h_java:c:B+h_java:c:C;h_java:c:A,h_java:c:E+&h_java:c:B+h_java:c:D"

/-- The composition of `mixedText` as the service `B` sees it. -/
def mixed : Composition :=
  ⟨mixedText, .sample "B",
    [.unconditional [⟨⟨.ofList [.sample "A"], .ofList [.sample "C"], false⟩, 0⟩],
      .unconditional
        [⟨⟨.ofList [.sample "A", .sample "E"], .ofList [.sample "D"], true⟩, 1⟩]],
    .ofList [.sample "A", .sample "B", .sample "C", .sample "D", .sample "E"]⟩

theorem compile_mixed : compile mixedText (.sample "B") = .ok mixed :=
  eq_ok_of_toOption (by decide +kernel)

theorem unconditional_mixed : mixed.Unconditional := by
  intro i hi
  rcases List.mem_cons.mp hi with rfl | hi
  · exact ⟨_, rfl⟩
  · exact ⟨_, List.mem_singleton.mp hi⟩

def fromA : Arriving String := ⟨.sample "A", "a", ∅, 0⟩

def fromE : Arriving String := ⟨.sample "E", "e", ∅, 0⟩

/-- Whichever of `A` and `E` comes first, the output goes to `D`. -/
theorem mixed_fan_in :
    (∃ ns, .ok ns ∈ routes mixed 1 (Router.new (.sample "B") none) [fromA, fromE] ∧
      .sample "D" ∈ ns) ∧
    ∃ ns, .ok ns ∈ routes mixed 1 (Router.new (.sample "B") none) [fromE, fromA] ∧
      .sample "D" ∈ ns := by
  have hclosed : ∀ k, (Router.new (P := String) (.sample "B") none).barriers.groups.get? ⟨k, 1⟩ =
      none := fun k => rfl
  have reached {ms : List (Arriving String)}
      (horder : (ms.map fun m => (m.sender, m.payload)).Perm
        [(.sample "A", "a"), (.sample "E", "e")]) :
      ∃ ns, .ok ns ∈ routes mixed 1 (Router.new (.sample "B") none) ms ∧ .sample "D" ∈ ns := by
    have hall := fan_in compile_mixed unconditional_mixed rfl hclosed (by decide +kernel) horder
    exact (hall.1 (.sample "D")).mpr (by decide +kernel)
  exact ⟨reached (.refl _), reached (.swap _ _ _)⟩

end Run

end ServiceFlow.Router
