import ServiceFlow.Proofs.Results
import ServiceFlow.Proofs.Routing.Arrivals
import ServiceFlow.Proofs.Routing.Reachable

/-!
# Requests do not see each other

The messages of any number of requests come in any order, under one composition and with no time to
live. What the router answers to the messages of one request is what it would answer if there were no
other requests.

* `BarrierStore.Agree`: two stores have the same groups of a request.
* `deliver_other`: a message of another request changes none of these groups.
* `Alike.deliver`: on stores that agree, a message of the request meets the same fate.
* `SameFor`: two routers that answer the request alike; `SameFor.own` and `SameFor.other` keep it.
* `requests_separate`: so the answers to a request are those of the run in which it is alone.
-/

namespace ServiceFlow

open ServiceFlow.Composition

variable {P : Type} {id : CommunicationId}

/-- The stores have the same open groups of the request. -/
def BarrierStore.Agree (id : CommunicationId) (b b' : BarrierStore P) : Prop :=
  ∀ k, b.groups.get? ⟨k, id⟩ = b'.groups.get? ⟨k, id⟩

namespace BarrierStore

variable {b b' : BarrierStore P} {now statement : Nat} {id' : CommunicationId} {sender : Name}
  {payload : P} {expected : NameSet}

theorem Agree.symm (h : b.Agree id b') : b'.Agree id b := fun k => (h k).symm

theorem Agree.trans {b'' : BarrierStore P} (h : b.Agree id b') (h' : b'.Agree id b'') :
    b.Agree id b'' := fun k => (h k).trans (h' k)

variable (now statement sender payload expected) in
/-- An input of the request keeps the agreement. -/
theorem Agree.arrive (h : b.Agree id b') :
    (b.arrive now ⟨statement, id⟩ sender payload expected).1.Agree id
      (b'.arrive now ⟨statement, id⟩ sender payload expected).1 := by
  intro k
  by_cases hk : k = statement
  · subst hk
    exact get?_arrive_congr (h k)
  · have hne : (⟨k, id⟩ : GroupKey) ≠ ⟨statement, id⟩ := fun e => hk (congrArg GroupKey.statement e)
    rw [get?_arrive_of_ne hne, get?_arrive_of_ne hne, h k]

/-- An input of another request changes no group of this one. -/
theorem arrive_other (h : id' ≠ id) :
    (b.arrive now ⟨statement, id'⟩ sender payload expected).1.Agree id b :=
  fun _ => get?_arrive_of_ne fun e => h (congrArg GroupKey.id e).symm

end BarrierStore

namespace Router

/-! ## One message -/

section Deliveries

variable {owner sender : Name} {id' : CommunicationId} {payload : P} {now : Nat}
  {d d' : Delivery P} {ss : List Statement}

/-- Deliveries that agree on the groups of the request and have joined the same. -/
structure Alike (id : CommunicationId) (d d' : Delivery P) : Prop where
  groups : d.barriers.Agree id d'.barriers
  inputs : d.inputs = d'.inputs
  joined : d.joined = d'.joined

variable (owner sender payload now ss) in
/-- **A message of the request meets the same fate** in groups that agree. -/
theorem Alike.deliver (h : Alike id d d') :
    (deliver owner sender id payload now d ss).2 = (deliver owner sender id payload now d' ss).2 ∧
      Alike id (deliver owner sender id payload now d ss).1
        (deliver owner sender id payload now d' ss).1 := by
  induction ss generalizing d d' with
  | nil => exact ⟨rfl, h⟩
  | cons s ss ih =>
    have hgroups := h.groups.arrive now s.id sender payload s.inputs
    have hanswer : (d.barriers.arrive now ⟨s.id, id⟩ sender payload s.inputs).2 =
        (d'.barriers.arrive now ⟨s.id, id⟩ sender payload s.inputs).2 :=
      BarrierStore.arrive_answer_congr (BarrierStore.held_congr (h.groups s.id))
    unfold Router.deliver
    rcases hb : d.barriers.arrive now ⟨s.id, id⟩ sender payload s.inputs with ⟨b, a⟩
    rcases hb' : d'.barriers.arrive now ⟨s.id, id⟩ sender payload s.inputs with ⟨b', a'⟩
    rw [hb, hb'] at hgroups hanswer
    obtain rfl : a = a' := hanswer
    cases a with
    | duplicate => exact ⟨rfl, hgroups, h.inputs, h.joined⟩
    | pending arrived awaited => exact ih ⟨hgroups, h.inputs, h.joined⟩
    | complete inputs =>
      exact ih ⟨hgroups, congrArg (addInputs · inputs) h.inputs, congrArg (· ++ [s.id]) h.joined⟩

/-- **A message of another request changes no group of this one.** -/
theorem deliver_other (h : id' ≠ id) :
    (deliver owner sender id' payload now d ss).1.barriers.Agree id d.barriers :=
  deliver_keeps (M := (·.Agree id d.barriers))
    (fun _ _ _ hb => (BarrierStore.arrive_other h).trans hb) fun _ => rfl

variable (owner sender id payload now d ss) in
theorem deliver_bound :
    (deliver owner sender id payload now d ss).1.barriers.composition = d.barriers.composition ∧
      (deliver owner sender id payload now d ss).1.barriers.ttl = d.barriers.ttl :=
  deliver_keeps
    (M := fun b => b.composition = d.barriers.composition ∧ b.ttl = d.barriers.ttl)
    (fun _ _ _ hb => BarrierStore.arrive_bound.imp (·.trans hb.1) (·.trans hb.2)) ⟨rfl, rfl⟩

end Deliveries

/-! ## Runs -/

/-- A message with the number of its request. -/
structure Numbered (P : Type) extends Arriving P where
  id : CommunicationId

/-- The admission of a message. -/
def receive (c : Composition) (r : Router P) (m : Numbered P) :
    Router P × List LogEvent × Except RoutingError (Admission P) :=
  r.admission m.states m.now c m.sender m.id m.payload

/-- What the router answers to each message, beside the number of its request. -/
def answers (c : Composition) (r : Router P) :
    List (Numbered P) → List (CommunicationId × Except RoutingError (Admission P))
  | [] => []
  | m :: ms => (m.id, (receive c r m).2.2) :: answers c (receive c r m).1 ms

/-- The router after the messages. -/
def receiveAll (c : Composition) (r : Router P) (ms : List (Numbered P)) : Router P :=
  ms.foldl (fun r m => (receive c r m).1) r

section Runs

variable {c : Composition} {r r' : Router P} {m : Numbered P} {ms : List (Numbered P)}

theorem answers_cons :
    answers c r (m :: ms) = (m.id, (receive c r m).2.2) :: answers c (receive c r m).1 ms := rfl

/-- The groups that an admission starts from if there is no time to live. -/
def ownGroups (c : Composition) (r : Router P) : BarrierStore P := (r.barriers.supersede c.text).1

theorem receive_delivery (h : r.barriers.ttl = none) :
    (r.delivery m.states m.now c m.sender m.id m.payload) =
      deliver r.owner m.sender m.id m.payload m.now ⟨ownGroups c r, [], [], []⟩
        (groupTargets c m.states.get? m.sender) := by
  have hstart : (r.start c.text m.now).barriers = ownGroups c r := start_barriers h
  unfold delivery
  rw [← hstart]
  rfl

/-- An admission leaves the store bound to the text, and without a time to live. -/
theorem receive_bound (h : r.barriers.ttl = none) :
    (receive c r m).1.barriers.composition = some c.text ∧ (receive c r m).1.barriers.ttl = none := by
  obtain ⟨hc, httl⟩ := deliver_bound m.id r.owner m.sender m.payload m.now
    ⟨ownGroups c r, [], [], []⟩ (groupTargets c m.states.get? m.sender)
  rw [receive, admission_eq, receive_delivery h]
  refine ⟨hc.trans BarrierStore.supersede_composition, httl.trans ?_⟩
  unfold ownGroups BarrierStore.supersede
  split <;> exact h

theorem ownGroups_receive (h : r.barriers.ttl = none) :
    ownGroups c (receive c r m).1 = (receive c r m).1.barriers := by
  unfold ownGroups BarrierStore.supersede
  rw [if_pos (receive_bound h).1]

/-- Both routers have the same groups of the request, as far as these count. -/
structure SameFor (c : Composition) (id : CommunicationId) (r r' : Router P) : Prop where
  owner : r.owner = r'.owner
  no_ttl : r.barriers.ttl = none
  no_ttl' : r'.barriers.ttl = none
  groups : (ownGroups c r).Agree id (ownGroups c r')

/-- A message of the request is answered alike, and both routers stay alike. -/
theorem SameFor.own (h : SameFor c m.id r r') :
    (receive c r m).2.2 = (receive c r' m).2.2 ∧
      SameFor c m.id (receive c r m).1 (receive c r' m).1 := by
  have hstart : Alike m.id ⟨ownGroups c r, [], [], []⟩ ⟨ownGroups c r', [], [], []⟩ :=
    ⟨h.groups, rfl, rfl⟩
  obtain ⟨herror, hgroups, hinputs, hjoined⟩ := hstart.deliver r.owner m.sender m.payload m.now
    (groupTargets c m.states.get? m.sender)
  refine ⟨?_, ?_, (receive_bound h.no_ttl).2, (receive_bound h.no_ttl').2, ?_⟩
  · rw [receive, receive, admission_eq, admission_eq, receive_delivery h.no_ttl, receive_delivery h.no_ttl',
      ← h.owner, ← herror]
    simp only [answer, hinputs, hjoined]
  · rw [receive, receive, admission_eq, admission_eq]
    exact h.owner
  · rw [ownGroups_receive h.no_ttl, ownGroups_receive h.no_ttl', receive, receive, admission_eq,
      admission_eq, receive_delivery h.no_ttl, receive_delivery h.no_ttl', ← h.owner]
    exact hgroups

/-- A message of another request leaves the groups of this one as they are. -/
theorem ownGroups_other (h : r.barriers.ttl = none) (hm : m.id ≠ id) :
    (ownGroups c (receive c r m).1).Agree id (ownGroups c r) := by
  rw [ownGroups_receive h, receive, admission_eq, receive_delivery h]
  exact deliver_other hm

theorem SameFor.other (h : SameFor c id r r') (hm : m.id ≠ id) : SameFor c id (receive c r m).1 r' := by
  refine ⟨?_, (receive_bound h.no_ttl).2, h.no_ttl', (ownGroups_other h.no_ttl hm).trans h.groups⟩
  rw [receive, admission_eq]
  exact h.owner

variable (ms) in
/-- The messages of other requests can be left out. -/
theorem SameFor.run (h : SameFor c id r r') :
    (answers c r ms).filter (·.1 = id) = answers c r' (ms.filter (·.id = id)) ∧
      SameFor c id (receiveAll c r ms) (receiveAll c r' (ms.filter (·.id = id))) := by
  induction ms generalizing r r' with
  | nil => exact ⟨rfl, h⟩
  | cons m ms ih =>
    by_cases hm : m.id = id
    · subst hm
      obtain ⟨hsame, hnext⟩ := h.own
      obtain ⟨hrest, hend⟩ := ih hnext
      rw [List.filter_cons, if_pos (decide_eq_true rfl)]
      refine ⟨?_, hend⟩
      rw [answers_cons, List.filter_cons, if_pos (decide_eq_true rfl), hsame, hrest,
        answers_cons]
    · obtain ⟨hrest, hend⟩ := ih (h.other hm)
      have hne : ¬ decide (m.id = id) = true := by rwa [decide_eq_true_iff]
      rw [List.filter_cons, if_neg hne]
      refine ⟨?_, hend⟩
      rw [answers_cons, List.filter_cons, if_neg hne]
      exact hrest

variable (c ms) in
theorem receiveAll_no_ttl (h : r.barriers.ttl = none) : (receiveAll c r ms).barriers.ttl = none := by
  induction ms generalizing r with
  | nil => exact h
  | cons m ms ih => exact ih (receive_bound h).2

/-- **Requests do not see each other.** The answers to the messages of one request are those of the
run in which all messages of other requests are left out, and so are its open groups in the end. A
message of another request changes none of them at any time. -/
theorem requests_separate (c : Composition) (r : Router P) (h : r.barriers.ttl = none)
    (ms : List (Numbered P)) (id : CommunicationId) :
    (answers c r ms).filter (·.1 = id) = answers c r (ms.filter (·.id = id)) ∧
      (∀ k, (ownGroups c (receiveAll c r ms)).groups.get? ⟨k, id⟩ =
        (ownGroups c (receiveAll c r (ms.filter (·.id = id)))).groups.get? ⟨k, id⟩) ∧
      ∀ (m : Numbered P), m.id ≠ id → ∀ k,
        (receive c (receiveAll c r ms) m).1.barriers.groups.get? ⟨k, id⟩ =
          (ownGroups c (receiveAll c r ms)).groups.get? ⟨k, id⟩ := by
  have hself : SameFor c id r r := ⟨rfl, h, h, fun _ => rfl⟩
  obtain ⟨hanswers, hsame⟩ := hself.run ms
  refine ⟨hanswers, hsame.groups, fun m hm k => ?_⟩
  have hno := receiveAll_no_ttl c ms h
  rw [← ownGroups_receive hno]
  exact ownGroups_other hno hm k

/-- The service `B` waits for `A` and `E`. -/
def pairText : String := "h_java:c:A,h_java:c:E+&h_java:c:B"

/-- The composition of `pairText` as the service `B` sees it. -/
def pair : Composition :=
  ⟨pairText, .sample "B",
    [.unconditional [⟨⟨.ofList [.sample "A", .sample "E"], ∅, true⟩, 0⟩]],
    .ofList [.sample "A", .sample "B", .sample "E"]⟩

theorem compile_pair : compile pairText (.sample "B") = .ok pair :=
  eq_ok_of_toOption (by decide +kernel)

/-- What `A` has for the first request does not meet what `E` has for the second. -/
theorem pair_separate :
    (answers pair (Router.new (.sample "B") none)
        [⟨⟨.sample "A", "a1", ∅, 0⟩, 1⟩, ⟨⟨.sample "E", "e2", ∅, 0⟩, 2⟩,
          ⟨⟨.sample "E", "e1", ∅, 0⟩, 1⟩]).filter (·.1 = 1) =
      answers pair (Router.new (.sample "B") none)
        [⟨⟨.sample "A", "a1", ∅, 0⟩, 1⟩, ⟨⟨.sample "E", "e1", ∅, 0⟩, 1⟩] :=
  (requests_separate pair (Router.new (.sample "B") none) rfl _ 1).1

end Runs

end Router

end ServiceFlow
