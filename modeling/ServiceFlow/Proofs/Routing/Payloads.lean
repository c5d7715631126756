import ServiceFlow.Proofs.Routing.Provenance

/-!
# The router does not look at what it carries

A router buffers payloads and hands them out again. Whatever payloads are, a function of them can be
applied before they come in or after they go out: the routing is the same. So more can be noted of a
payload, such as where it comes from, and a router that carries the note decides as one that does not.

* `BarrierStore.arrive_map`: the store that takes in images of payloads.
* `Router.receive_map`: the admission of an image, and `Router.handedOut_map`: the groups that it
  completes.
-/

namespace ServiceFlow

variable {P Q : Type}

/-! ## Images -/

/-- The images of the payloads in a list of inputs. -/
def mapInputs (f : P → Q) (inputs : List (Name × P)) : List (Name × Q) :=
  inputs.map fun e => (e.1, f e.2)

theorem names_mapInputs (f : P → Q) (inputs : List (Name × P)) :
    (mapInputs f inputs).map (·.1) = inputs.map (·.1) := by
  unfold mapInputs
  rw [List.map_map]
  rfl

/-- The images of the values of a map. -/
def NameMap.map (f : P → Q) (t : NameMap P) : NameMap Q :=
  ⟨mapInputs f t.entries, (names_mapInputs f t.entries).symm ▸ t.ascending⟩

/-- A group of images. -/
def Group.map (f : P → Q) (g : Group P) : Group Q := ⟨g.arrivals.map f, g.openedAt⟩

/-- A store of images. -/
def BarrierStore.map (f : P → Q) (b : BarrierStore P) : BarrierStore Q :=
  ⟨b.ttl, b.composition, b.groups.map fun e => (e.1, e.2.map f)⟩

/-- What becomes of an image. -/
def Arrival.map (f : P → Q) : Arrival P → Arrival Q
  | .pending arrived expected => .pending arrived expected
  | .complete inputs => .complete (mapInputs f inputs)
  | .duplicate => .duplicate

/-- An admission with images. -/
def Admission.map (f : P → Q) : Admission P → Admission Q
  | .pending => .pending
  | .ready inputs joined => .ready (mapInputs f inputs) joined

/-! ## Maps and tables -/

section Collections

variable (f : P → Q)

theorem NameMap.get?_map (t : NameMap P) (n : Name) : (t.map f).get? n = (t.get? n).map f := by
  obtain ⟨l, hl⟩ := t
  change find? n (mapInputs f l) = (find? n l).map f
  clear hl
  induction l with
  | nil => rfl
  | cons e r ih =>
    obtain ⟨m, a⟩ := e
    unfold mapInputs at ih ⊢
    rw [List.map_cons, find?, find?, ih]
    split <;> rfl

theorem NameMap.has_map (t : NameMap P) (n : Name) : (t.map f).has n = t.has n := by
  unfold has
  rw [get?_map, Option.isSome_map]

theorem NameMap.set_map (t : NameMap P) (n : Name) (p : P) :
    (t.map f).set n (f p) = (t.set n p).map f := by
  refine NameMap.ext_get? fun q => ?_
  rw [get?_set, get?_map, get?_map, get?_set]
  split <;> rfl

end Collections

/-! ## Stores -/

namespace BarrierStore

variable (f : P → Q) (b : BarrierStore P)

theorem get?_map (key : GroupKey) :
    (b.map f).groups.get? key = (b.groups.get? key).map (·.map f) :=
  Table.get?_map (Group.map f) b.groups key

theorem held_map (key : GroupKey) : (b.map f).held key = (b.held key).map f := by
  unfold held
  rw [get?_map]
  cases b.groups.get? key with
  | none => rfl
  | some g => rfl

theorem completes_map (key : GroupKey) (sender : Name) (expected : NameSet) :
    (b.map f).Completes key sender expected ↔ b.Completes key sender expected := by
  unfold Completes
  rw [held_map]
  simp only [NameMap.has_map]

theorem grown_map (now : Nat) (key : GroupKey) (sender : Name) (payload : P) :
    (b.map f).grown now key sender (f payload) = (b.grown now key sender payload).map f := by
  unfold grown groupAt
  rw [held_map, get?_map, NameMap.set_map]
  cases b.groups.get? key with
  | none => rfl
  | some g => rfl

/-- **An image is taken in** as the payload itself. -/
theorem arrive_map (now : Nat) (key : GroupKey) (sender : Name) (payload : P)
    (expected : NameSet) :
    (b.map f).arrive now key sender (f payload) expected =
      ((b.arrive now key sender payload expected).1.map f,
        (b.arrive now key sender payload expected).2.map f) := by
  have hhas : ((b.map f).held key).has sender = (b.held key).has sender := by
    rw [held_map, NameMap.has_map]
  cases hh : (b.held key).has sender with
  | true =>
    rw [arrive_held hh, arrive_held (hhas.trans hh)]
    rfl
  | false =>
    by_cases hc : b.Completes key sender expected
    · rw [arrive_completes hh hc,
        arrive_completes (hhas.trans hh) ((completes_map f b key sender expected).mpr hc),
        held_map, NameMap.set_map]
      exact congrArg (fun g => (BarrierStore.mk b.ttl b.composition g, Arrival.complete _))
        (Table.erase_map (Group.map f) b.groups key)
    · rw [arrive_pending hh hc,
        arrive_pending (hhas.trans hh) (mt (completes_map f b key sender expected).mp hc),
        grown_map, held_map, NameMap.set_map]
      refine Prod.ext ?_ ?_
      · exact congrArg (BarrierStore.mk b.ttl b.composition) (Table.set_map (Group.map f) b.groups key _)
      · exact congrArg (Arrival.pending · expected.size) (List.length_map _)

theorem supersede_map (text : String) :
    (b.map f).supersede text = ((b.supersede text).1.map f, (b.supersede text).2) := by
  have hlength : (b.map f).groups.length = b.groups.length := List.length_map _
  unfold supersede
  rw [hlength]
  change (if b.composition = some text then _ else _) = _
  split <;> rfl

theorem evictExpired_map (now : Nat) :
    (b.map f).evictExpired now = ((b.evictExpired now).1.map f, (b.evictExpired now).2) := by
  obtain ⟨ttl, composition, groups⟩ := b
  cases ttl with
  | none => rfl
  | some ttl =>
    unfold evictExpired map
    simp only [List.filter_map, List.length_map]
    rfl

end BarrierStore

/-! ## Routers -/

namespace Router

variable (f : P → Q)

/-- A router that carries images. -/
def map (r : Router P) : Router Q := ⟨r.owner, r.barriers.map f⟩

/-- The delivery of an image. -/
def Delivery.map (d : Delivery P) : Delivery Q :=
  ⟨d.barriers.map f, d.logs, mapInputs f d.inputs, d.joined⟩

theorem addInputs_map (known more : List (Name × P)) :
    addInputs (mapInputs f known) (mapInputs f more) = mapInputs f (addInputs known more) := by
  induction more generalizing known with
  | nil => rfl
  | cons e more ih =>
    have hany : (mapInputs f known).any (·.1 == e.1) = known.any (·.1 == e.1) := by
      unfold mapInputs
      rw [List.any_map]
      rfl
    have hcons : mapInputs f (e :: more) = (e.1, f e.2) :: mapInputs f more := rfl
    rw [hcons, addInputs_cons, addInputs_cons, hany]
    split
    · exact ih known
    · rw [← ih]
      unfold mapInputs
      rw [List.map_append]
      rfl

theorem deliver_map (owner sender : Name) (id : CommunicationId) (payload : P) (now : Nat)
    (d : Delivery P) (ss : List Statement) :
    deliver owner sender id (f payload) now (Delivery.map f d) ss =
      (Delivery.map f (deliver owner sender id payload now d ss).1,
        (deliver owner sender id payload now d ss).2) := by
  induction ss generalizing d with
  | nil => rfl
  | cons s ss ih =>
    have hbarriers : (Delivery.map f d).barriers = d.barriers.map f := rfl
    unfold deliver
    rw [hbarriers, BarrierStore.arrive_map]
    rcases d.barriers.arrive now ⟨s.id, id⟩ sender payload s.inputs with ⟨b, a⟩
    cases a with
    | duplicate => rfl
    | pending arrived expected => exact ih ⟨b, _, d.inputs, d.joined⟩
    | complete inputs =>
      have hinputs := addInputs_map f d.inputs inputs
      have hlength : (mapInputs f inputs).length = inputs.length := List.length_map _
      simp only [Arrival.map, Delivery.map, hlength, hinputs]
      exact ih ⟨b, _, addInputs d.inputs inputs, _⟩

theorem completions_map (sender : Name) (id : CommunicationId) (payload : P) (now : Nat)
    (b : BarrierStore P) (ss : List Statement) :
    completions sender id (f payload) now (b.map f) ss =
      (completions sender id payload now b ss).map fun e => (e.1, mapInputs f e.2) := by
  induction ss generalizing b with
  | nil => rfl
  | cons s ss ih =>
    unfold completions
    rw [BarrierStore.arrive_map]
    rcases b.arrive now ⟨s.id, id⟩ sender payload s.inputs with ⟨b, a⟩
    cases a with
    | duplicate => rfl
    | pending arrived expected => exact ih b
    | complete inputs => exact congrArg (List.cons _) (ih b)

theorem refresh_map (r : Router P) (text : String) (now : Nat) :
    (r.map f).refresh text now = ((r.refresh text now).1.map f, (r.refresh text now).2) := by
  unfold refresh map
  rw [BarrierStore.supersede_map]
  simp only [BarrierStore.evictExpired_map]

theorem answer_map (states : StateTable) (c : Composition) (owner sender : Name) (payload : P)
    (d : Delivery P) :
    answer states c owner sender (f payload) (Delivery.map f d) =
      (answer states c owner sender payload d).map (Admission.map f) := by
  have hjoined : (Delivery.map f d).joined = d.joined := rfl
  unfold answer
  rw [hjoined]
  split
  · split <;> rfl
  · split
    · rfl
    · split <;> rfl

/-- A message with the image of its payload. -/
def Numbered.map (m : Numbered P) : Numbered Q := ⟨⟨m.sender, f m.payload, m.states, m.now⟩, m.id⟩

/-- **The admission of an image** is the image of the admission. -/
theorem receive_map (c : Composition) (r : Router P) (m : Numbered P) :
    receive c (r.map f) (Numbered.map f m) =
      ((receive c r m).1.map f, (receive c r m).2.1, (receive c r m).2.2.map (Admission.map f)) := by
  have hdelivery : (r.map f).delivery m.states m.now c m.sender m.id (f m.payload) =
      (Delivery.map f (r.delivery m.states m.now c m.sender m.id m.payload).1,
        (r.delivery m.states m.now c m.sender m.id m.payload).2) := by
    unfold delivery
    rw [refresh_map]
    exact deliver_map f _ _ _ _ _ ⟨(r.refresh c.text m.now).1, [], [], []⟩ _
  have himage : receive c (r.map f) (Numbered.map f m) =
      (r.map f).admission m.states m.now c m.sender m.id (f m.payload) := rfl
  rw [himage, receive, admission_eq, admission_eq, hdelivery, refresh_map]
  cases (r.delivery m.states m.now c m.sender m.id m.payload).2 with
  | some e => rfl
  | none =>
    have hanswer := answer_map f m.states c r.owner m.sender m.payload
      (r.delivery m.states m.now c m.sender m.id m.payload).1
    exact congrArg (fun a => (_, _, a)) hanswer

/-- So are the groups that it completes. -/
theorem handedOut_map (c : Composition) (r : Router P) (m : Numbered P) :
    handedOut c (r.map f) (Numbered.map f m) =
      (handedOut c r m).map fun e => (e.1, mapInputs f e.2) := by
  unfold handedOut
  rw [refresh_map]
  exact completions_map f _ _ _ _ _ _

end Router

end ServiceFlow
