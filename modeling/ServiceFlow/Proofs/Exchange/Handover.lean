import Mathlib.Data.List.Basic
import ServiceFlow.Exchange
import ServiceFlow.Proofs.Name.Spelling

/-!
# What becomes of the data that is handed on

Any services of one deployment send each other data, and each receiver resolves the messages
published for it, once each and in the order of their publication. A message that points to shared
memory names the entry by receiver, sender and request alone, so two of them on their way at once
have one entry between them.

* `Handover`: the exchange, and for each receiver the messages that it has not resolved yet.
* `Handover.Separate`: whenever data goes through shared memory, no earlier message on its way
  points to the same entry.
* `Handover.Tidy`: each entry is that of the one message on its way that points to it.
* `Handover.run_tidy`: in a run that keeps the messages separate, each message gives the data that
  it was published for.
* `Handover.Short`: more messages point to an entry than there are entries. As long as messages give
  any data at all, this never ends.
* `Handover.faithful_iff_separate`: so a run in which everything is resolved gives all data back
  exactly if it keeps the messages separate.
-/

namespace ServiceFlow

/-! ## Sending on an open bus -/

/-- What a message says of where the data is. -/
def Delivery.location : Delivery → DataLocation
  | .sharedMemory => .sharedMemory
  | .network _ => .network

/-- A message that reaches a subscription comes to the end of its queue. -/
theorem Bus.queued_accept {b : Bus} {m : Message} {subscription : Nat} {s : Subscription}
    (hs : b.subscriptions.get? subscription = some s) (hr : reaches m.topic s = true) :
    (b.accept m).queued subscription = b.queued subscription ++ [m] := by
  unfold queued accept
  rw [Table.get?_map, hs]
  simp [deliver, hr]

namespace Exchange

variable {x : Exchange} {sender receiver : Name} {composition : String} {d : EngineData}

/-- Data goes from `sender` to `receiver` through shared memory. -/
def sharesMemory (x : Exchange) (sender receiver : Name) : Bool :=
  sender.sameProcess receiver && x.memory.isOpen receiver

theorem publish_open (h : x.bus.closed = false) (m : Message) :
    x.publish m = ({ x with bus := x.bus.accept m }, .ok ()) := by
  unfold publish Bus.publish
  rw [h]
  rfl

theorem publishAll_open (h : x.bus.closed = false) (ms : List Message) :
    x.publishAll ms = ({ x with bus := ms.foldl Bus.accept x.bus }, .ok ()) := by
  induction ms generalizing x with
  | nil => rfl
  | cons m ms ih =>
    unfold publishAll
    rw [publish_open h m]
    exact ih (x := { x with bus := x.bus.accept m }) h

theorem send_shared (h : x.bus.closed = false) (hs : x.sharesMemory sender receiver = true) :
    x.send sender receiver composition d =
      ({ x with
          memory := x.memory.insert ⟨receiver, sender, d.id⟩ d
          bus := x.bus.accept (.ofData (.ofName receiver) sender composition d .sharedMemory) },
        .ok .sharedMemory) := by
  obtain ⟨hp, ho⟩ := Bool.and_eq_true_iff.mp hs
  unfold send SharedMemory.put?
  simp only [hp, ho, if_true]
  rw [publish_open (x := { x with memory := x.memory.insert ⟨receiver, sender, d.id⟩ d }) h]

theorem send_network (h : x.bus.closed = false) (hs : x.sharesMemory sender receiver = false) :
    x.send sender receiver composition d =
      ({ x with bus := x.bus.accept (.ofData (.ofName receiver) sender composition d .network) },
        .ok (.network d.payload.length)) := by
  have hnone : (if sender.sameProcess receiver then x.memory.put? ⟨receiver, sender, d.id⟩ d
      else none) = none := by
    unfold sharesMemory at hs
    cases hp : sender.sameProcess receiver with
    | false => rfl
    | true =>
      rw [hp, Bool.true_and] at hs
      rw [if_pos rfl, SharedMemory.put?, hs]
      rfl
  unfold send sendByNetwork
  simp only [hnone, publish_open h]

end Exchange

/-! ## Runs -/

/-- A message on its way, with its sender and the data that it was published for. -/
structure Parcel where
  sender : Name
  data : EngineData
  message : Message

/-- The message points to the entry of a key. -/
def Parcel.pointsTo (p : Parcel) (key : EntryKey) : Bool :=
  p.message.location = .sharedMemory && p.sender = key.sender && p.message.header.id = key.id

/-- The exchange, and what each receiver has not resolved yet, in the order of publication. -/
structure Handover where
  exchange : Exchange
  waiting : Name → List Parcel

namespace Handover

/-- What may happen next. -/
inductive Event where
  | send (sender receiver : Name) (composition : String) (d : EngineData)
  | resolve (receiver : Name)

/-- What a receiver has got from a message, beside the data that it was published for. -/
structure Outcome where
  receiver : Name
  given : EngineData
  got : Except DispatchError EngineData

/-- Nothing is on its way. -/
def start (x : Exchange) : Handover := ⟨x, fun _ => []⟩

/-- What waits for one receiver is replaced. -/
def withWaiting (h : Handover) (x : Exchange) (receiver : Name) (ps : List Parcel) : Handover :=
  ⟨x, fun n => if n = receiver then ps else h.waiting n⟩

/-- One event, and the outcome of a message that is resolved. -/
def step (h : Handover) : Event → Handover × List Outcome
  | .send sender receiver composition d =>
    match h.exchange.send sender receiver composition d with
    | (x, .ok delivery) =>
      let message := .ofData (.ofName receiver) sender composition d delivery.location
      (h.withWaiting x receiver (h.waiting receiver ++ [⟨sender, d, message⟩]), [])
    | (x, .error _) => ({ h with exchange := x }, [])
  | .resolve receiver =>
    match h.waiting receiver with
    | [] => (h, [])
    | p :: ps =>
      let (x, got) := h.exchange.resolve receiver p.sender p.message
      (h.withWaiting x receiver ps, [⟨receiver, p.data, got⟩])

/-- Events in turn, with all outcomes. -/
def run (h : Handover) : List Event → Handover × List Outcome
  | [] => (h, [])
  | e :: es =>
    let (h', os) := h.step e
    let (h'', os') := h'.run es
    (h'', os ++ os')

/-- The messages on their way that point to the entry of a key. -/
def pointers (h : Handover) (key : EntryKey) : List Parcel :=
  (h.waiting key.receiver).filter (·.pointsTo key)

/-- Data is sent through shared memory under the key of an earlier message on its way. -/
def Overlaps (h : Handover) : Event → Prop
  | .send sender receiver _ d =>
    h.exchange.sharesMemory sender receiver = true ∧ h.pointers ⟨receiver, sender, d.id⟩ ≠ []
  | .resolve _ => False

/-- No event of the run overlaps. -/
def Separate (h : Handover) : List Event → Prop
  | [] => True
  | e :: es => ¬ h.Overlaps e ∧ (h.step e).1.Separate es

/-- The data sent to a receiver, in order. -/
def sentTo (n : Name) : List Event → List EngineData
  | [] => []
  | .send _ receiver _ d :: es => if receiver = n then d :: sentTo n es else sentTo n es
  | .resolve _ :: es => sentTo n es

/-- The data that the messages resolved by a receiver were published for, in order. -/
def resolvedBy (n : Name) (os : List Outcome) : List EngineData :=
  (os.filter (·.receiver = n)).map (·.given)

variable {h : Handover} {sender receiver : Name} {composition : String} {d : EngineData}
  {key : EntryKey} {p : Parcel} {ps : List Parcel} {es : List Event}

/-! ## What one event does -/

theorem location_code (l : DataLocation) : DataLocation.ofCode l.code = l := by
  cases l <;> rfl

/-- The message that `d` is sent in. -/
def parcel (sender receiver : Name) (composition : String) (d : EngineData)
    (location : DataLocation) : Parcel :=
  ⟨sender, d, .ofData (.ofName receiver) sender composition d location⟩

theorem parcel_pointsTo {l : DataLocation} :
    (parcel sender receiver composition d l).pointsTo key = true ↔
      l = .sharedMemory ∧ sender = key.sender ∧ d.id = key.id := by
  unfold Parcel.pointsTo
  rw [Bool.and_eq_true, Bool.and_eq_true, decide_eq_true_iff, decide_eq_true_iff,
    decide_eq_true_iff, and_assoc]
  have hl : (parcel sender receiver composition d l).message.location = l := location_code l
  rw [hl]
  rfl

theorem step_send_shared (ho : h.exchange.bus.closed = false)
    (hs : h.exchange.sharesMemory sender receiver = true) :
    h.step (.send sender receiver composition d) =
      (h.withWaiting
        { h.exchange with
          memory := h.exchange.memory.insert ⟨receiver, sender, d.id⟩ d
          bus := h.exchange.bus.accept
            (.ofData (.ofName receiver) sender composition d .sharedMemory) }
        receiver (h.waiting receiver ++ [parcel sender receiver composition d .sharedMemory]),
        []) := by
  simp only [step, Exchange.send_shared ho hs]
  rfl

theorem step_send_network (ho : h.exchange.bus.closed = false)
    (hs : h.exchange.sharesMemory sender receiver = false) :
    h.step (.send sender receiver composition d) =
      (h.withWaiting
        { h.exchange with
          bus := h.exchange.bus.accept
            (.ofData (.ofName receiver) sender composition d .network) }
        receiver (h.waiting receiver ++ [parcel sender receiver composition d .network]),
        []) := by
  simp only [step, Exchange.send_network ho hs]
  rfl

variable (sender receiver composition d) in
/-- The message joins what waits for its receiver, at the end. -/
theorem waiting_send (ho : h.exchange.bus.closed = false) :
    ∃ l, ∀ n, (h.step (.send sender receiver composition d)).1.waiting n =
      if n = receiver then h.waiting receiver ++ [parcel sender receiver composition d l]
      else h.waiting n := by
  cases hs : h.exchange.sharesMemory sender receiver with
  | true =>
    rw [step_send_shared ho hs]
    exact ⟨.sharedMemory, fun n => rfl⟩
  | false =>
    rw [step_send_network ho hs]
    exact ⟨.network, fun n => rfl⟩

/-- A subscription that the receiver's topic reaches gets the messages in the order in which they
wait. -/
theorem queued_send (ho : h.exchange.bus.closed = false) {subscription : Nat} {s : Subscription}
    (hs : h.exchange.bus.subscriptions.get? subscription = some s)
    (hr : Bus.reaches (.ofName receiver) s = true) :
    ∃ p, (h.step (.send sender receiver composition d)).1.waiting receiver =
        h.waiting receiver ++ [p] ∧
      (h.step (.send sender receiver composition d)).1.exchange.bus.queued subscription =
        h.exchange.bus.queued subscription ++ [p.message] := by
  have queued {l : DataLocation} :
      (h.exchange.bus.accept (.ofData (.ofName receiver) sender composition d l)).queued
          subscription =
        h.exchange.bus.queued subscription ++ [.ofData (.ofName receiver) sender composition d l] :=
    Bus.queued_accept hs hr
  cases hm : h.exchange.sharesMemory sender receiver with
  | true =>
    rw [step_send_shared ho hm]
    exact ⟨parcel sender receiver composition d .sharedMemory, if_pos rfl, queued⟩
  | false =>
    rw [step_send_network ho hm]
    exact ⟨parcel sender receiver composition d .network, if_pos rfl, queued⟩

theorem outcomes_send (ho : h.exchange.bus.closed = false) :
    (h.step (.send sender receiver composition d)).2 = [] := by
  cases hs : h.exchange.sharesMemory sender receiver with
  | true => rw [step_send_shared ho hs]
  | false => rw [step_send_network ho hs]

theorem step_resolve_nil (hw : h.waiting receiver = []) : h.step (.resolve receiver) = (h, []) := by
  simp only [step, hw]

theorem step_resolve_cons (hw : h.waiting receiver = p :: ps) :
    h.step (.resolve receiver) =
      (h.withWaiting (h.exchange.resolve receiver p.sender p.message).1 receiver ps,
        [⟨receiver, p.data, (h.exchange.resolve receiver p.sender p.message).2⟩]) := by
  simp only [step, hw]

theorem run_cons (h : Handover) (e : Event) (es : List Event) :
    h.run (e :: es) =
      (((h.step e).1.run es).1, (h.step e).2 ++ ((h.step e).1.run es).2) := rfl

/-! ## Pointers and entries -/

theorem get?_insert {m : SharedMemory} {key' : EntryKey} :
    (m.insert key d).get? key' = if key = key' then some d else m.get? key' :=
  Table.get?_set m.entries key key' d

theorem get?_remove {m : SharedMemory} {key' : EntryKey} :
    (m.remove key).get? key' = if key = key' then none else m.get? key' :=
  Table.get?_erase m.entries key key'

/-- The pointers to an entry after a change of what waits for one receiver. -/
theorem pointers_withWaiting {x : Exchange} :
    (h.withWaiting x receiver ps).pointers key =
      if key.receiver = receiver then ps.filter (·.pointsTo key) else h.pointers key := by
  unfold pointers withWaiting
  simp only
  split <;> rfl

/-- The data is written to the entry of the key. -/
def Writes (h : Handover) (sender receiver : Name) (d : EngineData) (key : EntryKey) : Prop :=
  h.exchange.sharesMemory sender receiver = true ∧ key = ⟨receiver, sender, d.id⟩

theorem pointers_append {x : Exchange} :
    (h.withWaiting x receiver (h.waiting receiver ++ [p])).pointers key =
      h.pointers key ++ if key.receiver = receiver ∧ p.pointsTo key = true then [p] else [] := by
  rw [pointers_withWaiting]
  by_cases hr : key.receiver = receiver
  · rw [if_pos hr, List.filter_append, List.filter_singleton, ← hr]
    cases hp : p.pointsTo key with
    | true => simp [pointers]
    | false => simp [pointers]
  · simp [hr]

theorem pointers_send_of_writes (ho : h.exchange.bus.closed = false)
    (hw : h.Writes sender receiver d key) :
    (h.step (.send sender receiver composition d)).1.pointers key =
      h.pointers key ++ [parcel sender receiver composition d .sharedMemory] := by
  obtain ⟨hs, rfl⟩ := hw
  rw [step_send_shared ho hs, pointers_append, if_pos]
  exact ⟨rfl, parcel_pointsTo.mpr ⟨rfl, rfl, rfl⟩⟩

theorem pointers_send (ho : h.exchange.bus.closed = false)
    (hw : ¬ h.Writes sender receiver d key) :
    (h.step (.send sender receiver composition d)).1.pointers key = h.pointers key := by
  cases hs : h.exchange.sharesMemory sender receiver with
  | true =>
    rw [step_send_shared ho hs, pointers_append, if_neg, List.append_nil]
    rintro ⟨hr, hp⟩
    obtain ⟨-, h1, h2⟩ := parcel_pointsTo.mp hp
    exact hw ⟨hs, by rw [← hr, h1, h2]⟩
  | false =>
    rw [step_send_network ho hs, pointers_append, if_neg, List.append_nil]
    rintro ⟨-, hp⟩
    cases (parcel_pointsTo.mp hp).1

theorem get?_send_of_writes (ho : h.exchange.bus.closed = false)
    (hw : h.Writes sender receiver d key) :
    (h.step (.send sender receiver composition d)).1.exchange.memory.get? key = some d := by
  obtain ⟨hs, rfl⟩ := hw
  rw [step_send_shared ho hs]
  change (h.exchange.memory.insert _ d).get? _ = _
  rw [get?_insert, if_pos rfl]

theorem get?_send (ho : h.exchange.bus.closed = false) (hw : ¬ h.Writes sender receiver d key) :
    (h.step (.send sender receiver composition d)).1.exchange.memory.get? key =
      h.exchange.memory.get? key := by
  cases hs : h.exchange.sharesMemory sender receiver with
  | true =>
    rw [step_send_shared ho hs]
    change (h.exchange.memory.insert _ d).get? _ = _
    rw [get?_insert, if_neg fun hk => hw ⟨hs, hk.symm⟩]
  | false =>
    rw [step_send_network ho hs]
    rfl

/-- The message that its receiver resolves points to the entry of the key. -/
def Reads (receiver : Name) (p : Parcel) (key : EntryKey) : Prop :=
  key.receiver = receiver ∧ p.pointsTo key = true

theorem reads_iff : Reads receiver p key ↔
    p.message.location = .sharedMemory ∧ key = ⟨receiver, p.sender, p.message.header.id⟩ := by
  obtain ⟨r, s, i⟩ := key
  unfold Reads Parcel.pointsTo
  simp only [Bool.and_eq_true, decide_eq_true_iff, EntryKey.mk.injEq]
  constructor
  · rintro ⟨hr, ⟨hl, hs⟩, hi⟩
    exact ⟨hl, hr, hs.symm, hi.symm⟩
  · rintro ⟨hl, hr, hs, hi⟩
    exact ⟨hr, ⟨hl, hs.symm⟩, hi.symm⟩

theorem pointers_resolve_of_reads (hw : h.waiting receiver = p :: ps)
    (hr : Reads receiver p key) :
    h.pointers key = p :: (h.step (.resolve receiver)).1.pointers key := by
  obtain ⟨hk, hp⟩ := hr
  rw [step_resolve_cons hw, pointers_withWaiting, if_pos hk, pointers, hk, hw,
    List.filter_cons, if_pos hp]

theorem pointers_resolve (hw : h.waiting receiver = p :: ps) (hr : ¬ Reads receiver p key) :
    (h.step (.resolve receiver)).1.pointers key = h.pointers key := by
  rw [step_resolve_cons hw, pointers_withWaiting]
  split
  · rename_i hk
    rw [pointers, hk, hw, List.filter_cons, if_neg fun hp => hr ⟨hk, hp⟩]
  · rfl

theorem resolve_network {x : Exchange} {m : Message} (hl : m.location = .network) :
    x.resolve receiver sender m = (x, .ok m.engineData) := by
  unfold Exchange.resolve
  rw [hl]

theorem resolve_missing {x : Exchange} {m : Message} (hl : m.location = .sharedMemory)
    (hg : x.memory.get? ⟨receiver, sender, m.header.id⟩ = none) :
    x.resolve receiver sender m =
      (x, .error (.missingEntry ⟨receiver, sender, m.header.id⟩)) := by
  unfold Exchange.resolve
  simp only [hl, hg]

theorem resolve_found {x : Exchange} {m : Message} (hl : m.location = .sharedMemory)
    (hg : x.memory.get? ⟨receiver, sender, m.header.id⟩ = some d) :
    x.resolve receiver sender m =
      ({ x with memory := x.memory.remove ⟨receiver, sender, m.header.id⟩ },
        .ok { d with state := d.state <|> m.header.state }) := by
  unfold Exchange.resolve
  simp only [hl, hg]

theorem get?_resolve_of_reads (hw : h.waiting receiver = p :: ps) (hr : Reads receiver p key) :
    (h.step (.resolve receiver)).1.exchange.memory.get? key = none := by
  obtain ⟨hl, rfl⟩ := reads_iff.mp hr
  rw [step_resolve_cons hw]
  change (h.exchange.resolve receiver p.sender p.message).1.memory.get? _ = none
  cases hg : h.exchange.memory.get? ⟨receiver, p.sender, p.message.header.id⟩ with
  | none => rw [resolve_missing hl hg, hg]
  | some d => rw [resolve_found hl hg, get?_remove, if_pos rfl]

theorem get?_resolve (hw : h.waiting receiver = p :: ps) (hr : ¬ Reads receiver p key) :
    (h.step (.resolve receiver)).1.exchange.memory.get? key = h.exchange.memory.get? key := by
  rw [step_resolve_cons hw]
  change (h.exchange.resolve receiver p.sender p.message).1.memory.get? _ = _
  cases hl : p.message.location with
  | network => rw [resolve_network hl]
  | sharedMemory =>
    cases hg : h.exchange.memory.get? ⟨receiver, p.sender, p.message.header.id⟩ with
    | none => rw [resolve_missing hl hg]
    | some d =>
      rw [resolve_found hl hg, get?_remove, if_neg]
      exact fun hk => hr (reads_iff.mpr ⟨hl, hk.symm⟩)

theorem resolve_bus {x : Exchange} {m : Message} : (x.resolve receiver sender m).1.bus = x.bus := by
  unfold Exchange.resolve
  split
  · rfl
  · simp only
    split <;> rfl

/-- The bus stays open. -/
theorem step_open (ho : h.exchange.bus.closed = false) (e : Event) :
    (h.step e).1.exchange.bus.closed = false := by
  cases e with
  | send sender receiver composition d =>
    cases hs : h.exchange.sharesMemory sender receiver with
    | true => rw [step_send_shared ho hs]; exact ho
    | false => rw [step_send_network ho hs]; exact ho
  | resolve receiver =>
    cases hw : h.waiting receiver with
    | nil => rw [step_resolve_nil hw]; exact ho
    | cons p ps =>
      rw [step_resolve_cons hw]
      exact (congrArg Bus.closed resolve_bus).trans ho

/-! ## Messages that stay separate -/

/-- Every message carries or points to what it was published for, and each entry is that of the only
message on its way that points to it. -/
structure Tidy (h : Handover) : Prop where
  is_open : h.exchange.bus.closed = false
  written : ∀ n, ∀ p ∈ h.waiting n, ∃ composition l, p = parcel p.sender n composition p.data l
  single : ∀ key, (h.pointers key).map (·.data) = (h.exchange.memory.get? key).toList

theorem tidy_start {x : Exchange} (ho : x.bus.closed = false) (he : x.memory.entries = []) :
    (start x).Tidy := by
  refine ⟨ho, fun n p hp => absurd hp List.not_mem_nil, fun key => ?_⟩
  change [] = (Table.get? x.memory.entries key).toList
  rw [he]
  rfl

theorem tidy_send (ht : h.Tidy) (ho : ¬ h.Overlaps (.send sender receiver composition d)) :
    (h.step (.send sender receiver composition d)).1.Tidy := by
  refine ⟨step_open ht.is_open _, fun n p hp => ?_, fun key => ?_⟩
  · obtain ⟨l, hl⟩ := waiting_send sender receiver composition d ht.is_open
    rw [hl] at hp
    split at hp
    · rename_i hn
      subst hn
      rcases List.mem_append.mp hp with hp | hp
      · exact ht.written n p hp
      · rw [List.mem_singleton.mp hp]
        exact ⟨composition, l, rfl⟩
    · exact ht.written n p hp
  · by_cases hw : h.Writes sender receiver d key
    · have hfree : h.pointers key = [] := by
        by_contra hne
        exact ho ⟨hw.1, hw.2 ▸ hne⟩
      rw [pointers_send_of_writes ht.is_open hw, get?_send_of_writes ht.is_open hw, hfree]
      rfl
    · rw [pointers_send ht.is_open hw, get?_send ht.is_open hw]
      exact ht.single key

theorem tidy_resolve (ht : h.Tidy) : (h.step (.resolve receiver)).1.Tidy := by
  cases hw : h.waiting receiver with
  | nil =>
    rw [step_resolve_nil hw]
    exact ht
  | cons p ps =>
    refine ⟨step_open ht.is_open _, fun n q hq => ?_, fun key => ?_⟩
    · rw [step_resolve_cons hw] at hq
      unfold withWaiting at hq
      simp only at hq
      split at hq
      · rename_i hn
        rw [hn]
        exact ht.written receiver q (hw ▸ List.mem_cons_of_mem _ hq)
      · exact ht.written n q hq
    · by_cases hr : Reads receiver p key
      · have hone := ht.single key
        rw [pointers_resolve_of_reads hw hr, List.map_cons] at hone
        rw [get?_resolve_of_reads hw hr]
        cases hg : h.exchange.memory.get? key with
        | none => rw [hg] at hone; cases hone
        | some d =>
          rw [hg] at hone
          exact (List.cons.inj hone).2
      · rw [pointers_resolve hw hr, get?_resolve hw hr]
        exact ht.single key

/-- The message says nothing of the state that the entry does not say. -/
theorem with_own_state (d : EngineData) : { d with state := d.state <|> d.state } = d := by
  obtain ⟨_, _, _, state, _⟩ := d
  cases state <;> rfl

/-- A message on its way gives the data that it was published for. -/
theorem resolve_tidy (ht : h.Tidy) (hw : h.waiting receiver = p :: ps) :
    (h.exchange.resolve receiver p.sender p.message).2 = .ok p.data := by
  obtain ⟨composition, l, hp⟩ := ht.written receiver p (hw ▸ List.mem_cons_self)
  have hm : p.message = .ofData (.ofName receiver) p.sender composition p.data l :=
    congrArg Parcel.message hp
  have hl : p.message.location = l := by
    rw [hm]
    exact location_code l
  cases l with
  | network =>
    rw [resolve_network hl, hm]
    rfl
  | sharedMemory =>
    have hr : Reads receiver p ⟨receiver, p.sender, p.message.header.id⟩ :=
      reads_iff.mpr ⟨hl, rfl⟩
    have hone := ht.single ⟨receiver, p.sender, p.message.header.id⟩
    rw [pointers_resolve_of_reads hw hr, List.map_cons] at hone
    cases hg : h.exchange.memory.get? ⟨receiver, p.sender, p.message.header.id⟩ with
    | none => rw [hg] at hone; cases hone
    | some d =>
      rw [hg] at hone
      obtain rfl : p.data = d := (List.cons.inj hone).1
      have hstate : p.message.header.state = p.data.state := by
        rw [hm]
        rfl
      rw [resolve_found hl hg, hstate, with_own_state]

/-- **One event that does not overlap.** -/
theorem step_tidy (ht : h.Tidy) {e : Event} (ho : ¬ h.Overlaps e) :
    (h.step e).1.Tidy ∧ ∀ o ∈ (h.step e).2, o.got = .ok o.given := by
  cases e with
  | send sender receiver composition d =>
    refine ⟨tidy_send ht ho, ?_⟩
    rw [outcomes_send ht.is_open]
    exact fun o ho => absurd ho List.not_mem_nil
  | resolve receiver =>
    refine ⟨tidy_resolve ht, ?_⟩
    cases hw : h.waiting receiver with
    | nil => rw [step_resolve_nil hw]; exact fun o ho => absurd ho List.not_mem_nil
    | cons p ps =>
      rw [step_resolve_cons hw]
      intro o ho
      rw [List.mem_singleton.mp ho]
      exact resolve_tidy ht hw

/-- **A run that keeps the messages separate gives all data back.** -/
theorem run_tidy (ht : h.Tidy) (hs : h.Separate es) :
    (h.run es).1.Tidy ∧ ∀ o ∈ (h.run es).2, o.got = .ok o.given := by
  induction es generalizing h with
  | nil => exact ⟨ht, fun o ho => absurd ho List.not_mem_nil⟩
  | cons e es ih =>
    obtain ⟨ho, hs⟩ := hs
    obtain ⟨ht', hfirst⟩ := step_tidy ht ho
    obtain ⟨ht'', hrest⟩ := ih ht' hs
    rw [run_cons]
    refine ⟨ht'', fun o ho => ?_⟩
    rcases List.mem_append.mp ho with ho | ho
    · exact hfirst o ho
    · exact hrest o ho

/-! ## Messages that overlap -/

/-- More messages on their way point to the entry of the key than there are such entries. -/
def Short (h : Handover) (key : EntryKey) : Prop :=
  (h.exchange.memory.get? key).toList.length < (h.pointers key).length

theorem short_of_overlaps (ht : h.Tidy) (ho : h.Overlaps (.send sender receiver composition d)) :
    (h.step (.send sender receiver composition d)).1.Short ⟨receiver, sender, d.id⟩ := by
  obtain ⟨hs, hne⟩ := ho
  have hw : h.Writes sender receiver d ⟨receiver, sender, d.id⟩ := ⟨hs, rfl⟩
  unfold Short
  rw [pointers_send_of_writes ht.is_open hw, get?_send_of_writes ht.is_open hw]
  have hpos := List.length_pos_iff.mpr hne
  simp only [Option.toList_some, List.length_singleton, List.length_append]
  omega

/-- A shortage lasts as long as every message that is resolved gives any data. -/
theorem short_step (ho : h.exchange.bus.closed = false) (hshort : h.Short key) {e : Event}
    (hok : ∀ o ∈ (h.step e).2, o.got = .ok o.given) : (h.step e).1.Short key := by
  unfold Short at hshort ⊢
  cases e with
  | send sender receiver composition d =>
    by_cases hw : h.Writes sender receiver d key
    · rw [pointers_send_of_writes ho hw, get?_send_of_writes ho hw]
      simp only [Option.toList_some, List.length_singleton, List.length_append]
      omega
    · rw [pointers_send ho hw, get?_send ho hw]
      exact hshort
  | resolve receiver =>
    cases hw : h.waiting receiver with
    | nil =>
      rw [step_resolve_nil hw]
      exact hshort
    | cons p ps =>
      by_cases hr : Reads receiver p key
      · have hfound : h.exchange.memory.get? key ≠ none := by
          intro hg
          obtain ⟨hl, rfl⟩ := reads_iff.mp hr
          rw [step_resolve_cons hw, resolve_missing hl hg] at hok
          cases hok _ List.mem_cons_self
        obtain ⟨d, hg⟩ := Option.ne_none_iff_exists'.mp hfound
        rw [pointers_resolve_of_reads hw hr, hg] at hshort
        rw [get?_resolve_of_reads hw hr]
        simpa using hshort
      · rw [pointers_resolve hw hr, get?_resolve hw hr]
        exact hshort

theorem short_run (ho : h.exchange.bus.closed = false) (hshort : h.Short key)
    (hok : ∀ o ∈ (h.run es).2, o.got = .ok o.given) : (h.run es).1.Short key := by
  induction es generalizing h with
  | nil => exact hshort
  | cons e es ih =>
    rw [run_cons] at hok ⊢
    have hfirst := short_step ho hshort fun o hm => hok o (List.mem_append_left _ hm)
    exact ih (step_open ho e) hfirst fun o hm => hok o (List.mem_append_right _ hm)

/-- **When all data is given back**: in a run in which everything is resolved, exactly if it keeps
the messages separate. -/
theorem faithful_iff_separate (ht : h.Tidy) (hdone : ∀ n, (h.run es).1.waiting n = []) :
    (∀ o ∈ (h.run es).2, o.got = .ok o.given) ↔ h.Separate es := by
  refine ⟨fun hok => ?_, fun hs => (run_tidy ht hs).2⟩
  induction es generalizing h with
  | nil => trivial
  | cons e es ih =>
    rw [run_cons] at hok hdone
    have hrest : ∀ o ∈ ((h.step e).1.run es).2, o.got = .ok o.given := fun o hm =>
      hok o (List.mem_append_right _ hm)
    have hsep : ¬ h.Overlaps e := by
      intro hover
      cases e with
      | resolve receiver => exact hover
      | send sender receiver composition d =>
        -- a shortage would last until everything is resolved, and then nothing is waiting
        have hshort := short_run (step_open ht.is_open _) (short_of_overlaps ht hover) hrest
        unfold Short pointers at hshort
        rw [hdone] at hshort
        exact Nat.not_lt_zero _ hshort
    exact ⟨hsep, ih (step_tidy ht hsep).1 hdone hrest⟩

/-! ## What is given back -/

theorem resolvedBy_append (n : Name) (os os' : List Outcome) :
    resolvedBy n (os ++ os') = resolvedBy n os ++ resolvedBy n os' := by
  unfold resolvedBy
  rw [List.filter_append, List.map_append]

variable (es) in
/-- Each receiver comes to the data sent to it in the order in which it was sent. -/
theorem resolvedBy_run (ho : h.exchange.bus.closed = false) (n : Name) :
    resolvedBy n (h.run es).2 ++ ((h.run es).1.waiting n).map (·.data) =
      (h.waiting n).map (·.data) ++ sentTo n es := by
  induction es generalizing h with
  | nil => exact (List.append_nil _).symm
  | cons e es ih =>
    have hrest := ih (step_open ho e)
    rw [run_cons, resolvedBy_append, List.append_assoc, hrest]
    cases e with
    | send sender receiver composition d =>
      obtain ⟨l, hl⟩ := waiting_send sender receiver composition d ho
      rw [outcomes_send ho, hl, sentTo]
      by_cases hn : n = receiver
      · subst hn
        simp [resolvedBy, parcel]
      · rw [if_neg hn, if_neg (Ne.symm hn)]
        rfl
    | resolve receiver =>
      cases hw : h.waiting receiver with
      | nil =>
        rw [step_resolve_nil hw]
        rfl
      | cons p ps =>
        rw [step_resolve_cons hw, sentTo]
        unfold withWaiting
        by_cases hn : n = receiver
        · subst hn
          simp [resolvedBy, hw]
        · simp [resolvedBy, hn, Ne.symm hn]

/-- **Data that is handed on is given back.** Services send each other data over an open bus, and
the receivers resolve the messages published for them. As long as no two messages on their way point
to one entry, each gives the data that it was published for. When all have been resolved, each
receiver has gone through the data sent to it in order, and has got all of it exactly if no two
messages pointed to one entry. -/
theorem handover_exact {x : Exchange} (ho : x.bus.closed = false) (he : x.memory.entries = [])
    (es : List Event) :
    ((start x).Separate es → ∀ o ∈ ((start x).run es).2, o.got = .ok o.given) ∧
      ((∀ n, ((start x).run es).1.waiting n = []) →
        (∀ n, resolvedBy n ((start x).run es).2 = sentTo n es) ∧
        ((∀ o ∈ ((start x).run es).2, o.got = .ok o.given) ↔ (start x).Separate es)) := by
  have htidy := tidy_start ho he
  refine ⟨fun hs => (run_tidy htidy hs).2, fun hdone => ⟨fun n => ?_, ?_⟩⟩
  · have hrun := resolvedBy_run es htidy.is_open n
    rw [hdone, List.map_nil, List.append_nil] at hrun
    exact hrun
  · exact faithful_iff_separate htidy hdone

/-! ## Two messages with one entry -/

/-- An open bus, and the service `B` open on its DPE. -/
def oneReceiver : Exchange :=
  { Exchange.empty with memory := SharedMemory.empty.openReceiver (.sample "B") }

/-- The service `A` sends `B` two texts of one request before `B` resolves the first. -/
def twoAtOnce : List Event :=
  [.send (.sample "A") (.sample "B") "" (.ofText "first" 42),
    .send (.sample "A") (.sample "B") "" (.ofText "second" 42),
    .resolve (.sample "B"), .resolve (.sample "B")]

/-- **Data is overwritten on its way.** The first message gives the second text, and the second
message gives nothing. -/
theorem data_overwritten :
    oneReceiver.bus.closed = false ∧ oneReceiver.memory.entries = [] ∧
      ((start oneReceiver).run twoAtOnce).2 =
        [⟨.sample "B", .ofText "first" 42, .ok (.ofText "second" 42)⟩,
          ⟨.sample "B", .ofText "second" 42,
            .error (.missingEntry ⟨.sample "B", .sample "A", 42⟩)⟩] ∧
      ¬ ∀ o ∈ ((start oneReceiver).run twoAtOnce).2, o.got = .ok o.given := by
  have houtcomes : ((start oneReceiver).run twoAtOnce).2 =
      [⟨.sample "B", .ofText "first" 42, .ok (.ofText "second" 42)⟩,
        ⟨.sample "B", .ofText "second" 42,
          .error (.missingEntry ⟨.sample "B", .sample "A", 42⟩)⟩] := rfl
  refine ⟨rfl, rfl, houtcomes, fun hall => ?_⟩
  rw [houtcomes] at hall
  cases hall _ (List.mem_cons_of_mem _ List.mem_cons_self)

/-- The service `A` waits with the second text until `B` has resolved the first. -/
def oneAtATime : List Event :=
  [.send (.sample "A") (.sample "B") "" (.ofText "first" 42), .resolve (.sample "B"),
    .send (.sample "A") (.sample "B") "" (.ofText "second" 42), .resolve (.sample "B")]

theorem oneAtATime_faithful :
    (∀ o ∈ ((start oneReceiver).run oneAtATime).2, o.got = .ok o.given) ∧
      ∀ n, resolvedBy n ((start oneReceiver).run oneAtATime).2 = sentTo n oneAtATime := by
  have hexact := handover_exact (x := oneReceiver) rfl rfl oneAtATime
  refine ⟨hexact.1 ⟨fun h => h.2 rfl, id, fun h => h.2 rfl, id, trivial⟩, (hexact.2 ?_).1⟩
  intro n
  by_cases hn : n = .sample "B"
  · rw [hn]
    rfl
  · have hnone : sentTo n oneAtATime = [] := by
      simp [sentTo, oneAtATime, Ne.symm hn]
    have hrun := resolvedBy_run (h := start oneReceiver) oneAtATime rfl n
    rw [hnone] at hrun
    exact List.map_eq_nil_iff.mp (List.append_eq_nil_iff.mp hrun).2

end Handover

end ServiceFlow
