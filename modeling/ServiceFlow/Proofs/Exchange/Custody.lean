import ServiceFlow.Proofs.Bus.Delivery
import ServiceFlow.Proofs.Bus.Readers
import ServiceFlow.Proofs.Exchange.Handover
import ServiceFlow.Proofs.Name.Canonical
import ServiceFlow.Proofs.Name.Collections

/-!
# Shared memory does not leak

An entry of shared memory is put down by a sender and taken away by the receiver of a message that
points to it. Receivers come and go meanwhile, messages are refused by the bus, and entries are written
over. Whatever happens, for every entry there is somebody who will take it away.

## The parties

`Custody` is an exchange with those who work on it: the open receivers with their subscriptions, the
messages that receivers have in hand, and the senders between the two halves of a sending. A sender puts
the data down first (`Exchange.place`) and publishes the message then (`Exchange.conclude`);
`Exchange.send_eq` is both together. `Custody.step` is what may happen next. A message may be refused by
the bus though it is open, which `Exchange.amid` says.

## Results

* `Custody.Kept`: each entry is that of an open receiver, and a message that points to it is unresolved
  there or on its way from its sender. `Kept.step`, `Kept.run`: so it is after every run.
* `entries_are_kept`: what this comes to for those who look at the table.
-/

namespace ServiceFlow

/-! ## The halves of a sending -/

/-- A sending whose data has been put down, and where. -/
structure Sending where
  sender : Name
  receiver : Name
  composition : String
  data : EngineData
  location : DataLocation

namespace Sending

/-- The entry that the data is put down under, if it goes through shared memory. -/
def key (s : Sending) : EntryKey := ⟨s.receiver, s.sender, s.data.id⟩

/-- The message to publish. -/
def message (s : Sending) : Message :=
  .ofData (.ofName s.receiver) s.sender s.composition s.data s.location

end Sending

namespace Exchange

/-- The first half: the data is put into shared memory, if it can go that way. -/
def place (x : Exchange) (sender receiver : Name) (d : EngineData) : Exchange × DataLocation :=
  match if sender.sameProcess receiver then x.memory.put? ⟨receiver, sender, d.id⟩ d else none with
  | none => (x, .network)
  | some memory => ({ x with memory := memory }, .sharedMemory)

/-- The second half: the message is published, or else what was put down is taken back. -/
def conclude (x : Exchange) (s : Sending) : Exchange :=
  match x.publish s.message, s.location with
  | (x, .ok ()), _ => x
  | (x, .error _), .network => x
  | (x, .error _), .sharedMemory => { x with memory := x.memory.remove s.key }

/-- The same over another bus. -/
def onBus (x : Exchange) (b : Bus) : Exchange := { x with bus := b }

/-- Something that happens to an exchange while its bus refuses all messages, or does not. -/
def amid (x : Exchange) (refused : Bool) (f : Exchange → Exchange) : Exchange :=
  if refused then (f (x.onBus { x.bus with closed := true })).onBus x.bus else f x

variable {x : Exchange} {sender receiver : Name} {composition : String} {d : EngineData}

/-- **A sending is its two halves.** -/
theorem send_eq :
    (x.send sender receiver composition d).1 =
      (x.place sender receiver d).1.conclude
        ⟨sender, receiver, composition, d, (x.place sender receiver d).2⟩ := by
  obtain ⟨o, ho⟩ : ∃ o, (if sender.sameProcess receiver then
      x.memory.put? ⟨receiver, sender, d.id⟩ d else none) = o := ⟨_, rfl⟩
  unfold send place conclude Sending.message
  simp only [ho]
  cases o with
  | none =>
    unfold sendByNetwork
    rcases x.publish (.ofData (.ofName receiver) sender composition d .network) with ⟨x', r⟩
    cases r <;> rfl
  | some memory =>
    simp only
    rcases publish { x with memory := memory }
      (.ofData (.ofName receiver) sender composition d .sharedMemory) with ⟨x', r⟩
    cases r <;> rfl

/-- The first half leaves the bus alone, so the bus need not refuse anything before the second. -/
theorem amid_send (refused : Bool) :
    (x.amid refused fun x => (x.send sender receiver composition d).1) =
      (x.place sender receiver d).1.amid refused
        (·.conclude ⟨sender, receiver, composition, d, (x.place sender receiver d).2⟩) := by
  cases refused with
  | false => exact send_eq
  | true =>
    have hplace (b : Bus) : (x.onBus b).place sender receiver d =
        ((x.place sender receiver d).1.onBus b, (x.place sender receiver d).2) := by
      unfold place onBus
      simp only
      split <;> rfl
    have hbus : (x.place sender receiver d).1.bus = x.bus := by
      unfold place
      split <;> rfl
    unfold amid
    simp only [if_pos]
    rw [send_eq, hplace, hbus]

/-- The entry is put down only for an open receiver. -/
theorem place_spec (x : Exchange) (sender receiver : Name) (d : EngineData) :
    (x.place sender receiver d = (x, .network)) ∨
      receiver ∈ x.memory.receivers ∧ x.place sender receiver d =
        ({ x with memory := x.memory.insert ⟨receiver, sender, d.id⟩ d }, .sharedMemory) := by
  unfold place SharedMemory.put? SharedMemory.isOpen
  by_cases hs : sender.sameProcess receiver = true
  · by_cases hr : receiver ∈ x.memory.receivers
    · refine .inr ⟨hr, ?_⟩
      simp [hs, hr]
    · refine .inl ?_
      simp [hs, hr]
  · refine .inl ?_
    simp [hs]

/-- The message is published, or the entry is taken back. -/
theorem amid_conclude (refused : Bool) (s : Sending) :
    (x.bus.closed = false ∧
        x.amid refused (·.conclude s) = { x with bus := x.bus.accept s.message }) ∨
      (s.location = .network ∧ x.amid refused (·.conclude s) = x) ∨
      s.location = .sharedMemory ∧
        x.amid refused (·.conclude s) = { x with memory := x.memory.remove s.key } := by
  obtain ⟨sender, receiver, composition, d, location⟩ := s
  unfold amid conclude publish Bus.publish
  cases refused with
  | true => cases location <;> simp [onBus]
  | false =>
    cases hc : x.bus.closed with
    | true => cases location <;> simp [hc]
    | false => exact .inl ⟨rfl, by simp [hc]⟩

end Exchange

/-! ## Runs -/

/-- A message that a receiver has taken from its subscription and not resolved yet. -/
structure Receipt where
  receiver : Name
  subscription : Nat
  message : Message

/-- A message for the receiver of an entry that points to the entry. -/
structure Message.PointsTo (m : Message) (key : EntryKey) : Prop where
  topic : m.topic = .ofName key.receiver
  location : m.location = .sharedMemory
  author : m.header.author = key.sender.text
  id : m.header.id = key.id

/-- An exchange with its open receivers, what they have in hand, and the sendings that are half done. -/
structure Custody where
  exchange : Exchange
  subscriptions : Table Name Nat
  inHand : List Receipt
  underWay : List Sending

namespace Custody

/-- What may happen next. A sending takes place at once or in two halves, and its message may be refused.
A receiver takes the next message of its queue, and resolves any of those that it has taken. Others
publish messages, and the bus may be closed. -/
inductive Event where
  | openReceiver (n : Name)
  | closeReceiver (n : Name)
  | send (refused : Bool) (sender receiver : Name) (composition : String) (d : EngineData)
  | beginSend (sender receiver : Name) (composition : String) (d : EngineData)
  | endSend (refused : Bool) (i : Nat)
  | receive (n : Name)
  | resolve (i : Nat)
  | publish (m : Message)
  | closeBus

/-- Senders are well-formed names. -/
def Event.WellFormed : Event → Prop
  | .send _ sender _ _ _ | .beginSend sender _ _ _ => sender.Valid
  | _ => True

instance : DecidablePred Event.WellFormed
  | .send _ sender _ _ _ | .beginSend sender _ _ _ => inferInstanceAs (Decidable sender.Valid)
  | .openReceiver _ | .closeReceiver _ | .endSend _ _ | .receive _ | .resolve _ | .publish _
  | .closeBus => inferInstanceAs (Decidable True)

/-- The sending takes place at once. -/
def Event.isWhole : Event → Bool
  | .beginSend _ _ _ _ => false
  | _ => true

/-- Nobody is there yet. -/
def start (x : Exchange) : Custody := ⟨x, [], [], []⟩

/-- A receiver is opened, unless it is open. -/
def openReceiver (s : Custody) (n : Name) : Custody :=
  match s.subscriptions.get? n, s.exchange.bus.subscribe (.ofName n) with
  | none, .ok (bus, k) =>
    { s with
      exchange :=
        { s.exchange with bus := bus, memory := s.exchange.memory.openReceiver n },
      subscriptions := s.subscriptions.set n k }
  | _, _ => s

/-- A receiver is closed, and its subscription is given up. -/
def closeReceiver (s : Custody) (n : Name) : Custody :=
  let memory := s.exchange.memory.closeReceiver n
  match s.subscriptions.get? n with
  | none => { s with exchange := { s.exchange with memory := memory } }
  | some k =>
    { s with
      exchange := { s.exchange with bus := s.exchange.bus.drop k, memory := memory },
      subscriptions := s.subscriptions.erase n }

/-- Data is sent at once. -/
def send (s : Custody) (refused : Bool) (sender receiver : Name) (composition : String)
    (d : EngineData) : Custody :=
  { s with exchange := s.exchange.amid refused fun x => (x.send sender receiver composition d).1 }

/-- Data is put down. -/
def beginSend (s : Custody) (sender receiver : Name) (composition : String) (d : EngineData) :
    Custody :=
  let (x, location) := s.exchange.place sender receiver d
  { s with
    exchange := x, underWay := s.underWay ++ [⟨sender, receiver, composition, d, location⟩] }

/-- The message of a sending under way is published, or refused. -/
def endSend (s : Custody) (refused : Bool) (i : Nat) : Custody :=
  match s.underWay[i]? with
  | none => s
  | some u =>
    { s with
      exchange := s.exchange.amid refused (·.conclude u), underWay := s.underWay.eraseIdx i }

/-- What a receiver has in hand of what its subscription has given. -/
def taken (n : Name) (k : Nat) : Received → List Receipt
  | .message m => [⟨n, k, m⟩]
  | .empty | .ended => []

/-- A receiver takes the next message of its queue. -/
def receive (s : Custody) (n : Name) : Custody :=
  match s.subscriptions.get? n with
  | none => s
  | some k =>
    let (bus, received) := s.exchange.bus.receive k
    { s with exchange := s.exchange.onBus bus, inHand := s.inHand ++ taken n k received }

/-- The exchange once a receiver has resolved a message, which it gives up if that names no sender. -/
def resolved (x : Exchange) (r : Receipt) : Exchange :=
  match Name.parse r.message.header.author with
  | .ok sender => (x.resolve r.receiver sender r.message).1
  | .error _ => x

/-- A message in hand is resolved. -/
def resolve (s : Custody) (i : Nat) : Custody :=
  match s.inHand[i]? with
  | none => s
  | some r => { s with exchange := resolved s.exchange r, inHand := s.inHand.eraseIdx i }

/-- One event. -/
def step (s : Custody) : Event → Custody
  | .openReceiver n => s.openReceiver n
  | .closeReceiver n => s.closeReceiver n
  | .send refused sender receiver composition d => s.send refused sender receiver composition d
  | .beginSend sender receiver composition d => s.beginSend sender receiver composition d
  | .endSend refused i => s.endSend refused i
  | .receive n => s.receive n
  | .resolve i => s.resolve i
  | .publish m => { s with exchange := (s.exchange.publish m).1 }
  | .closeBus => { s with exchange := s.exchange.onBus s.exchange.bus.close }

/-- Events in turn. -/
def run (s : Custody) (events : List Event) : Custody := events.foldl step s

/-! ## Pointers -/

/-- The messages that an open receiver has not resolved yet: those in its queue, and those that it has
taken from it. -/
def unresolved (s : Custody) (n : Name) : List Message :=
  match s.subscriptions.get? n with
  | none => []
  | some k =>
    s.exchange.bus.queued k ++
      (s.inHand.filter fun r => r.receiver = n ∧ r.subscription = k).map (·.message)

/-- The entry has a message that points to it. -/
def Pointed (s : Custody) (key : EntryKey) : Prop :=
  ∃ m ∈ s.unresolved key.receiver, m.PointsTo key

/-- Somebody is about to publish such a message. -/
def Promised (s : Custody) (key : EntryKey) : Prop :=
  ∃ u ∈ s.underWay, u.location = .sharedMemory ∧ u.key = key

/-- **Every entry is looked after.** The receivers are those of the shared memory, and each entry is that
of one of them. -/
structure Kept (s : Custody) : Prop where
  attended : Attended s.exchange.bus .ofName s.subscriptions.get?
  receivers : ∀ n, n ∈ s.exchange.memory.receivers ↔ (s.subscriptions.get? n).isSome = true
  entries : ∀ key d, s.exchange.memory.get? key = some d →
    key.sender.Valid ∧ key.receiver ∈ s.exchange.memory.receivers ∧ (s.Pointed key ∨ s.Promised key)

section Events

variable {s s' : Custody} {key : EntryKey} {n : Name} {m : Message} {d : EngineData}

theorem mem_unresolved :
    m ∈ s.unresolved n ↔ ∃ k, s.subscriptions.get? n = some k ∧
      (m ∈ s.exchange.bus.queued k ∨ ⟨n, k, m⟩ ∈ s.inHand) := by
  unfold unresolved
  cases hk : s.subscriptions.get? n with
  | none => exact iff_of_false List.not_mem_nil nofun
  | some k =>
    simp only [List.mem_append, List.mem_map, List.mem_filter, decide_eq_true_eq]
    constructor
    · rintro (hm | ⟨⟨_, _, _⟩, ⟨hr, rfl, rfl⟩, rfl⟩)
      · exact ⟨k, rfl, .inl hm⟩
      · exact ⟨_, rfl, .inr hr⟩
    · rintro ⟨_, ⟨⟩, hm | hr⟩
      · exact .inl hm
      · exact .inr ⟨_, ⟨hr, rfl, rfl⟩, rfl⟩

/-- A pointer stays unresolved while its receiver stays and takes it in hand at most. -/
theorem Pointed.mono (h : s.Pointed key)
    (hs : s'.subscriptions.get? key.receiver = s.subscriptions.get? key.receiver)
    (hq : ∀ k m, s.subscriptions.get? key.receiver = some k → m ∈ s.exchange.bus.queued k →
      m ∈ s'.exchange.bus.queued k ∨ ⟨key.receiver, k, m⟩ ∈ s'.inHand)
    (hh : s.inHand ⊆ s'.inHand) : s'.Pointed key := by
  obtain ⟨m, hm, hp⟩ := h
  obtain ⟨k, hk, hm⟩ := mem_unresolved.mp hm
  refine ⟨m, mem_unresolved.mpr ⟨k, hs.trans hk, ?_⟩, hp⟩
  rcases hm with hm | hr
  · exact hq k m hk hm
  · exact .inr (hh hr)

/-! ## Sending -/

theorem Kept.beginSend (h : s.Kept) {sender receiver : Name} {composition : String}
    (hs : sender.Valid) : (s.beginSend sender receiver composition d).Kept := by
  unfold Custody.beginSend
  obtain hp | ⟨hr, hp⟩ := s.exchange.place_spec sender receiver d
  · rw [hp]
    refine ⟨h.attended, h.receivers, fun key d' hd => ?_⟩
    obtain ⟨hvalid, hopen, hlook⟩ := h.entries key d' hd
    refine ⟨hvalid, hopen, hlook.imp id ?_⟩
    rintro ⟨u, hu, hkey⟩
    exact ⟨u, List.mem_append_left _ hu, hkey⟩
  · rw [hp]
    refine ⟨h.attended, h.receivers, fun key d' hd => ?_⟩
    have hd : (s.exchange.memory.insert ⟨receiver, sender, d.id⟩ d).get? key = some d' := hd
    rw [Handover.get?_insert] at hd
    split at hd
    · rename_i hkey
      subst hkey
      exact ⟨hs, hr, .inr ⟨_, List.mem_append_right _ List.mem_cons_self, rfl, rfl⟩⟩
    · obtain ⟨hvalid, hopen, hlook⟩ := h.entries key d' hd
      refine ⟨hvalid, hopen, hlook.imp id ?_⟩
      rintro ⟨u, hu, hkey⟩
      exact ⟨u, List.mem_append_left _ hu, hkey⟩

/-- A sending that is not the one that ends stays under way. -/
theorem mem_eraseIdx {α : Type} {l : List α} {i : Nat} {a b : α} (hi : l[i]? = some b) (ha : a ∈ l)
    (hne : a ≠ b) : a ∈ l.eraseIdx i := by
  rw [List.mem_eraseIdx_iff_getElem?]
  obtain ⟨j, hj⟩ := List.mem_iff_getElem?.mp ha
  refine ⟨j, ?_, hj⟩
  rintro rfl
  exact hne (Option.some.inj (hj.symm.trans hi))

/-- The message of a sending through shared memory points to its entry. -/
theorem pointsTo_message {u : Sending} (hl : u.location = .sharedMemory) :
    u.message.PointsTo u.key := by
  obtain ⟨sender, receiver, composition, d, location⟩ := u
  obtain rfl : location = .sharedMemory := hl
  exact ⟨rfl, rfl, rfl, rfl⟩

theorem Kept.endSend (h : s.Kept) (refused : Bool) (i : Nat) : (s.endSend refused i).Kept := by
  unfold Custody.endSend
  cases hu : s.underWay[i]? with
  | none => exact h
  | some u =>
    simp only
    obtain ⟨hopen, hx⟩ | ⟨hl, hx⟩ | ⟨hl, hx⟩ := s.exchange.amid_conclude refused u
    · rw [hx]
      refine ⟨(h.attended.accept hopen u.message).1, h.receivers, fun key d hd => ?_⟩
      obtain ⟨hvalid, hrec, hlook⟩ := h.entries key d hd
      refine ⟨hvalid, hrec, ?_⟩
      rcases hlook with hpointed | ⟨u', hu', hl, hkey⟩
      · exact .inl (hpointed.mono rfl
          (fun k m hk hm => .inl ((h.attended.mem_accept hopen hk).mpr (.inl hm))) fun r hr => hr)
      · by_cases he : u' = u
        · -- the message that has been promised is the one that is published
          subst he
          subst hkey
          obtain ⟨k, hk⟩ := Option.isSome_iff_exists.mp ((h.receivers _).mp hrec)
          have hm : u'.message ∈ (s.exchange.bus.accept u'.message).queued k :=
            (h.attended.mem_accept hopen hk).mpr (.inr ⟨Topic.covers_iff.mpr (.inl rfl), rfl⟩)
          exact .inl ⟨u'.message, mem_unresolved.mpr ⟨k, hk, .inl hm⟩, pointsTo_message hl⟩
        · exact .inr ⟨u', mem_eraseIdx hu hu' he, hl, hkey⟩
    · rw [hx]
      refine ⟨h.attended, h.receivers, fun key d hd => ?_⟩
      obtain ⟨hvalid, hrec, hlook⟩ := h.entries key d hd
      refine ⟨hvalid, hrec, hlook.imp id ?_⟩
      rintro ⟨u', hu', hl', hkey⟩
      refine ⟨u', mem_eraseIdx hu hu' ?_, hl', hkey⟩
      rintro rfl
      rw [hl] at hl'
      cases hl'
    · rw [hx]
      refine ⟨h.attended, h.receivers, fun key d hd => ?_⟩
      have hd : (s.exchange.memory.remove u.key).get? key = some d := hd
      rw [Handover.get?_remove] at hd
      split at hd
      · cases hd
      · rename_i hne
        obtain ⟨hvalid, hrec, hlook⟩ := h.entries key d hd
        refine ⟨hvalid, hrec, hlook.imp id ?_⟩
        rintro ⟨u', hu', hl', hkey⟩
        refine ⟨u', mem_eraseIdx hu hu' ?_, hl', hkey⟩
        rintro rfl
        exact hne hkey

/-- To send at once is to begin and to end. -/
theorem send_eq_halves (refused : Bool) (sender receiver : Name) (composition : String) :
    s.send refused sender receiver composition d =
      (s.beginSend sender receiver composition d).endSend refused s.underWay.length := by
  unfold Custody.send Custody.beginSend Custody.endSend
  simp only [List.getElem?_concat_length]
  rw [Exchange.amid_send, List.eraseIdx_append_of_length_le (Nat.le_refl _), Nat.sub_self]
  simp

theorem Kept.send (h : s.Kept) (refused : Bool) {sender receiver : Name} {composition : String}
    (hs : sender.Valid) : (s.send refused sender receiver composition d).Kept := by
  rw [send_eq_halves]
  exact (h.beginSend hs).endSend refused _

/-! ## Receiving -/

theorem Kept.receive (h : s.Kept) (n : Name) : (s.receive n).Kept := by
  unfold Custody.receive
  cases hk : s.subscriptions.get? n with
  | none => exact h
  | some k =>
    cases hqueue : s.exchange.bus.queued k with
    | nil =>
      -- there is nothing to take
      obtain ⟨received, hreceived, hnone⟩ := h.attended.receive_nil hk hqueue
      have htaken : taken n k received = [] := by
        cases received with
        | message m => exact absurd rfl (hnone m)
        | empty | ended => rfl
      simp only [hreceived, htaken, List.append_nil]
      exact h
    | cons m queue =>
      obtain ⟨bus, hreceived, -, hattended, hrest, hothers⟩ := h.attended.queued_receive hk hqueue
      simp only [hreceived]
      refine ⟨hattended, h.receivers, fun key d hd => ?_⟩
      obtain ⟨hvalid, hrec, hlook⟩ := h.entries key d hd
      refine ⟨hvalid, hrec, hlook.imp (fun hp => ?_) id⟩
      refine hp.mono rfl (fun k' m' hk' hm => ?_) (List.subset_append_left _ _)
      by_cases hn : key.receiver = n
      · -- the first message of the queue is in hand now
        subst hn
        obtain rfl : k = k' := Option.some.inj (hk.symm.trans hk')
        rw [hqueue] at hm
        rcases List.mem_cons.mp hm with rfl | hm
        · exact .inr (List.mem_append_right _ List.mem_cons_self)
        · exact .inl (hrest ▸ hm)
      · exact .inl (hothers _ k' hn hk' ▸ hm)

/-- A message that is resolved takes away the entry that it points to, and nothing comes. -/
theorem resolved_spec (x : Exchange) (r : Receipt) :
    (resolved x r).bus = x.bus ∧ (resolved x r).memory.receivers = x.memory.receivers ∧
      ∀ key d, (resolved x r).memory.get? key = some d → x.memory.get? key = some d ∧
        ¬ (key.sender.Valid ∧ key.receiver = r.receiver ∧ r.message.PointsTo key) := by
  unfold resolved
  cases hparse : Name.parse r.message.header.author with
  | error e =>
    refine ⟨rfl, rfl, fun key d hd => ⟨hd, ?_⟩⟩
    rintro ⟨hvalid, -, hp⟩
    rw [hp.author, Name.parse_text hvalid] at hparse
    cases hparse
  | ok sender =>
    have hkey {key : EntryKey} (hvalid : key.sender.Valid) (hr : key.receiver = r.receiver)
        (hp : r.message.PointsTo key) : key = ⟨r.receiver, sender, r.message.header.id⟩ := by
      rw [hp.author, Name.parse_text hvalid] at hparse
      rw [← hr, ← Except.ok.inj hparse, hp.id]
    refine ⟨Handover.resolve_bus, ?_⟩
    cases hl : r.message.location with
    | network =>
      simp only [Handover.resolve_network hl]
      refine ⟨trivial, fun key d hd => ⟨hd, ?_⟩⟩
      rintro ⟨-, -, hp⟩
      rw [hp.location] at hl
      cases hl
    | sharedMemory =>
      cases hg : x.memory.get? ⟨r.receiver, sender, r.message.header.id⟩ with
      | none =>
        simp only [Handover.resolve_missing hl hg]
        refine ⟨trivial, fun key d hd => ⟨hd, ?_⟩⟩
        rintro ⟨hvalid, hr, hp⟩
        rw [hkey hvalid hr hp, hg] at hd
        cases hd
      | some d' =>
        simp only [Handover.resolve_found hl hg]
        refine ⟨rfl, fun key d hd => ?_⟩
        rw [Handover.get?_remove] at hd
        split at hd
        · cases hd
        · rename_i hne
          exact ⟨hd, fun ⟨hvalid, hr, hp⟩ => hne (hkey hvalid hr hp).symm⟩

theorem Kept.resolve (h : s.Kept) (i : Nat) : (s.resolve i).Kept := by
  unfold Custody.resolve
  cases hi : s.inHand[i]? with
  | none => exact h
  | some r =>
    obtain ⟨hbus, hreceivers, hentries⟩ := resolved_spec s.exchange r
    refine ⟨?_, fun n => ?_, fun key d hd => ?_⟩
    · simp only [hbus]
      exact h.attended
    · simp only [hreceivers]
      exact h.receivers n
    · obtain ⟨hd, hother⟩ := hentries key d hd
      obtain ⟨hvalid, hrec, hlook⟩ := h.entries key d hd
      refine ⟨hvalid, hreceivers ▸ hrec, hlook.imp (fun hpointed => ?_) id⟩
      obtain ⟨m, hm, hp⟩ := hpointed
      obtain ⟨k, hk, hm⟩ := mem_unresolved.mp hm
      refine ⟨m, mem_unresolved.mpr ⟨k, hk, hm.imp (fun hq => ?_) fun hr => ?_⟩, hp⟩
      · simp only [hbus]
        exact hq
      · refine mem_eraseIdx hi hr ?_
        rintro rfl
        exact hother ⟨hvalid, rfl, hp⟩

/-! ## Traffic -/

theorem Kept.publish (h : s.Kept) (m : Message) : (s.step (.publish m)).Kept := by
  unfold step Exchange.publish Bus.publish
  cases hopen : s.exchange.bus.closed with
  | true => exact h
  | false =>
    refine ⟨(h.attended.accept hopen m).1, h.receivers, fun key d hd => ?_⟩
    obtain ⟨hvalid, hrec, hlook⟩ := h.entries key d hd
    refine ⟨hvalid, hrec, hlook.imp (fun hp => ?_) id⟩
    exact hp.mono rfl (fun k m hk hm => .inl ((h.attended.mem_accept hopen hk).mpr (.inl hm)))
      fun r hr => hr

theorem Kept.closeBus (h : s.Kept) : (s.step .closeBus).Kept := by
  refine ⟨h.attended.step (e := .close) nofun, h.receivers, fun key d hd => ?_⟩
  obtain ⟨hvalid, hrec, hlook⟩ := h.entries key d hd
  refine ⟨hvalid, hrec, hlook.imp (fun hp => ?_) id⟩
  refine hp.mono rfl (fun k m hk hm => .inl ?_) fun r hr => hr
  exact (h.attended.mem_step (e := .close) hk nofun hm).resolve_right nofun

/-! ## Opening and closing -/

theorem Kept.openReceiver (h : s.Kept) (n : Name) : (s.openReceiver n).Kept := by
  unfold Custody.openReceiver
  cases hn : s.subscriptions.get? n with
  | some k => exact h
  | none =>
    cases hopen : s.exchange.bus.closed with
    | true =>
      unfold Bus.subscribe
      rw [hopen]
      exact h
    | false =>
      have hstep := Bus.step_subscribe_open hopen (.ofName n)
      have hsub : s.exchange.bus.subscribe (.ofName n) =
          .ok ((s.exchange.bus.step (.subscribe (.ofName n))).1,
            s.exchange.bus.nextSubscription) := by
        rw [hstep]
        unfold Bus.subscribe
        rw [hopen]
        rfl
      rw [hsub]
      have hget (n' : Name) : (s.subscriptions.set n s.exchange.bus.nextSubscription).get? n' =
          Function.update s.subscriptions.get? n (some s.exchange.bus.nextSubscription) n' := by
        rw [Table.get?_set, Function.update_apply]
        simp only [eq_comm]
      obtain ⟨hattended, -, hqueues⟩ := h.attended.subscribe hopen n
      refine ⟨hattended.of_eq hget, fun n' => ?_, fun key d hd => ?_⟩
      · have hmem : n' ∈ s.exchange.memory.receivers.insert n ↔
            n' = n ∨ n' ∈ s.exchange.memory.receivers := NameSet.mem_insert
        refine hmem.trans ?_
        rw [h.receivers, hget, Function.update_apply]
        by_cases he : n' = n <;> simp [he]
      · obtain ⟨hvalid, hrec, hlook⟩ := h.entries key d hd
        have hne : key.receiver ≠ n := by
          rintro rfl
          rw [h.receivers, hn] at hrec
          cases hrec
        refine ⟨hvalid, NameSet.mem_insert.mpr (.inr hrec), hlook.imp (fun hp => ?_) id⟩
        refine hp.mono ((hget _).trans (Function.update_of_ne hne _ _))
          (fun k m hk hm => .inl ?_) fun r hr => hr
        exact (hqueues _ k hk).symm ▸ hm

/-- What a receiver leaves behind when it is closed: the entries of the others. -/
theorem get?_closeReceiver (s : Custody) (n : Name) (key : EntryKey) :
    (s.closeReceiver n).exchange.memory.get? key =
      if key.receiver = n then none else s.exchange.memory.get? key := by
  have hmemory : (s.closeReceiver n).exchange.memory = s.exchange.memory.closeReceiver n := by
    unfold closeReceiver
    split <;> rfl
  have hfilter := Table.get?_filter s.exchange.memory.entries (fun key => key.receiver ≠ n) key
  rw [hmemory]
  refine hfilter.trans ?_
  by_cases he : key.receiver = n <;> simp [he, SharedMemory.get?]

theorem Kept.closeReceiver (h : s.Kept) (n : Name) : (s.closeReceiver n).Kept := by
  have hentries {key : EntryKey} {d : EngineData}
      (hd : (s.closeReceiver n).exchange.memory.get? key = some d) :
      key.receiver ≠ n ∧ s.exchange.memory.get? key = some d := by
    rw [get?_closeReceiver] at hd
    split at hd
    · cases hd
    · rename_i hne
      exact ⟨hne, hd⟩
  have herase (n' : Name) : n' ∈ s.exchange.memory.receivers.erase n ↔
      n' ∈ s.exchange.memory.receivers ∧ n' ≠ n := NameSet.mem_erase
  cases hn : s.subscriptions.get? n with
  | none =>
    have hclose : s.closeReceiver n =
        { s with exchange :=
            { s.exchange with memory := s.exchange.memory.closeReceiver n } } := by
      unfold Custody.closeReceiver
      rw [hn]
    have hdead : n ∉ s.exchange.memory.receivers := by
      rw [h.receivers, hn]
      exact Bool.false_ne_true
    rw [hclose] at hentries ⊢
    refine ⟨h.attended, fun n' => ?_, fun key d hd => ?_⟩
    · refine (herase n').trans (Iff.trans ?_ (h.receivers n'))
      exact and_iff_left_of_imp fun hmem he => hdead (he ▸ hmem)
    · obtain ⟨hne, hd⟩ := hentries hd
      obtain ⟨hvalid, hrec, hlook⟩ := h.entries key d hd
      exact ⟨hvalid, (herase _).mpr ⟨hrec, hne⟩, hlook⟩
  | some k =>
    have hclose : s.closeReceiver n =
        { s with
          exchange :=
            { s.exchange with
              bus := s.exchange.bus.drop k, memory := s.exchange.memory.closeReceiver n },
          subscriptions := s.subscriptions.erase n } := by
      unfold Custody.closeReceiver
      rw [hn]
    have hget (n' : Name) : (s.subscriptions.erase n).get? n' =
        Function.update s.subscriptions.get? n none n' := by
      rw [Table.get?_erase, Function.update_apply]
      simp only [eq_comm]
    obtain ⟨hattended, hothers⟩ := h.attended.drop hn
    rw [hclose] at hentries ⊢
    refine ⟨hattended.of_eq hget, fun n' => ?_, fun key d hd => ?_⟩
    · refine (herase n').trans ?_
      rw [h.receivers, hget, Function.update_apply]
      by_cases he : n' = n <;> simp [he]
    · obtain ⟨hne, hd⟩ := hentries hd
      obtain ⟨hvalid, hrec, hlook⟩ := h.entries key d hd
      refine ⟨hvalid, (herase _).mpr ⟨hrec, hne⟩, hlook.imp (fun hp => ?_) id⟩
      refine hp.mono ((hget _).trans (Function.update_of_ne hne _ _))
        (fun k' m hk hm => .inl ?_) fun r hr => hr
      exact hothers _ k' hne hk ▸ hm

/-! ## Runs -/

/-- **One event.** -/
theorem Kept.step (h : s.Kept) {e : Event} (he : e.WellFormed) : (s.step e).Kept := by
  cases e with
  | openReceiver n => exact h.openReceiver n
  | closeReceiver n => exact h.closeReceiver n
  | send refused sender receiver composition d => exact h.send refused he
  | beginSend sender receiver composition d => exact h.beginSend he
  | endSend refused i => exact h.endSend refused i
  | receive n => exact h.receive n
  | resolve i => exact h.resolve i
  | publish m => exact h.publish m
  | closeBus => exact h.closeBus

/-- **A run.** -/
theorem Kept.run (h : s.Kept) {events : List Event} (he : ∀ e ∈ events, e.WellFormed) :
    (s.run events).Kept := by
  induction events generalizing s with
  | nil => exact h
  | cons e events ih =>
    obtain ⟨hfirst, hrest⟩ := List.forall_mem_cons.mp he
    exact ih (h.step hfirst) hrest

theorem kept_start {x : Exchange} (hfresh : x.bus.Fresh) (hempty : x.memory = ∅) :
    (start x).Kept := by
  refine ⟨.nobody hfresh, fun n => ?_, fun key d hd => ?_⟩
  · change n ∈ x.memory.receivers ↔ false = true
    rw [hempty]
    exact iff_of_false List.not_mem_nil nofun
  · change x.memory.get? key = some d at hd
    rw [hempty] at hd
    cases hd

/-! ## What is left -/

/-- If every sending takes place at once, none is under way. -/
theorem underWay_run {events : List Event} (hs : s.underWay = [])
    (hw : ∀ e ∈ events, e.isWhole = true) : (s.run events).underWay = [] := by
  induction events generalizing s with
  | nil => exact hs
  | cons e events ih =>
    obtain ⟨hfirst, hrest⟩ := List.forall_mem_cons.mp hw
    refine ih ?_ hrest
    cases e with
    | beginSend sender receiver composition d => cases hfirst
    | openReceiver n =>
      change (s.openReceiver n).underWay = []
      unfold Custody.openReceiver
      split <;> exact hs
    | closeReceiver n =>
      change (s.closeReceiver n).underWay = []
      unfold Custody.closeReceiver
      simp only
      split <;> exact hs
    | endSend refused i =>
      change (s.endSend refused i).underWay = []
      unfold Custody.endSend
      rw [hs]
      exact hs
    | receive n =>
      change (s.receive n).underWay = []
      unfold Custody.receive
      simp only
      split <;> exact hs
    | resolve i =>
      change (s.resolve i).underWay = []
      unfold Custody.resolve
      split <;> exact hs
    | send | publish | closeBus => exact hs

/-- There is nothing more to come: no sending is under way, and no receiver has a message that points
to shared memory. -/
def Cleared (s : Custody) : Prop :=
  s.underWay = [] ∧ ∀ n, ∀ m ∈ s.unresolved n, m.location = .network

/-- Then shared memory is empty. -/
theorem Kept.entries_of_cleared (h : s.Kept) (hc : s.Cleared) : s.exchange.memory.entries = [] := by
  obtain ⟨hnone, hnetwork⟩ := hc
  cases hentries : s.exchange.memory.entries with
  | nil => rfl
  | cons e es =>
    exfalso
    have hget : s.exchange.memory.get? e.1 = some e.2 := by
      unfold SharedMemory.get?
      rw [hentries]
      simp [Table.get?]
    obtain ⟨-, -, ⟨m, hm, hp⟩ | ⟨u, hu, -⟩⟩ := h.entries e.1 e.2 hget
    · have hl := hnetwork _ m hm
      rw [hp.location] at hl
      cases hl
    · rw [hnone] at hu
      cases hu

end Events

/-- **Shared memory does not leak.** After any run that begins without receivers and entries, each entry
is that of an open receiver, and a message that points to it is unresolved there or on its way; if every
sending takes place at once, it is unresolved there. Once all such messages are resolved, shared memory is
empty, and to close a receiver takes its own entries away and no others. -/
theorem entries_are_kept {x : Exchange} (hfresh : x.bus.Fresh) (hempty : x.memory = ∅)
    {events : List Event} (hw : ∀ e ∈ events, e.WellFormed) :
    (∀ key d, ((start x).run events).exchange.memory.get? key = some d →
      key.receiver ∈ ((start x).run events).exchange.memory.receivers ∧
        (((start x).run events).Pointed key ∨ ((start x).run events).Promised key)) ∧
    ((∀ e ∈ events, e.isWhole = true) → ((start x).run events).underWay = [] ∧
      ∀ key d, ((start x).run events).exchange.memory.get? key = some d →
        ((start x).run events).Pointed key) ∧
    (((start x).run events).Cleared → ((start x).run events).exchange.memory.entries = []) ∧
    ∀ n key, (((start x).run events).step (.closeReceiver n)).exchange.memory.get? key =
      if key.receiver = n then none else ((start x).run events).exchange.memory.get? key := by
  have hkept := (kept_start hfresh hempty).run hw
  refine ⟨fun key d hd => (hkept.entries key d hd).2, fun hwhole => ?_, hkept.entries_of_cleared,
    fun n key => get?_closeReceiver _ n key⟩
  have hnone := underWay_run (s := start x) rfl hwhole
  refine ⟨hnone, fun key d hd => (hkept.entries key d hd).2.2.resolve_right ?_⟩
  rintro ⟨u, hu, -⟩
  rw [hnone] at hu
  cases hu

/-- The service `A` sends `B` three texts of one request. `B` takes the message of the first, whose entry
is written over, and the bus refuses the message of the second. -/
def oneRefused : List Event :=
  [.openReceiver (.sample "B"), .send false (.sample "A") (.sample "B") "" (.ofText "first" 42),
    .receive (.sample "B"), .send true (.sample "A") (.sample "B") "" (.ofText "second" 42),
    .send false (.sample "A") (.sample "B") "" (.ofText "third" 42)]

/-- The third text waits for `B`, and two messages point to it. Once `B` is closed, it is gone. -/
theorem oneRefused_kept :
    ((start .empty).run oneRefused).exchange.memory.get? ⟨.sample "B", .sample "A", 42⟩ =
        some (.ofText "third" 42) ∧
      ((start .empty).run oneRefused).Pointed ⟨.sample "B", .sample "A", 42⟩ ∧
      (((start .empty).run oneRefused).step (.closeReceiver (.sample "B"))).exchange.memory.get?
        ⟨.sample "B", .sample "A", 42⟩ = none := by
  have hentry : ((start .empty).run oneRefused).exchange.memory.get?
      ⟨.sample "B", .sample "A", 42⟩ = some (.ofText "third" 42) := rfl
  have hwell : ∀ e ∈ oneRefused, e.WellFormed := by decide
  obtain ⟨-, hwhole, -, hclose⟩ := entries_are_kept (x := .empty) Bus.fresh_empty rfl hwell
  exact ⟨hentry, (hwhole (by decide)).2 _ _ hentry, hclose _ _⟩

end Custody

end ServiceFlow
