import Mathlib.Data.List.Nodup
import ServiceFlow.Proofs.Bus.Runs
import ServiceFlow.Proofs.Message.RoundTrip

/-!
# A bus over channels

Between the publishers and each subscriber there is a channel: a queue without a bound that neither loses
nor reorders anything while both of its ends are there. The bus keeps the sending ends with their topics.
A subscriber that gives its subscription up takes the receiving end away, which the bus only finds out
when it next sends there: then all sending ends whose other end is gone are removed. And every message is
written to bytes and read back on its way.

None of this shows: the answers and the counters are those of `Bus`, where a subscription that is given up
is gone at once and messages are passed on as they are.

* `Channels.Matches.step`: one operation.
* `Channels.trace_eq`: a whole run.
-/

namespace ServiceFlow

open BusEvent

/-- The sending ends by topic, the queues of the receiving ends that are there, and the counters. -/
structure Channels where
  closed : Bool
  senders : List (Topic × Nat)
  receivers : Table Nat (List Message)
  next : Nat
  traffic : Traffic

namespace Channels

/-- An open bus without subscriptions. -/
def empty : Channels := ⟨false, [], [], 0, ⟨0, 0, 0⟩⟩

instance : EmptyCollection Channels := ⟨empty⟩

/-! ## Operations -/

/-- Sends a message into a channel; nothing happens if the receiving end is gone. -/
def send (m : Message) (receivers : Table Nat (List Message)) (channel : Nat) :
    Table Nat (List Message) :=
  receivers.modify channel fun queue => queue ++ [m]

/-- The sending ends that a message on the topic goes to. -/
def matching (c : Channels) (topic : Topic) : List (Topic × Nat) :=
  c.senders.filter fun s => s.1.covers topic

/-- The sending ends after a message on the topic: those without another end are removed if the message
was for any of them. -/
def swept (c : Channels) (topic : Topic) : List (Topic × Nat) :=
  if (c.matching topic).any fun s => !c.receivers.has s.2 then
    c.senders.filter fun s => c.receivers.has s.2
  else c.senders

/-- The counters with one more message, by its bytes and by what was read from them. -/
def count (t : Traffic) (bytes : Bytes) (m : Message) : Traffic :=
  ⟨t.messages + 1, t.bytes + UInt64.ofNat bytes.length,
    t.payloadBytes + UInt64.ofNat m.data.length⟩

/-- Passes a message on that was read from bytes. -/
def forward (c : Channels) (bytes : Bytes) (m : Message) : Channels :=
  { c with
    senders := c.swept m.topic
    receivers := ((c.matching m.topic).map (·.2)).foldl (send m) c.receivers
    traffic := count c.traffic bytes m }

/-- Publishes a message by its bytes. -/
def publish (c : Channels) (m : Message) : Except BusError Channels :=
  if c.closed then .error .closed
  else
    match Message.decode? m.encode with
    | none => .error (.codec "")
    | some read => .ok (c.forward m.encode read)

/-- Makes a channel for a topic. -/
def subscribe (c : Channels) (topic : Topic) : Except BusError (Channels × Nat) :=
  if c.closed then .error .closed
  else
    .ok ({ c with
      senders := c.senders ++ [(topic, c.next)]
      receivers := c.receivers ++ [(c.next, [])]
      next := c.next + 1 }, c.next)

/-- Takes a receiving end away. -/
def drop (c : Channels) (channel : Nat) : Channels :=
  { c with receivers := c.receivers.erase channel }

/-- Takes the next message from a channel, which ends when it is empty and has no sending end. -/
def receive (c : Channels) (channel : Nat) : Channels × Received :=
  match c.receivers.get? channel with
  | none => (c, .ended)
  | some (m :: queue) => ({ c with receivers := c.receivers.set channel queue }, .message m)
  | some [] => (c, if channel ∈ c.senders.map (·.2) then .empty else .ended)

/-- Takes no more messages, and gives up all sending ends. -/
def close (c : Channels) : Channels := { c with closed := true, senders := [] }

/-- An operation, with its answer. -/
def step (c : Channels) : BusEvent → Channels × BusAnswer
  | .subscribe topic =>
    match c.subscribe topic with
    | .ok (c, n) => (c, .subscribed n)
    | .error e => (c, .refused e)
  | .drop n => (c.drop n, .done)
  | .publish m =>
    match c.publish m with
    | .ok c => (c, .accepted)
    | .error e => (c, .refused e)
  | .receive n => ((c.receive n).1, .received (c.receive n).2)
  | .close => (c.close, .done)

/-! ## The channels of a bus -/

/-- The channels are those of the bus: each subscription has its queue at the receiving end, and a
sending end for its topic as long as it is attached. There may be sending ends of subscriptions that
were given up. -/
structure Matches (c : Channels) (b : Bus) : Prop where
  closed : c.closed = b.closed
  traffic : c.traffic = b.traffic
  next : c.next = b.nextSubscription
  queues : ∀ n, c.receivers.get? n = (b.subscriptions.get? n).map (·.queue)
  attached : ∀ n s, b.subscriptions.get? n = some s →
    ∀ topic, (topic, n) ∈ c.senders ↔ topic = s.topic ∧ s.attached = true
  nodup : (c.senders.map (·.2)).Nodup
  numbered : ∀ n ∈ c.senders.map (·.2), n < c.next
  fresh : b.Fresh
  ended : c.closed = true → c.senders = []

theorem matches_empty : Matches ∅ ∅ where
  closed := rfl
  traffic := rfl
  next := rfl
  queues _ := rfl
  attached _ _ h := by cases h
  nodup := List.nodup_nil
  numbered _ h := by cases h
  fresh _ h := by cases h
  ended _ := rfl

section Steps

variable {c : Channels} {b : Bus}

/-- Each channel gets the message that it is sent, once. -/
theorem get?_foldl_send (m : Message) {channels : List Nat} (hnodup : channels.Nodup)
    (receivers : Table Nat (List Message)) (n : Nat) :
    (channels.foldl (send m) receivers).get? n =
      (receivers.get? n).map fun queue => if n ∈ channels then queue ++ [m] else queue := by
  induction channels generalizing receivers with
  | nil => simp
  | cons k channels ih =>
    obtain ⟨hk, hnodup⟩ := List.nodup_cons.mp hnodup
    rw [List.foldl_cons, ih hnodup, send, Table.get?_modify]
    by_cases hn : k = n
    · subst hn
      cases receivers.get? k <;> simp [hk]
    · have hn' : n ≠ k := Ne.symm hn
      cases receivers.get? n <;> simp [hn, hn']

theorem Matches.not_mem_next (h : c.Matches b) : c.next ∉ c.senders.map (·.2) :=
  fun hm => Nat.lt_irrefl _ (h.numbered _ hm)

/-- With a new channel, the sending ends are still those of the attached subscriptions. -/
theorem Matches.attached_concat (h : c.Matches b) {topic : Topic} {n : Nat} {s : Subscription}
    (hs : Table.get? (b.subscriptions ++ [(b.nextSubscription, ⟨topic, [], true⟩)]) n = some s)
    (t : Topic) :
    (t, n) ∈ c.senders ++ [(topic, c.next)] ↔ t = s.topic ∧ s.attached = true := by
  rw [Table.get?_append] at hs
  rw [List.mem_append, List.mem_singleton, Prod.mk.injEq]
  cases hold : b.subscriptions.get? n with
  | some old =>
    rw [hold, Option.some_or] at hs
    obtain rfl := Option.some.inj hs
    have hne : n ≠ c.next := by
      rw [h.next]
      exact Nat.ne_of_lt (h.fresh n (by rw [hold]; rfl))
    rw [h.attached n old hold t]
    simp [hne]
  | none =>
    rw [hold, Option.none_or, Table.get?] at hs
    split at hs
    · rename_i hn
      obtain rfl := Option.some.inj hs
      have hnot : (t, n) ∉ c.senders := fun hm =>
        h.not_mem_next (h.next ▸ hn ▸ List.mem_map_of_mem hm)
      simp [hnot, h.next, hn]
    · cases hs

theorem Matches.subscribe (h : c.Matches b) (topic : Topic) :
    (c.step (.subscribe topic)).2 = (b.step (.subscribe topic)).2 ∧
      (c.step (.subscribe topic)).1.Matches (b.step (.subscribe topic)).1 := by
  have hfresh := h.fresh.step (.subscribe topic)
  cases hc : b.closed with
  | true =>
    have hstep : c.step (.subscribe topic) = (c, .refused .closed) := by
      simp [Channels.step, Channels.subscribe, h.closed, hc]
    rw [hstep, Bus.step_subscribe_closed hc]
    exact ⟨rfl, h⟩
  | false =>
    have hstep : c.step (.subscribe topic) =
        ({ c with
            senders := c.senders ++ [(topic, c.next)]
            receivers := c.receivers ++ [(c.next, [])]
            next := c.next + 1 },
          .subscribed c.next) := by
      simp [Channels.step, Channels.subscribe, h.closed, hc]
    rw [Bus.step_subscribe_open hc] at hfresh
    rw [hstep, Bus.step_subscribe_open hc]
    refine ⟨congrArg BusAnswer.subscribed h.next, ?_⟩
    constructor
    case closed => exact h.closed
    case traffic => exact h.traffic
    case next => exact congrArg (· + 1) h.next
    case queues =>
      intro n
      rw [Table.get?_append, Table.get?_append, h.queues, h.next]
      cases b.subscriptions.get? n with
      | some s => rfl
      | none =>
        simp only [Table.get?, Option.map_none, Option.none_or]
        split <;> rfl
    case attached => exact fun n s hs t => h.attached_concat hs t
    case nodup =>
      rw [List.map_append, List.map_singleton]
      refine List.nodup_append.mpr ⟨h.nodup, List.nodup_singleton _, ?_⟩
      rintro n hn k hk rfl
      rw [List.mem_singleton.mp hk] at hn
      exact h.not_mem_next hn
    case numbered =>
      intro n hn
      rw [List.map_append, List.map_singleton, List.mem_append, List.mem_singleton] at hn
      rcases hn with hn | rfl
      · exact Nat.lt_succ_of_lt (h.numbered n hn)
      · exact Nat.lt_succ_self _
    case fresh => exact hfresh
    case ended =>
      intro ht
      rw [h.closed, hc] at ht
      cases ht

theorem Matches.drop (h : c.Matches b) (n : Nat) :
    (c.step (.drop n)).2 = (b.step (.drop n)).2 ∧
      (c.step (.drop n)).1.Matches (b.step (.drop n)).1 := by
  have hget (k : Nat) : (b.subscriptions.erase n).get? k =
      if n = k then none else b.subscriptions.get? k := Table.get?_erase _ n k
  refine ⟨rfl, h.closed, h.traffic, h.next, ?_, ?_, h.nodup, h.numbered, h.fresh.step (.drop n),
    h.ended⟩
  · intro k
    show (c.receivers.erase n).get? k = ((b.subscriptions.erase n).get? k).map (·.queue)
    rw [Table.get?_erase, hget, h.queues]
    split <;> rfl
  · intro k s hs
    have hs : (b.subscriptions.erase n).get? k = some s := hs
    rw [hget] at hs
    split at hs
    · cases hs
    · exact h.attached k s hs

theorem Matches.close (h : c.Matches b) :
    (c.step .close).2 = (b.step .close).2 ∧ (c.step .close).1.Matches (b.step .close).1 := by
  refine ⟨rfl, rfl, h.traffic, h.next, ?_, ?_, List.nodup_nil, ?_, h.fresh.step .close, fun _ => rfl⟩
  · intro n
    show c.receivers.get? n = (b.close.subscriptions.get? n).map (·.queue)
    rw [b.get?_close, h.queues, Option.map_map]
    rfl
  · intro n s hs t
    have hs : b.close.subscriptions.get? n = some s := hs
    rw [b.get?_close] at hs
    obtain ⟨old, -, rfl⟩ := Option.map_eq_some_iff.mp hs
    exact iff_of_false List.not_mem_nil fun ha => by cases ha.2
  · intro n hn
    cases hn

/-- Taking a message changes one queue only. -/
theorem receive_frame (c : Channels) (n : Nat) :
    (c.receive n).1 = { c with receivers := (c.receive n).1.receivers } := by
  unfold receive
  split <;> rfl

theorem get?_receive (c : Channels) (n k : Nat) :
    (c.receive n).1.receivers.get? k =
      if n = k then (c.receivers.get? k).map List.tail else c.receivers.get? k := by
  unfold receive
  by_cases hk : n = k
  · subst hk
    rw [if_pos rfl]
    split
    · rename_i hs
      rw [hs, Option.map_none]
    · rename_i hs
      rw [Table.get?_set, if_pos rfl, hs]
      rfl
    · rename_i hs
      rw [hs]
      rfl
  · rw [if_neg hk]
    split
    · rfl
    · rw [Table.get?_set, if_neg hk]
    · rfl

theorem Matches.receive_eq (h : c.Matches b) (n : Nat) : (c.receive n).2 = (b.receive n).2 := by
  have hqueue := h.queues n
  cases hs : b.subscriptions.get? n with
  | none =>
    rw [hs, Option.map_none] at hqueue
    simp only [Channels.receive, Bus.receive, hqueue, hs]
  | some s =>
    rw [hs, Option.map_some] at hqueue
    rw [Bus.receive_of_get? hs]
    unfold Channels.receive
    rw [hqueue]
    obtain ⟨topic, queue, attached⟩ := s
    cases queue with
    | cons m queue => rfl
    | nil =>
      -- the channel has a sending end as long as the subscription is attached
      have hend : n ∈ c.senders.map (·.2) ↔ attached = true := by
        rw [List.mem_map]
        constructor
        · rintro ⟨⟨t, k⟩, hm, rfl⟩
          exact ((h.attached k _ hs t).mp hm).2
        · exact fun ha => ⟨(topic, n), (h.attached n _ hs topic).mpr ⟨rfl, ha⟩, rfl⟩
      simp only [hend]

theorem Matches.receive (h : c.Matches b) (n : Nat) :
    (c.step (.receive n)).2 = (b.step (.receive n)).2 ∧
      (c.step (.receive n)).1.Matches (b.step (.receive n)).1 := by
  refine ⟨congrArg BusAnswer.received (h.receive_eq n), ?_⟩
  have hframe := c.receive_frame n
  obtain ⟨hclosed, htraffic, hnext⟩ := b.receive_frame n
  show Matches (c.receive n).1 (b.receive n).1
  constructor
  case closed =>
    rw [hframe, hclosed]
    exact h.closed
  case traffic =>
    rw [hframe, htraffic]
    exact h.traffic
  case next =>
    rw [hframe, hnext]
    exact h.next
  case queues =>
    intro k
    rw [c.get?_receive, b.get?_receive, h.queues]
    split
    · cases b.subscriptions.get? k <;> rfl
    · rfl
  case attached =>
    intro k s hs t
    rw [hframe]
    rw [b.get?_receive] at hs
    split at hs
    · obtain ⟨old, hold, rfl⟩ := Option.map_eq_some_iff.mp hs
      exact h.attached k old hold t
    · exact h.attached k s hs t
  case nodup =>
    rw [hframe]
    exact h.nodup
  case numbered =>
    rw [hframe]
    exact h.numbered
  case fresh => exact h.fresh.step (.receive n)
  case ended =>
    rw [hframe]
    exact h.ended

/-! ## Publishing -/

theorem swept_sublist (c : Channels) (topic : Topic) : (c.swept topic).Sublist c.senders := by
  unfold swept
  split
  · exact List.filter_sublist
  · exact List.Sublist.refl _

/-- No sending end is removed whose other end is there. -/
theorem mem_swept {n : Nat} (hlive : c.receivers.has n = true) (topic t : Topic) :
    (t, n) ∈ c.swept topic ↔ (t, n) ∈ c.senders := by
  unfold swept
  split
  · rw [List.mem_filter]
    exact and_iff_left hlive
  · rfl

/-- A message goes into the channels of the subscriptions that it reaches. -/
theorem Matches.mem_matching (h : c.Matches b) {n : Nat} {s : Subscription}
    (hs : b.subscriptions.get? n = some s) (topic : Topic) :
    n ∈ (c.matching topic).map (·.2) ↔ Bus.reaches topic s = true := by
  unfold matching Bus.reaches
  rw [List.mem_map, Bool.and_eq_true]
  constructor
  · rintro ⟨⟨t, k⟩, hm, rfl⟩
    obtain ⟨hsender, hcovers⟩ := List.mem_filter.mp hm
    obtain ⟨rfl, ha⟩ := (h.attached k s hs t).mp hsender
    exact ⟨ha, hcovers⟩
  · rintro ⟨ha, hcovers⟩
    exact ⟨(s.topic, n), List.mem_filter.mpr ⟨(h.attached n s hs s.topic).mpr ⟨rfl, ha⟩, hcovers⟩,
      rfl⟩

theorem deliver_topic (m : Message) (s : Subscription) :
    (Bus.deliver m s).topic = s.topic ∧ (Bus.deliver m s).attached = s.attached := by
  unfold Bus.deliver
  split <;> exact ⟨rfl, rfl⟩

theorem deliver_queue (m : Message) (s : Subscription) :
    (Bus.deliver m s).queue =
      if Bus.reaches m.topic s = true then s.queue ++ [m] else s.queue := by
  unfold Bus.deliver
  split <;> rfl

theorem Matches.forward (h : c.Matches b) (hopen : b.closed = false) (m : Message) :
    (c.forward m.encode m).Matches (b.accept m) := by
  have hget (n : Nat) : (b.accept m).subscriptions.get? n =
      (b.subscriptions.get? n).map (Bus.deliver m) := Table.get?_map _ _ n
  have hnodup : ((c.matching m.topic).map (·.2)).Nodup :=
    h.nodup.sublist (List.filter_sublist.map _)
  have hsublist := (c.swept_sublist m.topic).map (·.2)
  constructor
  case closed => exact h.closed
  case traffic =>
    show Channels.count c.traffic m.encode m = Bus.count b.traffic m
    rw [h.traffic]
    rfl
  case next => exact h.next
  case queues =>
    intro n
    show (((c.matching m.topic).map (·.2)).foldl (send m) c.receivers).get? n = _
    rw [get?_foldl_send m hnodup, hget, h.queues]
    cases hs : b.subscriptions.get? n with
    | none => rfl
    | some s =>
      simp only [Option.map_some, h.mem_matching hs, deliver_queue]
  case attached =>
    intro n s hs t
    rw [hget] at hs
    obtain ⟨old, hold, rfl⟩ := Option.map_eq_some_iff.mp hs
    have hlive : c.receivers.has n = true := by
      rw [Table.has, h.queues, hold]
      rfl
    rw [(deliver_topic m old).1, (deliver_topic m old).2, ← h.attached n old hold t]
    exact mem_swept hlive m.topic t
  case nodup => exact h.nodup.sublist hsublist
  case numbered => exact fun n hn => h.numbered n (hsublist.subset hn)
  case fresh =>
    have hfresh := h.fresh.step (.publish m)
    rw [Bus.step_publish_open hopen] at hfresh
    exact hfresh
  case ended =>
    intro hclosed
    have hclosed : c.closed = true := hclosed
    rw [h.closed, hopen] at hclosed
    cases hclosed

theorem Matches.publish (h : c.Matches b) {m : Message} (hm : m.wireSize < UInt64.size) :
    (c.step (.publish m)).2 = (b.step (.publish m)).2 ∧
      (c.step (.publish m)).1.Matches (b.step (.publish m)).1 := by
  cases hc : b.closed with
  | true =>
    have hstep : c.step (.publish m) = (c, .refused .closed) := by
      simp [Channels.step, Channels.publish, h.closed, hc]
    rw [hstep, Bus.step_publish_closed hc]
    exact ⟨rfl, h⟩
  | false =>
    have hstep : c.step (.publish m) = (c.forward m.encode m, .accepted) := by
      simp [Channels.step, Channels.publish, h.closed, hc, Message.decode?_encode hm]
    rw [hstep, Bus.step_publish_open hc]
    exact ⟨rfl, h.forward hc m⟩

theorem Matches.step (h : c.Matches b) {e : BusEvent}
    (he : ∀ m, e = .publish m → m.wireSize < UInt64.size) :
    (c.step e).2 = (b.step e).2 ∧ (c.step e).1.Matches (b.step e).1 := by
  cases e with
  | subscribe topic => exact h.subscribe topic
  | drop n => exact h.drop n
  | publish m => exact h.publish (he m rfl)
  | receive n => exact h.receive n
  | close => exact h.close

/-- **The channels do not show** in any run: every answer is the same, and the counters are. -/
theorem trace_eq (h : c.Matches b) {events : List BusEvent}
    (hsize : ∀ m, .publish m ∈ events → m.wireSize < UInt64.size) :
    trace Channels.step c events = trace Bus.step b events ∧
      (play Channels.step c events).traffic = (play Bus.step b events).traffic := by
  induction events generalizing c b with
  | nil => exact ⟨rfl, h.traffic⟩
  | cons e events ih =>
    obtain ⟨hanswer, hnext⟩ := h.step fun m he => hsize m (he ▸ List.mem_cons_self)
    obtain ⟨htrace, htraffic⟩ := ih hnext fun m hm => hsize m (List.mem_cons_of_mem e hm)
    refine ⟨?_, htraffic⟩
    rw [trace, trace, hanswer, htrace]

end Steps

end Channels

end ServiceFlow
