import Mathlib.Data.List.Induction
import ServiceFlow.Proofs.Bus.Channels

/-!
# What a bus delivers

In any run of an empty bus, a subscription that is not given up hands out exactly the messages that are
published after it was made and before the bus is closed and whose topic its own covers, each once, as it
was published and in that order. What becomes of other subscriptions makes no difference to it. After the
end everything is refused, subscriptions hand out what is in their queues, and the counters stay.

* `Bus.Delivers`: what can be seen of a run, at any point of it.
* `Bus.delivers_exactly`: it is so in all runs, and whether messages are passed on as they are or through
  channels and as bytes.
-/

namespace ServiceFlow.Bus

open BusEvent

/-- The sum of a size over some messages. -/
def total (size : Message → Nat) (ms : List Message) : Nat := ms.foldl (fun n m => n + size m) 0

/-- The counters after some messages, of 64 bits each. -/
def trafficOf (ms : List Message) : Traffic :=
  ⟨UInt64.ofNat ms.length, UInt64.ofNat (total Message.wireSize ms),
    UInt64.ofNat (total (·.data.length) ms)⟩

/-- The messages that a subscription to the topic gets in a run. -/
def published (topic : Topic) (events : List BusEvent) : List Message :=
  (accepted events).filter fun m => topic.covers m.topic

/-- What can be seen of an empty bus after operations. -/
structure Delivers (events : List BusEvent) : Prop where
  /-- Messages are accepted until the end. -/
  publish_open : .close ∉ events → ∀ m, ((play step ∅ events).step (.publish m)).2 = .accepted
  /-- Subscriptions are made until the end, each with a number of its own. -/
  subscribe_open : .close ∉ events → ∀ topic,
    ((play step ∅ events).step (.subscribe topic)).2 = .subscribed (events.countP isSubscribe)
  /-- After the end, both are refused and change nothing. -/
  refused : .close ∈ events → ∀ m topic,
    (play step ∅ events).step (.publish m) = (play step ∅ events, .refused .closed) ∧
    (play step ∅ events).step (.subscribe topic) = (play step ∅ events, .refused .closed)
  /-- The counters are those of the messages that were accepted. -/
  traffic : (play step ∅ events).traffic = trafficOf (accepted events)
  /-- What a subscription has handed out, and then what it has in its queue, is what it got. -/
  given_queued : ∀ before topic after n, events = before ++ .subscribe topic :: after →
    ((play step ∅ before).step (.subscribe topic)).2 = .subscribed n → .drop n ∉ after →
    given n (trace step (play step ∅ (before ++ [.subscribe topic])) after) ++
      (play step ∅ events).queued n = published topic after
  /-- It hands out its queue from the front, then waits for more or ends. -/
  receive : ∀ before topic after n, events = before ++ .subscribe topic :: after →
    ((play step ∅ before).step (.subscribe topic)).2 = .subscribed n → .drop n ∉ after →
    ((play step ∅ events).receive n).2 =
      match (play step ∅ events).queued n with
      | m :: _ => .message m
      | [] => if .close ∈ after then .ended else .empty
  /-- Giving a subscription up changes nothing for the others. -/
  drop_other : ∀ k n, k ≠ n →
    ((play step ∅ events).drop k).subscriptions.get? n = (play step ∅ events).subscriptions.get? n

theorem trafficOf_append (ms : List Message) (m : Message) :
    count (trafficOf ms) m = trafficOf (ms ++ [m]) := by
  simp [count, trafficOf, total, UInt64.ofNat_add]

theorem foldl_count (ms : List Message) : ms.foldl count ⟨0, 0, 0⟩ = trafficOf ms := by
  induction ms using List.reverseRecOn with
  | nil => rfl
  | append_singleton ms m ih => rw [List.foldl_append, ih, ← trafficOf_append]; rfl

theorem closed_play_empty (events : List BusEvent) :
    (play step ∅ events).closed = decide (BusEvent.close ∈ events) := by
  rw [closed_play]
  exact Bool.false_or _

theorem fresh_empty : Fresh ∅ := fun _ h => by cases h

/-- A subscription through the run that follows it. -/
theorem tracks_play {before after : List BusEvent} {topic : Topic} {n : Nat}
    (hmade : ((play step ∅ before).step (.subscribe topic)).2 = .subscribed n)
    (hkept : BusEvent.drop n ∉ after) :
    ∃ queue, (play step ∅ (before ++ .subscribe topic :: after)).Tracks n topic queue ∧
      given n (trace step (play step ∅ (before ++ [.subscribe topic])) after) ++ queue =
        published topic after ∧
      (play step ∅ (before ++ .subscribe topic :: after)).closed =
        decide (BusEvent.close ∈ after) := by
  have hopen : (play step ∅ before).closed = false := by
    cases hc : (play step ∅ before).closed with
    | false => rfl
    | true =>
      rw [step_subscribe_closed hc] at hmade
      cases hmade
  have hn : (play step ∅ before).nextSubscription = n := by
    rw [step_subscribe_open hopen] at hmade
    exact BusAnswer.subscribed.inj hmade
  have hstart := (fresh_empty.play before).tracks hopen topic
  rw [hn] at hstart
  obtain ⟨queue, htracks, hgiven⟩ := hstart.run hkept
  have hclosed : ((play step ∅ before).step (.subscribe topic)).1.closed = false := by
    rw [step_closed, hopen]
    rfl
  rw [play_append, play_append]
  refine ⟨queue, htracks, ?_, ?_⟩
  · rw [hclosed] at hgiven
    exact hgiven.symm
  · show (play step ((play step ∅ before).step (.subscribe topic)).1 after).closed = _
    rw [closed_play, hclosed, Bool.false_or]

/-- **A bus delivers exactly what is published**, in every run; and a bus that passes messages on through
channels and as bytes gives the same answers and counts the same. -/
theorem delivers_exactly (events : List BusEvent) :
    Delivers events ∧
    ((∀ m, .publish m ∈ events → m.wireSize < UInt64.size) →
      trace Channels.step ∅ events = trace step ∅ events ∧
      (play Channels.step ∅ events).traffic = (play step ∅ events).traffic) := by
  have hclosed := closed_play_empty events
  refine ⟨?_, fun hsize => Channels.trace_eq Channels.matches_empty hsize⟩
  constructor
  case publish_open =>
    intro h m
    rw [step_publish_open (hclosed.trans (decide_eq_false h))]
  case subscribe_open =>
    intro h topic
    rw [step_subscribe_open (hclosed.trans (decide_eq_false h)), next_play rfl h]
    exact congrArg BusAnswer.subscribed (Nat.zero_add _)
  case refused =>
    intro h m topic
    exact ⟨step_publish_closed (hclosed.trans (decide_eq_true h)) m,
      step_subscribe_closed (hclosed.trans (decide_eq_true h)) topic⟩
  case traffic =>
    rw [traffic_play]
    exact foldl_count _
  case given_queued =>
    rintro before topic after n rfl hmade hkept
    obtain ⟨queue, htracks, hgiven, -⟩ := tracks_play hmade hkept
    rw [queued, htracks.held]
    exact hgiven
  case receive =>
    rintro before topic after n rfl hmade hkept
    obtain ⟨queue, htracks, -, hend⟩ := tracks_play hmade hkept
    rw [receive_of_get? htracks.held, queued, htracks.held, hend]
    cases queue with
    | cons m queue => rfl
    | nil => simp
  case drop_other => exact fun k n hk => (Table.get?_erase _ k n).trans (if_neg hk)

/-- The second subscription hears what is said to `c:S1` until the end, and not what is said to `c:S10`. -/
example :
    let m (topic : String) : Message := ⟨⟨topic⟩, Header.blank, [1]⟩
    given 1 (trace step ∅ [.subscribe ⟨"c"⟩, .subscribe ⟨"c:S1"⟩, .publish (m "c:S10"), .drop 0,
      .publish (m "c:S1"), .close, .publish (m "c:S1"), .receive 1, .receive 1]) = [m "c:S1"] := by
  cbv

end ServiceFlow.Bus
