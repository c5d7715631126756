import ServiceFlow.Bus.Basic

/-!
# Runs of a bus

A run is a list of operations on a bus: subscriptions made and given up, messages published and taken,
and the end. A subscription that is not given up is tracked through a run: what it has handed out and
what is in its queue are, one after the other, the messages published meanwhile that its topic covers.

* `BusEvent.play`, `BusEvent.trace`: what a run leads to, and each operation of it with its answer.
* `BusEvent.accepted`: the messages that a bus takes, which are those published before it is closed.
* `Bus.Tracks.step`, `Bus.Tracks.run`: nothing is lost, doubled or put in another order.
* `Bus.closed_play`, `Bus.traffic_play`, `Bus.next_play`: when the bus is closed, what it has counted, and
  the number of the next subscription.
-/

namespace ServiceFlow

/-- An operation on a bus. -/
inductive BusEvent where
  | subscribe (topic : Topic)
  | drop (subscription : Nat)
  | publish (m : Message)
  | receive (subscription : Nat)
  | close
deriving DecidableEq

/-- The answer to an operation. -/
inductive BusAnswer where
  | subscribed (subscription : Nat)
  | accepted
  | refused (cause : BusError)
  | received (r : Received)
  | done

namespace BusEvent

/-! ## Runs -/

section Runs

variable {σ : Type} (step : σ → BusEvent → σ × BusAnswer)

/-- The state after operations. -/
def play (s : σ) (events : List BusEvent) : σ := events.foldl (fun s e => (step s e).1) s

/-- The operations with their answers. -/
def trace (s : σ) : List BusEvent → List (BusEvent × BusAnswer)
  | [] => []
  | e :: events => (e, (step s e).2) :: trace (step s e).1 events

theorem play_append (s : σ) (p q : List BusEvent) :
    play step s (p ++ q) = play step (play step s p) q := List.foldl_append

end Runs

/-! ## What a run says by itself -/

/-- The messages that are published before the end. -/
def accepted : List BusEvent → List Message
  | [] => []
  | close :: _ => []
  | publish m :: events => m :: accepted events
  | _ :: events => accepted events

/-- The operation makes a subscription. -/
def isSubscribe : BusEvent → Bool
  | subscribe _ => true
  | _ => false

/-- What a subscription hands out in an operation. -/
def handedOut (subscription : Nat) : BusEvent × BusAnswer → Option Message
  | (receive k, .received (.message m)) => if k = subscription then some m else none
  | _ => none

/-- What a subscription hands out in a run, in order. -/
def given (subscription : Nat) (trace : List (BusEvent × BusAnswer)) : List Message :=
  trace.filterMap (handedOut subscription)

/-- The messages that a bus takes in a run, nothing if it is closed already. -/
def taken (closed : Bool) (events : List BusEvent) : List Message :=
  if closed then [] else accepted events

/-- Whether a bus is closed after an operation. -/
def closedAfter (closed : Bool) : BusEvent → Bool
  | close => true
  | _ => closed

theorem taken_cons (closed : Bool) (e : BusEvent) (events : List BusEvent) :
    taken closed (e :: events) = taken closed [e] ++ taken (closedAfter closed e) events := by
  cases closed with
  | true => cases e <;> rfl
  | false => cases e <;> rfl

theorem taken_of_not_publish (closed : Bool) {e : BusEvent} (h : ∀ m, e ≠ publish m) :
    taken closed [e] = [] := by
  cases e with
  | publish m => exact absurd rfl (h m)
  | subscribe | drop | receive | close => cases closed <;> rfl

end BusEvent

namespace Bus

open BusEvent

/-- An operation on a bus, with its answer. -/
def step (b : Bus) : BusEvent → Bus × BusAnswer
  | .subscribe topic =>
    match b.subscribe topic with
    | .ok (b, n) => (b, .subscribed n)
    | .error e => (b, .refused e)
  | .drop n => (b.drop n, .done)
  | .publish m =>
    match b.publish m with
    | .ok b => (b, .accepted)
    | .error e => (b, .refused e)
  | .receive n => ((b.receive n).1, .received (b.receive n).2)
  | .close => (b.close, .done)

/-! ## Single operations -/

section Operations

variable {b : Bus}

theorem step_subscribe_open (h : b.closed = false) (topic : Topic) :
    b.step (.subscribe topic) =
      ({ b with
          subscriptions := b.subscriptions ++ [(b.nextSubscription, ⟨topic, [], true⟩)],
          nextSubscription := b.nextSubscription + 1 },
        .subscribed b.nextSubscription) := by
  simp [step, subscribe, h]

theorem step_subscribe_closed (h : b.closed = true) (topic : Topic) :
    b.step (.subscribe topic) = (b, .refused .closed) := by
  simp [step, subscribe, h]

theorem step_publish_open (h : b.closed = false) (m : Message) :
    b.step (.publish m) = (b.accept m, .accepted) := by
  simp [step, publish, h]

theorem step_publish_closed (h : b.closed = true) (m : Message) :
    b.step (.publish m) = (b, .refused .closed) := by
  simp [step, publish, h]

/-- Taking a message changes nothing but the queue that it is taken from. -/
theorem receive_frame (b : Bus) (n : Nat) :
    (b.receive n).1.closed = b.closed ∧ (b.receive n).1.traffic = b.traffic ∧
      (b.receive n).1.nextSubscription = b.nextSubscription := by
  unfold receive
  split
  · exact ⟨rfl, rfl, rfl⟩
  · split <;> exact ⟨rfl, rfl, rfl⟩

/-- What an operation makes of the end, of the counters and of the numbers of subscriptions. -/
theorem step_frame (b : Bus) (e : BusEvent) :
    (b.step e).1.closed = closedAfter b.closed e ∧
    (b.step e).1.traffic = (taken b.closed [e]).foldl count b.traffic ∧
    (b.step e).1.nextSubscription =
      b.nextSubscription + if !b.closed && e.isSubscribe then 1 else 0 := by
  cases e with
  | subscribe topic =>
    cases h : b.closed with
    | true =>
      rw [step_subscribe_closed h]
      exact ⟨h, rfl, rfl⟩
    | false =>
      rw [step_subscribe_open h]
      exact ⟨h, rfl, rfl⟩
  | publish m =>
    cases h : b.closed with
    | true =>
      rw [step_publish_closed h]
      exact ⟨h, rfl, rfl⟩
    | false =>
      rw [step_publish_open h]
      exact ⟨h, rfl, rfl⟩
  | receive n =>
    rw [taken_of_not_publish _ (by simp)]
    refine ⟨(b.receive_frame n).1, (b.receive_frame n).2.1, ?_⟩
    simp [step, (b.receive_frame n).2.2, isSubscribe]
  | drop n =>
    rw [taken_of_not_publish _ (by simp)]
    exact ⟨rfl, rfl, by simp [step, Bus.drop, isSubscribe]⟩
  | close =>
    rw [taken_of_not_publish _ (by simp)]
    exact ⟨rfl, rfl, by simp [step, Bus.close, isSubscribe]⟩

theorem step_closed (b : Bus) (e : BusEvent) : (b.step e).1.closed = closedAfter b.closed e :=
  (b.step_frame e).1

theorem step_next (b : Bus) (e : BusEvent) :
    (b.step e).1.nextSubscription =
      b.nextSubscription + if !b.closed && e.isSubscribe then 1 else 0 :=
  (b.step_frame e).2.2

/-! ## Runs of operations -/

theorem closed_play (b : Bus) (events : List BusEvent) :
    (play step b events).closed = (b.closed || decide (BusEvent.close ∈ events)) := by
  induction events generalizing b with
  | nil => simp [play]
  | cons e events ih =>
    show (play step (b.step e).1 events).closed = _
    rw [ih, step_closed]
    cases e <;> simp [closedAfter]

theorem traffic_play (b : Bus) (events : List BusEvent) :
    (play step b events).traffic = (taken b.closed events).foldl count b.traffic := by
  induction events generalizing b with
  | nil => cases b.closed <;> rfl
  | cons e events ih =>
    show (play step (b.step e).1 events).traffic = _
    rw [ih, step_closed, (b.step_frame e).2.1, taken_cons b.closed e events, List.foldl_append]

theorem next_play {b : Bus} (h : b.closed = false) {events : List BusEvent}
    (hopen : BusEvent.close ∉ events) :
    (play step b events).nextSubscription =
      b.nextSubscription + events.countP BusEvent.isSubscribe := by
  induction events generalizing b with
  | nil => rfl
  | cons e events ih =>
    rw [List.mem_cons, not_or] at hopen
    have hstep : (b.step e).1.closed = false := by
      rw [step_closed, h]
      cases e with
      | close => exact absurd rfl hopen.1
      | subscribe | drop | publish | receive => rfl
    show (play step (b.step e).1 events).nextSubscription = _
    rw [ih hstep hopen.2, step_next, h, List.countP_cons]
    simp only [Bool.not_false, Bool.true_and]
    omega

/-! ## What an operation does to a subscription -/

theorem get?_subscribe (h : b.closed = false) (topic : Topic) (k : Nat) :
    (b.step (.subscribe topic)).1.subscriptions.get? k =
      (b.subscriptions.get? k).or
        (if b.nextSubscription = k then some ⟨topic, [], true⟩ else none) := by
  rw [step_subscribe_open h]
  exact Table.get?_append _ _ k

theorem get?_publish (h : b.closed = false) (m : Message) (k : Nat) :
    (b.step (.publish m)).1.subscriptions.get? k = (b.subscriptions.get? k).map (deliver m) := by
  rw [step_publish_open h]
  exact Table.get?_map _ _ k

theorem get?_receive (b : Bus) (n k : Nat) :
    (b.receive n).1.subscriptions.get? k =
      if n = k then (b.subscriptions.get? k).map fun s => { s with queue := s.queue.tail }
      else b.subscriptions.get? k := by
  by_cases hk : n = k
  · subst hk
    rw [if_pos rfl]
    cases hs : b.subscriptions.get? n with
    | none => simp only [receive, hs, Option.map_none]
    | some s =>
      obtain ⟨topic, queue, attached⟩ := s
      cases queue with
      | nil => simp only [receive, hs, Option.map_some, List.tail_nil]
      | cons m queue => simp only [receive, hs, Table.get?_set, Option.map_some, List.tail_cons, if_pos]
  · rw [if_neg hk]
    unfold receive
    split
    · rfl
    · split
      · rw [Table.get?_set, if_neg hk]
      · rfl

theorem receive_of_get? {n : Nat} {s : Subscription} (h : b.subscriptions.get? n = some s) :
    (b.receive n).2 =
      match s.queue with
      | m :: _ => .message m
      | [] => if s.attached then .empty else .ended := by
  obtain ⟨topic, queue, attached⟩ := s
  unfold receive
  rw [h]
  cases queue <;> rfl

theorem get?_close (b : Bus) (k : Nat) :
    b.close.subscriptions.get? k =
      (b.subscriptions.get? k).map fun s => { s with attached := false } :=
  Table.get?_map (fun s : Subscription => (⟨s.topic, s.queue, false⟩ : Subscription)) b.subscriptions k

end Operations

/-! ## Subscriptions -/

/-- The subscription to the topic is there with what it has in its queue, and gets new messages as long
as the bus is open. -/
structure Tracks (b : Bus) (n : Nat) (topic : Topic) (queue : List Message) : Prop where
  held : b.subscriptions.get? n = some ⟨topic, queue, !b.closed⟩
  numbered : n < b.nextSubscription

/-- No subscription has a number that is still to come. -/
def Fresh (b : Bus) : Prop := ∀ n, (b.subscriptions.get? n).isSome → n < b.nextSubscription

section Subscriptions

variable {b : Bus} {n : Nat} {topic : Topic} {queue : List Message}

theorem Fresh.step (h : b.Fresh) (e : BusEvent) : (b.step e).1.Fresh := by
  intro k hk
  have hle : b.nextSubscription ≤ (b.step e).1.nextSubscription := by
    rw [step_next]
    exact Nat.le_add_right _ _
  have old (hs : (b.subscriptions.get? k).isSome) : k < (b.step e).1.nextSubscription :=
    Nat.lt_of_lt_of_le (h k hs) hle
  cases e with
  | subscribe topic =>
    cases hc : b.closed with
    | true =>
      rw [step_subscribe_closed hc] at hk ⊢
      exact h k hk
    | false =>
      rw [get?_subscribe hc] at hk
      by_cases hnew : b.nextSubscription = k
      · rw [step_next, hc, ← hnew]
        exact Nat.lt_succ_self _
      · rw [if_neg hnew, Option.or_none] at hk
        exact old hk
  | drop n =>
    have hget : (b.subscriptions.erase n).get? k = if n = k then none else b.subscriptions.get? k :=
      Table.get?_erase _ n k
    by_cases hn : n = k
    · rw [if_pos hn] at hget
      exact absurd hk (by simp [Bus.step, Bus.drop, hget])
    · rw [if_neg hn] at hget
      exact old (hget ▸ hk)
  | publish m =>
    cases hc : b.closed with
    | true =>
      rw [step_publish_closed hc] at hk ⊢
      exact h k hk
    | false =>
      rw [get?_publish hc, Option.isSome_map] at hk
      exact old hk
  | receive n =>
    have hget := b.get?_receive n k
    by_cases hn : n = k
    · rw [if_pos hn] at hget
      exact old (by simpa [Bus.step, hget] using hk)
    · rw [if_neg hn] at hget
      exact old (hget ▸ hk)
  | close =>
    have hget := b.get?_close k
    exact old (by simpa [Bus.step, hget] using hk)

theorem Fresh.play (h : b.Fresh) (events : List BusEvent) :
    (BusEvent.play Bus.step b events).Fresh := by
  induction events generalizing b with
  | nil => exact h
  | cons e events ih => exact ih (h.step e)

/-- A subscription begins with nothing in its queue. -/
theorem Fresh.tracks (h : b.Fresh) (hopen : b.closed = false) (topic : Topic) :
    (b.step (.subscribe topic)).1.Tracks b.nextSubscription topic [] where
  held := by
    have hnone : b.subscriptions.get? b.nextSubscription = none := by
      cases hs : b.subscriptions.get? b.nextSubscription with
      | none => rfl
      | some s => exact absurd (h b.nextSubscription (by rw [hs]; rfl)) (Nat.lt_irrefl _)
    rw [get?_subscribe hopen, hnone, if_pos rfl, Option.none_or, step_closed, hopen]
    rfl
  numbered := by
    rw [step_subscribe_open hopen]
    exact Nat.lt_succ_self _

/-- **What a tracked subscription gets comes to the end of its queue**, and what it hands out was at
the front, whatever the operation is, but for giving this very subscription up. -/
theorem Tracks.step (h : b.Tracks n topic queue) {e : BusEvent} (he : e ≠ .drop n) :
    ∃ queue', (b.step e).1.Tracks n topic queue' ∧
      queue ++ (taken b.closed [e]).filter (fun m => topic.covers m.topic) =
        (handedOut n (e, (b.step e).2)).toList ++ queue' := by
  have hnumbered : n < (b.step e).1.nextSubscription := by
    rw [step_next]
    exact Nat.lt_of_lt_of_le h.numbered (Nat.le_add_right _ _)
  -- an operation that leaves the subscription as it is
  have same (hget : (b.step e).1.subscriptions.get? n = b.subscriptions.get? n)
      (hclosed : (b.step e).1.closed = b.closed) : (b.step e).1.Tracks n topic queue :=
    ⟨by rw [hget, hclosed]; exact h.held, hnumbered⟩
  cases e with
  | subscribe t =>
    refine ⟨queue, same ?_ (step_closed _ _), ?_⟩
    · cases hc : b.closed with
      | true => rw [step_subscribe_closed hc]
      | false => rw [get?_subscribe hc, h.held, Option.some_or]
    · rw [taken_of_not_publish _ (by simp)]
      simp [handedOut]
  | drop k =>
    have hk : k ≠ n := fun e => he (congrArg BusEvent.drop e)
    refine ⟨queue, same ((Table.get?_erase _ k n).trans (if_neg hk)) rfl, ?_⟩
    rw [taken_of_not_publish _ (by simp)]
    simp [handedOut]
  | publish m =>
    cases hc : b.closed with
    | true =>
      refine ⟨queue, same (by rw [step_publish_closed hc]) (step_closed _ _), ?_⟩
      simp [taken, handedOut]
    | false =>
      have hdeliver : deliver m ⟨topic, queue, true⟩ =
          ⟨topic, queue ++ [m].filter (fun m => topic.covers m.topic), true⟩ := by
        by_cases hm : topic.covers m.topic = true <;> simp [deliver, reaches, hm]
      refine ⟨queue ++ [m].filter (fun m => topic.covers m.topic), ⟨?_, hnumbered⟩, ?_⟩
      · rw [get?_publish hc, h.held, step_closed, hc, Option.map_some]
        exact congrArg some hdeliver
      · simp [taken, accepted, handedOut]
  | receive k =>
    rw [taken_of_not_publish _ (by simp)]
    by_cases hk : k = n
    · subst hk
      refine ⟨queue.tail, ⟨?_, hnumbered⟩, ?_⟩
      · rw [step_closed]
        refine (b.get?_receive k k).trans ?_
        rw [if_pos rfl, h.held]
        rfl
      · rw [Bus.step, receive_of_get? h.held]
        cases queue with
        | nil => cases b.closed <;> rfl
        | cons m queue => simp [handedOut]
    · refine ⟨queue, same ((b.get?_receive k n).trans (if_neg hk)) (step_closed _ _), ?_⟩
      have hnone : handedOut n (.receive k, (b.step (.receive k)).2) = none := by
        rw [Bus.step]
        cases (b.receive k).2 <;> simp [handedOut, hk]
      simp [hnone]
  | close =>
    refine ⟨queue, ⟨(b.get?_close n).trans ?_, hnumbered⟩, ?_⟩
    · rw [h.held]
      rfl
    · rw [taken_of_not_publish _ (by simp)]
      simp [handedOut]

/-- **Through a run**: what the subscription has handed out and what is in its queue are what was in its
queue before and what was published meanwhile, in that order. -/
theorem Tracks.run (h : b.Tracks n topic queue) {events : List BusEvent}
    (hkept : BusEvent.drop n ∉ events) :
    ∃ queue', (play Bus.step b events).Tracks n topic queue' ∧
      queue ++ (taken b.closed events).filter (fun m => topic.covers m.topic) =
        given n (trace Bus.step b events) ++ queue' := by
  induction events generalizing b queue with
  | nil =>
    refine ⟨queue, h, ?_⟩
    cases b.closed <;> simp [taken, accepted, given, trace]
  | cons e events ih =>
    rw [List.mem_cons, not_or] at hkept
    obtain ⟨middle, hmiddle, hone⟩ := h.step (Ne.symm hkept.1)
    obtain ⟨last, hlast, hrest⟩ := ih hmiddle hkept.2
    refine ⟨last, hlast, ?_⟩
    have hgiven : given n (trace Bus.step b (e :: events)) =
        (handedOut n (e, (b.step e).2)).toList ++
          given n (trace Bus.step (b.step e).1 events) := by
      rw [trace, given, given, List.filterMap_cons]
      cases handedOut n (e, (b.step e).2) <;> rfl
    rw [step_closed] at hrest
    rw [taken_cons, List.filter_append, ← List.append_assoc, hone, List.append_assoc, hrest, hgiven,
      List.append_assoc]

end Subscriptions

end Bus

end ServiceFlow
