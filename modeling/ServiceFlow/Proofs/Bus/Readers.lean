import Mathlib.Logic.Function.Basic
import ServiceFlow.Proofs.Bus.Runs

/-!
# Those who read from a bus

Several readers have a subscription each, to a topic of their own kind. What is published comes to the
queues of those whose topics cover it, and what is in a queue stays there until its reader takes it.

* `Attended`: each reader that is there has a subscription to its topic, and no two have the same.
* `Attended.step`, `Attended.subscribe`, `Attended.drop`: so it remains while readers come and go.
* `Attended.acceptAll`, `Attended.queued_receive`: what becomes of the queues.
-/

namespace ServiceFlow

variable {b : Bus} {k : Nat} {m : Message}

theorem Bus.Tracks.queued_eq {topic : Topic} {queue : List Message} (h : b.Tracks k topic queue) :
    b.queued k = queue := by
  unfold Bus.queued
  rw [h.held]

/-- Each reader that is there has a subscription of its own to its topic. -/
structure Attended {ι : Type} (b : Bus) (topic : ι → Topic) (reader : ι → Option Nat) : Prop where
  fresh : b.Fresh
  tracked : ∀ n k, reader n = some k → b.Tracks k (topic n) (b.queued k)
  apart : ∀ n n' k, reader n = some k → reader n' = some k → n = n'

namespace Attended

variable {ι : Type} {topic : ι → Topic} {reader : ι → Option Nat} {n : ι}

/-- Nobody is there yet. -/
theorem nobody (h : b.Fresh) : Attended b topic fun _ => none := ⟨h, nofun, nofun⟩

theorem of_eq (h : Attended b topic reader) {reader' : ι → Option Nat}
    (he : ∀ n, reader' n = reader n) : Attended b topic reader' := funext he ▸ h

/-- The directory plays no part. -/
theorem congr (h : Attended b topic reader) {b' : Bus} (hs : b'.subscriptions = b.subscriptions)
    (hn : b'.nextSubscription = b.nextSubscription) (hc : b'.closed = b.closed) :
    Attended b' topic reader := by
  have hqueued (k : Nat) : b'.queued k = b.queued k := by
    unfold Bus.queued
    rw [hs]
  refine ⟨?_, fun n k hk => ?_, h.apart⟩
  · unfold Bus.Fresh
    rw [hs, hn]
    exact h.fresh
  · obtain ⟨hheld, hnumbered⟩ := h.tracked n k hk
    refine ⟨?_, hn ▸ hnumbered⟩
    rw [hs, hc, hqueued]
    exact hheld

/-! ## Operations -/

/-- What an operation makes of the queue of a reader, unless it gives the subscription up. -/
theorem step_queued (h : Attended b topic reader) {e : BusEvent} (hk : reader n = some k)
    (he : e ≠ .drop k) :
    (b.step e).1.Tracks k (topic n) ((b.step e).1.queued k) ∧
      b.queued k ++
          (BusEvent.taken b.closed [e]).filter (fun m => (topic n).covers m.topic) =
        (BusEvent.handedOut k (e, (b.step e).2)).toList ++ (b.step e).1.queued k := by
  obtain ⟨queue, htracks, hqueue⟩ := (h.tracked n k hk).step he
  rw [htracks.queued_eq]
  exact ⟨htracks, hqueue⟩

theorem step (h : Attended b topic reader) {e : BusEvent}
    (he : ∀ n k, reader n = some k → e ≠ .drop k) : Attended (b.step e).1 topic reader :=
  ⟨h.fresh.step e, fun n k hk => (h.step_queued hk (he n k hk)).1, h.apart⟩

/-- A reader comes, with nothing in its queue, and the others keep theirs. -/
theorem subscribe [DecidableEq ι] (h : Attended b topic reader) (hopen : b.closed = false) (n : ι) :
    Attended (b.step (.subscribe (topic n))).1 topic
        (Function.update reader n (some b.nextSubscription)) ∧
      (b.step (.subscribe (topic n))).1.queued b.nextSubscription = [] ∧
      ∀ n' k', reader n' = some k' →
        (b.step (.subscribe (topic n))).1.queued k' = b.queued k' := by
  have hnew := h.fresh.tracks hopen (topic n)
  have hdrop (k : Nat) : BusEvent.subscribe (topic n) ≠ .drop k := by simp
  have hkeep := h.step (e := .subscribe (topic n)) fun _ k _ => hdrop k
  -- no subscription has had the new number before
  have hold {n' : ι} {k : Nat} (hk : reader n' = some k) : k ≠ b.nextSubscription :=
    Nat.ne_of_lt (h.tracked n' k hk).numbered
  refine ⟨⟨hkeep.fresh, fun n' k hk => ?_, fun n₁ n₂ k h₁ h₂ => ?_⟩, hnew.queued_eq,
    fun n' k' hk' => ?_⟩
  · rw [Function.update_apply] at hk
    split at hk
    · rename_i he
      cases hk
      rw [he, hnew.queued_eq]
      exact hnew
    · exact hkeep.tracked n' k hk
  · rw [Function.update_apply] at h₁ h₂
    split at h₁
    · rename_i he₁
      split at h₂
      · rename_i he₂
        exact he₁.trans he₂.symm
      · cases h₁
        exact absurd rfl (hold h₂)
    · split at h₂
      · cases h₂
        exact absurd rfl (hold h₁)
      · exact h.apart n₁ n₂ k h₁ h₂
  · have hqueue := (h.step_queued hk' (hdrop k')).2
    rw [BusEvent.taken_of_not_publish _ (by simp)] at hqueue
    exact hqueue.symm.trans (List.append_nil _)

/-- A reader goes, and the others keep their queues. -/
theorem drop [DecidableEq ι] (h : Attended b topic reader) (hk : reader n = some k) :
    Attended (b.drop k) topic (Function.update reader n none) ∧
      ∀ n' k', n' ≠ n → reader n' = some k' → (b.drop k).queued k' = b.queued k' := by
  -- the others have subscriptions with other numbers
  have hother {n' : ι} {k' : Nat} (hne : n' ≠ n) (hk' : reader n' = some k') :
      BusEvent.drop k ≠ .drop k' := by
    rintro ⟨⟩
    exact hne (h.apart n' n k hk' hk)
  refine ⟨⟨h.fresh.step (.drop k), fun n' k' hk' => ?_, fun n₁ n₂ k' h₁ h₂ => ?_⟩,
    fun n' k' hne hk' => ?_⟩
  · rw [Function.update_apply] at hk'
    split at hk'
    · cases hk'
    · rename_i hne
      exact (h.step_queued hk' (hother hne hk')).1
  · rw [Function.update_apply] at h₁ h₂
    split at h₁
    · cases h₁
    · split at h₂
      · cases h₂
      · exact h.apart n₁ n₂ k' h₁ h₂
  · have hqueue := (h.step_queued hk' (hother hne hk')).2
    rw [BusEvent.taken_of_not_publish _ (by simp)] at hqueue
    exact (hqueue.symm.trans (List.append_nil _))

/-! ## Queues -/

/-- What is in a queue stays there or is handed out. -/
theorem mem_step (h : Attended b topic reader) {e : BusEvent} (hk : reader n = some k)
    (he : e ≠ .drop k) (hm : m ∈ b.queued k) :
    m ∈ (b.step e).1.queued k ∨ BusEvent.handedOut k (e, (b.step e).2) = some m := by
  have hall := List.mem_append_left
    ((BusEvent.taken b.closed [e]).filter fun m => (topic n).covers m.topic) hm
  rw [(h.step_queued hk he).2, List.mem_append, Option.mem_toList] at hall
  exact hall.symm

/-- A message comes to the end of the queues of those whose topics cover its own. -/
theorem accept (h : Attended b topic reader) (hopen : b.closed = false) (m : Message) :
    Attended (b.accept m) topic reader ∧
      ∀ n k, reader n = some k → (b.accept m).queued k =
        b.queued k ++ [m].filter fun m => (topic n).covers m.topic := by
  have hdrop (k : Nat) : BusEvent.publish m ≠ .drop k := by simp
  have hstep := h.step (e := .publish m) fun _ k _ => hdrop k
  have hqueue {n : ι} {k : Nat} (hk : reader n = some k) := (h.step_queued hk (hdrop k)).2
  rw [Bus.step_publish_open hopen] at hstep hqueue
  refine ⟨hstep, fun n k hk => (hqueue hk).symm.trans ?_⟩
  rw [hopen]
  rfl

/-- Messages come in the order in which they are published. -/
theorem acceptAll (h : Attended b topic reader) (hopen : b.closed = false) (ms : List Message) :
    Attended (ms.foldl Bus.accept b) topic reader ∧
      ∀ n k, reader n = some k → (ms.foldl Bus.accept b).queued k =
        b.queued k ++ ms.filter fun m => (topic n).covers m.topic := by
  induction ms generalizing b with
  | nil => exact ⟨h, fun n k _ => (List.append_nil _).symm⟩
  | cons m ms ih =>
    obtain ⟨hfirst, hqueue⟩ := h.accept hopen m
    obtain ⟨hlast, hqueues⟩ := ih hfirst hopen
    refine ⟨hlast, fun n k hk => (hqueues n k hk).trans ?_⟩
    rw [hqueue n k hk, List.append_assoc, ← List.filter_append, List.singleton_append]

theorem mem_accept (h : Attended b topic reader) (hopen : b.closed = false) (hk : reader n = some k)
    {m' : Message} : m' ∈ (b.accept m).queued k ↔
      m' ∈ b.queued k ∨ (topic n).covers m.topic = true ∧ m' = m := by
  rw [(h.accept hopen m).2 n k hk, List.mem_append, List.mem_filter, List.mem_singleton, and_comm]
  refine or_congr_right (and_congr_left ?_)
  rintro rfl
  exact Iff.rfl

/-- A message that is taken was the first of its reader's queue, and of nobody else's. -/
theorem queued_receive (h : Attended b topic reader) (hk : reader n = some k) {queue : List Message}
    (hq : b.queued k = m :: queue) :
    ∃ b', b.receive k = (b', .message m) ∧ b'.closed = b.closed ∧ Attended b' topic reader ∧
      b'.queued k = queue ∧
      ∀ n' k', n' ≠ n → reader n' = some k' → b'.queued k' = b.queued k' := by
  have hgot : (b.receive k).2 = .message m := by
    rw [Bus.receive_of_get? (h.tracked n k hk).held, hq]
  have hstep : b.step (.receive k) = ((b.receive k).1, .received (.message m)) := by
    rw [Bus.step, hgot]
  have hdrop (k' : Nat) : BusEvent.receive k ≠ .drop k' := by simp
  have hattended := h.step (e := .receive k) fun _ k' _ => hdrop k'
  refine ⟨(b.receive k).1, Prod.ext rfl hgot, (b.receive_frame k).1, hattended, ?_,
    fun n' k' hne hk' => ?_⟩
  · have hqueue := (h.step_queued hk (hdrop k)).2
    rw [BusEvent.taken_of_not_publish _ (by simp), hstep, hq] at hqueue
    have hout : BusEvent.handedOut k (.receive k, .received (.message m)) = some m := if_pos rfl
    rw [hout] at hqueue
    exact ((List.append_nil _).symm.trans (List.cons.inj hqueue).2).symm
  · have hqueue := (h.step_queued hk' (hdrop k')).2
    rw [BusEvent.taken_of_not_publish _ (by simp), hstep] at hqueue
    have hout : BusEvent.handedOut k' (.receive k, .received (.message m)) = none := by
      refine if_neg ?_
      rintro rfl
      exact hne (h.apart n' n k hk' hk)
    rw [hout] at hqueue
    exact hqueue.symm.trans (List.append_nil _)

/-- Nothing is taken from an empty queue. -/
theorem receive_nil (h : Attended b topic reader) (hk : reader n = some k) (hq : b.queued k = []) :
    ∃ received, b.receive k = (b, received) ∧ ∀ m, received ≠ .message m := by
  have hheld := (h.tracked n k hk).held
  rw [hq] at hheld
  refine ⟨if !b.closed then .empty else .ended, ?_, fun m => ?_⟩
  · unfold Bus.receive
    rw [hheld]
  · split <;> nofun

end Attended

end ServiceFlow
