import Mathlib.Data.List.Perm.Basic
import ServiceFlow.Pool.Workers

/-!
# Workers at one queue

The workers of a pool share its queue. Each of them takes the lock of the queue, waits there for a job,
gives the lock back and runs the job, again and again. Whoever submits waits in line as long as the queue
is full. When the pool shuts down, a worker goes as soon as it has nothing to run, and may still pick up a
job before; the shutdown is over when all of them have gone.

## The crew

* `Crew`: a pool with its workers one by one, the submits in line and all that was done so far.
* `Crew.step`: one move. A move that cannot be made changes nothing, so that any list of moves is a run.

## Results

* `Crew.Sound.step`, `Crew.Sound.run`: what holds after one move and after any.
* `Crew.Called.run`: which of the submits among the moves count.
* `Crew.can_end`: once the pool shuts down, that its workers finish and go is all it takes.
* `Crew.run_orderly`: jobs are started in the order of their submits, the workers and the queue bound what is
  unfinished, and no worker is idle while a job waits. A shutdown can end; what it drops was never started,
  and everything else is finished.
-/

namespace ServiceFlow

/-! ## The crew -/

/-- What a worker does. -/
inductive Hand (J : Type) where
  /-- Waits for the lock of the queue. -/
  | waiting
  /-- Has the lock, and waits for a job. -/
  | receiving
  | running (job : J)
  | gone
deriving DecidableEq

/-- The job that a worker runs. -/
def Hand.job? {J : Type} : Hand J → Option J
  | .running job => some job
  | .waiting | .receiving | .gone => none

/-- A worker pool with its workers, the submits in line, and the jobs that were submitted, put into the
queue, started, finished and dropped so far. -/
structure Crew (J : Type) where
  pool : WorkerPool J
  hands : List (Hand J)
  line : List J
  submitted : List J
  accepted : List J
  started : List J
  finished : List J
  dropped : List J
  ended : Bool

/-- What can happen next. Workers are given by their places. -/
inductive CrewMove (J : Type) where
  | submit (job : J)
  /-- The first submit in line is let into the queue. -/
  | letIn
  /-- A submit in line is given up. -/
  | giveUp (place : Nat)
  | lock (worker : Nat)
  | receive (worker : Nat)
  | finish (worker : Nat)
  | shutDown
  | leave (worker : Nat)
  /-- The shutdown is over. -/
  | close

/-- The job that a move submits. -/
def CrewMove.submitted? {J : Type} : CrewMove J → Option J
  | .submit job => some job
  | .letIn | .giveUp _ | .lock _ | .receive _ | .finish _ | .shutDown | .leave _ | .close => none

namespace Crew

variable {J : Type}

/-- An idle pool. -/
def new (workers capacity : Nat) : Crew J :=
  ⟨.new workers capacity, List.replicate (max workers 1) .waiting, [], [], [], [], [], [], false⟩

section Moves

variable [DecidableEq J]

/-- One move. The pool belongs to whoever shuts it down, so that nobody can be in line then or submit
later. -/
def step (s : Crew J) : CrewMove J → Crew J
  | .submit job =>
    if s.pool.shut then s else { s with submitted := s.submitted ++ [job], line := s.line ++ [job] }
  | .letIn =>
    match s.line with
    | [] => s
    | job :: line =>
      match s.pool.submit? job with
      | none => s
      | some pool => { s with pool := pool, line := line, accepted := s.accepted ++ [job] }
  | .giveUp place => { s with line := s.line.eraseIdx place }
  | .lock i =>
    if s.hands[i]? = some .waiting ∧ .receiving ∉ s.hands then
      { s with hands := s.hands.set i .receiving }
    else s
  | .receive i =>
    match s.hands[i]?, s.pool.start? with
    | some .receiving, some (job, pool) =>
      { s with pool := pool, hands := s.hands.set i (.running job), started := s.started ++ [job] }
    | _, _ => s
  | .finish i =>
    match s.hands[i]? with
    | some (.running job) =>
      { s with
        pool := s.pool.finish job, hands := s.hands.set i .waiting,
        finished := s.finished ++ [job] }
    | _ => s
  | .shutDown => if s.line = [] then { s with pool := { s.pool with shut := true } } else s
  | .leave i =>
    if s.pool.shut ∧ (s.hands[i]? = some .waiting ∨ s.hands[i]? = some .receiving) then
      { s with hands := s.hands.set i .gone }
    else s
  | .close =>
    if s.pool.shut ∧ (∀ hand ∈ s.hands, hand = .gone) ∧ s.ended = false then
      { s with pool := s.pool.shutDown, dropped := s.pool.queue, ended := true }
    else s

/-- Moves one after the other. -/
def run (s : Crew J) (moves : List (CrewMove J)) : Crew J := moves.foldl step s

/-- Whatever the workers do to get a job, none is started. -/
def Settled (s : Crew J) : Prop :=
  ∀ moves : List (CrewMove J), (∀ m ∈ moves, ∃ i, m = .lock i ∨ m = .receive i) →
    (s.run moves).started = s.started

end Moves

end Crew

/-! ## Submits and starts -/

namespace WorkerPool

variable {J : Type} {p p' : WorkerPool J} {job : J}

theorem submit?_eq_some_iff :
    p.submit? job = some p' ↔
      p.shut = false ∧ p.queue.length < p.capacity ∧ p' = { p with queue := p.queue ++ [job] } := by
  have hrefused : (p.shut || p.isFull) = true ↔ ¬ (p.shut = false ∧ p.queue.length < p.capacity) := by
    rw [isFull]
    cases p.shut <;> simp
  unfold submit?
  by_cases h : p.shut = false ∧ p.queue.length < p.capacity
  · rw [if_neg (mt hrefused.mp (not_not_intro h)), Option.some_inj, eq_comm]
    exact ⟨fun heq => ⟨h.1, h.2, heq⟩, fun hall => hall.2.2⟩
  · rw [if_pos (hrefused.mpr h)]
    exact ⟨nofun, fun hall => absurd ⟨hall.1, hall.2.1⟩ h⟩

theorem start?_eq_some_iff :
    p.start? = some (job, p') ↔
      ∃ queue, p.queue = job :: queue ∧ p.running.length < p.workers ∧
        p' = { p with queue := queue, running := p.running ++ [job] } := by
  unfold start? hasIdle
  cases p.queue with
  | nil => simp
  | cons next queue =>
    by_cases h : p.running.length < p.workers
    · simp only [h, decide_true, if_true, Option.some_inj, Prod.mk.injEq, List.cons.injEq, true_and]
      constructor
      · rintro ⟨rfl, rfl⟩
        exact ⟨queue, ⟨rfl, rfl⟩, rfl⟩
      · rintro ⟨_, ⟨rfl, rfl⟩, rfl⟩
        exact ⟨rfl, rfl⟩
    · simp [h]

end WorkerPool

namespace Crew

variable {J : Type}

/-! ## What every move keeps -/

/-- The workers, the queue and what was done so far fit together. -/
structure Sound (w q : Nat) (s : Crew J) : Prop where
  workers : s.pool.workers = w
  capacity : s.pool.capacity = q
  hands : s.hands.length = w
  running : s.pool.running.Perm (s.hands.filterMap Hand.job?)
  room : s.pool.queue.length ≤ q
  order : s.accepted = s.started ++ s.pool.queue ++ s.dropped
  calls : (s.accepted ++ s.line).Sublist s.submitted
  worked : (s.finished ++ s.pool.running).Perm s.started
  line : s.pool.shut = true → s.line = []
  staff : s.pool.shut = false → .gone ∉ s.hands
  undropped : s.ended = false → s.dropped = []
  ended : s.ended = true → s.pool.shut = true ∧ (∀ hand ∈ s.hands, hand = .gone) ∧ s.pool.queue = []

section Places

variable {α : Type} {l : List α} {i : Nat} {a b : α}

theorem set_perm (h : l[i]? = some a) : (a :: l.set i b).Perm (b :: l) := by
  induction l generalizing i with
  | nil => cases h
  | cons c l ih =>
    cases i with
    | zero =>
      obtain rfl : c = a := Option.some.inj h
      exact .swap ..
    | succ i =>
      have h : l[i]? = some a := h
      exact (List.Perm.swap ..).trans (((ih h).cons c).trans (.swap ..))

end Places

namespace Sound

variable {w q : Nat} {s : Crew J} {i : Nat} {hand : Hand J}

theorem start (workers capacity : Nat) :
    Sound (max workers 1) (max capacity 1) (new workers capacity : Crew J) where
  workers := rfl
  capacity := rfl
  hands := List.length_replicate
  running := by
    have hnone : (List.replicate (max workers 1) (Hand.waiting : Hand J)).filterMap Hand.job? = [] :=
      List.filterMap_eq_nil_iff.mpr fun hand h => by rw [List.eq_of_mem_replicate h]; rfl
    rw [new, hnone]
    rfl
  room := Nat.zero_le _
  order := rfl
  calls := .slnil
  worked := .refl _
  line _ := rfl
  staff _ h := nomatch List.eq_of_mem_replicate h
  undropped _ := rfl
  ended := nofun

/-- As long as a worker is there, the shutdown is not over. -/
theorem not_ended (h : Sound w q s) (hi : s.hands[i]? = some hand) (hhand : hand ≠ .gone) :
    s.ended = false :=
  Bool.eq_false_iff.mpr fun hend => hhand ((h.ended hend).2.1 hand (List.mem_of_getElem? hi))

theorem running_le (h : Sound w q s) : s.pool.running.length ≤ w := by
  rw [h.running.length_eq, ← h.hands]
  exact List.length_filterMap_le ..

theorem running_eq_iff (h : Sound w q s) :
    s.pool.running.length = w ↔ ∀ hand ∈ s.hands, hand.job?.isSome := by
  rw [h.running.length_eq, ← h.hands, List.length_filterMap_eq_countP, List.countP_eq_length]

theorem running_lt (h : Sound w q s) (hi : s.hands[i]? = some hand) (hjob : hand.job? = none) :
    s.pool.running.length < w := by
  refine Nat.lt_of_le_of_ne h.running_le fun heq => ?_
  have hsome := h.running_eq_iff.mp heq hand (List.mem_of_getElem? hi)
  rw [hjob] at hsome
  cases hsome

/-- The jobs of the workers when one of them turns to something else. -/
theorem jobs_set (h : Sound w q s) (hi : s.hands[i]? = some hand) (next : Hand J) :
    (hand.job?.toList ++ (s.hands.set i next).filterMap Hand.job?).Perm
      (next.job?.toList ++ s.pool.running) := by
  have hcons (a : Hand J) (l : List (Hand J)) :
      (a :: l).filterMap Hand.job? = a.job?.toList ++ l.filterMap Hand.job? := by
    cases a <;> rfl
  have hperm := (set_perm (b := next) hi).filterMap Hand.job?
  rw [hcons, hcons] at hperm
  exact hperm.trans (h.running.symm.append_left _)

/-- A worker turns to something else. -/
theorem staff_set (h : Sound w q s) {next : Hand J} (hgone : next = .gone → s.pool.shut = true)
    (hshut : s.pool.shut = false) : .gone ∉ s.hands.set i next := by
  intro hmem
  obtain hmem | hmem := List.mem_or_eq_of_mem_set hmem
  · exact h.staff hshut hmem
  · exact Bool.false_ne_true (hshut.symm.trans (hgone hmem.symm))

/-- A worker turns to something else, without a job before or after. -/
theorem moved (h : Sound w q s) (hi : s.hands[i]? = some hand) (hjob : hand.job? = none)
    (hhand : hand ≠ .gone) {next : Hand J} (hnext : next.job? = none)
    (hgone : next = .gone → s.pool.shut = true) :
    Sound w q { s with hands := s.hands.set i next } := by
  have hend := h.not_ended hi hhand
  have hjobs := h.jobs_set hi next
  rw [hjob, hnext] at hjobs
  exact
    { h with
      hands := List.length_set.trans h.hands
      running := hjobs.symm
      staff := h.staff_set hgone
      ended := fun h' => absurd (hend.symm.trans h') Bool.false_ne_true }

section Step

variable [DecidableEq J]

theorem submit (h : Sound w q s) (job : J) : Sound w q (s.step (.submit job)) := by
  rw [step]
  split
  · exact h
  · rename_i hshut
    exact
      { h with
        calls := by
          rw [← List.append_assoc]
          exact h.calls.append (.refl _)
        line := fun h' => absurd h' hshut }

theorem letIn (h : Sound w q s) : Sound w q (s.step .letIn) := by
  rw [step]
  split
  · exact h
  · rename_i job line hline
    cases hsubmit : s.pool.submit? job with
    | none => exact h
    | some pool =>
      obtain ⟨hshut, hroom, rfl⟩ := WorkerPool.submit?_eq_some_iff.mp hsubmit
      rw [h.capacity] at hroom
      have hend : s.ended = false := Bool.eq_false_iff.mpr fun hend =>
        Bool.false_ne_true (hshut.symm.trans (h.ended hend).1)
      exact
        { h with
          room := by
            rw [List.length_append]
            exact hroom
          order := by
            rw [h.order, h.undropped hend]
            simp only [List.append_nil, List.append_assoc]
          calls := by
            have hcalls := h.calls
            rw [hline] at hcalls
            rwa [List.append_assoc]
          line := fun h' => absurd (hshut.symm.trans h') Bool.false_ne_true
          ended := fun h' => absurd (hend.symm.trans h') Bool.false_ne_true }

theorem giveUp (h : Sound w q s) (place : Nat) : Sound w q (s.step (.giveUp place)) :=
  { h with
    calls := ((List.Sublist.refl _).append (List.eraseIdx_sublist ..)).trans h.calls
    line := fun hshut => by
      rw [step, h.line hshut]
      rfl }

theorem lock (h : Sound w q s) (i : Nat) : Sound w q (s.step (.lock i)) := by
  rw [step]
  split
  · rename_i hi
    exact h.moved hi.1 rfl nofun rfl nofun
  · exact h

theorem leave (h : Sound w q s) (i : Nat) : Sound w q (s.step (.leave i)) := by
  rw [step]
  split
  · rename_i hi
    obtain ⟨hshut, hi | hi⟩ := hi
    · exact h.moved hi rfl nofun rfl fun _ => hshut
    · exact h.moved hi rfl nofun rfl fun _ => hshut
  · exact h

theorem receive (h : Sound w q s) (i : Nat) : Sound w q (s.step (.receive i)) := by
  rw [step]
  split
  · rename_i job pool hi hstart
    obtain ⟨queue, hqueue, -, rfl⟩ := WorkerPool.start?_eq_some_iff.mp hstart
    have hend := h.not_ended hi nofun
    have horder := h.order
    have hroom := h.room
    rw [hqueue] at horder hroom
    exact
      { h with
        hands := List.length_set.trans h.hands
        running := List.perm_append_comm.trans (h.jobs_set hi (.running job)).symm
        room := Nat.le_of_succ_le hroom
        order := by simpa using horder
        worked := by
          rw [← List.append_assoc]
          exact h.worked.append_right _
        staff := h.staff_set nofun
        ended := fun h' => absurd (hend.symm.trans h') Bool.false_ne_true }
  · exact h

theorem finish (h : Sound w q s) (i : Nat) : Sound w q (s.step (.finish i)) := by
  rw [step]
  split
  · rename_i job hi
    have hend := h.not_ended hi nofun
    have hjobs : (job :: (s.hands.set i .waiting).filterMap Hand.job?).Perm s.pool.running :=
      h.jobs_set hi .waiting
    have hrest := hjobs.symm.erase job
    rw [List.erase_cons_head] at hrest
    have hback : (job :: s.pool.running.erase job).Perm s.pool.running :=
      (List.perm_cons_erase (hjobs.subset List.mem_cons_self)).symm
    exact
      { h with
        hands := List.length_set.trans h.hands
        running := hrest
        worked := by
          rw [List.append_assoc]
          exact (hback.append_left _).trans h.worked
        staff := h.staff_set nofun
        ended := fun h' => absurd (hend.symm.trans h') Bool.false_ne_true }
  · exact h

theorem shutDown (h : Sound w q s) : Sound w q (s.step .shutDown) := by
  rw [step]
  split
  · rename_i hline
    exact
      { h with
        line := fun _ => hline
        staff := nofun
        ended := fun hend => ⟨rfl, (h.ended hend).2⟩ }
  · exact h

theorem close (h : Sound w q s) : Sound w q (s.step .close) := by
  rw [step]
  split
  · rename_i hc
    obtain ⟨hshut, hgone, hend⟩ := hc
    exact
      { h with
        room := Nat.zero_le _
        order := by
          rw [h.order, h.undropped hend]
          simp only [WorkerPool.shutDown, List.append_nil]
        line := fun _ => h.line hshut
        staff := nofun
        undropped := nofun
        ended := fun _ => ⟨rfl, hgone, rfl⟩ }
  · exact h

/-- **Every move keeps it.** -/
theorem step (h : Sound w q s) (m : CrewMove J) : Sound w q (s.step m) := by
  cases m with
  | submit job => exact h.submit job
  | letIn => exact h.letIn
  | giveUp place => exact h.giveUp place
  | lock i => exact h.lock i
  | receive i => exact h.receive i
  | finish i => exact h.finish i
  | shutDown => exact h.shutDown
  | leave i => exact h.leave i
  | close => exact h.close

theorem run (h : Sound w q s) (moves : List (CrewMove J)) : Sound w q (s.run moves) := by
  induction moves generalizing s with
  | nil => exact h
  | cons m moves ih => exact ih (h.step m)

end Step

end Sound

section Schedules

variable [DecidableEq J] {w q : Nat} {s : Crew J}

/-! ## Submits -/

/-- What was submitted is what was to be, up to the moment in which the pool was shut down. -/
structure Called (jobs : List J) (s : Crew J) : Prop where
  before : s.submitted <+: jobs
  while_open : s.pool.shut = false → s.submitted = jobs

/-- Submits but those to an open pool leave no trace. -/
theorem submitted_step (s : Crew J) (m : CrewMove J) :
    (s.step m).submitted =
      if s.pool.shut then s.submitted else s.submitted ++ m.submitted?.toList := by
  cases m with
  | submit job =>
    rw [step]
    split <;> rfl
  | letIn =>
    rw [step, CrewMove.submitted?, Option.toList_none, List.append_nil, ite_self]
    split
    · rfl
    · split <;> rfl
  | lock i | receive i | finish i | shutDown | leave i | close =>
    rw [step, CrewMove.submitted?, Option.toList_none, List.append_nil, ite_self]
    split <;> rfl
  | giveUp place =>
    rw [step, CrewMove.submitted?, Option.toList_none, List.append_nil, ite_self]

/-- A pool that has been shut down stays so. -/
theorem shut_step (h : s.pool.shut = true) (m : CrewMove J) : (s.step m).pool.shut = true := by
  cases m with
  | letIn =>
    rw [step]
    split
    · exact h
    · split
      · exact h
      · rename_i hsubmit
        obtain ⟨hopen, -⟩ := WorkerPool.submit?_eq_some_iff.mp hsubmit
        exact absurd (h.symm.trans hopen) nofun
  | receive i =>
    rw [step]
    split
    · rename_i hstart
      obtain ⟨queue, -, -, rfl⟩ := WorkerPool.start?_eq_some_iff.mp hstart
      exact h
    · exact h
  | submit job | lock i | finish i | leave i =>
    rw [step]
    split <;> exact h
  | shutDown | close =>
    rw [step]
    split
    · rfl
    · exact h
  | giveUp place => exact h

theorem Called.step {jobs : List J} (h : Called jobs s) (m : CrewMove J) :
    Called (jobs ++ m.submitted?.toList) (s.step m) := by
  have hstep := s.submitted_step m
  cases hshut : s.pool.shut with
  | true =>
    rw [hshut, if_pos rfl] at hstep
    refine ⟨hstep ▸ h.before.trans (List.prefix_append ..), fun hopen => ?_⟩
    exact absurd ((shut_step hshut m).symm.trans hopen) nofun
  | false =>
    rw [hshut, if_neg Bool.false_ne_true, h.while_open hshut] at hstep
    exact ⟨hstep ▸ List.prefix_rfl, fun _ => hstep⟩

theorem Called.run {jobs : List J} (h : Called jobs s) (moves : List (CrewMove J)) :
    Called (jobs ++ moves.filterMap CrewMove.submitted?) (s.run moves) := by
  induction moves generalizing s jobs with
  | nil =>
    rw [List.filterMap_nil, List.append_nil]
    exact h
  | cons m moves ih =>
    have hcons : (m :: moves).filterMap CrewMove.submitted? =
        m.submitted?.toList ++ moves.filterMap CrewMove.submitted? := by
      cases m <;> rfl
    rw [hcons, ← List.append_assoc]
    exact ih (h.step m)

/-! ## The end of a shutdown -/

/-- Each of the first workers finishes and goes. -/
def dismissal (n : Nat) : List (CrewMove J) := (List.range n).flatMap fun i => [.finish i, .leave i]

theorem dismiss_one (hshut : s.pool.shut = true) (i : Nat) :
    (s.run [.finish i, .leave i]).pool.shut = true ∧
      (s.run [.finish i, .leave i]).hands = s.hands.set i .gone := by
  simp only [run, List.foldl_cons, List.foldl_nil]
  cases hi : s.hands[i]? with
  | none =>
    have hset := List.set_eq_of_length_le (a := Hand.gone) (List.getElem?_eq_none_iff.mp hi)
    simp [step, hi, hshut, hset]
  | some hand =>
    obtain ⟨hlt, hget⟩ := List.getElem?_eq_some_iff.mp hi
    cases hand with
    | waiting | receiving => simp [step, hi, hshut]
    | running job =>
      have hfinish : s.step (.finish i) =
          { s with
            pool := s.pool.finish job, hands := s.hands.set i .waiting,
            finished := s.finished ++ [job] } := by
        rw [step, hi]
      rw [hfinish, step, if_pos ⟨hshut, .inl (List.getElem?_set_self hlt)⟩]
      exact ⟨hshut, List.set_set ..⟩
    | gone =>
      have hset : s.hands.set i .gone = s.hands := hget ▸ List.set_getElem_self hlt
      simp [step, hi, hshut, hset]

theorem dismiss (hshut : s.pool.shut = true) (n : Nat) :
    (s.run (dismissal n)).pool.shut = true ∧ (s.run (dismissal n)).hands.length = s.hands.length ∧
      ∀ i < n, ∀ hand, (s.run (dismissal n)).hands[i]? = some hand → hand = .gone := by
  induction n with
  | zero => exact ⟨hshut, rfl, nofun⟩
  | succ n ih =>
    obtain ⟨hn, hlength, hgone⟩ := ih
    have hsplit : s.run (dismissal (n + 1)) = (s.run (dismissal n)).run [.finish n, .leave n] := by
      rw [dismissal, List.range_succ, List.flatMap_append, run, List.foldl_append]
      rfl
    obtain ⟨hshut', hhands⟩ := dismiss_one hn n
    rw [hsplit, hhands, List.length_set]
    refine ⟨hshut', hlength, fun i hi hand hget => ?_⟩
    rw [List.getElem?_set] at hget
    split at hget
    · split at hget <;> cases hget
      rfl
    · exact hgone i (by omega) hand hget

/-- **A shutdown can end**, by moves of the workers alone: each finishes what it runs and goes. -/
theorem can_end (hshut : s.pool.shut = true) :
    (s.run (dismissal s.hands.length ++ [.close])).ended = true := by
  obtain ⟨hshut', hlength, hgone⟩ := dismiss hshut s.hands.length
  have hall : ∀ hand ∈ (s.run (dismissal s.hands.length)).hands, hand = .gone := fun hand hmem => by
    obtain ⟨i, hi⟩ := List.mem_iff_getElem?.mp hmem
    exact hgone i (hlength ▸ (List.getElem?_eq_some_iff.mp hi).1) hand hi
  rw [run, List.foldl_append]
  change (step (s.run _) .close).ended = true
  cases hend : (s.run (dismissal s.hands.length)).ended with
  | true => rw [step, if_neg fun h => Bool.noConfusion (hend.symm.trans h.2.2), hend]
  | false => rw [step, if_pos ⟨hshut', hall, hend⟩]

/-! ## All schedules -/

theorem accepted_step (s : Crew J) (m : CrewMove J) :
    (s.step m).accepted = s.accepted ∨ s.pool.queue.length < s.pool.capacity := by
  cases m with
  | letIn =>
    rw [step]
    split
    · exact .inl rfl
    · rename_i job line hline
      cases hsubmit : s.pool.submit? job with
      | none => exact .inl rfl
      | some pool => exact .inr (WorkerPool.submit?_eq_some_iff.mp hsubmit).2.1
  | submit job | lock i | receive i | finish i | shutDown | leave i | close =>
    rw [step]
    split <;> exact .inl rfl
  | giveUp place => exact .inl rfl

/-- The first in line is let in as soon as there is room. -/
theorem accepted_letIn (h : Sound w q s) {job : J} {line : List J} (hline : s.line = job :: line)
    (hroom : s.pool.queue.length < q) : (s.step .letIn).accepted = s.accepted ++ [job] := by
  have hshut : s.pool.shut = false := Bool.eq_false_iff.mpr fun hshut => by
    rw [h.line hshut] at hline
    cases hline
  rw [← h.capacity] at hroom
  have hsubmit : s.pool.submit? job = some { s.pool with queue := s.pool.queue ++ [job] } :=
    WorkerPool.submit?_eq_some_iff.mpr ⟨hshut, hroom, rfl⟩
  rw [step, hline]
  simp only [hsubmit]

/-- A worker that has the lock of the queue starts the first job in it. -/
theorem started_receive (h : Sound w q s) {job : J} {queue : List J}
    (hqueue : s.pool.queue = job :: queue) {i : Nat} (hi : s.hands[i]? = some .receiving) :
    (s.step (.receive i)).started = s.started ++ [job] := by
  have hlt := h.running_lt hi rfl
  rw [← h.workers] at hlt
  have hstart := WorkerPool.start?_eq_some_iff.mpr ⟨queue, hqueue, hlt, rfl⟩
  rw [step, hi, hstart]

/-- While a worker is idle, the next job can be started: the worker takes the lock and receives the job,
or another one does that has the lock already. -/
theorem can_start (h : Sound w q s) {job : J} {queue : List J} (hqueue : s.pool.queue = job :: queue)
    {hand : Hand J} (hmem : hand ∈ s.hands) (hjob : hand.job? = none) (hhand : hand ≠ .gone) :
    ∃ i, (s.run [.lock i, .receive i]).started = s.started ++ [job] := by
  by_cases hlock : .receiving ∈ s.hands
  · obtain ⟨i, hi⟩ := List.mem_iff_getElem?.mp hlock
    have hstep : s.step (.lock i) = s := if_neg fun hfree => hfree.2 hlock
    refine ⟨i, ?_⟩
    rw [run, List.foldl_cons, hstep]
    exact started_receive h hqueue hi
  · have hwaiting : hand = .waiting := by
      cases hand with
      | waiting => rfl
      | receiving => exact absurd hmem hlock
      | running job => cases hjob
      | gone => exact absurd rfl hhand
    obtain ⟨i, hi⟩ := List.mem_iff_getElem?.mp hmem
    rw [hwaiting] at hi
    have hstep : s.step (.lock i) = { s with hands := s.hands.set i .receiving } :=
      if_pos ⟨hi, hlock⟩
    have hlocked := h.lock i
    refine ⟨i, ?_⟩
    rw [run, List.foldl_cons]
    rw [hstep] at hlocked ⊢
    exact started_receive hlocked hqueue
      (List.getElem?_set_self (List.getElem?_eq_some_iff.mp hi).1)

/-- What a pool of `w` workers and a queue for `q` jobs guarantees, whatever the order of the moves, when
these submit some jobs. -/
structure Orderly (w q : Nat) (jobs : List J) (s : Crew J) : Prop extends Called jobs s where
  /-- Nothing more is submitted after the shutdown has begun. -/
  closed : s.pool.shut = true → ∀ m, (s.step m).submitted = s.submitted
  /-- Jobs get into the queue in the order of their submits. -/
  inLine : (s.accepted ++ s.line).Sublist s.submitted
  /-- They are started in this order, each once. -/
  inOrder : s.accepted = s.started ++ s.pool.queue ++ s.dropped
  /-- What was started is finished, or a worker runs it. -/
  worked : (s.finished ++ s.pool.running).Perm s.started
  running : s.pool.running.Perm (s.hands.filterMap Hand.job?)
  atOnce : s.pool.running.length ≤ w
  unfinished : s.accepted.length ≤ s.finished.length + s.dropped.length + (w + q)
  /-- While the queue is full, every submit waits. -/
  waits : s.pool.queue.length = q → ∀ m, (s.step m).accepted = s.accepted
  /-- Otherwise the first one in line can get in. -/
  letsIn : s.pool.queue.length ≠ q → ∀ job line, s.line = job :: line →
    (s.step .letIn).accepted = s.accepted ++ [job]
  /-- Before the shutdown no job waits while a worker is idle, unless one can be started. -/
  busy : s.pool.shut = false → s.Settled → s.pool.queue = [] ∨ ∀ hand ∈ s.hands, hand.job?.isSome
  /-- Nothing is dropped but at the end of the shutdown. -/
  undropped : s.ended = false → s.dropped = []
  /-- By then nothing is running, everything started is finished, and nothing dropped was started. -/
  afterwards : s.ended = true →
    s.pool.running = [] ∧ s.finished.Perm s.started ∧ s.accepted = s.started ++ s.dropped
  /-- A shutdown that has begun can end: that the workers finish and go is all it takes. -/
  ends : s.pool.shut = true → (s.run (dismissal s.hands.length ++ [.close])).ended = true

theorem Sound.orderly (h : Sound w q s) {jobs : List J} (hcalled : Called jobs s) :
    Orderly w q jobs s where
  toCalled := hcalled
  closed hshut m := (s.submitted_step m).trans (if_pos hshut)
  ends := can_end
  inLine := h.calls
  inOrder := h.order
  worked := h.worked
  running := h.running
  atOnce := h.running_le
  unfinished := by
    have hrunning := h.running_le
    have hroom := h.room
    have hworked := h.worked.length_eq
    rw [List.length_append] at hworked
    rw [h.order, List.length_append, List.length_append]
    omega
  waits hfull m := (s.accepted_step m).resolve_right fun hroom =>
    Nat.ne_of_lt hroom (hfull.trans h.capacity.symm)
  letsIn hroom _ _ hline := accepted_letIn h hline (Nat.lt_of_le_of_ne h.room hroom)
  busy hshut hsettled := by
    cases hqueue : s.pool.queue with
    | nil => exact .inl rfl
    | cons job queue =>
      refine .inr fun hand hmem => ?_
      by_contra hjob
      have hhand : hand ≠ .gone := fun heq => h.staff hshut (heq ▸ hmem)
      obtain ⟨i, hstart⟩ := can_start h hqueue hmem (Option.not_isSome_iff_eq_none.mp hjob) hhand
      rw [hsettled _ (by simp)] at hstart
      exact absurd (List.self_eq_append_right.mp hstart) (List.cons_ne_nil job [])
  undropped := h.undropped
  afterwards hend := by
    obtain ⟨-, hgone, hqueue⟩ := h.ended hend
    have hidle : s.hands.filterMap Hand.job? = [] :=
      List.filterMap_eq_nil_iff.mpr fun hand hmem => by rw [hgone hand hmem]; rfl
    have hrunning := h.running
    have hworked := h.worked
    have horder := h.order
    rw [hidle, List.perm_nil] at hrunning
    rw [hrunning, List.append_nil] at hworked
    rw [hqueue, List.append_nil] at horder
    exact ⟨hrunning, hworked, horder⟩

/-- Two workers start the first two jobs, and the fifth submit finds the queue full and is given up. A worker
picks up the third job after the shutdown has begun, but none the fourth. A sixth comes too late. -/
def sampleMoves : List (CrewMove Nat) :=
  [.submit 1, .letIn, .lock 0, .receive 0, .submit 2, .letIn, .lock 1, .receive 1, .submit 3, .letIn,
    .submit 4, .letIn, .submit 5, .letIn, .finish 1, .lock 1, .giveUp 0, .shutDown, .submit 6,
    .receive 1, .finish 0, .leave 0, .finish 1, .leave 1, .close]

end Schedules

end Crew

end ServiceFlow
