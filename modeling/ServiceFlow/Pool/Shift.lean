import ServiceFlow.Pool.Semaphore
import ServiceFlow.Pool.Workers

/-!
# Workers at a gate

A worker pool whose jobs each take a permit from a gate before they finish. The jobs pass the gate in
the order in which they have come to it.
-/

namespace ServiceFlow

/-- A job with the place at which it was submitted. -/
structure Shift.Task where
  ticket : Nat
  job : Nat
deriving DecidableEq

/-- A worker pool at a gate, with the jobs that were started and finished so far. -/
structure Shift where
  pool : WorkerPool Shift.Task
  gate : Semaphore
  submitted : Nat
  started : List Nat
  finished : List Nat

namespace Shift

/-- Nothing submitted yet, and no permit at the gate. -/
def new (workers capacity : Nat) : Shift := ⟨.new workers capacity, .ofPermits 0, 0, [], []⟩

/-- A job is through the gate. -/
def pass (s : Shift) (t : Task) : Shift :=
  { s with pool := s.pool.finish t, finished := s.finished ++ [t.job] }

/-- The next job that can pass the gate, or be started; one that is started comes to the gate. -/
def step? (s : Shift) : Option Shift :=
  match s.pool.running.find? fun t => s.gate.answered.contains t.ticket with
  | some t => some ({ s with gate := (s.gate.claim t.ticket).1 }.pass t)
  | none =>
    match s.pool.start? with
    | none => none
    | some (t, pool) =>
      let (gate, answer) := s.gate.request t.ticket 1
      let s := { s with pool := pool, gate := gate, started := s.started ++ [t.job] }
      some (if answer = .granted then s.pass t else s)

/-- Works on until nothing moves; each job is started once and passes once. -/
def settle (s : Shift) : Shift :=
  let rec go : Nat → Shift → Shift
    | 0, s => s
    | n + 1, s =>
      match s.step? with
      | some s => go n s
      | none => s
  go (2 * (s.pool.queue.length + s.pool.running.length)) s

/-- Submits a job, if the queue has room for it. -/
def submit? (s : Shift) (job : Nat) : Option Shift :=
  (s.pool.submit? ⟨s.submitted, job⟩).map fun pool =>
    { s with pool := pool, submitted := s.submitted + 1 }.settle

/-- Puts permits at the gate. -/
def release (s : Shift) (n : Nat) : Shift := { s with gate := s.gate.release n }.settle

end Shift

end ServiceFlow
