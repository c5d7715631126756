/-!
# Worker pools

A worker pool runs jobs in the order in which they were submitted, as many at a time as it has
workers. Jobs that no worker is free for wait in a bounded queue; when that is full, whoever submits has
to wait. A pool that shuts down drops the jobs in the queue and lets the running ones finish.
-/

namespace ServiceFlow

/-- The jobs in the queue and those being run. -/
structure WorkerPool (J : Type) where
  workers : Nat
  capacity : Nat
  queue : List J
  running : List J
  shut : Bool
deriving DecidableEq, Repr

namespace WorkerPool

variable {J : Type}

/-- An idle pool with one worker and room for one job at least. -/
def new (workers capacity : Nat) : WorkerPool J := ⟨max workers 1, max capacity 1, [], [], false⟩

/-- The queue takes no job now. -/
def isFull (p : WorkerPool J) : Bool := p.capacity ≤ p.queue.length

/-- Puts a job into the queue if it has room. -/
def submit? (p : WorkerPool J) (job : J) : Option (WorkerPool J) :=
  if p.shut || p.isFull then none else some { p with queue := p.queue ++ [job] }

/-- A worker is free. -/
def hasIdle (p : WorkerPool J) : Bool := p.running.length < p.workers

/-- A free worker picks up the next job. -/
def start? (p : WorkerPool J) : Option (J × WorkerPool J) :=
  match p.queue with
  | [] => none
  | job :: queue =>
    if p.hasIdle then some (job, { p with queue := queue, running := p.running ++ [job] })
    else none

/-- A worker is done with its job. -/
def finish [DecidableEq J] (p : WorkerPool J) (job : J) : WorkerPool J :=
  { p with running := p.running.erase job }

/-- Takes no more jobs, and drops those in the queue. -/
def shutDown (p : WorkerPool J) : WorkerPool J := { p with queue := [], shut := true }

end WorkerPool

end ServiceFlow
