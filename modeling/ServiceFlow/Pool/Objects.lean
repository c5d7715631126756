import ServiceFlow.Pool.Semaphore
import ServiceFlow.Text.Duration

/-!
# Object pools

A pool lends a fixed set of objects, one at a time or all at once. There is a permit for each object;
an object is handed out to whoever holds a permit, and comes back before its permit does. Objects are
taken from the end of the list of those at home and come back to the end.

* `ObjectPool.ask` and `ObjectPool.claim` take one object or all, waiting in line if they have to;
  `ObjectPool.tryLend` and `ObjectPool.tryAll` do not wait.
* `ObjectPool.giveBack` ends a loan.
-/

namespace ServiceFlow

/-- Why nothing is lent. -/
inductive PoolError where
  | busy (inUse capacity : Nat)
  | timeout (ms : Nat)
  | closed
deriving DecidableEq, Repr

/-- The wording of each cause. -/
def PoolError.message : PoolError → String
  | .busy inUse capacity =>
    s!"configuration refused: {inUse} of {capacity} engine instances are busy"
  | .timeout ms => "pool did not become idle within " ++ Text.duration ms
  | .closed => "pool is closed"

/-- What is asked for. -/
inductive Demand where
  | one
  | all
deriving DecidableEq, Repr

/-- Objects on loan. -/
structure Loan (α : Type) where
  demand : Demand
  items : List α

/-- The answer to a demand. -/
inductive Lending (α : Type) where
  | lent (loan : Loan α)
  | refused (cause : PoolError)
  | waiting

/-- A pool: the objects at home, and the permits for them. -/
structure ObjectPool (α : Type) where
  capacity : Nat
  items : List α
  permits : Semaphore

namespace ObjectPool

variable {α : Type}

/-- All objects are at home. -/
def ofList (items : List α) : ObjectPool α := ⟨items.length, items, .ofPermits items.length⟩

/-- The objects for which nobody holds a permit. -/
def available (p : ObjectPool α) : Nat := p.permits.free

/-- Nothing is lent any more. -/
def isClosed (p : ObjectPool α) : Bool := p.permits.closed

/-- The most permits that can be asked for at once. -/
def maxPermits : Nat := 4294967295

/-- The permits that a demand takes. -/
def permitsFor (p : ObjectPool α) : Demand → Nat
  | .one => 1
  | .all => min p.capacity maxPermits

/-- Hands out what a permit has been granted for. -/
def handOut (p : ObjectPool α) (d : Demand) : ObjectPool α × Lending α :=
  match d with
  | .all => ({ p with items := [] }, .lent ⟨.all, p.items⟩)
  | .one =>
    match p.items.getLast? with
    | some x => ({ p with items := p.items.dropLast }, .lent ⟨.one, [x]⟩)
    | none => ({ p with permits := p.permits.release 1 }, .refused .closed)

/-- The pool with other permits, after what became of a demand. -/
def answer (p : ObjectPool α) (d : Demand) : Semaphore × Demanded → ObjectPool α × Lending α
  | (s, .granted) => { p with permits := s }.handOut d
  | (s, .refused) => ({ p with permits := s }, .refused .closed)
  | (s, .waiting) => ({ p with permits := s }, .waiting)

/-- Asks for objects under a ticket. -/
def ask (p : ObjectPool α) (ticket : Nat) (d : Demand) : ObjectPool α × Lending α :=
  p.answer d (p.permits.request ticket (p.permitsFor d))

/-- Asks again for one in line. -/
def claim (p : ObjectPool α) (ticket : Nat) (d : Demand) : ObjectPool α × Lending α :=
  p.answer d (p.permits.claim ticket)

/-- Asks for objects without waiting in line for them. -/
def tryLend (p : ObjectPool α) (d : Demand) : ObjectPool α × Lending α :=
  p.answer d (p.permits.tryRequest (p.permitsFor d))

/-- Asks for all objects if none is out. -/
def tryAll (p : ObjectPool α) : ObjectPool α × Lending α :=
  match p.tryLend .all with
  | (p, .waiting) => (p, .refused (.busy (p.capacity - p.available) p.capacity))
  | r => r

/-- Leaves the line. -/
def withdraw (p : ObjectPool α) (ticket : Nat) : ObjectPool α :=
  { p with permits := p.permits.withdraw ticket }

/-- Puts the objects of a loan back. -/
def putBack (p : ObjectPool α) (loan : Loan α) : ObjectPool α :=
  { p with items := p.items ++ loan.items }

/-- Gives the permits of a demand back. -/
def freeUp (p : ObjectPool α) (d : Demand) : ObjectPool α :=
  { p with permits := p.permits.release (p.permitsFor d) }

/-- Ends a loan: first the objects come back, then their permits. -/
def giveBack (p : ObjectPool α) (loan : Loan α) : ObjectPool α :=
  (p.putBack loan).freeUp loan.demand

/-- Lends nothing from now on; what is out still comes back. -/
def close (p : ObjectPool α) : ObjectPool α := { p with permits := p.permits.close }

end ObjectPool

end ServiceFlow
