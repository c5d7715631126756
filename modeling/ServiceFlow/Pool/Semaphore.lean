/-!
# Permits

A semaphore lends permits. Whoever asks for more than are free waits in line under a ticket. The line
is served strictly in order: the first in it takes whatever is free until it has all that it wanted,
so that many small demands cannot overtake a large one.

* `Semaphore.request` asks, `Semaphore.claim` asks again for one that waits.
* `Semaphore.withdraw` leaves the line and gives back what was taken in advance.
* `Semaphore.close` refuses everyone from then on, those in line too.

A waiter stays in line until it claims its permits, even if it has all of them.
-/

namespace ServiceFlow

/-- One that waits: what it wanted, and what it has of it. -/
structure Waiter where
  ticket : Nat
  wanted : Nat
  held : Nat
deriving DecidableEq, Repr

/-- The permits that a waiter lacks. -/
def Waiter.missing (w : Waiter) : Nat := w.wanted - w.held

/-- The free permits and the line. -/
structure Semaphore where
  free : Nat
  closed : Bool
  line : List Waiter
deriving DecidableEq, Repr

/-- What becomes of a demand. -/
inductive Demanded where
  | granted
  | refused
  | waiting
deriving DecidableEq, Repr

namespace Semaphore

/-- All permits are free. -/
def ofPermits (n : Nat) : Semaphore := ⟨n, false, []⟩

/-- Gives permits to the waiters in order, and says how many are left over. -/
def serve : Nat → List Waiter → List Waiter × Nat
  | n, [] => ([], n)
  | n, w :: ws =>
    let given := min n w.missing
    let (ws, rest) := serve (n - given) ws
    ({ w with held := w.held + given } :: ws, rest)

/-- Takes permits back. -/
def release (s : Semaphore) (n : Nat) : Semaphore :=
  if s.closed then { s with free := s.free + n }
  else
    let (line, rest) := serve n s.line
    { s with free := s.free + rest, line := line }

/-- Asks for permits under a ticket. -/
def request (s : Semaphore) (ticket n : Nat) : Semaphore × Demanded :=
  if s.closed then (s, .refused)
  else if n ≤ s.free then ({ s with free := s.free - n }, .granted)
  else ({ s with free := 0, line := s.line ++ [⟨ticket, n, s.free⟩] }, .waiting)

/-- Asks for permits that are free now. -/
def tryRequest (s : Semaphore) (n : Nat) : Semaphore × Demanded :=
  if s.closed then (s, .refused)
  else if n ≤ s.free then ({ s with free := s.free - n }, .granted)
  else (s, .waiting)

/-- The waiter with a ticket. -/
def waiter? (s : Semaphore) (ticket : Nat) : Option Waiter :=
  s.line.find? fun w => w.ticket == ticket

/-- The semaphore without a waiter. -/
def without (s : Semaphore) (ticket : Nat) : Semaphore :=
  { s with line := s.line.filter fun w => w.ticket ≠ ticket }

/-- Leaves the line. -/
def withdraw (s : Semaphore) (ticket : Nat) : Semaphore :=
  match s.waiter? ticket with
  | none => s
  | some w => (s.without ticket).release w.held

/-- Asks again for one in line. -/
def claim (s : Semaphore) (ticket : Nat) : Semaphore × Demanded :=
  match s.waiter? ticket with
  | none => (s, .waiting)
  | some w =>
    if s.closed then (s.withdraw ticket, .refused)
    else if w.missing = 0 then (s.without ticket, .granted)
    else (s, .waiting)

/-- Refuses everyone. -/
def close (s : Semaphore) : Semaphore := { s with closed := true }

/-- The tickets for which there is an answer, in the order of the line. -/
def answered (s : Semaphore) : List Nat :=
  (s.line.filter fun w => s.closed || w.missing == 0).map (·.ticket)

end Semaphore

end ServiceFlow
