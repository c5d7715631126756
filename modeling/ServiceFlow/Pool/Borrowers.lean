import ServiceFlow.Pool.Objects
import ServiceFlow.Schedule
import ServiceFlow.Table

/-!
# Borrowers at a pool

Borrowers, known by their tickets, wait for objects of a pool, some of them for a limited time, and
keep what they get until they give it back. Each borrower is a task that looks at its demand whenever
the pool has an answer for it or its time is up.
-/

namespace ServiceFlow

/-- What a borrower waits for, and when it gives up after how many milliseconds. -/
structure Wish where
  demand : Demand
  patience : Option Nat
  deadline : Option Nat

/-- A pool and its borrowers. -/
structure Borrowers (α : Type) where
  pool : ObjectPool α
  agenda : Agenda Nat
  wishes : Table Nat Wish
  loans : Table Nat (Loan α)
  failures : Table Nat PoolError

namespace Borrowers

variable {α : Type}

/-- A pool without borrowers. -/
def ofList (items : List α) : Borrowers α := ⟨.ofList items, .empty, [], [], []⟩

/-- Wakes the borrowers for which the pool has an answer. -/
def notice (b : Borrowers α) : Borrowers α :=
  { b with agenda := b.agenda.wakeAll b.pool.permits.answered }

/-- Ends the loan of a borrower. -/
def giveBack (b : Borrowers α) (ticket : Nat) : Borrowers α :=
  match b.loans.get? ticket with
  | none => b
  | some loan =>
    { b with pool := b.pool.giveBack loan, loans := b.loans.erase ticket }.notice

/-- Puts down the answer to a wish; a new loan takes the place of an old one. -/
def settle (b : Borrowers α) (ticket : Nat) (w : Wish) : ObjectPool α × Lending α → Borrowers α
  | (p, .lent loan) =>
    let b := { b with pool := p, wishes := b.wishes.erase ticket, agenda := b.agenda.forget ticket }
    let b := b.giveBack ticket
    { b with loans := b.loans.set ticket loan }.notice
  | (p, .refused cause) =>
    { b with
      pool := p, wishes := b.wishes.erase ticket, agenda := b.agenda.forget ticket,
      failures := b.failures.set ticket cause }.notice
  | (p, .waiting) =>
    match w.deadline, w.patience with
    | some deadline, some ms =>
      if deadline ≤ b.agenda.now then
        { b with
          pool := p.withdraw ticket, wishes := b.wishes.erase ticket,
          agenda := b.agenda.forget ticket,
          failures := b.failures.set ticket (.timeout ms) }.notice
      else { b with pool := p, wishes := b.wishes.set ticket w }
    | _, _ => { b with pool := p, wishes := b.wishes.set ticket w }

/-- A borrower asks. -/
def ask (b : Borrowers α) (ticket : Nat) (d : Demand) (patience : Option Nat) : Borrowers α :=
  let w : Wish := ⟨d, patience, patience.map (b.agenda.now + ·)⟩
  let b := match patience with
    | some ms => { b with agenda := b.agenda.wakeAfter ms ticket }
    | none => b
  b.settle ticket w (b.pool.ask ticket d)

/-- A borrower takes all objects if it can have them now. -/
def tryAll (b : Borrowers α) (ticket : Nat) : Borrowers α :=
  b.settle ticket ⟨.all, none, none⟩ b.pool.tryAll

/-- A borrower that waits gives up. -/
def withdraw (b : Borrowers α) (ticket : Nat) : Borrowers α :=
  { b with
    pool := b.pool.withdraw ticket, wishes := b.wishes.erase ticket,
    agenda := b.agenda.forget ticket }.notice

/-- Closes the pool. -/
def close (b : Borrowers α) : Borrowers α := { b with pool := b.pool.close }.notice

/-- A borrower looks at its demand. -/
def turn (ticket : Nat) (b : Borrowers α) : Borrowers α :=
  match b.wishes.get? ticket with
  | none => b
  | some w => b.settle ticket w (b.pool.claim ticket w.demand)

instance : Scheduled (Borrowers α) Nat := ⟨agenda, fun b a => { b with agenda := a }, turn⟩

end Borrowers

end ServiceFlow
