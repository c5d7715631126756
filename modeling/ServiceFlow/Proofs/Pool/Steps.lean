import ServiceFlow.Pool.Objects
import ServiceFlow.Proofs.Pool.Permits

/-!
# The steps of those who use a pool

The list of the objects at home and the semaphore are two things, and no step changes both. Whoever uses a
pool gets permits in one step and objects in the next; when the objects are done with they come back in one
step and their permits in the next. So a user is in line, or has permits and no objects yet, or has objects
on loan, or has brought them back and still has the permits.

* `PoolUse.next` is one step of one user, by the functions of the pool. What is not the user's next step
  changes nothing.
* `PoolUse.Moves`: the account of a step, which is the same for all of them: objects and permits move
  between the pool and one user.
* `PoolUse.next_moves`: every step is on account, with a case for each.
-/

namespace ServiceFlow

/-! ## Users and their steps -/

/-- How far one who uses a pool has come. -/
inductive PoolUse (α : Type) where
  | inLine (d : Demand)
  /-- With the permits, and without the objects. -/
  | granted (d : Demand)
  | lent (loan : Loan α)
  /-- With the permits of objects that have come back. -/
  | returned (d : Demand)

/-- A step of a user. -/
inductive PoolAct where
  | ask (d : Demand)
  | tryAll
  | claim
  /-- Waits no longer. -/
  | giveUp
  | take
  | putBack
  | freeUp

namespace PoolUse

variable {α : Type}

/-- What a user has come to by the answer to a demand. -/
def answered (d : Demand) : Demanded → Option (PoolUse α)
  | .granted => some (.granted d)
  | .waiting => some (.inLine d)
  | .refused => none

/-- What a user who does not wait has come to by the answer. -/
def tried (d : Demand) : Demanded → Option (PoolUse α)
  | .granted => some (.granted d)
  | .waiting | .refused => none

/-- What a user with permits has come to by what is handed out. -/
def handed : Lending α → Option (PoolUse α)
  | .lent loan => some (.lent loan)
  | .refused _ | .waiting => none

/-- The pool and the user of a ticket after a step. -/
def next (p : ObjectPool α) (t : Nat) :
    Option (PoolUse α) → PoolAct → ObjectPool α × Option (PoolUse α)
  | none, .ask d =>
    let (s, a) := p.permits.request t (p.permitsFor d)
    ({ p with permits := s }, answered d a)
  | none, .tryAll =>
    let (s, a) := p.permits.tryRequest (p.permitsFor .all)
    ({ p with permits := s }, tried .all a)
  | some (.inLine d), .claim =>
    let (s, a) := p.permits.claim t
    ({ p with permits := s }, answered d a)
  | some (.inLine _), .giveUp => (p.withdraw t, none)
  | some (.granted d), .take =>
    let (p, l) := p.handOut d
    (p, handed l)
  | some (.lent loan), .putBack => (p.putBack loan, some (.returned loan.demand))
  | some (.returned d), .freeUp => (p.freeUp d, none)
  | use, _ => (p, use)

/-- The permits for which a user is in line. -/
def wanted (p : ObjectPool α) : PoolUse α → Option Nat
  | inLine d => some (p.permitsFor d)
  | granted _ | lent _ | returned _ => none

/-- The permits that a user has. -/
def permits (p : ObjectPool α) : PoolUse α → Nat
  | inLine _ => 0
  | granted d | returned d => p.permitsFor d
  | lent loan => p.permitsFor loan.demand

/-- The objects that a user has. -/
def items : PoolUse α → List α
  | lent loan => loan.items
  | inLine _ | granted _ | returned _ => []

section Congr

variable {p p' : ObjectPool α} (h : p'.capacity = p.capacity)
include h

theorem permitsFor_congr : p'.permitsFor = p.permitsFor := by
  funext d
  cases d <;> simp [ObjectPool.permitsFor, h]

theorem wanted_congr : wanted p' = wanted p := by
  funext use
  cases use <;> simp [wanted, permitsFor_congr h]

theorem permits_congr : permits p' = permits p := by
  funext use
  cases use <;> simp [permits, permitsFor_congr h]

end Congr

/-! ## The account of a step -/

/-- Objects and permits move between the pool and the user of a ticket, who may go into line or leave it. -/
structure Moves (p : ObjectPool α) (t : Nat) (old new : Option (PoolUse α)) (p' : ObjectPool α) :
    Prop where
  capacity : p'.capacity = p.capacity
  orderly : p'.permits.Orderly
  wants : ∀ u, p'.permits.wants.get? u =
    if t = u then new.bind (wanted p) else p.permits.wants.get? u
  permits : p'.permits.total + new.elim 0 (permits p) = p.permits.total + old.elim 0 (permits p)
  objects : (p'.items ++ new.elim [] items).Perm (p.items ++ old.elim [] items)
  lent : ∀ loan, new = some (.lent loan) → loan.items.length = p.permitsFor loan.demand

/-- What a step needs to be on account: the user is in line as the semaphore says, has as many objects on
loan as permits, and finds as many at home; and if all are wanted there are no more. -/
structure Ready (p : ObjectPool α) (t : Nat) (old : Option (PoolUse α)) : Prop where
  orderly : p.permits.Orderly
  wants : p.permits.wants.get? t = old.bind (wanted p)
  lent : ∀ loan, old = some (.lent loan) → loan.items.length = p.permitsFor loan.demand
  enough : ∀ d, old = some (.granted d) → p.permitsFor d ≤ p.items.length
  all : old = some (.granted .all) → p.items.length ≤ p.permitsFor .all

variable {p : ObjectPool α} {t : Nat} {old : Option (PoolUse α)} {d : Demand}

/-- Whoever has permits gets as many objects, from the end of the list. -/
theorem handOut_spec (henough : p.permitsFor d ≤ p.items.length)
    (hall : d = .all → p.items.length ≤ p.permitsFor .all) :
    ∃ rest loan, p.handOut d = ({ p with items := rest }, .lent loan) ∧ loan.demand = d ∧
      loan.items.length = p.permitsFor d ∧ rest ++ loan.items = p.items := by
  cases d with
  | one =>
    have hne : p.items ≠ [] := List.length_pos_iff.mp henough
    refine ⟨p.items.dropLast, ⟨.one, [p.items.getLast hne]⟩, ?_, rfl, rfl,
      List.dropLast_append_getLast hne⟩
    simp only [ObjectPool.handOut, List.getLast?_eq_getLast_of_ne_nil hne]
  | all => exact ⟨[], ⟨.all, p.items⟩, rfl, rfl, Nat.le_antisymm (hall rfl) henough, rfl⟩

/-- A step that changes nothing. -/
theorem Ready.moves_self (h : Ready p t old) : Moves p t old old p where
  capacity := rfl
  orderly := h.orderly
  wants := (h.orderly.becomes_self h.wants).wants
  permits := rfl
  objects := List.Perm.refl _
  lent := h.lent

/-- A step that moves permits only, of a user who has no objects before or after. -/
theorem moves_permits {new : Option (PoolUse α)} {s : Semaphore} {left back : Nat}
    (hs : p.permits.Becomes t (new.bind (wanted p)) left back s)
    (hpermits : new.elim 0 (permits p) + back = old.elim 0 (permits p) + left)
    (hold : old.elim [] items = []) (hnew : new.elim [] items = [])
    (hlent : ∀ loan, new ≠ some (.lent loan)) : Moves p t old new { p with permits := s } where
  capacity := rfl
  orderly := hs.orderly
  wants := hs.wants
  permits := by
    have htotal := hs.total
    show s.total + _ = _
    omega
  objects := by rw [hold, hnew]
  lent loan he := absurd he (hlent loan)

/-- The answer to a demand moves the permits that it wanted, or none. -/
theorem moves_answered {s : Semaphore} {a : Demanded}
    (hs : p.permits.Becomes t (a.inLine (p.permitsFor d)) (a.permits (p.permitsFor d)) 0 s)
    (hold : old.elim 0 (permits p) = 0) (hobjects : old.elim [] items = []) :
    Moves p t old (answered d a) { p with permits := s } := by
  cases a with
  | granted | waiting | refused =>
    exact moves_permits hs (by rw [hold, Nat.zero_add]; rfl) hobjects rfl nofun

theorem next_moves (h : Ready p t old) (a : PoolAct) :
    Moves p t old (next p t old a).2 (next p t old a).1 := by
  cases old with
  | none =>
    cases a with
    | ask d => exact moves_answered (h.orderly.request h.wants _) rfl rfl
    | tryAll =>
      have hs := h.orderly.tryRequest h.wants (p.permitsFor .all)
      unfold next
      cases ha : (p.permits.tryRequest (p.permitsFor .all)).2 with
      | granted | waiting | refused =>
        rw [ha] at hs
        simp only [ha]
        exact moves_permits hs (Nat.zero_add _).symm rfl rfl nofun
    | claim | giveUp | take | putBack | freeUp => exact h.moves_self
  | some use =>
    cases use with
    | inLine d =>
      cases a with
      | claim => exact moves_answered (h.orderly.claim h.wants) rfl rfl
      | giveUp => exact moves_permits (h.orderly.withdraw t) rfl rfl rfl nofun
      | ask | tryAll | take | putBack | freeUp => exact h.moves_self
    | granted d =>
      cases a with
      | take =>
        obtain ⟨rest, loan, hout, rfl, hlength, hitems⟩ :=
          handOut_spec (h.enough d rfl) fun e => h.all (e ▸ rfl)
        simp only [next, hout, handed]
        exact {
          capacity := rfl
          orderly := h.orderly
          wants := (h.orderly.becomes_self h.wants).wants
          permits := rfl
          objects := by
            rw [Option.elim, Option.elim, items, items, hitems, List.append_nil]
          lent := by
            rintro _ ⟨⟩
            exact hlength }
      | ask | tryAll | claim | giveUp | putBack | freeUp => exact h.moves_self
    | lent loan =>
      cases a with
      | putBack =>
        exact {
          capacity := rfl
          orderly := h.orderly
          wants := (h.orderly.becomes_self h.wants).wants
          permits := rfl
          objects := by
            show (p.items ++ loan.items ++ []).Perm _
            rw [List.append_nil]
            rfl
          lent := nofun }
      | ask | tryAll | claim | giveUp | take | freeUp => exact h.moves_self
    | returned d =>
      cases a with
      | freeUp => exact moves_permits (h.orderly.release h.wants _) (Nat.zero_add _) rfl rfl nofun
      | ask | tryAll | claim | giveUp | take | putBack => exact h.moves_self

end PoolUse

end ServiceFlow
