import Mathlib.Algebra.Order.BigOperators.Group.List
import Mathlib.Algebra.Order.Ring.Nat
import ServiceFlow.Proofs.Pool.Steps

/-!
# Many at one pool

Between any two steps of one user of a pool the others may do theirs: ask, leave the line, bring objects
back or close the pool. A run is any list of such steps.

* `PoolUsers.Sound.step`, `PoolUsers.Sound.run`: the sums over all users, after one step and after any.
* `PoolUsers.Accounted`, `PoolUsers.accounted`: what follows for the objects. None is lost or doubled, there
  is one at home for each free permit, whoever has permits gets as many, and whoever has all is alone.
* `PoolUsers.ask_take`, `PoolUsers.claim_take`, `PoolUsers.tryAll_take`, `PoolUsers.putBack_freeUp`: the
  operations of the pool are two steps at once.
-/

namespace ServiceFlow

/-! ## All users together -/

/-- A pool with those who use it, by their tickets. -/
structure PoolUsers (α : Type) where
  pool : ObjectPool α
  uses : Table Nat (PoolUse α)

/-- A step of the user of a ticket, or the closing of the pool. -/
inductive PoolEvent where
  | act (ticket : Nat) (a : PoolAct)
  | close

namespace PoolUsers

variable {α : Type}

/-- All objects are at home, and nobody wants any. -/
def ofList (items : List α) : PoolUsers α := ⟨.ofList items, []⟩

/-- One step. -/
def step (s : PoolUsers α) : PoolEvent → PoolUsers α
  | .act t a =>
    let r := PoolUse.next s.pool t (s.uses.get? t) a
    ⟨r.1, s.uses.assign t r.2⟩
  | .close => { s with pool := s.pool.close }

/-- Steps one after the other. -/
def run (s : PoolUsers α) (events : List PoolEvent) : PoolUsers α := events.foldl step s

/-- The permits that users have. -/
def pledged (s : PoolUsers α) : Nat := (s.uses.map fun e => e.2.permits s.pool).sum

/-- The objects that users have. -/
def onLoan (s : PoolUsers α) : List α := s.uses.flatMap fun e => e.2.items

/-! ## The sums -/

section Sums

variable {uses : Table Nat (PoolUse α)}

theorem sum_apart (h : uses.keys.Nodup) (t : Nat) (f : PoolUse α → Nat) :
    (uses.map fun e => f e.2).sum = (uses.get? t).elim 0 f + ((uses.erase t).map fun e => f e.2).sum := by
  cases ht : uses.get? t with
  | none => rw [Table.erase_of_get?_eq_none ht, Option.elim_none, Nat.zero_add]
  | some use =>
    have hperm := Table.perm_of_get? h ht
    rw [(hperm.map fun e => f e.2).sum_nat]
    rfl

theorem flatMap_apart {β : Type} (h : uses.keys.Nodup) (t : Nat) (f : PoolUse α → List β) :
    (uses.flatMap fun e => f e.2).Perm
      ((uses.get? t).elim [] f ++ (uses.erase t).flatMap fun e => f e.2) := by
  cases ht : uses.get? t with
  | none => rw [Table.erase_of_get?_eq_none ht, Option.elim_none, List.nil_append]
  | some use => exact (Table.perm_of_get? h ht).flatMap_right _

end Sums

/-- The sums over all users: the permits and the objects are those that there were at first, the semaphore
has in line those who are, and a loan has as many objects as permits. -/
structure Sound (original : List α) (s : PoolUsers α) : Prop where
  capacity : s.pool.capacity = original.length
  keys : s.uses.keys.Nodup
  orderly : s.pool.permits.Orderly
  wants : ∀ t, s.pool.permits.wants.get? t = (s.uses.get? t).bind (PoolUse.wanted s.pool)
  permits : s.pool.permits.total + s.pledged = original.length
  objects : (s.pool.items ++ s.onLoan).Perm original
  lent : ∀ t loan, s.uses.get? t = some (.lent loan) →
    loan.items.length = s.pool.permitsFor loan.demand

namespace Sound

variable {original : List α} {s : PoolUsers α}

theorem start (original : List α) : Sound original (ofList original) where
  capacity := rfl
  keys := List.nodup_nil
  orderly := ⟨List.nodup_nil, nofun⟩
  wants _ := rfl
  permits := rfl
  objects := by rw [onLoan, ofList, List.flatMap_nil, List.append_nil]; rfl
  lent _ _ h := by cases h

/-- Nobody has more objects than permits. -/
theorem items_le (h : Sound original s) {e : Nat × PoolUse α} (he : e ∈ s.uses) :
    e.2.items.length ≤ e.2.permits s.pool := by
  obtain ⟨t, use⟩ := e
  cases use with
  | lent loan => exact (h.lent t loan (Table.get?_of_mem h.keys he)).le
  | inLine d | granted d | returned d => exact Nat.zero_le _

theorem length_items_le (h : Sound original s) {uses : Table Nat (PoolUse α)}
    (huses : ∀ e ∈ uses, e ∈ s.uses) :
    (uses.flatMap fun e => e.2.items).length ≤ (uses.map fun e => e.2.permits s.pool).sum := by
  rw [List.length_flatMap]
  exact List.sum_le_sum fun e he => h.items_le (huses e he)

/-- What is not on loan to others is at home or on loan to the user: there are as many objects as the
semaphore and the user have permits. -/
theorem permits_le (h : Sound original s) (t : Nat) :
    s.pool.permits.total + (s.uses.get? t).elim 0 (PoolUse.permits s.pool) ≤
      s.pool.items.length + ((s.uses.get? t).elim [] PoolUse.items).length := by
  have hpermits := h.permits
  have hobjects := h.objects.length_eq
  have hothers := h.length_items_le fun e (he : e ∈ s.uses.erase t) => List.mem_of_mem_filter he
  rw [pledged, sum_apart h.keys t] at hpermits
  rw [List.length_append, onLoan, (flatMap_apart h.keys t PoolUse.items).length_eq,
    List.length_append] at hobjects
  omega

theorem permitsFor_all (h : Sound original s) (hn : original.length ≤ ObjectPool.maxPermits) :
    s.pool.permitsFor .all = original.length := by
  rw [ObjectPool.permitsFor, h.capacity]
  exact Nat.min_eq_left hn

theorem home_le (h : Sound original s) : s.pool.items.length ≤ original.length := by
  rw [← h.objects.length_eq, List.length_append]
  exact Nat.le_add_right _ _

theorem ready (h : Sound original s) (hn : original.length ≤ ObjectPool.maxPermits) (t : Nat) :
    PoolUse.Ready s.pool t (s.uses.get? t) where
  orderly := h.orderly
  wants := h.wants t
  lent := h.lent t
  enough d hd := by
    have hle := h.permits_le t
    rw [hd] at hle
    exact (Nat.le_add_left _ _).trans hle
  all _ := by
    rw [h.permitsFor_all hn]
    exact h.home_le

/-- When objects and permits move between the pool and one user, the sums stay. -/
theorem moved (h : Sound original s) {t : Nat} {p : ObjectPool α} {use : Option (PoolUse α)}
    (hm : PoolUse.Moves s.pool t (s.uses.get? t) use p) :
    Sound original ⟨p, s.uses.assign t use⟩ := by
  have hkeys := Table.nodup_keys_assign (k := t) h.keys use
  have hself : (s.uses.assign t use).get? t = use := (Table.get?_assign _ _ _ _).trans (if_pos rfl)
  constructor
  case capacity => exact hm.capacity.trans h.capacity
  case keys => exact hkeys
  case orderly => exact hm.orderly
  case wants =>
    intro u
    show p.permits.wants.get? u = ((s.uses.assign t use).get? u).bind (PoolUse.wanted p)
    rw [hm.wants, h.wants, Table.get?_assign, PoolUse.wanted_congr hm.capacity]
    split <;> rfl
  case permits =>
    have hbefore := h.permits
    have hmoved := hm.permits
    rw [pledged, sum_apart h.keys t] at hbefore
    show p.permits.total + ((s.uses.assign t use).map fun e => e.2.permits p).sum = _
    rw [sum_apart hkeys t, hself, Table.erase_assign, PoolUse.permits_congr hm.capacity]
    omega
  case objects =>
    have hbefore := (flatMap_apart h.keys t PoolUse.items).append_left s.pool.items
    have hafter := (flatMap_apart hkeys t PoolUse.items).append_left p.items
    rw [hself, Table.erase_assign, ← List.append_assoc] at hafter
    rw [← List.append_assoc] at hbefore
    exact hafter.trans ((hm.objects.append_right _).trans (hbefore.symm.trans h.objects))
  case lent =>
    intro u loan hu
    show loan.items.length = p.permitsFor loan.demand
    have hu : (s.uses.assign t use).get? u = some (.lent loan) := hu
    rw [Table.get?_assign] at hu
    rw [PoolUse.permitsFor_congr hm.capacity]
    split at hu
    · exact hm.lent loan hu
    · exact h.lent u loan hu

theorem step (h : Sound original s) (hn : original.length ≤ ObjectPool.maxPermits) (e : PoolEvent) :
    Sound original (s.step e) := by
  cases e with
  | close => exact ⟨h.capacity, h.keys, h.orderly.close, h.wants, h.permits, h.objects, h.lent⟩
  | act t a => exact h.moved (PoolUse.next_moves (h.ready hn t) a)

theorem run (h : Sound original s) (hn : original.length ≤ ObjectPool.maxPermits)
    (events : List PoolEvent) : Sound original (s.run events) := by
  induction events generalizing s with
  | nil => exact h
  | cons e events ih => exact ih (h.step hn e)

end Sound

/-! ## The objects -/

/-- What holds of the objects that a pool began with, at any moment. -/
structure Accounted (original : List α) (s : PoolUsers α) : Prop where
  /-- None is lost and none is doubled. -/
  conserved : (s.pool.items ++ s.onLoan).Perm original
  /-- There is an object at home for each free permit. -/
  covered : s.pool.available ≤ s.pool.items.length
  /-- The objects that are not available can be counted. -/
  counted : s.pool.available ≤ s.pool.capacity
  /-- A loan has as many objects as permits. -/
  sized : ∀ t loan, s.uses.get? t = some (.lent loan) →
    loan.items.length = s.pool.permitsFor loan.demand
  /-- Whoever has got permits gets as many objects. -/
  served : ∀ t d, s.uses.get? t = some (.granted d) →
    ∃ p loan, s.pool.handOut d = (p, .lent loan) ∧ loan.items.length = s.pool.permitsFor d
  /-- Whoever has got all has all there were, and nobody else has any. -/
  alone : ∀ t loan, s.uses.get? t = some (.lent loan) → loan.demand = .all →
    loan.items.Perm original ∧
      ∀ u other, u ≠ t → s.uses.get? u = some (.lent other) → other.items = []

namespace Sound

variable {original : List α} {s : PoolUsers α}

/-- The objects on loan to one user, and on loan to others. -/
theorem onLoan_perm (h : Sound original s) {t : Nat} {loan : Loan α}
    (ht : s.uses.get? t = some (.lent loan)) :
    s.onLoan.Perm (loan.items ++ (s.uses.erase t).flatMap fun e => e.2.items) := by
  have hperm := flatMap_apart h.keys t PoolUse.items
  rw [ht] at hperm
  exact hperm

/-- While one user has all objects, there are none anywhere else. -/
theorem elsewhere (h : Sound original s) (hn : original.length ≤ ObjectPool.maxPermits) {t : Nat}
    {loan : Loan α} (ht : s.uses.get? t = some (.lent loan)) (hall : loan.demand = .all) :
    s.pool.items = [] ∧ ((s.uses.erase t).flatMap fun e => e.2.items) = [] := by
  have hlength := h.lent t loan ht
  rw [hall, h.permitsFor_all hn] at hlength
  have hsum := (((h.onLoan_perm ht).append_left s.pool.items).symm.trans h.objects).length_eq
  rw [List.length_append, List.length_append] at hsum
  exact ⟨List.length_eq_zero_iff.mp (by omega), List.length_eq_zero_iff.mp (by omega)⟩

theorem alone (h : Sound original s) (hn : original.length ≤ ObjectPool.maxPermits) {t : Nat}
    {loan : Loan α} (ht : s.uses.get? t = some (.lent loan)) (hall : loan.demand = .all) :
    loan.items.Perm original ∧
      ∀ u other, u ≠ t → s.uses.get? u = some (.lent other) → other.items = [] := by
  obtain ⟨hhome, hothers⟩ := h.elsewhere hn ht hall
  constructor
  · have hobjects := ((h.onLoan_perm ht).append_left s.pool.items).symm.trans h.objects
    rw [hhome, hothers, List.append_nil] at hobjects
    exact hobjects
  · intro u other hu hlent
    have hmem : (u, PoolUse.lent other) ∈ s.uses.erase t :=
      List.mem_filter.mpr ⟨Table.mem_of_get?_eq_some hlent, by simpa using hu⟩
    exact List.flatMap_eq_nil_iff.mp hothers _ hmem

theorem account (h : Sound original s) (hn : original.length ≤ ObjectPool.maxPermits) :
    Accounted original s where
  conserved := h.objects
  covered := by
    have hpermits := h.permits
    have hobjects := h.objects.length_eq
    have hout := h.length_items_le fun e he => he
    have hfree := s.pool.permits.free_le_total
    rw [List.length_append] at hobjects
    show s.pool.permits.free ≤ _
    rw [pledged] at hpermits
    rw [onLoan] at hobjects
    omega
  counted := by
    have hpermits := h.permits
    have hfree := s.pool.permits.free_le_total
    rw [h.capacity]
    show s.pool.permits.free ≤ _
    omega
  sized := h.lent
  served t d ht := by
    have hready := h.ready hn t
    obtain ⟨rest, loan, hout, -, hlength, -⟩ :=
      PoolUse.handOut_spec (hready.enough d ht) fun e => hready.all (e ▸ ht)
    exact ⟨_, loan, hout, hlength⟩
  alone t loan ht hall := h.alone hn ht hall

end Sound

/-- **However the steps of all users come, the objects are accounted for.** -/
theorem accounted (original : List α) (hn : original.length ≤ ObjectPool.maxPermits)
    (events : List PoolEvent) : Accounted original ((ofList original).run events) :=
  ((Sound.start original).run hn events).account hn

/-- One user has an object while another waits for all, and brings it back in two steps. -/
def sampleSteps : List PoolEvent :=
  [.act 1 (.ask .one), .act 2 (.ask .all), .act 1 .take, .act 1 .putBack, .act 2 .claim, .act 1 .freeUp,
    .act 2 .claim, .act 2 .take, .close]

theorem sampleSteps_accounted :
    ["a", "b"].length ≤ ObjectPool.maxPermits ∧
      Accounted ["a", "b"] ((ofList ["a", "b"]).run sampleSteps) ∧
      ((ofList ["a", "b"]).run sampleSteps).onLoan = ["a", "b"] := by
  refine ⟨by decide, accounted ["a", "b"] (by decide) sampleSteps, ?_⟩
  rfl

/-! ## The operations of the pool -/

/-- What a user has come to by an operation of the pool. -/
def outcome (d : Demand) : Lending α → Option (PoolUse α)
  | .lent loan => some (.lent loan)
  | .refused _ => none
  | .waiting => some (.inLine d)

theorem next_take (p : ObjectPool α) (t : Nat) (d : Demand) (r : Semaphore × Demanded) :
    PoolUse.next { p with permits := r.1 } t (PoolUse.answered d r.2) .take =
      ((p.answer d r).1, outcome d (p.answer d r).2) := by
  obtain ⟨s, a⟩ := r
  cases a with
  | granted =>
    cases d with
    | all => rfl
    | one =>
      simp only [PoolUse.answered, PoolUse.next, ObjectPool.answer, ObjectPool.handOut]
      split <;> rfl
  | waiting | refused => rfl

/-- The users are where they were, but for one of them, and the pool is another. -/
structure Advances (s : PoolUsers α) (t : Nat) (r : ObjectPool α × Option (PoolUse α))
    (s' : PoolUsers α) : Prop where
  pool : s'.pool = r.1
  uses : ∀ u, s'.uses.get? u = if t = u then r.2 else s.uses.get? u

section Operations

variable {s : PoolUsers α} {t : Nat}

theorem advances_twice (s : PoolUsers α) (t : Nat) (a b : PoolAct) :
    let r := PoolUse.next s.pool t (s.uses.get? t) a
    s.Advances t (PoolUse.next r.1 t r.2 b) (s.run [.act t a, .act t b]) := by
  intro r
  have hself : (s.uses.assign t r.2).get? t = r.2 := (Table.get?_assign _ _ _ _).trans (if_pos rfl)
  have hrun : s.run [.act t a, .act t b] =
      let q := PoolUse.next r.1 t ((s.uses.assign t r.2).get? t) b
      ⟨q.1, (s.uses.assign t r.2).assign t q.2⟩ := rfl
  rw [hrun, hself]
  refine ⟨rfl, fun u => ?_⟩
  rw [Table.get?_assign, Table.get?_assign]
  split <;> rfl

/-- To ask is to get permits, and to take objects for them at once. -/
theorem ask_take (ht : s.uses.get? t = none) (d : Demand) :
    s.Advances t ((s.pool.ask t d).1, outcome d (s.pool.ask t d).2)
      (s.run [.act t (.ask d), .act t .take]) := by
  have h := s.advances_twice t (.ask d) .take
  rw [ht] at h
  rw [ObjectPool.ask, ← next_take]
  exact h

theorem claim_take {d : Demand} (ht : s.uses.get? t = some (.inLine d)) :
    s.Advances t ((s.pool.claim t d).1, outcome d (s.pool.claim t d).2)
      (s.run [.act t .claim, .act t .take]) := by
  have h := s.advances_twice t .claim .take
  rw [ht] at h
  rw [ObjectPool.claim, ← next_take]
  exact h

theorem tryAll_take (ht : s.uses.get? t = none) :
    s.Advances t (s.pool.tryAll.1, outcome .all s.pool.tryAll.2)
      (s.run [.act t .tryAll, .act t .take]) := by
  have h := s.advances_twice t .tryAll .take
  rw [ht] at h
  simp only [PoolUse.next] at h
  unfold ObjectPool.tryAll ObjectPool.tryLend
  generalize s.pool.permits.tryRequest (s.pool.permitsFor .all) = r at h ⊢
  obtain ⟨permits, a⟩ := r
  cases a with
  | granted | waiting | refused => exact h

/-- To end a loan is to put the objects back, and to give up their permits at once. -/
theorem putBack_freeUp {loan : Loan α} (ht : s.uses.get? t = some (.lent loan)) :
    s.Advances t (s.pool.giveBack loan, none) (s.run [.act t .putBack, .act t .freeUp]) := by
  have h := s.advances_twice t .putBack .freeUp
  rw [ht] at h
  exact h

end Operations

end PoolUsers

end ServiceFlow
