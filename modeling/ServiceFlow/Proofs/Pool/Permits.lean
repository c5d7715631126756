import Mathlib.Algebra.BigOperators.Group.List.Basic
import Mathlib.Algebra.Order.Ring.Nat
import Mathlib.Data.List.Nodup
import ServiceFlow.Pool.Semaphore
import ServiceFlow.Table

/-!
# Permits are counted exactly

The permits of a semaphore are free, or held in advance by someone in line. No operation makes or loses one:
permits leave when a demand is granted, as many as it wanted, and come back when they are released.

* `Semaphore.total` counts the permits, `Semaphore.wants` says who is in line for how many.
* `Semaphore.Orderly`: nobody is in line twice or has more than was wanted.
* `Semaphore.Becomes`: what an operation makes of the count and of the line. There is one statement of it for
  each operation, `Semaphore.Orderly.request` and so on, and all of them leave the line orderly.
-/

namespace ServiceFlow

namespace Demanded

/-- The permits for which a demand is in line after the answer. -/
def inLine (n : Nat) : Demanded → Option Nat
  | .waiting => some n
  | .granted | .refused => none

/-- The permits that a demand has been granted by the answer. -/
def permits (n : Nat) : Demanded → Nat
  | .granted => n
  | .waiting | .refused => 0

end Demanded

namespace Semaphore

/-! ## The line -/

/-- The permits at the semaphore: the free ones, and those held in advance. -/
def total (s : Semaphore) : Nat := s.free + (s.line.map Waiter.held).sum

/-- Who is in line, by tickets, and for how many permits. -/
def wants (s : Semaphore) : Table Nat Nat := s.line.map fun w => (w.ticket, w.wanted)

/-- Nobody is in line twice, and nobody has more than was wanted. -/
structure Orderly (s : Semaphore) : Prop where
  nodup : s.wants.keys.Nodup
  within : ∀ w ∈ s.line, w.held ≤ w.wanted

variable {s : Semaphore} {t n : Nat} {w : Waiter}

theorem free_le_total (s : Semaphore) : s.free ≤ s.total := Nat.le_add_right _ _

theorem get?_wants (s : Semaphore) (t : Nat) :
    s.wants.get? t = (s.waiter? t).map Waiter.wanted := by
  unfold wants waiter?
  induction s.line with
  | nil => rfl
  | cons w line ih =>
    rw [List.map_cons, Table.get?, List.find?_cons, ih]
    by_cases h : w.ticket = t
    · simp [h]
    · rw [beq_eq_false_iff_ne.mpr h, if_neg h]

theorem wants_without (s : Semaphore) (t : Nat) : (s.without t).wants = s.wants.erase t := by
  unfold wants without Table.erase
  rw [List.filter_map]
  rfl

theorem Orderly.without (h : s.Orderly) (t : Nat) : (s.without t).Orderly where
  nodup := by
    rw [wants_without]
    exact Table.nodup_keys_erase h.nodup
  within w hw := h.within w (List.mem_of_mem_filter hw)

/-- Whoever leaves the line takes away what was held for them alone. -/
theorem Orderly.total_without (h : s.Orderly) (hw : s.waiter? t = some w) :
    (s.without t).total + w.held = s.total := by
  obtain ⟨free, closed, line⟩ := s
  have hnodup : (line.map Waiter.ticket).Nodup := by
    simpa [wants, Table.keys, Function.comp_def] using h.nodup
  simp only [total, Semaphore.without, waiter?] at hw ⊢
  clear h
  induction line with
  | nil => cases hw
  | cons w' line ih =>
    obtain ⟨hnew, hrest⟩ := List.nodup_cons.mp hnodup
    by_cases ht : w'.ticket = t
    · rw [List.find?_cons_of_pos (by simpa using ht)] at hw
      obtain rfl := Option.some.inj hw
      -- nobody else has this ticket
      have hothers : line.filter (fun w => w.ticket ≠ t) = line := by
        refine List.filter_eq_self.mpr fun w hw => ?_
        have hne : w.ticket ≠ t := fun e => hnew (List.mem_map.mpr ⟨w, hw, e.trans ht.symm⟩)
        simpa using hne
      rw [List.filter_cons_of_neg (by simpa using ht), hothers, List.map_cons, List.sum_cons]
      omega
    · rw [List.find?_cons_of_neg (by simpa using ht)] at hw
      have hline := ih hw hrest
      rw [List.filter_cons_of_pos (by simpa using ht), List.map_cons, List.map_cons, List.sum_cons,
        List.sum_cons]
      omega

/-! ## What comes back -/

/-- Serving the line hands out all that there is to those who are in it, and to nobody too much. -/
theorem serve_spec (n : Nat) (ws : List Waiter) :
    ((serve n ws).1.map Waiter.held).sum + (serve n ws).2 = n + (ws.map Waiter.held).sum ∧
      (serve n ws).1.map (fun w => (w.ticket, w.wanted)) = ws.map (fun w => (w.ticket, w.wanted)) ∧
      ((∀ w ∈ ws, w.held ≤ w.wanted) → ∀ w ∈ (serve n ws).1, w.held ≤ w.wanted) := by
  induction ws generalizing n with
  | nil => simp [serve]
  | cons w ws ih =>
    obtain ⟨hsum, hwants, hwithin⟩ := ih (n - min n w.missing)
    simp only [serve, List.map_cons, List.sum_cons, List.forall_mem_cons]
    refine ⟨by omega, by rw [hwants], ?_⟩
    rintro ⟨hw, hws⟩
    refine ⟨?_, hwithin hws⟩
    show w.held + min n (w.wanted - w.held) ≤ w.wanted
    omega

theorem total_release (s : Semaphore) (n : Nat) : (s.release n).total = s.total + n := by
  unfold release total
  by_cases hc : s.closed = true
  · rw [if_pos hc]
    exact Nat.add_right_comm _ _ _
  · rw [if_neg hc]
    have hsum := (serve_spec n s.line).1
    show s.free + (serve n s.line).2 + ((serve n s.line).1.map Waiter.held).sum = _
    omega

theorem wants_release (s : Semaphore) (n : Nat) : (s.release n).wants = s.wants := by
  unfold release
  split
  · rfl
  · exact (serve_spec n s.line).2.1

theorem Orderly.released (h : s.Orderly) (n : Nat) : (s.release n).Orderly where
  nodup := by
    rw [wants_release]
    exact h.nodup
  within := by
    unfold Semaphore.release
    split
    · exact h.within
    · exact (serve_spec n s.line).2.2 h.within

/-! ## Operations -/

/-- What the semaphore becomes when the holder of a ticket does something: for how many permits the ticket
is in line then, how many have left and how many have come back. The line stays orderly, and the others in
it stay. -/
structure Becomes (s : Semaphore) (ticket : Nat) (wanted : Option Nat) (left back : Nat)
    (s' : Semaphore) : Prop where
  orderly : s'.Orderly
  total : s'.total + left = s.total + back
  wants : ∀ u, s'.wants.get? u = if ticket = u then wanted else s.wants.get? u

namespace Orderly

theorem becomes_self (h : s.Orderly) {wanted : Option Nat} (ht : s.wants.get? t = wanted) :
    s.Becomes t wanted 0 0 s where
  orderly := h
  total := rfl
  wants u := by
    split
    · next hu => rw [← hu, ht]
    · rfl

theorem becomes_without (h : s.Orderly) (hw : s.waiter? t = some w) :
    s.Becomes t none w.held 0 (s.without t) where
  orderly := h.without t
  total := h.total_without hw
  wants u := by rw [wants_without, Table.get?_erase]

/-- Permits that come back stay, for those in line or free. -/
theorem release (h : s.Orderly) (ht : s.wants.get? t = none) (n : Nat) :
    s.Becomes t none 0 n (s.release n) where
  orderly := h.released n
  total := total_release s n
  wants u := by
    rw [wants_release]
    exact (h.becomes_self ht).wants u

/-- What was held in advance stays when someone leaves the line. -/
theorem withdraw (h : s.Orderly) (t : Nat) : s.Becomes t none 0 0 (s.withdraw t) := by
  unfold Semaphore.withdraw
  split
  · next hw => exact h.becomes_self (by rw [get?_wants, hw, Option.map_none])
  · next w hw =>
    have hleft := h.becomes_without hw
    refine ⟨hleft.orderly.released w.held, ?_, fun u => ?_⟩
    · rw [total_release]
      exact hleft.total
    · rw [wants_release]
      exact hleft.wants u

theorem becomes_granted (h : s.Orderly) (ht : s.wants.get? t = none) (hn : n ≤ s.free) :
    s.Becomes t none n 0 { s with free := s.free - n } where
  orderly := ⟨h.nodup, h.within⟩
  total := by
    show s.free - n + (s.line.map Waiter.held).sum + n = s.free + (s.line.map Waiter.held).sum
    omega
  wants := (h.becomes_self ht).wants

/-- Whoever goes into line holds what is free in advance. -/
theorem becomes_joined (h : s.Orderly) (ht : s.wants.get? t = none) (hn : s.free ≤ n) :
    s.Becomes t (some n) 0 0 { s with free := 0, line := s.line ++ [⟨t, n, s.free⟩] } := by
  have hwants : (⟨0, s.closed, s.line ++ [⟨t, n, s.free⟩]⟩ : Semaphore).wants =
      s.wants ++ [(t, n)] := by simp [wants]
  have hnew : t ∉ s.wants.keys := by
    intro hm
    obtain ⟨e, he, rfl⟩ := List.mem_map.mp hm
    rw [Table.get?_of_mem h.nodup he] at ht
    cases ht
  constructor
  case orderly =>
    constructor
    · rw [hwants, Table.keys, List.map_append]
      exact h.nodup.append (List.nodup_singleton t) (List.disjoint_singleton.mpr hnew)
    · intro w hw
      rcases List.mem_append.mp hw with hw | hw
      · exact h.within w hw
      · rw [List.mem_singleton.mp hw]
        exact hn
  case total => simp [total, Nat.add_comm]
  case wants =>
    intro u
    rw [hwants, Table.get?_append, Table.get?, Table.get?]
    by_cases hu : t = u
    · subst hu
      simp [ht]
    · simp [hu]

/-- A demand is granted, or refused, or goes into line for as many permits as it wants. -/
theorem request (h : s.Orderly) (ht : s.wants.get? t = none) (n : Nat) :
    s.Becomes t ((s.request t n).2.inLine n) ((s.request t n).2.permits n) 0 (s.request t n).1 := by
  unfold Semaphore.request
  by_cases hc : s.closed = true
  · rw [if_pos hc]
    exact h.becomes_self ht
  · rw [if_neg hc]
    by_cases hn : n ≤ s.free
    · rw [if_pos hn]
      exact h.becomes_granted ht hn
    · rw [if_neg hn]
      exact h.becomes_joined ht (Nat.le_of_not_le hn)

/-- A demand that does not go into line is granted or it is not. -/
theorem tryRequest (h : s.Orderly) (ht : s.wants.get? t = none) (n : Nat) :
    s.Becomes t none ((s.tryRequest n).2.permits n) 0 (s.tryRequest n).1 := by
  unfold Semaphore.tryRequest
  by_cases hc : s.closed = true
  · rw [if_pos hc]
    exact h.becomes_self ht
  · rw [if_neg hc]
    by_cases hn : n ≤ s.free
    · rw [if_pos hn]
      exact h.becomes_granted ht hn
    · rw [if_neg hn]
      exact h.becomes_self ht

/-- Someone in line for some permits is granted as many, or refused, or stays. -/
theorem claim (h : s.Orderly) (ht : s.wants.get? t = some n) :
    s.Becomes t ((s.claim t).2.inLine n) ((s.claim t).2.permits n) 0 (s.claim t).1 := by
  have hstays := h.becomes_self ht
  rw [get?_wants] at ht
  obtain ⟨w, hw, rfl⟩ := Option.map_eq_some_iff.mp ht
  unfold Semaphore.claim
  simp only [hw]
  by_cases hc : s.closed = true
  · rw [if_pos hc]
    exact h.withdraw t
  · rw [if_neg hc]
    by_cases hm : w.missing = 0
    · rw [if_pos hm]
      -- nothing is missing, so what is held is what was wanted
      have hheld : w.held = w.wanted :=
        Nat.le_antisymm (h.within w (List.mem_of_find?_eq_some hw)) (Nat.sub_eq_zero_iff_le.mp hm)
      exact hheld ▸ h.becomes_without hw
    · rw [if_neg hm]
      exact hstays

theorem close (h : s.Orderly) : s.close.Orderly := ⟨h.nodup, h.within⟩

end Orderly

end Semaphore

end ServiceFlow
