import Mathlib.Algebra.BigOperators.Group.Multiset.Basic
import Mathlib.Algebra.Order.BigOperators.Group.Multiset
import Mathlib.Algebra.Order.Group.Nat
import Mathlib.Data.List.Chain
import Mathlib.Data.List.Nodup
import Mathlib.Logic.Relation

/-!
# Items that are replaced by their successors

A bag of items, each with a list of successors. One item after another is taken out, whichever, and
its successors are put in. This is what messages do that are passed on; here it is said of any items.

* `Spread`: a run, with the items that it takes out.
* `spread_line`: items of which each is the only successor of the one before are taken out in turn.
* `Cyclic`: from an item one can come to another that is among its own later successors.
* `Spread.cyclic`: then the bag never gets empty.
* `takings`, `Spread.weight`, `exists_length`: otherwise, if there are finitely many items, every run
  comes to the empty bag, and all after the same number of items.
-/

namespace ServiceFlow.Relay

open Relation

variable {α : Type} (next : α → List α)

/-- A run of the bag, with the items taken out in turn. -/
inductive Spread : Multiset α → List α → Multiset α → Prop
  | done (m : Multiset α) : Spread m [] m
  | take {a : α} {as : List α} {m rest m' : Multiset α} (hm : m = a ::ₘ rest)
      (h : Spread (rest + next a) as m') : Spread m (a :: as) m'

/-- The second item is a successor of the first. -/
def Follows (a b : α) : Prop := b ∈ next a

/-- From `start` one can come to an item that is among its own later successors. -/
def Cyclic (follows : α → α → Prop) (start : α) : Prop :=
  ∃ a, ReflTransGen follows start a ∧ TransGen follows a a

variable {next} {a start : α} {as : List α} {m m' : Multiset α}

/-! ## Lines -/

/-- Items of which each is the only successor of the one before are taken out in turn, and there is
nothing else to take. -/
theorem spread_line {l : List α} (h : ∀ (i : ℕ) a, l[i]? = some a → next a = l[i + 1]?.toList) :
    Spread next l.head?.toList l 0 ∧
      ∀ as m', Spread next l.head?.toList as m' → as <+: l ∧ (m' = 0 ↔ as = l) := by
  induction l with
  | nil =>
    refine ⟨.done _, fun as m' hs => ?_⟩
    cases hs with
    | done => exact ⟨List.prefix_rfl, iff_of_true rfl rfl⟩
    | take hm _ => exact absurd hm.symm Multiset.cons_ne_zero
  | cons b l ih =>
    obtain ⟨hrun, hall⟩ := ih fun i => h (i + 1)
    have hb : next b = l.head?.toList := (h 0 b rfl).trans (by rw [List.head?_eq_getElem?]; rfl)
    have hstart : ((b :: l).head?.toList : Multiset α) = {b} := rfl
    constructor
    · refine .take hstart ?_
      rw [hb, Multiset.zero_add]
      exact hrun
    · intro as m' hs
      cases hs with
      | done =>
        rw [hstart]
        exact ⟨List.nil_prefix,
          iff_of_false (Multiset.singleton_ne_zero b) (List.cons_ne_nil b l).symm⟩
      | take hm hs =>
        obtain ⟨rfl, rfl⟩ := (Multiset.singleton_eq_cons_iff _).mp (hstart.symm.trans hm)
        rw [hb, Multiset.zero_add] at hs
        obtain ⟨hpre, hend⟩ := hall _ _ hs
        refine ⟨(List.prefix_cons_inj b).mpr hpre, hend.trans ?_⟩
        rw [List.cons.injEq, and_iff_right rfl]

/-! ## Cycles never end -/

/-- A way into a cycle goes on. -/
theorem Cyclic.exists_next (h : Cyclic (Follows next) a) :
    ∃ b ∈ next a, Cyclic (Follows next) b := by
  obtain ⟨c, hac, hcc⟩ := h
  rcases hac.cases_head with rfl | ⟨b, hab, hbc⟩
  · obtain ⟨b, hab, hba⟩ := TransGen.head'_iff.mp hcc
    exact ⟨b, hab, a, hba, hcc⟩
  · exact ⟨b, hab, c, hbc, hcc⟩

/-- **With a way into a cycle the bag never gets empty**: one is left after every item. -/
theorem Spread.cyclic (h : Spread next m as m') (hm : ∃ a ∈ m, Cyclic (Follows next) a) :
    ∃ a ∈ m', Cyclic (Follows next) a := by
  induction h with
  | done m => exact hm
  | take he _ ih =>
    obtain ⟨a, ha, hc⟩ := hm
    rw [he] at ha
    refine ih ?_
    rcases Multiset.mem_cons.mp ha with rfl | ha
    · obtain ⟨b, hb, hcb⟩ := hc.exists_next
      exact ⟨b, Multiset.mem_add.mpr (Or.inr hb), hcb⟩
    · exact ⟨a, Multiset.mem_add.mpr (Or.inl ha), hc⟩

/-- So there are runs of any length. -/
theorem exists_spread (hm : ∃ a ∈ m, Cyclic (Follows next) a) (n : ℕ) :
    ∃ as m', as.length = n ∧ Spread next m as m' := by
  induction n generalizing m with
  | zero => exact ⟨[], m, rfl, .done m⟩
  | succ n ih =>
    obtain ⟨a, ha, hc⟩ := hm
    obtain ⟨rest, he⟩ := Multiset.exists_cons_of_mem ha
    obtain ⟨b, hb, hcb⟩ := hc.exists_next
    obtain ⟨as, m', hl, h⟩ := ih (m := rest + next a) ⟨b, Multiset.mem_add.mpr (Or.inr hb), hcb⟩
    exact ⟨a :: as, m', congrArg (· + 1) hl, .take he h⟩

/-! ## Without cycles the number of items is known -/

/-- If the weight of an item is one more than that of its successors together, each item taken out
lowers the weight of the bag by one. -/
theorem Spread.weight {w : α → ℕ} {I : α → Prop}
    (hw : ∀ a, I a → w a = 1 + ((next a : Multiset α).map w).sum)
    (hI : ∀ a, I a → ∀ b ∈ next a, I b) (h : Spread next m as m') (hm : ∀ a ∈ m, I a) :
    as.length + (m'.map w).sum = (m.map w).sum ∧ ∀ a ∈ m', I a := by
  induction h with
  | done m => exact ⟨Nat.zero_add _, hm⟩
  | @take a as m rest m' he _ ih =>
    subst he
    have ha : I a := hm a (Multiset.mem_cons_self a rest)
    obtain ⟨hsum, hm'⟩ := ih fun b hb => by
      rcases Multiset.mem_add.mp hb with hb | hb
      · exact hm b (Multiset.mem_cons_of_mem hb)
      · exact hI a ha b hb
    refine ⟨?_, hm'⟩
    rw [Multiset.map_add, Multiset.sum_add] at hsum
    rw [Multiset.map_cons, Multiset.sum_cons, hw a ha, List.length_cons]
    omega

variable (next) in
/-- The number of items that one item brings about within `n` generations, itself included. -/
def takings : ℕ → α → ℕ
  | 0, _ => 0
  | n + 1, a => 1 + ((next a : Multiset α).map (takings n)).sum

/-- Once no line of descent is longer, more generations bring nothing more. -/
theorem takings_succ {n : ℕ} (h : ∀ l, List.IsChain (Follows next) (a :: l) → l.length < n) :
    takings next (n + 1) a = takings next n a := by
  induction n generalizing a with
  | zero => exact absurd (h [] (.singleton a)) (Nat.lt_irrefl 0)
  | succ n ih =>
    have hnext : ∀ b ∈ next a, takings next (n + 1) b = takings next n b := fun b hb =>
      ih fun l hl => Nat.lt_of_succ_lt_succ (h (b :: l) (.cons_cons hb hl))
    rw [takings, takings, Multiset.map_congr rfl hnext]

/-- Without cycles no item comes twice in a line of descent, which is therefore short. -/
theorem length_lt_of_isChain {items l : List α} (hc : ¬ Cyclic (Follows next) start)
    (hitems : ∀ b, ReflTransGen (Follows next) start b → b ∈ items)
    (ha : ReflTransGen (Follows next) start a) (hl : List.IsChain (Follows next) (a :: l)) :
    l.length < items.length := by
  have hlater : (a :: l).Pairwise (TransGen (Follows next)) :=
    List.isChain_iff_pairwise.mp (hl.imp fun _ _ h => .single h)
  have hreached : ∀ b ∈ a :: l, ReflTransGen (Follows next) start b := by
    intro b hb
    rcases List.mem_cons.mp hb with rfl | hb
    · exact ha
    · exact ha.trans ((List.pairwise_cons.mp hlater).1 b hb).to_reflTransGen
  have hnodup : (a :: l).Nodup := by
    refine List.Pairwise.imp_of_mem (fun hb _ h he => ?_) hlater
    subst he
    exact hc ⟨_, hreached _ hb, h⟩
  have hsub : (a :: l) ⊆ items := fun b hb => hitems b (hreached b hb)
  exact (hnodup.subperm hsub).length_le

/-- **Without cycles every run comes to the empty bag**, after a number of items that does not depend
on their order. -/
theorem exists_length {items : List α} (hc : ¬ Cyclic (Follows next) start)
    (hitems : ∀ b, ReflTransGen (Follows next) start b → b ∈ items) :
    ∃ n, ∀ as m', Spread next {start} as m' → as.length ≤ n ∧ (m' = 0 ↔ as.length = n) := by
  have hw : ∀ a, ReflTransGen (Follows next) start a → takings next items.length a =
      1 + ((next a : Multiset α).map (takings next items.length)).sum := fun a ha =>
    (takings_succ fun l hl => length_lt_of_isChain hc hitems ha hl).symm
  refine ⟨takings next items.length start, fun as m' h => ?_⟩
  obtain ⟨hsum, hm'⟩ := h.weight hw (fun a ha b hb => ha.tail hb) fun a ha =>
    Multiset.mem_singleton.mp ha ▸ .refl
  rw [Multiset.map_singleton, Multiset.sum_singleton] at hsum
  refine ⟨by omega, fun he => by rw [he, Multiset.map_zero, Multiset.sum_zero] at hsum; omega,
    fun hl => Multiset.eq_zero_of_forall_notMem fun a ha => ?_⟩
  -- any item that is left has a weight, so the weight cannot be used up
  have hle : takings next items.length a ≤ (m'.map (takings next items.length)).sum :=
    Multiset.single_le_sum (fun _ _ => Nat.zero_le _) _ (Multiset.mem_map_of_mem _ ha)
  rw [hw a (hm' a ha)] at hle
  omega

end ServiceFlow.Relay
