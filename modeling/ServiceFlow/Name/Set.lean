import ServiceFlow.Name.Basic

/-!
# Finite sets of names

A `NameSet` is the list of its members in the order of names, so equal sets are equal values.

Results:
* `NameSet.mem_insert`, `NameSet.mem_ofList`, `NameSet.mem_union`: what the operations hold.
* `NameSet.ext`: sets with the same members are equal.
-/

namespace ServiceFlow

/-- A finite set of names, kept as its strictly ascending list. -/
structure NameSet where
  toList : List Name
  ascending : toList.Pairwise fun a b => compare a b = .lt
deriving DecidableEq

namespace NameSet

/-- Puts a name into an ascending list unless it is there. -/
def insertAscending (n : Name) : List Name → List Name
  | [] => [n]
  | m :: ms =>
    match compare n m with
    | .lt => n :: m :: ms
    | .eq => m :: ms
    | .gt => m :: insertAscending n ms

theorem mem_insertAscending {n x : Name} {l : List Name} :
    x ∈ insertAscending n l ↔ x = n ∨ x ∈ l := by
  induction l with
  | nil => simp [insertAscending]
  | cons m ms ih =>
    rw [insertAscending]
    split
    · simp
    · next h => simp [Std.compare_eq_iff_eq.1 h]
    · simp only [List.mem_cons, ih]; grind

theorem insertAscending_ascending {n : Name} {l : List Name}
    (h : l.Pairwise fun a b => compare a b = .lt) :
    (insertAscending n l).Pairwise fun a b => compare a b = .lt := by
  induction l with
  | nil => simp [insertAscending]
  | cons m ms ih =>
    rw [insertAscending]
    obtain ⟨hm, hms⟩ := List.pairwise_cons.1 h
    split
    · next hlt =>
      refine List.pairwise_cons.2 ⟨fun x hx => ?_, h⟩
      rcases List.mem_cons.1 hx with rfl | hx
      · exact hlt
      · exact Std.TransCmp.lt_trans hlt (hm x hx)
    · exact h
    · next hgt =>
      refine List.pairwise_cons.2 ⟨fun x hx => ?_, ih hms⟩
      rcases mem_insertAscending.1 hx with rfl | hx
      · exact Std.OrientedCmp.lt_of_gt hgt
      · exact hm x hx

/-- The set without members. -/
def empty : NameSet := ⟨[], .nil⟩

instance : EmptyCollection NameSet := ⟨empty⟩
instance : Inhabited NameSet := ⟨empty⟩
instance : Membership Name NameSet := ⟨fun s n => n ∈ s.toList⟩
instance (n : Name) (s : NameSet) : Decidable (n ∈ s) := inferInstanceAs (Decidable (n ∈ s.toList))

/-- Adds a member. -/
def insert (n : Name) (s : NameSet) : NameSet :=
  ⟨insertAscending n s.toList, insertAscending_ascending s.ascending⟩

/-- Adds every name of a list. -/
def insertAll (s : NameSet) (l : List Name) : NameSet := l.foldl (fun s n => s.insert n) s

/-- The set of the names of a list. -/
def ofList (l : List Name) : NameSet := empty.insertAll l

/-- The names of either set. -/
def union (s t : NameSet) : NameSet := s.insertAll t.toList

/-- Removes a member. -/
def erase (n : Name) (s : NameSet) : NameSet :=
  ⟨s.toList.filter (· ≠ n), s.ascending.filter _⟩

/-- The number of members. -/
def size (s : NameSet) : Nat := s.toList.length

/-- No member at all. -/
def isEmpty (s : NameSet) : Bool := s.toList.isEmpty

theorem mem_def {n : Name} {s : NameSet} : n ∈ s ↔ n ∈ s.toList := Iff.rfl

@[simp]
theorem not_mem_empty (n : Name) : n ∉ (∅ : NameSet) := List.not_mem_nil

@[simp]
theorem mem_insert {n x : Name} {s : NameSet} : x ∈ s.insert n ↔ x = n ∨ x ∈ s :=
  mem_insertAscending

@[simp]
theorem mem_insertAll {x : Name} {s : NameSet} {l : List Name} :
    x ∈ s.insertAll l ↔ x ∈ s ∨ x ∈ l := by
  induction l generalizing s with
  | nil => simp [insertAll]
  | cons n l ih =>
    have h : s.insertAll (n :: l) = (s.insert n).insertAll l := rfl
    rw [h, ih, mem_insert, List.mem_cons]
    grind

@[simp]
theorem mem_ofList {x : Name} {l : List Name} : x ∈ ofList l ↔ x ∈ l := by
  have h : x ∉ empty := not_mem_empty x
  simp [ofList, h]

@[simp]
theorem mem_union {x : Name} {s t : NameSet} : x ∈ s.union t ↔ x ∈ s ∨ x ∈ t :=
  mem_insertAll

@[simp]
theorem mem_erase {n x : Name} {s : NameSet} : x ∈ s.erase n ↔ x ∈ s ∧ x ≠ n := by
  simp [mem_def, erase]

/-- A strictly ascending list is determined by its members. -/
theorem ascending_ext {l m : List Name} (hl : l.Pairwise fun a b => compare a b = .lt)
    (hm : m.Pairwise fun a b => compare a b = .lt) (h : ∀ x, x ∈ l ↔ x ∈ m) : l = m := by
  induction l generalizing m with
  | nil => cases m with
    | nil => rfl
    | cons b m => exact absurd ((h b).2 List.mem_cons_self) List.not_mem_nil
  | cons a l ih =>
    cases m with
    | nil => exact absurd ((h a).1 List.mem_cons_self) List.not_mem_nil
    | cons b m =>
      obtain ⟨hal, hl'⟩ := List.pairwise_cons.1 hl
      obtain ⟨hbm, hm'⟩ := List.pairwise_cons.1 hm
      have irrefl (c : Name) : compare c c ≠ .lt := by
        rw [Std.compare_eq_iff_eq.2 rfl]; simp
      have hab : a = b := by
        rcases List.mem_cons.1 ((h a).1 List.mem_cons_self) with e | ha
        · exact e
        · rcases List.mem_cons.1 ((h b).2 List.mem_cons_self) with e | hb
          · exact e.symm
          · exact absurd (Std.TransCmp.lt_trans (hal b hb) (hbm a ha)) (irrefl a)
      subst hab
      congr 1
      refine ih hl' hm' fun x => ⟨fun hx => ?_, fun hx => ?_⟩
      · rcases List.mem_cons.1 ((h x).1 (List.mem_cons_of_mem _ hx)) with rfl | hx'
        · exact absurd (hal x hx) (irrefl x)
        · exact hx'
      · rcases List.mem_cons.1 ((h x).2 (List.mem_cons_of_mem _ hx)) with rfl | hx'
        · exact absurd (hbm x hx) (irrefl x)
        · exact hx'

theorem ext {s t : NameSet} (h : ∀ x, x ∈ s ↔ x ∈ t) : s = t := by
  obtain ⟨l, hl⟩ := s
  obtain ⟨m, hm⟩ := t
  congr
  exact ascending_ext hl hm h

end NameSet

end ServiceFlow
