import ServiceFlow.Name.Set

/-!
# Finite maps on names

A `NameMap` lists its entries in the order of their names, each name at most once.

Results:
* `NameMap.get?_set`, `NameMap.get?_erase`: what the operations do to a look-up.
-/

namespace ServiceFlow

/-- A finite map from names, kept as its entries in ascending order of names. -/
structure NameMap (α : Type) where
  entries : List (Name × α)
  ascending : (entries.map (·.1)).Pairwise fun a b => compare a b = .lt

namespace NameMap

variable {α : Type}

theorem ascending_nil :
    (([] : List (Name × α)).map (·.1)).Pairwise fun a b => compare a b = .lt := .nil

/-- The map without entries. -/
def empty : NameMap α := ⟨[], ascending_nil⟩

instance : EmptyCollection (NameMap α) := ⟨empty⟩
instance : Inhabited (NameMap α) := ⟨empty⟩

/-- The value of a name in a list of entries. -/
def find? (n : Name) : List (Name × α) → Option α
  | [] => none
  | (m, a) :: r => if m = n then some a else find? n r

/-- The value of a name. -/
def get? (t : NameMap α) (n : Name) : Option α := find? n t.entries

/-- The name has a value. -/
def has (t : NameMap α) (n : Name) : Bool := (t.get? n).isSome

/-- Puts an entry into an ascending list, in place of the one of its name. -/
def setAscending (n : Name) (a : α) : List (Name × α) → List (Name × α)
  | [] => [(n, a)]
  | (m, b) :: r =>
    match compare n m with
    | .lt => (n, a) :: (m, b) :: r
    | .eq => (n, a) :: r
    | .gt => (m, b) :: setAscending n a r

theorem keys_setAscending (n : Name) (a : α) (l : List (Name × α)) :
    (setAscending n a l).map (·.1) = NameSet.insertAscending n (l.map (·.1)) := by
  induction l with
  | nil => rfl
  | cons e r ih =>
    obtain ⟨m, b⟩ := e
    simp only [setAscending, List.map_cons, NameSet.insertAscending]
    cases h : compare n m with
    | lt => rfl
    | eq => simp [Std.compare_eq_iff_eq.1 h]
    | gt => simp [ih]

/-- Gives a name its value. -/
def set (t : NameMap α) (n : Name) (a : α) : NameMap α :=
  ⟨setAscending n a t.entries, by
    rw [keys_setAscending]; exact NameSet.insertAscending_ascending t.ascending⟩

/-- Takes a name out. -/
def erase (t : NameMap α) (n : Name) : NameMap α :=
  ⟨t.entries.filter fun e => e.1 ≠ n, t.ascending.sublist (List.filter_sublist.map _)⟩

/-- Changes the value of a name that has one. -/
def modify (t : NameMap α) (n : Name) (f : α → α) : NameMap α :=
  match t.get? n with
  | some a => t.set n (f a)
  | none => t

/-- The names that have a value, in order. -/
def names (t : NameMap α) : List Name := t.entries.map (·.1)

/-- The values in the order of their names. -/
def values (t : NameMap α) : List α := t.entries.map (·.2)

/-- The number of entries. -/
def size (t : NameMap α) : Nat := t.entries.length

theorem find?_setAscending (n q : Name) (a : α) (l : List (Name × α)) :
    find? q (setAscending n a l) = if n = q then some a else find? q l := by
  induction l with
  | nil => simp [setAscending, find?]
  | cons e r ih =>
    obtain ⟨m, b⟩ := e
    rw [setAscending]
    split
    · simp [find?]
    · next h =>
      obtain rfl := Std.compare_eq_iff_eq.1 h
      by_cases hq : n = q <;> simp [find?, hq]
    · next h =>
      have hne : n ≠ m := by
        rintro rfl
        rw [Std.compare_eq_iff_eq.2 rfl] at h
        cases h
      by_cases hq : m = q
      · subst hq; simp [find?, hne]
      · simp [find?, hq, ih]

theorem get?_set (t : NameMap α) (n q : Name) (a : α) :
    (t.set n a).get? q = if n = q then some a else t.get? q :=
  find?_setAscending n q a t.entries

theorem get?_erase (t : NameMap α) (n q : Name) :
    (t.erase n).get? q = if n = q then none else t.get? q := by
  obtain ⟨l, hl⟩ := t
  change find? q (l.filter fun e => e.1 ≠ n) = if n = q then none else find? q l
  clear hl
  induction l with
  | nil => simp [find?]
  | cons e r ih =>
    obtain ⟨m, b⟩ := e
    by_cases h : m = n
    · subst h
      by_cases hq : m = q
      · subst hq; simpa [find?] using ih
      · simpa [find?, hq] using ih
    · by_cases hq : m = q
      · subst hq
        have h' : ¬ n = m := fun e => h e.symm
        simp [find?, h, h']
      · simpa [find?, h, hq] using ih

end NameMap

end ServiceFlow
