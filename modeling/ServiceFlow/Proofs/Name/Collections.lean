import Mathlib.Data.List.Nodup
import ServiceFlow.Name.Map

/-!
# Look-ups in sets and maps of names

Sets and maps of names are kept as ascending lists; what follows is said through their members and
look-ups alone.

* `NameMap.mem_entries`: the entries of a map are its look-ups.
* `NameMap.names_eq_toList`: the names of a map are the members of a set.
* `NameMap.ext_get?`: maps with the same look-ups are equal.
-/

namespace ServiceFlow

namespace NameSet

theorem isEmpty_iff {s : NameSet} : s.isEmpty = true ↔ ∀ n, n ∉ s := by
  rw [isEmpty, List.isEmpty_iff, List.eq_nil_iff_forall_not_mem]
  rfl

theorem nodup (s : NameSet) : s.toList.Nodup := by
  refine s.ascending.imp fun h => ?_
  rintro rfl
  rw [Std.compare_eq_iff_eq.2 rfl] at h
  cases h

end NameSet

namespace NameMap

variable {α : Type} {t : NameMap α} {n q : Name} {a b : α}

theorem compare_self (n : Name) : compare n n ≠ .lt := by
  rw [Std.compare_eq_iff_eq.2 rfl]
  simp

theorem mem_of_find?_eq_some {l : List (Name × α)} (h : find? n l = some a) : (n, a) ∈ l := by
  induction l with
  | nil => cases h
  | cons e r ih =>
    obtain ⟨m, b⟩ := e
    unfold find? at h
    split at h
    · rename_i hm
      cases h
      exact hm ▸ List.mem_cons_self
    · exact List.mem_cons_of_mem _ (ih h)

theorem find?_of_mem {l : List (Name × α)}
    (hl : (l.map (·.1)).Pairwise fun a b => compare a b = .lt) (h : (n, a) ∈ l) :
    find? n l = some a := by
  induction l with
  | nil => cases h
  | cons e r ih =>
    obtain ⟨m, b⟩ := e
    rw [List.map_cons, List.pairwise_cons] at hl
    unfold find?
    rcases List.mem_cons.mp h with he | h
    · cases he
      rw [if_pos rfl]
    · rw [if_neg, ih hl.2 h]
      rintro rfl
      exact compare_self m (hl.1 m (List.mem_map_of_mem (f := Prod.fst) h))

theorem nodup_names (t : NameMap α) : t.names.Nodup := by
  refine t.ascending.imp fun h => ?_
  rintro rfl
  exact compare_self _ h

theorem mem_entries : (n, a) ∈ t.entries ↔ t.get? n = some a :=
  ⟨find?_of_mem t.ascending, mem_of_find?_eq_some⟩

theorem mem_names : n ∈ t.names ↔ t.has n = true := by
  unfold names has
  rw [Option.isSome_iff_exists, List.mem_map]
  constructor
  · rintro ⟨⟨m, a⟩, hm, rfl⟩
    exact ⟨a, mem_entries.mp hm⟩
  · rintro ⟨a, ha⟩
    exact ⟨(n, a), mem_entries.mpr ha, rfl⟩

/-- The names of a map are those of a set exactly if they have the same members. -/
theorem names_eq_toList {s : NameSet} : t.names = s.toList ↔ ∀ n, t.has n = true ↔ n ∈ s := by
  constructor
  · intro h n
    rw [← mem_names, h]
    rfl
  · intro h
    exact NameSet.ascending_ext t.ascending s.ascending fun n => by rw [mem_names, h n]; rfl

@[simp]
theorem get?_empty (n : Name) : (∅ : NameMap α).get? n = none := rfl

@[simp]
theorem has_empty (n : Name) : (∅ : NameMap α).has n = false := rfl

theorem has_set : (t.set n a).has q = true ↔ n = q ∨ t.has q = true := by
  unfold has
  rw [get?_set]
  by_cases h : n = q <;> simp [h]

theorem has_eq_true : t.has n = true ↔ ∃ a, t.get? n = some a := Option.isSome_iff_exists

/-- A map is determined by its look-ups. -/
theorem ext_get? {t' : NameMap α} (h : ∀ n, t.get? n = t'.get? n) : t = t' := by
  have hmem (e : Name × α) : e ∈ t.entries ↔ e ∈ t'.entries := by
    obtain ⟨n, a⟩ := e
    rw [mem_entries, mem_entries, h]
  have hperm : t.entries.Perm t'.entries :=
    (List.perm_ext_iff_of_nodup (.of_map _ t.nodup_names) (.of_map _ t'.nodup_names)).mpr hmem
  have hasymm (e e' : Name × α) (hlt : compare e.1 e'.1 = .lt) (hgt : compare e'.1 e.1 = .lt) :
      e = e' := absurd (Std.TransCmp.lt_trans hlt hgt) (compare_self e.1)
  have hentries : t.entries = t'.entries :=
    hperm.eq_of_pairwise (fun e e' _ _ => hasymm e e') (List.pairwise_map.mp t.ascending)
      (List.pairwise_map.mp t'.ascending)
  obtain ⟨l, _⟩ := t
  obtain ⟨l', _⟩ := t'
  obtain rfl : l = l' := hentries
  rfl

/-- To give a name the value that it has changes nothing. -/
theorem set_of_get? (h : t.get? n = some a) : t.set n a = t := by
  refine ext_get? fun q => ?_
  rw [get?_set]
  split
  · next hq => rw [← hq, h]
  · rfl

theorem mem_values : a ∈ t.values ↔ ∃ n, t.get? n = some a := by
  unfold values
  rw [List.mem_map]
  constructor
  · rintro ⟨⟨n, b⟩, hm, rfl⟩
    exact ⟨n, mem_entries.mp hm⟩
  · rintro ⟨n, hn⟩
    exact ⟨(n, a), mem_entries.mpr hn, rfl⟩

end NameMap

end ServiceFlow
