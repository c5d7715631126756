/-!
# Finite maps by key

A `Table` is an association list in the order in which its keys were first put in. A key is there at
most once as long as entries are put in by `Table.set` alone.

Results:
* `Table.get?_set`, `Table.get?_erase`, `Table.get?_modify`: what the operations do to a look-up, and
  `Table.get?_filter` what a choice of keys does to it.
* `Table.nodup_keys_set`, `Table.nodup_keys_erase`: a key stays there at most once.
* `Table.get?_of_mem`, `Table.mem_of_get?_eq_some`: then the entries of a table are its look-ups.
* `Table.get?_eq_none_iff`: what is not a key has no value.
* `Table.perm_of_get?`, `Table.erase_assign`: a key with its value apart from the other entries.
* `Table.get?_map`, `Table.set_map`, `Table.erase_map`: values can be changed before or after.
-/

namespace ServiceFlow

/-- An association list. -/
abbrev Table (κ ν : Type) := List (κ × ν)

namespace Table

variable {κ ν : Type} [DecidableEq κ]

/-- The value of a key. -/
def get? (t : Table κ ν) (k : κ) : Option ν :=
  match t with
  | [] => none
  | (k', v) :: r => if k' = k then some v else get? r k

/-- The key has a value. -/
def has (t : Table κ ν) (k : κ) : Bool := (t.get? k).isSome

/-- Gives a key its value: in place of its old one, or at the end. -/
def set (t : Table κ ν) (k : κ) (v : ν) : Table κ ν :=
  match t with
  | [] => [(k, v)]
  | (k', v') :: r => if k' = k then (k, v) :: r else (k', v') :: set r k v

/-- Takes a key out. -/
def erase (t : Table κ ν) (k : κ) : Table κ ν := t.filter fun e => e.1 ≠ k

/-- Changes the value of a key that has one. -/
def modify (t : Table κ ν) (k : κ) (f : ν → ν) : Table κ ν :=
  match t.get? k with
  | some v => t.set k (f v)
  | none => t

/-- Gives a key a value, or takes it out. -/
def assign (t : Table κ ν) (k : κ) : Option ν → Table κ ν
  | some v => t.set k v
  | none => t.erase k

/-- The keys in order. -/
def keys (t : Table κ ν) : List κ := t.map (·.1)

theorem get?_set (t : Table κ ν) (k q : κ) (v : ν) :
    (t.set k v).get? q = if k = q then some v else t.get? q := by
  induction t with
  | nil => simp [set, get?]
  | cons e r ih =>
    obtain ⟨k', v'⟩ := e
    by_cases h : k' = k
    · subst h
      by_cases hq : k' = q <;> simp [set, get?, hq]
    · by_cases hq : k' = q
      · subst hq
        have h' : ¬ k = k' := fun e => h e.symm
        simp [set, get?, h, h']
      · simp [set, get?, h, hq, ih]

theorem get?_erase (t : Table κ ν) (k q : κ) :
    (t.erase k).get? q = if k = q then none else t.get? q := by
  induction t with
  | nil => simp [erase, get?]
  | cons e r ih =>
    obtain ⟨k', v'⟩ := e
    have ih' : get? (List.filter (fun e => decide (e.1 ≠ k)) r) q
        = if k = q then none else get? r q := ih
    by_cases h : k' = k
    · subst h
      by_cases hq : k' = q
      · subst hq; simpa [erase, get?] using ih'
      · simpa [erase, get?, hq] using ih'
    · by_cases hq : k' = q
      · subst hq
        have h' : ¬ k = k' := fun e => h e.symm
        simp [erase, get?, h, h']
      · simpa [erase, get?, h, hq] using ih'

theorem get?_filter (t : Table κ ν) (p : κ → Bool) (k : κ) :
    get? (t.filter fun e => p e.1) k = if p k then t.get? k else none := by
  induction t with
  | nil => simp [get?]
  | cons e r ih =>
    obtain ⟨k', v'⟩ := e
    rw [List.filter_cons]
    by_cases hk : k' = k
    · subst hk
      by_cases hp : p k' = true
      · simp [hp, get?]
      · simp only [hp] at ih ⊢
        simpa using ih
    · by_cases hp : p k' = true
      · rw [if_pos hp, get?, if_neg hk, ih, get?, if_neg hk]
      · rw [if_neg hp, ih, get?, if_neg hk]

theorem get?_modify (t : Table κ ν) (k q : κ) (f : ν → ν) :
    (t.modify k f).get? q = if k = q then (t.get? q).map f else t.get? q := by
  unfold modify
  by_cases h : k = q
  · subst h
    cases hv : t.get? k with
    | none => simp [hv]
    | some v => simp [get?_set]
  · cases hv : t.get? k with
    | none => simp [h]
    | some v => simp [get?_set, h]

theorem get?_append (t r : Table κ ν) (k : κ) : get? (t ++ r) k = (t.get? k).or (get? r k) := by
  induction t with
  | nil => rfl
  | cons e t ih =>
    rw [List.cons_append, get?, get?, ih]
    split <;> rfl

/-! ## Entries -/

section Entries

variable {t : Table κ ν} {k : κ} {v : ν} {e : κ × ν}

theorem mem_of_get?_eq_some (h : t.get? k = some v) : (k, v) ∈ t := by
  induction t with
  | nil => cases h
  | cons e r ih =>
    obtain ⟨k', v'⟩ := e
    unfold get? at h
    split at h
    · rename_i hk
      cases h
      exact hk ▸ List.mem_cons_self
    · exact List.mem_cons_of_mem _ (ih h)

theorem mem_set (h : e ∈ t.set k v) : e = (k, v) ∨ e ∈ t := by
  induction t with
  | nil => exact Or.inl (List.mem_singleton.mp h)
  | cons e' r ih =>
    obtain ⟨k', v'⟩ := e'
    unfold set at h
    split at h
    · rcases List.mem_cons.mp h with h | h
      · exact Or.inl h
      · exact Or.inr (List.mem_cons_of_mem _ h)
    · rcases List.mem_cons.mp h with h | h
      · exact Or.inr (h ▸ List.mem_cons_self)
      · exact (ih h).imp_right (List.mem_cons_of_mem _)

theorem get?_of_mem (h : t.keys.Nodup) (hm : (k, v) ∈ t) : t.get? k = some v := by
  induction t with
  | nil => cases hm
  | cons e r ih =>
    obtain ⟨k', v'⟩ := e
    obtain ⟨hnew, hrest⟩ := List.nodup_cons.mp h
    rw [get?]
    rcases List.mem_cons.mp hm with he | hm
    · cases he
      exact if_pos rfl
    · rw [if_neg, ih hrest hm]
      rintro rfl
      exact hnew (List.mem_map.mpr ⟨_, hm, rfl⟩)

theorem get?_eq_none_iff : t.get? k = none ↔ k ∉ t.keys := by
  induction t with
  | nil => exact iff_of_true rfl List.not_mem_nil
  | cons e r ih =>
    obtain ⟨k', v'⟩ := e
    rw [get?, keys, List.map_cons, List.mem_cons, not_or]
    split
    · rename_i he
      exact iff_of_false nofun fun hn => hn.1 he.symm
    · rename_i hne
      exact ih.trans (and_iff_right (Ne.symm hne)).symm

theorem nodup_keys_set (h : t.keys.Nodup) : (t.set k v).keys.Nodup := by
  induction t with
  | nil => simp [set, keys]
  | cons e r ih =>
    obtain ⟨k', v'⟩ := e
    obtain ⟨hnew, hrest⟩ := List.nodup_cons.mp h
    by_cases hk : k' = k
    · subst hk
      rw [set, if_pos rfl]
      exact List.nodup_cons.mpr ⟨hnew, hrest⟩
    · rw [set, if_neg hk]
      refine List.nodup_cons.mpr ⟨fun hm => ?_, ih hrest⟩
      obtain ⟨e, he, rfl⟩ := List.mem_map.mp hm
      rcases mem_set he with rfl | he
      · exact hk rfl
      · exact hnew (List.mem_map.mpr ⟨e, he, rfl⟩)

theorem nodup_keys_erase (h : t.keys.Nodup) : (t.erase k).keys.Nodup :=
  h.sublist (List.filter_sublist.map _)

theorem erase_of_get?_eq_none (h : t.get? k = none) : t.erase k = t := by
  induction t with
  | nil => rfl
  | cons e r ih =>
    obtain ⟨k', v'⟩ := e
    unfold get? at h
    split at h
    · cases h
    · rename_i hk
      rw [erase, List.filter_cons_of_pos (by simpa using hk)]
      exact congrArg _ (ih h)

/-- A key with a value, and the other keys. -/
theorem perm_of_get? (h : t.keys.Nodup) (hk : t.get? k = some v) : t.Perm ((k, v) :: t.erase k) := by
  induction t with
  | nil => cases hk
  | cons e r ih =>
    obtain ⟨k', v'⟩ := e
    obtain ⟨hnew, hrest⟩ := List.nodup_cons.mp h
    unfold get? at hk
    split at hk
    · rename_i he
      subst he
      obtain rfl := Option.some.inj hk
      have hnone : get? r k' = none := by
        cases hr : get? r k' with
        | none => rfl
        | some w => exact absurd (List.mem_map.mpr ⟨_, mem_of_get?_eq_some hr, rfl⟩) hnew
      have herase : erase ((k', v') :: r) k' = r := by
        rw [erase, List.filter_cons_of_neg (by simp)]
        exact erase_of_get?_eq_none hnone
      rw [herase]
    · rename_i he
      rw [erase, List.filter_cons_of_pos (by simpa using he)]
      exact ((ih hrest hk).cons _).trans (List.Perm.swap _ _ _)

theorem erase_set : (t.set k v).erase k = t.erase k := by
  induction t with
  | nil => simp [set, erase]
  | cons e r ih =>
    obtain ⟨k', v'⟩ := e
    unfold set
    by_cases hk : k' = k
    · simp [hk, erase]
    · rw [if_neg hk, erase, List.filter_cons_of_pos (by simpa using hk), erase,
        List.filter_cons_of_pos (by simpa using hk)]
      exact congrArg _ ih

theorem get?_assign (t : Table κ ν) (k q : κ) (o : Option ν) :
    (t.assign k o).get? q = if k = q then o else t.get? q := by
  cases o with
  | some v => exact get?_set t k q v
  | none => exact get?_erase t k q

theorem nodup_keys_assign (h : t.keys.Nodup) (o : Option ν) : (t.assign k o).keys.Nodup := by
  cases o with
  | some v => exact nodup_keys_set h
  | none => exact nodup_keys_erase h

theorem erase_assign (o : Option ν) : (t.assign k o).erase k = t.erase k := by
  cases o with
  | some v => exact erase_set
  | none => simp [assign, erase]

end Entries

/-! ## Changed values -/

variable {μ : Type} (f : ν → μ)

theorem get?_map (t : Table κ ν) (k : κ) :
    get? (t.map fun e => (e.1, f e.2)) k = (t.get? k).map f := by
  induction t with
  | nil => rfl
  | cons e r ih =>
    rw [List.map_cons, get?, get?, ih]
    split <;> rfl

theorem set_map (t : Table κ ν) (k : κ) (v : ν) :
    set (t.map fun e => (e.1, f e.2)) k (f v) = (t.set k v).map fun e => (e.1, f e.2) := by
  induction t with
  | nil => rfl
  | cons e r ih =>
    rw [List.map_cons, set, set, ih]
    split <;> rfl

theorem erase_map (t : Table κ ν) (k : κ) :
    erase (t.map fun e => (e.1, f e.2)) k = (t.erase k).map fun e => (e.1, f e.2) := by
  unfold erase
  rw [List.filter_map]
  rfl

end Table

end ServiceFlow
