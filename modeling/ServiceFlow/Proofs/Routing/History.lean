import Mathlib.Data.List.Induction
import ServiceFlow.Proofs.Routing.Groups

/-!
# What a store answers, by what has come before

A store keeps the inputs of its open groups. Here its answers are said of the history alone, that is
of all inputs in the order in which they came. Each statement waits for the same senders throughout,
and no other sender delivers to it.

* `sinceCompletion`: what has come for a key after its group was last completed.
* `Reflects`: the store holds for a key what its history says; `Reflects.take`: it goes on to do so.
* `Reflects.duplicate_iff`, `Reflects.complete_iff`, `Reflects.handed_out`: so its answers follow.
* `answer_of_history`: when a group is completed, what it hands out, and that it starts afresh.
-/

namespace ServiceFlow.BarrierStore

variable {P : Type} {expected : Nat → NameSet}

/-! ## Histories -/

/-- An input from one of the senders that its statement waits for. -/
structure Input (P : Type) (expected : Nat → NameSet) where
  now : Nat
  key : GroupKey
  sender : Name
  payload : P
  isExpected : sender ∈ expected key.statement

namespace Input

/-- The sender with its payload. -/
def entry (i : Input P expected) : Name × P := (i.sender, i.payload)

/-- The senders that the statement of the input waits for. -/
def awaited (i : Input P expected) : NameSet := expected i.key.statement

end Input

/-- The store after an input. -/
def take (b : BarrierStore P) (i : Input P expected) : BarrierStore P :=
  (b.arrive i.now i.key i.sender i.payload i.awaited).1

/-- What the store answers to an input. -/
def answer (b : BarrierStore P) (i : Input P expected) : Arrival P :=
  (b.arrive i.now i.key i.sender i.payload i.awaited).2

/-- The store after inputs in turn. -/
def takeAll (b : BarrierStore P) (is : List (Input P expected)) : BarrierStore P :=
  is.foldl take b

/-- A store that was bound to a text with no group open, after inputs in turn. -/
def stored (ttl : Option Nat) (text : Option String) (is : List (Input P expected)) :
    BarrierStore P :=
  takeAll ⟨ttl, text, []⟩ is

/-- What has come for a key. -/
def entriesOf (key : GroupKey) (is : List (Input P expected)) : List (Name × P) :=
  (is.filter (·.key = key)).map Input.entry

/-- The different senders of what has come. -/
def senders (es : List (Name × P)) : NameSet := .ofList (es.map (·.1))

/-- What has come after the last time that all senders of `awaited` had delivered. -/
def sinceCompletion (awaited : NameSet) (es : List (Name × P)) : List (Name × P) :=
  es.foldl (fun known e => if senders (known ++ [e]) = awaited then [] else known ++ [e]) []

/-- What has come for a key since its group was last completed. -/
def known (key : GroupKey) (is : List (Input P expected)) : List (Name × P) :=
  sinceCompletion (expected key.statement) (entriesOf key is)

section Histories

theorem stored_concat {ttl : Option Nat} {text : Option String} {is : List (Input P expected)}
    {i : Input P expected} : stored ttl text (is ++ [i]) = (stored ttl text is).take i :=
  List.foldl_concat take _ i is

variable {awaited : NameSet} {es : List (Name × P)} {e : Name × P} {n : Name} {p : P}
  {key : GroupKey} {is : List (Input P expected)} {i : Input P expected}

theorem mem_senders : n ∈ senders es ↔ n ∈ es.map (·.1) := NameSet.mem_ofList

theorem mem_senders_concat : n ∈ senders (es ++ [e]) ↔ n ∈ senders es ∨ n = e.1 := by
  rw [mem_senders, mem_senders, List.map_append, List.mem_append, List.map_singleton,
    List.mem_singleton]

theorem senders_concat (h : e.1 ∈ senders es) : senders (es ++ [e]) = senders es := by
  refine NameSet.ext fun n => ?_
  rw [mem_senders_concat]
  exact or_iff_left_of_imp fun he => he ▸ h

theorem find?_isSome : (NameMap.find? n es).isSome = true ↔ n ∈ senders es := by
  rw [mem_senders]
  induction es with
  | nil => simp [NameMap.find?]
  | cons e es ih =>
    obtain ⟨m, p⟩ := e
    unfold NameMap.find?
    by_cases h : m = n
    · simp [h]
    · have h' : ¬ n = m := fun e => h e.symm
      simp [h, h', ih]

/-- A sender counts with what it delivered first. -/
theorem find?_concat :
    NameMap.find? n (es ++ [e]) =
      (NameMap.find? n es).or (if e.1 = n then some e.2 else none) := by
  induction es with
  | nil => rfl
  | cons e' es ih =>
    obtain ⟨m, p⟩ := e'
    rw [List.cons_append]
    unfold NameMap.find?
    split
    · rfl
    · exact ih

/-- What a sender delivers again does not count. -/
theorem find?_concat_of_mem (h : e.1 ∈ senders es) :
    NameMap.find? n (es ++ [e]) = NameMap.find? n es := by
  rw [find?_concat]
  by_cases he : e.1 = n
  · obtain ⟨p, hp⟩ := Option.isSome_iff_exists.mp (find?_isSome.mpr (he ▸ h))
    rw [hp, Option.some_or]
  · rw [if_neg he, Option.or_none]

theorem sinceCompletion_concat :
    sinceCompletion awaited (es ++ [e]) =
      if senders (sinceCompletion awaited es ++ [e]) = awaited then []
      else sinceCompletion awaited es ++ [e] := by
  unfold sinceCompletion
  rw [List.foldl_append]
  rfl

/-- After a completion everything starts afresh. -/
theorem sinceCompletion_append {es' : List (Name × P)} (h : sinceCompletion awaited es = []) :
    sinceCompletion awaited (es ++ es') = sinceCompletion awaited es' := by
  unfold sinceCompletion at h ⊢
  rw [List.foldl_append, h]

/-- What has come since the last completion is never complete. -/
theorem senders_sinceCompletion_ne (h : n ∈ awaited) :
    senders (sinceCompletion awaited es) ≠ awaited := by
  have hnil : senders ([] : List (Name × P)) ≠ awaited := by
    rintro rfl
    exact NameSet.not_mem_empty n h
  rcases List.eq_nil_or_concat' es with rfl | ⟨es, e, rfl⟩
  · exact hnil
  · rw [sinceCompletion_concat]
    split
    · exact hnil
    · assumption

theorem known_append {is' : List (Input P expected)} (h : known key is = []) :
    known key (is ++ is') = known key is' := by
  unfold known entriesOf
  rw [List.filter_append, List.map_append]
  exact sinceCompletion_append h

/-- Only the inputs of the key count. -/
theorem known_filter : known key (is.filter (·.key = key)) = known key is := by
  unfold known entriesOf
  rw [List.filter_filter]
  simp only [Bool.and_self]

theorem known_concat_of_ne (h : i.key ≠ key) : known key (is ++ [i]) = known key is := by
  unfold known entriesOf
  rw [List.filter_append, List.filter_singleton, decide_eq_false h]
  simp

theorem known_concat :
    known i.key (is ++ [i]) =
      if senders (known i.key is ++ [i.entry]) = i.awaited then [] else known i.key is ++ [i.entry] := by
  unfold known entriesOf
  rw [List.filter_append, List.filter_singleton, decide_eq_true rfl, List.map_append]
  exact sinceCompletion_concat

theorem senders_known_ne : senders (known i.key is) ≠ i.awaited :=
  senders_sinceCompletion_ne i.isExpected

end Histories

/-! ## The store and its history -/

/-- The store holds for a key the first payload of each sender in `es`, and nothing else. -/
structure Reflects (b : BarrierStore P) (key : GroupKey) (es : List (Name × P)) : Prop where
  held : ∀ n, (b.held key).get? n = NameMap.find? n es
  closed_iff : b.groups.get? key = none ↔ es = []

section Store

variable {b b' : BarrierStore P} {es : List (Name × P)} {key : GroupKey} {n : Name} {p : P}
  {i : Input P expected} {is : List (Input P expected)}

theorem Reflects.has_iff (h : b.Reflects key es) :
    (b.held key).has n = true ↔ n ∈ senders es := by
  rw [NameMap.has, h.held, find?_isSome]

theorem Reflects.congr (h : b.Reflects key es) (hg : b'.groups.get? key = b.groups.get? key) :
    b'.Reflects key es :=
  ⟨fun n => by rw [held_congr hg, h.held], by rw [hg, h.closed_iff]⟩

/-- The input is the last one that its group waits for exactly if with it all senders have
delivered. -/
theorem Reflects.completes (h : b.Reflects i.key es) :
    b.Completes i.key i.sender i.awaited ↔ senders (es ++ [i.entry]) = i.awaited := by
  have mem (n : Name) : n ∈ senders (es ++ [i.entry]) ↔
      i.sender = n ∨ (b.held i.key).has n = true := by
    rw [mem_senders_concat, h.has_iff, or_comm, eq_comm]
    rfl
  constructor
  · exact fun hc => NameSet.ext fun n => (mem n).trans (hc n)
  · rintro he n
    rw [← mem, he]

/-- What the group holds with a first input of a sender. -/
theorem Reflects.get?_set (h : b.Reflects i.key es) (hnew : i.sender ∉ senders es) :
    ((b.held i.key).set i.sender i.payload).get? n = NameMap.find? n (es ++ [i.entry]) := by
  rw [NameMap.get?_set, find?_concat, h.held]
  by_cases he : i.sender = n
  · have hnone : NameMap.find? n es = none := by
      rw [← Option.not_isSome_iff_eq_none, find?_isSome, ← he]
      exact hnew
    rw [if_pos he, hnone, Option.none_or]
    exact (if_pos he).symm
  · rw [if_neg he]
    exact ((congrArg _ (if_neg he)).trans (Option.or_none)).symm

theorem Reflects.free (h : b.Reflects i.key es) (hnew : i.sender ∉ senders es) :
    (b.held i.key).has i.sender = false := by
  rw [Bool.eq_false_iff]
  exact fun hh => hnew (h.has_iff.mp hh)

/-- **The store goes on to hold what its history says.** -/
theorem Reflects.take (h : b.Reflects i.key es) (hes : senders es ≠ i.awaited) :
    (b.take i).Reflects i.key
      (if senders (es ++ [i.entry]) = i.awaited then [] else es ++ [i.entry]) := by
  unfold BarrierStore.take
  by_cases hold : i.sender ∈ senders es
  · -- a second input of a sender changes nothing, and is not the first that counts
    have hsame : senders (es ++ [i.entry]) = senders es := senders_concat hold
    rw [arrive_held (h.has_iff.mpr hold), hsame, if_neg hes]
    refine ⟨fun n => (h.held n).trans (find?_concat_of_mem hold).symm, ?_⟩
    · rw [h.closed_iff]
      have hne : es ≠ [] := by
        rintro rfl
        exact NameSet.not_mem_empty _ hold
      simp [hne]
  · have hfree := h.free hold
    by_cases hc : b.Completes i.key i.sender i.awaited
    · rw [arrive_completes hfree hc, if_pos (h.completes.mp hc)]
      have hnone : (b.groups.erase i.key).get? i.key = none := by
        rw [Table.get?_erase, if_pos rfl]
      refine ⟨fun n => ?_, iff_of_true hnone rfl⟩
      rw [held_of_get?_eq_none hnone]
      rfl
    · rw [arrive_pending hfree hc, if_neg (mt h.completes.mpr hc)]
      have hsome : (b.groups.set i.key (b.grown i.now i.key i.sender i.payload)).get? i.key =
          some (b.grown i.now i.key i.sender i.payload) := by
        rw [Table.get?_set, if_pos rfl]
      refine ⟨fun n => ?_, by simp [hsome]⟩
      rw [held_of_get?_eq_some hsome]
      exact h.get?_set hold

/-- A store without groups at first holds for each key what has come since its last completion. -/
theorem reflects_known (ttl : Option Nat) (text : Option String) (key : GroupKey)
    (is : List (Input P expected)) :
    (stored ttl text is).Reflects key (known key is) := by
  induction is using List.reverseRecOn with
  | nil => exact ⟨fun n => rfl, iff_of_true rfl rfl⟩
  | append_singleton is i ih =>
    rw [stored_concat]
    by_cases hk : i.key = key
    · subst hk
      rw [known_concat]
      exact ih.take senders_known_ne
    · rw [known_concat_of_ne hk]
      exact ih.congr (get?_arrive_of_ne (Ne.symm hk))

/-! ## Answers -/

theorem Reflects.answer_duplicate (h : b.Reflects i.key es) (hold : i.sender ∈ senders es) :
    b.answer i = .duplicate := by
  unfold answer
  rw [arrive_held (h.has_iff.mpr hold)]

theorem Reflects.answer_complete (h : b.Reflects i.key es) (hnew : i.sender ∉ senders es)
    (hall : senders (es ++ [i.entry]) = i.awaited) :
    ∃ inputs, b.answer i = .complete inputs ∧ inputs.map (·.1) = i.awaited.toList ∧
      ∀ n p, (n, p) ∈ inputs ↔ NameMap.find? n (es ++ [i.entry]) = some p := by
  have hc := h.completes.mpr hall
  refine ⟨((b.held i.key).set i.sender i.payload).entries, ?_, completes_iff.mpr hc, fun n p => ?_⟩
  · unfold answer
    rw [arrive_completes (h.free hnew) hc]
  · rw [NameMap.mem_entries, h.get?_set hnew]

theorem Reflects.answer_pending (h : b.Reflects i.key es) (hnew : i.sender ∉ senders es)
    (hall : senders (es ++ [i.entry]) ≠ i.awaited) :
    b.answer i = .pending (senders (es ++ [i.entry])).size i.awaited.size := by
  have hnames : ((b.held i.key).set i.sender i.payload).names =
      (senders (es ++ [i.entry])).toList := by
    rw [NameMap.names_eq_toList]
    intro n
    rw [NameMap.has, h.get?_set hnew, find?_isSome]
  have hsize : ((b.held i.key).set i.sender i.payload).size = (senders (es ++ [i.entry])).size := by
    unfold NameSet.size
    rw [← hnames]
    exact (List.length_map _).symm
  unfold answer
  rw [arrive_pending (h.free hnew) (mt h.completes.mp hall), hsize]

/-- Stores in which the same has come for the key give the same answer. -/
theorem Reflects.answer_eq (h : b.Reflects i.key es) (h' : b'.Reflects i.key es) :
    b.answer i = b'.answer i :=
  arrive_answer_congr (NameMap.ext_get? fun n => (h.held n).trans (h'.held n).symm)

/-- The input completes the group exactly if with it all senders have delivered. -/
theorem Reflects.complete_iff (h : b.Reflects i.key es) (hes : senders es ≠ i.awaited) :
    (∃ inputs, b.answer i = .complete inputs) ↔ senders (es ++ [i.entry]) = i.awaited := by
  constructor
  · rintro ⟨inputs, ha⟩
    by_contra hall
    by_cases hold : i.sender ∈ senders es
    · rw [h.answer_duplicate hold] at ha
      cases ha
    · rw [h.answer_pending hold hall] at ha
      cases ha
  · intro hall
    -- a sender that has delivered before adds nothing, so it does not complete the group
    have hnew : i.sender ∉ senders es := fun hold => hes ((senders_concat hold).symm.trans hall)
    obtain ⟨inputs, ha, -⟩ := h.answer_complete hnew hall
    exact ⟨inputs, ha⟩

/-- The input is refused exactly if its sender has delivered before. -/
theorem Reflects.duplicate_iff (h : b.Reflects i.key es) :
    b.answer i = .duplicate ↔ i.sender ∈ senders es := by
  refine ⟨fun ha => ?_, h.answer_duplicate⟩
  by_contra hnew
  by_cases hall : senders (es ++ [i.entry]) = i.awaited
  · obtain ⟨inputs, ha', -⟩ := h.answer_complete hnew hall
    rw [ha] at ha'
    cases ha'
  · rw [h.answer_pending hnew hall] at ha
    cases ha

/-- A completed group hands out the first payload of each of its senders. -/
theorem Reflects.handed_out (h : b.Reflects i.key es) (hes : senders es ≠ i.awaited)
    {inputs : List (Name × P)} (ha : b.answer i = .complete inputs) :
    inputs.map (·.1) = i.awaited.toList ∧
      ∀ n p, (n, p) ∈ inputs ↔ NameMap.find? n (es ++ [i.entry]) = some p := by
  have hall := (h.complete_iff hes).mp ⟨inputs, ha⟩
  have hnew : i.sender ∉ senders es := fun hold => hes ((senders_concat hold).symm.trans hall)
  obtain ⟨inputs', ha', hinputs⟩ := h.answer_complete hnew hall
  rw [ha] at ha'
  cases ha'
  exact hinputs

end Store

/-- **The store is a function of its history.** Inputs come in any order, for any keys.

An input is refused exactly if its sender has delivered to its key since the last completion there.
It completes the group exactly if all senders of the statement have delivered with it; then each of
them is handed out once, with the payload that it delivered first. Otherwise the answer says how many
senders have delivered, and of how many. The inputs of other keys make no difference. A completed
group is gone, and later inputs for its key are answered as if nothing had ever come. -/
theorem answer_of_history (ttl : Option Nat) (text : Option String)
    (before : List (Input P expected)) (i : Input P expected) :
    ((stored ttl text before).answer i = .duplicate ↔
      i.sender ∈ senders (known i.key before)) ∧
    ((∃ inputs, (stored ttl text before).answer i = .complete inputs) ↔
      senders (known i.key before ++ [i.entry]) = i.awaited) ∧
    (∀ inputs, (stored ttl text before).answer i = .complete inputs →
      inputs.map (·.1) = i.awaited.toList ∧
      ∀ n p, (n, p) ∈ inputs ↔ NameMap.find? n (known i.key before ++ [i.entry]) = some p) ∧
    (i.sender ∉ senders (known i.key before) →
      senders (known i.key before ++ [i.entry]) ≠ i.awaited →
      (stored ttl text before).answer i =
        .pending (senders (known i.key before ++ [i.entry])).size i.awaited.size) ∧
    (stored ttl text before).answer i =
      (stored ttl text (before.filter (·.key = i.key))).answer i ∧
    ((∃ inputs, (stored ttl text before).answer i = .complete inputs) →
      (stored ttl text (before ++ [i])).groups.get? i.key = none ∧
      ∀ (later : List (Input P expected)) (j : Input P expected), j.key = i.key →
        (stored ttl text (before ++ [i] ++ later)).answer j = (stored ttl text later).answer j) := by
  have h : (stored ttl text before).Reflects i.key (known i.key before) :=
    reflects_known ttl text i.key before
  have hne : senders (known i.key before) ≠ i.awaited := senders_known_ne
  refine ⟨h.duplicate_iff, h.complete_iff hne, fun inputs => h.handed_out hne, h.answer_pending,
    ?_, fun hc => ?_⟩
  · have hfilter := reflects_known ttl text i.key (before.filter (·.key = i.key))
    rw [known_filter] at hfilter
    exact h.answer_eq hfilter
  · have hnil : known i.key (before ++ [i]) = [] := by
      rw [known_concat, if_pos ((h.complete_iff hne).mp hc)]
    refine ⟨(reflects_known ttl text i.key (before ++ [i])).closed_iff.mpr hnil,
      fun later j hj => ?_⟩
    rw [← hj] at hnil
    have hall := reflects_known ttl text j.key (before ++ [i] ++ later)
    rw [known_append hnil] at hall
    exact hall.answer_eq (reflects_known ttl text j.key later)

end ServiceFlow.BarrierStore
