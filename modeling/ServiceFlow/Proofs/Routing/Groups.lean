import Mathlib.Data.List.Nodup
import ServiceFlow.Proofs.Name.Collections
import ServiceFlow.Routing.Router

/-!
# What a message does to the open groups

A message goes to the groups of several statements in turn. What one group does with it depends on
that group alone, so the whole is said by what the groups held before.

* `BarrierStore.Completes`: the message brings the last input that a group waits for.
* `BarrierStore.grown`: what becomes of a group that takes a message in.
* `Router.accept`: one group of a delivery takes the message in.
* `deliver_free`, `deliver_held`: the groups take the message in one after the other, up to the
  first that holds an input of its sender already.
* `get?_foldl_accept`, `get?_foldl_accept_of_ne`: which groups this changes, and how.
* `admission_eq`: an admission is such a delivery and an answer drawn from what it joined.
-/

namespace ServiceFlow

/-! ## One group -/

namespace BarrierStore

variable {P : Type} {b : BarrierStore P} {now : Nat} {key : GroupKey} {sender : Name} {payload : P}
  {expected : NameSet}

/-- The inputs that the group of a key holds; none if it is not open. -/
def held (b : BarrierStore P) (key : GroupKey) : NameMap P :=
  ((b.groups.get? key).map (·.arrivals)).getD ∅

/-- An input of `sender` is the last one that the group waits for. -/
def Completes (b : BarrierStore P) (key : GroupKey) (sender : Name) (expected : NameSet) : Prop :=
  ∀ n, sender = n ∨ (b.held key).has n = true ↔ n ∈ expected

/-- What becomes of a group that takes an input in. -/
def grown (b : BarrierStore P) (now : Nat) (key : GroupKey) (sender : Name) (payload : P) :
    Group P :=
  ⟨(b.held key).set sender payload, (b.groupAt key now).openedAt⟩

theorem held_of_get?_eq_some {g : Group P} (h : b.groups.get? key = some g) :
    b.held key = g.arrivals := by
  unfold held
  rw [h]
  rfl

theorem held_of_get?_eq_none (h : b.groups.get? key = none) : b.held key = ∅ := by
  unfold held
  rw [h]
  rfl

/-- A group that is not open is completed by its only input. -/
theorem completes_of_get?_eq_none (h : b.groups.get? key = none) :
    b.Completes key sender expected ↔ ∀ n, n ∈ expected ↔ n = sender := by
  unfold Completes
  simp only [held_of_get?_eq_none h, NameMap.has_empty, Bool.false_eq_true, or_false]
  exact forall_congr' fun n =>
    ⟨fun hn => hn.symm.trans eq_comm, fun hn => eq_comm.trans hn.symm⟩

theorem groupAt_arrivals : (b.groupAt key now).arrivals = b.held key := by
  unfold groupAt held
  cases b.groups.get? key <;> rfl

theorem completes_iff :
    ((b.held key).set sender payload).names = expected.toList ↔
      b.Completes key sender expected := by
  rw [NameMap.names_eq_toList]
  simp only [NameMap.has_set]
  rfl

theorem insert_names_eq_iff :
    (NameSet.ofList (b.held key).names).insert sender = expected ↔
      b.Completes key sender expected := by
  have mem (n : Name) : n ∈ (NameSet.ofList (b.held key).names).insert sender ↔
      sender = n ∨ (b.held key).has n = true := by
    rw [NameSet.mem_insert, NameSet.mem_ofList, NameMap.mem_names, eq_comm]
  constructor
  · rintro rfl n
    exact (mem n).symm
  · intro h
    exact NameSet.ext fun n => (mem n).trans (h n)

instance (b : BarrierStore P) (key : GroupKey) (sender : Name) (expected : NameSet) :
    Decidable (b.Completes key sender expected) :=
  decidable_of_iff _ insert_names_eq_iff

section Congr

variable {b' : BarrierStore P} (h : b.groups.get? key = b'.groups.get? key)
include h

theorem held_congr : b.held key = b'.held key := by
  unfold held
  rw [h]

theorem grown_congr : b.grown now key sender payload = b'.grown now key sender payload := by
  unfold grown groupAt
  rw [held_congr h, h]

theorem completes_congr : b.Completes key sender expected ↔ b'.Completes key sender expected := by
  unfold Completes
  rw [held_congr h]

end Congr

theorem arrive_held (h : (b.held key).has sender = true) :
    b.arrive now key sender payload expected = (b, .duplicate) := by
  unfold arrive
  simp only [groupAt_arrivals]
  rw [if_pos h]

theorem arrive_completes (h : (b.held key).has sender = false)
    (hc : b.Completes key sender expected) :
    b.arrive now key sender payload expected =
      ({ b with groups := b.groups.erase key },
        .complete ((b.held key).set sender payload).entries) := by
  unfold arrive
  simp only [groupAt_arrivals]
  rw [if_neg (by rw [h]; exact Bool.false_ne_true), if_pos (completes_iff.mpr hc)]

theorem arrive_pending (h : (b.held key).has sender = false)
    (hc : ¬ b.Completes key sender expected) :
    b.arrive now key sender payload expected =
      ({ b with groups := b.groups.set key (b.grown now key sender payload) },
        .pending ((b.held key).set sender payload).size expected.size) := by
  unfold arrive
  simp only [groupAt_arrivals]
  rw [if_neg (by rw [h]; exact Bool.false_ne_true), if_neg (mt completes_iff.mp hc)]
  rfl

/-- The answer depends on what the group of the key holds, and on nothing else. -/
theorem arrive_answer_congr {b' : BarrierStore P} {now' : Nat} (h : b.held key = b'.held key) :
    (b.arrive now key sender payload expected).2 =
      (b'.arrive now' key sender payload expected).2 := by
  have hcomp : b.Completes key sender expected ↔ b'.Completes key sender expected := by
    unfold Completes
    rw [h]
  cases hh : (b.held key).has sender with
  | true => rw [arrive_held hh, arrive_held (h ▸ hh)]
  | false =>
    by_cases hc : b.Completes key sender expected
    · rw [arrive_completes hh hc, arrive_completes (h ▸ hh) (hcomp.mp hc), h]
    · rw [arrive_pending hh hc, arrive_pending (h ▸ hh) (mt hcomp.mpr hc), h]

/-- What becomes of the group of the key depends on that group, and on nothing else. -/
theorem get?_arrive_congr {b' : BarrierStore P} (h : b.groups.get? key = b'.groups.get? key) :
    (b.arrive now key sender payload expected).1.groups.get? key =
      (b'.arrive now key sender payload expected).1.groups.get? key := by
  have hheld : b.held key = b'.held key := held_congr h
  cases hh : (b.held key).has sender with
  | true =>
    rw [arrive_held hh, arrive_held (hheld ▸ hh)]
    exact h
  | false =>
    have hh' : (b'.held key).has sender = false := hheld ▸ hh
    by_cases hc : b.Completes key sender expected
    · rw [arrive_completes hh hc, arrive_completes hh' ((completes_congr h).mp hc)]
      simp only [Table.get?_erase, if_true]
    · rw [arrive_pending hh hc, arrive_pending hh' (mt (completes_congr h).mpr hc), grown_congr h]
      simp only [Table.get?_set, if_true]

/-- An input leaves the groups of all other keys as they are. -/
theorem get?_arrive_of_ne {key' : GroupKey} (h : key' ≠ key) :
    (b.arrive now key sender payload expected).1.groups.get? key' = b.groups.get? key' := by
  cases hh : (b.held key).has sender with
  | true => rw [arrive_held hh]
  | false =>
    by_cases hc : b.Completes key sender expected
    · rw [arrive_completes hh hc, Table.get?_erase, if_neg (Ne.symm h)]
    · rw [arrive_pending hh hc, Table.get?_set, if_neg (Ne.symm h)]

/-- An input does not change what the store is bound to, nor its time to live. -/
theorem arrive_bound :
    (b.arrive now key sender payload expected).1.composition = b.composition ∧
      (b.arrive now key sender payload expected).1.ttl = b.ttl := by
  unfold arrive
  simp only
  split
  · exact ⟨rfl, rfl⟩
  · split <;> exact ⟨rfl, rfl⟩

end BarrierStore

/-! ## Inputs of several groups -/

namespace Router

variable {P : Type} {known more : List (Name × P)} {e : Name × P} {n : Name}

theorem addInputs_cons :
    addInputs known (e :: more) =
      addInputs (if known.any (·.1 == e.1) then known else known ++ [e]) more := rfl

theorem addInputs_append {more' : List (Name × P)} :
    addInputs known (more ++ more') = addInputs (addInputs known more) more' :=
  List.foldl_append

theorem any_name_iff : known.any (·.1 == e.1) = true ↔ e.1 ∈ known.map (·.1) := by
  simp only [List.any_eq_true, beq_iff_eq, List.mem_map]

theorem mem_of_mem_addInputs (h : e ∈ addInputs known more) : e ∈ known ∨ e ∈ more := by
  induction more generalizing known with
  | nil => exact Or.inl h
  | cons e' more ih =>
    rw [addInputs_cons] at h
    rcases ih h with h | h
    · split at h
      · exact Or.inl h
      · rcases List.mem_append.mp h with h | h
        · exact Or.inl h
        · exact Or.inr (List.mem_singleton.mp h ▸ List.mem_cons_self)
    · exact Or.inr (List.mem_cons_of_mem _ h)

theorem mem_names_addInputs :
    n ∈ (addInputs known more).map (·.1) ↔ n ∈ known.map (·.1) ∨ n ∈ more.map (·.1) := by
  induction more generalizing known with
  | nil => simp [addInputs]
  | cons e more ih =>
    rw [addInputs_cons, ih, List.map_cons, List.mem_cons, ← or_assoc]
    refine or_congr_left ?_
    split
    · rename_i hany
      rw [any_name_iff] at hany
      exact ⟨Or.inl, fun h => h.elim (fun h => h) fun h => h ▸ hany⟩
    · rw [List.map_append, List.mem_append, List.map_cons, List.map_nil, List.mem_singleton]

theorem nodup_addInputs (h : (known.map (·.1)).Nodup) :
    ((addInputs known more).map (·.1)).Nodup := by
  induction more generalizing known with
  | nil => exact h
  | cons e more ih =>
    rw [addInputs_cons]
    refine ih ?_
    split
    · exact h
    · rename_i hany
      rw [any_name_iff] at hany
      rw [List.map_append, List.map_cons, List.map_nil, ← List.concat_eq_append]
      exact h.concat hany

/-- Inputs of other senders are all added. -/
theorem addInputs_of_nodup (h : ((known ++ more).map (·.1)).Nodup) :
    addInputs known more = known ++ more := by
  induction more generalizing known with
  | nil => exact (List.append_nil _).symm
  | cons e more ih =>
    have hnew : ¬ known.any (·.1 == e.1) = true := by
      rw [any_name_iff]
      intro hm
      rw [List.map_append, List.nodup_append] at h
      exact h.2.2 _ hm _ List.mem_cons_self rfl
    rw [addInputs_cons, if_neg hnew, ih (by rwa [List.append_assoc]), List.append_assoc]
    rfl

theorem addInputs_entries (t : NameMap P) : addInputs [] t.entries = t.entries := by
  have hn : ((([] : List (Name × P)) ++ t.entries).map (·.1)).Nodup := t.nodup_names
  exact addInputs_of_nodup hn

/-- If each sender has one input, all of them are there. -/
theorem mem_addInputs (h : ∀ n p p', (n, p) ∈ more → (n, p') ∈ more → p = p') :
    e ∈ addInputs [] more ↔ e ∈ more := by
  constructor
  · intro he
    rcases mem_of_mem_addInputs he with he | he
    · cases he
    · exact he
  · intro he
    obtain ⟨n, p⟩ := e
    have hn : n ∈ (addInputs [] more).map (·.1) :=
      mem_names_addInputs.mpr (Or.inr (List.mem_map_of_mem (f := (·.1)) he))
    obtain ⟨⟨n', p'⟩, he', rfl⟩ := List.mem_map.mp hn
    rcases mem_of_mem_addInputs he' with hm | hm
    · cases hm
    · obtain rfl := h n' p p' he hm
      exact he'

end Router

/-! ## Several groups in turn -/

namespace Router

variable {P : Type} (owner sender : Name) (id : CommunicationId) (payload : P) (now : Nat)

/-- The group of a statement takes the message in. -/
def accept (d : Delivery P) (s : Statement) : Delivery P :=
  (deliver owner sender id payload now d [s]).1

variable {owner sender id payload now} {d : Delivery P} {s : Statement} {ss rest : List Statement}
  {key : GroupKey}

/-- What the input for each statement keeps of the store, the whole delivery keeps. -/
theorem deliver_keeps {M : BarrierStore P → Prop}
    (h : ∀ s ∈ ss, ∀ b : BarrierStore P, M b → M (b.arrive now ⟨s.id, id⟩ sender payload s.inputs).1)
    (hd : M d.barriers) : M (deliver owner sender id payload now d ss).1.barriers := by
  induction ss generalizing d with
  | nil => exact hd
  | cons s ss ih =>
    have hone := h s List.mem_cons_self d.barriers hd
    have hrest := fun s' hs' => h s' (List.mem_cons_of_mem s hs')
    unfold deliver
    rcases hb : d.barriers.arrive now ⟨s.id, id⟩ sender payload s.inputs with ⟨b, a⟩
    rw [hb] at hone
    cases a with
    | duplicate => exact hone
    | pending arrived awaited => exact ih hrest hone
    | complete inputs => exact ih hrest hone

theorem accept_completes (h : (d.barriers.held ⟨s.id, id⟩).has sender = false)
    (hc : d.barriers.Completes ⟨s.id, id⟩ sender s.inputs) :
    accept owner sender id payload now d s =
      ⟨{ d.barriers with groups := d.barriers.groups.erase ⟨s.id, id⟩ },
        d.logs ++ [.barrierCompleted owner.text id.toInt
          ((d.barriers.held ⟨s.id, id⟩).set sender payload).entries.length],
        addInputs d.inputs ((d.barriers.held ⟨s.id, id⟩).set sender payload).entries,
        d.joined ++ [s.id]⟩ := by
  unfold accept deliver
  rw [BarrierStore.arrive_completes h hc]
  rfl

theorem accept_pending (h : (d.barriers.held ⟨s.id, id⟩).has sender = false)
    (hc : ¬ d.barriers.Completes ⟨s.id, id⟩ sender s.inputs) :
    accept owner sender id payload now d s =
      { d with
        barriers := { d.barriers with
          groups := d.barriers.groups.set ⟨s.id, id⟩
            (d.barriers.grown now ⟨s.id, id⟩ sender payload) }
        logs := d.logs ++ [.barrierPending owner.text sender.text id.toInt
          ((d.barriers.held ⟨s.id, id⟩).set sender payload).size s.inputs.size] } := by
  unfold accept deliver
  rw [BarrierStore.arrive_pending h hc]
  rfl

theorem deliver_cons (h : (d.barriers.held ⟨s.id, id⟩).has sender = false) :
    deliver owner sender id payload now d (s :: ss) =
      deliver owner sender id payload now (accept owner sender id payload now d s) ss := by
  by_cases hc : d.barriers.Completes ⟨s.id, id⟩ sender s.inputs
  · rw [accept_completes h hc, deliver, BarrierStore.arrive_completes h hc]
  · rw [accept_pending h hc, deliver, BarrierStore.arrive_pending h hc]

/-- The other groups are left as they are. -/
theorem get?_accept_of_ne (h : (d.barriers.held ⟨s.id, id⟩).has sender = false)
    (hk : key ≠ ⟨s.id, id⟩) :
    (accept owner sender id payload now d s).barriers.groups.get? key =
      d.barriers.groups.get? key := by
  by_cases hc : d.barriers.Completes ⟨s.id, id⟩ sender s.inputs
  · rw [accept_completes h hc, Table.get?_erase, if_neg (Ne.symm hk)]
  · rw [accept_pending h hc, Table.get?_set, if_neg (Ne.symm hk)]

theorem get?_accept (h : (d.barriers.held ⟨s.id, id⟩).has sender = false) :
    (accept owner sender id payload now d s).barriers.groups.get? ⟨s.id, id⟩ =
      if d.barriers.Completes ⟨s.id, id⟩ sender s.inputs then none
      else some (d.barriers.grown now ⟨s.id, id⟩ sender payload) := by
  split
  · rename_i hc
    rw [accept_completes h hc, Table.get?_erase, if_pos rfl]
  · rename_i hc
    rw [accept_pending h hc, Table.get?_set, if_pos rfl]

/-- Which other groups hold an input of the sender stays the same. -/
theorem held_accept_of_ne (h : (d.barriers.held ⟨s.id, id⟩).has sender = false)
    (hk : key ≠ ⟨s.id, id⟩) :
    (accept owner sender id payload now d s).barriers.held key = d.barriers.held key :=
  BarrierStore.held_congr (get?_accept_of_ne h hk)

/-- The statements have different numbers, and no group of theirs holds an input of the sender. -/
structure Free (sender : Name) (id : CommunicationId) (b : BarrierStore P) (ss : List Statement) :
    Prop where
  nodup : (ss.map (·.id)).Nodup
  free : ∀ s ∈ ss, (b.held ⟨s.id, id⟩).has sender = false

theorem key_ne {s s' : Statement} (hn : ((s :: ss).map (·.id)).Nodup) (hs : s' ∈ ss) :
    (⟨s'.id, id⟩ : GroupKey) ≠ ⟨s.id, id⟩ := by
  intro he
  rw [List.map_cons, List.nodup_cons] at hn
  have hid : s'.id = s.id := congrArg GroupKey.statement he
  exact hn.1 (hid ▸ List.mem_map_of_mem hs)

theorem Free.head (h : Free sender id d.barriers (s :: ss)) :
    (d.barriers.held ⟨s.id, id⟩).has sender = false := h.free s List.mem_cons_self

theorem Free.tail (h : Free sender id d.barriers (s :: ss)) :
    Free sender id (accept owner sender id payload now d s).barriers ss := by
  refine ⟨(List.nodup_cons.mp h.nodup).2, fun s' hs' => ?_⟩
  rw [held_accept_of_ne h.head (key_ne h.nodup hs')]
  exact h.free s' (List.mem_cons_of_mem _ hs')

variable (owner payload now rest) in
/-- Groups that hold no input of the sender take the message in one after the other. -/
theorem deliver_free (h : Free sender id d.barriers ss) :
    deliver owner sender id payload now d (ss ++ rest) =
      deliver owner sender id payload now
        (ss.foldl (accept owner sender id payload now) d) rest := by
  induction ss generalizing d with
  | nil => rfl
  | cons s ss ih =>
    rw [List.cons_append, deliver_cons h.head, List.foldl_cons]
    exact ih h.tail

variable (owner payload now) in
/-- The delivery leaves all other groups as they are. -/
theorem get?_foldl_accept_of_ne (h : Free sender id d.barriers ss)
    (hk : ∀ s ∈ ss, key ≠ ⟨s.id, id⟩) :
    (ss.foldl (accept owner sender id payload now) d).barriers.groups.get? key =
      d.barriers.groups.get? key := by
  induction ss generalizing d with
  | nil => rfl
  | cons s ss ih =>
    rw [List.foldl_cons, ih h.tail fun s' hs' => hk s' (List.mem_cons_of_mem _ hs')]
    exact get?_accept_of_ne h.head (hk s List.mem_cons_self)

variable (owner payload now) in
/-- Each group is completed and leaves, or grows by the message. -/
theorem get?_foldl_accept (h : Free sender id d.barriers ss) (hs : s ∈ ss) :
    (ss.foldl (accept owner sender id payload now) d).barriers.groups.get? ⟨s.id, id⟩ =
      if d.barriers.Completes ⟨s.id, id⟩ sender s.inputs then none
      else some (d.barriers.grown now ⟨s.id, id⟩ sender payload) := by
  induction ss generalizing d with
  | nil => cases hs
  | cons s' ss ih =>
    rw [List.foldl_cons]
    -- either `s` comes first and the rest leaves its group alone, or the first leaves it alone
    rcases List.mem_cons.mp hs with rfl | hs
    · rw [get?_foldl_accept_of_ne _ _ _ h.tail fun s' hs' => (key_ne h.nodup hs').symm]
      exact get?_accept h.head
    · have same : (accept owner sender id payload now d s').barriers.groups.get? ⟨s.id, id⟩ =
          d.barriers.groups.get? ⟨s.id, id⟩ := get?_accept_of_ne h.head (key_ne h.nodup hs)
      rw [ih h.tail hs, BarrierStore.grown_congr same]
      simp only [BarrierStore.completes_congr same]

variable (owner payload now rest) in
/-- The first group that holds an input of the sender ends the delivery. -/
theorem deliver_held (h : Free sender id d.barriers ss) (hn : ∀ s' ∈ ss, s'.id ≠ s.id)
    (hs : (d.barriers.held ⟨s.id, id⟩).has sender = true) :
    deliver owner sender id payload now d (ss ++ s :: rest) =
      (ss.foldl (accept owner sender id payload now) d,
        some (.duplicateSender owner sender id)) := by
  have hk : ∀ s' ∈ ss, (⟨s.id, id⟩ : GroupKey) ≠ ⟨s'.id, id⟩ := fun s' hs' he =>
    hn s' hs' (congrArg GroupKey.statement he).symm
  have same := get?_foldl_accept_of_ne owner payload now h hk
  have held := (congrArg (·.has sender) (BarrierStore.held_congr same)).trans hs
  rw [deliver_free _ _ _ _ h, deliver, BarrierStore.arrive_held held]

variable (owner payload now) in
/-- One line of the log for each group. -/
theorem length_logs_foldl_accept (h : Free sender id d.barriers ss) :
    (ss.foldl (accept owner sender id payload now) d).logs.length = d.logs.length + ss.length := by
  induction ss generalizing d with
  | nil => rfl
  | cons s ss ih =>
    have one : (accept owner sender id payload now d s).logs.length = d.logs.length + 1 := by
      by_cases hc : d.barriers.Completes ⟨s.id, id⟩ sender s.inputs
      · rw [accept_completes h.head hc, List.length_append, List.length_singleton]
      · rw [accept_pending h.head hc, List.length_append, List.length_singleton]
    rw [List.foldl_cons, ih h.tail, one, List.length_cons]
    omega

variable (owner payload now) in
/-- The store stays bound to its text and keeps its time to live. -/
theorem foldl_accept_bound (h : Free sender id d.barriers ss) :
    (ss.foldl (accept owner sender id payload now) d).barriers.composition =
        d.barriers.composition ∧
      (ss.foldl (accept owner sender id payload now) d).barriers.ttl = d.barriers.ttl := by
  induction ss generalizing d with
  | nil => exact ⟨rfl, rfl⟩
  | cons s ss ih =>
    have one : (accept owner sender id payload now d s).barriers.composition =
          d.barriers.composition ∧
        (accept owner sender id payload now d s).barriers.ttl = d.barriers.ttl := by
      by_cases hc : d.barriers.Completes ⟨s.id, id⟩ sender s.inputs
      · rw [accept_completes h.head hc]
        exact ⟨rfl, rfl⟩
      · rw [accept_pending h.head hc]
        exact ⟨rfl, rfl⟩
    obtain ⟨hcomposition, httl⟩ := ih h.tail
    exact ⟨hcomposition.trans one.1, httl.trans one.2⟩

/-- The statements whose groups the message completes. -/
def completed (b : BarrierStore P) (sender : Name) (id : CommunicationId) (ss : List Statement) :
    List Statement :=
  ss.filter fun s => b.Completes ⟨s.id, id⟩ sender s.inputs

theorem completed_tail (h : Free sender id d.barriers (s :: ss)) :
    completed (accept owner sender id payload now d s).barriers sender id ss =
      completed d.barriers sender id ss := by
  refine List.filter_congr fun s' hs' => ?_
  simp only [BarrierStore.completes_congr (get?_accept_of_ne h.head (key_ne h.nodup hs'))]

/-- The message joins the groups that it completes, in turn. -/
theorem joined_foldl_accept (h : Free sender id d.barriers ss) :
    (ss.foldl (accept owner sender id payload now) d).joined =
      d.joined ++ (completed d.barriers sender id ss).map (·.id) := by
  induction ss generalizing d with
  | nil => exact (List.append_nil _).symm
  | cons s ss ih =>
    rw [List.foldl_cons, ih h.tail, completed_tail h]
    by_cases hc : d.barriers.Completes ⟨s.id, id⟩ sender s.inputs
    · rw [accept_completes h.head hc]
      simp [completed, hc]
    · rw [accept_pending h.head hc]
      simp [completed, hc]

/-- What the groups of the statements hold once the message is there, one after the other. -/
def brought (b : BarrierStore P) (sender : Name) (id : CommunicationId) (payload : P)
    (ss : List Statement) : List (Name × P) :=
  ss.flatMap fun s => ((b.held ⟨s.id, id⟩).set sender payload).entries

theorem brought_tail (h : Free sender id d.barriers (s :: ss)) :
    brought (accept owner sender id payload now d s).barriers sender id payload
        (completed d.barriers sender id ss) =
      brought d.barriers sender id payload (completed d.barriers sender id ss) := by
  refine List.flatMap_congr fun s' hs' => ?_
  rw [held_accept_of_ne h.head (key_ne h.nodup (List.mem_of_mem_filter hs'))]

/-- What is handed out are the inputs of the groups that the message completes, in turn. -/
theorem inputs_foldl_accept (h : Free sender id d.barriers ss) :
    (ss.foldl (accept owner sender id payload now) d).inputs =
      addInputs d.inputs
        (brought d.barriers sender id payload (completed d.barriers sender id ss)) := by
  induction ss generalizing d with
  | nil => rfl
  | cons s ss ih =>
    rw [List.foldl_cons, ih h.tail, completed_tail h, brought_tail h]
    by_cases hc : d.barriers.Completes ⟨s.id, id⟩ sender s.inputs
    · rw [accept_completes h.head hc]
      simp [completed, brought, hc, addInputs_append]
    · rw [accept_pending h.head hc]
      simp [completed, hc]

/-! ## Admissions -/

theorem mem_groupTargets {c : Composition} {stateOf : Name → Option String} :
    s ∈ groupTargets c stateOf sender ↔
      s ∈ c.selected stateOf ∧ s.awaitsAll = true ∧ sender ∈ s.inputs := by
  unfold groupTargets
  rw [List.mem_filter, Bool.and_eq_true, decide_eq_true_iff]

/-- The delivery of a message to the groups of the statements that wait for its sender. -/
def delivery (r : Router P) (states : StateTable) (now : Nat) (c : Composition) (sender : Name)
    (id : CommunicationId) (payload : P) : Delivery P × Option RoutingError :=
  deliver r.owner sender id payload now ⟨(r.refresh c.text now).1, [], [], []⟩
    (groupTargets c states.get? sender)

/-- What an admission answers when no group refuses the message. -/
def answer (states : StateTable) (c : Composition) (owner sender : Name) (payload : P)
    (d : Delivery P) : Except RoutingError (Admission P) :=
  if (groupTargets c states.get? sender).isEmpty then
    if !plainAccepts c sender && c.hasGroups then .error (.unexpectedSender owner sender)
    else .ok (.ready [(sender, payload)] [])
  else if !d.joined.isEmpty then .ok (.ready d.inputs d.joined)
  else if plainAccepts c sender then .ok (.ready [(sender, payload)] [])
  else .ok .pending

/-- Inputs of groups are handed out as they were joined. -/
theorem answer_ready {states : StateTable} {c : Composition} {inputs : List (Name × P)} {joined : List Nat}
    (h : answer states c owner sender payload d = .ok (.ready inputs joined)) (hj : joined ≠ []) :
    inputs = d.inputs ∧ joined = d.joined := by
  unfold answer at h
  split at h
  · split at h
    · cases h
    · cases h
      exact absurd rfl hj
  · split at h
    · cases h
      exact ⟨rfl, rfl⟩
    · split at h
      · cases h
        exact absurd rfl hj
      · cases h

/-- If no group is joined the payload of the message itself is handed out. -/
theorem answer_ready_nil {states : StateTable} {c : Composition} {inputs : List (Name × P)}
    (h : answer states c owner sender payload d = .ok (.ready inputs [])) :
    inputs = [(sender, payload)] := by
  unfold answer at h
  split at h
  · split at h
    · cases h
    · cases h
      rfl
  · split at h
    · rename_i hj
      injection h with h
      injection h with _ hjoined
      rw [hjoined] at hj
      exact absurd hj Bool.false_ne_true
    · split at h
      · cases h
        rfl
      · cases h

/-- **An admission is a delivery and its answer.** -/
theorem admission_eq (r : Router P) (states : StateTable) (now : Nat) (c : Composition)
    (sender : Name) (id : CommunicationId) (payload : P) :
    r.admission states now c sender id payload =
      ({ r with barriers := (r.delivery states now c sender id payload).1.barriers },
        (r.refresh c.text now).2 ++ (r.delivery states now c sender id payload).1.logs,
        match (r.delivery states now c sender id payload).2 with
        | some e => .error e
        | none => answer states c r.owner sender payload
            (r.delivery states now c sender id payload).1) := by
  unfold admission delivery answer
  obtain ⟨b, dropped⟩ := r.refresh c.text now
  cases hts : groupTargets c states.get? sender with
  | nil => simp [deliver]
  | cons t ts =>
    simp only [List.isEmpty_cons, Bool.false_eq_true, if_false]
    obtain ⟨d, e⟩ := deliver r.owner sender id payload now ⟨b, [], [], []⟩ (t :: ts)
    cases e with
    | some e => rfl
    | none =>
      simp only
      split
      · rfl
      · split <;> rfl

end Router

end ServiceFlow
