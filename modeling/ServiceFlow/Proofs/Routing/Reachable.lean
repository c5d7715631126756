import Mathlib.Data.List.TakeWhile
import ServiceFlow.Proofs.Composition.Statements
import ServiceFlow.Proofs.Routing.Groups

/-!
# The groups that are ever open

Any number of messages, under any compositions compiled for the owner, in any alternation, with any
reported states and at any times.

* `Router.Reachable`: the routers that come about in this way.
* `BarrierStore.Sound`: each open group belongs to a waiting statement of the text that the store is
  bound to, and holds some of its inputs, though not all.
* `Reachable.sound`: so it is in every reachable router.
-/

namespace ServiceFlow

open ServiceFlow.Composition

variable {P : Type} {owner receiver sender : Name} {id : CommunicationId} {payload : P} {now : Nat}

/-- Some of the inputs have arrived, but not all, and nothing else has. -/
structure NameMap.Partial (arrivals : NameMap P) (inputs : NameSet) : Prop where
  some_arrived : ∃ n, arrivals.has n = true
  expected : ∀ n, arrivals.has n = true → n ∈ inputs
  some_missing : ∃ n ∈ inputs, arrivals.has n = false

/-- Each open group belongs to a waiting statement of the text that the store is bound to, and has
some of its inputs. -/
def BarrierStore.Sound (owner : Name) (b : BarrierStore P) : Prop :=
  ∀ e ∈ b.groups, ∃ text c, b.composition = some text ∧ compile text owner = .ok c ∧
    ∃ s ∈ c.statements, s.awaitsAll = true ∧ s.id = e.1.statement ∧ e.2.arrivals.Partial s.inputs

/-! ## What an admission starts from -/

namespace BarrierStore

variable {b : BarrierStore P} {text : String}

theorem supersede_composition : (b.supersede text).1.composition = some text := by
  unfold supersede
  split
  · assumption
  · rfl

theorem Sound.supersede (h : b.Sound owner) : (b.supersede text).1.Sound owner := by
  unfold BarrierStore.supersede
  split
  · exact h
  · exact fun e he => absurd he List.not_mem_nil

theorem evictExpired_composition : (b.evictExpired now).1.composition = b.composition := by
  unfold evictExpired
  split <;> rfl

theorem Sound.evictExpired (h : b.Sound owner) : (b.evictExpired now).1.Sound owner := by
  unfold BarrierStore.evictExpired
  split
  · exact h
  · exact fun e he => h e (List.mem_of_mem_filter he)

end BarrierStore

namespace Router

variable {r : Router P} {text : String}

theorem refresh_composition : (r.refresh text now).1.composition = some text :=
  BarrierStore.evictExpired_composition.trans BarrierStore.supersede_composition

theorem refresh_sound (h : r.barriers.Sound owner) : (r.refresh text now).1.Sound owner :=
  h.supersede.evictExpired

/-! ## What a delivery keeps -/

variable {c : Composition} {s : Statement} {ss : List Statement} {d : Delivery P}

/-- A statement of the composition is known by its number. -/
theorem statement_unique (hc : compile text owner = .ok c) {s' : Statement}
    (hs : s ∈ c.statements) (hs' : s' ∈ c.statements) (he : s.id = s'.id) : s = s' :=
  List.inj_on_of_nodup_map (nodup_statements_id hc) hs hs' he

/-- What an open group of a statement holds are inputs of the statement. -/
theorem mem_inputs_of_held {b : BarrierStore P} (hc : compile text owner = .ok c)
    (hb : b.composition = some text) (hsound : b.Sound owner) (hs : s ∈ c.statements) {n : Name}
    (hn : (b.held ⟨s.id, id⟩).has n = true) : n ∈ s.inputs := by
  cases hg : b.groups.get? ⟨s.id, id⟩ with
  | none =>
    rw [BarrierStore.held_of_get?_eq_none hg] at hn
    cases hn
  | some g =>
    rw [BarrierStore.held_of_get?_eq_some hg] at hn
    obtain ⟨text', c', hb', hc', s', hs', -, hid, hp⟩ := hsound _ (Table.mem_of_get?_eq_some hg)
    obtain rfl : text = text' := Option.some.inj (hb.symm.trans hb')
    obtain rfl : c = c' := Except.ok.inj (hc.symm.trans hc')
    obtain rfl := statement_unique hc hs' hs hid
    exact hp.expected n hn

theorem accept_composition (h : (d.barriers.held ⟨s.id, id⟩).has sender = false) :
    (accept receiver sender id payload now d s).barriers.composition = d.barriers.composition := by
  by_cases hcomp : d.barriers.Completes ⟨s.id, id⟩ sender s.inputs
  · rw [accept_completes h hcomp]
  · rw [accept_pending h hcomp]

/-- A group that a message of an input joins without completing it still misses an input. -/
theorem partial_grown {b : BarrierStore P} {key : GroupKey} {inputs : NameSet}
    (hheld : ∀ n, (b.held key).has n = true → n ∈ inputs) (hs : sender ∈ inputs)
    (hcomp : ¬ b.Completes key sender inputs) :
    (b.grown now key sender payload).arrivals.Partial inputs := by
  have hexp : ∀ n, ((b.held key).set sender payload).has n = true → n ∈ inputs := by
    intro n hn
    rcases NameMap.has_set.mp hn with rfl | hn
    · exact hs
    · exact hheld n hn
  refine ⟨⟨sender, NameMap.has_set.mpr (Or.inl rfl)⟩, hexp, ?_⟩
  by_contra hall
  refine hcomp fun n => ?_
  rw [← NameMap.has_set (a := payload)]
  refine ⟨hexp n, fun hn => ?_⟩
  cases hh : ((b.held key).set sender payload).has n with
  | true => rfl
  | false => exact absurd ⟨n, hn, hh⟩ hall

/-- **A group that takes a message in stays sound.** -/
theorem accept_sound (hc : compile text owner = .ok c) (hb : d.barriers.composition = some text)
    (hsound : d.barriers.Sound owner) (hs : s ∈ c.statements) (hw : s.awaitsAll = true)
    (hin : sender ∈ s.inputs) (h : (d.barriers.held ⟨s.id, id⟩).has sender = false) :
    (accept receiver sender id payload now d s).barriers.Sound owner := by
  by_cases hcomp : d.barriers.Completes ⟨s.id, id⟩ sender s.inputs
  · rw [accept_completes h hcomp]
    exact fun e he => hsound e (List.mem_of_mem_filter he)
  · rw [accept_pending h hcomp]
    intro e he
    rcases Table.mem_set he with rfl | he
    · have hpart : (d.barriers.grown now ⟨s.id, id⟩ sender payload).arrivals.Partial s.inputs :=
        partial_grown (fun n hn => mem_inputs_of_held hc hb hsound hs hn) hin hcomp
      exact ⟨text, c, hb, hc, s, hs, hw, rfl, hpart⟩
    · exact hsound e he

theorem foldl_accept_sound (hc : compile text owner = .ok c)
    (hb : d.barriers.composition = some text) (hsound : d.barriers.Sound owner)
    (hs : ∀ s ∈ ss, s ∈ c.statements ∧ s.awaitsAll = true ∧ sender ∈ s.inputs)
    (h : Free sender id d.barriers ss) :
    (ss.foldl (accept receiver sender id payload now) d).barriers.Sound owner := by
  induction ss generalizing d with
  | nil => exact hsound
  | cons s ss ih =>
    obtain ⟨hm, hw, hin⟩ := hs s List.mem_cons_self
    rw [List.foldl_cons]
    exact ih ((accept_composition h.head).trans hb) (accept_sound hc hb hsound hm hw hin h.head)
      (fun s' hs' => hs s' (List.mem_cons_of_mem _ hs')) h.tail

/-! ## Deliveries -/

variable {states : StateTable}

/-- The statements before the first whose group holds an input of the sender. -/
def reached (b : BarrierStore P) (sender : Name) (id : CommunicationId) (ss : List Statement) :
    List Statement :=
  ss.takeWhile fun s => !(b.held ⟨s.id, id⟩).has sender

theorem reached_sublist {b : BarrierStore P} : (reached b sender id ss).Sublist ss :=
  List.takeWhile_sublist _

theorem reached_free {b : BarrierStore P} (hn : (ss.map (·.id)).Nodup) :
    Free sender id b (reached b sender id ss) := by
  refine ⟨(reached_sublist.map _).nodup hn, fun s hs => ?_⟩
  have hfree := List.mem_takeWhile_imp hs
  rwa [Bool.not_eq_true'] at hfree

/-- **How a delivery ends**: the statements reached take the message in, and the next one, if there
is one, refuses it. -/
theorem deliver_eq (hn : (ss.map (·.id)).Nodup) :
    deliver owner sender id payload now d ss =
      ((reached d.barriers sender id ss).foldl (accept owner sender id payload now) d,
        if reached d.barriers sender id ss = ss then none
        else some (.duplicateSender owner sender id)) := by
  have hfree : Free sender id d.barriers (reached d.barriers sender id ss) := reached_free hn
  have hsplit : reached d.barriers sender id ss ++
      ss.dropWhile (fun s => !(d.barriers.held ⟨s.id, id⟩).has sender) = ss :=
    List.takeWhile_append_dropWhile
  -- the first statement that is not reached, if there is one, refuses the message
  cases hdrop : ss.dropWhile fun s => !(d.barriers.held ⟨s.id, id⟩).has sender with
  | nil =>
    rw [hdrop, List.append_nil] at hsplit
    have e := deliver_free owner payload now [] hfree
    rw [List.append_nil, hsplit] at e
    rw [hsplit, e, if_pos rfl]
    rfl
  | cons s rest =>
    rw [hdrop] at hsplit
    have hheld : (d.barriers.held ⟨s.id, id⟩).has sender = true := by
      have hstop := List.head?_dropWhile_not
        (fun s : Statement => !(d.barriers.held ⟨s.id, id⟩).has sender) ss
      rw [hdrop] at hstop
      simpa using hstop
    have hne : ∀ s' ∈ reached d.barriers sender id ss, s'.id ≠ s.id := by
      intro s' hs' he
      rw [← hsplit, List.map_append, List.nodup_append] at hn
      exact hn.2.2 _ (List.mem_map_of_mem hs') _ (List.mem_map_of_mem List.mem_cons_self) he
    have hlt : reached d.barriers sender id ss ≠ ss := by
      intro he
      have hl := congrArg List.length hsplit
      rw [he, List.length_append, List.length_cons] at hl
      omega
    have e := deliver_held owner payload now rest hfree hne hheld
    rw [hsplit] at e
    rw [e, if_neg hlt]

theorem nodup_groupTargets_id (hc : compile text owner = .ok c) {stateOf : Name → Option String} :
    ((groupTargets c stateOf sender).map (·.id)).Nodup := by
  have hsub : (groupTargets c stateOf sender).Sublist c.statements :=
    List.filter_sublist.trans (selected_sublist c stateOf)
  exact (hsub.map _).nodup (nodup_statements_id hc)

theorem mem_statements_of_mem_groupTargets {stateOf : Name → Option String}
    (h : s ∈ groupTargets c stateOf sender) :
    s ∈ c.statements ∧ s.awaitsAll = true ∧ sender ∈ s.inputs := by
  obtain ⟨hs, hw, hin⟩ := mem_groupTargets.mp h
  exact ⟨(selected_sublist c stateOf).subset hs, hw, hin⟩

/-- The store that an admission starts from, with nothing delivered yet. -/
def start (r : Router P) (text : String) (now : Nat) : Delivery P :=
  ⟨(r.refresh text now).1, [], [], []⟩

/-- Without a time to live nothing is dropped but the groups of another text. -/
theorem start_barriers (h : r.barriers.ttl = none) :
    (r.start text now).barriers = (r.barriers.supersede text).1 := by
  have httl : (r.barriers.supersede text).1.ttl = none := by
    unfold BarrierStore.supersede
    split <;> exact h
  unfold start refresh BarrierStore.evictExpired
  simp only [httl]

/-- The statements of a composition whose groups take a message in. -/
def taking (r : Router P) (states : StateTable) (now : Nat) (c : Composition) (sender : Name)
    (id : CommunicationId) : List Statement :=
  reached (r.refresh c.text now).1 sender id (groupTargets c states.get? sender)

theorem taking_free (hc : compile text owner = .ok c) :
    Free sender id (r.refresh c.text now).1 (r.taking states now c sender id) :=
  reached_free (nodup_groupTargets_id hc)

theorem mem_statements_of_mem_taking (h : s ∈ r.taking states now c sender id) :
    s ∈ c.statements ∧ s.awaitsAll = true ∧ sender ∈ s.inputs :=
  mem_statements_of_mem_groupTargets (reached_sublist.subset h)

theorem delivery_eq (hc : compile text owner = .ok c) :
    r.delivery states now c sender id payload =
      ((r.taking states now c sender id).foldl (accept r.owner sender id payload now)
          (r.start c.text now),
        if r.taking states now c sender id = groupTargets c states.get? sender then none
        else some (.duplicateSender r.owner sender id)) :=
  deliver_eq (nodup_groupTargets_id hc)

/-- The open groups after an admission. -/
theorem admission_barriers (hc : compile text owner = .ok c) :
    (r.admission states now c sender id payload).1.barriers =
      ((r.taking states now c sender id).foldl (accept r.owner sender id payload now)
        (r.start c.text now)).barriers := by
  rw [admission_eq, delivery_eq hc]

/-- **An admission leaves sound groups.** -/
theorem admission_sound (hc : compile text owner = .ok c) (hsound : r.barriers.Sound owner) :
    (r.admission states now c sender id payload).1.barriers.Sound owner := by
  have hbound : (r.start c.text now).barriers.composition = some text :=
    refresh_composition.trans (congrArg some (compile_text hc))
  have hstart : (r.start c.text now).barriers.Sound owner := refresh_sound hsound
  rw [admission_barriers hc]
  exact foldl_accept_sound hc hbound hstart (fun s hs => mem_statements_of_mem_taking hs)
    (taking_free hc)

/-! ## Reachable routers -/

/-- The routers of `owner` that come about by admitting messages under compositions compiled for
it. -/
inductive Reachable (owner : Name) (ttl : Option Nat) : Router P → Prop
  | new : Reachable owner ttl (Router.new owner ttl)
  | admission {r : Router P} {text : String} {c : Composition} (h : Reachable owner ttl r)
      (hc : compile text owner = .ok c) (states : StateTable) (now : Nat) (sender : Name)
      (id : CommunicationId) (payload : P) :
      Reachable owner ttl (r.admission states now c sender id payload).1

variable {ttl : Option Nat}

/-- **Every open group is one of a waiting statement, and has some of its inputs.** -/
theorem Reachable.sound (h : Reachable owner ttl r) : r.barriers.Sound owner := by
  induction h with
  | new => exact fun e he => absurd he List.not_mem_nil
  | admission _ hc _ _ _ _ _ ih => exact admission_sound hc ih

end Router

end ServiceFlow
