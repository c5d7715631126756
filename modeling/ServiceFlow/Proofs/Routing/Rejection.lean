import ServiceFlow.Proofs.Results
import ServiceFlow.Proofs.Routing.Reachable

/-!
# What a refused message leaves behind

A message is refused by the first group that holds an input of its sender. The groups of the
statements before that one have taken it in by then, and nothing takes it out again.

* `groups_kept_iff`: the open groups stay as they were exactly if each statement before waits for
  the sender alone.
* `rejected_untouched_iff`: nothing at all happens to a group exactly if the first statement that
  waits for the sender refuses the message.
* `rejected_message_opens_group`: two groups with a sender in common come apart once one of them has
  been completed.
-/

namespace ServiceFlow.Router

open ServiceFlow.Composition

variable {P : Type} {owner sender : Name} {ttl : Option Nat} {id : CommunicationId} {payload : P}
  {now : Nat} {states : StateTable} {text : String} {c : Composition} {r : Router P}

/-- No group of a statement that waits for the sender alone is ever open. -/
theorem get?_eq_none_of_single {b : BarrierStore P} {s : Statement}
    (hc : compile text owner = .ok c) (hb : b.composition = some text) (hsound : b.Sound owner)
    (hs : s ∈ c.statements) (hfree : (b.held ⟨s.id, id⟩).has sender = false)
    (hin : ∀ n, n ∈ s.inputs ↔ n = sender) :
    b.groups.get? ⟨s.id, id⟩ = none := by
  cases hg : b.groups.get? ⟨s.id, id⟩ with
  | none => rfl
  | some g =>
    obtain ⟨_, _, _, _, _, _, _, _, hp⟩ := hsound _ (Table.mem_of_get?_eq_some hg)
    obtain ⟨n, hn⟩ := hp.some_arrived
    rw [← BarrierStore.held_of_get?_eq_some hg] at hn
    have hmem := mem_inputs_of_held hc hb hsound hs hn
    rw [(hin n).mp hmem, hfree] at hn
    cases hn

variable (sender id payload now states) in
/-- **When the open groups stay as they were.** -/
theorem groups_kept_iff (hr : Reachable owner ttl r) (hc : compile text owner = .ok c) :
    (∀ key, (r.admission states now c sender id payload).1.barriers.groups.get? key =
        (r.refresh c.text now).1.groups.get? key) ↔
      ∀ s ∈ r.taking states now c sender id, ∀ n, n ∈ s.inputs ↔ n = sender := by
  have hfree : Free sender id (r.start c.text now).barriers (r.taking states now c sender id) :=
    taking_free hc
  have hbound : (r.start c.text now).barriers.composition = some text :=
    refresh_composition.trans (congrArg some (compile_text hc))
  have hsound : (r.start c.text now).barriers.Sound owner := refresh_sound hr.sound
  rw [admission_barriers hc]
  constructor
  · intro hkept s hs
    have hself := (hkept ⟨s.id, id⟩).symm.trans (get?_foldl_accept _ _ _ hfree hs)
    change (r.start c.text now).barriers.groups.get? ⟨s.id, id⟩ = _ at hself
    split at hself
    · rename_i hcomp
      exact (BarrierStore.completes_of_get?_eq_none hself).mp hcomp
    · have hhas : ((r.start c.text now).barriers.held ⟨s.id, id⟩).has sender = true := by
        rw [BarrierStore.held_of_get?_eq_some hself]
        exact NameMap.has_set.mpr (Or.inl rfl)
      rw [hfree.free s hs] at hhas
      cases hhas
  · intro hsingle key
    -- a group that waits for the sender alone is completed at once and was not open before
    by_cases hk : ∃ s ∈ r.taking states now c sender id, key = ⟨s.id, id⟩
    · obtain ⟨s, hs, rfl⟩ := hk
      have hnone := get?_eq_none_of_single hc hbound hsound (mem_statements_of_mem_taking hs).1
        (hfree.free s hs) (hsingle s hs)
      have hcomp := (BarrierStore.completes_of_get?_eq_none hnone).mpr (hsingle s hs)
      rw [get?_foldl_accept _ _ _ hfree hs, if_pos hcomp]
      exact hnone.symm
    · exact get?_foldl_accept_of_ne _ _ _ hfree fun s hs he => hk ⟨s, hs, he⟩

variable (sender id payload now states r) in
/-- The message is reported at no group exactly if no group takes it in. -/
theorem logs_eq_dropped_iff (hc : compile text owner = .ok c) :
    (r.admission states now c sender id payload).2.1 = (r.refresh c.text now).2 ↔
      r.taking states now c sender id = [] := by
  have hfree : Free sender id (r.start c.text now).barriers (r.taking states now c sender id) :=
    taking_free hc
  have hlen := length_logs_foldl_accept r.owner payload now hfree
  have hzero : (r.start c.text now).logs.length = 0 := rfl
  rw [admission_eq, delivery_eq hc, List.append_right_eq_self, ← List.length_eq_zero_iff, hlen,
    hzero, Nat.zero_add, List.length_eq_zero_iff]

/-- No group takes the message in if the first that it comes to refuses it, or if there is none. -/
theorem taking_eq_nil_iff :
    r.taking states now c sender id = [] ↔
      ∀ s, (groupTargets c states.get? sender).head? = some s →
        ((r.refresh c.text now).1.held ⟨s.id, id⟩).has sender = true := by
  unfold taking reached
  cases groupTargets c states.get? sender with
  | nil => simp
  | cons s ss =>
    rw [List.takeWhile_cons]
    cases hs : ((r.refresh c.text now).1.held ⟨s.id, id⟩).has sender with
    | true => simp [hs]
    | false => simp [hs]

/-- **A refused message and the open groups.** The groups that an admission starts from are left as
they were, with none completed on the way, exactly if the first selected statement that waits for
the sender refuses the message, or no statement does. The open groups alone are the same also if
every statement before the one that refuses waits for the sender alone. -/
theorem rejected_untouched_iff {r' : Router P} {logs : List LogEvent} {e : RoutingError}
    (hr : Reachable owner ttl r) (hc : compile text owner = .ok c)
    (h : r.admission states now c sender id payload = (r', logs, .error e)) :
    ((∀ key, r'.barriers.groups.get? key = (r.refresh c.text now).1.groups.get? key) ∧
        logs = (r.refresh c.text now).2 ↔
      ∀ s, (groupTargets c states.get? sender).head? = some s →
        ((r.refresh c.text now).1.held ⟨s.id, id⟩).has sender = true) ∧
    ((∀ key, r'.barriers.groups.get? key = (r.refresh c.text now).1.groups.get? key) ↔
      ∀ s ∈ (groupTargets c states.get? sender).takeWhile fun s =>
          !((r.refresh c.text now).1.held ⟨s.id, id⟩).has sender,
        ∀ n, n ∈ s.inputs ↔ n = sender) := by
  have hkept := groups_kept_iff sender id payload now states hr hc
  have hlogs := logs_eq_dropped_iff sender id payload now states r hc
  rw [h] at hkept hlogs
  refine ⟨?_, hkept⟩
  rw [← taking_eq_nil_iff, hlogs]
  constructor
  · exact fun hu => hu.2
  · intro hnil
    refine ⟨hkept.mpr fun s hs => ?_, hnil⟩
    rw [hnil] at hs
    cases hs

/-! ## Two groups with a sender in common -/

/-- Both chains wait for the service `A`. -/
def sharedSenderText : String :=
  "h_java:c:A,h_java:c:F+&h_java:c:B+h_java:c:C;h_java:c:A,h_java:c:E+&h_java:c:B+h_java:c:D"

/-- The composition of `sharedSenderText` as the service `B` sees it. -/
def sharedSender : Composition :=
  ⟨sharedSenderText, .sample "B",
    [.unconditional
        [⟨⟨.ofList [.sample "A", .sample "F"], .ofList [.sample "C"], true⟩, 0⟩],
      .unconditional
        [⟨⟨.ofList [.sample "A", .sample "E"], .ofList [.sample "D"], true⟩, 1⟩]],
    .ofList [.sample "A", .sample "B", .sample "C", .sample "D", .sample "E", .sample "F"]⟩

theorem compile_sharedSender : compile sharedSenderText (.sample "B") = .ok sharedSender :=
  eq_ok_of_toOption (by decide +kernel)

/-- The router of `B` after a message from `A`, which opens both groups, and one from `F`, which
completes the first. -/
def halfServed : Router String :=
  let opened := ((Router.new (.sample "B") none).admission ∅ 0 sharedSender (.sample "A") 1 "one").1
  (opened.admission ∅ 0 sharedSender (.sample "F") 1 "f").1

theorem reachable_halfServed : Reachable (.sample "B") none halfServed :=
  .admission (.admission .new compile_sharedSender _ _ _ _ _) compile_sharedSender _ _ _ _ _

theorem halfServed_refuses :
    (halfServed.admission ∅ 0 sharedSender (.sample "A") 1 "two").2.2 =
      .error (.duplicateSender (.sample "B") (.sample "A") 1) := by
  rfl

/-- **A message that is refused opens a group.** The second message from `A` is refused by the group
that still waits for `E`, but has opened the completed one again. -/
theorem rejected_message_opens_group :
    compile sharedSenderText (.sample "B") = .ok sharedSender ∧
      Reachable (.sample "B") none halfServed ∧
      (halfServed.admission ∅ 0 sharedSender (.sample "A") 1 "two").2.2 =
        .error (.duplicateSender (.sample "B") (.sample "A") 1) ∧
      ((halfServed.refresh sharedSender.text 0).1.groups.get? ⟨0, 1⟩).isNone = true ∧
      ((halfServed.admission ∅ 0 sharedSender (.sample "A") 1 "two").1.barriers.groups.get?
        ⟨0, 1⟩).isSome = true :=
  ⟨compile_sharedSender, reachable_halfServed, halfServed_refuses, by decide +kernel,
    by decide +kernel⟩

theorem halfServed_touched :
    ¬ ((∀ key,
        (halfServed.admission ∅ 0 sharedSender (.sample "A") 1 "two").1.barriers.groups.get? key =
          (halfServed.refresh sharedSender.text 0).1.groups.get? key) ∧
      (halfServed.admission ∅ 0 sharedSender (.sample "A") 1 "two").2.1 =
        (halfServed.refresh sharedSender.text 0).2) := by
  have hexact := rejected_untouched_iff reachable_halfServed compile_sharedSender
    (Prod.ext rfl (Prod.ext rfl halfServed_refuses))
  rw [hexact.1]
  intro hfirst
  have hheld := hfirst ⟨⟨.ofList [.sample "A", .sample "F"], .ofList [.sample "C"], true⟩, 0⟩
    (by decide +kernel)
  exact absurd hheld (by decide +kernel)

end ServiceFlow.Router
