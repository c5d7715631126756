import ServiceFlow.Proofs.Routing.Links

/-!
# Messages that nothing expects

If some statements of a composition wait for all their inputs, a message is refused when neither these
nor the plain statements expect its sender. The plain statements are asked all together, whatever the
states are. Of those that wait only the active ones are asked: a sender that only statements of other
branches wait for is refused too, in words that deny it a place in any group.

* `Composition.Stranger`: neither the statements that wait nor the plain ones expect the sender.
* `Composition.Dormant`: some statement waits for the sender, but none that is active.
* `admission_unexpected`: when a message is refused, and that it is for want of a place in the composition
  exactly if its sender is not dormant. Without conditionals no sender ever is.
* `member_called_stranger`: a member of a group that is refused.
-/

namespace ServiceFlow

open ServiceFlow.Composition

/-- The sender is one of those that the statement waits for. -/
def Statement.Awaits (s : Statement) (sender : Name) : Prop :=
  ∃ group, s.group? = some group ∧ sender ∈ group

theorem Statement.awaits_iff {s : Statement} {sender : Name} :
    s.Awaits sender ↔ s.awaitsAll = true ∧ sender ∈ s.inputs := by
  unfold Awaits group?
  cases s.awaitsAll <;> simp

namespace Composition

variable {c : Composition} {sender : Name} {stateOf : Name → Option String}

/-- Some plain statement, active or not, accepts the sender. -/
def Welcomes (c : Composition) (sender : Name) : Prop :=
  ∃ s ∈ c.statements, s.awaitsAll = false ∧ c.accepts s sender = true

/-- There are statements that wait, none of them for the sender, and no plain one accepts it. -/
structure Stranger (c : Composition) (sender : Name) : Prop where
  grouped : ∃ s ∈ c.statements, s.awaitsAll = true
  no_member : ∀ s ∈ c.statements, ¬ s.Awaits sender
  unwelcome : ¬ c.Welcomes sender

/-- Some statement waits for the sender, but no active one does, and no plain one accepts it. -/
structure Dormant (c : Composition) (stateOf : Name → Option String) (sender : Name) : Prop where
  member : ∃ s ∈ c.statements, s.Awaits sender
  inactive : ∀ s ∈ c.selected stateOf, ¬ s.Awaits sender
  unwelcome : ¬ c.Welcomes sender

theorem hasGroups_iff : c.hasGroups = true ↔ ∃ s ∈ c.statements, s.awaitsAll = true := List.any_eq_true

theorem plainAccepts_iff : Router.plainAccepts c sender = true ↔ c.Welcomes sender := by
  unfold Router.plainAccepts Welcomes
  simp only [List.any_eq_true, Bool.and_eq_true, Bool.not_eq_true']

/-- A statement that waits for the sender and is active is one of those that the message goes to. -/
theorem groupTargets_eq_nil_iff :
    Router.groupTargets c stateOf sender = [] ↔ ∀ s ∈ c.selected stateOf, ¬ s.Awaits sender := by
  unfold Router.groupTargets
  simp only [List.filter_eq_nil_iff, Bool.and_eq_true, decide_eq_true_eq, Statement.awaits_iff]

/-- Nobody is dormant whose statements are all active. -/
theorem Unconditional.not_dormant (hu : c.Unconditional) : ¬ c.Dormant stateOf sender := by
  rintro ⟨⟨s, hs, hawaits⟩, hinactive, -⟩
  rw [hu.selected] at hinactive
  exact hinactive s hs hawaits

/-- Whom no active statement waits for, and no plain one accepts, is a stranger or dormant. -/
theorem stranger_or_dormant (hgroups : c.hasGroups = true)
    (hinactive : ∀ s ∈ c.selected stateOf, ¬ s.Awaits sender) (hunwelcome : ¬ c.Welcomes sender) :
    c.Stranger sender ∨ c.Dormant stateOf sender := by
  by_cases hmember : ∃ s ∈ c.statements, s.Awaits sender
  · exact .inr ⟨hmember, hinactive, hunwelcome⟩
  · exact .inl ⟨hasGroups_iff.mp hgroups, fun s hs ha => hmember ⟨s, hs, ha⟩, hunwelcome⟩

/-- A stranger is a stranger in every branch. -/
theorem Stranger.inactive (h : c.Stranger sender) : ∀ s ∈ c.selected stateOf, ¬ s.Awaits sender :=
  fun s hs => h.no_member s ((selected_sublist c stateOf).subset hs)

end Composition

namespace Router

variable {P : Type} {r : Router P} {states : StateTable} {now : Nat} {c : Composition}
  {sender : Name} {id : CommunicationId} {payload : P}

/-- The message is refused because nothing expects it. -/
def Unexpected (a : Except RoutingError (Admission P)) : Prop :=
  ∃ owner sender, a = .error (.unexpectedSender owner sender)

/-- A message that goes to no group is refused if there are groups and no plain statement accepts it. -/
theorem admission_of_no_target (h : groupTargets c states.get? sender = []) :
    (r.admission states now c sender id payload).2.2 =
      if !plainAccepts c sender && c.hasGroups then .error (.unexpectedSender r.owner sender)
      else .ok (.ready [(sender, payload)] []) := by
  unfold admission
  simp only [h, List.isEmpty_nil, if_true]

/-- **When a message is refused.** -/
theorem unexpected_iff :
    Unexpected (r.admission states now c sender id payload).2.2 ↔
      c.hasGroups = true ∧ (∀ s ∈ c.selected states.get?, ¬ s.Awaits sender) ∧
        ¬ c.Welcomes sender := by
  rw [← groupTargets_eq_nil_iff, ← plainAccepts_iff, Bool.not_eq_true]
  constructor
  · rintro ⟨owner, other, h⟩
    obtain ⟨htargets, hplain⟩ := unheard_of_unexpected h
    rw [admission_of_no_target htargets, hplain] at h
    cases hg : c.hasGroups with
    | true => exact ⟨rfl, htargets, hplain⟩
    | false =>
      rw [hg] at h
      cases h
  · rintro ⟨hgroups, htargets, hplain⟩
    rw [admission_of_no_target htargets, hplain, hgroups]
    exact ⟨r.owner, sender, rfl⟩

/-- **Who is refused as unexpected.** A message is refused exactly if the composition has statements that
wait for all their inputs, none of the active ones waits for its sender, and no plain one accepts it. That
its sender is a stranger to the composition is the same thing unless the sender is dormant; then it is
refused though some statement waits for it. Without conditionals it is always the same. -/
theorem admission_unexpected (r : Router P) (states : StateTable) (now : Nat) (c : Composition)
    (sender : Name) (id : CommunicationId) (payload : P) :
    (Unexpected (r.admission states now c sender id payload).2.2 ↔
      c.hasGroups = true ∧ (∀ s ∈ c.selected states.get?, ¬ s.Awaits sender) ∧
        ¬ c.Welcomes sender) ∧
    ((Unexpected (r.admission states now c sender id payload).2.2 ↔ c.Stranger sender) ↔
      ¬ c.Dormant states.get? sender) ∧
    (c.Dormant states.get? sender →
      Unexpected (r.admission states now c sender id payload).2.2) ∧
    (c.Unconditional →
      (Unexpected (r.admission states now c sender id payload).2.2 ↔ c.Stranger sender)) := by
  have hdormant (h : c.Dormant states.get? sender) :
      Unexpected (r.admission states now c sender id payload).2.2 := by
    obtain ⟨s, hs, hawaits⟩ := h.member
    exact unexpected_iff.mpr
      ⟨hasGroups_iff.mpr ⟨s, hs, (Statement.awaits_iff.mp hawaits).1⟩, h.inactive, h.unwelcome⟩
  have hstranger (h : ¬ c.Dormant states.get? sender) :
      Unexpected (r.admission states now c sender id payload).2.2 ↔ c.Stranger sender := by
    rw [unexpected_iff]
    constructor
    · rintro ⟨hgroups, hinactive, hunwelcome⟩
      exact (stranger_or_dormant hgroups hinactive hunwelcome).resolve_right h
    · exact fun hs => ⟨hasGroups_iff.mpr hs.grouped, hs.inactive, hs.unwelcome⟩
  refine ⟨unexpected_iff, ⟨fun hsame hd => ?_, hstranger⟩, hdormant,
    fun hu => hstranger hu.not_dormant⟩
  obtain ⟨s, hs, hawaits⟩ := hd.member
  exact (hsame.mp (hdormant hd)).no_member s hs hawaits

/-! ## A member of a group that is refused -/

/-- The service `B` waits for `A` and `E` as long as `S` is on. -/
def switchedText : String :=
  "if(h_java:c:S==\"on\")\x7bh_java:c:A,h_java:c:E+&h_java:c:B+h_java:c:C\x7d"

/-- The composition of `switchedText` as `B` sees it. -/
def switched : Composition :=
  ⟨switchedText, .sample "B",
    [.conditional
      [⟨⟨.all, [⟨.sample "S", .equals, "on"⟩]⟩,
        [⟨⟨.ofList [.sample "A", .sample "E"], .ofList [.sample "C"], true⟩, 0⟩]⟩] none],
    .ofList [.sample "A", .sample "B", .sample "C", .sample "E"]⟩

/-- **A member of the only group is refused as if it were part of none.** -/
theorem member_called_stranger :
    compile switchedText (.sample "B") = .ok switched ∧
      Reachable (.sample "B") none (Router.new (P := String) (.sample "B") none) ∧
      (∃ s ∈ switched.statements, s.Awaits (.sample "A")) ∧
      ((Router.new (.sample "B") none).admission ∅ 0 switched (.sample "A") 1 "a").2.2 =
        .error (.unexpectedSender (.sample "B") (.sample "A")) ∧
      (RoutingError.unexpectedSender (.sample "B") (.sample "A")).message =
        "'h_java:c:A' is not part of any AND group of 'h_java:c:B'" ∧
      ¬ (Unexpected
          ((Router.new (.sample "B") none).admission ∅ 0 switched (.sample "A") 1 "a").2.2 ↔
        switched.Stranger (.sample "A")) := by
  have hmember : ∃ s ∈ switched.statements, s.Awaits (.sample "A") :=
    ⟨_, List.mem_cons_self, _, rfl, by decide +kernel⟩
  have hanswer : ((Router.new (.sample "B") none).admission ∅ 0 switched (.sample "A") 1 "a").2.2 =
      .error (.unexpectedSender (.sample "B") (.sample "A")) := rfl
  refine ⟨eq_ok_of_toOption (by decide +kernel), .new, hmember, hanswer, by decide +kernel,
    fun hsame => ?_⟩
  obtain ⟨s, hs, hawaits⟩ := hmember
  exact (hsame.mp ⟨_, _, hanswer⟩).no_member s hs hawaits

end Router

end ServiceFlow
