import Mathlib.Data.List.TakeWhile
import ServiceFlow.Config.Check
import ServiceFlow.Proofs.Composition.Verdict

/-!
# Valid configurations and the participants of their requests

The check of a configuration compiles the composition of its request for one service, the first that
the request enters. That reads every clause, but a waiting term at the head of a chain is refused only
for the services that it names, so other participants may still refuse the text.

* `Composition.compiles_iff`: which participants of a readable text accept it.
* `Composition.all_compile_iff`: all of them do exactly if no chain begins with a waiting term.
* `Config.accepted_by_participants_iff`: both, for the request of a valid configuration.
* `Config.valid_but_refused`: a valid configuration whose request one participant refuses.
-/

namespace ServiceFlow

open Text ServiceFlow.Composition

namespace Composition

variable {text : String} {clauses : List Clause} {n : Name} {c : Composition}

/-! ## Which participants accept a text -/

/-- The clauses are those of the text, in which no name is torn by white space. -/
def Reads (text : String) (clauses : List Clause) : Prop :=
  (∃ t, stripBlanks text.toList = .ok t) ∧ Written text clauses

theorem reads_of_compile (h : compile text n = .ok c) : ∃ clauses, Reads text clauses := by
  unfold compile at h
  split at h
  · cases h
  · rename_i clauses hr
    obtain ⟨t, hs, -⟩ := derived_of_readClauses hr
    exact ⟨clauses, ⟨t, hs⟩, (written_of_readClauses hr).2⟩

/-- A participant accepts the text unless it waits at the head of a chain. -/
theorem compiles_iff (h : Reads text clauses) (hn : ¬ Outside clauses n) :
    (∃ c, compile text n = .ok c) ↔ ¬ WaitsAtHead n clauses := by
  obtain ⟨⟨t, hs⟩, hw⟩ := h
  constructor
  · rintro ⟨c, hc⟩
    obtain ⟨clauses', hw', hr, -⟩ := compile_eq_ok hc
    rw [hw'.unique hw] at hr
    exact not_waitsAtHead.mp hr
  · intro hhead
    have hr := (readClauses_eq_ok hs).mpr ⟨not_waitsAtHead.mpr hhead, hw⟩
    exact ⟨_, compile_of_named hr hn⟩

/-- All participants accept the text exactly if no chain begins with a waiting term. -/
theorem all_compile_iff (h : Reads text clauses) :
    (∀ n, ¬ Outside clauses n → ∃ c, compile text n = .ok c) ↔
      ∀ clause ∈ clauses, ∀ chain ∈ clause.chains, ∀ t, chain[0]? = some t →
        t.awaitsAll = false := by
  constructor
  · intro hall clause hclause chain hchain t ht
    -- each name of a waiting head is refused, and a term is not without names
    have hmem : t ∈ chain := List.mem_of_getElem? ht
    obtain ⟨n, hn⟩ := List.exists_mem_of_ne_nil _ (h.2.names_ne_nil hclause hchain hmem)
    have hnamed : ¬ Outside clauses n := fun ho => ho clause hclause chain hchain t hmem hn
    have hhead := (compiles_iff h hnamed).mp (hall n hnamed)
    rw [← Bool.not_eq_true]
    exact fun hwaits => hhead ⟨clause, hclause, chain, hchain, t, ht, hwaits, hn⟩
  · intro hplain n hn
    rw [compiles_iff h hn]
    rintro ⟨clause, hclause, chain, hchain, t, ht, hwaits, -⟩
    rw [hplain clause hclause chain hchain t ht] at hwaits
    cases hwaits

/-! ## What the check of a composition finds out -/

theorem entryServices_ne_nil : entryServices text ≠ .ok [] := by
  intro h
  have hentry : readEntry text = .ok [] := by
    unfold entryServices at h
    split at h
    · cases h
    · rename_i names hn
      rw [hn, Except.ok.inj h]
  obtain ⟨texts, -, h⟩ := bind_eq_ok.mp hentry
  cases texts with
  | nil => cases h
  | cons first rest =>
    simp only at h
    split at h
    · cases h
    · obtain ⟨term, ht, hnames⟩ := bind_eq_ok.mp h
      have hplus : '+' ∉ first.takeWhile (· ≠ '+') := fun hm =>
        absurd (List.mem_takeWhile_imp hm) (by decide)
      have hwritten : term.Written (first.takeWhile (· ≠ '+')) := (readTerm_eq_ok hplus).mp ht
      exact hwritten.names_ne_nil (Except.ok.inj hnames)

/-- A checked composition compiles for the first service that it enters, so it can be read. -/
theorem reads_of_check (h : check text = .ok ()) : ∃ clauses, Reads text clauses := by
  obtain ⟨names, hn, h⟩ := bind_eq_ok.mp h
  cases names with
  | nil => exact absurd hn entryServices_ne_nil
  | cons entry rest =>
    obtain ⟨c, hc, -⟩ := bind_eq_ok.mp h
    exact reads_of_compile hc

end Composition

/-! ## Valid configurations -/

namespace Config

variable {E : Type} {c : Config} {r : EngineRegistry E} {q : RequestSection}

theorem check_of_validate (hv : c.validate r = .ok ()) (hq : c.request = some q) :
    Composition.check q.composition = .ok () := by
  have hnone : c.problems r = [] := by
    unfold validate at hv
    split at hv
    · assumption
    · cases hv
  have hrequest : c.requestProblems = [] := (List.append_eq_nil_iff.mp hnone).2
  unfold requestProblems at hrequest
  rw [hq] at hrequest
  simp only at hrequest
  split at hrequest
  · cases hrequest
  · assumption

/-- **Which participants of a valid configuration's request accept its composition.** The text can be
read, and of the services named in its chains those accept it that wait at the head of no chain. All
of them accept it exactly if no chain begins with a waiting term. -/
theorem accepted_by_participants_iff (hv : c.validate r = .ok ()) (hq : c.request = some q) :
    ∃ clauses, Written q.composition clauses ∧
      (∀ n, ¬ Outside clauses n →
        ((∃ compiled, compile q.composition n = .ok compiled) ↔ ¬ WaitsAtHead n clauses)) ∧
      ((∀ n, ¬ Outside clauses n → ∃ compiled, compile q.composition n = .ok compiled) ↔
        ∀ clause ∈ clauses, ∀ chain ∈ clause.chains, ∀ t, chain[0]? = some t →
          t.awaitsAll = false) := by
  obtain ⟨clauses, hr⟩ := reads_of_check (check_of_validate hv hq)
  exact ⟨clauses, hr.2, fun n hn => compiles_iff hr hn, all_compile_iff hr⟩

/-- A DPE with nothing deployed on it, and a request. -/
def requesting (composition : String) : Config :=
  ⟨⟨"h", none, .java, none, none, none, none⟩, [], some ⟨composition, "", none⟩⟩

/-- The service `B` waits at the head of the second chain, and the first one leads to it. -/
def waitingHeadText : String := "h_java:c:A+h_java:c:B;&h_java:c:B+h_java:c:C"

/-- The clauses of `waitingHeadText`. -/
def waitingHeadClauses : List Clause :=
  [.chain [⟨false, [.sample "A"]⟩, ⟨false, [.sample "B"]⟩],
    .chain [⟨true, [.sample "B"]⟩, ⟨false, [.sample "C"]⟩]]

/-- The composition of `waitingHeadText` as the service `A` sees it, for which it is checked. -/
def waitingHead : Composition :=
  ⟨waitingHeadText, .sample "A", [.unconditional [⟨⟨∅, .ofList [.sample "B"], false⟩, 0⟩]],
    .ofList [.sample "A", .sample "B", .sample "C"]⟩

/-- **A valid configuration whose request a participant refuses.** The entry `A` accepts the text and
sends its output to `B`, which refuses it. -/
theorem valid_but_refused :
    (requesting waitingHeadText).validate EngineRegistry.standard = .ok () ∧
      Written waitingHeadText waitingHeadClauses ∧
      compile waitingHeadText (.sample "A") = .ok waitingHead ∧
      (∃ s ∈ waitingHead.statements, .sample "B" ∈ s.outputs) ∧
      ¬ Outside waitingHeadClauses (.sample "B") ∧
      compile waitingHeadText (.sample "B") =
        .error (.malformed waitingHeadText (.headWaits (.sample "B"))) := by
  have hvalid : (requesting waitingHeadText).validate EngineRegistry.standard = .ok () :=
    eq_ok_of_toOption (by decide +kernel)
  have hread : readClauses (fun _ => none) waitingHeadText = .ok waitingHeadClauses :=
    eq_ok_of_toOption (by decide +kernel)
  have hnamed : ¬ Outside waitingHeadClauses (.sample "B") := by unfold Outside; decide
  exact ⟨hvalid, (written_of_readClauses hread).2, eq_ok_of_toOption (by decide +kernel),
    by decide, hnamed, by decide +kernel⟩

/-- The service `B` waits, but not at the head of a chain. -/
def waitingInsideText : String := "h_java:c:A,h_java:c:E+&h_java:c:B+h_java:c:C"

/-- The clauses of `waitingInsideText`. -/
def waitingInsideClauses : List Clause :=
  [.chain [⟨false, [.sample "A", .sample "E"]⟩, ⟨true, [.sample "B"]⟩, ⟨false, [.sample "C"]⟩]]

/-- Here every participant accepts the request. -/
theorem waitingInside_accepted :
    (requesting waitingInsideText).validate EngineRegistry.standard = .ok () ∧
      ∀ n, ¬ Outside waitingInsideClauses n → ∃ c, compile waitingInsideText n = .ok c := by
  have hvalid : (requesting waitingInsideText).validate EngineRegistry.standard = .ok () :=
    eq_ok_of_toOption (by decide +kernel)
  have hread : readClauses (fun _ => none) waitingInsideText = .ok waitingInsideClauses :=
    eq_ok_of_toOption (by decide +kernel)
  obtain ⟨clauses, hw, -, hall⟩ := accepted_by_participants_iff hvalid rfl
  obtain rfl := hw.unique (written_of_readClauses hread).2
  refine ⟨hvalid, hall.mpr fun clause hclause chain hchain t ht => ?_⟩
  obtain rfl := List.mem_singleton.mp hclause
  obtain rfl := List.mem_singleton.mp hchain
  cases ht
  rfl

end Config

end ServiceFlow
