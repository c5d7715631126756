import ServiceFlow.Proofs.Composition.WellFormed
import ServiceFlow.Proofs.Routing.Strangers

/-!
# Where requests enter a composition

A client finds the services to send a request to by a reading of its own: it takes the first clause of the
text, cuts it at the first `+` and reads one term. The services that receive the request compile the whole
text and decide on it by their statements. The two have to agree, or a request would be sent to services
that refuse it.

* `Composition.readEntry_chain`, `Composition.readEntry_conditional`: what the client reads of a first
  clause.
* `Composition.Opens`: the first instruction has a plain statement at the head of a chain.
* `Composition.Opens.admission`: such a composition takes a request from outside as it is, whatever the
  states are and whatever is waiting.
* `Composition.entryServices_open`: the services that the client finds are those of the first term, and each
  of them for which the text compiles takes its request.
-/

namespace ServiceFlow

namespace Composition

open Text

variable {text : String} {owner n : Name} {c : Composition}

/-! ## The first clause -/

/-- The text of a chain up to the first `+` is that of its first term. -/
theorem takeWhile_written {t : Term} {ts : Chain} {cs : List Char}
    (h : Chain.Written (t :: ts) cs) : t.Written (cs.takeWhile (· ≠ '+')) := by
  have plain {p : List Char} (ht : t.Written p) : ∀ c ∈ p, decide (c ≠ '+') = true := by
    intro c hc
    refine decide_eq_true fun he => ht.no_plus ?_
    rwa [← he]
  cases h with
  | one ht =>
    rw [List.takeWhile_eq_self_iff.mpr (plain ht)]
    exact ht
  | @more _ _ p rest ht _ =>
    have hcut : (p ++ ['+'] ++ rest).takeWhile (· ≠ '+') = p := by
      rw [List.append_assoc, List.takeWhile_append_of_pos (plain ht)]
      exact List.append_nil p
    rw [hcut]
    exact ht

theorem startsGuarded_chain {chain : Chain} {cs : List Char} (h : Chain.Written chain cs) :
    startsGuarded cs = false := by
  rw [Bool.eq_false_iff]
  intro hs
  obtain ⟨rest, rfl⟩ := List.isPrefixOf_iff_prefix.mp hs
  have hpar : '(' ∉ ['i', 'f', '('] ++ rest := Chain.Written.not_mem h (by decide) (by decide)
  exact hpar (by simp)

/-- Of a text that begins with a chain its first term is read. -/
theorem readEntry_chain {t : Term} {ts : Chain} {part : List Char} {parts : List (List Char)}
    (hparts : clauseTexts text = .ok (part :: parts)) (h : Chain.Written (t :: ts) part) :
    readEntry text = .ok t.names := by
  have hterm := takeWhile_written h
  have hread := (readTerm_eq_ok hterm.no_plus).mpr hterm
  unfold readEntry
  rw [hparts]
  simp only [bind, Except.bind, startsGuarded_chain h, Bool.false_eq_true, if_false, hread]
  rfl

/-- A text that begins with a conditional has no entry. -/
theorem readEntry_conditional {bs : List GuardedBlock} {o : Option (List Chain)} {part : List Char}
    {parts : List (List Char)} (hparts : clauseTexts text = .ok (part :: parts))
    (h : Clause.Written (.conditional bs o) part) : readEntry text = .error .guardedStart := by
  have hguarded : startsGuarded part = true := by
    cases h
    exact List.isPrefixOf_iff_prefix.mpr (List.prefix_append _ _)
  unfold readEntry
  rw [hparts]
  simp only [bind, Except.bind, hguarded, if_true]
  rfl

/-- A text that compiles has a first clause, and the reader of entries finds its text. -/
theorem exists_first (h : compile text owner = .ok c) :
    ∃ first rest part parts, Written text (first :: rest) ∧
      clauseTexts text = .ok (part :: parts) ∧ first.Written part := by
  obtain ⟨clauses, hwritten, -, hsome, rfl⟩ := compile_eq_ok h
  have hread : ∃ clauses', readClauses (refuseWaitingHead owner) text = .ok clauses' := by
    unfold compile at h
    split at h
    · cases h
    · exact ⟨_, ‹_›⟩
  obtain ⟨clauses', hread⟩ := hread
  obtain rfl := (written_of_readClauses hread).2.unique hwritten
  obtain ⟨parts, hparts, hmap⟩ := bind_eq_ok.mp hread
  cases mapM_eq_ok.mp hmap with
  | nil => exact absurd rfl hsome
  | cons hfirst _ => exact ⟨_, _, _, _, hwritten, hparts, (readClause_eq_ok.mp hfirst).2⟩

/-! ## The services of the first term -/

/-- The first instruction is unconditional, with a plain statement that heads the chain: nothing comes
before it, and what follows is the second term. -/
def Opens (chain : Chain) (c : Composition) : Prop :=
  ∃ ss, c.instructions.head? = some (.unconditional ss) ∧
    ∃ s ∈ ss, s.inputs = ∅ ∧ s.group? = none ∧
      ∀ n, n ∈ s.outputs ↔ ∃ t, chain[1]? = some t ∧ n ∈ t.names

/-- A service of the first term has a place at the head of the chain. -/
theorem opens_of_first {t : Term} {ts : Chain} {rest : List Clause}
    (h : compile text owner = .ok c) (hw : Written text (.chain (t :: ts) :: rest))
    (ho : owner ∈ t.names) : Opens (t :: ts) c := by
  obtain ⟨clauses, hwritten, hr, -, rfl⟩ := compile_eq_ok h
  obtain rfl := hwritten.unique hw
  have hplain : t.awaitsAll = false :=
    not_waiting_head (hr _ List.mem_cons_self (t :: ts) List.mem_cons_self) rfl ho
  -- the place at the head is among the positions in the chain, so its statement is there
  have hplace : placeAt ∅ (t :: ts) 0 false ∈
      (statementsOf owner 0 [t :: ts]).map (·.toPosition) := by
    unfold statementsOf
    rw [map_position_numberFrom, List.flatMap_singleton]
    exact mem_positions.mpr ⟨0, t, rfl, ho, by rw [hplain]⟩
  obtain ⟨s, hs, hposition⟩ := List.mem_map.mp hplace
  refine ⟨statementsOf owner 0 [t :: ts], ?_, s, hs, congrArg Position.inputs hposition, ?_, ?_⟩
  · unfold instructionsOf
    have hsome : isVacant (instructionOf owner 0 (.chain (t :: ts))) = false := by
      unfold instructionOf isVacant
      split
      · rename_i hnil
        rw [Instruction.unconditional.inj hnil] at hs
        exact absurd hs List.not_mem_nil
      · rfl
    simp only [hsome, Bool.false_eq_true, if_false, List.head?_cons]
    rfl
  · unfold Statement.group?
    rw [congrArg Position.awaitsAll hposition]
    rfl
  · intro n
    rw [congrArg Position.outputs hposition]
    exact mem_headNames_drop

/-- No statement waits for a name that stands in no chain. -/
theorem not_awaits_of_outside {clauses : List Clause} {s : Statement}
    (hs : s ∈ (instructionsOf owner 0 clauses).flatMap (·.statements)) (hn : Outside clauses n) :
    ¬ s.Awaits n := by
  intro h
  obtain ⟨clause, hclause, chain, hchain, t, ht, hmem⟩ :=
    named_of_mem_statement hs (.inl (Statement.awaits_iff.mp h).2)
  exact hn clause hclause chain hchain t ht hmem

/-- **A request from outside is taken as it is** by a composition that opens, whatever its other
statements wait for. -/
theorem Opens.admission {chain : Chain} {clauses : List Clause} {client : Name}
    (hopens : Opens chain c) (h : compile text owner = .ok c) (hw : Written text clauses)
    (hclient : Outside clauses client) {P : Type} (r : Router P) (states : StateTable) (now : Nat)
    (id : CommunicationId) (payload : P) :
    (r.admission states now c client id payload).2.2 = .ok (.ready [(client, payload)] []) := by
  obtain ⟨clauses', hwritten, -, -, hc⟩ := compile_eq_ok h
  obtain rfl := hwritten.unique hw
  obtain ⟨ss, hhead, s, hs, hinputs, hgroup, -⟩ := hopens
  have houtside : client ∉ c.participants := by
    rw [hc]
    exact not_mem_participants.mpr hclient
  have hwelcome : Router.plainAccepts c client = true := by
    refine plainAccepts_iff.mpr ⟨s, ?_, ?_, ?_⟩
    · exact List.mem_flatMap.mpr ⟨_, List.mem_of_head? hhead, hs⟩
    · unfold Statement.group? at hgroup
      split at hgroup
      · cases hgroup
      · rename_i hplain
        exact Bool.eq_false_iff.mpr hplain
    · have hishead : s.isHead = true := by
        unfold Statement.isHead
        rw [hinputs]
        rfl
      unfold accepts
      rw [if_pos hishead]
      exact decide_eq_true houtside
  have hnone : Router.groupTargets c states.get? client = [] := by
    refine groupTargets_eq_nil_iff.mpr fun s hs => ?_
    have hmem := (selected_sublist c states.get?).subset hs
    rw [hc] at hmem
    exact not_awaits_of_outside hmem hclient
  rw [Router.admission_of_no_target hnone, hwelcome]
  rfl

/-- **Requests are sent where they are taken.** A text that compiles for some owner begins with a chain or a
conditional. It has entry services exactly if it begins with a chain, and they are those of the first term.
Each of them for which the text compiles heads that chain, and a request from a client that stands in no
chain is ready there at once with nothing else on its inputs, whatever its states and open groups are. -/
theorem entryServices_open (h : compile text owner = .ok c) :
    ∃ first rest, (∀ clauses, Written text clauses ↔ clauses = first :: rest) ∧
      ((∃ names, entryServices text = .ok names) ↔ ∃ chain, first = .chain chain) ∧
      ∀ names, entryServices text = .ok names →
        ∃ t ts, first = .chain (t :: ts) ∧ names = t.names ∧
          ∀ e ∈ names, ∀ ce, compile text e = .ok ce →
            Opens (t :: ts) ce ∧
              ∀ client, Outside (first :: rest) client →
                ∀ (P : Type) (r : Router P) (states : StateTable) (now : Nat)
                  (id : CommunicationId) (payload : P),
                  (r.admission states now ce client id payload).2.2 =
                    .ok (.ready [(client, payload)] []) := by
  obtain ⟨first, rest, part, parts, hwritten, hparts, hfirst⟩ := exists_first h
  refine ⟨first, rest, fun _ => ⟨fun h' => h'.unique hwritten, fun e => e ▸ hwritten⟩, ?_⟩
  cases hclause : first with
  | conditional bs o =>
    have hnone : entryServices text = .error (.malformed text .guardedStart) := by
      unfold entryServices
      rw [readEntry_conditional hparts (hclause ▸ hfirst)]
    constructor
    · refine iff_of_false ?_ ?_
      · rintro ⟨names, hnames⟩
        rw [hnone] at hnames
        cases hnames
      · rintro ⟨chain, hchain⟩
        cases hchain
    · intro names hnames
      rw [hnone] at hnames
      cases hnames
  | chain chain =>
    obtain ⟨t, ts, rfl⟩ : ∃ t ts, chain = t :: ts := by
      rw [hclause] at hfirst
      cases hfirst with
      | chain hchain => exact List.exists_cons_of_ne_nil (Separated.ne_nil hchain)
    rw [hclause] at hfirst hwritten
    have hentry : entryServices text = .ok t.names := by
      unfold entryServices
      cases hfirst with
      | chain hchain => rw [readEntry_chain hparts hchain]
    refine ⟨iff_of_true ⟨_, hentry⟩ ⟨_, rfl⟩, fun names hnames => ⟨t, ts, rfl, ?_, ?_⟩⟩
    · exact Except.ok.inj (hnames.symm.trans hentry)
    · intro e he ce hce
      obtain rfl := Except.ok.inj (hnames.symm.trans hentry)
      have hopens := opens_of_first hce hwritten he
      exact ⟨hopens, fun client hclient P r states now id payload =>
        hopens.admission hce hwritten hclient r states now id payload⟩

/-- A request enters at `A` and `E`. What `B` sends back to `A` ends there, and `A` also waits for `C` and
`D`. -/
def loopText : String :=
  "h_java:c:A,h_java:c:E+h_java:c:B+h_java:c:A;h_java:c:C,h_java:c:D+&h_java:c:A"

theorem loopText_entry :
    ∃ c ca, compile loopText (.sample "D") = .ok c ∧ compile loopText (.sample "A") = .ok ca ∧
      ca.hasGroups = true ∧ entryServices loopText = .ok [.sample "A", .sample "E"] ∧
      ∀ (r : Router String) (states : StateTable) (now : Nat) (id : CommunicationId) (payload : String),
        (r.admission states now ca (.sample "X") id payload).2.2 =
          .ok (.ready [(.sample "X", payload)] []) := by
  obtain ⟨c, hc⟩ := exists_of_isOk (x := compile loopText (.sample "D")) (by decide +kernel)
  have hseen : ((compile loopText (.sample "A")).toOption.map fun ca =>
      (ca.hasGroups, decide (.sample "X" ∉ ca.participants))) = some (true, true) := by decide +kernel
  obtain ⟨ca, hca, hboth⟩ := Option.map_eq_some_iff.mp hseen
  obtain ⟨hgroups, hoff⟩ := Prod.mk.inj hboth
  have hcompile := eq_ok_of_toOption hca
  have hnames : entryServices loopText = .ok [.sample "A", .sample "E"] :=
    eq_ok_of_toOption (by decide +kernel)
  refine ⟨c, ca, hc, hcompile, hgroups, hnames, fun r states now id payload => ?_⟩
  obtain ⟨first, rest, hclauses, -, hentries⟩ := entryServices_open hc
  obtain ⟨t, ts, -, -, htaken⟩ := hentries _ hnames
  have houtside : Outside (first :: rest) (.sample "X") := by
    obtain ⟨clauses, hwritten, -, -, rfl⟩ := compile_eq_ok hcompile
    rw [← (hclauses clauses).mp hwritten]
    exact not_mem_participants.mp (of_decide_eq_true hoff)
  exact (htaken _ List.mem_cons_self ca hcompile).2 _ houtside String r states now id payload

end Composition

end ServiceFlow
