import Mathlib.Data.List.DropRight
import ServiceFlow.Proofs.Routing.Separation

/-!
# Where the payloads of a group come from

The messages of a service come under any compositions, in any alternation, for any requests, at any
times and with any reported states; some are refused. The open groups are those of the last text, and
so is all that they hold.

* `BarrierStore.Stems`: every payload in an open group has a property that may depend on the request
  of the group and on the sender. `Stems.arrive` and `Stems.completions`: what the inputs have is kept,
  and passed on to what a completed group hands out.
* `Router.completions`: the groups that a delivery completes, each with what it hands out.
* `Posting`: a message under a composition compiled for its receiver; `served`: the router after a
  run of them.
* `groups_of_last_text`: the open groups after any run, and the groups that the next message completes.
-/

namespace ServiceFlow

open ServiceFlow.Composition

variable {P : Type}

/-! ## Properties of payloads -/

/-- Every payload in an open group has the property `T` for the request of the group and its
sender. -/
def BarrierStore.Stems (T : CommunicationId → Name → P → Prop) (b : BarrierStore P) : Prop :=
  ∀ e ∈ b.groups, ∀ n p, e.2.arrivals.get? n = some p → T e.1.id n p

namespace BarrierStore

variable {T : CommunicationId → Name → P → Prop} {b b' : BarrierStore P} {now : Nat}
  {key : GroupKey} {sender n : Name} {payload p : P} {expected : NameSet}

theorem Stems.held (h : b.Stems T) (hn : (b.held key).get? n = some p) : T key.id n p := by
  cases hg : b.groups.get? key with
  | none =>
    rw [held_of_get?_eq_none hg] at hn
    cases hn
  | some g =>
    rw [held_of_get?_eq_some hg] at hn
    exact h _ (Table.mem_of_get?_eq_some hg) n p hn

theorem Stems.set (h : b.Stems T) (hT : T key.id sender payload)
    (hn : ((b.held key).set sender payload).get? n = some p) : T key.id n p := by
  rw [NameMap.get?_set] at hn
  split at hn
  · rename_i he
    cases hn
    exact he ▸ hT
  · exact h.held hn

/-- **An input that has the property keeps it** for all open groups. -/
theorem Stems.arrive (h : b.Stems T) (hT : T key.id sender payload) :
    (b.arrive now key sender payload expected).1.Stems T := by
  cases hh : (b.held key).has sender with
  | true =>
    rw [arrive_held hh]
    exact h
  | false =>
    by_cases hc : b.Completes key sender expected
    · rw [arrive_completes hh hc]
      exact fun e he => h e (List.mem_of_mem_filter he)
    · rw [arrive_pending hh hc]
      intro e he n p hn
      rcases Table.mem_set he with rfl | he
      · exact h.set hT hn
      · exact h e he n p hn

/-- A completed group hands out one payload of each of its senders, and all have the property. -/
theorem Stems.complete (h : b.Stems T) (hT : T key.id sender payload) {inputs : List (Name × P)}
    (ha : b.arrive now key sender payload expected = (b', .complete inputs)) :
    inputs.map (·.1) = expected.toList ∧ ∀ n p, (n, p) ∈ inputs → T key.id n p := by
  cases hh : (b.held key).has sender with
  | true =>
    rw [arrive_held hh] at ha
    cases ha
  | false =>
    by_cases hc : b.Completes key sender expected
    · rw [arrive_completes hh hc] at ha
      cases ha
      exact ⟨completes_iff.mpr hc, fun n p hn => h.set hT (NameMap.mem_entries.mp hn)⟩
    · rw [arrive_pending hh hc] at ha
      cases ha

theorem Stems.mono {T' : CommunicationId → Name → P → Prop} (h : b.Stems T)
    (hT : ∀ id n p, T id n p → T' id n p) : b.Stems T' :=
  fun e he n p hn => hT _ n p (h e he n p hn)

/-- What an admission starts from: the groups of the text, or none. -/
theorem Stems.refresh {r : Router P} {text : String}
    (h : r.barriers.composition = some text → r.barriers.Stems T) :
    (r.refresh text now).1.Stems T := by
  have hsupersede : (r.barriers.supersede text).1.Stems T := by
    unfold BarrierStore.supersede
    split
    · rename_i hb
      exact h hb
    · exact fun e he => absurd he List.not_mem_nil
  unfold Router.refresh BarrierStore.evictExpired
  simp only
  split
  · exact hsupersede
  · exact fun e he => hsupersede e (List.mem_of_mem_filter he)

end BarrierStore

namespace Router

/-! ## Completed groups -/

section Completions

variable {owner sender n : Name} {id : CommunicationId} {payload p : P} {now : Nat}

/-- The groups that a delivery completes, each with what it hands out. -/
def completions (sender : Name) (id : CommunicationId) (payload : P) (now : Nat) :
    BarrierStore P → List Statement → List (Statement × List (Name × P))
  | _, [] => []
  | b, s :: ss =>
    match b.arrive now ⟨s.id, id⟩ sender payload s.inputs with
    | (_, .duplicate) => []
    | (b, .pending _ _) => completions sender id payload now b ss
    | (b, .complete inputs) => (s, inputs) :: completions sender id payload now b ss

variable {d : Delivery P} {b : BarrierStore P} {ss : List Statement}

variable (owner sender id payload now d ss) in
/-- A delivery joins the groups that it completes, and gathers what they hand out. -/
theorem deliver_completions :
    (deliver owner sender id payload now d ss).1.joined =
        d.joined ++ (completions sender id payload now d.barriers ss).map (·.1.id) ∧
      (deliver owner sender id payload now d ss).1.inputs =
        addInputs d.inputs ((completions sender id payload now d.barriers ss).flatMap (·.2)) := by
  induction ss generalizing d with
  | nil => exact ⟨(List.append_nil _).symm, rfl⟩
  | cons s ss ih =>
    unfold deliver completions
    rcases d.barriers.arrive now ⟨s.id, id⟩ sender payload s.inputs with ⟨b, a⟩
    cases a with
    | duplicate => exact ⟨(List.append_nil _).symm, rfl⟩
    | pending arrived awaited => exact ih _
    | complete inputs =>
      obtain ⟨hjoined, hinputs⟩ := ih ⟨b, d.logs ++ [.barrierCompleted owner.text id.toInt
        inputs.length], addInputs d.inputs inputs, d.joined ++ [s.id]⟩
      refine ⟨hjoined.trans ?_, hinputs.trans ?_⟩
      · rw [List.map_cons, List.append_assoc]
        rfl
      · rw [List.flatMap_cons, addInputs_append]

/-- **A completed group hands out one payload of each of its senders**, and they have what all inputs
of the store have. -/
theorem mem_completions {T : CommunicationId → Name → P → Prop} (h : b.Stems T)
    (hT : T id sender payload) {e : Statement × List (Name × P)}
    (he : e ∈ completions sender id payload now b ss) :
    e.1 ∈ ss ∧ e.2.map (·.1) = e.1.inputs.toList ∧ ∀ n p, (n, p) ∈ e.2 → T id n p := by
  induction ss generalizing b with
  | nil => cases he
  | cons s ss ih =>
    have hnext : (b.arrive now ⟨s.id, id⟩ sender payload s.inputs).1.Stems T := h.arrive hT
    unfold completions at he
    rcases ha : b.arrive now ⟨s.id, id⟩ sender payload s.inputs with ⟨b', a⟩
    rw [ha] at hnext he
    cases a with
    | duplicate => cases he
    | pending arrived awaited => exact (ih hnext he).imp_left (List.mem_cons_of_mem s)
    | complete inputs =>
      rcases List.mem_cons.mp he with rfl | he
      · exact ⟨List.mem_cons_self, h.complete hT ha⟩
      · exact (ih hnext he).imp_left (List.mem_cons_of_mem s)

end Completions

/-! ## Admissions -/

section Admissions

variable {c : Composition} {r : Router P} {m : Numbered P} {inputs : List (Name × P)}
  {joined : List Nat}

/-- The groups that an admission completes, each with what it hands out; also if the message is
refused in the end. -/
def handedOut (c : Composition) (r : Router P) (m : Numbered P) :
    List (Statement × List (Name × P)) :=
  completions m.sender m.id m.payload m.now (r.refresh c.text m.now).1
    (groupTargets c m.states.get? m.sender)

/-- A message that joins no group hands out its own payload. -/
theorem inputs_of_ready_nil (h : (receive c r m).2.2 = .ok (.ready inputs [])) :
    inputs = [(m.sender, m.payload)] := by
  rw [receive, admission_eq] at h
  cases herror : (r.delivery m.states m.now c m.sender m.id m.payload).2 with
  | some e =>
    rw [herror] at h
    cases h
  | none =>
    rw [herror] at h
    exact answer_ready_nil h

/-- **What an accepted message hands out** are the payloads of the groups that it completes; each
member of these groups has one payload there. -/
theorem ready_of_handedOut (h : (receive c r m).2.2 = .ok (.ready inputs joined)) (hj : joined ≠ []) :
    joined = (handedOut c r m).map (·.1.id) ∧ (inputs.map (·.1)).Nodup ∧
      (∀ n, n ∈ inputs.map (·.1) ↔ ∃ e ∈ handedOut c r m, n ∈ e.2.map (·.1)) ∧
      ∀ n p, (n, p) ∈ inputs → ∃ e ∈ handedOut c r m, (n, p) ∈ e.2 := by
  obtain ⟨hdjoined, hdinputs⟩ := deliver_completions r.owner m.sender m.id m.payload m.now
    ⟨(r.refresh c.text m.now).1, [], [], []⟩ (groupTargets c m.states.get? m.sender)
  rw [receive, admission_eq] at h
  cases herror : (r.delivery m.states m.now c m.sender m.id m.payload).2 with
  | some e =>
    rw [herror] at h
    cases h
  | none =>
    rw [herror] at h
    obtain ⟨rfl, rfl⟩ := answer_ready h hj
    have hall : (r.delivery m.states m.now c m.sender m.id m.payload).1.inputs =
        addInputs [] ((handedOut c r m).flatMap (·.2)) := hdinputs
    refine ⟨hdjoined, ?_, fun n => ?_, fun n p hn => ?_⟩
    · rw [hall]
      exact nodup_addInputs List.nodup_nil
    · rw [hall, mem_names_addInputs]
      simp only [List.map_nil, List.not_mem_nil, false_or, List.map_flatMap, List.mem_flatMap]
    · rw [hall] at hn
      rcases mem_of_mem_addInputs hn with hn | hn
      · cases hn
      · exact List.mem_flatMap.mp hn

variable {T : CommunicationId → Name → P → Prop}

/-- What the payload of a message has and all open groups have, they still have afterwards. -/
theorem receive_stems (h : (r.refresh c.text m.now).1.Stems T) (hT : T m.id m.sender m.payload) :
    (receive c r m).1.barriers.Stems T := by
  rw [receive, admission_eq]
  exact deliver_keeps (fun _ _ _ hb => hb.arrive hT) h

theorem handedOut_stems (h : (r.refresh c.text m.now).1.Stems T) (hT : T m.id m.sender m.payload)
    {e : Statement × List (Name × P)} (he : e ∈ handedOut c r m) {n : Name} {p : P}
    (hn : (n, p) ∈ e.2) : T m.id n p :=
  (mem_completions h hT he).2.2 n p hn

/-- What a message hands out has it too. -/
theorem ready_stems (h : (r.refresh c.text m.now).1.Stems T) (hT : T m.id m.sender m.payload)
    (ha : (receive c r m).2.2 = .ok (.ready inputs joined)) {n : Name} {p : P}
    (hn : (n, p) ∈ inputs) : T m.id n p := by
  cases joined with
  | cons k ks =>
    obtain ⟨-, -, -, hfrom⟩ := ready_of_handedOut ha (List.cons_ne_nil k ks)
    obtain ⟨e, he, hmem⟩ := hfrom n p hn
    exact handedOut_stems h hT he hmem
  | nil =>
    obtain rfl := inputs_of_ready_nil ha
    cases List.mem_singleton.mp hn
    exact hT

end Admissions

/-! ## Runs -/

/-- A message under a composition compiled for its receiver. -/
structure Posting (owner : Name) (P : Type) extends Numbered P where
  composition : Composition
  isCompiled : compile composition.text owner = .ok composition

/-- The router after a run of messages. -/
def served {owner : Name} (ttl : Option Nat) (ms : List (Posting owner P)) : Router P :=
  ms.foldl (fun r m => (receive m.composition r m.toNumbered).1) (Router.new owner ttl)

/-- The messages at the end of a run that all come under the given text. -/
def lastUnder {owner : Name} (text : String) (ms : List (Posting owner P)) :
    List (Posting owner P) :=
  ms.rtakeWhile fun m => m.composition.text = text

/-- The payload has come from the sender for the request, under the text that is still in use. -/
def CameUnder {owner : Name} (text : String) (ms : List (Posting owner P)) (id : CommunicationId)
    (n : Name) (p : P) : Prop :=
  ∃ m ∈ lastUnder text ms, m.id = id ∧ m.sender = n ∧ m.payload = p

section Runs

variable {owner n : Name} {ttl : Option Nat} {ms : List (Posting owner P)} {m : Posting owner P}
  {id : CommunicationId} {p : P}

theorem served_concat :
    served ttl (ms ++ [m]) = (receive m.composition (served ttl ms) m.toNumbered).1 :=
  List.foldl_concat _ _ _ _

theorem reachable_served : Reachable owner ttl (served ttl ms) := by
  induction ms using List.reverseRecOn with
  | nil => exact .new
  | append_singleton ms m ih =>
    rw [served_concat]
    exact .admission ih m.isCompiled m.states m.now m.sender m.id m.payload

theorem lastUnder_concat :
    lastUnder m.composition.text (ms ++ [m]) = lastUnder m.composition.text ms ++ [m] := by
  unfold lastUnder
  exact List.rtakeWhile_concat_pos _ _ _ (decide_eq_true rfl)

theorem CameUnder.self : CameUnder m.composition.text (ms ++ [m]) m.id m.sender m.payload := by
  refine ⟨m, ?_, rfl, rfl, rfl⟩
  rw [lastUnder_concat]
  exact List.mem_append_right _ List.mem_cons_self

theorem CameUnder.concat (h : CameUnder m.composition.text ms id n p) :
    CameUnder m.composition.text (ms ++ [m]) id n p := by
  obtain ⟨m', hm', h⟩ := h
  refine ⟨m', ?_, h⟩
  rw [lastUnder_concat]
  exact List.mem_append_left _ hm'

/-- The store is bound to the text of the last message. -/
theorem served_concat_composition :
    (served ttl (ms ++ [m])).barriers.composition = some m.composition.text := by
  rw [served_concat, receive, admission_eq]
  exact (deliver_bound _ _ _ _ _ _ _).1.trans refresh_composition

/-- What an admission finds in the store has come under its text. -/
theorem refresh_stems
    (h : ∀ text, (served ttl ms).barriers.composition = some text →
      (served ttl ms).barriers.Stems (CameUnder text ms)) :
    ((served ttl ms).refresh m.composition.text m.now).1.Stems
      (CameUnder m.composition.text (ms ++ [m])) :=
  .refresh fun hb => (h _ hb).mono fun _ _ _ => CameUnder.concat

/-- **Every payload in an open group has come under the text that is still in use.** -/
theorem served_stems {text : String} (h : (served ttl ms).barriers.composition = some text) :
    (served ttl ms).barriers.Stems (CameUnder text ms) := by
  induction ms using List.reverseRecOn generalizing text with
  | nil => exact fun e he => absurd he List.not_mem_nil
  | append_singleton ms m ih =>
    rw [served_concat_composition] at h
    cases h
    rw [served_concat]
    exact receive_stems (refresh_stems fun text hb => ih hb) CameUnder.self

/-- An open group is one of a waiting statement of the last composition. -/
theorem open_group {e : GroupKey × Group P} (he : e ∈ (served ttl ms).barriers.groups) :
    ∃ last, ms.getLast? = some last ∧
      (served ttl ms).barriers.composition = some last.composition.text ∧
      ∃ s ∈ last.composition.statements, s.awaitsAll = true ∧ s.id = e.1.statement ∧
        e.2.arrivals.Partial s.inputs ∧
        ∀ n p, e.2.arrivals.get? n = some p → CameUnder last.composition.text ms e.1.id n p := by
  rcases List.eq_nil_or_concat' ms with rfl | ⟨ms, last, rfl⟩
  · exact absurd he List.not_mem_nil
  · have hbound : (served ttl (ms ++ [last])).barriers.composition =
        some last.composition.text := served_concat_composition
    obtain ⟨text, c, hb, hc, s, hs, hw, hid, hpartial⟩ :=
      reachable_served.sound e he
    obtain rfl : last.composition.text = text := Option.some.inj (hbound.symm.trans hb)
    obtain rfl : last.composition = c := Except.ok.inj (last.isCompiled.symm.trans hc)
    exact ⟨last, List.getLast?_concat, hbound, s, hs, hw, hid, hpartial, served_stems hbound e he⟩

/-- **The open groups are those of the last text.** Messages come under any compositions compiled for
their receiver, in any alternation.

Each open group belongs to a waiting statement of the composition of the last message. It has some of
the inputs of the statement, but not all and no others, and their payloads have all come for its
request since the text was last changed.

If one more message comes, each group that it completes hands out one payload of each input of its
statement, and these too have come for the request of the message since the text was last changed. What
the message hands out, if it is accepted and completes any groups, are payloads of these groups, one
for each of their members. -/
theorem groups_of_last_text (ttl : Option Nat) (ms : List (Posting owner P)) :
    (∀ e ∈ (served ttl ms).barriers.groups, ∃ last, ms.getLast? = some last ∧
      (served ttl ms).barriers.composition = some last.composition.text ∧
      ∃ s ∈ last.composition.statements, s.awaitsAll = true ∧ s.id = e.1.statement ∧
        e.2.arrivals.Partial s.inputs ∧
        ∀ n p, e.2.arrivals.get? n = some p →
          ∃ m ∈ lastUnder last.composition.text ms, m.id = e.1.id ∧ m.sender = n ∧ m.payload = p) ∧
    ∀ m : Posting owner P,
      (∀ e ∈ handedOut m.composition (served ttl ms) m.toNumbered,
        e.1 ∈ m.composition.statements ∧ e.1.awaitsAll = true ∧
        e.2.map (·.1) = e.1.inputs.toList ∧
        ∀ n p, (n, p) ∈ e.2 → ∃ m' ∈ lastUnder m.composition.text (ms ++ [m]),
          m'.id = m.id ∧ m'.sender = n ∧ m'.payload = p) ∧
      ∀ inputs joined,
        (receive m.composition (served ttl ms) m.toNumbered).2.2 = .ok (.ready inputs joined) →
        joined ≠ [] →
          joined = (handedOut m.composition (served ttl ms) m.toNumbered).map (·.1.id) ∧
          (inputs.map (·.1)).Nodup ∧
          (∀ n, n ∈ inputs.map (·.1) ↔
            ∃ e ∈ handedOut m.composition (served ttl ms) m.toNumbered, n ∈ e.1.inputs) ∧
          ∀ n p, (n, p) ∈ inputs →
            ∃ e ∈ handedOut m.composition (served ttl ms) m.toNumbered, (n, p) ∈ e.2 := by
  have hhanded {m : Posting owner P} {e : Statement × List (Name × P)}
      (he : e ∈ handedOut m.composition (served ttl ms) m.toNumbered) :=
    mem_completions (refresh_stems fun text hb => served_stems hb) CameUnder.self he
  refine ⟨fun e he => ?_, fun m => ⟨fun e he => ?_, fun inputs joined ha hj => ?_⟩⟩
  · exact open_group he
  · obtain ⟨hs, hnames, hcame⟩ := hhanded he
    obtain ⟨hs, hw, -⟩ := mem_statements_of_mem_groupTargets hs
    exact ⟨hs, hw, hnames, hcame⟩
  · obtain ⟨hjoined, hn, hmem, hfrom⟩ := ready_of_handedOut ha hj
    refine ⟨hjoined, hn, fun n => (hmem n).trans ?_, hfrom⟩
    refine exists_congr fun e => and_congr_right fun he => ?_
    rw [(hhanded he).2.1]
    rfl

/-- A message of the first request for the service `B` of `pairText`. -/
def pairPosting (sender payload : String) : Posting (.sample "B") String :=
  ⟨⟨⟨.sample sender, payload, ∅, 0⟩, 1⟩, pair, compile_pair⟩

/-- After a message from `A` a group is open, and one from `E` completes it. -/
theorem pair_completed :
    (∃ e ∈ (served none [pairPosting "A" "a"]).barriers.groups, ∃ s ∈ pair.statements,
      s.id = e.1.statement ∧ e.2.arrivals.Partial s.inputs) ∧
    ∃ e ∈ handedOut pair (served none [pairPosting "A" "a"]) (pairPosting "E" "e").toNumbered,
      e.2.map (·.1) = e.1.inputs.toList := by
  obtain ⟨hopen, hnext⟩ := groups_of_last_text none [pairPosting "A" "a"]
  have hone : (served none [pairPosting "A" "a"]).barriers.groups ≠ [] := by decide +kernel
  have htwo : handedOut pair (served none [pairPosting "A" "a"])
      (pairPosting "E" "e").toNumbered ≠ [] := by decide +kernel
  obtain ⟨e, he⟩ := List.exists_mem_of_ne_nil _ hone
  obtain ⟨last, hlast, -, s, hs, -, hid, hpartial, -⟩ := hopen e he
  cases hlast
  obtain ⟨e', he'⟩ := List.exists_mem_of_ne_nil _ htwo
  exact ⟨⟨e, he, s, hs, hid, hpartial⟩, e', he', ((hnext (pairPosting "E" "e")).1 e' he').2.2.1⟩

end Runs

end Router

end ServiceFlow
