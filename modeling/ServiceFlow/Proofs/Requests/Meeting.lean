import ServiceFlow.Proofs.Requests.Isolation

/-!
# Requests of one number meet

Two requests that have got the same number can be brought together in a group: their clients send them
to two services, which hand the data on to a third one that waits for both.

* `relayText`: a composition of three services, `A` and `E` on one DPE and `B` on another.
* `Deployment.relayed`: a request sent to `A` or `E` comes to `B`.
* `Deployment.opened` and `Deployment.joined`: there the first opens a group and the second completes it.
* `Deployment.meet_of_number_eq`: so requests of one number can meet.
* `Deployment.requests_meet_iff`: and only these.
-/

namespace ServiceFlow

open ServiceFlow.Composition

/-! ## Three services -/

section Relay

variable {k : String}

/-- A service that passes data on. -/
def relay (k engine : String) : Name := ⟨"h", 7771, .java, .service k engine⟩

/-- The service that the data is passed on to. -/
def junction (k : String) : Name := ⟨"g", 7771, .java, .service k "B"⟩

/-- The junction waits for both relays. -/
def relayText (k : String) : String :=
  "h_java:" ++ k ++ ":A,h_java:" ++ k ++ ":E+&g_java:" ++ k ++ ":B"

/-- The three services. -/
def relayNames (k : String) : NameSet := .ofList [relay k "A", relay k "E", junction k]

/-- The composition as a relay sees it. -/
def passing (k engine : String) : Composition :=
  ⟨relayText k, relay k engine, [.unconditional [⟨⟨∅, .ofList [junction k], false⟩, 0⟩]], relayNames k⟩

/-- The group of the junction. -/
def joint (k : String) : Statement := ⟨⟨.ofList [relay k "A", relay k "E"], ∅, true⟩, 0⟩

/-- The composition as the junction sees it. -/
def joining (k : String) : Composition :=
  ⟨relayText k, junction k, [.unconditional [joint k]], relayNames k⟩

/-- Containers to choose from. -/
def relayContainers : List String := ["c", "d", "e"]

theorem compile_passing (hk : k ∈ relayContainers) {engine : String} (he : engine ∈ ["A", "E"]) :
    compile (relayText k) (relay k engine) = .ok (passing k engine) := by
  refine eq_ok_of_toOption ?_
  revert engine k
  decide +kernel

theorem compile_joining (hk : k ∈ relayContainers) :
    compile (relayText k) (junction k) = .ok (joining k) := by
  refine eq_ok_of_toOption ?_
  revert k
  decide +kernel

theorem parse_relay (hk : k ∈ relayContainers) {engine : String} (he : engine ∈ ["A", "E"]) :
    Name.parse (relay k engine).text = .ok (relay k engine) := by
  refine eq_ok_of_toOption ?_
  revert engine k
  decide +kernel

/-- Any two names leave a container whose services have other names. -/
theorem exists_container (n n' : Name) :
    ∃ k ∈ relayContainers, n ∉ relayNames k ∧ n' ∉ relayNames k := by
  have hpart {n : Name} {k : String} (hn : n ∈ relayNames k) : n.containerPart? = some k := by
    have hmem : n ∈ [relay k "A", relay k "E", junction k] := NameSet.mem_ofList.mp hn
    rcases List.mem_cons.mp hmem with rfl | hmem
    · rfl
    rcases List.mem_cons.mp hmem with rfl | hmem
    · rfl
    · obtain rfl := List.mem_singleton.mp hmem
      rfl
  by_contra hall
  have htaken (k : String) (hk : k ∈ relayContainers) :
      n.containerPart? = some k ∨ n'.containerPart? = some k := by
    by_contra hfree
    rw [not_or] at hfree
    exact hall ⟨k, hk, mt hpart hfree.1, mt hpart hfree.2⟩
  have hc := htaken "c" (by decide)
  have hd := htaken "d" (by decide)
  have he := htaken "e" (by decide)
  rcases hc with hc | hc <;> rcases hd with hd | hd <;> rcases he with he | he <;> simp_all

end Relay

/-! ## A relay -/

section Passing

variable {k engine : String} {sender : Name} (hout : sender ∉ relayNames k)
include hout

theorem passing_accepts :
    (passing k engine).accepts ⟨⟨∅, .ofList [junction k], false⟩, 0⟩ sender = true := by
  unfold accepts
  exact (if_pos rfl).trans (decide_eq_true hout)

variable (engine) in
/-- A relay lets a message from outside through by itself. -/
theorem receive_passing (r : Router (Traced EngineData)) (d : Traced EngineData)
    (states : StateTable) (now : Nat) (id : CommunicationId) :
    (Router.receive (passing k engine) r ⟨⟨sender, d, states, now⟩, id⟩).2.2 =
        .ok (.ready [(sender, d)] []) ∧
      Router.handedOut (passing k engine) r ⟨⟨sender, d, states, now⟩, id⟩ = [] := by
  have htargets : Router.groupTargets (passing k engine) states.get? sender = [] := rfl
  have hplain : Router.plainAccepts (passing k engine) sender = true := by
    unfold Router.plainAccepts statements
    exact (Bool.or_false _).trans (passing_accepts hout)
  refine ⟨?_, ?_⟩
  · unfold Router.receive Router.admission
    simp only [htargets, hplain]
    rfl
  · unfold Router.handedOut
    rw [htargets]
    rfl

/-- The output of a relay goes to the junction. -/
theorem destinations_passing (states : StateTable) :
    (Router.destinations (passing k engine) states sender []).toList = [junction k] := by
  unfold Router.destinations
  have hselected : (passing k engine).selected states.get? =
      [⟨⟨∅, .ofList [junction k], false⟩, 0⟩] := rfl
  have hfires : Router.fires (passing k engine) sender [] ⟨⟨∅, .ofList [junction k], false⟩, 0⟩ =
      true := passing_accepts hout
  rw [hselected, List.filter_cons_of_pos hfires]
  rfl

/-- A relay that has not got any message lets this one through. -/
theorem take_relay (hk : k ∈ relayContainers) (he : engine ∈ ["A", "E"]) (m : Message)
    (hm : m.header.composition = relayText k) (d : Traced EngineData) (ttl : Option Nat)
    (now : Nat) :
    ((TracedService.new (relay k engine) ttl).take m sender d now).works =
        [⟨relay k engine, ⟨m, sender, passing k engine, [d.content], []⟩, d.origins⟩] ∧
      ((TracedService.new (relay k engine) ttl).take m sender d now).completed = [] := by
  have hresolve : ((CompositionCache.new (relay k engine)).resolve m.header.composition).2.2 =
      .ok (passing k engine) := by
    unfold CompositionCache.resolve CompositionCache.new CompositionCache.compile
    simp only [hm, compile_passing hk he]
  unfold TracedService.take TracedService.new
  simp only
  rcases hcache : (CompositionCache.new (relay k engine)).resolve m.header.composition
    with ⟨cache, logs, r⟩
  rw [hcache] at hresolve
  obtain rfl : r = .ok (passing k engine) := hresolve
  obtain ⟨hready, hnone⟩ := receive_passing engine hout (.new (relay k engine) ttl) d
    ((∅ : StateTable).record sender d.content.state) now m.header.id
  simp only [hready, hnone]
  refine ⟨?_, rfl⟩
  simp [Router.new]

end Passing

/-! ## The junction -/

section Joining

variable {k engine : String} {d : Traced EngineData}

theorem relay_ne (k : String) : relay k "A" ≠ relay k "E" := by
  intro h
  injection h with _ _ _ h
  injection h with _ h
  exact absurd h (by decide)

theorem junction_ne (k engine : String) : junction k ≠ relay k engine := by
  intro h
  injection h with h
  exact absurd h (by decide)

theorem mem_joint {n : Name} : n ∈ (joint k).inputs ↔ n = relay k "A" ∨ n = relay k "E" := by
  change n ∈ NameSet.ofList _ ↔ _
  rw [NameSet.mem_ofList, List.mem_pair]

/-- A message of a relay goes into the group of the junction. -/
theorem groupTargets_joining (he : engine ∈ ["A", "E"]) (stateOf : Name → Option String) :
    Router.groupTargets (joining k) stateOf (relay k engine) = [joint k] := by
  have hmem : relay k engine ∈ (joint k).inputs := by
    rw [mem_joint]
    exact (List.mem_pair.mp he).imp (congrArg (relay k)) (congrArg (relay k))
  have hselected : (joining k).selected stateOf = [joint k] := rfl
  have htakes : ((joint k).awaitsAll && decide (relay k engine ∈ (joint k).inputs)) = true := by
    rw [decide_eq_true hmem]
    rfl
  unfold Router.groupTargets
  rw [hselected, List.filter_cons, if_pos htakes]
  rfl

/-- The group of a request, with the input of the relay `A`. -/
structure Half (k : String) (id : CommunicationId) (d : Traced EngineData) (s : TracedService) :
    Prop where
  compiled : s.cache.current = some (joining k)
  bound : s.router.barriers.composition = some (relayText k)
  no_ttl : s.router.barriers.ttl = none
  held : s.router.barriers.held ⟨0, id⟩ = (∅ : NameMap (Traced EngineData)).set (relay k "A") d

/-- **The first input opens the group.** -/
theorem take_first (hk : k ∈ relayContainers) (m : Message)
    (hm : m.header.composition = relayText k) (d : Traced EngineData) (now : Nat) :
    Half k m.header.id d
      ((TracedService.new (junction k) none).take m (relay k "A") d now).service := by
  let b : BarrierStore (Traced EngineData) := ⟨none, some (relayText k), []⟩
  let b' : BarrierStore (Traced EngineData) :=
    { b with groups := b.groups.set ⟨0, m.header.id⟩ (b.grown now ⟨0, m.header.id⟩ (relay k "A") d) }
  have hresolve : (CompositionCache.new (junction k)).resolve m.header.composition =
      (⟨junction k, some (joining k), 1⟩,
        [.compositionCompiled (junction k).text (relayText k) 1 1], .ok (joining k)) := by
    unfold CompositionCache.resolve CompositionCache.new CompositionCache.compile
    simp only [hm, compile_joining hk]
    rfl
  have hrefresh : ((Router.new (junction k) none).refresh (joining k).text now).1 = b := rfl
  have hfree : (b.held ⟨(joint k).id, m.header.id⟩).has (relay k "A") = false := rfl
  have hwaits : ¬ b.Completes ⟨(joint k).id, m.header.id⟩ (relay k "A") (joint k).inputs := by
    intro h
    rcases (h (relay k "E")).mpr (mem_joint.mpr (Or.inr rfl)) with h | h
    · exact relay_ne k h
    · cases h
  have hbarriers (states : StateTable) :
      (Router.receive (joining k) (.new (junction k) none)
        ⟨⟨relay k "A", d, states, now⟩, m.header.id⟩).1.barriers = b' := by
    unfold Router.receive
    rw [Router.admission_eq]
    unfold Router.delivery
    rw [hrefresh, groupTargets_joining List.mem_cons_self]
    unfold Router.deliver
    rw [BarrierStore.arrive_pending hfree hwaits]
    rfl
  unfold TracedService.take TracedService.new
  simp only [hresolve]
  refine ⟨rfl, ?_, ?_, ?_⟩
  · rw [hbarriers]
  · rw [hbarriers]
  · rw [hbarriers]
    have hgroup : b'.groups.get? ⟨0, m.header.id⟩ =
        some (b.grown now ⟨0, m.header.id⟩ (relay k "A") d) :=
      (Table.get?_set _ _ _ _).trans (if_pos rfl)
    exact BarrierStore.held_of_get?_eq_some hgroup

/-- **The second input completes it.** -/
theorem take_second (m : Message) (hm : m.header.composition = relayText k) {s : TracedService}
    (hs : Half k m.header.id d s) (d' : Traced EngineData) (now : Nat) :
    ∃ g ∈ (s.take m (relay k "E") d' now).completed,
      (relay k "A", d) ∈ g.inputs ∧ (relay k "E", d') ∈ g.inputs := by
  have hresolve : s.cache.resolve m.header.composition = (s.cache, [], .ok (joining k)) := by
    unfold CompositionCache.resolve
    rw [hs.compiled, hm]
    exact if_pos rfl
  have hrefresh : (s.router.refresh (joining k).text now).1 = s.router.barriers := by
    have htext : (joining k).text = relayText k := rfl
    unfold Router.refresh BarrierStore.supersede BarrierStore.evictExpired
    simp only [htext, hs.bound, if_true, hs.no_ttl]
  have hheld : s.router.barriers.held ⟨(joint k).id, m.header.id⟩ =
      (∅ : NameMap (Traced EngineData)).set (relay k "A") d := hs.held
  have hfree : (s.router.barriers.held ⟨(joint k).id, m.header.id⟩).has (relay k "E") = false := by
    rw [hheld, Bool.eq_false_iff, Ne, NameMap.has_set]
    rintro (h | h)
    · exact relay_ne k h
    · cases h
  have hcompletes : s.router.barriers.Completes ⟨(joint k).id, m.header.id⟩ (relay k "E")
      (joint k).inputs := by
    intro n
    rw [hheld, NameMap.has_set, NameMap.has_empty, mem_joint]
    simp only [Bool.false_eq_true, or_false, eq_comm]
    exact or_comm
  unfold TracedService.take
  rw [hresolve]
  unfold Router.handedOut
  simp only [hrefresh, groupTargets_joining (k := k) (List.mem_cons_of_mem "A" List.mem_cons_self)]
  unfold Router.completions
  rw [BarrierStore.arrive_completes hfree hcompletes, hheld]
  refine ⟨_, List.mem_cons_self, NameMap.mem_entries.mpr ?_, NameMap.mem_entries.mpr ?_⟩
  · rw [NameMap.get?_set, if_neg (relay_ne k).symm, NameMap.get?_set, if_pos rfl]
  · rw [NameMap.get?_set, if_pos rfl]

end Joining

namespace Deployment

variable {w : Deployment}

/-! ## Single events -/

theorem run_append (w : Deployment) (es es' : List Event) : w.run (es ++ es') = (w.run es).run es' :=
  List.foldl_append

theorem run_single (w : Deployment) (e : Event) : w.run [e] = w.step e := rfl

theorem eraseIdx_concat {α : Type} (l : List α) (a : α) : (l ++ [a]).eraseIdx l.length = l := by
  rw [List.eraseIdx_append_of_length_le le_rfl, Nat.sub_self]
  exact List.append_nil l

/-- A service serves the last of all messages. -/
theorem step_serve {l : List (Traced Message)} {m : Traced Message} (hair : w.air = l ++ [m])
    {service : Name} (hfor : w.isFor service m.content = true) (now : Nat) :
    w.step (.serve service l.length now) =
      ({ w with air := l } : Deployment).serve service m now := by
  simp only [step, hair, List.getElem?_concat_length, eraseIdx_concat, hfor, if_true]

/-- A message with its data in it is given to the service. -/
theorem serve_network {m : Traced Message} {sender : Name}
    (hp : Name.parse m.content.header.author = .ok sender) (hl : m.content.location = .network)
    (service : Name) (now : Nat) :
    w.serve service m now =
      { w with
        services := Function.update w.services service
          ((w.services service).take m.content sender (m.map Message.engineData) now).service
        works := w.works ++
          ((w.services service).take m.content sender (m.map Message.engineData) now).works
        completed := w.completed ++
          ((w.services service).take m.content sender (m.map Message.engineData) now).completed } := by
  have hfetch : fetch w.memory service sender m = (w.memory, some (m.map Message.engineData)) := by
    unfold fetch
    rw [hl]
  exact serve_found hp hfetch

/-- The last execution ends. -/
theorem step_finish {l : List Work} {j : Work} (hworks : w.works = l ++ [j]) (output : EngineData) :
    w.step (.finish l.length (.ok output)) =
      ({ w with works := l } : Deployment).finish j output := by
  simp only [step, hworks, List.getElem?_concat_length, eraseIdx_concat]

/-- A client can start any number of requests that nobody serves. -/
theorem idle (w : Deployment) (client : Name) (n : Nat) :
    ∃ es, (w.run es).started = Function.update w.started client (w.started client + n) ∧
      (w.run es).services = w.services ∧ (w.run es).deployed = w.deployed := by
  induction n with
  | zero => exact ⟨[], (Function.update_eq_self client w.started).symm, rfl, rfl⟩
  | succ n ih =>
    obtain ⟨es, hstarted, hservices, hdeployed⟩ := ih
    refine ⟨es ++ [.execute client client "" default], ?_, ?_, ?_⟩
    · rw [run_append]
      change Function.update (w.run es).started client ((w.run es).started client + 1) = _
      rw [hstarted, Function.update_self, Function.update_idem]
      rfl
    · rw [run_append]
      exact hservices
    · rw [run_append]
      exact hdeployed

/-- Data on its way to a service. -/
def sentTo (service author : Name) (text : String) (d : EngineData) (origins : List Request) :
    Traced Message := ⟨.ofData (.ofName service) author text d .network, origins⟩

/-- A deployed service takes data that is sent to it. -/
theorem isFor_sentTo {service : Name} (h : service ∈ w.deployed) (author : Name) (text : String)
    (d : EngineData) (origins : List Request) :
    w.isFor service (sentTo service author text d origins).content = true := by
  have hcovers : (Topic.ofName service).covers (Topic.ofName service) = true :=
    Topic.covers_iff.mpr (Or.inl rfl)
  have haction : (sentTo service author text d origins).content.action = .execute := rfl
  unfold isFor
  rw [haction, decide_eq_true h]
  exact congrArg (true && · && true) hcovers

section Relayed

variable {k engine : String} {client : Name}

/-- A relay takes a message of a client in. -/
theorem serve_relay (hout : client ∉ relayNames k) (hk : k ∈ relayContainers) (he : engine ∈ ["A", "E"])
    (hp : Name.parse client.text = .ok client)
    (hdeployed : relay k engine ∈ w.deployed)
    (hnew : w.services (relay k engine) = .new (relay k engine) none) {l : List (Traced Message)}
    {d : EngineData} {origins : List Request}
    (hair : w.air = l ++ [sentTo (relay k engine) client (relayText k) d origins]) :
    ∃ s, w.step (.serve (relay k engine) l.length 0) =
      { w with
        services := Function.update w.services (relay k engine) s
        air := l
        works := w.works ++ [⟨relay k engine,
          ⟨(sentTo (relay k engine) client (relayText k) d origins).content, client,
            passing k engine, [d], []⟩, origins⟩] } := by
  have hdata : (sentTo (relay k engine) client (relayText k) d origins).map Message.engineData =
      ⟨d, origins⟩ := rfl
  obtain ⟨hworks, hcompleted⟩ := take_relay hout hk he
    (sentTo (relay k engine) client (relayText k) d origins).content rfl ⟨d, origins⟩ none 0
  rw [step_serve hair (isFor_sentTo hdeployed client _ _ _), serve_network hp rfl]
  simp only [hnew, hdata, hworks, hcompleted, List.append_nil]
  exact ⟨_, rfl⟩

/-- The output of a relay is sent to the junction. -/
theorem finish_relay (hout : client ∉ relayNames k) {l : List Work} {m : Message}
    {inputs : List EngineData} {origins : List Request} (hreply : m.header.replyTo = none)
    (hworks : w.works = l ++
      [⟨relay k engine, ⟨m, client, passing k engine, inputs, []⟩, origins⟩]) (d : EngineData) :
    ∃ s, w.step (.finish l.length (.ok d)) =
      { w with
        services := Function.update w.services (relay k engine) s
        works := l
        air := w.air ++
          [sentTo (junction k) (relay k engine) (relayText k) { d with id := m.header.id } origins] } := by
  have hshares (w : Deployment) : w.shares (relay k engine) (junction k) = false := by
    have hprocess : (relay k engine).sameProcess (junction k) = false := rfl
    unfold shares
    rw [hprocess]
    rfl
  rw [step_finish hworks]
  unfold finish handOn
  simp only [hreply, destinations_passing hout, List.foldl_cons, List.foldl_nil, send, posted, location,
    hshares]
  exact ⟨_, rfl⟩

/-- **A request that is sent to a relay comes to the junction.** -/
theorem relayed (hout : client ∉ relayNames k) (ht : w.Tracked) (hk : k ∈ relayContainers)
    (he : engine ∈ ["A", "E"]) (hp : Name.parse client.text = .ok client)
    (hdeployed : relay k engine ∈ w.deployed)
    (hnew : w.services (relay k engine) = .new (relay k engine) none) (d : EngineData) :
    ∃ es s l, (w.run es).started = Function.update w.started client (w.started client + 1) ∧
      (w.run es).deployed = w.deployed ∧
      (w.run es).services = Function.update w.services (relay k engine) s ∧
      (w.run es).air = l ++ [sentTo (junction k) (relay k engine) (relayText k)
        { d with id := Request.number ⟨client, w.started client⟩ } [⟨client, w.started client⟩]] := by
  let d' : EngineData := { d with id := Request.number ⟨client, w.started client⟩ }
  let m := sentTo (relay k engine) client (relayText k) d' [⟨client, w.started client⟩]
  -- the message comes to the relay
  let w₁ := w.step (.execute client (relay k engine) (relayText k) d)
  have hair : w₁.air = w.air ++ [m] := by
    have hm : m = sentTo (relay k engine) (w.clients client).name (relayText k)
        { d with id := (w.clients client).nextId } [⟨client, w.started client⟩] := by
      rw [ht.names, ht.next]
    rw [hm]
    rfl
  -- the relay executes it
  obtain ⟨s, hserve⟩ := serve_relay (w := w₁) hout hk he hp hdeployed hnew hair
  let w₂ := w₁.step (.serve (relay k engine) w.air.length 0)
  have hworks : w₂.works = w.works ++
      [⟨relay k engine, ⟨m.content, client, passing k engine, [d'], []⟩, m.origins⟩] :=
    congrArg works hserve
  -- its output goes to the junction
  obtain ⟨s', hfinish⟩ := finish_relay (w := w₂) hout rfl hworks d
  refine ⟨[.execute client (relay k engine) (relayText k) d, .serve (relay k engine) w.air.length 0,
    .finish w.works.length (.ok d)], s', w₂.air, ?_⟩
  have hrun : w.run [.execute client (relay k engine) (relayText k) d,
      .serve (relay k engine) w.air.length 0, .finish w.works.length (.ok d)] =
        w₂.step (.finish w.works.length (.ok d)) := rfl
  have hservices : w₂.services = Function.update w.services (relay k engine) s :=
    congrArg services hserve
  have hstarted : w₂.started = Function.update w.started client (w.started client + 1) :=
    congrArg started hserve
  have hdeployed : w₂.deployed = w.deployed := Eq.trans (congrArg deployed hserve) rfl
  rw [hrun, hfinish]
  refine ⟨hstarted, hdeployed, ?_, rfl⟩
  rw [hservices, Function.update_idem]

variable (engine) in
/-- A client that has started fewer requests can bring its next one but some to the junction. -/
theorem brought {q : Request} (ht : w.Tracked) (hout : q.client ∉ relayNames k)
    (hk : k ∈ relayContainers) (he : engine ∈ ["A", "E"]) (hp : Name.parse q.client.text = .ok q.client)
    (hle : w.started q.client ≤ q.before) (hdeployed : relay k engine ∈ w.deployed)
    (hnew : w.services (relay k engine) = .new (relay k engine) none) :
    ∃ es s l, (w.run es).started = Function.update w.started q.client (q.before + 1) ∧
      (w.run es).deployed = w.deployed ∧
      (w.run es).services = Function.update w.services (relay k engine) s ∧
      (w.run es).air = l ++ [sentTo (junction k) (relay k engine) (relayText k)
        { (default : EngineData) with id := q.number } [q]] := by
  obtain ⟨es₁, hstarted₁, hservices₁, hdeployed₁⟩ := w.idle q.client (q.before - w.started q.client)
  have hbefore : (w.run es₁).started q.client = q.before := by
    rw [hstarted₁, Function.update_self, Nat.add_sub_cancel' hle]
  obtain ⟨es₂, s, l, hstarted₂, hdeployed₂, hservices₂, hair⟩ := relayed hout (ht.run es₁) hk he hp
    (hdeployed₁ ▸ hdeployed) ((congrFun hservices₁ _).trans hnew) default
  rw [hbefore] at hstarted₂ hair
  refine ⟨es₁ ++ es₂, s, l, ?_, ?_, ?_, ?_⟩
  · rw [run_append, hstarted₂, hstarted₁, Function.update_idem]
  · rw [run_append, hdeployed₂, hdeployed₁]
  · rw [run_append, hservices₂, hservices₁]
  · rw [run_append]
    exact hair

end Relayed

section Junction

variable {k : String} (hk : k ∈ relayContainers) {l : List (Traced Message)} {d d' : EngineData}
  {origins origins' : List Request}
include hk

/-- **The first input waits at the junction.** -/
theorem opened (hdeployed : junction k ∈ w.deployed)
    (hnew : w.services (junction k) = .new (junction k) none)
    (hair : w.air = l ++ [sentTo (junction k) (relay k "A") (relayText k) d origins]) :
    ∃ s, Half k d.id ⟨d, origins⟩ s ∧
      (w.step (.serve (junction k) l.length 0)).services = Function.update w.services (junction k) s ∧
      (w.step (.serve (junction k) l.length 0)).started = w.started ∧
      (w.step (.serve (junction k) l.length 0)).deployed = w.deployed := by
  have hauthor : Name.parse (sentTo (junction k) (relay k "A") (relayText k) d
      origins).content.header.author = .ok (relay k "A") := parse_relay hk List.mem_cons_self
  have hhalf := take_first hk
    (sentTo (junction k) (relay k "A") (relayText k) d origins).content rfl ⟨d, origins⟩ 0
  rw [← hnew] at hhalf
  rw [step_serve hair (isFor_sentTo hdeployed _ _ _ _), serve_network hauthor rfl]
  exact ⟨_, hhalf, rfl, rfl, rfl⟩

/-- **The second input meets it there.** -/
theorem joined (hdeployed : junction k ∈ w.deployed)
    (hhalf : Half k d'.id ⟨d, origins⟩ (w.services (junction k)))
    (hair : w.air = l ++ [sentTo (junction k) (relay k "E") (relayText k) d' origins']) {q q' : Request}
    (hq : q ∈ origins) (hq' : q' ∈ origins') :
    (w.step (.serve (junction k) l.length 0)).Meet q q' := by
  have hauthor : Name.parse (sentTo (junction k) (relay k "E") (relayText k) d'
      origins').content.header.author = .ok (relay k "E") :=
    parse_relay hk (List.mem_cons_of_mem "A" List.mem_cons_self)
  obtain ⟨g, hg, hA, hE⟩ := take_second
    (sentTo (junction k) (relay k "E") (relayText k) d' origins').content rfl hhalf ⟨d', origins'⟩ 0
  rw [step_serve hair (isFor_sentTo hdeployed _ _ _ _), serve_network hauthor rfl]
  exact ⟨g, List.mem_append_right _ hg, ⟨_, hA, hq⟩, _, hE, hq'⟩

end Junction

/-! ## Meetings -/

/-- Services can be deployed without anything else happening. -/
theorem deploy_all (w : Deployment) (hnew : ∀ n, w.services n = .new n none) (ns : List Name) :
    ∃ es, (∀ n, (w.run es).services n = .new n none) ∧ (w.run es).started = w.started ∧
      ∀ n, n ∈ ns ∨ n ∈ w.deployed → n ∈ (w.run es).deployed := by
  induction ns generalizing w with
  | nil => exact ⟨[], hnew, rfl, fun n hn => hn.elim (fun h => absurd h List.not_mem_nil) id⟩
  | cons n ns ih =>
    by_cases hn : n ∈ w.deployed
    · obtain ⟨es, hservices, hstarted, hdeployed⟩ := ih w hnew
      refine ⟨es, hservices, hstarted, fun n' hn' => hdeployed n' ?_⟩
      rw [List.mem_cons, or_assoc] at hn'
      exact hn'.elim (fun h => Or.inr (h ▸ hn)) id
    · have hstep : w.step (.deploy n none) = { w with
          deployed := w.deployed.insert n
          services := Function.update w.services n (.new n none) } := if_neg hn
      have hnew' (n' : Name) : (w.step (.deploy n none)).services n' = .new n' none := by
        rw [hstep]
        change Function.update w.services n (.new n none) n' = _
        rw [Function.update_apply]
        split
        · rename_i h
          rw [h]
        · exact hnew n'
      obtain ⟨es, hservices, hstarted, hdeployed⟩ := ih _ hnew'
      refine ⟨.deploy n none :: es, hservices, hstarted.trans ?_, fun n' hn' => hdeployed n' ?_⟩
      · rw [hstep]
      · rw [hstep]
        change n' ∈ ns ∨ n' ∈ w.deployed.insert n
        rw [NameSet.mem_insert]
        rw [List.mem_cons, or_assoc, or_left_comm] at hn'
        exact hn'

/-- **Any request can open the group**, with nothing else started but by its client. -/
theorem exists_half {k : String} {q : Request} (hout : q.client ∉ relayNames k)
    (hk : k ∈ relayContainers) (hp : Name.parse q.client.text = .ok q.client) (timeoutMs : Nat) :
    ∃ es, Half k q.number ⟨{ (default : EngineData) with id := q.number }, [q]⟩
        (((start timeoutMs).run es).services (junction k)) ∧
      ((start timeoutMs).run es).services (relay k "E") = .new (relay k "E") none ∧
      relay k "E" ∈ ((start timeoutMs).run es).deployed ∧
      junction k ∈ ((start timeoutMs).run es).deployed ∧
      ((start timeoutMs).run es).started = Function.update (fun _ => 0) q.client (q.before + 1) := by
  obtain ⟨es₀, hnew, hstarted₀, hdeployed₀⟩ := (start timeoutMs).deploy_all (fun _ => rfl)
    [relay k "A", relay k "E", junction k]
  generalize hw₀ : (start timeoutMs).run es₀ = w₀ at hnew hstarted₀ hdeployed₀
  have ht₀ : w₀.Tracked := hw₀ ▸ tracked_run timeoutMs es₀
  have hA := hdeployed₀ (relay k "A") (Or.inl List.mem_cons_self)
  have hE := hdeployed₀ (relay k "E") (Or.inl (List.mem_cons_of_mem _ List.mem_cons_self))
  have hB := hdeployed₀ (junction k) (Or.inl (List.mem_of_getLast? rfl))
  have hle : w₀.started q.client ≤ q.before := by
    rw [hstarted₀]
    exact Nat.zero_le _
  obtain ⟨es₁, s₁, l₁, hstarted₁, hdeployed₁, hservices₁, hair₁⟩ :=
    brought "A" ht₀ hout hk List.mem_cons_self hp hle hA (hnew _)
  have hnew₁ {n : Name} (hn : n ≠ relay k "A") : (w₀.run es₁).services n = .new n none := by
    rw [hservices₁, Function.update_of_ne hn, hnew]
  obtain ⟨s₂, hhalf, hservices₂, hstarted₂, hdeployed₂⟩ :=
    opened hk (hdeployed₁ ▸ hB) (hnew₁ (junction_ne k "A")) hair₁
  rw [hdeployed₁] at hdeployed₂
  refine ⟨es₀ ++ es₁ ++ [.serve (junction k) l₁.length 0], ?_⟩
  rw [run_append, run_append, hw₀, run_single]
  refine ⟨?_, ?_, hdeployed₂ ▸ hE, hdeployed₂ ▸ hB, ?_⟩
  · rw [hservices₂, Function.update_self]
    exact hhalf
  · rw [hservices₂, Function.update_of_ne (junction_ne k "E").symm]
    exact hnew₁ (relay_ne k).symm
  · rw [hstarted₂, hstarted₁, hstarted₀]
    rfl

/-- Two requests of one number meet if the first can be started before the second. -/
theorem meet_in_order {q q' : Request} (hnumber : q.number = q'.number)
    (horder : q.client = q'.client → q.before < q'.before)
    (hp : Name.parse q.client.text = .ok q.client)
    (hp' : Name.parse q'.client.text = .ok q'.client) (timeoutMs : Nat) :
    ∃ es, ((start timeoutMs).run es).Meet q q' := by
  obtain ⟨k, hk, hout, hout'⟩ := exists_container q.client q'.client
  obtain ⟨es₁, hhalf, hnew, hE, hB, hstarted⟩ := exists_half hout hk hp timeoutMs
  generalize hw₁ : (start timeoutMs).run es₁ = w₁ at hhalf hnew hE hB hstarted
  have ht₁ : w₁.Tracked := hw₁ ▸ tracked_run timeoutMs es₁
  have hle : w₁.started q'.client ≤ q'.before := by
    rw [hstarted, Function.update_apply]
    split
    · rename_i hclient
      exact horder hclient.symm
    · exact Nat.zero_le _
  obtain ⟨es₂, s, l, -, hdeployed, hservices, hair⟩ :=
    brought "E" ht₁ hout' hk (List.mem_cons_of_mem "A" List.mem_cons_self) hp' hle hE hnew
  have hkept : (w₁.run es₂).services (junction k) = w₁.services (junction k) := by
    rw [hservices, Function.update_of_ne (junction_ne k "E")]
  have hmeet := joined hk (hdeployed ▸ hB) (hkept ▸ hnumber ▸ hhalf) hair
    (List.mem_singleton_self q) (List.mem_singleton_self q')
  refine ⟨es₁ ++ es₂ ++ [.serve (junction k) l.length 0], ?_⟩
  rw [run_append, run_append, hw₁]
  exact hmeet

/-- **Requests of one number can meet.** -/
theorem meet_of_number_eq {q q' : Request} (hne : q ≠ q') (hnumber : q.number = q'.number)
    (hp : Name.parse q.client.text = .ok q.client)
    (hp' : Name.parse q'.client.text = .ok q'.client) (timeoutMs : Nat) :
    ∃ es, ((start timeoutMs).run es).Meet q q' := by
  by_cases horder : q.client = q'.client → q.before < q'.before
  · exact meet_in_order hnumber horder hp hp' timeoutMs
  · rw [Classical.not_imp, Nat.not_lt] at horder
    obtain ⟨hclient, hle⟩ := horder
    have hbefore : q'.before ≠ q.before := by
      intro hbefore
      obtain ⟨client, before⟩ := q
      obtain ⟨client', before'⟩ := q'
      cases hclient
      cases hbefore
      exact hne rfl
    obtain ⟨es, g, hg, hq', hq⟩ :=
      meet_in_order hnumber.symm (fun _ => lt_of_le_of_ne hle hbefore) hp' hp timeoutMs
    exact ⟨es, g, hg, hq, hq'⟩

/-- **Requests can meet exactly if they have the same number.** As long as all numbers differ, each group
belongs to one request; so it is if only one client starts requests, up to 2⁶⁴ of them. But two requests
with as many requests of their clients before them can meet. -/
theorem requests_meet_iff (timeoutMs : Nat) :
    (∀ es, ((start timeoutMs).run es).Numbered → ((start timeoutMs).run es).Isolated) ∧
      (∀ es client, (∀ n, n ≠ client → ((start timeoutMs).run es).started n = 0) →
        ((start timeoutMs).run es).started client ≤ Int64.size → ((start timeoutMs).run es).Isolated) ∧
      ∀ q q', q ≠ q' → Name.parse q.client.text = .ok q.client →
        Name.parse q'.client.text = .ok q'.client →
        ((∃ es, ((start timeoutMs).run es).Meet q q') ↔ q.before % Int64.size = q'.before % Int64.size) := by
  refine ⟨fun es => (tracked_run timeoutMs es).isolated, fun es client hone hmany => ?_,
    fun q q' hne hp hp' => ⟨?_, fun hbefore => ?_⟩⟩
  · refine (tracked_run timeoutMs es).isolated fun q q' hq hq' hnumber => ?_
    have hclient {q : Request} (hq : ((start timeoutMs).run es).Started q) : q.client = client := by
      by_contra hne
      exact absurd (hone q.client hne) (Nat.ne_of_gt (Nat.zero_lt_of_lt hq))
    have hbefore {q : Request} (hq : ((start timeoutMs).run es).Started q) : q.before < Int64.size :=
      Nat.lt_of_lt_of_le hq (hclient hq ▸ hmany)
    exact eq_of_number_eq ((hclient hq).trans (hclient hq').symm) (hbefore hq) (hbefore hq') hnumber
  · rintro ⟨es, hmeet⟩
    exact Request.number_eq_iff.mp ((tracked_run timeoutMs es).of_meet (Or.inl hmeet)).2
  · exact meet_of_number_eq hne (Request.number_eq_iff.mpr hbefore) hp hp' timeoutMs

instance (w : Deployment) (q q' : Request) : Decidable (w.Meet q q') :=
  inferInstanceAs (Decidable (∃ g ∈ w.completed, (∃ i ∈ g.inputs, q ∈ i.2.origins) ∧
    ∃ i ∈ g.inputs, q' ∈ i.2.origins))

/-- Clients on a host of their own. -/
def sampleClient (engine : String) : Name := ⟨"10.1.1.9", 7771, .java, .service "orchestrator" engine⟩

/-- The first requests of two clients can meet, but the first and the second request of one client cannot. -/
theorem sample_requests_meet :
    (∃ es, ((start 5000).run es).Meet ⟨sampleClient "One", 0⟩ ⟨sampleClient "Two", 0⟩) ∧
      ¬ ∃ es, ((start 5000).run es).Meet ⟨sampleClient "One", 0⟩ ⟨sampleClient "One", 1⟩ := by
  have hone : Name.parse (sampleClient "One").text = .ok (sampleClient "One") :=
    eq_ok_of_toOption (by decide +kernel)
  have htwo : Name.parse (sampleClient "Two").text = .ok (sampleClient "Two") :=
    eq_ok_of_toOption (by decide +kernel)
  have hmeet := (requests_meet_iff 5000).2.2
  have hboth := hmeet ⟨sampleClient "One", 0⟩ ⟨sampleClient "Two", 0⟩ (by decide) hone htwo
  have hsame := hmeet ⟨sampleClient "One", 0⟩ ⟨sampleClient "One", 1⟩ (by decide) hone hone
  exact ⟨hboth.mpr rfl, mt hsame.mp (by decide)⟩

/-- Two clients start one request each, at one relay each. -/
def firstRequests : List Event :=
  [.deploy (relay "c" "A") none, .deploy (relay "c" "E") none, .deploy (junction "c") none,
    .execute (sampleClient "One") (relay "c" "A") (relayText "c") (.ofText "one" 0),
    .execute (sampleClient "Two") (relay "c" "E") (relayText "c") (.ofText "two" 0),
    .serve (relay "c" "A") 0 0, .finish 0 (.ok (.ofText "one" 0)),
    .serve (relay "c" "E") 0 0, .finish 0 (.ok (.ofText "two" 0)),
    .serve (junction "c") 0 0, .serve (junction "c") 0 0]

/-- The junction completes its group with inputs of both requests. -/
theorem first_requests_not_isolated : ¬ ((start 5000).run firstRequests).Isolated := by
  have hmeet : ((start 5000).run firstRequests).Meet ⟨sampleClient "One", 0⟩ ⟨sampleClient "Two", 0⟩ := by
    decide +kernel
  intro h
  exact absurd (h _ _ (Or.inl hmeet)) (by decide)

end Deployment

end ServiceFlow
