import Mathlib.Data.Multiset.MapFold
import Mathlib.Logic.Function.Basic
import ServiceFlow.Proofs.Composition.Verdict
import ServiceFlow.Proofs.Relay.Spread
import ServiceFlow.Proofs.Routing.FanIn

/-!
# Messages passed on under one composition

Every message of a request carries the text of its composition. A service that gets one compiles the
text for itself, routes the message and sends its output to all destinations. Here the messages in
flight are a bag, of which any is delivered next, and nothing is assumed of the routers, of the states
that have been reported, of the times, and of what the engines make of their inputs.

* `Network.receive`, `Network.deliver`: what one message leads to; `Run` is one after another.
* `PlainChain`: the text is a single chain in which no term waits.
* `receive_eq`: then every delivery is as the text alone says (`delivered`).
* `follows_iff`: a message is followed by those that the chain leads on to (`Onward`).
* `Run.spread`, `exists_run`: so the hops of the messages in flight spread like any items that are
  replaced by their successors.
-/

namespace ServiceFlow.Relay

open ServiceFlow.Composition

variable {P : Type}

/-! ## Messages in flight -/

/-- Where a message comes from and where it goes. -/
structure Hop where
  sender : Name
  receiver : Name
deriving DecidableEq

/-- A message in flight. -/
structure Packet (P : Type) where
  hop : Hop
  payload : P

/-- A delivery, with the destinations of the output; there are none if the text does not compile for
the receiver, or if it refuses the message. -/
structure Delivered where
  hop : Hop
  sentTo : Option NameSet
deriving DecidableEq

/-- The hops of the messages that the receiver sends. -/
def Delivered.hops (d : Delivered) : List Hop :=
  (d.sentTo.getD ∅).toList.map fun n => ⟨d.hop.receiver, n⟩

/-- The circumstances of a delivery: the states known to the receiver, the time, and what its engine
makes of the input. -/
structure Occasion (P : Type) where
  states : StateTable
  now : Nat
  output : P

/-- The routers of all services, and the messages in flight. -/
structure Network (P : Type) where
  routers : Name → Router P
  flight : Multiset (Packet P)

namespace Network

/-- The hops of the messages in flight. -/
def hops (net : Network P) : Multiset Hop := net.flight.map (·.hop)

/-- The receiver of a message compiles the text and routes the message. -/
def receive (text : String) (id : CommunicationId) (net : Network P) (p : Packet P)
    (o : Occasion P) : Router P × Delivered :=
  let r := net.routers p.hop.receiver
  match compile text p.hop.receiver with
  | .error _ => (r, ⟨p.hop, none⟩)
  | .ok c =>
    let (r, _, answer) := r.route o.states o.now c p.hop.sender id p.payload
    (r, ⟨p.hop, answer.toOption⟩)

/-- A message is delivered while the `rest` stays in flight. -/
def deliver (text : String) (id : CommunicationId) (net : Network P) (p : Packet P)
    (o : Occasion P) (rest : Multiset (Packet P)) : Network P :=
  let (r, d) := net.receive text id p o
  ⟨Function.update net.routers p.hop.receiver r,
    rest + (d.hops : Multiset Hop).map fun h => ⟨h, o.output⟩⟩

end Network

/-- A run of the network, with its deliveries in turn. -/
inductive Run (text : String) (id : CommunicationId) :
    Network P → List Delivered → Network P → Prop
  | done (net : Network P) : Run text id net [] net
  | deliver {net net' : Network P} {p : Packet P} {rest : Multiset (Packet P)}
      {ds : List Delivered} (o : Occasion P) (hp : net.flight = p ::ₘ rest)
      (h : Run text id (net.deliver text id p o rest) ds net') :
      Run text id net ((net.receive text id p o).2 :: ds) net'

/-! ## Chains in which nothing waits -/

/-- The text is a single chain, in which no term waits. -/
structure PlainChain (text : String) (chain : Chain) : Prop where
  read : readClauses (fun _ => none) text = .ok [.chain chain]
  plain : ∀ t ∈ chain, t.awaitsAll = false

/-- A delivery as the text alone says it. -/
def delivered (text : String) (h : Hop) : Delivered :=
  ⟨h, (compile text h.receiver).toOption.map fun c => Router.destinations c ∅ h.sender []⟩

/-- The hops that follow a hop. -/
def next (text : String) (h : Hop) : List Hop := (delivered text h).hops

/-- The chain leads a message on: its receiver stands in a term that the message enters, and the
receiver of the next message in the term after it. -/
def Onward (chain : Chain) (h h' : Hop) : Prop :=
  h'.sender = h.receiver ∧
    ∃ i, Leads h.receiver false chain i h'.receiver ∧ Enters [.chain chain] h.sender chain i

section Plain

variable {text : String} {chain : Chain} {owner sender d : Name} {c : Composition}
  {states : StateTable} {now : Nat} {id : CommunicationId} {payload : P} {r : Router P}

/-- A chain that is written as such is read as it is. -/
theorem plainChain_of_written (h : Chain.Written chain text.toList)
    (hplain : ∀ t ∈ chain, t.awaitsAll = false) : PlainChain text chain := by
  have hs := stripBlanks_of_written h
  have hw : Written text [.chain chain] := by
    unfold Written
    rw [← stripBlanks_eq hs]
    exact .one (.chain h)
  exact ⟨(readClauses_eq_ok hs).mpr ⟨fun _ _ _ _ => rfl, hw⟩, hplain⟩

theorem outside_chain_iff : Outside [.chain chain] owner ↔ ∀ t ∈ chain, owner ∉ t.names := by
  simp [Outside, Clause.chains]

theorem PlainChain.compiled (hchain : PlainChain text chain) (hc : compile text owner = .ok c) :
    Written text [.chain chain] ∧
      c = ⟨text, owner, instructionsOf owner 0 [.chain chain],
        NameSet.ofList (namesOf [.chain chain])⟩ := by
  obtain ⟨clauses, hw, -, -, he⟩ := compile_eq_ok hc
  obtain rfl := (written_of_readClauses hchain.read).2.unique hw
  exact ⟨hw, he⟩

/-- The text compiles for the services that it names, and for no other. -/
theorem PlainChain.compile_isOk (hchain : PlainChain text chain) :
    (∃ c, compile text owner = .ok c) ↔ ∃ t ∈ chain, owner ∈ t.names := by
  obtain ⟨t, ht, hc⟩ := derived_of_readClauses hchain.read
  have hhead : ¬ WaitsAtHead owner [.chain chain] := by
    rintro ⟨clause, hclause, chain', hchain', u, hu, hwait, -⟩
    rw [List.mem_singleton.mp hclause] at hchain'
    rw [List.mem_singleton.mp hchain'] at hu
    rw [hchain.plain u (List.mem_of_getElem? hu)] at hwait
    cases hwait
  have hr := (readClauses_iff_derived ht).mpr ⟨hhead, hc⟩
  constructor
  · rintro ⟨c, hok⟩
    by_contra hno
    have ho : Outside [.chain chain] owner :=
      outside_chain_iff.mpr fun u hu hn => hno ⟨u, hu, hn⟩
    rw [compile_of_outside hr ho] at hok
    cases hok
  · rintro ⟨u, hu, hn⟩
    exact ⟨_, compile_of_named hr fun ho => outside_chain_iff.mp ho u hu hn⟩

theorem PlainChain.awaitsAll (hchain : PlainChain text chain) (hc : compile text owner = .ok c)
    {s : Statement} (hs : s ∈ c.statements) : s.awaitsAll = false := by
  rw [(hchain.compiled hc).2] at hs
  obtain ⟨clause, hclause, chain', hchain', i, t, ht, -, hp⟩ := place_of_mem_statements hs
  rw [List.mem_singleton.mp hclause] at hchain'
  rw [List.mem_singleton.mp hchain'] at ht
  exact (congrArg Position.awaitsAll hp).trans (hchain.plain t (List.mem_of_getElem? ht))

/-- The output goes where the chain leads, whatever states have been reported. -/
theorem PlainChain.mem_destinations (hchain : PlainChain text chain)
    (hc : compile text owner = .ok c) :
    d ∈ Router.destinations c states sender [] ↔ Onward chain ⟨sender, owner⟩ ⟨owner, d⟩ := by
  obtain ⟨hw, he⟩ := hchain.compiled hc
  rw [mem_destinations_compiled hw he]
  simp [Onward, Clause.activeChains]

/-- No message is kept or refused where nothing waits. -/
theorem route_of_plain (hplain : ∀ s ∈ c.statements, s.awaitsAll = false) :
    (r.route states now c sender id payload).2.2 =
      .ok (Router.destinations c states sender []) := by
  have htargets : Router.groupTargets c states.get? sender = [] := by
    unfold Router.groupTargets
    rw [List.filter_eq_nil_iff]
    intro s hs
    rw [hplain s ((selected_sublist c _).subset hs)]
    exact Bool.false_ne_true
  have hgroups : c.hasGroups = false := by
    unfold hasGroups
    rw [List.any_eq_false]
    intro s hs
    rw [hplain s hs]
    exact Bool.false_ne_true
  rw [Router.route_eq]
  unfold Router.admission
  simp only [htargets, hgroups, Bool.and_false]
  rfl

/-- **Every delivery is as the text alone says**, whatever the network is like. -/
theorem receive_eq (hchain : PlainChain text chain) (net : Network P) (p : Packet P)
    (o : Occasion P) : (net.receive text id p o).2 = delivered text p.hop := by
  unfold Network.receive delivered
  cases hc : compile text p.hop.receiver with
  | error e => rfl
  | ok c =>
    have hroute : ((net.routers p.hop.receiver).route o.states o.now c p.hop.sender id
        p.payload).2.2 = .ok (Router.destinations c o.states p.hop.sender []) :=
      route_of_plain fun s hs => hchain.awaitsAll hc hs
    have hstates : Router.destinations c o.states p.hop.sender [] =
        Router.destinations c ∅ p.hop.sender [] :=
      NameSet.ext fun d => (hchain.mem_destinations hc).trans (hchain.mem_destinations hc).symm
    simp only [hroute, hstates]
    rfl

/-- The messages that follow are those that the chain leads on to. -/
theorem follows_iff (hchain : PlainChain text chain) {h h' : Hop} :
    Follows (next text) h h' ↔ Onward chain h h' := by
  unfold Follows next Delivered.hops delivered
  cases hc : compile text h.receiver with
  | error e =>
    refine iff_of_false List.not_mem_nil ?_
    rintro ⟨-, i, ⟨t, _, ht, -, -, ho, -⟩, -⟩
    obtain ⟨c, hok⟩ := hchain.compile_isOk.mpr ⟨t, List.mem_of_getElem? ht, ho⟩
    rw [hc] at hok
    cases hok
  | ok c =>
    simp only [Except.toOption, Option.map_some, Option.getD_some, List.mem_map,
      ← NameSet.mem_def, hchain.mem_destinations hc]
    constructor
    · rintro ⟨d, h, rfl⟩
      exact h
    · rintro ⟨hs, h⟩
      exact ⟨h'.receiver, ⟨rfl, h⟩, by rw [← hs]⟩

end Plain

/-! ## Runs -/

section Runs

variable {text : String} {chain : Chain} {id : CommunicationId} {net net' : Network P}

theorem hops_deliver (hchain : PlainChain text chain) (p : Packet P) (o : Occasion P)
    (rest : Multiset (Packet P)) :
    (net.deliver text id p o rest).hops = rest.map (·.hop) + next text p.hop := by
  unfold Network.deliver Network.hops next
  simp only [receive_eq hchain, Multiset.map_add, Multiset.map_map, Function.comp_def,
    Multiset.map_id']

/-- The hops in flight spread. -/
theorem Run.spread (hchain : PlainChain text chain) {ds : List Delivered}
    (h : Run text id net ds net') :
    ∃ as, ds = as.map (delivered text) ∧ Spread (next text) net.hops as net'.hops := by
  induction h with
  | done net => exact ⟨[], rfl, .done _⟩
  | @deliver net net' p rest ds o hp _ ih =>
    obtain ⟨as, hds, has⟩ := ih
    rw [hops_deliver hchain] at has
    refine ⟨p.hop :: as, ?_, .take ?_ has⟩
    · rw [receive_eq hchain, hds, List.map_cons]
    · rw [Network.hops, hp, Multiset.map_cons]

/-- And any way in which they can spread is a run. -/
theorem exists_run (hchain : PlainChain text chain) (id : CommunicationId) (o : Occasion P)
    {as : List Hop} {m : Multiset Hop} (h : Spread (next text) net.hops as m) :
    ∃ net', Run text id net (as.map (delivered text)) net' ∧ net'.hops = m := by
  generalize he : net.hops = m' at h
  induction h generalizing net with
  | done m => exact ⟨net, .done net, he⟩
  | @take a as m rest m' hm _ ih =>
    rw [hm] at he
    have ha : a ∈ net.hops := he ▸ Multiset.mem_cons_self a rest
    obtain ⟨p, hp, rfl⟩ := Multiset.mem_map.mp ha
    obtain ⟨others, hothers⟩ := Multiset.exists_cons_of_mem hp
    rw [Network.hops, hothers, Multiset.map_cons, Multiset.cons_inj_right] at he
    have hdeliver : (net.deliver text id p o others).hops = rest + next text p.hop := by
      rw [hops_deliver hchain, he]
    obtain ⟨net', hrun, hend⟩ := ih hdeliver
    refine ⟨net', ?_, hend⟩
    rw [List.map_cons, ← receive_eq hchain net p o]
    exact .deliver o hothers hrun

theorem hops_of_flight {h : Hop} {payload : P} (hnet : net.flight = {⟨h, payload⟩}) :
    net.hops = {h} := by
  rw [Network.hops, hnet]
  rfl

theorem flight_eq_zero : net.flight = 0 ↔ net.hops = 0 := Multiset.map_eq_zero.symm

end Runs

end ServiceFlow.Relay
