import Mathlib.Data.List.Duplicate
import ServiceFlow.Proofs.Relay.Chain

/-!
# Which chains come to an end

A service routes a message by the name of its sender, and a message says neither at which place of the
chain it is nor how many services it has passed. So a chain comes to an end only if no hop can be among
those that follow it: `A+B+A` ends, but in `A+A+A` the service `A` cannot tell its own first output
from its second, and goes on for ever.

* `AlwaysEnds`: after some number of deliveries nothing is in flight, whatever their order.
* `Run.never_ends`: with a cycle within reach there is always a message in flight.
* `always_ends_of_acyclic`: without one there are finitely many deliveries.
* `cyclic_chainOf_iff`: a chain of single services is cyclic exactly if some service comes twice after
  the same one.
* `ends_iff_acyclic`: the three together; `repeated_never_ends` is the least chain that does not end.
-/

namespace ServiceFlow.Relay

open Relation ServiceFlow.Composition

variable {P : Type} {text : String} {chain : Chain} {id : CommunicationId} {net net' : Network P}
  {start : Hop} {payload : P} {ds : List Delivered}

/-- After some number of deliveries nothing is in flight, whatever their order. -/
def AlwaysEnds (text : String) (id : CommunicationId) (net : Network P) : Prop :=
  ∃ n, ∀ ds net', Run text id net ds net' → ds.length ≤ n ∧ (net'.flight = 0 ↔ ds.length = n)

theorem follows_eq (hchain : PlainChain text chain) : Follows (next text) = Onward chain :=
  funext₂ fun _ _ => propext (follows_iff hchain)

/-! ## With cycles -/

/-- With a cycle within reach there is always a message in flight. -/
theorem Run.never_ends (hchain : PlainChain text chain)
    (hcyclic : ∃ h ∈ net.hops, Cyclic (Onward chain) h) (h : Run text id net ds net') :
    net'.flight ≠ 0 := by
  intro hend
  obtain ⟨as, -, has⟩ := h.spread hchain
  rw [← follows_eq hchain] at hcyclic
  obtain ⟨a, ha, -⟩ := has.cyclic hcyclic
  rw [flight_eq_zero.mp hend] at ha
  exact Multiset.notMem_zero a ha

theorem not_always_ends_of_cyclic (hchain : PlainChain text chain)
    (hnet : net.flight = {⟨start, payload⟩}) (hcyclic : Cyclic (Onward chain) start) :
    ¬ AlwaysEnds text id net := by
  rintro ⟨n, hall⟩
  have hstart : start ∈ net.hops := by
    rw [hops_of_flight hnet]
    exact Multiset.mem_singleton_self start
  rw [← follows_eq hchain] at hcyclic
  obtain ⟨as, m, hlength, has⟩ := exists_spread ⟨start, hstart, hcyclic⟩ (n + 1)
  obtain ⟨net', hrun, -⟩ := exists_run hchain id ⟨∅, 0, payload⟩ has
  have hle := (hall _ _ hrun).1
  rw [List.length_map, hlength] at hle
  exact Nat.not_succ_le_self n hle

/-! ## Without cycles -/

/-- The hops between services of the chain. -/
def hopsWithin (chain : Chain) : List Hop :=
  let names := chain.flatMap (·.names)
  names.flatMap fun s => names.map (Hop.mk s)

/-- All hops that can follow are among them. -/
theorem mem_hops_of_reached {h : Hop} (hr : ReflTransGen (Onward chain) start h) :
    h ∈ start :: hopsWithin chain := by
  rcases hr.cases_tail with rfl | ⟨h', -, hs, i, ⟨t, u, ht, hu, -, ho, hd⟩, -⟩
  · exact List.mem_cons_self
  · have hsender : h.sender ∈ chain.flatMap (·.names) :=
      List.mem_flatMap.mpr ⟨t, List.mem_of_getElem? ht, hs ▸ ho⟩
    have hreceiver : h.receiver ∈ chain.flatMap (·.names) :=
      List.mem_flatMap.mpr ⟨u, List.mem_of_getElem? hu, hd⟩
    exact List.mem_cons_of_mem _
      (List.mem_flatMap.mpr ⟨_, hsender, List.mem_map_of_mem hreceiver⟩)

theorem always_ends_of_acyclic (hchain : PlainChain text chain)
    (hnet : net.flight = {⟨start, payload⟩}) (hacyclic : ¬ Cyclic (Onward chain) start) :
    AlwaysEnds text id net := by
  rw [← follows_eq hchain] at hacyclic
  obtain ⟨n, hall⟩ := exists_length hacyclic fun h hr =>
    mem_hops_of_reached (follows_eq hchain ▸ hr)
  refine ⟨n, fun ds net' h => ?_⟩
  obtain ⟨as, rfl, has⟩ := h.spread hchain
  rw [hops_of_flight hnet] at has
  rw [List.length_map, flight_eq_zero]
  exact hall as _ has

/-! ## Chains of single services -/

section Single

variable {client first : Name} {rest : List Name}

/-- Along the legs every later one can be reached. -/
theorem pairwise_legs (hclient : client ∉ first :: rest) :
    (legs client (first :: rest)).Pairwise (TransGen (Onward (chainOf (first :: rest)))) := by
  refine List.isChain_iff_pairwise.mp (List.isChain_iff_getElem.mpr fun i hi => .single ?_)
  have hleg : (legs client (first :: rest))[i]? = some (legs client (first :: rest))[i] :=
    List.getElem?_eq_getElem (Nat.lt_of_succ_lt hi)
  exact (onward_chainOf_iff hclient (sender_of_leg hleg)).mpr
    ⟨i, hleg, List.getElem?_eq_getElem hi⟩

/-- A service that comes twice after the same one leads into a cycle. -/
theorem cyclic_of_repeated (hclient : client ∉ first :: rest)
    (hpairs : ¬ (legs first rest).Nodup) :
    Cyclic (Onward (chainOf (first :: rest))) ⟨client, first⟩ := by
  obtain ⟨h, hh⟩ := List.exists_duplicate_iff_not_nodup.mpr hpairs
  obtain ⟨hstart, hlater⟩ := List.pairwise_cons.mp (pairwise_legs hclient)
  have hcycle := hlater.sublist (List.duplicate_iff_sublist.mp hh)
  exact ⟨h, (hstart h hh.mem).to_reflTransGen,
    (List.pairwise_cons.mp hcycle).1 h (List.mem_singleton_self h)⟩

theorem cyclic_chainOf_iff (hchain : PlainChain text (chainOf (first :: rest)))
    (hclient : client ∉ first :: rest) :
    Cyclic (Onward (chainOf (first :: rest))) ⟨client, first⟩ ↔ ¬ (legs first rest).Nodup := by
  refine ⟨fun hcyclic hpairs => ?_, cyclic_of_repeated hclient⟩
  have hlegs := nodup_legs hclient hpairs
  obtain ⟨hrun, -⟩ := spread_line fun i h hi => next_leg hchain hclient hlegs hi
  rw [← follows_eq hchain] at hcyclic
  obtain ⟨a, ha, -⟩ := hrun.cyclic ⟨_, List.mem_singleton_self _, hcyclic⟩
  exact Multiset.notMem_zero a ha

end Single

/-- **A chain in which nothing waits comes to an end exactly if it has no cycle of hops** within reach
of the first message. Then every run makes the same number of deliveries; otherwise none ever comes to
a state with no message in flight. A chain of single services that a client outside of it starts has
such a cycle exactly if some service comes twice after the same one. -/
theorem ends_iff_acyclic (hchain : PlainChain text chain) (id : CommunicationId)
    (hnet : net.flight = {⟨start, payload⟩}) :
    (AlwaysEnds text id net ↔ ¬ Cyclic (Onward chain) start) ∧
      (Cyclic (Onward chain) start →
        ∀ ds net', Run text id net ds net' → net'.flight ≠ 0) ∧
      ∀ client first rest, start = ⟨client, first⟩ → chain = chainOf (first :: rest) →
        client ∉ first :: rest →
        (Cyclic (Onward chain) start ↔ ¬ (legs first rest).Nodup) := by
  refine ⟨⟨fun hends hcyclic => not_always_ends_of_cyclic hchain hnet hcyclic hends,
    always_ends_of_acyclic hchain hnet⟩, fun hcyclic ds net' h => ?_, ?_⟩
  · refine h.never_ends hchain ⟨start, ?_, hcyclic⟩
    rw [hops_of_flight hnet]
    exact Multiset.mem_singleton_self start
  · rintro client first rest rfl rfl hclient
    exact cyclic_chainOf_iff hchain hclient

/-- The chain of `loopText` ends. -/
theorem loop_ends :
    PlainChain loopText (chainOf [.sample "A", .sample "B", .sample "A"]) ∧
      AlwaysEnds loopText 1 started := by
  have hstarted : started.flight = {⟨⟨.sample "Client", .sample "A"⟩, "x"⟩} := rfl
  obtain ⟨hends, -, hsingle⟩ := ends_iff_acyclic plainChain_loop 1 hstarted
  refine ⟨plainChain_loop, hends.mpr fun hcyclic => ?_⟩
  exact (hsingle _ _ _ rfl rfl (by decide)).mp hcyclic (by decide)

/-- The service `A` three times in a row. -/
def repeatedText : String := "h_java:c:A+h_java:c:A+h_java:c:A"

/-- The service `A` sends its output to itself again and again, though the chain names it three times
only. -/
theorem repeated_never_ends :
    PlainChain repeatedText (chainOf [.sample "A", .sample "A", .sample "A"]) ∧
      .sample "Client" ∉ [Name.sample "A", .sample "A", .sample "A"] ∧
      ∀ ds net', Run repeatedText 1 started ds net' → net'.flight ≠ 0 := by
  have hchain : PlainChain repeatedText (chainOf [.sample "A", .sample "A", .sample "A"]) :=
    plainChain_of_spelled (.more spelled_A (.more spelled_A (.one spelled_A)))
  have hclient : .sample "Client" ∉ [Name.sample "A", .sample "A", .sample "A"] := by decide
  have hcyclic := cyclic_of_repeated hclient (by decide)
  exact ⟨hchain, hclient, fun ds net' h =>
    h.never_ends hchain ⟨_, Multiset.mem_singleton_self _, hcyclic⟩⟩

end ServiceFlow.Relay
