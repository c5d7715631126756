import ServiceFlow.Proofs.Relay.Network

/-!
# One message through a chain of single services

A client outside the chain `n1+n2+…` sends one message to `n1`. A service may stand at several places
of the chain, also next to itself, as long as no two places have the same service and the same one
before it. Then every service knows from the sender alone at which of its places it is.

* `legs`: the hops along the chain, the first one from the client; `visits`: the deliveries.
* `onward_chainOf_iff`: a hop is followed by the next leg, wherever it stands among the legs.
* `delivered_leg`: so each delivery has one destination, and the last has none.
* `chain_visits`: there is one run, which visits the services in their order and ends.
-/

namespace ServiceFlow.Relay

open ServiceFlow.Composition

/-- The chain of these services, each in a term of its own. -/
def chainOf (names : List Name) : Chain := names.map fun n => ⟨false, [n]⟩

/-- A text of spelled names with `+` between them is such a chain. -/
theorem plainChain_of_spelled {text : String} {names : List Name}
    (h : Separated ['+'] Name.SpelledInChain names text.toList) :
    PlainChain text (chainOf names) := by
  have hw : Chain.Written (chainOf names) text.toList := by
    generalize text.toList = cs at h
    induction h with
    | one hx => exact .one (.plain (.one hx))
    | more hx _ ih => exact .more (.plain (.one hx)) ih
  refine plainChain_of_written hw fun t ht => ?_
  obtain ⟨n, -, rfl⟩ := List.mem_map.mp ht
  rfl

/-- The hops from `start` along the services. -/
def legs (start : Name) (names : List Name) : List Hop := List.zipWith Hop.mk (start :: names) names

/-- The deliveries along the services; the output of each goes to the next one. -/
def visits (start : Name) : List Name → List Delivered
  | [] => []
  | n :: ns => ⟨⟨start, n⟩, some (NameSet.ofList ns.head?.toList)⟩ :: visits n ns

section Legs

variable {client : Name} {names : List Name} {h h' : Hop} {i : Nat}

theorem getElem?_legs :
    (legs client names)[i]? = some h ↔
      (client :: names)[i]? = some h.sender ∧ names[i]? = some h.receiver := by
  unfold legs
  rw [List.getElem?_zipWith_eq_some]
  constructor
  · rintro ⟨s, r, hs, hr, rfl⟩
    exact ⟨hs, hr⟩
  · rintro ⟨hs, hr⟩
    exact ⟨_, _, hs, hr, rfl⟩

theorem leads_chainOf {owner d : Name} :
    Leads owner false (chainOf names) i d ↔ names[i]? = some owner ∧ names[i + 1]? = some d := by
  simp [Leads, chainOf]

/-- What comes from the client or from a service of the chain enters after its sender. -/
theorem enters_chainOf {sender : Name} (hclient : client ∉ names)
    (hs : sender = client ∨ sender ∈ names) :
    Enters [.chain (chainOf names)] sender (chainOf names) i ↔
      (client :: names)[i]? = some sender := by
  cases i with
  | zero =>
    have outside : Outside [.chain (chainOf names)] sender ↔ sender ∉ names := by
      rw [outside_chain_iff, chainOf, List.forall_mem_map]
      simp only [List.mem_singleton]
      exact ⟨fun h hm => h _ hm rfl, fun h n hn he => h (he ▸ hn)⟩
    unfold Enters
    rw [outside, List.getElem?_cons_zero, Option.some.injEq]
    constructor
    · intro hno
      exact (hs.resolve_right hno).symm
    · rintro rfl
      exact hclient
  | succ i =>
    rw [List.getElem?_cons_succ]
    simp [Enters, chainOf]

/-- A hop is followed by the next leg, wherever it stands among the legs. -/
theorem onward_chainOf_iff (hclient : client ∉ names) (hs : h.sender = client ∨ h.sender ∈ names) :
    Onward (chainOf names) h h' ↔
      ∃ i : Nat, (legs client names)[i]? = some h ∧ (legs client names)[i + 1]? = some h' := by
  unfold Onward
  simp only [leads_chainOf, enters_chainOf hclient hs, getElem?_legs, List.getElem?_cons_succ]
  constructor
  · rintro ⟨he, i, ⟨hr, hd⟩, hs⟩
    exact ⟨i, ⟨hs, hr⟩, he ▸ hr, hd⟩
  · rintro ⟨i, ⟨hs, hr⟩, hr', hd⟩
    exact ⟨Option.some.inj (hr'.symm.trans hr), i, ⟨hr, hd⟩, hs⟩

theorem sender_of_leg (hi : (legs client names)[i]? = some h) :
    h.sender = client ∨ h.sender ∈ names :=
  List.mem_cons.mp (List.mem_of_getElem? (getElem?_legs.mp hi).1)

/-- With the hop from the client the legs stay distinct. -/
theorem nodup_legs {first : Name} {rest : List Name} (hclient : client ∉ first :: rest)
    (hpairs : (legs first rest).Nodup) : (legs client (first :: rest)).Nodup := by
  refine List.nodup_cons.mpr ⟨fun hm => hclient ?_, hpairs⟩
  obtain ⟨i, hi⟩ := List.mem_iff_getElem?.mp hm
  exact List.mem_cons.mpr (sender_of_leg hi)

end Legs

section Plain

variable {P : Type} {text : String} {client : Name} {names : List Name} {h : Hop} {i : Nat}

/-- The only destination of a leg is the next service; the last leg has none. -/
theorem delivered_leg (hchain : PlainChain text (chainOf names)) (hclient : client ∉ names)
    (hlegs : (legs client names).Nodup) (hi : (legs client names)[i]? = some h) :
    delivered text h = ⟨h, some (NameSet.ofList names[i + 1]?.toList)⟩ := by
  have hr := (getElem?_legs.mp hi).2
  have hnamed : ∃ t ∈ chainOf names, h.receiver ∈ t.names :=
    ⟨_, List.mem_map_of_mem (List.mem_of_getElem? hr), List.mem_singleton_self _⟩
  obtain ⟨c, hc⟩ := hchain.compile_isOk.mpr hnamed
  have hdestinations : Router.destinations c ∅ h.sender [] = NameSet.ofList names[i + 1]?.toList := by
    refine NameSet.ext fun d => ?_
    rw [hchain.mem_destinations hc, onward_chainOf_iff hclient (sender_of_leg hi),
      NameSet.mem_ofList, Option.mem_toList]
    simp only [getElem?_legs (h := ⟨h.receiver, d⟩), List.getElem?_cons_succ]
    constructor
    · rintro ⟨j, hj, -, hd⟩
      -- a leg stands at one place only
      obtain rfl : i = j :=
        (List.getElem?_inj (List.getElem?_eq_some_iff.mp hi).1 hlegs).mp (hi.trans hj.symm)
      exact hd
    · exact fun hd => ⟨i, hi, hr, hd⟩
  unfold delivered
  rw [hc, ← hdestinations]
  rfl

/-- The deliveries along the legs are the visits. -/
theorem map_delivered_legs
    (hall : ∀ (i : Nat) (h : Hop), (legs client names)[i]? = some h →
      delivered text h = ⟨h, some (NameSet.ofList names[i + 1]?.toList)⟩) :
    (legs client names).map (delivered text) = visits client names := by
  induction names generalizing client with
  | nil => rfl
  | cons n ns ih =>
    have hhead : delivered text ⟨client, n⟩ =
        ⟨⟨client, n⟩, some (NameSet.ofList ns.head?.toList)⟩ := by
      rw [List.head?_eq_getElem?]
      exact hall 0 _ rfl
    exact congrArg₂ (· :: ·) hhead (ih fun i => hall (i + 1))

/-- Each leg but the last is followed by the next one, and by nothing else. -/
theorem next_leg (hchain : PlainChain text (chainOf names)) (hclient : client ∉ names)
    (hlegs : (legs client names).Nodup) (hi : (legs client names)[i]? = some h) :
    next text h = (legs client names)[i + 1]?.toList := by
  have hr := (getElem?_legs.mp hi).2
  unfold next Delivered.hops
  rw [delivered_leg hchain hclient hlegs hi]
  cases hd : names[i + 1]? with
  | none =>
    have hlast : (legs client names)[i + 1]? = none := by
      rw [Option.eq_none_iff_forall_ne_some]
      intro h' hh'
      rw [(getElem?_legs.mp hh').2] at hd
      cases hd
    rw [hlast]
    rfl
  | some d =>
    have hnext : (legs client names)[i + 1]? = some ⟨h.receiver, d⟩ :=
      getElem?_legs.mpr ⟨hr, hd⟩
    rw [hnext]
    rfl

/-- **One message visits the services of a chain in their order**, if no two of its places have the
same service and the same one before it. Whatever the routers are like, there is one run; it makes
these deliveries, each to the one destination that the chain has next, and nothing stays in flight. -/
theorem chain_visits {first : Name} {rest : List Name}
    (hchain : PlainChain text (chainOf (first :: rest))) (hpairs : (legs first rest).Nodup)
    (hclient : client ∉ first :: rest) (id : CommunicationId) {net : Network P} {payload : P}
    (hnet : net.flight = {⟨⟨client, first⟩, payload⟩}) :
    (∃ net', Run text id net (visits client (first :: rest)) net' ∧ net'.flight = 0) ∧
      ∀ ds net', Run text id net ds net' →
        ds <+: visits client (first :: rest) ∧
          (net'.flight = 0 ↔ ds = visits client (first :: rest)) := by
  have hlegs := nodup_legs hclient hpairs
  have hvisits : (legs client (first :: rest)).map (delivered text) = visits client (first :: rest) :=
    map_delivered_legs fun i h hi => delivered_leg hchain hclient hlegs hi
  have hstart : net.hops = ((legs client (first :: rest)).head?.toList : Multiset Hop) :=
    hops_of_flight hnet
  obtain ⟨hrun, hall⟩ := spread_line fun i h hi => next_leg hchain hclient hlegs hi
  constructor
  · rw [← hstart] at hrun
    obtain ⟨net', hrun, hend⟩ := exists_run hchain id ⟨∅, 0, payload⟩ hrun
    rw [hvisits] at hrun
    exact ⟨net', hrun, flight_eq_zero.mpr hend⟩
  · intro ds net' h
    obtain ⟨as, rfl, has⟩ := h.spread hchain
    rw [hstart] at has
    obtain ⟨hpre, hend⟩ := hall as _ has
    have hinj : Function.Injective (delivered text) := fun h h' he => congrArg Delivered.hop he
    rw [← hvisits, flight_eq_zero, hend, (List.map_injective_iff.mpr hinj).eq_iff]
    exact ⟨hpre.map _, Iff.rfl⟩

end Plain

/-- The service `A` comes back to itself through `B`. -/
def loopText : String := "h_java:c:A+h_java:c:B+h_java:c:A"

theorem spelled_A : (Name.sample "A").SpelledInChain "h_java:c:A".toList :=
  ⟨eq_ok_of_toOption (by decide +kernel), by decide⟩

theorem spelled_B : (Name.sample "B").SpelledInChain "h_java:c:B".toList :=
  ⟨eq_ok_of_toOption (by decide +kernel), by decide⟩

theorem plainChain_loop :
    PlainChain loopText (chainOf [.sample "A", .sample "B", .sample "A"]) :=
  plainChain_of_spelled (.more spelled_A (.more spelled_B (.one spelled_A)))

/-- A client has sent a message to `A`, and nothing has been delivered. -/
def started : Network String :=
  ⟨fun n => .new n none, {⟨⟨.sample "Client", .sample "A"⟩, "x"⟩}⟩

/-- `A`, `B` and again `A` get the message, which ends there. -/
theorem loop_visits :
    visits (.sample "Client") [.sample "A", .sample "B", .sample "A"] =
        [⟨⟨.sample "Client", .sample "A"⟩, some (.ofList [.sample "B"])⟩,
          ⟨⟨.sample "A", .sample "B"⟩, some (.ofList [.sample "A"])⟩,
          ⟨⟨.sample "B", .sample "A"⟩, some ∅⟩] ∧
      (∃ net', Run loopText 1 started
        (visits (.sample "Client") [.sample "A", .sample "B", .sample "A"]) net' ∧
          net'.flight = 0) ∧
      ∀ ds net', Run loopText 1 started ds net' →
        ds <+: visits (.sample "Client") [.sample "A", .sample "B", .sample "A"] := by
  have hstarted : started.flight = {⟨⟨.sample "Client", .sample "A"⟩, "x"⟩} := rfl
  obtain ⟨hrun, hall⟩ := chain_visits plainChain_loop (by decide) (by decide) 1 hstarted
  exact ⟨rfl, hrun, fun ds net' h => (hall ds net' h).1⟩

end ServiceFlow.Relay
