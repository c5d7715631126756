import Mathlib.Data.List.Perm.Subperm
import ServiceFlow.Proofs.Routing.Payloads

/-!
# Groups expire as if on time

A group that has outlived the time to live stays where it is until some message comes, and only then
is it dropped. Nobody can tell: the answers are those of a router whose groups vanish by themselves,
each at the moment at which its age reaches the time to live.

## The prompt router

`Prompt` is a router that has no time to live of its own, beside a clock. `Prompt.tick` lets one unit
of time pass, and `Prompt.settle` drops the groups whose age has come to be `d`. A message is received
when its time has come, and what it leaves is settled at once: with `d = 0` no group outlasts it.

## Results

* `Router.asOf`: what a router still has open at a time, as a prompt router.
* `wait_asOf`, `receive_asOf`: time that passes and a message that comes leave a prompt router at what
  the other one has open then, and the message gets the same answer.
* `Group.Timely`: what a group holds has come in time after what opened it. `Kept` says so of all open
  groups, `kept_receiveAll` of a run, and `timely_of_completions` of each group that is completed.
* `expires_on_time`: the answers of a run, and the times of what each completed group hands out.
-/

namespace ServiceFlow

open ServiceFlow.Router (Numbered)

variable {P : Type}

/-- The time since the first input of the group. -/
def Group.age (g : Group P) (now : Nat) : Nat := now - g.openedAt

/-! ## The prompt router -/

/-- A router without a time to live, and a clock. -/
structure Prompt (P : Type) where
  router : Router P
  clock : Nat

namespace Prompt

/-- The groups whose age is now `d` vanish. -/
def settle (d : Nat) (w : Prompt P) : Prompt P :=
  let barriers := w.router.barriers
  let kept := barriers.groups.filter fun e => e.2.age w.clock ≠ d
  { w with router := { w.router with barriers := { barriers with groups := kept } } }

/-- One unit of time passes. -/
def tick (d : Nat) (w : Prompt P) : Prompt P := settle d { w with clock := w.clock + 1 }

/-- Time passes. -/
def wait (d : Nat) : Nat → Prompt P → Prompt P
  | 0, w => w
  | k + 1, w => wait d k (w.tick d)

/-- A message comes at its time. -/
def receive (c : Composition) (d : Nat) (w : Prompt P) (m : Numbered P) :
    Prompt P × Except RoutingError (Admission P) :=
  let w := w.wait d (m.now - w.clock)
  let (router, _, answer) := Router.receive c w.router m
  (settle d { w with router := router }, answer)

/-- What is answered to each message, beside the number of its request. -/
def answers (c : Composition) (d : Nat) (w : Prompt P) :
    List (Numbered P) → List (CommunicationId × Except RoutingError (Admission P))
  | [] => []
  | m :: ms => (m.id, (receive c d w m).2) :: answers c d (receive c d w m).1 ms

end Prompt

/-! ## What is open at a time -/

namespace BarrierStore

/-- The groups that are younger than `d`, in a store without a time to live. -/
def asOf (b : BarrierStore P) (d t : Nat) : BarrierStore P :=
  ⟨none, b.composition, b.groups.filter fun e => e.2.age t < d⟩

/-- The same groups in a store without a time to live. -/
def untimed (b : BarrierStore P) : BarrierStore P := { b with ttl := none }

variable (b : BarrierStore P) (now : Nat) (key : GroupKey) (sender : Name) (payload : P)
  (expected : NameSet)

/-- What becomes of an input does not depend on the time to live. -/
theorem arrive_untimed :
    b.untimed.arrive now key sender payload expected =
      ((b.arrive now key sender payload expected).1.untimed,
        (b.arrive now key sender payload expected).2) := by
  have hgroup : b.untimed.groupAt key now = b.groupAt key now := rfl
  unfold arrive
  simp only [hgroup]
  split
  · rfl
  · split <;> rfl

variable {b} in
/-- No group is older than `d` after an input if none was before. -/
theorem age_arrive {d : Nat} (h : ∀ e ∈ b.groups, e.2.age now ≤ d) :
    ∀ e ∈ (b.arrive now key sender payload expected).1.groups, e.2.age now ≤ d := by
  cases hh : (b.held key).has sender with
  | true =>
    rw [arrive_held hh]
    exact h
  | false =>
    by_cases hc : b.Completes key sender expected
    · rw [arrive_completes hh hc]
      exact fun e he => h e (List.mem_of_mem_filter he)
    · rw [arrive_pending hh hc]
      intro e he
      rcases Table.mem_set he with rfl | he
      · cases hg : b.groups.get? key with
        | none => simp [Group.age, grown, groupAt, hg]
        | some g =>
          have hold := h _ (Table.mem_of_get?_eq_some hg)
          simpa [Group.age, grown, groupAt, hg] using hold
      · exact h e he

end BarrierStore

namespace Router

/-- What a router still has open at a time. -/
def asOf (r : Router P) (d t : Nat) : Prompt P := ⟨⟨r.owner, r.barriers.asOf d t⟩, t⟩

section Simulation

variable {c : Composition} {d t : Nat} {r : Router P} {m : Numbered P}

/-- The groups whose age comes to be `d` are those that are no longer younger than that. -/
theorem tick_asOf : (r.asOf d t).tick d = r.asOf d (t + 1) := by
  have hgroups : (r.barriers.asOf d t).groups.filter (fun e => e.2.age (t + 1) ≠ d) =
      (r.barriers.asOf d (t + 1)).groups := by
    unfold BarrierStore.asOf
    rw [List.filter_filter]
    refine List.filter_congr fun e _ => ?_
    rw [Bool.eq_iff_iff, Bool.and_eq_true, decide_eq_true_iff, decide_eq_true_iff,
      decide_eq_true_iff]
    unfold Group.age
    omega
  unfold Prompt.tick Prompt.settle asOf
  simp only [hgroups]
  rfl

/-- **Time that passes** leaves the groups that are open then. -/
theorem wait_asOf (k : Nat) : (r.asOf d t).wait d k = r.asOf d (t + k) := by
  induction k generalizing t with
  | zero => rfl
  | succ k ih => rw [Prompt.wait, tick_asOf, ih, Nat.add_assoc, Nat.add_comm 1]

/-- A message is received in the groups of its text that are younger than `d`. -/
theorem refresh_timed (h : r.barriers.ttl = some d) (text : String) (now : Nat) :
    (r.refresh text now).1 =
      ⟨some d, some text, (r.barriers.supersede text).1.groups.filter fun e => e.2.age now < d⟩ := by
  obtain ⟨owner, ttl, composition, groups⟩ := r
  obtain rfl : ttl = some d := h
  unfold refresh BarrierStore.supersede
  by_cases hc : composition = some text
  · simp only [hc, if_true]
    rfl
  · simp only [hc, if_false]
    rfl

theorem refresh_asOf (h : r.barriers.ttl = some d) (text : String) (now : Nat) :
    ((r.asOf d now).router.refresh text now).1 = (r.refresh text now).1.untimed := by
  rw [refresh_timed h]
  unfold refresh asOf BarrierStore.asOf BarrierStore.supersede
  by_cases hc : r.barriers.composition = some text
  · simp only [hc, if_true]
    rfl
  · simp only [hc, if_false]
    rfl

/-- A delivery does not depend on the time to live. -/
theorem deliver_untimed (owner sender : Name) (id : CommunicationId) (payload : P) (now : Nat)
    (e : Delivery P) (ss : List Statement) :
    deliver owner sender id payload now { e with barriers := e.barriers.untimed } ss =
      ({ (deliver owner sender id payload now e ss).1 with
          barriers := (deliver owner sender id payload now e ss).1.barriers.untimed },
        (deliver owner sender id payload now e ss).2) := by
  induction ss generalizing e with
  | nil => rfl
  | cons s ss ih =>
    unfold deliver
    rw [BarrierStore.arrive_untimed]
    rcases e.barriers.arrive now ⟨s.id, id⟩ sender payload s.inputs with ⟨b, a⟩
    cases a with
    | duplicate => rfl
    | pending arrived expected => exact ih { e with barriers := b, logs := _ }
    | complete inputs => exact ih ⟨b, _, _, _⟩

/-- What a message finds was there before, and is younger than `d`. -/
theorem mem_refresh (h : r.barriers.ttl = some d) {text : String} {now : Nat}
    {e : GroupKey × Group P} (he : e ∈ (r.refresh text now).1.groups) :
    e ∈ r.barriers.groups ∧ e.2.age now < d := by
  rw [refresh_timed h, List.mem_filter, decide_eq_true_iff] at he
  refine he.imp_left fun hs => ?_
  unfold BarrierStore.supersede at hs
  split at hs
  · exact hs
  · exact absurd hs List.not_mem_nil

/-- No group that an admission leaves is older than `d`. -/
theorem age_receive (h : r.barriers.ttl = some d) :
    ∀ e ∈ (receive c r m).1.barriers.groups, e.2.age m.now ≤ d := by
  rw [receive, admission_eq]
  refine deliver_keeps (M := fun b => ∀ e ∈ b.groups, e.2.age m.now ≤ d)
    (fun s _ b hb => BarrierStore.age_arrive m.now _ _ _ _ hb) fun e he => ?_
  exact (mem_refresh h he).2.le

theorem receive_ttl (h : r.barriers.ttl = some d) : (receive c r m).1.barriers.ttl = some d := by
  rw [receive, admission_eq]
  refine (deliver_bound _ _ _ _ _ _ _).2.trans ?_
  rw [refresh_timed h]

/-- A message that comes when its time has come. -/
theorem receive_router_asOf (h : r.barriers.ttl = some d) :
    (receive c (r.asOf d m.now).router m).1 = ⟨r.owner, (receive c r m).1.barriers.untimed⟩ ∧
      (receive c (r.asOf d m.now).router m).2.2 = (receive c r m).2.2 := by
  have hdelivery : (r.asOf d m.now).router.delivery m.states m.now c m.sender m.id m.payload =
      ({ (r.delivery m.states m.now c m.sender m.id m.payload).1 with
          barriers := (r.delivery m.states m.now c m.sender m.id m.payload).1.barriers.untimed },
        (r.delivery m.states m.now c m.sender m.id m.payload).2) := by
    unfold delivery
    rw [refresh_asOf h]
    exact deliver_untimed r.owner m.sender m.id m.payload m.now
      ⟨(r.refresh c.text m.now).1, [], [], []⟩ _
  simp only [receive, admission_eq, hdelivery]
  exact ⟨rfl, rfl⟩

/-- **A message that comes** gets the same answer, and leaves the groups that are open then. -/
theorem receive_asOf (h : r.barriers.ttl = some d) (ht : t ≤ m.now) :
    Prompt.receive c d (r.asOf d t) m =
      ((receive c r m).1.asOf d m.now, (receive c r m).2.2) := by
  have hwait : (r.asOf d t).wait d (m.now - t) = r.asOf d m.now := by
    rw [wait_asOf, Nat.add_sub_of_le ht]
  have howner : (receive c r m).1.owner = r.owner := by rw [receive, admission_eq]
  have hreceive : Prompt.receive c d (r.asOf d t) m =
      (Prompt.settle d ⟨(receive c ((r.asOf d t).wait d (m.now - t)).router m).1,
          ((r.asOf d t).wait d (m.now - t)).clock⟩,
        (receive c ((r.asOf d t).wait d (m.now - t)).router m).2.2) := rfl
  obtain ⟨hrouter, hanswer⟩ := receive_router_asOf (c := c) (m := m) h
  rw [hreceive, hwait, hrouter, hanswer]
  refine Prod.ext ?_ rfl
  unfold Prompt.settle asOf BarrierStore.asOf
  rw [howner]
  refine congrArg (fun g => Prompt.mk ⟨r.owner, none, _, g⟩ m.now) ?_
  -- no group is older than `d`, so those whose age is not `d` are the younger ones
  refine List.filter_congr fun e he => ?_
  rw [decide_eq_decide]
  exact ⟨lt_of_le_of_ne (age_receive h e he), ne_of_lt⟩

variable (c) in
/-- **A run of messages** gets the same answers. -/
theorem answers_asOf {ms : List (Numbered P)} (h : r.barriers.ttl = some d)
    (ht : ∀ m ∈ ms, t ≤ m.now) (hms : (ms.map (·.now)).Pairwise (· ≤ ·)) :
    Prompt.answers c d (r.asOf d t) ms = answers c r ms := by
  induction ms generalizing r t with
  | nil => rfl
  | cons m ms ih =>
    rw [List.map_cons, List.pairwise_cons] at hms
    have hlater : ∀ m' ∈ ms, m.now ≤ m'.now := fun m' hm' => hms.1 _ (List.mem_map_of_mem hm')
    rw [Prompt.answers, receive_asOf h (ht m List.mem_cons_self), answers_cons,
      ih (receive_ttl h) hlater hms.2]

end Simulation

end Router

/-! ## When the inputs of a group have come -/

/-- All that the group holds has come in time after the message that opened it. -/
def Group.Timely (d : Nat) (g : Group (Numbered P)) : Prop :=
  ∃ n₀ a₀, g.arrivals.get? n₀ = some a₀ ∧ a₀.now = g.openedAt ∧
    ∀ n a, g.arrivals.get? n = some a → n ≠ n₀ → g.openedAt ≤ a.now ∧ a.now < g.openedAt + d

namespace BarrierStore

/-- All open groups are timely, and none has been opened after `t`. -/
def Timely (d t : Nat) (b : BarrierStore (Numbered P)) : Prop :=
  ∀ e ∈ b.groups, e.2.Timely d ∧ e.2.openedAt ≤ t

/-- While a message is delivered, a group holds it already or is young enough to take it in. -/
def Receives (d : Nat) (m : Numbered P) (b : BarrierStore (Numbered P)) : Prop :=
  b.Timely d m.now ∧
    ∀ e ∈ b.groups, e.2.arrivals.has m.sender = true ∨ m.now < e.2.openedAt + d

section Receives

variable {d : Nat} {m : Numbered P} {b : BarrierStore (Numbered P)} {key : GroupKey}
  {expected : NameSet}

/-- A group that takes the message in stays timely. -/
theorem Receives.grown (h : b.Receives d m) (hnew : (b.held key).has m.sender = false) :
    (b.grown m.now key m.sender m).Timely d ∧
      (b.grown m.now key m.sender m).openedAt ≤ m.now := by
  cases hg : b.groups.get? key with
  | none =>
    have hgrown : b.grown m.now key m.sender m = ⟨(∅ : NameMap _).set m.sender m, m.now⟩ := by
      unfold BarrierStore.grown groupAt
      rw [held_of_get?_eq_none hg, hg]
      rfl
    rw [hgrown]
    refine ⟨⟨m.sender, m, ?_, rfl, fun n a hn hne => ?_⟩, le_rfl⟩
    · rw [NameMap.get?_set, if_pos rfl]
    · rw [NameMap.get?_set, if_neg (Ne.symm hne)] at hn
      cases hn
  | some g =>
    have hgrown : b.grown m.now key m.sender m = ⟨g.arrivals.set m.sender m, g.openedAt⟩ := by
      unfold BarrierStore.grown groupAt
      rw [held_of_get?_eq_some hg, hg]
      rfl
    rw [held_of_get?_eq_some hg] at hnew
    have hmem := Table.mem_of_get?_eq_some hg
    obtain ⟨⟨n₀, a₀, hfirst, hopened, hrest⟩, hle⟩ := h.1 _ hmem
    have hyoung : m.now < g.openedAt + d := by
      rcases h.2 _ hmem with hhas | hyoung
      · rw [hnew] at hhas
        cases hhas
      · exact hyoung
    have hne : m.sender ≠ n₀ := by
      rintro rfl
      rw [NameMap.has, hfirst] at hnew
      cases hnew
    rw [hgrown]
    refine ⟨⟨n₀, a₀, ?_, hopened, fun n a hn hn₀ => ?_⟩, hle⟩
    · rw [NameMap.get?_set, if_neg hne, hfirst]
    · rw [NameMap.get?_set] at hn
      split at hn
      · cases hn
        exact ⟨hle, hyoung⟩
      · exact hrest n a hn hn₀

/-- One group after the other receives the message. -/
theorem Receives.arrive (h : b.Receives d m) :
    (b.arrive m.now key m.sender m expected).1.Receives d m := by
  cases hh : (b.held key).has m.sender with
  | true =>
    rw [arrive_held hh]
    exact h
  | false =>
    by_cases hc : b.Completes key m.sender expected
    · rw [arrive_completes hh hc]
      exact ⟨fun e he => h.1 e (List.mem_of_mem_filter he),
        fun e he => h.2 e (List.mem_of_mem_filter he)⟩
    · rw [arrive_pending hh hc]
      refine ⟨fun e he => ?_, fun e he => ?_⟩
      · rcases Table.mem_set he with rfl | he
        · exact h.grown hh
        · exact h.1 e he
      · rcases Table.mem_set he with rfl | he
        · exact Or.inl (NameMap.has_set.mpr (Or.inl rfl))
        · exact h.2 e he

/-- What a completed group hands out has come in time. -/
theorem Receives.complete (h : b.Receives d m) {inputs : List (Name × Numbered P)}
    (ha : (b.arrive m.now key m.sender m expected).2 = .complete inputs) :
    ∃ g : Group (Numbered P), g.Timely d ∧ inputs = g.arrivals.entries := by
  cases hh : (b.held key).has m.sender with
  | true =>
    rw [arrive_held hh] at ha
    cases ha
  | false =>
    by_cases hc : b.Completes key m.sender expected
    · rw [arrive_completes hh hc] at ha
      cases ha
      exact ⟨b.grown m.now key m.sender m, (h.grown hh).1, rfl⟩
    · rw [arrive_pending hh hc] at ha
      cases ha

/-- **What a message completes has come in time.** -/
theorem timely_of_completions (h : b.Receives d m) {ss : List Statement}
    {e : Statement × List (Name × Numbered P)}
    (he : e ∈ Router.completions m.sender m.id m m.now b ss) :
    ∃ g : Group (Numbered P), g.Timely d ∧ e.2 = g.arrivals.entries := by
  induction ss generalizing b with
  | nil => cases he
  | cons s ss ih =>
    have hnext : (b.arrive m.now ⟨s.id, m.id⟩ m.sender m s.inputs).1.Receives d m := h.arrive
    unfold Router.completions at he
    rcases ha : b.arrive m.now ⟨s.id, m.id⟩ m.sender m s.inputs with ⟨b', a⟩
    rw [ha] at hnext he
    cases a with
    | duplicate => cases he
    | pending arrived awaited => exact ih hnext he
    | complete inputs =>
      rcases List.mem_cons.mp he with rfl | he
      · exact h.complete (congrArg (·.2) ha)
      · exact ih hnext he

end Receives

end BarrierStore

namespace Router

/-! ## Runs -/

/-- A message that carries itself. -/
def Numbered.itself (m : Numbered P) : Numbered (Numbered P) := ⟨⟨m.sender, m, m.states, m.now⟩, m.id⟩

/-- The groups that `m` completes after other messages, each with the messages that have brought what
it hands out. -/
def broughtBy (c : Composition) (r : Router (Numbered P)) (before : List (Numbered P))
    (m : Numbered P) : List (Statement × List (Name × Numbered P)) :=
  handedOut c (receiveAll c r (before.map .itself)) m.itself

/-- One of the messages is from the sender and for the request. -/
def CameAmong (ms : List (Numbered P)) (id : CommunicationId) (n : Name) (a : Numbered P) : Prop :=
  a ∈ ms ∧ a.sender = n ∧ a.id = id

section Runs

variable {c : Composition} {d t : Nat} {r : Router (Numbered P)} {m : Numbered P}
  {ms before : List (Numbered P)}

theorem receiveAll_map {Q : Type} (f : P → Q) (r : Router P) :
    receiveAll c (r.map f) (ms.map (Numbered.map f)) = (receiveAll c r ms).map f := by
  induction ms generalizing r with
  | nil => rfl
  | cons m ms ih =>
    have hone : (receive c (r.map f) (Numbered.map f m)).1 = (receive c r m).1.map f := by
      rw [receive_map]
    have hcons : receiveAll c (r.map f) ((m :: ms).map (Numbered.map f)) =
        receiveAll c (receive c (r.map f) (Numbered.map f m)).1 (ms.map (Numbered.map f)) := rfl
    rw [hcons, hone, ih]
    rfl

/-- What the messages have brought is what is handed out. -/
theorem map_broughtBy :
    (broughtBy c r before m).map (fun g => (g.1, mapInputs (·.payload) g.2)) =
      handedOut c (receiveAll c (r.map (·.payload)) before) m := by
  have hbefore : (before.map Numbered.itself).map (Numbered.map (·.payload)) = before := by
    rw [List.map_map]
    exact List.map_id _
  have hall : receiveAll c (r.map (·.payload))
      ((before.map Numbered.itself).map (Numbered.map (·.payload))) =
        (receiveAll c r (before.map Numbered.itself)).map (·.payload) := receiveAll_map _ r
  rw [hbefore] at hall
  rw [hall]
  exact (handedOut_map (·.payload) c _ m.itself).symm

/-- The open groups hold messages among `ms` that have come in time, none after `t`. -/
structure Kept (ms : List (Numbered P)) (d t : Nat) (r : Router (Numbered P)) : Prop where
  ttl : r.barriers.ttl = some d
  timely : r.barriers.Timely d t
  came : r.barriers.Stems (CameAmong ms)

theorem Kept.new (owner : Name) : Kept ms d t (Router.new owner (some d)) :=
  ⟨rfl, fun _ he => absurd he List.not_mem_nil, fun _ he => absurd he List.not_mem_nil⟩

theorem Kept.receives (h : Kept ms d t r) (ht : t ≤ m.now) :
    (r.refresh c.text m.now).1.Receives d m := by
  refine ⟨fun e he => ?_, fun e he => Or.inr ?_⟩
  · obtain ⟨htimely, hle⟩ := h.timely e (mem_refresh h.ttl he).1
    exact ⟨htimely, hle.trans ht⟩
  · obtain ⟨hmem, hage⟩ := mem_refresh h.ttl he
    have hle := (h.timely e hmem).2.trans ht
    unfold Group.age at hage
    omega

theorem Kept.refresh_came (h : Kept ms d t r) :
    (r.refresh c.text m.now).1.Stems (CameAmong ms) :=
  BarrierStore.Stems.refresh fun _ => h.came

/-- **One more message** leaves it so. -/
theorem Kept.receive (h : Kept ms d t r) (ht : t ≤ m.now) (hm : m ∈ ms) :
    Kept ms d m.now (receive c r m.itself).1 := by
  refine ⟨receive_ttl h.ttl, ?_, receive_stems h.refresh_came ⟨hm, rfl, rfl⟩⟩
  rw [Router.receive, admission_eq]
  exact (deliver_keeps (M := fun b => b.Receives d m) (fun _ _ _ hb => hb.arrive)
    (h.receives ht)).1

variable (c) in
/-- **A run of messages** leaves it so. -/
theorem kept_receiveAll {T : Nat} (h : Kept ms d t r) (hsub : before ⊆ ms)
    (ht : ∀ a ∈ before, t ≤ a.now) (hT : ∀ a ∈ before, a.now ≤ T) (htT : t ≤ T)
    (hb : (before.map (·.now)).Pairwise (· ≤ ·)) :
    Kept ms d T (receiveAll c r (before.map .itself)) := by
  induction before generalizing r t with
  | nil => exact ⟨h.ttl, fun e he => (h.timely e he).imp_right (·.trans htT), h.came⟩
  | cons m before ih =>
    rw [List.map_cons, List.pairwise_cons] at hb
    refine ih (h.receive (ht m List.mem_cons_self) (hsub List.mem_cons_self))
      (fun a ha => hsub (List.mem_cons_of_mem m ha))
      (fun a ha => hb.1 _ (List.mem_map_of_mem ha))
      (fun a ha => hT a (List.mem_cons_of_mem m ha)) (hT m List.mem_cons_self) hb.2

/-- With `d = 0` a group has no more than one member when it is completed. -/
theorem size_of_timely_zero {g : Group (Numbered P)} (h : g.Timely 0) {inputs : NameSet}
    (hi : g.arrivals.names = inputs.toList) : inputs.size < 2 := by
  obtain ⟨n₀, a₀, -, -, hrest⟩ := h
  have hone : g.arrivals.names ⊆ [n₀] := by
    intro n hn
    rw [NameMap.mem_names, NameMap.has_eq_true] at hn
    obtain ⟨a, ha⟩ := hn
    by_contra hne
    have hlate := hrest n a ha fun he => hne (List.mem_singleton.mpr he)
    omega
  have hlength := (g.arrivals.nodup_names.subperm hone).length_le
  rw [hi, List.length_singleton] at hlength
  unfold NameSet.size
  omega

/-- **Groups expire as if on time.** Messages come under one composition and in the order of time, to
a router whose time to live is `d`. They are answered as by the prompt router, whose groups vanish at
the moment at which their age reaches `d`.

Each group that one of the messages completes hands out what one message from each of its senders has
brought for the request, and all of these have come less than `d` after the first of them; the first
needs no time, so that a group of one sender is completed at once. With `d = 0` nothing but such a group
is ever completed. The groups that an accepted message joins are those that it completes. -/
theorem expires_on_time (owner : Name) (c : Composition) (d : Nat) (ms : List (Numbered P))
    (hms : (ms.map (·.now)).Pairwise (· ≤ ·)) :
    answers c (Router.new owner (some d)) ms =
        Prompt.answers c d ⟨Router.new owner none, 0⟩ ms ∧
      ∀ before m after, ms = before ++ m :: after →
        handedOut c (receiveAll c (Router.new owner (some d)) before) m =
            (broughtBy c (Router.new owner (some d)) before m).map
              (fun g => (g.1, mapInputs (·.payload) g.2)) ∧
          (∀ g ∈ broughtBy c (Router.new owner (some d)) before m,
            g.2.map (·.1) = g.1.inputs.toList ∧
            (∀ n a, (n, a) ∈ g.2 → a ∈ before ++ [m] ∧ a.sender = n ∧ a.id = m.id) ∧
            (∃ n₀ a₀, (n₀, a₀) ∈ g.2 ∧
              ∀ n a, (n, a) ∈ g.2 → n ≠ n₀ → a₀.now ≤ a.now ∧ a.now < a₀.now + d) ∧
            (d = 0 → g.1.inputs.size < 2)) ∧
          ∀ inputs joined,
            (receive c (receiveAll c (Router.new owner (some d)) before) m).2.2 =
              .ok (.ready inputs joined) → joined ≠ [] →
            joined = (broughtBy c (Router.new owner (some d)) before m).map (·.1.id) := by
  refine ⟨?_, fun before m after hsplit => ?_⟩
  · exact (answers_asOf c (r := Router.new owner (some d)) (t := 0) rfl
      (fun _ _ => Nat.zero_le _) hms).symm
  have hmap : handedOut c (receiveAll c (Router.new owner (some d)) before) m =
      (broughtBy c (Router.new owner (some d)) before m).map
        (fun g => (g.1, mapInputs (·.payload) g.2)) :=
    (map_broughtBy (r := Router.new owner (some d))).symm
  -- all that comes before `m` has come by its time
  rw [hsplit, List.map_append, List.map_cons, List.pairwise_append] at hms
  obtain ⟨hb, -, hcross⟩ := hms
  have hkept : Kept (before ++ [m]) d m.now
      (receiveAll c (Router.new owner (some d)) (before.map .itself)) :=
    kept_receiveAll c (.new owner) (List.subset_append_left before [m])
      (fun _ _ => Nat.zero_le _)
      (fun a ha => hcross _ (List.mem_map_of_mem ha) _ List.mem_cons_self) (Nat.zero_le _) hb
  refine ⟨hmap, fun g hg => ?_, fun inputs joined ha hj => ?_⟩
  · have hself : CameAmong (before ++ [m]) m.id m.sender m :=
      ⟨List.mem_append_right _ List.mem_cons_self, rfl, rfl⟩
    obtain ⟨-, hnames, hcame⟩ := mem_completions hkept.refresh_came hself hg
    obtain ⟨grp, htimely, hentries⟩ :=
      BarrierStore.timely_of_completions (hkept.receives le_rfl) hg
    refine ⟨hnames, hcame, ?_, ?_⟩
    · obtain ⟨n₀, a₀, hfirst, hopened, hrest⟩ := htimely
      rw [hentries]
      refine ⟨n₀, a₀, NameMap.mem_entries.mpr hfirst, fun n a hn hne => ?_⟩
      rw [hopened]
      exact hrest n a (NameMap.mem_entries.mp hn) hne
    · rintro rfl
      rw [hentries] at hnames
      exact size_of_timely_zero htimely hnames
  · rw [(ready_of_handedOut ha hj).1, hmap, List.map_map]
    rfl

/-- What `A` has sent is ten units old when `E` sends, and has vanished; what `E` has sent is nine
units old when `A` sends again. -/
theorem pair_expires :
    answers pair (Router.new (.sample "B") (some 10))
        [⟨⟨.sample "A", "a1", ∅, 0⟩, 1⟩, ⟨⟨.sample "E", "e1", ∅, 10⟩, 1⟩,
          ⟨⟨.sample "A", "a2", ∅, 19⟩, 1⟩] =
      Prompt.answers pair 10 ⟨Router.new (.sample "B") none, 0⟩
        [⟨⟨.sample "A", "a1", ∅, 0⟩, 1⟩, ⟨⟨.sample "E", "e1", ∅, 10⟩, 1⟩,
          ⟨⟨.sample "A", "a2", ∅, 19⟩, 1⟩] ∧
    answers pair (Router.new (.sample "B") (some 10))
        [⟨⟨.sample "A", "a1", ∅, 0⟩, 1⟩, ⟨⟨.sample "E", "e1", ∅, 10⟩, 1⟩,
          ⟨⟨.sample "A", "a2", ∅, 19⟩, 1⟩] =
      [(1, .ok .pending), (1, .ok .pending),
        (1, .ok (.ready [(.sample "A", "a2"), (.sample "E", "e1")] [0]))] :=
  ⟨(expires_on_time (.sample "B") pair 10 _ (by decide)).1, rfl⟩

end Runs

end Router

end ServiceFlow
