import ServiceFlow.Engine.Registry
import ServiceFlow.Proofs.Bus.Delivery
import ServiceFlow.Proofs.Dpe.FrontEnds
import ServiceFlow.Site.Basic

/-!
# Who knows whom

DPEs that work on one bus are told to take front-ends and are shut down. What a DPE knows of the others
comes from the messages that they send it, so it is behind by what is still on its way. And it is told
less than there is to know: a DPE announces itself to a new front-end and takes leave of the front-end that
it has at the end, but the front-end that it had before does not hear of the change.

* `Fleet`, `Fleet.step`: DPEs at work, and what may happen next.
* `Fleet.Kept`: once what is on its way has been handled, a DPE knows those that have ever had it as
  front-end, but for those that have shut down with it. `Fleet.Kept.step`, `Fleet.Kept.run`: so it is
  after every run.
* `Fleet.known_iff`: what a DPE knows when nothing is on its way, and when that is what it should know.
* `Fleet.left_behind`: a DPE that has moved on and shut down is still known.
-/

namespace ServiceFlow

/-! ## DPEs at work -/

/-- The DPEs that work on one bus. -/
structure Fleet (E : Type) where
  exchange : Exchange
  nodes : Table Name (Node E)

namespace Fleet

variable {E : Type}

/-- What may happen next: someone publishes a message, a DPE handles its next control message, or a DPE
is shut down. -/
inductive Event where
  | publish (m : Message)
  | handle (n : Name)
  | shutDown (n : Name)

/-- What is published from outside are commands to take a front-end, and commands to a DPE to stop. -/
def Event.WellFormed : Event → Prop
  | .publish m =>
    (∃ n, Dpe.requestOf m = .ok (.setFrontEnd n)) ∨
      ∃ n, Dpe.requestOf m = .ok (.stopDpe n) ∧ m.topic = .control n
  | _ => True

/-- A DPE becomes `d`, and its surroundings become `x`. -/
def put (s : Fleet E) (n : Name) (d : Node E) (x : Exchange) : Fleet E := ⟨x, s.nodes.set n d⟩

/-- A new DPE starts, unless one of its name is there. -/
def join (s : Fleet E) (n : Name) (setup : Setup E) : Fleet E :=
  match s.nodes.get? n, Dpe.new n setup with
  | none, .ok d =>
    match d.start s.exchange with
    | (x, .ok k) => s.put n ⟨d, ∅, [k]⟩ x
    | (_, .error _) => s
  | _, _ => s

/-- DPEs start in turn. -/
def start (x : Exchange) (dpes : List (Name × Setup E)) : Fleet E :=
  dpes.foldl (fun s e => s.join e.1 e.2) ⟨x, []⟩

/-- A DPE handles its next control message, with the shared memory that is its own. -/
def handle [EngineModel E] (s : Fleet E) (n : Name) : Fleet E :=
  match s.nodes.get? n with
  | none => s
  | some d =>
    match d.control with
    | [] => s
    | k :: _ =>
      match s.exchange.bus.receive k with
      | (bus, .message m) =>
        let (dpe, x) := d.dpe.handle { s.exchange with bus := bus, memory := d.memory } m
        s.put n { d with dpe := dpe, memory := x.memory } { x with memory := s.exchange.memory }
      | _ => s

/-- A DPE shuts down and gives up its subscription. -/
def shutDown (s : Fleet E) (n : Name) : Fleet E :=
  match s.nodes.get? n with
  | none => s
  | some d =>
    match d.control with
    | [] => s
    | k :: rest =>
      let (dpe, x) := d.dpe.finish { s.exchange with memory := d.memory }
      s.put n ⟨dpe, x.memory, rest⟩ { x with bus := x.bus.drop k, memory := s.exchange.memory }

/-- One event. -/
def step [EngineModel E] (s : Fleet E) : Event → Fleet E
  | .publish m => { s with exchange := (s.exchange.publish m).1 }
  | .handle n => s.handle n
  | .shutDown n => s.shutDown n

/-- Events in turn. -/
def run [EngineModel E] (s : Fleet E) (events : List Event) : Fleet E := events.foldl step s

/-! ## What there is to know -/

/-- The DPE of a name. -/
def dpe? (s : Fleet E) (n : Name) : Option (Dpe E) := (s.nodes.get? n).map (·.dpe)

/-- Its front-end. -/
def frontEnd? (s : Fleet E) (n : Name) : Option Name := (s.dpe? n).map (·.frontEnd)

/-- The subscription on which it takes control messages, while it runs. -/
def control? (s : Fleet E) (n : Name) : Option Nat := (s.nodes.get? n).bind (·.control.head?)

/-- It has not shut down. -/
def Runs (s : Fleet E) (n : Name) : Prop := (s.control? n).isSome = true

/-- No control message waits for a DPE that runs. -/
def AtRest (s : Fleet E) : Prop := ∀ n k, s.control? n = some k → s.exchange.bus.queued k = []

/-- The DPE has had the front-end at some time during the events. -/
def Had [EngineModel E] (s : Fleet E) (events : List Event) (w f : Name) : Prop :=
  ∃ p, p <+: events ∧ (s.run p).frontEnd? w = some f

/-- **Who knows whom follows who has had whom as front-end.** Once a DPE that runs has handled what waits
for it, it knows those that have had it as front-end, but for those that have shut down with it. -/
structure Kept (had : Name → Name → Prop) (s : Fleet E) : Prop where
  is_open : s.exchange.bus.closed = false
  attended : Attended s.exchange.bus .control s.control?
  placed : ∀ n d, s.nodes.get? n = some d → (n.Valid ∧ n.kind = .dpe) ∧ d.dpe.name = n ∧
    d.dpe.containers = ∅ ∧ d.control.tail = []
  frontEnd : ∀ n f, s.frontEnd? n = some f → had n f ∧ f.Valid ∧ f.kind = .dpe
  traffic : ∀ n k, s.control? n = some k →
    ∀ m ∈ s.exchange.bus.queued k, m.ConcernsFrontEnds
  expects : ∀ f k d w, s.control? f = some k → s.dpe? f = some d → w ≠ f →
    ((s.exchange.bus.queued k).foldl (Message.tells w) (w ∈ d.known) ↔
      had w f ∧ (s.Runs w ∨ s.frontEnd? w ≠ some f))

section Invariant

variable {s : Fleet E} {had : Name → Name → Prop} {d : Node E} {dpe : Dpe E} {x : Exchange}
  {m : Message} {rest : List Message} {f n n' w : Name} {k k' : Nat}

/-! ## One DPE among the others -/

theorem get?_of_dpe? (h : s.dpe? n = some dpe) : ∃ d, s.nodes.get? n = some d ∧ d.dpe = dpe :=
  Option.map_eq_some_iff.mp h

theorem get?_put (n' : Name) :
    (s.put n d x).nodes.get? n' = if n' = n then some d else s.nodes.get? n' := by
  unfold put
  rw [Table.get?_set]
  simp only [eq_comm]

theorem dpe?_put (n' : Name) :
    (s.put n d x).dpe? n' = if n' = n then some d.dpe else s.dpe? n' := by
  unfold dpe?
  rw [get?_put]
  split <;> rfl

theorem frontEnd?_put (n' : Name) :
    (s.put n d x).frontEnd? n' = if n' = n then some d.dpe.frontEnd else s.frontEnd? n' := by
  unfold frontEnd?
  rw [dpe?_put]
  split <;> rfl

theorem control?_put (n' : Name) :
    (s.put n d x).control? n' = if n' = n then d.control.head? else s.control? n' := by
  unfold control?
  rw [get?_put]
  split <;> rfl

theorem Kept.congr (h : s.Kept had) {had' : Name → Name → Prop}
    (he : ∀ n f, had n f ↔ had' n f) : s.Kept had' := by
  obtain rfl : had = had' := funext fun n => funext fun f => propext (he n f)
  exact h

/-- If all have the front-ends that they had before, there is nothing to add to what they have had. -/
theorem Kept.note (h : s.Kept had) : s.Kept fun n f => had n f ∨ s.frontEnd? n = some f :=
  h.congr fun n f => (or_iff_left_of_imp fun hf => (h.frontEnd n f hf).1).symm

/-! ## Messages from outside -/

theorem Kept.publish [EngineModel E] (h : s.Kept had) (hm : (Event.publish m).WellFormed) :
    (s.step (.publish m)).Kept had := by
  have hstep : (s.exchange.publish m).1 = { s.exchange with bus := s.exchange.bus.accept m } := by
    rw [Exchange.publish_open h.is_open]
  obtain ⟨hattended, hqueue⟩ := h.attended.accept h.is_open m
  change Kept had { s with exchange := (s.exchange.publish m).1 }
  rw [hstep]
  refine ⟨h.is_open, hattended, h.placed, h.frontEnd, fun n k hk m' hm' => ?_,
    fun f k dpe w hk hdpe hw => ?_⟩
  · rcases (h.attended.mem_accept h.is_open hk).mp hm' with hm' | ⟨-, rfl⟩
    · exact h.traffic n k hk m' hm'
    · unfold Message.ConcernsFrontEnds
      rcases hm with ⟨g, hr⟩ | ⟨g, hr, -⟩ <;> rw [hr] <;> rfl
  · obtain ⟨d, hd, -⟩ := get?_of_dpe? hdpe
    obtain ⟨hf, -⟩ := h.placed f d hd
    refine Iff.trans ?_ (h.expects f k dpe w hk hdpe hw)
    change ((s.exchange.bus.accept m).queued k).foldl _ _ ↔ _
    rw [hqueue f k hk, List.foldl_append, Message.foldl_tells_silent]
    intro m' hm' p
    obtain ⟨hm', hcovers⟩ := List.mem_filter.mp hm'
    rw [List.mem_singleton.mp hm'] at hcovers ⊢
    unfold Message.tells
    rcases hm with ⟨g, hr⟩ | ⟨g, hr, htopic⟩
    · rw [hr]
      rfl
    · -- a command to stop comes to the DPE itself only
      rw [htopic, Topic.control_covers_iff hf (ControlRequest.fits_of_requestOf hr)] at hcovers
      rw [hr]
      refine propext (and_iff_right ?_)
      rintro rfl
      exact hw hcovers.symm

/-! ## Handling -/

/-- The DPE handles the first message of its queue, and publishes what it has to say of it. -/
structure Handles (s : Fleet E) (n : Name) (d : Node E) (k : Nat) (m : Message)
    (rest : List Message) (x : Exchange) : Prop where
  node : s.nodes.get? n = some d
  control : s.control? n = some k
  queue : s.exchange.bus.queued k = m :: rest
  is_open : x.bus.closed = false
  attended : Attended x.bus .control s.control?
  queues : ∀ n' k', s.control? n' = some k' → x.bus.queued k' =
    (if n' = n then rest else s.exchange.bus.queued k') ++
      (d.dpe.sends m).filter fun m => (Topic.control n').covers m.topic

theorem Kept.handle_cases [EngineModel E] (h : s.Kept had) (n : Name) :
    s.handle n = s ∨ ∃ d k m rest x, s.Handles n d k m rest x ∧
      s.handle n = s.put n { d with dpe := d.dpe.heeds m } x := by
  cases hd : s.nodes.get? n with
  | none =>
    refine .inl ?_
    unfold Fleet.handle
    rw [hd]
  | some d =>
    obtain ⟨dpe, memory, control⟩ := d
    cases control with
    | nil =>
      refine .inl ?_
      unfold Fleet.handle
      rw [hd]
    | cons k others =>
      have hk : s.control? n = some k := by
        unfold control?
        rw [hd]
        rfl
      cases hqueue : s.exchange.bus.queued k with
      | nil =>
        refine .inl ?_
        obtain ⟨received, hreceived, hnone⟩ := h.attended.receive_nil hk hqueue
        unfold Fleet.handle
        simp only [hd, hreceived]
        cases received with
        | message m => exact absurd rfl (hnone m)
        | empty | ended => rfl
      | cons m rest =>
        obtain ⟨bus, hreceived, hclosed, hattended, hrest, hothers⟩ :=
          h.attended.queued_receive hk hqueue
        have hopen : bus.closed = false := hclosed.trans h.is_open
        obtain ⟨x, hhandle, hmemory, hbus⟩ := Dpe.handle_spec
          (x := { s.exchange with bus := bus, memory := memory }) hopen
          (h.traffic n k hk m (hqueue ▸ List.mem_cons_self)) dpe
        obtain ⟨hattended, hqueues⟩ := hattended.acceptAll hopen (dpe.sends m)
        have hmemory : x.memory = memory := hmemory
        have hbus : x.bus = (dpe.sends m).foldl Bus.accept bus := hbus
        refine .inr ⟨_, k, m, rest, { x with memory := s.exchange.memory }, ⟨hd, hk, hqueue, ?_, ?_,
          fun n' k' hk' => ?_⟩, ?_⟩
        · exact hbus ▸ Bus.acceptAll_closed hopen _
        · exact hbus ▸ hattended
        · change x.bus.queued k' = _
          rw [hbus, hqueues n' k' hk']
          by_cases hn : n' = n
          · subst hn
            obtain rfl := Option.some.inj (hk.symm.trans hk')
            rw [if_pos rfl, hrest]
          · rw [if_neg hn, hothers n' k' hn hk']
        · unfold Fleet.handle
          simp only [hd, hreceived, hhandle, hmemory]

namespace Handles

/-- Those that run before run after. -/
theorem control?_put (h : s.Handles n d k m rest x) (n' : Name) :
    (s.put n { d with dpe := d.dpe.heeds m } x).control? n' = s.control? n' := by
  rw [Fleet.control?_put]
  split
  · rename_i he
    rw [he]
    unfold control?
    rw [h.node]
    rfl
  · rfl

theorem frontEnd? (h : s.Handles n d k m rest x) : s.frontEnd? n = some d.dpe.frontEnd := by
  unfold Fleet.frontEnd? dpe?
  rw [h.node]
  rfl

/-- What the DPE `f` will have heard of `w` is what it would have heard before, and the announcement if
the message makes `w` take it as front-end. -/
theorem hears (h : s.Handles n d k m rest x) (hs : s.Kept had) (hk : s.control? f = some k')
    (hdpe : (s.put n { d with dpe := d.dpe.heeds m } x).dpe? f = some dpe) (hw : w ≠ f) :
    (x.bus.queued k').foldl (Message.tells w) (w ∈ dpe.known) ↔
      (Dpe.requestOf m = .ok (.setFrontEnd f) ∧ w = n) ∨
        had w f ∧ (s.Runs w ∨ s.frontEnd? w ≠ some f) := by
  obtain ⟨hn, hname, -⟩ := hs.placed n d h.node
  have hvalid : d.dpe.name.Valid ∧ d.dpe.name.kind = .dpe := hname.symm ▸ hn
  rw [dpe?_put] at hdpe
  rw [h.queues f k' hk, List.foldl_append]
  by_cases hfn : f = n
  · subst hfn
    rw [if_pos rfl] at hdpe ⊢
    obtain rfl := Option.some.inj hdpe
    obtain rfl := Option.some.inj (h.control.symm.trans hk)
    have hold := hs.expects f k d.dpe w hk (congrArg (Option.map _) h.node) hw
    rw [h.queue, List.foldl_cons] at hold
    rw [Dpe.foldl_tells_sends hvalid hn hw, hname, Dpe.mem_known_heeds (hname.symm ▸ hw)]
    exact or_congr_right hold
  · rw [if_neg hfn] at hdpe ⊢
    obtain ⟨d', hd', -⟩ := get?_of_dpe? hdpe
    rw [Dpe.foldl_tells_sends hvalid (hs.placed f d' hd').1 hw, hname]
    exact or_congr_right (hs.expects f k' dpe w hk hdpe hw)

/-- And that is what it is to know then. -/
theorem expects (h : s.Handles n d k m rest x) (hs : s.Kept had) :
    ((Dpe.requestOf m = .ok (.setFrontEnd f) ∧ w = n) ∨
        had w f ∧ (s.Runs w ∨ s.frontEnd? w ≠ some f)) ↔
      (had w f ∨ (s.put n { d with dpe := d.dpe.heeds m } x).frontEnd? w = some f) ∧
        ((s.put n { d with dpe := d.dpe.heeds m } x).Runs w ∨
          (s.put n { d with dpe := d.dpe.heeds m } x).frontEnd? w ≠ some f) := by
  unfold Runs
  rw [h.control?_put, frontEnd?_put]
  by_cases hwn : w = n
  · subst hwn
    have hruns : (s.control? w).isSome = true := Option.isSome_iff_exists.mpr ⟨k, h.control⟩
    obtain ⟨g, hr, hg⟩ | ⟨hnone, hg⟩ := d.dpe.heeds_frontEnd m
    · simp [hr, hg, hruns, or_comm]
    · have hhad : d.dpe.frontEnd = f → had w f := by
        rintro rfl
        exact (hs.frontEnd w _ h.frontEnd?).1
      simpa [hnone, hg, hruns] using hhad
  · have hhad : s.frontEnd? w = some f → had w f := fun hf => (hs.frontEnd w f hf).1
    simp only [hwn, and_false, false_or, if_false]
    rw [or_iff_left_of_imp hhad]

end Handles

theorem Kept.handle [EngineModel E] (h : s.Kept had) (n : Name) :
    (s.handle n).Kept fun w f => had w f ∨ (s.handle n).frontEnd? w = some f := by
  obtain hs | ⟨d, k, m, rest, x, hh, hs⟩ := h.handle_cases n
  · rw [hs]
    exact h.note
  rw [hs]
  obtain ⟨hn, hname, hcontainers, hone⟩ := h.placed n d hh.node
  refine ⟨hh.is_open, hh.attended.of_eq hh.control?_put, fun n' d' hd' => ?_,
    fun n' f hf => ⟨.inr hf, ?_⟩, fun n' k' hk' m' hm' => ?_, fun f k' dpe w hk' hdpe hw => ?_⟩
  · rw [get?_put] at hd'
    split at hd'
    · rename_i he
      cases hd'
      exact ⟨he.symm ▸ hn, (d.dpe.heeds_name m).trans (hname.trans he.symm),
        (d.dpe.heeds_containers m).trans hcontainers, hone⟩
    · exact h.placed n' d' hd'
  · rw [frontEnd?_put] at hf
    split at hf
    · obtain rfl := Option.some.inj hf
      obtain ⟨g, hr, hg⟩ | ⟨-, hg⟩ := d.dpe.heeds_frontEnd m
      · rw [hg]
        exact ControlRequest.fits_of_requestOf hr
      · exact (h.frontEnd n _ (hg ▸ hh.frontEnd?)).2
    · exact (h.frontEnd n' f hf).2
  · rw [hh.control?_put] at hk'
    change m' ∈ x.bus.queued k' at hm'
    rw [hh.queues n' k' hk'] at hm'
    rcases List.mem_append.mp hm' with hwaits | hnew
    · refine h.traffic n' k' hk' m' ?_
      by_cases he : n' = n
      · rw [if_pos he] at hwaits
        obtain rfl := Option.some.inj (hh.control.symm.trans (he ▸ hk'))
        exact hh.queue ▸ List.mem_cons_of_mem _ hwaits
      · rw [if_neg he] at hwaits
        exact hwaits
    · exact Dpe.concernsFrontEnds_of_mem_sends (hname.symm ▸ hn) (List.mem_of_mem_filter hnew)
  · rw [hh.control?_put] at hk'
    exact (hh.hears h hk' hdpe hw).trans (hh.expects h)

/-! ## Shutting down -/

theorem control?_put_nil (n' : Name) :
    (s.put n { d with control := [] } x).control? n' = Function.update s.control? n none n' := by
  rw [control?_put, Function.update_apply]
  rfl

/-- Those that run after are the others that ran before. -/
theorem of_control?_put_nil (hk : (s.put n { d with control := [] } x).control? n' = some k') :
    n' ≠ n ∧ s.control? n' = some k' := by
  rw [control?_put_nil, Function.update_apply] at hk
  split at hk
  · cases hk
  · rename_i hne
    exact ⟨hne, hk⟩

/-- The DPE tells its front-end and gives up its subscription. -/
structure Departs (s : Fleet E) (n : Name) (d : Node E) (x : Exchange) : Prop where
  node : s.nodes.get? n = some d
  is_open : x.bus.closed = false
  attended : Attended x.bus .control (Function.update s.control? n none)
  queues : ∀ n' k', n' ≠ n → s.control? n' = some k' → x.bus.queued k' =
    s.exchange.bus.queued k' ++
      (d.dpe.announcement d.dpe.frontEnd (.stopDpe n)).filter
        fun m => (Topic.control n').covers m.topic

theorem Kept.shutDown_cases (h : s.Kept had) (n : Name) :
    s.shutDown n = s ∨
      ∃ d x, s.Departs n d x ∧ s.shutDown n = s.put n { d with control := [] } x := by
  cases hd : s.nodes.get? n with
  | none =>
    refine .inl ?_
    unfold Fleet.shutDown
    rw [hd]
  | some d =>
    obtain ⟨-, hname, hcontainers, hone⟩ := h.placed n d hd
    obtain ⟨dpe, memory, control⟩ := d
    cases control with
    | nil =>
      refine .inl ?_
      unfold Fleet.shutDown
      rw [hd]
    | cons k others =>
      obtain rfl : others = [] := hone
      obtain rfl : dpe.name = n := hname
      have hk : s.control? dpe.name = some k := by
        unfold control?
        rw [hd]
        rfl
      obtain ⟨x, hfinish, hmemory, hbus⟩ := Dpe.finish_open
        (x := { s.exchange with memory := memory }) h.is_open hcontainers
      obtain ⟨hattended, hqueues⟩ := h.attended.acceptAll h.is_open
        (dpe.announcement dpe.frontEnd (.stopDpe dpe.name))
      have hmemory : x.memory = memory := hmemory
      have hbus : x.bus = ((dpe.announcement dpe.frontEnd (.stopDpe dpe.name)).foldl Bus.accept
          s.exchange.bus).unregister dpe.name := hbus
      have hleft : Attended x.bus .control s.control? := hbus ▸ hattended.congr rfl rfl rfl
      obtain ⟨hdropped, hothers⟩ := hleft.drop hk
      refine .inr ⟨_, { x with bus := x.bus.drop k, memory := s.exchange.memory },
        ⟨hd, ?_, hdropped, fun n' k' hn hk' => ?_⟩, ?_⟩
      · change x.bus.closed = false
        rw [hbus]
        exact Bus.acceptAll_closed h.is_open _
      · refine (hothers n' k' hn hk').trans ?_
        rw [hbus]
        exact hqueues n' k' hk'
      · unfold Fleet.shutDown
        simp only [hd, hfinish, hmemory]

namespace Departs

theorem dpe?_put (h : s.Departs n d x) (n' : Name) :
    (s.put n { d with control := [] } x).dpe? n' = s.dpe? n' := by
  rw [Fleet.dpe?_put]
  split
  · rename_i he
    rw [he]
    unfold dpe?
    rw [h.node]
    rfl
  · rfl

theorem frontEnd?_put (h : s.Departs n d x) (n' : Name) :
    (s.put n { d with control := [] } x).frontEnd? n' = s.frontEnd? n' :=
  congrArg (Option.map _) (h.dpe?_put n')

/-- The front-end hears of it, and it is what the others know already. -/
theorem expects (h : s.Departs n d x) (hs : s.Kept had)
    (hk : (s.put n { d with control := [] } x).control? f = some k')
    (hdpe : s.dpe? f = some dpe) (hw : w ≠ f) :
    (x.bus.queued k').foldl (Message.tells w) (w ∈ dpe.known) ↔
      had w f ∧ ((s.put n { d with control := [] } x).Runs w ∨ s.frontEnd? w ≠ some f) := by
  obtain ⟨hne, hk⟩ := of_control?_put_nil hk
  obtain ⟨hn, hname, -⟩ := hs.placed n d h.node
  obtain ⟨d', hd', -⟩ := get?_of_dpe? hdpe
  have hfront : s.frontEnd? n = some d.dpe.frontEnd := by
    unfold frontEnd? dpe?
    rw [h.node]
    rfl
  have hold := hs.expects f k' dpe w hk hdpe hw
  rw [h.queues f k' hne hk, List.foldl_append,
    Dpe.foldl_tells_announcement (r := .stopDpe n) (hs.placed f d' hd').1 (hs.frontEnd n _ hfront).2 hn]
  unfold Runs at hold ⊢
  rw [control?_put_nil, Function.update_apply]
  by_cases hwn : w = n
  · subst hwn
    rw [hfront] at hold ⊢
    by_cases hf : f = d.dpe.frontEnd
    · have htold : d.dpe.frontEnd ≠ d.dpe.name := by
        rw [← hf, hname]
        exact hne
      rw [if_pos ⟨hf, htold⟩, hf]
      simp [ControlRequest.trimmed, ControlRequest.tells]
    · rw [if_neg fun hboth => hf hboth.1, hold]
      simp [Ne.symm hf]
  · have htells (p : Prop) : (ControlRequest.stopDpe n).trimmed.tells w p ↔ p :=
      and_iff_right (Ne.symm hwn)
    simp only [htells, ite_self, hold, if_neg hwn]

end Departs

theorem Kept.shutDown (h : s.Kept had) (n : Name) : (s.shutDown n).Kept had := by
  obtain hs | ⟨d, x, hd, hs⟩ := h.shutDown_cases n
  · rw [hs]
    exact h
  rw [hs]
  obtain ⟨hn, hname, hcontainers, -⟩ := h.placed n d hd.node
  refine ⟨hd.is_open, hd.attended.of_eq control?_put_nil, fun n' d' hd' => ?_, fun n' f hf => ?_,
    fun n' k' hk' m' hm' => ?_, fun f k' dpe w hk' hdpe hw => ?_⟩
  · rw [get?_put] at hd'
    split at hd'
    · rename_i he
      cases hd'
      exact ⟨he.symm ▸ hn, hname.trans he.symm, hcontainers, rfl⟩
    · exact h.placed n' d' hd'
  · rw [hd.frontEnd?_put] at hf
    exact h.frontEnd n' f hf
  · obtain ⟨hne, hk'⟩ := of_control?_put_nil hk'
    change m' ∈ x.bus.queued k' at hm'
    rw [hd.queues n' k' hne hk'] at hm'
    rcases List.mem_append.mp hm' with hwaits | hnew
    · exact h.traffic n' k' hk' m' hwaits
    · exact Dpe.concernsFrontEnds_of_mem_announcement (List.mem_of_mem_filter hnew) hn rfl
  · rw [hd.dpe?_put] at hdpe
    rw [hd.frontEnd?_put]
    exact hd.expects h hk' hdpe hw

/-! ## Runs -/

/-- **One event.** -/
theorem Kept.step [EngineModel E] (h : s.Kept had) {e : Event} (he : e.WellFormed) :
    (s.step e).Kept fun w f => had w f ∨ (s.step e).frontEnd? w = some f := by
  cases e with
  | publish m => exact (h.publish he).note
  | handle n => exact h.handle n
  | shutDown n => exact (h.shutDown n).note

/-- **A run.** -/
theorem Kept.run [EngineModel E] (h : s.Kept had) {events : List Event}
    (he : ∀ e ∈ events, e.WellFormed) :
    (s.run events).Kept fun w f => had w f ∨ s.Had events w f := by
  induction events generalizing s had with
  | nil =>
    refine h.congr fun w f => (or_iff_left_of_imp ?_).symm
    rintro ⟨p, hp, hf⟩
    rw [List.prefix_nil.mp hp] at hf
    exact (h.frontEnd w f hf).1
  | cons e events ih =>
    obtain ⟨hfirst, hrest⟩ := List.forall_mem_cons.mp he
    refine (ih (h.step hfirst) hrest).congr fun w f => ?_
    constructor
    · rintro ((hhad | hnow) | ⟨p, hp, hf⟩)
      · exact .inl hhad
      · exact .inr ⟨[e], List.cons_prefix_cons.mpr ⟨rfl, List.nil_prefix⟩, hnow⟩
      · exact .inr ⟨e :: p, List.cons_prefix_cons.mpr ⟨rfl, hp⟩, hf⟩
    · rintro (hhad | ⟨p, hp, hf⟩)
      · exact .inl (.inl hhad)
      · cases p with
        | nil => exact .inl (.inl (h.frontEnd w f hf).1)
        | cons e' p =>
          obtain ⟨rfl, htail⟩ := List.cons_prefix_cons.mp hp
          exact .inr ⟨p, htail, hf⟩

/-! ## Starting -/

/-- The DPEs have just started: each is its own front-end and knows nobody. -/
structure Gathered (s : Fleet E) : Prop where
  is_open : s.exchange.bus.closed = false
  attended : Attended s.exchange.bus .control s.control?
  idle : ∀ n k, s.control? n = some k → s.exchange.bus.queued k = []
  placed : ∀ n d, s.nodes.get? n = some d → (n.Valid ∧ n.kind = .dpe) ∧ d.dpe.name = n ∧
    d.dpe.containers = ∅ ∧ d.control.tail = []
  alone : ∀ n d, s.dpe? n = some d → d.frontEnd = n ∧ d.known = ∅

theorem Gathered.join (h : s.Gathered) {n : Name} (hn : n.Valid) (setup : Setup E) :
    (s.join n setup).Gathered := by
  unfold Fleet.join
  cases hd : s.nodes.get? n with
  | some d => exact h
  | none =>
    cases hnew : Dpe.new n setup with
    | error e => exact h
    | ok d =>
      unfold Dpe.new at hnew
      split at hnew
      · cases hnew
      rename_i hkind
      cases hnew
      obtain ⟨x, directory, hstart, hbus⟩ := Dpe.start_spec h.is_open
        (⟨n, n, ∅, ∅, false, setup⟩ : Dpe E)
      obtain ⟨hattended, hqueue, hqueues⟩ := h.attended.subscribe h.is_open n
      simp only [hstart]
      have hcontrol (n' : Name) : (s.put n ⟨⟨n, n, ∅, ∅, false, setup⟩, ∅,
          [s.exchange.bus.nextSubscription]⟩ x).control? n' =
            Function.update s.control? n (some s.exchange.bus.nextSubscription) n' := by
        rw [control?_put, Function.update_apply]
        rfl
      refine ⟨?_, ?_, fun n' k hk => ?_, fun n' d hd' => ?_, fun n' d hd' => ?_⟩
      · exact (congrArg Bus.closed hbus).trans ((Bus.step_closed _ _).trans h.is_open)
      · refine Attended.of_eq ?_ hcontrol
        change Attended x.bus _ _
        rw [hbus]
        exact hattended.congr rfl rfl rfl
      · rw [hcontrol, Function.update_apply] at hk
        change x.bus.queued k = []
        rw [hbus]
        split at hk
        · cases hk
          exact hqueue
        · exact (hqueues n' k hk).trans (h.idle n' k hk)
      · rw [get?_put] at hd'
        split at hd'
        · rename_i he
          cases hd'
          exact ⟨he.symm ▸ ⟨hn, not_not.mp hkind⟩, he.symm, rfl, rfl⟩
        · exact h.placed n' d hd'
      · rw [dpe?_put] at hd'
        split at hd'
        · rename_i he
          cases hd'
          exact ⟨he.symm, rfl⟩
        · exact h.alone n' d hd'

theorem gathered_start {x : Exchange} (hopen : x.bus.closed = false) (hfresh : x.bus.Fresh)
    {dpes : List (Name × Setup E)} (hn : ∀ e ∈ dpes, e.1.Valid) : (start x dpes).Gathered := by
  have hall (s : Fleet E) (h : s.Gathered) :
      (dpes.foldl (fun s e => s.join e.1 e.2) s).Gathered := by
    induction dpes generalizing s with
    | nil => exact h
    | cons e dpes ih =>
      obtain ⟨hfirst, hrest⟩ := List.forall_mem_cons.mp hn
      exact ih hrest _ (h.join hfirst e.2)
  have hcontrol (n : Name) : (⟨x, []⟩ : Fleet E).control? n = none := rfl
  have hdpe (n : Name) : (⟨x, []⟩ : Fleet E).dpe? n = none := rfl
  have hnode (n : Name) : Table.get? (⟨x, []⟩ : Fleet E).nodes n = none := rfl
  refine hall _ ⟨hopen, .of_eq (.nobody hfresh) hcontrol, fun n k hk => ?_, fun n d hd => ?_,
    fun n d hd => ?_⟩
  · rw [hcontrol] at hk
    cases hk
  · rw [hnode] at hd
    cases hd
  · rw [hdpe] at hd
    cases hd

theorem Gathered.kept (h : s.Gathered) : s.Kept fun w f => s.frontEnd? w = some f := by
  refine ⟨h.is_open, h.attended, h.placed, fun n f hf => ⟨hf, ?_⟩, fun n k hk m hm => ?_,
    fun f k d w hk hd hw => ?_⟩
  · obtain ⟨d, hd, hdf⟩ := Option.map_eq_some_iff.mp hf
    obtain ⟨node, hnode, -⟩ := get?_of_dpe? hd
    rw [← hdf, (h.alone n d hd).1]
    exact (h.placed n node hnode).1
  · rw [h.idle n k hk] at hm
    cases hm
  · rw [h.idle f k hk]
    refine iff_of_false ?_ ?_
    · change ¬ w ∈ d.known
      rw [(h.alone f d hd).2]
      exact List.not_mem_nil
    · rintro ⟨hfront, -⟩
      obtain ⟨d', hd', rfl⟩ := Option.map_eq_some_iff.mp hfront
      exact hw (h.alone w d' hd').1.symm

/-! ## At rest -/

/-- **A DPE knows those that have had it as front-end**, but for those that have shut down with it. So it
knows exactly those that run and have it as front-end now as long as nobody has left it for another one. -/
theorem known_iff [EngineModel E] {x : Exchange} (hopen : x.bus.closed = false)
    (hfresh : x.bus.Fresh) {dpes : List (Name × Setup E)} (hn : ∀ e ∈ dpes, e.1.Valid)
    {events : List Event} (he : ∀ e ∈ events, e.WellFormed)
    (hrest : ((start x dpes).run events).AtRest) {d : Dpe E}
    (hd : ((start x dpes).run events).dpe? f = some d) (hruns : ((start x dpes).run events).Runs f)
    (hw : w ≠ f) :
    (w ∈ d.known ↔ (start x dpes).Had events w f ∧
      (((start x dpes).run events).Runs w ∨
        ((start x dpes).run events).frontEnd? w ≠ some f)) ∧
    ((w ∈ d.known ↔ ((start x dpes).run events).Runs w ∧
        ((start x dpes).run events).frontEnd? w = some f) ↔
      ((start x dpes).Had events w f → ((start x dpes).run events).frontEnd? w = some f)) := by
  have hkept := (gathered_start hopen hfresh hn).kept.run he
  obtain ⟨k, hk⟩ := Option.isSome_iff_exists.mp hruns
  have hknown : w ∈ d.known ↔ (start x dpes).Had events w f ∧
      (((start x dpes).run events).Runs w ∨
        ((start x dpes).run events).frontEnd? w ≠ some f) := by
    have hexpects := hkept.expects f k d w hk hd hw
    rw [hrest f k hk] at hexpects
    refine hexpects.trans (and_congr_left fun _ => or_iff_right_of_imp fun hfirst => ?_)
    exact ⟨[], List.nil_prefix, hfirst⟩
  refine ⟨hknown, ?_⟩
  have hnow : ((start x dpes).run events).frontEnd? w = some f → (start x dpes).Had events w f :=
    fun hf => ⟨events, List.prefix_rfl, hf⟩
  rw [hknown]
  by_cases hf : ((start x dpes).run events).frontEnd? w = some f
  · simp [hf, hnow hf]
  · simp [hf]

/-- It can be looked up whether a fleet is at rest. -/
theorem atRest_of_nodes
    (h : ∀ e ∈ s.nodes, ∀ k ∈ e.2.control, (s.exchange.bus.queued k).isEmpty = true) : s.AtRest := by
  intro n k hk
  obtain ⟨d, hd, hhead⟩ := Option.bind_eq_some_iff.mp hk
  exact List.isEmpty_iff.mp (h (n, d) (Table.mem_of_get?_eq_some hd) k (List.mem_of_mem_head? hhead))

end Invariant

/-! ## A change of front-end -/

/-- The DPE of a host. -/
def sampleDpe (host : String) : Name := ⟨host, 7771, .java, .dpe⟩

/-- The DPEs `f`, `g` and `w`. -/
def sampleFleet : Fleet Engine :=
  start .empty
    [(sampleDpe "f", ⟨.standard, ⟨1, none, 8⟩⟩), (sampleDpe "g", ⟨.standard, ⟨1, none, 8⟩⟩),
      (sampleDpe "w", ⟨.standard, ⟨1, none, 8⟩⟩)]

/-- `w` is told to take a front-end. -/
def told (host : String) : Event :=
  .publish (.ofCommand (sampleDpe "w") (sampleDpe "w") (ControlRequest.setFrontEnd (sampleDpe host)).text)

theorem told_wellFormed {host : String} (h : (sampleDpe host).Valid) : (told host).WellFormed :=
  .inl ⟨sampleDpe host, ControlRequest.requestOf_ofCommand (r := .setFrontEnd (sampleDpe host))
    ⟨h, rfl⟩ _ _⟩

/-- `w` takes `f` as its front-end. -/
def arrival : List Event := [told "f", .handle (sampleDpe "w"), .handle (sampleDpe "f")]

theorem arrival_wellFormed : ∀ e ∈ arrival, e.WellFormed := by
  refine List.forall_mem_cons.mpr ⟨told_wellFormed (by decide), ?_⟩
  exact List.forall_mem_cons.mpr ⟨trivial, List.forall_mem_singleton.mpr trivial⟩

theorem arrival_known :
    ∃ d, (sampleFleet.run arrival).dpe? (sampleDpe "f") = some d ∧ sampleDpe "w" ∈ d.known := by
  have hrest : (sampleFleet.run arrival).AtRest := atRest_of_nodes (by decide +kernel)
  have hruns : ∀ host ∈ ["f", "w"], (sampleFleet.run arrival).Runs (sampleDpe host) := by
    unfold Runs
    decide +kernel
  have hhad : sampleFleet.Had arrival (sampleDpe "w") (sampleDpe "f") :=
    ⟨arrival, List.prefix_rfl, by decide +kernel⟩
  obtain ⟨d, hd⟩ : ∃ d, (sampleFleet.run arrival).dpe? (sampleDpe "f") = some d :=
    Option.isSome_iff_exists.mp (by decide +kernel)
  refine ⟨d, hd, ?_⟩
  refine (known_iff rfl Bus.fresh_empty (by decide) arrival_wellFormed hrest hd
    (hruns "f" (by decide)) (by decide)).1.mpr ⟨hhad, .inl (hruns "w" (by decide))⟩

/-- Then `w` takes `g` instead, and shuts down. -/
def removal : List Event :=
  [told "g", .handle (sampleDpe "w"), .handle (sampleDpe "g"), .shutDown (sampleDpe "w"),
    .handle (sampleDpe "g")]

/-- **A former front-end is not told.** When all is at rest, the DPE `f` still knows `w`, which has another
front-end and has shut down. -/
theorem left_behind :
    (∀ e ∈ arrival ++ removal, e.WellFormed) ∧ (sampleFleet.run (arrival ++ removal)).AtRest ∧
      (sampleFleet.run (arrival ++ removal)).frontEnd? (sampleDpe "w") = some (sampleDpe "g") ∧
      ¬ (sampleFleet.run (arrival ++ removal)).Runs (sampleDpe "w") ∧
      ¬ ∀ f d w, (sampleFleet.run (arrival ++ removal)).dpe? f = some d →
        (sampleFleet.run (arrival ++ removal)).Runs f → w ≠ f →
        (w ∈ d.known ↔ (sampleFleet.run (arrival ++ removal)).Runs w ∧
          (sampleFleet.run (arrival ++ removal)).frontEnd? w = some f) := by
  have hwell : ∀ e ∈ arrival ++ removal, e.WellFormed := by
    refine List.forall_mem_append.mpr ⟨arrival_wellFormed, ?_⟩
    refine List.forall_mem_cons.mpr ⟨told_wellFormed (by decide), ?_⟩
    exact List.forall_mem_cons.mpr ⟨trivial, List.forall_mem_cons.mpr
      ⟨trivial, List.forall_mem_cons.mpr ⟨trivial, List.forall_mem_singleton.mpr trivial⟩⟩⟩
  have hrest : (sampleFleet.run (arrival ++ removal)).AtRest := atRest_of_nodes (by decide +kernel)
  have hgone : ¬ (sampleFleet.run (arrival ++ removal)).Runs (sampleDpe "w") := by
    unfold Runs
    decide +kernel
  have hruns : (sampleFleet.run (arrival ++ removal)).Runs (sampleDpe "f") := by
    unfold Runs
    decide +kernel
  have hknown : ((sampleFleet.run (arrival ++ removal)).dpe? (sampleDpe "f")).map
      (fun d => decide (sampleDpe "w" ∈ d.known)) = some true := by decide +kernel
  refine ⟨hwell, hrest, by decide +kernel, hgone, fun hall => ?_⟩
  obtain ⟨d, hd, hmem⟩ := Option.map_eq_some_iff.mp hknown
  exact hgone ((hall _ d _ hd hruns (by decide)).mp (of_decide_eq_true hmem)).1

end Fleet

end ServiceFlow
