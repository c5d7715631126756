import ServiceFlow.Proofs.Dpe.Agreement
import ServiceFlow.Proofs.Dpe.FrontEnds
import ServiceFlow.Proofs.Dpe.Registered
import ServiceFlow.Proofs.Service.Outcome

/-!
# Messages to a DPE

A DPE that handles messages carries out the requests in them, and that is all that becomes of it: a
message without a request, because it is no text or not a request, changes nothing. Whoever has asked for
an answer gets one, and nobody else does.

* `Dpe.Reads`, `Dpe.publications`: the subscriptions that belong to a DPE, and what is published for a
  request. `Dpe.apply_bus` says that the queues of others get this, and nothing else happens to them.
* `Dpe.Fails`, `Dpe.IsAnswer`: why a message comes to nothing, and what the answer to a message says.
* `Dpe.Answers`: how a message is answered. `Dpe.handle_eq` takes the handling apart, and
  `Dpe.answers_handle` says that every message is answered so.
* `ControlTurn`: messages or requests, and what others do to the bus in between.
* `Dpe.handling_is_applying`: a run of messages is the run of the requests in them, and each message is
  answered on the way.

What services do with messages is left out.
-/

namespace ServiceFlow

/-! ## Queues of others -/

namespace Bus.Tracks

variable {b : Bus} {k : Nat} {topic : Topic} {queue : List Message}

theorem congr (h : b.Tracks k topic queue) {b' : Bus} (hs : b'.subscriptions = b.subscriptions)
    (hn : b'.nextSubscription = b.nextSubscription) (hc : b'.closed = b.closed) :
    b'.Tracks k topic queue := by
  refine ⟨?_, hn ▸ h.numbered⟩
  rw [hs, hc]
  exact h.held

theorem drop (h : b.Tracks k topic queue) {n : Nat} (hn : n ≠ k) : (b.drop n).Tracks k topic queue :=
  ⟨(Table.get?_erase _ n k).trans ((if_neg hn).trans h.held), h.numbered⟩

theorem subscribe (h : b.Tracks k topic queue) {t : Topic} {b' : Bus} {n : Nat}
    (hs : b.subscribe t = .ok (b', n)) : b'.Tracks k topic queue ∧ n ≠ k := by
  unfold Bus.subscribe at hs
  split at hs
  · cases hs
  · cases hs
    refine ⟨⟨?_, Nat.lt_succ_of_lt h.numbered⟩, Nat.ne_of_gt h.numbered⟩
    rw [Table.get?_append, h.held]
    rfl

/-- Messages come to the end of the queue, if the topic covers theirs. -/
theorem acceptAll (h : b.Tracks k topic queue) (hopen : b.closed = false) (ms : List Message) :
    (ms.foldl Bus.accept b).Tracks k topic (queue ++ ms.filter fun m => topic.covers m.topic) := by
  induction ms generalizing b queue with
  | nil => exact (List.append_nil queue).symm ▸ h
  | cons m ms ih =>
    obtain ⟨queue', htracks, hqueue⟩ := h.step (e := .publish m) nofun
    rw [step_publish_open hopen] at htracks hqueue
    rw [hopen] at hqueue
    have hqueue : queue ++ [m].filter (fun m => topic.covers m.topic) = queue' := hqueue
    have hall := ih htracks hopen
    rwa [← hqueue, List.append_assoc, ← List.filter_append] at hall

end Bus.Tracks

/-- The bus is open if it was, and no queues have changed but those of these subscriptions. -/
structure Bus.Spares (reads : Nat → Prop) (b b' : Bus) : Prop where
  closed : b'.closed = b.closed
  queues : ∀ k, ¬ reads k → ∀ topic queue, b.Tracks k topic queue → b'.Tracks k topic queue

namespace Bus.Spares

variable {reads reads' : Nat → Prop} {b b' b'' : Bus}

theorem refl (reads : Nat → Prop) (b : Bus) : b.Spares reads b := ⟨rfl, fun _ _ _ _ h => h⟩

theorem trans (h : b.Spares reads b') (h' : b'.Spares reads b'') : b.Spares reads b'' :=
  ⟨h'.closed.trans h.closed, fun k hk _ _ ht => h'.queues k hk _ _ (h.queues k hk _ _ ht)⟩

theorem mono (h : b.Spares reads b') (hr : ∀ k, reads k → reads' k) : b.Spares reads' b' :=
  ⟨h.closed, fun k hk => h.queues k fun hread => hk (hr k hread)⟩

theorem register {n : Name} {description : String} (hr : b.register n description = .ok b') :
    b.Spares reads b' := by
  unfold Bus.register at hr
  split at hr <;> cases hr
  exact ⟨rfl, fun _ _ _ _ h => h.congr rfl rfl rfl⟩

theorem unregister (b : Bus) (n : Name) : b.Spares reads (b.unregister n) :=
  ⟨rfl, fun _ _ _ _ h => h.congr rfl rfl rfl⟩

theorem drop (b : Bus) {n : Nat} (hn : reads n) : b.Spares reads (b.drop n) :=
  ⟨rfl, fun _ hk _ _ h => h.drop fun he => hk (he ▸ hn)⟩

end Bus.Spares

/-! ## Containers -/

namespace Container

variable {E : Type} {c : Container E}

/-- A station of the container reads the subscription. -/
def Reads (c : Container E) (k : Nat) : Prop := ∃ n s, c.stations.get? n = some s ∧ s.subscription = k

variable {reads : Nat → Prop} (x : Exchange)

theorem start_spares (n : Name) (description : String) :
    x.bus.Spares reads (Container.start (E := E) x n description).1.bus := by
  unfold Container.start
  split
  · exact .refl _ _
  · split
    · exact .refl _ _
    · next hr => exact .register hr

/-- The subscription of a new station is nobody else's, whether it is kept or given up. -/
theorem openStation_spares (setup : Setup E) (s : Service E) :
    x.bus.Spares reads (openStation id setup x s).1.bus := by
  unfold openStation
  split
  · exact .refl _ _
  · next b n hs =>
    have hclosed : b.closed = x.bus.closed := by
      unfold Bus.subscribe at hs
      split at hs <;> cases hs
      rfl
    simp only [id_eq]
    split
    · exact ⟨hclosed, fun k _ _ _ h => (h.subscribe hs).1.drop (h.subscribe hs).2⟩
    · next b' hr =>
      have hregister : b.Spares reads b' := .register hr
      exact ⟨hregister.closed.trans hclosed,
        fun k hk _ _ h => hregister.queues k hk _ _ (h.subscribe hs).1⟩

theorem deploy_spares [EngineModel E] (setup : Setup E) (c : Container E) (spec : ServiceSpec) :
    x.bus.Spares reads (c.deploy setup x spec).2.1.bus := by
  unfold deploy deployAmid
  split
  · exact .refl _ _
  · split
    · exact .refl _ _
    · split
      · exact .refl _ _
      · next engines _ =>
        have hopen : x.bus.Spares reads
            (openStation id setup x (.new spec engines setup.settings.barrierTtl)).1.bus :=
          openStation_spares x setup _
        generalize openStation id setup x (.new spec engines setup.settings.barrierTtl) = p at *
        obtain ⟨x', r⟩ := p
        cases r with
        | error e => exact hopen
        | ok station => exact hopen

theorem closeStation_spares {s : Station E} (hs : reads s.subscription) :
    x.bus.Spares reads (closeStation x s).bus :=
  (Bus.Spares.drop x.bus hs).trans (.unregister _ _)

theorem undeploy_spares (c : Container E) (n : Name) :
    x.bus.Spares c.Reads (c.undeploy x n).2.1.bus := by
  unfold undeploy
  split
  · exact .refl _ _
  · split
    · exact .refl _ _
    · next s hs => exact closeStation_spares x ⟨n, s, hs, rfl⟩

theorem stop_spares (c : Container E) : x.bus.Spares c.Reads (c.stop x).2.1.bus := by
  have hall : ∀ (ss : List (Station E)) (x : Exchange), (∀ s ∈ ss, c.Reads s.subscription) →
      x.bus.Spares c.Reads (ss.foldl closeStation x).bus := by
    intro ss
    induction ss with
    | nil => exact fun x _ => .refl _ _
    | cons s ss ih =>
      intro x hs
      obtain ⟨hfirst, hrest⟩ := List.forall_mem_cons.mp hs
      exact (closeStation_spares x hfirst).trans (ih _ hrest)
  have hread : ∀ s ∈ c.stations.values, c.Reads s.subscription := by
    intro s hs
    obtain ⟨n, hn⟩ := NameMap.mem_values.mp hs
    exact ⟨n, s, hn, rfl⟩
  exact (hall c.stations.values x hread).trans (.unregister _ _)

end Container

/-! ## Requests -/

namespace Dpe

variable {E : Type} {d : Dpe E} {x : Exchange} {k : Nat} {topic : Topic} {queue : List Message}
  {m a : Message} {r : ControlRequest} {e : ControlError}

/-- A station of the DPE reads the subscription. -/
def Reads (d : Dpe E) (k : Nat) : Prop := ∃ n c, d.containers.get? n = some c ∧ c.Reads k

/-- What is published for a request: a new front-end is told, and a report shows the DPE. -/
def publications (d : Dpe E) (x : Exchange) : ControlRequest → List Message
  | .setFrontEnd f => d.announcement f (.startDpe d.name)
  | .pingDpe =>
    [.ofData (Report.info.topic d.name) d.name ""
      (.ofJsonText (d.snapshot x.memory.size).toJson.text 0) .network]
  | _ => []

theorem acknowledge_exchange {α : Type} (q : Dpe E × Exchange × Except DeployError α) :
    (acknowledge q).2.1 = q.2.1 := by
  obtain ⟨d, x, r⟩ := q
  cases r <;> rfl

theorem get?_of_containerOf {n : Name} {c : Container E} (h : d.containerOf n = .ok c) :
    ∃ q, d.containers.get? q = some c := by
  unfold containerOf at h
  split at h
  · cases h
  · split at h
    · cases h
    · next hget =>
      cases h
      exact ⟨_, hget⟩

theorem deploy_spares (d : Dpe E) (x : Exchange) (n : Name) (description : String) :
    x.bus.Spares d.Reads (d.deploy x n description).2.1.bus := by
  unfold deploy
  split
  · exact .refl _ _
  · split
    · exact .refl _ _
    · have hstart : x.bus.Spares d.Reads (Container.start (E := E) x n description).1.bus :=
        Container.start_spares x n description
      generalize Container.start (E := E) x n description = p at *
      obtain ⟨x', r⟩ := p
      cases r with
      | error e => exact hstart
      | ok c => exact hstart

theorem undeploy_spares (d : Dpe E) (x : Exchange) (n : Name) :
    x.bus.Spares d.Reads (d.undeploy x n).2.1.bus := by
  unfold undeploy
  split
  · exact .refl _ _
  · split
    · exact .refl _ _
    · next c hget => exact (Container.stop_spares x c).mono fun _ hr => ⟨n, c, hget, hr⟩

theorem removeService_spares (d : Dpe E) (x : Exchange) (n : Name) :
    x.bus.Spares d.Reads (d.removeService x n).2.1.bus := by
  unfold removeService
  split
  · exact .refl _ _
  · split
    · exact .refl _ _
    · next c hc =>
      obtain ⟨q, hget⟩ := get?_of_containerOf hc
      exact (Container.undeploy_spares x c n).mono fun _ hr => ⟨q, c, hget, hr⟩

theorem deployService_spares [EngineModel E] (d : Dpe E) (x : Exchange) (spec : ServiceSpec) :
    x.bus.Spares d.Reads (d.deployService x spec).2.1.bus := by
  unfold deployService deployServiceAmid
  split
  · exact .refl _ _
  · exact Container.deploy_spares x d.setup _ spec

/-- **What a request makes of the bus**: the queues of others are left alone, and then messages are
published. -/
theorem apply_bus [EngineModel E] (hopen : x.bus.closed = false) (d : Dpe E) (r : ControlRequest) :
    ∃ b, x.bus.Spares d.Reads b ∧
      (d.apply x r).2.1.bus = (d.publications x r).foldl Bus.accept b := by
  cases r with
  | startContainer n description =>
    exact ⟨_, d.deploy_spares x n description, congrArg Exchange.bus (acknowledge_exchange _)⟩
  | stopContainer n =>
    exact ⟨_, d.undeploy_spares x n, congrArg Exchange.bus (acknowledge_exchange _)⟩
  | deployService n engineType poolSize description =>
    exact ⟨_, d.deployService_spares x _, congrArg Exchange.bus (acknowledge_exchange _)⟩
  | removeService n =>
    exact ⟨_, d.removeService_spares x n, congrArg Exchange.bus (acknowledge_exchange _)⟩
  | reportDone n every | reportData n every =>
    refine ⟨x.bus, .refl _ _, ?_⟩
    rw [apply, applyPolicy]
    split <;> rfl
  | setFrontEnd f =>
    refine ⟨x.bus, .refl _ _, ?_⟩
    rw [apply, applyFrontEnd]
    simp only [announce_eq hopen]
    rfl
  | startDpe n =>
    refine ⟨x.bus, .refl _ _, ?_⟩
    rw [apply, applyStart]
    split <;> rfl
  | stopDpe n =>
    refine ⟨x.bus, .refl _ _, ?_⟩
    rw [apply, applyStop]
    split <;> rfl
  | pingDpe =>
    refine ⟨x.bus, .refl _ _, ?_⟩
    rw [apply, applyPing]
    simp only [Exchange.publish_open hopen]
    rfl

/-! ## Messages -/

/-- The surroundings once the log says that a message has come. -/
def noted (d : Dpe E) (x : Exchange) (m : Message) : Exchange :=
  x.log (.controlReceived d.name.text (Text.Utf8.decodeLossy m.data) m.header.author)

/-- The message comes to nothing: there is no request in it, or the request is refused. -/
def Fails [EngineModel E] (d : Dpe E) (x : Exchange) (m : Message) (e : ControlError) : Prop :=
  requestOf m = .error e ∨ ∃ r, requestOf m = .ok r ∧ (d.apply (d.noted x m) r).2.2 = .error e

theorem fails_iff [EngineModel E] : d.Fails x m e ↔ (d.applyMessage (d.noted x m) m).2.2 = .error e := by
  unfold Fails applyMessage
  cases requestOf m with
  | error e' => simp
  | ok r => simp

/-- The message `a` answers the message `m`. -/
structure IsAnswer [EngineModel E] (d : Dpe E) (x : Exchange) (m a : Message) : Prop where
  /-- It goes where the answer is asked for. -/
  topic : m.header.replyTo = some a.topic.text
  /-- It has error status exactly if the message has come to nothing. -/
  status : a.status = .error ↔ ∃ e, d.Fails x m e
  /-- Then it says why, and that this is of minor severity. -/
  failure : ∀ e, d.Fails x m e → a.failure? = some ⟨.minor, e.message⟩ ∧ a.text = .ok e.message
  /-- Otherwise it carries what acknowledges the request. -/
  data : ∀ r data, requestOf m = .ok r → (d.apply (d.noted x m) r).2.2 = .ok data →
    a.failure? = none ∧ a.data = data.payload

/-- What is published for the request in a message, if there is one. -/
def messagePublications (d : Dpe E) (x : Exchange) (m : Message) : List Message :=
  match requestOf m with
  | .ok r => d.publications x r
  | .error _ => []

/-- How a message is answered. -/
structure Answers [EngineModel E] (d : Dpe E) (x : Exchange) (m : Message) (answers : List Message) :
    Prop where
  /-- There is one answer if one is asked for, and none otherwise. -/
  unasked : m.header.replyTo = none → answers = []
  asked : m.header.replyTo ≠ none → ∃ a, answers = [a] ∧ d.IsAnswer x m a
  /-- It is published once the request has been carried out. -/
  bus : (d.handle x m).2.bus = answers.foldl Bus.accept (d.applyMessage (d.noted x m) m).2.1.bus
  /-- Others get nothing but what is published for the request, and then the answer. -/
  queues : ∀ k topic queue, ¬ d.Reads k → x.bus.Tracks k topic queue →
    (d.handle x m).2.bus.Tracks k topic
      (queue ++ (d.messagePublications x m ++ answers).filter fun a => topic.covers a.topic)

theorem applyMessage_bus [EngineModel E] (hopen : x.bus.closed = false) (d : Dpe E) (m : Message) :
    ∃ b, x.bus.Spares d.Reads b ∧ (d.applyMessage (d.noted x m) m).2.1.bus =
      (d.messagePublications x m).foldl Bus.accept b := by
  unfold applyMessage messagePublications
  cases requestOf m with
  | error e => exact ⟨x.bus, .refl _ _, rfl⟩
  | ok r => exact apply_bus (x := d.noted x m) hopen d r

theorem applyMessage_open [EngineModel E] (hopen : x.bus.closed = false) (d : Dpe E) (m : Message) :
    (d.applyMessage (d.noted x m) m).2.1.bus.closed = false := by
  obtain ⟨b, hspares, hbus⟩ := d.applyMessage_bus hopen m
  rw [hbus]
  exact Bus.acceptAll_closed (hspares.closed.trans hopen) _

/-- **To handle a message** is to carry out its request and to publish the answer. -/
theorem handle_eq [EngineModel E] (hopen : x.bus.closed = false) (d : Dpe E) (m : Message) :
    let r := d.applyMessage (d.noted x m) m
    ∃ logs, d.handle x m =
      (r.1, { r.2.1 with
        bus := (r.1.answerTo m r.2.2).toList.foldl Bus.accept r.2.1.bus, logs := logs }) := by
  have hlast := d.applyMessage_open hopen m
  intro r
  obtain ⟨⟨d', x', result⟩, hr⟩ : ∃ q, d.applyMessage (d.noted x m) m = q := ⟨_, rfl⟩
  rw [hr] at hlast
  rw [show r = (d', x', result) from hr]
  unfold noted at hr
  unfold handle
  simp only [hr]
  cases result with
  | ok data =>
    cases d'.answerTo m (.ok data) with
    | none => exact ⟨_, rfl⟩
    | some a =>
      simp only [Exchange.publish_open hlast]
      exact ⟨_, rfl⟩
  | error e =>
    cases d'.answerTo m (.error e) with
    | none => exact ⟨_, rfl⟩
    | some a =>
      have hlogged : (d'.logFailure x' (Text.Utf8.decodeLossy m.data) e.message).bus.closed = false := hlast
      simp only [Exchange.publish_open hlogged]
      exact ⟨_, rfl⟩

/-- An answer is there exactly if one was asked for. -/
theorem answerTo_eq_none {result : Except ControlError EngineData} :
    d.answerTo m result = none ↔ m.header.replyTo = none := by
  cases result <;> simp [answerTo, Message.reply, Message.errorReply]

theorem not_fails [EngineModel E] {data : EngineData}
    (hr : (d.applyMessage (d.noted x m) m).2.2 = .ok data) (e : ControlError) : ¬ d.Fails x m e := by
  rw [fails_iff, hr]
  nofun

/-- What the answer says. -/
theorem isAnswer_of_answerTo [EngineModel E] {d' : Dpe E}
    (h : d'.answerTo m (d.applyMessage (d.noted x m) m).2.2 = some a) : d.IsAnswer x m a := by
  cases hr : (d.applyMessage (d.noted x m) m).2.2 with
  | error e =>
    have hfails : d.Fails x m e := fails_iff.mpr hr
    rw [hr] at h
    obtain ⟨t, ht, rfl⟩ := Option.map_eq_some_iff.mp h
    refine ⟨ht, iff_of_true rfl ⟨e, hfails⟩, fun e' he' => ?_, fun r data hm hdata => ?_⟩
    · obtain rfl : e = e' := Except.error.inj (hr.symm.trans (fails_iff.mp he'))
      exact ⟨Service.failure?_eq rfl rfl rfl, Text.Utf8.decode_encode e.message⟩
    · rw [applyMessage, hm] at hr
      cases hr.symm.trans hdata
  | ok data =>
    rw [hr] at h
    obtain ⟨t, ht, rfl⟩ := Option.map_eq_some_iff.mp h
    refine ⟨ht, iff_of_false nofun fun ⟨e, he⟩ => not_fails hr e he, fun e he => (not_fails hr e he).elim,
      fun r data' hm hdata => ?_⟩
    rw [applyMessage, hm] at hr
    obtain rfl : data = data' := Except.ok.inj (hr.symm.trans hdata)
    exact ⟨rfl, rfl⟩

/-- **Whoever has asked for an answer** gets one, and nobody else does. -/
theorem answers_handle [EngineModel E] (hopen : x.bus.closed = false) (d : Dpe E) (m : Message) :
    ∃ answers, d.Answers x m answers := by
  obtain ⟨logs, hhandle⟩ := d.handle_eq hopen m
  obtain ⟨b, hspares, hbus⟩ := d.applyMessage_bus hopen m
  have hlast := congrArg (fun p => p.2.bus) hhandle
  refine ⟨_, ?_, ?_, hlast, fun k topic queue hk ht => ?_⟩
  · intro hnone
    rw [answerTo_eq_none.mpr hnone]
    rfl
  · intro hsome
    obtain ⟨a, ha⟩ := Option.ne_none_iff_exists'.mp fun h => hsome (answerTo_eq_none.mp h)
    exact ⟨a, congrArg Option.toList ha, isAnswer_of_answerTo ha⟩
  · rw [hlast, hbus, ← List.foldl_append]
    exact (hspares.queues k hk topic queue ht).acceptAll (hspares.closed.trans hopen) _

theorem handle_closed [EngineModel E] (hopen : x.bus.closed = false) (d : Dpe E) (m : Message) :
    (d.handle x m).2.bus.closed = false := by
  obtain ⟨logs, hhandle⟩ := d.handle_eq hopen m
  rw [hhandle]
  exact Bus.acceptAll_closed (d.applyMessage_open hopen m) _

end Dpe

/-! ## Runs -/

/-- A message or a request for the DPE, or what others do to the bus. -/
inductive ControlTurn (α : Type) where
  | own (a : α)
  | others (e : DirectoryEvent)

namespace ControlTurn

variable {E α : Type}

/-- Others do not close the bus. -/
def KeepsOpen : ControlTurn α → Prop
  | others (.traffic e) => e ≠ .close
  | _ => True

instance : DecidablePred (KeepsOpen (α := α))
  | others (.traffic e) => inferInstanceAs (Decidable (e ≠ .close))
  | others (.register _ _) | others (.unregister _) | own _ => inferInstanceAs (Decidable True)

/-- The request in a message, if there is one. -/
def request? : ControlTurn Message → Option (ControlTurn ControlRequest)
  | own m => (Dpe.requestOf m).toOption.map own
  | others e => some (others e)

/-- The DPE and its surroundings after one turn. -/
def after (act : Dpe E → Exchange → α → Dpe E × Exchange) (p : Dpe E × Exchange) :
    ControlTurn α → Dpe E × Exchange
  | own a => act p.1 p.2 a
  | others e => (p.1, { p.2 with bus := p.2.bus.keep e })

/-- The DPE and its surroundings after a run of turns. -/
def run (act : Dpe E → Exchange → α → Dpe E × Exchange) (p : Dpe E × Exchange)
    (turns : List (ControlTurn α)) : Dpe E × Exchange :=
  turns.foldl (after act) p

/-- One DPE in surroundings that are alike. -/
def Alike (p q : Dpe E × Exchange) : Prop := p.1 = q.1 ∧ p.2.Agrees q.2

end ControlTurn

namespace Dpe

open ControlTurn

variable {E : Type} [EngineModel E] {x : Exchange} {p q : Dpe E × Exchange}
  {turns : List (ControlTurn Message)}

/-- Carries out a request, whatever the answer is. -/
def carryOut (d : Dpe E) (x : Exchange) (r : ControlRequest) : Dpe E × Exchange :=
  ((d.apply x r).1, (d.apply x r).2.1)

theorem applyMessage_alike {y : Exchange} (h : x.Agrees y) (d : Dpe E) (m : Message) :
    Alike ((d.applyMessage x m).1, (d.applyMessage x m).2.1)
      ((own m).request?.toList.foldl (after carryOut) (d, y)) := by
  cases hm : requestOf m with
  | error e =>
    simp only [applyMessage, request?, hm]
    exact ⟨rfl, h⟩
  | ok r =>
    obtain ⟨hfst, hexchange, -⟩ := apply_matches h d r
    simp only [applyMessage, request?, hm]
    exact ⟨hfst, hexchange⟩

/-- A message comes to the same as its request, or to nothing. -/
theorem handle_alike (h : Alike p q) (hopen : p.2.bus.closed = false) (m : Message) :
    Alike (p.1.handle p.2 m) ((own m).request?.toList.foldl (after carryOut) q) := by
  obtain ⟨d, x⟩ := p
  obtain ⟨_, y⟩ := q
  obtain ⟨rfl, hagree⟩ := h
  obtain ⟨logs, hhandle⟩ := d.handle_eq hopen m
  have hnoted : (d.noted x m).Agrees y := ⟨hagree.bus, hagree.memory⟩
  obtain ⟨hfst, hexchange⟩ := d.applyMessage_alike hnoted m
  rw [hhandle]
  exact ⟨hfst, hexchange.acceptAll _ logs⟩

theorem after_alike (h : Alike p q) (hopen : p.2.bus.closed = false) (t : ControlTurn Message) :
    Alike (t.after handle p) (t.request?.toList.foldl (after carryOut) q) := by
  cases t with
  | own m => exact handle_alike h hopen m
  | others e => exact ⟨h.1, h.2.keep e⟩

theorem after_closed (hopen : p.2.bus.closed = false) {t : ControlTurn Message} (ht : t.KeepsOpen) :
    (t.after handle p).2.bus.closed = false := by
  cases t with
  | own m => exact p.1.handle_closed hopen m
  | others e =>
    cases e with
    | register n description =>
      change (p.2.bus.keep (.register n description)).closed = false
      rw [Bus.keep_register_open hopen]
      exact hopen
    | unregister n => exact hopen
    | traffic e =>
      change (p.2.bus.step e).1.closed = false
      rw [Bus.step_closed, hopen]
      cases e with
      | close => exact absurd rfl ht
      | _ => rfl

theorem run_closed (hopen : p.2.bus.closed = false) (ht : ∀ t ∈ turns, t.KeepsOpen) :
    (run handle p turns).2.bus.closed = false := by
  induction turns generalizing p with
  | nil => exact hopen
  | cons t turns ih =>
    obtain ⟨hfirst, hrest⟩ := List.forall_mem_cons.mp ht
    exact ih (after_closed hopen hfirst) hrest

theorem run_alike (h : Alike p q) (hopen : p.2.bus.closed = false) (ht : ∀ t ∈ turns, t.KeepsOpen) :
    Alike (run handle p turns) (run carryOut q (turns.filterMap request?)) := by
  induction turns generalizing p q with
  | nil => exact h
  | cons t turns ih =>
    obtain ⟨hfirst, hrest⟩ := List.forall_mem_cons.mp ht
    have hnext := ih (after_alike h hopen t) (after_closed hopen hfirst) hrest
    unfold run at hnext ⊢
    rw [List.filterMap_cons]
    cases hr : t.request? <;> rw [hr] at hnext <;> exact hnext

/-- A message for the sample DPE. -/
def sampleControl (payload : Bytes) (replyTo : Option String) : Message :=
  ⟨.control DpeRun.sampleDpe.name, { Header.blank with replyTo := replyTo }, payload⟩

/-- It is no request, but an answer is asked for. -/
def sampleJunk : Message := sampleControl (Text.Utf8.encode "nonesuch") (some "answers")

open DpeRun in
/-- Somebody listens for answers, and asks for a container. Then there come two messages without a request:
one is answered, and the other, which is not even a text, asks for no answer. -/
def sampleTurns : List (ControlTurn Message) :=
  [.others (.traffic (.subscribe ⟨"answers"⟩)),
    .own (sampleControl (Text.Utf8.encode (ControlRequest.startContainer sampleContainer "first").text)
      (some "answers")),
    .own sampleJunk,
    .own (sampleControl [255] none)]

end Dpe

end ServiceFlow
