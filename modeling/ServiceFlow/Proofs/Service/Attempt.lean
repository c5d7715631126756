import ServiceFlow.Proofs.Exchange.Handover
import ServiceFlow.Proofs.Routing.Reachable
import ServiceFlow.Service.Serve

/-!
# Requests that are executed

A message that asks for an execution is taken in, and if it is admitted a job is made of it. An engine is
lent for the job, which may have to wait, and runs, which may take its time. Meanwhile the service serves
other messages. Then the engine comes back and the execution ends.

* `Service.Admits`: what a service has done by the time that it has made a job of a message.
  `Service.admits_of_begin`: so it is with every message that is admitted.
* `Service.Attempt`: a job, what its engine did, and the service and its surroundings by then, whatever
  happened in between. `Service.Attempt.ending` is how the execution ends.
* `Service.executed?`: the job and what its engine did, if a service does it all without a break.
  `Service.serve_eq_ending`: so it does if it has an idle engine.
-/

namespace ServiceFlow

/-- How a run of an engine may end. One that waits for the gate may be let through or find it shut. -/
def Execution.Ends {E : Type} : Execution E → Finished E → Prop
  | .finished f, f' => f' = f
  | .waiting letThrough shut, f' => f' = letThrough ∨ f' = shut

namespace Service

variable {E : Type} {s : Service E} {x : Exchange} {m : Message} {job : Job}

/-! ## Taking a message in -/

/-- A job has been made of a message. -/
structure Admits (s : Service E) (x : Exchange) (m : Message) (job : Job) : Prop where
  /-- The job is for this message and its sender, with the composition that it names. -/
  request : job.request = m
  sender : Name.parse m.header.author = .ok job.sender
  composition : job.composition.text = m.header.composition
  /-- The service has put down the state of the sender, has compiled the composition and has asked its
  router. -/
  service : ∃ d cache router, (x.resolve s.name job.sender m).2 = .ok d ∧
    (s.begin x m).service =
      { s with states := s.states.record job.sender d.state, cache := cache, router := router }
  /-- Nothing has been published, and nothing put down in shared memory. -/
  bus : (s.begin x m).exchange.bus = x.bus
  memory : ∀ key d, (s.begin x m).exchange.memory.get? key = some d → x.memory.get? key = some d

theorem text_of_resolve {cache cache' : CompositionCache} {text : String} {logs : List LogEvent}
    {c : Composition} (h : cache.resolve text = (cache', logs, .ok c)) : c.text = text := by
  have compiled {cache' : CompositionCache} {logs : List LogEvent}
      (h : cache.compile text = (cache', logs, .ok c)) : c.text = text := by
    unfold CompositionCache.compile at h
    split at h
    · cases h
    · rename_i c' hc
      cases h
      exact Composition.compile_text hc
  unfold CompositionCache.resolve at h
  split at h
  · split at h
    · cases h
      assumption
    · exact compiled h
  · exact compiled h

/-- To take the data of a message changes shared memory alone, where an entry may go. -/
theorem resolve_frame {x' : Exchange} {receiver sender : Name} {r : Except DispatchError EngineData}
    (h : x.resolve receiver sender m = (x', r)) :
    x'.bus = x.bus ∧ ∀ key d, x'.memory.get? key = some d → x.memory.get? key = some d := by
  refine ⟨(congrArg (·.1.bus) h).symm.trans Handover.resolve_bus, fun key d hd => ?_⟩
  unfold Exchange.resolve at h
  split at h
  · cases h
    exact hd
  · simp only at h
    split at h
    · cases h
      exact hd
    · cases h
      rw [Handover.get?_remove] at hd
      split at hd
      · cases hd
      · exact hd

theorem resolve_log (x : Exchange) (e : LogEvent) (receiver sender : Name) (m : Message) :
    (x.log e).resolve receiver sender m =
      (((x.resolve receiver sender m).1.log e), (x.resolve receiver sender m).2) := by
  unfold Exchange.resolve
  cases m.location with
  | network => rfl
  | sharedMemory =>
    simp only [Exchange.log]
    cases x.memory.get? ⟨receiver, sender, m.header.id⟩ <;> rfl

/-- An admission that makes a job changes the router alone. -/
theorem admission_needsEngine {sender : Name} {d : EngineData} {c : Composition}
    (h : (s.admission x m sender d c).stage = .needsEngine job) :
    (job.request = m ∧ job.sender = sender ∧ job.composition = c) ∧
      ∃ router logs, s.admission x m sender d c =
        ⟨{ s with router := router }, x.logAll logs, .needsEngine job⟩ := by
  unfold admission at h ⊢
  rcases hr : s.router.admission s.states x.now c sender m.header.id d with
    ⟨router, logs, e | _ | ⟨inputs, joined⟩⟩ <;> simp only [hr] at h ⊢ <;> cases h
  case ok.ready =>
    exact ⟨⟨rfl, rfl, rfl⟩, router, logs, rfl⟩

/-- **A message that is admitted** has been taken in like this. -/
theorem admits_of_begin (h : (s.begin x m).stage = .needsEngine job) : s.Admits x m job := by
  have hbegin : s.begin x m = s.beginExecute (x.log (s.receivedEvent m)) m := by
    unfold begin at h ⊢
    cases ha : m.action with
    | execute => rfl
    | configure =>
      simp only [ha] at h
      cases h
  rw [hbegin] at h
  obtain ⟨sender, hsender⟩ : ∃ sender, Name.parse m.header.author = .ok sender := by
    cases hp : Name.parse m.header.author with
    | ok sender => exact ⟨sender, rfl⟩
    | error e =>
      simp only [beginExecute, hp] at h
      cases h
  rcases hx : x.resolve s.name sender m with ⟨x', e | d⟩
  · simp only [beginExecute, hsender, resolve_log, hx] at h
    cases h
  rcases hc : s.cache.resolve m.header.composition with ⟨cache, logs, e | c⟩
  · simp only [beginExecute, hsender, resolve_log, hx, hc] at h
    cases h
  simp only [beginExecute, hsender, resolve_log, hx, hc] at h hbegin
  obtain ⟨⟨hrequest, rfl, rfl⟩, router, logs', hadmission⟩ := admission_needsEngine h
  rw [hadmission] at hbegin
  obtain ⟨hbus, hmemory⟩ := resolve_frame hx
  constructor
  case request => exact hrequest
  case sender => exact hsender
  case composition => exact text_of_resolve hc
  case service => exact ⟨d, cache, router, congrArg Prod.snd hx, congrArg Served.service hbegin⟩
  case bus => exact (congrArg (·.exchange.bus) hbegin).trans hbus
  case memory =>
    intro key d' hd
    rw [hbegin] at hd
    exact hmemory key d' hd

/-! ## Executions -/

/-- A message that has been admitted, and what its engine did. By then other messages may have been served,
so the service and its surroundings may be in any state. -/
structure Attempt [EngineModel E] (s : Service E) (x : Exchange) (m : Message) where
  job : Job
  engine : E
  finished : Finished E
  service : Service E
  exchange : Exchange
  admitted : (s.begin x m).stage = .needsEngine job
  ran : (run job engine).Ends finished
  same : service.name = s.name
  isOpen : exchange.bus.closed = false

namespace Attempt

variable [EngineModel E]

/-- How the execution ends. -/
def ending (a : Attempt s x m) : Served E := a.service.finish a.exchange a.job a.finished

/-- Nothing else happens before the engine is done, but that it is taken from the pool. -/
def undisturbed (hadmitted : (s.begin x m).stage = .needsEngine job) (hopen : x.bus.closed = false)
    (engines : ObjectPool E) (e : E) (f : Finished E) (hran : (run job e).Ends f) :
    Attempt s x m where
  job := job
  engine := e
  finished := f
  service := { (s.begin x m).service with engines := engines }
  exchange := (s.begin x m).exchange
  admitted := hadmitted
  ran := hran
  same := by
    obtain ⟨d, cache, router, -, hservice⟩ := (admits_of_begin hadmitted).service
    rw [hservice]
    rfl
  isOpen := (congrArg Bus.closed (admits_of_begin hadmitted).bus).trans hopen

end Attempt

theorem handOn_ended (s : Service E) (x : Exchange) (job : Job) (output : EngineData) :
    ∃ result, (s.handOn x job output).stage = .ended result := by
  have ended (r : Except BusError Unit) : ∃ result, (endedBy r : Stage E) = .ended result := by
    cases r <;> exact ⟨_, rfl⟩
  unfold handOn
  cases job.request.reply s.name output with
  | some reply => exact ended _
  | none => exact ended _

/-- Once its engine is back an execution has come to its end. -/
theorem finish_ended (s : Service E) (x : Exchange) (job : Job) (f : Finished E) :
    ∃ result, (s.finish x job f).stage = .ended result := by
  unfold finish complete
  cases f.result with
  | error failure =>
    simp only [fail]
    split <;> exact ⟨_, rfl⟩
  | ok output =>
    simp only
    split
    · exact ⟨_, rfl⟩
    · exact handOn_ended _ _ _ _

/-- The job that is made of a message, and what its engine did, if an engine was there to run. The gate is
open. -/
def executed? [EngineModel E] (s : Service E) (x : Exchange) (m : Message) :
    Option (Job × Finished E) :=
  match (s.begin x m).stage with
  | .needsEngine job =>
    match ((s.begin x m).service.engines.tryLend .one).2 with
    | .lent ⟨_, e :: _⟩ =>
      match run job e with
      | .finished f => some (job, f)
      | .waiting letThrough _ => some (job, letThrough)
    | _ => none
  | _ => none

section Turns

variable [EngineModel E] {f : Finished E}

theorem executed?_eq_some (h : s.executed? x m = some (job, f)) :
    (s.begin x m).stage = .needsEngine job ∧
      ∃ demand e es, ((s.begin x m).service.engines.tryLend .one).2 = .lent ⟨demand, e :: es⟩ ∧
        (run job e = .finished f ∨ ∃ shut, run job e = .waiting f shut) := by
  unfold executed? at h
  split at h
  case h_2 => cases h
  rename_i job' hstage
  split at h
  case h_2 => cases h
  rename_i demand e es hlent
  split at h
  · rename_i hrun
    cases h
    exact ⟨hstage, demand, e, es, hlent, .inl hrun⟩
  · rename_i shut hrun
    cases h
    exact ⟨hstage, demand, e, es, hlent, .inr ⟨shut, hrun⟩⟩

/-- To serve a message for which an engine runs is to take it in, lend the engine and end the execution. -/
theorem serve_of_executed (h : s.executed? x m = some (job, f)) :
    s.serve x m =
      finish
        { (s.begin x m).service with engines := ((s.begin x m).service.engines.tryLend .one).1 }
        (s.begin x m).exchange job f := by
  obtain ⟨hstage, demand, e, es, hlent, hrun⟩ := executed?_eq_some h
  rcases hlend : (s.begin x m).service.engines.tryLend .one with ⟨engines, lending⟩
  rw [hlend] at hlent
  subst hlent
  unfold serve
  rcases hrun with hrun | ⟨shut, hrun⟩
  · obtain ⟨result, hended⟩ :=
      { (s.begin x m).service with engines := engines }.finish_ended (s.begin x m).exchange job f
    simp only [hstage, hlend, execute, hrun, hended]
  · simp only [hstage, hlend, execute, hrun]

/-- **A service that has an idle engine** takes a message in, runs the engine and ends the execution. -/
theorem serve_eq_ending (hadmitted : (s.begin x m).stage = .needsEngine job)
    (hopen : x.bus.closed = false) {engines : ObjectPool E} {e : E}
    (hlent : s.engines.tryLend .one = (engines, .lent ⟨.one, [e]⟩)) :
    ∃ (f : Finished E) (hran : (run job e).Ends f),
      s.serve x m = (Attempt.undisturbed hadmitted hopen engines e f hran).ending := by
  obtain ⟨d, cache, router, -, hservice⟩ := (admits_of_begin hadmitted).service
  have hengines : (s.begin x m).service.engines = s.engines := by rw [hservice]
  obtain ⟨f, hran, hexecuted⟩ : ∃ f, (run job e).Ends f ∧ s.executed? x m = some (job, f) := by
    unfold executed?
    simp only [hadmitted, hengines, hlent]
    cases run job e with
    | finished f => exact ⟨f, rfl, rfl⟩
    | waiting letThrough shut => exact ⟨letThrough, .inl rfl, rfl⟩
  refine ⟨f, hran, ?_⟩
  rw [serve_of_executed hexecuted, hengines, hlent]
  rfl

end Turns

/-! ## A service with one engine -/

/-- An engine that always comes to the same result. -/
structure FixedEngine where
  result : Except EngineFailure EngineData

instance : EngineModel FixedEngine where
  execute e _ := .finished ⟨e, e.result⟩
  executeGroup e _ := .finished ⟨e, e.result⟩
  configure e _ := (e, .ok ())
  metadata _ := .ofText "fixed" ""

/-- The service `B`, which reports on each execution. -/
def sampleService (e : FixedEngine) : Service FixedEngine :=
  { new ⟨.sample "B", "fixed", 1, ""⟩ [e] none with reports := ⟨1, 1, 0⟩ }

/-- A composition in which the output of `B` goes to `C`. -/
def sampleText : String := "h_java:c:A+h_java:c:B+h_java:c:C"

/-- A message of `A` for `B`. -/
def sampleMessage : Message :=
  .ofData (.ofName (.sample "B")) (.sample "A") sampleText (.ofText "in" 42) .network

/-- A message of `A` for `B`, which is to answer it. -/
def sampleInquiry : Message :=
  { sampleMessage with header := { sampleMessage.header with replyTo := some "ret:0" } }

/-- The job that `B` makes of such a message. -/
def sampleJob (m : Message) : Job :=
  ⟨m, .sample "A",
    (Composition.compile sampleText (.sample "B")).toOption.getD ⟨"", .sample "B", [], ∅⟩,
    [.ofText "in" 42], []⟩

theorem sampleJob_ends (m : Message) (e : FixedEngine) :
    (run (sampleJob m) e).Ends ⟨e, e.result⟩ := by
  change (Execution.finished (Finished.mk e e.result)).Ends _
  rfl

theorem sampleMessage_admitted (e : FixedEngine) :
    ((sampleService e).begin .empty sampleMessage).stage = .needsEngine (sampleJob sampleMessage) :=
  rfl

theorem sampleInquiry_admitted (e : FixedEngine) :
    ((sampleService e).begin .empty sampleInquiry).stage = .needsEngine (sampleJob sampleInquiry) :=
  rfl

end Service

end ServiceFlow
