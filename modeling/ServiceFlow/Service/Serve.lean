import ServiceFlow.Service.Basic

/-!
# Serving a message

A message asks a service to execute its engine or to configure all of them. It is served in stages,
between which it may have to wait: for an engine, or for all, and for the gate that an engine waits for.

* `Service.begin` takes a message in. A request to execute may end here: it is refused, or it waits
  with others for inputs that have not arrived.
* `Service.execute` and `Service.configure` go on once the engines have been lent.
* `Service.complete` ends an execution. The output goes to whoever asked for a reply, or else to the
  services that the composition names; a failure is reported and goes nowhere.
* `Service.serve` does it all at once if there are idle engines, with an open gate.
-/

namespace ServiceFlow

/-- A request that has been admitted: its message, who sent it, its compiled composition, the inputs of
the engine, and the statements whose groups it completed. -/
structure Job where
  request : Message
  sender : Name
  composition : Composition
  inputs : List EngineData
  joined : List Nat

/-- How far a message has been served. -/
inductive Stage (E : Type) where
  | ended (result : Except ServiceError Unit)
  | needsEngine (job : Job)
  | needsEngines (request : Message)
  | atGate (job : Job) (letThrough shut : Finished E)

/-- A service and its surroundings after a stage. -/
structure Served (E : Type) where
  service : Service E
  exchange : Exchange
  stage : Stage E

namespace Service

variable {E : Type}

/-! ## Taking a message in -/

/-- The event of a message that has arrived. -/
def receivedEvent (s : Service E) (m : Message) : LogEvent :=
  .messageReceived s.name.text m.header.author m.header.id.toInt
    (match m.action with
    | .execute => "execute"
    | .configure => "configure")

/-- Asks the router whether a message can be executed. -/
def admission (s : Service E) (x : Exchange) (m : Message) (sender : Name) (d : EngineData)
    (c : Composition) : Served E :=
  match s.router.admission s.states x.now c sender m.header.id d with
  | (router, logs, .error e) =>
    let rejected := .senderRejected s.name.text sender.text e.message
    ⟨{ s with router := router }, x.logAll (logs ++ [rejected]), .ended (.error (.routing e))⟩
  | (router, logs, .ok .pending) =>
    ⟨{ s with router := router }, x.logAll logs, .ended (.ok ())⟩
  | (router, logs, .ok (.ready inputs joined)) =>
    ⟨{ s with router := router }, x.logAll logs,
      .needsEngine ⟨m, sender, c, inputs.map fun e => e.2, joined⟩⟩

/-- Takes in a request to execute. The state of the sender is recorded before guards are read. -/
def beginExecute (s : Service E) (x : Exchange) (m : Message) : Served E :=
  match Name.parse m.header.author with
  | .error e => ⟨s, x, .ended (.error (.sender e))⟩
  | .ok sender =>
    match x.resolve s.name sender m with
    | (x, .error e) => ⟨s, x, .ended (.error (.dispatch e))⟩
    | (x, .ok d) =>
      let s := { s with states := s.states.record sender d.state }
      match s.cache.resolve m.header.composition with
      | (cache, logs, .error e) =>
        ⟨{ s with cache := cache }, x.logAll logs, .ended (.error (.composition e))⟩
      | (cache, logs, .ok c) => admission { s with cache := cache } (x.logAll logs) m sender d c

/-- Takes a message in. -/
def begin (s : Service E) (x : Exchange) (m : Message) : Served E :=
  let x := x.log (s.receivedEvent m)
  match m.action with
  | .execute => s.beginExecute x m
  | .configure => ⟨s, x, .needsEngines m⟩

/-! ## Reports -/

/-- The answer to a failed request, if one is asked for. -/
def errorReplies (s : Service E) (m : Message) (failure : EngineFailure) : List Message :=
  (m.errorReply s.name failure).toList

/-- A report on a request that went wrong. -/
def statusReport (s : Service E) (report : Report) (status : Status) (m : Message)
    (failure : EngineFailure) : Message :=
  let d := { EngineData.ofText failure.message m.header.id with description := failure.message }
  let r := Message.ofData (report.topic s.name) s.name m.header.composition d .network
  { r with
    header :=
      { r.header with
        severity := UInt32.ofNat failure.severity.level, status := status.code } }

/-- The messages about an engine that failed. -/
def failureMessages (s : Service E) (m : Message) (failure : EngineFailure) : List Message :=
  s.statusReport (.error failure.severity) .error m failure :: s.errorReplies m failure

/-- Reports that an engine failed. -/
def fail (s : Service E) (x : Exchange) (m : Message) (failure : EngineFailure) : Served E :=
  let x := x.log
    (.executionFailed s.name.text m.header.id.toInt failure.severity.level failure.message)
  match x.publishAll (s.failureMessages m failure) with
  | (x, .ok ()) => ⟨s, x, .ended (.error (.engine failure))⟩
  | (x, .error e) => ⟨s, x, .ended (.error (.bus e))⟩

/-- The report that a request is done. -/
def doneReport (s : Service E) (job : Job) : Message :=
  .ofData (Report.done.topic s.name) s.name job.composition.text
    (.ofText s.name.text job.request.header.id) .network

/-- The report of the output of a request. -/
def dataReport (s : Service E) (job : Job) (output : EngineData) : Message :=
  .ofData (Report.data.topic s.name) s.name job.composition.text output .network

/-- The reports that are due. -/
def dueReports (s : Service E) (job : Job) (output : EngineData) (due : ReportPolicy.Due) :
    List Message :=
  (if due.done then [s.doneReport job] else []) ++
    (if due.data then [s.dataReport job output] else [])

/-! ## Executing -/

/-- How a last stage ended. -/
def endedBy : Except BusError Unit → Stage E
  | .ok () => .ended (.ok ())
  | .error e => .ended (.error (.bus e))

/-- The services that the output of a request goes to. -/
def destinations (s : Service E) (job : Job) : NameSet :=
  Router.destinations job.composition s.states job.sender job.joined

/-- Hands the output of a request on. -/
def handOn (s : Service E) (x : Exchange) (job : Job) (output : EngineData) : Served E :=
  match job.request.reply s.name output with
  | some reply =>
    let (x, r) := x.publish reply
    ⟨s, x, endedBy r⟩
  | none =>
    let receivers := (s.destinations job).toList
    let x := x.log (.routeSelected s.name.text job.request.header.id.toInt (receivers.map Name.text))
    let (x, r) := x.sendAll s.name job.composition.text output receivers
    ⟨s, x, endedBy r⟩

/-- Ends an execution. -/
def complete (s : Service E) (x : Exchange) (job : Job) (result : Except EngineFailure EngineData) :
    Served E :=
  match result with
  | .error failure => s.fail x job.request failure
  | .ok output =>
    let output := { output with id := job.request.header.id }
    let (reports, due) := s.reports.recordExecution
    let s := { s with states := s.states.record s.name output.state, reports := reports }
    match x.publishAll (s.dueReports job output due) with
    | (x, .error e) => ⟨s, x, .ended (.error (.bus e))⟩
    | (x, .ok ()) => s.handOn x job output

/-- Takes the engine of an execution back, and ends the execution. -/
def finish (s : Service E) (x : Exchange) (job : Job) (f : Finished E) : Served E :=
  let s := { s with engines := s.engines.giveBack ⟨.one, [f.engine]⟩ }
  s.complete x job f.result

/-- Runs an engine on the inputs of a request. -/
def run [EngineModel E] (job : Job) (e : E) : Execution E :=
  match job.inputs with
  | [input] => EngineModel.execute e input
  | inputs => EngineModel.executeGroup e inputs

/-- Goes on with the engine that has been lent. -/
def execute [EngineModel E] (s : Service E) (x : Exchange) (job : Job) :
    Lending E → Served E
  | .lent loan =>
    match loan.items with
    | [] => ⟨s, x, .needsEngine job⟩
    | e :: _ =>
      match run job e with
      | .finished f => s.finish x job f
      | .waiting letThrough shut => ⟨s, x, .atGate job letThrough shut⟩
  | .refused e => ⟨s, x, .ended (.error (.pool e))⟩
  | .waiting => ⟨s, x, .needsEngine job⟩

/-! ## Configuring -/

/-- Configures engines in turn until one fails. -/
def configureEach [EngineModel E] (d : EngineData) : List E → List E × Except EngineFailure Unit
  | [] => ([], .ok ())
  | e :: es =>
    match EngineModel.configure e d with
    | (e, .error f) => (e :: es, .error f)
    | (e, .ok ()) =>
      let (es, r) := configureEach d es
      (e :: es, r)

/-- Reports that the engines could not be had. -/
def refuse (s : Service E) (x : Exchange) (m : Message) (e : PoolError) : Served E :=
  let failure : EngineFailure := ⟨.minor, e.message⟩
  let warning := s.statusReport (.warning .minor) .warning m failure
  match x.publishAll (warning :: s.errorReplies m failure) with
  | (x, .ok ()) => ⟨s, x, .ended (.error (.pool e))⟩
  | (x, .error e) => ⟨s, x, .ended (.error (.bus e))⟩

/-- Goes on with all the engines that have been lent. -/
def configure [EngineModel E] (s : Service E) (x : Exchange) (m : Message) :
    Lending E → Served E
  | .refused e => s.refuse x m e
  | .waiting => ⟨s, x, .needsEngines m⟩
  | .lent loan =>
    let (engines, r) := configureEach m.engineData loan.items
    let s := { s with engines := s.engines.giveBack { loan with items := engines } }
    match r with
    | .error failure => s.fail x m failure
    | .ok () =>
      let x := x.log (.serviceConfigured s.name.text m.mode.text engines.length)
      let (x, r) := x.publishAll (m.reply s.name (.ofText "configured" m.header.id)).toList
      ⟨s, x, endedBy r⟩

/-! ## All at once -/

/-- Asks for all engines in the way that a request to configure says. -/
def lendAll (s : Service E) (m : Message) : ObjectPool E × Lending E :=
  match m.mode with
  | .immediate => s.engines.tryAll
  | .blocking | .withTimeout => s.engines.tryLend .all

/-- Serves a message as far as the idle engines allow, with an open gate. -/
def serve [EngineModel E] (s : Service E) (x : Exchange) (m : Message) : Served E :=
  let r := s.begin x m
  match r.stage with
  | .needsEngine job =>
    let (engines, lending) := r.service.engines.tryLend .one
    let r := execute { r.service with engines := engines } r.exchange job lending
    match r.stage with
    | .atGate job letThrough _ => r.service.finish r.exchange job letThrough
    | _ => r
  | .needsEngines m =>
    let (engines, lending) := r.service.lendAll m
    configure { r.service with engines := engines } r.exchange m lending
  | _ => r

/-- Logs an error that was not logged where it happened. -/
def noteDropped (s : Service E) (x : Exchange) (topic : Topic) : Except ServiceError Unit → Exchange
  | .ok () => x
  | .error e =>
    if e.isLogged then x else x.log (.messageDropped s.name.text topic.text e.message)

end Service

end ServiceFlow
