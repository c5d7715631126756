import ServiceFlow.Composition.Compiled
import ServiceFlow.Control
import ServiceFlow.Exchange
import ServiceFlow.Json.Reader

/-!
# Orchestrators

An orchestrator is a client of a deployment. It sends control requests to DPEs and data to services,
and numbers its requests from 1.

* `Orchestrator.execute` and `Orchestrator.executeComposition` send data on its way.
* `Orchestrator.controlMessage`, `Orchestrator.dataMessage` and `Orchestrator.configureMessage` are the
  messages that it waits for an answer to, and `Orchestrator.check` reads the answer.
-/

namespace ServiceFlow

/-- Why a call of an orchestrator fails. -/
inductive OrchestratorError where
  | bus (cause : BusError)
  | composition (cause : CompositionError)
  | remote (source message : String)

/-- The wording of each cause. -/
def OrchestratorError.message : OrchestratorError → String
  | .bus cause => cause.message
  | .composition cause => cause.message
  | .remote source message => s!"'{source}' reported: {message}"

/-- A client with its next request number and the time that it waits for answers. -/
structure Orchestrator where
  name : Name
  nextId : CommunicationId
  timeoutMs : Nat

namespace Orchestrator

/-- A client that has not sent anything. -/
def new (name : Name) (timeoutMs : Nat) : Orchestrator := ⟨name, 1, timeoutMs⟩

/-- Gives data the next number. -/
def number (o : Orchestrator) (d : EngineData) : Orchestrator × EngineData :=
  ({ o with nextId := o.nextId + 1 }, { d with id := o.nextId })

/-! ## Messages -/

/-- A control request to the DPE of `target`. -/
def controlMessage (o : Orchestrator) (target : Name) (r : ControlRequest) : Message :=
  .ofCommand target o.name r.text

/-- Data for a service. -/
def dataMessage (o : Orchestrator) (service : Name) (composition : String) (d : EngineData) :
    Message :=
  .ofData (.ofName service) o.name composition d .network

/-- A request to configure a service. -/
def configureMessage (o : Orchestrator) (service : Name) (d : EngineData) (mode : ConfigureMode)
    (poolTimeoutMs : UInt64) : Message :=
  let m := o.dataMessage service "" d
  { m with
    header :=
      { m.header with
        action := Action.configure.code, mode := mode.code, timeoutMs := poolTimeoutMs } }

/-! ## Answers -/

/-- An answer, unless it reports a failure. -/
def check (reply : Message) : Except OrchestratorError Message :=
  match reply.failure? with
  | some failure => .error (.remote reply.header.author failure.message)
  | none => .ok reply

/-- The snapshot in an answer. -/
def snapshot (reply : Message) : Except OrchestratorError Json :=
  match Json.parse? reply.data with
  | some j => .ok j
  | none => .error (.remote reply.header.author "malformed snapshot: ")

/-! ## Requests without an answer -/

/-- Sends data that has a number already. -/
def executeWithId (o : Orchestrator) (x : Exchange) (service : Name) (composition : String)
    (d : EngineData) : Exchange × Except OrchestratorError Unit :=
  match x.publish (o.dataMessage service composition d) with
  | (x, .ok ()) => (x, .ok ())
  | (x, .error e) => (x, .error (.bus e))

/-- Sends data to services in turn, as far as the bus takes it. -/
def executeEach (o : Orchestrator) (x : Exchange) (composition : String) (d : EngineData) :
    List Name → Exchange × Except OrchestratorError Unit
  | [] => (x, .ok ())
  | service :: services =>
    match o.executeWithId x service composition d with
    | (x, .ok ()) => o.executeEach x composition d services
    | r => r

/-- Sends data to a service as a new request, with its number. -/
def execute (o : Orchestrator) (x : Exchange) (service : Name) (composition : String)
    (d : EngineData) : Orchestrator × Exchange × Except OrchestratorError CommunicationId :=
  let (o, d) := o.number d
  match o.executeWithId x service composition d with
  | (x, .ok ()) => (o, x, .ok d.id)
  | (x, .error e) => (o, x, .error e)

/-- Sends data to the entry services of a composition as one new request, with its number. -/
def executeComposition (o : Orchestrator) (x : Exchange) (composition : String) (d : EngineData) :
    Orchestrator × Exchange × Except OrchestratorError CommunicationId :=
  match Composition.entryServices composition with
  | .error e => (o, x, .error (.composition e))
  | .ok services =>
    let (o, d) := o.number d
    match o.executeEach x composition d services with
    | (x, .ok ()) => (o, x, .ok d.id)
    | (x, .error e) => (o, x, .error e)

end Orchestrator

end ServiceFlow
