import ServiceFlow.Control
import ServiceFlow.Dpe.Basic

/-!
# Controlling a DPE

A DPE is told what to do in messages on its control topic.

* `Dpe.apply` carries out a request.
* `Dpe.handle` carries out the request of a message and answers it, if it asks for an answer.
-/

namespace ServiceFlow

/-- Why a request is not carried out. -/
inductive ControlError where
  | fault (cause : ControlFault)
  | deploy (cause : DeployError)
  | bus (cause : BusError)

/-- The wording of each cause. -/
def ControlError.message : ControlError → String
  | .fault cause => cause.message
  | .deploy cause => cause.message
  | .bus cause => cause.message

namespace Dpe

variable {E : Type}

/-- What became of a deployment, as the answer to a request. -/
def acknowledge {α : Type} :
    Dpe E × Exchange × Except DeployError α → Dpe E × Exchange × Except ControlError EngineData
  | (d, x, .ok _) => (d, x, .ok (.ofText "ok" 0))
  | (d, x, .error e) => (d, x, .error (.deploy e))

/-- Changes how often a service reports. -/
def setPolicy (d : Dpe E) (name : Name) (f : ReportPolicy → ReportPolicy) :
    Except DeployError (Dpe E) :=
  match name.container?, d.service? name with
  | some container, some _ =>
    let change (s : Station E) : Station E :=
      { s with service := { s.service with reports := f s.service.reports } }
    .ok { d with
      containers := d.containers.modify container fun c =>
        { c with stations := c.stations.modify name change } }
  | _, _ => .error (.unknownService name)

/-- Changes how often a service reports, as the answer to a request. -/
def applyPolicy (d : Dpe E) (x : Exchange) (name : Name) (f : ReportPolicy → ReportPolicy) :
    Dpe E × Exchange × Except ControlError EngineData :=
  match d.setPolicy name f with
  | .ok d => (d, x, .ok (.ofText "ok" 0))
  | .error e => (d, x, .error (.deploy e))

/-- Takes another front-end, and announces itself to it. -/
def applyFrontEnd (d : Dpe E) (x : Exchange) (frontEnd : Name) :
    Dpe E × Exchange × Except ControlError EngineData :=
  let d := { d with frontEnd := frontEnd }
  match d.announce x frontEnd (ControlRequest.startDpe d.name).text with
  | (x, .ok ()) => (d, x, .ok (.ofText "ok" 0))
  | (x, .error e) => (d, x, .error (.bus e))

/-- Another DPE announces itself. -/
def applyStart (d : Dpe E) (x : Exchange) (dpe : Name) :
    Dpe E × Exchange × Except ControlError EngineData :=
  if dpe = d.name ∨ dpe ∈ d.known then (d, x, .ok (.ofText "ok" 0))
  else
    ({ d with known := d.known.insert dpe }, x.log (.dpeRegistered d.name.text dpe.text),
      .ok (.ofText "ok" 0))

/-- Another DPE leaves, or this one is to stop. -/
def applyStop (d : Dpe E) (x : Exchange) (dpe : Name) :
    Dpe E × Exchange × Except ControlError EngineData :=
  if dpe = d.name then ({ d with stopping := true }, x, .ok (.ofText "ok" 0))
  else ({ d with known := d.known.erase dpe }, x, .ok (.ofText "ok" 0))

/-- Shows the DPE, in the answer and in a report. -/
def applyPing (d : Dpe E) (x : Exchange) : Dpe E × Exchange × Except ControlError EngineData :=
  let info := EngineData.ofJsonText (d.snapshot x.memory.size).toJson.text 0
  match x.publish (.ofData (Report.info.topic d.name) d.name "" info .network) with
  | (x, .ok ()) => (d, x, .ok info)
  | (x, .error e) => (d, x, .error (.bus e))

/-- Carries out a request, with the data that acknowledges it. -/
def apply [EngineModel E] (d : Dpe E) (x : Exchange) :
    ControlRequest → Dpe E × Exchange × Except ControlError EngineData
  | .startContainer container description => acknowledge (d.deploy x container description)
  | .stopContainer container => acknowledge (d.undeploy x container)
  | .deployService service engineType poolSize description =>
    acknowledge (d.deployService x ⟨service, engineType, poolSize, description⟩)
  | .removeService service => acknowledge (d.removeService x service)
  | .reportDone service every => d.applyPolicy x service (·.setDoneEvery every)
  | .reportData service every => d.applyPolicy x service (·.setDataEvery every)
  | .setFrontEnd frontEnd => d.applyFrontEnd x frontEnd
  | .startDpe dpe => d.applyStart x dpe
  | .stopDpe dpe => d.applyStop x dpe
  | .pingDpe => d.applyPing x

/-! ## Messages -/

/-- The request that a message carries. -/
def requestOf (m : Message) : Except ControlError ControlRequest :=
  match m.text with
  | .error e => .error (.bus (.codec e.message))
  | .ok text =>
    match ControlRequest.parse text with
    | .ok r => .ok r
    | .error e => .error (.fault e)

/-- Carries out the request of a message. -/
def applyMessage [EngineModel E] (d : Dpe E) (x : Exchange) (m : Message) :
    Dpe E × Exchange × Except ControlError EngineData :=
  match requestOf m with
  | .ok r => d.apply x r
  | .error e => (d, x, .error e)

/-- The answer to a message. -/
def answerTo (d : Dpe E) (m : Message) : Except ControlError EngineData → Option Message
  | .ok data => m.reply d.name data
  | .error e => m.errorReply d.name ⟨.minor, e.message⟩

/-- Logs that something went wrong with a request. -/
def logFailure (d : Dpe E) (x : Exchange) (command error : String) : Exchange :=
  x.log (.controlFailed d.name.text command error)

/-- Carries out the request of a message and answers it. -/
def handle [EngineModel E] (d : Dpe E) (x : Exchange) (m : Message) : Dpe E × Exchange :=
  let command := Text.Utf8.decodeLossy m.data
  let x := x.log (.controlReceived d.name.text command m.header.author)
  let (d, x, result) := d.applyMessage x m
  let x := match result with
    | .ok _ => x
    | .error e => d.logFailure x command e.message
  match d.answerTo m result with
  | none => (d, x)
  | some reply =>
    match x.publish reply with
    | (x, .ok ()) => (d, x)
    | (x, .error e) => (d, d.logFailure x command e.message)

/-! ## The end -/

/-- Removes everything, tells the front-end, and leaves the directory; with the number of containers
that there were. -/
def shutDown (d : Dpe E) (x : Exchange) : Dpe E × Exchange × Except DeployError Nat :=
  let count := d.containers.size
  let x := stopAll x d.containers.values
  let d := { d with containers := ∅ }
  match d.announce x d.frontEnd (ControlRequest.stopDpe d.name).text with
  | (x, .error e) => (d, x, .error (.bus e))
  | (x, .ok ()) =>
    let x := { x with bus := x.bus.unregister d.name }
    (d, x.log (.dpeStopped d.name.text count), .ok count)

/-- Shuts down at the end of a DPE's work, and logs if that fails. -/
def finish (d : Dpe E) (x : Exchange) : Dpe E × Exchange :=
  match d.shutDown x with
  | (d, x, .ok _) => (d, x)
  | (d, x, .error e) => (d, d.logFailure x ControlVerb.stopDpe.text e.message)

end Dpe

end ServiceFlow
