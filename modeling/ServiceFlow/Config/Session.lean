import ServiceFlow.Config.Launch
import ServiceFlow.Site.Desk

/-!
# Running the request of a configuration

A session starts the DPE of a configuration, has every service report its data, sends the input of the
request on its way, and follows the reports. It ends when no report has come for the time that the
request waits, or when an engine reports an error.

* `Session.start` brings a session to the point where the input is under way.
* `Session.next` is the next thing that happens.
-/

namespace ServiceFlow

/-- Why a session does not get under way. -/
inductive SessionError where
  | launch (cause : LaunchError)
  | client (cause : OrchestratorError)
  | bus (cause : BusError)

/-- The wording of each cause. -/
def SessionError.message : SessionError → String
  | .launch cause => cause.message
  | .client cause => cause.message
  | .bus cause => cause.message

/-- A request under way. -/
structure Session where
  desk : Desk Engine
  id : CommunicationId
  timeoutMs : Nat

/-- What happens in a session: a service reports its data, for this request or another, an engine
reports an error, or no report comes in time. -/
inductive SessionNews where
  | data (report : Message)
  | other (report : Message)
  | failure (report : Message)
  | quiet

namespace Session

/-- The name under which the request is sent. -/
def clientName (dpe : Name) : Name := { dpe with place := .service "cli" "Client" }

/-- The site of a configuration whose DPE is up. -/
def site (c : Config) (cores : UInt64) : Except LaunchError (Site Engine) :=
  match c.launch .standard cores .empty with
  | (_, .error e) => .error e
  | (x, .ok d) =>
    .ok { Site.empty with
      exchange := { x with memory := ∅ }, nodes := [⟨d.dpe, x.memory, [d.subscription]⟩] }

/-- Has services report their data after each execution. -/
def followAll (desk : Desk Engine) : List Name → Desk Engine × Except OrchestratorError Unit
  | [] => (desk, .ok ())
  | service :: services =>
    match desk.call (desk.client.controlMessage service (.reportData service 1)) with
    | (desk, .ok _) => followAll desk services
    | (desk, .error e) => (desk, .error e)

/-- The deployed services. -/
def services (s : Site Engine) : List Name :=
  s.nodes.flatMap fun n => n.dpe.containers.values.flatMap fun c => c.stations.names

/-- Sends the input of a request from a desk at the site. -/
def start (site : Site Engine) (dpe : Name) (r : RequestSection) (input : String) :
    Except SessionError Session := do
  let timeoutMs := r.timeout.toNat
  let desk := Desk.new site none (.new (clientName dpe) timeoutMs)
  let (desk, followed) := followAll desk (services site)
  followed.mapError .client
  let (desk, data) := desk.subscribe "data" Report.data.category
  data.mapError .bus
  let (desk, errors) := desk.subscribe "errors" (Report.error .minor).category
  errors.mapError .bus
  let (desk, id) := desk.send fun o x => o.executeComposition x r.composition (.ofText input 0)
  return ⟨desk, ← id.mapError .client, timeoutMs⟩

/-- Takes a report that has come. -/
def take (s : Session) (label : String) (news : Message → SessionNews) :
    Session × Option SessionNews :=
  match s.desk.receive label with
  | (desk, .message m) => ({ s with desk := desk }, some (news m))
  | (desk, _) => ({ s with desk := desk }, none)

/-- A report has come. -/
def hasReport (d : Desk Engine) (s : Site Engine) : Bool :=
  d.subscriptions.any fun (_, k) => !(s.exchange.bus.queued k).isEmpty

/-- What a data report means for the session. -/
def dataNews (s : Session) (report : Message) : SessionNews :=
  if report.header.id = s.id then .data report else .other report

/-- Waits for what happens next. -/
def next (s : Session) : Session × SessionNews :=
  let site := Scheduled.run (hasReport s.desk) s.timeoutMs s.desk.site
  let s := { s with desk := { s.desk with site := site } }
  match s.take "data" s.dataNews with
  | (s, some news) => (s, news)
  | (s, none) =>
    match s.take "errors" .failure with
    | (s, some news) => (s, news)
    | (s, none) => (s, .quiet)

/-- Stops the DPE and waits until it is done. -/
def stop (s : Session) : Session :=
  let site := ((s.desk.site.stopDpe 0).awaitDpe 0 s.timeoutMs).1
  { s with desk := { s.desk with site := site } }

end Session

end ServiceFlow
