import ServiceFlow.Orchestrator
import ServiceFlow.Site.Turns

/-!
# Waiting at a site

What is done from outside a site: to publish a message and wait for the answer, to serve a message on
the bench, to start and stop a DPE. While someone waits the site works, and its clock moves on.
-/

namespace ServiceFlow

namespace Site

variable {E : Type}

/-- A number that was not given out before. -/
def takeTicket (s : Site E) : Site E × Nat := ({ s with nextTicket := s.nextTicket + 1 }, s.nextTicket)

/-! ## Requests -/

/-- Has the first message on a topic answered. -/
def addResponder (s : Site E) (topic : Topic) (author : Name) (answer : EngineData)
    (delay : Option Nat) : Site E :=
  match s.exchange.bus.subscribe topic with
  | .error _ => s
  | .ok (bus, subscription) =>
    let (s, k) := s.takeTicket
    { s with
      exchange := { s.exchange with bus := bus },
      responders := s.responders.set k ⟨subscription, author, answer, delay, none⟩ }

/-- Publishes a message and waits for the answer; nobody answers in no time. -/
def request [EngineModel E] (s : Site E) (m : Message) (timeoutMs : Nat) :
    Site E × Except BusError Message :=
  match s.onBus fun b => b.inquire m with
  | (s, .error e) => (s, .error e)
  | (s, .ok q) =>
    let answer? (s : Site E) := s.exchange.bus.answer? q
    let s := if timeoutMs = 0 then s else Scheduled.run (fun s => (answer? s).isSome) timeoutMs s
    let result := match answer? s with
      | some r => r
      | none => .error (.timeout q.topic timeoutMs)
    ((s.onBus fun b => (b.conclude q, ())).1, result)

/-- Sends a message of an orchestrator and reads the answer. -/
def call [EngineModel E] (s : Site E) (o : Orchestrator) (m : Message) :
    Site E × Except OrchestratorError Message :=
  match s.request m o.timeoutMs with
  | (s, .ok reply) => (s, Orchestrator.check reply)
  | (s, .error e) => (s, .error (.bus e))

/-! ## The bench -/

/-- Starts a flight from a first stage, with its ticket. -/
def launch [EngineModel E] (s : Site E) (first : Service E → Exchange → Served E) : Site E × Nat :=
  let (s, k) := s.takeTicket
  let s := s.onBench fun b x => b.start s.agenda.now k (first b.service x)
  match s.bench.bind fun b => (b.flights.get? k).bind Flight.deadline with
  | some time =>
    let agenda := s.agenda.wakeAfter (time - s.agenda.now) (.flight k)
    ({ s with agenda := agenda }, k)
  | none => (s, k)

/-- The result of a flight that has ended. -/
def result? (s : Site E) (k : Nat) : Option (Except ServiceError Unit) := do
  (← s.bench).results.get? k

/-- Waits for the end of a flight, and abandons it when the time is up. -/
def awaitFlight [EngineModel E] (s : Site E) (k ms : Nat) :
    Site E × Option (Except ServiceError Unit) :=
  let s := Scheduled.run (fun s : Site E => (s.result? k).isSome) ms s
  match s.result? k with
  | some r => (s.onBench fun b x => ({ b with results := b.results.erase k }, x), some r)
  | none => (s.onBench fun b x => (b.abandon k, x), none)

/-! ## DPEs -/

/-- Starts a DPE, which takes control requests from then on. -/
def runDpe (s : Site E) (node : Nat) : Site E × Option (Except BusError Unit) :=
  s.onNode node fun d x =>
    match d.dpe.start x with
    | (x, .error e) => (d, x, .error e)
    | (x, .ok subscription) => ({ d with control := d.control ++ [subscription] }, x, .ok ())

/-- The DPE takes no control requests any more. -/
def isDone (s : Site E) (node : Nat) : Bool :=
  match s.nodes[node]? with
  | some d => d.control.isEmpty
  | none => true

/-- Waits for the end of a DPE, and says whether it has come. -/
def awaitDpe [EngineModel E] (s : Site E) (node ms : Nat) : Site E × Bool :=
  let s := Scheduled.run (fun s : Site E => s.isDone node) ms s
  (s, s.isDone node)

/-- Tells a DPE to stop. -/
def stopDpe (s : Site E) (node : Nat) : Site E :=
  (s.onDpe node fun d x => ({ d with stopping := true }, x, ())).1

end Site

end ServiceFlow
