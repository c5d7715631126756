import ServiceFlow.Site.Requests

/-!
# A desk at a site

Someone at a desk follows what goes on at a site: under labels of their own they keep subscriptions and
messages in service, and they read the log. A desk may stand at a DPE, whose shared memory it then uses.

* `Desk.subscribe`, `Desk.drop` and `Desk.receive` work on subscriptions, `Desk.drain` empties all.
* `Desk.launch` has a message served, `Desk.takeFinished` gives the results that have come.
* `Desk.call` and `Desk.callNumbered` are calls of the orchestrator at the desk.
-/

namespace ServiceFlow

/-- A desk with its subscriptions, the last message of each, and its messages in service. -/
structure Desk (E : Type) where
  site : Site E
  host : Option Nat
  client : Orchestrator
  subscriptions : Table String Nat
  last : Table String Message
  flights : Table String Nat

namespace Desk

variable {E : Type}

/-- A desk at which nothing has been done. -/
def new (site : Site E) (host : Option Nat) (client : Orchestrator) : Desk E :=
  ⟨site, host, client, [], [], []⟩

/-! ## Surroundings -/

/-- Works on the surroundings of the desk. -/
def onExchange {α : Type} (d : Desk E) (f : Exchange → Exchange × α) : Desk E × α :=
  let alone (_ : Unit) :=
    let (site, a) := d.site.onExchange f
    ({ d with site := site }, a)
  match d.host with
  | none => alone ()
  | some node =>
    match d.site.onNode node fun c x =>
        let (x, a) := f x
        (c, x, a) with
    | (site, some a) => ({ d with site := site }, a)
    | (_, none) => alone ()

/-- Works on the bus. -/
def onBus {α : Type} (d : Desk E) (f : Bus → Bus × α) : Desk E × α :=
  d.onExchange fun x =>
    let (bus, a) := f x.bus
    ({ x with bus := bus }, a)

/-- Works on the shared memory. -/
def onMemory {α : Type} (d : Desk E) (f : SharedMemory → SharedMemory × α) : Desk E × α :=
  d.onExchange fun x =>
    let (memory, a) := f x.memory
    ({ x with memory := memory }, a)

/-- The bus. -/
def bus (d : Desk E) : Bus := d.site.exchange.bus

/-- Lets the tasks work for a millisecond, after which those that can are idle. -/
def settle [EngineModel E] (d : Desk E) : Desk E := { d with site := Scheduled.pass 1 d.site }

/-- Takes what has been logged. -/
def takeLogs (d : Desk E) : Desk E × List LogEvent :=
  d.onExchange fun x => ({ x with logs := [] }, x.logs)

/-! ## Subscriptions -/

/-- Gives up the subscription of a label, and says whether there was one. -/
def drop (d : Desk E) (label : String) : Desk E × Bool :=
  match d.subscriptions.get? label with
  | none => (d, false)
  | some k =>
    let (d, _) := d.onBus fun b => (b.drop k, ())
    ({ d with subscriptions := d.subscriptions.erase label }, true)

/-- Subscribes under a label; an older subscription of the label is given up. -/
def subscribe (d : Desk E) (label : String) (topic : Topic) : Desk E × Except BusError Unit :=
  match d.bus.subscribe topic with
  | .error e => (d, .error e)
  | .ok (bus, k) =>
    let (d, _) := (d.onBus fun _ => (bus, ())).1.drop label
    ({ d with subscriptions := d.subscriptions.set label k }, .ok ())

/-- Takes the next message of a subscription. -/
def receive (d : Desk E) (label : String) : Desk E × Received :=
  match d.subscriptions.get? label with
  | none => (d, .ended)
  | some k => d.onBus fun b => b.receive k

/-- Takes all messages of a subscription. -/
def receiveAll (d : Desk E) (label : String) (k : Nat) : Desk E × List Message :=
  let messages := d.bus.queued k
  let (d, _) := d.onBus fun b => (messages.foldl (fun b _ => (b.receive k).1) b, ())
  match messages.getLast? with
  | some m => ({ d with last := d.last.set label m }, messages)
  | none => (d, messages)

/-- Takes all messages of all subscriptions that have some. -/
def drain (d : Desk E) : Desk E × List (String × List Message) :=
  d.subscriptions.foldl (fun (d, out) (label, k) =>
    match d.receiveAll label k with
    | (d, []) => (d, out)
    | (d, messages) => (d, out ++ [(label, messages)])) (d, [])

/-! ## Messages in service -/

/-- Works on the service on the bench. -/
def onService (d : Desk E) (f : Service E → Service E) : Desk E :=
  { d with site := d.site.onBench fun b x => ({ b with service := f b.service }, x) }

/-- Works on the gate. -/
def onGate (d : Desk E) (f : Semaphore → Semaphore) : Desk E :=
  { d with site := d.site.onBench fun b x => ({ b with gate := f b.gate }, x) }

/-- Has a message served under a label. -/
def launch [EngineModel E] (d : Desk E) (label : String)
    (first : Service E → Exchange → Served E) : Desk E :=
  let (site, k) := d.site.launch first
  { d with site := site, flights := d.flights.set label k }

/-- Has a message served and waits for the end, at most for `ms`. -/
def serve [EngineModel E] (d : Desk E) (ms : Nat) (first : Service E → Exchange → Served E) :
    Desk E × Option (Except ServiceError Unit) :=
  let (site, k) := d.site.launch first
  let (site, r) := site.awaitFlight k ms
  ({ d with site := site }, r)

/-- The results that have come, which are then forgotten. -/
def takeFinished (d : Desk E) : Desk E × List (String × Except ServiceError Unit) :=
  let finished := d.flights.filterMap fun (label, k) => (d.site.result? k).map fun r => (label, r)
  let flights := d.flights.filter fun e => (d.site.result? e.2).isNone
  ({ d with
    flights := flights, site := d.site.onBench fun b x => ({ b with results := [] }, x) }, finished)

/-! ## Calls -/

/-- Waits for the answer to a message. -/
def request [EngineModel E] (d : Desk E) (m : Message) (timeoutMs : Nat) :
    Desk E × Except BusError Message :=
  let (site, r) := d.site.request m timeoutMs
  ({ d with site := site }, r)

/-- A call of the orchestrator. -/
def call [EngineModel E] (d : Desk E) (m : Message) : Desk E × Except OrchestratorError Message :=
  let (site, r) := d.site.call d.client m
  ({ d with site := site }, r)

/-- A call of the orchestrator with data that gets a new number. -/
def callNumbered [EngineModel E] (d : Desk E) (data : EngineData)
    (m : Orchestrator → EngineData → Message) : Desk E × Except OrchestratorError Message :=
  let (client, data) := d.client.number data
  { d with client := client }.call (m client data)

/-- Sends data by the orchestrator. -/
def send {α : Type} (d : Desk E)
    (f : Orchestrator → Exchange → Orchestrator × Exchange × Except OrchestratorError α) :
    Desk E × Except OrchestratorError α :=
  let (d, client, r) := d.onExchange fun x =>
    let (client, x, r) := f d.client x
    (x, client, r)
  ({ d with client := client }, r)

/-! ## DPEs -/

/-- Works on a DPE. -/
def onDpe {α : Type} (d : Desk E) (node : Nat)
    (f : Dpe E → Exchange → Dpe E × Exchange × α) : Desk E × Option α :=
  let (site, a) := d.site.onDpe node f
  ({ d with site := site }, a)

end Desk

end ServiceFlow
