import ServiceFlow.Dpe.Control
import ServiceFlow.Schedule
import ServiceFlow.Service.Bench

/-!
# Sites

A site is a bus with all that works on it: DPEs, each with a shared memory of its own, a service on the
bench, and responders that answer a message. They work as tasks that take turns by the agenda of the
site; what arrives on a subscription wakes the task that reads it.

* `Site.onNode` works on a DPE, and `Site.onBench` on the service on the bench.
* `Site.notice` wakes the tasks for which something is there.
-/

namespace ServiceFlow

/-- The tasks of a site. Those of a deployed service take its messages from the bus and serve them. -/
inductive SiteTask where
  | responder (k : Nat)
  | flight (k : Nat)
  | control (node subscription : Nat)
  | listener (node : Nat) (service : Name)
  | worker (node : Nat) (service : Name)
deriving DecidableEq

/-- One that answers the first message of a subscription, after a delay if there is one. -/
structure Responder where
  subscription : Nat
  author : Name
  answer : EngineData
  delay : Option Nat
  reply : Option (Nat × Option Message)

/-- A DPE with its shared memory and the subscriptions on which it takes control requests. -/
structure Node (E : Type) where
  dpe : Dpe E
  memory : SharedMemory
  control : List Nat

/-- A site. -/
structure Site (E : Type) where
  exchange : Exchange
  agenda : Agenda SiteTask
  nextTicket : Nat
  responders : Table Nat Responder
  bench : Option (Bench E)
  nodes : List (Node E)

namespace Site

variable {E : Type}

/-- A site on which nothing works. -/
def empty : Site E := ⟨.empty, .empty, 0, [], none, []⟩

/-! ## Waking tasks -/

/-- The task of a node that reads a subscription. -/
def nodeReader? (subscription node : Nat) (d : Node E) : Option SiteTask :=
  if d.control.contains subscription then some (.control node subscription)
  else
    let stations := d.dpe.containers.values.flatMap fun c => c.stations.values
    (stations.find? fun s => s.subscription == subscription).map fun s =>
      .listener node s.service.name

/-- The task that reads a subscription. -/
def reader? (s : Site E) (subscription : Nat) : Option SiteTask :=
  match s.responders.find? fun e => e.2.subscription == subscription with
  | some (k, _) => some (.responder k)
  | none => s.nodes.zipIdx.findSome? fun e => nodeReader? subscription e.2 e.1

/-- Wakes a task. -/
def wake (s : Site E) (t : SiteTask) : Site E := { s with agenda := s.agenda.wake t }

/-- The control tasks of the nodes that are to stop. -/
def stopping (s : Site E) : List SiteTask :=
  s.nodes.zipIdx.flatMap fun e =>
    if e.1.dpe.stopping then e.1.control.map (SiteTask.control e.2) else []

/-- Wakes the tasks for which something is there. -/
def notice (s : Site E) : Site E :=
  let (bus, arrivals) := s.exchange.bus.takeArrivals
  let flights := match s.bench with
    | some b => b.answered.map SiteTask.flight
    | none => []
  let tasks := arrivals.filterMap s.reader? ++ flights ++ s.stopping
  { s with exchange := { s.exchange with bus := bus }, agenda := s.agenda.wakeAll tasks }

/-! ## Working on the parts -/

/-- Works on the surroundings. -/
def onExchange {α : Type} (s : Site E) (f : Exchange → Exchange × α) : Site E × α :=
  let (x, a) := f s.exchange
  ({ s with exchange := x }.notice, a)

/-- Works on the bus. -/
def onBus {α : Type} (s : Site E) (f : Bus → Bus × α) : Site E × α :=
  s.onExchange fun x =>
    let (bus, a) := f x.bus
    ({ x with bus := bus }, a)

/-- Works on a DPE with its own shared memory. -/
def onNode {α : Type} (s : Site E) (node : Nat) (f : Node E → Exchange → Node E × Exchange × α) :
    Site E × Option α :=
  match s.nodes[node]? with
  | none => (s, none)
  | some d =>
    let (d, x, a) := f d { s.exchange with memory := d.memory }
    ({ s with
      exchange := { x with memory := s.exchange.memory },
      nodes := s.nodes.set node { d with memory := x.memory } }.notice, some a)

/-- Works on a DPE as such. -/
def onDpe {α : Type} (s : Site E) (node : Nat) (f : Dpe E → Exchange → Dpe E × Exchange × α) :
    Site E × Option α :=
  s.onNode node fun d x =>
    let (dpe, x, a) := f d.dpe x
    ({ d with dpe := dpe }, x, a)

/-- Works on the service on the bench. -/
def onBench (s : Site E) (f : Bench E → Exchange → Bench E × Exchange) : Site E :=
  match s.bench with
  | none => s
  | some b =>
    let (b, x) := f b s.exchange
    { s with exchange := x, bench := some b }.notice

end Site

end ServiceFlow
