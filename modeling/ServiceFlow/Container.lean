import ServiceFlow.Engine.Registry
import ServiceFlow.Pool.Workers
import ServiceFlow.Service.Serve

/-!
# Containers

A container holds the services that are deployed under its name. A deployed service listens on its own
topic: a station takes the messages of its subscription one after the other and gives them to a worker
pool of as many workers as the service has engines. When the queue of the pool is full, the station
keeps one message in hand and leaves the others to the bus.

* `Container.start` puts a container into the directory.
* `Container.deploy` and `Container.undeploy` add and remove a service, `Container.stop` removes all.
  A service that is there already stays as it is.
-/

namespace ServiceFlow

/-- What the services of a DPE are set up with. -/
structure Settings where
  poolSize : Nat
  barrierTtl : Option Nat
  queueCapacity : Nat
deriving DecidableEq, Repr

/-- The settings of a DPE and the engine types that it knows. -/
structure Setup (E : Type) where
  registry : EngineRegistry E
  settings : Settings

/-- A deployed service at work. -/
structure Station (E : Type) where
  service : Service E
  subscription : Nat
  pool : WorkerPool Message
  inHand : Option Message

/-- A container with its services. -/
structure Container (E : Type) where
  name : Name
  description : String
  stations : NameMap (Station E)

/-- What a container shows of itself. -/
structure ContainerSnapshot where
  name : Name
  description : String
  services : List ServiceSnapshot

/-- A snapshot as a JSON object. -/
def ContainerSnapshot.toJson (s : ContainerSnapshot) : Json :=
  .obj [("name", .str s.name.text), ("description", .str s.description),
    ("services", .arr (s.services.map ServiceSnapshot.toJson))]

namespace Container

variable {E : Type}

/-- The deployed service of a name. -/
def service? (c : Container E) (name : Name) : Option (Service E) :=
  (c.stations.get? name).map Station.service

/-- What a container shows of itself now. -/
def snapshot (c : Container E) : ContainerSnapshot :=
  ⟨c.name, c.description, c.stations.values.map fun s => s.service.snapshot⟩

/-- Refuses a name that has no place in the container. -/
def checkContains (c : Container E) (name : Name) : Except DeployError Unit :=
  if c.name.isContainerOf name then .ok () else .error (.notContained name c.name)

/-! ## Starting -/

/-- Starts a container without services. -/
def start (x : Exchange) (name : Name) (description : String) :
    Exchange × Except DeployError (Container E) :=
  if name.kind ≠ .container then (x, .error (.wrongName (.wrongKind name.text .container)))
  else
    match x.bus.register name description with
    | .error e => (x, .error (.bus e))
    | .ok bus =>
      ({ x with bus := bus }.log (.containerStarted name.text), .ok ⟨name, description, ∅⟩)

/-! ## Deploying -/

/-- A station for a service, which subscribes to its topic and is then put into the directory. Between the
two the bus is in other hands: `meanwhile` is what they make of it. A service that cannot be put into the
directory gives its subscription up. -/
def openStation (meanwhile : Bus → Bus) (setup : Setup E) (x : Exchange) (s : Service E) :
    Exchange × Except DeployError (Station E) :=
  match x.bus.subscribe (.ofName s.name) with
  | .error e => (x, .error (.bus e))
  | .ok (bus, subscription) =>
    let bus := meanwhile bus
    match bus.register s.name s.spec.description with
    | .error e => ({ x with bus := bus.drop subscription }, .error (.bus e))
    | .ok bus =>
      let x := { x with bus := bus, memory := x.memory.openReceiver s.name }
      let capacity := s.engines.capacity
      (x.log (.serviceDeployed s.name.text s.spec.engineType capacity),
        .ok ⟨s, subscription, .new capacity setup.settings.queueCapacity, none⟩)

/-- Deploys a service, unless one of its name is there, while others use the bus. -/
def deployAmid [EngineModel E] (meanwhile : Bus → Bus) (setup : Setup E) (c : Container E) (x : Exchange)
    (spec : ServiceSpec) : Container E × Exchange × Except DeployError (Service E) :=
  match do spec.validate; c.checkContains spec.name with
  | .error e => (c, x, .error e)
  | .ok () =>
    match c.service? spec.name with
    | some s => (c, x, .ok s)
    | none =>
      match setup.registry.instantiate spec.engineType spec.poolSize.toNat with
      | none => (c, x, .error (.unknownEngineType spec.engineType))
      | some engines =>
        match openStation meanwhile setup x (.new spec engines setup.settings.barrierTtl) with
        | (x, .error e) => (c, x, .error e)
        | (x, .ok station) =>
          ({ c with stations := c.stations.set spec.name station }, x, .ok station.service)

/-- Deploys a service, unless one of its name is there. -/
def deploy [EngineModel E] (setup : Setup E) (c : Container E) (x : Exchange) (spec : ServiceSpec) :
    Container E × Exchange × Except DeployError (Service E) := c.deployAmid id setup x spec

/-! ## Removing -/

/-- Closes a station: its service receives nothing any more. -/
def closeStation (x : Exchange) (s : Station E) : Exchange :=
  let name := s.service.name
  let dropped := x.memory.pending name
  let x :=
    { x with
      bus := (x.bus.drop s.subscription).unregister name, memory := x.memory.closeReceiver name }
  x.log (.serviceRemoved name.text dropped)

/-- Removes a service, and says whether it was there. -/
def undeploy (c : Container E) (x : Exchange) (name : Name) :
    Container E × Exchange × Except DeployError Bool :=
  match c.checkContains name with
  | .error e => (c, x, .error e)
  | .ok () =>
    match c.stations.get? name with
    | none => (c, x, .ok false)
    | some station =>
      ({ c with stations := c.stations.erase name }, closeStation x station, .ok true)

/-- Removes all services and the container itself, and says how many services there were. -/
def stop (c : Container E) (x : Exchange) : Container E × Exchange × Nat :=
  let count := c.stations.size
  let x := c.stations.values.foldl closeStation x
  let x := { x with bus := x.bus.unregister c.name }
  ({ c with stations := ∅ }, x.log (.containerStopped c.name.text count), count)

end Container

end ServiceFlow
