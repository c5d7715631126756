import ServiceFlow.Container

/-!
# DPEs

A DPE, a data processing environment, holds the containers of one process. It answers to a front-end,
which may be itself; a DPE that is a front-end knows those that have announced themselves to it.

* `Dpe.deploy`, `Dpe.undeploy`, `Dpe.deployService` and `Dpe.removeService` change what is deployed.
* `Dpe.shutDown` removes everything and tells the front-end that the DPE leaves.
-/

namespace ServiceFlow

/-- A DPE. It is stopping once it has been told to. -/
structure Dpe (E : Type) where
  name : Name
  frontEnd : Name
  known : NameSet
  containers : NameMap (Container E)
  stopping : Bool
  setup : Setup E

/-- What a DPE shows of itself. -/
structure DpeSnapshot where
  name : Name
  frontEnd : Name
  known : List Name
  entries : Nat
  containers : List ContainerSnapshot

/-- A snapshot as a JSON object. -/
def DpeSnapshot.toJson (s : DpeSnapshot) : Json :=
  .obj [("name", .str s.name.text), ("front_end", .str s.frontEnd.text),
    ("known_dpes", .ofTexts (s.known.map Name.text)), ("shared_memory_entries", .int s.entries),
    ("containers", .arr (s.containers.map ContainerSnapshot.toJson))]

namespace Dpe

variable {E : Type}

/-- A DPE without containers that is its own front-end. -/
def new (name : Name) (setup : Setup E) : Except NameError (Dpe E) :=
  if name.kind ≠ .dpe then .error (.wrongKind name.text .dpe)
  else .ok ⟨name, name, ∅, ∅, false, setup⟩

/-- The DPE is its own front-end. -/
def isFrontEnd (d : Dpe E) : Bool := d.frontEnd == d.name

/-- The deployed service of a name. -/
def service? (d : Dpe E) (name : Name) : Option (Service E) := do
  let container ← name.container?
  (← d.containers.get? container).service? name

/-- What a DPE shows of itself now, with the number of entries in its shared memory. -/
def snapshot (d : Dpe E) (entries : Nat) : DpeSnapshot :=
  ⟨d.name, d.frontEnd, d.known.toList, entries, d.containers.values.map Container.snapshot⟩

/-- Refuses a name that has no place in the DPE. -/
def checkContains (d : Dpe E) (name : Name) : Except DeployError Unit :=
  if d.name.isDpeOf name then .ok () else .error (.notContained name d.name)

/-! ## Containers -/

/-- Starts a container, unless one of its name is there. -/
def deploy (d : Dpe E) (x : Exchange) (name : Name) (description : String) :
    Dpe E × Exchange × Except DeployError Unit :=
  match d.checkContains name with
  | .error e => (d, x, .error e)
  | .ok () =>
    if d.containers.has name then (d, x, .ok ())
    else
      match Container.start x name description with
      | (x, .error e) => (d, x, .error e)
      | (x, .ok c) => ({ d with containers := d.containers.set name c }, x, .ok ())

/-- Stops a container, and says whether it was there. -/
def undeploy (d : Dpe E) (x : Exchange) (name : Name) :
    Dpe E × Exchange × Except DeployError Bool :=
  match d.checkContains name with
  | .error e => (d, x, .error e)
  | .ok () =>
    match d.containers.get? name with
    | none => (d, x, .ok false)
    | some c =>
      let (_, x, _) := c.stop x
      ({ d with containers := d.containers.erase name }, x, .ok true)

/-! ## Services -/

/-- The container that is deployed for a service. -/
def containerOf (d : Dpe E) (name : Name) : Except DeployError (Container E) :=
  match name.container? with
  | none => .error (.unknownContainer name)
  | some container =>
    match d.containers.get? container with
    | none => .error (.unknownContainer container)
    | some c => .ok c

/-- Deploys a service, unless one of its name is there, while others use the bus. -/
def deployServiceAmid [EngineModel E] (meanwhile : Bus → Bus) (d : Dpe E) (x : Exchange)
    (spec : ServiceSpec) : Dpe E × Exchange × Except DeployError (Service E) :=
  match do d.checkContains spec.name; d.containerOf spec.name with
  | .error e => (d, x, .error e)
  | .ok c =>
    let (c, x, r) := c.deployAmid meanwhile d.setup x spec
    ({ d with containers := d.containers.set c.name c }, x, r)

/-- Deploys a service, unless one of its name is there. -/
def deployService [EngineModel E] (d : Dpe E) (x : Exchange) (spec : ServiceSpec) :
    Dpe E × Exchange × Except DeployError (Service E) := d.deployServiceAmid id x spec

/-- Removes a service, and says whether it was there. -/
def removeService (d : Dpe E) (x : Exchange) (name : Name) :
    Dpe E × Exchange × Except DeployError Bool :=
  match d.checkContains name with
  | .error e => (d, x, .error e)
  | .ok () =>
    match d.containerOf name with
    | .error _ => (d, x, .ok false)
    | .ok c =>
      let (c, x, r) := c.undeploy x name
      ({ d with containers := d.containers.set c.name c }, x, r)

/-! ## Coming and going -/

/-- Sends a request to another DPE. -/
def announce (d : Dpe E) (x : Exchange) (dpe : Name) (command : String) :
    Exchange × Except BusError Unit :=
  if dpe = d.name then (x, .ok ()) else x.publish (.ofCommand dpe d.name command)

/-- Puts the DPE into the directory, with a subscription to its control topic. -/
def start (d : Dpe E) (x : Exchange) : Exchange × Except BusError Nat :=
  match x.bus.subscribe (.control d.name) with
  | .error e => (x, .error e)
  | .ok (bus, subscription) =>
    match bus.register d.name "dpe" with
    | .error e => (x, .error e)
    | .ok bus =>
      ({ x with bus := bus }.log (.dpeStarted d.name.text d.frontEnd.text), .ok subscription)

/-- Stops containers in turn. -/
def stopAll (x : Exchange) (cs : List (Container E)) : Exchange :=
  cs.foldl (fun x c => (c.stop x).2.1) x

end Dpe

end ServiceFlow
