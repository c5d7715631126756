import ServiceFlow.Container

/-!
# Configurations

Model of what one process is told at its start: the address of its DPE, the containers and services to
deploy there, and a request to run once they are up.

* `Config.dpeName`, `Config.frontEnd` and `Config.containerNames` are the names that the texts of a
  configuration form, if they form any.
* `Config.settings` and `Config.specs` fill in what the configuration leaves open. The number of cores
  of the machine is the size of a pool that is given neither for its service nor for the DPE.
-/

namespace ServiceFlow

/-- The address of a DPE and the defaults of its services. -/
structure DpeSection where
  host : String
  port : Option UInt16
  lang : Lang
  frontEnd : Option String
  poolSize : Option UInt64
  barrierTtl : Option UInt64
  queueCapacity : Option UInt64
deriving DecidableEq

/-- A service to deploy. -/
structure ServiceSection where
  engine : String
  engineType : String
  poolSize : Option UInt64
  description : String
deriving DecidableEq

/-- A container to deploy, with its services. -/
structure ContainerSection where
  name : String
  description : String
  services : List ServiceSection
deriving DecidableEq

/-- A request to run once everything is deployed. -/
structure RequestSection where
  composition : String
  input : String
  timeoutMs : Option UInt64
deriving DecidableEq

/-- The configuration of one process. -/
structure Config where
  dpe : DpeSection
  containers : List ContainerSection
  request : Option RequestSection
deriving DecidableEq

/-- The depth of the queue of a service when none is given. -/
def defaultQueueCapacity : UInt64 := 64

/-- The milliseconds that a request waits for its result, 5000 when none are given. -/
def RequestSection.timeout (r : RequestSection) : UInt64 := r.timeoutMs.getD 5000

namespace Config

/-! ## Names -/

/-- The name of the DPE. -/
def dpeName (c : Config) : Except NameError Name :=
  Name.makeDpe c.dpe.host c.dpe.port c.dpe.lang

/-- The name of the front-end, if one is given. -/
def frontEnd (c : Config) : Except NameError (Option Name) :=
  match c.dpe.frontEnd with
  | none => .ok none
  | some text => (Name.parseKind .dpe text).map some

/-- The containers with their names, in their order. -/
def containerNames (c : Config) : Except NameError (List (Name × ContainerSection)) := do
  let dpe ← c.dpeName
  c.containers.mapM fun s => do return (← dpe.makeContainer s.name, s)

/-- The services with their names, in their order. -/
def serviceNames (c : Config) : Except NameError (List (Name × ServiceSection)) := do
  let services ← (← c.containerNames).mapM fun (container, s) =>
    s.services.mapM fun service => do return (← container.makeService service.engine, service)
  return services.flatten

/-! ## Defaults -/

/-- The settings of the DPE on a machine of so many cores. -/
def settings (c : Config) (cores : UInt64) : Settings :=
  ⟨(c.dpe.poolSize.getD cores).toNat, c.dpe.barrierTtl.map UInt64.toNat,
    (c.dpe.queueCapacity.getD defaultQueueCapacity).toNat⟩

/-- The size of the pool of a service, unless it is left to the machine. -/
def poolSize? (c : Config) (s : ServiceSection) : Option UInt64 := s.poolSize <|> c.dpe.poolSize

/-- What to deploy under a name on a machine of so many cores. -/
def spec (c : Config) (cores : UInt64) (name : Name) (s : ServiceSection) : ServiceSpec :=
  ⟨name, s.engineType, (c.poolSize? s).getD cores, s.description⟩

/-- What to deploy, in order. -/
def specs (c : Config) (cores : UInt64) : Except NameError (List ServiceSpec) :=
  c.serviceNames.map (List.map fun (name, s) => c.spec cores name s)

end Config

end ServiceFlow
