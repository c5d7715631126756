import ServiceFlow.Composition.Cache
import ServiceFlow.Engine.Catalog
import ServiceFlow.Exchange
import ServiceFlow.Pool.Objects
import ServiceFlow.Routing.Router
import ServiceFlow.Service.Policy
import ServiceFlow.Service.Spec

/-!
# Services

A service is a pool of engines of one type under a name, with what it remembers from message to
message: the composition that it compiled last, the inputs that wait for others, the states that it has
heard of, and how often it reports.
-/

namespace ServiceFlow

/-- Why a message is not served. -/
inductive ServiceError where
  | sender (cause : NameError)
  | composition (cause : CompositionError)
  | routing (cause : RoutingError)
  | dispatch (cause : DispatchError)
  | pool (cause : PoolError)
  | bus (cause : BusError)
  | engine (cause : EngineFailure)

namespace ServiceError

/-- The wording of each cause. -/
def message : ServiceError → String
  | .sender cause => "invalid sender: " ++ cause.message
  | .composition cause => cause.message
  | .routing cause => cause.message
  | .dispatch cause => cause.message
  | .pool cause => cause.message
  | .bus cause => cause.message
  | .engine cause => "engine failed: " ++ cause.message

/-- Where the error happens it is logged at once. -/
def isLogged : ServiceError → Bool
  | .engine _ | .routing _ | .composition _ => true
  | _ => false

end ServiceError

/-- A deployed service. -/
structure Service (E : Type) where
  spec : ServiceSpec
  metadata : EngineMetadata
  engines : ObjectPool E
  cache : CompositionCache
  router : Router EngineData
  states : StateTable
  reports : ReportPolicy

/-- What a service shows of itself. -/
structure ServiceSnapshot where
  name : Name
  engineType : String
  description : String
  poolSize : Nat
  idleEngines : Nat
  policy : ReportPolicy
  engine : EngineMetadata

namespace Service

variable {E : Type}

/-- The name of a service. -/
def name (s : Service E) : Name := s.spec.name

/-- A service with these engines, which speak for themselves through the first of them. -/
def new [EngineModel E] (spec : ServiceSpec) (engines : List E) (ttl : Option Nat) : Service E where
  spec := spec
  metadata :=
    match engines.head? with
    | some e => EngineModel.metadata e
    | none => .ofText spec.engineType ""
  engines := .ofList engines
  cache := .new spec.name
  router := .new spec.name ttl
  states := ∅
  reports := .off

/-- What a service shows of itself now. -/
def snapshot (s : Service E) : ServiceSnapshot :=
  ⟨s.name, s.spec.engineType, s.spec.description, s.engines.capacity, s.engines.available,
   s.reports, s.metadata⟩

end Service

/-- Metadata as a JSON object. -/
def EngineMetadata.toJson (m : EngineMetadata) : Json :=
  .obj [("name", .str m.name), ("description", .str m.description), ("version", .str m.version),
    ("author", .str m.author), ("input_types", .ofTexts m.inputTypes),
    ("output_types", .ofTexts m.outputTypes)]

/-- A snapshot as a JSON object. -/
def ServiceSnapshot.toJson (s : ServiceSnapshot) : Json :=
  .obj [("name", .str s.name.text), ("engine_type", .str s.engineType),
    ("description", .str s.description), ("pool_size", .int s.poolSize),
    ("idle_engines", .int s.idleEngines), ("executions", .int s.policy.executions.toNat),
    ("report_done_every", .int s.policy.doneEvery.toNat),
    ("report_data_every", .int s.policy.dataEvery.toNat), ("engine", s.engine.toJson)]

end ServiceFlow
