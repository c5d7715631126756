import ServiceFlow.Engine.Data

/-!
# Engines

An engine is what a service runs. The library does not say what engines compute: everything around
them is written for any type with an `EngineModel`, that is, with a way to execute, to be configured
and to describe itself. An engine may keep state of its own, so every operation returns it.

An execution may have to wait for a gate outside the engine; it then ends one way if the gate lets it
through and another if the gate is closed.
-/

namespace ServiceFlow

/-- What an engine says about itself. -/
structure EngineMetadata where
  name : String
  description : String
  version : String
  author : String
  inputTypes : List String
  outputTypes : List String
deriving DecidableEq

/-- An engine after its execution, and what came of it. -/
structure Finished (E : Type) where
  engine : E
  result : Except EngineFailure EngineData

/-- An execution: it has ended, or it waits for the gate. -/
inductive Execution (E : Type) where
  | finished (outcome : Finished E)
  | waiting (letThrough shut : Finished E)

/-- What services need of their engines. -/
class EngineModel (E : Type) where
  execute : E → EngineData → Execution E
  executeGroup : E → List EngineData → Execution E
  configure : E → EngineData → E × Except EngineFailure Unit
  metadata : E → EngineMetadata

/-- The metadata of an engine that takes and returns text. -/
def EngineMetadata.ofText (name description : String) : EngineMetadata :=
  ⟨name, description, "0.1.0", "dpe-runtime", [EngineData.textType], [EngineData.textType]⟩

end ServiceFlow
