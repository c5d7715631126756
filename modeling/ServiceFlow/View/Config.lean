import ServiceFlow.Config.Basic
import ServiceFlow.View.Composition

/-!
# Configurations as JSON

What configurations look like from outside: the settings as they are given, and what follows from them.
A pool size that is left to the machine is the word `default`.
-/

namespace ServiceFlow

/-- A word, or null. -/
def Json.optionalWord (n : Option UInt64) : Json := .optional (fun n => .int n.toNat) n

/-- The size of a pool, or the word for one that is left to the machine. -/
def Json.poolSize (n : Option UInt64) : Json :=
  match n with
  | some n => .int n.toNat
  | none => .str "default"

/-- The section of a DPE. -/
def DpeSection.toJson (s : DpeSection) : Json :=
  .obj [("host", .str s.host), ("port", .optional (fun p => .int p.toNat) s.port),
    ("lang", .str s.lang.text), ("front_end", .optional .str s.frontEnd),
    ("pool_size", .optionalWord s.poolSize), ("barrier_ttl_secs", .optionalWord s.barrierTtl),
    ("queue_capacity", .optionalWord s.queueCapacity)]

/-- The section of a service. -/
def ServiceSection.toJson (s : ServiceSection) : Json :=
  .obj [("engine", .str s.engine), ("engine_type", .str s.engineType),
    ("pool_size", .optionalWord s.poolSize), ("description", .str s.description)]

/-- The section of a container. -/
def ContainerSection.toJson (s : ContainerSection) : Json :=
  .obj [("name", .str s.name), ("description", .str s.description),
    ("services", .arr (s.services.map ServiceSection.toJson))]

/-- The section of a request. -/
def RequestSection.toJson (s : RequestSection) : Json :=
  .obj [("composition", .str s.composition), ("input", .str s.input),
    ("timeout_ms", .optionalWord s.timeoutMs), ("effective_timeout_ms", .int s.timeout.toNat)]

namespace Config

/-- The sections as they are given. -/
def sections (c : Config) : List (String × Json) :=
  [("dpe", c.dpe.toJson), ("containers", .arr (c.containers.map ContainerSection.toJson)),
    ("request", .optional RequestSection.toJson c.request)]

/-- The settings of the DPE. -/
def settingsJson (c : Config) : Json :=
  .obj [("pool_size", .poolSize c.dpe.poolSize),
    ("barrier_ttl_secs", .optionalWord c.dpe.barrierTtl),
    ("queue_capacity", .int (c.dpe.queueCapacity.getD defaultQueueCapacity).toNat)]

/-- The containers by canonical name and the name given. -/
def containersJson (l : List (Name × ContainerSection)) : Json :=
  .arr (l.map fun (name, s) => .arr [name.toJson, .str s.name])

/-- What is deployed. -/
def specsJson (c : Config) (l : List (Name × ServiceSection)) : Json :=
  .arr (l.map fun (name, s) =>
    .obj [("name", name.toJson), ("engine_type", .str s.engineType),
      ("pool_size", .poolSize (c.poolSize? s)), ("description", .str s.description)])

end Config

end ServiceFlow
