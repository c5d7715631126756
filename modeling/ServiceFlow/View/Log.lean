import ServiceFlow.Json.Fields
import ServiceFlow.Log

/-!
# Log events as JSON

An event shows its level, its line and its fields, and is read from the name of its kind and its
fields, of which those that are missing are blank.
-/

namespace ServiceFlow

/-- The value of a field. -/
def LogValue.toJson : LogValue → Json
  | .text value => .str value
  | .number value => .int value

/-- Fields as an object. -/
def Json.ofLogFields (l : List (String × LogValue)) : Json := .obj (l.map fun e => (e.1, e.2.toJson))

/-- An event. -/
def LogEvent.toJson (e : LogEvent) : Json :=
  .obj [("level", .str e.level.text), ("text", .str e.text), ("fields", .ofLogFields e.fields)]

/-- A span. -/
def LogSpan.toJson (s : LogSpan) : Json :=
  .obj [("name", .str s.name), ("level", .str s.level.text), ("fields", .ofLogFields s.fields)]

/-- The event of a kind with the given fields. -/
def LogEvent.ofJson? (kind : String) (f : Json) : Option LogEvent :=
  let owner := f.string "owner"
  let service := f.string "service"
  let dpe := f.string "dpe"
  let error := f.string "error"
  let id := f.integer "communication_id"
  match kind with
  | "CompositionCompiled" =>
    some (.compositionCompiled owner (f.string "composition") (f.nat "instructions")
      (f.nat "statements"))
  | "CompositionRejected" => some (.compositionRejected owner error)
  | "BarrierPending" =>
    some (.barrierPending owner (f.string "sender") id (f.nat "arrived") (f.nat "expected"))
  | "BarrierCompleted" => some (.barrierCompleted owner id (f.nat "inputs"))
  | "BarriersDropped" => some (.barriersDropped owner (f.nat "count") (f.string "reason"))
  | "SenderRejected" => some (.senderRejected owner (f.string "sender") error)
  | "RouteSelected" => some (.routeSelected owner id (f.strings "destinations"))
  | "ServiceDeployed" =>
    some (.serviceDeployed service (f.string "engine_type") (f.nat "pool_size"))
  | "ServiceRemoved" => some (.serviceRemoved service (f.nat "pending_entries"))
  | "EngineExecutionFailed" => some (.executionFailed service id (f.nat "severity") error)
  | "ServiceConfigured" => some (.serviceConfigured service (f.string "mode") (f.nat "instances"))
  | "MessageDropped" => some (.messageDropped service (f.string "topic") error)
  | "MessageReceived" =>
    some (.messageReceived service (f.string "sender") id (f.string "action"))
  | "DpeStarted" => some (.dpeStarted dpe (f.string "front_end"))
  | "DpeStopped" => some (.dpeStopped dpe (f.nat "containers"))
  | "DpeRegistered" => some (.dpeRegistered (f.string "front_end") dpe)
  | "ContainerStarted" => some (.containerStarted (f.string "container"))
  | "ContainerStopped" => some (.containerStopped (f.string "container") (f.nat "services"))
  | "ControlCommandFailed" => some (.controlFailed dpe (f.string "command") error)
  | "ControlCommandReceived" =>
    some (.controlReceived dpe (f.string "command") (f.string "author"))
  | _ => none

end ServiceFlow
