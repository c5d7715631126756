import ServiceFlow.Text.Split

/-!
# Log events

Everything that a deployment says about its work is one of these events. An event has a level, a
line of text and fields; two of them also open a span, in which the work that they announce is done.
Names stand in events as their texts.
-/

namespace ServiceFlow

/-- How important an event is. -/
inductive LogLevel where
  | trace
  | debug
  | info
  | warn
  | error
deriving DecidableEq, Repr

/-- The word for a level. -/
def LogLevel.text : LogLevel → String
  | .trace => "TRACE"
  | .debug => "DEBUG"
  | .info => "INFO"
  | .warn => "WARN"
  | .error => "ERROR"

/-- The value of a field. -/
inductive LogValue where
  | text (value : String)
  | number (value : Int)
deriving DecidableEq, Repr

/-- A span of work with its fields. -/
structure LogSpan where
  name : String
  level : LogLevel
  fields : List (String × LogValue)
deriving DecidableEq, Repr

/-- What is reported. -/
inductive LogEvent where
  | compositionCompiled (owner composition : String) (instructions statements : Nat)
  | compositionRejected (owner error : String)
  | barrierPending (owner sender : String) (id : Int) (arrived expected : Nat)
  | barrierCompleted (owner : String) (id : Int) (inputs : Nat)
  | barriersDropped (owner : String) (count : Nat) (reason : String)
  | senderRejected (owner sender error : String)
  | routeSelected (owner : String) (id : Int) (destinations : List String)
  | serviceDeployed (service engineType : String) (poolSize : Nat)
  | serviceRemoved (service : String) (pendingEntries : Nat)
  | executionFailed (service : String) (id : Int) (severity : Nat) (error : String)
  | serviceConfigured (service mode : String) (instances : Nat)
  | messageDropped (service topic error : String)
  | messageReceived (service sender : String) (id : Int) (action : String)
  | dpeStarted (dpe frontEnd : String)
  | dpeStopped (dpe : String) (containers : Nat)
  | dpeRegistered (frontEnd dpe : String)
  | containerStarted (container : String)
  | containerStopped (container : String) (services : Nat)
  | controlFailed (dpe command error : String)
  | controlReceived (dpe command author : String)
deriving DecidableEq, Repr

namespace LogEvent

/-- The level at which an event is logged. -/
def level : LogEvent → LogLevel
  | .compositionCompiled .. | .barrierPending .. | .barrierCompleted .. | .messageReceived ..
  | .controlReceived .. => .debug
  | .compositionRejected .. | .executionFailed .. | .controlFailed .. => .error
  | .barriersDropped .. | .senderRejected .. | .messageDropped .. => .warn
  | .routeSelected .. => .trace
  | .serviceDeployed .. | .serviceRemoved .. | .serviceConfigured .. | .dpeStarted ..
  | .dpeStopped .. | .dpeRegistered .. | .containerStarted .. | .containerStopped .. => .info

/-- The line of an event. -/
def text : LogEvent → String
  | .compositionCompiled owner _ instructions statements =>
    s!"Compiled composition for '{owner}': {instructions} instructions, {statements} statements"
  | .compositionRejected owner error => s!"Rejected composition for '{owner}': {error}"
  | .barrierPending owner sender id arrived expected =>
    s!"'{owner}' waiting on AND inputs for request {id}: {arrived}/{expected} arrived " ++
      s!"(last from '{sender}')"
  | .barrierCompleted owner id inputs =>
    s!"'{owner}' AND barrier complete for request {id} with {inputs} inputs"
  | .barriersDropped owner count reason =>
    s!"'{owner}' dropped {count} incomplete AND barriers: {reason}"
  | .senderRejected owner sender error => s!"'{owner}' dropped message from '{sender}': {error}"
  | .routeSelected owner id destinations =>
    if destinations.isEmpty then s!"'{owner}' output for request {id} ends here"
    else s!"'{owner}' routing request {id} to " ++ Text.join ", " destinations
  | .serviceDeployed service engineType poolSize =>
    s!"Deployed service '{service}' ({engineType} engine, pool_size={poolSize})"
  | .serviceRemoved service pendingEntries =>
    s!"Removed service '{service}'" ++
      (if pendingEntries = 0 then "" else s!" ({pendingEntries} pending entries dropped)")
  | .executionFailed service id severity error =>
    s!"Service '{service}' failed request {id} (severity {severity}): {error}"
  | .serviceConfigured service mode instances =>
    s!"Configured {instances} engine instances of '{service}' ({mode})"
  | .messageDropped service topic error =>
    s!"Service '{service}' dropped message on '{topic}': {error}"
  | .messageReceived service sender id action =>
    s!"Service '{service}' received {action} #{id} from '{sender}'"
  | .dpeStarted dpe frontEnd =>
    if dpe = frontEnd then s!"DPE '{dpe}' started as front-end"
    else s!"DPE '{dpe}' started (front-end '{frontEnd}')"
  | .dpeStopped dpe containers => s!"DPE '{dpe}' stopped ({containers} containers removed)"
  | .dpeRegistered frontEnd dpe => s!"Front-end '{frontEnd}' registered DPE '{dpe}'"
  | .containerStarted container => s!"Started container '{container}'"
  | .containerStopped container services =>
    s!"Stopped container '{container}' ({services} services removed)"
  | .controlFailed dpe command error => s!"DPE '{dpe}' could not apply '{command}': {error}"
  | .controlReceived dpe command author => s!"DPE '{dpe}' received '{command}' from '{author}'"

/-- The fields of an event. -/
def fields : LogEvent → List (String × LogValue)
  | .compositionCompiled owner composition instructions statements =>
    [("owner", .text owner), ("composition", .text composition),
     ("instructions", .number instructions), ("statements", .number statements)]
  | .compositionRejected owner error => [("owner", .text owner), ("error", .text error)]
  | .barrierPending owner sender id arrived expected =>
    [("owner", .text owner), ("sender", .text sender), ("communication_id", .number id),
     ("arrived", .number arrived), ("expected", .number expected)]
  | .barrierCompleted owner id inputs =>
    [("owner", .text owner), ("communication_id", .number id), ("inputs", .number inputs)]
  | .barriersDropped owner count reason =>
    [("owner", .text owner), ("count", .number count), ("reason", .text reason)]
  | .senderRejected owner sender error =>
    [("owner", .text owner), ("sender", .text sender), ("error", .text error)]
  | .routeSelected owner id destinations =>
    [("owner", .text owner), ("communication_id", .number id),
     ("destinations", .number destinations.length)]
  | .serviceDeployed service engineType poolSize =>
    [("service", .text service), ("engine_type", .text engineType),
     ("pool_size", .number poolSize)]
  | .serviceRemoved service pendingEntries =>
    [("service", .text service), ("pending_entries", .number pendingEntries)]
  | .executionFailed service id severity error =>
    [("service", .text service), ("communication_id", .number id),
     ("severity", .number severity), ("error", .text error)]
  | .serviceConfigured service mode instances =>
    [("service", .text service), ("mode", .text mode), ("instances", .number instances)]
  | .messageDropped service topic error =>
    [("service", .text service), ("topic", .text topic), ("error", .text error)]
  | .messageReceived service sender id action =>
    [("service", .text service), ("sender", .text sender), ("communication_id", .number id),
     ("action", .text action)]
  | .dpeStarted dpe frontEnd => [("dpe", .text dpe), ("front_end", .text frontEnd)]
  | .dpeStopped dpe containers => [("dpe", .text dpe), ("containers", .number containers)]
  | .dpeRegistered frontEnd dpe => [("front_end", .text frontEnd), ("dpe", .text dpe)]
  | .containerStarted container => [("container", .text container)]
  | .containerStopped container services =>
    [("container", .text container), ("services", .number services)]
  | .controlFailed dpe command error =>
    [("dpe", .text dpe), ("command", .text command), ("error", .text error)]
  | .controlReceived dpe command author =>
    [("dpe", .text dpe), ("command", .text command), ("author", .text author)]

/-- The span, called `label`, of the work that an event announces. -/
def span? (label : String) : LogEvent → Option LogSpan
  | e@(.messageReceived ..) =>
    some ⟨"service_message", .info, ("span_name", .text label) :: e.fields⟩
  | .controlReceived dpe command _ =>
    some ⟨"control", .info,
      [("span_name", .text label), ("dpe", .text dpe), ("command", .text command)]⟩
  | _ => none

/-- The level and the text of an event. -/
def line (e : LogEvent) : String := e.level.text ++ " " ++ e.text

end LogEvent

end ServiceFlow
