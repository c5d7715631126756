import ServiceFlow.Report
import ServiceFlow.Routing.Barrier
import ServiceFlow.Text.Utf8

/-!
# Data of engines

What is handed to an engine and what it returns: a payload with its type, a description, the state
that the engine reports, and the number of the request that the data belongs to. An engine that cannot
answer returns a failure with a severity.
-/

namespace ServiceFlow

open Text

/-- Data handed to or returned from an engine. -/
structure EngineData where
  mime : String
  payload : Bytes
  description : String
  state : Option String
  id : CommunicationId
deriving DecidableEq, Inhabited

/-- Why an engine returns no data. -/
structure EngineFailure where
  severity : Severity
  message : String
deriving DecidableEq, Repr

/-- A request that an engine cannot take. -/
def EngineFailure.invalidInput (message : String) : EngineFailure := ⟨.minor, message⟩

/-- An engine that broke down. -/
def EngineFailure.internal (message : String) : EngineFailure := ⟨.critical, message⟩

namespace EngineData

/-- The type of text payloads. -/
def textType : String := "text/string"

/-- The type of JSON payloads. -/
def jsonType : String := "application/json"

/-- A text of the request `id`. -/
def ofText (text : String) (id : CommunicationId) : EngineData :=
  ⟨textType, Utf8.encode text, "", none, id⟩

/-- A JSON document of the request `id`. -/
def ofJsonText (text : String) (id : CommunicationId) : EngineData :=
  ⟨jsonType, Utf8.encode text, "", none, id⟩

/-- The payload as text. -/
def text (d : EngineData) : Except EngineFailure String :=
  match Utf8.decode d.payload with
  | .ok s => .ok s
  | .error e => .error (.invalidInput ("Invalid UTF-8 input: " ++ e.message))

/-- Several inputs as one: their payloads on lines of their own, the type and the request of the
first, and neither description nor state. -/
def joined (inputs : List EngineData) : EngineData :=
  match inputs with
  | [] => ⟨textType, [], "", none, 0⟩
  | d :: ds => ⟨d.mime, d.payload ++ ds.flatMap fun e => 0x0A :: e.payload, "", none, d.id⟩

end EngineData

end ServiceFlow
