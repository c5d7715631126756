import ServiceFlow.Control
import ServiceFlow.Json.Fields
import ServiceFlow.Message.Wire
import ServiceFlow.Text.Hex
import ServiceFlow.View.Composition

/-!
# Data and messages as JSON

Bytes stand in hexadecimal under `hex`; where they are read they may also be given as `text`.
-/

namespace ServiceFlow

/-- The number of a request. -/
def Json.ofId (id : CommunicationId) : Json := .int id.toInt

/-- A request number, 0 if there is none. -/
def Json.id (j : Json) : CommunicationId := Int64.ofInt (j.integer "id")

/-- Bytes, given in hexadecimal or as text. -/
def Json.bytes (j : Json) : Bytes :=
  match j.string? "hex" with
  | some digits => Text.Hex.decode digits
  | none => Text.Utf8.encode (j.string "text")

/-- Data of engines. -/
def EngineData.toJson (d : EngineData) : Json :=
  .obj [("mime", .str d.mime), ("hex", .str (Text.Hex.encode d.payload)),
    ("description", .str d.description), ("state", .optional .str d.state), ("id", .ofId d.id)]

/-- Data of engines; it is text unless it says otherwise. -/
def EngineData.ofJson (j : Json) : EngineData :=
  ⟨j.string "mime" textType, j.bytes, j.string "description", j.string? "state", j.id⟩

/-- A header without the time that an execution took. -/
def Header.fieldsJson (h : Header) : List (String × Json) :=
  [("author", .str h.author), ("composition", .str h.composition), ("id", .ofId h.id),
   ("action", .int h.action.toInt), ("state", .optional .str h.state),
   ("status", .int h.status.toInt), ("severity", .int h.severity.toNat),
   ("description", .str h.description), ("reply_to", .optional .str h.replyTo), ("mime", .str h.mime),
   ("location", .int h.location.toInt), ("mode", .int h.mode.toInt),
   ("timeout_ms", .int h.timeoutMs.toNat)]

/-- A header in which whatever is missing is blank. -/
def Header.ofJson (j : Json) : Header :=
  { author := j.string "author", composition := j.string "composition", id := j.id,
    action := Int32.ofInt (j.integer "action"), state := j.string? "state",
    status := Int32.ofInt (j.integer "status"), severity := UInt32.ofNat (j.nat "severity"),
    description := j.string "description", replyTo := j.string? "reply_to",
    mime := j.string "mime", location := Int32.ofInt (j.integer "location"),
    mode := Int32.ofInt (j.integer "mode"), timeoutMs := UInt64.ofNat (j.nat "timeout_ms"),
    executionMs := UInt64.ofNat (j.nat "exec_ms") }

/-- A message with a given view of its header. -/
def Message.view (m : Message) (header : List (String × Json)) : List (String × Json) :=
  [("topic", .str m.topic.text), ("meta", .obj header), ("hex", .str (Text.Hex.encode m.data))]

/-- A message without the time that an execution took. -/
def Message.toJson (m : Message) : Json := .obj (m.view m.header.fieldsJson)

/-- A message in which whatever is missing is blank. -/
def Message.ofJson (j : Json) : Message :=
  ⟨⟨j.string "topic"⟩, Header.ofJson (j.get "meta"), j.bytes⟩

/-- A message with its header in full, the meaning of its numbers, and its form on the wire. -/
def Message.describe (m : Message) : List (String × Json) :=
  m.view (m.header.fieldsJson ++ [("exec_ms", .int m.header.executionMs.toNat)]) ++
  [("names", .ofTexts [m.action.text, m.status.text, m.location.text, m.mode.text]),
   ("engine_data", m.engineData.toJson), ("wire", .str (Text.Hex.encode m.encode)),
   ("again", .bool (decide (Message.decode? m.encode = some m)))]

/-- The arguments of a control request by their names. -/
def ControlRequest.fieldsJson : ControlRequest → List (String × Json)
  | .startDpe dpe | .stopDpe dpe => [("dpe", dpe.toJson)]
  | .pingDpe => []
  | .setFrontEnd frontEnd => [("front_end", frontEnd.toJson)]
  | .startContainer container description =>
    [("container", container.toJson), ("description", .str description)]
  | .stopContainer container => [("container", container.toJson)]
  | .deployService service engineType poolSize description =>
    [("service", service.toJson), ("engine_type", .str engineType),
     ("pool_size", .int poolSize.toNat), ("description", .str description)]
  | .removeService service => [("service", service.toJson)]
  | .reportDone service every | .reportData service every =>
    [("service", service.toJson), ("every", .int every.toNat)]

/-- A control request with its line, and whether the line reads as the same request. -/
def ControlRequest.describe (r : ControlRequest) : Json :=
  let again := match parse r.text with
    | .ok r' => decide (r' = r)
    | .error _ => false
  .obj (r.fieldsJson ++
    [("verb", .str r.verb.text), ("display", .str r.text), ("again", .bool again)])

end ServiceFlow
