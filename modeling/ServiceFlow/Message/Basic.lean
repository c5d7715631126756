import ServiceFlow.Engine.Data

/-!
# Messages

A message is published on a topic. Its header says who published it, for which composition and
request, and how the payload is to be taken; numbers that stand for a choice are kept as they came, and
an unknown one reads as the first choice.

* `Message.ofData` and `Message.ofCommand` are the messages that carry data and control commands.
* `Message.reply` and `Message.errorReply` answer a message whose sender asked for an answer.
* `Message.failure?` is the failure that an answer carries.
-/

namespace ServiceFlow

open Text

/-! ## Choices -/

/-- What is asked of a service. -/
inductive Action where
  | execute
  | configure
deriving DecidableEq, Repr

/-- How a request went. -/
inductive Status where
  | info
  | warning
  | error
deriving DecidableEq, Repr

/-- Where the payload is: in the message, or in the shared memory of the receiver's DPE. -/
inductive DataLocation where
  | network
  | sharedMemory
deriving DecidableEq, Repr

/-- How a configure request waits for the engines to be idle. -/
inductive ConfigureMode where
  | blocking
  | immediate
  | withTimeout
deriving DecidableEq, Repr

/-- The action that a number stands for. -/
def Action.ofCode (n : Int32) : Action := if n = 1 then .configure else .execute

/-- The number of an action. -/
def Action.code : Action → Int32
  | .execute => 0
  | .configure => 1

/-- The name of an action. -/
def Action.text : Action → String
  | .execute => "Execute"
  | .configure => "Configure"

/-- The status that a number stands for. -/
def Status.ofCode (n : Int32) : Status :=
  if n = 1 then .warning else if n = 2 then .error else .info

/-- The number of a status. -/
def Status.code : Status → Int32
  | .info => 0
  | .warning => 1
  | .error => 2

/-- The name of a status. -/
def Status.text : Status → String
  | .info => "Info"
  | .warning => "Warning"
  | .error => "Error"

/-- The location that a number stands for. -/
def DataLocation.ofCode (n : Int32) : DataLocation := if n = 1 then .sharedMemory else .network

/-- The number of a location. -/
def DataLocation.code : DataLocation → Int32
  | .network => 0
  | .sharedMemory => 1

/-- The name of a location. -/
def DataLocation.text : DataLocation → String
  | .network => "Network"
  | .sharedMemory => "SharedMemory"

/-- The mode that a number stands for. -/
def ConfigureMode.ofCode (n : Int32) : ConfigureMode :=
  if n = 1 then .immediate else if n = 2 then .withTimeout else .blocking

/-- The number of a mode. -/
def ConfigureMode.code : ConfigureMode → Int32
  | .blocking => 0
  | .immediate => 1
  | .withTimeout => 2

/-- The name of a mode. -/
def ConfigureMode.text : ConfigureMode → String
  | .blocking => "Blocking"
  | .immediate => "Immediate"
  | .withTimeout => "WithTimeout"

/-! ## Messages -/

/-- What a message says about its payload. -/
structure Header where
  author : String
  composition : String
  id : CommunicationId
  action : Int32
  state : Option String
  status : Int32
  severity : UInt32
  description : String
  replyTo : Option String
  mime : String
  location : Int32
  mode : Int32
  timeoutMs : UInt64
  executionMs : UInt64
deriving DecidableEq

/-- The header in which nothing is said. -/
def Header.blank : Header := ⟨"", "", 0, 0, none, 0, 0, "", none, "", 0, 0, 0, 0⟩

/-- A published message. -/
structure Message where
  topic : Topic
  header : Header
  data : Bytes
deriving DecidableEq

instance : Inhabited Message := ⟨⟨⟨""⟩, Header.blank, []⟩⟩

namespace Message

/-- What is asked of the receiver. -/
def action (m : Message) : Action := Action.ofCode m.header.action

/-- How the request went. -/
def status (m : Message) : Status := Status.ofCode m.header.status

/-- Where the payload is. -/
def location (m : Message) : DataLocation := DataLocation.ofCode m.header.location

/-- How a configure request waits. -/
def mode (m : Message) : ConfigureMode := ConfigureMode.ofCode m.header.mode

/-- A message that carries data of `author`; one that points to shared memory has no payload. -/
def ofData (topic : Topic) (author : Name) (composition : String) (d : EngineData)
    (location : DataLocation) : Message :=
  ⟨topic,
   { Header.blank with
     author := author.text, composition := composition, id := d.id, state := d.state,
     description := d.description, mime := d.mime, location := location.code },
   match location with
   | .network => d.payload
   | .sharedMemory => []⟩

/-- A control command for the DPE of `target`. -/
def ofCommand (target author : Name) (command : String) : Message :=
  ⟨Topic.control target,
   { Header.blank with author := author.text, mime := EngineData.textType },
   Utf8.encode command⟩

/-- The payload as text. -/
def text (m : Message) : Except Utf8.Utf8Error String := Utf8.decode m.data

/-- The data that a message itself carries. -/
def engineData (m : Message) : EngineData :=
  ⟨m.header.mime, m.data, m.header.description, m.header.state, m.header.id⟩

/-- The answer with data, if one is asked for. -/
def reply (m : Message) (author : Name) (d : EngineData) : Option Message :=
  m.header.replyTo.map fun topic => ofData ⟨topic⟩ author m.header.composition d .network

/-- The answer with a failure, if one is asked for. -/
def errorReply (m : Message) (author : Name) (failure : EngineFailure) : Option Message :=
  m.header.replyTo.map fun topic =>
    ⟨⟨topic⟩,
     { Header.blank with
       author := author.text, composition := m.header.composition, id := m.header.id,
       status := Status.error.code, severity := UInt32.ofNat failure.severity.level,
       description := failure.message, mime := EngineData.textType },
     Utf8.encode failure.message⟩

/-- The failure that a message of error status carries. -/
def failure? (m : Message) : Option EngineFailure :=
  match m.status with
  | .error => some ⟨Severity.ofLevel m.header.severity.toNat, m.header.description⟩
  | _ => none

end Message

end ServiceFlow
