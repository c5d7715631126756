import ServiceFlow.Bus.Basic
import ServiceFlow.Log
import ServiceFlow.SharedMemory

/-!
# How services hand on data

What a component works with besides its own state: the bus, the shared memory of its DPE, the log and
the time.

* `Exchange.send` hands data to a service. If both are on one DPE and the receiver is open there, the
  data goes through shared memory and only a pointer to it is published; otherwise the message carries it.
  The size of the data plays no part.
* `Exchange.resolve` gets the data of a message that a service has received.
-/

namespace ServiceFlow

/-- How data was handed on. -/
inductive Delivery where
  | sharedMemory
  | network (bytes : Nat)
deriving DecidableEq, Repr

/-- Why the data of a message cannot be had. -/
inductive DispatchError where
  | missingEntry (key : EntryKey)
deriving DecidableEq

/-- The wording of the cause. -/
def DispatchError.message : DispatchError → String
  | .missingEntry key =>
    "no shared-memory entry for receiver '" ++ key.receiver.text ++ "', sender '" ++
      key.sender.text ++ "', communication " ++ toString key.id.toInt

/-- The surroundings of a component. -/
structure Exchange where
  bus : Bus
  memory : SharedMemory
  logs : List LogEvent
  now : Nat

namespace Exchange

/-- An open bus and an empty memory, at time 0. -/
def empty : Exchange := ⟨∅, ∅, [], 0⟩

/-- Logs an event. -/
def log (x : Exchange) (e : LogEvent) : Exchange := { x with logs := x.logs ++ [e] }

/-- Logs events in turn. -/
def logAll (x : Exchange) (es : List LogEvent) : Exchange := { x with logs := x.logs ++ es }

/-- Publishes a message. -/
def publish (x : Exchange) (m : Message) : Exchange × Except BusError Unit :=
  match x.bus.publish m with
  | .ok bus => ({ x with bus := bus }, .ok ())
  | .error e => (x, .error e)

/-- Publishes messages in turn, as far as the bus takes them. -/
def publishAll (x : Exchange) : List Message → Exchange × Except BusError Unit
  | [] => (x, .ok ())
  | m :: ms =>
    match x.publish m with
    | (x, .ok ()) => x.publishAll ms
    | r => r

/-- Hands data on in a message. -/
def sendByNetwork (x : Exchange) (sender receiver : Name) (composition : String)
    (d : EngineData) : Exchange × Except BusError Delivery :=
  match x.publish (.ofData (.ofName receiver) sender composition d .network) with
  | (x, .ok ()) => (x, .ok (.network d.payload.length))
  | (x, .error e) => (x, .error e)

/-- Hands data on. An entry that no pointer could be published to is taken back. -/
def send (x : Exchange) (sender receiver : Name) (composition : String) (d : EngineData) :
    Exchange × Except BusError Delivery :=
  let key : EntryKey := ⟨receiver, sender, d.id⟩
  match if sender.sameProcess receiver then x.memory.put? key d else none with
  | none => x.sendByNetwork sender receiver composition d
  | some memory =>
    let x := { x with memory := memory }
    match x.publish (.ofData (.ofName receiver) sender composition d .sharedMemory) with
    | (x, .ok ()) => (x, .ok .sharedMemory)
    | (x, .error e) => ({ x with memory := x.memory.remove key }, .error e)

/-- Hands data to several services in turn, as far as the bus takes it. -/
def sendAll (x : Exchange) (sender : Name) (composition : String) (d : EngineData) :
    List Name → Exchange × Except BusError Unit
  | [] => (x, .ok ())
  | receiver :: receivers =>
    match x.send sender receiver composition d with
    | (x, .ok _) => x.sendAll sender composition d receivers
    | (x, .error e) => (x, .error e)

/-- The data of a message that `receiver` has got from `sender`; an entry of shared memory is taken
away. An entry without a state has the state of the message. -/
def resolve (x : Exchange) (receiver sender : Name) (m : Message) :
    Exchange × Except DispatchError EngineData :=
  match m.location with
  | .network => (x, .ok m.engineData)
  | .sharedMemory =>
    let key : EntryKey := ⟨receiver, sender, m.header.id⟩
    match x.memory.get? key with
    | none => (x, .error (.missingEntry key))
    | some d =>
      ({ x with memory := x.memory.remove key },
        .ok { d with state := d.state <|> m.header.state })

end Exchange

end ServiceFlow
