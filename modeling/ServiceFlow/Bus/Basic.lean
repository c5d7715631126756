import ServiceFlow.Bus.Error
import ServiceFlow.Message.Wire
import ServiceFlow.Table

/-!
# The bus

Everything that the components of a deployment tell each other goes over one bus. A message that is
published goes into the queue of every subscription whose topic covers its own. The bus also keeps a
directory of the components, counts its traffic and numbers the topics on which requests are answered.

* `Bus.publish`, `Bus.subscribe`, `Bus.receive` and `Bus.drop` are the operations on messages. What a
  message weighs is its size on the wire.
* `Bus.inquire` publishes a message with a topic of its own to be answered on, and `Bus.answer?` looks
  for the answer.
* `Bus.register`, `Bus.unregister` and `Bus.find` are the operations on the directory.
* `Bus.close` ends all subscriptions, which still hand out what is in their queues.

The bus remembers which subscriptions have something new, in the order in which it came, until
`Bus.takeArrivals` asks for it.
-/

namespace ServiceFlow

/-- A subscription with what it has not handed out yet; one that the bus has ended is detached. -/
structure Subscription where
  topic : Topic
  queue : List Message
  attached : Bool

/-- The traffic so far. -/
structure Traffic where
  messages : UInt64
  bytes : UInt64
  payloadBytes : UInt64
deriving DecidableEq, Repr

/-- An entry of the directory. -/
structure Registration where
  name : String
  description : String
deriving DecidableEq, Repr

/-- What a subscription hands out. -/
inductive Received where
  | message (m : Message)
  | empty
  | ended

/-- A message that waits for an answer, by the subscription to the topic of the answer. -/
structure Inquiry where
  topic : Topic
  subscription : Nat
deriving DecidableEq, Repr

/-- A bus with its subscriptions by number, its directory and its counters. -/
structure Bus where
  closed : Bool
  subscriptions : Table Nat Subscription
  nextSubscription : Nat
  nextReply : UInt64
  directory : Table String String
  traffic : Traffic
  arrivals : List Nat

namespace Bus

/-- An open bus without subscriptions. -/
def empty : Bus := ⟨false, [], 0, 0, [], ⟨0, 0, 0⟩, []⟩

instance : EmptyCollection Bus := ⟨empty⟩

/-! ## Messages -/

/-- The subscription receives what is published on the topic. -/
def reaches (topic : Topic) (s : Subscription) : Bool := s.attached && s.topic.covers topic

/-- A subscription after the publication of a message. -/
def deliver (m : Message) (s : Subscription) : Subscription :=
  if reaches m.topic s then { s with queue := s.queue ++ [m] } else s

/-- The traffic with one more message. -/
def count (t : Traffic) (m : Message) : Traffic :=
  ⟨t.messages + 1, t.bytes + UInt64.ofNat m.wireSize, t.payloadBytes + UInt64.ofNat m.data.length⟩

/-- Puts a message into the queues of the subscriptions that it reaches. -/
def accept (b : Bus) (m : Message) : Bus :=
  { b with
    subscriptions := b.subscriptions.map fun e => (e.1, deliver m e.2),
    traffic := count b.traffic m,
    arrivals := b.arrivals ++ (b.subscriptions.filter fun e => reaches m.topic e.2).map (·.1) }

theorem acceptAll_closed {b : Bus} (h : b.closed = false) (ms : List Message) :
    (ms.foldl accept b).closed = false := by
  induction ms generalizing b with
  | nil => exact h
  | cons m ms ih => exact ih (b := b.accept m) h

/-- Publishes a message. -/
def publish (b : Bus) (m : Message) : Except BusError Bus :=
  if b.closed then .error .closed else .ok (b.accept m)

/-- Subscribes to a topic, under a number that no other subscription has had. -/
def subscribe (b : Bus) (topic : Topic) : Except BusError (Bus × Nat) :=
  if b.closed then .error .closed
  else
    .ok ({ b with
      subscriptions := b.subscriptions ++ [(b.nextSubscription, ⟨topic, [], true⟩)],
      nextSubscription := b.nextSubscription + 1 }, b.nextSubscription)

/-- Gives a subscription up. -/
def drop (b : Bus) (subscription : Nat) : Bus :=
  { b with subscriptions := b.subscriptions.erase subscription }

/-- What is in the queue of a subscription. -/
def queued (b : Bus) (subscription : Nat) : List Message :=
  match b.subscriptions.get? subscription with
  | some s => s.queue
  | none => []

/-- Takes the next message of a subscription. -/
def receive (b : Bus) (subscription : Nat) : Bus × Received :=
  match b.subscriptions.get? subscription with
  | none => (b, .ended)
  | some s =>
    match s.queue with
    | m :: queue =>
      ({ b with subscriptions := b.subscriptions.set subscription { s with queue := queue } },
        .message m)
    | [] => (b, if s.attached then .empty else .ended)

/-- Takes no more messages, and ends all subscriptions. -/
def close (b : Bus) : Bus :=
  { b with
    closed := true,
    subscriptions := b.subscriptions.map fun e => (e.1, { e.2 with attached := false }),
    arrivals := b.arrivals ++ (b.subscriptions.filter fun e => e.2.attached).map (·.1) }

/-- The subscriptions with something new, in order, which are then forgotten. -/
def takeArrivals (b : Bus) : Bus × List Nat := ({ b with arrivals := [] }, b.arrivals)

/-! ## Requests -/

/-- Publishes a message that is to be answered on a topic of its own. -/
def inquire (b : Bus) (m : Message) : Bus × Except BusError Inquiry :=
  let topic := Topic.reply b.nextReply.toNat
  let b := { b with nextReply := b.nextReply + 1 }
  match b.subscribe topic with
  | .error e => (b, .error e)
  | .ok (subscribed, subscription) =>
    match subscribed.publish { m with header := { m.header with replyTo := some topic.text } } with
    | .error e => (b, .error e)
    | .ok b => (b, .ok ⟨topic, subscription⟩)

/-- The answer that has come, or that none can come any more. -/
def answer? (b : Bus) (q : Inquiry) : Option (Except BusError Message) :=
  match (b.receive q.subscription).2 with
  | .message m => some (.ok m)
  | .empty => none
  | .ended => some (.error .closed)

/-- Waits no longer for an answer. -/
def conclude (b : Bus) (q : Inquiry) : Bus := b.drop q.subscription

/-! ## The directory -/

/-- Puts a component into the directory. -/
def register (b : Bus) (name : Name) (description : String) : Except BusError Bus :=
  if b.closed then .error .closed
  else .ok { b with directory := b.directory.set name.text description }

/-- Takes a component out of the directory. -/
def unregister (b : Bus) (name : Name) : Bus :=
  { b with directory := b.directory.erase name.text }

/-- The registered components that are or belong to the one given, in the order of their names. -/
def find (b : Bus) (prefixName : Name) : List Registration :=
  let found := b.directory.filter fun e => (Topic.ofName prefixName).covers ⟨e.1⟩
  (found.mergeSort fun a b => (compare a.1 b.1).isLE).map fun e => ⟨e.1, e.2⟩

end Bus

end ServiceFlow
