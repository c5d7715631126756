import ServiceFlow.Composition.Compiled
import ServiceFlow.Log
import ServiceFlow.Routing.Barrier
import ServiceFlow.Routing.States

/-!
# Routing decisions of a service

Routing takes place on both sides of an execution.

* `Router.admission`, before it, says whether a message lets its receiver execute. Statements that wait
  for all their inputs buffer the message; the execution then runs once on the joined inputs.
* `Router.destinations`, after it, are the services that the output goes to. Guards then see the
  state that the engine has just reported.
* `Router.route` does both at once, with nothing executed in between.

A message is refused when its sender has already delivered to an open group, or when the composition
has groups and nothing in it expects the sender.
-/

namespace ServiceFlow

/-- Why a message is refused. -/
inductive RoutingError where
  | unexpectedSender (owner sender : Name)
  | duplicateSender (owner sender : Name) (id : CommunicationId)
deriving DecidableEq

/-- The wording of each cause. -/
def RoutingError.message : RoutingError → String
  | .unexpectedSender owner sender =>
    "'" ++ sender.text ++ "' is not part of any AND group of '" ++ owner.text ++ "'"
  | .duplicateSender owner sender id =>
    "'" ++ sender.text ++ "' already delivered to the AND group of '" ++ owner.text ++
      "' for communication " ++ toString id.toInt

/-- Whether a message lets its receiver execute, and if so on which inputs; `joined` are the numbers
of the statements whose groups it completed. -/
inductive Admission (P : Type) where
  | pending
  | ready (inputs : List (Name × P)) (joined : List Nat)

/-- The routing state of one service. -/
structure Router (P : Type) where
  owner : Name
  barriers : BarrierStore P

namespace Router

variable {P : Type}

/-- A router without open groups. -/
def new (owner : Name) (ttl : Option Nat) : Router P := ⟨owner, BarrierStore.ofTtl ttl⟩

/-- The number of open groups. -/
def openGroups (r : Router P) : Nat := r.barriers.openGroups

/-! ## Admission -/

/-- A message on its way into the groups of several statements. -/
structure Delivery (P : Type) where
  barriers : BarrierStore P
  logs : List LogEvent
  inputs : List (Name × P)
  joined : List Nat

/-- Adds the inputs of senders that have none yet. -/
def addInputs (known : List (Name × P)) (more : List (Name × P)) : List (Name × P) :=
  more.foldl (fun acc e => if acc.any (·.1 == e.1) then acc else acc ++ [e]) known

/-- Delivers a payload to the groups of the given statements in turn, until one refuses it. -/
def deliver (owner sender : Name) (id : CommunicationId) (payload : P) (now : Nat) :
    Delivery P → List Statement → Delivery P × Option RoutingError
  | d, [] => (d, none)
  | d, s :: ss =>
    match d.barriers.arrive now ⟨s.id, id⟩ sender payload s.inputs with
    | (barriers, .duplicate) =>
      ({ d with barriers := barriers }, some (.duplicateSender owner sender id))
    | (barriers, .pending arrived expected) =>
      let event := .barrierPending owner.text sender.text id.toInt arrived expected
      deliver owner sender id payload now
        { d with barriers := barriers, logs := d.logs ++ [event] } ss
    | (barriers, .complete inputs) =>
      let event := .barrierCompleted owner.text id.toInt inputs.length
      deliver owner sender id payload now
        ⟨barriers, d.logs ++ [event], addInputs d.inputs inputs, d.joined ++ [s.id]⟩ ss

/-- The report of dropped groups, if any were dropped. -/
def droppedEvents (owner : Name) (count : Nat) (reason : String) : List LogEvent :=
  if count = 0 then [] else [.barriersDropped owner.text count reason]

/-- The store as an admission finds it: bound to the text, and without outlived groups. -/
def refresh (r : Router P) (text : String) (now : Nat) : BarrierStore P × List LogEvent :=
  let (barriers, superseded) := r.barriers.supersede text
  let (barriers, expired) := barriers.evictExpired now
  (barriers, droppedEvents r.owner superseded "composition changed" ++
    droppedEvents r.owner expired "barrier TTL elapsed")

/-- The active statements with a group that `sender` belongs to. -/
def groupTargets (c : Composition) (stateOf : Name → Option String) (sender : Name) :
    List Statement :=
  (c.selected stateOf).filter fun s => s.awaitsAll && decide (sender ∈ s.inputs)

/-- Some plain statement, active or not, accepts `sender`. -/
def plainAccepts (c : Composition) (sender : Name) : Bool :=
  c.statements.any fun s => !s.awaitsAll && c.accepts s sender

/-- Decides whether a message from `sender` can be executed now. -/
def admission (r : Router P) (states : StateTable) (now : Nat) (c : Composition) (sender : Name)
    (id : CommunicationId) (payload : P) :
    Router P × List LogEvent × Except RoutingError (Admission P) :=
  let (barriers, dropped) := r.refresh c.text now
  let targets := groupTargets c states.get? sender
  let plain := plainAccepts c sender
  if targets.isEmpty then
    let result :=
      if !plain && c.hasGroups then .error (.unexpectedSender r.owner sender)
      else .ok (.ready [(sender, payload)] [])
    ({ r with barriers := barriers }, dropped, result)
  else
    match deliver r.owner sender id payload now ⟨barriers, [], [], []⟩ targets with
    | (d, some e) => ({ r with barriers := d.barriers }, dropped ++ d.logs, .error e)
    | (d, none) =>
      let admission :=
        if !d.joined.isEmpty then .ready d.inputs d.joined
        else if plain then .ready [(sender, payload)] []
        else .pending
      ({ r with barriers := d.barriers }, dropped ++ d.logs, .ok admission)

/-! ## Destinations -/

/-- The statement fires for a message from `sender` whose admission completed the groups of
`joined`. -/
def fires (c : Composition) (sender : Name) (joined : List Nat) (s : Statement) : Bool :=
  if s.awaitsAll then joined.contains s.id else c.accepts s sender

/-- Where the output goes after executing a message from `sender`. -/
def destinations (c : Composition) (states : StateTable) (sender : Name) (joined : List Nat) :
    NameSet :=
  NameSet.ofList <|
    ((c.selected states.get?).filter (fires c sender joined)).flatMap fun s => s.outputs.toList

/-- Admission and destinations in one. -/
def route (r : Router P) (states : StateTable) (now : Nat) (c : Composition) (sender : Name)
    (id : CommunicationId) (payload : P) :
    Router P × List LogEvent × Except RoutingError NameSet :=
  match r.admission states now c sender id payload with
  | (r, logs, .error e) => (r, logs, .error e)
  | (r, logs, .ok .pending) => (r, logs, .ok ∅)
  | (r, logs, .ok (.ready _ joined)) => (r, logs, .ok (destinations c states sender joined))

end Router

end ServiceFlow
