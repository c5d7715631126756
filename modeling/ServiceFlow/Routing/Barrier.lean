import ServiceFlow.Name.Map
import ServiceFlow.Table

/-!
# Barriers

A statement that waits for all its inputs collects them in a group until each expected sender has
delivered. Groups are kept apart by statement and communication id, so that concurrent requests
never share one, and they belong to the text of the composition they were opened under.

* `BarrierStore.supersede` binds the store to a text and drops every group of another one.
* `BarrierStore.evictExpired` drops the groups that have been open for the time to live or longer.
* `BarrierStore.arrive` takes one input in. When it is the last, the group leaves the store.

Times are in one unit, whichever it is.
-/

namespace ServiceFlow

/-- The number of a request, which keeps its inputs apart from those of others. -/
abbrev CommunicationId := Int64

/-- A group: the statement that waits, and the request that its inputs belong to. -/
structure GroupKey where
  statement : Nat
  id : CommunicationId
deriving DecidableEq

/-- The inputs of an open group. -/
structure Group (P : Type) where
  arrivals : NameMap P
  openedAt : Nat

/-- The group has been open for less than `ttl`. -/
def Group.isFresh {P : Type} (g : Group P) (ttl now : Nat) : Bool := now - g.openedAt < ttl

/-- The open groups of one service. -/
structure BarrierStore (P : Type) where
  ttl : Option Nat
  composition : Option String
  groups : Table GroupKey (Group P)

/-- What becomes of an input. -/
inductive Arrival (P : Type) where
  | pending (arrived expected : Nat)
  | complete (inputs : List (Name × P))
  | duplicate

namespace BarrierStore

variable {P : Type}

/-- A store without groups. -/
def ofTtl (ttl : Option Nat) : BarrierStore P := ⟨ttl, none, []⟩

/-- The number of open groups. -/
def openGroups (b : BarrierStore P) : Nat := b.groups.length

/-- Binds the store to a text, with the number of groups that this drops. -/
def supersede (b : BarrierStore P) (text : String) : BarrierStore P × Nat :=
  if b.composition = some text then (b, 0)
  else ({ b with composition := some text, groups := [] }, b.groups.length)

/-- Drops the groups that have outlived the time to live, and says how many. -/
def evictExpired (b : BarrierStore P) (now : Nat) : BarrierStore P × Nat :=
  match b.ttl with
  | none => (b, 0)
  | some ttl =>
    let kept := b.groups.filter fun e => e.2.isFresh ttl now
    ({ b with groups := kept }, b.groups.length - kept.length)

/-- The open group of a key, or a new one. -/
def groupAt (b : BarrierStore P) (key : GroupKey) (now : Nat) : Group P :=
  (b.groups.get? key).getD ⟨∅, now⟩

/-- Takes an input in: it completes the group of the expected senders, or is kept, or is refused
because its sender has delivered before. -/
def arrive (b : BarrierStore P) (now : Nat) (key : GroupKey) (sender : Name) (payload : P)
    (expected : NameSet) : BarrierStore P × Arrival P :=
  let group := b.groupAt key now
  if group.arrivals.has sender then
    (b, .duplicate)
  else
    let arrivals := group.arrivals.set sender payload
    if arrivals.names = expected.toList then
      ({ b with groups := b.groups.erase key }, .complete arrivals.entries)
    else
      ({ b with groups := b.groups.set key ⟨arrivals, group.openedAt⟩ },
        .pending arrivals.size expected.size)

end BarrierStore

end ServiceFlow
