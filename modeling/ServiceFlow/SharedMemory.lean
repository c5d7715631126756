import ServiceFlow.Engine.Data
import ServiceFlow.Name.Set
import ServiceFlow.Table

/-!
# Shared memory

The payloads on their way between services of one DPE. The sender puts an entry down and the receiver
takes it away. Only receivers that are deployed on the DPE are open, and only for them are entries kept.
-/

namespace ServiceFlow

/-- What an entry is found by. -/
structure EntryKey where
  receiver : Name
  sender : Name
  id : CommunicationId
deriving DecidableEq

/-- The open receivers and the entries that wait for them. -/
structure SharedMemory where
  receivers : NameSet
  entries : Table EntryKey EngineData

namespace SharedMemory

/-- No receivers and no entries. -/
def empty : SharedMemory := ⟨∅, []⟩

instance : EmptyCollection SharedMemory := ⟨empty⟩

/-- Keeps entries for a receiver from now on. -/
def openReceiver (m : SharedMemory) (receiver : Name) : SharedMemory :=
  { m with receivers := m.receivers.insert receiver }

/-- Keeps no entries for a receiver any more, and drops those that wait for it. -/
def closeReceiver (m : SharedMemory) (receiver : Name) : SharedMemory :=
  ⟨m.receivers.erase receiver, m.entries.filter fun e => e.1.receiver ≠ receiver⟩

/-- The number of entries that wait for a receiver. -/
def pending (m : SharedMemory) (receiver : Name) : Nat :=
  (m.entries.filter fun e => e.1.receiver = receiver).length

/-- Entries are kept for the receiver. -/
def isOpen (m : SharedMemory) (receiver : Name) : Bool := decide (receiver ∈ m.receivers)

/-- Puts an entry down; its receiver is open. -/
def insert (m : SharedMemory) (key : EntryKey) (d : EngineData) : SharedMemory :=
  { m with entries := m.entries.set key d }

/-- Puts an entry down if its receiver is open. -/
def put? (m : SharedMemory) (key : EntryKey) (d : EngineData) : Option SharedMemory :=
  if m.isOpen key.receiver then some (m.insert key d) else none

/-- The entry of a key. -/
def get? (m : SharedMemory) (key : EntryKey) : Option EngineData := Table.get? m.entries key

/-- Takes the entry of a key away. -/
def remove (m : SharedMemory) (key : EntryKey) : SharedMemory :=
  { m with entries := m.entries.erase key }

/-- The number of entries. -/
def size (m : SharedMemory) : Nat := m.entries.length

end SharedMemory

end ServiceFlow
