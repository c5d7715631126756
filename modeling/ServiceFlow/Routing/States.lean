import ServiceFlow.Name.Map

/-!
# Reported states

The last state of each service that one service has heard of: its own after each execution that
reports one, and those that incoming messages carry. Guards of conditional clauses read it.
-/

namespace ServiceFlow

/-- The last reported state of each service. -/
abbrev StateTable := NameMap String

/-- Puts down a state, unless none is reported. -/
def StateTable.record (states : StateTable) (service : Name) : Option String → StateTable
  | some state => states.set service state
  | none => states

end ServiceFlow
