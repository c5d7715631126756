/-!
# How often a service reports

A service may publish a report that it is done, and one with its data, every so many executions.
The executions are counted over the whole life of the service, whatever the frequencies were.
-/

namespace ServiceFlow

/-- The frequencies of the two reports, 0 for never, and the executions so far. -/
structure ReportPolicy where
  doneEvery : UInt32
  dataEvery : UInt32
  executions : UInt64
deriving DecidableEq, Repr

namespace ReportPolicy

/-- No reports and no executions. -/
def off : ReportPolicy := ⟨0, 0, 0⟩

/-- From now on every so many executions are reported as done. -/
def setDoneEvery (p : ReportPolicy) (every : UInt32) : ReportPolicy := { p with doneEvery := every }

/-- From now on the data of every so many executions is reported. -/
def setDataEvery (p : ReportPolicy) (every : UInt32) : ReportPolicy := { p with dataEvery := every }

/-- A report of this frequency is due after the execution of this number. -/
def isDue (every : UInt32) (count : UInt64) : Bool :=
  0 < every && count % every.toUInt64 == 0

/-- The reports that an execution triggers. -/
structure Due where
  done : Bool
  data : Bool
deriving DecidableEq, Repr

/-- Counts an execution and says which reports are due. -/
def recordExecution (p : ReportPolicy) : ReportPolicy × Due :=
  let count := p.executions + 1
  ({ p with executions := count }, ⟨isDue p.doneEvery count, isDue p.dataEvery count⟩)

end ReportPolicy

end ServiceFlow
