import ServiceFlow.Text.Duration
import ServiceFlow.Topic

/-!
# Faults of the bus

A bus that has been closed takes nothing any more, a request may go unanswered for the time its sender
waits, and bytes may be no message or no text.
-/

namespace ServiceFlow

/-- Why something did not get through. -/
inductive BusError where
  | closed
  | timeout (topic : Topic) (ms : Nat)
  | codec (reason : String)
deriving DecidableEq, Repr

/-- The wording of each cause. -/
def BusError.message : BusError → String
  | .closed => "transport is closed"
  | .timeout topic ms => "no reply on '" ++ topic.text ++ "' within " ++ Text.duration ms
  | .codec reason => "could not decode message: " ++ reason

end ServiceFlow
