import ServiceFlow.Name.Text
import ServiceFlow.Text.Split

/-!
# Topics

Messages are published on topics, texts of parts separated by `:`. A subscription covers its own
topic and every topic that continues it at a `:`: `done` covers `done:10.1.1.1_java:c:S1`, and the
name of a container covers the names of its services, but `…:S1` does not cover `…:S10`.

Results:
* `Topic.covers_iff`: `a` covers `b` exactly if `b` is `a`, or `a` followed by `:` and anything.
-/

namespace ServiceFlow

/-- What messages are published on and subscribed to. -/
structure Topic where
  text : String
deriving DecidableEq, Repr, Inhabited

open Text

namespace Topic

/-- The topic on which a service, or any named component, receives data. -/
def ofName (n : Name) : Topic := ⟨n.text⟩

/-- The topic on which the DPE of a name receives control commands. -/
def control (n : Name) : Topic := ⟨"dpe:" ++ n.dpe.text⟩

/-- The topic of the reply with this number. -/
def reply (number : Nat) : Topic := ⟨"ret:" ++ toString number⟩

/-- A subscription to `sub` receives what is published on `published`. -/
def covers (sub published : Topic) : Bool :=
  match after? sub.text.toList published.text.toList with
  | none => false
  | some [] => true
  | some (c :: _) => c == ':'

theorem covers_iff {a b : Topic} :
    a.covers b = true ↔
      b.text.toList = a.text.toList ∨ ∃ r, b.text.toList = a.text.toList ++ ':' :: r := by
  rw [covers]
  constructor
  · intro h
    split at h
    · cases h
    · next hr => exact .inl (by simpa using after?_eq_some.1 hr)
    · next c r hr =>
      have : c = ':' := by simpa using h
      exact .inr ⟨r, this ▸ after?_eq_some.1 hr⟩
  · rintro (h | ⟨r, h⟩)
    · have hr : after? a.text.toList b.text.toList = some [] := after?_eq_some.2 (by simpa using h)
      rw [hr]
    · rw [after?_eq_some.2 h]
      rfl

end Topic

end ServiceFlow
