import ServiceFlow.Topic

/-!
# Reports

A service reports on itself: that a request is done, its data, warnings, errors and information.
Each report goes out on the topic of its category followed by the name of the service; warnings and
errors put their severity between the two.

Results:
* `Report.category_covers`: a subscription to the category receives every report of it.
-/

namespace ServiceFlow

/-- How grave a warning or an error is. -/
inductive Severity where
  | minor
  | major
  | critical
deriving DecidableEq, Repr, Inhabited

namespace Severity

/-- The number of a severity in messages. -/
def level : Severity → Nat
  | .minor => 1
  | .major => 2
  | .critical => 3

/-- The severity nearest to a number. -/
def ofLevel (n : Nat) : Severity :=
  if n ≤ 1 then .minor else if n = 2 then .major else .critical

theorem ofLevel_level (s : Severity) : ofLevel s.level = s := by cases s <;> rfl

/-- The name of a severity. -/
def text : Severity → String
  | .minor => "Minor"
  | .major => "Major"
  | .critical => "Critical"

end Severity

/-- The categories of reports. -/
inductive Report where
  | done
  | data
  | warning (severity : Severity)
  | error (severity : Severity)
  | info
deriving DecidableEq, Repr

namespace Report

/-- The word of a category. -/
def word : Report → String
  | .done => "done"
  | .data => "data"
  | .warning _ => "warning"
  | .error _ => "error"
  | .info => "info"

/-- The topic that receives every report of this category. -/
def category (r : Report) : Topic := ⟨r.word⟩

/-- What stands between the category and the name. -/
def severityText : Report → String
  | .warning s | .error s => toString s.level ++ ":"
  | _ => ""

/-- The topic of the reports of this category by the component `n`. -/
def topic (r : Report) (n : Name) : Topic := ⟨r.word ++ ":" ++ (r.severityText ++ n.text)⟩

theorem category_covers (r : Report) (n : Name) : r.category.covers (r.topic n) = true :=
  Topic.covers_iff.2 (.inr ⟨(r.severityText ++ n.text).toList, by simp [category, topic]⟩)

end Report

end ServiceFlow
