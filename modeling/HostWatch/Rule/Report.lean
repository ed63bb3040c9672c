import HostWatch.Json.Value
import HostWatch.Rule.Evaluate
/-!
# Reports on rules

What became of a rule, for a program to read: whether the quantity was known, the alert if the rule
holds, and the error if the rule is broken.
-/

namespace HostWatch

/-- Write an alert. -/
def Alert.encode (a : Alert) : Json :=
  .object [("key", .string a.key), ("value", .string a.value), ("time", .string a.time)]

/-- What became of a rule. -/
structure RuleReport where
  /-- The rule. -/
  id : String
  /-- The quantity was known. -/
  ready : Bool
  /-- The alert, if the rule holds. -/
  alert : Option Alert
  /-- The error, if the rule is broken. -/
  error : Option String
  deriving DecidableEq, Repr

namespace RuleReport

/-- The report on a rule of which something became. -/
def ofVerdict (id : String) : Verdict → RuleReport
  | .ok alert => ⟨id, true, alert, none⟩
  | .error .notReady => ⟨id, false, none, none⟩
  | .error e => ⟨id, true, none, some e.message⟩

/-- A value, or null. -/
def orNull {α : Type} (f : α → Json) : Option α → Json
  | some x => f x
  | none => .null

/-- Write a report. -/
def encode (r : RuleReport) : Json :=
  .object [("id", .string r.id), ("ready", .bool r.ready), ("pair", orNull Alert.encode r.alert),
    ("error", orNull .string r.error)]

end RuleReport

/-- The report on a rule for a status now. -/
def Rule.report (r : Rule) (s : Status) (now : Instant) : RuleReport :=
  .ofVerdict r.id (r.evaluate s now)

end HostWatch
