import HostWatch.Json.Decode
import HostWatch.Rule.Basic
/-!
# Rules as JSON

A rule is a record of its monitor, its threshold and its matcher.
-/

namespace HostWatch

namespace Monitor

/-- A monitor by its name. -/
def decode : Decoder Monitor := .word all name

end Monitor

namespace Rule

/-- The monitor of a rule. -/
def monitorField : Field Monitor := .required "type" Monitor.decode

/-- The threshold of a rule. -/
def thresholdField : Field String := .required "threshold" .string

/-- The matcher of a rule. -/
def matcherField : Field String := .required "matcher" .string

/-- Read a rule. -/
def decode : Decoder Rule := fun v ↦ do
  let members ← Record.members "Rule"
    [monitorField.check, thresholdField.check, matcherField.check] v
  return {
    monitor := ← monitorField.get members
    threshold := ← thresholdField.get members
    matcher := ← matcherField.get members }

/-- Write a rule. -/
def encode (r : Rule) : Json :=
  .object [("type", .string r.monitor.name), ("threshold", .string r.threshold),
    ("matcher", .string r.matcher)]

end Rule

end HostWatch
