import HostWatch.Threshold
/-!
# Rules

A rule names what to watch: a monitor, a threshold and a matcher that picks the quantity among
those of the monitor.  A rule is usable when its threshold can be read and suits its monitor.
-/

namespace HostWatch

/-- The parts of a machine that rules can watch. -/
inductive Monitor where
  | cpu | mem | swap | disk | net | temp
  deriving DecidableEq, Repr

namespace Monitor

/-- The monitor's name. -/
def name : Monitor → String
  | cpu => "cpu"
  | mem => "mem"
  | swap => "swap"
  | disk => "disk"
  | net => "net"
  | temp => "temp"

/-- All monitors. -/
def all : List Monitor := [cpu, mem, swap, disk, net, temp]

/-- The monitor measures quantities of the kind. -/
def supports : Monitor → Kind → Bool
  | cpu, kind => kind = .percent
  | mem, kind | swap, kind | disk, kind => kind = .percent || kind = .size
  | net, kind => kind = .speed || kind = .size
  | temp, kind => kind = .temperature

end Monitor

/-- Why a rule has no verdict. -/
inductive RuleError where
  /-- The quantity is not known yet. -/
  | notReady
  /-- The matcher picks nothing. -/
  | invalidMatcher (monitor : Monitor) (matcher reason : String)
  /-- The monitor does not measure what the threshold limits. -/
  | unsupportedKind (monitor : Monitor) (kind : Kind)
  /-- The quantity is not of the threshold's kind. -/
  | kindMismatch (expected found : Kind)
  /-- The threshold cannot be read. -/
  | threshold (error : ParseError)
  deriving DecidableEq, Repr

namespace RuleError

/-- The reason in words. -/
def message : RuleError → String
  | notReady => "not ready"
  | invalidMatcher monitor matcher reason =>
    "invalid matcher " ++ quoted matcher ++ " for " ++ monitor.name ++ ": " ++ reason
  | unsupportedKind monitor kind =>
    kind.name ++ " threshold is not supported by " ++ monitor.name
  | kindMismatch expected found =>
    "cannot compare a " ++ found.name ++ " value against a " ++ expected.name ++ " threshold"
  | threshold error => "invalid threshold: " ++ error.message

end RuleError

namespace Threshold

/-- The reading is on the side of the threshold that the comparator asks for.  A reading of
another kind is an error, not a negative answer. -/
def evaluate (t : Threshold) (reading : Reading) : Except RuleError Bool :=
  if reading.kind = t.kind then .ok (t.comparator.holds reading.value t.value)
  else .error (.kindMismatch t.kind reading.kind)

end Threshold

/-- A rule as it is written. -/
structure Rule where
  /-- What is watched. -/
  monitor : Monitor
  /-- The limit. -/
  threshold : String
  /-- Which quantity of the monitor is meant. -/
  matcher : String
  deriving DecidableEq, Repr

namespace Rule

/-- The rule's name in the log. -/
def id (r : Rule) : String := r.monitor.name ++ "-" ++ r.threshold ++ "-" ++ r.matcher

/-- The rule in words. -/
def text (r : Rule) : String := r.monitor.name ++ " " ++ r.matcher ++ " " ++ r.threshold

/-- The rule's threshold, if it can be read and suits the monitor. -/
def validate (r : Rule) : Except RuleError Threshold :=
  match Threshold.parse r.threshold with
  | .error e => .error (.threshold e)
  | .ok t => if r.monitor.supports t.kind then .ok t else .error (.unsupportedKind r.monitor t.kind)

end Rule

end HostWatch
