/-!
# The log

What a run reports beside its results: warnings and errors, in the order in which they came up.
-/

namespace HostWatch

/-- How serious a report is. -/
inductive Level where
  | warn | error
  deriving DecidableEq, Repr

/-- One report. -/
structure LogEntry where
  /-- How serious it is. -/
  level : Level
  /-- What it says. -/
  text : String
  deriving DecidableEq, Repr

/-- Reports in the order in which they came up. -/
abbrev Log := List LogEntry

namespace LogEntry

/-- A warning. -/
def warn (text : String) : LogEntry := ⟨.warn, text⟩

/-- An error. -/
def error (text : String) : LogEntry := ⟨.error, text⟩

end LogEntry

end HostWatch
