import HostWatch.Config.Basic
import HostWatch.Push.Channel
/-!
# Problems of a configuration

Rules and pushes that cannot be used are passed over when the machine is watched.  Here each of
them is listed with the reason, rules first.
-/

namespace HostWatch

/-- A rule or a push that cannot be used. -/
structure Problem where
  /-- Which one. -/
  subject : String
  /-- The reason in words. -/
  message : String
  deriving DecidableEq, Repr

namespace Problem

/-- A problem in one line. -/
def text (p : Problem) : String := p.subject ++ ": " ++ p.message

end Problem

/-- The problem of a rule, if it cannot be used. -/
def Rule.problem? (r : Rule) : Option Problem :=
  match r.validate with
  | .ok _ => none
  | .error e => some ⟨"rule " ++ r.id, e.message⟩

/-- The problem of a push, if it cannot be used. -/
def Push.problem? (p : Push) : Option Problem :=
  match p.channel with
  | .ok _ => none
  | .error e => some ⟨"push " ++ p.name, e.message⟩

namespace Config

/-- All problems, those of rules first. -/
def problems (c : Config) : List Problem :=
  c.rules.filterMap Rule.problem? ++ c.pushes.filterMap Push.problem?

end Config

end HostWatch
