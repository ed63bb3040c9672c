import HostWatch.Text.Quoted
/-!
# Why an expression is refused

Sizes and thresholds are written as short expressions.  Every reason but the empty expression
carries the expression as it was written.
-/

namespace HostWatch

/-- Why an expression is refused. -/
inductive ParseError where
  /-- Nothing but blanks. -/
  | empty
  /-- A part is missing. -/
  | tooShort (expression : String)
  /-- No comparator stands first. -/
  | comparator (expression : String)
  /-- No known unit stands last. -/
  | unit (expression : String)
  /-- What should be a number is none, or is out of range. -/
  | number (expression : String)
  deriving DecidableEq, Repr

namespace ParseError

/-- The reason in words. -/
def message : ParseError → String
  | empty => "empty expression"
  | tooShort e => "expression " ++ quoted e ++ " is too short"
  | comparator e => "missing or unknown comparator in " ++ quoted e
  | unit e => "unknown unit in " ++ quoted e
  | number e => "invalid number " ++ quoted e

end ParseError

end HostWatch
