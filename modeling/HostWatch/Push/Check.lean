import HostWatch.Json.Decode
import HostWatch.Pattern.Reader
/-!
# Checks of responses

A push can ask for a status and for a pattern that the text of the response matches.  The status
zero and the empty pattern accept anything.
-/

namespace HostWatch

/-- What a response has to be like. -/
structure ResponseCheck where
  /-- The status, or zero for any. -/
  code : UInt16
  /-- The pattern, or the empty text for any text. -/
  bodyRegex : String
  deriving DecidableEq, Repr

/-- Why a response is refused. -/
inductive CheckError where
  /-- The status is another. -/
  | status (found : Nat) (wanted : UInt16) (body : String)
  /-- The pattern cannot be read. -/
  | invalidPattern
  /-- The text does not match the pattern. -/
  | mismatch (pattern body : String)
  deriving DecidableEq, Repr

namespace CheckError

/-- Stands before the cause when a pattern cannot be read. -/
def invalidPatternText : String := "invalid body_regex:"

/-- The reason in words. -/
def message : CheckError → String
  | status found wanted body =>
    "unexpected status " ++ .ofList (decimalDigits found) ++ " (want " ++
      .ofList (decimalDigits wanted.toNat) ++ "): " ++ body
  | invalidPattern => invalidPatternText
  | mismatch pattern body => "response does not match " ++ quoted pattern ++ ": " ++ body

end CheckError

namespace ResponseCheck

/-- The status. -/
def codeField : Field UInt16 :=
  .optional "code" (fun v ↦ (Decoder.unsigned 65536 "u16" v).map UInt16.ofNat) 0

/-- The pattern. -/
def bodyRegexField : Field String := .optional "body_regex" .string ""

/-- The fields of a check. -/
def fields : List Field.Check := [codeField.check, bodyRegexField.check]

/-- The check that the members of a record hold. -/
def ofMembers (members : List (String × Json)) : Except DecodeError ResponseCheck :=
  return { code := ← codeField.get members, bodyRegex := ← bodyRegexField.get members }

/-- Read a check on its own. -/
def decode : Decoder ResponseCheck := fun v ↦ do
  ofMembers (← Record.members "ResponseCheck" fields v)

/-- The check among the members of an object that holds more. -/
def decodeWithin (members : List (String × Json)) : Except DecodeError ResponseCheck := do
  Record.checkMembers fields members
  ofMembers members

/-- The members that a check is written as. -/
def members (c : ResponseCheck) : List (String × Json) :=
  [("code", .integer (.ofUInt64 c.code.toUInt64)), ("body_regex", .string c.bodyRegex)]

/-- Write a check. -/
def encode (c : ResponseCheck) : Json := .object c.members

/-- The pattern, if the check asks for one. -/
def pattern? (c : ResponseCheck) : Except CheckError (Option Pattern) :=
  if c.bodyRegex = "" then .ok none
  else match Pattern.read? c.bodyRegex with
    | some p => .ok (some p)
    | none => .error .invalidPattern

/-- Check a status and a text. -/
def verify (c : ResponseCheck) (status : Nat) (body : String) : Except CheckError Unit :=
  if c.code ≠ 0 ∧ status ≠ c.code.toNat then .error (.status status c.code body)
  else match c.pattern? with
    | .error e => .error e
    | .ok none => .ok ()
    | .ok (some p) => if p.isMatch body then .ok () else .error (.mismatch c.bodyRegex body)

end ResponseCheck

end HostWatch
