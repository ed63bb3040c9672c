import HostWatch.Log
import HostWatch.Push.Basic
import HostWatch.RateLimit
import HostWatch.Rule.Json
/-!
# The configuration

What is watched, how often, and where alerts are pushed.  Interval and rate are kept as they are
written; what cannot be read falls back to a default with a warning.
-/

namespace HostWatch

/-- The configuration. -/
structure Config where
  /-- The version of the format. -/
  version : UInt64
  /-- The time between two samples, such as `7s`. -/
  interval : String
  /-- How often a push may be sent, such as `1/1m`. -/
  rate : String
  /-- The machine's name. -/
  name : String
  rules : List Rule
  pushes : List Push

namespace Config

/-- The version of the format. -/
def currentVersion : UInt64 := 3

/-- The interval that is used unless another is given. -/
def defaultInterval : Duration := .ofSeconds 7

/-- The longest interval. -/
def maxInterval : Duration := .ofSeconds 10

/-- The default interval as text. -/
def defaultIntervalText : String := "7s"

/-- The default rate as text. -/
def defaultRateText : String := "1/1m"

/-- The default name. -/
def defaultName : String := "Server 1"

/-- An integer that is known to fit. -/
def natJson (n : Nat) : Json := .integer (.ofUInt64 (UInt64.ofNat n))

/-- The settings of the push of a fresh configuration. -/
def exampleSettings : Json :=
  .object [
    ("body", .object [
      ("action", .string "send_group_msg"),
      ("params", .object [
        ("group_id", natJson 123456789),
        ("message", .string "\x7b\x7bname\x7d\x7d\n\x7b\x7bmsg\x7d\x7d")])]),
    ("body_regex", .string ".*"),
    ("code", natJson 200),
    ("headers", .object [
      ("Authorization", .string "Bearer YOUR_SECRET"),
      ("Content-Type", .string "application/json")]),
    ("method", .string "POST"),
    ("url", .string "http://localhost:5700")]

/-- A fresh configuration: one rule and one push to begin with. -/
def fresh : Config where
  version := currentVersion
  interval := defaultIntervalText
  rate := defaultRateText
  name := defaultName
  rules := [⟨.cpu, ">=77%", "cpu"⟩]
  pushes := [⟨.webhook, "QQ Group", exampleSettings⟩]

/-! ## JSON -/

/-- The version. -/
def versionField : Field UInt64 :=
  .required "version" fun v ↦ (Decoder.unsigned wordSize "u64" v).map UInt64.ofNat

/-- The interval. -/
def intervalField : Field String := .optional "interval" .string defaultIntervalText

/-- The rate. -/
def rateField : Field String := .optional "rate" .string defaultRateText

/-- The machine's name. -/
def nameField : Field String := .optional "name" .string defaultName

/-- The rules. -/
def rulesField : Field (List Rule) := .optional "rules" (.list Rule.decode) []

/-- The pushes. -/
def pushesField : Field (List Push) := .optional "pushes" (.list Push.decode) []

/-- Read a configuration. -/
def decode : Decoder Config := fun v ↦ do
  let members ← Record.members "AppConfig"
    [versionField.check, intervalField.check, rateField.check, nameField.check,
      rulesField.check, pushesField.check] v
  return {
    version := ← versionField.get members
    interval := ← intervalField.get members
    rate := ← rateField.get members
    name := ← nameField.get members
    rules := ← rulesField.get members
    pushes := ← pushesField.get members }

/-- Write a configuration. -/
def encode (c : Config) : Json :=
  .object [("version", .ofUInt64 c.version), ("interval", .string c.interval),
    ("rate", .string c.rate), ("name", .string c.name),
    ("rules", .array (c.rules.map Rule.encode)), ("pushes", .array (c.pushes.map Push.encode))]

/-! ## Interval and rate -/

/-- The seconds in a unit of time. -/
def unitSeconds? : Char → Option Nat
  | 's' => some 1
  | 'm' => some 60
  | 'h' => some 3600
  | _ => none

/-- A number and a unit of time, with blanks around both together; at most `2 ^ 64 - 1` seconds. -/
def readDuration? (s : List Char) : Option Duration :=
  let s := trim s
  match s.getLast? with
  | none => none
  | some unit =>
    match readUnsigned? s.dropLast, unitSeconds? unit with
    | some n, some seconds =>
      if n * seconds < wordSize then some (.ofSeconds (n * seconds)) else none
    | _, _ => none

/-- A number of times and a window that is not empty, with a slash between them. -/
def readRate? (s : List Char) : Option Rate :=
  match splitFirst '/' s with
  | none => none
  | some (times, window) =>
    match readUnsigned? (trim times), readDuration? window with
    | some times, some window => if window.nanos = 0 then none else some ⟨times, window⟩
    | _, _ => none

/-- The time between two samples: what is written if it lies between one and ten seconds. -/
def effectiveInterval (c : Config) : Duration × Log :=
  match readDuration? c.interval.toList with
  | some d =>
    if (Duration.ofSeconds 1).nanos ≤ d.nanos ∧ d.nanos ≤ maxInterval.nanos then (d, [])
    else fallback
  | none => fallback
where
  /-- The default, and a warning. -/
  fallback : Duration × Log :=
    (defaultInterval,
      [.warn ("Invalid interval " ++ quoted c.interval ++ ", using " ++ defaultIntervalText)])

/-- How often a push may be sent: what is written if it can be read. -/
def effectiveRate (c : Config) : Rate × Log :=
  match readRate? c.rate.toList with
  | some rate => (rate, [])
  | none => (.fallback, [.warn ("Invalid rate " ++ quoted c.rate ++ ", using 1/10s")])

end Config

end HostWatch
