import HostWatch.Config.Basic
/-!
# Older configurations

Configurations of older versions are brought up to date before they are decoded, one version after
another.  What a step does not name stays as it is, whatever it holds.
-/

namespace HostWatch

namespace Json

/-- The member of an object under a key. -/
def member? (key : String) : Json → Option Json
  | object members => lookup? key members
  | _ => none

/-- Members with the first value under a key changed. -/
def modifyMember (key : String) (f : Json → Json) : List (String × Json) → List (String × Json)
  | [] => []
  | (k, v) :: rest => if k = key then (k, f v) :: rest else (k, v) :: modifyMember key f rest

/-- Members with a value under a key that had none. -/
def addMember (key : String) (value : Json) (members : List (String × Json)) :
    List (String × Json) :=
  match lookup? key members with
  | some _ => members
  | none => insertMember key value members

end Json

namespace Config

/-- Why a configuration cannot be brought up to date. -/
inductive MigrationError where
  /-- Its version is not known yet. -/
  | tooNew (version : UInt64)
  /-- It is not an object. -/
  | notAnObject

namespace MigrationError

/-- The reason in words. -/
def message : MigrationError → String
  | tooNew version =>
    "Configuration error: config version " ++ .ofList (decimalDigits version.toNat) ++
      " is newer than supported version " ++ .ofList (decimalDigits currentVersion.toNat)
  | notAnObject => "Configuration error: config root must be a JSON object"

end MigrationError

/-- The version of a configuration; one that names no version is of the first. -/
def versionOf (v : Json) : UInt64 :=
  match v.member? "version" with
  | some (.integer n) => if 0 ≤ n.val then UInt64.ofNat n.val.toNat else 1
  | _ => 1

/-- From the first version to the second: rate and name are added. -/
def addRateAndName (members : List (String × Json)) : List (String × Json) :=
  Json.addMember "name" (.string defaultName)
    (Json.addMember "rate" (.string defaultRateText) members)

/-- The new name of a monitor that was renamed. -/
def shortMonitor : Json → Json
  | .string s =>
    if s = "memory" then .string "mem"
    else if s = "network" then .string "net"
    else if s = "temperature" then .string "temp"
    else .string s
  | v => v

/-- A rule with the new name of its monitor. -/
def shortenRule : Json → Json
  | .object members => .object (Json.modifyMember "type" shortMonitor members)
  | v => v

/-- Rules with the new names of their monitors. -/
def shortenRules : Json → Json
  | .array rules => .array (rules.map shortenRule)
  | v => v

/-- From the second version to the third: monitors have new names. -/
def shortenMonitors (members : List (String × Json)) : List (String × Json) :=
  Json.modifyMember "rules" shortenRules members

/-- Bring the members of a configuration up to date from a version. -/
def migrateMembers (version : UInt64) (members : List (String × Json)) : List (String × Json) :=
  let members := if version ≤ 1 then addRateAndName members else members
  let members := if version ≤ 2 then shortenMonitors members else members
  Json.insertMember "version" (.ofUInt64 currentVersion) members

/-- Bring a configuration up to date. -/
def migrate (v : Json) : Except MigrationError Json :=
  if currentVersion < versionOf v then .error (.tooNew (versionOf v))
  else match v with
    | .object members => .ok (.object (migrateMembers (versionOf v) members))
    | _ => .error .notAnObject

end Config

end HostWatch
