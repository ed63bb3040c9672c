import HostWatch.Json.Decode
/-!
# Pushes as configured

A push names a service and holds its settings as they were written.  The settings are only read
when the push is put to use.
-/

namespace HostWatch

/-- The services that messages can be pushed through. -/
inductive Service where
  | webhook | ios | serverChan | bark
  deriving DecidableEq, Repr

namespace Service

/-- The service's name. -/
def name : Service → String
  | webhook => "webhook"
  | ios => "ios"
  | serverChan => "server_chan"
  | bark => "bark"

/-- All services. -/
def all : List Service := [webhook, ios, serverChan, bark]

/-- A service by its name. -/
def decode : Decoder Service := .word all name

end Service

/-- A configured push. -/
structure Push where
  /-- The service. -/
  service : Service
  /-- The name, which is also the key of the rate limit. -/
  name : String
  /-- The settings of the service. -/
  settings : Json
  deriving Repr

namespace Push

/-- The service of a push. -/
def serviceField : Field Service := .required "type" Service.decode

/-- The name of a push. -/
def nameField : Field String := .required "name" .string

/-- The settings of a push. -/
def settingsField : Field Json := .required "iface" .value

/-- Read a push. -/
def decode : Decoder Push := fun v ↦ do
  let members ← Record.members "Push"
    [serviceField.check, nameField.check, settingsField.check] v
  return {
    service := ← serviceField.get members
    name := ← nameField.get members
    settings := ← settingsField.get members }

/-- Write a push. -/
def encode (p : Push) : Json :=
  .object [("type", .string p.service.name), ("name", .string p.name), ("iface", p.settings)]

end Push

end HostWatch
