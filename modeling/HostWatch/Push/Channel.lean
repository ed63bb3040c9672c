import HostWatch.Http.Message
import HostWatch.Push.Basic
import HostWatch.Push.Check
import HostWatch.Push.Message
/-!
# Channels

A channel is a push whose settings have been read: where a message goes and how it is written, and
what the response has to be like.
-/

namespace HostWatch

/-- Where a message goes and how it is written. -/
inductive Target where
  /-- Any address, with headers and a body of one's own. -/
  | webhook (url : String) (headers : List (String × String)) (method : Method) (body : Json)
  /-- The relay for a phone. -/
  | ios (token title content : String)
  /-- The relay that is reached by a key in the address. -/
  | serverChan (sckey title desp : String)
  /-- A server that keeps the keys of devices. -/
  | bark (server deviceKey title body : String)
  deriving Repr

/-- A push whose settings have been read. -/
structure Channel where
  /-- Where messages go. -/
  target : Target
  /-- What responses have to be like. -/
  check : ResponseCheck
  deriving Repr

/-- Why a push cannot be used, or why a message did not get through. -/
inductive PushError where
  /-- The settings cannot be read. -/
  | settings (cause : DecodeError)
  /-- The pattern for responses cannot be read. -/
  | pattern (name : String)
  /-- The response is refused. -/
  | response (cause : CheckError)
  /-- No request could be made, or there was no response. -/
  | exchange

namespace PushError

/-- The reason in words. -/
def message : PushError → String
  | settings cause => "JSON error: " ++ cause.message
  | pattern name => "Push error: " ++ name ++ ": " ++ CheckError.invalidPatternText
  | response cause => "Push error: " ++ cause.message
  | exchange => "HTTP error:"

end PushError

namespace Target

/-- The address of the relay for phones. -/
def iosUrl : String := "https://push.lolli.tech/v1/ios"

/-- The application that the relay for phones serves. -/
def iosApp : String := "com.lollipopkit.toolbox"

/-- Where the addresses of the relay with keys start. -/
def serverChanUrl : String := "https://sctapi.ftqq.com"

/-- The usual server for keys of devices. -/
def barkServer : String := "https://api.day.app"

/-! ## JSON -/

/-- The address of a webhook. -/
def urlField : Field String := .required "url" .string

/-- The headers of a webhook. -/
def headersField : Field (List (String × String)) := .optional "headers" (.map .string) []

/-- The method of a webhook. -/
def methodField : Field Method := .optional "method" (.word [.get, .post] Method.name) .post

/-- The body of a webhook. -/
def hookBodyField : Field Json := .optional "body" .value .null

/-- The token of a phone. -/
def tokenField : Field String := .required "token" .string

/-- A title. -/
def titleField : Field String := .optional "title" .string ""

/-- The message to a phone. -/
def contentField : Field String := .required "content" .string

/-- The key in the address. -/
def sckeyField : Field String := .required "sckey" .string

/-- The message behind a key. -/
def despField : Field String := .required "desp" .string

/-- The server for keys of devices. -/
def serverField : Field String := .optional "server" .string barkServer

/-- The key of a device. -/
def deviceKeyField : Field String := .required "device_key" .string

/-- The message to a device. -/
def bodyField : Field String := .required "body" .string

/-- Read the settings of a webhook. -/
def decodeWebhook (v : Json) : Except DecodeError (Target × List (String × Json)) := do
  let members ← Record.objectMembers "WebhookChannel"
    [urlField.check, headersField.check, methodField.check, hookBodyField.check] v
  let target := webhook (← urlField.get members) (← headersField.get members)
    (← methodField.get members) (← hookBodyField.get members)
  return (target, members)

/-- Read the settings for a phone. -/
def decodeIos (v : Json) : Except DecodeError (Target × List (String × Json)) := do
  let members ← Record.objectMembers "IosChannel"
    [tokenField.check, titleField.check, contentField.check] v
  let target := ios (← tokenField.get members) (← titleField.get members)
    (← contentField.get members)
  return (target, members)

/-- Read the settings for a relay with keys. -/
def decodeServerChan (v : Json) : Except DecodeError (Target × List (String × Json)) := do
  let members ← Record.objectMembers "ServerChanChannel"
    [sckeyField.check, titleField.check, despField.check] v
  let target := serverChan (← sckeyField.get members) (← titleField.get members)
    (← despField.get members)
  return (target, members)

/-- Read the settings for a server with keys of devices. -/
def decodeBark (v : Json) : Except DecodeError (Target × List (String × Json)) := do
  let members ← Record.objectMembers "BarkChannel"
    [serverField.check, deviceKeyField.check, titleField.check, bodyField.check] v
  let target := bark (← serverField.get members) (← deviceKeyField.get members)
    (← titleField.get members) (← bodyField.get members)
  return (target, members)

/-- Read the settings of a service; the members come with them. -/
def decode : Service → Json → Except DecodeError (Target × List (String × Json))
  | .webhook => decodeWebhook
  | .ios => decodeIos
  | .serverChan => decodeServerChan
  | .bark => decodeBark

/-- The members that settings are written as. -/
def members : Target → List (String × Json)
  | webhook url headers method body =>
    [("url", .string url), ("headers", .object (headers.map fun h ↦ (h.1, .string h.2))),
      ("method", .string method.name), ("body", body)]
  | ios token title content =>
    [("token", .string token), ("title", .string title), ("content", .string content)]
  | serverChan sckey title desp =>
    [("sckey", .string sckey), ("title", .string title), ("desp", .string desp)]
  | bark server deviceKey title body =>
    [("server", .string server), ("device_key", .string deviceKey), ("title", .string title),
      ("body", .string body)]

/-! ## Requests -/

/-- The address of a server for keys of devices. -/
def barkUrl (server : String) : String :=
  .ofList (server.toList.reverse.dropWhile (· = '/')).reverse ++ "/push"

/-- The target in a few words. -/
def describe : Target → String
  | webhook url _ method _ => method.name ++ " " ++ url
  | ios .. => iosUrl
  | serverChan .. => serverChanUrl ++ "/<sckey>.send"
  | bark server .. => barkUrl server

/-- What a webhook carries: nothing for null, a string as it is, all else as JSON, each with the
placeholders of its strings filled. -/
def hookBody? (body : Json) (name : String) (alerts : List Alert) : Option String :=
  match body.fillStrings name (Alert.list alerts) with
  | .null => none
  | .string s => some s
  | v => some v.compact

/-- The header of JSON. -/
def jsonHeader : String × String := ("content-type", "application/json")

/-- A title, in which alerts are left out. -/
def fillTitle (title name : String) : String := Template.fill title name ""

/-- The request for some alerts, if one can be made. -/
def request? (name : String) (alerts : List Alert) : Target → Option Request
  | webhook url headers method body =>
    Request.make? method url headers ((hookBody? body name alerts).getD "")
  | ios token title content =>
    Request.make? .post iosUrl [("AppID", iosApp), jsonHeader]
      (Json.object [("content", .string (Template.fillAlerts content name alerts)),
        ("title", .string (fillTitle title name)), ("token", .string token)]).compact
  | serverChan sckey title desp =>
    let fields := [("title", fillTitle title name), ("desp", Template.fillAlerts desp name alerts)]
    (Request.make? .get (serverChanUrl ++ "/" ++ sckey ++ ".send") [] "").map fun r ↦
      { r with url := r.url.addFields fields }
  | bark server deviceKey title body =>
    Request.make? .post (barkUrl server) [jsonHeader]
      (Json.object [("body", .string (Template.fillAlerts body name alerts)),
        ("device_key", .string deviceKey), ("title", .string (fillTitle title name))]).compact

end Target

namespace Channel

/-- Read the settings of a service. -/
def decode (service : Service) (v : Json) : Except DecodeError Channel := do
  let (target, members) ← Target.decode service v
  return ⟨target, ← ResponseCheck.decodeWithin members⟩

/-- Write a channel as settings: those of the target and of the check side by side. -/
def encode (c : Channel) : Json := .ofMembers (c.target.members ++ c.check.members)

/-- What becomes of a request: the response to it, or nothing if the connection breaks. -/
abbrev Reply := Option Response

/-- Judge the reply to a request. -/
def judge (c : Channel) : Reply → Except PushError Unit
  | none => .error .exchange
  | some response =>
    if Response.isFinal response.status then
      match c.check.verify response.status response.text with
      | .ok () => .ok ()
      | .error e => .error (.response e)
    else .error .exchange

end Channel

namespace Push

/-- Read the settings of a push.  A pattern that cannot be read is an error here already. -/
def channel (p : Push) : Except PushError Channel :=
  match Channel.decode p.service p.settings with
  | .error e => .error (.settings e)
  | .ok c =>
    match c.check.pattern? with
    | .error _ => .error (.pattern p.name)
    | .ok _ => .ok c

end Push

end HostWatch
