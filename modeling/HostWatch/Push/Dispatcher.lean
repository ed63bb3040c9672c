import HostWatch.Log
import HostWatch.Push.Channel
import HostWatch.RateLimit
/-!
# Sending alerts

A dispatcher sends alerts through all channels, each as often as the limiter lets its name through.
Only what got through counts for the limiter, so a channel that fails is tried again the next time.
-/

namespace HostWatch

/-- The channels under their names, and the limiter for the names. -/
structure Dispatcher where
  /-- The machine's name. -/
  server : String
  /-- The channels, in order. -/
  channels : List (String × Channel)
  /-- How often each name is let through. -/
  limiter : RateLimiter

/-- What became of a channel when its turn came. -/
inductive Fate where
  /-- It was passed over: its name has been let through too often. -/
  | limited
  /-- It was tried and failed. -/
  | failed
  /-- It was tried and had got through by then. -/
  | sent (time : Instant)
  deriving DecidableEq, Repr

/-- A channel's turn. -/
structure Turn where
  /-- The channel's name. -/
  name : String
  /-- When the limiter was asked. -/
  asked : Instant
  /-- What became of the channel. -/
  fate : Fate
  deriving DecidableEq, Repr

/-- What came of sending alerts. -/
structure Delivery where
  /-- How many channels they got through. -/
  delivered : Nat
  /-- The turns of the channels, in order. -/
  turns : List Turn
  /-- The requests that were made, in order. -/
  requests : List Request
  /-- What was reported. -/
  log : Log
  /-- The limiter afterwards. -/
  limiter : RateLimiter

namespace Dispatcher

/-- The pushes that can be used, under their names, and an error for each other one. -/
def readChannels : List Push → List (String × Channel) × Log
  | [] => ([], [])
  | p :: rest =>
    let (channels, log) := readChannels rest
    match p.channel with
    | .ok c => ((p.name, c) :: channels, log)
    | .error e => (channels, .error ("Skipping push " ++ p.name ++ ": " ++ e.message) :: log)

/-- A dispatcher for the pushes that can be used. -/
def new (server : String) (pushes : List Push) (rate : Rate) : Dispatcher × Log :=
  let (channels, log) := readChannels pushes
  (⟨server, channels, .new rate⟩, log)

/-- Send alerts through one channel.  The reply is that to the request, if one is made. -/
def sendOne (server : String) (alerts : List Alert) (c : Channel) (reply : Channel.Reply) :
    Except PushError Unit × List Request :=
  match c.target.request? server alerts with
  | none => (.error .exchange, [])
  | some request => (c.judge reply, [request])

/-- Send alerts through channels, one after another.  The clock is read when the limiter is asked
and again when a channel got through, and the requests are answered by the replies in order. -/
def sendAll (server : String) (alerts : List Alert) :
    Clock → (Nat → Channel.Reply) → List (String × Channel) → RateLimiter → Delivery
  | _, _, [], limiter => ⟨0, [], [], [], limiter⟩
  | clock, replies, (name, c) :: rest, limiter =>
    let asked := clock 0
    let (allowed, limiter) := limiter.check name asked
    if allowed then
      let (result, requests) := sendOne server alerts c (replies 0)
      let later (n : Nat) : Channel.Reply := replies (n + requests.length)
      match result with
      | .ok () =>
        let time := clock 1
        let d := sendAll server alerts (clock.skip 2) later rest (limiter.acquire name time)
        { d with
          delivered := d.delivered + 1
          turns := ⟨name, asked, .sent time⟩ :: d.turns
          requests := requests ++ d.requests }
      | .error e =>
        let d := sendAll server alerts (clock.skip 1) later rest limiter
        { d with
          turns := ⟨name, asked, .failed⟩ :: d.turns
          requests := requests ++ d.requests
          log := .warn ("Push " ++ name ++ " failed: " ++ e.message) :: d.log }
    else
      let d := sendAll server alerts (clock.skip 1) replies rest limiter
      { d with
        turns := ⟨name, asked, .limited⟩ :: d.turns
        log := .warn ("Push " ++ name ++ " rate limit reached") :: d.log }

/-- Send alerts, if there are any, while the clock goes on. -/
def dispatchOver (d : Dispatcher) (alerts : List Alert) (clock : Clock)
    (replies : Nat → Channel.Reply) : Delivery :=
  if alerts.isEmpty then ⟨0, [], [], [], d.limiter⟩
  else sendAll d.server alerts clock replies d.channels d.limiter

/-- Send alerts, if there are any, at one instant. -/
def dispatch (d : Dispatcher) (alerts : List Alert) (now : Instant)
    (replies : Nat → Channel.Reply) : Delivery :=
  d.dispatchOver alerts (.stopped now) replies

/-- The dispatcher after a delivery. -/
def after (d : Dispatcher) (delivery : Delivery) : Dispatcher :=
  { d with limiter := delivery.limiter }

end Dispatcher

end HostWatch
