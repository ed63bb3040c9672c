import HostWatch.Config.Basic
import HostWatch.Push.Dispatcher
import HostWatch.Status.Update
import HostWatch.Watch.Sampler
/-!
# Watching a machine

At each tick a sample is taken and applied, the rules are evaluated and their alerts are sent.  A
tick without a usable sample changes nothing.  The time that a sample spans is that since the last
sample that was applied; the first spans one interval.
-/

namespace HostWatch

/-- A machine under watch. -/
structure Watch where
  /-- The time between two ticks. -/
  interval : Duration
  /-- The rules. -/
  rules : List Rule
  /-- Where alerts go. -/
  dispatcher : Dispatcher
  /-- What is known about the machine. -/
  status : Status
  /-- When the last sample was applied. -/
  lastApplied : Option Instant

/-- What comes in at a tick. -/
structure Tick where
  /-- When the sample was taken. -/
  now : Instant
  /-- The sample, or the reason why there is none. -/
  sample : Except String String
  /-- The replies to the requests. -/
  replies : Nat → Channel.Reply

/-- What happened at a tick. -/
structure TickReport where
  /-- The requests that were made. -/
  requests : List Request
  /-- What was reported. -/
  log : Log

namespace Watch

/-- A watch before its first tick. -/
def new (interval : Duration) (rules : List Rule) (dispatcher : Dispatcher) : Watch :=
  ⟨interval, rules, dispatcher, .empty, none⟩

/-- A watch as configured, and warnings about what is not as written. -/
def ofConfig (c : Config) : Watch × Log :=
  let (rate, rateLog) := c.effectiveRate
  let (dispatcher, pushLog) := Dispatcher.new c.name c.pushes rate
  let (interval, intervalLog) := c.effectiveInterval
  (new interval c.rules dispatcher, rateLog ++ pushLog ++ intervalLog)

/-- The time that a sample spans which is taken now. -/
def elapsed (w : Watch) (now : Instant) : Duration :=
  match w.lastApplied with
  | none => w.interval
  | some last => now.since last

/-- Apply a sample that was taken now, evaluate the rules and send their alerts. -/
def apply (w : Watch) (now : Instant) (raw : String) (replies : Nat → Channel.Reply) :
    Watch × TickReport :=
  match w.status.applyOutput raw (w.elapsed now) with
  | .error e => (w, ⟨[], [.warn ("Failed to update status: " ++ e.message)]⟩)
  | .ok (status, applyLog) =>
    let (alerts, ruleLog) := evaluateRules w.rules status now
    let delivery := w.dispatcher.dispatch alerts now replies
    ({ w with status, lastApplied := some now, dispatcher := w.dispatcher.after delivery },
      ⟨delivery.requests, applyLog ++ ruleLog ++ delivery.log⟩)

/-- One tick, with the sample that was taken now or the reason why there is none. -/
def tick (w : Watch) (now : Instant) (sample : Except String String)
    (replies : Nat → Channel.Reply) : Watch × TickReport :=
  match sample with
  | .error reason => (w, ⟨[], [.warn ("Sampling failed: " ++ Sampler.errorText reason)]⟩)
  | .ok raw => w.apply now raw replies

/-- The watch after some ticks. -/
def run (w : Watch) (ticks : List Tick) : Watch :=
  ticks.foldl (fun w t ↦ (w.tick t.now t.sample t.replies).1) w

@[simp] theorem run_append (w : Watch) (ticks more : List Tick) :
    w.run (ticks ++ more) = (w.run ticks).run more := List.foldl_append

end Watch

end HostWatch
