import HostWatch.Calendar
import HostWatch.Log
import HostWatch.Rule.Basic
import HostWatch.Status.Basic
/-!
# Evaluating rules

A rule is evaluated in three steps: its threshold is read, its matcher picks a quantity of the
status, and the quantity is compared with the threshold.  A rule that holds yields an alert.
-/

namespace HostWatch

/-- A rule that held. -/
structure Alert where
  /-- What was watched. -/
  key : String
  /-- The quantity. -/
  value : String
  /-- When the rule held. -/
  time : String
  deriving DecidableEq, Repr

/-- The traffic that a matcher means. -/
inductive Direction where
  | received | sent | both
  deriving DecidableEq, Repr

namespace Direction

/-- The interface name in a matcher and the direction that its ending asks for. -/
def split (matcher : List Char) : List Char × Direction :=
  match dropEnd? "-out-in".toList matcher <|> dropEnd? "-in-out".toList matcher with
  | some stem => (stem, both)
  | none =>
    match dropEnd? "-in".toList matcher with
    | some stem => (stem, received)
    | none =>
      match dropEnd? "-out".toList matcher with
      | some stem => (stem, sent)
      | none => (matcher, both)

end Direction

namespace Rule

/-- The quantity, or that it is not known yet. -/
def known {α : Type} : Option α → Except RuleError α
  | some x => .ok x
  | none => .error .notReady

/-- The matcher picks nothing, for a reason. -/
def noMatch {α : Type} (r : Rule) (reason : String) : Except RuleError α :=
  .error (.invalidMatcher r.monitor r.matcher reason)

/-- A size as it is, or as its share of a whole that is not zero. -/
def sizeOrShare (kind : Kind) (value whole : Size) : Except RuleError Reading :=
  if kind = .size then .ok (.size value)
  else if whole.toNat = 0 then .error .notReady
  else .ok (.percent (percentage value.toNat whole.toNat))

/-- The place in the list of processors that a matcher means, and its name. -/
def cpuPlace (r : Rule) : Except RuleError (String × Nat) :=
  if r.matcher = "" ∨ r.matcher = "cpu" then .ok ("cpu", 0)
  else
    match (dropStart? "cpu".toList r.matcher.toList).bind readUnsigned? with
    | none => r.noMatch "expected `cpu` or `cpu<N>`"
    | some core =>
      if core + 1 < wordSize then .ok (r.matcher, core + 1)
      else r.noMatch "core index out of range"

/-- The processor in the place that the matcher means, and its name. -/
def pickCpu (r : Rule) (s : Status) : Except RuleError (String × Cpu) := do
  let (key, place) ← r.cpuPlace
  if s.cpu.isEmpty then .error .notReady
  else match s.cpu[place]? with
    | none =>
      r.noMatch ("only " ++ .ofList (decimalDigits (s.cpu.length - 1)) ++ " cores available")
    | some cpu => return (key, cpu)

/-- The usage of a processor. -/
def measureCpu (r : Rule) (s : Status) : Except RuleError (String × Reading) := do
  let (key, cpu) ← r.pickCpu s
  return (key, .percent (← known cpu.usage?))

/-- A part of the memory. -/
def measureMemory (r : Rule) (kind : Kind) (s : Status) : Except RuleError (String × Reading) := do
  let m ← known s.memory
  let value ←
    if r.matcher = "used" then .ok m.used
    else if r.matcher = "free" then .ok m.free
    else if r.matcher = "available" then .ok m.available
    else if r.matcher = "cached" then .ok m.cached
    else r.noMatch "expected one of used, free, available, cached"
  return (r.matcher ++ " of Memory", ← sizeOrShare kind value m.total)

/-- A part of the swap space. -/
def measureSwap (r : Rule) (kind : Kind) (s : Status) : Except RuleError (String × Reading) := do
  let m ← known s.swap
  let value ←
    if r.matcher = "used" then .ok m.used
    else if r.matcher = "free" then .ok m.free
    else if r.matcher = "cached" then .ok m.cached
    else r.noMatch "expected one of used, free, cached"
  return (r.matcher ++ " of Swap", ← sizeOrShare kind value m.total)

/-- The use of the first disk with the given path or filesystem. -/
def measureDisk (r : Rule) (kind : Kind) (s : Status) : Except RuleError (String × Reading) :=
  if s.disks.isEmpty then .error .notReady
  else
    match s.disks.find? fun d ↦ d.mountPath = r.matcher || d.filesystem = r.matcher with
    | none => r.noMatch "no such mount path or filesystem"
    | some d => .ok (r.matcher, if kind = .size then .size d.used else .percent d.usedPercent)

/-- The first interface of a name, or else the first whose name has the name within. -/
def findInterface? (name : List Char) (network : List Interface) : Option Interface :=
  network.find? (fun i ↦ i.name.toList = name) <|>
    network.find? fun i ↦ hasPiece name i.name.toList

/-- The interfaces that a name means: all of them, or one. -/
def pickInterfaces? (name : List Char) (network : List Interface) : Option (List Interface) :=
  if name = "all".toList then some network
  else (findInterface? name network).map fun i ↦ [i]

/-- The traffic of interfaces in a direction, in bytes so far or per second. -/
def measureTraffic (kind : Kind) (direction : Direction) (elapsed : Duration)
    (interfaces : List Interface) : Except RuleError Reading :=
  if kind = .speed then do
    let speed ← match direction with
      | .received => known (Interface.totalReceiveSpeed? elapsed interfaces)
      | .sent => known (Interface.totalTransmitSpeed? elapsed interfaces)
      | .both => do
        let received ← known (Interface.totalReceiveSpeed? elapsed interfaces)
        let sent ← known (Interface.totalTransmitSpeed? elapsed interfaces)
        .ok (received + sent)
    return .speed speed
  else
    .ok (.size (match direction with
      | .received => Interface.totalReceive interfaces
      | .sent => Interface.totalTransmit interfaces
      | .both => Interface.totalReceive interfaces + Interface.totalTransmit interfaces))

/-- The traffic of the interfaces that the matcher means. -/
def measureNetwork (r : Rule) (kind : Kind) (s : Status) :
    Except RuleError (String × Reading) := do
  let (name, direction) := Direction.split r.matcher.toList
  if name = [] then r.noMatch "missing interface name"
  else if s.network.isEmpty then .error .notReady
  else match pickInterfaces? name s.network with
    | none => r.noMatch "no interface contains this name"
    | some interfaces =>
      return (r.matcher, ← measureTraffic kind direction s.elapsed interfaces)

/-- The temperature of the first sensor whose name has the matcher within. -/
def measureSensor (r : Rule) (s : Status) : Except RuleError (String × Reading) :=
  if s.sensors.isEmpty then .error .notReady
  else
    match s.sensors.find? fun t ↦ hasPiece r.matcher.toList t.name.toList with
    | none => r.noMatch "no sensor contains this name"
    | some t => .ok (r.matcher, .temperature t.value)

/-- The quantity that the rule watches, under the name it has in alerts. -/
def measure (r : Rule) (kind : Kind) (s : Status) : Except RuleError (String × Reading) :=
  match r.monitor with
  | .cpu => r.measureCpu s
  | .mem => r.measureMemory kind s
  | .swap => r.measureSwap kind s
  | .disk => r.measureDisk kind s
  | .net => r.measureNetwork kind s
  | .temp => r.measureSensor s

/-- The alert of a rule that holds of the status now, or nothing if it does not hold. -/
def evaluate (r : Rule) (s : Status) (now : Instant) : Except RuleError (Option Alert) := do
  let threshold ← r.validate
  let (key, reading) ← r.measure threshold.kind s
  let holds ← threshold.evaluate reading
  return if holds then some ⟨key, reading.text, now.text⟩ else none

end Rule

/-- What became of a rule. -/
abbrev Verdict := Except RuleError (Option Alert)

namespace Verdict

/-- A verdict in one line. -/
def text : Verdict → String
  | .ok (some alert) => "FIRED " ++ alert.key ++ ": " ++ alert.value
  | .ok none => "ok"
  | .error .notReady => "warming up"
  | .error e => "error: " ++ e.message

end Verdict

/-- The alerts of all rules that hold, in order, and a warning for each rule that is broken, while
the clock goes on.  The clock is read whenever a rule holds. -/
def evaluateRulesOver : List Rule → Status → Clock → List Alert × Log
  | [], _, _ => ([], [])
  | r :: rest, s, clock =>
    match r.evaluate s (clock 0) with
    | .ok (some alert) =>
      let (alerts, log) := evaluateRulesOver rest s (clock.skip 1)
      (alert :: alerts, log)
    | .ok none | .error .notReady => evaluateRulesOver rest s clock
    | .error e =>
      let (alerts, log) := evaluateRulesOver rest s clock
      (alerts, .warn ("Rule " ++ r.id ++ " skipped: " ++ e.message) :: log)

/-- The alerts of all rules that hold, and a warning for each rule that is broken, at one
instant. -/
def evaluateRules (rules : List Rule) (s : Status) (now : Instant) : List Alert × Log :=
  evaluateRulesOver rules s (.stopped now)

end HostWatch
