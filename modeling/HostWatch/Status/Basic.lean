import HostWatch.Sequence
import HostWatch.Size
/-!
# What is known about the machine

The latest readings of the machine, part by part, and the quantities derived from them.  Usage and
speeds need two samples; until then they are missing.
-/

namespace HostWatch

/-- Processor time in ticks since the machine started. -/
structure CpuTimes where
  /-- Ticks that were not idle. -/
  used : Nat
  /-- All ticks. -/
  total : Nat
  deriving DecidableEq, Repr

/-- Bytes that passed an interface since it was set up. -/
structure Traffic where
  /-- Bytes received. -/
  receive : Size
  /-- Bytes sent. -/
  transmit : Size
  deriving DecidableEq, Repr

/-- Working memory. -/
structure Memory where
  total : Size
  available : Size
  free : Size
  used : Size
  cached : Size
  deriving DecidableEq, Repr

/-- Swap space. -/
structure Swap where
  total : Size
  free : Size
  used : Size
  cached : Size
  deriving DecidableEq, Repr

/-- A mounted filesystem. -/
structure Disk where
  /-- Where it is mounted. -/
  mountPath : String
  /-- What is mounted. -/
  filesystem : String
  total : Size
  used : Size
  avail : Size
  /-- The used share in hundredths. -/
  usedPercent : Binary64
  deriving DecidableEq, Repr

/-- A temperature sensor. -/
structure Sensor where
  /-- The sensor's name. -/
  name : String
  /-- Degrees Celsius. -/
  value : Binary64
  deriving DecidableEq, Repr

/-- `part` of `whole` in hundredths. -/
def percentage (part whole : Nat) : Binary64 := .ofNat part / .ofNat whole * .ofNat 100

namespace Memory

/-- Memory of which nothing is known. -/
def unknown : Memory := ⟨.zero, .zero, .zero, .zero, .zero⟩

end Memory

namespace Swap

/-- Swap of which nothing is known. -/
def unknown : Swap := ⟨.zero, .zero, .zero, .zero⟩

end Swap

namespace CpuTimes

/-- The ticks between two samples; a counter that fell counts as unchanged. -/
def difference (new old : CpuTimes) : CpuTimes := ⟨new.used - old.used, new.total - old.total⟩

end CpuTimes

namespace Traffic

/-- No bytes. -/
def zero : Traffic := ⟨.zero, .zero⟩

/-- The bytes between two samples; a counter that fell counts as unchanged. -/
def difference (new old : Traffic) : Traffic :=
  ⟨new.receive - old.receive, new.transmit - old.transmit⟩

end Traffic

/-- A processor: `cpu` for all cores together, `cpuN` for one of them. -/
abbrev Cpu := Tracked CpuTimes

/-- A network interface. -/
abbrev Interface := Tracked Traffic

namespace Cpu

/-- The busy share between the two samples, if any time passed between them. -/
def usage? (cpu : Cpu) : Option Binary64 :=
  match cpu.samples.delta? CpuTimes.difference with
  | none => none
  | some d => if d.total = 0 then none else some (percentage d.used d.total)

end Cpu

namespace Interface

/-- Bytes received so far. -/
def receive (i : Interface) : Size := (i.samples.latest.getD .zero).receive

/-- Bytes sent so far. -/
def transmit (i : Interface) : Size := (i.samples.latest.getD .zero).transmit

/-- Bytes received per second between the two samples. -/
def receiveSpeed? (elapsed : Duration) (i : Interface) : Option Size :=
  (i.samples.delta? Traffic.difference).map fun d ↦ .perSecond d.receive elapsed

/-- Bytes sent per second between the two samples. -/
def transmitSpeed? (elapsed : Duration) (i : Interface) : Option Size :=
  (i.samples.delta? Traffic.difference).map fun d ↦ .perSecond d.transmit elapsed

/-! ### Several interfaces together -/

/-- Bytes received by all. -/
def totalReceive (all : List Interface) : Size := .sum (all.map receive)

/-- Bytes sent by all. -/
def totalTransmit (all : List Interface) : Size := .sum (all.map transmit)

/-- Bytes received per second by all, if each has two samples. -/
def totalReceiveSpeed? (elapsed : Duration) (all : List Interface) : Option Size :=
  (all.mapM (receiveSpeed? elapsed)).map Size.sum

/-- Bytes sent per second by all, if each has two samples. -/
def totalTransmitSpeed? (elapsed : Duration) (all : List Interface) : Option Size :=
  (all.mapM (transmitSpeed? elapsed)).map Size.sum

end Interface

/-- What is known about the machine. -/
structure Status where
  /-- All cores together first, then each core. -/
  cpu : List Cpu
  memory : Option Memory
  swap : Option Swap
  disks : List Disk
  network : List Interface
  sensors : List Sensor
  /-- The time between the two network samples. -/
  elapsed : Duration
  /-- The time of the passes since then whose network section was refused. -/
  carried : Duration
  deriving DecidableEq, Repr

namespace Status

/-- Nothing is known. -/
def empty : Status := ⟨[], none, none, [], [], [], .zero, .zero⟩

instance : Inhabited Status := ⟨empty⟩

/-- The busy share of all cores together. -/
def cpuUsage? (s : Status) : Option Binary64 := s.cpu.head?.bind Cpu.usage?

end Status

end HostWatch
