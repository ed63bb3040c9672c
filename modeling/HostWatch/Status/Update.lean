import HostWatch.Log
import HostWatch.Status.Section
/-!
# Applying a sampling pass

A pass changes the status in place, section by section.  A section may be refused; the pass then
goes on from whatever the section has left, and for a network section the status remembers the time
that went by.
-/

namespace HostWatch

/-- A change of the status in place.  It may fail on the way, and what it has changed until then
stays changed. -/
abbrev Change := ExceptT StatusError (StateM Status)

namespace Change

variable {α : Type}

/-- What a change comes to, and the status that it leaves. -/
def perform (c : Change α) (s : Status) : Except StatusError α × Status := (ExceptT.run c).run s

/-- The status and what a change comes to, unless it fails. -/
def outcome (c : Change α) (s : Status) : Except StatusError (Status × α) :=
  match c.perform s with
  | (.ok x, new) => .ok (new, x)
  | (.error e, _) => .error e

/-- The warning that a part of the status could not be changed. -/
def warning (part : String) (e : StatusError) : LogEntry :=
  .warn ("Failed to parse " ++ part ++ " status: " ++ e.message)

/-- Go on with what a change has left, with a warning if it failed. -/
def attempt (part : String) (c : Change Unit) (s : Status) : Status × Log :=
  match c.perform s with
  | (.ok (), new) => (new, [])
  | (.error e, left) => (left, [warning part e])

/-- Continue the processors by those of a section. -/
def cpu (text : List Char) : Change Unit := do
  let samples ← Section.readCpu text
  let previous ← modifyGet fun s ↦ (s.cpu, { s with cpu := [] })
  modify fun s ↦ { s with cpu := Tracked.advance samples previous }

/-- Continue the interfaces by those of a section. -/
def network (text : List Char) : Change Unit := do
  let samples ← Section.readNetwork text
  let previous ← modifyGet fun s ↦ (s.network, { s with network := [] })
  modify fun s ↦ { s with network := Tracked.advance samples previous }

end Change

namespace Status

/-- Memory and swap after one field; fields of other names change nothing. -/
def setField (m : Memory × Swap) (field : String × Size) : Memory × Swap :=
  let (memory, swap) := m
  let (key, size) := field
  if key = "MemTotal:" then ({ memory with total := size }, swap)
  else if key = "MemFree:" then ({ memory with free := size }, swap)
  else if key = "MemAvailable:" then ({ memory with available := size }, swap)
  else if key = "Cached:" then ({ memory with cached := size }, swap)
  else if key = "SwapTotal:" then (memory, { swap with total := size })
  else if key = "SwapFree:" then (memory, { swap with free := size })
  else if key = "SwapCached:" then (memory, { swap with cached := size })
  else (memory, swap)

/-- Memory and swap after all fields of a section.  Where no field tells the available memory, it
is what is free or cached. -/
def setFields (m : Memory × Swap) (fields : List (String × Size)) : Memory × Swap :=
  let (memory, swap) := fields.foldl setField m
  let available :=
    if fields.any fun f ↦ f.1 = "MemAvailable:" then memory.available
    else memory.free + memory.cached
  ({ memory with available, used := memory.total - available },
    { swap with used := swap.total - swap.free })

end Status

namespace Change

/-- Bring memory and swap up to a section, from a copy of what they were. -/
def memory (text : List Char) : Change Unit := do
  let s ← get
  let fields ← Section.readMemory text
  let (memory, swap) := Status.setFields (s.memory.getD .unknown, s.swap.getD .unknown) fields
  modify fun s ↦ { s with memory := some memory }
  modify fun s ↦ { s with swap := some swap }

/-- Replace the sensors by those of two sections. -/
def sensors (names readings : List Char) : Change Unit := do
  let sensors ← Section.readSensors names readings
  modify fun s ↦ { s with sensors }

end Change

namespace Status

/-- Apply the processor section. -/
def applyCpu (s : Status) (text : List Char) : Except StatusError Status :=
  ((Change.cpu text).outcome s).map Prod.fst

/-- Apply the network section. -/
def applyNetwork (s : Status) (text : List Char) : Except StatusError Status :=
  ((Change.network text).outcome s).map Prod.fst

/-- Apply the section of mounted filesystems. -/
def applyDisks (s : Status) (text : List Char) : Status :=
  { s with disks := Section.readDisks text }

/-- Apply the memory section. -/
def applyMemory (s : Status) (text : List Char) : Except StatusError Status :=
  ((Change.memory text).outcome s).map Prod.fst

/-- Apply the two sections of the temperature sensors. -/
def applySensors (s : Status) (names readings : List Char) : Except StatusError Status :=
  ((Change.sensors names readings).outcome s).map Prod.fst

/-- Apply the network section and account for the time since the last pass: an accepted section
spans all the time since the last accepted one. -/
def applyNetworkSince (s : Status) (text : List Char) (elapsed : Duration) : Status × Log :=
  match (Change.network text).perform s with
  | (.ok (), new) => ({ new with elapsed := new.carried + elapsed, carried := .zero }, [])
  | (.error e, left) =>
    ({ left with carried := left.carried + elapsed }, [Change.warning "network" e])

/-- Apply the sections of one pass. -/
def applySections (s : Status) (network cpu disks memory sensorNames sensorReadings : List Char)
    (elapsed : Duration) : Status × Log :=
  let (s, networkLog) := s.applyNetworkSince network elapsed
  let (s, cpuLog) := (Change.cpu cpu).attempt "cpu" s
  let s := s.applyDisks disks
  let (s, memoryLog) := (Change.memory memory).attempt "memory" s
  let (s, sensorLog) := (Change.sensors sensorNames sensorReadings).attempt "temperature" s
  (s, networkLog ++ cpuLog ++ memoryLog ++ sensorLog)

end Status

namespace Change

/-- Apply the text of one pass, `elapsed` after the last. -/
def output (text : String) (elapsed : Duration) : Change Log :=
  match Section.all text with
  | [_, network, cpu, disks, memory, sensorNames, sensorReadings] =>
    modifyGet fun s ↦
      (s.applySections network cpu disks memory sensorNames sensorReadings elapsed).swap
  | sections => throw (.sectionCount sections.length)

end Change

namespace Status

/-- Apply the text of one pass, `elapsed` after the last. -/
def applyOutput (s : Status) (output : String) (elapsed : Duration) :
    Except StatusError (Status × Log) :=
  (Change.output output elapsed).outcome s

end Status

end HostWatch
