import HostWatch.Status.Basic
import HostWatch.Text.Search
/-!
# Sections of a sampling pass

One pass over the machine yields seven sections of text.  This module reads the lines of each
section; what they mean for the status is decided elsewhere.
-/

namespace HostWatch

/-- The sections whose lines can be refused. -/
inductive SectionName where
  | network | cpu | memory | temperature
  deriving DecidableEq, Repr

namespace SectionName

/-- The section's name in messages. -/
def name : SectionName → String
  | network => "network"
  | cpu => "cpu"
  | memory => "memory"
  | temperature => "temperature"

end SectionName

/-- Why the text of a pass is refused. -/
inductive StatusError where
  /-- There are not seven sections. -/
  | sectionCount (found : Nat)
  /-- Temperatures and their names do not pair up. -/
  | sensorCount (names readings : Nat)
  /-- A line has the wrong shape. -/
  | line (inSection : SectionName) (text : String)
  /-- A field should be a number. -/
  | number (inSection : SectionName) (text : String)
  deriving DecidableEq, Repr

namespace StatusError

/-- The reason in words. -/
def message : StatusError → String
  | sectionCount found =>
    "invalid shell output: expected 7 segments, got " ++ .ofList (decimalDigits found)
  | sensorCount names readings =>
    "invalid shell output: " ++ .ofList (decimalDigits names) ++ " thermal zone types but " ++
      .ofList (decimalDigits readings) ++ " temperatures"
  | line inSection text => "invalid " ++ inSection.name ++ " line: " ++ quoted text
  | number inSection text =>
    "invalid number " ++ quoted text ++ " in " ++ inSection.name ++ " section"

end StatusError

namespace Section

/-- The marker between sections. -/
def marker : List Char := "SrvBox".toList

/-- The sections of a text, without the blanks around them. -/
def all (output : String) : List (List Char) := (splitAtPiece marker output.toList).map trim

/-- The lines of a section without the blanks around them. -/
def trimmedLines (text : List Char) : List (List Char) := (lines text).map trim

/-- A counter of 64 bits. -/
def readCounter (inSection : SectionName) (field : List Char) : Except StatusError Nat :=
  match readUnsigned? field with
  | some n => .ok n
  | none => .error (.number inSection (.ofList field))

/-- The busy and total ticks of a processor: a name and at least seven counters, of which the
fourth is the idle time.  The sum of the seven is kept in 64 bits and starts over beyond them; where
it comes to less than the idle ticks, no tick counts as busy. -/
def readCpuLine (line : List Char) : Except StatusError (String × CpuTimes) := do
  match words line with
  | name :: user :: nice :: system :: idle :: iowait :: irq :: softirq :: _ =>
    let counters ← [user, nice, system, idle, iowait, irq, softirq].mapM (readCounter .cpu)
    let total := counters.foldl (· + ·) 0 % wordSize
    let idle ← readCounter .cpu idle
    return (.ofList name, ⟨total - idle, total⟩)
  | _ => .error (.line .cpu (.ofList line))

/-- The processors of a section. -/
def readCpu (text : List Char) : Except StatusError (List (String × CpuTimes)) :=
  ((trimmedLines text).filter fun line ↦ (dropStart? "cpu".toList line).isSome).mapM readCpuLine

/-- The traffic of an interface: a name up to a colon and sixteen counters, of which the first
counts received bytes and the ninth sent ones. -/
def readInterfaceLine (line : List Char) : Except StatusError (String × Traffic) :=
  match splitFirst ':' line with
  | none => .error (.line .network (.ofList line))
  | some (name, counters) =>
    match words counters with
    | [received, _, _, _, _, _, _, _, sent, _, _, _, _, _, _, _] => do
      let receive ← readCounter .network received
      let transmit ← readCounter .network sent
      return (.ofList (trim name), ⟨.ofNat receive, .ofNat transmit⟩)
    | _ => .error (.line .network (.ofList line))

/-- The interfaces of a section, below two lines of headings. -/
def readNetwork (text : List Char) : Except StatusError (List (String × Traffic)) :=
  ((((lines text).drop 2).map trim).filter (· ≠ [])).mapM readInterfaceLine

/-- A mounted filesystem: its name, three sizes, a share and its path. -/
def readDiskLine? (line : List Char) : Option Disk :=
  match words line with
  | [filesystem, total, used, avail, _, mountPath] => do
    let total ← (Size.parse (.ofList total)).toOption
    let used ← (Size.parse (.ofList used)).toOption
    let avail ← (Size.parse (.ofList avail)).toOption
    return {
      mountPath := .ofList mountPath
      filesystem := .ofList filesystem
      total, used, avail
      usedPercent := if total.toNat = 0 then .zero else percentage used.toNat total.toNat }
  | _ => none

/-- The filesystems of a section, below one line of headings; other lines are passed over. -/
def readDisks (text : List Char) : List Disk :=
  ((((lines text).drop 1).map trim).filter (· ≠ [])).filterMap readDiskLine?

/-- A field of the memory section: its name and its value, which is written in units of 1024
bytes. -/
def readMemoryLine (line : List Char) : Except StatusError (String × Size) :=
  match words line with
  | key :: value :: _ => do
    let units ← readCounter .memory value
    return (.ofList key, .ofNat (units * 1024))
  | _ => .error (.line .memory (.ofList line))

/-- The fields of the memory section. -/
def readMemory (text : List Char) : Except StatusError (List (String × Size)) :=
  ((trimmedLines text).filter (· ≠ [])).mapM readMemoryLine

/-- What stands in the place of sensor names on a machine without sensors. -/
def noSensors : List Char := "/sys/class/thermal/thermal_zone*/type".toList

/-- A sensor and its temperature, which is written in thousandths of a degree. -/
def readSensor (name reading : List Char) : Except StatusError Sensor :=
  match readFloat? reading with
  | some x => .ok ⟨.ofList name, x / .ofNat 1000⟩
  | none => .error (.number .temperature (.ofList reading))

/-- The sensors named in one section with the temperatures listed in another. -/
def readSensors (names readings : List Char) : Except StatusError (List Sensor) :=
  if hasPiece noSensors names || names.isEmpty then .ok []
  else
    let names := trimmedLines names
    let readings := trimmedLines readings
    if names.length ≠ readings.length then .error (.sensorCount names.length readings.length)
    else (names.zip readings).mapM fun s ↦ readSensor s.1 s.2

end Section

end HostWatch
