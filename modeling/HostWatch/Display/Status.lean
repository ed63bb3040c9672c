import HostWatch.Display.Message
import HostWatch.Rule.Evaluate
import HostWatch.Status.Summary
/-!
# The status on the terminal

The parts of the machine with bars for what is busy, and what became of each rule.
-/

namespace HostWatch

namespace Display

/-- The share from which on a bar warns. -/
def highUsage : Binary64 := .ofNat 70

/-- The share from which on a bar alarms. -/
def criticalUsage : Binary64 := .ofNat 85

/-- The color of a share. -/
def usageColor (percent : Binary64) : Color :=
  if criticalUsage.le percent then .red
  else if highUsage.le percent then .yellow
  else .green

/-- A share within its bounds, zero and a hundred. -/
def clampPercent (percent : Binary64) : Binary64 :=
  if percent.lt .zero then .zero
  else if Binary64.lt (.ofNat 100) percent then .ofNat 100
  else percent

/-- How many of the places of a bar are filled. -/
def filledPlaces (percent : Binary64) (width : Nat) : Nat :=
  (clampPercent percent / .ofNat 100 * .ofNat width).truncate width

/-- A bar of a width, filled as far as the share goes. -/
def usageBar (colors : Bool) (percent : Binary64) (width : Nat) : String :=
  let filled := filledPlaces percent width
  let places := List.replicate filled '█' ++ List.replicate (width - filled) '░'
  "[" ++ paint colors (.ofColor (usageColor percent)) (.ofList places) ++ "]"

/-- The width of the bars of a status. -/
def barWidth : Nat := 20

/-- Stands for what is not known. -/
def unknown (colors : Bool) : String := paint colors .dimmed "n/a"

/-- A text, or what stands for one that is not known. -/
def orUnknown (colors : Bool) (text : String) : String :=
  if text = "" then unknown colors else text

/-- A share and its bar. -/
def usage (colors : Bool) (percent : Binary64) (text : String) : String :=
  usageBar colors percent barWidth ++ " " ++ text

/-- The line of one core. -/
def core (colors : Bool) (c : Cpu) : String :=
  line ("  " ++ padRight 6 c.name ++ " " ++ match c.usage? with
    | some percent => usage colors percent (percent.fixed 1 ++ "%")
    | none => unknown colors)

/-- The line of one disk. -/
def disk (d : Disk) : String :=
  line ("  " ++ padRight 20 d.mountPath ++ " " ++ padRight 12 d.filesystem ++ " " ++
    Status.sizesText d.used d.total ++ " (" ++ d.usedPercent.fixed 1 ++ "%)")

/-- The line of one sensor. -/
def sensor (t : Sensor) : String :=
  line ("  " ++ padRight 20 t.name ++ " " ++ t.value.fixed 1 ++ "°C")

/-- A section with a line for each of several things; without any there is no section. -/
def listed {α : Type} (colors : Bool) (heading : String) (item : α → String) :
    List α → String
  | [] => ""
  | all => title colors heading ++ String.join (all.map item)

/-- The lines of a summary. -/
def overview (colors : Bool) (summary : Summary) (s : Status) : String :=
  let cpu := match s.cpuUsage? with
    | some percent => usage colors percent summary.cpu
    | none => orUnknown colors summary.cpu
  title colors ("Server: " ++ summary.name) ++
    line ("  CPU:     " ++ cpu) ++
    line ("  Memory:  " ++ orUnknown colors summary.memory) ++
    line ("  Network: " ++ orUnknown colors summary.network ++ " " ++
      paint colors .dimmed "(rx / tx)") ++
    line ("  Disk:    " ++ orUnknown colors summary.disk)

/-- A status; the first processor stands for all cores together and is part of the summary. -/
def status (colors : Bool) (summary : Summary) (s : Status) : String :=
  overview colors summary s ++ listed colors "Cores" (core colors) s.cpu.tail ++
    listed colors "Disks" disk s.disks ++ listed colors "Temperatures" sensor s.sensors

/-- The style of a verdict. -/
def verdictStyle : Verdict → Style
  | .ok (some _) => .boldIn .red
  | .ok none => .ofColor .green
  | .error .notReady => .dimmed
  | .error _ => .ofColor .yellow

/-- The line of a rule and what became of it. -/
def verdict (colors : Bool) (r : Rule) (v : Verdict) : String :=
  line ("  " ++ padRight 32 r.text ++ " " ++ paint colors (verdictStyle v) (Verdict.text v))

/-- The rules and what became of them. -/
def verdicts (colors : Bool) (rules : List Rule) (s : Status) (now : Instant) : String :=
  title colors "Rules" ++
    if rules.isEmpty then line ("  " ++ paint colors .dimmed "No rules configured")
    else String.join (rules.map fun r ↦ verdict colors r (r.evaluate s now))

end Display

end HostWatch
