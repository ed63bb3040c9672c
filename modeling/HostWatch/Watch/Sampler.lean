import HostWatch.Files.Location
import HostWatch.Files.Tree
import HostWatch.Log
import HostWatch.Text.Blank
import HostWatch.Text.Encoding
import HostWatch.Text.Quoted
/-!
# Sampling

A script prints what is read off the machine, section by section.  It is put beside the
configuration, and the last text that it printed is kept there too.  Whatever it prints counts, even
if it fails in the end.
-/

namespace HostWatch

namespace Sampler

/-- The script. -/
def script : String :=
  String.join (List.map (· ++ "\n")
    ["#!/bin/sh",
      "# Prints one section per source, separated by a line containing SrvBox.",
      "",
      "echo SrvBox",
      "cat /proc/net/dev",
      "echo SrvBox",
      "grep cpu /proc/stat",
      "echo SrvBox",
      "df -h",
      "echo SrvBox",
      "grep -E '^(Mem|Swap|Cached)' /proc/meminfo",
      "echo SrvBox",
      "cat /sys/class/thermal/thermal_zone*/type 2>&1",
      "echo SrvBox",
      "cat /sys/class/thermal/thermal_zone*/temp 2>&1"])

/-- The file of the script. -/
def scriptName : String := "monitor.sh"

/-- The file of the last text. -/
def outputName : String := "shell_output.log"

/-- What a run of the script printed. -/
structure Output where
  /-- The sample. -/
  stdout : List UInt8
  /-- Complaints. -/
  stderr : List UInt8

/-- The text of a sample, or the complaints if there is none. -/
def Output.text? (o : Output) : Except String String :=
  if o.stdout.isEmpty then
    .error ("script produced no output: " ++ .ofList (trim (decodeBytes o.stderr)))
  else .ok (.ofList (decodeBytes o.stdout))

/-- Why there is no sample, in words. -/
def errorText (reason : String) : String := "Sampler error: " ++ reason

/-- Put the script into a directory. -/
def install? (l : Location) (t : FileTree) : Option FileTree :=
  (t.makeDirectory? l).bind fun t ↦ t.writeText? (l.child scriptName) script

/-- Take a sample and keep its text in a directory; a text that cannot be kept is only reported. -/
def sample (l : Location) (o : Output) (t : FileTree) : Except String String × FileTree × Log :=
  match o.text? with
  | .error reason => (.error reason, t, [])
  | .ok text =>
    let output := l.child outputName
    match t.writeText? output text with
    | some t => (.ok text, t, [])
    | none => (.ok text, t, [.warn ("Failed to write " ++ quoted output.text)])

end Sampler

end HostWatch
