import HostWatch.Json.Value
import HostWatch.Status.Basic
import HostWatch.Text.Search
/-!
# The summary of a status

One line of text for each part of the status; a part of which nothing is known has no text.
-/

namespace HostWatch

/-- A status in one line per part. -/
structure Summary where
  /-- The machine's name. -/
  name : String
  cpu : String
  memory : String
  network : String
  disk : String
  deriving DecidableEq, Repr

namespace Summary

/-- Write a summary. -/
def encode (s : Summary) : Json :=
  .object [("name", .string s.name), ("cpu", .string s.cpu), ("mem", .string s.memory),
    ("net", .string s.network), ("disk", .string s.disk)]

end Summary

namespace Disk

/-- The filesystem is on a block device. -/
def onDevice (d : Disk) : Bool := (dropStart? "/dev".toList d.filesystem.toList).isSome

/-- The disks on block devices, each filesystem once, by its first mount; `seen` lists the
filesystems that are passed over. -/
def devicesExcept : List String → List Disk → List Disk
  | _, [] => []
  | seen, d :: rest =>
    if d.onDevice && !seen.contains d.filesystem then
      d :: devicesExcept (d.filesystem :: seen) rest
    else devicesExcept seen rest

/-- The disks on block devices, each filesystem once, by its first mount. -/
def devices (disks : List Disk) : List Disk := devicesExcept [] disks

end Disk

namespace Status

/-- Two sizes with a slash between them. -/
def sizesText (a b : Size) : String := a.text ++ " / " ++ b.text

/-- A status in one line per part. -/
def summary (s : Status) (name : String) : Summary where
  name
  cpu := match s.cpuUsage? with
    | some usage => usage.fixed 1 ++ "%"
    | none => ""
  memory := match s.memory with
    | some m => sizesText m.used m.total
    | none => ""
  network :=
    if s.network.isEmpty then ""
    else sizesText (Interface.totalReceive s.network) (Interface.totalTransmit s.network)
  disk :=
    let devices := Disk.devices s.disks
    let total := Size.sum (devices.map Disk.total)
    if total.toNat = 0 then "" else sizesText (.sum (devices.map Disk.used)) total

end Status

end HostWatch
