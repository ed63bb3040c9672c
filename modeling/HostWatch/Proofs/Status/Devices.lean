import HostWatch.Proofs.Size.Sum
import HostWatch.Proofs.Text.Piece
import HostWatch.Status.Summary
import Mathlib.Algebra.BigOperators.Group.Finset.Basic
/-!
# Filesystems that are counted once

A filesystem is listed once for each place where it is mounted, each time with its whole size.  The
summary adds up the filesystems on block devices by the first mount of each.  The first mounts are a
set, so the sums do not depend on further mounts, on filesystems that are on no device, or on the
order of filesystems that are mounted once.
-/

namespace HostWatch

namespace Disk

variable {d e : Disk} {disks other : List Disk} {seen : List String} {filesystem : String}

/-- The filesystem is on a block device: its name starts with `/dev`. -/
def OnDevice (filesystem : String) : Prop := "/dev".toList <+: filesystem.toList

instance (filesystem : String) : Decidable (OnDevice filesystem) :=
  inferInstanceAs (Decidable ("/dev".toList <+: filesystem.toList))

theorem onDevice_iff : d.onDevice = true ↔ OnDevice d.filesystem := isSome_dropStart?_iff

/-- The first mount of a filesystem. -/
def firstMount? (filesystem : String) (disks : List Disk) : Option Disk :=
  disks.find? (·.filesystem = filesystem)

/-- The first mounts of the filesystems on block devices. -/
def firstMounts (disks : List Disk) : Finset Disk :=
  disks.toFinset.filter fun d ↦ OnDevice d.filesystem ∧ firstMount? d.filesystem disks = some d

theorem mem_of_firstMount? (h : firstMount? filesystem disks = some d) : d ∈ disks :=
  List.mem_of_find?_eq_some h

theorem filesystem_of_firstMount? (h : firstMount? filesystem disks = some d) :
    d.filesystem = filesystem := by
  have hfound := List.find?_some h
  exact of_decide_eq_true hfound

/-! ## What is added up -/

theorem firstMount?_cons (filesystem : String) (e : Disk) (rest : List Disk) :
    firstMount? filesystem (e :: rest) =
      if e.filesystem = filesystem then some e else firstMount? filesystem rest := by
  rw [firstMount?, List.find?_cons]
  split
  case h_1 heq => rw [if_pos (of_decide_eq_true heq)]
  case h_2 heq => rw [if_neg (of_decide_eq_false heq), firstMount?]

theorem mem_firstMounts_iff : d ∈ firstMounts disks ↔
    OnDevice d.filesystem ∧ firstMount? d.filesystem disks = some d := by
  rw [firstMounts, Finset.mem_filter, List.mem_toFinset, and_iff_right_iff_imp]
  rintro ⟨-, hfirst⟩
  exact mem_of_firstMount? hfirst

/-- What is kept are the first mounts of the filesystems that are not passed over. -/
theorem mem_devicesExcept_iff : d ∈ devicesExcept seen disks ↔
    OnDevice d.filesystem ∧ d.filesystem ∉ seen ∧ firstMount? d.filesystem disks = some d := by
  induction disks generalizing seen with
  | nil => simp [devicesExcept, firstMount?]
  | cons e rest ih =>
      have hkept : (e.onDevice && !seen.contains e.filesystem) = true ↔
          OnDevice e.filesystem ∧ e.filesystem ∉ seen := by
        rw [Bool.and_eq_true, onDevice_iff, Bool.not_eq_true', List.contains_eq_mem,
          decide_eq_false_iff_not]
      rw [devicesExcept, firstMount?_cons]
      split
      case isTrue h =>
        obtain ⟨hdevice, hnew⟩ := hkept.mp h
        rw [List.mem_cons, ih]
        constructor
        · rintro (rfl | ⟨hd, hseen, hfirst⟩)
          · exact ⟨hdevice, hnew, if_pos rfl⟩
          · obtain ⟨hne, hold⟩ := not_or.mp (mt List.mem_cons.mpr hseen)
            exact ⟨hd, hold, (if_neg (Ne.symm hne)).trans hfirst⟩
        · rintro ⟨hd, hold, hfirst⟩
          by_cases heq : e.filesystem = d.filesystem
          · rw [if_pos heq] at hfirst
            exact .inl (Option.some.inj hfirst).symm
          · rw [if_neg heq] at hfirst
            exact .inr ⟨hd, fun hmem ↦ (List.mem_cons.mp hmem).elim (Ne.symm heq) hold, hfirst⟩
      case isFalse h =>
        rw [ih]
        refine and_congr_right fun hd ↦ and_congr_right fun hold ↦ ?_
        have hne : e.filesystem ≠ d.filesystem := fun heq ↦ h (hkept.mpr (heq ▸ ⟨hd, hold⟩))
        rw [if_neg hne]

theorem nodup_devicesExcept (seen : List String) (disks : List Disk) :
    (devicesExcept seen disks).Nodup := by
  induction disks generalizing seen with
  | nil => exact List.nodup_nil
  | cons e rest ih =>
      rw [devicesExcept]
      split
      case isTrue =>
        refine List.nodup_cons.mpr ⟨fun hmem ↦ ?_, ih _⟩
        exact (mem_devicesExcept_iff.mp hmem).2.1 List.mem_cons_self
      case isFalse => exact ih seen

theorem toFinset_devices (disks : List Disk) : (devices disks).toFinset = firstMounts disks := by
  ext d
  rw [List.mem_toFinset, devices, mem_devicesExcept_iff, mem_firstMounts_iff]
  simp only [List.not_mem_nil, not_false_eq_true, true_and]

/-- The sum of some sizes of the first mounts, exact up to the greatest size. -/
theorem sum_map_devices (bytes : Disk → Size) (disks : List Disk) :
    Size.sum ((devices disks).map bytes) = .ofNat (∑ d ∈ firstMounts disks, (bytes d).toNat) := by
  refine Size.ext_toNat ?_
  rw [Size.toNat_sum, Size.toNat_ofNat, List.map_map, ← toFinset_devices, devices,
    List.sum_toFinset _ (nodup_devicesExcept [] disks)]
  rfl

/-! ## What makes no difference -/

theorem firstMounts_congr
    (h : ∀ fs, OnDevice fs → firstMount? fs other = firstMount? fs disks) :
    firstMounts other = firstMounts disks := by
  ext d
  rw [mem_firstMounts_iff, mem_firstMounts_iff]
  exact and_congr_right fun hd ↦ by rw [h _ hd]

/-- Another mount of a filesystem that is mounted already. -/
theorem firstMounts_append_again {again : Disk}
    (h : ∃ d ∈ disks, d.filesystem = again.filesystem) :
    firstMounts (disks ++ [again]) = firstMounts disks := by
  refine firstMounts_congr fun fs _ ↦ ?_
  obtain ⟨d, hd, hsame⟩ := h
  rw [firstMount?, List.find?_append, firstMount?]
  cases hfirst : disks.find? (·.filesystem = fs) with
  | some first => rfl
  | none =>
      have hne : again.filesystem ≠ fs := fun heq ↦
        List.find?_eq_none.mp hfirst d hd (decide_eq_true (hsame.trans heq))
      rw [Option.none_or, List.find?_singleton, decide_eq_false hne]
      rfl

theorem firstMount?_filter (h : OnDevice filesystem) (disks : List Disk) :
    firstMount? filesystem (disks.filter (OnDevice ·.filesystem)) =
      firstMount? filesystem disks := by
  rw [firstMount?, List.find?_filter, firstMount?]
  congr 1
  funext d
  by_cases heq : d.filesystem = filesystem
  · simp [heq, h]
  · simp [heq]

/-- Filesystems that are on no device. -/
theorem firstMounts_of_filter_eq
    (h : other.filter (OnDevice ·.filesystem) = disks.filter (OnDevice ·.filesystem)) :
    firstMounts other = firstMounts disks :=
  firstMounts_congr fun fs hfs ↦ by rw [← firstMount?_filter hfs, h, firstMount?_filter hfs]

/-- Where no filesystem is mounted twice, each mount is the first. -/
theorem firstMount?_eq_some_iff (h : (disks.map Disk.filesystem).Nodup) :
    firstMount? filesystem disks = some d ↔ d ∈ disks ∧ d.filesystem = filesystem := by
  constructor
  · intro hfirst
    exact ⟨mem_of_firstMount? hfirst, filesystem_of_firstMount? hfirst⟩
  · rintro ⟨hd, rfl⟩
    cases hfirst : firstMount? d.filesystem disks with
    | none => exact absurd (decide_eq_true rfl) (List.find?_eq_none.mp hfirst d hd)
    | some e =>
        rw [List.inj_on_of_nodup_map h (mem_of_firstMount? hfirst) hd
          (filesystem_of_firstMount? hfirst)]

/-- Another order of filesystems none of which is mounted twice. -/
theorem firstMounts_perm (hnodup : (disks.map Disk.filesystem).Nodup) (h : other.Perm disks) :
    firstMounts other = firstMounts disks := by
  refine firstMounts_congr fun fs _ ↦ Option.ext fun d ↦ ?_
  have hother : (other.map Disk.filesystem).Nodup := (h.map Disk.filesystem).nodup_iff.mpr hnodup
  rw [firstMount?_eq_some_iff hother, firstMount?_eq_some_iff hnodup, h.mem_iff]

end Disk

/-! ## The summary -/

namespace Status

open Disk (OnDevice firstMounts)

variable {s : Status} {name : String}

theorem sizesText_ne_empty (a b : Size) : sizesText a b ≠ "" := by
  rw [sizesText, Ne, ← String.toList_inj, String.toList_append, String.toList_append]
  simp

theorem summary_disk_eq (s : Status) (name : String) : (s.summary name).disk =
    if (Size.ofNat (∑ d ∈ firstMounts s.disks, d.total.toNat)).toNat = 0 then ""
    else sizesText (.ofNat (∑ d ∈ firstMounts s.disks, d.used.toNat))
      (.ofNat (∑ d ∈ firstMounts s.disks, d.total.toNat)) := by
  dsimp only [summary]
  rw [Disk.sum_map_devices, Disk.sum_map_devices]

theorem summary_disk_eq_empty_iff :
    (s.summary name).disk = "" ↔ ∑ d ∈ firstMounts s.disks, d.total.toNat = 0 := by
  have hzero : ∀ n, (Size.ofNat n).toNat = 0 ↔ n = 0 := by
    intro n
    rw [Size.toNat_ofNat, wordMax, wordSize]
    omega
  rw [summary_disk_eq]
  split
  case isTrue h => exact iff_of_true rfl ((hzero _).mp h)
  case isFalse h => exact iff_of_false (sizesText_ne_empty _ _) (mt (hzero _).mpr h)

theorem summary_disk_congr {disks : List Disk} (h : firstMounts disks = firstMounts s.disks)
    (name : String) : ({ s with disks := disks }.summary name).disk = (s.summary name).disk := by
  rw [summary_disk_eq, summary_disk_eq, h]

/-- The text for the disks has the used and the total bytes of the filesystems on block devices,
each counted once by its first mount and each sum at most the greatest size; it is empty if and only
if there is no such byte.  A further mount of a filesystem, filesystems on no device anywhere among
the others, and the order of filesystems that are mounted once do not change it. -/
theorem summary_counts_devices_once (s : Status) (name : String) :
    (∃ used total : Size,
      used.toNat = min (∑ d ∈ firstMounts s.disks, d.used.toNat) (2 ^ 64 - 1) ∧
      total.toNat = min (∑ d ∈ firstMounts s.disks, d.total.toNat) (2 ^ 64 - 1) ∧
      (s.summary name).disk =
        if total.toNat = 0 then "" else used.text ++ " / " ++ total.text) ∧
    ((s.summary name).disk = "" ↔ ∑ d ∈ firstMounts s.disks, d.total.toNat = 0) ∧
    (∀ again, (∃ d ∈ s.disks, d.filesystem = again.filesystem) →
      ({ s with disks := s.disks ++ [again] }.summary name).disk = (s.summary name).disk) ∧
    (∀ disks, disks.filter (OnDevice ·.filesystem) = s.disks.filter (OnDevice ·.filesystem) →
      ({ s with disks := disks }.summary name).disk = (s.summary name).disk) ∧
    ∀ disks, disks.Perm s.disks → (s.disks.map Disk.filesystem).Nodup →
      ({ s with disks := disks }.summary name).disk = (s.summary name).disk := by
  refine ⟨⟨_, _, Size.toNat_ofNat _, Size.toNat_ofNat _, summary_disk_eq s name⟩,
    summary_disk_eq_empty_iff, fun again h ↦ ?_, fun disks h ↦ ?_, fun disks h hnodup ↦ ?_⟩
  · exact summary_disk_congr (Disk.firstMounts_append_again h) name
  · exact summary_disk_congr (Disk.firstMounts_of_filter_eq h) name
  · exact summary_disk_congr (Disk.firstMounts_perm hnodup h) name

/-- A filesystem of four kilobytes, a quarter of them used. -/
def quarterUsed (mountPath filesystem : String) : Disk :=
  ⟨mountPath, filesystem, ⟨4096⟩, ⟨1024⟩, ⟨3072⟩, .ofNat 25⟩

/-- Two filesystems on block devices. -/
def twoDevices : Status :=
  { empty with disks := [quarterUsed "/" "/dev/sda1", quarterUsed "/data" "/dev/sdb1"] }

/-- Neither the mount for containers nor the filesystem in memory is added, and the order is no
matter. -/
theorem summary_counts_devices_once_of_twoDevices :
    let root := quarterUsed "/" "/dev/sda1"
    let data := quarterUsed "/data" "/dev/sdb1"
    let docker := quarterUsed "/var/lib/docker" "/dev/sda1"
    let run := quarterUsed "/run" "tmpfs"
    (∃ d ∈ twoDevices.disks, d.filesystem = docker.filesystem) ∧
      ({ twoDevices with disks := [root, data, docker] }.summary "web").disk = "2.0 k / 8.0 k" ∧
      [run, root, run, data].filter (OnDevice ·.filesystem) =
        twoDevices.disks.filter (OnDevice ·.filesystem) ∧
      ({ twoDevices with disks := [run, root, run, data] }.summary "web").disk = "2.0 k / 8.0 k" ∧
      [data, root].Perm twoDevices.disks ∧ (twoDevices.disks.map Disk.filesystem).Nodup ∧
      ({ twoDevices with disks := [data, root] }.summary "web").disk = "2.0 k / 8.0 k" := by
  intro root data docker run
  obtain ⟨-, -, hagain, hoff, hperm⟩ := summary_counts_devices_once twoDevices "web"
  have htext : (twoDevices.summary "web").disk = "2.0 k / 8.0 k" := by decide +kernel
  have hmounted : ∃ d ∈ twoDevices.disks, d.filesystem = docker.filesystem :=
    ⟨root, List.mem_cons_self, rfl⟩
  have hfilter : [run, root, run, data].filter (OnDevice ·.filesystem) =
      twoDevices.disks.filter (OnDevice ·.filesystem) := by decide +kernel
  have hswap : [data, root].Perm twoDevices.disks := List.Perm.swap root data []
  have hnodup : (twoDevices.disks.map Disk.filesystem).Nodup := by decide
  exact ⟨hmounted, (hagain docker hmounted).trans htext, hfilter, (hoff _ hfilter).trans htext,
    hswap, hnodup, (hperm _ hswap hnodup).trans htext⟩

end Status

end HostWatch
