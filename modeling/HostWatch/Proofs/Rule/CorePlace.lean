import HostWatch.Proofs.Rule.Verdict
import HostWatch.Proofs.Status.Parts
import HostWatch.Proofs.Text.Number
import Mathlib.Data.List.Induction
/-!
# Which core a rule reads

Processors are carried from section to section under their names, but a rule finds them by their
place: core `n` is expected one place after the cores before it.  So a rule reads the core that it
names exactly if the latest section lists that core in its place.
-/

namespace HostWatch

/-! ## Processor sections -/

namespace Status

variable {sections : List (List Char)}

/-- The status that processor sections lead to; those that are refused change nothing. -/
def ofCpuSections (sections : List (List Char)) : Status :=
  sections.foldl (fun s text ↦ (s.applyCpu text).toOption.getD s) empty

/-- The names that the latest section has which was not refused. -/
def latestNames (sections : List (List Char)) : List String :=
  ((sections.filterMap fun text ↦ (Section.readCpu text).toOption).getLast?.getD []).map Prod.fst

/-- The processors have the names of the latest section, in its order. -/
theorem map_name_ofCpuSections (sections : List (List Char)) :
    (ofCpuSections sections).cpu.map Tracked.name = latestNames sections := by
  induction sections using List.reverseRecOn with
  | nil => rfl
  | append_singleton sections text ih =>
      have hstep : ofCpuSections (sections ++ [text]) =
          ((ofCpuSections sections).applyCpu text).toOption.getD (ofCpuSections sections) :=
        List.foldl_append
      rw [hstep, latestNames, List.filterMap_append]
      cases h : Section.readCpu text with
      | ok samples =>
          have hsome : [text].filterMap (fun t ↦ (Section.readCpu t).toOption) = [samples] := by
            simp [h, Except.toOption]
          rw [applyCpu_of_ok h, hsome, List.getLast?_concat]
          exact Tracked.map_name_advance samples _
      | error e =>
          have hnone : [text].filterMap (fun t ↦ (Section.readCpu t).toOption) = [] := by
            simp [h, Except.toOption]
          rw [applyCpu_of_error h, hnone, List.append_nil]
          exact ih

/-- A processor has the name that stands in its place in the latest section. -/
theorem latestNames_getElem? {place : Nat} {cpu : Cpu}
    (h : (ofCpuSections sections).cpu[place]? = some cpu) :
    (latestNames sections)[place]? = some cpu.name := by
  rw [← map_name_ofCpuSections, List.getElem?_map, h]
  rfl

end Status

/-! ## Rules about cores -/

/-- The name of a core: `cpu` and its number in plain decimal. -/
def coreName (n : Nat) : String := .ofList ("cpu".toList ++ decimalDigits n)

theorem toList_coreName (n : Nat) : (coreName n).toList = "cpu".toList ++ decimalDigits n :=
  String.toList_ofList

/-- A core has more to its name than all cores together. -/
theorem coreName_ne (n : Nat) : ¬ (coreName n = "" ∨ coreName n = "cpu") := by
  have hlength : 3 < (coreName n).toList.length := by
    have hpos : 0 < (decimalDigits n).length := List.length_pos_iff.mpr Nat.toDigits_ne_nil
    rw [toList_coreName, List.length_append]
    exact Nat.lt_add_of_pos_right hpos
  rintro (h | h)
  · rw [h] at hlength
    exact absurd hlength (by decide)
  · rw [h] at hlength
    exact absurd hlength (by decide)

namespace Rule

/-- A rule about a core. -/
def core (threshold : String) (n : Nat) : Rule := ⟨.cpu, threshold, coreName n⟩

/-- The verdict is the one on the usage of a processor, which goes by a name. -/
def Judges (r : Rule) (key : String) (cpu : Cpu) (now : Instant) (v : Option Alert) : Prop :=
  ∃ t usage, r.validate = .ok t ∧ cpu.usage? = some usage ∧
    v = verdictOn t key (.percent usage) now

variable {r : Rule} {s : Status} {now : Instant} {v : Option Alert} {threshold key : String}
  {n : Nat} {cpu : Cpu}

/-- The number in a core's name is read back. -/
theorem readUnsigned?_coreName (n : Nat) :
    (dropStart? "cpu".toList (coreName n).toList).bind readUnsigned? =
      if n < wordSize then some n else none := by
  have hdrop : dropStart? "cpu".toList ("cpu".toList ++ decimalDigits n) =
      some (decimalDigits n) := rfl
  rw [toList_coreName, hdrop, Option.bind_some, readUnsigned?_decimalDigits]

/-- The place of a core is one after its number. -/
theorem cpuPlace_core_of_lt (threshold : String) (h : n + 1 < wordSize) :
    (core threshold n).cpuPlace = .ok (coreName n, n + 1) := by
  unfold cpuPlace
  rw [show (core threshold n).matcher = coreName n from rfl, if_neg (coreName_ne n),
    readUnsigned?_coreName, if_pos (Nat.lt_of_succ_lt h)]
  exact if_pos h

/-- A core whose number is too great has no place. -/
theorem cpuPlace_core_of_le (threshold : String) (h : wordSize ≤ n + 1) :
    ∃ e, (core threshold n).cpuPlace = .error e := by
  unfold cpuPlace
  rw [show (core threshold n).matcher = coreName n from rfl, if_neg (coreName_ne n),
    readUnsigned?_coreName]
  by_cases hread : n < wordSize
  · rw [if_pos hread]
    exact ⟨_, if_neg (Nat.not_lt.mpr h)⟩
  · rw [if_neg hread]
    exact ⟨_, rfl⟩

/-- A rule picks the processor in the place that its matcher means. -/
theorem pickCpu_eq_ok_iff :
    r.pickCpu s = .ok (key, cpu) ↔
      ∃ place, r.cpuPlace = .ok (key, place) ∧ s.cpu[place]? = some cpu := by
  unfold pickCpu
  rw [bind_eq_ok_iff]
  constructor
  · rintro ⟨⟨key', place⟩, hplace, h⟩
    by_cases hempty : s.cpu.isEmpty = true
    · simp only [if_pos hempty] at h
      cases h
    cases hget : s.cpu[place]? with
    | none =>
        simp only [if_neg hempty, hget] at h
        cases h
    | some cpu' =>
        simp only [if_neg hempty, hget] at h
        obtain ⟨rfl, rfl⟩ := Prod.mk.inj (Except.ok.inj h)
        exact ⟨place, hplace, hget⟩
  · rintro ⟨place, hplace, hget⟩
    have hne : ¬ s.cpu.isEmpty = true := by
      intro hempty
      rw [List.isEmpty_iff.mp hempty] at hget
      cases hget
    refine ⟨(key, place), hplace, ?_⟩
    simp only [if_neg hne, hget]
    rfl

/-- A rule about a core picks what stands in the core's place. -/
theorem pickCpu_core_iff :
    (core threshold n).pickCpu s = .ok (key, cpu) ↔
      n + 1 < wordSize ∧ key = coreName n ∧ s.cpu[n + 1]? = some cpu := by
  rw [pickCpu_eq_ok_iff]
  constructor
  · rintro ⟨place, hplace, hget⟩
    by_cases h : n + 1 < wordSize
    · rw [cpuPlace_core_of_lt threshold h] at hplace
      obtain ⟨rfl, rfl⟩ := Prod.mk.inj (Except.ok.inj hplace)
      exact ⟨h, rfl, hget⟩
    · obtain ⟨e, he⟩ := cpuPlace_core_of_le threshold (Nat.not_lt.mp h)
      rw [he] at hplace
      cases hplace
  · rintro ⟨h, rfl, hget⟩
    exact ⟨n + 1, cpuPlace_core_of_lt threshold h, hget⟩

/-- The quantity of a rule about processors is the usage of the processor that is picked. -/
theorem measureCpu_eq_ok_iff {reading : Reading} :
    r.measureCpu s = .ok (key, reading) ↔
      ∃ cpu usage, r.pickCpu s = .ok (key, cpu) ∧ cpu.usage? = some usage ∧
        reading = .percent usage := by
  unfold measureCpu
  rw [bind_eq_ok_iff]
  constructor
  · rintro ⟨⟨key', cpu⟩, hpick, h⟩
    obtain ⟨usage, husage, h⟩ := bind_eq_ok_iff.mp h
    obtain ⟨rfl, rfl⟩ := Prod.mk.inj (Except.ok.inj h)
    cases hknown : cpu.usage? with
    | none =>
        rw [hknown] at husage
        cases husage
    | some x =>
        rw [hknown] at husage
        obtain rfl := Except.ok.inj husage
        exact ⟨cpu, x, hpick, hknown, rfl⟩
  · rintro ⟨cpu, usage, hpick, husage, rfl⟩
    exact ⟨(key, cpu), hpick, bind_eq_ok_iff.mpr ⟨usage, by rw [husage]; rfl, rfl⟩⟩

/-- A verdict about processors is one on the usage of the processor that is picked. -/
theorem evaluate_cpu_iff (hr : r.monitor = .cpu) :
    r.evaluate s now = .ok v ↔
      ∃ key cpu, r.pickCpu s = .ok (key, cpu) ∧ r.Judges key cpu now v := by
  have hmeasure : ∀ kind, r.measure kind s = r.measureCpu s := by
    intro kind
    unfold measure
    rw [hr]
  rw [evaluate_eq_ok_iff]
  constructor
  · rintro ⟨t, key, reading, hvalid, h, -, hv⟩
    rw [hmeasure, measureCpu_eq_ok_iff] at h
    obtain ⟨cpu, usage, hpick, husage, rfl⟩ := h
    exact ⟨key, cpu, hpick, t, usage, hvalid, husage, hv⟩
  · rintro ⟨key, cpu, hpick, t, usage, hvalid, husage, hv⟩
    have hkind : t.kind = .percent := by
      have hsupports := (validate_eq_ok_iff.mp hvalid).2
      rw [hr] at hsupports
      exact of_decide_eq_true hsupports
    refine ⟨t, key, .percent usage, hvalid, ?_, hkind.symm, hv⟩
    rw [hmeasure, measureCpu_eq_ok_iff]
    exact ⟨cpu, usage, hpick, husage, rfl⟩

/-- A verdict about a core is one on the usage of what stands in the core's place. -/
theorem evaluate_core_iff :
    (core threshold n).evaluate s now = .ok v ↔
      n + 1 < wordSize ∧ ∃ cpu, s.cpu[n + 1]? = some cpu ∧
        (core threshold n).Judges (coreName n) cpu now v := by
  rw [evaluate_cpu_iff rfl]
  constructor
  · rintro ⟨key, cpu, hpick, hjudges⟩
    obtain ⟨hplace, rfl, hcpu⟩ := pickCpu_core_iff.mp hpick
    exact ⟨hplace, cpu, hcpu, hjudges⟩
  · rintro ⟨hplace, cpu, hcpu, hjudges⟩
    exact ⟨coreName n, cpu, pickCpu_core_iff.mpr ⟨hplace, rfl, hcpu⟩, hjudges⟩

/-- Where the latest section lists all cores in order, each verdict is on the core that the rule
names. -/
theorem verdict_on_core_of_complete {sections : List (List Char)} {first : String} {m : Nat}
    (h : Status.latestNames sections = first :: (List.range m).map coreName)
    (hv : (core threshold n).evaluate (Status.ofCpuSections sections) now = .ok v) :
    n < m ∧ ∃ cpu, (Status.ofCpuSections sections).cpu[n + 1]? = some cpu ∧
      cpu.name = coreName n ∧ (core threshold n).Judges (coreName n) cpu now v := by
  obtain ⟨-, cpu, hcpu, hjudges⟩ := evaluate_core_iff.mp hv
  have hname := Status.latestNames_getElem? hcpu
  rw [h, List.getElem?_cons_succ, List.getElem?_map, Option.map_eq_some_iff] at hname
  obtain ⟨k, hk, hown⟩ := hname
  obtain ⟨hlt, rfl⟩ := List.getElem?_eq_some_iff.mp hk
  rw [List.length_range] at hlt
  rw [List.getElem_range] at hown
  exact ⟨hlt, cpu, hcpu, hown.symm, hjudges⟩

/-- There is a threshold for shares. -/
theorem exists_validate_core (n : Nat) : ∃ t, (core ">=0%" n).validate = .ok t := by
  have hparse : Threshold.parse ">=0%" = .ok ⟨.percent, .ofNat 0, .ge⟩ := by decide +kernel
  exact ⟨_, validate_eq_ok_iff.mpr ⟨hparse, rfl⟩⟩

/-- A rule reads what stands in the place of its core, under the name that the latest section has
there.  So every verdict is on the core that the rule names exactly if the latest section lists that
core in its place, or else nothing there can be read.  A core that the section does not list has
verdicts as soon as what stands in its place has a usage. -/
theorem verdicts_on_core_iff (sections : List (List Char)) (n : Nat) :
    (∀ threshold now v, (core threshold n).evaluate (Status.ofCpuSections sections) now = .ok v ↔
      n + 1 < wordSize ∧ ∃ cpu, (Status.ofCpuSections sections).cpu[n + 1]? = some cpu ∧
        (Status.latestNames sections)[n + 1]? = some cpu.name ∧
        (core threshold n).Judges (coreName n) cpu now v) ∧
    ((∀ threshold now v, (core threshold n).evaluate (Status.ofCpuSections sections) now = .ok v →
        ∃ cpu, (Status.ofCpuSections sections).cpu[n + 1]? = some cpu ∧ cpu.name = coreName n ∧
          (core threshold n).Judges (coreName n) cpu now v) ↔
      (Status.latestNames sections)[n + 1]? = some (coreName n) ∨ wordSize ≤ n + 1 ∨
        ∀ cpu, (Status.ofCpuSections sections).cpu[n + 1]? = some cpu → cpu.usage? = none) ∧
    (coreName n ∉ Status.latestNames sections →
      ((∃ threshold now v,
          (core threshold n).evaluate (Status.ofCpuSections sections) now = .ok v) ↔
        n + 1 < wordSize ∧ ∃ cpu usage, (Status.ofCpuSections sections).cpu[n + 1]? = some cpu ∧
          cpu.name ≠ coreName n ∧ cpu.usage? = some usage)) := by
  have hname : ∀ cpu, (Status.ofCpuSections sections).cpu[n + 1]? = some cpu →
      (Status.latestNames sections)[n + 1]? = some cpu.name :=
    fun cpu hcpu ↦ Status.latestNames_getElem? hcpu
  obtain ⟨t, ht⟩ := exists_validate_core n
  refine ⟨fun threshold now v ↦ ?_, ⟨fun h ↦ ?_, fun h threshold now v hv ↦ ?_⟩,
    fun habsent ↦ ⟨?_, ?_⟩⟩
  · rw [evaluate_core_iff]
    constructor
    · rintro ⟨hplace, cpu, hcpu, hjudges⟩
      exact ⟨hplace, cpu, hcpu, hname cpu hcpu, hjudges⟩
    · rintro ⟨hplace, cpu, hcpu, -, hjudges⟩
      exact ⟨hplace, cpu, hcpu, hjudges⟩
  · -- A rule without a limit has a verdict on whatever has a usage.
    by_cases hplace : n + 1 < wordSize
    · by_cases hnone : ∀ cpu, (Status.ofCpuSections sections).cpu[n + 1]? = some cpu →
          cpu.usage? = none
      · exact .inr (.inr hnone)
      · simp only [not_forall] at hnone
        obtain ⟨cpu, hcpu, husage⟩ := hnone
        obtain ⟨usage, husage⟩ := Option.ne_none_iff_exists'.mp husage
        obtain ⟨cpu', hcpu', hown, -⟩ := h ">=0%" ⟨0⟩ _
          (evaluate_core_iff.mpr ⟨hplace, cpu, hcpu, t, usage, ht, husage, rfl⟩)
        rw [hname cpu' hcpu', hown]
        exact .inl rfl
    · exact .inr (.inl (Nat.not_lt.mp hplace))
  · obtain ⟨hplace, cpu, hcpu, hjudges⟩ := evaluate_core_iff.mp hv
    refine ⟨cpu, hcpu, ?_, hjudges⟩
    rcases h with h | h | h
    · rw [hname cpu hcpu] at h
      exact Option.some.inj h
    · exact absurd hplace (Nat.not_lt.mpr h)
    · obtain ⟨_, usage, -, husage, -⟩ := hjudges
      rw [h cpu hcpu] at husage
      cases husage
  · rintro ⟨threshold, now, v, hv⟩
    obtain ⟨hplace, cpu, hcpu, _, usage, -, husage, -⟩ := evaluate_core_iff.mp hv
    refine ⟨hplace, cpu, usage, hcpu, fun hown ↦ habsent ?_, husage⟩
    rw [← hown]
    exact List.mem_of_getElem? (hname cpu hcpu)
  · rintro ⟨hplace, cpu, usage, hcpu, -, husage⟩
    exact ⟨">=0%", ⟨0⟩, _, evaluate_core_iff.mpr ⟨hplace, cpu, hcpu, t, usage, ht, husage, rfl⟩⟩

/-- With the second core offline, a rule about `cpu2` tells the usage of `cpu3`. -/
theorem verdict_on_next_core :
    let s := Status.ofCpuSections
      [("cpu 300 0 0 300 0 0 0\ncpu0 100 0 0 100 0 0 0\n" ++
          "cpu2 100 0 0 100 0 0 0\ncpu3 100 0 0 100 0 0 0").toList,
        ("cpu 450 0 0 450 0 0 0\ncpu0 150 0 0 150 0 0 0\n" ++
          "cpu2 125 0 0 175 0 0 0\ncpu3 175 0 0 125 0 0 0").toList]
    (s.cpu.map fun cpu ↦ (cpu.name, cpu.usage?.map (·.fixed 2))) =
        [("cpu", some "50.00"), ("cpu0", some "50.00"), ("cpu2", some "25.00"),
          ("cpu3", some "75.00")] ∧
      (core ">=0%" 2).evaluate s ⟨0⟩ =
        .ok (some ⟨"cpu2", "75.00%", "1970-01-01 00:00:00"⟩) := by
  decide +kernel

end Rule

end HostWatch
