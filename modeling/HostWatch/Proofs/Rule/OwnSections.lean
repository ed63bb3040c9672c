import HostWatch.Proofs.Status.Parts
import HostWatch.Rule.Evaluate
import Mathlib.Data.List.Forall2
/-!
# What a rule depends on

A rule looks at one part of the status, and a pass updates that part from one section or two.  Two
runs of passes that agree on these sections may differ in everything else: the rule has the same
verdict after each pass of either.
-/

namespace HostWatch

namespace Monitor

/-- The places of the sections that a monitor is fed from. -/
def sections : Monitor → List Nat
  | net => [1]
  | cpu => [2]
  | disk => [3]
  | mem | swap => [4]
  | temp => [5, 6]

end Monitor

/-- A pass as it comes in. -/
structure Pass where
  /-- The text of all sections. -/
  text : String
  /-- The time since the last pass. -/
  elapsed : Duration

namespace Pass

/-- Both passes have seven sections or neither has, and a monitor cannot tell them apart. -/
structure AgreesFor (m : Monitor) (p q : Pass) : Prop where
  elapsed : p.elapsed = q.elapsed
  length_iff : (Section.all p.text).length = 7 ↔ (Section.all q.text).length = 7
  own : (Section.all p.text).length = 7 →
    ∀ i ∈ m.sections, (Section.all p.text)[i]? = (Section.all q.text)[i]?

end Pass

namespace Status

variable {m : Monitor} {s t : Status} {p q : Pass}

/-- The status that a pass leaves, whether its text is refused or not. -/
def passed (s : Status) (p : Pass) : Status := ((Change.output p.text p.elapsed).perform s).2

/-- The status after some passes. -/
def afterPasses (passes : List Pass) : Status := passes.foldl passed empty

/-- The part of the status that a monitor looks at is the same, with what it is updated from. -/
def SameFor : Monitor → Status → Status → Prop
  | .cpu, s, t => s.cpu = t.cpu
  | .mem, s, t | .swap, s, t => (s.memory, s.swap) = (t.memory, t.swap)
  | .disk, s, t => s.disks = t.disks
  | .net, s, t => s.network = t.network ∧ s.elapsed = t.elapsed ∧ s.carried = t.carried
  | .temp, s, t => s.sensors = t.sensors

theorem SameFor.refl (m : Monitor) (s : Status) : SameFor m s s := by
  cases m with
  | net => exact ⟨rfl, rfl, rfl⟩
  | _ => exact rfl

/-- The network part after a pass follows from that before, the section and the time. -/
theorem SameFor.applyNetworkSince (h : SameFor .net s t) (text : List Char) (elapsed : Duration) :
    SameFor .net (s.applyNetworkSince text elapsed).1 (t.applyNetworkSince text elapsed).1 := by
  obtain ⟨hnetwork, helapsed, hcarried⟩ := h
  cases hread : Section.readNetwork text with
  | ok samples =>
      rw [applyNetworkSince_of_ok elapsed hread, applyNetworkSince_of_ok elapsed hread]
      exact ⟨by rw [hnetwork], by rw [hcarried], rfl⟩
  | error e =>
      rw [applyNetworkSince_of_error elapsed hread, applyNetworkSince_of_error elapsed hread]
      exact ⟨hnetwork, helapsed, by rw [hcarried]⟩

/-- Passes that a monitor cannot tell apart keep the part that it looks at the same. -/
theorem SameFor.passed (h : SameFor m s t) (hpass : Pass.AgreesFor m p q) :
    SameFor m (s.passed p) (t.passed q) := by
  unfold Status.passed
  by_cases hlength : (Section.all p.text).length = 7
  · have hlength' := hpass.length_iff.mp hlength
    have hown := hpass.own hlength
    obtain ⟨_, network, cpu, disks, memory, names, readings, hp⟩ :=
      Section.exists_of_length_eq_seven hlength
    obtain ⟨_, network', cpu', disks', memory', names', readings', hq⟩ :=
      Section.exists_of_length_eq_seven hlength'
    rw [perform_output_of_seven hp, perform_output_of_seven hq, hpass.elapsed]
    rw [hp, hq] at hown
    simp only [applySections_fst]
    cases m with
    | cpu =>
        obtain rfl : cpu = cpu' := by simpa [Monitor.sections] using hown
        exact congrArg (cpuAfter cpu) h
    | mem | swap =>
        obtain rfl : memory = memory' := by simpa [Monitor.sections] using hown
        exact congrArg (memoryAfter memory) h
    | disk =>
        obtain rfl : disks = disks' := by simpa [Monitor.sections] using hown
        exact rfl
    | net =>
        obtain rfl : network = network' := by simpa [Monitor.sections] using hown
        exact h.applyNetworkSince network q.elapsed
    | temp =>
        obtain ⟨rfl, rfl⟩ : names = names' ∧ readings = readings' := by
          simpa [Monitor.sections] using hown
        exact congrArg (sensorsAfter names readings) h
  · have hlength' := fun h7 ↦ hlength (hpass.length_iff.mpr h7)
    rw [perform_output_of_length_ne hlength, perform_output_of_length_ne hlength']
    exact h

/-- Runs that a monitor cannot tell apart keep the part that it looks at the same. -/
theorem SameFor.foldl_passed {passes others : List Pass} (h : SameFor m s t)
    (hpasses : List.Forall₂ (Pass.AgreesFor m) passes others) :
    SameFor m (passes.foldl Status.passed s) (others.foldl Status.passed t) := by
  induction hpasses generalizing s t with
  | nil => exact h
  | cons hpass _ ih => exact ih (h.passed hpass)

end Status

namespace Rule

variable {r : Rule} {s t : Status}

/-- The quantity that a rule watches is in the part that its monitor looks at. -/
theorem measure_eq_of_sameFor (h : Status.SameFor r.monitor s t) (kind : Kind) :
    r.measure kind s = r.measure kind t := by
  unfold measure
  cases hmonitor : r.monitor with
  | cpu =>
      rw [hmonitor] at h
      have hcpu : s.cpu = t.cpu := h
      simp only [measureCpu, pickCpu, hcpu]
  | mem =>
      rw [hmonitor] at h
      have hmemory : s.memory = t.memory := (Prod.mk.inj h).1
      simp only [measureMemory, hmemory]
  | swap =>
      rw [hmonitor] at h
      have hswap : s.swap = t.swap := (Prod.mk.inj h).2
      simp only [measureSwap, hswap]
  | disk =>
      rw [hmonitor] at h
      have hdisks : s.disks = t.disks := h
      simp only [measureDisk, hdisks]
  | net =>
      rw [hmonitor] at h
      obtain ⟨hnetwork, helapsed, -⟩ := h
      simp only [measureNetwork, hnetwork, helapsed]
  | temp =>
      rw [hmonitor] at h
      have hsensors : s.sensors = t.sensors := h
      simp only [measureSensor, hsensors]

/-- After each pass of two runs that agree on the sections of its monitor a rule has the same
verdict, whatever the other sections hold and whether they are refused. -/
theorem verdicts_follow_own_sections (r : Rule) (passes others : List Pass)
    (h : List.Forall₂ (Pass.AgreesFor r.monitor) passes others) (n : Nat) (now : Instant) :
    r.evaluate (Status.afterPasses (passes.take n)) now =
      r.evaluate (Status.afterPasses (others.take n)) now := by
  have hsame : Status.SameFor r.monitor (Status.afterPasses (passes.take n))
      (Status.afterPasses (others.take n)) :=
    (Status.SameFor.refl r.monitor .empty).foldl_passed (List.forall₂_take n h)
  unfold evaluate
  simp only [measure_eq_of_sameFor hsame]

/-- The usage of the processors is told alike with an interface or a refused network section, before
and after a text that has no sections. -/
theorem verdicts_follow_own_sections_over_refusals :
    let pass : String → String → Pass := fun network cpu ↦
      ⟨"SrvBox" ++ network ++ "SrvBox" ++ cpu ++ "SrvBoxSrvBoxSrvBoxSrvBox", ⟨5⟩⟩
    let r : Rule := ⟨.cpu, ">=50%", "cpu"⟩
    let passes := [pass "" "cpu 1 0 0 1 0 0 0", ⟨"", ⟨5⟩⟩, pass "" "cpu 4 0 0 2 0 0 0"]
    let others := [pass "\n\nlo: 1" "cpu 1 0 0 1 0 0 0", ⟨"lo", ⟨5⟩⟩,
      pass "\n\nlo: 7 0 0 0 0 0 0 0 7 0 0 0 0 0 0 0" "cpu 4 0 0 2 0 0 0"]
    List.Forall₂ (Pass.AgreesFor r.monitor) passes others ∧
      r.evaluate (Status.afterPasses (others.take 3)) ⟨0⟩ =
        .ok (some ⟨"cpu", "75.00%", "1970-01-01 00:00:00"⟩) := by
  intro pass r passes others
  have h : List.Forall₂ (Pass.AgreesFor r.monitor) passes others :=
    .cons ⟨rfl, by decide +kernel, by decide +kernel⟩
      (.cons ⟨rfl, by decide +kernel, by decide +kernel⟩
        (.cons ⟨rfl, by decide +kernel, by decide +kernel⟩ .nil))
  refine ⟨h, ?_⟩
  rw [← verdicts_follow_own_sections r passes others h 3 ⟨0⟩]
  decide +kernel

end Rule

end HostWatch
