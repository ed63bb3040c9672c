import HostWatch.Status.Update
/-!
# The parts of a status

A pass updates each part of a status from its own section.  Every section is read to its end before
anything is changed, so one that is refused leaves its part as it was, except that the network part
remembers the time that went by.
-/

namespace HostWatch

/-- A text with seven sections has each of them. -/
theorem Section.exists_of_length_eq_seven {output : String} (h : (all output).length = 7) :
    ∃ start network cpu disks memory sensorNames sensorReadings,
      all output = [start, network, cpu, disks, memory, sensorNames, sensorReadings] := by
  match all output, h with
  | [a, b, c, d, e, f, g], _ => exact ⟨a, b, c, d, e, f, g, rfl⟩

namespace Change

variable {α : Type} {c : Change Unit} {input : Except StatusError α} {x : α} {e : StatusError}
  {edit : α → Status → Status} {s s' : Status}

/-- The change reads its input first and then cannot fail: if there is nothing to read, it fails for
the same reason before it has changed anything. -/
def ReadsFirst (c : Change Unit) (input : Except StatusError α) (edit : α → Status → Status) :
    Prop :=
  ∀ s, c.perform s = match input with
    | .ok x => (.ok (), edit x s)
    | .error e => (.error e, s)

theorem cpu_readsFirst (text : List Char) :
    ReadsFirst (cpu text) (Section.readCpu text) fun samples s ↦
      { s with cpu := Tracked.advance samples s.cpu } := by
  intro s
  unfold cpu
  cases Section.readCpu text <;> rfl

theorem network_readsFirst (text : List Char) :
    ReadsFirst (network text) (Section.readNetwork text) fun samples s ↦
      { s with network := Tracked.advance samples s.network } := by
  intro s
  unfold network
  cases Section.readNetwork text <;> rfl

theorem memory_readsFirst (text : List Char) :
    ReadsFirst (memory text) (Section.readMemory text) fun fields s ↦
      let m := Status.setFields (s.memory.getD .unknown, s.swap.getD .unknown) fields
      { s with memory := some m.1, swap := some m.2 } := by
  intro s
  unfold memory
  cases Section.readMemory text <;> rfl

theorem sensors_readsFirst (names readings : List Char) :
    ReadsFirst (sensors names readings) (Section.readSensors names readings) fun sensors s ↦
      { s with sensors } := by
  intro s
  unfold sensors
  cases Section.readSensors names readings <;> rfl

namespace ReadsFirst

theorem perform_of_ok (h : ReadsFirst c input edit) (hx : input = .ok x) (s : Status) :
    c.perform s = (.ok (), edit x s) := by
  rw [h s, hx]

theorem perform_of_error (h : ReadsFirst c input edit) (he : input = .error e) (s : Status) :
    c.perform s = (.error e, s) := by
  rw [h s, he]

/-- The change fails exactly if its input cannot be read, and leaves the status as it was. -/
theorem perform_eq_error_iff (h : ReadsFirst c input edit) :
    c.perform s = (.error e, s') ↔ s' = s ∧ input = .error e := by
  cases hinput : input with
  | ok x =>
      rw [h.perform_of_ok hinput]
      constructor
      · intro heq
        cases heq
      · rintro ⟨-, heq⟩
        cases heq
  | error e' =>
      rw [h.perform_of_error hinput, Prod.mk.injEq, Except.error.injEq, Except.error.injEq]
      constructor
      · rintro ⟨he, hs⟩
        exact ⟨hs.symm, he⟩
      · rintro ⟨hs, he⟩
        exact ⟨he, hs.symm⟩

/-- A change that fails leaves the status as it was, and its input cannot be read. -/
theorem of_fst_eq_error (h : ReadsFirst c input edit) (he : (c.perform s).1 = .error e) :
    (c.perform s).2 = s ∧ input = .error e := by
  have hpair : c.perform s = (.error e, (c.perform s).2) := Prod.ext he rfl
  exact h.perform_eq_error_iff.mp hpair

/-- What the change leaves to those after it. -/
theorem attempt_fst (h : ReadsFirst c input edit) (part : String) (s : Status) :
    (c.attempt part s).1 = (c.perform s).2 := by
  unfold attempt
  cases hinput : input with
  | ok x => rw [h.perform_of_ok hinput]
  | error e => rw [h.perform_of_error hinput]

theorem outcome_of_ok (h : ReadsFirst c input edit) (hx : input = .ok x) (s : Status) :
    (c.outcome s).map Prod.fst = .ok (edit x s) := by
  unfold outcome
  rw [h.perform_of_ok hx]
  rfl

theorem outcome_of_error (h : ReadsFirst c input edit) (he : input = .error e) (s : Status) :
    (c.outcome s).map Prod.fst = .error e := by
  unfold outcome
  rw [h.perform_of_error he]
  rfl

end ReadsFirst

end Change

namespace Status

variable {s s' : Status} {text : List Char}

/-- The processors after a section. -/
def cpuAfter (text : List Char) (cpu : List Cpu) : List Cpu :=
  match Section.readCpu text with
  | .ok samples => Tracked.advance samples cpu
  | .error _ => cpu

/-- Memory and swap after a section. -/
def memoryAfter (text : List Char) (m : Option Memory × Option Swap) :
    Option Memory × Option Swap :=
  match Section.readMemory text with
  | .ok fields =>
    let r := setFields (m.1.getD .unknown, m.2.getD .unknown) fields
    (some r.1, some r.2)
  | .error _ => m

/-- The sensors after their two sections. -/
def sensorsAfter (names readings : List Char) (sensors : List Sensor) : List Sensor :=
  match Section.readSensors names readings with
  | .ok sensors => sensors
  | .error _ => sensors

/-- A processor section that is read updates the processors only. -/
theorem applyCpu_of_ok {samples : List (String × CpuTimes)}
    (h : Section.readCpu text = .ok samples) :
    s.applyCpu text = .ok { s with cpu := Tracked.advance samples s.cpu } :=
  (Change.cpu_readsFirst text).outcome_of_ok h s

/-- A processor section that is refused is refused for the same reason. -/
theorem applyCpu_of_error {e : StatusError} (h : Section.readCpu text = .error e) :
    s.applyCpu text = .error e :=
  (Change.cpu_readsFirst text).outcome_of_error h s

/-- What a processor section leaves, read or refused. -/
theorem perform_cpu_snd (text : List Char) (s : Status) :
    ((Change.cpu text).perform s).2 = { s with cpu := cpuAfter text s.cpu } := by
  unfold cpuAfter
  rw [Change.cpu_readsFirst text s]
  cases Section.readCpu text <;> rfl

/-- What a memory section leaves, read or refused. -/
theorem perform_memory_snd (text : List Char) (s : Status) :
    ((Change.memory text).perform s).2 =
      { s with
        memory := (memoryAfter text (s.memory, s.swap)).1
        swap := (memoryAfter text (s.memory, s.swap)).2 } := by
  unfold memoryAfter
  rw [Change.memory_readsFirst text s]
  cases Section.readMemory text <;> rfl

/-- What the sensor sections leave, read or refused. -/
theorem perform_sensors_snd (names readings : List Char) (s : Status) :
    ((Change.sensors names readings).perform s).2 =
      { s with sensors := sensorsAfter names readings s.sensors } := by
  unfold sensorsAfter
  rw [Change.sensors_readsFirst names readings s]
  cases Section.readSensors names readings <;> rfl

/-- A network section that is read spans all the time since the last one that was. -/
theorem applyNetworkSince_of_ok {samples : List (String × Traffic)} (elapsed : Duration)
    (h : Section.readNetwork text = .ok samples) :
    (s.applyNetworkSince text elapsed).1 =
      { s with
        network := Tracked.advance samples s.network
        elapsed := s.carried + elapsed
        carried := .zero } := by
  unfold applyNetworkSince
  rw [(Change.network_readsFirst text).perform_of_ok h]

/-- A network section that is refused leaves its time to the next one. -/
theorem applyNetworkSince_of_error {e : StatusError} (elapsed : Duration)
    (h : Section.readNetwork text = .error e) :
    (s.applyNetworkSince text elapsed).1 = { s with carried := s.carried + elapsed } := by
  unfold applyNetworkSince
  rw [(Change.network_readsFirst text).perform_of_error h]

/-- Each part after a pass comes from its own section and from what it was. -/
theorem applySections_fst (s : Status)
    (network cpu disks memory sensorNames sensorReadings : List Char) (elapsed : Duration) :
    (s.applySections network cpu disks memory sensorNames sensorReadings elapsed).1 =
      { (s.applyNetworkSince network elapsed).1 with
        cpu := cpuAfter cpu s.cpu
        memory := (memoryAfter memory (s.memory, s.swap)).1
        swap := (memoryAfter memory (s.memory, s.swap)).2
        disks := Section.readDisks disks
        sensors := sensorsAfter sensorNames sensorReadings s.sensors } := by
  simp only [applySections, (Change.cpu_readsFirst cpu).attempt_fst,
    (Change.memory_readsFirst memory).attempt_fst,
    (Change.sensors_readsFirst sensorNames sensorReadings).attempt_fst, perform_cpu_snd,
    perform_memory_snd, perform_sensors_snd, applyDisks]
  cases h : Section.readNetwork network with
  | ok samples => rw [applyNetworkSince_of_ok elapsed h]
  | error e => rw [applyNetworkSince_of_error elapsed h]

/-- A text with seven sections is applied section by section. -/
theorem perform_output_of_seven {output : String}
    {start network cpu disks memory sensorNames sensorReadings : List Char}
    (h : Section.all output =
      [start, network, cpu, disks, memory, sensorNames, sensorReadings]) (elapsed : Duration)
    (s : Status) :
    let r := s.applySections network cpu disks memory sensorNames sensorReadings elapsed
    (Change.output output elapsed).perform s = (.ok r.2, r.1) := by
  unfold Change.output
  rw [h]
  rfl

/-- A text with more or fewer sections is refused before anything is changed. -/
theorem perform_output_of_length_ne {output : String} (h : (Section.all output).length ≠ 7)
    (elapsed : Duration) (s : Status) :
    (Change.output output elapsed).perform s =
      (.error (.sectionCount (Section.all output).length), s) := by
  unfold Change.output
  split
  case h_1 heq =>
    rw [heq] at h
    exact absurd rfl h
  case h_2 => rfl

/-- A text with seven sections is applied section by section. -/
theorem applyOutput_of_seven {output : String}
    {start network cpu disks memory sensorNames sensorReadings : List Char}
    (h : Section.all output =
      [start, network, cpu, disks, memory, sensorNames, sensorReadings]) (elapsed : Duration) :
    s.applyOutput output elapsed =
      .ok (s.applySections network cpu disks memory sensorNames sensorReadings elapsed) := by
  unfold applyOutput Change.outcome
  rw [perform_output_of_seven h]

/-- A text with more or fewer sections is refused. -/
theorem applyOutput_of_length_ne {output : String} (h : (Section.all output).length ≠ 7)
    (elapsed : Duration) :
    s.applyOutput output elapsed = .error (.sectionCount (Section.all output).length) := by
  unfold applyOutput Change.outcome
  rw [perform_output_of_length_ne h]

end Status

end HostWatch
