import HostWatch.Proofs.Status.Parts
/-!
# What is refused changes nothing

A section is refused at its first line that cannot be read, after any number of lines that can.
Nothing has been changed by then, so the status is as it was in every field.  A pass whose text has
seven sections is never refused: it changes each part as the part's own section alone does, and a
part whose section is refused keeps its value while the others are updated.
-/

namespace HostWatch

/-! ## The first line that is refused -/

namespace Section

variable {α β : Type} {read : β → Except StatusError α} {items : List β} {e : StatusError}

/-- The first item that cannot be read is refused for this reason. -/
def FirstRefused (read : β → Except StatusError α) (items : List β) (e : StatusError) : Prop :=
  ∃ before item after, items = before ++ item :: after ∧
    (∀ x ∈ before, ∃ y, read x = .ok y) ∧ read item = .error e

theorem not_firstRefused_nil : ¬ FirstRefused read [] e := by
  rintro ⟨before, item, after, h, -⟩
  exact List.append_ne_nil_of_right_ne_nil before (List.cons_ne_nil item after) h.symm

/-- An item that is read leaves the refusal to those after it. -/
theorem firstRefused_cons_of_ok {x : β} {y : α} (h : read x = .ok y) :
    FirstRefused read (x :: items) e ↔ FirstRefused read items e := by
  constructor
  · rintro ⟨before, item, after, heq, hbefore, hitem⟩
    cases before with
    | nil =>
        obtain ⟨rfl, -⟩ := List.cons.inj heq
        rw [h] at hitem
        cases hitem
    | cons _ before =>
        obtain ⟨rfl, rfl⟩ := List.cons.inj heq
        exact ⟨before, item, after, rfl, fun z hz ↦ hbefore z (List.mem_cons_of_mem _ hz), hitem⟩
  · rintro ⟨before, item, after, rfl, hbefore, hitem⟩
    refine ⟨x :: before, item, after, rfl, fun z hz ↦ ?_, hitem⟩
    rcases List.mem_cons.mp hz with rfl | hz
    · exact ⟨y, h⟩
    · exact hbefore z hz

/-- An item that is refused decides, whatever comes after it. -/
theorem firstRefused_cons_of_error {x : β} {e' : StatusError} (h : read x = .error e') :
    FirstRefused read (x :: items) e ↔ e' = e := by
  constructor
  · rintro ⟨before, item, after, heq, hbefore, hitem⟩
    cases before with
    | nil =>
        obtain ⟨rfl, -⟩ := List.cons.inj heq
        rw [h] at hitem
        exact Except.error.inj hitem
    | cons z before =>
        obtain ⟨rfl, -⟩ := List.cons.inj heq
        obtain ⟨y, hy⟩ := hbefore x List.mem_cons_self
        rw [h] at hy
        cases hy
  · rintro rfl
    exact ⟨[], x, items, rfl, fun z hz ↦ absurd hz List.not_mem_nil, h⟩

/-- Reading a list fails for the reason of the first item that is refused. -/
theorem mapM_eq_error_iff : items.mapM read = .error e ↔ FirstRefused read items e := by
  induction items with
  | nil =>
      constructor
      · intro h
        cases h
      · intro h
        exact absurd h not_firstRefused_nil
  | cons x rest ih =>
      rw [List.mapM_cons]
      cases hx : read x with
      | error e' =>
          rw [firstRefused_cons_of_error hx]
          exact Except.error.injEq e' e ▸ Iff.rfl
      | ok y =>
          rw [firstRefused_cons_of_ok hx, ← ih]
          cases rest.mapM read with
          | ok ys =>
              constructor <;> intro h <;> cases h
          | error e' => exact Iff.rfl

/-- The lines of a processor section that are read. -/
def cpuLines (text : List Char) : List (List Char) :=
  (trimmedLines text).filter fun line ↦ (dropStart? "cpu".toList line).isSome

/-- The lines of a network section that are read. -/
def interfaceLines (text : List Char) : List (List Char) :=
  (((lines text).drop 2).map trim).filter (· ≠ [])

/-- The lines of a memory section that are read. -/
def memoryLines (text : List Char) : List (List Char) := (trimmedLines text).filter (· ≠ [])

/-- The sensor sections are refused for this reason: they do not pair up, or a temperature is not a
number. -/
def SensorsRefused (names readings : List Char) (e : StatusError) : Prop :=
  let names' := trimmedLines names
  let readings' := trimmedLines readings
  hasPiece noSensors names = false ∧ names ≠ [] ∧
    (names'.length ≠ readings'.length ∧ e = .sensorCount names'.length readings'.length ∨
      names'.length = readings'.length ∧
        FirstRefused (fun s ↦ readSensor s.1 s.2) (names'.zip readings') e)

theorem readSensors_eq_error_iff {names readings : List Char} :
    readSensors names readings = .error e ↔ SensorsRefused names readings e := by
  unfold readSensors SensorsRefused
  cases hasPiece noSensors names with
  | true =>
      constructor
      · intro h
        cases h
      · rintro ⟨h, -⟩
        cases h
  | false =>
      cases names with
      | nil =>
          constructor
          · intro h
            cases h
          · rintro ⟨-, h, -⟩
            exact absurd rfl h
      | cons c names =>
          by_cases hlength :
            (trimmedLines (c :: names)).length = (trimmedLines readings).length
          · simp only [hlength, ne_eq, not_true_eq_false, if_false, false_and, false_or, true_and,
              mapM_eq_error_iff, Bool.false_or, List.isEmpty_cons, Bool.false_eq_true,
              reduceCtorEq, not_false_eq_true]
          · simp only [hlength, ne_eq, not_false_eq_true, if_true, false_and, or_false, true_and,
              Bool.false_or, List.isEmpty_cons, Bool.false_eq_true, if_false, reduceCtorEq,
              Except.error.injEq]
            exact eq_comm

end Section

/-! ## The parts of a pass -/

namespace Status

variable {α β : Type} {c : Change Unit} {part : Status → α} {s s' : Status}

/-- A part of the status is what a change alone makes of it, and what it was if the change fails. -/
def PartAfter (part : Status → α) (c : Change Unit) (s s' : Status) : Prop :=
  part s' = part (c.perform s).2 ∧ ∀ e, (c.perform s).1 = .error e → part s' = part s

/-- A change that reads first is told by what it makes of the part. -/
theorem partAfter_of_readsFirst {input : Except StatusError β} {edit : β → Status → Status}
    (h : c.ReadsFirst input edit) (hpart : part s' = part (c.perform s).2) :
    PartAfter part c s s' := by
  refine ⟨hpart, fun e he ↦ ?_⟩
  rw [hpart, (h.of_fst_eq_error he).1]

/-- A pass has changed each part of the status as the part's own section alone does. -/
structure EachAlone (network cpu disks memory sensorNames sensorReadings : List Char)
    (elapsed : Duration) (s s' : Status) : Prop where
  cpu_after : PartAfter Status.cpu (Change.cpu cpu) s s'
  network_after : PartAfter Status.network (Change.network network) s s'
  /-- A network section that is read spans the time that was carried and that of the pass. -/
  time_of_ok : ((Change.network network).perform s).1 = .ok () →
    s'.elapsed = s.carried + elapsed ∧ s'.carried = .zero
  /-- A network section that is refused adds the time of the pass to the time that is carried. -/
  time_of_error : ∀ e, ((Change.network network).perform s).1 = .error e →
    s'.elapsed = s.elapsed ∧ s'.carried = s.carried + elapsed
  memory_after : PartAfter (fun s ↦ (s.memory, s.swap)) (Change.memory memory) s s'
  disks_after : s'.disks = (s.applyDisks disks).disks
  sensors_after : PartAfter Status.sensors (Change.sensors sensorNames sensorReadings) s s'

/-- The sections of a pass do not interfere. -/
theorem eachAlone_applySections (s : Status)
    (network cpu disks memory sensorNames sensorReadings : List Char) (elapsed : Duration) :
    EachAlone network cpu disks memory sensorNames sensorReadings elapsed s
      (s.applySections network cpu disks memory sensorNames sensorReadings elapsed).1 := by
  rw [applySections_fst]
  refine ⟨?_, ?_, ?_, ?_, ?_, rfl, ?_⟩
  · exact partAfter_of_readsFirst (Change.cpu_readsFirst cpu) (by rw [perform_cpu_snd])
  · refine partAfter_of_readsFirst (Change.network_readsFirst network) ?_
    rw [Change.network_readsFirst network s]
    cases h : Section.readNetwork network with
    | ok samples => rw [applyNetworkSince_of_ok elapsed h]
    | error e => rw [applyNetworkSince_of_error elapsed h]
  · intro hok
    cases h : Section.readNetwork network with
    | ok samples =>
        rw [applyNetworkSince_of_ok elapsed h]
        exact ⟨rfl, rfl⟩
    | error e =>
        rw [(Change.network_readsFirst network).perform_of_error h] at hok
        cases hok
  · intro e he
    rw [applyNetworkSince_of_error elapsed
      ((Change.network_readsFirst network).of_fst_eq_error he).2]
    exact ⟨rfl, rfl⟩
  · exact partAfter_of_readsFirst (Change.memory_readsFirst memory) (by rw [perform_memory_snd])
  · exact partAfter_of_readsFirst (Change.sensors_readsFirst sensorNames sensorReadings)
      (by rw [perform_sensors_snd])

/-- A text is refused exactly if it has not seven sections. -/
theorem perform_output_eq_error_iff {output : String} {elapsed : Duration} {e : StatusError} :
    (Change.output output elapsed).perform s = (.error e, s') ↔
      s' = s ∧ (Section.all output).length ≠ 7 ∧
        e = .sectionCount (Section.all output).length := by
  by_cases hlength : (Section.all output).length = 7
  · obtain ⟨_, _, _, _, _, _, _, hall⟩ := Section.exists_of_length_eq_seven hlength
    rw [perform_output_of_seven hall]
    constructor
    · intro h
      cases h
    · rintro ⟨-, h, -⟩
      exact absurd hlength h
  · rw [perform_output_of_length_ne hlength, Prod.mk.injEq, Except.error.injEq]
    constructor
    · rintro ⟨rfl, rfl⟩
      exact ⟨rfl, hlength, rfl⟩
    · rintro ⟨rfl, -, rfl⟩
      exact ⟨rfl, rfl⟩

/-- A pass is refused exactly if its text has not seven sections, and then changes nothing.
Otherwise it changes each part as the part's own section alone does.  A section alone is refused
exactly at its first line that cannot be read, and then changes nothing either. -/
theorem refused_changes_nothing (s : Status) :
    (∀ output elapsed e s', (Change.output output elapsed).perform s = (.error e, s') ↔
      s' = s ∧ (Section.all output).length ≠ 7 ∧
        e = .sectionCount (Section.all output).length) ∧
    (∀ output elapsed start network cpu disks memory names readings,
      Section.all output = [start, network, cpu, disks, memory, names, readings] →
        ∃ log s', (Change.output output elapsed).perform s = (.ok log, s') ∧
          EachAlone network cpu disks memory names readings elapsed s s') ∧
    (∀ text e s', (Change.cpu text).perform s = (.error e, s') ↔
      s' = s ∧ Section.FirstRefused Section.readCpuLine (Section.cpuLines text) e) ∧
    (∀ text e s', (Change.network text).perform s = (.error e, s') ↔
      s' = s ∧ Section.FirstRefused Section.readInterfaceLine (Section.interfaceLines text) e) ∧
    (∀ text e s', (Change.memory text).perform s = (.error e, s') ↔
      s' = s ∧ Section.FirstRefused Section.readMemoryLine (Section.memoryLines text) e) ∧
    ∀ names readings e s', (Change.sensors names readings).perform s = (.error e, s') ↔
      s' = s ∧ Section.SensorsRefused names readings e := by
  refine ⟨fun output elapsed e s' ↦ perform_output_eq_error_iff, ?_, fun text e s' ↦ ?_,
    fun text e s' ↦ ?_, fun text e s' ↦ ?_, fun names readings e s' ↦ ?_⟩
  · intro output elapsed start network cpu disks memory names readings hall
    exact ⟨_, _, perform_output_of_seven hall elapsed s,
      eachAlone_applySections s network cpu disks memory names readings elapsed⟩
  · rw [(Change.cpu_readsFirst text).perform_eq_error_iff]
    exact and_congr_right fun _ ↦ Section.mapM_eq_error_iff
  · rw [(Change.network_readsFirst text).perform_eq_error_iff]
    exact and_congr_right fun _ ↦ Section.mapM_eq_error_iff
  · rw [(Change.memory_readsFirst text).perform_eq_error_iff]
    exact and_congr_right fun _ ↦ Section.mapM_eq_error_iff
  · rw [(Change.sensors_readsFirst names readings).perform_eq_error_iff]
    exact and_congr_right fun _ ↦ Section.readSensors_eq_error_iff

end Status

end HostWatch
