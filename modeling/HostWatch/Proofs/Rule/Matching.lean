import HostWatch.Proofs.Rule.CorePlace
import HostWatch.Proofs.Rule.Outcome
/-!
# Matchers that pick something

For each matcher that can pick something there is a machine on which it does, and on which what it
picks is known.  So a rule has a verdict somewhere exactly if its threshold can be used and its
matcher can pick something.
-/

namespace HostWatch

namespace Rule

variable {r : Rule} {kind : Kind}

/-! ## Processors -/

theorem exists_cpuPlace (h : NamesProcessors r.matcher) : ∃ p, r.cpuPlace = .ok p := by
  unfold cpuPlace
  by_cases hall : r.matcher = "" ∨ r.matcher = "cpu"
  · exact ⟨_, if_pos hall⟩
  · obtain ⟨s, n, hname, hwrites, hlt⟩ := (or_assoc.mpr h).resolve_left hall
    have hread : (dropStart? "cpu".toList r.matcher.toList).bind readUnsigned? = some n := by
      rw [dropStart?_eq_some_iff.mpr hname, Option.bind_some]
      exact readUnsigned?_eq_some_iff.mpr ⟨hwrites, Nat.lt_of_succ_lt hlt⟩
    rw [if_neg hall, hread]
    exact ⟨_, if_pos hlt⟩

/-- A processor that was busy for one of two ticks. -/
def halfBusy : Cpu := ⟨"cpu", ⟨some ⟨0, 0⟩, some ⟨1, 2⟩⟩⟩

theorem exists_measureCpu (h : NamesProcessors r.matcher) : ∃ s m, r.measureCpu s = .ok m := by
  obtain ⟨⟨key, place⟩, hplace⟩ := exists_cpuPlace h
  let s : Status := { Status.empty with cpu := List.replicate (place + 1) halfBusy }
  have hcpu : s.cpu[place]? = some halfBusy :=
    (List.getElem?_replicate ..).trans (if_pos (Nat.lt_succ_self place))
  have hpick : r.pickCpu s = .ok (key, halfBusy) := pickCpu_eq_ok_iff.mpr ⟨place, hplace, hcpu⟩
  exact ⟨s, _, measureCpu_eq_ok_iff.mpr ⟨halfBusy, _, hpick, rfl, rfl⟩⟩

/-! ## Memory, swap and disks -/

/-- One byte. -/
def oneByte : Size := ⟨1⟩

theorem exists_sizeOrShare (kind : Kind) (value : Size) :
    ∃ reading, sizeOrShare kind value oneByte = .ok reading := by
  unfold sizeOrShare
  by_cases hsize : kind = .size
  · exact ⟨_, if_pos hsize⟩
  · exact ⟨_, (if_neg hsize).trans (if_neg (by decide))⟩

theorem exists_share (kind : Kind) (key : String) :
    ∃ m, (do return (key, ← sizeOrShare kind oneByte oneByte)) = Except.ok (ε := RuleError) m := by
  obtain ⟨reading, hreading⟩ := exists_sizeOrShare kind oneByte
  exact ⟨(key, reading), bind_eq_ok_iff.mpr ⟨reading, hreading, rfl⟩⟩

theorem exists_measureMemory (kind : Kind) (h : r.matcher ∈ memoryParts) :
    ∃ s m, r.measureMemory kind s = .ok m := by
  obtain ⟨monitor, threshold, matcher⟩ := r
  obtain ⟨m, hm⟩ := exists_share kind (matcher ++ " of Memory")
  refine ⟨{ Status.empty with memory := some ⟨oneByte, oneByte, oneByte, oneByte, oneByte⟩ }, m, ?_⟩
  simp only [memoryParts, List.mem_cons, List.not_mem_nil, or_false] at h
  rcases h with rfl | rfl | rfl | rfl
  all_goals exact hm

theorem exists_measureSwap (kind : Kind) (h : r.matcher ∈ swapParts) :
    ∃ s m, r.measureSwap kind s = .ok m := by
  obtain ⟨monitor, threshold, matcher⟩ := r
  obtain ⟨m, hm⟩ := exists_share kind (matcher ++ " of Swap")
  refine ⟨{ Status.empty with swap := some ⟨oneByte, oneByte, oneByte, oneByte⟩ }, m, ?_⟩
  simp only [swapParts, List.mem_cons, List.not_mem_nil, or_false] at h
  rcases h with rfl | rfl | rfl
  all_goals exact hm

theorem exists_measureDisk (r : Rule) (kind : Kind) : ∃ s m, r.measureDisk kind s = .ok m := by
  refine ⟨{ Status.empty with
    disks := [⟨r.matcher, r.matcher, oneByte, oneByte, oneByte, .zero⟩] },
    (r.matcher, if kind = .size then .size oneByte else .percent .zero), ?_⟩
  simp [measureDisk]

/-! ## Interfaces and sensors -/

/-- An interface that has been sampled twice. -/
def sampledTwice (name : String) : Interface := ⟨name, ⟨some .zero, some .zero⟩⟩

theorem pickInterfaces?_sampledTwice (name : List Char) :
    pickInterfaces? name [sampledTwice (.ofList name)] = some [sampledTwice (.ofList name)] := by
  unfold pickInterfaces?
  split
  case isTrue => rfl
  case isFalse =>
    have hexact : (sampledTwice (.ofList name)).name.toList = name := String.toList_ofList
    simp [findInterface?, hexact]

theorem exists_measureTraffic (kind : Kind) (direction : Direction) (elapsed : Duration)
    (name : String) :
    ∃ reading, measureTraffic kind direction elapsed [sampledTwice name] = .ok reading := by
  unfold measureTraffic
  by_cases hspeed : kind = .speed
  · rw [if_pos hspeed]
    cases direction with
    | received => exact ⟨_, rfl⟩
    | sent => exact ⟨_, rfl⟩
    | both => exact ⟨_, rfl⟩
  · exact ⟨_, if_neg hspeed⟩

theorem exists_measureNetwork (kind : Kind) (h : r.matcher ∉ bareDirections) :
    ∃ s m, r.measureNetwork kind s = .ok m := by
  rcases hsplit : Direction.split r.matcher.toList with ⟨name, direction⟩
  have hname : name ≠ [] := by
    intro hnil
    refine h (Direction.split_fst_eq_nil_iff.mp ?_)
    rw [hsplit]
    exact hnil
  -- An interface of just that name is found, and so it is if the name is that of all.
  let s : Status := { Status.empty with network := [sampledTwice (.ofList name)] }
  obtain ⟨reading, hreading⟩ := exists_measureTraffic kind direction s.elapsed (.ofList name)
  have hpick : pickInterfaces? name s.network = some s.network := pickInterfaces?_sampledTwice name
  refine ⟨s, (r.matcher, reading), ?_⟩
  unfold measureNetwork
  rw [hsplit]
  simp only [if_neg hname, hpick]
  exact bind_eq_ok_iff.mpr ⟨reading, hreading, rfl⟩

theorem exists_measureSensor (r : Rule) : ∃ s m, r.measureSensor s = .ok m := by
  refine ⟨{ Status.empty with sensors := [⟨r.matcher, .zero⟩] },
    (r.matcher, .temperature .zero), ?_⟩
  simp [measureSensor, hasPiece_self]

/-! ## Verdicts -/

/-- A matcher that can pick something does so on some machine. -/
theorem exists_measure (kind : Kind) (h : r.CanMatch) : ∃ s m, r.measure kind s = .ok m := by
  obtain ⟨monitor, threshold, matcher⟩ := r
  cases monitor with
  | cpu => exact exists_measureCpu h
  | mem => exact exists_measureMemory kind h
  | swap => exact exists_measureSwap kind h
  | disk => exact exists_measureDisk _ kind
  | net => exact exists_measureNetwork kind h
  | temp => exact exists_measureSensor _

/-- A rule has a verdict on some machine if its threshold can be used and its matcher can pick
something, and else on none. -/
theorem exists_evaluate_iff :
    (∃ s now v, r.evaluate s now = .ok v) ↔ (∃ t, r.validate = .ok t) ∧ r.CanMatch := by
  constructor
  · rintro ⟨s, now, v, h⟩
    obtain ⟨t, _, _, hvalid, -⟩ := evaluate_eq_ok_iff.mp h
    exact ⟨⟨t, hvalid⟩, (gives_evaluate hvalid s now).of_eq_ok h⟩
  · rintro ⟨⟨t, hvalid⟩, hmatch⟩
    obtain ⟨s, ⟨key, reading⟩, hmeasure⟩ := exists_measure t.kind hmatch
    have hkind := ((gives_measure (validate_supports hvalid)).of_eq_ok hmeasure).1
    exact ⟨s, ⟨0⟩, _, evaluate_eq_ok_iff.mpr ⟨t, key, reading, hvalid, hmeasure, hkind, rfl⟩⟩

end Rule

end HostWatch
