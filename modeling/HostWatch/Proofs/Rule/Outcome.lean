import HostWatch.Proofs.Rule.Verdict
import HostWatch.Proofs.Text.Number
import HostWatch.Proofs.Text.Search
import Mathlib.Data.Option.Basic
/-!
# How evaluations end

A rule whose threshold can be used is evaluated in steps, each of which gives what the next one
needs or passes the rule over: the quantity is not known yet, or the matcher picks nothing.  What
the steps give is followed here from one to the next.  In the end the quantity is of the threshold's
kind, and the matcher is one that can pick something.
-/

namespace HostWatch

/-! ## Matchers -/

/-- The matcher names processors: all cores together, or one by a number that has a place. -/
def NamesProcessors (matcher : String) : Prop :=
  matcher = "" ∨ matcher = "cpu" ∨
    ∃ s n, matcher.toList = "cpu".toList ++ s ∧ WritesUnsigned s n ∧ n + 1 < wordSize

/-- The parts of the memory that a matcher can name. -/
def memoryParts : List String := ["used", "free", "available", "cached"]

/-- The parts of the swap space that a matcher can name. -/
def swapParts : List String := ["used", "free", "cached"]

/-- The matchers that ask for traffic, if for any direction, but name no interface. -/
def bareDirections : List String := ["", "-in", "-out", "-in-out", "-out-in"]

/-- The matcher of a rule is one that picks something on some machine. -/
def Rule.CanMatch (r : Rule) : Prop :=
  match r.monitor with
  | .cpu => NamesProcessors r.matcher
  | .mem => r.matcher ∈ memoryParts
  | .swap => r.matcher ∈ swapParts
  | .net => r.matcher ∉ bareDirections
  | .disk | .temp => True

namespace Direction

variable {matcher : String}

/-- The end of a matcher is all of it if nothing is left. -/
theorem eq_of_dropEnd? {ending : String}
    (h : dropEnd? ending.toList matcher.toList = some []) : matcher = ending :=
  String.toList_inj.mp (dropEnd?_eq_some_iff.mp h)

/-- Only a bare ending leaves no name. -/
theorem split_fst_eq_nil_iff : (split matcher.toList).1 = [] ↔ matcher ∈ bareDirections := by
  unfold bareDirections
  constructor
  · unfold split
    split
    case h_1 stem heq =>
      rintro rfl
      rcases (Option.orElse_eq_some _ _ _).mp heq with h | ⟨-, h⟩
      · simp [eq_of_dropEnd? h]
      · simp [eq_of_dropEnd? h]
    case h_2 =>
      split
      case h_1 stem h =>
        rintro rfl
        simp [eq_of_dropEnd? h]
      case h_2 =>
        split
        case h_1 stem h =>
          rintro rfl
          simp [eq_of_dropEnd? h]
        case h_2 =>
          intro h
          simp [String.toList_eq_nil_iff.mp h]
  · intro h
    simp only [List.mem_cons, List.not_mem_nil, or_false] at h
    rcases h with rfl | rfl | rfl | rfl | rfl <;> rfl

end Direction

namespace Rule

variable {α β : Type} {r : Rule} {s : Status} {kind : Kind} {P : α → Prop} {Q : β → Prop}

/-! ## Steps -/

/-- The rule is passed over: what it watches is not known yet, or its matcher picks nothing. -/
def PassesOver (r : Rule) (e : RuleError) : Prop :=
  e = .notReady ∨ ∃ reason, e = .invalidMatcher r.monitor r.matcher reason

/-- A rule that is passed over is not broken: its threshold could be used. -/
theorem PassesOver.ne {e : RuleError} (h : r.PassesOver e) :
    (∀ expected found, e ≠ .kindMismatch expected found) ∧ (∀ error, e ≠ .threshold error) ∧
      ∀ monitor kind, e ≠ .unsupportedKind monitor kind := by
  rcases h with rfl | ⟨reason, rfl⟩
  · exact ⟨nofun, nofun, nofun⟩
  · exact ⟨nofun, nofun, nofun⟩

/-- A step of the rule's evaluation gives something with a property, or passes the rule over. -/
def Gives (r : Rule) (P : α → Prop) : Except RuleError α → Prop
  | .ok x => P x
  | .error e => r.PassesOver e

theorem gives_notReady : r.Gives P (.error .notReady) := .inl rfl

theorem gives_noMatch (reason : String) : r.Gives P (r.noMatch reason) := .inr ⟨reason, rfl⟩

theorem gives_known {o : Option α} : r.Gives (fun x ↦ o = some x) (known o) := by
  cases o with
  | none => exact gives_notReady
  | some x => rfl

theorem Gives.mono {P' : α → Prop} {x : Except RuleError α} (hx : r.Gives P x)
    (h : ∀ a, P a → P' a) : r.Gives P' x := by
  cases x with
  | error e => exact hx
  | ok a => exact h a hx

/-- A step is followed by one that needs what the first gives. -/
theorem Gives.bind {x : Except RuleError α} {f : α → Except RuleError β} (hx : r.Gives P x)
    (hf : ∀ a, P a → r.Gives Q (f a)) : r.Gives Q (x >>= f) := by
  cases x with
  | error e => exact hx
  | ok a => exact hf a hx

/-- What a step of the evaluation comes to. -/
theorem gives_iff {x : Except RuleError α} :
    r.Gives P x ↔ (∃ a, x = .ok a ∧ P a) ∨ x = .error .notReady ∨
      ∃ reason, x = .error (.invalidMatcher r.monitor r.matcher reason) := by
  cases x with
  | ok a => simp [Gives]
  | error e => simp [Gives, PassesOver]

/-- What a step gives has the property. -/
theorem Gives.of_eq_ok {x : Except RuleError α} {a : α} (hx : r.Gives P x) (h : x = .ok a) :
    P a := by
  rw [h] at hx
  exact hx

/-- What a step fails with passes the rule over. -/
theorem Gives.of_eq_error {x : Except RuleError α} {e : RuleError} (hx : r.Gives P x)
    (h : x = .error e) : r.PassesOver e := by
  rw [h] at hx
  exact hx

/-! ## Quantities -/

/-- A share or a size is of the kind that is asked for. -/
theorem gives_sizeOrShare (h : kind = .percent ∨ kind = .size) (value whole : Size) :
    r.Gives (fun reading ↦ reading.kind = kind) (sizeOrShare kind value whole) := by
  unfold sizeOrShare
  split
  case isTrue hsize => exact hsize.symm
  case isFalse hsize =>
    split
    case isTrue => exact gives_notReady
    case isFalse => exact (h.resolve_right hsize).symm

theorem gives_cpuPlace : r.Gives (fun _ ↦ NamesProcessors r.matcher) r.cpuPlace := by
  unfold cpuPlace
  split
  case isTrue h => exact h.imp_right .inl
  case isFalse =>
    split
    case h_1 => exact gives_noMatch _
    case h_2 n hread =>
      split
      case isTrue hlt =>
        obtain ⟨rest, hdrop, hread⟩ := Option.bind_eq_some_iff.mp hread
        exact .inr (.inr ⟨rest, n, dropStart?_eq_some_iff.mp hdrop,
          (readUnsigned?_eq_some_iff.mp hread).1, hlt⟩)
      case isFalse => exact gives_noMatch _

theorem gives_pickCpu : r.Gives (fun _ ↦ NamesProcessors r.matcher) (r.pickCpu s) := by
  refine gives_cpuPlace.bind fun ⟨key, place⟩ hnames ↦ ?_
  dsimp only
  split
  case isTrue => exact gives_notReady
  case isFalse =>
    split
    case h_1 => exact gives_noMatch _
    case h_2 => exact hnames

theorem gives_measureCpu :
    r.Gives (fun m ↦ m.2.kind = .percent ∧ NamesProcessors r.matcher) (r.measureCpu s) := by
  refine gives_pickCpu.bind fun ⟨key, cpu⟩ hnames ↦ ?_
  exact gives_known.bind fun _ _ ↦ ⟨rfl, hnames⟩

/-- The matcher is one of some names, each of which is looked for in turn. -/
theorem gives_named {name : String} {names : List String} {x rest : Except RuleError α}
    (hx : r.Gives P x) (hrest : r.Gives (fun a ↦ P a ∧ r.matcher ∈ names) rest) :
    r.Gives (fun a ↦ P a ∧ r.matcher ∈ name :: names)
      (if r.matcher = name then x else rest) := by
  split
  case isTrue hname => exact hx.mono fun _ ha ↦ ⟨ha, hname ▸ List.mem_cons_self⟩
  case isFalse => exact hrest.mono fun _ ⟨ha, hmem⟩ ↦ ⟨ha, List.mem_cons_of_mem _ hmem⟩

theorem gives_share (h : kind = .percent ∨ kind = .size) (key : String) (value whole : Size) :
    r.Gives (fun m ↦ m.2.kind = kind) (do return (key, ← sizeOrShare kind value whole)) :=
  (gives_sizeOrShare h value whole).bind fun _ hkind ↦ hkind

theorem gives_measureMemory (h : kind = .percent ∨ kind = .size) :
    r.Gives (fun m ↦ m.2.kind = kind ∧ r.matcher ∈ memoryParts) (r.measureMemory kind s) := by
  refine Gives.bind gives_known fun m _ ↦ ?_
  -- Each branch of the choice goes on alike, with the part that it picked.
  have hpart := fun value ↦ gives_share (r := r) h (r.matcher ++ " of Memory") value m.total
  exact gives_named (hpart m.used) (gives_named (hpart m.free) (gives_named (hpart m.available)
    (gives_named (hpart m.cached) (gives_noMatch _))))

theorem gives_measureSwap (h : kind = .percent ∨ kind = .size) :
    r.Gives (fun m ↦ m.2.kind = kind ∧ r.matcher ∈ swapParts) (r.measureSwap kind s) := by
  refine Gives.bind gives_known fun m _ ↦ ?_
  have hpart := fun value ↦ gives_share (r := r) h (r.matcher ++ " of Swap") value m.total
  exact gives_named (hpart m.used) (gives_named (hpart m.free) (gives_named (hpart m.cached)
    (gives_noMatch _)))

theorem gives_measureDisk (h : kind = .percent ∨ kind = .size) :
    r.Gives (fun m ↦ m.2.kind = kind) (r.measureDisk kind s) := by
  unfold measureDisk
  split
  case isTrue => exact gives_notReady
  case isFalse =>
    split
    case h_1 => exact gives_noMatch _
    case h_2 d _ =>
      rcases h with rfl | rfl
      · rfl
      · rfl

theorem gives_measureTraffic (h : kind = .speed ∨ kind = .size) (direction : Direction)
    (elapsed : Duration) (interfaces : List Interface) :
    r.Gives (fun reading ↦ reading.kind = kind)
      (measureTraffic kind direction elapsed interfaces) := by
  unfold measureTraffic
  split
  case isTrue hspeed =>
    cases direction with
    | received => exact gives_known.bind fun _ _ ↦ hspeed.symm
    | sent => exact gives_known.bind fun _ _ ↦ hspeed.symm
    | both => exact gives_known.bind fun _ _ ↦ gives_known.bind fun _ _ ↦ hspeed.symm
  case isFalse hspeed => exact (h.resolve_left hspeed).symm

theorem gives_measureNetwork (h : kind = .speed ∨ kind = .size) :
    r.Gives (fun m ↦ m.2.kind = kind ∧ r.matcher ∉ bareDirections) (r.measureNetwork kind s) := by
  unfold measureNetwork
  dsimp only
  split
  case isTrue => exact gives_noMatch _
  case isFalse hstem =>
    split
    case isTrue => exact gives_notReady
    case isFalse =>
      split
      case h_1 => exact gives_noMatch _
      case h_2 interfaces _ =>
        refine (gives_measureTraffic h _ _ _).bind fun _ hkind ↦ ?_
        exact ⟨hkind, fun hbare ↦ hstem (Direction.split_fst_eq_nil_iff.mpr hbare)⟩

theorem gives_measureSensor : r.Gives (fun m ↦ m.2.kind = .temperature) (r.measureSensor s) := by
  unfold measureSensor
  split
  case isTrue => exact gives_notReady
  case isFalse =>
    split
    case h_1 => exact gives_noMatch _
    case h_2 => rfl

/-- What is measured for a threshold that suits the monitor is of the threshold's kind. -/
theorem gives_measure (h : r.monitor.supports kind = true) :
    r.Gives (fun m ↦ m.2.kind = kind ∧ r.CanMatch) (r.measure kind s) := by
  obtain ⟨monitor, threshold, matcher⟩ := r
  cases monitor with
  | cpu =>
      obtain rfl := of_decide_eq_true h
      exact gives_measureCpu
  | mem => exact gives_measureMemory (by simpa [Monitor.supports] using h)
  | swap => exact gives_measureSwap (by simpa [Monitor.supports] using h)
  | disk =>
      exact (gives_measureDisk (by simpa [Monitor.supports] using h)).mono fun _ hkind ↦
        ⟨hkind, trivial⟩
  | net => exact gives_measureNetwork (by simpa [Monitor.supports] using h)
  | temp =>
      obtain rfl := of_decide_eq_true h
      exact gives_measureSensor.mono fun _ hkind ↦ ⟨hkind, trivial⟩

/-! ## Verdicts -/

theorem validate_supports {t : Threshold} (h : r.validate = .ok t) :
    r.monitor.supports t.kind = true := (validate_eq_ok_iff.mp h).2

/-- A threshold cannot be used that cannot be read or does not suit the monitor. -/
theorem exists_of_validate_error {e : RuleError} (h : r.validate = .error e) :
    (∃ parseError, e = .threshold parseError) ∨ ∃ kind, e = .unsupportedKind r.monitor kind := by
  unfold validate at h
  split at h
  case h_1 parseError _ => exact .inl ⟨parseError, (Except.error.inj h).symm⟩
  case h_2 t _ =>
    split at h
    case isTrue => cases h
    case isFalse => exact .inr ⟨t.kind, (Except.error.inj h).symm⟩

/-- A threshold that cannot be used is what every evaluation fails with. -/
theorem evaluate_of_validate_error {e : RuleError} (h : r.validate = .error e) (s : Status)
    (now : Instant) : r.evaluate s now = .error e := by
  unfold evaluate
  rw [h]
  rfl

/-- With a threshold that can be used, an evaluation gives a verdict or passes the rule over. -/
theorem gives_evaluate {t : Threshold} (h : r.validate = .ok t) (s : Status) (now : Instant) :
    r.Gives (fun _ ↦ r.CanMatch) (r.evaluate s now) := by
  unfold evaluate
  rw [h]
  refine (gives_measure (validate_supports h)).bind fun ⟨key, reading⟩ ⟨hkind, hmatch⟩ ↦ ?_
  have hholds : t.evaluate reading = .ok (t.comparator.holds reading.value t.value) := if_pos hkind
  dsimp only
  rw [hholds]
  exact hmatch

/-- An evaluation never finds a quantity of another kind than the threshold's. -/
theorem evaluate_ne_kindMismatch (r : Rule) (s : Status) (now : Instant) (expected found : Kind) :
    r.evaluate s now ≠ .error (.kindMismatch expected found) := by
  intro h
  cases hvalid : r.validate with
  | error e =>
      obtain rfl := Except.error.inj ((evaluate_of_validate_error hvalid s now).symm.trans h)
      rcases exists_of_validate_error hvalid with ⟨_, he⟩ | ⟨_, he⟩
      · cases he
      · cases he
  | ok t => exact ((gives_evaluate hvalid s now).of_eq_error h).ne.1 expected found rfl

end Rule

end HostWatch
