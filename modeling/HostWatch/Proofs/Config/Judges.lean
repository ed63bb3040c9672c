import HostWatch.Command.Run
import HostWatch.Proofs.Config.Problem
import HostWatch.Proofs.Config.Saved
import HostWatch.Proofs.Push.Settings
/-!
# Those who judge a configuration

The list of problems, the report on the terminal and the dispatcher each decide for themselves which
rules and pushes can be used.  They agree on every one of them, and no pattern for responses that
was accepted fails later.
-/

namespace HostWatch

section

variable {α β : Type} {f : α → Option β} {keep : α → Bool}

/-- What is kept of a list, item by item and in order. -/
theorem forall₂_filterMap (h : ∀ x, (f x).isSome = keep x) (xs : List α) :
    List.Forall₂ (fun x y ↦ f x = some y) (xs.filter keep) (xs.filterMap f) := by
  induction xs with
  | nil => exact .nil
  | cons x rest ih =>
      have hx := h x
      cases hf : f x with
      | some y =>
          rw [hf] at hx
          rw [List.filter_cons_of_pos hx.symm, List.filterMap_cons_some hf]
          exact .cons hf ih
      | none =>
          rw [hf] at hx
          rw [List.filter_cons_of_neg (ne_true_of_eq_false hx.symm), List.filterMap_cons_none hf]
          exact ih

end

/-- The rule can be used. -/
def Rule.isUsable (r : Rule) : Bool := r.validate.isOk

/-- The push can be used. -/
def Push.isUsable (p : Push) : Bool := p.channel.isOk

theorem Rule.isSome_problem? (r : Rule) : r.problem?.isSome = !r.isUsable := by
  unfold problem? isUsable
  cases r.validate <;> rfl

theorem Push.problem?_eq_some_iff {p : Push} {problem : Problem} : p.problem? = some problem ↔
    ∃ e, p.channel = .error e ∧ problem = ⟨"push " ++ p.name, e.message⟩ := by
  unfold problem?
  cases p.channel with
  | ok c => simp
  | error e => simp [eq_comm]

theorem Push.isSome_problem? (p : Push) : p.problem?.isSome = !p.isUsable := by
  unfold problem? isUsable
  cases p.channel <;> rfl

/-! ## The dispatcher -/

/-- The push under its name, if it can be used. -/
def Push.named? (p : Push) : Option (String × Channel) :=
  match p.channel with
  | .ok c => some (p.name, c)
  | .error _ => none

theorem Push.named?_eq_some_iff {p : Push} {nc : String × Channel} :
    p.named? = some nc ↔ nc.1 = p.name ∧ p.channel = .ok nc.2 := by
  unfold named?
  cases p.channel with
  | ok c => rw [Option.some.injEq, Except.ok.injEq, Prod.ext_iff, eq_comm (a := p.name)]
  | error e => exact ⟨nofun, nofun⟩

theorem Push.isSome_named? (p : Push) : p.named?.isSome = p.isUsable := by
  unfold named? isUsable
  cases p.channel <;> rfl

namespace Dispatcher

/-- Each push is kept under its name, or passed over with its problem. -/
theorem readChannels_eq (pushes : List Push) : readChannels pushes =
    (pushes.filterMap Push.named?,
      (pushes.filterMap Push.problem?).map fun problem ↦ .error ("Skipping " ++ problem.text)) := by
  induction pushes with
  | nil => rfl
  | cons p rest ih =>
      rw [readChannels, ih]
      cases h : p.channel with
      | ok c =>
          have hnamed : p.named? = some (p.name, c) := Push.named?_eq_some_iff.mpr ⟨rfl, h⟩
          have hproblem : p.problem? = none := by rw [Push.problem?, h]
          rw [List.filterMap_cons_some hnamed, List.filterMap_cons_none hproblem]
      | error e =>
          have hnamed : p.named? = none := by rw [Push.named?, h]
          have hproblem := Push.problem?_eq_some_iff.mpr ⟨e, h, rfl⟩
          have htext : "Skipping " ++ Problem.text ⟨"push " ++ p.name, e.message⟩ =
              "Skipping push " ++ p.name ++ ": " ++ e.message := by
            rw [Problem.text, ← String.append_assoc, ← String.append_assoc, ← String.append_assoc]
            rfl
          rw [List.filterMap_cons_none hnamed, List.filterMap_cons_some hproblem, List.map_cons,
            htext]

end Dispatcher

/-! ## The report -/

namespace Display

/-- The line starts with the mark for what can be used, or for what cannot. -/
def IsMarked (colors usable : Bool) (line : String) : Prop :=
  ("  " ++ (mark colors usable ++ " ")).toList <+: line.toList

/-- Neither mark starts with the other. -/
theorem eq_of_mark_starts : ∀ {colors usable marked : Bool},
    ("  " ++ (mark colors marked ++ " ")).toList <+: ("  " ++ (mark colors usable ++ " ")).toList →
      marked = usable := by
  decide +kernel

theorem isMarked_line_iff {colors usable marked : Bool} {rest : String} :
    IsMarked colors marked (line ("  " ++ (mark colors usable ++ (" " ++ rest)))) ↔
      marked = usable := by
  have hself : IsMarked colors usable (line ("  " ++ (mark colors usable ++ (" " ++ rest)))) := by
    refine ⟨(rest ++ "\n").toList, ?_⟩
    rw [← String.toList_append, line]
    simp only [String.append_assoc]
  constructor
  · intro h
    rcases List.prefix_or_prefix_of_prefix h hself with hle | hle
    · exact eq_of_mark_starts hle
    · exact (eq_of_mark_starts hle).symm
  · rintro rfl
    exact hself

theorem isMarked_ruleLine_iff {colors marked : Bool} {r : Rule} :
    IsMarked colors marked (ruleLine colors r) ↔ marked = r.isUsable := by
  unfold ruleLine Rule.isUsable
  cases r.validate with
  | ok t =>
      dsimp only
      rw [String.append_assoc, String.append_assoc, String.append_assoc, String.append_assoc]
      exact isMarked_line_iff
  | error e =>
      dsimp only
      rw [String.append_assoc, String.append_assoc, String.append_assoc]
      exact isMarked_line_iff

theorem isMarked_pushLine_iff {colors marked : Bool} {p : Push} :
    IsMarked colors marked (pushLine colors p) ↔ marked = p.isUsable := by
  unfold pushLine Push.isUsable
  cases p.channel with
  | ok t =>
      dsimp only
      rw [String.append_assoc, String.append_assoc, String.append_assoc]
      exact isMarked_line_iff
  | error e =>
      dsimp only
      rw [String.append_assoc, String.append_assoc, String.append_assoc]
      exact isMarked_line_iff

end Display

/-! ## Responses -/

/-- A pattern that can be read does not fail later. -/
theorem ResponseCheck.verify_ne_invalidPattern {c : ResponseCheck} {q : Option Pattern}
    (h : c.pattern? = .ok q) (status : Nat) (body : String) :
    c.verify status body ≠ .error .invalidPattern := by
  unfold verify
  rw [h]
  split
  case isTrue => nofun
  case isFalse =>
    cases q with
    | none => nofun
    | some p =>
        dsimp only
        split <;> nofun

theorem Channel.judge_ne_invalidPattern {c : Channel} {q : Option Pattern}
    (h : c.check.pattern? = .ok q) (reply : Channel.Reply) :
    c.judge reply ≠ .error (.response .invalidPattern) := by
  unfold judge
  cases reply with
  | none => nofun
  | some response =>
      dsimp only
      split
      case isTrue =>
        have hverify := ResponseCheck.verify_ne_invalidPattern h response.status response.text
        cases hresult : c.check.verify response.status response.text with
        | ok => nofun
        | error e =>
            rw [hresult] at hverify
            intro heq
            exact hverify (congrArg Except.error (PushError.response.inj (Except.error.inj heq)))
      case isFalse => nofun

/-! ## The command -/

/-- The command shows the report and then the problems, and fails if there are any. -/
theorem Command.check_of_load {s : Surroundings} {l : Location} {files : FileTree} {c : Config}
    (h : Config.load l s.files = (.ok c, files)) :
    exitCode (some (check s l)) = (if c.problems = [] then 0 else 1) ∧
      (check s l).stdout = (Display.config s.colors l.text c).1 ++
        String.join (c.problems.map fun p ↦ Display.failure s.colors ("  " ++ p.text)) := by
  unfold check
  rw [h]
  dsimp only
  cases c.problems with
  | nil => exact ⟨rfl, String.append_empty.symm⟩
  | cons p rest => exact ⟨rfl, rfl⟩

namespace Config

/-- A push whose pattern cannot be read. -/
def unreadable : Push :=
  ⟨.bark, "unreadable", .object [("body", .string ""), ("body_regex", .string "("),
    ("device_key", .string "")]⟩

/-- A push that can be used. -/
def phone : Push :=
  ⟨.bark, "phone", .object [("body", .string "\x7b\x7bmsg\x7d\x7d"), ("device_key", .string "")]⟩

/-- A configuration in which one rule and one push cannot be used. -/
def mixed : Config where
  version := 3
  interval := "7s"
  rate := "1/1m"
  name := "box"
  rules := [⟨.cpu, ">=77%", "cpu"⟩, ⟨.cpu, "77%", "cpu"⟩]
  pushes := [unreadable, phone]

/-- A directory with nothing but this configuration in it. -/
def mixedTree : FileTree := ⟨[(["conf.json"], .file mixed.fileText.toUTF8)], fun _ ↦ false⟩

theorem load_mixed : load ⟨"conf.json", []⟩ mixedTree = (.ok mixed, mixedTree) := by
  have hlocate : mixedTree.locate? ⟨"conf.json", []⟩ = some ["conf.json"] :=
    (FileTree.locate?_eq_some_iff (Location.steps_of_not_mem (by decide))).mpr
      ⟨by decide, [], rfl, rfl, rfl, rfl⟩
  have hfile : mixedTree.read? ⟨"conf.json", []⟩ = some mixed.fileText.toUTF8 :=
    FileTree.read?_eq_some_iff.mpr ⟨_, hlocate, rfl⟩
  have hread : Json.read? mixed.fileText = some mixed.encode.sorted :=
    Json.read?_pretty (by decide) (floatsReadBack_encode (by
      simp [mixed, unreadable, phone, Json.FloatsReadBack, Json.MembersReadBack]))
  have hdecode : decode mixed.encode.sorted = .ok mixed := rfl
  rw [load_of_current hfile hread rfl, ofCurrent, hdecode]

end Config

end HostWatch
