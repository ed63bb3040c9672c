import HostWatch.Config.Migration
import HostWatch.Proofs.Rule.Verdict
import HostWatch.Rule.Report
import Mathlib.Data.List.Forall2
/-!
# Views of verdicts

What becomes of a rule is seen in three places: in the alerts and the warnings of an evaluation of
all rules, in the report for a program to read, and in a line for a person to read.  Each sorts the
verdict by itself, and the verdicts may be of different instants.  An instant only dates the alert,
though, and all three views tell the same four outcomes apart.
-/

namespace HostWatch

/-- What a verdict comes to. -/
inductive Verdict.Outcome where
  /-- The rule holds. -/
  | fired
  /-- The rule does not hold. -/
  | quiet
  /-- The quantity is not known yet. -/
  | warming
  /-- The rule cannot be evaluated. -/
  | broken
  deriving DecidableEq, Repr

namespace Verdict

/-- What the verdict comes to. -/
def outcome : Verdict → Outcome
  | .ok (some _) => .fired
  | .ok none => .quiet
  | .error .notReady => .warming
  | .error _ => .broken

/-- The verdict, dated at an instant. -/
def dated (now : Instant) (v : Verdict) : Verdict :=
  v.map (Option.map fun a ↦ { a with time := now.text })

variable {v : Verdict} {a : Alert} {e : RuleError} {now : Instant}

/-- Nothing is to be told of the verdict: the rule does not hold, or the quantity is not known
yet. -/
def Silent (v : Verdict) : Prop := v = .ok none ∨ v = .error .notReady

/-- There are four kinds of verdicts. -/
theorem exhaust (v : Verdict) :
    (∃ a, v = .ok (some a)) ∨ v.Silent ∨ ∃ e, e ≠ .notReady ∧ v = .error e := by
  obtain e | _ | a := v
  · by_cases he : e = .notReady
    · exact .inr (.inl (.inr (congrArg _ he)))
    · exact .inr (.inr ⟨e, he, rfl⟩)
  · exact .inr (.inl (.inl rfl))
  · exact .inl ⟨a, rfl⟩

@[simp] theorem outcome_fired : outcome (.ok (some a)) = .fired := rfl

@[simp] theorem outcome_quiet : outcome (.ok none) = .quiet := rfl

@[simp] theorem outcome_warming : outcome (.error .notReady) = .warming := rfl

theorem outcome_broken (he : e ≠ .notReady) : outcome (.error e) = .broken := by
  cases e with
  | notReady => exact absurd rfl he
  | _ => rfl

@[simp] theorem text_fired : text (.ok (some a)) = "FIRED " ++ a.key ++ ": " ++ a.value := rfl

@[simp] theorem text_quiet : text (.ok none) = "ok" := rfl

@[simp] theorem text_warming : text (.error .notReady) = "warming up" := rfl

theorem text_broken (he : e ≠ .notReady) : text (.error e) = "error: " ++ e.message := by
  cases e with
  | notReady => exact absurd rfl he
  | _ => rfl

@[simp] theorem dated_fired :
    dated now (.ok (some a)) = .ok (some { a with time := now.text }) := rfl

@[simp] theorem dated_error : dated now (.error e) = .error e := rfl

theorem Silent.dated (h : v.Silent) : (v.dated now).Silent := by
  rcases h with rfl | rfl
  · exact .inl rfl
  · exact .inr rfl

@[simp] theorem outcome_dated : (dated now v).outcome = v.outcome := by
  obtain ⟨a, rfl⟩ | (rfl | rfl) | ⟨e, -, rfl⟩ := v.exhaust <;> rfl

/-- A line is no place for an instant. -/
@[simp] theorem text_dated : (dated now v).text = v.text := by
  obtain ⟨a, rfl⟩ | (rfl | rfl) | ⟨e, -, rfl⟩ := v.exhaust <;> rfl

theorem Silent.outcome_ne (h : v.Silent) : v.outcome ≠ .fired ∧ v.outcome ≠ .broken := by
  rcases h with rfl | rfl
  · exact ⟨nofun, nofun⟩
  · exact ⟨nofun, nofun⟩

theorem outcome_eq_fired_iff : v.outcome = .fired ↔ ∃ a, v = .ok (some a) := by
  obtain ⟨a, rfl⟩ | (rfl | rfl) | ⟨e, he, rfl⟩ := v.exhaust
  · simp
  · simp
  · simp
  · simp [outcome_broken he]

theorem outcome_eq_broken_iff : v.outcome = .broken ↔ ∃ e, e ≠ .notReady ∧ v = .error e := by
  obtain ⟨a, rfl⟩ | (rfl | rfl) | ⟨e, he, rfl⟩ := v.exhaust
  · simp
  · simp
  · simp
  · simp [outcome_broken he, he]

/-! ## Lines -/

theorem text_starts_fired_iff : "FIRED".toList <+: v.text.toList ↔ v.outcome = .fired := by
  obtain ⟨a, rfl⟩ | (rfl | rfl) | ⟨e, he, rfl⟩ := v.exhaust
  · simp
  · simp
  · simp
  · simp [outcome_broken he, text_broken he]

theorem text_eq_ok_iff : v.text = "ok" ↔ v.outcome = .quiet := by
  obtain ⟨a, rfl⟩ | (rfl | rfl) | ⟨e, he, rfl⟩ := v.exhaust
  · simp [← String.toList_inj]
  · simp
  · simp
  · simp [outcome_broken he, text_broken he, ← String.toList_inj]

theorem text_eq_warming_up_iff : v.text = "warming up" ↔ v.outcome = .warming := by
  obtain ⟨a, rfl⟩ | (rfl | rfl) | ⟨e, he, rfl⟩ := v.exhaust
  · simp [← String.toList_inj]
  · simp
  · simp
  · simp [outcome_broken he, text_broken he, ← String.toList_inj]

theorem text_starts_error_iff : "error:".toList <+: v.text.toList ↔ v.outcome = .broken := by
  obtain ⟨a, rfl⟩ | (rfl | rfl) | ⟨e, he, rfl⟩ := v.exhaust
  · simp
  · simp
  · simp
  · simp [outcome_broken he, text_broken he]

end Verdict

/-! ## Reports -/

/-- An object has a member under a key that is something. -/
def Json.HasMember (key : String) (v : Json) : Prop := ∃ m, v.member? key = some m ∧ m ≠ .null

namespace RuleReport

variable {id : String} {v : Verdict} {a : Alert} {e : RuleError} {r : RuleReport}

@[simp] theorem member_id : r.encode.member? "id" = some (.string r.id) := rfl

@[simp] theorem member_ready : r.encode.member? "ready" = some (.bool r.ready) := rfl

@[simp] theorem member_pair : r.encode.member? "pair" = some (orNull Alert.encode r.alert) := rfl

@[simp] theorem member_error : r.encode.member? "error" = some (orNull .string r.error) := rfl

/-- What is written is something if only something is. -/
theorem hasMember_orNull_iff {α : Type} {key : String} {f : α → Json} {o : Option α}
    (hf : ∀ x, f x ≠ .null) {json : Json} (h : json.member? key = some (orNull f o)) :
    json.HasMember key ↔ o ≠ none := by
  unfold Json.HasMember
  rw [h]
  cases o with
  | none => simp [orNull]
  | some x => simp [orNull, hf x]

theorem hasMember_pair_iff : r.encode.HasMember "pair" ↔ r.alert ≠ none :=
  hasMember_orNull_iff (fun _ ↦ Json.noConfusion) member_pair

theorem hasMember_error_iff : r.encode.HasMember "error" ↔ r.error ≠ none :=
  hasMember_orNull_iff (fun _ ↦ Json.noConfusion) member_error

@[simp] theorem ofVerdict_id : (ofVerdict id v).id = id := by
  obtain ⟨a, rfl⟩ | (rfl | rfl) | ⟨e, he, rfl⟩ := v.exhaust
  · rfl
  · rfl
  · rfl
  · cases e <;> rfl

@[simp] theorem ofVerdict_fired : ofVerdict id (.ok (some a)) = ⟨id, true, some a, none⟩ := rfl

@[simp] theorem ofVerdict_quiet : ofVerdict id (.ok none) = ⟨id, true, none, none⟩ := rfl

@[simp] theorem ofVerdict_warming :
    ofVerdict id (.error .notReady) = ⟨id, false, none, none⟩ := rfl

theorem ofVerdict_broken (he : e ≠ .notReady) :
    ofVerdict id (.error e) = ⟨id, true, none, some e.message⟩ := by
  cases e with
  | notReady => exact absurd rfl he
  | _ => rfl

theorem alert_ne_none_iff : (ofVerdict id v).alert ≠ none ↔ v.outcome = .fired := by
  obtain ⟨a, rfl⟩ | (rfl | rfl) | ⟨e, he, rfl⟩ := v.exhaust
  · simp
  · simp
  · simp
  · simp [ofVerdict_broken he, Verdict.outcome_broken he]

theorem ofVerdict_ready : (ofVerdict id v).ready = decide (v.outcome ≠ .warming) := by
  obtain ⟨a, rfl⟩ | (rfl | rfl) | ⟨e, he, rfl⟩ := v.exhaust
  · rfl
  · rfl
  · rfl
  · rw [ofVerdict_broken he, Verdict.outcome_broken he]
    rfl

theorem error_ne_none_iff : (ofVerdict id v).error ≠ none ↔ v.outcome = .broken := by
  obtain ⟨a, rfl⟩ | (rfl | rfl) | ⟨e, he, rfl⟩ := v.exhaust
  · simp
  · simp
  · simp
  · simp [ofVerdict_broken he, Verdict.outcome_broken he]

end RuleReport

/-- An evaluation at another instant gives the same verdict with another date. -/
theorem Rule.evaluate_eq_dated (r : Rule) (s : Status) (now later : Instant) :
    r.evaluate s later = Verdict.dated later (r.evaluate s now) := by
  unfold evaluate Verdict.dated
  change _ = _ <$> _
  rw [map_bind]
  refine bind_congr fun t ↦ ?_
  rw [map_bind]
  refine bind_congr fun (key, reading) ↦ ?_
  rw [map_bind]
  refine bind_congr fun holds ↦ ?_
  cases holds with
  | false => rfl
  | true => rfl

/-- What an evaluation comes to does not depend on the instant. -/
theorem Rule.outcome_evaluate (r : Rule) (s : Status) (now later : Instant) :
    Verdict.outcome (r.evaluate s later) = Verdict.outcome (r.evaluate s now) := by
  rw [r.evaluate_eq_dated s now later, Verdict.outcome_dated]

/-! ## Evaluations of all rules -/

section Runs

variable {r : Rule} {rest : List Rule} {s : Status} {clock : Clock} {a : Alert} {e : RuleError}

@[simp] theorem evaluateRulesOver_nil : evaluateRulesOver [] s clock = ([], []) := rfl

theorem evaluateRulesOver_of_fired (h : r.evaluate s (clock 0) = .ok (some a)) :
    evaluateRulesOver (r :: rest) s clock =
      (a :: (evaluateRulesOver rest s (clock.skip 1)).1,
        (evaluateRulesOver rest s (clock.skip 1)).2) := by
  rw [evaluateRulesOver, h]

theorem evaluateRulesOver_of_silent (h : Verdict.Silent (r.evaluate s (clock 0))) :
    evaluateRulesOver (r :: rest) s clock = evaluateRulesOver rest s clock := by
  rcases h with h | h
  · rw [evaluateRulesOver, h]
  · rw [evaluateRulesOver, h]

theorem evaluateRulesOver_of_broken (h : r.evaluate s (clock 0) = .error e)
    (he : e ≠ .notReady) :
    evaluateRulesOver (r :: rest) s clock =
      ((evaluateRulesOver rest s clock).1,
        .warn ("Rule " ++ r.id ++ " skipped: " ++ e.message) ::
          (evaluateRulesOver rest s clock).2) := by
  rw [evaluateRulesOver, h]
  cases e with
  | notReady => exact absurd rfl he
  | _ => rfl

/-- What comes of the first rule alone comes before what comes of the others. -/
theorem evaluateRulesOver_cons (r : Rule) (rest : List Rule) (s : Status) (clock : Clock) :
    evaluateRulesOver (r :: rest) s clock =
      let one := evaluateRulesOver [r] s clock
      let others := evaluateRulesOver rest s (clock.skip one.1.length)
      (one.1 ++ others.1, one.2 ++ others.2) := by
  obtain ⟨a, h⟩ | h | ⟨e, he, h⟩ := Verdict.exhaust (r.evaluate s (clock 0))
  · rw [evaluateRulesOver_of_fired h, evaluateRulesOver_of_fired h]
    rfl
  · rw [evaluateRulesOver_of_silent h, evaluateRulesOver_of_silent h]
    rfl
  · rw [evaluateRulesOver_of_broken h he, evaluateRulesOver_of_broken h he]
    rfl

/-- No rule bears on another: what comes of rules in a row is what comes of each part. -/
theorem evaluateRulesOver_append (first second : List Rule) (s : Status) (clock : Clock) :
    evaluateRulesOver (first ++ second) s clock =
      let before := evaluateRulesOver first s clock
      let after := evaluateRulesOver second s (clock.skip before.1.length)
      (before.1 ++ after.1, before.2 ++ after.2) := by
  induction first generalizing clock with
  | nil => rfl
  | cons r first ih =>
      rw [List.cons_append, evaluateRulesOver_cons r (first ++ second),
        evaluateRulesOver_cons r first]
      simp only [ih, Clock.skip_skip, List.length_append, List.append_assoc]

/-- Each rule that holds gives an alert, in the order of the rules and as the clock goes on. -/
theorem alerts_evaluateRulesOver (rules : List Rule) (s : Status) (clock : Clock) (now : Instant)
    (k : Nat) :
    List.Forall₂ (fun turn alert ↦ turn.1.evaluate s (clock turn.2) = .ok (some alert))
      ((rules.filter fun r ↦ Verdict.outcome (r.evaluate s now) = .fired).zipIdx k)
      (evaluateRulesOver rules s (clock.skip k)).1 := by
  induction rules generalizing k with
  | nil => exact .nil
  | cons r rest ih =>
      -- The verdict is dated anew when the evaluation gets to the rule.
      have hturn := r.evaluate_eq_dated s now (clock.skip k 0)
      obtain ⟨a, h⟩ | h | ⟨e, he, h⟩ := Verdict.exhaust (r.evaluate s now)
      · rw [h, Verdict.dated_fired] at hturn
        rw [evaluateRulesOver_of_fired hturn, List.filter_cons_of_pos (by simp [h]),
          List.zipIdx_cons, Clock.skip_skip, Clock.skip_apply_zero]
        rw [Clock.skip_apply_zero] at hturn
        exact .cons hturn (ih (k + 1))
      · rw [evaluateRulesOver_of_silent (hturn ▸ h.dated),
          List.filter_cons_of_neg (by simp [h.outcome_ne.1])]
        exact ih k
      · rw [h, Verdict.dated_error] at hturn
        rw [evaluateRulesOver_of_broken hturn he,
          List.filter_cons_of_neg (by simp [h, Verdict.outcome_broken he])]
        exact ih k

/-- Each broken rule gives a warning, in the order of the rules and whatever the clock shows. -/
theorem log_evaluateRulesOver (rules : List Rule) (s : Status) (clock : Clock) (now : Instant) :
    List.Forall₂ (fun r entry ↦ ∃ e, r.evaluate s now = .error e ∧
        entry = .warn ("Rule " ++ r.id ++ " skipped: " ++ e.message))
      (rules.filter fun r ↦ Verdict.outcome (r.evaluate s now) = .broken)
      (evaluateRulesOver rules s clock).2 := by
  induction rules generalizing clock with
  | nil => exact .nil
  | cons r rest ih =>
      have hturn := r.evaluate_eq_dated s now (clock 0)
      obtain ⟨a, h⟩ | h | ⟨e, he, h⟩ := Verdict.exhaust (r.evaluate s now)
      · rw [h, Verdict.dated_fired] at hturn
        rw [evaluateRulesOver_of_fired hturn, List.filter_cons_of_neg (by simp [h])]
        exact ih (clock.skip 1)
      · rw [evaluateRulesOver_of_silent (hturn ▸ h.dated),
          List.filter_cons_of_neg (by simp [h.outcome_ne.2])]
        exact ih clock
      · rw [h, Verdict.dated_error] at hturn
        rw [evaluateRulesOver_of_broken hturn he,
          List.filter_cons_of_pos (by simp [h, Verdict.outcome_broken he])]
        exact .cons ⟨e, h, rfl⟩ (ih clock)

/-- One rule gives no other alert than its own. -/
theorem mem_alerts_singleton_iff :
    a ∈ (evaluateRulesOver [r] s clock).1 ↔ r.evaluate s (clock 0) = .ok (some a) := by
  obtain ⟨b, h⟩ | hs | ⟨e, he, h⟩ := Verdict.exhaust (r.evaluate s (clock 0))
  · simp [evaluateRulesOver_of_fired h, h, eq_comm]
  · rw [evaluateRulesOver_of_silent hs]
    rcases hs with h | h <;> simp [h]
  · simp [evaluateRulesOver_of_broken h he, h]

/-- One rule gives no other warning than its own. -/
theorem mem_log_singleton_iff {entry : LogEntry} :
    entry ∈ (evaluateRulesOver [r] s clock).2 ↔ ∃ e, e ≠ .notReady ∧
      r.evaluate s (clock 0) = .error e ∧
        entry = .warn ("Rule " ++ r.id ++ " skipped: " ++ e.message) := by
  obtain ⟨b, h⟩ | hs | ⟨e, he, h⟩ := Verdict.exhaust (r.evaluate s (clock 0))
  · simp [evaluateRulesOver_of_fired h, h]
  · rw [evaluateRulesOver_of_silent hs]
    rcases hs with h | h <;> simp [h]
  · simp [evaluateRulesOver_of_broken h he, h, he]

theorem alerts_singleton_ne_nil_iff :
    (evaluateRulesOver [r] s clock).1 ≠ [] ↔
      Verdict.outcome (r.evaluate s (clock 0)) = .fired := by
  rw [Verdict.outcome_eq_fired_iff]
  constructor
  · intro hne
    obtain ⟨a, ha⟩ := List.exists_mem_of_ne_nil _ hne
    exact ⟨a, mem_alerts_singleton_iff.mp ha⟩
  · rintro ⟨a, h⟩
    exact List.ne_nil_of_mem (mem_alerts_singleton_iff.mpr h)

theorem log_singleton_ne_nil_iff :
    (evaluateRulesOver [r] s clock).2 ≠ [] ↔
      Verdict.outcome (r.evaluate s (clock 0)) = .broken := by
  rw [Verdict.outcome_eq_broken_iff]
  constructor
  · intro hne
    obtain ⟨entry, hentry⟩ := List.exists_mem_of_ne_nil _ hne
    obtain ⟨e, he, h, -⟩ := mem_log_singleton_iff.mp hentry
    exact ⟨e, he, h⟩
  · rintro ⟨e, he, h⟩
    exact List.ne_nil_of_mem (mem_log_singleton_iff.mpr ⟨e, he, h, rfl⟩)

end Runs

/-! ## The views together -/

/-- The views of a rule show one outcome: what an evaluation of that rule alone comes to, the report
on the rule at an instant, and the line about it. -/
structure ShowOutcome (outcome : Verdict.Outcome) (id : String) (found : List Alert × Log)
    (report : Json) (reported : Instant) (line : String) : Prop where
  alerted : found.1 ≠ [] ↔ outcome = .fired
  paired : report.HasMember "pair" ↔ outcome = .fired
  line_fired : "FIRED".toList <+: line.toList ↔ outcome = .fired
  line_ok : line = "ok" ↔ outcome = .quiet
  ready : report.member? "ready" = some (.bool (outcome ≠ .warming))
  line_warming_up : line = "warming up" ↔ outcome = .warming
  logged : found.2 ≠ [] ↔ outcome = .broken
  erring : report.HasMember "error" ↔ outcome = .broken
  line_error : "error:".toList <+: line.toList ↔ outcome = .broken
  same_rule : report.member? "id" = some (.string id)
  same_alert : ∀ a ∈ found.1,
    report.member? "pair" = some (Alert.encode { a with time := reported.text }) ∧
      line = "FIRED " ++ a.key ++ ": " ++ a.value
  same_error : ∀ entry ∈ found.2, ∃ message,
    entry = .warn ("Rule " ++ id ++ " skipped: " ++ message) ∧
      report.member? "error" = some (.string message) ∧ line = "error: " ++ message

/-- Whenever each view is asked for, all three show the same. -/
theorem showOutcome (r : Rule) (s : Status) (clock : Clock) (now reported shown : Instant) :
    ShowOutcome (Verdict.outcome (r.evaluate s now)) r.id (evaluateRulesOver [r] s clock)
      (r.report s reported).encode reported (Verdict.text (r.evaluate s shown)) where
  alerted := by rw [alerts_singleton_ne_nil_iff, r.outcome_evaluate s now]
  paired := by
    rw [RuleReport.hasMember_pair_iff, Rule.report, RuleReport.alert_ne_none_iff,
      r.outcome_evaluate s now]
  line_fired := by rw [Verdict.text_starts_fired_iff, r.outcome_evaluate s now]
  line_ok := by rw [Verdict.text_eq_ok_iff, r.outcome_evaluate s now]
  ready := by
    rw [RuleReport.member_ready, Rule.report, RuleReport.ofVerdict_ready, r.outcome_evaluate s now]
  line_warming_up := by rw [Verdict.text_eq_warming_up_iff, r.outcome_evaluate s now]
  logged := by rw [log_singleton_ne_nil_iff, r.outcome_evaluate s now]
  erring := by
    rw [RuleReport.hasMember_error_iff, Rule.report, RuleReport.error_ne_none_iff,
      r.outcome_evaluate s now]
  line_error := by rw [Verdict.text_starts_error_iff, r.outcome_evaluate s now]
  same_rule := by rw [RuleReport.member_id, Rule.report, RuleReport.ofVerdict_id]
  same_alert := by
    intro a ha
    have h := mem_alerts_singleton_iff.mp ha
    constructor
    · rw [RuleReport.member_pair, Rule.report, r.evaluate_eq_dated s (clock 0), h]
      rfl
    · rw [r.evaluate_eq_dated s (clock 0), Verdict.text_dated, h]
      rfl
  same_error := by
    intro entry hentry
    obtain ⟨e, he, h, hwarn⟩ := mem_log_singleton_iff.mp hentry
    refine ⟨e.message, hwarn, ?_, ?_⟩
    · rw [RuleReport.member_error, Rule.report, r.evaluate_eq_dated s (clock 0), h,
        Verdict.dated_error, RuleReport.ofVerdict_broken he]
      rfl
    · rw [r.evaluate_eq_dated s (clock 0), Verdict.text_dated, h, Verdict.text_broken he]

/-- An evaluation of rules finds the alerts of those that hold and warns of those that are broken,
both in the order of the rules, and what it finds in rules in a row is what it finds in each part.
For each rule the report and the line show the outcome that the evaluation shows, whenever they are
asked for. -/
theorem evaluateRulesOver_rule_by_rule (s : Status) :
    (∀ rules clock now,
      List.Forall₂ (fun turn alert ↦ turn.1.evaluate s (clock turn.2) = .ok (some alert))
          (rules.filter fun r ↦ Verdict.outcome (r.evaluate s now) = .fired).zipIdx
          (evaluateRulesOver rules s clock).1 ∧
        List.Forall₂ (fun r entry ↦ ∃ e, r.evaluate s now = .error e ∧
            entry = .warn ("Rule " ++ r.id ++ " skipped: " ++ e.message))
          (rules.filter fun r ↦ Verdict.outcome (r.evaluate s now) = .broken)
          (evaluateRulesOver rules s clock).2) ∧
      (∀ first second clock,
        evaluateRulesOver (first ++ second) s clock =
          let before := evaluateRulesOver first s clock
          let after := evaluateRulesOver second s (clock.skip before.1.length)
          (before.1 ++ after.1, before.2 ++ after.2)) ∧
      (∀ first second now,
        evaluateRules (first ++ second) s now =
          let before := evaluateRules first s now
          let after := evaluateRules second s now
          (before.1 ++ after.1, before.2 ++ after.2)) ∧
      ∀ r clock now reported shown,
        ShowOutcome (Verdict.outcome (r.evaluate s now)) r.id (evaluateRulesOver [r] s clock)
          (r.report s reported).encode reported (Verdict.text (r.evaluate s shown)) := by
  refine ⟨fun rules clock now ↦ ⟨?_, ?_⟩, ?_, ?_, ?_⟩
  · exact alerts_evaluateRulesOver rules s clock now 0
  · exact log_evaluateRulesOver rules s clock now
  · exact fun first second clock ↦ evaluateRulesOver_append first second s clock
  · exact fun first second now ↦ evaluateRulesOver_append first second s (.stopped now)
  · exact fun r clock now reported shown ↦ showOutcome r s clock now reported shown

/-- A machine with 90 of 100 bytes of memory in use. -/
def Status.nearlyFull : Status :=
  { Status.empty with memory := some ⟨⟨100⟩, ⟨10⟩, ⟨10⟩, ⟨90⟩, ⟨0⟩⟩ }

-- Disks that are not known yet, limits on either side, and a limit without a comparator.
example :
    evaluateRules [⟨.disk, ">=1%", "/data"⟩, ⟨.mem, ">=80%", "used"⟩, ⟨.mem, "<80%", "used"⟩,
        ⟨.mem, "high", "used"⟩] .nearlyFull ⟨0⟩ =
      ([⟨"used of Memory", "90.00%", "1970-01-01 00:00:00"⟩],
        [.warn ("Rule mem-high-used skipped: invalid threshold: " ++
          "missing or unknown comparator in \"high\"")]) := by
  decide +kernel

end HostWatch
