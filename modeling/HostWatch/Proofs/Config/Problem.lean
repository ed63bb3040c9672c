import HostWatch.Config.Problem
import HostWatch.Proofs.Rule.Matching
/-!
# What a configuration's problems say of its rules

A rule is listed among the problems exactly if its threshold cannot be used.  A rule that is not
listed never fails over its threshold, but it has no verdict either if its matcher can pick nothing.
-/

namespace HostWatch

theorem Rule.problem?_eq_some_iff {r : Rule} {problem : Problem} : r.problem? = some problem ↔
    ∃ e, r.validate = .error e ∧ problem = ⟨"rule " ++ r.id, e.message⟩ := by
  unfold problem?
  cases r.validate with
  | ok t => simp
  | error e => simp [eq_comm]

namespace Config

variable {c : Config} {r : Rule}

/-- A problem of the rule is listed. -/
def Lists (c : Config) (r : Rule) : Prop := ∃ p ∈ c.problems, r.problem? = some p

/-- The rules that are listed are those whose threshold cannot be used. -/
theorem lists_iff (h : r ∈ c.rules) : c.Lists r ↔ ∃ e, r.validate = .error e := by
  constructor
  · rintro ⟨p, -, hp⟩
    obtain ⟨e, he, -⟩ := Rule.problem?_eq_some_iff.mp hp
    exact ⟨e, he⟩
  · rintro ⟨e, he⟩
    have hp := Rule.problem?_eq_some_iff.mpr ⟨e, he, rfl⟩
    exact ⟨_, List.mem_append_left _ (List.mem_filterMap.mpr ⟨r, h, hp⟩), hp⟩

theorem exists_validate_of_not_lists (h : r ∈ c.rules) (hunlisted : ¬ c.Lists r) :
    ∃ t, r.validate = .ok t := by
  cases hvalid : r.validate with
  | error e => exact absurd ((lists_iff h).mpr ⟨e, hvalid⟩) hunlisted
  | ok t => exact ⟨t, rfl⟩

/-- The rule of a fresh configuration is not listed. -/
theorem not_lists_fresh (h : r ∈ fresh.rules) : ¬ fresh.Lists r := by
  obtain rfl := List.mem_singleton.mp h
  have hproblem : Rule.problem? ⟨.cpu, ">=77%", "cpu"⟩ = none := by decide +kernel
  rintro ⟨p, -, hp⟩
  rw [hproblem] at hp
  cases hp

end Config

namespace Rule

/-- A rule whose threshold cannot be used fails alike on every machine.  Otherwise each evaluation
gives a verdict or passes the rule over: what it watches is not known yet, or its matcher picks
nothing.  What is measured is of the threshold's kind, so the two can always be compared, and a rule
that a configuration does not list as a problem never fails over its threshold. -/
theorem evaluate_as_validated (r : Rule) :
    (∀ e, r.validate = .error e → ∀ s now, r.evaluate s now = .error e) ∧
    (∀ t, r.validate = .ok t → ∀ s now, (∃ v, r.evaluate s now = .ok v) ∨
      r.evaluate s now = .error .notReady ∨
      ∃ reason, r.evaluate s now = .error (.invalidMatcher r.monitor r.matcher reason)) ∧
    (∀ kind s key reading, r.monitor.supports kind = true →
      r.measure kind s = .ok (key, reading) → reading.kind = kind) ∧
    (∀ s now expected found, r.evaluate s now ≠ .error (.kindMismatch expected found)) ∧
    ∀ c : Config, r ∈ c.rules → ¬ c.Lists r → ∀ s now,
      (∀ e, r.evaluate s now ≠ .error (.threshold e)) ∧
      ∀ monitor kind, r.evaluate s now ≠ .error (.unsupportedKind monitor kind) := by
  refine ⟨fun e hvalid ↦ evaluate_of_validate_error hvalid, ?_, ?_,
    evaluate_ne_kindMismatch r, ?_⟩
  · intro t hvalid s now
    exact (gives_iff.mp (gives_evaluate hvalid s now)).imp_left fun ⟨v, hv, _⟩ ↦ ⟨v, hv⟩
  · intro kind s key reading hsupports hmeasure
    exact ((gives_measure hsupports).of_eq_ok hmeasure).1
  · intro c hmem hunlisted s now
    obtain ⟨t, hvalid⟩ := Config.exists_validate_of_not_lists hmem hunlisted
    have hpasses : ∀ e, r.evaluate s now = .error e → r.PassesOver e :=
      fun e h ↦ (gives_evaluate hvalid s now).of_eq_error h
    constructor
    · intro e h
      exact (hpasses _ h).ne.2.1 e rfl
    · intro monitor kind h
      exact (hpasses _ h).ne.2.2 monitor kind rfl

/-- A rule with no comparator fails alike everywhere, and the rule of a fresh configuration nowhere
over its threshold. -/
theorem evaluate_as_validated_of_fresh :
    let broken : Rule := ⟨.cpu, "77%", "cpu"⟩
    let usable : Rule := ⟨.cpu, ">=77%", "cpu"⟩
    broken.validate = .error (.threshold (.comparator "77%")) ∧
      (∀ s now, broken.evaluate s now = .error (.threshold (.comparator "77%"))) ∧
      usable ∈ Config.fresh.rules ∧ ∀ s now e, usable.evaluate s now ≠ .error (.threshold e) := by
  intro broken usable
  have hbroken : broken.validate = .error (.threshold (.comparator "77%")) := by decide +kernel
  have hmem : usable ∈ Config.fresh.rules := List.mem_singleton_self _
  refine ⟨hbroken, (evaluate_as_validated broken).1 _ hbroken, hmem, fun s now ↦ ?_⟩
  obtain ⟨-, -, -, -, hunlisted⟩ := evaluate_as_validated usable
  exact (hunlisted _ hmem (Config.not_lists_fresh hmem) s now).1

end Rule

namespace Config

variable {c : Config} {r : Rule}

/-- The rules that have no verdict on any machine are those that are listed and those whose matcher
can pick nothing.  Only the threshold decides which are listed. -/
theorem without_verdict_iff (h : r ∈ c.rules) :
    ((∀ s now v, r.evaluate s now ≠ .ok v) ↔ c.Lists r ∨ ¬ r.CanMatch) ∧
      (c.Lists r ↔ ∃ e, r.validate = .error e) := by
  have hverdict := Rule.exists_evaluate_iff (r := r)
  refine ⟨?_, lists_iff h⟩
  constructor
  · intro hnone
    by_cases hlists : c.Lists r
    · exact .inl hlists
    · refine .inr fun hmatch ↦ ?_
      obtain ⟨s, now, v, hv⟩ := hverdict.mpr ⟨exists_validate_of_not_lists h hlists, hmatch⟩
      exact hnone s now v hv
  · intro hor s now v hv
    obtain ⟨⟨t, hvalid⟩, hmatch⟩ := hverdict.mp ⟨s, now, v, hv⟩
    rcases hor with hlists | hunmatched
    · obtain ⟨e, he⟩ := (lists_iff h).mp hlists
      rw [hvalid] at he
      cases he
    · exact hunmatched hmatch

/-- The rule of a fresh configuration has a verdict on some machine. -/
theorem without_verdict_iff_of_fresh :
    let r : Rule := ⟨.cpu, ">=77%", "cpu"⟩
    r ∈ fresh.rules ∧ ¬ ∀ s now v, r.evaluate s now ≠ .ok v := by
  intro r
  have hmem : r ∈ fresh.rules := List.mem_singleton_self _
  refine ⟨hmem, fun hnone ↦ ?_⟩
  rcases (without_verdict_iff hmem).1.mp hnone with hlists | hunmatched
  · exact not_lists_fresh hmem hlists
  · exact hunmatched (.inr (.inl rfl))

/-- A rule about a part of the memory that does not exist has no verdict on any machine, but is not
listed. -/
theorem unmatched_rule_not_listed :
    let r : Rule := ⟨.mem, ">=80%", "buffers"⟩
    let c : Config := { fresh with rules := [r], pushes := [] }
    r ∈ c.rules ∧ (∀ s now v, r.evaluate s now ≠ .ok v) ∧ c.problems = [] := by
  intro r c
  refine ⟨List.mem_singleton_self r, fun s now v hv ↦ ?_, by decide +kernel⟩
  have hmatch : r.CanMatch := (Rule.exists_evaluate_iff.mp ⟨s, now, v, hv⟩).2
  exact absurd hmatch (by decide : r.matcher ∉ memoryParts)

end Config

end HostWatch
