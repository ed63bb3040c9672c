import HostWatch.Proofs.Except
import HostWatch.Rule.Evaluate
/-!
# Where verdicts come from

Each step of an evaluation can fail, and a verdict is reached only if none of them does: the
threshold suits the monitor, the matcher picks a quantity, and the quantity is of the threshold's
kind.
-/

namespace HostWatch

namespace Rule

variable {r : Rule} {s : Status} {now : Instant} {t : Threshold} {v : Option Alert}

/-- A usable threshold can be read and suits the monitor. -/
theorem validate_eq_ok_iff :
    r.validate = .ok t ↔
      Threshold.parse r.threshold = .ok t ∧ r.monitor.supports t.kind = true := by
  unfold validate
  cases Threshold.parse r.threshold with
  | error e =>
      constructor
      · intro h
        cases h
      · rintro ⟨h, -⟩
        cases h
  | ok t' =>
      by_cases hsupports : r.monitor.supports t'.kind = true
      · simp only [hsupports, if_true, Except.ok.injEq, iff_self_and]
        rintro rfl
        exact hsupports
      · simp only [hsupports, Except.ok.injEq, Bool.false_eq_true, if_false, reduceCtorEq,
          false_iff, not_and]
        rintro rfl
        exact hsupports

/-- The verdict on a quantity that goes by a name. -/
def verdictOn (t : Threshold) (key : String) (reading : Reading) (now : Instant) : Option Alert :=
  if t.comparator.holds reading.value t.value then some ⟨key, reading.text, now.text⟩ else none

/-- A verdict is the one on the quantity that the rule watches. -/
theorem evaluate_eq_ok_iff :
    r.evaluate s now = .ok v ↔
      ∃ t key reading, r.validate = .ok t ∧ r.measure t.kind s = .ok (key, reading) ∧
        reading.kind = t.kind ∧ v = verdictOn t key reading now := by
  unfold evaluate
  simp only [bind_eq_ok_iff, Threshold.evaluate]
  constructor
  · rintro ⟨t, hvalid, ⟨key, reading⟩, hmeasure, holds, hholds, hv⟩
    by_cases hkind : reading.kind = t.kind
    · rw [if_pos hkind] at hholds
      obtain rfl := Except.ok.inj hholds
      exact ⟨t, key, reading, hvalid, hmeasure, hkind, (Except.ok.inj hv).symm⟩
    · rw [if_neg hkind] at hholds
      cases hholds
  · rintro ⟨t, key, reading, hvalid, hmeasure, hkind, rfl⟩
    exact ⟨t, hvalid, (key, reading), hmeasure, _, if_pos hkind, rfl⟩

end Rule

end HostWatch
