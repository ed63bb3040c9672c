import HostWatch.Numeric.Decimal
/-!
# Durations and instants

Both are counted in whole nanoseconds.
-/

namespace HostWatch

/-- A span of time. -/
@[ext]
structure Duration where
  /-- Its length in nanoseconds. -/
  nanos : Nat
  deriving DecidableEq, Repr

namespace Duration

/-- Nanoseconds in a second. -/
def nanosPerSecond : Nat := 1000000000

/-- No time. -/
def zero : Duration := ⟨0⟩

instance : Inhabited Duration := ⟨zero⟩

instance : Add Duration := ⟨fun a b ↦ ⟨a.nanos + b.nanos⟩⟩

instance : LT Duration := ⟨fun a b ↦ a.nanos < b.nanos⟩

instance (a b : Duration) : Decidable (a < b) := inferInstanceAs (Decidable (a.nanos < b.nanos))

/-- Whole seconds. -/
def ofSeconds (n : Nat) : Duration := ⟨n * nanosPerSecond⟩

/-- The whole seconds of a duration. -/
def seconds (d : Duration) : Nat := d.nanos / nanosPerSecond

/-- The length in seconds: the whole seconds and the fraction, each rounded, then added. -/
def inSeconds (d : Duration) : Binary64 :=
  .ofNat d.seconds + .ofNat (d.nanos % nanosPerSecond) / .ofNat nanosPerSecond

/-- A duration of whole seconds as text. -/
def secondsText (d : Duration) : String := .ofList (decimalDigits d.seconds ++ ['s'])

@[simp] theorem nanos_add (a b : Duration) : (a + b).nanos = a.nanos + b.nanos := rfl

@[simp] theorem nanos_zero : zero.nanos = 0 := rfl

/-- Durations are compared by their nanoseconds. -/
theorem lt_iff {a b : Duration} : a < b ↔ a.nanos < b.nanos := Iff.rfl

@[simp] theorem nanos_ofSeconds (n : Nat) : (ofSeconds n).nanos = n * nanosPerSecond := rfl

/-- Whole seconds are found again. -/
@[simp] theorem seconds_ofSeconds (n : Nat) : (ofSeconds n).seconds = n := by
  simp [seconds, nanosPerSecond]

end Duration

end HostWatch
