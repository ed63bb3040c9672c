import HostWatch.Duration
/-!
# Dates

Instants are counted in nanoseconds from the start of 1970 and written as a date and a time of day
in coordinated universal time.
-/

namespace HostWatch

/-- A point in time, in nanoseconds from the start of 1970. -/
structure Instant where
  /-- The nanoseconds. -/
  nanos : Int
  deriving DecidableEq, Repr

namespace Instant

/-- The start of a second. -/
def ofSeconds (n : Int) : Instant := ⟨n * Duration.nanosPerSecond⟩

/-- The instant some time later. -/
def after (i : Instant) (d : Duration) : Instant := ⟨i.nanos + d.nanos⟩

/-- The time from an earlier instant; none if that is not earlier. -/
def since (later earlier : Instant) : Duration := ⟨(later.nanos - earlier.nanos).toNat⟩

instance : LE Instant := ⟨fun a b ↦ a.nanos ≤ b.nanos⟩

instance (a b : Instant) : Decidable (a ≤ b) := inferInstanceAs (Decidable (a.nanos ≤ b.nanos))

/-- Instants are compared by their nanoseconds. -/
theorem le_iff {a b : Instant} : a ≤ b ↔ a.nanos ≤ b.nanos := Iff.rfl

theorem le_refl (i : Instant) : i ≤ i := Int.le_refl i.nanos

theorem le_of_eq {a b : Instant} (h : a = b) : a ≤ b := h ▸ le_refl a

theorem le_trans {a b c : Instant} (hab : a ≤ b) (hbc : b ≤ c) : a ≤ c := Int.le_trans hab hbc

/-- Some time later is not before. -/
theorem le_after (i : Instant) (d : Duration) : i ≤ i.after d :=
  Int.le_add_of_nonneg_right (Int.natCast_nonneg d.nanos)

@[simp] theorem nanos_since (later earlier : Instant) :
    (later.since earlier).nanos = (later.nanos - earlier.nanos).toNat := rfl

/-- No time goes by in an instant. -/
theorem since_self (i : Instant) : i.since i = .zero := by
  ext
  simp

/-- Times that follow each other add up. -/
theorem since_add_since {a b c : Instant} (hab : a ≤ b) (hbc : b ≤ c) :
    b.since a + c.since b = c.since a := by
  rw [le_iff] at hab hbc
  ext
  simp only [Duration.nanos_add, nanos_since]
  omega

/-- The whole seconds from the start of 1970. -/
def seconds (i : Instant) : Int := Int.fdiv i.nanos Duration.nanosPerSecond

end Instant

/-- What a clock shows, one reading after another. -/
abbrev Clock := Nat → Instant

namespace Clock

/-- A clock that always shows one instant. -/
def stopped (now : Instant) : Clock := fun _ ↦ now

/-- The clock after some readings. -/
def skip (c : Clock) (n : Nat) : Clock := fun k ↦ c (k + n)

@[simp] theorem skip_apply_zero (c : Clock) (n : Nat) : c.skip n 0 = c n :=
  congrArg c n.zero_add

@[simp] theorem skip_skip (c : Clock) (m n : Nat) : (c.skip m).skip n = c.skip (m + n) :=
  funext fun k ↦ congrArg c (by omega)

/-- The clock does not go back. -/
def Forward (c : Clock) : Prop := ∀ i j, i ≤ j → c i ≤ c j

theorem forward_stopped (now : Instant) : (stopped now).Forward := fun _ _ _ ↦ now.le_refl

end Clock

/-- A day of the Gregorian calendar. -/
structure Date where
  year : Int
  month : Nat
  day : Nat
  deriving DecidableEq, Repr

namespace Date

/-- The date some days after the first of January 1970.  Years are counted from March, so that a
leap day ends its year, and in eras of 400 years. -/
def ofDays (days : Int) : Date :=
  let days := days + 719468
  let era := Int.fdiv days 146097
  let dayOfEra := (days - era * 146097).toNat
  let yearOfEra :=
    (dayOfEra - dayOfEra / 1460 + dayOfEra / 36524 - dayOfEra / 146096) / 365
  let dayOfYear := dayOfEra - (365 * yearOfEra + yearOfEra / 4 - yearOfEra / 100)
  let shifted := (5 * dayOfYear + 2) / 153
  let day := dayOfYear - (153 * shifted + 2) / 5 + 1
  let month := if shifted < 10 then shifted + 3 else shifted - 9
  ⟨yearOfEra + era * 400 + (if month ≤ 2 then 1 else 0), month, day⟩

end Date

/-- Digits of `n` with zeros in front up to a width. -/
def padded (width n : Nat) : List Char :=
  let digits := decimalDigits n
  zeros (width - digits.length) ++ digits

/-- A year in four digits, with a sign if it has more or lies before the year zero. -/
def yearText (year : Int) : List Char :=
  if year < 0 then '-' :: padded 4 year.natAbs
  else if 9999 < year then '+' :: padded 4 year.natAbs
  else padded 4 year.natAbs

/-- The date and the time of day. -/
def Instant.text (i : Instant) : String :=
  let days := Int.fdiv i.seconds 86400
  let ofDay := (i.seconds - days * 86400).toNat
  let date := Date.ofDays days
  .ofList (yearText date.year ++ '-' :: padded 2 date.month ++ '-' :: padded 2 date.day ++
    ' ' :: padded 2 (ofDay / 3600) ++ ':' :: padded 2 (ofDay / 60 % 60) ++
    ':' :: padded 2 (ofDay % 60))

end HostWatch
