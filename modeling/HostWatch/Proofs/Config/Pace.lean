import HostWatch.Proofs.Text.Number
import HostWatch.Proofs.Text.Piece
import HostWatch.Watch.Basic
import Mathlib.Algebra.Ring.Nat
/-!
# Interval and rate

How often the machine is sampled and how often a push may be sent are kept as they are written and
read where they are needed.  What is read is exactly what a small grammar writes; everything else
falls back to a default with a warning.  So a watch never has an interval or a window of no length,
whatever is written, and no length is ever cut.
-/

namespace HostWatch

namespace Config

variable {c : Config} {s number : List Char} {unit : Char} {n times window length : Nat}
  {d : Duration} {rate : Rate}

/-! ## Times in text -/

/-- The units of time and their lengths in seconds. -/
def timeUnits : List (Char × Nat) := [('s', 1), ('m', 60), ('h', 3600)]

/-- A text writes a time of `n` seconds: a number and right behind it a unit, with blanks around. -/
def WritesTime (s : List Char) (n : Nat) : Prop :=
  ∃ number unit count length, trim s = number ++ [unit] ∧ WritesUnsigned number count ∧
    (unit, length) ∈ timeUnits ∧ n = count * length

/-- A text writes an interval of `n` seconds: a number and right behind it an `s`, with blanks
around. -/
def WritesInterval (s : List Char) (n : Nat) : Prop :=
  ∃ number, trim s = number ++ ['s'] ∧ WritesUnsigned number n

/-- A text writes a rate: before its first slash a number with blanks around, and after it a time.
Both have at most 64 bits, and the time is not zero. -/
def WritesRate (s : List Char) (times window : Nat) : Prop :=
  ∃ before after, s = before ++ '/' :: after ∧ '/' ∉ before ∧
    WritesUnsigned (trim before) times ∧ times < 2 ^ 64 ∧
    WritesTime after window ∧ 0 < window ∧ window < 2 ^ 64

theorem unitSeconds?_eq_some_iff :
    unitSeconds? unit = some length ↔ (unit, length) ∈ timeUnits := by
  unfold unitSeconds? timeUnits
  split
  case h_1 => simp [eq_comm]
  case h_2 => simp [eq_comm]
  case h_3 => simp [eq_comm]
  case h_4 hs hm hh =>
    refine iff_of_false nofun fun h ↦ ?_
    simp only [List.mem_cons, Prod.mk.injEq, List.not_mem_nil, or_false] at h
    rcases h with ⟨rfl, -⟩ | ⟨rfl, -⟩ | ⟨rfl, -⟩
    · exact hs rfl
    · exact hm rfl
    · exact hh rfl

theorem pos_of_mem_timeUnits (h : (unit, length) ∈ timeUnits) : 0 < length := by
  have hall : ∀ u ∈ timeUnits, 0 < u.2 := by decide
  exact hall _ h

/-- What is read of a text is read of the number and of the unit at its end. -/
theorem readDuration?_of_trim (h : trim s = number ++ [unit]) :
    readDuration? s = (readUnsigned? number).bind fun count ↦ (unitSeconds? unit).bind fun length ↦
      if count * length < wordSize then some (.ofSeconds (count * length)) else none := by
  unfold readDuration?
  dsimp only
  rw [h, List.getLast?_concat, List.dropLast_concat]
  dsimp only
  cases readUnsigned? number <;> cases unitSeconds? unit <;> rfl

/-- A time is read if it has at most 64 bits in seconds, and then it is what the text writes. -/
theorem readDuration?_eq_some_iff :
    readDuration? s = some d ↔ ∃ n, WritesTime s n ∧ n < 2 ^ 64 ∧ d = .ofSeconds n := by
  rcases List.eq_nil_or_concat' (trim s) with hnil | ⟨number, unit, htrim⟩
  · have hnone : readDuration? s = none := by
      unfold readDuration?
      rw [hnil]
      rfl
    rw [hnone]
    constructor
    · exact nofun
    · rintro ⟨n, ⟨number, unit, count, length, htrim, -⟩, -⟩
      rw [hnil] at htrim
      simp at htrim
  · rw [readDuration?_of_trim htrim]
    constructor
    · intro h
      obtain ⟨count, hcount, h⟩ := Option.bind_eq_some_iff.mp h
      obtain ⟨length, hlength, h⟩ := Option.bind_eq_some_iff.mp h
      obtain ⟨hlt, hd⟩ := Option.ite_none_right_eq_some.mp h
      exact ⟨_, ⟨number, unit, count, length, htrim, (readUnsigned?_eq_some_iff.mp hcount).1,
        unitSeconds?_eq_some_iff.mp hlength, rfl⟩, hlt, (Option.some.inj hd).symm⟩
    · rintro ⟨n, ⟨number', unit', count, length, htrim', hcount, hlength, rfl⟩, hlt, rfl⟩
      obtain ⟨rfl, hunit⟩ := List.append_inj' (htrim.symm.trans htrim') rfl
      obtain rfl : unit = unit' := (List.cons.inj hunit).1
      have hle : count ≤ count * length :=
        Nat.le_mul_of_pos_right count (pos_of_mem_timeUnits hlength)
      rw [readUnsigned?_eq_some_iff.mpr ⟨hcount, hle.trans_lt hlt⟩,
        unitSeconds?_eq_some_iff.mpr hlength]
      exact if_pos hlt

/-! ## The interval -/

/-- Of the times up to ten seconds only those in seconds are as short. -/
theorem writesInterval_iff (hpos : 1 ≤ n) (hmax : n ≤ 10) :
    WritesInterval s n ↔ WritesTime s n := by
  constructor
  · rintro ⟨number, htrim, hnumber⟩
    exact ⟨number, 's', n, 1, htrim, hnumber, List.mem_cons_self, (Nat.mul_one n).symm⟩
  · rintro ⟨number, unit, count, length, htrim, hnumber, hunit, rfl⟩
    simp only [timeUnits, List.mem_cons, Prod.mk.injEq, List.not_mem_nil, or_false] at hunit
    rcases hunit with ⟨rfl, rfl⟩ | ⟨rfl, rfl⟩ | ⟨rfl, rfl⟩
    · exact ⟨number, htrim, (Nat.mul_one count).symm ▸ hnumber⟩
    · omega
    · omega

theorem effectiveInterval_of_writes (h : WritesInterval c.interval.toList n) (hpos : 1 ≤ n)
    (hmax : n ≤ 10) : c.effectiveInterval = (.ofSeconds n, []) := by
  have hread : readDuration? c.interval.toList = some (.ofSeconds n) :=
    readDuration?_eq_some_iff.mpr ⟨n, (writesInterval_iff hpos hmax).mp h, by omega, rfl⟩
  unfold effectiveInterval
  rw [hread]
  exact if_pos ⟨Nat.mul_le_mul_right _ hpos, Nat.mul_le_mul_right _ hmax⟩

theorem effectiveInterval_of_not_writes
    (h : ∀ n, WritesInterval c.interval.toList n → ¬(1 ≤ n ∧ n ≤ 10)) :
    c.effectiveInterval = effectiveInterval.fallback c := by
  unfold effectiveInterval
  split
  case h_1 d hread =>
    obtain ⟨n, hwrites, -, rfl⟩ := readDuration?_eq_some_iff.mp hread
    refine if_neg fun ⟨hpos, hmax⟩ ↦ ?_
    have hrange : 1 ≤ n ∧ n ≤ 10 :=
      ⟨Nat.le_of_mul_le_mul_right hpos (by decide), Nat.le_of_mul_le_mul_right hmax (by decide)⟩
    exact h n ((writesInterval_iff hrange.1 hrange.2).mpr hwrites) hrange
  case h_2 => rfl

/-- Whatever is written, the interval has from one to ten seconds. -/
theorem exists_effectiveInterval_eq (c : Config) :
    ∃ n, 1 ≤ n ∧ n ≤ 10 ∧ c.effectiveInterval.1 = .ofSeconds n := by
  by_cases h : ∃ n, WritesInterval c.interval.toList n ∧ 1 ≤ n ∧ n ≤ 10
  · obtain ⟨n, hwrites, hpos, hmax⟩ := h
    exact ⟨n, hpos, hmax, by rw [effectiveInterval_of_writes hwrites hpos hmax]⟩
  · have hnot := effectiveInterval_of_not_writes fun n hn hrange ↦ h ⟨n, hn, hrange⟩
    exact ⟨7, by decide, by decide, by rw [hnot]; rfl⟩

/-! ## The rate -/

theorem nanos_ofSeconds_pos_iff : 0 < (Duration.ofSeconds n).nanos ↔ 0 < n := by
  rw [Duration.nanos_ofSeconds, Duration.nanosPerSecond]
  omega

theorem readRate?_eq (s : List Char) : readRate? s =
    (splitFirst '/' s).bind fun parts ↦ (readUnsigned? (trim parts.1)).bind fun times ↦
      (readDuration? parts.2).bind fun window ↦
        if window.nanos = 0 then none else some ⟨times, window⟩ := by
  unfold readRate?
  cases splitFirst '/' s with
  | none => rfl
  | some parts =>
      obtain ⟨before, after⟩ := parts
      dsimp only [Option.bind_some]
      cases readUnsigned? (trim before) <;> cases readDuration? after <;> rfl

/-- What is read as a rate is what the text writes. -/
theorem readRate?_eq_some_iff : readRate? s = some rate ↔
    ∃ times window, WritesRate s times window ∧ rate = ⟨times, .ofSeconds window⟩ := by
  rw [readRate?_eq]
  constructor
  · intro h
    obtain ⟨⟨before, after⟩, hsplit, h⟩ := Option.bind_eq_some_iff.mp h
    obtain ⟨times, htimes, h⟩ := Option.bind_eq_some_iff.mp h
    obtain ⟨d, hread, h⟩ := Option.bind_eq_some_iff.mp h
    obtain ⟨hzero, hrate⟩ := Option.ite_none_left_eq_some.mp h
    obtain ⟨hs, hfirst⟩ := splitFirst_eq_some_iff.mp hsplit
    obtain ⟨hwrites, hlt⟩ := readUnsigned?_eq_some_iff.mp htimes
    obtain ⟨window, htime, hmax, rfl⟩ := readDuration?_eq_some_iff.mp hread
    have hpos : 0 < window := nanos_ofSeconds_pos_iff.mp (Nat.pos_of_ne_zero hzero)
    exact ⟨times, window, ⟨before, after, hs, hfirst, hwrites, hlt, htime, hpos, hmax⟩,
      (Option.some.inj hrate).symm⟩
  · rintro ⟨times, window, ⟨before, after, hs, hfirst, hwrites, hlt, htime, hpos, hmax⟩, rfl⟩
    have hzero : (Duration.ofSeconds window).nanos ≠ 0 :=
      Nat.ne_of_gt (nanos_ofSeconds_pos_iff.mpr hpos)
    rw [splitFirst_eq_some_iff.mpr ⟨hs, hfirst⟩, Option.bind_some,
      readUnsigned?_eq_some_iff.mpr ⟨hwrites, hlt⟩, Option.bind_some,
      readDuration?_eq_some_iff.mpr ⟨window, htime, hmax, rfl⟩, Option.bind_some]
    exact if_neg hzero

theorem effectiveRate_of_writes (h : WritesRate c.rate.toList times window) :
    c.effectiveRate = (⟨times, .ofSeconds window⟩, []) := by
  unfold effectiveRate
  rw [readRate?_eq_some_iff.mpr ⟨times, window, h, rfl⟩]

theorem effectiveRate_of_not_writes (h : ¬∃ times window, WritesRate c.rate.toList times window) :
    c.effectiveRate =
      (.fallback, [.warn ("Invalid rate " ++ quoted c.rate ++ ", using 1/10s")]) := by
  have hnone : readRate? c.rate.toList = none := by
    refine Option.eq_none_iff_forall_ne_some.mpr fun rate hread ↦ ?_
    obtain ⟨times, window, hwrites, -⟩ := readRate?_eq_some_iff.mp hread
    exact h ⟨times, window, hwrites⟩
  unfold effectiveRate
  rw [hnone]

/-- Whatever is written, the window has a second at least, and no number is cut. -/
theorem exists_effectiveRate_eq (c : Config) :
    ∃ times n, times < 2 ^ 64 ∧ 1 ≤ n ∧ n < 2 ^ 64 ∧ c.effectiveRate.1 = ⟨times, .ofSeconds n⟩ := by
  by_cases h : ∃ times window, WritesRate c.rate.toList times window
  · obtain ⟨times, window, hwrites⟩ := h
    obtain ⟨-, -, -, -, -, hlt, -, hpos, hmax⟩ := id hwrites
    exact ⟨times, window, hlt, hpos, hmax, by rw [effectiveRate_of_writes hwrites]⟩
  · exact ⟨1, 10, by decide, by decide, by decide, by rw [effectiveRate_of_not_writes h]; rfl⟩

/-! ## Both together -/

/-- The interval is a whole number of seconds from one to ten: the number that is written, if it is
in that range and an `s` stands right behind it, and otherwise seven, with a warning.  The rate is
the one that is written, as long as its numbers have at most 64 bits and its window is not empty,
and otherwise once in ten seconds, with a warning.  So a watch never waits for no time, and no
window is empty or cut. -/
theorem effective_as_written (c : Config) :
    (∃ n, 1 ≤ n ∧ n ≤ 10 ∧ c.effectiveInterval.1 = .ofSeconds n) ∧
    (∀ n, WritesInterval c.interval.toList n → 1 ≤ n → n ≤ 10 →
      c.effectiveInterval = (.ofSeconds n, [])) ∧
    ((∀ n, WritesInterval c.interval.toList n → ¬(1 ≤ n ∧ n ≤ 10)) → c.effectiveInterval =
      (.ofSeconds 7,
        [.warn ("Invalid interval " ++ quoted c.interval ++ ", using " ++ defaultIntervalText)])) ∧
    (∃ times n, times < 2 ^ 64 ∧ 1 ≤ n ∧ n < 2 ^ 64 ∧
      c.effectiveRate.1 = ⟨times, .ofSeconds n⟩) ∧
    (∀ times window, WritesRate c.rate.toList times window →
      c.effectiveRate = (⟨times, .ofSeconds window⟩, [])) ∧
    ((¬∃ times window, WritesRate c.rate.toList times window) → c.effectiveRate =
      (⟨1, .ofSeconds 10⟩, [.warn ("Invalid rate " ++ quoted c.rate ++ ", using 1/10s")])) ∧
    0 < (Watch.ofConfig c).1.interval.nanos ∧
    0 < (Watch.ofConfig c).1.dispatcher.limiter.rate.window.nanos := by
  refine ⟨exists_effectiveInterval_eq c, fun n ↦ effectiveInterval_of_writes,
    effectiveInterval_of_not_writes, exists_effectiveRate_eq c,
    fun times window ↦ effectiveRate_of_writes, effectiveRate_of_not_writes, ?_, ?_⟩
  · obtain ⟨n, hpos, -, heq⟩ := exists_effectiveInterval_eq c
    change 0 < c.effectiveInterval.1.nanos
    rw [heq]
    exact nanos_ofSeconds_pos_iff.mpr hpos
  · obtain ⟨times, n, -, hpos, -, heq⟩ := exists_effectiveRate_eq c
    change 0 < c.effectiveRate.1.window.nanos
    rw [heq]
    exact nanos_ofSeconds_pos_iff.mpr hpos

/-- Blanks around the interval and the rate, a plus sign and zeros in front. -/
def loose : Config := { fresh with interval := " +03s\t", rate := " 5 / 002h" }

/-- An interval in minutes, and a rate whose window has `2 ^ 64 + 44` seconds. -/
def excessive : Config := { fresh with interval := "1m", rate := "1/307445734561825861m" }

/-- The first is read as what it writes.  Neither part of the second is written by the grammar, so
it has the interval and the rate for that case, and its window is not cut to 44 seconds. -/
theorem effective_as_written_of_loose_and_excessive :
    (WritesInterval loose.interval.toList 3 ∧ loose.effectiveInterval = (.ofSeconds 3, [])) ∧
    (WritesRate loose.rate.toList 5 7200 ∧
      loose.effectiveRate = (⟨5, .ofSeconds 7200⟩, [])) ∧
    ((∀ n, WritesInterval excessive.interval.toList n → ¬(1 ≤ n ∧ n ≤ 10)) ∧
      excessive.effectiveInterval.1 = .ofSeconds 7) ∧
    (¬∃ times window, WritesRate excessive.rate.toList times window) ∧
      excessive.effectiveRate.1 = ⟨1, .ofSeconds 10⟩ := by
  have hinterval : WritesInterval loose.interval.toList 3 :=
    ⟨['+', '0', '3'], by decide, ['+'], ['0', '3'], rfl, .inr rfl, by decide, by decide, by decide⟩
  have hrate : WritesRate loose.rate.toList 5 7200 := by
    refine ⟨[' ', '5', ' '], [' ', '0', '0', '2', 'h'], by decide, by decide, ?_, by decide, ?_,
      by decide, by decide⟩
    · exact ⟨[], ['5'], by decide, .inl rfl, by decide, by decide, by decide⟩
    · exact ⟨['0', '0', '2'], 'h', 2, 3600, by decide,
        ⟨[], ['0', '0', '2'], rfl, .inl rfl, by decide, by decide, by decide⟩, by decide, rfl⟩
  have hminute : ∀ n, WritesInterval excessive.interval.toList n → ¬(1 ≤ n ∧ n ≤ 10) := by
    rintro n ⟨number, htrim, -⟩
    have hlast := congrArg List.getLast? htrim
    rw [List.getLast?_concat] at hlast
    exact absurd hlast (by decide)
  have hcut : ¬∃ times window, WritesRate excessive.rate.toList times window := by
    rintro ⟨times, window, hwrites⟩
    have hread := readRate?_eq_some_iff.mpr ⟨times, window, hwrites, rfl⟩
    have hnone : readRate? excessive.rate.toList = none := by decide +kernel
    rw [hnone] at hread
    cases hread
  obtain ⟨-, hreads, -, -, hrates, -⟩ := effective_as_written loose
  obtain ⟨-, -, hdefault, -, -, hfallback, -⟩ := effective_as_written excessive
  exact ⟨⟨hinterval, hreads 3 hinterval (by decide) (by decide)⟩, ⟨hrate, hrates 5 7200 hrate⟩,
    ⟨hminute, by rw [hdefault hminute]⟩, hcut, by rw [hfallback hcut]⟩

end Config

end HostWatch
