import HostWatch.Proofs.Numeric.Arithmetic
import HostWatch.Proofs.Numeric.Decimal
import HostWatch.Text.Number
import Mathlib.Data.Nat.Log
/-!
# Bytes in tenths of a unit

A count of bytes is shown in tenths of the greatest unit that it reaches.  The count is rounded to a
number of binary64 and then to tenths; the tenths are rounded to a number of binary64 again, and the
fraction of a byte is cut off.  The bytes that come back are at most a tenth of the unit away, keep
the order of the counts, and are the same again when they are shown once more.
-/

namespace HostWatch.Size

variable {n m i j q : Nat}

/-! ## The greatest unit -/

/-- The power of 1024 of the greatest unit that a count of bytes reaches. -/
def unitPower (n : Nat) : Nat := min 4 (Nat.log 1024 n)

/-- The count reaches this unit and no greater one. -/
structure InUnit (n i : Nat) : Prop where
  power_le : i ≤ 4
  le : i = 0 ∨ 1024 ^ i ≤ n
  lt : i = 4 ∨ n < 1024 ^ (i + 1)

theorem InUnit.le_of_le (h : InUnit n i) (h' : InUnit m j) (hle : n ≤ m) : i ≤ j := by
  by_contra hlt
  have hbelow : m < 1024 ^ (j + 1) := h'.lt.resolve_left (by have := h.power_le; omega)
  have habove : 1024 ^ i ≤ n := h.le.resolve_left (by omega)
  have hpow : 1024 ^ (j + 1) ≤ 1024 ^ i := Nat.pow_le_pow_right (by decide) (by omega)
  omega

theorem inUnit_unitPower (n : Nat) : InUnit n (unitPower n) := by
  refine ⟨Nat.min_le_left _ _, ?_, ?_⟩
  · rcases Nat.eq_zero_or_pos n with rfl | hn
    · exact .inl (by simp [unitPower])
    · exact .inr ((Nat.pow_le_pow_right (by decide) (Nat.min_le_right _ _)).trans
        (Nat.pow_log_le_self 1024 hn.ne'))
  · rcases Nat.lt_or_ge (Nat.log 1024 n) 4 with h | h
    · right
      rw [unitPower, Nat.min_eq_right h.le]
      exact Nat.lt_pow_succ_log_self (by decide) n
    · exact .inl (Nat.min_eq_left h)

theorem InUnit.unitPower_eq (h : InUnit n i) : unitPower n = i :=
  Nat.le_antisymm ((inUnit_unitPower n).le_of_le h le_rfl) (h.le_of_le (inUnit_unitPower n) le_rfl)

theorem inUnit_pow (h : i ≤ 4) : InUnit (1024 ^ i) i :=
  ⟨h, .inr le_rfl, .inr (Nat.pow_lt_pow_right (by decide) (Nat.lt_succ_self i))⟩

/-! ## What is shown and what is read -/

/-- A count in tenths of a unit. -/
def tenths (n i : Nat) : Nat := roundHalfEven (counted n * 10) (1024 ^ i * unitsPerOne)

/-- Tenths of a unit in whole bytes. -/
def wholeBytes (q i : Nat) : Nat :=
  scaled (nearestRank (q * unitsPerOne) 10) * 1024 ^ i / unitsPerOne

/-- The bytes that are read where a count is shown. -/
def regained (n : Nat) : Nat := min (wholeBytes (tenths n (unitPower n)) (unitPower n)) wordMax

theorem step_pos (i : Nat) : 0 < 1024 ^ i * unitsPerOne :=
  Nat.mul_pos (Nat.pow_pos (by decide)) unitsPerOne_pos

theorem tenths_mono (h : n ≤ m) (i : Nat) : tenths n i ≤ tenths m i :=
  roundHalfEven_mono (Nat.mul_le_mul_right _ (counted_mono h)) _

theorem wholeBytes_mono {q' : Nat} (h : q ≤ q') (i : Nat) : wholeBytes q i ≤ wholeBytes q' i :=
  Nat.div_le_div_right (Nat.mul_le_mul_right _ (scaled_le_scaled.mpr
    (nearestRank_mono_left (by decide) (Nat.mul_le_mul_right _ h))))

/-! ### Counts that are numbers of binary64 -/

theorem tenths_of_scaled {r : Nat} (h : scaled r = m * 1024 ^ i) :
    tenths (m * 1024 ^ i) i = 10 * m := by
  have hcounted : counted (m * 1024 ^ i) * 10 = 10 * m * (1024 ^ i * unitsPerOne) := by
    rw [counted_of_scaled h]
    ring
  rw [tenths, hcounted, roundHalfEven_mul_self (step_pos i)]

theorem wholeBytes_of_scaled {r : Nat} (h : scaled r = m) (i : Nat) :
    wholeBytes (10 * m) i = m * 1024 ^ i := by
  obtain ⟨s, hs⟩ := exists_scaled_mul_units r
  have hrank : nearestRank (10 * m * unitsPerOne) 10 = s :=
    nearestRank_of_scaled (by decide) (by rw [hs, h]; ring)
  rw [wholeBytes, hrank, hs, h, Nat.mul_right_comm, Nat.mul_div_cancel _ unitsPerOne_pos]

/-! ### Counts that are not -/

theorem tenths_near (n i : Nat) :
    2 * (tenths n i * (1024 ^ i * unitsPerOne)) ≤ 20 * counted n + 1024 ^ i * unitsPerOne ∧
      20 * counted n ≤ 2 * (tenths n i * (1024 ^ i * unitsPerOne)) + 1024 ^ i * unitsPerOne := by
  have hnear := roundHalfEven_near (step_pos i) (counted n * 10)
  have htwice : 2 * (counted n * 10) = 20 * counted n := by ring
  rwa [htwice] at hnear

theorem wholeBytes_near (q i : Nat) :
    2 * blockSize * (10 * (wholeBytes q i * unitsPerOne)) ≤
        2 * blockSize * (q * (1024 ^ i * unitsPerOne)) + q * (1024 ^ i * unitsPerOne) ∧
      2 * blockSize * (q * (1024 ^ i * unitsPerOne)) ≤
        2 * blockSize * (10 * ((wholeBytes q i + 1) * unitsPerOne)) +
          q * (1024 ^ i * unitsPerOne) := by
  rcases Nat.eq_zero_or_pos q with rfl | hq
  · simp [wholeBytes, nearestRank_zero]
  have hlarge : blockSize * 10 ≤ q * unitsPerOne := by
    have hone : blockSize * 10 ≤ unitsPerOne := le_unitsPerOne (by decide)
    exact hone.trans (Nat.le_mul_of_pos_left _ hq)
  obtain ⟨hbelow, habove⟩ := scaled_nearestRank_near (by decide) hlarge
  have hbelow' := Nat.mul_le_mul_right (1024 ^ i) hbelow
  have habove' := Nat.mul_le_mul_right (1024 ^ i) habove
  have hfloor : wholeBytes q i * unitsPerOne ≤
      scaled (nearestRank (q * unitsPerOne) 10) * 1024 ^ i := Nat.div_mul_le_self _ _
  have hceil : scaled (nearestRank (q * unitsPerOne) 10) * 1024 ^ i ≤
      (wholeBytes q i + 1) * unitsPerOne :=
    (Nat.lt_mul_of_div_lt (Nat.lt_succ_self _) unitsPerOne_pos).le
  have hfloor' := Nat.mul_le_mul_left blockSize hfloor
  have hceil' := Nat.mul_le_mul_left blockSize hceil
  constructor <;> linarith

/-- The bytes that are read are at most a tenth of the unit away, where the count is no greater than
those of 64 bits. -/
theorem near_of_le (h : n ≤ 2 ^ 24 * 1024 ^ i) :
    wholeBytes (tenths n i) i ≤ n + 1024 ^ i / 10 + 1 ∧
      n ≤ wholeBytes (tenths n i) i + 1024 ^ i / 10 + 1 := by
  have hlimit := Nat.mul_le_mul_right unitsPerOne h
  obtain ⟨hcount, hcount'⟩ := counted_near n
  obtain ⟨htenths, htenths'⟩ := tenths_near n i
  obtain ⟨hread, hread'⟩ := wholeBytes_near (tenths n i) i
  simp only [blockSize] at *
  have hbelow : 19 * wholeBytes (tenths n i) i * unitsPerOne ≤
      (19 * n + 1024 ^ i) * unitsPerOne := by
    linarith
  have habove : 19 * n * unitsPerOne ≤
      (19 * (wholeBytes (tenths n i) i + 1) + 1024 ^ i) * unitsPerOne := by
    linarith
  have hbelow := Nat.le_of_mul_le_mul_right hbelow unitsPerOne_pos
  have habove := Nat.le_of_mul_le_mul_right habove unitsPerOne_pos
  omega

/-! ## Limits -/

theorem exists_scaled_eq (h : n ≤ 2 * blockSize) : ∃ r, scaled r = n := ⟨n, scaled_of_le h⟩

/-- Up to `2 ^ 64` bytes are no more than `2 ^ 24` of the greatest unit, and less than 1024 of any
other. -/
theorem InUnit.le_mul (h : InUnit n i) (hn : n ≤ wordMax) : n ≤ 2 ^ 24 * 1024 ^ i := by
  rcases h.lt with rfl | hlt
  · exact hn.trans (by decide)
  · rw [Nat.pow_succ'] at hlt
    have := Nat.pow_pos (n := i) (show 0 < 1024 by decide)
    omega

theorem tenths_pow (h : i ≤ 4) : tenths (1024 ^ i) i = 10 := by
  have hpow : 1024 ^ i ≤ 2 * blockSize := (Nat.pow_le_pow_right (by decide) h).trans (by decide)
  obtain ⟨r, hr⟩ := exists_scaled_eq hpow
  simpa using tenths_of_scaled (m := 1) (i := i) (r := r) (by rw [hr, Nat.one_mul])

theorem wholeBytes_ten (i : Nat) : wholeBytes 10 i = 1024 ^ i := by
  obtain ⟨r, hr⟩ := exists_scaled_eq (n := 1) (by decide)
  simpa using wholeBytes_of_scaled hr i

/-- At least one of the unit is shown. -/
theorem InUnit.ten_le_tenths (h : InUnit n i) (hi : i ≠ 0) : 10 ≤ tenths n i :=
  tenths_pow h.power_le ▸ tenths_mono (h.le.resolve_left hi) i

theorem pow_le_wholeBytes (h : 10 ≤ q) (i : Nat) : 1024 ^ i ≤ wholeBytes q i :=
  wholeBytes_ten i ▸ wholeBytes_mono h i

/-- At most as much of a unit is shown as comes to the next one. -/
theorem InUnit.tenths_le_of_ne (h : InUnit n i) (hi : i ≠ 4) : tenths n i ≤ 10240 := by
  have hpow : 1024 * 1024 ^ i ≤ 2 * blockSize := by
    rw [← Nat.pow_succ']
    exact (Nat.pow_le_pow_right (by decide) (show i + 1 ≤ 4 by have := h.power_le; omega)).trans
      (by decide)
  obtain ⟨r, hr⟩ := exists_scaled_eq hpow
  have htenths : tenths (1024 * 1024 ^ i) i = 10240 := tenths_of_scaled (m := 1024) hr
  refine htenths ▸ tenths_mono ?_ i
  rw [← Nat.pow_succ']
  exact (h.lt.resolve_left hi).le

theorem InUnit.tenths_le (h : InUnit n i) (hn : n ≤ wordMax) : tenths n i ≤ 10 * 2 ^ 24 := by
  obtain ⟨r, hr⟩ := exists_scaled_mul_pow_1024 (2 ^ 24) i
  rw [scaled_of_le (r := 2 ^ 24) (by decide)] at hr
  exact tenths_of_scaled hr ▸ tenths_mono (h.le_mul hn) i

theorem wholeBytes_1024 (i : Nat) : wholeBytes 10240 i = 1024 ^ (i + 1) := by
  obtain ⟨r, hr⟩ := exists_scaled_eq (n := 1024) (by decide)
  rw [Nat.pow_succ']
  exact wholeBytes_of_scaled hr i

/-! ## The trip through what is shown -/

theorem InUnit.regained_eq (h : InUnit n i) :
    regained n = min (wholeBytes (tenths n i) i) wordMax := by
  rw [regained, h.unitPower_eq]

/-- A greater count is read as no less. -/
theorem regained_mono (h : n ≤ m) : regained n ≤ regained m := by
  have hn := inUnit_unitPower n
  have hm := inUnit_unitPower m
  rw [hn.regained_eq, hm.regained_eq]
  refine min_le_min_right wordMax ?_
  rcases (hn.le_of_le hm h).eq_or_lt with heq | hlt
  · rw [heq]
    exact wholeBytes_mono (tenths_mono h _) _
  · -- What is read of a lesser unit comes to one of the greater unit at most.
    have hpower := hm.power_le
    calc wholeBytes (tenths n (unitPower n)) (unitPower n)
        ≤ 1024 ^ (unitPower n + 1) := by
          rw [← wholeBytes_1024]
          exact wholeBytes_mono (hn.tenths_le_of_ne (by omega)) _
      _ ≤ 1024 ^ unitPower m := Nat.pow_le_pow_right (by decide) hlt
      _ ≤ wholeBytes (tenths m (unitPower m)) (unitPower m) :=
          pow_le_wholeBytes (hm.ten_le_tenths (by omega)) _

/-- What is read is at most a tenth of the unit away. -/
theorem regained_near (hn : n ≤ wordMax) :
    regained n ≤ n + 1024 ^ unitPower n / 10 + 1 ∧
      n ≤ regained n + 1024 ^ unitPower n / 10 + 1 := by
  have hunit := inUnit_unitPower n
  obtain ⟨hbelow, habove⟩ := near_of_le (hunit.le_mul hn)
  rw [hunit.regained_eq]
  omega

theorem pow_le_wordMax (h : i ≤ 4) : 1024 ^ i ≤ wordMax :=
  (Nat.pow_le_pow_right (by decide) h).trans (by decide)

/-- A unit is read back as it is. -/
theorem regained_pow (h : i ≤ 4) : regained (1024 ^ i) = 1024 ^ i := by
  rw [(inUnit_pow h).regained_eq, tenths_pow h, wholeBytes_ten, Nat.min_eq_left (pow_le_wordMax h)]

/-- Bytes below the first unit are read back as they are. -/
theorem regained_of_lt (h : n < 1024) : regained n = n := by
  have hunit : InUnit n 0 := ⟨Nat.zero_le 4, .inl rfl, .inr h⟩
  have hsmall : n ≤ wordMax := h.le.trans (by decide)
  obtain ⟨r, hr⟩ := exists_scaled_eq (n := n) (h.le.trans (by decide))
  have htenths : tenths n 0 = 10 * n := by
    simpa using tenths_of_scaled (m := n) (i := 0) (r := r) (by rw [hr, Nat.pow_zero, Nat.mul_one])
  rw [hunit.regained_eq, htenths, wholeBytes_of_scaled hr, Nat.pow_zero, Nat.mul_one,
    Nat.min_eq_left hsmall]

/-- Some tenths of a unit come to less than one tenth more does. -/
theorem wholeBytes_lt {k : Nat} (hq : q < 10 * k) (hk : k ≤ 2 ^ 24) (i : Nat) :
    wholeBytes q i < k * 1024 ^ i := by
  have hstep := Nat.mul_le_mul_right (1024 ^ i * unitsPerOne) (Nat.succ_le_of_lt hq)
  have hlimit := Nat.mul_le_mul_right (1024 ^ i * unitsPerOne) hk
  have hpos := step_pos i
  have hread := (wholeBytes_near q i).1
  simp only [blockSize] at hread
  have hlt : wholeBytes q i * unitsPerOne < k * 1024 ^ i * unitsPerOne := by
    rw [Nat.mul_assoc k]
    rw [Nat.succ_mul, Nat.mul_assoc 10] at hstep
    linarith
  exact Nat.lt_of_mul_lt_mul_right hlt

/-- Tenths of a unit above the first are shown again where their bytes are. -/
theorem tenths_wholeBytes (hi : i ≠ 0) (hq : q ≤ 10 * 2 ^ 24) : tenths (wholeBytes q i) i = q := by
  have hlimit := Nat.mul_le_mul_right (1024 ^ i * unitsPerOne) hq
  have hstep : 1024 * unitsPerOne ≤ 1024 ^ i * unitsPerOne :=
    Nat.mul_le_mul_right _ (Nat.le_self_pow hi 1024)
  obtain ⟨hcount, hcount'⟩ := counted_near (wholeBytes q i)
  obtain ⟨hread, hread'⟩ := wholeBytes_near q i
  have hpos := unitsPerOne_pos
  simp only [blockSize, Nat.add_one_mul (wholeBytes q i)] at *
  refine roundHalfEven_eq ?_ ?_
  · linarith
  · linarith

/-- The greatest count is shown as one more byte than it has, and is read back as it is. -/
theorem regained_wordMax : regained wordMax = wordMax := by
  have hunit : InUnit wordMax 4 := ⟨le_rfl, .inr (pow_le_wordMax le_rfl), .inl rfl⟩
  have htenths : tenths wordMax 4 = 10 * 2 ^ 24 := by decide +kernel
  obtain ⟨r, hr⟩ := exists_scaled_eq (n := 2 ^ 24) (by decide)
  rw [hunit.regained_eq, htenths, wholeBytes_of_scaled hr]
  decide

/-- What is read is read back as it is. -/
theorem regained_regained (hn : n ≤ wordMax) : regained (regained n) = regained n := by
  have hunit := inUnit_unitPower n
  by_cases hzero : unitPower n = 0
  · have hlt : n < 1024 := by simpa [hzero] using hunit.lt
    rw [regained_of_lt hlt, regained_of_lt hlt]
  generalize unitPower n = i at hunit hzero
  have hpower := hunit.power_le
  have hleast := hunit.ten_le_tenths hzero
  have hmost := hunit.tenths_le hn
  have hmost' := hunit.tenths_le_of_ne
  have hread := hunit.regained_eq
  generalize tenths n i = q at hleast hmost hmost' hread
  by_cases hfull : i ≠ 4 ∧ q = 10240
  · -- A whole unit more is shown, which is read as one of the next.
    have hnext : i + 1 ≤ 4 := by omega
    rw [hfull.2, wholeBytes_1024, Nat.min_eq_left (pow_le_wordMax hnext)] at hread
    rw [hread, regained_pow hnext]
  by_cases hcap : wordMax < wholeBytes q i
  · rw [hread, Nat.min_eq_right hcap.le, regained_wordMax]
  · rw [Nat.min_eq_left (Nat.not_lt.mp hcap)] at hread
    have hsame : InUnit (wholeBytes q i) i := by
      refine ⟨hpower, .inr (pow_le_wholeBytes hleast i), ?_⟩
      rw [Nat.pow_succ', or_iff_not_imp_left]
      exact fun hi ↦ wholeBytes_lt (by have := hmost' hi; omega) (by decide) i
    rw [hread, hsame.regained_eq, tenths_wholeBytes hzero hmost,
      Nat.min_eq_left (Nat.not_lt.mp hcap)]

end HostWatch.Size
