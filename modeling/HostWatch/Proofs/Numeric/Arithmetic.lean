import HostWatch.Proofs.Numeric.Rounding
import Mathlib.Algebra.Order.Floor.Semifield
import Mathlib.Data.Rat.Floor
/-!
# Arithmetic on nonnegative numbers

What the operations come to where no number is negative and none is too great to be finite: one
rounding of the exact result, which is no rounding at all where the result is a magnitude.
-/

namespace HostWatch

variable {num den n r : Nat}

/-! ## Finite results -/

theorem le_blockSize_pow (h : n ≤ blockSize ^ 3) : n ≤ blockSize ^ 19 :=
  h.trans (Nat.pow_le_pow_right (by decide) (by decide))

/-- A magnitude far below the infinite ones is finite. -/
theorem lt_infinityRank_of_scaled_le (h : scaled r ≤ blockSize ^ 19 * unitsPerOne) :
    r < infinityRank := by
  have hfactor : blockSize ^ 19 < blockSize ^ 19 * 2 ^ 36 :=
    (Nat.lt_mul_iff_one_lt_right (Nat.pow_pos (by decide))).mpr (by decide)
  rw [← scaled_lt_scaled, scaled_infinityRank]
  exact h.trans_lt (Nat.mul_lt_mul_of_pos_right hfactor unitsPerOne_pos)

/-- A magnitude times a power of 1024 is a magnitude. -/
theorem exists_scaled_mul_pow_1024 (r k : Nat) : ∃ s, scaled s = scaled r * 1024 ^ k :=
  exists_scaled_mul_pow r 10 k

/-- A magnitude times the units of one is a magnitude. -/
theorem exists_scaled_mul_units (r : Nat) : ∃ s, scaled s = scaled r * unitsPerOne := by
  obtain ⟨s, hs⟩ := exists_scaled_mul_pow r 52 20
  obtain ⟨t, ht⟩ := exists_scaled_mul_two_pow s 34
  exact ⟨t, by rw [ht, hs, unitsPerOne_eq, blockSize_eq, Nat.mul_assoc]⟩

/-- Values far below the infinite ones are rounded to finite ones. -/
theorem nearestRank_lt_infinityRank (hden : 0 < den)
    (h : num ≤ blockSize ^ 19 * unitsPerOne * den) : nearestRank num den < infinityRank := by
  obtain ⟨r, hr⟩ := exists_scaled_mul_pow 1 52 19
  obtain ⟨s, hs⟩ := exists_scaled_mul_units r
  rw [hr, scaled_of_le (r := 1) (by decide), Nat.one_mul, ← blockSize_eq] at hs
  refine (nearestRank_le hden (r := s) ?_).trans_lt (lt_infinityRank_of_scaled_le hs.le)
  rwa [hs]

/-! ## Whole numbers -/

/-- A whole number as it is rounded, in units of `1 / unitsPerOne`. -/
def counted (n : Nat) : Nat := scaled (nearestRank (n * unitsPerOne) 1)

theorem counted_mono {m : Nat} (h : n ≤ m) : counted n ≤ counted m :=
  scaled_le_scaled.mpr (nearestRank_mono_left Nat.one_pos (Nat.mul_le_mul_right _ h))

/-- A whole number that is a magnitude is not rounded. -/
theorem counted_of_scaled (h : scaled r = n) : counted n = n * unitsPerOne := by
  obtain ⟨s, hs⟩ := exists_scaled_mul_units r
  rw [counted, nearestRank_of_scaled Nat.one_pos (r := s) (by rw [hs, h, Nat.mul_one]), hs, h]

theorem counted_of_le (h : n ≤ 2 * blockSize) : counted n = n * unitsPerOne :=
  counted_of_scaled (scaled_of_le h)

theorem le_counted_iff {m : Nat} (h : m ≤ 2 * blockSize) : m * unitsPerOne ≤ counted n ↔ m ≤ n := by
  constructor
  · intro hle
    by_contra hlt
    rw [counted_of_le (by omega)] at hle
    exact hlt (Nat.le_of_mul_le_mul_right hle unitsPerOne_pos)
  · intro hle
    rw [← counted_of_le h]
    exact counted_mono hle

/-- A whole number is off its rounded one by at most one part in `2 ^ 53`. -/
theorem counted_near (n : Nat) :
    2 * blockSize * counted n ≤ 2 * blockSize * (n * unitsPerOne) + n * unitsPerOne ∧
      2 * blockSize * (n * unitsPerOne) ≤ 2 * blockSize * counted n + n * unitsPerOne := by
  rcases Nat.eq_zero_or_pos n with rfl | hn
  · simp [counted_of_le (Nat.zero_le _)]
  · have hlarge : blockSize * 1 ≤ n * unitsPerOne := by
      have hone : blockSize * 1 ≤ unitsPerOne := le_unitsPerOne (by decide)
      exact hone.trans (Nat.le_mul_of_pos_left _ hn)
    simpa only [Nat.mul_one, counted] using scaled_nearestRank_near Nat.one_pos hlarge

theorem exists_unitsPerOne_eq : ∃ e, unitsPerOne = 2 ^ e := by
  have hpow : ∀ a b c, ∃ e, (2 ^ a) ^ b * 2 ^ c = 2 ^ e := fun a b c ↦
    ⟨a * b + c, by rw [Nat.pow_add, Nat.pow_mul]⟩
  obtain ⟨e, he⟩ := hpow 52 20 34
  exact ⟨e, by rw [unitsPerOne_eq, blockSize_eq, he]⟩

/-- A whole number is rounded to a whole number. -/
theorem unitsPerOne_dvd_counted (n : Nat) : unitsPerOne ∣ counted n := by
  obtain ⟨e, he⟩ := exists_unitsPerOne_eq
  have hblock := inBlock_log2 Nat.one_pos (n * unitsPerOne)
  generalize Nat.log2 (n * unitsPerOne / 1) - 52 = k at hblock
  rw [counted, hblock.scaled_nearestRank Nat.one_pos, Nat.one_mul, he]
  rcases Nat.le_total k e with hle | hle
  · -- Steps of less than one do not round a whole number.
    obtain ⟨c, hc⟩ := Nat.pow_dvd_pow 2 hle
    rw [hc, Nat.mul_comm (2 ^ k), ← Nat.mul_assoc, roundHalfEven_mul_self (Nat.two_pow_pos k)]
    exact Nat.mul_dvd_mul_right (Nat.dvd_mul_left c n) _
  · exact Nat.dvd_mul_left_of_dvd (Nat.pow_dvd_pow 2 hle) _

/-! ## Quotients of whole numbers -/

/-- The whole part of a quotient that is rounded before its fraction is cut off. -/
def wholeQuotient (num den : Nat) : Nat :=
  scaled (nearestRank (num * unitsPerOne) den) / unitsPerOne

theorem wholeQuotient_mono {num' : Nat} (hden : 0 < den) (h : num ≤ num') :
    wholeQuotient num den ≤ wholeQuotient num' den :=
  Nat.div_le_div_right (scaled_le_scaled.mpr
    (nearestRank_mono_left hden (Nat.mul_le_mul_right _ h)))

theorem wholeQuotient_mul_mul {c : Nat} (hc : 0 < c) (num den : Nat) :
    wholeQuotient (num * c) (den * c) = wholeQuotient num den := by
  rw [wholeQuotient, Nat.mul_right_comm, nearestRank_mul_mul hc, wholeQuotient]

/-- A quotient from a whole number on is rounded to no less, if the whole number is a magnitude. -/
theorem le_wholeQuotient (hden : 0 < den) (hn : n ≤ 2 * blockSize) (h : n * den ≤ num) :
    n ≤ wholeQuotient num den := by
  obtain ⟨r, hr⟩ := exists_scaled_mul_units n
  rw [scaled_of_le hn] at hr
  rw [wholeQuotient, Nat.le_div_iff_mul_le unitsPerOne_pos, ← hr, scaled_le_scaled]
  refine le_nearestRank hden ?_
  rw [hr, Nat.mul_right_comm]
  exact Nat.mul_le_mul_right _ h

/-- The rounding of a quotient below a whole number does not reach it: the quotient is one part in
`den` away at least, and is rounded by less than that, as its numerator has at most 53 bits. -/
theorem wholeQuotient_lt (hden : 0 < den) (hden' : den ≤ 2 * blockSize) (hnum : num < 2 * blockSize)
    (h : num < n * den) : wholeQuotient num den < n := by
  rcases Nat.eq_zero_or_pos num with rfl | hpos
  · rw [wholeQuotient, Nat.zero_mul, nearestRank_zero, scaled_zero, Nat.zero_div]
    exact Nat.pos_of_mul_pos_right h
  have hlarge : blockSize * den ≤ num * unitsPerOne :=
    calc blockSize * den ≤ blockSize * (2 * blockSize) := Nat.mul_le_mul_left _ hden'
      _ ≤ unitsPerOne := le_unitsPerOne (by decide)
      _ ≤ num * unitsPerOne := Nat.le_mul_of_pos_left _ hpos
  have hnear := (scaled_nearestRank_near hden hlarge).1
  have hslack : num * unitsPerOne < 2 * blockSize * unitsPerOne :=
    Nat.mul_lt_mul_of_pos_right hnum unitsPerOne_pos
  have hnext : (num + 1) * unitsPerOne ≤ n * den * unitsPerOne := Nat.mul_le_mul_right _ h
  rw [wholeQuotient, Nat.div_lt_iff_lt_mul unitsPerOne_pos]
  apply Nat.lt_of_mul_lt_mul_left (a := 2 * blockSize * den)
  calc 2 * blockSize * den * scaled (nearestRank (num * unitsPerOne) den)
      = 2 * blockSize * (scaled (nearestRank (num * unitsPerOne) den) * den) := by ring
    _ ≤ 2 * blockSize * (num * unitsPerOne) + num * unitsPerOne := hnear
    _ < 2 * blockSize * ((num + 1) * unitsPerOne) := by
        rw [Nat.add_one_mul num unitsPerOne, Nat.mul_add]
        exact Nat.add_lt_add_left hslack _
    _ ≤ 2 * blockSize * (n * den * unitsPerOne) := Nat.mul_le_mul_left _ hnext
    _ = 2 * blockSize * den * (n * unitsPerOne) := by ring

/-- Rounding does not change the whole part of a quotient of numbers of at most 53 bits. -/
theorem wholeQuotient_eq_div (hden : 0 < den) (hden' : den ≤ 2 * blockSize)
    (hnum : num < 2 * blockSize) : wholeQuotient num den = num / den := by
  have hle : num / den ≤ 2 * blockSize := (Nat.div_le_self num den).trans hnum.le
  refine Nat.le_antisymm ?_ (le_wholeQuotient hden hle (Nat.div_mul_le_self num den))
  exact Nat.le_of_lt_succ (wholeQuotient_lt hden hden' hnum
    (Nat.lt_mul_of_div_lt (Nat.lt_succ_self _) hden))

namespace Binary64

theorem ofRank_of_lt (negative : Bool) (h : r < infinityRank) :
    ofRank negative r = .finite negative ⟨r, h⟩ := dif_pos h

@[simp] theorem ofRank_val (negative : Bool) (r : Fin infinityRank) :
    ofRank negative r.val = .finite negative r := ofRank_of_lt negative r.isLt

theorem ofRank_zero (negative : Bool) : ofRank negative 0 = .finite negative ⟨0, by decide⟩ :=
  ofRank_of_lt negative (by decide)

/-- Whole numbers far below the infinite ones are finite. -/
theorem exists_ofNat_eq (h : n ≤ blockSize ^ 19) :
    ∃ r : Fin infinityRank, ofNat n = .finite false r ∧ scaled r.val = counted n := by
  have hlt : nearestRank (n * unitsPerOne) 1 < infinityRank :=
    nearestRank_lt_infinityRank Nat.one_pos (by
      rw [Nat.mul_one]
      exact Nat.mul_le_mul_right _ h)
  exact ⟨⟨_, hlt⟩, ofRank_of_lt false hlt, rfl⟩

/-- Whole numbers that are magnitudes are not rounded. -/
theorem exists_ofNat_eq_of_scaled (hr : scaled r = n) (h : n ≤ blockSize ^ 19) :
    ∃ s : Fin infinityRank, ofNat n = .finite false s ∧ scaled s.val = n * unitsPerOne := by
  obtain ⟨s, hs, hcounted⟩ := exists_ofNat_eq h
  exact ⟨s, hs, hcounted.trans (counted_of_scaled hr)⟩

/-- Positive whole numbers of at most 53 bits are neither rounded nor zero. -/
theorem exists_ofNat_eq_of_pos (hn : 0 < n) (h : n ≤ 2 * blockSize) :
    ∃ b : Fin infinityRank, ofNat n = .finite false b ∧ scaled b.val = n * unitsPerOne ∧
      b.val ≠ 0 := by
  obtain ⟨b, hb, hscaled⟩ := exists_ofNat_eq_of_scaled (scaled_of_le h)
    (le_blockSize_pow (h.trans (by decide)))
  refine ⟨b, hb, hscaled, scaled_pos_iff.mp ?_⟩
  rw [hscaled]
  exact Nat.mul_pos hn unitsPerOne_pos

theorem ofNat_zero : ofNat 0 = zero := by
  rw [ofNat, ofRatio, Nat.zero_mul, nearestRank_zero]
  exact ofRank_zero false

/-! ## Operations -/

variable {a b : Fin infinityRank}

theorem le_finite : (finite false a).le (finite false b) = true ↔ a.val ≤ b.val := by
  simp [le, position?]

theorem lt_finite : (finite false a).lt (finite false b) = true ↔ a.val < b.val := by
  simp [lt, position?]

/-- No number that is not negative is below zero. -/
theorem zero_le_finite : zero.le (finite false a) = true := le_finite.mpr (Nat.zero_le _)

theorem finite_mul_finite (s t : Bool) : finite s a * finite t b =
    ofRank (s != t) (nearestRank (scaled a.val * scaled b.val) unitsPerOne) := by
  change mul (finite s a) (finite t b) = _
  rw [mul]

theorem finite_div_finite (hb : b.val ≠ 0) (s t : Bool) : finite s a / finite t b =
    ofRank (s != t) (nearestRank (scaled a.val * unitsPerOne) (scaled b.val)) := by
  change div (finite s a) (finite t b) = _
  rw [div, if_neg hb]

/-- Zero over a number that is not zero is zero. -/
theorem zero_div_finite (hb : b.val ≠ 0) : zero / finite false b = zero := by
  change finite false _ / finite false b = _
  rw [finite_div_finite hb, scaled_zero, Nat.zero_mul, nearestRank_zero, ofRank_zero]
  rfl

theorem finite_add_zero (a : Fin infinityRank) : finite false a + zero = finite false a := by
  have hsum : units false a + units false ⟨0, by decide⟩ = scaled a.val := by simp [units]
  change add (finite false a) (finite false _) = _
  rw [add, hsum]
  split_ifs with hzero
  · have ha : a = ⟨0, by decide⟩ := Fin.ext (scaled_inj.mp (by simpa using hzero))
    rw [ha]
    rfl
  · have hrank : nearestRank (scaled a.val) 1 = a.val :=
      nearestRank_of_scaled Nat.one_pos (Nat.mul_one _)
    have hsign : decide ((scaled a.val : Int) < 0) = false := by simp
    rw [hsign, Int.natAbs_natCast, hrank, ofRank_val]

/-- No rounded whole number changes where a zero is added. -/
theorem ofNat_add_zero (n : Nat) : ofNat n + zero = ofNat n := by
  change ofRank false _ + zero = ofRank false _
  unfold ofRank
  split_ifs
  · exact finite_add_zero _
  · rfl

/-! ## Values -/

theorem exists_eq_finite {x : Binary64} (hx : x.isFinite = true) : ∃ s r, x = .finite s r := by
  cases x with
  | nan => cases hx
  | infinite s => cases hx
  | finite s r => exact ⟨s, r, rfl⟩

/-- The exact value of a finite number. -/
def toRat : Binary64 → ℚ
  | .finite negative r => (if negative then -1 else 1) * (scaled r.val / unitsPerOne)
  | _ => 0

theorem toRat_zero (negative : Bool) : (finite negative ⟨0, by decide⟩).toRat = 0 := by
  rw [toRat, scaled_zero, Nat.cast_zero, zero_div, mul_zero]

/-- A number that is finite and not below zero is positive, or a zero of either sign. -/
theorem cases_of_zero_le {x : Binary64} (hx : x.isFinite = true) (h : zero.le x = true) :
    (∃ r, x = .finite false r) ∨ x = .finite true ⟨0, by decide⟩ := by
  obtain ⟨s, r, rfl⟩ := exists_eq_finite hx
  cases s with
  | false => exact .inl ⟨r, rfl⟩
  | true =>
      right
      have hr : r.val = 0 := by simpa [le, zero, position?] using h
      exact congrArg (Binary64.finite true) (Fin.ext hr)

/-- The whole part of a number times a power of two. -/
theorem floor_toRat_mul (r : Fin infinityRank) (n : Nat) :
    ⌊(finite false r).toRat * n⌋₊ = scaled r.val * n / unitsPerOne := by
  have hvalue : (finite false r).toRat * n = ((scaled r.val * n : Nat) : ℚ) / unitsPerOne := by
    simp only [toRat, Bool.false_eq_true, if_false, one_mul]
    push_cast
    ring
  rw [hvalue, Nat.floor_div_eq_div]

/-- Cutting off the fraction of a great number gives the greatest answer, as it would if there were
no infinity. -/
theorem truncate_ofRank {cap : Nat} (hcap : cap ≤ blockSize ^ 19) (r : Nat) :
    (ofRank false r).truncate cap = min cap (scaled r / unitsPerOne) := by
  unfold ofRank
  split_ifs with h
  · rfl
  · have hgreat : blockSize ^ 19 ≤ scaled r / unitsPerOne := by
      rw [Nat.le_div_iff_mul_le unitsPerOne_pos]
      have hle := scaled_le_scaled.mpr (Nat.not_lt.mp h)
      rw [scaled_infinityRank] at hle
      exact (Nat.mul_le_mul_right _ (Nat.le_mul_of_pos_right _ (by decide))).trans hle
    exact (Nat.min_eq_left (hcap.trans hgreat)).symm

/-- The whole part of a quotient of numbers. -/
theorem truncate_div {cap : Nat} (hcap : cap ≤ blockSize ^ 19) (hb : b.val ≠ 0) :
    (finite false a / finite false b).truncate cap =
      min cap (wholeQuotient (scaled a.val) (scaled b.val)) := by
  rw [finite_div_finite hb]
  exact truncate_ofRank hcap _

/-- Over a number that is not at most zero, a greater number has no lesser whole part. -/
theorem truncate_div_mono {a' : Fin infinityRank} {x : Binary64} {cap : Nat}
    (hcap : cap ≤ blockSize ^ 19) (hx : x.le zero = false) (h : a.val ≤ a'.val) :
    (finite false a / x).truncate cap ≤ (finite false a' / x).truncate cap := by
  cases x with
  | nan => exact le_rfl
  | infinite negative => exact le_rfl
  | finite negative b =>
      cases negative with
      | true => simp [le, zero, position?] at hx
      | false =>
          have hb : b.val ≠ 0 := by
            intro hzero
            rw [zero, le_finite.mpr hzero.le] at hx
            cases hx
          rw [truncate_div hcap hb, truncate_div hcap hb]
          exact min_le_min_left cap
            (wholeQuotient_mono (scaled_pos_iff.mpr hb) (scaled_le_scaled.mpr h))

/-- A product with a power of two is exact, so its whole part is that of the exact product. -/
theorem truncate_mul_pow {x : Binary64} (hx : x.isFinite = true) (h : zero.le x = true)
    {cap p : Nat} (hcap : cap ≤ blockSize ^ 19) (hp : p ≤ 4) :
    (x * ofNat (1024 ^ p)).truncate cap = min cap ⌊x.toRat * (1024 ^ p : Nat)⌋₊ := by
  obtain ⟨factor, hone⟩ : ∃ r, scaled r = 1024 ^ p := by
    simpa only [scaled_of_le (show 1 ≤ 2 * blockSize by decide), Nat.one_mul] using
      exists_scaled_mul_pow_1024 1 p
  have hsmall : 1024 ^ p ≤ blockSize ^ 19 :=
    (Nat.pow_le_pow_right (by decide) hp).trans (le_blockSize_pow (by decide))
  obtain ⟨b, hb, hfactor⟩ := exists_ofNat_eq_of_scaled hone hsmall
  have hproduct : ∀ a r, scaled r = scaled a * 1024 ^ p →
      nearestRank (scaled a * scaled b.val) unitsPerOne = r := by
    intro a r hr
    refine nearestRank_of_scaled unitsPerOne_pos ?_
    rw [hr, hfactor, Nat.mul_assoc]
  rw [hb]
  rcases cases_of_zero_le hx h with ⟨a, rfl⟩ | rfl
  · obtain ⟨r, hr⟩ := exists_scaled_mul_pow_1024 a.val p
    rw [finite_mul_finite, hproduct a.val r hr, floor_toRat_mul]
    exact (truncate_ofRank hcap r).trans (by rw [hr])
  · have hzero : nearestRank (scaled 0 * scaled b.val) unitsPerOne = 0 :=
      hproduct 0 0 (by simp)
    rw [finite_mul_finite, hzero, ofRank_zero, toRat_zero, zero_mul, Nat.floor_zero, Nat.min_zero]
    rfl

end Binary64

end HostWatch
