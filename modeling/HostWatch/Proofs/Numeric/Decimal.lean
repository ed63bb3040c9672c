import HostWatch.Numeric.Decimal
import HostWatch.Proofs.Numeric.Arithmetic
/-!
# Decimals that name a magnitude

A decimal is rounded to the rank of a magnitude, whichever of its trailing zeros are written as
digits and whichever as a power of ten.  The fewest digits of a magnitude name it, since the search
for them asks exactly that.
-/

namespace HostWatch

variable {tie : TieBreak} {r : Nat} {d : Decimal}

/-- Less than half a unit is rounded to zero. -/
theorem nearestRank_eq_zero {num den : Nat} (h : 2 * num < den) : nearestRank num den = 0 := by
  have hquot : num / den = 0 := Nat.div_eq_of_lt (by omega)
  have hround : roundHalfEven num den = 0 := roundHalfEven_eq (by omega) (by omega)
  simp [nearestRank, hquot, hround]

namespace Decimal

/-- The rank of a decimal as that of a fraction whose denominator is a great power of ten. -/
theorem rank_eq (d : Decimal) {m : Nat} (h : 0 ≤ d.exponent + m) :
    d.rank = nearestRank (d.digits * 10 ^ (d.exponent + m).toNat * unitsPerOne) (10 ^ m) := by
  have hpow : ∀ k : Nat, 0 < 10 ^ k := fun k ↦ Nat.pow_pos (by decide)
  unfold rank
  split
  case isTrue hexp =>
    have hsum : (d.exponent + m).toNat = d.exponent.toNat + m := by omega
    refine nearestRank_congr Nat.one_pos (hpow m) ?_
    rw [hsum, Nat.pow_eq, Nat.pow_add]
    ring
  case isFalse hexp =>
    have hsum : m = (d.exponent + m).toNat + (-d.exponent).toNat := by omega
    refine nearestRank_congr (hpow _) (hpow m) ?_
    generalize (d.exponent + m).toNat = k at hsum ⊢
    rw [hsum, Nat.pow_eq, Nat.pow_add]
    ring

/-- A zero more among the digits is a power of ten less. -/
theorem rank_mul_ten (n : Nat) (e : Int) : rank ⟨n * 10, e⟩ = rank ⟨n, e + 1⟩ := by
  have hsum : (e + 1 + ((-e).toNat : Nat)).toNat = (e + ((-e).toNat : Nat)).toNat + 1 := by omega
  rw [rank_eq ⟨n * 10, e⟩ (m := (-e).toNat) (by dsimp only; omega),
    rank_eq ⟨n, e + 1⟩ (m := (-e).toNat) (by dsimp only; omega), hsum, Nat.pow_succ,
    Nat.mul_assoc n, Nat.mul_comm 10]

theorem rank_stripZeros (fuel : Nat) (d : Decimal) : (stripZeros fuel d).rank = d.rank := by
  induction fuel generalizing d with
  | zero => rfl
  | succ fuel ih =>
      rw [stripZeros]
      split
      case isTrue h =>
        obtain ⟨n, e⟩ := d
        have hdigits : n / 10 * 10 = n := Nat.div_mul_cancel (Nat.dvd_of_mod_eq_zero h.2)
        rw [ih, ← rank_mul_ten, hdigits]
      case isFalse => rfl

@[simp] theorem rank_normalize (d : Decimal) : d.normalize.rank = d.rank := rank_stripZeros _ d

end Decimal

/-! ## Reading a decimal -/

/-- Powers of ten from the 400th on are greater than what 400 zeros are compared with. -/
theorem le_ten_pow {n k : Nat} (hn : n ≤ 10 ^ 200 * 10 ^ 200) (hk : 400 ≤ k) : n ≤ 10 ^ k := by
  have hsum : k = 200 + (200 + (k - 400)) := by omega
  have hpos : 0 < 10 ^ (k - 400) := Nat.pow_pos (by decide)
  rw [hsum, Nat.pow_add, Nat.pow_add]
  exact hn.trans (Nat.mul_le_mul_left _ (Nat.le_mul_of_pos_right _ hpos))

/-- A decimal with more than 400 zeros is infinite. -/
theorem infinityRank_le_rank (h : d.digits ≠ 0) (hexp : 400 < d.exponent) :
    infinityRank ≤ d.rank := by
  rw [Decimal.rank, if_pos (by omega), Nat.pow_eq]
  apply le_nearestRank Nat.one_pos
  rw [scaled_infinityRank, Nat.mul_one]
  refine Nat.mul_le_mul_right _ ?_
  have hpow : blockSize ^ 19 * 2 ^ 36 ≤ 10 ^ d.exponent.toNat :=
    le_ten_pow (by decide +kernel) (by omega)
  exact hpow.trans (Nat.le_mul_of_pos_left _ (Nat.pos_of_ne_zero h))

/-- A decimal that is cut off by its bits alone is zero. -/
theorem rank_eq_zero (hexp : d.exponent < -(400 + (Nat.log2 d.digits : Int))) : d.rank = 0 := by
  rw [Decimal.rank, if_neg (by omega), Nat.pow_eq]
  apply nearestRank_eq_zero
  have hdigits : d.digits < 10 ^ (Nat.log2 d.digits + 1) :=
    Nat.lt_of_lt_of_le Nat.lt_log2_self (Nat.pow_le_pow_left (by decide) _)
  have hsum : (-d.exponent).toNat =
      Nat.log2 d.digits + 1 + ((-d.exponent).toNat - (Nat.log2 d.digits + 1)) := by omega
  have hunits : 2 * unitsPerOne ≤ 10 ^ ((-d.exponent).toNat - (Nat.log2 d.digits + 1)) :=
    le_ten_pow (by decide +kernel) (by omega)
  rw [hsum, Nat.pow_add, Nat.mul_left_comm]
  exact Nat.mul_lt_mul_of_lt_of_le hdigits hunits (Nat.pow_pos (by decide))

/-- A decimal is the number of its rank: the exponents that are settled by the number of bits are no
exception. -/
theorem Binary64.ofDecimal_eq (negative : Bool) (n : Nat) (e : Int) :
    ofDecimal negative n e = ofRank negative (Decimal.rank ⟨n, e⟩) := by
  unfold ofDecimal
  split_ifs with hzero hgreat hsmall hexp
  · have hrank : Decimal.rank ⟨n, e⟩ = 0 := by
      simp [Decimal.rank, hzero, nearestRank_zero]
    rw [hrank, ofRank_zero]
  · have hrank := infinityRank_le_rank (d := ⟨n, e⟩) hzero hgreat
    rw [ofRank, dif_neg (Nat.not_lt.mpr hrank)]
  · rw [rank_eq_zero (d := ⟨n, e⟩) hsmall, ofRank_zero]
  · rw [Decimal.rank, if_pos hexp]
    rfl
  · rw [Decimal.rank, if_neg hexp]
    rfl

/-! ## The fewest digits -/

theorem rank_of_gridNeighbour? {e : Int} (h : gridNeighbour? tie r e = some d) : d.rank = r := by
  unfold gridNeighbour? at h
  dsimp only at h
  split at h
  case h_1 hbelow habove =>
    obtain rfl := Option.some.inj h
    exact of_decide_eq_true hbelow
  case h_2 hbelow habove =>
    obtain rfl := Option.some.inj h
    exact of_decide_eq_true habove
  case h_3 => cases h
  case h_4 hbelow habove =>
    -- Both neighbours name the magnitude, so whichever is taken does.
    cases tie <;> dsimp only at h <;> split_ifs at h <;> obtain rfl := Option.some.inj h <;>
      simp_all

theorem rank_of_searchGrids {fuel : Nat} {e : Int} (h : searchGrids tie r fuel e = some d) :
    d.rank = r := by
  induction fuel generalizing e with
  | zero => cases h
  | succ fuel ih =>
      rw [searchGrids] at h
      split at h
      case h_1 heq =>
        obtain rfl := Option.some.inj h
        exact rank_of_gridNeighbour? heq
      case h_2 => exact ih h

/-- The exact expansion of a magnitude names it. -/
theorem rank_expansion (r : Nat) : Decimal.rank ⟨scaled r * Nat.pow 5 1074, -1074⟩ = r := by
  have hpow : Nat.pow 10 (-(-1074 : Int)).toNat = Nat.pow 5 1074 * unitsPerOne := by
    decide +kernel
  have hpos : 0 < Nat.pow 5 1074 := by decide +kernel
  rw [Decimal.rank, if_neg (by simp), hpow]
  generalize Nat.pow 5 1074 = n at hpos ⊢
  exact nearestRank_of_scaled (Nat.mul_pos hpos unitsPerOne_pos) (Nat.mul_assoc _ _ _).symm

/-- The shortest decimal of a magnitude names it. -/
@[simp] theorem rank_shortestDecimal (tie : TieBreak) (r : Nat) :
    (shortestDecimal tie r).rank = r := by
  unfold shortestDecimal
  split_ifs with hzero
  · rw [hzero, Decimal.rank, if_pos le_rfl, Nat.zero_mul, Nat.zero_mul, nearestRank_zero]
  · split
    case h_1 h => rw [Decimal.rank_normalize, rank_of_searchGrids h]
    case h_2 => exact rank_expansion r

end HostWatch
