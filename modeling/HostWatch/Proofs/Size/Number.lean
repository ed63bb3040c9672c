import HostWatch.Proofs.Numeric.Arithmetic
import HostWatch.Size
/-!
# Sizes as numbers of binary64

A size is rounded once where it becomes a number, which is finite as no size is near the infinite
ones.  The number is whole, so a size that is cut from it again has the same number.
-/

namespace HostWatch.Size

theorem ofNat_min_wordMax (n : Nat) : ofNat (min wordMax n) = ofNat n := by
  rw [ofNat, ofNat, Nat.min_comm wordMax, Nat.min_assoc, Nat.min_self]

theorem wordMax_le : wordMax ≤ blockSize ^ 19 := le_blockSize_pow (by decide)

theorem exists_toFloat_eq (s : Size) : ∃ r : Fin infinityRank,
    s.toFloat = .finite false r ∧ scaled r.val = counted s.toNat :=
  Binary64.exists_ofNat_eq (s.toNat_le.trans wordMax_le)

/-- The number of a size, with its fraction cut off, is that of a size with the same number. -/
theorem toFloat_truncate (s : Size) : (ofNat (s.toFloat.truncate wordMax)).toFloat = s.toFloat := by
  obtain ⟨r, hr, hcounted⟩ := exists_toFloat_eq s
  have hwhole : counted s.toNat / unitsPerOne * unitsPerOne = counted s.toNat :=
    Nat.div_mul_cancel (unitsPerOne_dvd_counted s.toNat)
  have htruncate : s.toFloat.truncate wordMax = min wordMax (counted s.toNat / unitsPerOne) := by
    rw [hr, Binary64.truncate, hcounted]
  rw [htruncate, ofNat_min_wordMax]
  generalize counted s.toNat / unitsPerOne = n at hwhole
  have hn : counted n = counted s.toNat := by
    have hscaled : scaled r * 1 = n * unitsPerOne := by rw [hcounted, ← hwhole, Nat.mul_one]
    rw [counted, nearestRank_of_scaled Nat.one_pos hscaled, hcounted]
  have hcut : counted (ofNat n).toNat = counted s.toNat := by
    rw [toNat_ofNat]
    rcases Nat.le_total n wordMax with hle | hle
    · rw [Nat.min_eq_left hle, hn]
    · rw [Nat.min_eq_right hle]
      refine Nat.le_antisymm ?_ (counted_mono s.toNat_le)
      rw [← hn]
      exact counted_mono hle
  obtain ⟨r', hr', hcounted'⟩ := exists_toFloat_eq (ofNat n)
  rw [hr, hr', Fin.ext (scaled_inj.mp (hcounted'.trans (hcut.trans hcounted.symm)))]

end HostWatch.Size
