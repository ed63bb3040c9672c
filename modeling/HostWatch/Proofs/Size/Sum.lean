import HostWatch.Size
import Mathlib.Algebra.Ring.Nat
/-!
# Sums of sizes

Every addition stops at the greatest size.  A sum that stopped once stays there, so the sum of a
list is the exact sum or, where that is beyond it, the greatest size, and the order of the list is
no matter.
-/

namespace HostWatch.Size

variable {sizes other : List Size}

theorem toNat_foldl_add (start : Size) (sizes : List Size) :
    (sizes.foldl (· + ·) start).toNat = min (start.toNat + (sizes.map toNat).sum) wordMax := by
  induction sizes generalizing start with
  | nil => exact (Nat.min_eq_left start.toNat_le).symm
  | cons size rest ih =>
      rw [List.foldl_cons, ih, toNat_add, List.map_cons, List.sum_cons]
      omega

/-- The sum is the exact one, or the greatest size. -/
@[simp] theorem toNat_sum (sizes : List Size) :
    (sum sizes).toNat = min (sizes.map toNat).sum wordMax := by
  rw [sum, toNat_foldl_add, toNat_zero, Nat.zero_add]

/-- The order of the sizes is no matter. -/
theorem sum_perm (h : other.Perm sizes) : sum other = sum sizes := by
  refine ext_toNat ?_
  rw [toNat_sum, toNat_sum, (h.map toNat).sum_nat]

end HostWatch.Size
