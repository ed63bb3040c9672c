import HostWatch.Numeric.Binary64
import Mathlib.Order.Monotone.Basic
import Mathlib.Tactic.Linarith
import Mathlib.Tactic.Ring
/-!
# Rounding

A fraction is rounded to the rank of a magnitude.  The rounding depends on the value of the fraction
alone, keeps the order of values, and finds every magnitude again; from these laws alone follows
what is rounded to what.  How far a rounded value is from the exact one is bounded by its own
size.
-/

namespace HostWatch

/-! ## Rounding to whole numbers -/

theorem roundHalfEven_cases (num den : Nat) :
    (roundHalfEven num den = num / den ∧ 2 * (num % den) ≤ den) ∨
      (roundHalfEven num den = num / den + 1 ∧ den ≤ 2 * (num % den)) := by
  simp only [roundHalfEven]
  split
  · exact .inl ⟨rfl, by omega⟩
  · split
    · exact .inr ⟨rfl, by omega⟩
    · rcases Nat.mod_two_eq_zero_or_one (num / den) with h | h <;> rw [h]
      · exact .inl ⟨rfl, by omega⟩
      · exact .inr ⟨rfl, by omega⟩

/-- The rounded quotient is at most one half away. -/
theorem roundHalfEven_near {den : Nat} (hden : 0 < den) (num : Nat) :
    2 * (roundHalfEven num den * den) ≤ 2 * num + den ∧
      2 * num ≤ 2 * (roundHalfEven num den * den) + den := by
  have hdiv := Nat.div_add_mod num den
  have hrest := Nat.mod_lt num hden
  rw [Nat.mul_comm] at hdiv
  rcases roundHalfEven_cases num den with ⟨h, hhalf⟩ | ⟨h, hhalf⟩
  · rw [h]
    omega
  · rw [h, Nat.add_one_mul (num / den) den]
    omega

/-- A whole number that is less than one half away is the rounded quotient. -/
theorem roundHalfEven_eq {num den m : Nat} (hbelow : 2 * num < 2 * (m * den) + den)
    (habove : 2 * (m * den) < 2 * num + den) : roundHalfEven num den = m := by
  have hden : 0 < den := by omega
  obtain ⟨hle, hge⟩ := roundHalfEven_near hden num
  rcases Nat.lt_trichotomy (roundHalfEven num den) m with h | h | h
  · have := Nat.mul_le_mul_right den (Nat.succ_le_of_lt h)
    rw [Nat.succ_mul] at this
    omega
  · exact h
  · have := Nat.mul_le_mul_right den (Nat.succ_le_of_lt h)
    rw [Nat.succ_mul] at this
    omega

theorem roundHalfEven_mul_self {den : Nat} (hden : 0 < den) (m : Nat) :
    roundHalfEven (m * den) den = m :=
  roundHalfEven_eq (by omega) (by omega)

/-- Rounding depends on the value of the fraction alone. -/
theorem roundHalfEven_mul_mul {c : Nat} (hc : 0 < c) (num den : Nat) :
    roundHalfEven (num * c) (den * c) = roundHalfEven num den := by
  have hrest : 2 * (num % den * c) = 2 * (num % den) * c := (Nat.mul_assoc _ _ _).symm
  simp only [roundHalfEven, Nat.mul_div_mul_right _ _ hc, Nat.mul_mod_mul_right, hrest,
    Nat.mul_lt_mul_right hc]

/-- Rounding keeps the order. -/
theorem roundHalfEven_mono {num num' : Nat} (h : num ≤ num') (den : Nat) :
    roundHalfEven num den ≤ roundHalfEven num' den := by
  have hquot : num / den ≤ num' / den := Nat.div_le_div_right h
  rcases hquot.eq_or_lt with heq | hlt
  · have hrest : num % den ≤ num' % den := by
      have := Nat.div_add_mod num den
      have := Nat.div_add_mod num' den
      rw [heq] at *
      omega
    simp only [roundHalfEven, heq]
    split <;> split <;> (try split) <;> (try split) <;> omega
  · rcases roundHalfEven_cases num den with ⟨h, -⟩ | ⟨h, -⟩ <;>
      rcases roundHalfEven_cases num' den with ⟨h', -⟩ | ⟨h', -⟩ <;> omega

/-! ## Magnitudes -/

theorem unitsPerOne_eq : unitsPerOne = blockSize ^ 20 * 2 ^ 34 := by decide +kernel

theorem unitsPerOne_pos : 0 < unitsPerOne := by
  rw [unitsPerOne_eq]
  exact Nat.mul_pos (Nat.pow_pos (by decide)) (Nat.two_pow_pos 34)

theorem blockSize_eq : blockSize = 2 ^ 52 := rfl

theorem two_pow_eq {n m e : Nat} (h : n = 52 * m + e) : 2 ^ n = blockSize ^ m * 2 ^ e := by
  rw [h, Nat.pow_add, Nat.pow_mul, ← blockSize_eq]

theorem le_unitsPerOne {n : Nat} (h : n ≤ blockSize ^ 3) : n ≤ unitsPerOne := by
  rw [unitsPerOne_eq]
  calc n ≤ blockSize ^ 20 := h.trans (Nat.pow_le_pow_right (by decide) (by decide))
    _ ≤ blockSize ^ 20 * 2 ^ 34 := Nat.le_mul_of_pos_right _ (Nat.two_pow_pos 34)

/-- The magnitudes of block `k`, up to the first one of the next block. -/
theorem scaled_block {k m : Nat} (h : k = 0 ∨ blockSize ≤ m) (hm : m ≤ 2 * blockSize) :
    scaled (k * blockSize + m) = m * 2 ^ k := by
  have hpos : 0 < blockSize := by decide
  rcases Nat.lt_or_ge m blockSize with hlt | hge
  · obtain rfl : k = 0 := h.resolve_right (Nat.not_le.mpr hlt)
    simp [scaled, hlt]
  · have hnot : ¬ k * blockSize + m < blockSize := by omega
    rw [scaled, if_neg hnot]
    rcases hm.eq_or_lt with rfl | hlt
    · have hrank : k * blockSize + 2 * blockSize = blockSize * (k + 2) := by ring
      rw [hrank, Nat.mul_mod_right, Nat.mul_div_cancel_left _ hpos]
      simp only [Nat.pow_eq, Nat.add_zero, Nat.reduceSubDiff]
      ring
    · have hrank : k * blockSize + m = blockSize * (k + 1) + (m - blockSize) := by
        rw [Nat.mul_add, Nat.mul_comm blockSize k]
        omega
      have hrest : m - blockSize < blockSize := by omega
      have hplace : blockSize + (m - blockSize) = m := by omega
      simp only [hrank, Nat.mul_add_mod, Nat.mod_eq_of_lt hrest, Nat.mul_add_div hpos,
        Nat.div_eq_of_lt hrest, Nat.pow_eq, Nat.add_zero, Nat.add_sub_cancel, hplace]

/-- The magnitudes from `2 ^ e` to its double, in units of `1 / (blockSize * unitsPerOne)`. -/
theorem scaled_mul_blockSize {r e m n : Nat} (hr : r = (1022 + e) * blockSize + m)
    (h : blockSize ≤ m) (hm : m ≤ 2 * blockSize) (hn : m * 2 ^ e = n) :
    scaled r * blockSize = n * unitsPerOne := by
  obtain ⟨k, hk⟩ : ∃ k, k = 1022 + e := ⟨_, rfl⟩
  have hpow : 2 ^ k = blockSize ^ 19 * 2 ^ (34 + e) := two_pow_eq (by omega)
  rw [hr, ← hk, scaled_block (.inr h) hm, hpow, unitsPerOne_eq, ← hn, Nat.pow_add]
  ring

theorem scaled_of_mul_two_pow {r e m n : Nat} (hr : r = (1022 + e) * blockSize + m)
    (h : blockSize ≤ m) (hm : m ≤ 2 * blockSize) (hn : m * 2 ^ e = n * blockSize) :
    scaled r = n * unitsPerOne := by
  refine Nat.eq_of_mul_eq_mul_right (show 0 < blockSize by decide) ?_
  rw [scaled_mul_blockSize hr h hm hn, Nat.mul_right_comm]

/-- The first rank past the finite ones is that of `2 ^ 1024`. -/
theorem scaled_infinityRank : scaled infinityRank = blockSize ^ 19 * 2 ^ 36 * unitsPerOne := by
  obtain ⟨e, he⟩ : ∃ e, e = 52 * 19 + 36 := ⟨_, rfl⟩
  refine scaled_of_mul_two_pow (e := e) (m := blockSize) ?_ le_rfl (by decide) ?_
  · rw [infinityRank, he]
    decide
  · rw [two_pow_eq he, Nat.mul_comm]

/-- Every rank has its block, and a place there. -/
theorem exists_block (r : Nat) :
    ∃ k m, r = k * blockSize + m ∧ (k = 0 ∨ blockSize ≤ m) ∧ m < 2 * blockSize := by
  have hpos : 0 < blockSize := by decide
  have hdiv := Nat.div_add_mod r blockSize
  have hrest := Nat.mod_lt r hpos
  rw [Nat.mul_comm] at hdiv
  cases hquot : r / blockSize with
  | zero =>
      rw [hquot] at hdiv
      exact ⟨0, r, by omega, .inl rfl, by omega⟩
  | succ k =>
      rw [hquot, Nat.succ_mul] at hdiv
      exact ⟨k, blockSize + r % blockSize, by omega, .inr (by omega), by omega⟩

theorem scaled_lt_succ (r : Nat) : scaled r < scaled (r + 1) := by
  obtain ⟨k, m, rfl, hk, hm⟩ := exists_block r
  rw [Nat.add_assoc, scaled_block hk hm.le, scaled_block (hk.imp_right (by omega)) hm]
  exact Nat.mul_lt_mul_of_pos_right (Nat.lt_succ_self m) (Nat.two_pow_pos k)

/-- Ranks order magnitudes. -/
theorem strictMono_scaled : StrictMono scaled := strictMono_nat_of_lt_succ scaled_lt_succ

theorem scaled_le_scaled {r s : Nat} : scaled r ≤ scaled s ↔ r ≤ s := strictMono_scaled.le_iff_le

theorem scaled_lt_scaled {r s : Nat} : scaled r < scaled s ↔ r < s := strictMono_scaled.lt_iff_lt

theorem scaled_inj {r s : Nat} : scaled r = scaled s ↔ r = s := strictMono_scaled.injective.eq_iff

/-- Ranks up to that of `2 ^ 53` count units. -/
theorem scaled_of_le {r : Nat} (h : r ≤ 2 * blockSize) : scaled r = r := by
  simpa using scaled_block (k := 0) (.inl rfl) h

@[simp] theorem scaled_zero : scaled 0 = 0 := scaled_of_le (Nat.zero_le _)

theorem scaled_pos_iff {r : Nat} : 0 < scaled r ↔ r ≠ 0 := by
  have hlt : scaled 0 < scaled r ↔ r ≠ 0 := scaled_lt_scaled.trans Nat.pos_iff_ne_zero
  rwa [scaled_zero] at hlt

/-- From the second block on, a block more is a factor of two. -/
theorem scaled_add_blocks {r : Nat} (h : blockSize ≤ r) (j : Nat) :
    scaled (r + j * blockSize) = scaled r * 2 ^ j := by
  obtain ⟨k, m, rfl, hk, hm⟩ := exists_block r
  have hblock : blockSize ≤ m := by
    rcases hk with rfl | hk
    · omega
    · exact hk
  have hrank : k * blockSize + m + j * blockSize = (k + j) * blockSize + m := by ring
  rw [hrank, scaled_block (.inr hblock) hm.le, scaled_block hk hm.le, Nat.pow_add, Nat.mul_assoc]

/-- A magnitude times a power of two is a magnitude. -/
theorem exists_scaled_mul_two_pow (r j : Nat) : ∃ s, scaled s = scaled r * 2 ^ j := by
  induction j with
  | zero => exact ⟨r, by simp⟩
  | succ j ih =>
      obtain ⟨s, hs⟩ := ih
      rw [Nat.pow_succ, ← Nat.mul_assoc, ← hs]
      rcases Nat.lt_or_ge s blockSize with hlt | hge
      · refine ⟨s * 2, ?_⟩
        rw [scaled_of_le (r := s) (by omega), scaled_of_le (by omega)]
      · exact ⟨s + 1 * blockSize, scaled_add_blocks hge 1⟩

theorem exists_scaled_mul_pow (r j k : Nat) : ∃ s, scaled s = scaled r * (2 ^ j) ^ k := by
  rw [← Nat.pow_mul]
  exact exists_scaled_mul_two_pow r (j * k)

/-- A magnitude from the second block on is a power of two times a magnitude. -/
theorem exists_scaled_div_two_pow {r j : Nat} (h : blockSize * 2 ^ j ≤ scaled r) :
    ∃ s, scaled s * 2 ^ j = scaled r := by
  have hfirst : scaled (blockSize + j * blockSize) = blockSize * 2 ^ j := by
    rw [scaled_add_blocks le_rfl, scaled_of_le (by decide)]
  rw [← hfirst, scaled_le_scaled] at h
  refine ⟨r - j * blockSize, ?_⟩
  rw [← scaled_add_blocks (by omega), Nat.sub_add_cancel (by omega)]

/-! ## Rounding to magnitudes -/

variable {num den num' den' k k' : Nat}

/-- The fraction is in block `k`, in steps of which it has at most 53 bits. -/
structure InBlock (num den k : Nat) : Prop where
  lt : num < 2 * blockSize * (den * 2 ^ k)
  le : k = 0 ∨ blockSize * (den * 2 ^ k) ≤ num

theorem inBlock_log2 (hden : 0 < den) (num : Nat) :
    InBlock num den (Nat.log2 (num / den) - 52) := by
  generalize hk : Nat.log2 (num / den) - 52 = k
  constructor
  · have hlt : num / den < 2 ^ (k + 53) :=
      Nat.lt_of_lt_of_le Nat.lt_log2_self (Nat.pow_le_pow_right (by decide) (by omega))
    have hpow : 2 * blockSize * (den * 2 ^ k) = 2 ^ (k + 53) * den := by
      rw [blockSize_eq]
      ring
    rw [hpow]
    exact (Nat.div_lt_iff_lt_mul hden).mp hlt
  · rcases Nat.eq_zero_or_pos k with hzero | hpos
    · exact .inl hzero
    · have hquot : num / den ≠ 0 := by
        intro h
        simp [h] at hk
        omega
      have hle : 2 ^ (k + 52) ≤ num / den :=
        Nat.le_trans (Nat.pow_le_pow_right (by decide) (by omega)) (Nat.log2_self_le hquot)
      have hpow : blockSize * (den * 2 ^ k) = 2 ^ (k + 52) * den := by
        rw [blockSize_eq]
        ring
      rw [hpow]
      exact .inr ((Nat.le_div_iff_mul_le hden).mp hle)

namespace InBlock

/-- A greater value is in no earlier block. -/
theorem le_of_le (h : InBlock num den k) (h' : InBlock num' den k') (hle : num ≤ num') :
    k ≤ k' := by
  by_contra hlt
  have hge : blockSize * (den * 2 ^ k) ≤ num := h.le.resolve_left (by omega)
  have hpow : 2 * 2 ^ k' ≤ 2 ^ k := by
    rw [← Nat.pow_succ']
    exact Nat.pow_le_pow_right (by decide) (by omega)
  have hnext := Nat.mul_le_mul_left (blockSize * den) hpow
  have hlt' := h'.lt
  have hleft : blockSize * den * (2 * 2 ^ k') = 2 * blockSize * (den * 2 ^ k') := by ring
  have hright : blockSize * den * 2 ^ k = blockSize * (den * 2 ^ k) := by ring
  omega

/-- A fraction is rounded to a place of its block. -/
theorem nearestRank_eq (h : InBlock num den k) (hden : 0 < den) :
    nearestRank num den = k * blockSize + roundHalfEven num (den * 2 ^ k) := by
  have hlog := inBlock_log2 hden num
  obtain rfl : Nat.log2 (num / den) - 52 = k :=
    Nat.le_antisymm (hlog.le_of_le h le_rfl) (h.le_of_le hlog le_rfl)
  rw [nearestRank, Nat.pow_eq]

/-- The place is in the block, or the first one of the next. -/
theorem place (h : InBlock num den k) (hden : 0 < den) :
    (k = 0 ∨ blockSize ≤ roundHalfEven num (den * 2 ^ k)) ∧
      roundHalfEven num (den * 2 ^ k) ≤ 2 * blockSize := by
  have hstep : 0 < den * 2 ^ k := Nat.mul_pos hden (Nat.two_pow_pos k)
  constructor
  · refine h.le.imp_right fun hle ↦ ?_
    rw [← roundHalfEven_mul_self hstep blockSize]
    exact roundHalfEven_mono hle _
  · rw [← roundHalfEven_mul_self hstep (2 * blockSize)]
    exact roundHalfEven_mono h.lt.le _

/-- The magnitude that a fraction is rounded to. -/
theorem scaled_nearestRank (h : InBlock num den k) (hden : 0 < den) :
    scaled (nearestRank num den) = roundHalfEven num (den * 2 ^ k) * 2 ^ k := by
  obtain ⟨hblock, hplace⟩ := h.place hden
  rw [h.nearestRank_eq hden, scaled_block hblock hplace]

end InBlock

theorem nearestRank_zero (den : Nat) : nearestRank 0 den = 0 := by
  simp [nearestRank, roundHalfEven]

/-- Rounding depends on the value of the fraction alone. -/
theorem nearestRank_mul_mul {c : Nat} (hc : 0 < c) (num den : Nat) :
    nearestRank (num * c) (den * c) = nearestRank num den := by
  simp only [nearestRank, Nat.mul_div_mul_right _ _ hc, Nat.mul_right_comm den c,
    roundHalfEven_mul_mul hc]

/-- Rounding keeps the order of fractions with one denominator. -/
theorem nearestRank_mono_left (hden : 0 < den) (h : num ≤ num') :
    nearestRank num den ≤ nearestRank num' den := by
  have hblock := inBlock_log2 hden num
  have hblock' := inBlock_log2 hden num'
  rw [hblock.nearestRank_eq hden, hblock'.nearestRank_eq hden]
  rcases (hblock.le_of_le hblock' h).eq_or_lt with heq | hlt
  · rw [heq]
    exact Nat.add_le_add_left (roundHalfEven_mono h _) _
  · -- The last place of a block is the first of the next.
    have hplace := (hblock.place hden).2
    have hplace' := (hblock'.place hden).1.resolve_left (by omega)
    have hnext := Nat.mul_le_mul_right blockSize (Nat.succ_le_of_lt hlt)
    rw [Nat.succ_mul] at hnext
    omega

/-- Rounding keeps the order of values. -/
theorem nearestRank_mono (hden : 0 < den) (hden' : 0 < den') (h : num * den' ≤ num' * den) :
    nearestRank num den ≤ nearestRank num' den' := by
  rw [← nearestRank_mul_mul hden' num den, ← nearestRank_mul_mul hden num' den',
    Nat.mul_comm den' den]
  exact nearestRank_mono_left (Nat.mul_pos hden hden') h

/-- Equal values are rounded alike. -/
theorem nearestRank_congr (hden : 0 < den) (hden' : 0 < den') (h : num * den' = num' * den) :
    nearestRank num den = nearestRank num' den' :=
  Nat.le_antisymm (nearestRank_mono hden hden' h.le) (nearestRank_mono hden' hden h.ge)

/-- A value that is a magnitude is rounded to it. -/
theorem nearestRank_of_scaled (hden : 0 < den) {r : Nat} (h : scaled r * den = num) :
    nearestRank num den = r := by
  obtain ⟨k, m, rfl, hk, hm⟩ := exists_block r
  have hstep : 0 < den * 2 ^ k := Nat.mul_pos hden (Nat.two_pow_pos k)
  obtain rfl : m * (den * 2 ^ k) = num := by
    rw [← h, scaled_block hk hm.le]
    ring
  have hblock : InBlock (m * (den * 2 ^ k)) den k :=
    ⟨Nat.mul_lt_mul_of_pos_right hm hstep, hk.imp_right fun hle ↦ Nat.mul_le_mul_right _ hle⟩
  rw [hblock.nearestRank_eq hden, roundHalfEven_mul_self hstep]

/-- A value from a magnitude on is rounded to no less. -/
theorem le_nearestRank (hden : 0 < den) {r : Nat} (h : scaled r * den ≤ num) :
    r ≤ nearestRank num den :=
  (nearestRank_of_scaled hden rfl).ge.trans (nearestRank_mono_left hden h)

/-- A value up to a magnitude is rounded to no more. -/
theorem nearestRank_le (hden : 0 < den) {r : Nat} (h : num ≤ scaled r * den) :
    nearestRank num den ≤ r :=
  (nearestRank_mono_left hden h).trans (nearestRank_of_scaled hden rfl).le

/-- A value past the middle between two magnitudes is not rounded to the lesser one. -/
theorem lt_nearestRank (hden : 0 < den) {r : Nat}
    (h : (scaled r + scaled (r + 1)) * den < 2 * num) : r < nearestRank num den := by
  rcases Nat.lt_or_ge num (scaled (r + 1) * den) with hnext | hnext
  case inr => exact le_nearestRank hden hnext
  obtain ⟨k, m, rfl, hk, hm⟩ := exists_block r
  have hscaled : scaled (k * blockSize + m + 1) = (m + 1) * 2 ^ k := by
    rw [Nat.add_assoc, scaled_block (hk.imp_right fun hle ↦ Nat.le_succ_of_le hle) hm]
  rw [scaled_block hk hm.le, hscaled] at h
  rw [hscaled] at hnext
  have hstep : 0 < den * 2 ^ k := Nat.mul_pos hden (Nat.two_pow_pos k)
  have hblock : InBlock num den k := by
    constructor
    · have := Nat.mul_le_mul_right (den * 2 ^ k) (Nat.succ_le_of_lt hm)
      linarith
    · refine hk.imp_right fun hle ↦ ?_
      have := Nat.mul_le_mul_right (den * 2 ^ k) hle
      linarith
  have hround : m < roundHalfEven num (den * 2 ^ k) := by
    obtain ⟨-, hnear⟩ := roundHalfEven_near hstep num
    have hlt : (2 * m + 1) * (den * 2 ^ k) <
        (2 * roundHalfEven num (den * 2 ^ k) + 1) * (den * 2 ^ k) := by linarith
    have := Nat.lt_of_mul_lt_mul_right hlt
    omega
  rw [hblock.nearestRank_eq hden]
  exact Nat.add_lt_add_left hround _

/-- A value is off its rounded one by at most one part in `2 ^ 53`, unless it is so small that the
steps stop shrinking. -/
theorem scaled_nearestRank_near (hden : 0 < den) (h : blockSize * den ≤ num) :
    2 * blockSize * (scaled (nearestRank num den) * den) ≤ 2 * blockSize * num + num ∧
      2 * blockSize * num ≤ 2 * blockSize * (scaled (nearestRank num den) * den) + num := by
  have hblock := inBlock_log2 hden num
  generalize Nat.log2 (num / den) - 52 = k at hblock
  have hstep : 0 < den * 2 ^ k := Nat.mul_pos hden (Nat.two_pow_pos k)
  have hle : blockSize * (den * 2 ^ k) ≤ num := by
    rcases hblock.le with rfl | hle
    · simpa using h
    · exact hle
  have hvalue : scaled (nearestRank num den) * den =
      roundHalfEven num (den * 2 ^ k) * (den * 2 ^ k) := by
    rw [hblock.scaled_nearestRank hden]
    ring
  obtain ⟨hbelow, habove⟩ := roundHalfEven_near hstep num
  have hbelow' := Nat.mul_le_mul_left blockSize hbelow
  have habove' := Nat.mul_le_mul_left blockSize habove
  rw [hvalue]
  constructor <;> linarith

end HostWatch
