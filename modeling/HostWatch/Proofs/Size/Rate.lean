import HostWatch.Proofs.Size.Number
/-!
# Rates

A rate is a quotient of two numbers of binary64, and is rounded before its fraction is cut off.
Counts and whole seconds of at most 53 bits are numbers themselves, so the only rounding is that of
the quotient, and this is too small to reach the next whole number.  Main statement: such a rate is
the quotient of whole numbers, and over any one time a greater count has no lesser rate.
-/

namespace HostWatch

/-- Whole seconds are rounded as a whole number is, since no fraction is added to them. -/
theorem Duration.inSeconds_ofSeconds (n : Nat) : (ofSeconds n).inSeconds = .ofNat n := by
  obtain ⟨second, hsecond, -, hpos⟩ :=
    Binary64.exists_ofNat_eq_of_pos (n := nanosPerSecond) (by decide) (by decide)
  have hrest : (ofSeconds n).nanos % nanosPerSecond = 0 := Nat.mul_mod_left n nanosPerSecond
  rw [inSeconds, seconds_ofSeconds, hrest, hsecond, Binary64.ofNat_zero,
    Binary64.zero_div_finite hpos, Binary64.ofNat_add_zero]

namespace Size

variable {delta delta' : Size} {elapsed : Duration} {n : Nat}

theorem perSecond_of_le_zero (h : elapsed.inSeconds.le .zero = true) (delta : Size) :
    perSecond delta elapsed = zero := if_pos h

/-- Over some time the rate is the whole part of a quotient of numbers. -/
theorem toNat_perSecond (h : elapsed.inSeconds.le .zero = false) (delta : Size) :
    (perSecond delta elapsed).toNat =
      min ((delta.toFloat / elapsed.inSeconds).truncate wordMax) wordMax := by
  have hsome : perSecond delta elapsed =
      ofNat ((delta.toFloat / elapsed.inSeconds).truncate wordMax) :=
    if_neg (Bool.not_eq_true _ ▸ h)
  rw [hsome, toNat_ofNat]

/-- Over one time a greater count has no lesser rate, also where counts are rounded. -/
theorem toNat_perSecond_mono (h : delta.toNat ≤ delta'.toNat) (elapsed : Duration) :
    (perSecond delta elapsed).toNat ≤ (perSecond delta' elapsed).toNat := by
  cases hle : elapsed.inSeconds.le .zero with
  | true => rw [perSecond_of_le_zero hle, perSecond_of_le_zero hle]
  | false =>
      obtain ⟨a, ha, hcounted⟩ := exists_toFloat_eq delta
      obtain ⟨a', ha', hcounted'⟩ := exists_toFloat_eq delta'
      have hrank : a.val ≤ a'.val := by
        rw [← scaled_le_scaled, hcounted, hcounted']
        exact counted_mono h
      rw [toNat_perSecond hle, toNat_perSecond hle, ha, ha']
      exact min_le_min_right wordMax (Binary64.truncate_div_mono wordMax_le hle hrank)

/-- A count and whole seconds of at most 53 bits are not rounded, and the rounding of their quotient
does not show in its whole part. -/
theorem toNat_perSecond_ofSeconds (hdelta : delta.toNat < 2 * blockSize) (hpos : 0 < n)
    (hn : n ≤ 2 * blockSize) : (perSecond delta (.ofSeconds n)).toNat = delta.toNat / n := by
  obtain ⟨a, ha, hcounted⟩ := exists_toFloat_eq delta
  obtain ⟨b, hb, hscaled, hb0⟩ := Binary64.exists_ofNat_eq_of_pos hpos hn
  have hseconds : (Duration.ofSeconds n).inSeconds = .finite false b :=
    (Duration.inSeconds_ofSeconds n).trans hb
  have hsome : (Duration.ofSeconds n).inSeconds.le .zero = false := by
    rw [hseconds, ← Bool.not_eq_true, Binary64.zero, Binary64.le_finite]
    exact fun hle ↦ hb0 (Nat.le_zero.mp hle)
  have hsmall : delta.toNat / n ≤ wordMax := (Nat.div_le_self _ _).trans delta.toNat_le
  rw [toNat_perSecond hsome, ha, hseconds, Binary64.truncate_div wordMax_le hb0, hcounted, hscaled,
    counted_of_le hdelta.le, wholeQuotient_mul_mul unitsPerOne_pos,
    wholeQuotient_eq_div hpos hn hdelta, Nat.min_eq_right hsmall, Nat.min_eq_left hsmall]

/-- The rate of fewer than `2 ^ 53` bytes over fewer than `2 ^ 53` whole seconds is the quotient of
whole numbers.  Over any one time a greater count has no lesser rate. -/
theorem perSecond_exact_and_mono :
    (∀ (delta : Size) (n : Nat), delta.toNat < 2 ^ 53 → 1 ≤ n → n < 2 ^ 53 →
      (perSecond delta (.ofSeconds n)).toNat = delta.toNat / n) ∧
    ∀ (elapsed : Duration) (delta delta' : Size), delta.toNat ≤ delta'.toNat →
      (perSecond delta elapsed).toNat ≤ (perSecond delta' elapsed).toNat := by
  have hbits : 2 ^ 53 = 2 * blockSize := by decide
  constructor
  · intro delta n hdelta hpos hn
    rw [hbits] at hdelta hn
    exact toNat_perSecond_ofSeconds hdelta hpos hn.le
  · intro elapsed delta delta' h
    exact toNat_perSecond_mono h elapsed

/-- A rate that is a little less than 20394401 bytes per second, and two counts of which the lesser
is rounded up to the greater one. -/
theorem perSecond_exact_and_mono_just_below_whole :
    toNat ⟨9007199254740990⟩ < 2 ^ 53 ∧
      (perSecond ⟨9007199254740990⟩ (.ofSeconds 441650591)).toNat = 20394400 ∧
      toNat ⟨9007199254740995⟩ ≤ toNat ⟨9007199254740996⟩ ∧
      (perSecond ⟨9007199254740995⟩ ⟨1500000000⟩).toNat ≤
        (perSecond ⟨9007199254740996⟩ ⟨1500000000⟩).toNat := by
  have hdelta : toNat ⟨9007199254740990⟩ < 2 ^ 53 := by decide
  have hle : toNat ⟨9007199254740995⟩ ≤ toNat ⟨9007199254740996⟩ := by decide
  have hquotient : toNat ⟨9007199254740990⟩ / 441650591 = 20394400 := by decide
  refine ⟨hdelta, ?_, hle, perSecond_exact_and_mono.2 ⟨1500000000⟩ _ _ hle⟩
  exact (perSecond_exact_and_mono.1 _ 441650591 hdelta (by decide) (by decide)).trans hquotient

/-- A count of 54 bits may be rounded before it is divided, here by one byte. -/
example : (perSecond ⟨9007199254740993⟩ (.ofSeconds 1)).toNat = 9007199254740992 := by
  decide +kernel

end Size

end HostWatch
