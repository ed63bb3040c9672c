import HostWatch.Proofs.Size.Grammar
import HostWatch.Proofs.Size.Tenths
import HostWatch.Proofs.Text.Blank
/-!
# Sizes that are written and read

The text of a size is a count of tenths and the greatest unit that the size reaches.  It is always
read again.  Main statement: what is read is close to the size, in the order of the sizes, and has a
text that is read as the same size.
-/

namespace HostWatch.Size

variable {n i : Nat} {s : Size}

/-! ## The unit that is written -/

theorem exists_unitFactor_eq : ∃ f : Fin infinityRank,
    unitFactor = .finite false f ∧ scaled f.val = 1024 * unitsPerOne ∧ f.val ≠ 0 :=
  Binary64.exists_ofNat_eq_of_pos (by decide) (by decide)

theorem unitFactor_le_iff {r : Fin infinityRank} :
    unitFactor.le (.finite false r) = true ↔ 1024 * unitsPerOne ≤ scaled r.val := by
  obtain ⟨f, hf, hscaled, -⟩ := exists_unitFactor_eq
  rw [hf, Binary64.le_finite, ← scaled_le_scaled, hscaled]

/-- A number in the next unit is exact. -/
theorem exists_div_unitFactor {r : Fin infinityRank} (h : 1024 * unitsPerOne ≤ scaled r.val) :
    ∃ s : Fin infinityRank, .finite false r / unitFactor = .finite false s ∧
      scaled s.val * 1024 = scaled r.val := by
  obtain ⟨f, hf, hscaled, hpos⟩ := exists_unitFactor_eq
  have hleast : blockSize * 2 ^ 10 ≤ 1024 * unitsPerOne :=
    (le_unitsPerOne (by decide)).trans (Nat.le_mul_of_pos_left _ (by decide))
  obtain ⟨s, hs⟩ : ∃ s, scaled s * 1024 = scaled r.val :=
    exists_scaled_div_two_pow (j := 10) (hleast.trans h)
  have hlt : s < infinityRank := by
    refine lt_of_le_of_lt (scaled_le_scaled.mp ?_) r.isLt
    rw [← hs]
    exact Nat.le_mul_of_pos_right _ (by decide)
  refine ⟨⟨s, hlt⟩, ?_, hs⟩
  rw [hf, Binary64.finite_div_finite hpos, hscaled, nearestRank_mul_mul unitsPerOne_pos,
    nearestRank_of_scaled (by decide) hs]
  exact Binary64.ofRank_of_lt false hlt

/-- The number of the unit that is written, and that unit. -/
theorem exists_inUnits_eq (unit : Char) (rest : List Char) (r : Fin infinityRank) :
    ∃ (s : Fin infinityRank) (i : Nat), ∃ h : i < (unit :: rest).length,
      inUnits (.finite false r) (unit :: rest) = (.finite false s, [(unit :: rest)[i]]) ∧
      scaled s.val * 1024 ^ i = scaled r.val ∧ (i = 0 ∨ unitsPerOne ≤ scaled s.val) ∧
      (i = rest.length ∨ scaled s.val < 1024 * unitsPerOne) := by
  induction rest generalizing unit r with
  | nil => exact ⟨r, 0, by simp, rfl, by simp, .inl rfl, .inl rfl⟩
  | cons next rest ih =>
      rw [inUnits]
      split_ifs with hle
      · rw [unitFactor_le_iff] at hle
        obtain ⟨q, hq, hscaled⟩ := exists_div_unitFactor hle
        obtain ⟨s, i, hi, heq, hpower, hleast, hmost⟩ := ih next q
        refine ⟨s, i + 1, by simpa using hi, by simpa [hq] using heq, ?_, .inr ?_, ?_⟩
        · rw [Nat.pow_succ, ← Nat.mul_assoc, hpower, hscaled]
        · rcases hleast with rfl | hleast
          · rw [Nat.pow_zero, Nat.mul_one] at hpower
            omega
          · exact hleast
        · simpa using hmost
      · rw [unitFactor_le_iff] at hle
        exact ⟨r, 0, by simp, rfl, by simp, .inl rfl, .inr (by omega)⟩

theorem text_truncate (s : Size) : (ofNat (s.toFloat.truncate wordMax)).text = s.text := by
  rw [text, text, toFloat_truncate]

/-- A size is written in tenths of the greatest unit that it reaches. -/
theorem exists_text_eq (s : Size) : ∃ (r : Fin infinityRank) (unit : Char),
    s.text.toList = (Binary64.fixed 1 (.finite false r)).toList ++ [' ', unit] ∧
      units[unitPower s.toNat]? = some unit ∧
      roundHalfEven (scaled r.val * 10) unitsPerOne = tenths s.toNat (unitPower s.toNat) := by
  obtain ⟨x, hx, hcounted⟩ := exists_toFloat_eq s
  obtain ⟨r, i, hi, heq, hpower, hleast, hmost⟩ := exists_inUnits_eq 'b' ['k', 'm', 'g', 't'] x
  have hi' : i ≤ 4 := Nat.le_of_lt_succ hi
  rw [hcounted] at hpower
  have hpow : ∀ j ≤ 5, 1024 ^ j ≤ 2 * blockSize := fun j hj ↦
    (Nat.pow_le_pow_right (by decide) hj).trans (by decide)
  have hunit : InUnit s.toNat i := by
    refine ⟨hi', hleast.imp_right fun hle ↦ ?_, hmost.imp_right fun hlt ↦ ?_⟩
    · rw [← le_counted_iff (hpow i (by omega)), ← hpower, Nat.mul_comm]
      exact Nat.mul_le_mul_right _ hle
    · by_contra hge
      have hcount := (le_counted_iff (hpow (i + 1) (by omega))).mpr (Nat.not_lt.mp hge)
      rw [← hpower, Nat.pow_succ', Nat.mul_right_comm] at hcount
      exact Nat.not_lt.mpr (Nat.le_of_mul_le_mul_right hcount (Nat.pow_pos (by decide))) hlt
  refine ⟨r, units[i], ?_, ?_, ?_⟩
  · have htext : s.text = Binary64.fixed 1 (.finite false r) ++ " " ++ .ofList [units[i]] := by
      rw [text, hx, show inUnits (.finite false x) units = _ from heq]
      rfl
    simp [htext]
  · rw [hunit.unitPower_eq]
    exact List.getElem?_eq_getElem hi
  · rw [hunit.unitPower_eq, tenths, ← hpower, Nat.mul_right_comm, Nat.mul_comm (1024 ^ i),
      roundHalfEven_mul_mul (Nat.pow_pos (by decide))]

/-! ## Reading what is written -/

/-- The characters of sizes. -/
def textChars : List Char := ' ' :: (numeralChars ++ units)

theorem mem_text {c : Char} (h : c ∈ s.text.toList) : c ∈ textChars := by
  obtain ⟨r, unit, htext, hunit, -⟩ := exists_text_eq s
  rw [htext] at h
  simp only [textChars, List.mem_append, List.mem_cons, List.not_mem_nil, or_false] at h ⊢
  rcases h with h | rfl | rfl
  · exact .inr (.inl (mem_fixed h))
  · exact .inl rfl
  · exact .inr (.inr (List.mem_of_getElem? hunit))

theorem exists_getLast?_text (s : Size) : ∃ unit ∈ units, s.text.toList.getLast? = some unit := by
  obtain ⟨r, unit, htext, hunit, -⟩ := exists_text_eq s
  exact ⟨unit, List.mem_of_getElem? hunit, by simp [htext]⟩

/-- Tenths of a unit are read as whole bytes. -/
theorem writesInUnit_tenths {t : List Char} {q : Nat} {unit : Char} (hq : q ≤ 10 * 2 ^ 24)
    (hnumber : WritesDecimal t (.ofRank false (Decimal.rank ⟨q, -1⟩)))
    (hunit : units[i]? = some unit) : WritesInUnit (t ++ [unit]) (ofNat (wholeBytes q i)) := by
  have hrank : Decimal.rank ⟨q, -1⟩ = nearestRank (q * unitsPerOne) 10 := by
    simpa using Decimal.rank_eq ⟨q, -1⟩ (m := 1) (by simp)
  have hlt : nearestRank (q * unitsPerOne) 10 < infinityRank := by
    refine nearestRank_lt_infinityRank (by decide) ?_
    rw [Nat.mul_right_comm]
    have hmost : 10 * 2 ^ 24 ≤ blockSize ^ 19 := le_blockSize_pow (by decide)
    exact Nat.mul_le_mul_right _ (hq.trans (hmost.trans (Nat.le_mul_of_pos_right _ (by decide))))
  rw [hrank, Binary64.ofRank_of_lt false hlt] at hnumber
  have hbytes : wholeBytes q i = ⌊(Binary64.finite false ⟨_, hlt⟩).toRat * (1024 ^ i : Nat)⌋₊ := by
    rw [Binary64.floor_toRat_mul, wholeBytes]
  rw [hbytes]
  exact .mk hnumber rfl Binary64.zero_le_finite hunit

/-- Without its blank the text of a size is a number with a unit. -/
theorem writesInUnit_text (s : Size) :
    WritesInUnit (removeBlanks s.text.toList) (ofNat (regained s.toNat)) := by
  obtain ⟨r, unit, htext, hunit, htenths⟩ := exists_text_eq s
  have hblanks : ∀ c ∈ numeralChars ++ units, isBlank c = false :=
    List.all_iff_forall_prop.mp (by decide)
  have hnumber : removeBlanks (Binary64.fixed 1 (.finite false r)).toList =
      (Binary64.fixed 1 (.finite false r)).toList :=
    removeBlanks_eq_self fun c hc ↦ hblanks c (List.mem_append_left _ (mem_fixed hc))
  have hletter : removeBlanks [' ', unit] = [unit] :=
    removeBlanks_eq_self (s := [unit]) fun c hc ↦
      hblanks c (List.mem_append_right _ (List.mem_singleton.mp hc ▸ List.mem_of_getElem? hunit))
  have hreached := inUnit_unitPower s.toNat
  have hwrites := writesDecimal_fixed 1 false r
  change WritesDecimal _ (.ofRank false (Decimal.rank
    ⟨roundHalfEven (scaled r.val * 10) unitsPerOne, -1⟩)) at hwrites
  rw [htenths] at hwrites
  rw [htext, removeBlanks_append, hnumber, hletter, hreached.regained_eq, Nat.min_comm,
    ofNat_min_wordMax]
  exact writesInUnit_tenths (hreached.tenths_le s.toNat_le) hwrites hunit

/-- The text of a size is read. -/
theorem parse_text (s : Size) : parse s.text = .ok (ofNat (regained s.toNat)) := by
  have hchars : ∀ c ∈ textChars, lowercaseChar c = [c] :=
    List.all_iff_forall_prop.mp (by decide)
  have hlower : lowercase s.text.toList = s.text.toList :=
    lowercase_eq_self fun c hc ↦ hchars c (mem_text hc)
  rw [← String.ofList_toList (s := s.text), parse_eq_ok_iff fun c hc ↦ hlower.symm ▸ hc]
  exact .inr (writesInUnit_text s)

theorem toNat_ofNat_regained (n : Nat) : (ofNat (regained n)).toNat = regained n := by
  rw [toNat_ofNat]
  exact Nat.min_eq_left (Nat.min_le_right _ _)

/-- The text of a size is read as a size that is at most a tenth of the greatest unit and one byte
away.  Of a greater size no less is read, and what is read is read again from its own text. -/
theorem parse_text_close (s : Size) : ∃ s' : Size, parse s.text = .ok s' ∧
    ((s'.toNat : ℤ) - s.toNat).natAbs ≤ 1024 ^ unitPower s.toNat / 10 + 1 ∧
    (∀ t : Size, s.toNat ≤ t.toNat → ∃ t' : Size, parse t.text = .ok t' ∧ s'.toNat ≤ t'.toNat) ∧
    parse s'.text = .ok s' := by
  refine ⟨_, parse_text s, ?_, fun t h ↦ ⟨_, parse_text t, ?_⟩, ?_⟩
  · have hnear := regained_near s.toNat_le
    rw [toNat_ofNat_regained]
    omega
  · rw [toNat_ofNat_regained, toNat_ofNat_regained]
    exact regained_mono h
  · rw [parse_text, toNat_ofNat_regained, regained_regained s.toNat_le]

/-- A size just below a unit is read as one of that unit, and the greatest size as itself. -/
theorem parse_text_close_below_unit :
    Size.toNat ⟨1048550⟩ ≤ Size.toNat ⟨18446744073709551615⟩ ∧
      ∃ s' t' : Size, parse (text ⟨1048550⟩) = .ok s' ∧
        parse (text ⟨18446744073709551615⟩) = .ok t' ∧ s'.toNat ≤ t'.toNat ∧
        parse s'.text = .ok s' := by
  have hle : Size.toNat ⟨1048550⟩ ≤ Size.toNat ⟨18446744073709551615⟩ := by decide
  obtain ⟨s', hread, -, hmono, hagain⟩ := parse_text_close ⟨1048550⟩
  obtain ⟨t', hread', hle'⟩ := hmono _ hle
  exact ⟨hle, s', t', hread, hread', hle', hagain⟩

end HostWatch.Size
