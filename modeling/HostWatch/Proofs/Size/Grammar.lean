import HostWatch.Proofs.Size.Number
import HostWatch.Proofs.Text.Case
import HostWatch.Proofs.Text.Float
/-!
# Sizes that are read

A size is written as a decimal that is finite and not below zero, with a unit right after it.  Its
bytes are the whole part of the exact product, although the product is taken in binary64: a unit is
a power of two, so nothing is rounded before the fraction is cut off.
-/

namespace HostWatch.Size

/-- A finite decimal that is not below zero and a unit, and the whole bytes that they come to. -/
inductive WritesInUnit : List Char → Size → Prop
  | mk {number : List Char} {x : Binary64} {unit : Char} {power : Nat}
      (hnumber : WritesDecimal number x) (hfinite : x.isFinite = true)
      (hpos : Binary64.le .zero x = true) (hunit : units[power]? = some unit) :
      WritesInUnit (number ++ [unit]) (ofNat ⌊x.toRat * (1024 ^ power : Nat)⌋₊)

variable {s t : List Char} {size : Size} {expression : String}

/-! ## Units -/

theorem lt_of_units {power : Nat} {unit : Char} (h : units[power]? = some unit) : power < 5 :=
  (List.getElem?_eq_some_iff.mp h).1

/-- Every unit stands in one place. -/
theorem idxOf?_units_eq_some_iff {power : Nat} {c : Char} :
    units.idxOf? c = some power ↔ units[power]? = some c := by
  constructor
  · intro h
    obtain ⟨hlt, heq, -⟩ := List.findIdx?_eq_some_iff_getElem.mp h
    rw [List.getElem?_eq_getElem hlt, eq_of_beq heq]
  · intro h
    have hplace : ∀ p : Fin units.length, units.idxOf? units[p] = some p.val := by decide
    obtain ⟨hlt, rfl⟩ := List.getElem?_eq_some_iff.mp h
    exact hplace ⟨power, hlt⟩

theorem toNat_lt_of_mem_units : ∀ c ∈ units, c.toNat < 128 :=
  List.all_iff_forall_prop.mp (by decide)

/-! ## Reading -/

/-- The bytes are those of the exact product. -/
theorem ofNat_truncate_mul {x : Binary64} (hfinite : x.isFinite = true)
    (hpos : Binary64.le .zero x = true) {power : Nat} (hpower : power < 5) :
    ofNat ((x * .ofNat (Nat.pow 1024 power)).truncate wordMax) =
      ofNat ⌊x.toRat * (1024 ^ power : Nat)⌋₊ := by
  rw [← ofNat_min_wordMax ⌊_⌋₊, Nat.pow_eq,
    Binary64.truncate_mul_pow hfinite hpos wordMax_le (by omega)]

/-- What is read is a zero without a unit, or a number with one. -/
theorem ofNormalized_eq_ok_iff : ofNormalized expression s = .ok size ↔
    (s = ['0'] ∧ size = zero) ∨ WritesInUnit s size := by
  constructor
  · intro h
    unfold ofNormalized at h
    split at h
    · cases h
    next last hlast =>
      split_ifs at h with hzero
      · exact .inl ⟨hzero, (Except.ok.inj h).symm⟩
      right
      split at h
      · cases h
      next power hpower =>
        have hunit := idxOf?_units_eq_some_iff.mp hpower
        split at h
        · cases h
        next x hread =>
          split_ifs at h with hx
          obtain ⟨hfinite, hpos⟩ := (Bool.and_eq_true _ _).mp hx
          obtain rfl := Except.ok.inj h
          rw [ofNat_truncate_mul hfinite hpos (lt_of_units hunit),
            ← List.dropLast_append_getLast? last hlast]
          exact .mk ((readFloat?_eq_some_iff hfinite).mp hread) hfinite hpos hunit
  · rintro (⟨rfl, rfl⟩ | ⟨hnumber, hfinite, hpos, hunit⟩)
    · rfl
    · rename_i number x unit power
      have hzero : number ++ [unit] ≠ ['0'] := by
        intro h
        have hlast := congrArg List.getLast? h
        rw [List.getLast?_concat] at hlast
        obtain rfl := Option.some.inj hlast
        exact absurd (List.mem_of_getElem? hunit) (by decide)
      unfold ofNormalized
      simp only [List.getLast?_concat, if_neg hzero, List.dropLast_concat,
        idxOf?_units_eq_some_iff.mpr hunit, (readFloat?_eq_some_iff hfinite).mpr hnumber, hfinite,
        hpos, Bool.and_self, if_true, ofNat_truncate_mul hfinite hpos (lt_of_units hunit)]

/-! ## Capitals and blanks -/

theorem WritesInUnit.exists_getLast? (h : WritesInUnit s size) :
    ∃ unit ∈ units, s.getLast? = some unit := by
  obtain ⟨-, -, -, hunit⟩ := h
  exact ⟨_, List.mem_of_getElem? hunit, List.getLast?_concat⟩

/-- A number with a unit is in ASCII. -/
theorem WritesInUnit.toNat_lt (h : WritesInUnit s size) : ∀ c ∈ s, c.toNat < 128 := by
  obtain ⟨hnumber, -, -, hunit⟩ := h
  intro c hc
  rcases List.mem_append.mp hc with hc | hc
  · exact hnumber.toNat_lt c hc
  · obtain rfl := List.mem_singleton.mp hc
    exact toNat_lt_of_mem_units _ (List.mem_of_getElem? hunit)

theorem toNat_lt_of_read (h : s = ['0'] ∧ size = zero ∨ WritesInUnit s size) :
    ∀ c ∈ s, c.toNat < 128 := by
  rcases h with ⟨rfl, -⟩ | hunit
  · exact List.all_iff_forall_prop.mp (by decide)
  · exact hunit.toNat_lt

/-- In lower case a size is read without its blanks and otherwise as it stands. -/
theorem parse_eq_ok_iff (h : ∀ c ∈ t, c ∈ lowercase s) : parse (.ofList t) = .ok size ↔
    (removeBlanks t = ['0'] ∧ size = zero) ∨ WritesInUnit (removeBlanks t) size := by
  have hmem : ∀ c ∈ removeBlanks t, c ∈ lowercase s := fun c hc ↦ h c (List.mem_of_mem_filter hc)
  rw [parse, String.toList_ofList, ofNormalized_eq_ok_iff]
  constructor
  · intro hread
    rwa [lowercase_eq_self_of_subset hmem (.inr (toNat_lt_of_read hread))] at hread
  · intro hread
    rwa [lowercase_eq_self_of_subset hmem (.inl (toNat_lt_of_read hread))]

end HostWatch.Size
