import HostWatch.Numeric.Decimal
import HostWatch.Text.Number
/-!
# Numbers that are read back

A number that is written in plain decimal is read back as itself.
-/

namespace HostWatch

theorem digitsValue_eq_ofDigitChars (n : Nat) (ds : List Char) :
    digitsValue n ds = Nat.ofDigitChars 10 ds n := by
  rw [Nat.ofDigitChars_eq_foldl, digitsValue]
  congr 1
  funext n d
  rw [digitValue, Nat.mul_comm]

/-- The decimal digits of a number write it. -/
@[simp] theorem digitsValue_decimalDigits (n : Nat) : digitsValue 0 (decimalDigits n) = n := by
  rw [digitsValue_eq_ofDigitChars, decimalDigits, Nat.ofDigitChars_ten_toDigits]

theorem isDigit_of_mem_decimalDigits {n : Nat} {c : Char} (h : c ∈ decimalDigits n) :
    c.isDigit = true := Nat.isDigit_of_mem_toDigits (by decide) (by decide) h

/-- A number in plain decimal is read back, unless it has more than 64 bits. -/
theorem readUnsigned?_decimalDigits (n : Nat) :
    readUnsigned? (decimalDigits n) = if n < wordSize then some n else none := by
  have hne : decimalDigits n ≠ [] := Nat.toDigits_ne_nil
  have hall : (decimalDigits n).all Char.isDigit = true :=
    List.all_eq_true.mpr fun c hc ↦ isDigit_of_mem_decimalDigits hc
  have hvalue : digitsValue 0 (decimalDigits n) = n := digitsValue_decimalDigits n
  unfold readUnsigned?
  split
  case h_1 rest heq =>
    have hplus : Char.isDigit '+' = true :=
      isDigit_of_mem_decimalDigits (n := n) (by rw [heq]; exact List.mem_cons_self)
    exact absurd hplus (by decide)
  case h_2 => simp only [hne, hall, hvalue, ne_eq, not_false_eq_true, true_and]

/-- A text writes a number: digits after an optional plus sign. -/
def WritesUnsigned (s : List Char) (n : Nat) : Prop :=
  ∃ sign digits, s = sign ++ digits ∧ (sign = [] ∨ sign = ['+']) ∧ digits ≠ [] ∧
    digits.all Char.isDigit = true ∧ digitsValue 0 digits = n

theorem readUnsigned?_of_forall_ne {s : List Char} (h : ∀ rest, s ≠ '+' :: rest) :
    readUnsigned? s = if s ≠ [] ∧ s.all Char.isDigit ∧ digitsValue 0 s < wordSize then
      some (digitsValue 0 s) else none := by
  unfold readUnsigned?
  split
  case h_1 rest => exact absurd rfl (h rest)
  case h_2 => simp only

/-- What is read is what the text writes, unless it has more than 64 bits. -/
theorem readUnsigned?_eq_some_iff {s : List Char} {n : Nat} :
    readUnsigned? s = some n ↔ WritesUnsigned s n ∧ n < wordSize := by
  have hdigits : ∀ digits, (if digits ≠ [] ∧ digits.all Char.isDigit ∧
      digitsValue 0 digits < wordSize then some (digitsValue 0 digits) else none) = some n ↔
      (digits ≠ [] ∧ digits.all Char.isDigit = true ∧ digitsValue 0 digits = n) ∧ n < wordSize := by
    intro digits
    rw [Option.ite_none_right_eq_some, Option.some.injEq]
    constructor
    · rintro ⟨⟨hne, hall, hlt⟩, rfl⟩
      exact ⟨⟨hne, hall, rfl⟩, hlt⟩
    · rintro ⟨⟨hne, hall, rfl⟩, hlt⟩
      exact ⟨⟨hne, hall, hlt⟩, rfl⟩
  by_cases hplus : ∃ rest, s = '+' :: rest
  · obtain ⟨rest, rfl⟩ := hplus
    refine (hdigits rest).trans (and_congr_left fun _ ↦ ⟨?_, ?_⟩)
    · rintro ⟨hne, hall, hvalue⟩
      exact ⟨['+'], rest, rfl, .inr rfl, hne, hall, hvalue⟩
    · rintro ⟨sign, digits, heq, rfl | rfl, hne, hall, hvalue⟩
      · -- A sign that is not dropped would have to be a digit.
        obtain rfl : '+' :: rest = digits := heq
        exact absurd (List.all_eq_true.mp hall '+' List.mem_cons_self) (by decide)
      · obtain rfl : rest = digits := (List.cons.inj heq).2
        exact ⟨hne, hall, hvalue⟩
  · rw [readUnsigned?_of_forall_ne fun rest h ↦ hplus ⟨rest, h⟩, hdigits]
    refine and_congr_left fun _ ↦ ⟨?_, ?_⟩
    · rintro ⟨hne, hall, hvalue⟩
      exact ⟨[], s, rfl, .inl rfl, hne, hall, hvalue⟩
    · rintro ⟨sign, digits, rfl, rfl | rfl, hne, hall, hvalue⟩
      · exact ⟨hne, hall, hvalue⟩
      · exact absurd ⟨digits, rfl⟩ hplus

end HostWatch
