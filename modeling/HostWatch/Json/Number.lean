import HostWatch.Json.Value
/-!
# JSON numbers

A number is scanned into its parts, and the parts have a value.  Integers that fit 64 bits are
kept; every other number is built in binary64 from as many leading digits as fit 64 bits and one
power of ten, with one multiplication or with divisions by at most `10 ^ 308` each.
-/

namespace HostWatch

/-- The parts of a number as written. -/
structure NumberParts where
  /-- A minus sign stands first. -/
  negative : Bool
  /-- The digits before the point, of which there is at least one. -/
  whole : List Char
  /-- The digits after the point. -/
  fraction : List Char
  /-- The sign and the digits of the exponent, if one is written. -/
  exponent : Option (Bool × List Char)

namespace NumberParts

/-- Digits after a point, at least one, or no point. -/
def scanFraction : List Char → Option (List Char × List Char)
  | '.' :: s =>
    if s.takeWhile Char.isDigit = [] then none
    else some (s.takeWhile Char.isDigit, s.dropWhile Char.isDigit)
  | s => some ([], s)

/-- An exponent with at least one digit, or none. -/
def scanExponent : List Char → Option (Option (Bool × List Char) × List Char)
  | [] => some (none, [])
  | c :: s =>
    if c = 'e' ∨ c = 'E' then
      let (negative, s) := takeSign s
      if s.takeWhile Char.isDigit = [] then none
      else some (some (negative, s.takeWhile Char.isDigit), s.dropWhile Char.isDigit)
    else some (none, c :: s)

/-- The digits before the point: a zero alone, or digits that start with no zero. -/
def scanWhole (s : List Char) : Option (List Char × List Char) :=
  match s.takeWhile Char.isDigit with
  | [] => none
  | '0' :: _ :: _ => none
  | whole => some (whole, s.dropWhile Char.isDigit)

/-- Scan a number without its sign. -/
def scanUnsigned (negative : Bool) (s : List Char) : Option (NumberParts × List Char) := do
  let (whole, s) ← scanWhole s
  let (fraction, s) ← scanFraction s
  let (exponent, s) ← scanExponent s
  return (⟨negative, whole, fraction, exponent⟩, s)

/-- Scan a number. -/
def scan : List Char → Option (NumberParts × List Char)
  | '-' :: s => scanUnsigned true s
  | s => scanUnsigned false s

/-- Append digits to `n` while the result fits 64 bits; also the number of digits appended. -/
def absorb (n : Nat) : List Char → Nat × Nat
  | [] => (n, 0)
  | d :: ds =>
    if n * 10 + digitValue d < wordSize then
      let r := absorb (n * 10 + digitValue d) ds
      (r.1, r.2 + 1)
    else (n, 0)

/-- `x * 10 ^ exponent` by one step in binary64, after divisions by `10 ^ 308` that bring a
negative exponent into range; nothing for a number that is too large. -/
def scale? (x : Binary64) (exponent : Int) : Option Binary64 :=
  if exponent < -308 then
    if x.eq .zero then some x
    else scale? (x / .ofDecimal false 1 308) (exponent + 308)
  else if exponent < 0 then some (x / .ofDecimal false 1 (-exponent))
  else if 308 < exponent then if x.eq .zero then some x else none
  else
    let y := x * .ofDecimal false 1 exponent
    if y.isFinite then some y else none
termination_by (-exponent).toNat

/-- The greatest exponent that is taken at its word. -/
def exponentMax : Nat := 2147483647

/-- The number in binary64; nothing for a number that is too large. -/
def float? (p : NumberParts) : Option Binary64 :=
  let whole := absorb 0 p.whole
  let digits := absorb whole.1 p.fraction
  let shift : Int := (p.whole.length - whole.2 : Nat) - (digits.2 : Int)
  let signed (x : Binary64) : Binary64 := if p.negative then -x else x
  match p.exponent with
  | none => (scale? (.ofNat digits.1) shift).map signed
  | some (negative, ds) =>
    let e := digitsValue 0 ds
    if exponentMax < e then
      if digits.1 ≠ 0 ∧ negative = false then none else some (signed .zero)
    else
      (scale? (.ofNat digits.1) (if negative then shift - e else shift + e)).map signed

/-- The value of a number: an integer if it is written as one, is not a negative zero and fits
64 bits. -/
def value? (p : NumberParts) : Option Json :=
  let n : Int := digitsValue 0 p.whole
  let integer :=
    if p.negative then if n = 0 then none else WideInt.ofInt? (-n) else WideInt.ofInt? n
  match p.fraction, p.exponent, integer with
  | [], none, some n => some (.integer n)
  | _, _, _ => p.float?.map .float

/-- A fraction takes nothing but characters of the text. -/
theorem length_of_scanFraction {s ds r : List Char} (h : scanFraction s = some (ds, r)) :
    r.length ≤ s.length := by
  unfold scanFraction at h
  split at h
  · split at h
    · simp at h
    · simp only [Option.some.injEq, Prod.mk.injEq] at h
      have := (List.dropWhile_sublist Char.isDigit (l := ‹List Char›)).length_le
      simp only [← h.2, List.length_cons]
      omega
  · simp_all

/-- A sign takes nothing but characters of the text. -/
theorem length_takeSign (s : List Char) : (takeSign s).2.length ≤ s.length := by
  unfold takeSign
  split <;> simp

/-- An exponent takes nothing but characters of the text. -/
theorem length_of_scanExponent {s r : List Char} {e : Option (Bool × List Char)}
    (h : scanExponent s = some (e, r)) : r.length ≤ s.length := by
  unfold scanExponent at h
  split at h
  · simp_all
  · split at h
    · rename_i c s _
      dsimp only at h
      split at h
      · simp at h
      · simp only [Option.some.injEq, Prod.mk.injEq] at h
        have h₁ := (List.dropWhile_sublist Char.isDigit (l := (takeSign s).2)).length_le
        have h₂ := length_takeSign s
        simp only [← h.2, List.length_cons]
        omega
    · simp_all

/-- The whole part takes at least one character of the text. -/
theorem length_of_scanWhole {s ds r : List Char} (h : scanWhole s = some (ds, r)) :
    r.length < s.length := by
  have hsplit : (s.takeWhile Char.isDigit).length + (s.dropWhile Char.isDigit).length =
      s.length := by
    rw [← List.length_append, List.takeWhile_append_dropWhile]
  unfold scanWhole at h
  split at h
  · simp at h
  · simp at h
  · rename_i hne _
    simp only [Option.some.injEq, Prod.mk.injEq] at h
    have : 0 < (s.takeWhile Char.isDigit).length := List.length_pos_iff.2 hne
    rw [← h.2]
    omega

/-- A number takes at least one character of the text. -/
theorem length_of_scan {s r : List Char} {p : NumberParts} (h : scan s = some (p, r)) :
    r.length < s.length := by
  have key : ∀ {negative s}, scanUnsigned negative s = some (p, r) → r.length < s.length := by
    intro negative s h
    simp only [scanUnsigned, Option.bind_eq_bind, Option.bind_eq_some_iff, Prod.exists,
      Option.pure_def, Option.some.injEq, Prod.mk.injEq] at h
    obtain ⟨_, _, h₁, _, _, h₂, _, _, h₃, _, rfl⟩ := h
    have := length_of_scanWhole h₁
    have := length_of_scanFraction h₂
    have := length_of_scanExponent h₃
    omega
  unfold scan at h
  split at h
  · have := key h
    simp only [List.length_cons]
    omega
  · exact key h

end NumberParts

end HostWatch
