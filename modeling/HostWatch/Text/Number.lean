import HostWatch.Numeric.Binary64
/-!
# Numbers in text

Unsigned decimals, and decimals with a fraction and an exponent.  Both use the digits of ASCII
only and must fill the whole text.
-/

namespace HostWatch

/-- The value of a digit. -/
def digitValue (c : Char) : Nat := c.toNat - '0'.toNat

/-- The number that decimal digits write, most significant first, after the digits of `n`. -/
def digitsValue (n : Nat) (ds : List Char) : Nat := ds.foldl (fun n d ↦ n * 10 + digitValue d) n

/-- One past the greatest number of 64 bits. -/
def wordSize : Nat := 18446744073709551616

/-- The greatest number of 64 bits. -/
def wordMax : Nat := wordSize - 1

/-- An unsigned decimal below `2 ^ 64`: digits after an optional plus sign. -/
def readUnsigned? (s : List Char) : Option Nat :=
  let digits := match s with
    | '+' :: rest => rest
    | _ => s
  if digits ≠ [] ∧ digits.all Char.isDigit ∧ digitsValue 0 digits < wordSize then
    some (digitsValue 0 digits)
  else none

/-- The sign of a number and the text after it. -/
def takeSign : List Char → Bool × List Char
  | '+' :: s => (false, s)
  | '-' :: s => (true, s)
  | s => (false, s)

/-- The power of ten that an exponent part writes; no text is no exponent. -/
def readExponent? : List Char → Option Int
  | [] => some 0
  | c :: s =>
    if c = 'e' ∨ c = 'E' then
      let (negative, digits) := takeSign s
      if digits ≠ [] ∧ digits.all Char.isDigit then
        let n : Int := digitsValue 0 digits
        some (if negative then -n else n)
      else none
    else none

/-- The digits after a decimal point and what follows them; without a point there are none. -/
def takeFraction : List Char → List Char × List Char
  | '.' :: s => (s.takeWhile Char.isDigit, s.dropWhile Char.isDigit)
  | s => ([], s)

/-- The magnitude of a decimal: digits with or without a point among or around them, and an
optional exponent. -/
def readMagnitude? (negative : Bool) (s : List Char) : Option Binary64 :=
  let whole := s.takeWhile Char.isDigit
  let (fraction, rest) := takeFraction (s.dropWhile Char.isDigit)
  if whole = [] ∧ fraction = [] then none
  else (readExponent? rest).map fun exponent ↦
    .ofDecimal negative (digitsValue 0 (whole ++ fraction)) (exponent - fraction.length)

/-- The special values by name, in any mix of capitals. -/
def readSpecial? (negative : Bool) (s : List Char) : Option Binary64 :=
  let name := s.map Char.toLower
  if name = "inf".toList ∨ name = "infinity".toList then some (.infinite negative)
  else if name = "nan".toList then some .nan
  else none

/-- A binary64 number: a decimal or the name of a special value after an optional sign. -/
def readFloat? (s : List Char) : Option Binary64 :=
  let (negative, magnitude) := takeSign s
  match readMagnitude? negative magnitude with
  | some x => some x
  | none => readSpecial? negative magnitude

end HostWatch
