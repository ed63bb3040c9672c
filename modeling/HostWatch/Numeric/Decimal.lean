import HostWatch.Numeric.Binary64
/-!
# Decimal texts of binary64 numbers

Two ways to write a magnitude: rounded to a fixed number of places, and with the fewest digits
that read back.  Both work on the exact value, so neither depends on a rounding in between.
-/

namespace HostWatch

/-- The decimal digits of `n`, most significant first; `0` is the one digit `0`. -/
def decimalDigits (n : Nat) : List Char := Nat.toDigits 10 n

/-- `digits * 10 ^ exponent`. -/
structure Decimal where
  /-- The significant digits as one number. -/
  digits : Nat
  /-- The power of ten of the last digit. -/
  exponent : Int
  deriving DecidableEq, Repr

namespace Decimal

/-- The magnitude's rank that a decimal reads as. -/
def rank (d : Decimal) : Nat :=
  if 0 ≤ d.exponent then nearestRank (d.digits * Nat.pow 10 d.exponent.toNat * unitsPerOne) 1
  else nearestRank (d.digits * unitsPerOne) (Nat.pow 10 (-d.exponent).toNat)

/-- Remove up to `fuel` trailing zeros from the digits. -/
def stripZeros : Nat → Decimal → Decimal
  | 0, d => d
  | fuel + 1, d =>
    if d.digits ≠ 0 ∧ d.digits % 10 = 0 then stripZeros fuel ⟨d.digits / 10, d.exponent + 1⟩ else d

/-- The same value without trailing zeros in its digits. -/
def normalize (d : Decimal) : Decimal := stripZeros (Nat.log2 d.digits) d

/-- The power of ten of the last of the digits before a trailing cut: `d` written with `n` places
after the first digit has the scientific exponent `d.exponent + n`. -/
def scientificExponent (d : Decimal) : Int :=
  d.exponent + ((decimalDigits d.digits).length - 1 : Nat)

end Decimal

/-- How two equally near decimals are told apart. -/
inductive TieBreak where
  /-- Take the one with an even last digit. -/
  | even
  /-- Take the greater. -/
  | up
  deriving DecidableEq, Repr

/-- The power of ten of the leading digit of the magnitude of rank `r`, which is not zero. -/
def leadingExponent (r : Nat) : Int :=
  (decimalDigits (scaled r * Nat.pow 10 324 / unitsPerOne)).length - 325

/-- The magnitude of rank `r` as a fraction in units of `10 ^ exponent`. -/
def gridRatio (r : Nat) (exponent : Int) : Nat × Nat :=
  if 0 ≤ exponent then (scaled r, unitsPerOne * Nat.pow 10 exponent.toNat)
  else (scaled r * Nat.pow 10 (-exponent).toNat, unitsPerOne)

/-- The decimal on the grid of multiples of `10 ^ exponent` that reads back as rank `r`, if there
is one; of two, the nearer. -/
def gridNeighbour? (tie : TieBreak) (r : Nat) (exponent : Int) : Option Decimal :=
  let ratio := gridRatio r exponent
  let below : Decimal := ⟨ratio.1 / ratio.2, exponent⟩
  let above : Decimal := ⟨ratio.1 / ratio.2 + 1, exponent⟩
  let twice := 2 * (ratio.1 % ratio.2)
  match decide (below.rank = r), decide (above.rank = r) with
  | true, false => some below
  | false, true => some above
  | false, false => none
  | true, true =>
    if twice < ratio.2 then some below
    else if ratio.2 < twice then some above
    else match tie with
      | .up => some above
      | .even => if below.digits % 2 = 0 then some below else some above

/-- Try `fuel` grids, each ten times finer than the one before. -/
def searchGrids (tie : TieBreak) (r : Nat) : Nat → Int → Option Decimal
  | 0, _ => none
  | fuel + 1, exponent =>
    match gridNeighbour? tie r exponent with
    | some d => some d
    | none => searchGrids tie r fuel (exponent - 1)

/-- The shortest decimal that reads back as the magnitude of rank `r`.  Seventeen digits always
suffice; the exact expansion stands in for the case that cannot occur. -/
def shortestDecimal (tie : TieBreak) (r : Nat) : Decimal :=
  if r = 0 then ⟨0, 0⟩
  else
    match searchGrids tie r 17 (leadingExponent r) with
    | some d => d.normalize
    | none => ⟨scaled r * Nat.pow 5 1074, -1074⟩

/-! ## Layouts -/

/-- `n` zeros. -/
def zeros (n : Nat) : List Char := List.replicate n '0'

/-- Digits with a decimal point before the last `places` of them; no point for no places. -/
def placePoint (digits : List Char) (places : Nat) : List Char :=
  let padded := zeros (places + 1 - digits.length) ++ digits
  let whole := padded.take (padded.length - places)
  if places = 0 then whole else whole ++ '.' :: padded.drop (padded.length - places)

/-- A decimal written without an exponent and without a needless fraction. -/
def Decimal.positional (d : Decimal) : List Char :=
  if 0 ≤ d.exponent then
    if d.digits = 0 then ['0'] else decimalDigits d.digits ++ zeros d.exponent.toNat
  else placePoint (decimalDigits d.digits) (-d.exponent).toNat

/-- A decimal as one digit, the rest after a point, and a power of ten. -/
def Decimal.scientific (d : Decimal) : List Char :=
  let mantissa := match decimalDigits d.digits with
    | first :: second :: rest => first :: '.' :: second :: rest
    | short => short
  let e := d.scientificExponent
  mantissa ++ 'e' :: (if e < 0 then '-' else '+') :: decimalDigits e.natAbs

/-- The sign of a negative number. -/
def signText (negative : Bool) : List Char := if negative then ['-'] else []

namespace Binary64

/-- The number rounded to `places` decimal places, a tie going to the even digit; the sign of a
negative number stays also where all digits are zero. -/
def fixed (places : Nat) : Binary64 → String
  | .nan => "NaN"
  | .infinite negative => if negative then "-inf" else "inf"
  | .finite negative r =>
    String.ofList (signText negative ++
      placePoint (decimalDigits (roundHalfEven (scaled r * Nat.pow 10 places) unitsPerOne)) places)

/-- The shortest digits that read back, never with an exponent; of two equally near texts the
greater magnitude is written. -/
def plain : Binary64 → String
  | .nan => "NaN"
  | .infinite negative => if negative then "-inf" else "inf"
  | .finite negative r =>
    String.ofList (signText negative ++ (shortestDecimal .up r).positional)

end Binary64

end HostWatch
