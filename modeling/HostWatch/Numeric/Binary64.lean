/-!
# Binary64 numbers

A finite magnitude is named by its *rank*: its place among all finite magnitudes, zero being the
first.  The magnitude of rank `r` is the whole number `scaled r` times `2 ^ -1074`, so arithmetic
is exact arithmetic on natural numbers followed by one rounding, `nearestRank`.  Ranks order
magnitudes, and `infinityRank`, the first rank past the largest finite magnitude, stands for
infinity; a rounding that reaches it has overflowed.
-/

namespace HostWatch

/-- The quotient `num / den` rounded to a whole number; a tie goes to the even neighbour. -/
def roundHalfEven (num den : Nat) : Nat :=
  let q := num / den
  let twice := 2 * (num % den)
  if twice < den then q else if den < twice then q + 1 else q + q % 2

/-- The unit in which magnitudes are whole numbers is `1 / unitsPerOne`. -/
def unitsPerOne : Nat := Nat.pow 2 1074

/-- The number of ranks in a block, `2 ^ 52`. -/
def blockSize : Nat := 4503599627370496

/-- The number of finite magnitudes. -/
def infinityRank : Nat := 2047 * blockSize

/-- The magnitude of rank `r`, in units of `1 / unitsPerOne`: ranks in the first block count
single units, and from the third block on each one doubles the step. -/
def scaled (r : Nat) : Nat :=
  if r < blockSize then r else (blockSize + r % blockSize) * Nat.pow 2 (r / blockSize - 1)

/-- The rank of the magnitude nearest to `num / den` units, a tie going to the even rank.  With
`k` chosen so that the quotient by `2 ^ k` has at most 53 bits, the rounded quotient counts ranks
from block `k` on, also when it carries into the next block. -/
def nearestRank (num den : Nat) : Nat :=
  let k := Nat.log2 (num / den) - 52
  k * blockSize + roundHalfEven num (den * Nat.pow 2 k)

/-- A binary64 number; all NaNs are one. -/
inductive Binary64 where
  /-- Not a number. -/
  | nan
  /-- An infinity with its sign. -/
  | infinite (negative : Bool)
  /-- A finite number: its sign and the rank of its magnitude.  Zero has both signs. -/
  | finite (negative : Bool) (rank : Fin infinityRank)
  deriving DecidableEq, Repr

namespace Binary64

/-- Positive zero. -/
def zero : Binary64 := .finite false ⟨0, by decide⟩

instance : Inhabited Binary64 := ⟨zero⟩

/-- The number with the given sign whose magnitude has rank `r`, infinite from `infinityRank` on. -/
def ofRank (negative : Bool) (r : Nat) : Binary64 :=
  if h : r < infinityRank then .finite negative ⟨r, h⟩ else .infinite negative

/-- The number nearest to `±(num / den)`. -/
def ofRatio (negative : Bool) (num den : Nat) : Binary64 :=
  ofRank negative (nearestRank (num * unitsPerOne) den)

/-- The number nearest to a natural number. -/
def ofNat (n : Nat) : Binary64 := ofRatio false n 1

/-- The number nearest to `±digits * 10 ^ exponent`.  Exponents whose outcome is settled by the
number of bits alone do not build their power of ten. -/
def ofDecimal (negative : Bool) (digits : Nat) (exponent : Int) : Binary64 :=
  if digits = 0 then .finite negative ⟨0, by decide⟩
  else if 400 < exponent then .infinite negative
  else if exponent < -(400 + (Nat.log2 digits : Int)) then .finite negative ⟨0, by decide⟩
  else if 0 ≤ exponent then ofRatio negative (digits * Nat.pow 10 exponent.toNat) 1
  else ofRatio negative digits (Nat.pow 10 (-exponent).toNat)

/-! ## Classes and order -/

/-- Neither infinite nor NaN. -/
def isFinite : Binary64 → Bool
  | .finite .. => true
  | _ => false

/-- The place of a number in the order of all numbers, equal for the two zeros; NaN has none. -/
def position? : Binary64 → Option Int
  | .nan => none
  | .infinite negative => some (if negative then -(infinityRank : Int) else infinityRank)
  | .finite negative r => some (if negative then -(r.val : Int) else r.val)

/-- Less than; false when either side is NaN. -/
def lt (a b : Binary64) : Bool :=
  match a.position?, b.position? with
  | some x, some y => decide (x < y)
  | _, _ => false

/-- Less than or equal; false when either side is NaN. -/
def le (a b : Binary64) : Bool :=
  match a.position?, b.position? with
  | some x, some y => decide (x ≤ y)
  | _, _ => false

/-- Numerical equality: the two zeros are equal, NaN equals nothing. -/
def eq (a b : Binary64) : Bool :=
  match a.position?, b.position? with
  | some x, some y => decide (x = y)
  | _, _ => false

/-! ## Arithmetic -/

/-- The number with the opposite sign. -/
def neg : Binary64 → Binary64
  | .nan => .nan
  | .infinite s => .infinite !s
  | .finite s r => .finite (!s) r

/-- The value of a finite number in units of `1 / unitsPerOne`. -/
def units (negative : Bool) (r : Fin infinityRank) : Int :=
  if negative then -(scaled r : Int) else scaled r

/-- The rounded sum.  An exact sum of zero is positive unless both terms are negative. -/
def add : Binary64 → Binary64 → Binary64
  | .nan, _ => .nan
  | _, .nan => .nan
  | .infinite s, .infinite t => if s = t then .infinite s else .nan
  | .infinite s, .finite .. => .infinite s
  | .finite .., .infinite t => .infinite t
  | .finite s a, .finite t b =>
    let sum := units s a + units t b
    if sum = 0 then .finite (s && t) ⟨0, by decide⟩
    else ofRank (decide (sum < 0)) (nearestRank sum.natAbs 1)

/-- The rounded product. -/
def mul : Binary64 → Binary64 → Binary64
  | .nan, _ => .nan
  | _, .nan => .nan
  | .infinite s, .infinite t => .infinite (s != t)
  | .infinite s, .finite t b => if b.val = 0 then .nan else .infinite (s != t)
  | .finite s a, .infinite t => if a.val = 0 then .nan else .infinite (s != t)
  | .finite s a, .finite t b =>
    ofRank (s != t) (nearestRank (scaled a * scaled b) unitsPerOne)

/-- The rounded quotient. -/
def div : Binary64 → Binary64 → Binary64
  | .nan, _ => .nan
  | _, .nan => .nan
  | .infinite _, .infinite _ => .nan
  | .infinite s, .finite t _ => .infinite (s != t)
  | .finite s _, .infinite t => .finite (s != t) ⟨0, by decide⟩
  | .finite s a, .finite t b =>
    if b.val = 0 then
      if a.val = 0 then .nan else .infinite (s != t)
    else ofRank (s != t) (nearestRank (scaled a * unitsPerOne) (scaled b))

instance : Add Binary64 := ⟨add⟩
instance : Mul Binary64 := ⟨mul⟩
instance : Div Binary64 := ⟨div⟩
instance : Neg Binary64 := ⟨neg⟩

/-- Cut off the fraction; negative numbers and NaN become zero, and `cap` is the largest answer. -/
def truncate (cap : Nat) : Binary64 → Nat
  | .nan => 0
  | .infinite negative => if negative then 0 else cap
  | .finite true _ => 0
  | .finite false r => min cap (scaled r / unitsPerOne)

/-! ## Bit patterns -/

/-- The bit of the sign, `2 ^ 63`. -/
def signBit : Nat := 9223372036854775808

/-- The interchange bit pattern; NaN is the quiet NaN without payload. -/
def toBits : Binary64 → Nat
  | .nan => 0x7ff8000000000000
  | .infinite negative => infinityRank + if negative then signBit else 0
  | .finite negative r => r.val + if negative then signBit else 0

/-- The number with a given interchange bit pattern. -/
def ofBits (bits : Nat) : Binary64 :=
  let negative := bits / signBit % 2 = 1
  let r := bits % signBit
  if infinityRank < r then .nan else ofRank negative r

end Binary64

end HostWatch
