import HostWatch.Duration
import HostWatch.ParseError
import HostWatch.Text.Blank
import HostWatch.Text.Case
import HostWatch.Text.Number
/-!
# Sizes

A size is a count of bytes of 64 bits.  Sums stop at the greatest size and differences at zero.
Sizes are written with one decimal and a unit, each unit 1024 of the one before.
-/

namespace HostWatch

/-- A count of bytes. -/
structure Size where
  /-- The bytes. -/
  bytes : UInt64
  deriving DecidableEq, Repr

namespace Size

/-- No bytes. -/
def zero : Size := ⟨0⟩

instance : Inhabited Size := ⟨zero⟩

/-- The size of `n` bytes, or the greatest size if `n` is beyond it. -/
def ofNat (n : Nat) : Size := ⟨UInt64.ofNat (min n wordMax)⟩

/-- The number of bytes. -/
def toNat (s : Size) : Nat := s.bytes.toNat

/-- The number of bytes in binary64. -/
def toFloat (s : Size) : Binary64 := .ofNat s.toNat

/-- The sum, or the greatest size if the sum is beyond it. -/
def add (a b : Size) : Size := ofNat (a.toNat + b.toNat)

/-- The difference, or zero if it would be negative. -/
def sub (a b : Size) : Size := ofNat (a.toNat - b.toNat)

instance : Add Size := ⟨add⟩
instance : Sub Size := ⟨sub⟩

/-- The sum of a list. -/
def sum (sizes : List Size) : Size := sizes.foldl (· + ·) zero

@[simp] theorem toNat_ofNat (n : Nat) : (ofNat n).toNat = min n wordMax := by
  simp only [ofNat, toNat, UInt64.toNat_ofNat']
  exact Nat.mod_eq_of_lt (by simp only [wordMax, wordSize]; omega)

@[simp] theorem toNat_add (a b : Size) : (a + b).toNat = min (a.toNat + b.toNat) wordMax :=
  toNat_ofNat _

@[simp] theorem toNat_zero : zero.toNat = 0 := rfl

/-- A size is at most the greatest. -/
theorem toNat_le (s : Size) : s.toNat ≤ wordMax := by
  have := s.bytes.toNat_lt
  simp only [toNat, wordMax, wordSize]
  omega

@[simp] theorem toNat_sub (a b : Size) : (a - b).toNat = a.toNat - b.toNat := by
  have := a.toNat_le
  refine (toNat_ofNat _).trans (Nat.min_eq_left ?_)
  omega

/-- Sizes with as many bytes are equal. -/
theorem ext_toNat {a b : Size} (h : a.toNat = b.toNat) : a = b := by
  cases a
  cases b
  exact congrArg mk (UInt64.toNat_inj.1 h)

/-- The rate of some bytes over a time, in whole bytes per second; over no time there is none. -/
def perSecond (delta : Size) (elapsed : Duration) : Size :=
  let seconds := elapsed.inSeconds
  if seconds.le .zero then zero
  else ofNat ((delta.toFloat / seconds).truncate wordMax)

/-! ## Text -/

/-- The factor from one unit to the next. -/
def unitFactor : Binary64 := .ofNat 1024

/-- The units, from bytes on. -/
def units : List Char := ['b', 'k', 'm', 'g', 't']

/-- The number in the first unit in which it is less than the factor, or in the last. -/
def inUnits (x : Binary64) : List Char → Binary64 × List Char
  | [] => (x, [])
  | [last] => (x, [last])
  | unit :: next :: rest =>
    if unitFactor.le x then inUnits (x / unitFactor) (next :: rest) else (x, [unit])

/-- The size with one decimal and its unit. -/
def text (s : Size) : String :=
  let shown := inUnits s.toFloat units
  shown.1.fixed 1 ++ " " ++ .ofList shown.2

/-- Read a number and a unit in a text without blanks and capitals; errors carry `expression`. -/
def ofNormalized (expression : String) (s : List Char) : Except ParseError Size :=
  match s.getLast? with
  | none => .error .empty
  | some last =>
    if s = ['0'] then .ok zero
    else match units.idxOf? last with
      | none => .error (.unit expression)
      | some power =>
        match readFloat? s.dropLast with
        | none => .error (.number expression)
        | some x =>
          if x.isFinite && Binary64.le .zero x then
            .ok (ofNat ((x * .ofNat (Nat.pow 1024 power)).truncate wordMax))
          else .error (.number expression)

/-- Read a number and a unit, in any case and with blanks anywhere; a zero needs no unit. -/
def parse (expression : String) : Except ParseError Size :=
  ofNormalized expression (lowercase (removeBlanks expression.toList))

end Size

end HostWatch
