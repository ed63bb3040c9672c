/-!
# Numbers as bytes

A number is written in bytes with the most significant one first, as a number is written in digits.
-/

namespace HostWatch

namespace Bytes

/-- The number that bytes write. -/
def value (bs : List UInt8) : Nat := bs.foldl (fun n b ↦ n * 256 + b.toNat) 0

/-- Put the bytes of a number before bytes. -/
def putNumber (n : Nat) (rest : List UInt8) : List UInt8 :=
  if n = 0 then rest else putNumber (n / 256) (UInt8.ofNat n :: rest)
termination_by n
decreasing_by omega

/-- The bytes of a number, the first of which is not zero. -/
def ofNumber (n : Nat) : List UInt8 := putNumber n []

/-- The bytes of a number, filled up with zeros at the start. -/
def ofNumberWide (width n : Nat) : List UInt8 :=
  let bs := ofNumber n
  List.replicate (width - bs.length) 0 ++ bs

end Bytes

end HostWatch
