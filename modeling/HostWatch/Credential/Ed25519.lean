import HostWatch.Credential.Repeated
import HostWatch.Credential.Sha512
/-!
# Keys of 255 bits

The points of `y² - x² = 1 + d x² y²` over the numbers modulo `2²⁵⁵ - 19` form a group.  A private
key is 32 bytes; half of their digest is the number that the base point is taken times, and the
public key is the point.
-/

namespace HostWatch

namespace Ed25519

/-- The numbers are taken modulo this prime. -/
def prime : Int := 0x7fffffffffffffffffffffffffffffffffffffffffffffffffffffffffffffed

/-- The constant of the equation. -/
def d : Int := 0x52036cee2b6ffe738cc740797779e89800700a4d4141d8ab75eb4dca135978a3

/-- A point: two coordinates over a third one. -/
structure Point where
  /-- The first coordinate, times the third one. -/
  x : Int
  /-- The second coordinate, times the third one. -/
  y : Int
  /-- What both are to be divided by. -/
  z : Int

/-- The point that changes no other. -/
def zero : Point := ⟨0, 1, 1⟩

/-- The base point. -/
def base : Point where
  x := 0x216936d3cd6e53fec0a4e231fdd6dc5c692cc7609525a7b2c9562d608f25d51a
  y := 0x6666666666666666666666666666666666666666666666666666666666666658
  z := 1

/-- The sum of two points.  No two points need a case of their own. -/
def add (p q : Point) : Point :=
  let zz := p.z * q.z % prime
  let xx := p.x * q.x % prime
  let yy := p.y * q.y % prime
  let s := d * (xx * yy % prime) % prime
  let t := zz * zz % prime
  { x := zz * (t - s) % prime * (p.x * q.y + q.x * p.y) % prime
    y := zz * (t + s) % prime * (yy + xx) % prime
    z := (t - s) * (t + s) % prime }

/-- The number that 32 bytes stand for: it has its highest bit set, and is a multiple of eight. -/
def scalar (seed : List UInt8) : Nat :=
  let n := Bytes.value ((Sha512.digest seed).take 32).reverse
  let highest := 0x4000000000000000000000000000000000000000000000000000000000000000
  highest + n % highest / 8 * 8

/-- A point in bytes, the least significant one first: the second coordinate and whether the first
one is odd. -/
def encode (p : Point) : List UInt8 :=
  let scale := inverseMod prime p.z
  let x := (p.x * scale % prime).toNat
  let y := (p.y * scale % prime).toNat
  (Bytes.ofNumberWide 32
    (x % 2 * 0x8000000000000000000000000000000000000000000000000000000000000000 + y)).reverse

/-- The public key of a private one. -/
def publicKey (seed : List UInt8) : List UInt8 := encode (repeated add zero base (scalar seed))

end Ed25519

end HostWatch
