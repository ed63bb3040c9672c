import HostWatch.Credential.Bytes
import HostWatch.Credential.Repeated
/-!
# Points of a curve

The points of `y² = x³ - 3x + b` over the numbers modulo a prime form a group with the point at
infinity.  A private key is a number, and its public key is that many times the base point.
-/

namespace HostWatch

/-- A curve whose group has a prime number of points. -/
structure Curve where
  /-- The identifier of the curve in keys. -/
  id : List UInt8
  /-- The number of bytes of a coordinate. -/
  width : Nat
  /-- The numbers are taken modulo this prime. -/
  prime : Int
  /-- The constant of the equation. -/
  b : Int
  /-- The first coordinate of the base point. -/
  baseX : Int
  /-- The second coordinate of the base point. -/
  baseY : Int
  /-- The number of points. -/
  order : Nat
  deriving DecidableEq, Repr

namespace Curve

/-! ## The curves of keys -/

/-- The curve of 256 bits. -/
def p256 : Curve where
  id := [0x2a, 0x86, 0x48, 0xce, 0x3d, 0x03, 0x01, 0x07]
  width := 32
  prime := 0xffffffff00000001000000000000000000000000ffffffffffffffffffffffff
  b := 0x5ac635d8aa3a93e7b3ebbd55769886bc651d06b0cc53b0f63bce3c3e27d2604b
  baseX := 0x6b17d1f2e12c4247f8bce6e563a440f277037d812deb33a0f4a13945d898c296
  baseY := 0x4fe342e2fe1a7f9b8ee7eb4a7c0f9e162bce33576b315ececbb6406837bf51f5
  order := 0xffffffff00000000ffffffffffffffffbce6faada7179e84f3b9cac2fc632551

/-- The curve of 384 bits. -/
def p384 : Curve where
  id := [0x2b, 0x81, 0x04, 0x00, 0x22]
  width := 48
  prime := 0xfffffffffffffffffffffffffffffffffffffffffffffffffffffffffffffffeffffffff0000000000000000ffffffff
  b := 0xb3312fa7e23ee7e4988e056be3f82d19181d9c6efe8141120314088f5013875ac656398d8a2ed19d2a85c8edd3ec2aef
  baseX := 0xaa87ca22be8b05378eb1c71ef320ad746e1d3b628ba79b9859f741e082542a385502f25dbf55296c3a545e3872760ab7
  baseY := 0x3617de4a96262c6f5d9e98bf9292dc29f8f41dbd289a147ce9da3113b5f0b8c00a60b1ce1d7e819d7a431d7c90ea0e5f
  order := 0xffffffffffffffffffffffffffffffffffffffffffffffffc7634d81f4372ddf581a0db248b0a77aecec196accc52973

/-- The curve of 521 bits. -/
def p521 : Curve where
  id := [0x2b, 0x81, 0x04, 0x00, 0x23]
  width := 66
  prime := 0x1ffffffffffffffffffffffffffffffffffffffffffffffffffffffffffffffffffffffffffffffffffffffffffffffffffffffffffffffffffffffffffffffffff
  b := 0x51953eb9618e1c9a1f929a21a0b68540eea2da725b99b315f3b8b489918ef109e156193951ec7e937b1652c0bd3bb1bf073573df883d2c34f1ef451fd46b503f00
  baseX := 0xc6858e06b70404e9cd9e3ecb662395b4429c648139053fb521f828af606b4d3dbaa14b5e77efe75928fe1dc127a2ffa8de3348b3c1856a429bf97e7e31c2e5bd66
  baseY := 0x11839296a789a3bc0045c8a5fb42c7d1bd998f54449579b446817afbd17273e662c97ee72995ef42640c550b9013fad0761353c7086a272c24088be94769fd16650
  order := 0x1fffffffffffffffffffffffffffffffffffffffffffffffffffffffffffffffffa51868783bf2f966b7fcc0148f709a5d03bb5c9b8899c47aebb6fb71e91386409

/-- The curves of keys, in the order in which a key that names none is tried. -/
def all : List Curve := [p256, p384, p521]

/-! ## The group -/

/-- A point: two coordinates over a third one, which is zero at infinity. -/
structure Point where
  /-- The first coordinate, times the third one. -/
  x : Int
  /-- The second coordinate, times the third one. -/
  y : Int
  /-- What both are to be divided by. -/
  z : Int

/-- The point at infinity. -/
def infinity : Point := ⟨0, 1, 0⟩

/-- The base point. -/
def base (c : Curve) : Point := ⟨c.baseX, c.baseY, 1⟩

/-- The sum of two points.  No two points need a case of their own, equal ones and the point at
infinity among them. -/
def add (c : Curve) (p q : Point) : Point :=
  let xx := p.x * q.x % c.prime
  let yy := p.y * q.y % c.prime
  let zz := p.z * q.z % c.prime
  let xy := p.x * q.y + q.x * p.y
  let yz := p.y * q.z + q.y * p.z
  let xz := (p.x * q.z + q.x * p.z) % c.prime
  let s := 3 * c.b * zz - 3 * xz
  let t := 3 * c.b * xz - 3 * xx - 9 * zz
  let u := 3 * xx - 3 * zz
  { x := (xy * (yy - s) - yz * t) % c.prime
    y := (u * t + (yy + s) * (yy - s)) % c.prime
    z := (yz * (yy + s) + xy * u) % c.prime }

/-- The coordinates of the base point taken `n` times, if that is not the point at infinity. -/
def multiple? (c : Curve) (n : Nat) : Option (Nat × Nat) :=
  let p := repeated c.add infinity c.base n
  if p.z = 0 then none
  else
    let scale := inverseMod c.prime p.z
    some ((p.x * scale % c.prime).toNat, (p.y * scale % c.prime).toNat)

/-! ## Written points -/

/-- A point with both coordinates. -/
def uncompressed (c : Curve) (x y : Nat) : List UInt8 :=
  4 :: (Bytes.ofNumberWide c.width x ++ Bytes.ofNumberWide c.width y)

/-- The written forms of a point: with both coordinates, with the first one and whether the second
one is odd, and with all of that. -/
def forms (c : Curve) (x y : Nat) : List (List UInt8) :=
  let odd := UInt8.ofNat (y % 2)
  [c.uncompressed x y, (2 + odd) :: Bytes.ofNumberWide c.width x,
    (6 + odd) :: (c.uncompressed x y).drop 1]

end Curve

end HostWatch
