import HostWatch.Credential.Ed25519
import HostWatch.Credential.PublicKey
/-!
# Private keys

A private key is written in one of three forms: with a name of its kind, as a number for a point of
a curve, or as the factors of a product.  A key is read to the public key that belongs to it; what
it says of its public key itself has to agree.
-/

namespace HostWatch

namespace PrivateKey

open Der

/-! ## Numbers for points -/

/-- A number in bytes that stands alone in a value, zeros in front not counting. -/
def nextValue : Reader Nat := return Bytes.value (← next Mark.octets)

/-- Take the equation of a curve that is one of those of keys. -/
def equation : Reader Curve := within Mark.sequence do
  guard ((← nextNumber) = 1)
  let prime ← within Mark.sequence do
    guard ((← next Mark.identifier) = [0x2a, 0x86, 0x48, 0xce, 0x3d, 0x01, 0x01])
    nextNumber
  let (a, b) ← within Mark.sequence do
    let a ← nextValue
    let b ← nextValue
    let _ ← next? Mark.bits
    return (a, b)
  let base ← next Mark.octets
  let order ← nextNumber
  let cofactor ← next? Mark.integer
  let coordinates := base.drop 1
  let half := coordinates.length / 2
  guard (base.head? = some 4 ∧ coordinates.length % 2 = 0 ∧ cofactor.all (· = [1]))
  StateT.lift <| Curve.all.find? fun c ↦
    c.prime = prime ∧ c.prime - 3 = a ∧ c.b = b ∧ c.order = order ∧
      c.baseX = Bytes.value (coordinates.take half) ∧ c.baseY = Bytes.value (coordinates.drop half)

/-- Take a curve, which is named or written out. -/
def nextCurve : Reader Curve := do
  if ← standsNext Mark.sequence then equation
  else
    let id ← next Mark.identifier
    StateT.lift (Curve.all.find? fun c ↦ c.id = id)

/-- Take a number for a point of a curve. -/
def nextScalar (c : Curve) : Reader PublicKey := within Mark.sequence do
  guard ((← next Mark.integer) = [1])
  let n := Bytes.value (← next Mark.octets)
  let curve ← next? (Mark.group 0)
  let point ← next? (Mark.group 1)
  guard (0 < n ∧ n < c.order ∧ curve.all fun bs ↦ whole? nextCurve bs = some c)
  let (x, y) ← StateT.lift (c.multiple? n)
  guard (point.all fun bs ↦
    (c.forms x y).any fun form ↦ whole? (next Mark.bits) bs = some (0 :: form))
  return .point c x y

/-! ## Factors of products -/

/-- The bounds of products: from 2048 bits to 8192. -/
def isProductSize (n : Nat) : Bool := 2047 ≤ n.log2 && n.log2 ≤ 8191

/-- Exponents are odd, more than one, and have at most 33 bits. -/
def isExponent (e : Nat) : Bool := 1 < e && e % 2 = 1 && e < 8589934592

/-- Two numbers are inverse to each other, modulo a number that the second one is below. -/
def areInverse (m a b : Nat) : Bool := b < m && a * b % m = 1

/-- Take the factors of a product. -/
def nextFactors : Reader PublicKey := within Mark.sequence do
  guard ((← nextNumber) = 0)
  let n ← nextNumber
  let e ← nextNumber
  let d ← nextNumber
  let p ← nextNumber
  let q ← nextNumber
  let dp ← nextNumber
  let dq ← nextNumber
  let inverse ← nextNumber
  guard (n % 2 = 1 ∧ isProductSize n ∧ isExponent e ∧ p < n ∧ q < n ∧ p * q = n)
  guard (e * d % (p - 1) = 1 ∧ e * d % (q - 1) = 1)
  guard (areInverse (p - 1) e dp ∧ areInverse (q - 1) e dq ∧ areInverse p q inverse)
  return .product n e

/-! ## Named kinds -/

/-- Products have two identifiers. -/
def productIds : List (List UInt8) := [PublicKey.productId, [0x55, 0x08, 0x01, 0x01]]

/-- The public key of a private one of a kind, which may come with its public key in bytes. -/
def ofKind? (id parameters key : List UInt8) (known : Option (List UInt8)) : Option PublicKey := do
  if id = PublicKey.writtenId then
    let seed ← whole? (next Mark.octets) key
    let bs := Ed25519.publicKey seed
    guard (parameters = [] ∧ seed.length = 32 ∧ known.all (· = 0 :: bs))
    return .written bs
  else
    guard known.isNone
    if id = PublicKey.pointId then whole? (nextScalar (← whole? nextCurve parameters)) key
    else
      guard (productIds.contains id ∧ parameters = encode Mark.null [])
      whole? nextFactors key

/-- The public key of a private one whose kind is named.  The part with the number one is its public
key in bytes, and needs the second version.  A part with the number zero hides it, and needs one
outside. -/
def ofNamed? (bs : List UInt8) : Option PublicKey := do
  let (content, outside) ← next Mark.sequence bs
  let ((version, kind, key), rest) ← (do
    let version ← nextNumber
    let kind ← next Mark.sequence
    let key ← next Mark.octets
    return (version, kind, key) : Reader _) content
  guard (version ≤ 1 ∧ (rest.head? = some (Mark.part 0) → (next (Mark.part 0) outside).isSome))
  let known ← start? (next? (Mark.part 1)) rest
  guard (known.isSome → version = 1)
  let (id, parameters) ← next Mark.identifier kind
  ofKind? id parameters key known

/-! ## Forms -/

/-- The public key of a private one.  What stands first in a key tells its form; before that comes
its length, which takes more than one byte from 128 on. -/
def publicKey? (bs : List UInt8) : Option PublicKey :=
  match bs with
  | 0x30 :: size :: rest =>
    match rest.drop (size.toNat - 128) with
    | 0x02 :: 0x01 :: _ :: 0x30 :: _ => ofNamed? bs
    | 0x02 :: 0x01 :: 0x00 :: _ => start? nextFactors bs
    | 0x02 :: 0x01 :: 0x01 :: _ => Curve.all.findSome? fun c ↦ start? (nextScalar c) bs
    | _ => none
  | _ => none

end PrivateKey

end HostWatch
