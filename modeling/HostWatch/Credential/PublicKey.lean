import HostWatch.Credential.Curve
import HostWatch.Credential.Der
/-!
# Public keys

A certificate names the public key that it is for, in a form that says what kind of key it is.
-/

namespace HostWatch

/-- A public key. -/
inductive PublicKey where
  /-- A point of a curve. -/
  | point (c : Curve) (x y : Nat)
  /-- A product of two numbers, and an exponent. -/
  | product (n e : Nat)
  /-- A written point of the curve of 255 bits. -/
  | written (bs : List UInt8)
  deriving DecidableEq, Repr

namespace PublicKey

/-- The identifier of keys that are points of curves. -/
def pointId : List UInt8 := [0x2a, 0x86, 0x48, 0xce, 0x3d, 0x02, 0x01]

/-- The identifier of keys that are products. -/
def productId : List UInt8 := [0x2a, 0x86, 0x48, 0x86, 0xf7, 0x0d, 0x01, 0x01, 0x01]

/-- The identifier of keys that are written points. -/
def writtenId : List UInt8 := [0x2b, 0x65, 0x70]

/-- The kind of a key, in bytes. -/
def kind : PublicKey → List UInt8
  | point c _ _ => Der.encode Der.Mark.identifier pointId ++ Der.encode Der.Mark.identifier c.id
  | product _ _ => Der.encode Der.Mark.identifier productId ++ Der.encode Der.Mark.null []
  | written _ => Der.encode Der.Mark.identifier writtenId

/-- The key itself, in bytes. -/
def body : PublicKey → List UInt8
  | point c x y => c.uncompressed x y
  | product n e => Der.encode Der.Mark.sequence (Der.encodeNumber n ++ Der.encodeNumber e)
  | written bs => bs

/-- What a certificate says of the key. -/
def encode (k : PublicKey) : List UInt8 :=
  Der.encode Der.Mark.sequence k.kind ++ Der.encode Der.Mark.bits (0 :: k.body)

end PublicKey

end HostWatch
