import HostWatch.Credential.Der
/-!
# Certificates

A certificate says whose a public key is, and carries a signature under that.  Here only the key
matters; the rest has to be in its place, and what a certificate demands to be understood has to be
something that is.
-/

namespace HostWatch

namespace Certificate

open Der

/-- The last part of the identifier of the use of a key. -/
def keyUse : UInt8 := 15

/-- The last parts of the identifiers of additions that are understood: the use of the key, other
names, the constraints on what may be signed, on names, where revocations are, and purposes. -/
def understood : List UInt8 := [keyUse, 17, 19, 30, 31, 37]

/-- Take a truth value, which may be missing where it is false. -/
def nextTruth : Reader Bool := do
  match ← next? Mark.boolean with
  | none | some [0x00] => return false
  | some [0xff] => return true
  | some _ => failure

/-- Take an addition, to the last part of its identifier if it is understood.  All of those but the
use of the key are sequences. -/
def addition : Reader (Option UInt8) := do
  let id ← next Mark.identifier
  let isDemanded ← nextTruth
  let content ← next Mark.octets
  match id with
  | [0x55, 0x1d, n] =>
    if understood.contains n then
      guard (n = keyUse ∨ (whole? (next Mark.sequence) content).isSome)
      return some n
    else
      guard !isDemanded
      return none
  | _ =>
    guard !isDemanded
    return none

/-- Additions are in order: each one that is understood stands once. -/
def areAdditions (bs : List UInt8) : Bool :=
  match readAll? bs with
  | some vs =>
    match vs.mapM fun v ↦ if v.mark = Mark.sequence then whole? addition v.content else none with
    | some ids => (ids.filterMap id).Nodup
    | none => false
  | none => false

/-- Take what is signed, with the algorithm of the signature, to the public key. -/
def signed (algorithm : List UInt8) : Reader (List UInt8) := do
  guard ((← next (Mark.group 0)) = encodeNumber 2)
  let _ ← next Mark.integer
  guard ((← next Mark.sequence) = algorithm)
  let _ ← next Mark.sequence
  let _ ← next Mark.sequence
  let _ ← next Mark.sequence
  let key ← next Mark.sequence
  if ← standsNext (Mark.group 3) then
    guard (areAdditions (← within (Mark.group 3) (next Mark.sequence)))
  return key

/-- What a certificate says of its public key. -/
def publicKey? (bs : List UInt8) : Option (List UInt8) := do
  let content ← whole? (next Mark.sequence) bs
  guard (content.length < 65535)
  let (body, algorithm, signature) ← whole? (do
    let body ← next Mark.sequence
    let algorithm ← next Mark.sequence
    let signature ← next Mark.bits
    return (body, algorithm, signature)) content
  guard (signature.head? = some 0)
  whole? (signed algorithm) body

end Certificate

end HostWatch
