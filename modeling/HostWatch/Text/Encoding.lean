/-!
# Bytes of texts

Characters are encoded in one to four bytes.  Bytes that encode no character are decoded to the
replacement character: one for each longest start of an encoding that is broken off, and one for
each byte that starts none.
-/

namespace HostWatch

/-- The bytes of a text. -/
def encodeBytes (s : List Char) : List UInt8 := s.flatMap String.utf8EncodeChar

/-- Stands for bytes that encode no character. -/
def replacement : Char := '\ufffd'

/-- An encoding that has started. -/
structure PartialChar where
  /-- The bits so far. -/
  value : Nat
  /-- The number of bytes to come. -/
  left : Nat
  /-- The least value of the next byte. -/
  least : Nat
  /-- The greatest value of the next byte. -/
  most : Nat

/-- What a byte means that continues nothing: characters, and an encoding that it starts. -/
def startChar (b : Nat) : List Char × Option PartialChar :=
  if b < 0x80 then ([Char.ofNat b], none)
  else if b < 0xc2 then ([replacement], none)
  else if b < 0xe0 then ([], some ⟨b - 0xc0, 1, 0x80, 0xbf⟩)
  else if b = 0xe0 then ([], some ⟨0, 2, 0xa0, 0xbf⟩)
  else if b = 0xed then ([], some ⟨0xd, 2, 0x80, 0x9f⟩)
  else if b < 0xf0 then ([], some ⟨b - 0xe0, 2, 0x80, 0xbf⟩)
  else if b = 0xf0 then ([], some ⟨0, 3, 0x90, 0xbf⟩)
  else if b < 0xf4 then ([], some ⟨b - 0xf0, 3, 0x80, 0xbf⟩)
  else if b = 0xf4 then ([], some ⟨4, 3, 0x80, 0x8f⟩)
  else ([replacement], none)

/-- What a byte means that follows the start of an encoding. -/
def continueChar (p : PartialChar) (b : Nat) : List Char × Option PartialChar :=
  if p.least ≤ b ∧ b ≤ p.most then
    let value := p.value * 64 + (b - 0x80)
    if p.left ≤ 1 then ([Char.ofNat value], none)
    else ([], some ⟨value, p.left - 1, 0x80, 0xbf⟩)
  else
    let (chars, state) := startChar b
    (replacement :: chars, state)

/-- The characters of bytes, given the encoding that has started. -/
def decodeFrom : Option PartialChar → List UInt8 → List Char
  | none, [] => []
  | some _, [] => [replacement]
  | none, b :: bs =>
    let (chars, state) := startChar b.toNat
    chars ++ decodeFrom state bs
  | some p, b :: bs =>
    let (chars, state) := continueChar p b.toNat
    chars ++ decodeFrom state bs

/-- The characters of bytes. -/
def decodeBytes (bs : List UInt8) : List Char := decodeFrom none bs

end HostWatch
