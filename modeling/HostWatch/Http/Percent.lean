import HostWatch.Json.Reader
import HostWatch.Text.Encoding
/-!
# Percent signs

In addresses a byte can be written as a percent sign and two hexadecimal digits.  In the fields of
a form all bytes but those of a few characters are, and a space is a plus sign.
-/

namespace HostWatch

namespace Percent

/-- A hexadecimal digit; letters are capitals. -/
def hexDigit (n : Nat) : Char := if n < 10 then Char.ofNat (48 + n) else Char.ofNat (55 + n)

/-- A byte as a percent sign and two digits. -/
def encodeByte (b : UInt8) : List Char :=
  ['%', hexDigit (b.toNat / 16), hexDigit (b.toNat % 16)]

/-- A character as bytes behind percent signs. -/
def encodeChar (c : Char) : List Char := (String.utf8EncodeChar c).flatMap encodeByte

/-- A text with the characters of a set behind percent signs, and all beyond ASCII. -/
def encode (special : Char → Bool) (s : List Char) : List Char :=
  s.flatMap fun c ↦ if special c || 0x7e < c.toNat || c.toNat < 0x20 then encodeChar c else [c]

/-- The bytes of a text in which percent signs with two digits stand for bytes. -/
def decode : List Char → List UInt8
  | [] => []
  | [c] => String.utf8EncodeChar c
  | [c, d] => String.utf8EncodeChar c ++ String.utf8EncodeChar d
  | c :: d :: e :: s =>
    match c, Json.hexDigit? d, Json.hexDigit? e with
    | '%', some high, some low => UInt8.ofNat (high * 16 + low) :: decode s
    | _, _, _ => String.utf8EncodeChar c ++ decode (d :: e :: s)

/-- A character that stands for itself in the fields of a form. -/
def isFormChar (c : Char) : Bool := c.isAlphanum || c = '*' || c = '-' || c = '.' || c = '_'

/-- A text as a field of a form. -/
def formField (s : List Char) : List Char :=
  s.flatMap fun c ↦ if c = ' ' then ['+'] else if isFormChar c then [c] else encodeChar c

/-- The fields of a form with their names. -/
def form (fields : List (String × String)) : List Char :=
  ['&'].intercalate
    (fields.map fun f ↦ formField f.1.toList ++ '=' :: formField f.2.toList)

end Percent

end HostWatch
