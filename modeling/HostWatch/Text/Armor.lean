import HostWatch.Text.Search
/-!
# Armored bytes

Bytes can be carried in text as labelled sections.  A section starts with a line that names its
label and ends with one that names it again; the lines between them hold the bytes, six bits to a
character.  Lines outside of sections are comments, and so are sections whose label is not known.
-/

namespace HostWatch

namespace Armor

/-- A section: its label and what it carries. -/
structure Section where
  /-- The label. -/
  label : List Char
  /-- The bytes. -/
  content : List UInt8
  deriving DecidableEq, Repr

/-! ## Six bits to a character -/

/-- The six bits of a character. -/
def sixBits? (c : Char) : Option Nat :=
  if 'A' ≤ c ∧ c ≤ 'Z' then some (c.toNat - 'A'.toNat)
  else if 'a' ≤ c ∧ c ≤ 'z' then some (c.toNat - 'a'.toNat + 26)
  else if '0' ≤ c ∧ c ≤ '9' then some (c.toNat - '0'.toNat + 52)
  else if c = '+' then some 62
  else if c = '/' then some 63
  else none

/-- The bytes of groups of four characters.  The last group may carry one or two bytes only; its
spare bits do not count, and it may be filled up with equality signs. -/
def readGroups? : List Char → Option (List UInt8)
  | [] => some []
  | [a, b] | [a, b, '=', '='] =>
    match sixBits? a, sixBits? b with
    | some a, some b => some [UInt8.ofNat (a * 4 + b / 16)]
    | _, _ => none
  | [a, b, c] | [a, b, c, '='] =>
    match sixBits? a, sixBits? b, sixBits? c with
    | some a, some b, some c =>
      some [UInt8.ofNat (a * 4 + b / 16), UInt8.ofNat (b % 16 * 16 + c / 4)]
    | _, _, _ => none
  | a :: b :: c :: d :: rest =>
    match sixBits? a, sixBits? b, sixBits? c, sixBits? d, readGroups? rest with
    | some a, some b, some c, some d, some bytes =>
      some (UInt8.ofNat (a * 4 + b / 16) :: UInt8.ofNat (b % 16 * 16 + c / 4) ::
        UInt8.ofNat (c % 4 * 64 + d) :: bytes)
    | _, _, _, _, _ => none
  | _ => none

/-- A character that does not count between others. -/
def isGap (c : Char) : Bool := c = ' ' || ('\t' ≤ c && c ≤ '\r')

/-- The bytes of a text. -/
def readBytes? (s : List Char) : Option (List UInt8) := readGroups? (s.filter fun c ↦ !isGap c)

/-! ## Sections -/

/-- The labels that are known. -/
def knownLabels : List (List Char) :=
  ["CERTIFICATE", "CERTIFICATE REQUEST", "X509 CRL", "PUBLIC KEY", "PRIVATE KEY",
    "RSA PRIVATE KEY", "EC PRIVATE KEY", "ECHCONFIG"].map String.toList

/-- The start of the first line of a section. -/
def opening : List Char := "-----BEGIN ".toList

/-- The start of the last line of a section. -/
def closing (label : List Char) : List Char :=
  "-----END ".toList ++ label ++ "-----".toList

/-- The label in what follows the start of a first line: five hyphens come after it, and blanks
among them do not count. -/
def label? (s : List Char) : Option (List Char) :=
  let isEnd (c : Char) : Bool := c = '-' || c = ' '
  let ending := (s.reverse.takeWhile isEnd).reverse
  if ending.count '-' = 5 then
    some ((s.reverse.dropWhile isEnd).reverse ++ ending.takeWhile (· = ' '))
  else none

/-- The sections in lines, or nothing in the place of one that is not well formed, given the label
and the text of one that is open.  A section that another one interrupts leaves its text to it. -/
def readLines : Option (List Char × List Char) → List (List Char) → List (Option Section)
  | none, [] => []
  | some _, [] => [none]
  | start, line :: rest =>
    match dropStart? opening line with
    | some after =>
      match label? after with
      | some label => readLines (some (label, (start.map (·.2)).getD [])) rest
      | none => none :: readLines none rest
    | none =>
      match start with
      | none => readLines none rest
      | some (label, text) =>
        if (dropStart? (closing label) line).isSome then
          if knownLabels.contains label then
            (readBytes? text).map (⟨label, ·⟩) :: readLines none rest
          else readLines none rest
        else readLines (some (label, text ++ line)) rest

/-- The text between the ends of lines. -/
def splitLines (s : List Char) : List (List Char) :=
  (splitAtPiece ['\n'] s).flatMap (splitAtPiece ['\r'])

/-- The sections of bytes, each byte being a character. -/
def read (bytes : List UInt8) : List (Option Section) :=
  readLines none (splitLines (bytes.map fun b ↦ Char.ofNat b.toNat))

end Armor

end HostWatch
