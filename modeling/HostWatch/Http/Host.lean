import HostWatch.Http.Domain.Basic
import HostWatch.Http.Percent
import HostWatch.Numeric.Decimal
import HostWatch.Text.Number
import HostWatch.Text.Search
/-!
# Hosts

A host is named, or given by its number in one of two lengths.  Every host has one written form:
names in ASCII, short numbers as four bytes, long numbers as eight groups with the
longest run of zeros left out.
-/

namespace HostWatch

namespace Host

/-! ## Short numbers -/

/-- A number to a base, if all of its characters are digits. -/
def readDigits? (base : Nat) (s : List Char) : Option Nat :=
  s.foldl (fun n c ↦ match n, Json.hexDigit? c with
    | some n, some d => if d < base then some (n * base + d) else none
    | _, _ => none) (some 0)

/-- A part of a short number: decimal, or octal or hexadecimal after a sign of it. -/
def readPart? : List Char → Option Nat
  | [] => none
  | '0' :: 'x' :: s | '0' :: 'X' :: s => readDigits? 16 s
  | ['0'] => some 0
  | '0' :: s => readDigits? 8 s
  | s => readDigits? 10 s

/-- The parts of a name between dots, without an empty part at the end. -/
def parts (s : List Char) : List (List Char) :=
  match (splitAtPiece ['.'] s).reverse with
  | [] :: rest@(_ :: _) => rest.reverse
  | all => all.reverse

/-- The name is meant as a short number: its last part is one. -/
def endsInNumber (s : List Char) : Bool :=
  match (parts s).getLast? with
  | none => false
  | some last => (last ≠ [] && last.all Char.isDigit) || (readPart? last).isSome

/-- The value of the parts of a short number, given that of the parts before; the last part fills
all bytes that remain. -/
def joinParts? (remaining : Nat) (value : Nat) : List Nat → Option Nat
  | [] => none
  | [last] =>
    if last < Nat.pow 256 remaining then some (value * Nat.pow 256 remaining + last) else none
  | part :: rest =>
    if part < 256 ∧ 1 < remaining then joinParts? (remaining - 1) (value * 256 + part) rest
    else none

/-- The bytes of a short number. -/
def shortBytes (n : Nat) : List Nat :=
  [n / 16777216, n / 65536 % 256, n / 256 % 256, n % 256]

/-- The written form of a short number. -/
def shortText (n : Nat) : List Char := ['.'].intercalate ((shortBytes n).map decimalDigits)

/-- Read a short number. -/
def readShort? (s : List Char) : Option Nat := ((parts s).mapM readPart?).bind (joinParts? 4 0)

/-! ## Long numbers -/

/-- A group of a long number: up to four hexadecimal digits. -/
def readGroup? (s : List Char) : Option Nat :=
  if s ≠ [] ∧ s.length ≤ 4 then readDigits? 16 s else none

/-- A byte in decimal without needless zeros. -/
def readByte? (s : List Char) : Option Nat :=
  match s with
  | [] => none
  | '0' :: _ :: _ => none
  | _ => match readDigits? 10 s with
    | some n => if n < 256 then some n else none
    | none => none

/-- The groups between colons; the last of a number may be a short number for two groups. -/
def readGroups? (isEnd : Bool) : List (List Char) → Option (List Nat)
  | [] => some []
  | [last] =>
    match (splitAtPiece ['.'] last).mapM readByte? with
    | some [a, b, c, d] => if isEnd then some [a * 256 + b, c * 256 + d] else none
    | _ => (readGroup? last).map ([·])
  | group :: rest =>
    match readGroup? group, readGroups? isEnd rest with
    | some n, some ns => some (n :: ns)
    | _, _ => none

/-- The groups of a text, which may be the end of a number; an empty text has none. -/
def readSide? (isEnd : Bool) (s : List Char) : Option (List Nat) :=
  if s.isEmpty then some [] else readGroups? isEnd (splitAtPiece [':'] s)

/-- Read a long number; two colons stand for groups of zeros that make eight in all. -/
def readLong? (s : List Char) : Option (List Nat) :=
  match splitAtPiece [':', ':'] s with
  | [all] => match readSide? true all with
    | some groups => if groups.length = 8 then some groups else none
    | none => none
  | [left, right] => match readSide? false left, readSide? true right with
    | some left, some right =>
      if left.length + right.length < 8 then
        some (left ++ List.replicate (8 - left.length - right.length) 0 ++ right)
      else none
    | _, _ => none
  | _ => none

/-- The length of the run of zeros at the start. -/
def zeroRun (groups : List Nat) : Nat := (groups.takeWhile (· = 0)).length

/-- The length of the longest run of zeros. -/
def longestRun : List Nat → Nat
  | [] => 0
  | g :: gs => max (zeroRun (g :: gs)) (longestRun gs)

/-- The groups before the first run of zeros of a length, and those after it. -/
def splitRun (run : Nat) : List Nat → List Nat × List Nat
  | [] => ([], [])
  | g :: gs =>
    if zeroRun (g :: gs) = run then ([], (g :: gs).drop run)
    else
      let (before, after) := splitRun run gs
      (g :: before, after)

/-- Groups with colons between them. -/
def groupsText (groups : List Nat) : List Char :=
  [':'].intercalate (groups.map (Nat.toDigits 16))

/-- The written form of a long number: the longest run of two or more zeros is left out. -/
def longText (groups : List Nat) : List Char :=
  let run := longestRun groups
  if run < 2 then groupsText groups
  else
    let (before, after) := splitRun run groups
    groupsText before ++ ':' :: ':' :: groupsText after

/-! ## Hosts -/

/-- The written form of a host, if it is one. -/
def read? (s : List Char) : Option (List Char) :=
  match s with
  | '[' :: rest =>
    match rest.reverse with
    | ']' :: inner => (readLong? inner.reverse).map fun groups ↦ '[' :: longText groups ++ [']']
    | _ => none
  | _ =>
    (Domain.read? (decodeBytes (Percent.decode s))).bind fun name ↦
      if name = [] then none
      else if endsInNumber name then (readShort? name).map shortText
      else some name

end Host

end HostWatch
