import HostWatch.Json.Reader
import HostWatch.Pattern.Basic
import HostWatch.Pattern.Flags
import HostWatch.Pattern.Named
/-!
# Escapes of patterns

After a backslash stand characters that would mean something else on their own, control characters
by a letter, characters by their code point, sets and conditions.
-/

namespace HostWatch

/-- What an escape stands for. -/
inductive Escape where
  /-- A character. -/
  | char (c : Char)
  /-- A set. -/
  | set (s : CharSet)
  /-- A condition. -/
  | look (condition : Look)
  deriving Repr

namespace Flags

/-- The set with the characters that differ only in case, if case does not count. -/
def fold (f : Flags) (s : CharSet) : CharSet :=
  if f.anyCase then if f.unicode then s.anyCase else s.anyAsciiCase else s

/-- The complement of a set, which reaches beyond ASCII. -/
def compl? (f : Flags) (s : CharSet) : Option CharSet := if f.unicode then some s.compl else none

/-- The set, or its complement if it is negated. -/
def negate? (f : Flags) (negated : Bool) (s : CharSet) : Option CharSet :=
  if negated then f.compl? s else some s

/-- The characters of words. -/
def word (f : Flags) : CharSet := if f.unicode then .word else .asciiWord

/-- The decimal digits. -/
def digit (f : Flags) : CharSet := if f.unicode then .digit else .asciiDigit

/-- White space. -/
def space (f : Flags) : CharSet := if f.unicode then .space else .asciiSpace

/-- The set of a letter, and whether the letter means its complement. -/
def letterSet? (f : Flags) : Char → Option (Bool × CharSet)
  | 'd' => some (false, f.digit)
  | 's' => some (false, f.space)
  | 'w' => some (false, f.word)
  | 'D' => some (true, f.digit)
  | 'S' => some (true, f.space)
  | 'W' => some (true, f.word)
  | _ => none

end Flags

namespace Escape

/-- The character of a code point, if it is one. -/
def codePoint? (n : Nat) : Option Char := if n.isValidChar then some (Char.ofNat n) else none

/-- The number that hexadecimal digits write. -/
def hexValue (ds : List Char) : Nat := ds.foldl (fun n d ↦ n * 16 + (Json.hexDigit? d).getD 0) 0

/-- A digit of a code point. -/
def isHexDigit (c : Char) : Bool := (Json.hexDigit? c).isSome

/-- So many hexadecimal digits and what follows them. -/
def takeDigits? (f : Flags) : Nat → List Char → Option (List Char × List Char)
  | 0, s => some ([], s)
  | n + 1, s =>
    match f.skip s with
    | c :: s =>
      if isHexDigit c then (takeDigits? f n s).map fun r ↦ (c :: r.1, r.2) else none
    | [] => none

/-- How many digits a code point has after a letter. -/
def digitCount? : Char → Option Nat
  | 'x' => some 2
  | 'u' => some 4
  | 'U' => some 8
  | _ => none

/-- Read a code point: so many digits, or any number of them between braces.  Two digits stand for
a byte, which is a character of its own only in ASCII unless sets reach further. -/
def readCodePoint? (f : Flags) (count : Nat) (s : List Char) : Option (Escape × List Char) :=
  match f.skip s with
  | '\x7b' :: s =>
    match f.takeWhile isHexDigit s with
    | (digits@(_ :: _), '\x7d' :: rest) => (codePoint? (hexValue digits)).map (char ·, rest)
    | _ => none
  | s =>
    match takeDigits? f count s with
    | some (digits, rest) =>
      let n := hexValue digits
      if count = 2 ∧ !f.unicode ∧ 0x80 ≤ n then none else (codePoint? n).map (char ·, rest)
    | none => none

/-- Read the name of a set: one character, or several between braces; the name can deny. -/
def readName? (f : Flags) (s : List Char) : Option (Option (CharSet × Bool) × List Char) :=
  match f.skip s with
  | [] => none
  | '\\' :: _ => none
  | '\x7b' :: s =>
    match f.takeWhile (· ≠ '\x7d') s with
    | (name, _ :: rest) => some (CharSet.ofText? name, rest)
    | (_, []) => none
  | c :: s => some ((CharSet.named? [c]).map (·, false), s)

/-- Read a set by its name; names are of sets that reach beyond ASCII. -/
def readNamed? (f : Flags) (negated : Bool) (s : List Char) : Option (Escape × List Char) :=
  match readName? f s with
  | some (some (named, denied), rest) =>
    if f.unicode then (f.negate? (negated != denied) (f.fold named)).map (set ·, rest) else none
  | _ => none

/-- A character of the names of ends of words. -/
def isEdgeChar (c : Char) : Bool := c.isAlpha || c = '-'

/-- Read what follows the sign for the ends of words: a name between braces, or nothing. -/
def readEdge? (f : Flags) (s : List Char) : Option (Escape × List Char) :=
  let plain : Option (Escape × List Char) := some (look (.wordEdge f.unicode false), s)
  match s with
  | '\x7b' :: inner =>
    match f.skip inner with
    | [] => none
    | c :: _ =>
      if isEdgeChar c then
        match f.takeWhile isEdgeChar inner with
        | (name, '\x7d' :: rest) =>
          if name = "start".toList then some (look (.wordStart f.unicode), rest)
          else if name = "end".toList then some (look (.wordEnd f.unicode), rest)
          else if name = "start-half".toList then some (look (.wordStartHalf f.unicode), rest)
          else if name = "end-half".toList then some (look (.wordEndHalf f.unicode), rest)
          else none
        | _ => none
      else plain
  | _ => plain

/-- A character that a backslash only makes stand for itself: ASCII, neither letter nor digit nor
angle bracket. -/
def isPlain (c : Char) : Bool :=
  c.toNat < 128 && !c.isAlphanum && c ≠ '<' && c ≠ '>'

/-- Read what follows a backslash. -/
def read? (f : Flags) : List Char → Option (Escape × List Char)
  | [] => none
  | c :: s =>
    if isPlain c then some (char c, s)
    else match digitCount? c with
    | some count => readCodePoint? f count s
    | none =>
      match f.letterSet? c with
      | some (negated, letters) => (f.negate? negated letters).map (set ·, s)
      | none =>
        match c with
        | 'p' => readNamed? f false s
        | 'P' => readNamed? f true s
        | 'a' => some (char '\x07', s)
        | 'f' => some (char '\x0c', s)
        | 't' => some (char '\t', s)
        | 'n' => some (char '\n', s)
        | 'r' => some (char '\r', s)
        | 'v' => some (char '\x0b', s)
        | 'A' => some (look .textStart, s)
        | 'z' => some (look .textEnd, s)
        | 'b' => readEdge? f s
        | 'B' => some (look (.wordEdge f.unicode true), s)
        | '<' => some (look (.wordStart f.unicode), s)
        | '>' => some (look (.wordEnd f.unicode), s)
        | _ => none

end Escape

end HostWatch
