import HostWatch.Text.Blank
/-!
# Flags of patterns

Flags change how the rest of a group is read.  With the flag for verbose patterns, blanks and
comments between the parts of a pattern do not count.
-/

namespace HostWatch

/-- What can be set or unset. -/
inductive Flag where
  /-- Case does not count. -/
  | anyCase
  /-- The signs for the ends of the text match at the ends of lines. -/
  | multiLine
  /-- The sign for any character matches line feeds. -/
  | dotAll
  /-- Repetitions are short unless marked; which texts match does not depend on it. -/
  | short
  /-- Sets reach beyond ASCII. -/
  | unicode
  /-- Carriage returns end lines too. -/
  | returns
  /-- Blanks and comments do not count. -/
  | verbose
  deriving DecidableEq, Repr

/-- The flag of a letter. -/
def Flag.ofChar? : Char → Option Flag
  | 'i' => some anyCase
  | 'm' => some multiLine
  | 's' => some dotAll
  | 'U' => some short
  | 'u' => some unicode
  | 'R' => some returns
  | 'x' => some verbose
  | _ => none

/-- The flags in force. -/
structure Flags where
  anyCase : Bool
  multiLine : Bool
  dotAll : Bool
  short : Bool
  unicode : Bool
  returns : Bool
  verbose : Bool
  deriving DecidableEq, Repr

namespace Flags

/-- The flags at the start of a pattern. -/
def start : Flags where
  anyCase := false
  multiLine := false
  dotAll := false
  short := false
  unicode := true
  returns := false
  verbose := false

/-- The flags with one changed. -/
def set (f : Flags) (value : Bool) : Flag → Flags
  | .anyCase => { f with anyCase := value }
  | .multiLine => { f with multiLine := value }
  | .dotAll => { f with dotAll := value }
  | .short => { f with short := value }
  | .unicode => { f with unicode := value }
  | .returns => { f with returns := value }
  | .verbose => { f with verbose := value }

/-- Read changes up to a colon or a closing parenthesis, which remains.  A hyphen unsets what
follows; it stands once and not last, and no flag stands twice.  `seen` are the flags so far. -/
def change? (f : Flags) (seen : List Flag) (unset dangling : Bool) :
    List Char → Option (Flags × List Char)
  | [] => none
  | c :: s =>
    if c = ':' ∨ c = ')' then if dangling then none else some (f, c :: s)
    else if c = '-' then if unset then none else change? f seen true true s
    else match Flag.ofChar? c with
      | none => none
      | some flag =>
        if flag ∈ seen then none else change? (f.set (!unset) flag) (flag :: seen) unset false s

/-- The text after blanks and comments; a comment runs from a number sign to the end of its line. -/
def skipVerbose (inComment : Bool) : List Char → List Char
  | [] => []
  | c :: s =>
    if inComment then skipVerbose (c ≠ '\n') s
    else if c = '#' then skipVerbose true s
    else if isBlank c then skipVerbose false s
    else c :: s

/-- The text after what does not count. -/
def skip (f : Flags) (s : List Char) : List Char := if f.verbose then skipVerbose false s else s

/-- The longest start of a text whose characters pass a test, and the rest, both without what does
not count. -/
def takeWhileFrom (f : Flags) (p : Char → Bool) (inComment : Bool) :
    List Char → List Char × List Char
  | [] => ([], [])
  | c :: s =>
    if inComment then takeWhileFrom f p (c ≠ '\n') s
    else if f.verbose ∧ c = '#' then takeWhileFrom f p true s
    else if f.verbose ∧ isBlank c then takeWhileFrom f p false s
    else if p c then
      let (taken, rest) := takeWhileFrom f p false s
      (c :: taken, rest)
    else ([], c :: s)

/-- The longest start of a text whose characters pass a test, and the rest. -/
def takeWhile (f : Flags) (p : Char → Bool) (s : List Char) : List Char × List Char :=
  takeWhileFrom f p false s

/-- The next character that counts; of a comment only its sign and the blanks after it are passed
over. -/
def peek? (f : Flags) (s : List Char) : Option Char :=
  if f.verbose then
    let ahead := match s.dropWhile isBlank with
      | '#' :: rest => rest.dropWhile isBlank
      | rest => rest
    match ahead with
    | c :: _ => some c
    | [] => s.head?
  else s.head?

end Flags

end HostWatch
