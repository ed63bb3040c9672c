import HostWatch.Text.CodeTable
import HostWatch.Text.Search
/-!
# Maps of code points

A map replaces some code points by others.  Large maps are written as text, with blanks between the
entries of a line: a code point in hexadecimal, an equality sign, and the code points that replace
it with dots between them.  An entry can stand for a run of code points that are replaced by a run:
its first and last code point have a hyphen between them, or a slash if the run takes every second
one.
-/

namespace HostWatch

/-- What replaces the code points of a run. -/
structure CodeRun where
  /-- The first code point. -/
  first : Nat
  /-- The last code point. -/
  last : Nat
  /-- The step from each code point to the next. -/
  step : Nat
  /-- What replaces the first code point. -/
  target : List Nat
  deriving DecidableEq, Repr

/-- Runs of code points and what replaces them. -/
abbrev CodeMap := List CodeRun

namespace CodeRun

/-- What replaces a code point: a single one moves along the run. -/
def get? (r : CodeRun) (n : Nat) : Option (List Nat) :=
  if r.first ≤ n ∧ n ≤ r.last ∧ (n - r.first) % r.step = 0 then
    some (match r.target with
      | [t] => [t + (n - r.first)]
      | ts => ts)
  else none

/-- A number in hexadecimal. -/
def readNumber (s : List Char) : Nat := s.foldl (fun n c ↦ n * 16 + CodeTable.hexValue c) 0

/-- Read an entry. -/
def read (s : List Char) : CodeRun :=
  let (source, target) := (splitFirst '=' s).getD (s, [])
  let target := (splitAtPiece ['.'] target).map readNumber
  match splitFirst '-' source, splitFirst '/' source with
  | some (first, last), _ => ⟨readNumber first, readNumber last, 1, target⟩
  | none, some (first, last) => ⟨readNumber first, readNumber last, 2, target⟩
  | none, none => ⟨readNumber source, readNumber source, 1, target⟩

end CodeRun

namespace CodeMap

/-- The map that lines of text spell out. -/
def ofText (text : List String) : CodeMap :=
  text.flatMap fun line ↦ (splitAtPiece [' '] line.toList).map CodeRun.read

/-- What replaces a code point, if anything does. -/
def get? (m : CodeMap) (n : Nat) : Option (List Nat) := m.findSome? (·.get? n)

end CodeMap

end HostWatch
