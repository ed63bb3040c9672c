/-!
# Tables of code points

A table lists ranges of code points.  Large tables are written as text: each range as its first
and last code point in hexadecimal with a hyphen between them, a range of one as that one, and
blanks between the ranges of a line.
-/

namespace HostWatch

/-- Ranges of code points, both ends included. -/
abbrev CodeTable := List (Nat × Nat)

namespace CodeTable

/-- The value of a hexadecimal digit in lower case; other characters count as zero. -/
def hexValue (c : Char) : Nat :=
  if c.isDigit then c.toNat - '0'.toNat
  else if 'a' ≤ c ∧ c ≤ 'f' then c.toNat - 'a'.toNat + 10
  else 0

/-- Read ranges, given the first end of the range under way, if past it, and the number so far. -/
def readRanges : List Char → Option Nat → Nat → CodeTable
  | [], first, n => [(first.getD n, n)]
  | c :: cs, first, n =>
    if c = ' ' then (first.getD n, n) :: readRanges cs none 0
    else if c = '-' then readRanges cs (some n) 0
    else readRanges cs first (n * 16 + hexValue c)

/-- The table that lines of text spell out. -/
def ofText (text : List String) : CodeTable := text.flatMap fun line ↦ readRanges line.toList none 0

/-- Some range of the table holds the code point. -/
def contains (t : CodeTable) (n : Nat) : Bool := t.any fun range ↦ range.1 ≤ n && n ≤ range.2

end CodeTable

end HostWatch
