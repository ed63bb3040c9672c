import HostWatch.Text.Blank
import HostWatch.Text.Case
import HostWatch.Text.Property
import HostWatch.Text.Quoted
/-!
# Sets of characters

The sets that patterns name: single characters and ranges, tables of characters that share a
property, and what can be made of sets.  Every set has one form, so sets can be compared.
-/

namespace HostWatch

/-- Ranges of code points in increasing order, those that overlap or touch joined. -/
def joinRanges : List (Nat × Nat) → List (Nat × Nat)
  | [] => []
  | [r] => [r]
  | r :: s :: rest =>
    if s.1 ≤ r.2 + 1 then joinRanges ((r.1, max r.2 s.2) :: rest) else r :: joinRanges (s :: rest)
termination_by rs => rs.length

/-- The ranges in which two lists of ranges overlap. -/
def overlaps : List (Nat × Nat) → List (Nat × Nat) → List (Nat × Nat)
  | [], _ => []
  | _ :: _, [] => []
  | (a, b) :: s, (c, d) :: t =>
    let rest := if b < d then overlaps s ((c, d) :: t) else overlaps ((a, b) :: s) t
    if max a c ≤ min b d then (max a c, min b d) :: rest else rest
termination_by s t => s.length + t.length

/-- The ranges between ranges, from a code point on. -/
def gaps (start : Nat) : List (Nat × Nat) → List (Nat × Nat)
  | [] => [(start, 0x10ffff)]
  | (a, b) :: rest => if start < a then (start, a - 1) :: gaps (b + 1) rest else gaps (b + 1) rest

/-- The code points of characters: all but the surrogates. -/
def scalarRanges : List (Nat × Nat) := [(0, 0xd7ff), (0xe000, 0x10ffff)]

/-- A set of characters, as the ranges of their code points in increasing order. -/
structure CharSet where
  /-- The ranges, none of which touches the next. -/
  ranges : List (Nat × Nat)
  deriving DecidableEq, Repr

namespace CharSet

/-- The set has the character of a code point. -/
def has (s : CharSet) (n : Nat) : Bool := s.ranges.any fun r ↦ r.1 ≤ n && n ≤ r.2

/-- The set has the character. -/
def contains (s : CharSet) (c : Char) : Bool := s.has c.toNat

/-- No character. -/
def empty : CharSet := ⟨[]⟩

/-- Every character. -/
def any : CharSet := ⟨scalarRanges⟩

/-- The characters of several ranges. -/
def ofRanges (rs : List (Nat × Nat)) : CharSet :=
  ⟨joinRanges (overlaps (joinRanges (rs.mergeSort fun a b ↦ a.1 ≤ b.1)) scalarRanges)⟩

/-- The characters of a table. -/
def table (codes : CodeTable) : CharSet := ofRanges codes

/-- The characters from one code point to another. -/
def range (first last : Nat) : CharSet := ofRanges [(first, last)]

/-- One character. -/
def single (c : Char) : CharSet := ⟨[(c.toNat, c.toNat)]⟩

/-- The characters of ASCII. -/
def ascii : CharSet := range 0 0x7f

/-- The characters in either set. -/
def union (a b : CharSet) : CharSet := ofRanges (a.ranges ++ b.ranges)

/-- The characters in any of several sets. -/
def unions (sets : List CharSet) : CharSet := ofRanges (sets.flatMap ranges)

/-- The characters in both sets. -/
def inter (a b : CharSet) : CharSet := ⟨overlaps a.ranges b.ranges⟩

/-- The characters not in a set. -/
def compl (a : CharSet) : CharSet := ⟨overlaps (gaps 0 a.ranges) scalarRanges⟩

/-- The characters in the first set only. -/
def diff (a b : CharSet) : CharSet := inter a b.compl

/-- The characters in one set but not in both. -/
def symmDiff (a b : CharSet) : CharSet := diff (union a b) (inter a b)

/-- The only character of the set, if there is one. -/
def only? (s : CharSet) : Option Char :=
  match s.ranges with
  | [(a, b)] => if a = b then some (Char.ofNat a) else none
  | _ => none

/-- The characters that differ only in case from one in the set. -/
def anyCase (s : CharSet) : CharSet :=
  union s (ofRanges ((caseClasses.filter (·.any s.has)).flatten.map fun n ↦ (n, n)))

/-! ## Usual sets -/

/-- The characters of several categories. -/
def ofCategories (ks : List Category) : CharSet := unions (ks.map fun k ↦ table k.codes)

/-- The characters that have a property. -/
def ofProperty (p : Property) : CharSet :=
  diff (union (ofCategories p.categories) (table p.added)) (table p.removed)

/-- Decimal digits. -/
def digit : CharSet := table Category.decimalNumberCodes

/-- White space. -/
def space : CharSet :=
  ofRanges [(9, 13), (0x20, 0x20), (0x85, 0x85), (0xa0, 0xa0), (0x1680, 0x1680), (0x2000, 0x200a),
    (0x2028, 0x2029), (0x202f, 0x202f), (0x205f, 0x205f), (0x3000, 0x3000)]

/-- Letters of any kind. -/
def letter : CharSet :=
  ofCategories [.uppercaseLetter, .lowercaseLetter, .titlecaseLetter, .modifierLetter, .otherLetter]

/-- Marks of any kind. -/
def mark : CharSet := ofCategories [.nonspacingMark, .spacingMark, .enclosingMark]

/-- Characters of words: letters and what counts as such, marks, digits, connectors and joiners. -/
def word : CharSet :=
  unions [ofProperty .alphabetic, mark, ofCategories [.decimalNumber, .connectorPunctuation],
    range 0x200c 0x200d]

/-- Decimal digits of ASCII. -/
def asciiDigit : CharSet := range 0x30 0x39

/-- White space of ASCII. -/
def asciiSpace : CharSet := ofRanges [(9, 13), (0x20, 0x20)]

/-- Characters of words in ASCII. -/
def asciiWord : CharSet := ofRanges [(0x30, 0x39), (0x41, 0x5a), (0x5f, 0x5f), (0x61, 0x7a)]

/-- The sets of ASCII characters that go by a name. -/
def namedAscii? (name : String) : Option CharSet :=
  [("alnum", ofRanges [(0x30, 0x39), (0x41, 0x5a), (0x61, 0x7a)]),
    ("alpha", ofRanges [(0x41, 0x5a), (0x61, 0x7a)]),
    ("ascii", ascii),
    ("blank", ofRanges [(9, 9), (0x20, 0x20)]),
    ("cntrl", ofRanges [(0, 0x1f), (0x7f, 0x7f)]),
    ("digit", asciiDigit),
    ("graph", range 0x21 0x7e),
    ("lower", range 0x61 0x7a),
    ("print", range 0x20 0x7e),
    ("punct", ofRanges [(0x21, 0x2f), (0x3a, 0x40), (0x5b, 0x60), (0x7b, 0x7e)]),
    ("space", asciiSpace),
    ("upper", range 0x41 0x5a),
    ("word", asciiWord),
    ("xdigit", ofRanges [(0x30, 0x39), (0x41, 0x46), (0x61, 0x66)])].lookup name

/-- Capitals and small letters of ASCII with their counterparts, and all else as it is. -/
def anyAsciiCase (s : CharSet) : CharSet :=
  let shifted (source goal : Nat) : List (Nat × Nat) :=
    (List.range 26).filterMap fun i ↦
      if s.has (source + i) then some (goal + i, goal + i) else none
  union s (ofRanges (shifted 0x41 0x61 ++ shifted 0x61 0x41))

end CharSet

end HostWatch
