import HostWatch.Pattern.Automaton
import HostWatch.Pattern.Bracket
/-!
# Reading patterns

A pattern is read part by part.  Groups that are still open stand on a stack; each remembers the
flags to go back to, the alternatives before it and the parts of the one under way.  Flags that
change within a group stay so to its end, also in the alternatives that follow.
-/

namespace HostWatch

namespace Pattern

/-- A part of a pattern. -/
structure Part where
  /-- What it matches. -/
  pattern : Pattern
  /-- How deep its parts are nested. -/
  depth : Nat
  /-- It can be repeated; a change of flags cannot. -/
  repeatable : Bool
  deriving Repr

namespace Part

/-- A part without parts of its own. -/
def leaf (p : Pattern) : Part := ⟨p, 0, true⟩

/-- The greatest depth of several parts. -/
def deepest (parts : List Part) : Nat := (parts.map depth).foldl max 0

/-- Parts one after another, given the last first. -/
def concat : List Part → Part
  | [] => leaf .empty
  | [part] => part
  | parts => ⟨.sequence (parts.reverse.map pattern), deepest parts + 1, true⟩

/-- Parts of which any will do, given the last first. -/
def oneOf : List Part → Part
  | [] => leaf .empty
  | [part] => part
  | parts => ⟨.choice (parts.reverse.map pattern), deepest parts + 1, true⟩

end Part

/-- A group that is still open, or the whole pattern. -/
structure OpenGroup where
  /-- The flags to go back to. -/
  outside : Flags
  /-- The alternatives before the one under way, the last first. -/
  alternatives : List Part
  /-- The parts of the one under way, the last first. -/
  parts : List Part
  /-- The number of the group, if it has one. -/
  number : Option Nat
  deriving Repr

namespace OpenGroup

/-- A group that opens under some flags. -/
def new (flags : Flags) (number : Option Nat) : OpenGroup := ⟨flags, [], [], number⟩

/-- The group with one part more. -/
def add (g : OpenGroup) (part : Part) : OpenGroup := { g with parts := part :: g.parts }

/-- The group with the alternative under way closed. -/
def nextAlternative (g : OpenGroup) : OpenGroup :=
  { g with alternatives := .concat g.parts :: g.alternatives, parts := [] }

/-- All that stands in the group. -/
def close (g : OpenGroup) : Part :=
  let inner := Part.oneOf (.concat g.parts :: g.alternatives)
  match g.number with
  | some n => { inner with pattern := .group n inner.pattern }
  | none => inner

/-- The group with its last part repeated. -/
def repeatLast? (g : OpenGroup) (least : Nat) (most : Option Nat) (short : Bool) :
    Option OpenGroup :=
  match g.parts with
  | [] => none
  | last :: rest =>
    if last.repeatable then
      some { g with parts := ⟨.times last.pattern least most short, last.depth + 1, true⟩ :: rest }
    else none

end OpenGroup

/-- How far a pattern has been read. -/
structure Progress where
  /-- The flags in force. -/
  flags : Flags
  /-- The innermost group. -/
  here : OpenGroup
  /-- The groups around it, from inside. -/
  outer : List OpenGroup
  /-- The names of groups so far. -/
  names : List (List Char)
  /-- The number of groups so far that have one. -/
  groups : Nat
  deriving Repr

namespace Progress

/-- Nothing has been read. -/
def start : Progress := ⟨.start, .new .start none, [], [], 0⟩

/-- One part more. -/
def add (r : Progress) (p : Pattern) : Progress := { r with here := r.here.add (.leaf p) }

/-- A group without a number opens, under the given flags. -/
def openPlain (r : Progress) (inside : Flags) : Progress :=
  { r with flags := inside, here := .new r.flags none, outer := r.here :: r.outer }

/-- A group with a number opens. -/
def openGroup (r : Progress) : Progress :=
  { r with
    here := .new r.flags (some (r.groups + 1))
    outer := r.here :: r.outer
    groups := r.groups + 1 }

/-- The innermost group closes. -/
def closeGroup? (r : Progress) : Option Progress :=
  match r.outer with
  | [] => none
  | parent :: outer =>
    let inner := r.here.close
    some { r with
      flags := r.here.outside
      here := parent.add ⟨inner.pattern, inner.depth + 1, true⟩
      outer }

/-! ## Groups -/

/-- A character that a name can start with. -/
def startsName (c : Char) : Bool := c = '_' || (CharSet.ofProperty .alphabetic).contains c

/-- A character that a name can have after its start. -/
def continuesName (c : Char) : Bool :=
  startsName c || c = '.' || c = '[' || c = ']' ||
    (CharSet.ofCategories [.decimalNumber, .letterNumber, .otherNumber]).contains c

/-- Open a group with a name, which is new and is followed by an angle bracket. -/
def openNamed? (r : Progress) (s : List Char) : Option (Progress × List Char) :=
  let name := s.takeWhile (· ≠ '>')
  match name, s.dropWhile (· ≠ '>') with
  | first :: others, _ :: rest =>
    if startsName first ∧ others.all continuesName ∧ name ∉ r.names then
      some ({ r.openGroup with names := name :: r.names }, rest)
    else none
  | _, _ => none

/-- Change flags, for the rest of the group or for a group that opens. -/
def openFlags? (r : Progress) (s : List Char) : Option (Progress × List Char) :=
  match r.flags.change? [] false false s with
  | some (flags, ':' :: rest) => some (r.openPlain flags, rest)
  | some (flags, _ :: rest) =>
    if s.head? = some ')' then none
    else some ({ r with flags, here := r.here.add ⟨.empty, 0, false⟩ }, rest)
  | _ => none

/-- Read what follows an opening parenthesis: a group with or without a name, or a change of
flags.  Conditions on the text around a place are not known. -/
def open? (r : Progress) (s : List Char) : Option (Progress × List Char) :=
  match r.flags.skip s with
  | '?' :: '=' :: _ | '?' :: '!' :: _ | '?' :: '<' :: '=' :: _ | '?' :: '<' :: '!' :: _ => none
  | '?' :: 'P' :: '<' :: s | '?' :: '<' :: s => r.openNamed? s
  | '?' :: s => r.openFlags? s
  | s => some (r.openGroup, s)

/-! ## Repetitions -/

/-- Repeat the last part; a sign that follows makes the repetition short, or long if flags make it
short. -/
def repeat? (r : Progress) (least : Nat) (most : Option Nat) (s : List Char) :
    Option (Progress × List Char) :=
  let (short, rest) := match s with
    | '?' :: s => (!r.flags.short, s)
    | s => (r.flags.short, s)
  (r.here.repeatLast? least most short).map fun here ↦ ({ r with here }, rest)

/-- A count, or nothing where there are no digits, and the text after it. -/
def readCount? (f : Flags) (s : List Char) : Option (Option Nat × List Char) :=
  let (digits, rest) := f.takeWhile Char.isDigit (s.dropWhile isBlank)
  let rest := f.skip (rest.dropWhile isBlank)
  if digits.isEmpty then some (none, rest)
  else if digitsValue 0 digits < 4294967296 then some (some (digitsValue 0 digits), rest)
  else none

/-- Read how often the last part is repeated: a number, or a least number with or without a
greatest. -/
def repeatCounted? (r : Progress) (s : List Char) : Option (Progress × List Char) := do
  let f := r.flags
  match ← readCount? f (f.skip s) with
  | (some n, '\x7d' :: rest) => r.repeat? n (some n) (f.skip rest)
  | (some least, ',' :: rest) =>
    match f.skip rest with
    | '\x7d' :: rest => r.repeat? least none (f.skip rest)
    | rest =>
      match ← readCount? f rest with
      | (some most, '\x7d' :: rest) =>
        if least ≤ most then r.repeat? least (some most) (f.skip rest) else none
      | _ => none
  | _ => none

/-! ## Single parts -/

/-- The pattern of a character. -/
def character (f : Flags) (c : Char) : Pattern := .ofSet (f.fold (.single c))

/-- Every character, line ends only if the flags say so; sets have to reach beyond ASCII. -/
def anyChar? (f : Flags) : Option Pattern :=
  if !f.unicode then none
  else if f.dotAll then some (.ofSet .any)
  else if f.returns then some (.ofSet (.diff .any (.ofRanges [(10, 10), (13, 13)])))
  else some (.ofSet (.diff .any (.single '\n')))

/-- The start of the text or of a line. -/
def startLook (f : Flags) : Look := if f.multiLine then .lineStart f.returns else .textStart

/-- The end of the text or of a line. -/
def endLook (f : Flags) : Look := if f.multiLine then .lineEnd f.returns else .textEnd

/-- The pattern of an escape. -/
def ofEscape (f : Flags) : Escape → Pattern
  | .char c => character f c
  | .set s => .ofSet s
  | .look condition => .look condition

/-- Read the next part. -/
def step? (r : Progress) (s : List Char) : Option (Step Progress Progress × List Char) :=
  let f := r.flags
  let next (r : Progress × List Char) : Step Progress Progress × List Char := (.next r.1, r.2)
  match f.skip s with
  | [] => some (.done r, [])
  | '(' :: s => (r.open? s).map next
  | ')' :: s => r.closeGroup?.map fun r ↦ (.next r, s)
  | '|' :: s => some (.next { r with here := r.here.nextAlternative }, s)
  | '[' :: s =>
    (Bracket.read? f s).map fun ((set, depth), rest) ↦
      (.next { r with here := r.here.add ⟨.ofSet set, depth, true⟩ }, rest)
  | '?' :: s => (r.repeat? 0 (some 1) s).map next
  | '*' :: s => (r.repeat? 0 none s).map next
  | '+' :: s => (r.repeat? 1 none s).map next
  | '\x7b' :: s => (r.repeatCounted? s).map next
  | '\\' :: s => (Escape.read? f s).map fun (e, rest) ↦ (.next (r.add (ofEscape f e)), rest)
  | '.' :: s => (anyChar? f).map fun p ↦ (.next (r.add p), s)
  | '^' :: s => some (.next (r.add (.look (startLook f))), s)
  | '$' :: s => some (.next (r.add (.look (endLook f))), s)
  | c :: s => some (.next (r.add (character f c)), s)

end Progress

/-- The greatest depth of a pattern. -/
def maxDepth : Nat := 250

/-- Read a pattern.  One that is nested too deep or takes too much room is refused too. -/
def read? (text : String) : Option Pattern :=
  match scan Progress.step? .start text.toList with
  | some (r, _) =>
    match r.outer with
    | [] =>
      let whole := r.here.close
      if whole.depth ≤ maxDepth ∧ whole.pattern.isSmall then some whole.pattern else none
    | _ :: _ => none
  | none => none

end Pattern

end HostWatch
