import HostWatch.Pattern.Escape
import HostWatch.Text.Scan
/-!
# Sets between brackets

Between brackets stand characters, ranges, sets and further brackets; all of them together make the
set, or what they leave out if it is negated.  Double signs combine what stands on either side of
them.
-/

namespace HostWatch

/-- How two sets are combined. -/
inductive SetOperation where
  | inter | diff | symmDiff
  deriving DecidableEq, Repr

/-- The combination of two sets. -/
def SetOperation.apply : SetOperation → CharSet → CharSet → CharSet
  | inter => CharSet.inter
  | diff => CharSet.diff
  | symmDiff => CharSet.symmDiff

/-- Items side by side, and how deep brackets are nested in them. -/
structure SetItems where
  /-- The set of all items. -/
  set : CharSet
  /-- The number of items. -/
  count : Nat
  /-- The depth of the deepest item. -/
  deepest : Nat
  deriving Repr

namespace SetItems

/-- No items. -/
def none : SetItems := ⟨.empty, 0, 0⟩

/-- One item more. -/
def add (items : SetItems) (set : CharSet) (depth : Nat) : SetItems :=
  ⟨.union items.set set, items.count + 1, max items.deepest depth⟩

/-- The depth of the items taken together. -/
def depth (items : SetItems) : Nat :=
  if items.count ≤ 1 then items.deepest else items.deepest + 1

end SetItems

/-- Brackets that are still open. -/
structure OpenBracket where
  /-- They mean the complement. -/
  negated : Bool
  /-- What stands before the last double sign, and its depth. -/
  left : Option (CharSet × Nat × SetOperation)
  /-- The items after it. -/
  items : SetItems
  deriving Repr

namespace OpenBracket

/-- The set of all that stands in the brackets so far, and its depth. -/
def combined (f : Flags) (b : OpenBracket) : CharSet × Nat :=
  match b.left with
  | none => (b.items.set, b.items.depth)
  | some (left, depth, operation) =>
    (operation.apply (f.fold left) (f.fold b.items.set), max depth b.items.depth + 1)

/-- The brackets after a double sign. -/
def combineNext (f : Flags) (b : OpenBracket) (operation : SetOperation) : OpenBracket :=
  let (set, depth) := b.combined f
  { b with left := some (set, depth, operation), items := .none }

/-- The brackets with one item more. -/
def add (b : OpenBracket) (set : CharSet) (depth : Nat) : OpenBracket :=
  { b with items := b.items.add set depth }

/-- The set of the brackets when they close, and its depth. -/
def close? (f : Flags) (b : OpenBracket) : Option (CharSet × Nat) :=
  let (set, depth) := b.combined f
  (f.negate? b.negated (f.fold set)).map (·, depth + 1)

/-- Read what may only stand at the start of brackets: a circumflex that negates, then hyphens that
stand for themselves or a closing bracket that does. -/
def read? (f : Flags) (s : List Char) : Option (OpenBracket × List Char) :=
  let (negated, s) := match f.skip s with
    | '^' :: s => (true, f.skip s)
    | s => (false, s)
  let (hyphens, rest) := f.takeWhile (· = '-') s
  let items := hyphens.foldl (fun items c ↦ items.add (.single c) 0) SetItems.none
  match hyphens, rest with
  | _, [] => none
  | [], ']' :: rest =>
    match f.skip rest with
    | [] => none
    | rest => some (⟨negated, none, items.add (.single ']') 0⟩, rest)
  | _, rest => some (⟨negated, none, items⟩, rest)

end OpenBracket

namespace Bracket

/-- The name of a set of ASCII characters between colons, whether it is negated, and what follows
its bracket. -/
def readAsciiName? : List Char → Option (String × Bool × List Char)
  | ':' :: s =>
    let (negated, s) := match s with
      | '^' :: s => (true, s)
      | _ => (false, s)
    match s.dropWhile (· ≠ ':') with
    | ':' :: ']' :: rest => some (.ofList (s.takeWhile (· ≠ ':')), negated, rest)
    | _ => none
  | _ => none

/-- Read a named set of ASCII characters after its bracket. -/
def readAscii? (s : List Char) : Option (CharSet × Bool × List Char) :=
  match readAsciiName? s with
  | some (name, negated, rest) => (CharSet.namedAscii? name).map (·, negated, rest)
  | none => none

/-- Read one character or an escape. -/
def readItem? (f : Flags) : List Char → Option (Escape × List Char)
  | [] => none
  | '\\' :: s => Escape.read? f s
  | c :: s => some (.char c, s)

/-- The characters from one to another; beyond ASCII they need the flag for it. -/
def range? (f : Flags) (first last : Char) : Option CharSet :=
  if last < first ∨ (!f.unicode ∧ 0x80 ≤ last.toNat) then none
  else some (.range first.toNat last.toNat)

/-- The set of an item on its own. -/
def single? (f : Flags) : Escape → Option CharSet
  | .char c => range? f c c
  | .set s => some s
  | .look _ => none

/-- The set of an item or of a range between two. -/
def readRange? (f : Flags) (s : List Char) : Option (CharSet × List Char) := do
  let (first, rest) ← readItem? f s
  match f.skip rest with
  | [] => none
  | '-' :: after =>
    if f.peek? after = some ']' ∨ f.peek? after = some '-' then
      (single? f first).map (·, '-' :: after)
    else
      let (last, rest) ← readItem? f (f.skip after)
      match first, last with
      | .char first, .char last => (range? f first last).map (·, rest)
      | _, _ => none
  | rest => (single? f first).map (·, rest)

/-- Brackets that are still open, the innermost first. -/
abbrev Stack := OpenBracket × List OpenBracket

/-- Read the next part of the innermost brackets. -/
def step? (f : Flags) (stack : Stack) (s : List Char) :
    Option (Step Stack (CharSet × Nat) × List Char) :=
  let (here, outer) := stack
  match f.skip s with
  | [] => none
  | '[' :: rest =>
    match readAscii? rest with
    | some (set, negated, rest) =>
      (f.negate? negated (f.fold set)).map fun set ↦ (.next (here.add set 0, outer), rest)
    | none =>
      (OpenBracket.read? f rest).map fun r ↦ (.next (r.1, here :: outer), r.2)
  | ']' :: rest =>
    match here.close? f, outer with
    | none, _ => none
    | some result, [] => some (.done result, rest)
    | some (set, depth), parent :: outer => some (.next (parent.add set depth, outer), rest)
  | '&' :: '&' :: rest => some (.next (here.combineNext f .inter, outer), rest)
  | '-' :: '-' :: rest => some (.next (here.combineNext f .diff, outer), rest)
  | '~' :: '~' :: rest => some (.next (here.combineNext f .symmDiff, outer), rest)
  | s => (readRange? f s).map fun r ↦ (.next (here.add r.1 0, outer), r.2)

/-- Read a set after its opening bracket; its depth comes with it. -/
def read? (f : Flags) (s : List Char) : Option ((CharSet × Nat) × List Char) := do
  let (opened, rest) ← OpenBracket.read? f s
  scan (step? f) (opened, []) rest

end Bracket

end HostWatch
