import HostWatch.Http.Domain.Spelling
import HostWatch.Http.Punycode
import HostWatch.Text.Category
import HostWatch.Text.Composition
import HostWatch.Text.Joining
/-!
# Names of hosts

A name of a host is a sequence of labels with dots between them.  It has one written form in ASCII:
it is spelled out and composed first, and labels beyond ASCII are then written in ASCII behind a
sign of their own.  A label that carries the sign already must be the written form of one.
-/

namespace HostWatch

namespace Domain

/-! ## Labels -/

/-- The sign of labels that stand for others. -/
def sign : List Char := "xn--".toList

/-- The text is in ASCII. -/
def isAscii (s : List Char) : Bool := s.all fun c ↦ c.toNat < 128

/-- A character that no name has, although it is kept. -/
def isForbidden (c : Char) : Bool :=
  c.toNat ≤ 0x20 || c.toNat = 0x7f || "#/:<>?@[\\]^|%".toList.contains c

/-- Marks that have no category yet. -/
def newMarks : CodeTable := .ofText
  ["1acf-1add 1ae0-1aeb 10efa-10efb 11b60-11b67 1e6e3 1e6e6 1e6ee-1e6ef 1e6f5"]

/-- The character is a mark on the one before it. -/
def isMark (c : Char) : Bool :=
  newMarks.contains c.toNat || match Category.of? c with
    | some .nonspacingMark | some .spacingMark | some .enclosingMark => true
    | _ => false

/-- The label is spelled out: its characters are kept, it is composed, it starts with no mark, and
its joiners are of use. -/
def isSpelledOut (label : List Char) : Bool :=
  label.all isKept && Composition.compose label = label && !label.head?.any isMark &&
    Joining.areOfUse [] label

/-- What a label stands for: a label with the sign for the one that is written behind it. -/
def meaning? (label : List Char) : Option (List Char) :=
  match dropStart? sign label with
  | none => some label
  | some rest =>
    if isAscii rest then (Punycode.decode? rest).bind fun s ↦ if isAscii s then none else some s
    else none

/-- The written form of a label. -/
def labelText (label : List Char) : List Char :=
  if isAscii label then label else sign ++ Punycode.encode label

/-! ## Names -/

/-- A name with the spelling of all its characters, composed. -/
def spellOut? (name : List Char) : Option (List Char) :=
  (name.mapM spell?).map fun parts ↦ Composition.compose parts.flatten

/-- The labels that the labels of a name stand for, if all of them are well formed.  If one of them
is written to the left, each of them has to show in one order only. -/
def labels? (name : List Char) : Option (List (List Char)) :=
  ((splitAtPiece ['.'] name).mapM meaning?).bind fun labels ↦
    if labels.all isSpelledOut ∧
        (!labels.any WritingDirection.hasLeft ∨ labels.all WritingDirection.isOrdered)
    then some labels
    else none

/-- The written form of a name, if it is one. -/
def read? (s : List Char) : Option (List Char) :=
  (spellOut? s).bind fun name ↦
    if name.any isForbidden then none
    else (labels? name).map fun labels ↦ ['.'].intercalate (labels.map labelText)

end Domain

end HostWatch
