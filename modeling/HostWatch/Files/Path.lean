import HostWatch.Text.Search
/-!
# Paths

A path is the list of names from the root of the tree of files.  Its text has slashes between the
names, and a text that starts with no slash continues from a directory.  The names in a text are
steps, and only a tree of files can say where they lead: a step goes down to a name, up, or nowhere.
-/

namespace HostWatch

/-- The names from the root. -/
abbrev Path := List String

namespace Path

/-- A step from a directory. -/
inductive Step where
  /-- To the directory itself. -/
  | stay
  /-- To the directory that holds it. -/
  | up
  /-- To what it holds under a name. -/
  | down (name : String)
  deriving DecidableEq, Repr

/-- The step that a name in a text means. -/
def stepOf (name : List Char) : Step :=
  if name = [] ∨ name = ['.'] then .stay
  else if name = ['.', '.'] then .up
  else .down (.ofList name)

/-- Where a step leads, whatever stands there. -/
def follow (p : Path) : Step → Path
  | .stay => p
  | .up => p.dropLast
  | .down name => p ++ [name]

/-- The most bytes of a name. -/
def nameLimit : Nat := 255

/-- The most bytes of a text. -/
def textLimit : Nat := 4095

/-- A name can be given to something. -/
def fits (name : String) : Bool := name.utf8ByteSize ≤ nameLimit

/-! ## Texts -/

/-- The steps in a text. -/
def stepsIn (text : String) : List Step := (splitAtPiece ['/'] text.toList).map stepOf

/-- Where a text starts within a directory. -/
def startOf (directory : Path) (text : String) : Path :=
  if text.toList.head? = some '/' then [] else directory

/-- A text can mean something: it is neither empty nor too long, and without the character that
ends all texts. -/
def isText (text : String) : Bool :=
  text ≠ "" && text.utf8ByteSize ≤ textLimit && !text.toList.contains '\x00'

/-- Drop what does not matter at the end of a text, which is given in reverse: slashes and names
that stay, but not the whole text. -/
def trimEnd : List Char → List Char
  | ['/'] => ['/']
  | '/' :: rest => trimEnd rest
  | '.' :: '/' :: rest => trimEnd ('/' :: rest)
  | s => s

/-- The text of the directory that holds what a text means, unless that is the root or nothing. -/
def parentText? (text : String) : Option String :=
  match trimEnd text.toList.reverse with
  | [] | ['/'] => none
  | s => some (.ofList (trimEnd (s.dropWhile (· ≠ '/'))).reverse)

/-- The text of a file within a directory. -/
def joinText (directory name : String) : String :=
  if directory = "" then name
  else if directory.toList.getLast? = some '/' then directory ++ name
  else directory ++ "/" ++ name

/-- The text of a path from the root. -/
def text (p : Path) : String := "/" ++ String.intercalate "/" p

end Path

end HostWatch
