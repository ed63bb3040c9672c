import HostWatch.Files.Location
/-!
# The tree of files

Files and directories by their paths.  A location is looked up step by step, each from a directory,
so it leads nowhere if anything on the way is missing or is a file.  Files are written whole or not
at all: only into a directory that is there, not over a directory, and not where the system refuses
it.
-/

namespace HostWatch

/-- What stands at a path. -/
inductive Entry where
  /-- A file and its bytes. -/
  | file (content : ByteArray)
  /-- A directory. -/
  | directory

/-- Files and directories, of which none is named twice; the root is always there. -/
structure FileTree where
  /-- What stands where. -/
  entries : List (Path × Entry)
  /-- Where the system refuses to write a file or to make a directory. -/
  locked : Path → Bool

namespace FileTree

/-- Nothing but the root, and nothing refused. -/
def empty : FileTree := ⟨[], fun _ ↦ false⟩

/-! ## Paths -/

/-- What stands at a path, among entries. -/
def find? (p : Path) : List (Path × Entry) → Option Entry
  | [] => none
  | (q, e) :: rest => if q = p then some e else find? p rest

/-- Entries with something put at a path. -/
def put (p : Path) (e : Entry) : List (Path × Entry) → List (Path × Entry)
  | [] => [(p, e)]
  | (q, f) :: rest => if q = p then (q, e) :: rest else (q, f) :: put p e rest

/-- What stands at a path. -/
def get? (t : FileTree) (p : Path) : Option Entry :=
  if p = [] then some .directory else find? p t.entries

/-- The tree with something put at a path. -/
def set (t : FileTree) (p : Path) (e : Entry) : FileTree := { t with entries := put p e t.entries }

/-- A directory stands at a path. -/
def isDirectory (t : FileTree) (p : Path) : Bool :=
  match t.get? p with
  | some .directory => true
  | _ => false

/-! ## Locations -/

/-- Where steps lead from a path; each starts from a directory, and goes down only to what is
there. -/
def walk? (t : FileTree) : Path → List Path.Step → Option Path
  | p, [] => some p
  | p, s :: rest =>
    if t.isDirectory p ∧ (t.get? (p.follow s)).isSome then walk? t (p.follow s) rest else none

/-- Where a location leads. -/
def locate? (t : FileTree) (l : Location) : Option Path :=
  if l.isSound then t.walk? l.start l.steps else none

/-- The location leads somewhere. -/
def exists? (t : FileTree) (l : Location) : Bool := (t.locate? l).isSome

/-- The bytes of a file. -/
def read? (t : FileTree) (l : Location) : Option ByteArray :=
  match (t.locate? l).bind t.get? with
  | some (.file content) => some content
  | _ => none

/-- A file can be written under a name in a directory: no directory stands there, and the system
does not refuse it. -/
def takesFile (t : FileTree) (p : Path) (name : String) : Bool :=
  t.isDirectory p && Path.fits name && !t.isDirectory (p ++ [name]) && !t.locked (p ++ [name])

/-- Where a file can be written. -/
def place? (t : FileTree) (l : Location) : Option Path :=
  match l.isSound, l.steps.getLast? with
  | true, some (.down name) =>
    (t.walk? l.start l.steps.dropLast).bind fun p ↦
      if t.takesFile p name then some (p ++ [name]) else none
  | _, _ => none

/-- The tree with a file written, if that can be done. -/
def write? (t : FileTree) (l : Location) (content : ByteArray) : Option FileTree :=
  (t.place? l).map fun p ↦ t.set p (.file content)

/-- The tree with a text written. -/
def writeText? (t : FileTree) (l : Location) (text : String) : Option FileTree :=
  t.write? l text.toUTF8

/-! ## Directories -/

/-- Go on by steps from a path and make the directories that are missing.  The first result says
whether the steps lead to a directory; directories made before a failure stay. -/
def makeSteps (t : FileTree) : Path → List Path.Step → Bool × FileTree
  | p, [] => (t.isDirectory p, t)
  | p, s :: rest =>
    if t.isDirectory p then
      match s, t.get? (p.follow s) with
      | _, some _ => makeSteps t (p.follow s) rest
      | .down name, none =>
        if Path.fits name ∧ !t.locked (p ++ [name]) then
          makeSteps (t.set (p ++ [name]) .directory) (p ++ [name]) rest
        else (false, t)
      | _, none => (false, t)
    else (false, t)

/-- Nothing but a directory and those on the way to it. -/
def ofDirectory (p : Path) : FileTree := (empty.makeSteps [] (p.map .down)).2

/-- Make a directory and those on the way to it.  No text means no directory, and nothing is to be
made. -/
def makeDirectory (t : FileTree) (l : Location) : Bool × FileTree :=
  if l.text = "" then (true, t)
  else if l.isSound then t.makeSteps l.start l.steps
  else (false, t)

/-- The tree with a directory, if it can be made. -/
def makeDirectory? (t : FileTree) (l : Location) : Option FileTree :=
  match t.makeDirectory l with
  | (true, t) => some t
  | (false, _) => none

/-! ## Comparing trees -/

/-- The same stands at a path. -/
def holds (t : FileTree) (p : Path) (e : Entry) : Bool :=
  match t.get? p, e with
  | some (.file found), .file content => found.toList = content.toList
  | some .directory, .directory => true
  | _, _ => false

/-- What is not as it was before. -/
def changes (before after : FileTree) : List (Path × Entry) :=
  after.entries.filter fun (p, e) ↦ !before.holds p e

end FileTree

end HostWatch
