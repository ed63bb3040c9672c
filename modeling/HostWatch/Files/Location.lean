import HostWatch.Files.Path
/-!
# Locations

A location is the text of a path together with the directory that the path starts from, so that
messages can show the path as it was given.
-/

namespace HostWatch

/-- A path as it was given, and where it starts from. -/
structure Location where
  /-- The text of the path. -/
  text : String
  /-- The directory that the path starts from. -/
  directory : Path
  deriving DecidableEq, Repr

namespace Location

/-- Where the steps start. -/
def start (l : Location) : Path := .startOf l.directory l.text

/-- The steps. -/
def steps (l : Location) : List Path.Step := Path.stepsIn l.text

/-- The location can be somewhere. -/
def isSound (l : Location) : Bool := Path.isText l.text

/-- The directory that holds the location, or the one that it starts from. -/
def parent (l : Location) : Location := { l with text := (Path.parentText? l.text).getD "." }

/-- A file within the location. -/
def child (l : Location) (name : String) : Location := { l with text := Path.joinText l.text name }

/-- The file beside the location whose name goes on in another way. -/
def extend (l : Location) (ending : String) : Location := { l with text := l.text ++ ending }

/-- The paths that the steps come by. -/
def trail (l : Location) : List Path := l.steps.scanl Path.follow l.start

end Location

end HostWatch
