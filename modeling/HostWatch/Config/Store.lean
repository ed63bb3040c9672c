import HostWatch.Config.Migration
import HostWatch.Files.Location
import HostWatch.Files.Tree
import HostWatch.Json.Reader
/-!
# The configuration file

Loading a configuration creates a missing file, brings an older file up to date and keeps the old
text beside it, and otherwise only reads.  What happened to the files is part of the outcome, also
when loading fails.
-/

namespace HostWatch

namespace Config

/-- Why a configuration cannot be loaded or saved. -/
inductive StoreError where
  /-- The file cannot be read, or its bytes are not text. -/
  | unreadable (path : String)
  /-- The text is not JSON. -/
  | syntaxError (path : String)
  /-- An older configuration cannot be brought up to date. -/
  | migration (path : String) (cause : MigrationError)
  /-- The old text cannot be kept. -/
  | backup (path : String)
  /-- The file cannot be written. -/
  | unwritable (path : String)
  /-- The directory for the file cannot be made. -/
  | directory (path : String)
  /-- The JSON value is not a configuration. -/
  | invalid (path : String) (cause : DecodeError)

namespace StoreError

/-- What failed, and the cause where that has words of its own. -/
def messages : StoreError → List String
  | unreadable path => ["Failed to read config file: " ++ quoted path]
  | syntaxError path => ["Failed to parse config file: " ++ quoted path]
  | migration path cause => ["Failed to migrate config file: " ++ quoted path, cause.message]
  | backup path => ["Failed to back up config file to " ++ quoted path]
  | unwritable path => ["Failed to write config file: " ++ quoted path]
  | directory path => ["Failed to create config directory: " ++ quoted path]
  | invalid path cause => ["Invalid config file: " ++ quoted path, cause.message]

end StoreError

/-- Where the old text of a file is kept. -/
def backup (l : Location) : Location := l.extend ".bak"

/-- The text that a configuration is saved as. -/
def fileText (c : Config) : String := c.encode.pretty

/-- Save a configuration, with the directories on the way to it. -/
def save (c : Config) (l : Location) (t : FileTree) : Except StoreError Unit × FileTree :=
  match t.makeDirectory l.parent with
  | (false, t) => (.error (.directory l.parent.text), t)
  | (true, t) =>
    match t.writeText? l c.fileText with
    | none => (.error (.unwritable l.text), t)
    | some t => (.ok (), t)

/-- The configuration that an up-to-date JSON value holds. -/
def ofCurrent (l : Location) (v : Json) : Except StoreError Config :=
  match decode v with
  | .ok c => .ok c
  | .error e => .error (.invalid l.text e)

/-- Replace an older configuration by one that is up to date and keep the old bytes beside it. -/
def loadOlder (l : Location) (content : ByteArray) (v : Json) (t : FileTree) :
    Except StoreError Config × FileTree :=
  match migrate v with
  | .error e => (.error (.migration l.text e), t)
  | .ok migrated =>
    match t.write? (backup l) content with
    | none => (.error (.backup (backup l).text), t)
    | some t =>
      match t.writeText? l migrated.pretty with
      | none => (.error (.unwritable l.text), t)
      | some t => (ofCurrent l migrated, t)

/-- Load a configuration from a file that is there. -/
def loadExisting (l : Location) (t : FileTree) : Except StoreError Config × FileTree :=
  match t.read? l with
  | none => (.error (.unreadable l.text), t)
  | some content =>
    match String.fromUTF8? content with
    | none => (.error (.unreadable l.text), t)
    | some text =>
      match Json.read? text with
      | none => (.error (.syntaxError l.text), t)
      | some v =>
        if versionOf v = currentVersion then (ofCurrent l v, t) else loadOlder l content v t

/-- Load a configuration; a missing file is created. -/
def load (l : Location) (t : FileTree) : Except StoreError Config × FileTree :=
  if t.exists? l then loadExisting l t
  else match fresh.save l t with
    | (.ok (), t) => (.ok fresh, t)
    | (.error e, t) => (.error e, t)

end Config

end HostWatch
