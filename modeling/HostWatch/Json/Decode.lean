import HostWatch.Json.Printer
import HostWatch.Text.Quoted
/-!
# Decoding JSON

Typed values are decoded from JSON values, and a refusal tells its cause.  A record is an object,
whose members are looked at in their order, or an array of its fields in the order of their
declaration.  The first member that is refused decides; what is missing counts only after that.
-/

namespace HostWatch

/-- Why a value is refused. -/
inductive DecodeError where
  /-- A required field is not there. -/
  | missingField (name : String)
  /-- A word is none of those allowed. -/
  | unknownVariant (found : String) (variants : List String)
  /-- A value of another type is expected. -/
  | wrongType (found : Json) (wanted : String)
  /-- An integer is out of range. -/
  | outOfRange (found : Int) (wanted : String)
  /-- An object in the place of a word has not exactly one key. -/
  | notSingleKey
  /-- An array in the place of a record lacks a required field. -/
  | tooFewItems (found : Nat) (record : String) (fields : Nat)
  /-- An array in the place of a record has more items than fields. -/
  | tooManyItems (found : Nat)

namespace DecodeError

/-- A value in an error. -/
def describe : Json → String
  | .null => "null"
  | .bool b => "boolean `" ++ (if b then "true" else "false") ++ "`"
  | .integer n => "integer `" ++ .ofList (Json.integerText n.val) ++ "`"
  | .float x => "floating point `" ++ .ofList (Json.floatText x) ++ "`"
  | .string s => "string " ++ quoted s
  | .array _ => "sequence"
  | .object _ => "map"

/-- A word in an error. -/
def ticked (s : String) : String := "`" ++ s ++ "`"

/-- The words that are allowed. -/
def expectedWords : List String → String
  | [] => "there are no variants"
  | [a] => "expected " ++ ticked a
  | [a, b] => "expected " ++ ticked a ++ " or " ++ ticked b
  | all => "expected one of " ++ String.intercalate ", " (all.map ticked)

/-- The cause in words. -/
def message : DecodeError → String
  | missingField name => "missing field " ++ ticked name
  | unknownVariant found variants =>
    "unknown variant " ++ ticked found ++ ", " ++ expectedWords variants
  | wrongType found wanted => "invalid type: " ++ describe found ++ ", expected " ++ wanted
  | outOfRange found wanted =>
    "invalid value: integer " ++ ticked (.ofList (Json.integerText found)) ++ ", expected " ++
      wanted
  | notSingleKey => "invalid value: map, expected map with a single key"
  | tooFewItems found record fields =>
    "invalid length " ++ .ofList (decimalDigits found) ++ ", expected struct " ++ record ++
      " with " ++ .ofList (decimalDigits fields) ++ (if fields = 1 then " element" else " elements")
  | tooManyItems found =>
    "invalid length " ++ .ofList (decimalDigits found) ++ ", expected fewer elements in array"

end DecodeError

/-- A way to read a typed value off a JSON value. -/
abbrev Decoder (α : Type) := Json → Except DecodeError α

namespace Decoder

/-- A string. -/
def string : Decoder String
  | .string s => .ok s
  | v => .error (.wrongType v "a string")

/-- An unsigned integer below a bound, under the name of its type. -/
def unsigned (bound : Nat) (name : String) : Decoder Nat
  | .integer n =>
    if 0 ≤ n.val ∧ n.val < bound then .ok n.val.toNat else .error (.outOfRange n.val name)
  | v => .error (.wrongType v name)

/-- Any value. -/
def value : Decoder Json := .ok

/-- A list of values. -/
def list {α : Type} (item : Decoder α) : Decoder (List α)
  | .array items => items.mapM item
  | v => .error (.wrongType v "a sequence")

/-- Values under any keys. -/
def map {α : Type} (item : Decoder α) : Decoder (List (String × α))
  | .object members => members.mapM fun m ↦ (item m.2).map (m.1, ·)
  | v => .error (.wrongType v "a map")

/-- One of several words: the word itself, or an object with the word as its only key and null
under it. -/
def word {α : Type} (all : List α) (name : α → String) : Decoder α
  | .string s => find s
  | .object [(s, v)] => do
    let x ← find s
    match v with
    | .null => .ok x
    | _ => .error (.wrongType v "unit")
  | .object _ => .error .notSingleKey
  | v => .error (.wrongType v "string or map")
where
  /-- The value that a word stands for. -/
  find (s : String) : Except DecodeError α :=
    match all.find? fun x ↦ name x = s with
    | some x => .ok x
    | none => .error (.unknownVariant s (all.map name))

end Decoder

/-- A field of a record. -/
structure Field (α : Type) where
  /-- The field's name. -/
  name : String
  /-- How its value is read. -/
  decode : Decoder α
  /-- Its value when it is not there, unless it is required. -/
  absent : Option α

namespace Field

variable {α : Type}

/-- A field that must be there. -/
def required (name : String) (decode : Decoder α) : Field α := ⟨name, decode, none⟩

/-- A field that may be left out. -/
def optional (name : String) (decode : Decoder α) (absent : α) : Field α :=
  ⟨name, decode, some absent⟩

/-- The field's value among the members of a record. -/
def get (f : Field α) (members : List (String × Json)) : Except DecodeError α :=
  match Json.lookup? f.name members with
  | some v => f.decode v
  | none => match f.absent with
    | some x => .ok x
    | none => .error (.missingField f.name)

/-- What is needed of a field to check members, whatever its type. -/
structure Check where
  name : String
  refuses : Json → Option DecodeError
  isRequired : Bool

/-- The field as a check. -/
def check (f : Field α) : Check where
  name := f.name
  refuses v := match f.decode v with
    | .ok _ => none
    | .error e => some e
  isRequired := f.absent.isNone

end Field

namespace Record

/-- Refuse the first member whose field refuses it. -/
def checkMembers (fields : List Field.Check) (members : List (String × Json)) :
    Except DecodeError Unit :=
  match members.findSome? fun m ↦ (fields.find? fun f ↦ f.name = m.1).bind (·.refuses m.2) with
  | some e => .error e
  | none => .ok ()

/-- The members of a record that may also be written as an array of its fields. -/
def members (name : String) (fields : List Field.Check) :
    Json → Except DecodeError (List (String × Json))
  | .object members => do
    checkMembers fields members
    return members
  | .array items => do
    let members := (fields.map Field.Check.name).zip items
    checkMembers fields members
    if (fields.drop items.length).any Field.Check.isRequired then
      .error (.tooFewItems items.length name fields.length)
    else if fields.length < items.length then .error (.tooManyItems items.length)
    else return members
  | v => .error (.wrongType v ("struct " ++ name))

/-- The members of a record that is always written as an object. -/
def objectMembers (name : String) (fields : List Field.Check) :
    Json → Except DecodeError (List (String × Json))
  | .object members => do
    checkMembers fields members
    return members
  | v => .error (.wrongType v ("struct " ++ name))

end Record

end HostWatch
