import HostWatch.Size
import HostWatch.Text.Search
/-!
# Thresholds

A threshold is a comparator, a number and a unit: `>=80%`, `<100m`, `=10m/s`, `>32c`.  The unit
tells the kind of quantity, and only readings of that kind are compared with it.
-/

namespace HostWatch

/-- How a reading is compared with a threshold. -/
inductive Comparator where
  | lt | le | eq | ge | gt
  deriving DecidableEq, Repr

namespace Comparator

/-- The written form. -/
def symbol : Comparator → String
  | lt => "<"
  | le => "<="
  | eq => "="
  | ge => ">="
  | gt => ">"

/-- The comparison holds; it never does for NaN. -/
def holds (c : Comparator) (current threshold : Binary64) : Bool :=
  match c with
  | lt => current.lt threshold
  | le => current.le threshold
  | eq => current.eq threshold
  | ge => threshold.le current
  | gt => threshold.lt current

/-- The comparator at the start of a text, the longest that fits, and the text after it. -/
def split : List Char → Option (Comparator × List Char)
  | '<' :: '=' :: s => some (le, s)
  | '>' :: '=' :: s => some (ge, s)
  | '<' :: s => some (lt, s)
  | '>' :: s => some (gt, s)
  | '=' :: s => some (eq, s)
  | _ => none

end Comparator

/-- What a quantity measures. -/
inductive Kind where
  /-- A share of a whole. -/
  | percent
  /-- Bytes. -/
  | size
  /-- Bytes per second. -/
  | speed
  /-- Degrees Celsius. -/
  | temperature
  deriving DecidableEq, Repr

namespace Kind

/-- The kind's name. -/
def name : Kind → String
  | percent => "percent"
  | size => "size"
  | speed => "speed"
  | temperature => "temperature"

end Kind

/-- A measured quantity. -/
inductive Reading where
  /-- A share of a whole, in hundredths. -/
  | percent (x : Binary64)
  /-- Bytes. -/
  | size (s : Size)
  /-- Bytes per second. -/
  | speed (s : Size)
  /-- Degrees Celsius. -/
  | temperature (x : Binary64)
  deriving DecidableEq, Repr

namespace Reading

/-- What the quantity measures. -/
def kind : Reading → Kind
  | percent _ => .percent
  | size _ => .size
  | speed _ => .speed
  | temperature _ => .temperature

/-- The quantity as a number. -/
def value : Reading → Binary64
  | percent x | temperature x => x
  | size s | speed s => s.toFloat

/-- The quantity with its unit. -/
def text : Reading → String
  | percent x => x.fixed 2 ++ "%"
  | size s => s.text
  | speed s => s.text ++ "/s"
  | temperature x => x.fixed 2 ++ "°C"

end Reading

/-- A limit that readings of one kind are compared with. -/
structure Threshold where
  /-- What it limits. -/
  kind : Kind
  /-- The limit. -/
  value : Binary64
  /-- How readings are compared with it. -/
  comparator : Comparator
  deriving DecidableEq, Repr

namespace Threshold

/-- A finite number; errors carry `expression`. -/
def readNumber (expression : String) (s : List Char) : Except ParseError Binary64 :=
  if s = [] then .error (.tooShort expression)
  else match readFloat? s with
    | some x => if x.isFinite then .ok x else .error (.number expression)
    | none => .error (.number expression)

/-- A size as a number; errors carry `expression`. -/
def readSize (expression : String) (s : List Char) : Except ParseError Binary64 :=
  if s = [] then .error (.tooShort expression)
  else match Size.parse (.ofList s) with
    | .ok size => .ok size.toFloat
    | .error (.unit _) => .error (.unit expression)
    | .error _ => .error (.number expression)

/-- The kind and the number that stand after the comparator. -/
def readQuantity (expression : String) (s : List Char) : Except ParseError (Kind × Binary64) :=
  match dropEnd? ['%'] s with
  | some number => (readNumber expression number).map (Kind.percent, ·)
  | none =>
    match dropEnd? ['/', 's'] s with
    | some size => (readSize expression size).map (Kind.speed, ·)
    | none =>
      if s.getLast?.any Size.units.contains then (readSize expression s).map (Kind.size, ·)
      else match dropEnd? ['c'] s with
        | some number => (readNumber expression number).map (Kind.temperature, ·)
        | none => .error (.unit expression)

/-- Read a threshold, in any case and with blanks around it. -/
def parse (expression : String) : Except ParseError Threshold :=
  let s := lowercase (trim expression.toList)
  if s = [] then .error .empty
  else match Comparator.split s with
    | none => .error (.comparator expression)
    | some (_, []) => .error (.tooShort expression)
    | some (comparator, rest) =>
      (readQuantity expression rest).map fun q ↦ ⟨q.1, q.2, comparator⟩

/-- The threshold as text: a share or a temperature with the fewest digits, a size or a speed as
sizes are written. -/
def text (t : Threshold) : String :=
  t.comparator.symbol ++
    match t.kind with
    | .percent => t.value.plain ++ "%"
    | .temperature => t.value.plain ++ "c"
    | .size => (Size.ofNat (t.value.truncate wordMax)).text
    | .speed => (Size.ofNat (t.value.truncate wordMax)).text ++ "/s"

end Threshold

end HostWatch
