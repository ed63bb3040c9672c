/-!
# The last two samples

Counters only mean something as differences.  A sequence holds the latest sample of one counter
and the one before it, and an entry is a sequence with the name of what was sampled.  When a new
list of samples comes in, each sample continues the sequence of the first unused entry of its name.
-/

namespace HostWatch

/-- The latest sample and the one before it. -/
structure Sequence (α : Type) where
  /-- The sample before the latest. -/
  older : Option α
  /-- The latest sample. -/
  latest : Option α
  deriving DecidableEq, Repr

namespace Sequence

variable {α : Type}

/-- No samples. -/
def empty : Sequence α := ⟨none, none⟩

instance : Inhabited (Sequence α) := ⟨empty⟩

/-- The sequence after one more sample. -/
def record (s : Sequence α) (sample : α) : Sequence α := ⟨s.latest, some sample⟩

/-- Both samples are there. -/
def isReady (s : Sequence α) : Bool := s.older.isSome && s.latest.isSome

/-- The difference of the two samples. -/
def delta? (difference : α → α → α) (s : Sequence α) : Option α :=
  match s.older, s.latest with
  | some older, some latest => some (difference latest older)
  | _, _ => none

@[simp] theorem older_record (s : Sequence α) (x : α) : (s.record x).older = s.latest := rfl

@[simp] theorem latest_record (s : Sequence α) (x : α) : (s.record x).latest = some x := rfl

end Sequence

/-- A named sequence of samples. -/
structure Tracked (α : Type) where
  /-- What is sampled. -/
  name : String
  /-- Its samples. -/
  samples : Sequence α
  deriving DecidableEq, Repr

namespace Tracked

variable {α : Type}

/-- Take the first entry of a name out of a list. -/
def take (name : String) : List (Tracked α) → Option (Tracked α) × List (Tracked α)
  | [] => (none, [])
  | entry :: rest =>
    if entry.name = name then (some entry, rest)
    else
      let r := take name rest
      (r.1, entry :: r.2)

/-- One entry per sample, in the order of the samples; each continues the first entry of its name
that no sample before it has taken. -/
def advance : List (String × α) → List (Tracked α) → List (Tracked α)
  | [], _ => []
  | (name, sample) :: rest, previous =>
    let r := take name previous
    let samples := match r.1 with
      | some entry => entry.samples
      | none => .empty
    ⟨name, samples.record sample⟩ :: advance rest r.2

@[simp] theorem length_advance (samples : List (String × α)) (previous : List (Tracked α)) :
    (advance samples previous).length = samples.length := by
  induction samples generalizing previous with
  | nil => rfl
  | cons s rest ih => simp [advance, ih]

@[simp] theorem map_name_advance (samples : List (String × α)) (previous : List (Tracked α)) :
    (advance samples previous).map name = samples.map Prod.fst := by
  induction samples generalizing previous with
  | nil => rfl
  | cons s rest ih => simp [advance, ih]

end Tracked

end HostWatch
