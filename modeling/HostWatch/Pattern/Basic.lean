import HostWatch.Pattern.CharSet
/-!
# Patterns

A pattern describes texts.  It is matched by moving places: given the places of a text at which
the part so far may end, a pattern yields the places at which it may end itself.  Whether a text
holds a match is whether any place is reached from all of them.
-/

namespace HostWatch

/-- A condition on a place in a text.  Words are of any script where `wide` is set, and of ASCII
otherwise. -/
inductive Look where
  /-- Nothing comes before. -/
  | textStart
  /-- Nothing follows. -/
  | textEnd
  /-- A line starts; carriage returns count when `returns` is set. -/
  | lineStart (returns : Bool)
  /-- A line ends; carriage returns count when `returns` is set. -/
  | lineEnd (returns : Bool)
  /-- A word starts or ends, or does not if `negated`. -/
  | wordEdge (wide negated : Bool)
  /-- A word starts. -/
  | wordStart (wide : Bool)
  /-- A word ends. -/
  | wordEnd (wide : Bool)
  /-- No character of a word comes before. -/
  | wordStartHalf (wide : Bool)
  /-- No character of a word follows. -/
  | wordEndHalf (wide : Bool)
  deriving DecidableEq, Repr

/-- A description of texts. -/
inductive Pattern where
  /-- The empty text. -/
  | empty
  /-- The text itself. -/
  | literal (text : List Char)
  /-- A character of a set. -/
  | one (set : CharSet)
  /-- The empty text where a condition holds. -/
  | look (condition : Look)
  /-- What the group with a number matches. -/
  | group (number : Nat) (a : Pattern)
  /-- One text after another. -/
  | seq (a b : Pattern)
  /-- Either text. -/
  | alt (a b : Pattern)
  /-- Several texts, at least `least` and at most `most`; fewer rather than more if `short`, which
  decides where a match ends but not whether there is one. -/
  | repeated (a : Pattern) (least : Nat) (most : Option Nat) (short : Bool)
  deriving DecidableEq, Repr

namespace Look

/-- A character of a word. -/
def isWordChar (wide : Bool) (c : Char) : Bool :=
  if wide then CharSet.word.contains c else CharSet.asciiWord.contains c

/-- Whether the condition holds between two characters, the ends of the text being none. -/
def holds (before after : Option Char) : Look → Bool
  | textStart => before.isNone
  | textEnd => after.isNone
  | lineStart false => before.all (· = '\n')
  | lineStart true => before.all fun c ↦ c = '\n' || (c = '\r' && after != some '\n')
  | lineEnd false => after.all (· = '\n')
  | lineEnd true => after.all fun c ↦ c = '\r' || (c = '\n' && before != some '\r')
  | wordEdge wide negated =>
    (before.any (isWordChar wide) != after.any (isWordChar wide)) != negated
  | wordStart wide => !before.any (isWordChar wide) && after.any (isWordChar wide)
  | wordEnd wide => before.any (isWordChar wide) && !after.any (isWordChar wide)
  | wordStartHalf wide => !before.any (isWordChar wide)
  | wordEndHalf wide => !after.any (isWordChar wide)

/-- Whether the condition holds at each place of a text, given the character before it. -/
def places (condition : Look) : Option Char → List Char → List Bool
  | before, [] => [condition.holds before none]
  | before, c :: cs => condition.holds before (some c) :: places condition (some c) cs

end Look

namespace Pattern

/-- The places in either of two lists. -/
def either (s t : List Bool) : List Bool := List.zipWith (· || ·) s t

/-- The places past a character that matches. -/
def pass (matching : Char → Bool) (text : List Char) (places : List Bool) : List Bool :=
  false :: List.zipWith (fun c here ↦ here && matching c) text places

/-- What a step reaches in exactly `n` rounds; a round that changes nothing is the last. -/
def rounds (step : List Bool → List Bool) : Nat → List Bool → List Bool
  | 0, places => places
  | n + 1, places =>
    let next := step places
    if next = places then places else rounds step n next

/-- What a step reaches in at most `n` rounds; a round that adds no place is the last. -/
def reach (step : List Bool → List Bool) : Nat → List Bool → List Bool
  | 0, places => places
  | n + 1, places =>
    let more := either places (step places)
    if more = places then places else reach step n more

/-- The places of a text at which a match may end that starts at one of the given places. -/
def ends (text : List Char) : Pattern → List Bool → List Bool
  | empty, places => places
  | literal cs, places => cs.foldl (fun places c ↦ pass (· = c) text places) places
  | one set, places => pass set.contains text places
  | look condition, places =>
    List.zipWith (· && ·) places (condition.places none text)
  | group _ a, places => ends text a places
  | seq a b, places => ends text b (ends text a places)
  | alt a b, places => either (ends text a places) (ends text b places)
  | repeated a least most _, places =>
    let rest := match most with
      | some most => most - least
      | none => places.length
    reach (ends text a) rest (rounds (ends text a) least places)

/-- The text holds a match somewhere. -/
def isMatch (p : Pattern) (text : String) : Bool :=
  (ends text.toList p (List.replicate (text.toList.length + 1) true)).any id

end Pattern

end HostWatch
