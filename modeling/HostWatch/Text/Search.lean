/-!
# Finding and replacing pieces of text

Occurrences are found from left to right and do not overlap.
-/

namespace HostWatch

/-- What follows a given start of the text, if the text starts so. -/
def dropStart? : List Char → List Char → Option (List Char)
  | [], s => some s
  | _ :: _, [] => none
  | p :: ps, c :: cs => if p = c then dropStart? ps cs else none

/-- What remains after a given start is no longer than the text. -/
theorem length_of_dropStart? {p s rest : List Char} (h : dropStart? p s = some rest) :
    s.length = p.length + rest.length := by
  induction p generalizing s with
  | nil => simp_all [dropStart?]
  | cons a p ih =>
    cases s with
    | nil => simp [dropStart?] at h
    | cons c s =>
      simp only [dropStart?] at h
      split at h
      · have := ih h
        simp only [List.length_cons]
        omega
      · simp at h

/-- What precedes a given end of the text, if the text ends so. -/
def dropEnd? (p s : List Char) : Option (List Char) :=
  (dropStart? p.reverse s.reverse).map List.reverse

/-- The text has the piece somewhere within. -/
def hasPiece (p : List Char) : List Char → Bool
  | [] => p.isEmpty
  | c :: cs => (dropStart? p (c :: cs)).isSome || hasPiece p cs

/-- The parts before and after the first occurrence of a character. -/
def splitFirst (x : Char) : List Char → Option (List Char × List Char)
  | [] => none
  | c :: cs => if c = x then some ([], cs) else (splitFirst x cs).map fun r ↦ (c :: r.1, r.2)

/-- Divide the text at each occurrence of the piece `m :: ms`; the first argument holds the
current part in reverse. -/
def splitParts (m : Char) (ms : List Char) (part : List Char) (s : List Char) :
    List (List Char) :=
  match s with
  | [] => [part.reverse]
  | c :: cs =>
    match _h : dropStart? (m :: ms) (c :: cs) with
    | some rest => part.reverse :: splitParts m ms [] rest
    | none => splitParts m ms (c :: part) cs
termination_by s.length
decreasing_by
  · have := length_of_dropStart? _h
    simp only [List.length_cons] at this ⊢
    omega
  · simp only [List.length_cons]
    omega

/-- The parts of the text between occurrences of a piece that is not empty. -/
def splitAtPiece (piece s : List Char) : List (List Char) :=
  match piece with
  | [] => [s]
  | m :: ms => splitParts m ms [] s

/-- The text with each occurrence of a piece that is not empty replaced. -/
def replacePiece (piece new s : List Char) : List Char :=
  new.intercalate (splitAtPiece piece s)

end HostWatch
