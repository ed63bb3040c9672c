/-!
# Scanning

A scan takes steps along a text.  Each step goes on with what remains or finishes; a step that
leaves nothing shorter behind would go on forever and fails instead.
-/

namespace HostWatch

variable {σ ρ : Type}

/-- The outcome of a step: go on from a new state, or finish. -/
inductive Step (σ ρ : Type) where
  | next (state : σ)
  | done (result : ρ)

/-- Take steps until one finishes; the result comes with what remains of the text. -/
def scan (step : σ → List Char → Option (Step σ ρ × List Char)) (state : σ) (s : List Char) :
    Option (ρ × List Char) :=
  match step state s with
  | none => none
  | some (.done result, rest) => some (result, rest)
  | some (.next state, rest) =>
    if _h : rest.length < s.length then scan step state rest else none
termination_by s.length

end HostWatch
