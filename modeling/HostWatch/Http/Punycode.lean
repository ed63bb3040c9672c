import HostWatch.Text.Search
/-!
# Names beyond ASCII

A name with characters beyond ASCII is written as its ASCII characters, a hyphen, and the other
characters as steps through all places and code points.  Each step is a number to the base of 36
whose digits have thresholds that follow the numbers before.
-/

namespace HostWatch

namespace Punycode

/-- A digit to the base of 36: letters first. -/
def digit (n : Nat) : Char := if n < 26 then Char.ofNat (97 + n) else Char.ofNat (22 + n)

/-- The threshold of the digit of weight `k`. -/
def threshold (k bias : Nat) : Nat := min 26 (max 1 (k - bias))

/-- The digits of a number, from the digit of weight `k` on. -/
def digits (bias k n : Nat) : List Char :=
  let t := threshold k bias
  if n < t then [digit n]
  else digit (t + (n - t) % (36 - t)) :: digits bias (k + 36) ((n - t) / (36 - t))
termination_by n
decreasing_by
  have : 1 ≤ threshold k bias := by simp only [threshold]; omega
  exact Nat.lt_of_le_of_lt (Nat.div_le_self _ _) (by omega)

/-- How often a number can be divided by 35 before it is at most 455, times 36, and what is left. -/
def shrink (n k : Nat) : Nat × Nat :=
  if 455 < n then shrink (n / 35) (k + 36) else (n, k)
termination_by n
decreasing_by exact Nat.div_lt_self (by omega) (by omega)

/-- The bias after a step, `count` characters being written. -/
def adapt (step count : Nat) (isFirst : Bool) : Nat :=
  let step := if isFirst then step / 700 else step / 2
  let (rest, k) := shrink (step + step / count) 0
  k + 36 * rest / (rest + 38)

/-- How far a name has been written. -/
structure State where
  /-- The digits so far. -/
  output : List Char
  /-- The step under way. -/
  step : Nat
  /-- The bias of its digits. -/
  bias : Nat
  /-- The number of characters that are written. -/
  count : Nat

/-- Pass one character of the name while those of a code point are written. -/
def pass (basic code : Nat) (s : State) (c : Char) : State :=
  if c.toNat < code then { s with step := s.step + 1 }
  else if c.toNat = code then
    { output := s.output ++ digits s.bias 36 s.step
      step := 0
      bias := adapt s.step (s.count + 1) (s.count = basic)
      count := s.count + 1 }
  else s

/-- Write the characters of several code points in increasing order; `next` is the least code point
that is not written yet. -/
def writeCodes (name : List Char) (basic : Nat) : List Nat → Nat → State → State
  | [], _, s => s
  | code :: rest, next, s =>
    let s := { s with step := s.step + (code - next) * (s.count + 1) }
    let s := name.foldl (pass basic code) s
    writeCodes name basic rest (code + 1) { s with step := s.step + 1 }

/-- Put a number in its place in an increasing list, unless it is there. -/
def insert (n : Nat) : List Nat → List Nat
  | [] => [n]
  | m :: rest => if n < m then n :: m :: rest else if n = m then m :: rest else m :: insert n rest

/-- The written form of a name. -/
def encode (name : List Char) : List Char :=
  let basic := name.filter fun c ↦ c.toNat < 128
  let codes := (name.filter fun c ↦ 128 ≤ c.toNat).foldl (fun codes c ↦ insert c.toNat codes) []
  let start := if basic.isEmpty then [] else basic ++ ['-']
  (writeCodes name basic.length codes 128 ⟨start, 0, 72, basic.length⟩).output

/-! ## Reading -/

/-- The value of a digit. -/
def digitValue? (c : Char) : Option Nat :=
  if 'a' ≤ c ∧ c ≤ 'z' then some (c.toNat - 'a'.toNat)
  else if c.isDigit then some (c.toNat - '0'.toNat + 26)
  else none

/-- Read a number from the digit of weight `k` on, which counts `factor` times; the number so far
comes first.  What follows the number is left. -/
def readNumber? (bias n : Nat) : Nat → Nat → List Char → Option (Nat × List Char)
  | _, _, [] => none
  | k, factor, c :: rest =>
    match digitValue? c with
    | none => none
    | some d =>
      let t := threshold k bias
      if d < t then some (n + d * factor, rest)
      else readNumber? bias (n + d * factor) (k + 36) (factor * (36 - t)) rest

/-- What is left is shorter. -/
theorem length_of_readNumber? {bias n k factor m : Nat} {s rest : List Char}
    (h : readNumber? bias n k factor s = some (m, rest)) : rest.length < s.length := by
  induction s generalizing n k factor with
  | nil => simp [readNumber?] at h
  | cons c s ih =>
    simp only [readNumber?] at h
    split at h
    · simp at h
    · split at h
      · simp only [Option.some.injEq, Prod.mk.injEq] at h
        simp [h.2]
      · have := ih h
        simp only [List.length_cons]
        omega

/-- The code point of a character. -/
def isCode (n : Nat) : Bool := n < 0xd800 || (0xdfff < n && n < 0x110000)

/-- Put the characters that the steps tell into a name; `code` is the code point and `place` the
place that the next step starts from.  Only the first step starts from place zero. -/
def readSteps? (name : List Char) (code place bias : Nat) (s : List Char) : Option (List Char) :=
  match s with
  | [] => some name
  | c :: s =>
    match _h : readNumber? bias 0 36 1 (c :: s) with
    | none => none
    | some (step, rest) =>
      let count := name.length + 1
      let code := code + (place + step) / count
      let next := (place + step) % count
      if isCode code then
        readSteps? (name.take next ++ Char.ofNat code :: name.drop next) code (next + 1)
          (adapt step count (place = 0)) rest
      else none
termination_by s.length
decreasing_by exact length_of_readNumber? _h

/-- The parts before and after the last hyphen; without one, or with one at the start only, all
counts as what is after it. -/
def splitBasic (s : List Char) : List Char × List Char :=
  match splitFirst '-' s.reverse with
  | some (after, before@(_ :: _)) => (before.reverse, after.reverse)
  | _ => ([], s)

/-- The name that is written so, if one is. -/
def decode? (s : List Char) : Option (List Char) :=
  let (basic, steps) := splitBasic s
  readSteps? basic 128 0 72 steps

end Punycode

end HostWatch
