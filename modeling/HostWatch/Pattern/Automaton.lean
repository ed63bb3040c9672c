import HostWatch.Pattern.Normal
import HostWatch.Text.Encoding
import Std.Data.HashMap
/-!
# The automaton of a pattern

A pattern is run as an automaton over the bytes of a text, once forwards and once backwards.  Here
the automaton is only measured: what it has of states and transitions is counted in the order in
which they are made, since states that are alike are only found again while they are remembered.
A pattern whose automaton takes more room than `Pattern.maxRoom` either way is not used.
-/

namespace HostWatch

/-! ## Bytes of ranges of characters -/

/-- A range of bytes. -/
abbrev ByteRange := Nat × Nat

/-- The blocks of code points that differ in their last one, two or three bytes only. -/
def byteBlocks : List Nat := [64, 4096, 262144]

/-- The greatest code points that take one, two or three bytes. -/
def lengthBounds : List Nat := [0x7f, 0x7ff, 0xffff]

/-- Where a range of code points has to be divided so that the bytes of each part range freely. -/
def cutPoint? (first last : Nat) : Option Nat :=
  match lengthBounds.find? fun n ↦ first ≤ n && n < last with
  | some n => some n
  | none =>
    if last ≤ 0x7f then none
    else byteBlocks.findSome? fun k ↦
      if first / k = last / k then none
      else if first % k ≠ 0 then some (first / k * k + (k - 1))
      else if last % k ≠ k - 1 then some (last / k * k - 1)
      else none

/-- The parts of a range of code points whose bytes range freely. -/
def freeRanges (first last : Nat) : List (Nat × Nat) :=
  match cutPoint? first last with
  | some n =>
    if _h : first ≤ n ∧ n < last then freeRanges first n ++ freeRanges (n + 1) last
    else [(first, last)]
  | none => [(first, last)]
termination_by last - first

/-- The bytes of a code point. -/
def codeBytes (n : Nat) : List Nat := (String.utf8EncodeChar (Char.ofNat n)).map (·.toNat)

/-- The sequences of byte ranges that a set consists of. -/
def CharSet.byteRanges (s : CharSet) : List (List ByteRange) :=
  s.ranges.flatMap fun r ↦
    (freeRanges r.1 r.2).map fun part ↦ (codeBytes part.1).zip (codeBytes part.2)

/-! ## Automata under construction -/

/-- What there is of an automaton: states are numbered as they are made, and some have transitions
that take room beside them. -/
structure Build where
  /-- The number of states. -/
  states : Nat
  /-- The bytes that transitions take. -/
  links : Nat
  deriving DecidableEq, Repr

namespace Build

/-- Nothing. -/
def empty : Build := ⟨0, 0⟩

/-- One state more, with transitions that take some bytes. -/
def state (b : Build) (links : Nat) : Build := ⟨b.states + 1, b.links + links⟩

/-- Several states more, with no transitions beside them. -/
def plain (b : Build) (n : Nat) : Build := ⟨b.states + n, b.links⟩

/-- Some bytes more for transitions of earlier states. -/
def link (b : Build) (links : Nat) : Build := ⟨b.states, b.links + links⟩

/-- The bytes that the automaton takes. -/
def room (b : Build) : Nat := b.states * 32 + b.links

end Build

/-- The bytes of a transition to one of several next states. -/
def branchRoom : Nat := 4

/-- The bytes of a transition on a range of bytes. -/
def rangeRoom : Nat := 8

/-- A number that tells lists of numbers apart, mostly. -/
def digest (numbers : List Nat) : UInt64 :=
  numbers.foldl (fun h n ↦ (h ^^^ n.toUInt64) * 1099511628211) 14695981039346656037

/-! ## Sets forwards -/

/-- The transitions of a state: ranges of bytes and where they lead. -/
abbrev Transitions := List (Nat × Nat × Nat)

/-- An automaton, and states that were made for a set by the digest of their transitions.  There are
only so many places to remember states in. -/
structure Sharing where
  /-- The automaton. -/
  build : Build
  /-- The states that are remembered. -/
  known : Std.HashMap Nat (Transitions × Nat)

/-- A state with these transitions: one that is remembered, or else a new one. -/
def Sharing.stateOf (s : Sharing) (ts : Transitions) : Nat × Sharing :=
  let place := (digest (ts.flatMap fun t ↦ [t.1, t.2.1, t.2.2])).toNat % 10000
  let fresh : Nat × Sharing :=
    (s.build.states,
      ⟨s.build.state (ts.length * rangeRoom), s.known.insert place (ts, s.build.states)⟩)
  match s.known[place]? with
  | some (found, n) => if found = ts then (n, s) else fresh
  | none => fresh

/-- A state that is not made yet: its transitions, and a range that does not lead anywhere yet. -/
structure OpenState where
  /-- The transitions. -/
  transitions : Transitions
  /-- The range that was added last. -/
  last : Option ByteRange

/-- The transitions when the last range leads to a state. -/
def OpenState.close (o : OpenState) (next : Nat) : Transitions :=
  match o.last with
  | some (a, b) => o.transitions ++ [(a, b, next)]
  | none => o.transitions

/-- Make the open states, given the innermost first, until so many are around the innermost. -/
def closeStates (keep : Nat) : List OpenState → Nat → Sharing → List OpenState × Sharing
  | [], _, s => ([], s)
  | o :: outer, next, s =>
    if keep < outer.length then
      let (n, s) := s.stateOf (o.close next)
      closeStates keep outer n s
    else (⟨o.close next, none⟩ :: outer, s)

/-- How many ranges of a sequence were also added last to the open states, the outermost first. -/
def agreement : List ByteRange → List OpenState → Nat
  | r :: rs, o :: os => if o.last = some r then agreement rs os + 1 else 0
  | _, _ => 0

/-- Add a sequence of ranges that ends in a state.  What the sequence before it does not share is
made. -/
def addSequence (goal : Nat) (open_ : List OpenState × Sharing) (sequence : List ByteRange) :
    List OpenState × Sharing :=
  let keep := agreement sequence open_.1.reverse
  let (states, s) := closeStates keep open_.1 goal open_.2
  match states, sequence.drop keep with
  | o :: outer, r :: rest =>
    (rest.foldl (fun states r ↦ ⟨[], some r⟩ :: states) (⟨o.transitions, some r⟩ :: outer), s)
  | states, _ => (states, s)

/-- The automaton of a set that reaches beyond ASCII, added forwards. -/
def Build.addForwards (b : Build) (s : CharSet) : Build :=
  let goal := b.states
  let (states, s) := s.byteRanges.foldl (addSequence goal) ([⟨[], none⟩], ⟨b.plain 1, ∅⟩)
  match closeStates 0 states goal s with
  | (o :: _, s) => (s.stateOf o.transitions).2.build
  | ([], s) => s.build

/-! ## Sets backwards -/

/-- An automaton, and states for one range of bytes each that were made for a set, with where they
lead.  There are only so many places to remember states in. -/
structure BackSharing where
  /-- The automaton. -/
  build : Build
  /-- The states that are remembered. -/
  known : Std.HashMap Nat ((Nat × ByteRange) × Nat)

/-- A state for a range of bytes that leads on: one that is remembered, or else a new one. -/
def BackSharing.stateOf (s : BackSharing) (next : Nat) (r : ByteRange) : Nat × BackSharing :=
  let place := (digest [next, r.1, r.2]).toNat % 1000
  let fresh : Nat × BackSharing :=
    (s.build.states, ⟨s.build.plain 1, s.known.insert place ((next, r), s.build.states)⟩)
  match s.known[place]? with
  | some (found, n) => if found = (next, r) then (n, s) else fresh
  | none => fresh

/-- The automaton of a set that reaches beyond ASCII, added backwards. -/
def Build.addBackwards (b : Build) (s : CharSet) : Build :=
  let goal := b.states + 1
  let add (s : BackSharing) (sequence : List ByteRange) : BackSharing :=
    let (_, s) := sequence.foldl (fun (next, s) r ↦ s.stateOf next r) (goal, s)
    { s with build := s.build.link branchRoom }
  (s.byteRanges.foldl add ⟨b.plain 2, ∅⟩).build

/-- The automaton of a set, added. -/
def Build.addSet (b : Build) (backwards : Bool) (s : CharSet) : Build :=
  if s.ranges.all (·.2 ≤ 0x7f) then (b.plain 1).state (s.ranges.length * rangeRoom)
  else if backwards then b.addBackwards s
  else b.addForwards s

/-! ## Alternatives that are texts -/

/-- Lists of bytes between empty ones. -/
def splitAtEnds : List (List Nat) → List (List (List Nat))
  | [] => [[]]
  | [] :: rest => [] :: splitAtEnds rest
  | word :: rest =>
    match splitAtEnds rest with
    | [] => [[word]]
    | words :: others => (word :: words) :: others

/-- The stretches of words between those that end here; of several that end before any goes on only
one counts. -/
def stretches (words : List (List Nat)) : List (List (List Nat)) :=
  let rest := words.dropWhile List.isEmpty
  if rest.length = words.length then splitAtEnds words else [] :: splitAtEnds rest

/-- What the words that start with a byte go on with. -/
def after (byte : Nat) (words : List (List Nat)) : List (List Nat) :=
  words.filterMap fun word ↦ match word with
    | b :: rest => if b = byte then some rest else none
    | [] => none

/-- The automaton of words in the order of their preference, added; no word is longer than
`longest`. -/
def Build.addWords (longest : Nat) (words : List (List Nat)) (b : Build) : Build :=
  match longest with
  | 0 => b
  | longest + 1 =>
    if words.all List.isEmpty then b
    else
      let parts := stretches words
      let full := parts.filter fun part ↦ !part.isEmpty
      let b := full.foldl (fun b part ↦
        let bytes := (part.filterMap List.head?).eraseDups
        let b := b.state (if bytes.length = 1 then 0 else bytes.length * rangeRoom)
        bytes.foldl (fun b byte ↦ addWords longest (after byte part) b) b) b
      b.state ((full.length + (parts.length - 1)) * branchRoom)

namespace Pattern

/-- The texts of a pattern that is nothing but texts. -/
def texts? : Pattern → Option (List (List Char))
  | literal text => some [text]
  | alt a b => match a.texts?, b.texts? with
    | some s, some t => some (s ++ t)
    | _, _ => none
  | _ => none

/-! ## Patterns -/

/-- Where a pattern stands among alternatives. -/
inductive Rank where
  | alone | second | later
  deriving DecidableEq, Repr

/-- What is made after an alternative: the second one brings the states where alternatives part and
meet again. -/
def Rank.finish (b : Build) : Rank → Build
  | alone => b
  | second => (b.link branchRoom).plain 2
  | later => b.link branchRoom

/-- The room that the automaton of a pattern may take. -/
def maxRoom : Nat := 10485760

/-- Add something several times, unless there is too much already. -/
def addTimes (add : Build → Build) : Nat → Build → Build
  | 0, b => b
  | n + 1, b => if maxRoom < b.room then b else addTimes add n (add b)

/-- Add something exactly so many times. -/
def addExactly (add : Build → Build) (n : Nat) (b : Build) : Build :=
  if n = 0 then b.plain 1 else addTimes add n b

/-- The automaton of a pattern, added. -/
def build (backwards : Bool) (rank : Rank) : Pattern → Build → Build
  | empty, b => rank.finish (b.plain 1)
  | literal text, b => rank.finish (b.plain (encodeBytes text).length)
  | one set, b => rank.finish (b.addSet backwards set)
  | look _, b => rank.finish (b.plain 1)
  | group _ a, b =>
    rank.finish (if backwards then a.build backwards .alone b
      else (a.build backwards .alone (b.plain 1)).plain 1)
  | seq p q, b =>
    rank.finish (if backwards then p.build backwards .alone (q.build backwards .alone b)
      else q.build backwards .alone (p.build backwards .alone b))
  | alt p q, b =>
    let next : Rank := if rank = .alone then .second else .later
    let each := q.build backwards next
      ((if rank = .second then Rank.second else .later).finish (p.build backwards .alone b))
    if rank = .alone then
      match texts? (alt p q) with
      | some texts =>
        let words := texts.map fun text ↦
          let bytes := (encodeBytes text).map (·.toNat)
          if backwards then bytes.reverse else bytes
        (b.plain 1).addWords ((words.map List.length).foldl max 0) words
      | none => each
    else each
  | repeated a least most _, b =>
    let fork (b : Build) : Build := b.state (2 * branchRoom)
    let once := a.build backwards .alone
    rank.finish <| match most with
      | none =>
        if least = 0 then
          if a.shortest?.any (0 < ·) then once (fork b) else (fork (fork (once b))).plain 1
        else if least = 1 then fork (once b)
        else fork (once (addTimes once (least - 1) b))
      | some most =>
        if least = 0 ∧ most = 1 then (once (fork b)).plain 1
        else if least = most then addExactly once least b
        else addTimes (fun b ↦ once (fork b)) (most - least) ((addExactly once least b).plain 1)

/-- What stands before the pattern in its automaton: a match starts at once, or anywhere. -/
def lead (anchored : Bool) : Build :=
  if anchored then Build.empty.plain 1
  else ((Build.empty.state (2 * branchRoom)).plain 1).state rangeRoom

/-- The automaton that reads texts forwards. -/
def forwards (p : Pattern) : Build := (p.build false .alone ((lead p.startsText).plain 1)).plain 2

/-- The automaton that reads texts backwards. -/
def backwards (p : Pattern) : Build := (p.build true .alone (lead p.endsText)).plain 1

/-- Neither automaton takes too much room. -/
def isSmall (p : Pattern) : Bool := p.forwards.room ≤ maxRoom && p.backwards.room ≤ maxRoom

end Pattern

end HostWatch
