import HostWatch.Pattern.Basic
/-!
# Patterns in their usual form

Patterns are put together so that no part is more than it needs to be: a set of one character is
that character, texts side by side are one text, alternatives that are sets are one set, and what
all alternatives start with stands before them.  How much room a pattern takes is told by this form.
-/

namespace HostWatch

namespace Pattern

/-- Matches nothing. -/
def never : Pattern := one .empty

/-- A character of a set. -/
def ofSet (set : CharSet) : Pattern :=
  match set.only? with
  | some c => literal [c]
  | none => one set

/-- The length of the shortest text, unless something in the pattern that has to match cannot. -/
def shortest? : Pattern → Option Nat
  | empty => some 0
  | literal text => some text.length
  | one set => if set = .empty then none else some 1
  | look _ => some 0
  | group _ a => a.shortest?
  | seq a b => match a.shortest?, b.shortest? with
    | some m, some n => some (m + n)
    | _, _ => none
  | alt a b => match a.shortest?, b.shortest? with
    | some m, some n => some (min m n)
    | _, _ => none
  | repeated a least _ _ => a.shortest?.map (· * least)

/-- The length of the longest text, unless there is no bound or something in the pattern cannot
match. -/
def longest? : Pattern → Option Nat
  | empty => some 0
  | literal text => some text.length
  | one set => if set = .empty then none else some 1
  | look _ => some 0
  | group _ a => a.longest?
  | seq a b => match a.longest?, b.longest? with
    | some m, some n => some (m + n)
    | _, _ => none
  | alt a b => match a.longest?, b.longest? with
    | some m, some n => some (max m n)
    | _, _ => none
  | repeated a _ most _ => match most, a.longest? with
    | some n, some m => some (m * n)
    | _, _ => none

/-- The parts that stand one after another; the empty text is no part. -/
def factors : Pattern → List Pattern
  | empty => []
  | seq a b => a.factors ++ b.factors
  | p => [p]

/-- Parts with the texts that stand side by side made one. -/
def joinTexts : List Pattern → List Pattern
  | literal s :: literal t :: rest => joinTexts (literal (s ++ t) :: rest)
  | p :: rest => p :: joinTexts rest
  | [] => []
termination_by ps => ps.length

/-- Parts one after another, as they are. -/
def ofFactors : List Pattern → Pattern
  | [] => empty
  | [p] => p
  | p :: rest => seq p (ofFactors rest)

/-- Patterns one after another. -/
def sequence (ps : List Pattern) : Pattern := ofFactors (joinTexts (ps.flatMap factors))

/-- The alternatives. -/
def alternatives : Pattern → List Pattern
  | alt a b => a.alternatives ++ b.alternatives
  | p => [p]

/-- Alternatives, as they are. -/
def ofAlternatives : List Pattern → Pattern
  | [] => never
  | [p] => p
  | p :: rest => alt p (ofAlternatives rest)

/-- The set of alternatives that are all characters. -/
def charsOf? (ps : List Pattern) : Option CharSet :=
  (ps.mapM fun p ↦ match p with
    | literal [c] => some (c.toNat, c.toNat)
    | _ => none).map CharSet.ofRanges

/-- The set of alternatives that are all sets. -/
def setOf? (ps : List Pattern) : Option CharSet :=
  (ps.mapM fun p ↦ match p with
    | one set => some set
    | _ => none).map CharSet.unions

/-- The longest common start of two lists. -/
def commonStart : List Pattern → List Pattern → List Pattern
  | p :: ps, q :: qs => if p = q then p :: commonStart ps qs else []
  | _, _ => []

/-- The parts that all alternatives start with, and what each goes on with; there are none unless
every alternative has several parts. -/
def splitStart? (ps : List Pattern) : Option (List Pattern × List Pattern) :=
  let parts? := ps.mapM fun p ↦ match p with
    | seq _ _ => some p.factors
    | _ => none
  match parts? with
  | some (first :: others) =>
    match others.foldl commonStart first with
    | [] => none
    | start => some (start, (first :: others).map fun ps ↦ ofFactors (ps.drop start.length))
  | _ => none

/-- Any of several patterns, where common starts are looked for so many times. -/
def choiceWithin : Nat → List Pattern → Pattern
  | 0, ps => ofAlternatives (ps.flatMap alternatives)
  | rounds + 1, ps =>
    match ps.flatMap alternatives with
    | [] => never
    | [p] => p
    | ps =>
      match charsOf? ps <|> setOf? ps with
      | some set => ofSet set
      | none =>
        match splitStart? ps with
        | some (start, rests) => sequence (start ++ [choiceWithin rounds rests])
        | none => ofAlternatives ps

/-- The number of parts of a pattern, and of their parts. -/
def partCount : Pattern → Nat
  | group _ a | repeated a _ _ _ => a.partCount + 1
  | seq a b | alt a b => a.partCount + b.partCount + 1
  | _ => 1

/-- Any of several patterns.  Each common start that is found takes a part from the alternatives. -/
def choice (ps : List Pattern) : Pattern :=
  choiceWithin (ps.foldl (fun n p ↦ n + p.partCount) 1) ps

/-- A pattern several times.  What matches nothing but the empty text need not be tried twice. -/
def times (a : Pattern) (least : Nat) (most : Option Nat) (short : Bool) : Pattern :=
  let (least, most) :=
    if a.longest? = some 0 then (min least 1, some (min (most.getD 1) 1)) else (least, most)
  if least = 0 ∧ most = some 0 then empty
  else if least = 1 ∧ most = some 1 then a
  else repeated a least most short

/-- Every match starts at the start of the text. -/
def startsText : Pattern → Bool
  | look .textStart => true
  | group _ a => a.startsText
  | seq a b => a.startsText || (a.longest? = some 0 && b.startsText)
  | alt a b => a.startsText && b.startsText
  | repeated a least _ _ => least ≠ 0 && a.startsText
  | _ => false

/-- Every match ends at the end of the text. -/
def endsText : Pattern → Bool
  | look .textEnd => true
  | group _ a => a.endsText
  | seq a b => b.endsText || (b.longest? = some 0 && a.endsText)
  | alt a b => a.endsText && b.endsText
  | repeated a least _ _ => least ≠ 0 && a.endsText
  | _ => false

end Pattern

end HostWatch
