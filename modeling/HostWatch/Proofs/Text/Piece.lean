import HostWatch.Proofs.Text.Search
import Mathlib.Data.List.Infix
/-!
# Pieces of text, found and replaced

A text is divided at a piece, and the piece is replaced, from left to right: an occurrence at the
start is dealt with first, and else the first character stays and the text goes on.  Occurrences in
what is written in the place of others are never looked for, but new ones could come about where it
meets the text around it.
-/

namespace HostWatch

variable {m c : Char} {ms p q u new s rest : List Char}

theorem isSome_dropStart?_iff : (dropStart? p s).isSome = true ↔ p <+: s := by
  rw [Option.isSome_iff_exists]
  exact exists_congr fun rest ↦ dropStart?_eq_some_iff.trans eq_comm

theorem dropStart?_eq_none_iff : dropStart? p s = none ↔ ¬p <+: s := by
  rw [← isSome_dropStart?_iff, Bool.not_eq_true, Option.isSome_eq_false_iff,
    Option.isNone_iff_eq_none]

/-- A text has a piece if the piece is a contiguous part of it. -/
theorem hasPiece_iff : hasPiece p s = true ↔ p <:+: s := by
  induction s with
  | nil => rw [hasPiece, List.isEmpty_iff, List.infix_nil]
  | cons c s ih =>
      rw [hasPiece, Bool.or_eq_true, isSome_dropStart?_iff, ih, List.infix_cons_iff]

/-! ## Ends -/

/-- An end is not found where its own end is not. -/
theorem dropEnd?_eq_none_of_suffix (hq : q <:+ p) (h : ¬q <:+ s) : dropEnd? p s = none :=
  dropEnd?_eq_none fun rest heq ↦ h (hq.trans ⟨rest, heq.symm⟩)

/-- An end is not found where the last part of it stands, but not the first part before that. -/
theorem dropEnd?_append_eq_none (q : List Char) (h : ¬p <:+ s) :
    dropEnd? (p ++ q) (s ++ q) = none := by
  refine dropEnd?_eq_none fun rest heq ↦ h ⟨rest, ?_⟩
  rw [← List.append_assoc] at heq
  exact (List.append_cancel_right heq).symm

/-- An end is not found behind another last character. -/
theorem dropEnd?_eq_none_of_getLast? (hp : p ≠ []) (hq : q ≠ []) (h : p.getLast? ≠ q.getLast?)
    (s : List Char) : dropEnd? p (s ++ q) = none := by
  refine dropEnd?_eq_none fun rest heq ↦ h ?_
  rw [← List.getLast?_append_of_ne_nil rest hp, ← heq, List.getLast?_append_of_ne_nil s hq]

/-! ## Dividing -/

theorem splitParts_nil (part : List Char) : splitParts m ms part [] = [part.reverse] := by
  rw [splitParts]

theorem splitParts_of_dropStart? (h : dropStart? (m :: ms) s = some rest) (part : List Char) :
    splitParts m ms part s = part.reverse :: splitParts m ms [] rest := by
  cases s with
  | nil => cases h
  | cons c s =>
      rw [splitParts]
      split
      case h_1 rest' h' =>
        obtain rfl := Option.some.inj (h.symm.trans h')
        rfl
      case h_2 h' => cases h.symm.trans h'

theorem splitParts_cons (h : ¬m :: ms <+: c :: s) (part : List Char) :
    splitParts m ms part (c :: s) = splitParts m ms (c :: part) s := by
  have hnone := dropStart?_eq_none_iff.mpr h
  rw [splitParts]
  split
  case h_1 h' => cases hnone.symm.trans h'
  case h_2 => rfl

/-- What was read of the first part before only precedes it. -/
theorem exists_splitParts_eq (m : Char) (ms part s : List Char) : ∃ first others,
    splitParts m ms [] s = first :: others ∧
      splitParts m ms part s = (part.reverse ++ first) :: others := by
  induction s generalizing part with
  | nil => exact ⟨[], [], splitParts_nil [], by rw [splitParts_nil, List.append_nil]⟩
  | cons c s ih =>
      cases h : dropStart? (m :: ms) (c :: s) with
      | some rest =>
          exact ⟨[], _, splitParts_of_dropStart? h [],
            by rw [splitParts_of_dropStart? h, List.append_nil]⟩
      | none =>
          have hnot := dropStart?_eq_none_iff.mp h
          obtain ⟨first, others, hsplit, hpart⟩ := ih (c :: part)
          obtain ⟨first', others', hsplit', hone⟩ := ih [c]
          obtain ⟨rfl, rfl⟩ := List.cons.inj (hsplit.symm.trans hsplit')
          refine ⟨c :: first, others, ?_, ?_⟩
          · rw [splitParts_cons hnot, hone]
            rfl
          · rw [splitParts_cons hnot, hpart, List.reverse_cons, List.append_assoc]
            rfl

theorem splitAtPiece_nil (hp : p ≠ []) : splitAtPiece p [] = [[]] := by
  cases p with
  | nil => exact absurd rfl hp
  | cons m ms => exact splitParts_nil []

theorem exists_splitAtPiece_eq (p s : List Char) :
    ∃ first others, splitAtPiece p s = first :: others := by
  cases p with
  | nil => exact ⟨s, [], rfl⟩
  | cons m ms =>
      obtain ⟨first, others, hsplit, -⟩ := exists_splitParts_eq m ms [] s
      exact ⟨first, others, hsplit⟩

/-- A piece at the start ends an empty part. -/
theorem splitAtPiece_append (hp : p ≠ []) (s : List Char) :
    splitAtPiece p (p ++ s) = [] :: splitAtPiece p s := by
  cases p with
  | nil => exact absurd rfl hp
  | cons m ms => exact splitParts_of_dropStart? (dropStart?_eq_some_iff.mpr rfl) []

/-- A character that starts no piece belongs to the first part. -/
theorem exists_splitAtPiece_cons (hp : p ≠ []) (h : ¬p <+: c :: s) : ∃ first others,
    splitAtPiece p s = first :: others ∧ splitAtPiece p (c :: s) = (c :: first) :: others := by
  cases p with
  | nil => exact absurd rfl hp
  | cons m ms =>
      obtain ⟨first, others, hsplit, hone⟩ := exists_splitParts_eq m ms [c] s
      exact ⟨first, others, hsplit, (splitParts_cons h []).trans hone⟩

/-- A text without the piece is one part. -/
theorem splitAtPiece_eq_singleton (hp : p ≠ []) (h : ¬p <:+: s) : splitAtPiece p s = [s] := by
  induction s with
  | nil => exact splitAtPiece_nil hp
  | cons c s ih =>
      obtain ⟨hnot, hs⟩ := not_or.mp (mt List.infix_cons_iff.mpr h)
      obtain ⟨first, others, hsplit, hcons⟩ := exists_splitAtPiece_cons hp hnot
      obtain ⟨rfl, rfl⟩ := List.cons.inj (hsplit.symm.trans (ih hs))
      exact hcons

/-- The first occurrence of a character is the one that nothing before it equals. -/
theorem splitFirst_append (h : c ∉ s) (t : List Char) :
    splitFirst c (s ++ c :: t) = some (s, t) := by
  induction s with
  | nil => exact if_pos rfl
  | cons a s ih =>
      have hc : a ≠ c := (List.ne_of_not_mem_cons h).symm
      rw [List.cons_append, splitFirst, if_neg hc, ih (List.not_mem_of_not_mem_cons h)]
      rfl

theorem splitFirst_eq_some_iff {before after : List Char} :
    splitFirst c s = some (before, after) ↔ s = before ++ c :: after ∧ c ∉ before := by
  constructor
  · induction s generalizing before with
    | nil => exact nofun
    | cons a s ih =>
        rw [splitFirst]
        split
        case isTrue heq =>
          subst heq
          intro h
          obtain ⟨rfl, rfl⟩ := Prod.mk.inj (Option.some.inj h)
          exact ⟨rfl, List.not_mem_nil⟩
        case isFalse hne =>
          intro h
          obtain ⟨r, hr, heq⟩ := Option.map_eq_some_iff.mp h
          obtain ⟨rfl, rfl⟩ := Prod.mk.inj heq
          obtain ⟨rfl, hnot⟩ := ih hr
          exact ⟨rfl, fun hmem ↦ (List.mem_cons.mp hmem).elim (Ne.symm hne) hnot⟩
  · rintro ⟨rfl, hnot⟩
    exact splitFirst_append hnot after

/-! ## Texts in which a piece never starts -/

/-- No occurrence of the piece starts within the text, whatever may follow the text. -/
def NeverStarts (p u : List Char) : Prop := ∀ v ∈ u.tails, v ≠ [] → ¬p <+: v ∧ ¬v <+: p

instance (p u : List Char) : Decidable (NeverStarts p u) :=
  inferInstanceAs (Decidable (∀ v ∈ u.tails, v ≠ [] → ¬p <+: v ∧ ¬v <+: p))

theorem NeverStarts.not_isPrefix {v : List Char} (h : NeverStarts p u) (hv : v <:+ u) (hne : v ≠ [])
    (s : List Char) : ¬p <+: v ++ s := by
  intro hp
  obtain ⟨hnot, hnot'⟩ := h v ((List.mem_tails v u).mpr hv) hne
  rcases List.prefix_or_prefix_of_prefix hp (List.prefix_append v s) with h | h
  · exact hnot h
  · exact hnot' h

/-- A text without the first character of the piece. -/
theorem neverStarts_of_not_mem (h : m ∉ u) : NeverStarts (m :: ms) u := by
  intro v hv hne
  cases v with
  | nil => exact absurd rfl hne
  | cons c v =>
      have hc : c ∈ u := ((List.mem_tails _ _).mp hv).subset List.mem_cons_self
      have hcm : m ≠ c := fun heq ↦ h (heq ▸ hc)
      exact ⟨fun hp ↦ hcm (List.cons_prefix_cons.mp hp).1,
        fun hp ↦ hcm (List.cons_prefix_cons.mp hp).1.symm⟩

theorem infix_of_infix_cons (hp : p ≠ []) (hc : c ∉ p) (h : p <:+: c :: s) : p <:+: s := by
  rcases List.infix_cons_iff.mp h with h | h
  · cases p with
    | nil => exact absurd rfl hp
    | cons a p => exact absurd (List.cons_prefix_cons.mp h).1 (List.ne_of_not_mem_cons hc).symm
  · exact h

theorem mem_of_suffix_concat (hp : p ≠ []) (h : p <:+ s ++ [c]) : c ∈ p := by
  rcases List.suffix_concat_iff.mp h with h | ⟨q, rfl, -⟩
  · exact absurd h hp
  · exact List.mem_append_right q List.mem_cons_self

theorem infix_of_infix_concat (hp : p ≠ []) (hc : c ∉ p) (h : p <:+: s ++ [c]) : p <:+: s := by
  rcases List.infix_concat_iff.mp h with h | h
  · exact absurd (mem_of_suffix_concat hp h) hc
  · exact h

/-- A text without the piece, behind which stands a character that the piece does not have. -/
theorem neverStarts_concat (hp : p ≠ []) (hc : c ∉ p) (h : ¬p <:+: u) :
    NeverStarts p (u ++ [c]) := by
  intro v hv hne
  have hsuffix := (List.mem_tails _ _).mp hv
  constructor
  · intro hstart
    exact h (infix_of_infix_concat hp hc (hstart.isInfix.trans hsuffix.isInfix))
  · intro hstart
    exact hc (hstart.subset (mem_of_suffix_concat hne hsuffix))

/-- Such a text belongs to the first part. -/
theorem NeverStarts.exists_splitAtPiece_append (hp : p ≠ []) (h : NeverStarts p u) (s : List Char) :
    ∃ first others, splitAtPiece p s = first :: others ∧
      splitAtPiece p (u ++ s) = (u ++ first) :: others := by
  induction u with
  | nil =>
      obtain ⟨first, others, hsplit⟩ := exists_splitAtPiece_eq p s
      exact ⟨first, others, hsplit, hsplit⟩
  | cons c u ih =>
      have hnot := h.not_isPrefix List.suffix_rfl (List.cons_ne_nil c u) s
      have hu : NeverStarts p u := fun v hv ↦ h v
        ((List.mem_tails _ _).mpr (((List.mem_tails _ _).mp hv).trans (List.suffix_cons c u)))
      obtain ⟨first, others, hsplit, happend⟩ := ih hu
      obtain ⟨first', others', hsplit', hcons⟩ := exists_splitAtPiece_cons hp hnot
      obtain ⟨rfl, rfl⟩ := List.cons.inj (happend.symm.trans hsplit')
      exact ⟨first, others, hsplit, hcons⟩

/-- It is the first part if the piece follows. -/
theorem NeverStarts.splitAtPiece_append (hp : p ≠ []) (h : NeverStarts p u) (s : List Char) :
    splitAtPiece p (u ++ (p ++ s)) = u :: splitAtPiece p s := by
  obtain ⟨first, others, hsplit, happend⟩ := h.exists_splitAtPiece_append hp (p ++ s)
  obtain ⟨rfl, rfl⟩ := List.cons.inj ((HostWatch.splitAtPiece_append hp s).symm.trans hsplit)
  rw [happend, List.append_nil]

/-! ## Replacing -/

theorem replacePiece_nil (hp : p ≠ []) (new : List Char) : replacePiece p new [] = [] := by
  rw [replacePiece, splitAtPiece_nil hp, List.intercalate_singleton]

/-- A piece at the start is replaced. -/
theorem replacePiece_append (hp : p ≠ []) (new s : List Char) :
    replacePiece p new (p ++ s) = new ++ replacePiece p new s := by
  obtain ⟨first, others, hsplit⟩ := exists_splitAtPiece_eq p s
  rw [replacePiece, splitAtPiece_append hp, replacePiece, hsplit, List.intercalate_cons_cons,
    List.nil_append]

/-- A character that starts no piece stays. -/
theorem replacePiece_cons (hp : p ≠ []) (h : ¬p <+: c :: s) (new : List Char) :
    replacePiece p new (c :: s) = c :: replacePiece p new s := by
  obtain ⟨first, others, hsplit, hcons⟩ := exists_splitAtPiece_cons hp h
  rw [replacePiece, hcons, replacePiece, hsplit]
  cases others with
  | nil => rw [List.intercalate_singleton, List.intercalate_singleton]
  | cons second others =>
      rw [List.intercalate_cons_cons, List.intercalate_cons_cons]
      rfl

/-- A text in which the piece never starts stays. -/
theorem NeverStarts.replacePiece_append (hp : p ≠ []) (h : NeverStarts p u) (new s : List Char) :
    replacePiece p new (u ++ s) = u ++ replacePiece p new s := by
  obtain ⟨first, others, hsplit, happend⟩ := h.exists_splitAtPiece_append hp s
  rw [replacePiece, happend, replacePiece, hsplit]
  cases others with
  | nil => rw [List.intercalate_singleton, List.intercalate_singleton]
  | cons second others =>
      rw [List.intercalate_cons_cons, List.intercalate_cons_cons, List.append_assoc,
        List.append_assoc, List.append_assoc]

/-- Replacing brings no text about that what is written in holds neither as a part of itself nor
the end of: where the text is found afterwards, it was before. -/
theorem isPrefix_of_isPrefix_replacePiece (hp : p ≠ []) (hlast : ∀ c ∈ q.getLast?, c ∉ new)
    (hpart : ¬new <:+: q) (h : q <+: replacePiece p new s) : q <+: s := by
  induction q generalizing s with
  | nil => exact List.nil_prefix
  | cons a q ih =>
      by_cases hstart : p <+: s
      · -- The text would start in what is written in: it ends within or goes on beyond.
        obtain ⟨rest, rfl⟩ := hstart
        rw [replacePiece_append hp] at h
        rcases List.prefix_or_prefix_of_prefix h (List.prefix_append new _) with h | h
        · obtain ⟨c, hc⟩ := Option.isSome_iff_exists.mp
            (List.getLast?_isSome.mpr (List.cons_ne_nil a q))
          exact absurd (h.subset (List.mem_of_getLast? hc)) (hlast c hc)
        · exact absurd h.isInfix hpart
      · cases s with
        | nil =>
            rw [replacePiece_nil hp] at h
            cases List.prefix_nil.mp h
        | cons c s =>
            rw [replacePiece_cons hp hstart] at h
            obtain ⟨rfl, hq⟩ := List.cons_prefix_cons.mp h
            refine List.cons_prefix_cons.mpr ⟨rfl, ih (fun c hc ↦ hlast c ?_) ?_ hq⟩
            · cases q with
              | nil => cases hc
              | cons b q =>
                  rw [List.getLast?_cons_cons]
                  exact hc
            · exact fun hinfix ↦ hpart (List.infix_cons hinfix)

end HostWatch
