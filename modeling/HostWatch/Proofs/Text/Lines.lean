import HostWatch.Proofs.Text.Blank
import Mathlib.Data.List.DropRight
/-!
# Words and lines that are read back

Words are read back whatever blanks stand between and around them, and lines from the text that
they are joined to.  To trim that text trims its first and its last line, and takes away lines of
blanks at its ends, but does no more.
-/

namespace HostWatch

variable {c : Char} {s t u gap l w : List Char} {ls ws front after : List (List Char)}

/-- There is nothing but blanks. -/
def AllBlank (s : List Char) : Prop := ∀ c ∈ s, isBlank c = true

/-- There are no blanks. -/
def NoBlank (s : List Char) : Prop := ∀ c ∈ s, isBlank c = false

instance (s : List Char) : Decidable (AllBlank s) :=
  decidable_of_iff (s.all isBlank = true) List.all_eq_true

instance (s : List Char) : Decidable (NoBlank s) :=
  decidable_of_iff (s.all (!isBlank ·) = true) (by simp [NoBlank])

theorem allBlank_nil : AllBlank [] := List.forall_mem_nil _

theorem allBlank_cons (hc : isBlank c = true) (h : AllBlank s) : AllBlank (c :: s) :=
  List.forall_mem_cons.mpr ⟨hc, h⟩

theorem allBlank_append : AllBlank (s ++ t) ↔ AllBlank s ∧ AllBlank t := List.forall_mem_append

/-! ## Trimming -/

theorem trimStart_eq_nil_iff : trimStart s = [] ↔ AllBlank s := List.dropWhile_eq_nil_iff

theorem trimStart_append_of_allBlank (h : AllBlank gap) (s : List Char) :
    trimStart (gap ++ s) = trimStart s := List.dropWhile_append_of_pos h

theorem trimStart_append (h : ¬AllBlank s) (t : List Char) :
    trimStart (s ++ t) = trimStart s ++ t := by
  have hne : ¬(s.dropWhile isBlank).isEmpty = true := by
    rwa [List.isEmpty_iff, List.dropWhile_eq_nil_iff]
  rw [trimStart, List.dropWhile_append, if_neg hne, trimStart]

theorem exists_append_trimStart (s : List Char) : ∃ gap, AllBlank gap ∧ s = gap ++ trimStart s :=
  ⟨s.takeWhile isBlank, fun _ ↦ List.mem_takeWhile_imp, (List.takeWhile_append_dropWhile).symm⟩

theorem trimEnd_eq_nil_iff : trimEnd s = [] ↔ AllBlank s := List.rdropWhile_eq_nil_iff

theorem trimEnd_append_of_allBlank (h : AllBlank gap) (s : List Char) :
    trimEnd (s ++ gap) = trimEnd s := by
  have hreverse : AllBlank gap.reverse := fun c hc ↦ h c (List.mem_reverse.mp hc)
  rw [trimEnd, List.reverse_append, List.dropWhile_append_of_pos hreverse, trimEnd]

theorem trimEnd_append (h : ¬AllBlank t) (s : List Char) : trimEnd (s ++ t) = s ++ trimEnd t := by
  have hreverse : ¬AllBlank t.reverse := fun hall ↦ h fun c hc ↦ hall c (List.mem_reverse.mpr hc)
  have hstart := trimStart_append hreverse s.reverse
  rw [trimStart, trimStart] at hstart
  rw [trimEnd, List.reverse_append, hstart, List.reverse_append, List.reverse_reverse, trimEnd]

theorem exists_trimEnd_append (s : List Char) : ∃ gap, AllBlank gap ∧ s = trimEnd s ++ gap := by
  obtain ⟨gap, hgap, heq⟩ := exists_append_trimStart s.reverse
  refine ⟨gap.reverse, fun c hc ↦ hgap c (List.mem_reverse.mp hc), ?_⟩
  rw [trimEnd, ← List.reverse_append, ← trimStart, ← heq, List.reverse_reverse]

theorem trim_trimStart (s : List Char) : trim (trimStart s) = trim s := by
  rw [trim, trimStart, trimStart, List.dropWhile_idempotent, trim, trimStart]

theorem trim_allBlank_append (h : AllBlank gap) (s : List Char) : trim (gap ++ s) = trim s := by
  rw [trim, trimStart_append_of_allBlank h, trim]

theorem trim_append_of_allBlank (h : AllBlank gap) (s : List Char) : trim (s ++ gap) = trim s := by
  by_cases hs : AllBlank s
  · have hall : AllBlank (s ++ gap) := allBlank_append.mpr ⟨hs, h⟩
    rw [trim, trimStart_eq_nil_iff.mpr hall, trim, trimStart_eq_nil_iff.mpr hs]
  · rw [trim, trimStart_append hs, trimEnd_append_of_allBlank h, trim]

theorem trim_trimEnd (s : List Char) : trim (trimEnd s) = trim s := by
  obtain ⟨gap, hgap, heq⟩ := exists_trimEnd_append s
  rw [← trim_append_of_allBlank hgap, ← heq]

theorem trim_eq_nil_iff : trim s = [] ↔ AllBlank s := by
  obtain ⟨gap, hgap, heq⟩ := exists_append_trimStart s
  rw [trim, trimEnd_eq_nil_iff]
  constructor
  · intro h
    rw [heq]
    exact allBlank_append.mpr ⟨hgap, h⟩
  · intro h
    rw [trimStart_eq_nil_iff.mpr h]
    exact allBlank_nil

theorem removeBlanks_of_allBlank (h : AllBlank s) : removeBlanks s = [] := by
  apply List.filter_eq_nil_iff.mpr
  intro c hc
  simp [h c hc]

/-- Trimming takes away blanks only. -/
theorem removeBlanks_trim (s : List Char) : removeBlanks (trim s) = removeBlanks s := by
  obtain ⟨before, hbefore, hstart⟩ := exists_append_trimStart s
  obtain ⟨after, hafter, hend⟩ := exists_trimEnd_append (trimStart s)
  have hs : s = before ++ (trim s ++ after) := by rw [trim, ← hend, ← hstart]
  conv_rhs => rw [hs]
  rw [removeBlanks_append, removeBlanks_append, removeBlanks_of_allBlank hbefore,
    removeBlanks_of_allBlank hafter, List.nil_append, List.append_nil]

/-! ## Words -/

theorem splitWords_append_of_allBlank (h : AllBlank gap) (s part : List Char) :
    splitWords (s ++ gap) part = splitWords s part := by
  induction s generalizing part with
  | nil =>
      induction gap generalizing part with
      | nil => rfl
      | cons c gap ih =>
          obtain ⟨hc, hgap⟩ := List.forall_mem_cons.mp h
          have hblank : splitWords gap [] = [] := ih hgap []
          cases part with
          | nil =>
              change splitWords (c :: gap) [] = []
              rwa [splitWords, if_pos hc]
          | cons a part =>
              change splitWords (c :: gap) (a :: part) = [(a :: part).reverse]
              rw [splitWords, if_pos hc, hblank]
              rfl
  | cons c s ih => rw [List.cons_append, splitWords, ih, ih, splitWords]

theorem splitWords_allBlank_append (h : AllBlank gap) (s : List Char) :
    splitWords (gap ++ s) [] = splitWords s [] := by
  induction gap with
  | nil => rfl
  | cons c gap ih =>
      obtain ⟨hc, hgap⟩ := List.forall_mem_cons.mp h
      rw [List.cons_append, splitWords, if_pos hc]
      exact ih hgap

/-- What has no blank goes on with the word. -/
theorem splitWords_word_append (h : NoBlank w) (s part : List Char) :
    splitWords (w ++ s) part = splitWords s (w.reverse ++ part) := by
  induction w generalizing part with
  | nil => rfl
  | cons c w ih =>
      obtain ⟨hc, hw⟩ := List.forall_mem_cons.mp h
      have hnot : ¬isBlank c = true := by rw [hc]; exact Bool.false_ne_true
      rw [List.cons_append, splitWords, if_neg hnot, ih hw, List.reverse_cons, List.append_assoc]
      rfl

/-- A blank or the end of the text ends the word. -/
theorem splitWords_eq_cons (hw : w ≠ []) (h : ∀ c ∈ s.head?, isBlank c = true) :
    splitWords s w = w.reverse :: words s := by
  cases w with
  | nil => exact absurd rfl hw
  | cons a w =>
      cases s with
      | nil => rfl
      | cons c s =>
          have hc : isBlank c = true := h c rfl
          rw [splitWords, if_pos hc, words, splitWords, if_pos hc]
          rfl

theorem words_trimStart (s : List Char) : words (trimStart s) = words s := by
  obtain ⟨gap, hgap, heq⟩ := exists_append_trimStart s
  rw [words, ← splitWords_allBlank_append hgap, ← heq, words]

theorem words_trimEnd (s : List Char) : words (trimEnd s) = words s := by
  obtain ⟨gap, hgap, heq⟩ := exists_trimEnd_append s
  rw [words, ← splitWords_append_of_allBlank hgap, ← heq, words]

theorem words_trim (s : List Char) : words (trim s) = words s := by
  rw [trim, words_trimEnd, words_trimStart]

/-- Words in a text, each without a blank, with any blanks around them and at least one between
two. -/
inductive Spaced : List (List Char) → List Char → Prop
  | blank {gap : List Char} (h : AllBlank gap) : Spaced [] gap
  | word {gap w s : List Char} {ws : List (List Char)} (hgap : AllBlank gap) (hne : w ≠ [])
    (hword : NoBlank w) (hend : ∀ c ∈ s.head?, isBlank c = true)
    (hrest : Spaced ws s) : Spaced (w :: ws) (gap ++ (w ++ s))

/-- The words are read back. -/
theorem Spaced.words_eq (h : Spaced ws s) : words s = ws := by
  induction h with
  | blank hgap => exact splitWords_append_of_allBlank hgap [] []
  | word hgap hne hword hend _ ih =>
      have hreverse := mt List.reverse_eq_nil_iff.mp hne
      rw [words, splitWords_allBlank_append hgap, splitWords_word_append hword, List.append_nil,
        splitWords_eq_cons hreverse hend, List.reverse_reverse, ih]

/-- Every text is some words: a blank belongs to those before the first word, and another character
starts a word or is put before the first. -/
theorem exists_spaced (s : List Char) : ∃ ws, Spaced ws s := by
  induction s with
  | nil => exact ⟨[], .blank allBlank_nil⟩
  | cons c s ih =>
      obtain ⟨ws, h⟩ := ih
      by_cases hc : isBlank c = true
      · cases h with
        | blank hgap => exact ⟨[], .blank (allBlank_cons hc hgap)⟩
        | word hgap hne hword hend hrest =>
            exact ⟨_, .word (allBlank_cons hc hgap) hne hword hend hrest⟩
      have hc' : isBlank c = false := Bool.eq_false_iff.mpr hc
      by_cases hstart : ∀ d ∈ s.head?, isBlank d = true
      · have hword : NoBlank [c] := List.forall_mem_singleton.mpr hc'
        exact ⟨_, .word allBlank_nil (List.cons_ne_nil c []) hword hstart h⟩
      · cases h with
        | blank hgap => exact absurd (fun d hd ↦ hgap d (List.mem_of_mem_head? hd)) hstart
        | @word gap w s ws hgap hne hword hend hrest =>
            cases gap with
            | nil =>
                have hlonger : NoBlank (c :: w) := List.forall_mem_cons.mpr ⟨hc', hword⟩
                exact ⟨_, .word allBlank_nil (List.cons_ne_nil c w) hlonger hend hrest⟩
            | cons d gap =>
                refine absurd (fun e he ↦ ?_) hstart
                obtain rfl := Option.some.inj he
                exact hgap d List.mem_cons_self

/-- The words of a text are those that it is spaced into, and no others. -/
theorem spaced_iff : Spaced ws s ↔ words s = ws := by
  refine ⟨Spaced.words_eq, ?_⟩
  rintro rfl
  obtain ⟨ws, h⟩ := exists_spaced s
  rwa [h.words_eq]

instance (ws : List (List Char)) (s : List Char) : Decidable (Spaced ws s) :=
  decidable_of_iff _ spaced_iff.symm

/-- There are only blanks and what the words hold. -/
theorem Spaced.isBlank_or_mem (h : Spaced ws s) (hc : c ∈ s) :
    isBlank c = true ∨ ∃ w ∈ ws, c ∈ w := by
  induction h with
  | blank hgap => exact .inl (hgap c hc)
  | word hgap _ _ _ _ ih =>
      rcases List.mem_append.mp hc with hc | hc
      · exact .inl (hgap c hc)
      rcases List.mem_append.mp hc with hc | hc
      · exact .inr ⟨_, List.mem_cons_self, hc⟩
      · exact (ih hc).imp_right fun ⟨w, hw, hc⟩ ↦ ⟨w, List.mem_cons_of_mem _ hw, hc⟩

theorem not_allBlank_of_word (hne : w ≠ []) (hword : NoBlank w) : ¬AllBlank w := by
  intro hall
  obtain ⟨c, hc⟩ := List.exists_mem_of_ne_nil w hne
  exact Bool.false_ne_true ((hword c hc).symm.trans (hall c hc))

theorem Spaced.not_allBlank (h : Spaced (w :: ws) s) : ¬AllBlank s := by
  cases h with
  | word _ hne hword _ _ =>
      exact fun hall ↦ not_allBlank_of_word hne hword
        (allBlank_append.mp (allBlank_append.mp hall).2).1

theorem trimStart_word_append (hne : w ≠ []) (hword : NoBlank w)
    (s : List Char) : trimStart (w ++ s) = w ++ s := by
  rw [trimStart_append (not_allBlank_of_word hne hword), trimStart,
    dropWhile_isBlank_eq_self fun c hc ↦ hword c (List.mem_of_mem_head? hc)]

theorem trimEnd_word_append (hword : NoBlank w) (s : List Char) :
    trimEnd (w ++ s) = w ++ trimEnd s := by
  by_cases hs : AllBlank s
  · have hreverse : ∀ c ∈ w.reverse.head?, isBlank c = false :=
      fun c hc ↦ hword c (List.mem_reverse.mp (List.mem_of_mem_head? hc))
    rw [trimEnd_append_of_allBlank hs, trimEnd_eq_nil_iff.mpr hs, List.append_nil, trimEnd,
      dropWhile_isBlank_eq_self hreverse, List.reverse_reverse]
  · exact trimEnd_append hs w

/-- The trimmed text starts with the first word, without the blanks before it. -/
theorem Spaced.exists_trim_eq (h : Spaced (w :: ws) s) :
    ∃ rest, Spaced ws rest ∧ trim s = w ++ trimEnd rest := by
  cases h with
  | word hgap hne hword _ hrest =>
      refine ⟨_, hrest, ?_⟩
      rw [trim, trimStart_append_of_allBlank hgap, trimStart_word_append hne hword,
        trimEnd_word_append hword]

/-- A word alone is what trimming leaves. -/
theorem Spaced.trim_eq (h : Spaced [w] s) : trim s = w := by
  obtain ⟨rest, hrest, heq⟩ := h.exists_trim_eq
  cases hrest with
  | blank hgap => rw [heq, trimEnd_eq_nil_iff.mpr hgap, List.append_nil]

/-! ## Lines -/

/-- Lines as one text, with a line feed between two. -/
def joinLines (ls : List (List Char)) : List Char := List.intercalate ['\n'] ls

/-- What stands behind a line, the lines after it. -/
def linesAfter (ls : List (List Char)) : List Char := ls.flatMap fun l ↦ '\n' :: l

/-- What stands before a line, the lines before it. -/
def linesBefore (ls : List (List Char)) : List Char := ls.flatMap fun l ↦ l ++ ['\n']

theorem joinLines_cons (l : List Char) (ls : List (List Char)) :
    joinLines (l :: ls) = l ++ linesAfter ls := by
  induction ls generalizing l with
  | nil => exact (List.intercalate_singleton).trans (List.append_nil l).symm
  | cons k ls ih =>
      rw [joinLines, List.intercalate_cons_cons, ← joinLines, ih, List.append_assoc]
      rfl

theorem linesAfter_eq_cons (h : ls ≠ []) : linesAfter ls = '\n' :: joinLines ls := by
  cases ls with
  | nil => exact absurd rfl h
  | cons l ls =>
      rw [joinLines_cons]
      rfl

theorem joinLines_append_cons (front : List (List Char)) (l : List Char)
    (after : List (List Char)) :
    joinLines (front ++ l :: after) = linesBefore front ++ (l ++ linesAfter after) := by
  induction front with
  | nil => exact joinLines_cons l after
  | cons k front ih =>
      have hne : front ++ l :: after ≠ [] :=
        List.append_ne_nil_of_right_ne_nil _ (List.cons_ne_nil _ _)
      rw [List.cons_append, joinLines_cons, linesAfter_eq_cons hne, ih]
      simp [linesBefore]

theorem allBlank_linesAfter (h : ∀ l ∈ ls, AllBlank l) : AllBlank (linesAfter ls) := by
  intro c hc
  obtain ⟨l, hl, hc⟩ := List.mem_flatMap.mp hc
  rcases List.mem_cons.mp hc with rfl | hc
  · rfl
  · exact h l hl c hc

theorem allBlank_linesBefore (h : ∀ l ∈ ls, AllBlank l) : AllBlank (linesBefore ls) := by
  intro c hc
  obtain ⟨l, hl, hc⟩ := List.mem_flatMap.mp hc
  rcases List.mem_append.mp hc with hc | hc
  · exact h l hl c hc
  · obtain rfl := List.mem_singleton.mp hc
    rfl

theorem trimStart_joinLines (hfront : ∀ x ∈ front, AllBlank x) (hl : ¬AllBlank l)
    (after : List (List Char)) :
    trimStart (joinLines (front ++ l :: after)) = joinLines (trimStart l :: after) := by
  rw [joinLines_append_cons, trimStart_append_of_allBlank (allBlank_linesBefore hfront),
    trimStart_append hl, joinLines_cons]

theorem trimEnd_joinLines (hafter : ∀ x ∈ after, AllBlank x) (hl : ¬AllBlank l)
    (front : List (List Char)) :
    trimEnd (joinLines (front ++ l :: after)) = joinLines (front ++ [trimEnd l]) := by
  have hone : joinLines (front ++ [trimEnd l]) = linesBefore front ++ trimEnd l := by
    rw [joinLines_append_cons]
    exact congrArg _ (List.append_nil _)
  rw [joinLines_append_cons, ← List.append_assoc,
    trimEnd_append_of_allBlank (allBlank_linesAfter hafter), trimEnd_append hl, hone]

/-- Of lines that are not all blank one is the first that is not. -/
theorem exists_first_not_blank (h : ¬∀ x ∈ ls, AllBlank x) : ∃ front l after,
    ls = front ++ l :: after ∧ (∀ x ∈ front, AllBlank x) ∧ ¬AllBlank l := by
  induction ls with
  | nil => exact absurd (fun x hx ↦ absurd hx List.not_mem_nil) h
  | cons k ls ih =>
      by_cases hk : AllBlank k
      · obtain ⟨front, l, after, rfl, hfront, hl⟩ :=
          ih fun hall ↦ h (List.forall_mem_cons.mpr ⟨hk, hall⟩)
        exact ⟨k :: front, l, after, rfl, List.forall_mem_cons.mpr ⟨hk, hfront⟩, hl⟩
      · exact ⟨[], k, ls, rfl, fun x hx ↦ absurd hx List.not_mem_nil, hk⟩

/-- Of lines that are not all blank one is the last that is not. -/
theorem exists_last_not_blank (h : ¬∀ x ∈ ls, AllBlank x) : ∃ front l after,
    ls = front ++ l :: after ∧ (∀ x ∈ after, AllBlank x) ∧ ¬AllBlank l := by
  have hreverse : ¬∀ x ∈ ls.reverse, AllBlank x := fun hall ↦
    h fun x hx ↦ hall x (List.mem_reverse.mpr hx)
  obtain ⟨front, l, after, heq, hfront, hl⟩ := exists_first_not_blank hreverse
  refine ⟨after.reverse, l, front.reverse, ?_, fun x hx ↦ hfront x (List.mem_reverse.mp hx), hl⟩
  rw [← List.reverse_reverse ls, heq]
  simp

/-! ## Lines that are read back -/

theorem splitLines_append_of_not_mem (h : '\n' ∉ l) (s line : List Char) :
    splitLines (l ++ s) line = splitLines s (l.reverse ++ line) := by
  induction l generalizing line with
  | nil => rfl
  | cons c l ih =>
      have hc : c ≠ '\n' := (List.ne_of_not_mem_cons h).symm
      rw [List.cons_append, splitLines, if_neg hc, ih (List.not_mem_of_not_mem_cons h),
        List.reverse_cons, List.append_assoc]
      rfl

theorem lines_append_cons (h : '\n' ∉ l) (s : List Char) :
    lines (l ++ '\n' :: s) = l :: lines s := by
  rw [lines, splitLines_append_of_not_mem h, List.append_nil, splitLines, if_pos rfl,
    List.reverse_reverse, lines]

theorem lines_eq_singleton (h : '\n' ∉ l) (hne : l ≠ []) : lines l = [l] := by
  have happend := splitLines_append_of_not_mem h [] []
  rw [List.append_nil, List.append_nil] at happend
  rw [lines, happend]
  cases hreverse : l.reverse with
  | nil => exact absurd (List.reverse_eq_nil_iff.mp hreverse) hne
  | cons c line =>
      have hline : splitLines [] (c :: line) = [(c :: line).reverse] := rfl
      rw [hline, ← hreverse, List.reverse_reverse]

/-- Lines are read back, if the last of them is not empty. -/
theorem lines_joinLines (h : ∀ l ∈ ls, '\n' ∉ l) (hlast : ∀ l ∈ ls.getLast?, l ≠ []) :
    lines (joinLines ls) = ls := by
  induction ls with
  | nil => rfl
  | cons l ls ih =>
      obtain ⟨hl, hls⟩ := List.forall_mem_cons.mp h
      cases ls with
      | nil =>
          rw [joinLines_cons]
          exact (congrArg lines (List.append_nil l)).trans (lines_eq_singleton hl (hlast l rfl))
      | cons k ls =>
          rw [joinLines_cons, linesAfter_eq_cons (List.cons_ne_nil k ls), lines_append_cons hl,
            ih hls fun x hx ↦ hlast x (by rwa [List.getLast?_cons_cons])]

theorem map_trim_of_allBlank (h : ∀ l ∈ ls, AllBlank l) :
    ls.map trim = List.replicate ls.length [] := by
  refine List.map_eq_replicate_iff.mpr fun l hl ↦ trim_eq_nil_iff.mpr (h l hl)

theorem not_mem_trimStart (h : c ∉ s) : c ∉ trimStart s := fun hc ↦
  h ((List.dropWhile_suffix isBlank).subset hc)

theorem not_mem_trimEnd (h : c ∉ s) : c ∉ trimEnd s := fun hc ↦
  h ((List.rdropWhile_prefix isBlank s).subset hc)

theorem allBlank_joinLines (h : ∀ l ∈ ls, AllBlank l) : AllBlank (joinLines ls) := by
  cases ls with
  | nil => exact allBlank_nil
  | cons l ls =>
      obtain ⟨hl, hls⟩ := List.forall_mem_cons.mp h
      rw [joinLines_cons]
      exact allBlank_append.mpr ⟨hl, allBlank_linesAfter hls⟩

/-- In the lines of the trimmed text the first that is not blank is trimmed at its start, the last
one at its end, and those before and behind these two are gone. -/
theorem exists_lines_trim_eq {rest : List (List Char)} (hfront : ∀ x ∈ front, AllBlank x)
    (hl : ¬AllBlank l) (h : ∀ x ∈ front ++ l :: rest, '\n' ∉ x) : ∃ body last after,
    trimStart l :: rest = body ++ last :: after ∧ (∀ x ∈ after, AllBlank x) ∧
      lines (trim (joinLines (front ++ l :: rest))) = body ++ [trimEnd last] := by
  have hstart : ¬AllBlank (trimStart l) := fun hblank ↦
    hl (trim_eq_nil_iff.mp ((trim_trimStart l).symm.trans (trim_eq_nil_iff.mpr hblank)))
  have hsome : ¬∀ x ∈ trimStart l :: rest, AllBlank x := fun hblank ↦
    hstart (hblank _ List.mem_cons_self)
  have hlineFeed : ∀ x ∈ trimStart l :: rest, '\n' ∉ x := by
    refine List.forall_mem_cons.mpr ⟨not_mem_trimStart (h l ?_), fun x hx ↦ h x ?_⟩
    · exact List.mem_append_right front List.mem_cons_self
    · exact List.mem_append_right front (List.mem_cons_of_mem l hx)
  obtain ⟨body, last, after, heq, hafter, hlast⟩ := exists_last_not_blank hsome
  refine ⟨body, last, after, heq, hafter, ?_⟩
  rw [trim, trimStart_joinLines hfront hl, heq, trimEnd_joinLines hafter hlast]
  rw [heq] at hlineFeed
  refine lines_joinLines (fun x hx ↦ ?_) ?_
  · rcases List.mem_append.mp hx with hx | hx
    · exact hlineFeed x (List.mem_append_left _ hx)
    · obtain rfl := List.mem_singleton.mp hx
      exact not_mem_trimEnd (hlineFeed last (List.mem_append_right _ List.mem_cons_self))
  · rw [List.getLast?_concat]
    intro x hx
    obtain rfl := Option.some.inj hx
    exact mt trimEnd_eq_nil_iff.mp hlast

/-- The lines of the trimmed text are the lines, when all are trimmed, but for empty ones at the
ends.  None is missing at the start if the first is not blank. -/
theorem exists_map_trim_eq (h : ∀ l ∈ ls, '\n' ∉ l) : ∃ j k,
    ls.map trim = List.replicate j [] ++ (lines (trim (joinLines ls))).map trim ++
      List.replicate k [] ∧
    ((∀ l ∈ ls.head?, ¬AllBlank l) → j = 0) := by
  by_cases hall : ∀ x ∈ ls, AllBlank x
  · refine ⟨0, ls.length, ?_, fun _ ↦ rfl⟩
    rw [trim_eq_nil_iff.mpr (allBlank_joinLines hall), map_trim_of_allBlank hall]
    rfl
  obtain ⟨front, l, rest, rfl, hfront, hl⟩ := exists_first_not_blank hall
  obtain ⟨body, last, after, heq, hafter, hlines⟩ := exists_lines_trim_eq hfront hl h
  refine ⟨front.length, after.length, ?_, ?_⟩
  · have hmap := congrArg (List.map trim) heq
    rw [List.map_cons, trim_trimStart, List.map_append, List.map_cons,
      map_trim_of_allBlank hafter] at hmap
    rw [hlines, List.map_append, List.map_cons, hmap, map_trim_of_allBlank hfront,
      List.map_append, List.map_singleton, trim_trimEnd]
    simp
  · intro hhead
    cases front with
    | nil => rfl
    | cons x front => exact absurd (hfront x List.mem_cons_self) (hhead x rfl)

end HostWatch
