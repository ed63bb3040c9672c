import HostWatch.Proofs.Text.Blank
import HostWatch.Text.Case
import Mathlib.Data.List.Basic
/-!
# What lower case leaves alone

A text in lower case has no capital of ASCII and no blank that it did not have, and of the
characters beyond ASCII only one has a lower-case form in it.  So whatever part of a text in lower
case is put in lower case again, it comes out in ASCII only if it is the same.
-/

namespace HostWatch

/-- Ranges of characters beyond ASCII without a blank and without the Kelvin sign, the only one with
a lower-case form in ASCII. -/
def quietRanges : List (Nat × Nat) :=
  [(0xa1, 0x167f), (0x1681, 0x1fff), (0x2060, 0x2129), (0x212b, 0x2fff), (0x3001, 0xd7ff),
    (0xe000, 0x10ffff)]

/-- A code point in one of these ranges. -/
def IsQuiet (n : Nat) : Prop := ∃ range ∈ quietRanges, range.1 ≤ n ∧ n ≤ range.2

theorem isQuiet_iff {n : Nat} :
    IsQuiet n ↔ (0xa1 ≤ n ∧ n ≤ 0x167f) ∨ (0x1681 ≤ n ∧ n ≤ 0x1fff) ∨ (0x2060 ≤ n ∧ n ≤ 0x2129) ∨
      (0x212b ≤ n ∧ n ≤ 0x2fff) ∨ (0x3001 ≤ n ∧ n ≤ 0xd7ff) ∨ (0xe000 ≤ n ∧ n ≤ 0x10ffff) := by
  simp [IsQuiet, quietRanges]

theorem toNat_ofNat_of_isQuiet {n : Nat} (h : IsQuiet n) : (Char.ofNat n).toNat = n := by
  have hvalid : n.isValidChar := by
    rw [isQuiet_iff] at h
    simp only [Nat.isValidChar]
    omega
  rw [Char.ofNat, dif_pos hvalid]
  rfl

theorem isBlank_of_isQuiet {c : Char} (h : IsQuiet c.toNat) : isBlank c = false := by
  rw [isQuiet_iff] at h
  simp only [isBlank]
  generalize c.toNat = n at h
  simp only [Bool.or_eq_false_iff, Bool.and_eq_false_iff, decide_eq_false_iff_not,
    beq_eq_false_iff_ne]
  omega

/-- The partners of the letters in a run lie in one range. -/
theorem partners_lowercaseRuns : ∀ run ∈ lowercaseRuns, run = (0x212a, 0x212a, 1, -8383) ∨
    ∃ range ∈ quietRanges,
      (range.1 : Int) ≤ run.1 + run.2.2.2 ∧ run.2.1 + run.2.2.2 ≤ (range.2 : Int) := by
  decide +kernel

theorem find?_kelvin :
    lowercaseRuns.find? (·.contains 0x212a) = some (0x212a, 0x212a, 1, -8383) := by
  decide +kernel

/-- Lower case within ASCII. -/
theorem lowercaseChar_ascii : ∀ n : Fin 128, ∃ d, lowercaseChar (Char.ofNat n.val) = [d] ∧
    d.toNat < 128 ∧ lowercaseChar d = [d] ∧ isBlank d = isBlank (Char.ofNat n.val) := by
  intro n
  refine ⟨(Char.ofNat n.val).toLower, ?_⟩
  revert n
  decide +kernel

theorem lowercaseChar_of_lt {c : Char} (h : c.toNat < 128) : ∃ d, lowercaseChar c = [d] ∧
    d.toNat < 128 ∧ lowercaseChar d = [d] ∧ isBlank d = isBlank c := by
  have hc := lowercaseChar_ascii ⟨c.toNat, h⟩
  rwa [Char.ofNat_toNat] at hc

/-- Lower case beyond ASCII: the Kelvin sign, the capital with a form of two characters, and the
characters that have one partner or none. -/
theorem lowercaseChar_of_le {c : Char} (h : 128 ≤ c.toNat) :
    (c.toNat = 0x212a ∧ lowercaseChar c = ['k']) ∨
      (c.toNat = 0x130 ∧ lowercaseChar c = ['i', Char.ofNat 0x307]) ∨
      (c.toNat ≠ 0x212a ∧ ∃ d, lowercaseChar c = [d] ∧ (d = c ∨ IsQuiet d.toNat)) := by
  unfold lowercaseChar
  dsimp only
  rw [if_neg (Nat.not_lt.mpr h)]
  split_ifs with htwo
  · exact .inr (.inl ⟨htwo, rfl⟩)
  · cases hfind : lowercaseRuns.find? (·.contains c.toNat) with
    | none =>
        have hkelvin : c.toNat ≠ 0x212a := by
          intro hc
          rw [hc, find?_kelvin] at hfind
          cases hfind
        exact .inr (.inr ⟨hkelvin, c, rfl, .inl rfl⟩)
    | some run =>
        have hrun := List.mem_of_find?_eq_some hfind
        have hcontains := List.find?_some hfind
        simp only [CaseRun.contains, Bool.and_eq_true, decide_eq_true_eq] at hcontains
        rcases partners_lowercaseRuns run hrun with rfl | ⟨range, hrange, hfirst, hlast⟩
        · have hc : c.toNat = 0x212a := Nat.le_antisymm hcontains.1.2 hcontains.1.1
          refine .inl ⟨hc, ?_⟩
          rw [hc]
          rfl
        · have hquiet : IsQuiet (c.toNat + run.2.2.2).toNat := ⟨range, hrange, by omega, by omega⟩
          have hkelvin : c.toNat ≠ 0x212a := by
            intro hc
            rw [hc, find?_kelvin] at hfind
            obtain rfl := Option.some.inj hfind
            revert hquiet
            rw [hc, isQuiet_iff]
            decide
          refine .inr (.inr ⟨hkelvin, _, rfl, .inr ?_⟩)
          rwa [toNat_ofNat_of_isQuiet hquiet]

variable {c d : Char} {s t : List Char}

/-- A character of a lower-case form is in ASCII, where it stays as it is, or beyond ASCII, where
the form is of a character that is no Kelvin sign. -/
theorem mem_lowercaseChar (h : d ∈ lowercaseChar c) :
    (d.toNat < 128 ∧ lowercaseChar d = [d] ∧ (isBlank d = true → isBlank c = true)) ∨
      (128 ≤ c.toNat ∧ c.toNat ≠ 0x212a ∧ (d = c ∨ IsQuiet d.toNat)) := by
  by_cases hc : c.toNat < 128
  · obtain ⟨x, hx, hlt, hstays, hblank⟩ := lowercaseChar_of_lt hc
    rw [hx, List.mem_singleton] at h
    subst h
    exact .inl ⟨hlt, hstays, fun hd ↦ hblank.symm.trans hd⟩
  · have hc := Nat.not_lt.mp hc
    rcases lowercaseChar_of_le hc with ⟨-, hx⟩ | ⟨htwo, hx⟩ | ⟨hne, x, hx, hquiet⟩
    · rw [hx, List.mem_singleton] at h
      subst h
      exact .inl ⟨by decide, by decide, fun hd ↦ absurd hd (by decide)⟩
    · rw [hx, List.mem_pair] at h
      rcases h with rfl | rfl
      · exact .inl ⟨by decide, by decide, fun hd ↦ absurd hd (by decide)⟩
      · exact .inr ⟨hc, by omega, .inr (isQuiet_iff.mpr (by decide))⟩
    · rw [hx, List.mem_singleton] at h
      subst h
      exact .inr ⟨hc, hne, hquiet⟩

/-- Only blanks have a blank in their lower-case form. -/
theorem isBlank_of_mem_lowercaseChar (h : d ∈ lowercaseChar c) (hd : isBlank d = true) :
    isBlank c = true := by
  rcases mem_lowercaseChar h with ⟨-, -, hblank⟩ | ⟨-, -, rfl | hquiet⟩
  · exact hblank hd
  · exact hd
  · rw [isBlank_of_isQuiet hquiet] at hd
    cases hd

/-- The code points of blanks. -/
def blankCodes : List Nat :=
  [9, 10, 11, 12, 13, 0x20, 0x85, 0xa0, 0x1680, 0x2000, 0x2001, 0x2002, 0x2003, 0x2004, 0x2005,
    0x2006, 0x2007, 0x2008, 0x2009, 0x200a, 0x2028, 0x2029, 0x202f, 0x205f, 0x3000]

theorem toNat_mem_blankCodes (h : isBlank c = true) : c.toNat ∈ blankCodes := by
  simp only [isBlank, Bool.or_eq_true, Bool.and_eq_true, decide_eq_true_eq, beq_iff_eq] at h
  simp only [blankCodes, List.mem_cons, List.not_mem_nil, or_false]
  omega

theorem lowercaseChar_blankCodes :
    ∀ n ∈ blankCodes, lowercaseChar (Char.ofNat n) = [Char.ofNat n] := by
  decide +kernel

/-- A blank is in lower case. -/
theorem lowercaseChar_of_isBlank (h : isBlank c = true) : lowercaseChar c = [c] := by
  have hc := lowercaseChar_blankCodes c.toNat (toNat_mem_blankCodes h)
  rwa [Char.ofNat_toNat] at hc

theorem lowercase_append (s t : List Char) : lowercase (s ++ t) = lowercase s ++ lowercase t :=
  List.flatMap_append

/-- Blanks can be removed before a text is put in lower case or after it. -/
theorem removeBlanks_lowercase (s : List Char) :
    removeBlanks (lowercase s) = lowercase (removeBlanks s) := by
  induction s with
  | nil => rfl
  | cons c s ih =>
      have hcons : lowercase (c :: s) = lowercaseChar c ++ lowercase s := rfl
      rw [hcons, removeBlanks_append, ih]
      by_cases hc : isBlank c = true
      · rw [lowercaseChar_of_isBlank hc]
        simp [removeBlanks, hc]
      · have hnone : ∀ d ∈ lowercaseChar c, isBlank d = false := by
          intro d hd
          rw [← Bool.not_eq_true]
          exact fun hblank ↦ hc (isBlank_of_mem_lowercaseChar hd hblank)
        rw [removeBlanks_eq_self hnone]
        simp [removeBlanks, hc, lowercase]

/-- Beyond ASCII nothing but the Kelvin sign has a lower-case form in ASCII. -/
theorem exists_mem_lowercaseChar (hc : 128 ≤ c.toNat) (hne : c.toNat ≠ 0x212a) :
    ∃ d ∈ lowercaseChar c, 128 ≤ d.toNat := by
  rcases lowercaseChar_of_le hc with ⟨heq, -⟩ | ⟨-, hx⟩ | ⟨-, x, hx, hquiet⟩
  · exact absurd heq hne
  · exact ⟨Char.ofNat 0x307, by rw [hx]; simp, by decide⟩
  · refine ⟨x, by rw [hx]; simp, ?_⟩
    rcases hquiet with rfl | hquiet
    · exact hc
    · rw [isQuiet_iff] at hquiet
      omega

theorem lowercaseChar_ne_nil (c : Char) : lowercaseChar c ≠ [] := by
  by_cases hc : c.toNat < 128
  · obtain ⟨d, hd, -⟩ := lowercaseChar_of_lt hc
    rw [hd]
    exact List.cons_ne_nil d []
  · rcases lowercaseChar_of_le (Nat.not_lt.mp hc) with ⟨-, hd⟩ | ⟨-, hd⟩ | ⟨-, d, hd, -⟩ <;>
      rw [hd] <;> exact List.cons_ne_nil _ _

/-- The last character of a text in lower case is in the lower-case form of the last one. -/
theorem exists_of_getLast?_lowercase (h : (lowercase s).getLast? = some d) :
    ∃ c, s.getLast? = some c ∧ d ∈ lowercaseChar c := by
  rcases s.eq_nil_or_concat' with rfl | ⟨t, c, rfl⟩
  · cases h
  · rw [lowercase, List.flatMap_append, List.flatMap_singleton,
      List.getLast?_append_of_ne_nil _ (lowercaseChar_ne_nil c)] at h
    exact ⟨c, List.getLast?_concat, List.mem_of_getLast? h⟩

theorem lowercase_eq_self (h : ∀ c ∈ s, lowercaseChar c = [c]) : lowercase s = s := by
  induction s with
  | nil => rfl
  | cons c s ih =>
      rw [lowercase, List.flatMap_cons, h c List.mem_cons_self, List.singleton_append]
      exact congrArg (c :: ·) (ih fun d hd ↦ h d (List.mem_cons_of_mem c hd))

/-- What is taken from a text in lower case is in lower case, if one or the other is in ASCII. -/
theorem lowercase_eq_self_of_subset (ht : ∀ c ∈ t, c ∈ lowercase s)
    (hascii : (∀ c ∈ t, c.toNat < 128) ∨ ∀ c ∈ lowercase t, c.toNat < 128) : lowercase t = t := by
  apply lowercase_eq_self
  intro c hc
  obtain ⟨x, -, hx⟩ := List.mem_flatMap.mp (ht c hc)
  rcases mem_lowercaseChar hx with ⟨-, hstays, -⟩ | ⟨hle, hne, hquiet⟩
  · exact hstays
  · have hc128 : 128 ≤ c.toNat ∧ c.toNat ≠ 0x212a := by
      rcases hquiet with rfl | hquiet
      · exact ⟨hle, hne⟩
      · rw [isQuiet_iff] at hquiet
        omega
    exfalso
    rcases hascii with hascii | hascii
    · have := hascii c hc
      omega
    · obtain ⟨d, hd, hlt⟩ := exists_mem_lowercaseChar hc128.1 hc128.2
      have := hascii d (List.mem_flatMap.mpr ⟨c, hc, hd⟩)
      omega

end HostWatch
