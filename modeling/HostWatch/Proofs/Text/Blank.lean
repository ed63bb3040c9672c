import HostWatch.Text.Blank
import Mathlib.Data.List.Basic
/-!
# Text without blanks at its ends

Trimming leaves no blank at an end, and leaves a text alone that has none there.
-/

namespace HostWatch

variable {s : List Char}

/-- A trimmed text ends in no blank. -/
theorem isBlank_of_getLast?_trim {c : Char} (h : (trim s).getLast? = some c) :
    isBlank c = false := by
  rw [trim, trimEnd, List.getLast?_reverse] at h
  have hnot := List.head?_dropWhile_not isBlank (trimStart s).reverse
  rw [h] at hnot
  exact hnot

theorem dropWhile_isBlank_eq_self (h : ∀ c ∈ s.head?, isBlank c = false) :
    s.dropWhile isBlank = s := by
  cases s with
  | nil => rfl
  | cons c s => exact List.dropWhile_cons_of_neg (by simp [h c rfl])

theorem trim_eq_self (hhead : ∀ c ∈ s.head?, isBlank c = false)
    (hlast : ∀ c ∈ s.getLast?, isBlank c = false) : trim s = s := by
  have hreverse : ∀ c ∈ s.reverse.head?, isBlank c = false := by
    rwa [List.head?_reverse]
  rw [trim, trimStart, dropWhile_isBlank_eq_self hhead, trimEnd, dropWhile_isBlank_eq_self hreverse,
    List.reverse_reverse]

theorem removeBlanks_append (s t : List Char) :
    removeBlanks (s ++ t) = removeBlanks s ++ removeBlanks t := List.filter_append s t

theorem removeBlanks_eq_self (h : ∀ c ∈ s, isBlank c = false) : removeBlanks s = s :=
  List.filter_eq_self.mpr fun c hc ↦ by rw [h c hc, Bool.not_false]

/-- Where the last character is no blank, it is the last of those that are none. -/
theorem getLast?_removeBlanks (h : ∀ c ∈ s.getLast?, isBlank c = false) :
    (removeBlanks s).getLast? = s.getLast? := by
  cases hlast : s.getLast? with
  | none =>
      rw [List.getLast?_eq_none_iff.mp hlast]
      rfl
  | some c =>
      rw [← List.dropLast_append_getLast? c hlast, removeBlanks_append,
        removeBlanks_eq_self (s := [c]) (by simpa using h c hlast), List.getLast?_concat]

end HostWatch
