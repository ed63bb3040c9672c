import HostWatch.Text.Search
import Mathlib.Data.List.Basic
/-!
# What is found in text

A start and an end that are dropped are those that the text has, and a text is within itself.
-/

namespace HostWatch

variable {p s rest : List Char}

theorem dropStart?_eq_some_iff : dropStart? p s = some rest ↔ s = p ++ rest := by
  induction p generalizing s with
  | nil => rw [dropStart?, Option.some.injEq, List.nil_append]
  | cons a p ih =>
      cases s with
      | nil =>
          constructor
          · intro h
            cases h
          · intro h
            cases h
      | cons c s =>
          rw [dropStart?, List.cons_append, List.cons.injEq]
          split
          case isTrue hc =>
            rw [ih]
            exact ⟨fun h ↦ ⟨hc.symm, h⟩, fun h ↦ h.2⟩
          case isFalse hc =>
            constructor
            · intro h
              cases h
            · rintro ⟨rfl, -⟩
              exact absurd rfl hc

theorem dropEnd?_eq_some_iff : dropEnd? p s = some rest ↔ s = rest ++ p := by
  rw [dropEnd?, Option.map_eq_some_iff]
  constructor
  · rintro ⟨r, h, rfl⟩
    rw [← List.reverse_reverse s, dropStart?_eq_some_iff.mp h, List.reverse_append,
      List.reverse_reverse]
  · rintro rfl
    exact ⟨rest.reverse, dropStart?_eq_some_iff.mpr List.reverse_append, List.reverse_reverse rest⟩

theorem dropEnd?_eq_none (h : ∀ rest, s ≠ rest ++ p) : dropEnd? p s = none :=
  Option.eq_none_iff_forall_ne_some.mpr fun rest hrest ↦ h rest (dropEnd?_eq_some_iff.mp hrest)

theorem hasPiece_self (p : List Char) : hasPiece p p = true := by
  cases p with
  | nil => rfl
  | cons c p =>
      have hwhole : dropStart? (c :: p) (c :: p) = some [] :=
        dropStart?_eq_some_iff.mpr (List.append_nil _).symm
      rw [hasPiece, hwhole]
      rfl

end HostWatch
