import Mathlib.Data.List.Forall2
/-!
# Steps that can fail

What two steps come to, the second of which needs the result of the first, what a step comes to
whose result is changed, and what one step for each item of a list comes to.
-/

namespace HostWatch

variable {ε α β : Type} {x : Except ε α} {f : α → Except ε β} {g : α → β}

/-- Two steps succeed if the first does and the second does with its result. -/
theorem bind_eq_ok_iff {b : β} : x >>= f = .ok b ↔ ∃ a, x = .ok a ∧ f a = .ok b := by
  cases x with
  | ok a =>
      constructor
      · intro h
        exact ⟨a, rfl, h⟩
      · rintro ⟨a', ha, h⟩
        obtain rfl := Except.ok.inj ha
        exact h
  | error e =>
      constructor
      · intro h
        cases h
      · rintro ⟨_, h, -⟩
        cases h

/-- A change of the result keeps a failure. -/
theorem map_eq_error_iff {e : ε} : x.map g = .error e ↔ x = .error e := by
  cases x with
  | ok a =>
      constructor <;> intro h <;> cases h
  | error e' => exact Iff.of_eq (by rw [Except.map, Except.error.injEq, Except.error.injEq])

/-- A step for each item of a list succeeds if all do, with one result per item in the order of the
items. -/
theorem mapM_eq_ok_iff {items : List α} {results : List β} :
    items.mapM f = .ok results ↔ List.Forall₂ (fun a b ↦ f a = .ok b) items results := by
  induction items generalizing results with
  | nil =>
      rw [List.mapM_nil, List.forall₂_nil_left_iff]
      exact ⟨fun h ↦ (Except.ok.inj h).symm, fun h ↦ congrArg Except.ok h.symm⟩
  | cons a items ih =>
      rw [List.mapM_cons, bind_eq_ok_iff, List.forall₂_cons_left_iff]
      constructor
      · rintro ⟨b, hb, h⟩
        obtain ⟨rest, hrest, h⟩ := bind_eq_ok_iff.mp h
        exact ⟨b, rest, hb, ih.mp hrest, (Except.ok.inj h).symm⟩
      · rintro ⟨b, rest, hb, hrest, rfl⟩
        exact ⟨b, hb, bind_eq_ok_iff.mpr ⟨rest, ih.mpr hrest, rfl⟩⟩

end HostWatch
