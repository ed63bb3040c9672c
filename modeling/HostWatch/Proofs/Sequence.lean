import HostWatch.Sequence
/-!
# Which sample continues which

Each sample of a list takes an entry out of the previous list, so what is left for the samples after
it depends on the samples before it.  Name by name the outcome is simple: the entries of a name
continue those that the name had before, in order, and the other names do not matter.
-/

namespace HostWatch

namespace Tracked

variable {α : Type} {name other : String}

/-- The entries of a name, in order. -/
def named (name : String) (entries : List (Tracked α)) : List (Tracked α) :=
  entries.filter (·.name = name)

/-- The samples of a name, in order. -/
def samplesNamed (name : String) (samples : List (String × α)) : List α :=
  (samples.filter (·.1 = name)).map Prod.snd

theorem named_cons_self (samples : Sequence α) (entries : List (Tracked α)) :
    named name (⟨name, samples⟩ :: entries) = ⟨name, samples⟩ :: named name entries :=
  List.filter_cons_of_pos (by simp)

theorem named_cons_of_ne {entry : Tracked α} (h : entry.name ≠ name)
    (entries : List (Tracked α)) : named name (entry :: entries) = named name entries :=
  List.filter_cons_of_neg (by simpa using h)

/-- What is taken out is the first entry of the name. -/
theorem take_fst (name : String) (entries : List (Tracked α)) :
    (take name entries).1 = (named name entries).head? := by
  induction entries with
  | nil => rfl
  | cons entry rest ih =>
      by_cases h : entry.name = name
      · subst h
        rw [take, if_pos rfl, named_cons_self]
        rfl
      · rw [take, if_neg h, named_cons_of_ne h]
        exact ih

/-- The other entries of the name stay. -/
theorem named_take (name : String) (entries : List (Tracked α)) :
    named name (take name entries).2 = (named name entries).tail := by
  induction entries with
  | nil => rfl
  | cons entry rest ih =>
      by_cases h : entry.name = name
      · subst h
        rw [take, if_pos rfl, named_cons_self]
        rfl
      · rw [take, if_neg h, named_cons_of_ne h, named_cons_of_ne h]
        exact ih

/-- The entries of other names stay. -/
theorem named_take_of_ne (h : name ≠ other) (entries : List (Tracked α)) :
    named other (take name entries).2 = named other entries := by
  induction entries with
  | nil => rfl
  | cons entry rest ih =>
      by_cases hname : entry.name = name
      · rw [take, if_pos hname, named_cons_of_ne fun heq ↦ h (hname.symm.trans heq)]
      · rw [take, if_neg hname]
        by_cases hother : entry.name = other
        · subst hother
          rw [named_cons_self, named_cons_self, ih]
        · rw [named_cons_of_ne hother, named_cons_of_ne hother, ih]

/-- The `k`-th sample of a name continues the `k`-th entry that the name had before, if it had so
many. -/
theorem getElem?_named_advance (name : String) (samples : List (String × α))
    (previous : List (Tracked α)) (k : Nat) :
    (named name (advance samples previous))[k]? =
      (samplesNamed name samples)[k]?.map fun x ↦
        ⟨name, (((named name previous)[k]?.map Tracked.samples).getD .empty).record x⟩ := by
  induction samples generalizing previous k with
  | nil => rfl
  | cons sample rest ih =>
      obtain ⟨n, x⟩ := sample
      by_cases h : n = name
      · subst h
        have hsamples : samplesNamed n ((n, x) :: rest) = x :: samplesNamed n rest := by
          simp [samplesNamed]
        rw [advance, named_cons_self, hsamples]
        cases k with
        | zero =>
            rw [take_fst, List.head?_eq_getElem?]
            cases (named n previous)[0]? <;> rfl
        | succ k =>
            rw [List.getElem?_cons_succ, List.getElem?_cons_succ, ih, named_take,
              List.getElem?_tail]
      · have hsamples : samplesNamed name ((n, x) :: rest) = samplesNamed name rest := by
          simp [samplesNamed, h]
        rw [advance, named_cons_of_ne h, hsamples, ih, named_take_of_ne h]

/-- After two lists of samples the entries of a name hold the samples that each list has of the
name, matched in order, whatever came before. -/
theorem getElem?_named_advance_advance (name : String) (older newer : List (String × α))
    (previous : List (Tracked α)) (k : Nat) :
    (named name (advance newer (advance older previous)))[k]? =
      (samplesNamed name newer)[k]?.map fun x ↦
        ⟨name, ⟨(samplesNamed name older)[k]?, some x⟩⟩ := by
  rw [getElem?_named_advance, getElem?_named_advance]
  congr 1
  funext x
  cases (samplesNamed name older)[k]? <;> rfl

/-- After one list of samples no entry has two. -/
theorem older_eq_none_of_mem_advance_nil {samples : List (String × α)} {entry : Tracked α}
    (h : entry ∈ advance samples []) : entry.samples.older = none := by
  have hnamed : entry ∈ named entry.name (advance samples []) :=
    List.mem_filter.mpr ⟨h, by simp⟩
  obtain ⟨k, hk⟩ := List.getElem?_of_mem hnamed
  rw [getElem?_named_advance, Option.map_eq_some_iff] at hk
  obtain ⟨x, -, hx⟩ := hk
  rw [← hx]
  rfl

end Tracked

end HostWatch
