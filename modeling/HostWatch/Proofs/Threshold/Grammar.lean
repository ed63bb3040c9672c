import HostWatch.Proofs.Except
import HostWatch.Proofs.Size.Grammar
import HostWatch.Proofs.Text.Blank
import HostWatch.Proofs.Text.Search
import HostWatch.Threshold
/-!
# Thresholds that are read

A threshold is a comparator and a quantity.  Of the comparators that fit, the longest is taken; the
end of the quantity tells its kind, and within a size blanks may stand anywhere.  Main statement:
what is read is what this grammar gives, and what is not read is refused for the first part that is
missing.
-/

namespace HostWatch

variable {s r : List Char} {expression : String}

/-! ## Comparators -/

namespace Comparator

/-- A text is the written form of a comparator, the longest that the text starts with, and a
rest. -/
structure Starts (c : Comparator) (r s : List Char) : Prop where
  eq : s = c.symbol.toList ++ r
  longest : ∀ d : Comparator, d.symbol.toList <+: s → d.symbol.length ≤ c.symbol.length

/-- Only an equals sign after a comparator without one would be part of a longer comparator. -/
theorem starts_append (c : Comparator) (h : c = .lt ∨ c = .gt → ∀ a ∈ r.head?, a ≠ '=') :
    c.Starts r (c.symbol.toList ++ r) := by
  refine ⟨rfl, fun d hd ↦ ?_⟩
  cases r with
  | nil => cases c <;> cases d <;> revert hd <;> decide
  | cons a r =>
      cases c <;> cases d <;> simp_all [symbol, eq_comm] <;> decide

theorem Starts.head?_ne {c : Comparator} (h : c.Starts r s) (hc : c = .lt ∨ c = .gt) :
    ∀ a ∈ r.head?, a ≠ '=' := by
  rintro _ ha rfl
  obtain ⟨t, rfl⟩ := List.head?_eq_some_iff.mp ha
  rcases hc with rfl | rfl
  · exact absurd (h.longest .le ⟨t, h.eq.symm⟩) (by decide)
  · exact absurd (h.longest .ge ⟨t, h.eq.symm⟩) (by decide)

theorem Starts.ne_nil {c : Comparator} (h : c.Starts r s) : s ≠ [] := by
  rintro rfl
  obtain ⟨hsymbol, -⟩ := List.append_eq_nil_iff.mp h.eq.symm
  cases c <;> revert hsymbol <;> decide

theorem eq_of_split {c : Comparator} (h : split s = some (c, r)) :
    s = c.symbol.toList ++ r ∧ (c = .lt ∨ c = .gt → ∀ a ∈ r.head?, a ≠ '=') := by
  have hhead : (∀ t, r ≠ '=' :: t) → ∀ a ∈ r.head?, a ≠ '=' := by
    rintro hr _ ha rfl
    obtain ⟨t, rfl⟩ := List.head?_eq_some_iff.mp ha
    exact hr t rfl
  unfold split at h
  split at h
  case h_3 hle =>
    cases h
    exact ⟨rfl, fun _ ↦ hhead fun t ht ↦ hle t (ht ▸ rfl)⟩
  case h_4 hge =>
    cases h
    exact ⟨rfl, fun _ ↦ hhead fun t ht ↦ hge t (ht ▸ rfl)⟩
  case h_6 => cases h
  all_goals
    cases h
    exact ⟨rfl, by simp⟩

theorem split_append (c : Comparator) (h : c = .lt ∨ c = .gt → ∀ a ∈ r.head?, a ≠ '=') :
    split (c.symbol.toList ++ r) = some (c, r) := by
  cases c with
  | le => rfl
  | ge => rfl
  | eq => rfl
  | lt =>
      cases r with
      | nil => rfl
      | cons a r => simp [split, symbol, h (.inl rfl) a rfl]
  | gt =>
      cases r with
      | nil => rfl
      | cons a r => simp [split, symbol, h (.inr rfl) a rfl]

/-- The comparator that is split off is the longest, and the rest is what follows. -/
theorem split_eq_some_iff {c : Comparator} : split s = some (c, r) ↔ c.Starts r s := by
  constructor
  · intro h
    obtain ⟨rfl, hnext⟩ := eq_of_split h
    exact starts_append c hnext
  · intro h
    rw [h.eq]
    exact split_append c h.head?_ne

/-- Nothing is split off where no comparator stands. -/
theorem split_eq_none_iff : split s = none ↔ ∀ c : Comparator, ¬ c.symbol.toList <+: s := by
  constructor
  · rintro h c ⟨r, rfl⟩
    unfold split at h
    split at h <;> cases c <;> simp_all [symbol]
  · intro h
    cases hsplit : split s with
    | none => rfl
    | some found =>
        obtain ⟨c, r⟩ := found
        exact absurd ⟨r, (split_eq_some_iff.mp hsplit).eq.symm⟩ (h c)

end Comparator

/-! ## Quantities -/

/-- What may stand after the comparator, with its kind and its number. -/
inductive Quantity : List Char → Kind → Binary64 → Prop
  /-- A finite decimal and a percent sign. -/
  | percent {s : List Char} {x : Binary64} (hnumber : WritesDecimal s x)
      (hfinite : x.isFinite = true) : Quantity (s ++ ['%']) .percent x
  /-- A finite decimal and the letter of a temperature. -/
  | temperature {s : List Char} {x : Binary64} (hnumber : WritesDecimal s x)
      (hfinite : x.isFinite = true) : Quantity (s ++ ['c']) .temperature x
  /-- A size. -/
  | size {s : List Char} {size : Size} (h : Size.WritesInUnit (removeBlanks s) size) :
      Quantity s .size size.toFloat
  /-- A size per second. -/
  | speed {s : List Char} {size : Size} (h : Size.WritesInUnit (removeBlanks s) size) :
      Quantity (s ++ ['/', 's']) .speed size.toFloat
  /-- Nothing per second. -/
  | noSpeed {s : List Char} (h : removeBlanks s = ['0']) :
      Quantity (s ++ ['/', 's']) .speed Size.zero.toFloat

/-- The ends that tell a kind, and the empty text: what is left where the number is missing. -/
def bareEnds : List (List Char) := [[], ['%'], ['c'], ['/', 's']]

namespace Threshold

variable {kind : Kind} {x : Binary64}

theorem map_pair_eq_ok_iff {kind' : Kind} {result : Except ParseError Binary64} :
    result.map (kind', ·) = .ok (kind, x) ↔ kind' = kind ∧ result = .ok x := by
  cases result with
  | ok y => simp [Except.map]
  | error e => simp [Except.map]

theorem readNumber_eq_ok_iff :
    readNumber expression s = .ok x ↔ WritesDecimal s x ∧ x.isFinite = true := by
  constructor
  · intro h
    unfold readNumber at h
    split_ifs at h
    split at h
    next y hread =>
      split_ifs at h with hfinite
      obtain rfl := Except.ok.inj h
      exact ⟨(readFloat?_eq_some_iff hfinite).mp hread, hfinite⟩
    next => cases h
  · rintro ⟨hnumber, hfinite⟩
    have hread := (readFloat?_eq_some_iff hfinite).mpr hnumber
    have hne : s ≠ [] := by
      rintro rfl
      cases hread
    simp only [readNumber, if_neg hne, hread, hfinite, if_true]

/-- A number that is not read is missing or is none. -/
theorem eq_of_readNumber_eq_error {e : ParseError} (h : readNumber expression s = .error e) :
    (s = [] ∧ e = .tooShort expression) ∨ (s ≠ [] ∧ e = .number expression) := by
  unfold readNumber at h
  split_ifs at h with hs
  · exact .inl ⟨hs, (Except.error.inj h).symm⟩
  · refine .inr ⟨hs, ?_⟩
    split at h
    · split_ifs at h
      exact (Except.error.inj h).symm
    · exact (Except.error.inj h).symm

theorem readSize_eq_ok_iff {t : List Char} (h : ∀ c ∈ t, c ∈ lowercase s) :
    readSize expression t = .ok x ↔ ∃ size : Size, size.toFloat = x ∧
      ((removeBlanks t = ['0'] ∧ size = .zero) ∨ Size.WritesInUnit (removeBlanks t) size) := by
  simp only [← Size.parse_eq_ok_iff h]
  by_cases ht : t = []
  · subst ht
    rw [readSize, if_pos rfl]
    constructor
    · intro hread
      cases hread
    · rintro ⟨size, -, hread⟩
      cases hread
  · rw [readSize, if_neg ht]
    cases Size.parse (.ofList t) with
    | ok size => simp [eq_comm]
    | error e => cases e <;> simp

/-- A size that is not read is missing, or lacks its unit or its number. -/
theorem eq_of_readSize_eq_error {e : ParseError} (h : readSize expression s = .error e) :
    (s = [] ∧ e = .tooShort expression) ∨
      (s ≠ [] ∧ (e = .unit expression ∨ e = .number expression)) := by
  unfold readSize at h
  split_ifs at h with hs
  · exact .inl ⟨hs, (Except.error.inj h).symm⟩
  · refine .inr ⟨hs, ?_⟩
    split at h
    · cases h
    · exact .inl (Except.error.inj h).symm
    · exact .inr (Except.error.inj h).symm

/-! ### The end tells the kind -/

theorem readQuantity_percent (expression : String) (s : List Char) :
    readQuantity expression (s ++ ['%']) = (readNumber expression s).map (Kind.percent, ·) := by
  rw [readQuantity, dropEnd?_eq_some_iff.mpr rfl]

theorem readQuantity_speed (expression : String) (s : List Char) :
    readQuantity expression (s ++ ['/', 's']) = (readSize expression s).map (Kind.speed, ·) := by
  have hpercent : dropEnd? ['%'] (s ++ ['/', 's']) = none := dropEnd?_eq_none fun rest h ↦ by
    simpa using congrArg List.getLast? h
  rw [readQuantity, hpercent, dropEnd?_eq_some_iff.mpr rfl]

theorem readQuantity_size (expression : String) {unit : Char} (hlast : s.getLast? = some unit)
    (hunit : unit ∈ Size.units) :
    readQuantity expression s = (readSize expression s).map (Kind.size, ·) := by
  have hend : ∀ p, p.getLast?.any Size.units.contains = false → p ≠ [] → dropEnd? p s = none := by
    intro p hp hne
    refine dropEnd?_eq_none ?_
    rintro rest rfl
    rw [List.getLast?_append_of_ne_nil _ hne] at hlast
    rw [hlast] at hp
    simp [hunit] at hp
  rw [readQuantity, hend ['%'] (by decide) (by decide), hend ['/', 's'] (by decide) (by decide),
    if_pos (by simp [hlast, hunit])]

theorem readQuantity_temperature (expression : String) (s : List Char) :
    readQuantity expression (s ++ ['c']) = (readNumber expression s).map (Kind.temperature, ·) := by
  have hpercent : dropEnd? ['%'] (s ++ ['c']) = none := dropEnd?_eq_none fun rest h ↦ by
    simpa using congrArg List.getLast? h
  have hspeed : dropEnd? ['/', 's'] (s ++ ['c']) = none := dropEnd?_eq_none fun rest h ↦ by
    simpa using congrArg List.getLast? h
  have hunit : ((s ++ ['c']).getLast?.any Size.units.contains) = false := by
    rw [List.getLast?_concat]
    decide
  rw [readQuantity, hpercent, hspeed, hunit, dropEnd?_eq_some_iff.mpr rfl]
  rfl

/-- Every text has an end that tells a kind, or no unit is found. -/
theorem readQuantity_cases (r : List Char) :
    (∃ s, r = s ++ ['%']) ∨ (∃ s, r = s ++ ['/', 's']) ∨
      (∃ unit ∈ Size.units, r.getLast? = some unit) ∨ (∃ s, r = s ++ ['c']) ∨
      ∀ expression, readQuantity expression r = .error (.unit expression) := by
  by_cases hunit : ∃ unit ∈ Size.units, r.getLast? = some unit
  · exact .inr (.inr (.inl hunit))
  have hnot : r.getLast?.any Size.units.contains = false := by
    cases hlast : r.getLast? with
    | none => rfl
    | some c => simpa using fun hc ↦ hunit ⟨c, hc, hlast⟩
  cases hpercent : dropEnd? ['%'] r with
  | some s => exact .inl ⟨s, dropEnd?_eq_some_iff.mp hpercent⟩
  | none =>
      cases hspeed : dropEnd? ['/', 's'] r with
      | some s => exact .inr (.inl ⟨s, dropEnd?_eq_some_iff.mp hspeed⟩)
      | none =>
          cases htemperature : dropEnd? ['c'] r with
          | some s => exact .inr (.inr (.inr (.inl ⟨s, dropEnd?_eq_some_iff.mp htemperature⟩)))
          | none =>
              refine .inr (.inr (.inr (.inr fun expression ↦ ?_)))
              simp [readQuantity, hpercent, hspeed, hnot, htemperature]

theorem readQuantity_percent_eq_ok_iff : readQuantity expression (s ++ ['%']) = .ok (kind, x) ↔
    Kind.percent = kind ∧ WritesDecimal s x ∧ x.isFinite = true := by
  rw [readQuantity_percent, map_pair_eq_ok_iff, readNumber_eq_ok_iff]

theorem readQuantity_temperature_eq_ok_iff : readQuantity expression (s ++ ['c']) = .ok (kind, x) ↔
    Kind.temperature = kind ∧ WritesDecimal s x ∧ x.isFinite = true := by
  rw [readQuantity_temperature, map_pair_eq_ok_iff, readNumber_eq_ok_iff]

theorem readQuantity_speed_eq_ok_iff {t : List Char} (hlower : ∀ c ∈ t, c ∈ lowercase s) :
    readQuantity expression (t ++ ['/', 's']) = .ok (kind, x) ↔ Kind.speed = kind ∧
      ∃ size : Size, size.toFloat = x ∧
        ((removeBlanks t = ['0'] ∧ size = .zero) ∨ Size.WritesInUnit (removeBlanks t) size) := by
  rw [readQuantity_speed, map_pair_eq_ok_iff, readSize_eq_ok_iff hlower]

/-- A size without a unit is none here, as the unit tells the kind. -/
theorem readQuantity_size_eq_ok_iff (hlower : ∀ c ∈ r, c ∈ lowercase s)
    (hlast : ∀ c ∈ r.getLast?, isBlank c = false) {unit : Char} (hend : r.getLast? = some unit)
    (hunit : unit ∈ Size.units) : readQuantity expression r = .ok (kind, x) ↔ Kind.size = kind ∧
      ∃ size : Size, size.toFloat = x ∧ Size.WritesInUnit (removeBlanks r) size := by
  have hzero : removeBlanks r ≠ ['0'] := by
    intro hzero
    rw [← getLast?_removeBlanks hlast, hzero] at hend
    obtain rfl := Option.some.inj hend
    exact absurd hunit (by decide)
  simp only [readQuantity_size expression hend hunit, map_pair_eq_ok_iff, readSize_eq_ok_iff hlower,
    hzero, false_and, false_or]

/-- What is read after the comparator is a quantity, in a text in lower case that does not end in a
blank. -/
theorem readQuantity_eq_ok_iff (hlower : ∀ c ∈ r, c ∈ lowercase s)
    (hlast : ∀ c ∈ r.getLast?, isBlank c = false) :
    readQuantity expression r = .ok (kind, x) ↔ Quantity r kind x := by
  constructor
  · intro h
    rcases readQuantity_cases r with ⟨t, rfl⟩ | ⟨t, rfl⟩ | ⟨unit, hunit, hend⟩ | ⟨t, rfl⟩ | hnone
    · obtain ⟨rfl, hnumber, hfinite⟩ := readQuantity_percent_eq_ok_iff.mp h
      exact .percent hnumber hfinite
    · rw [readQuantity_speed_eq_ok_iff fun c hc ↦ hlower c (List.mem_append_left _ hc)] at h
      obtain ⟨rfl, size, rfl, ⟨hzero, rfl⟩ | hsize⟩ := h
      · exact .noSpeed hzero
      · exact .speed hsize
    · obtain ⟨rfl, size, rfl, hsize⟩ := (readQuantity_size_eq_ok_iff hlower hlast hend hunit).mp h
      exact .size hsize
    · obtain ⟨rfl, hnumber, hfinite⟩ := readQuantity_temperature_eq_ok_iff.mp h
      exact .temperature hnumber hfinite
    · rw [hnone] at h
      cases h
  · intro h
    cases h with
    | percent hnumber hfinite =>
        exact readQuantity_percent_eq_ok_iff.mpr ⟨rfl, hnumber, hfinite⟩
    | temperature hnumber hfinite =>
        exact readQuantity_temperature_eq_ok_iff.mpr ⟨rfl, hnumber, hfinite⟩
    | size hsize =>
        obtain ⟨unit, hunit, hend⟩ := hsize.exists_getLast?
        rw [getLast?_removeBlanks hlast] at hend
        exact (readQuantity_size_eq_ok_iff hlower hlast hend hunit).mpr ⟨rfl, _, rfl, hsize⟩
    | speed hsize =>
        rw [readQuantity_speed_eq_ok_iff fun c hc ↦ hlower c (List.mem_append_left _ hc)]
        exact ⟨rfl, _, rfl, .inr hsize⟩
    | noSpeed hzero =>
        rw [readQuantity_speed_eq_ok_iff fun c hc ↦ hlower c (List.mem_append_left _ hc)]
        exact ⟨rfl, _, rfl, .inl ⟨hzero, rfl⟩⟩

/-- The end of a quantity alone is too short. -/
theorem readQuantity_of_mem_bareEnds (expression : String) (hne : r ≠ []) (h : r ∈ bareEnds) :
    readQuantity expression r = .error (.tooShort expression) := by
  simp only [bareEnds, List.mem_cons, List.not_mem_nil, or_false] at h
  rcases h with rfl | rfl | rfl | rfl
  · exact absurd rfl hne
  · rfl
  · rfl
  · rfl

/-- A quantity that is not read is no more than the end of one, or lacks its unit or its number. -/
theorem eq_of_readQuantity_eq_error {e : ParseError} (hne : r ≠ [])
    (h : readQuantity expression r = .error e) :
    (r ∈ bareEnds ∧ e = .tooShort expression) ∨ e = .unit expression ∨ e = .number expression := by
  rcases readQuantity_cases r with ⟨t, rfl⟩ | ⟨t, rfl⟩ | ⟨unit, hunit, hend⟩ | ⟨t, rfl⟩ | hnone
  · rw [readQuantity_percent, map_eq_error_iff] at h
    rcases eq_of_readNumber_eq_error h with ⟨rfl, rfl⟩ | ⟨-, rfl⟩
    · exact .inl ⟨by decide, rfl⟩
    · exact .inr (.inr rfl)
  · rw [readQuantity_speed, map_eq_error_iff] at h
    rcases eq_of_readSize_eq_error h with ⟨rfl, rfl⟩ | ⟨-, he⟩
    · exact .inl ⟨by decide, rfl⟩
    · exact .inr he
  · rw [readQuantity_size expression hend hunit, map_eq_error_iff] at h
    rcases eq_of_readSize_eq_error h with ⟨rfl, -⟩ | ⟨-, he⟩
    · exact absurd rfl hne
    · exact .inr he
  · rw [readQuantity_temperature, map_eq_error_iff] at h
    rcases eq_of_readNumber_eq_error h with ⟨rfl, rfl⟩ | ⟨-, rfl⟩
    · exact .inl ⟨by decide, rfl⟩
    · exact .inr (.inr rfl)
  · rw [hnone] at h
    exact .inr (.inl (Except.error.inj h).symm)

/-! ### The whole text -/

/-- The text that is read: without blanks at its ends and in lower case. -/
def normalized (expression : String) : List Char := lowercase (trim expression.toList)

theorem isBlank_of_getLast?_normalized {c : Char} (h : (normalized expression).getLast? = some c) :
    isBlank c = false := by
  obtain ⟨d, hd, hc⟩ := exists_of_getLast?_lowercase h
  have hblank := isBlank_of_getLast?_trim hd
  cases hb : isBlank c with
  | false => rfl
  | true =>
      rw [isBlank_of_mem_lowercaseChar hc hb] at hblank
      cases hblank

theorem parse_of_empty (h : normalized expression = []) : parse expression = .error .empty := by
  rw [parse]
  exact if_pos h

theorem parse_of_no_comparator (hne : normalized expression ≠ [])
    (h : ∀ c : Comparator, ¬ c.symbol.toList <+: normalized expression) :
    parse expression = .error (.comparator expression) := by
  have hsplit := Comparator.split_eq_none_iff.mpr h
  unfold normalized at hne hsplit
  simp only [parse, if_neg hne, hsplit]

theorem parse_of_starts {c : Comparator} (h : c.Starts r (normalized expression)) :
    parse expression = if r = [] then .error (.tooShort expression)
      else (readQuantity expression r).map fun q ↦ ⟨q.1, q.2, c⟩ := by
  have hsplit := Comparator.split_eq_some_iff.mpr h
  have hne := h.ne_nil
  unfold normalized at hne hsplit
  simp only [parse, if_neg hne, hsplit]
  cases r with
  | nil => rfl
  | cons a r => rfl

/-- Every text is empty, or starts with no comparator, or with one. -/
theorem normalized_cases (expression : String) : normalized expression = [] ∨
    (normalized expression ≠ [] ∧
      ∀ c : Comparator, ¬ c.symbol.toList <+: normalized expression) ∨
    ∃ c r, Comparator.Starts c r (normalized expression) := by
  by_cases hne : normalized expression = []
  · exact .inl hne
  cases hsplit : Comparator.split (normalized expression) with
  | none => exact .inr (.inl ⟨hne, Comparator.split_eq_none_iff.mp hsplit⟩)
  | some found => exact .inr (.inr ⟨_, _, Comparator.split_eq_some_iff.mp hsplit⟩)

/-- After a comparator what is read is a quantity. -/
theorem readQuantity_of_starts {c : Comparator} (h : c.Starts r (normalized expression)) :
    readQuantity expression r = .ok (kind, x) ↔ Quantity r kind x := by
  have hmem : ∀ a ∈ r, a ∈ normalized expression := fun a ha ↦ by
    rw [h.eq]
    exact List.mem_append_right _ ha
  refine readQuantity_eq_ok_iff hmem fun a ha ↦ ?_
  have hlast : (normalized expression).getLast? = some a := by
    rw [h.eq, List.getLast?_append, ha, Option.some_or]
  exact isBlank_of_getLast?_normalized hlast

/-- The thresholds that are read are a comparator and a quantity. -/
theorem parse_eq_ok_iff {t : Threshold} : parse expression = .ok t ↔
    ∃ r, t.comparator.Starts r (normalized expression) ∧ Quantity r t.kind t.value := by
  constructor
  · intro h
    rcases normalized_cases expression with hempty | ⟨hne, hnone⟩ | ⟨c, r, hstarts⟩
    · rw [parse_of_empty hempty] at h
      cases h
    · rw [parse_of_no_comparator hne hnone] at h
      cases h
    · rw [parse_of_starts hstarts] at h
      split_ifs at h
      cases hread : readQuantity expression r with
      | error e =>
          rw [hread] at h
          cases h
      | ok q =>
          rw [hread] at h
          obtain rfl := Except.ok.inj h
          exact ⟨r, hstarts, (readQuantity_of_starts hstarts).mp hread⟩
  · rintro ⟨r, hstarts, hquantity⟩
    have hread := (readQuantity_of_starts hstarts).mpr hquantity
    have hne : r ≠ [] := by
      rintro rfl
      cases hread
    rw [parse_of_starts hstarts, if_neg hne, hread]
    rfl

/-- A threshold is not read for the first part that is missing. -/
theorem eq_of_parse_eq_error {e : ParseError} (h : parse expression = .error e) :
    (normalized expression = [] ∧ e = .empty) ∨
    (normalized expression ≠ [] ∧
      (∀ c : Comparator, ¬ c.symbol.toList <+: normalized expression) ∧
      e = .comparator expression) ∨
    (∃ c r, Comparator.Starts c r (normalized expression) ∧ r ∈ bareEnds ∧
      e = .tooShort expression) ∨
    e = .unit expression ∨ e = .number expression := by
  rcases normalized_cases expression with hempty | ⟨hne, hnone⟩ | ⟨c, r, hstarts⟩
  · rw [parse_of_empty hempty] at h
    exact .inl ⟨hempty, (Except.error.inj h).symm⟩
  · rw [parse_of_no_comparator hne hnone] at h
    exact .inr (.inl ⟨hne, hnone, (Except.error.inj h).symm⟩)
  · right
    right
    rw [parse_of_starts hstarts] at h
    split_ifs at h with hr
    · exact .inl ⟨c, r, hstarts, hr ▸ by decide, (Except.error.inj h).symm⟩
    · rw [map_eq_error_iff] at h
      rcases eq_of_readQuantity_eq_error hr h with ⟨hbare, he⟩ | he
      · exact .inl ⟨c, r, hstarts, hbare, he⟩
      · exact .inr he

theorem parse_of_bareEnd {c : Comparator} (hstarts : c.Starts r (normalized expression))
    (hr : r ∈ bareEnds) : parse expression = .error (.tooShort expression) := by
  rw [parse_of_starts hstarts]
  split_ifs with hempty
  · rfl
  · rw [readQuantity_of_mem_bareEnds expression hempty hr]
    rfl

/-- A threshold is read exactly where its text, without blanks at its ends and in lower case, is a
comparator, the longest that stands there, and a quantity.  Otherwise the text is empty, or no
comparator stands first, or nothing stands where the number should, or the unit or the number is
wrong; and each refusal but that of an empty text quotes the text as it was written. -/
theorem parse_by_grammar (expression : String) :
    (∀ t, parse expression = .ok t ↔
      ∃ r, t.comparator.Starts r (normalized expression) ∧ Quantity r t.kind t.value) ∧
    (parse expression = .error .empty ↔ normalized expression = []) ∧
    (∀ e, parse expression = .error (.comparator e) ↔ e = expression ∧ normalized expression ≠ [] ∧
      ∀ c : Comparator, ¬ c.symbol.toList <+: normalized expression) ∧
    (∀ e, parse expression = .error (.tooShort e) ↔ e = expression ∧
      ∃ c r, Comparator.Starts c r (normalized expression) ∧ r ∈ bareEnds) ∧
    ((∃ t, parse expression = .ok t) ∨
      ∃ e ∈ [ParseError.empty, .comparator expression, .tooShort expression, .unit expression,
        .number expression], parse expression = .error e) := by
  refine ⟨fun t ↦ parse_eq_ok_iff, ⟨fun h ↦ ?_, parse_of_empty⟩, fun e ↦ ⟨fun h ↦ ?_, ?_⟩,
    fun e ↦ ⟨fun h ↦ ?_, ?_⟩, ?_⟩
  · rcases eq_of_parse_eq_error h with ⟨hempty, -⟩ | ⟨-, -, h⟩ | ⟨-, -, -, -, h⟩ | h | h
    · exact hempty
    all_goals cases h
  · rcases eq_of_parse_eq_error h with ⟨-, h⟩ | ⟨hne, hnone, h⟩ | ⟨-, -, -, -, h⟩ | h | h
    case inr.inl => exact ⟨ParseError.comparator.inj h, hne, hnone⟩
    all_goals cases h
  · rintro ⟨rfl, hne, hnone⟩
    exact parse_of_no_comparator hne hnone
  · rcases eq_of_parse_eq_error h with ⟨-, h⟩ | ⟨-, -, h⟩ | ⟨c, r, hstarts, hr, h⟩ | h | h
    case inr.inr.inl => exact ⟨ParseError.tooShort.inj h, c, r, hstarts, hr⟩
    all_goals cases h
  · rintro ⟨rfl, c, r, hstarts, hr⟩
    exact parse_of_bareEnd hstarts hr
  · cases h : parse expression with
    | ok t => exact .inl ⟨t, rfl⟩
    | error e =>
        refine .inr ⟨e, ?_, rfl⟩
        rcases eq_of_parse_eq_error h with
          ⟨-, rfl⟩ | ⟨-, -, rfl⟩ | ⟨-, -, -, -, rfl⟩ | rfl | rfl <;> simp

end Threshold

end HostWatch
