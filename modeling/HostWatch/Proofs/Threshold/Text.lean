import HostWatch.Proofs.Size.Text
import HostWatch.Proofs.Threshold.Grammar
/-!
# Thresholds that are written and read

The text of a threshold is a comparator and a quantity of the threshold's kind.  Main statement: the
text of a threshold that was read is read again, with the kind and the comparator it had; shares and
temperatures keep their number, and sizes and speeds change theirs once at most.
-/

namespace HostWatch.Threshold

variable {c : Comparator} {r : List Char} {kind : Kind} {x : Binary64}

/-! ## Text that stays as it is -/

/-- The characters of quantities. -/
def quantityChars : List Char := ['%', 'c', '/', 's'] ++ Size.textChars

/-- A comparator and a quantity in these characters are read as they stand. -/
theorem normalized_append (hchars : ∀ a ∈ r, a ∈ quantityChars)
    (hlast : ∀ a ∈ r.getLast?, isBlank a = false) :
    normalized (c.symbol ++ .ofList r) = c.symbol.toList ++ r := by
  have hlower : ∀ a ∈ '<' :: '>' :: '=' :: quantityChars, lowercaseChar a = [a] :=
    List.all_iff_forall_prop.mp (by decide)
  have hsymbol : ∀ a ∈ c.symbol.toList, a ∈ ['<', '>', '='] := by
    cases c <;> exact List.all_iff_forall_prop.mp (by decide)
  have hhead : ∀ a ∈ (c.symbol.toList ++ r).head?, isBlank a = false := by
    cases c <;> rintro a ha <;> obtain rfl := Option.some.inj ha <;> decide
  have hend : ∀ a ∈ (c.symbol.toList ++ r).getLast?, isBlank a = false := by
    rw [List.getLast?_append]
    cases hr : r.getLast? with
    | none => cases c <;> rintro a ha <;> obtain rfl := Option.some.inj ha <;> decide
    | some a => simpa using hlast a hr
  rw [normalized, String.toList_append, String.toList_ofList, trim_eq_self hhead hend]
  refine lowercase_eq_self fun a ha ↦ hlower a ?_
  rcases List.mem_append.mp ha with ha | ha
  · exact List.mem_append_left quantityChars (hsymbol a ha)
  · exact List.mem_append_right ['<', '>', '='] (hchars a ha)

/-- A comparator and a quantity in these characters are read as that quantity. -/
theorem parse_append (hchars : ∀ a ∈ r, a ∈ quantityChars)
    (hlast : ∀ a ∈ r.getLast?, isBlank a = false) (h : Quantity r kind x) :
    parse (c.symbol ++ .ofList r) = .ok ⟨kind, x, c⟩ := by
  have hne : '=' ∉ quantityChars := by decide
  rw [parse_eq_ok_iff, normalized_append hchars hlast]
  refine ⟨r, Comparator.starts_append c fun _ a ha ↦ ?_, h⟩
  rintro rfl
  exact hne (hchars _ (List.mem_of_mem_head? ha))

/-! ## The text of each kind -/

theorem isBlank_of_getLast?_concat {s : List Char} {unit : Char} (h : isBlank unit = false) :
    ∀ a ∈ (s ++ [unit]).getLast?, isBlank a = false := by
  intro a ha
  rw [List.getLast?_concat] at ha
  obtain rfl := Option.some.inj ha
  exact h

/-- The fewest digits of a number, with the unit of its kind, are read as that number. -/
theorem parse_plain (c : Comparator) (negative : Bool) (r : Fin infinityRank) {unit : Char}
    (hunit : unit = '%' ∧ kind = .percent ∨ unit = 'c' ∧ kind = .temperature) :
    parse (c.symbol ++ .ofList ((Binary64.plain (.finite negative r)).toList ++ [unit])) =
      .ok ⟨kind, .finite negative r, c⟩ := by
  have hplain := writesDecimal_plain negative r
  have hnumeral : ∀ a ∈ numeralChars, a ∈ quantityChars :=
    List.all_iff_forall_prop.mp (by decide)
  have hchars : ∀ a ∈ (Binary64.plain (.finite negative r)).toList ++ [unit],
      a ∈ quantityChars := by
    intro a ha
    rcases List.mem_append.mp ha with ha | ha
    · exact hnumeral a (mem_plain ha)
    · obtain rfl := List.mem_singleton.mp ha
      rcases hunit with ⟨rfl, -⟩ | ⟨rfl, -⟩ <;> decide
  rcases hunit with ⟨rfl, rfl⟩ | ⟨rfl, rfl⟩
  · exact parse_append hchars (isBlank_of_getLast?_concat (by decide)) (.percent hplain rfl)
  · exact parse_append hchars (isBlank_of_getLast?_concat (by decide)) (.temperature hplain rfl)

theorem parse_text_percent (c : Comparator) (negative : Bool) (r : Fin infinityRank) :
    parse (text ⟨.percent, .finite negative r, c⟩) = .ok ⟨.percent, .finite negative r, c⟩ := by
  rw [← parse_plain c negative r (.inl ⟨rfl, rfl⟩), text, String.ofList_append,
    String.ofList_toList]

theorem parse_text_temperature (c : Comparator) (negative : Bool) (r : Fin infinityRank) :
    parse (text ⟨.temperature, .finite negative r, c⟩) =
      .ok ⟨.temperature, .finite negative r, c⟩ := by
  rw [← parse_plain c negative r (.inr ⟨rfl, rfl⟩), text, String.ofList_append,
    String.ofList_toList]

theorem mem_quantityChars_of_mem_text {size : Size} {a : Char} (h : a ∈ size.text.toList) :
    a ∈ quantityChars := List.mem_append_right _ (Size.mem_text h)

/-- A size is read again as the size that its text comes to. -/
theorem parse_text_size (c : Comparator) (size : Size) : parse (text ⟨.size, size.toFloat, c⟩) =
    .ok ⟨.size, (Size.ofNat (Size.regained size.toNat)).toFloat, c⟩ := by
  have htext : text ⟨.size, size.toFloat, c⟩ = c.symbol ++ .ofList size.text.toList := by
    rw [text, Size.text_truncate, String.ofList_toList]
  have hletters : ∀ a ∈ Size.units, isBlank a = false :=
    List.all_iff_forall_prop.mp (by decide)
  obtain ⟨unit, hunit, hend⟩ := size.exists_getLast?_text
  rw [htext]
  refine parse_append (fun a ha ↦ mem_quantityChars_of_mem_text ha) (fun a ha ↦ ?_)
    (.size size.writesInUnit_text)
  rw [hend] at ha
  obtain rfl := Option.some.inj ha
  exact hletters _ hunit

/-- A speed is read again as the speed that its text comes to. -/
theorem parse_text_speed (c : Comparator) (size : Size) : parse (text ⟨.speed, size.toFloat, c⟩) =
    .ok ⟨.speed, (Size.ofNat (Size.regained size.toNat)).toFloat, c⟩ := by
  have htext : text ⟨.speed, size.toFloat, c⟩ =
      c.symbol ++ .ofList (size.text.toList ++ ['/', 's']) := by
    rw [text, Size.text_truncate, String.ofList_append, String.ofList_toList]
  rw [htext]
  refine parse_append (fun a ha ↦ ?_) (fun a ha ↦ ?_) (.speed size.writesInUnit_text)
  · rcases List.mem_append.mp ha with ha | ha
    · exact mem_quantityChars_of_mem_text ha
    · exact List.mem_append_left _ (List.mem_of_mem_drop (i := 2) ha)
  · rw [List.getLast?_append] at ha
    obtain rfl := Option.some.inj ha
    decide

/-- What a size is read again as stays as it is. -/
theorem parse_text_size_again (c : Comparator) (size : Size) :
    parse (text ⟨.size, (Size.ofNat (Size.regained size.toNat)).toFloat, c⟩) =
      .ok ⟨.size, (Size.ofNat (Size.regained size.toNat)).toFloat, c⟩ := by
  rw [parse_text_size, Size.toNat_ofNat_regained, Size.regained_regained size.toNat_le]

theorem parse_text_speed_again (c : Comparator) (size : Size) :
    parse (text ⟨.speed, (Size.ofNat (Size.regained size.toNat)).toFloat, c⟩) =
      .ok ⟨.speed, (Size.ofNat (Size.regained size.toNat)).toFloat, c⟩ := by
  rw [parse_text_speed, Size.toNat_ofNat_regained, Size.regained_regained size.toNat_le]

/-! ## The text of what was read -/

/-- The text of a threshold that was read is read again, with the same kind and comparator.  A share
or a temperature has the same number, the sign of a zero and the last bit of a fraction included; a
size or a speed that is written and read once more stays as it is then. -/
theorem parse_text_of_parse {expression : String} {t : Threshold} (h : parse expression = .ok t) :
    ∃ t', parse t.text = .ok t' ∧ t'.kind = t.kind ∧ t'.comparator = t.comparator ∧
      (t.kind = .percent ∨ t.kind = .temperature → t'.value = t.value) ∧
      (t.kind = .size ∨ t.kind = .speed → parse t'.text = .ok t') := by
  obtain ⟨kind, x, c⟩ := t
  obtain ⟨r, -, hquantity⟩ : ∃ r, c.Starts r (normalized expression) ∧ Quantity r kind x :=
    parse_eq_ok_iff.mp h
  cases hquantity with
  | percent _ hfinite =>
      obtain ⟨negative, r, rfl⟩ := Binary64.exists_eq_finite hfinite
      exact ⟨_, parse_text_percent c negative r, rfl, rfl, fun _ ↦ rfl, by simp⟩
  | temperature _ hfinite =>
      obtain ⟨negative, r, rfl⟩ := Binary64.exists_eq_finite hfinite
      exact ⟨_, parse_text_temperature c negative r, rfl, rfl, fun _ ↦ rfl, by simp⟩
  | size =>
      refine ⟨_, parse_text_size c _, rfl, rfl, ?_, fun _ ↦ parse_text_size_again c _⟩
      rintro (h | h) <;> cases h
  | speed =>
      refine ⟨_, parse_text_speed c _, rfl, rfl, ?_, fun _ ↦ parse_text_speed_again c _⟩
      rintro (h | h) <;> cases h
  | noSpeed =>
      refine ⟨_, parse_text_speed c .zero, rfl, rfl, ?_, fun _ ↦ parse_text_speed_again c .zero⟩
      rintro (h | h) <;> cases h

/-- A negative zero keeps its sign, and a size that is shown as a whole unit more is read as one. -/
theorem parse_text_of_parse_negative_zero_and_unit :
    (parse ">=-0%" = .ok ⟨.percent, .finite true ⟨0, by decide⟩, .ge⟩ ∧
      ∃ t', parse (text ⟨.percent, .finite true ⟨0, by decide⟩, .ge⟩) = .ok t' ∧
        t'.value = .finite true ⟨0, by decide⟩) ∧
    parse "<1023.96 K" = .ok ⟨.size, (Size.ofNat 1048535).toFloat, .lt⟩ ∧
      ∃ t', parse (text ⟨.size, (Size.ofNat 1048535).toFloat, .lt⟩) = .ok t' ∧
        t'.comparator = .lt ∧ parse t'.text = .ok t' := by
  have hshare : parse ">=-0%" = .ok ⟨.percent, .finite true ⟨0, by decide⟩, .ge⟩ := by
    decide +kernel
  have hsize : parse "<1023.96 K" = .ok ⟨.size, (Size.ofNat 1048535).toFloat, .lt⟩ := by
    decide +kernel
  obtain ⟨share, hread, -, -, hvalue, -⟩ := parse_text_of_parse hshare
  obtain ⟨size, hread', -, hcomparator, -, hagain⟩ := parse_text_of_parse hsize
  exact ⟨⟨hshare, share, hread, hvalue (.inl rfl)⟩,
    hsize, size, hread', hcomparator, hagain (.inl rfl)⟩

end HostWatch.Threshold
