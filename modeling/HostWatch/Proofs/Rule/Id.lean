import HostWatch.Proofs.Rule.Verdict
import HostWatch.Proofs.Text.Lines
import HostWatch.Proofs.Text.Piece
import HostWatch.Proofs.Threshold.Grammar
import Mathlib.Data.List.Chain
/-!
# Names of rules in the log

The name of a rule joins its monitor, its threshold and its matcher by hyphens, and hyphens may
stand in thresholds and matchers too.  In a threshold that is read a hyphen stands only behind the
comparator or behind the letter of a power of ten, and no threshold ends in either.  So what is read
as a threshold cannot go on with a hyphen and be read again, and rules with usable thresholds are
told apart by their names.
-/

namespace HostWatch

variable {s t : List Char}

/-! ## Hyphens that are led in -/

/-- The characters that a hyphen may follow: those that end a comparator, and the letter of a power
of ten. -/
def hyphenLeads : List Char := ['<', '=', '>', 'e', 'E']

/-- Every hyphen but one at the start follows one of these. -/
def HyphensLed (s : List Char) : Prop := s.IsChain fun a b ↦ b = '-' → a ∈ hyphenLeads

theorem hyphensLed_of_notMem (h : '-' ∉ s) : HyphensLed s := by
  induction s with
  | nil => exact .nil
  | cons a s ih =>
      rw [List.mem_cons, not_or] at h
      apply List.isChain_cons.mpr
      refine ⟨fun b hb hhyphen ↦ ?_, ih h.2⟩
      subst hhyphen
      exact absurd (List.mem_of_mem_head? hb) h.2

theorem hyphensLed_append : HyphensLed (s ++ t) ↔ HyphensLed s ∧ HyphensLed t ∧
    ∀ a ∈ s.getLast?, ∀ b ∈ t.head?, b = '-' → a ∈ hyphenLeads := List.isChain_append

theorem HyphensLed.append_of_head? (hs : HyphensLed s) (ht : HyphensLed t)
    (h : ∀ b ∈ t.head?, b ≠ '-') : HyphensLed (s ++ t) :=
  hyphensLed_append.mpr ⟨hs, ht, fun _ _ b hb hhyphen ↦ absurd hhyphen (h b hb)⟩

theorem HyphensLed.append_of_notMem (hs : HyphensLed s) (h : '-' ∉ t) : HyphensLed (s ++ t) := by
  apply hs.append_of_head? (hyphensLed_of_notMem h)
  rintro _ hb rfl
  exact h (List.mem_of_mem_head? hb)

/-- A hyphen that is not the first character is led in by the one before it. -/
theorem HyphensLed.mem_of_append_cons {a : Char} (h : HyphensLed (s ++ '-' :: t))
    (ha : s.getLast? = some a) : a ∈ hyphenLeads :=
  (hyphensLed_append.mp h).2.2 a ha '-' rfl rfl

/-! ## Numbers -/

theorem hyphen_notMem_of_digits (h : s.all Char.isDigit = true) : '-' ∉ s := by
  intro hmem
  exact absurd (List.all_eq_true.mp h '-' hmem) (by decide)

theorem WritesFraction.hyphen_notMem {fraction : List Char} (h : WritesFraction s fraction) :
    '-' ∉ s := by
  cases h with
  | none => exact List.not_mem_nil
  | point hdigits =>
      rw [List.mem_cons, not_or]
      exact ⟨by decide, hyphen_notMem_of_digits hdigits⟩

theorem WritesSign.hyphensLed {negative : Bool} (h : WritesSign s negative) : HyphensLed s := by
  cases h with
  | none => exact .nil
  | plus => exact .singleton _
  | minus => exact .singleton _

/-- In a power of ten the hyphen follows the letter. -/
theorem WritesExponent.hyphensLed {e : Int} (h : WritesExponent s e) : HyphensLed s := by
  cases h with
  | none => exact .nil
  | power hletter hsign hne hdigits =>
      rename_i letter sign digits negative
      apply List.isChain_cons.mpr
      refine ⟨fun b _ _ ↦ ?_, hsign.hyphensLed.append_of_notMem (hyphen_notMem_of_digits hdigits)⟩
      rcases hletter with rfl | rfl <;> simp [hyphenLeads]

theorem WritesMagnitude.hyphensLed {d : Decimal} (h : WritesMagnitude s d) : HyphensLed s := by
  obtain ⟨hwhole, hfraction, -, hpower⟩ := h
  rename_i whole point fraction power e
  have hhead : ∀ c ∈ power.head?, c ≠ '-' := by
    cases hpower with
    | none => simp
    | power hletter hsign hne hdigits =>
        rintro c hc rfl
        obtain rfl := Option.some.inj hc
        rcases hletter with h | h <;> cases h
  rw [← List.append_assoc]
  apply HyphensLed.append_of_head? ?_ hpower.hyphensLed hhead
  apply hyphensLed_of_notMem
  rw [List.mem_append, not_or]
  exact ⟨hyphen_notMem_of_digits hwhole, hfraction.hyphen_notMem⟩

theorem WritesDecimal.hyphensLed {x : Binary64} (h : WritesDecimal s x) : HyphensLed s := by
  obtain ⟨hsign, hmagnitude⟩ := h
  exact hsign.hyphensLed.append_of_head? hmagnitude.hyphensLed fun c hc ↦ (hmagnitude.head c hc).2

/-- No character of a number is a blank. -/
theorem WritesDecimal.removeBlanks_eq {x : Binary64} (h : WritesDecimal s x) :
    removeBlanks s = s := by
  have hchars : ∀ c ∈ decimalChars, isBlank c = false := List.all_iff_forall_prop.mp (by decide)
  exact removeBlanks_eq_self fun c hc ↦ hchars c (h.mem_decimalChars c hc)

theorem Size.WritesInUnit.hyphensLed {size : Size} (h : Size.WritesInUnit s size) :
    HyphensLed s := by
  obtain ⟨hnumber, -, -, hunit⟩ := h
  rename_i number x unit power
  apply hnumber.hyphensLed.append_of_notMem
  rintro hhyphen
  obtain rfl := List.mem_singleton.mp hhyphen
  exact absurd (List.mem_of_getElem? hunit) (by decide)

/-! ## Thresholds -/

/-- The characters that a quantity may end in. -/
def quantityEnds : List Char := ['%', 'c', 's'] ++ Size.units

theorem notMem_hyphenLeads {c : Char} (h : c ∈ quantityEnds) : c ∉ hyphenLeads := by
  have hends : ∀ c ∈ quantityEnds, c ∉ hyphenLeads := List.all_iff_forall_prop.mp (by decide)
  exact hends c h

namespace Quantity

variable {kind : Kind} {x : Binary64}

/-- In a quantity, blanks apart, a hyphen stands first or is led in. -/
theorem hyphensLed (h : Quantity s kind x) : HyphensLed (removeBlanks s) := by
  cases h with
  | percent hnumber =>
      rw [removeBlanks_append, hnumber.removeBlanks_eq]
      exact hnumber.hyphensLed.append_of_notMem (by decide)
  | temperature hnumber =>
      rw [removeBlanks_append, hnumber.removeBlanks_eq]
      exact hnumber.hyphensLed.append_of_notMem (by decide)
  | size hsize => exact hsize.hyphensLed
  | speed hsize =>
      rw [removeBlanks_append]
      exact hsize.hyphensLed.append_of_notMem (by decide)
  | noSpeed hzero =>
      rw [removeBlanks_append, hzero]
      exact hyphensLed_of_notMem (by decide)

theorem exists_getLast? (h : Quantity s kind x) :
    ∃ c ∈ quantityEnds, (removeBlanks s).getLast? = some c := by
  cases h with
  | percent =>
      refine ⟨'%', by decide, ?_⟩
      rw [removeBlanks_append]
      exact List.getLast?_concat
  | temperature =>
      refine ⟨'c', by decide, ?_⟩
      rw [removeBlanks_append]
      exact List.getLast?_concat
  | size hsize =>
      obtain ⟨unit, hunit, hlast⟩ := hsize.exists_getLast?
      exact ⟨unit, List.mem_append_right _ hunit, hlast⟩
  | speed | noSpeed =>
      refine ⟨'s', by decide, ?_⟩
      rw [removeBlanks_append, List.getLast?_append_of_ne_nil _ (by decide)]
      rfl

end Quantity

namespace Comparator

theorem removeBlanks_symbol (c : Comparator) : removeBlanks c.symbol.toList = c.symbol.toList := by
  cases c <;> decide

theorem hyphensLed_symbol (c : Comparator) : HyphensLed c.symbol.toList := by
  apply hyphensLed_of_notMem
  cases c <;> decide

/-- A hyphen may follow a comparator. -/
theorem mem_hyphenLeads_of_getLast?_symbol (c : Comparator) {a : Char}
    (h : a ∈ c.symbol.toList.getLast?) : a ∈ hyphenLeads := by
  cases c <;> obtain rfl := Option.some.inj h <;> decide

end Comparator

namespace Threshold

variable {expression : String} {threshold : Threshold}

theorem removeBlanks_normalized (expression : String) :
    removeBlanks (normalized expression) = lowercase (removeBlanks expression.toList) := by
  rw [normalized, removeBlanks_lowercase, removeBlanks_trim]

/-- Blanks and capitals apart, a hyphen that is added stands behind what was there. -/
theorem removeBlanks_normalized_hyphen (expression rest : String) :
    removeBlanks (normalized (expression ++ "-" ++ rest)) =
      removeBlanks (normalized expression) ++ '-' :: lowercase (removeBlanks rest.toList) := by
  have hhyphen : lowercase (removeBlanks "-".toList) = ['-'] := by decide
  rw [removeBlanks_normalized, removeBlanks_normalized, String.toList_append, String.toList_append,
    removeBlanks_append, removeBlanks_append, lowercase_append, lowercase_append, hhyphen,
    List.append_assoc, List.singleton_append]

/-- In a threshold that is read every hyphen is led in. -/
theorem hyphensLed_of_parse (h : parse expression = .ok threshold) :
    HyphensLed (removeBlanks (normalized expression)) := by
  obtain ⟨r, hstarts, hquantity⟩ := parse_eq_ok_iff.mp h
  rw [hstarts.eq, removeBlanks_append, Comparator.removeBlanks_symbol]
  apply hyphensLed_append.mpr
  exact ⟨Comparator.hyphensLed_symbol _, hquantity.hyphensLed,
    fun a ha _ _ _ ↦ Comparator.mem_hyphenLeads_of_getLast?_symbol _ ha⟩

/-- A threshold that is read ends as a quantity does. -/
theorem exists_getLast?_of_parse (h : parse expression = .ok threshold) :
    ∃ c ∈ quantityEnds, (removeBlanks (normalized expression)).getLast? = some c := by
  obtain ⟨r, hstarts, hquantity⟩ := parse_eq_ok_iff.mp h
  obtain ⟨c, hc, hlast⟩ := hquantity.exists_getLast?
  refine ⟨c, hc, ?_⟩
  rw [hstarts.eq, removeBlanks_append, List.getLast?_append, hlast, Option.some_or]

/-- What is read as a threshold is not read if it goes on with a hyphen, whatever follows. -/
theorem parse_hyphen_ne_ok (h : parse expression = .ok threshold) (rest : String) (t : Threshold) :
    parse (expression ++ "-" ++ rest) ≠ .ok t := by
  intro hlonger
  obtain ⟨c, hc, hlast⟩ := exists_getLast?_of_parse h
  have hled := hyphensLed_of_parse hlonger
  rw [removeBlanks_normalized_hyphen] at hled
  exact notMem_hyphenLeads hc (hled.mem_of_append_cons hlast)

section

variable {e e' m m' : String} {t t' : Threshold}

theorem eq_of_starts (h : parse e = .ok t) (h' : parse e' = .ok t')
    (heq : e.toList ++ '-' :: m.toList = e'.toList ++ '-' :: m'.toList)
    (hle : e.toList <+: e'.toList) : e = e' := by
  obtain ⟨rest, hrest⟩ := hle
  cases rest with
  | nil =>
      apply String.toList_inj.mp
      rw [← hrest, List.append_nil]
  | cons c rest =>
      rw [← hrest, List.append_assoc, List.append_cancel_left_eq, List.cons_append,
        List.cons.injEq] at heq
      have he' : e' = e ++ "-" ++ .ofList rest := by
        apply String.toList_inj.mp
        rw [← hrest, ← heq.1]
        simp
      rw [he'] at h'
      exact absurd h' (parse_hyphen_ne_ok h _ _)

/-- Two thresholds that are read, each with a hyphen and any text behind it, are told apart. -/
theorem append_hyphen_inj (h : parse e = .ok t) (h' : parse e' = .ok t')
    (heq : e.toList ++ '-' :: m.toList = e'.toList ++ '-' :: m'.toList) : e = e' ∧ m = m' := by
  have he : e = e' := by
    have hleft : e.toList <+: e'.toList ++ '-' :: m'.toList := heq ▸ List.prefix_append _ _
    have hright := List.prefix_append e'.toList ('-' :: m'.toList)
    rcases List.prefix_or_prefix_of_prefix hleft hright with hle | hle
    · exact eq_of_starts h h' heq hle
    · exact (eq_of_starts h' h heq.symm hle).symm
  subst he
  rw [List.append_cancel_left_eq, List.cons.injEq] at heq
  exact ⟨rfl, String.toList_inj.mp heq.2⟩

end

end Threshold

/-! ## Names -/

theorem Monitor.hyphen_notMem_name (m : Monitor) : '-' ∉ m.name.toList := by
  cases m <;> simp [Monitor.name]

theorem Monitor.eq_of_name_eq {m m' : Monitor} (h : m.name = m'.name) : m = m' := by
  cases m <;> cases m' <;> simp [Monitor.name] at h ⊢

namespace Rule

variable {r r' : Rule}

theorem toList_id (r : Rule) : r.id.toList =
    r.monitor.name.toList ++ '-' :: (r.threshold.toList ++ '-' :: r.matcher.toList) := by
  simp [id]

/-- Two rules with usable thresholds that have the same name are the same: they agree in monitor,
threshold and matcher. -/
theorem eq_of_id_eq (h : ∃ t, r.validate = .ok t) (h' : ∃ t, r'.validate = .ok t)
    (hid : r.id = r'.id) : r = r' := by
  obtain ⟨t, ht⟩ := h
  obtain ⟨t', ht'⟩ := h'
  have hsplit := congrArg (fun name : String ↦ splitFirst '-' name.toList) hid
  rw [toList_id, toList_id, splitFirst_append r.monitor.hyphen_notMem_name,
    splitFirst_append r'.monitor.hyphen_notMem_name] at hsplit
  obtain ⟨hname, hrest⟩ := Prod.mk.inj (Option.some.inj hsplit)
  have hmonitor := Monitor.eq_of_name_eq (String.toList_inj.mp hname)
  obtain ⟨hthreshold, hmatcher⟩ := Threshold.append_hyphen_inj
    (validate_eq_ok_iff.mp ht).1 (validate_eq_ok_iff.mp ht').1 hrest
  calc
    r = ⟨r.monitor, r.threshold, r.matcher⟩ := rfl
    _ = ⟨r'.monitor, r'.threshold, r'.matcher⟩ := by rw [hmonitor, hthreshold, hmatcher]
    _ = r' := rfl

/-- The hyphens of a negative number and of its power of ten, and that of the matcher, do not hide
where the threshold ends. -/
theorem eq_of_id_eq_of_hyphens :
    let r : Rule := ⟨.temp, " >=-1.5e-1C ", "core-0"⟩
    let r' : Rule := ⟨.temp, " >=-1.5e-1C ", String.intercalate "-" ["core", "0"]⟩
    (∃ t, r.validate = .ok t) ∧ (∃ t, r'.validate = .ok t) ∧
      r.id = "temp- >=-1.5e-1C -core-0" ∧ r'.id = "temp- >=-1.5e-1C -core-0" ∧ r = r' := by
  intro r r'
  have hvalid : ∃ t, r.validate = .ok t :=
    ⟨⟨.temperature, .ofDecimal true 15 (-2), .ge⟩, by decide +kernel⟩
  have hvalid' : ∃ t, r'.validate = .ok t :=
    ⟨⟨.temperature, .ofDecimal true 15 (-2), .ge⟩, by decide +kernel⟩
  have hid : r.id = "temp- >=-1.5e-1C -core-0" := by decide +kernel
  have hid' : r'.id = "temp- >=-1.5e-1C -core-0" := by decide +kernel
  exact ⟨hvalid, hvalid', hid, hid', eq_of_id_eq hvalid hvalid' (hid.trans hid'.symm)⟩

/-- Both thresholds have to be usable. -/
example : id ⟨.cpu, ">80%", "x-y"⟩ = id ⟨.cpu, ">80%-x", "y"⟩ := by decide

end Rule

end HostWatch
