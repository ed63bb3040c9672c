import HostWatch.Proofs.Text.Piece
import HostWatch.Push.Message
/-!
# Placeholders replaced one after another

A template is filled by replacing one placeholder after another, so what is written in for one could
be taken for the next, or could make up the next with the text around it.  Where the name and the
alerts have no braces and the name is no part of what stands between the braces, neither happens:
the outcome is that of one pass from left to right.
-/

namespace HostWatch

namespace Template

/-- The placeholders of a template. -/
inductive Placeholder where
  | name | alerts | pairs
  deriving DecidableEq

namespace Placeholder

/-- The placeholder as it is written. -/
def text : Placeholder → List Char
  | name => namePlaceholder
  | alerts => alertsPlaceholder
  | pairs => pairsPlaceholder

/-- What stands between the braces. -/
def word : Placeholder → List Char
  | name => "name".toList
  | alerts => "msg".toList
  | pairs => "kvs".toList

/-- What is written in for the placeholder. -/
def filling (machine list : List Char) : Placeholder → List Char
  | name => machine
  | alerts | pairs => list

/-- All placeholders. -/
def all : List Placeholder := [name, alerts, pairs]

/-- The placeholder that a text starts with. -/
def starting? (s : List Char) : Option Placeholder := all.find? fun p ↦ p.text.isPrefixOf s

variable {p q : Placeholder} {s : List Char}

theorem text_ne_nil (p : Placeholder) : p.text ≠ [] := by
  cases p <;> exact List.cons_ne_nil _ _

/-- No placeholder starts within another, whatever follows. -/
theorem neverStarts_text (h : p ≠ q) : NeverStarts p.text q.text := by
  revert h
  cases p <;> cases q <;> decide

theorem starting?_text_append (p : Placeholder) (s : List Char) :
    starting? (p.text ++ s) = some p := by
  cases p <;> rfl

theorem starting?_eq_none_iff : starting? s = none ↔ ∀ p : Placeholder, ¬p.text <+: s := by
  simp only [starting?, List.find?_eq_none, List.isPrefixOf_iff_prefix]
  refine ⟨fun h p ↦ h p ?_, fun h p _ ↦ h p⟩
  cases p <;> decide

end Placeholder

/-- The template filled in one pass: a placeholder at the start gives way to its filling, and else
the first character is copied. -/
def fillOnce (machine list : List Char) : List Char → List Char
  | [] => []
  | c :: s =>
    match Placeholder.starting? (c :: s) with
    | some p => p.filling machine list ++ fillOnce machine list ((c :: s).drop p.text.length)
    | none => c :: fillOnce machine list s
termination_by s => s.length
decreasing_by
  · have := List.length_pos_iff.mpr p.text_ne_nil
    simp only [List.length_drop, List.length_cons]
    omega
  · exact Nat.lt_succ_self s.length

section

variable (machine list : List Char) {s : List Char}

theorem fillOnce_text_append (p : Placeholder) (s : List Char) :
    fillOnce machine list (p.text ++ s) = p.filling machine list ++ fillOnce machine list s := by
  have hstart := p.starting?_text_append s
  cases htext : p.text ++ s with
  | nil => exact absurd (List.append_eq_nil_iff.mp htext).1 p.text_ne_nil
  | cons c rest =>
      rw [htext] at hstart
      rw [fillOnce, hstart]
      dsimp only
      rw [← htext, List.drop_left]

theorem fillOnce_cons {c : Char} (h : ∀ p : Placeholder, ¬p.text <+: c :: s) :
    fillOnce machine list (c :: s) = c :: fillOnce machine list s := by
  rw [fillOnce, Placeholder.starting?_eq_none_iff.mpr h]

/-- A template is read from left to right: placeholders are taken whole, other characters one by
one. -/
theorem template_induction {motive : List Char → Prop} (nil : motive [])
    (placeholder : ∀ (p : Placeholder) s, motive s → motive (p.text ++ s))
    (char : ∀ c s, (∀ p : Placeholder, ¬p.text <+: c :: s) → motive s → motive (c :: s))
    (s : List Char) : motive s := by
  induction hn : s.length using Nat.strongRecOn generalizing s with
  | ind n ih =>
      subst hn
      cases s with
      | nil => exact nil
      | cons c s =>
          by_cases h : ∃ p : Placeholder, p.text <+: c :: s
          · obtain ⟨p, rest, hrest⟩ := h
            rw [← hrest]
            refine placeholder p rest (ih rest.length ?_ rest rfl)
            have := List.length_pos_iff.mpr p.text_ne_nil
            rw [← hrest, List.length_append]
            omega
          · exact char c s (not_exists.mp h) (ih s.length (Nat.lt_succ_self _) s rfl)

end

/-- What is written in can neither hold a placeholder nor make one up with what is around it. -/
structure Inert (p : Placeholder) (new : List Char) : Prop where
  /-- No placeholder starts in it. -/
  open_notMem : '\x7b' ∉ new
  /-- No placeholder ends in it. -/
  close_notMem : '\x7d' ∉ new
  /-- It is no part of the placeholder. -/
  not_infix : ¬new <:+: p.text

namespace Inert

variable {p q : Placeholder} {new s : List Char}

theorem neverStarts (h : Inert p new) : NeverStarts p.text new := by
  cases p <;> exact neverStarts_of_not_mem h.open_notMem

/-- Replacing by it brings no placeholder about. -/
theorem not_isPrefix (h : Inert p new) (hs : ¬p.text <+: s) :
    ¬p.text <+: replacePiece q.text new s := by
  intro hreplaced
  refine hs (isPrefix_of_isPrefix_replacePiece q.text_ne_nil ?_ h.not_infix hreplaced)
  intro c hc
  have hclose : c = '\x7d' := by
    cases p <;> exact (Option.some.inj hc).symm
  exact hclose ▸ h.close_notMem

end Inert

/-- Replacing one placeholder after another comes to one pass over the template. -/
theorem fillChars_eq_fillOnce {machine list : List Char}
    (halerts : Inert .alerts machine) (hpairs : Inert .pairs machine)
    (hlist : Inert .pairs list) (template : List Char) :
    fillChars template machine list = fillOnce machine list template := by
  have hname := Placeholder.name.text_ne_nil
  have halert := Placeholder.alerts.text_ne_nil
  have hpair := Placeholder.pairs.text_ne_nil
  have hfill : ∀ s, fillChars s machine list = replacePiece Placeholder.pairs.text list
      (replacePiece Placeholder.alerts.text list
        (replacePiece Placeholder.name.text machine s)) := fun _ ↦ rfl
  simp only [hfill]
  induction template using template_induction with
  | nil =>
      rw [replacePiece_nil hname, replacePiece_nil halert, replacePiece_nil hpair, fillOnce]
  | placeholder p s ih =>
      rw [fillOnce_text_append, ← ih]
      -- The replacements before its own pass over the placeholder, those after over what is written
      -- in.
      cases p with
      | name =>
          rw [replacePiece_append hname, halerts.neverStarts.replacePiece_append halert,
            hpairs.neverStarts.replacePiece_append hpair]
          rfl
      | alerts =>
          rw [(Placeholder.neverStarts_text (by decide)).replacePiece_append hname,
            replacePiece_append halert, hlist.neverStarts.replacePiece_append hpair]
          rfl
      | pairs =>
          rw [(Placeholder.neverStarts_text (by decide)).replacePiece_append hname,
            (Placeholder.neverStarts_text (by decide)).replacePiece_append halert,
            replacePiece_append hpair]
          rfl
  | char c s h ih =>
      have hafter := replacePiece_cons hname (h .name) machine
      have halert' := halerts.not_isPrefix (q := .name) (h .alerts)
      have hpair' := hlist.not_isPrefix (q := .alerts) (hpairs.not_isPrefix (q := .name) (h .pairs))
      rw [hafter] at halert' hpair'
      rw [replacePiece_cons halert halert'] at hpair'
      rw [hafter, replacePiece_cons halert halert', replacePiece_cons hpair hpair', ih,
        fillOnce_cons _ _ h]

/-- The text has no brace. -/
def NoBraces (s : String) : Prop := '\x7b' ∉ s.toList ∧ '\x7d' ∉ s.toList

instance (s : String) : Decidable (NoBraces s) :=
  inferInstanceAs (Decidable ('\x7b' ∉ s.toList ∧ '\x7d' ∉ s.toList))

theorem noBraces_append {s t : String} : NoBraces (s ++ t) ↔ NoBraces s ∧ NoBraces t := by
  simp only [NoBraces, String.toList_append, List.mem_append, not_or]
  exact and_and_and_comm

/-- Without braces, only a part of what stands between them is a part of the placeholder. -/
theorem inert_of_noBraces {p : Placeholder} {new : String} (h : NoBraces new)
    (hword : ¬new.toList <:+: p.word) : Inert p new.toList := by
  refine ⟨h.1, h.2, fun hinfix ↦ hword ?_⟩
  have hplain : ∀ c ∈ new.toList, (c != '\x7b' && c != '\x7d') = true := by
    intro c hc
    rw [Bool.and_eq_true, bne_iff_ne, bne_iff_ne]
    exact ⟨ne_of_mem_of_not_mem hc h.1, ne_of_mem_of_not_mem hc h.2⟩
  have hfilter := hinfix.filter fun c ↦ c != '\x7b' && c != '\x7d'
  rw [List.filter_eq_self.mpr hplain] at hfilter
  cases p <;> exact hfilter

end Template

namespace Alert

variable {alerts : List Alert}

theorem list_cons_cons (a b : Alert) (rest : List Alert) :
    list (a :: b :: rest) = a.text ++ "\n" ++ list (b :: rest) := String.intercalate_cons_cons

theorem noBraces_list (h : ∀ a ∈ alerts,
      Template.NoBraces a.time ∧ Template.NoBraces a.key ∧ Template.NoBraces a.value) :
    Template.NoBraces (list alerts) := by
  have htext : ∀ a ∈ alerts, Template.NoBraces a.text := by
    intro a ha
    obtain ⟨htime, hkey, hvalue⟩ := h a ha
    simp only [text, Template.noBraces_append]
    exact ⟨⟨⟨⟨htime, by decide⟩, hkey⟩, by decide⟩, hvalue⟩
  clear h
  induction alerts with
  | nil => decide
  | cons a rest ih =>
      obtain ⟨ha, hrest⟩ := List.forall_mem_cons.mp htext
      cases rest with
      | nil => exact ha
      | cons b rest =>
          rw [list_cons_cons, Template.noBraces_append, Template.noBraces_append]
          exact ⟨⟨ha, by decide⟩, ih hrest⟩

/-- Alerts have lines. -/
theorem lineFeed_mem_list (h : alerts ≠ []) : '\n' ∈ (list alerts).toList := by
  have htext : ∀ a : Alert, '\n' ∈ a.text.toList := by
    intro a
    simp [text]
  cases alerts with
  | nil => exact absurd rfl h
  | cons a rest =>
      cases rest with
      | nil => exact htext a
      | cons b rest =>
          rw [list_cons_cons, String.toList_append, String.toList_append]
          exact List.mem_append_left _ (List.mem_append_left _ (htext a))

end Alert

namespace Template

/-- With a name and alerts without braces, where the name is no part of what stands between the
braces, replacing one placeholder after another comes to one pass over the template: every
placeholder in the template gives way once, all else is copied, and nothing that was written in is
looked at again. -/
theorem fillAlerts_eq_fillOnce {name : String} {alerts : List Alert} (hname : NoBraces name)
    (hmsg : ¬name.toList <:+: "msg".toList) (hkvs : ¬name.toList <:+: "kvs".toList)
    (halerts : alerts ≠ [])
    (hbraces : ∀ a ∈ alerts, NoBraces a.time ∧ NoBraces a.key ∧ NoBraces a.value)
    (template : String) :
    fillAlerts template name alerts =
      .ofList (fillOnce name.toList (Alert.list alerts).toList template.toList) := by
  have hlist := Alert.noBraces_list hbraces
  have hpairs : Inert .pairs (Alert.list alerts).toList := by
    refine ⟨hlist.1, hlist.2, fun hinfix ↦ ?_⟩
    have hmem : '\n' ∈ Placeholder.pairs.text := hinfix.subset (Alert.lineFeed_mem_list halerts)
    exact absurd hmem (by decide)
  exact congrArg String.ofList (fillChars_eq_fillOnce (inert_of_noBraces hname hmsg)
    (inert_of_noBraces hname hkvs) hpairs template.toList)

/-- Braces around a placeholder, in front of one, and within one that is none. -/
theorem fillAlerts_eq_fillOnce_of_stray_braces :
    let alerts : List Alert := [⟨"cpu", "90.00%", "2024-01-02 03:04:05"⟩]
    let template := "\x7b\x7b\x7b\x7bname\x7d\x7d\x7d\x7d \x7b\x7b\x7bkvs\x7d\x7d " ++
      "\x7b\x7b\x7b\x7bname\x7d\x7dsg\x7d\x7d"
    (NoBraces "m1" ∧ ¬"m1".toList <:+: "msg".toList ∧ ¬"m1".toList <:+: "kvs".toList ∧
      alerts ≠ [] ∧ ∀ a ∈ alerts, NoBraces a.time ∧ NoBraces a.key ∧ NoBraces a.value) ∧
    fillAlerts template "m1" alerts =
      "\x7b\x7bm1\x7d\x7d \x7b2024-01-02 03:04:05\ncpu: 90.00% \x7b\x7bm1sg\x7d\x7d" := by
  intro alerts template
  have hname : NoBraces "m1" := by decide
  have hbraces : ∀ a ∈ alerts, NoBraces a.time ∧ NoBraces a.key ∧ NoBraces a.value :=
    List.forall_mem_singleton.mpr (by decide)
  refine ⟨⟨hname, by decide, by decide, List.cons_ne_nil _ _, hbraces⟩, ?_⟩
  rw [fillAlerts_eq_fillOnce hname (by decide) (by decide) (List.cons_ne_nil _ _) hbraces]
  decide +kernel

end Template

end HostWatch
