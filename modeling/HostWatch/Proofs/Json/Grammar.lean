import HostWatch.Proofs.Json.Scalar
/-!
# Texts that write a value

A value is written with white space, or none, behind each opening bracket, comma and colon and
before each closing bracket.  However it is written, it is read back, each object with its members
in the order of their keys, provided that it is not too deep.
-/

namespace HostWatch

namespace Json

/-! ## Steps of reading -/

/-- Something is read at the start of a text, and what is left is the rest. -/
def Leaves {α : Type} {s : List Char} (o : Option (α × Rest s)) (x : α) (r : List Char) : Prop :=
  ∃ h, o = some (x, ⟨r, h⟩)

section

variable {s t r u w : List Char} {d : Nat} {v : Json} {k : String}

theorem Leaves.map {α β : Type} {x : α} {o : Option (α × Rest s)} (h : Leaves o x r) (f : α → β)
    (hw : s.length ≤ t.length) : Leaves (o.map fun y ↦ (f y.1, y.2.widen hw)) (f x) r := by
  obtain ⟨hr, rfl⟩ := h
  exact ⟨Nat.lt_of_lt_of_le hr hw, rfl⟩

theorem expect_eq_some {x : Char} (h : skipSpace s = x :: r) : ∃ hr, expect x s = some ⟨r, hr⟩ := by
  have hlength := length_skipSpace s
  rw [h, List.length_cons] at hlength
  refine ⟨by omega, ?_⟩
  unfold expect
  split
  case h_1 heq =>
    rw [h] at heq
    cases heq
  case h_2 c r' heq =>
    obtain ⟨rfl, rfl⟩ := List.cons.inj (h.symm.trans heq)
    exact if_pos rfl

theorem expect_eq_none {x c : Char} (h : skipSpace s = c :: r) (hne : c ≠ x) :
    expect x s = none := by
  unfold expect
  split
  case h_1 => rfl
  case h_2 c' r' heq =>
    obtain ⟨rfl, rfl⟩ := List.cons.inj (h.symm.trans heq)
    exact if_neg hne

theorem readString_stringText (k : String) (u : List Char) :
    Leaves (readString (k.toList.flatMap stringChar ++ '"' :: u)) k u := by
  have hread := readChars_flatMap_stringChar k.toList u
  unfold readString
  split
  case h_1 heq =>
    rw [hread] at heq
    cases heq
  case h_2 t r heq =>
    obtain ⟨rfl, rfl⟩ := Prod.mk.inj (Option.some.inj (hread.symm.trans heq))
    exact ⟨_, by rw [String.ofList_toList]⟩

theorem readNumber_of_scan {p : NumberParts} (h : NumberParts.scan s = some (p, r))
    (hv : p.value? = some v) : Leaves (readNumber s) v r := by
  unfold readNumber
  split
  case h_1 heq =>
    rw [h] at heq
    cases heq
  case h_2 p' r' heq =>
    obtain ⟨rfl, rfl⟩ := Prod.mk.inj (Option.some.inj (h.symm.trans heq))
    exact ⟨_, by rw [hv]; rfl⟩

/-! ## Values -/

/-- A value is read by its first character. -/
theorem readValue_of_skipSpace {c : Char} (h : skipSpace s = c :: r) :
    ∃ (hw : r.length ≤ s.length) (hs : (skipSpace s).length ≤ s.length),
      readValue d s =
        if c = '"' then (readString r).map fun x ↦ (string x.1, x.2.widen hw)
        else if c = '[' then
          match d with
          | 0 => none
          | d + 1 =>
            match expect ']' r with
            | some r' => some (array [], r'.widen hw)
            | none => (readItems d r).map fun x ↦ (array x.1, x.2.widen hw)
        else if c = '\x7b' then
          match d with
          | 0 => none
          | d + 1 =>
            match expect '\x7d' r with
            | some r' => some (object [], r'.widen hw)
            | none => (readMembers d r).map fun x ↦ (ofMembers x.1, x.2.widen hw)
        else if c = '-' ∨ c.isDigit then
          (readNumber (skipSpace s)).map fun x ↦ (x.1, x.2.widen hs)
        else (readWord (skipSpace s)).map fun x ↦ (x.1, x.2.widen hs) := by
  have hs := length_skipSpace s
  have hw : r.length ≤ s.length := by
    rw [h, List.length_cons] at hs
    omega
  refine ⟨hw, hs, ?_⟩
  rw [readValue]
  split
  case h_1 heq =>
    rw [h] at heq
    cases heq
  case h_2 c' r' heq =>
    obtain ⟨rfl, rfl⟩ := List.cons.inj (h.symm.trans heq)
    rfl

theorem readValue_string (h : skipSpace s = stringText k ++ u) :
    Leaves (readValue d s) (string k) u := by
  have htext : skipSpace s = '"' :: (k.toList.flatMap stringChar ++ '"' :: u) := by
    rw [h, stringText, List.cons_append, List.cons_append, List.append_assoc]
    rfl
  obtain ⟨hw, hs, hread⟩ := readValue_of_skipSpace (d := d) htext
  rw [hread, if_pos rfl]
  exact (readString_stringText k u).map string hw

/-- A number starts with its sign or with a digit. -/
theorem exists_cons_of_scan {p : NumberParts} (h : NumberParts.scan s = some (p, r)) :
    ∃ c t, s = c :: t ∧ (c = '-' ∨ c.isDigit = true) := by
  unfold NumberParts.scan at h
  split at h
  case h_1 s => exact ⟨_, s, rfl, .inl rfl⟩
  case h_2 =>
    cases s with
    | nil => cases h
    | cons c s =>
        refine ⟨c, s, rfl, .inr ?_⟩
        by_contra hc
        rw [NumberParts.scanUnsigned, NumberParts.scanWhole, List.takeWhile_cons_of_neg hc] at h
        cases h

theorem ne_of_number {c x : Char} (hc : c = '-' ∨ c.isDigit = true)
    (hx : ¬(x = '-' ∨ x.isDigit = true)) : c ≠ x := by
  rintro rfl
  exact hx hc

theorem readValue_number {p : NumberParts} (hscan : NumberParts.scan (skipSpace s) = some (p, u))
    (hv : p.value? = some v) : Leaves (readValue d s) v u := by
  obtain ⟨c, t, ht, hc⟩ := exists_cons_of_scan hscan
  obtain ⟨hw, hs, hread⟩ := readValue_of_skipSpace (d := d) ht
  rw [hread, if_neg (ne_of_number hc (by decide)), if_neg (ne_of_number hc (by decide)),
    if_neg (ne_of_number hc (by decide)), if_pos hc]
  exact (readNumber_of_scan hscan hv).map id hs

theorem readValue_word {c : Char} (h : skipSpace s = c :: t) (hc : c = 'n' ∨ c = 't' ∨ c = 'f')
    (hv : Leaves (readWord (skipSpace s)) v u) : Leaves (readValue d s) v u := by
  obtain ⟨hw, hs, hread⟩ := readValue_of_skipSpace (d := d) h
  have hword : readValue d s = (readWord (skipSpace s)).map fun x ↦ (x.1, x.2.widen hs) := by
    rcases hc with rfl | rfl | rfl
    all_goals
      rw [hread, if_neg (by decide), if_neg (by decide), if_neg (by decide), if_neg (by decide)]
  rw [hword]
  exact hv.map id hs

theorem readValue_array_nil (h : skipSpace s = '[' :: ']' :: u) :
    Leaves (readValue (d + 1) s) (array []) u := by
  obtain ⟨hw, hs, hread⟩ := readValue_of_skipSpace (d := d + 1) h
  have hskip : skipSpace (']' :: u) = ']' :: u := rfl
  obtain ⟨hr, hexpect⟩ := expect_eq_some hskip
  rw [hread, if_neg (by decide), if_pos rfl, hexpect]
  exact ⟨_, rfl⟩

/-- No value starts with the closing bracket of an array. -/
theorem expect_eq_none_of_readValue (h : Leaves (readValue d s) v r) : expect ']' s = none := by
  cases hskip : skipSpace s with
  | nil =>
      unfold expect
      split
      case h_1 => rfl
      case h_2 heq =>
        rw [hskip] at heq
        cases heq
  | cons c t =>
      refine expect_eq_none hskip ?_
      rintro rfl
      obtain ⟨hr, hv⟩ := h
      obtain ⟨hw, hs, hread⟩ := readValue_of_skipSpace (d := d) hskip
      have hword : readWord (skipSpace s) = none := by
        rw [hskip]
        rfl
      rw [hread, if_neg (by decide), if_neg (by decide), if_neg (by decide), if_neg (by decide),
        hword] at hv
      cases hv

theorem readValue_array {items : List Json} (h : skipSpace s = '[' :: r)
    (hclose : expect ']' r = none) (hitems : Leaves (readItems d r) items u) :
    Leaves (readValue (d + 1) s) (array items) u := by
  obtain ⟨hw, hs, hread⟩ := readValue_of_skipSpace (d := d + 1) h
  rw [hread, if_neg (by decide), if_pos rfl, hclose]
  exact hitems.map array hw

theorem readValue_object_nil (h : skipSpace s = '\x7b' :: '\x7d' :: u) :
    Leaves (readValue (d + 1) s) (object []) u := by
  obtain ⟨hw, hs, hread⟩ := readValue_of_skipSpace (d := d + 1) h
  have hskip : skipSpace ('\x7d' :: u) = '\x7d' :: u := rfl
  obtain ⟨hr, hexpect⟩ := expect_eq_some hskip
  rw [hread, if_neg (by decide), if_neg (by decide), if_pos rfl, hexpect]
  exact ⟨_, rfl⟩

theorem readValue_object {members : List (String × Json)} (h : skipSpace s = '\x7b' :: r)
    (hclose : expect '\x7d' r = none) (hmembers : Leaves (readMembers d r) members u) :
    Leaves (readValue (d + 1) s) (ofMembers members) u := by
  obtain ⟨hw, hs, hread⟩ := readValue_of_skipSpace (d := d + 1) h
  rw [hread, if_neg (by decide), if_neg (by decide), if_pos rfl, hclose]
  exact hmembers.map ofMembers hw

theorem readItems_cons {items : List Json} (hv : Leaves (readValue d s) v r)
    (hcomma : skipSpace r = ',' :: t) (hitems : Leaves (readItems d t) items u) :
    Leaves (readItems d s) (v :: items) u := by
  obtain ⟨hr, hv⟩ := hv
  obtain ⟨ht, hcomma⟩ := expect_eq_some hcomma
  rw [readItems, hv]
  dsimp only
  rw [hcomma]
  exact hitems.map (v :: ·) (by omega)

theorem readItems_singleton (hv : Leaves (readValue d s) v r) (hclose : skipSpace r = ']' :: u) :
    Leaves (readItems d s) [v] u := by
  obtain ⟨hr, hv⟩ := hv
  have hcomma : expect ',' r = none := expect_eq_none hclose (by decide)
  obtain ⟨hu, hclose⟩ := expect_eq_some hclose
  rw [readItems, hv]
  dsimp only
  rw [hcomma, hclose]
  exact ⟨_, rfl⟩

/-- A key and the colon after it. -/
theorem exists_readString (hkey : skipSpace s = stringText k ++ ':' :: w) :
    ∃ (r₀ : Rest s) (r₁ : Rest r₀.val) (r₂ : Rest r₁.val), expect '"' s = some r₀ ∧
      readString r₀.val = some (k, r₁) ∧ expect ':' r₁.val = some r₂ ∧ r₂.val = w := by
  have htext : skipSpace s = '"' :: (k.toList.flatMap stringChar ++ '"' :: ':' :: w) := by
    rw [hkey, stringText, List.cons_append, List.cons_append, List.append_assoc]
    rfl
  obtain ⟨hquote, hquote_eq⟩ := expect_eq_some htext
  obtain ⟨hr, hread⟩ := readString_stringText k (':' :: w)
  have hskip : skipSpace (':' :: w) = ':' :: w := rfl
  obtain ⟨hcolon, hcolon_eq⟩ := expect_eq_some hskip
  exact ⟨⟨_, hquote⟩, ⟨_, hr⟩, ⟨_, hcolon⟩, hquote_eq, hread, hcolon_eq, rfl⟩

/-- After the first member a comma or the closing brace decides. -/
theorem readMembers_of_readValue (hkey : skipSpace s = stringText k ++ ':' :: w)
    (hv : Leaves (readValue d w) v r) : ∃ hr : r.length < s.length,
      readMembers d s = match expect ',' r with
        | some r' => (readMembers d r'.val).map fun x ↦
            ((k, v) :: x.1, x.2.widen (Nat.le_of_lt (Nat.lt_trans r'.property hr)))
        | none => (expect '\x7d' r).map fun r' ↦ ([(k, v)], r'.widen (Nat.le_of_lt hr)) := by
  obtain ⟨r₀, r₁, r₂, hquote, hread, hcolon, rfl⟩ := exists_readString hkey
  obtain ⟨hr, hv⟩ := hv
  have h₀ := r₀.property
  have h₁ := r₁.property
  have h₂ := r₂.property
  refine ⟨by omega, ?_⟩
  rw [readMembers, hquote]
  dsimp only
  rw [hread]
  dsimp only
  rw [hcolon]
  dsimp only
  rw [hv]
  dsimp only
  cases expect ',' r <;> rfl

theorem readMembers_cons {members : List (String × Json)}
    (hkey : skipSpace s = stringText k ++ ':' :: w) (hv : Leaves (readValue d w) v r)
    (hcomma : skipSpace r = ',' :: t) (hmembers : Leaves (readMembers d t) members u) :
    Leaves (readMembers d s) ((k, v) :: members) u := by
  obtain ⟨hr, hread⟩ := readMembers_of_readValue hkey hv
  obtain ⟨ht, hcomma⟩ := expect_eq_some hcomma
  rw [hread, hcomma]
  exact hmembers.map ((k, v) :: ·) _

theorem readMembers_singleton (hkey : skipSpace s = stringText k ++ ':' :: w)
    (hv : Leaves (readValue d w) v r) (hclose : skipSpace r = '\x7d' :: u) :
    Leaves (readMembers d s) [(k, v)] u := by
  obtain ⟨hr, hread⟩ := readMembers_of_readValue hkey hv
  have hcomma : expect ',' r = none := expect_eq_none hclose (by decide)
  obtain ⟨hu, hclose⟩ := expect_eq_some hclose
  rw [hread, hcomma, hclose]
  exact ⟨_, rfl⟩

end

/-! ## Members in order -/

mutual

/-- The value with the members of each object in the order of their keys. -/
def sorted : Json → Json
  | array items => array (sortedItems items)
  | object members => ofMembers (sortedMembers members)
  | v => v

/-- Items with the members of each object in order. -/
def sortedItems : List Json → List Json
  | [] => []
  | v :: rest => sorted v :: sortedItems rest

/-- Members with the members of each object in their values in order. -/
def sortedMembers : List (String × Json) → List (String × Json)
  | [] => []
  | (k, v) :: rest => (k, sorted v) :: sortedMembers rest

end

/-! ## The grammar -/

/-- White space only. -/
def AllSpace (gap : List Char) : Prop := ∀ c ∈ gap, isSpace c = true

mutual

/-- The text writes the value. -/
inductive Writes : Json → List Char → Prop
  | null : Writes null ['n', 'u', 'l', 'l']
  | true : Writes (bool true) ['t', 'r', 'u', 'e']
  | false : Writes (bool false) ['f', 'a', 'l', 's', 'e']
  | integer {n : WideInt} {text : List Char} (h : NumberParts.Spells text (integer n)) :
      Writes (integer n) text
  | float {x : Binary64} {text : List Char} (h : NumberParts.Spells text (float x)) :
      Writes (float x) text
  | string (k : String) : Writes (string k) (stringText k)
  | emptyArray : Writes (array []) ['[', ']']
  | array {v : Json} {rest : List Json} {gap first others : List Char} (hgap : AllSpace gap)
      (hv : Writes v first) (hrest : WritesItems rest others) :
      Writes (array (v :: rest)) ('[' :: (gap ++ (first ++ others)))
  | emptyObject : Writes (object []) ['\x7b', '\x7d']
  | object {k : String} {v : Json} {rest : List (String × Json)}
      {gap space first others : List Char} (hgap : AllSpace gap) (hspace : AllSpace space)
      (hv : Writes v first) (hrest : WritesMembers rest others) :
      Writes (object ((k, v) :: rest))
        ('\x7b' :: (gap ++ (stringText k ++ ':' :: (space ++ (first ++ others)))))

/-- The text writes the items behind the first one, and the closing bracket. -/
inductive WritesItems : List Json → List Char → Prop
  | nil {gap : List Char} (hgap : AllSpace gap) : WritesItems [] (gap ++ [']'])
  | cons {v : Json} {rest : List Json} {gap first others : List Char} (hgap : AllSpace gap)
      (hv : Writes v first) (hrest : WritesItems rest others) :
      WritesItems (v :: rest) (',' :: (gap ++ (first ++ others)))

/-- The text writes the members behind the first one, and the closing brace. -/
inductive WritesMembers : List (String × Json) → List Char → Prop
  | nil {gap : List Char} (hgap : AllSpace gap) : WritesMembers [] (gap ++ ['\x7d'])
  | cons {k : String} {v : Json} {rest : List (String × Json)} {gap space first others : List Char}
      (hgap : AllSpace gap) (hspace : AllSpace space) (hv : Writes v first)
      (hrest : WritesMembers rest others) :
      WritesMembers ((k, v) :: rest)
        (',' :: (gap ++ (stringText k ++ ':' :: (space ++ (first ++ others)))))

end

section

variable {v : Json} {items : List Json} {members : List (String × Json)} {gap text u : List Char}

theorem isSpace_cases {c : Char} (h : isSpace c = true) :
    c = ' ' ∨ c = '\n' ∨ c = '\t' ∨ c = '\r' := by
  simpa [isSpace, or_assoc] using h

theorem skipSpace_append (h : AllSpace gap) (s : List Char) :
    skipSpace (gap ++ s) = skipSpace s := List.dropWhile_append_of_pos h

theorem endsNumber_append (h : AllSpace gap) (hu : EndsNumber u) : EndsNumber (gap ++ u) := by
  cases gap with
  | nil => exact hu
  | cons c gap =>
      refine endsNumber_cons ?_ _
      rcases isSpace_cases (h c List.mem_cons_self) with rfl | rfl | rfl | rfl <;> decide

/-- A number is read back, whatever may follow it. -/
theorem readValue_of_spells {s : List Char} {d : Nat}
    (hnumber : NumberParts.Spells text v) (hs : skipSpace s = text ++ u) (hu : EndsNumber u) :
    Leaves (readValue d s) v u := by
  obtain ⟨p, hscan, hv⟩ := hnumber
  refine readValue_number (p := p) ?_ hv
  rw [hs]
  exact NumberParts.scan_append hu hscan

theorem skipSpace_of_spells (h : NumberParts.Spells text v) :
    skipSpace (text ++ u) = text ++ u := by
  obtain ⟨p, hscan, -⟩ := h
  obtain ⟨c, t, rfl, hc⟩ := exists_cons_of_scan hscan
  refine List.dropWhile_cons_of_neg ?_
  intro hspace
  rcases isSpace_cases hspace with rfl | rfl | rfl | rfl <;> exact absurd hc (by decide)

namespace Writes

/-- A text starts with no white space. -/
theorem skipSpace_eq (h : Writes v text) (u : List Char) : skipSpace (text ++ u) = text ++ u := by
  cases h with
  | integer h => exact skipSpace_of_spells h
  | float h => exact skipSpace_of_spells h
  | _ => rfl

theorem skipSpace_gap (h : Writes v text) (hgap : AllSpace gap) (u : List Char) :
    skipSpace (gap ++ (text ++ u)) = text ++ u := by
  rw [skipSpace_append hgap, h.skipSpace_eq]

end Writes

theorem skipSpace_stringText (hgap : AllSpace gap) (k : String) (u : List Char) :
    skipSpace (gap ++ (stringText k ++ u)) = stringText k ++ u := by
  rw [skipSpace_append hgap]
  rfl

theorem WritesItems.endsNumber (h : WritesItems items text) (u : List Char) :
    EndsNumber (text ++ u) := by
  cases h with
  | nil hgap =>
      rw [List.append_assoc]
      exact endsNumber_append hgap (endsNumber_cons (by decide) _)
  | cons => exact endsNumber_cons (by decide) _

theorem WritesMembers.endsNumber (h : WritesMembers members text) (u : List Char) :
    EndsNumber (text ++ u) := by
  cases h with
  | nil hgap =>
      rw [List.append_assoc]
      exact endsNumber_append hgap (endsNumber_cons (by decide) _)
  | cons => exact endsNumber_cons (by decide) _

end

/-! ## Reading -/

theorem exists_eq_add_one {n d : Nat} (h : 1 + n ≤ d) : ∃ d', d = d' + 1 ∧ n ≤ d' :=
  ⟨d - 1, by omega, by omega⟩

mutual

/-- A value is read back from any text that writes it. -/
theorem readValue_of_writes {v : Json} {text : List Char} (h : Writes v text) {d : Nat}
    (hdepth : v.depth ≤ d) {s u : List Char} (hs : skipSpace s = text ++ u) (hu : EndsNumber u) :
    Leaves (readValue d s) v.sorted u := by
  match h with
  | .null => exact readValue_word hs (by decide) (by rw [hs]; exact ⟨_, rfl⟩)
  | .true => exact readValue_word hs (by decide) (by rw [hs]; exact ⟨_, rfl⟩)
  | .false => exact readValue_word hs (by decide) (by rw [hs]; exact ⟨_, rfl⟩)
  | .integer hn => exact readValue_of_spells hn hs hu
  | .float hx => exact readValue_of_spells hx hs hu
  | .string k => exact readValue_string hs
  | .emptyArray =>
      obtain ⟨d, rfl, -⟩ := exists_eq_add_one hdepth
      exact readValue_array_nil hs
  | .array hgap hv hrest =>
      obtain ⟨d, rfl, hd⟩ := exists_eq_add_one hdepth
      obtain ⟨hdv, hdrest⟩ := Nat.max_le.mp hd
      rw [List.cons_append, List.append_assoc, List.append_assoc] at hs
      have hread := readValue_of_writes hv hdv (hv.skipSpace_gap hgap _) (hrest.endsNumber u)
      -- The reader looks for the closing bracket first, which no value starts with.
      exact readValue_array hs (expect_eq_none_of_readValue hread)
        (readItems_of_writes hrest hdrest hread)
  | .emptyObject =>
      obtain ⟨d, rfl, -⟩ := exists_eq_add_one hdepth
      exact readValue_object_nil hs
  | .object hgap hspace hv hrest =>
      obtain ⟨d, rfl, hd⟩ := exists_eq_add_one hdepth
      obtain ⟨hdv, hdrest⟩ := Nat.max_le.mp hd
      simp only [List.cons_append, List.append_assoc] at hs
      have hread := readValue_of_writes hv hdv (hv.skipSpace_gap hspace _) (hrest.endsNumber u)
      exact readValue_object hs (expect_eq_none (skipSpace_stringText hgap _ _) (by decide))
        (readMembers_of_writes hrest hdrest (skipSpace_stringText hgap _ _) hread)

/-- Items are read back after the first. -/
theorem readItems_of_writes {items : List Json} {text : List Char} (h : WritesItems items text)
    {d : Nat} (hdepth : itemsDepth items ≤ d) {s u : List Char} {v : Json}
    (hv : Leaves (readValue d s) v (text ++ u)) :
    Leaves (readItems d s) (v :: sortedItems items) u := by
  match h with
  | .nil hgap =>
      refine readItems_singleton hv ?_
      rw [List.append_assoc, skipSpace_append hgap]
      rfl
  | .cons hgap hw hrest =>
      obtain ⟨hdw, hdrest⟩ := Nat.max_le.mp hdepth
      have hread := readValue_of_writes hw hdw (hw.skipSpace_gap hgap _) (hrest.endsNumber u)
      refine readItems_cons hv ?_ (readItems_of_writes hrest hdrest hread)
      rw [List.cons_append, List.append_assoc, List.append_assoc]
      rfl

/-- Members are read back after the first. -/
theorem readMembers_of_writes {members : List (String × Json)} {text : List Char}
    (h : WritesMembers members text) {d : Nat} (hdepth : membersDepth members ≤ d)
    {s u w : List Char} {k : String} {v : Json} (hk : skipSpace s = stringText k ++ ':' :: w)
    (hv : Leaves (readValue d w) v (text ++ u)) :
    Leaves (readMembers d s) ((k, v) :: sortedMembers members) u := by
  match h with
  | .nil hgap =>
      refine readMembers_singleton hk hv ?_
      rw [List.append_assoc, skipSpace_append hgap]
      rfl
  | .cons hgap hspace hw hrest =>
      obtain ⟨hdw, hdrest⟩ := Nat.max_le.mp hdepth
      have hread := readValue_of_writes hw hdw (hw.skipSpace_gap hspace _) (hrest.endsNumber u)
      refine readMembers_cons hk hv ?_
        (readMembers_of_writes hrest hdrest (skipSpace_stringText hgap _ _) hread)
      simp only [List.cons_append, List.append_assoc]
      rfl

end

/-- A value that is not too deep is read back from any text that writes it. -/
theorem Writes.read?_ofList {v : Json} {text : List Char} (h : Writes v text)
    (hdepth : v.depth ≤ maxDepth) : read? (.ofList text) = some v.sorted := by
  have hskip : skipSpace (String.ofList text).toList = text ++ [] := by
    rw [String.toList_ofList]
    simpa only [List.append_nil] using h.skipSpace_eq []
  obtain ⟨hr, hread⟩ := readValue_of_writes h hdepth hskip endsNumber_nil
  unfold read? readWithin?
  rw [hread]
  rfl

end Json

end HostWatch
