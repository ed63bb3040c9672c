import HostWatch.Json.Number
import HostWatch.Text.Search
/-!
# Reading JSON

The strict grammar: no comments, no trailing commas, no unpaired surrogates, and no more than
`Json.maxDepth` containers within one another.  Each scanner returns what it read with the rest of
the text, and the rest is shorter.
-/

namespace HostWatch

namespace Json

/-- The deepest nesting of arrays and objects that is read. -/
def maxDepth : Nat := 127

/-- White space between the tokens. -/
def isSpace (c : Char) : Bool := c = ' ' || c = '\n' || c = '\t' || c = '\r'

/-- The text after white space. -/
def skipSpace (s : List Char) : List Char := s.dropWhile isSpace

/-- Skipping lengthens nothing. -/
theorem length_skipSpace (s : List Char) : (skipSpace s).length ≤ s.length :=
  (List.dropWhile_sublist isSpace).length_le

/-- The value of a hexadecimal digit. -/
def hexDigit? (c : Char) : Option Nat :=
  if c.isDigit then some (c.toNat - '0'.toNat)
  else if 'a' ≤ c ∧ c ≤ 'f' then some (c.toNat - 'a'.toNat + 10)
  else if 'A' ≤ c ∧ c ≤ 'F' then some (c.toNat - 'A'.toNat + 10)
  else none

/-- The value of four hexadecimal digits. -/
def hexWord? (a b c d : Char) : Option Nat := do
  return (((← hexDigit? a) * 16 + (← hexDigit? b)) * 16 + (← hexDigit? c)) * 16 + (← hexDigit? d)

/-- The character that a one-letter escape stands for. -/
def escape? : Char → Option Char
  | '"' => some '"'
  | '\\' => some '\\'
  | '/' => some '/'
  | 'b' => some '\x08'
  | 'f' => some '\x0c'
  | 'n' => some '\n'
  | 'r' => some '\r'
  | 't' => some '\t'
  | _ => none

/-- The character of a code unit, or of a pair of surrogates. -/
def unitChar? (high : Nat) (low : Option Nat) : Option Char :=
  match low with
  | none => if 0xd800 ≤ high ∧ high ≤ 0xdfff then none else some (Char.ofNat high)
  | some low =>
    if 0xd800 ≤ high ∧ high ≤ 0xdbff ∧ 0xdc00 ≤ low ∧ low ≤ 0xdfff then
      some (Char.ofNat (0x10000 + (high - 0xd800) * 0x400 + (low - 0xdc00)))
    else none

/-- The characters of a string up to its closing quotation mark, and the text after that. -/
def readChars : List Char → Option (List Char × List Char)
  | [] => none
  | '"' :: s => some ([], s)
  | '\\' :: 'u' :: a :: b :: c :: d :: '\\' :: 'u' :: e :: f :: g :: h :: s =>
    match hexWord? a b c d with
    | none => none
    | some high =>
      match unitChar? high none with
      | some x => (readChars ('\\' :: 'u' :: e :: f :: g :: h :: s)).map fun r ↦ (x :: r.1, r.2)
      | none =>
        match (hexWord? e f g h).bind fun low ↦ unitChar? high (some low) with
        | none => none
        | some x => (readChars s).map fun r ↦ (x :: r.1, r.2)
  | '\\' :: 'u' :: a :: b :: c :: d :: s =>
    match (hexWord? a b c d).bind fun n ↦ unitChar? n none with
    | none => none
    | some x => (readChars s).map fun r ↦ (x :: r.1, r.2)
  | '\\' :: e :: s =>
    match escape? e with
    | none => none
    | some x => (readChars s).map fun r ↦ (x :: r.1, r.2)
  | c :: s => if c = '\\' ∨ c.toNat < 32 then none else (readChars s).map fun r ↦ (c :: r.1, r.2)

/-- A string takes at least its closing quotation mark. -/
theorem length_of_readChars {s t r : List Char} (h : readChars s = some (t, r)) :
    r.length < s.length := by
  fun_induction readChars s generalizing t r <;>
    simp only [reduceCtorEq, Option.some.injEq, Prod.mk.injEq, Option.map_eq_some_iff] at h <;>
    first
      | (obtain ⟨_, rfl⟩ := h; simp)
      | (obtain ⟨⟨t', r'⟩, h, -, rfl⟩ := h
         rename_i ih
         have := ih h
         simp only [List.length_cons] at this ⊢
         omega)

/-- What is left of a text after something was read from its start. -/
abbrev Rest (s : List Char) := { r : List Char // r.length < s.length }

namespace Rest

/-- What is left of a shorter text is left of the longer. -/
def widen {s t : List Char} (h : t.length ≤ s.length) (r : Rest t) : Rest s :=
  ⟨r.val, Nat.lt_of_lt_of_le r.property h⟩

end Rest

/-- A string after its opening quotation mark. -/
def readString (s : List Char) : Option (String × Rest s) :=
  match h : readChars s with
  | none => none
  | some (t, r) => some (.ofList t, ⟨r, length_of_readChars h⟩)

/-- A number. -/
def readNumber (s : List Char) : Option (Json × Rest s) :=
  match h : NumberParts.scan s with
  | none => none
  | some (p, r) => p.value?.map fun v ↦ (v, ⟨r, NumberParts.length_of_scan h⟩)

/-- One of the three words. -/
def readWord (s : List Char) : Option (Json × Rest s) :=
  let word? (letters : List Char) (hw : letters ≠ []) (v : Json) : Option (Json × Rest s) :=
    match h : dropStart? letters s with
    | none => none
    | some r => some (v, ⟨r, by
        have := length_of_dropStart? h
        have := List.length_pos_iff.2 hw
        omega⟩)
  word? ['n', 'u', 'l', 'l'] (by simp) null <|>
    word? ['t', 'r', 'u', 'e'] (by simp) (bool true) <|>
    word? ['f', 'a', 'l', 's', 'e'] (by simp) (bool false)

/-- The text after white space and a given character. -/
def expect (x : Char) (s : List Char) : Option (Rest s) :=
  match h : skipSpace s with
  | [] => none
  | c :: r =>
    if c = x then
      some ⟨r, by have := length_skipSpace s; rw [h, List.length_cons] at this; omega⟩
    else none

mutual

/-- A value after white space, with room for `depth` containers within one another. -/
def readValue (depth : Nat) (s : List Char) : Option (Json × Rest s) :=
  match h : skipSpace s with
  | [] => none
  | c :: r =>
    have hr : r.length < s.length := by
      have := length_skipSpace s
      rw [h, List.length_cons] at this
      omega
    have hw : r.length ≤ s.length := Nat.le_of_lt hr
    have hs : (skipSpace s).length ≤ s.length := length_skipSpace s
    if c = '"' then (readString r).map fun x ↦ (string x.1, x.2.widen hw)
    else if c = '[' then
      match depth with
      | 0 => none
      | depth + 1 =>
        match expect ']' r with
        | some r' => some (array [], r'.widen hw)
        | none => (readItems depth r).map fun x ↦ (array x.1, x.2.widen hw)
    else if c = '\x7b' then
      match depth with
      | 0 => none
      | depth + 1 =>
        match expect '\x7d' r with
        | some r' => some (object [], r'.widen hw)
        | none => (readMembers depth r).map fun x ↦ (ofMembers x.1, x.2.widen hw)
    else if c = '-' ∨ c.isDigit then
      (readNumber (skipSpace s)).map fun x ↦ (x.1, x.2.widen hs)
    else (readWord (skipSpace s)).map fun x ↦ (x.1, x.2.widen hs)
termination_by 2 * s.length

/-- The items of an array, at least one, and the closing bracket. -/
def readItems (depth : Nat) (s : List Char) : Option (List Json × Rest s) :=
  match readValue depth s with
  | none => none
  | some (v, r) =>
    have := r.property
    match expect ',' r.val with
    | some r' =>
      have := r'.property
      (readItems depth r'.val).map fun x ↦ (v :: x.1, x.2.widen (by omega))
    | none => (expect ']' r.val).map fun r' ↦ ([v], r'.widen (by omega))
termination_by 2 * s.length + 1

/-- The members of an object, at least one, and the closing brace. -/
def readMembers (depth : Nat) (s : List Char) : Option (List (String × Json) × Rest s) :=
  match expect '"' s with
  | none => none
  | some r =>
    have := r.property
    match readString r.val with
    | none => none
    | some (key, r') =>
      have := r'.property
      match expect ':' r'.val with
      | none => none
      | some r₀ =>
        have := r₀.property
        match readValue depth r₀.val with
        | none => none
        | some (v, r₁) =>
          have := r₁.property
          match expect ',' r₁.val with
          | some r₂ =>
            have := r₂.property
            (readMembers depth r₂.val).map fun x ↦ ((key, v) :: x.1, x.2.widen (by omega))
          | none => (expect '\x7d' r₁.val).map fun r₂ ↦ ([(key, v)], r₂.widen (by omega))
termination_by 2 * s.length + 1

end

/-- The value that a text holds, with room for `depth` containers within one another; nothing
but white space may follow it. -/
def readWithin? (depth : Nat) (text : String) : Option Json :=
  match readValue depth text.toList with
  | some (v, r) => if skipSpace r.val = [] then some v else none
  | none => none

/-- The value that a text holds. -/
def read? (text : String) : Option Json := readWithin? maxDepth text

end Json

end HostWatch
