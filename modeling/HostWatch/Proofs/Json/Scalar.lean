import HostWatch.Json.Printer
import HostWatch.Json.Reader
import HostWatch.Proofs.Text.Number
import Mathlib.Data.List.TakeWhile
/-!
# Scalars that are read back

A string and an integer are read back from their texts, whatever follows; after a number only no
character may stand that the number could go on with.
-/

namespace HostWatch

/-! ## Numbers -/

theorem digitChar_eq_zero : ∀ n : Fin 10, n.val.digitChar = '0' → n.val = 0 := by decide

/-- Only zero is written with a zero first. -/
theorem decimalDigits_ne_zero_cons {n : Nat} (h : n ≠ 0) (ds : List Char) :
    decimalDigits n ≠ '0' :: ds := by
  induction n using Nat.strongRecOn generalizing ds with
  | ind n ih =>
      intro heq
      rw [decimalDigits, Nat.toDigits_eq_if (by decide)] at heq
      split at heq
      case isTrue hlt => exact h (digitChar_eq_zero ⟨n, hlt⟩ (List.cons.inj heq).1)
      case isFalse hge =>
        cases hfront : Nat.toDigits 10 (n / 10) with
        | nil => exact Nat.toDigits_ne_nil hfront
        | cons d front =>
            rw [hfront] at heq
            obtain ⟨rfl, -⟩ := List.cons.inj heq
            exact ih (n / 10) (by omega) (by omega) front hfront

/-- No character that a number may go on with stands first. -/
def EndsNumber (r : List Char) : Prop :=
  ∀ c ∈ r.head?, c.isDigit = false ∧ c ∉ ['.', 'e', 'E', '+', '-']

theorem endsNumber_nil : EndsNumber [] := by simp [EndsNumber]

theorem endsNumber_cons {c : Char} (h : c.isDigit = false ∧ c ∉ ['.', 'e', 'E', '+', '-'])
    (r : List Char) : EndsNumber (c :: r) := by simpa [EndsNumber] using h

namespace NumberParts

variable {r : List Char}

section

variable (hr : EndsNumber r)

include hr

theorem takeWhile_isDigit_append (s : List Char) :
    (s ++ r).takeWhile Char.isDigit = s.takeWhile Char.isDigit := by
  induction s with
  | nil =>
      cases r with
      | nil => rfl
      | cons c r => exact List.takeWhile_cons_of_neg (by simp [(hr c rfl).1])
  | cons c s ih => rw [List.cons_append, List.takeWhile_cons, List.takeWhile_cons, ih]

theorem dropWhile_isDigit_append (s : List Char) :
    (s ++ r).dropWhile Char.isDigit = s.dropWhile Char.isDigit ++ r := by
  induction s with
  | nil =>
      cases r with
      | nil => rfl
      | cons c r => exact List.dropWhile_cons_of_neg (by simp [(hr c rfl).1])
  | cons c s ih =>
      rw [List.cons_append, List.dropWhile_cons, List.dropWhile_cons, ih]
      split <;> rfl

theorem scanWhole_append (s : List Char) :
    scanWhole (s ++ r) = (scanWhole s).map fun x ↦ (x.1, x.2 ++ r) := by
  unfold scanWhole
  rw [takeWhile_isDigit_append hr, dropWhile_isDigit_append hr]
  split <;> rfl

theorem scanFraction_append (s : List Char) :
    scanFraction (s ++ r) = (scanFraction s).map fun x ↦ (x.1, x.2 ++ r) := by
  cases s with
  | nil =>
      cases r with
      | nil => rfl
      | cons c r =>
          have hpoint : c ≠ '.' := by
            rintro rfl
            exact (hr '.' rfl).2 (by decide)
          rw [List.nil_append, scanFraction]
          · rfl
          · rintro s h
            exact hpoint (List.cons.inj h).1
  | cons c s =>
      by_cases hpoint : c = '.'
      · subst hpoint
        rw [List.cons_append, scanFraction, scanFraction, takeWhile_isDigit_append hr,
          dropWhile_isDigit_append hr]
        split <;> rfl
      · rw [List.cons_append, scanFraction, scanFraction]
        · rfl
        · rintro s h
          exact hpoint (List.cons.inj h).1
        · rintro s h
          exact hpoint (List.cons.inj h).1

theorem takeSign_append (s : List Char) :
    takeSign (s ++ r) = ((takeSign s).1, (takeSign s).2 ++ r) := by
  cases s with
  | nil =>
      cases r with
      | nil => rfl
      | cons c r =>
          have hsigns := (hr c rfl).2
          rw [List.nil_append, takeSign]
          · rfl
          · rintro s h
            obtain ⟨rfl, -⟩ := List.cons.inj h
            exact hsigns (by decide)
          · rintro s h
            obtain ⟨rfl, -⟩ := List.cons.inj h
            exact hsigns (by decide)
  | cons c s =>
      unfold takeSign
      split <;> simp_all

theorem scanExponent_append (s : List Char) :
    scanExponent (s ++ r) = (scanExponent s).map fun x ↦ (x.1, x.2 ++ r) := by
  cases s with
  | nil =>
      cases r with
      | nil => rfl
      | cons c r =>
          have hnone : ¬(c = 'e' ∨ c = 'E') := by
            rintro (rfl | rfl) <;> exact (hr _ rfl).2 (by decide)
          change scanExponent (c :: r) = some (none, c :: r)
          rw [scanExponent, if_neg hnone]
  | cons c s =>
      rw [List.cons_append, scanExponent, scanExponent, takeSign_append hr]
      dsimp only
      rw [takeWhile_isDigit_append hr, dropWhile_isDigit_append hr]
      split
      · split <;> rfl
      · rfl

theorem scanUnsigned_append (negative : Bool) (s : List Char) :
    scanUnsigned negative (s ++ r) = (scanUnsigned negative s).map fun x ↦ (x.1, x.2 ++ r) := by
  unfold scanUnsigned
  rw [scanWhole_append hr]
  cases scanWhole s with
  | none => rfl
  | some x =>
      simp only [Option.map_some, Option.bind_eq_bind, Option.bind_some]
      rw [scanFraction_append hr]
      cases scanFraction x.2 with
      | none => rfl
      | some y =>
          simp only [Option.map_some, Option.bind_some]
          rw [scanExponent_append hr]
          cases scanExponent y.2 <;> rfl

/-- What follows a number is left. -/
theorem scan_append {s : List Char} {p : NumberParts} (h : scan s = some (p, [])) :
    scan (s ++ r) = some (p, r) := by
  unfold scan at h ⊢
  split at h
  case h_1 s =>
    change scanUnsigned true (s ++ r) = some (p, r)
    rw [scanUnsigned_append hr, h]
    rfl
  case h_2 hminus =>
    cases s with
    | nil => cases h
    | cons c s =>
        split
        case h_1 heq =>
          obtain ⟨rfl, -⟩ := List.cons.inj heq
          exact absurd rfl (hminus s)
        case h_2 => rw [scanUnsigned_append hr, h]; rfl

end

/-- Digits are scanned whole. -/
theorem scanUnsigned_decimalDigits (negative : Bool) (n : Nat) :
    scanUnsigned negative (decimalDigits n) =
      some (⟨negative, decimalDigits n, [], none⟩, []) := by
  have hall : ∀ c ∈ decimalDigits n, c.isDigit = true := fun c hc ↦ isDigit_of_mem_decimalDigits hc
  have hwhole : scanWhole (decimalDigits n) = some (decimalDigits n, []) := by
    unfold scanWhole
    rw [List.takeWhile_eq_self_iff.mpr hall, List.dropWhile_eq_nil_iff.mpr hall]
    split
    case h_1 h => exact absurd h Nat.toDigits_ne_nil
    case h_2 c cs h =>
      by_cases hn : n = 0
      · subst hn
        cases h
      · exact absurd h (decimalDigits_ne_zero_cons hn _)
    case h_3 => rfl
  rw [scanUnsigned, hwhole]
  rfl

/-- A text is a number to its end, and this is its value. -/
def Spells (text : List Char) (v : Json) : Prop :=
  ∃ p, scan text = some (p, []) ∧ p.value? = some v

/-- An integer is read back. -/
theorem spells_integerText (n : WideInt) : Spells (Json.integerText n.val) (.integer n) := by
  refine ⟨⟨decide (n.val < 0), decimalDigits n.val.natAbs, [], none⟩, ?_, ?_⟩
  · unfold Json.integerText
    by_cases hneg : n.val < 0
    · rw [decide_eq_true hneg, signText, if_pos rfl]
      exact scanUnsigned_decimalDigits true _
    · rw [decide_eq_false hneg, signText, if_neg Bool.false_ne_true, List.nil_append, scan]
      · exact scanUnsigned_decimalDigits false _
      · intro s h
        have hdigit : Char.isDigit '-' = true :=
          isDigit_of_mem_decimalDigits (n := n.val.natAbs) (by rw [h]; exact List.mem_cons_self)
        exact absurd hdigit (by decide)
  · have hval : ∀ m : Int, m = n.val → WideInt.ofInt? m = some n := by
      rintro m rfl
      rw [WideInt.ofInt?, dif_pos ⟨n.ge, n.lt⟩]
    unfold value?
    dsimp only
    rw [digitsValue_decimalDigits]
    by_cases hneg : n.val < 0
    · rw [decide_eq_true hneg, if_pos rfl, if_neg (by omega), hval _ (by omega)]
    · rw [decide_eq_false hneg, if_neg Bool.false_ne_true, hval _ (by omega)]

end NumberParts

namespace Json

/-! ## Strings -/

theorem readChars_escape {e x : Char} (h : escape? e = some x) (s : List Char) :
    readChars ('\\' :: e :: s) = (readChars s).map fun r ↦ (x :: r.1, r.2) := by
  rw [readChars.eq_def]
  split
  case h_5 heq =>
    simp only [List.cons.injEq, true_and] at heq
    obtain ⟨rfl, rfl⟩ := heq
    rw [h]
  case h_6 hnone heq =>
    obtain ⟨rfl, rfl⟩ := List.cons.inj heq
    exact absurd rfl (hnone e s rfl)
  all_goals simp_all [escape?]

theorem readChars_unit {a b c d x : Char} {n : Nat} (hn : hexWord? a b c d = some n)
    (hx : unitChar? n none = some x) (s : List Char) :
    readChars ('\\' :: 'u' :: a :: b :: c :: d :: s) =
      (readChars s).map fun r ↦ (x :: r.1, r.2) := by
  rw [readChars.eq_def]
  split
  case h_5 hnone heq =>
    simp only [List.cons.injEq, true_and] at heq
    obtain ⟨rfl, rfl⟩ := heq
    exact absurd rfl (hnone a b c d s rfl)
  case h_6 hnone heq =>
    obtain ⟨rfl, rfl⟩ := List.cons.inj heq
    exact absurd rfl (hnone _ _ rfl)
  all_goals simp_all

theorem readChars_plain {c : Char} (hquote : c ≠ '"') (hslash : c ≠ '\\') (hc : 32 ≤ c.toNat)
    (s : List Char) : readChars (c :: s) = (readChars s).map fun r ↦ (c :: r.1, r.2) := by
  rw [readChars.eq_def]
  split
  case h_6 heq =>
    obtain ⟨rfl, rfl⟩ := List.cons.inj heq
    rw [if_neg]
    rintro (h | h)
    · exact hslash h
    · omega
  all_goals simp_all

/-- The code point of a control character is read back. -/
theorem hexWord?_toDigits : ∀ n : Fin 32,
    (if n.val < 16 then ['0'] else []) ++ Nat.toDigits 16 n.val =
        [(n.val / 16).digitChar, (n.val % 16).digitChar] ∧
      hexWord? '0' '0' (n.val / 16).digitChar (n.val % 16).digitChar = some n.val ∧
      unitChar? n.val none = some (Char.ofNat n.val) := by
  decide

/-- A character is read back from the way it is written. -/
theorem readChars_stringChar (c : Char) (s : List Char) :
    readChars (stringChar c ++ s) = (readChars s).map fun r ↦ (c :: r.1, r.2) := by
  unfold stringChar
  split
  case isTrue h => rcases h with rfl | rfl <;> exact readChars_escape rfl s
  case isFalse h =>
    obtain ⟨hquote, hslash⟩ := not_or.mp h
    iterate 5
      split
      case isTrue h =>
        subst h
        exact readChars_escape rfl s
    split
    case isTrue hc =>
      obtain ⟨hdigits, hn, hx⟩ := hexWord?_toDigits ⟨c.toNat, hc⟩
      rw [Char.ofNat_toNat] at hx
      rw [List.append_assoc ['\\', 'u', '0', '0'], hdigits]
      exact readChars_unit hn hx s
    case isFalse hc => exact readChars_plain hquote hslash (Nat.le_of_not_lt hc) s

theorem readChars_flatMap_stringChar (cs r : List Char) :
    readChars (cs.flatMap stringChar ++ '"' :: r) = some (cs, r) := by
  induction cs with
  | nil => rw [List.flatMap_nil, List.nil_append, readChars]
  | cons c cs ih =>
      rw [List.flatMap_cons, List.append_assoc, readChars_stringChar, ih]
      rfl

end Json

end HostWatch
