import HostWatch.Proofs.Numeric.Decimal
import HostWatch.Proofs.Text.Number
import Mathlib.Data.Bool.AllAny
import Mathlib.Data.List.TakeWhile
/-!
# Decimals that are read and written

The texts that are read as a finite number are the decimals of a small grammar: a sign, digits with
or without a point among or around them, and a power of ten.  Their value is the exact decimal,
rounded once.  Both ways to write a number give such a text.
-/

namespace HostWatch

/-! ## The grammar -/

/-- A sign that need not be there, and whether it is a minus. -/
inductive WritesSign : List Char → Bool → Prop
  | none : WritesSign [] false
  | plus : WritesSign ['+'] false
  | minus : WritesSign ['-'] true

/-- A point that need not be there, and the digits after it. -/
inductive WritesFraction : List Char → List Char → Prop
  | none : WritesFraction [] []
  | point {fraction : List Char} (h : fraction.all Char.isDigit = true) :
      WritesFraction ('.' :: fraction) fraction

/-- A power of ten that need not be there: a letter, a sign and digits. -/
inductive WritesExponent : List Char → Int → Prop
  | none : WritesExponent [] 0
  | power {letter : Char} {sign digits : List Char} {negative : Bool}
      (hletter : letter = 'e' ∨ letter = 'E') (hsign : WritesSign sign negative)
      (hne : digits ≠ []) (hdigits : digits.all Char.isDigit = true) :
      WritesExponent (letter :: (sign ++ digits))
        (if negative then -(digitsValue 0 digits : Int) else digitsValue 0 digits)

/-- An unsigned decimal, as its digits and a power of ten. -/
inductive WritesMagnitude : List Char → Decimal → Prop
  | mk {whole point fraction power : List Char} {exponent : Int}
      (hwhole : whole.all Char.isDigit = true) (hfraction : WritesFraction point fraction)
      (hne : ¬ (whole = [] ∧ fraction = [])) (hpower : WritesExponent power exponent) :
      WritesMagnitude (whole ++ (point ++ power))
        ⟨digitsValue 0 (whole ++ fraction), exponent - fraction.length⟩

/-- A decimal, and the number nearest to it. -/
inductive WritesDecimal : List Char → Binary64 → Prop
  | mk {sign magnitude : List Char} {negative : Bool} {d : Decimal}
      (hsign : WritesSign sign negative) (hmagnitude : WritesMagnitude magnitude d) :
      WritesDecimal (sign ++ magnitude) (.ofRank negative d.rank)

variable {s t : List Char}

/-! ## Reading -/

/-- Digits are taken up to the first character that is none. -/
theorem takeWhile_digits_append (hs : s.all Char.isDigit = true)
    (ht : ∀ c ∈ t.head?, c.isDigit = false) :
    (s ++ t).takeWhile Char.isDigit = s ∧ (s ++ t).dropWhile Char.isDigit = t := by
  have hall : ∀ c ∈ s, c.isDigit = true := List.all_eq_true.mp hs
  rw [List.takeWhile_append_of_pos hall, List.dropWhile_append_of_pos hall]
  cases t with
  | nil => simp
  | cons c t =>
      have hc : c.isDigit = false := ht c rfl
      simp [hc]

theorem all_takeWhile_isDigit (s : List Char) :
    (s.takeWhile Char.isDigit).all Char.isDigit = true :=
  List.all_eq_true.mpr fun _ hc ↦ List.mem_takeWhile_imp hc

/-- A sign is taken where one stands. -/
theorem takeSign_append {negative : Bool} (hs : WritesSign s negative)
    (ht : ∀ c ∈ t.head?, c ≠ '+' ∧ c ≠ '-') : takeSign (s ++ t) = (negative, t) := by
  cases hs with
  | plus => rfl
  | minus => rfl
  | none =>
      rw [List.nil_append, takeSign]
      · rintro t rfl
        exact (ht '+' rfl).1 rfl
      · rintro t rfl
        exact (ht '-' rfl).2 rfl

theorem exists_sign (s : List Char) :
    ∃ sign, s = sign ++ (takeSign s).2 ∧ WritesSign sign (takeSign s).1 := by
  unfold takeSign
  split
  · exact ⟨['+'], rfl, .plus⟩
  · exact ⟨['-'], rfl, .minus⟩
  · exact ⟨[], rfl, .none⟩

theorem ne_sign_of_isDigit {c : Char} (h : c.isDigit = true) : c ≠ '+' ∧ c ≠ '-' := by
  constructor <;> rintro rfl <;> exact absurd h (by decide)

theorem ne_sign_of_digits (hs : s.all Char.isDigit = true) :
    ∀ c ∈ s.head?, c ≠ '+' ∧ c ≠ '-' := fun c hc ↦
  ne_sign_of_isDigit (List.all_eq_true.mp hs c (List.mem_of_mem_head? hc))

theorem readExponent?_eq_some_iff {e : Int} : readExponent? s = some e ↔ WritesExponent s e := by
  constructor
  · intro h
    cases s with
    | nil =>
        obtain rfl := Option.some.inj h
        exact .none
    | cons c s =>
        obtain ⟨sign, hs, hsign⟩ := exists_sign s
        rw [readExponent?] at h
        dsimp only at h
        generalize takeSign s = r at h hs hsign
        split_ifs at h with hletter hdigits hnegative
        · obtain rfl := Option.some.inj h
          have hwrites := WritesExponent.power hletter hsign hdigits.1 hdigits.2
          rwa [if_pos hnegative, ← hs] at hwrites
        · obtain rfl := Option.some.inj h
          have hwrites := WritesExponent.power hletter hsign hdigits.1 hdigits.2
          rwa [if_neg hnegative, ← hs] at hwrites
  · intro h
    cases h with
    | none => rfl
    | power hletter hsign hne hdigits =>
        rw [readExponent?, if_pos hletter, takeSign_append hsign (ne_sign_of_digits hdigits)]
        exact if_pos ⟨hne, hdigits⟩

/-- No digit stands first in a power of ten. -/
theorem WritesExponent.head {e : Int} (h : WritesExponent s e) :
    ∀ c ∈ s.head?, c.isDigit = false ∧ c ≠ '.' := by
  cases h with
  | none => simp
  | power hletter hsign hne hdigits =>
      rintro c hc
      obtain rfl := Option.some.inj hc
      rcases hletter with rfl | rfl <;> decide

theorem takeFraction_append {fraction : List Char} (hs : WritesFraction s fraction)
    (ht : ∀ c ∈ t.head?, c.isDigit = false ∧ c ≠ '.') :
    takeFraction (s ++ t) = (fraction, t) := by
  cases hs with
  | none =>
      rw [List.nil_append, takeFraction]
      rintro t rfl
      exact (ht '.' rfl).2 rfl
  | point h =>
      obtain ⟨htake, hdrop⟩ := takeWhile_digits_append h fun c hc ↦ (ht c hc).1
      rw [List.cons_append, takeFraction, htake, hdrop]

theorem exists_fraction (s : List Char) :
    ∃ point, s = point ++ (takeFraction s).2 ∧ WritesFraction point (takeFraction s).1 := by
  unfold takeFraction
  split
  case h_1 s =>
    refine ⟨'.' :: s.takeWhile Char.isDigit, ?_, .point (all_takeWhile_isDigit s)⟩
    rw [List.cons_append, List.takeWhile_append_dropWhile]
  case h_2 => exact ⟨[], rfl, .none⟩

/-- A decimal is what is read before any special value. -/
theorem readMagnitude?_eq_some_iff {negative : Bool} {x : Binary64} :
    readMagnitude? negative s = some x ↔
      ∃ d, WritesMagnitude s d ∧ x = .ofRank negative d.rank := by
  constructor
  · intro h
    obtain ⟨point, hpoint, hfraction⟩ := exists_fraction (s.dropWhile Char.isDigit)
    unfold readMagnitude? at h
    dsimp only at h
    generalize takeFraction (s.dropWhile Char.isDigit) = r at h hpoint hfraction
    split_ifs at h with hne
    rw [Option.map_eq_some_iff] at h
    obtain ⟨e, he, rfl⟩ := h
    have hwrites := WritesMagnitude.mk (all_takeWhile_isDigit s) hfraction hne
      (readExponent?_eq_some_iff.mp he)
    rw [← hpoint, List.takeWhile_append_dropWhile] at hwrites
    exact ⟨_, hwrites, Binary64.ofDecimal_eq _ _ _⟩
  · rintro ⟨_, ⟨hwhole, hfraction, hne, hpower⟩, rfl⟩
    rename_i whole point fraction power e
    have hhead : ∀ c ∈ (point ++ power).head?, c.isDigit = false := by
      cases hfraction with
      | none => exact fun c hc ↦ (hpower.head c hc).1
      | point h =>
          rintro c hc
          obtain rfl := Option.some.inj hc
          decide
    obtain ⟨htake, hdrop⟩ := takeWhile_digits_append hwhole hhead
    unfold readMagnitude?
    rw [htake, hdrop, takeFraction_append hfraction hpower.head]
    dsimp only
    rw [if_neg hne, readExponent?_eq_some_iff.mpr hpower, Option.map_some, Binary64.ofDecimal_eq]

/-- A decimal begins with a digit or a point. -/
theorem WritesMagnitude.head {d : Decimal} (h : WritesMagnitude s d) :
    ∀ c ∈ s.head?, c ≠ '+' ∧ c ≠ '-' := by
  obtain ⟨hwhole, hfraction, hne, hpower⟩ := h
  rename_i whole point fraction power e
  cases whole with
  | cons c whole =>
      rintro _ hc
      obtain rfl := Option.some.inj hc
      exact ne_sign_of_digits hwhole c rfl
  | nil =>
      cases hfraction with
      | none => exact absurd ⟨rfl, rfl⟩ hne
      | point h =>
          rintro _ hc
          obtain rfl := Option.some.inj hc
          decide

/-- Special values are not finite. -/
theorem isFinite_of_readSpecial? {negative : Bool} {x : Binary64}
    (h : readSpecial? negative s = some x) : x.isFinite = false := by
  unfold readSpecial? at h
  dsimp only at h
  split_ifs at h <;> obtain rfl := Option.some.inj h <;> rfl

/-- The texts that are read as finite numbers are decimals. -/
theorem readFloat?_eq_some_iff {x : Binary64} (hx : x.isFinite = true) :
    readFloat? s = some x ↔ WritesDecimal s x := by
  constructor
  · intro h
    obtain ⟨sign, hs, hsign⟩ := exists_sign s
    unfold readFloat? at h
    dsimp only at h
    generalize takeSign s = r at h hs hsign
    split at h
    case h_1 hread =>
      obtain rfl := Option.some.inj h
      obtain ⟨d, hd, rfl⟩ := readMagnitude?_eq_some_iff.mp hread
      rw [hs]
      exact .mk hsign hd
    case h_2 =>
      rw [isFinite_of_readSpecial? h] at hx
      cases hx
  · rintro ⟨hsign, hmagnitude⟩
    unfold readFloat?
    rw [takeSign_append hsign hmagnitude.head]
    dsimp only
    rw [readMagnitude?_eq_some_iff.mpr ⟨_, hmagnitude, rfl⟩]

/-! ## Characters -/

theorem toNat_lt_of_digits (hs : s.all Char.isDigit = true) : ∀ c ∈ s, c.toNat < 128 := by
  intro c hc
  have hdigit := List.all_eq_true.mp hs c hc
  simp only [Char.isDigit, Bool.and_eq_true, decide_eq_true_eq, UInt32.le_iff_toNat_le] at hdigit
  have : c.toNat ≤ '9'.toNat := hdigit.2
  exact this.trans_lt (by decide)

/-- The characters of numbers without an exponent. -/
def numeralChars : List Char := "0123456789.-".toList

/-- The characters of numbers. -/
def decimalChars : List Char := numeralChars ++ ['+', 'e', 'E']

theorem mem_numeralChars_of_isDigit {c : Char} (h : c.isDigit = true) : c ∈ numeralChars := by
  have hascii : ∀ n : Fin 128,
      (Char.ofNat n.val).isDigit = true → Char.ofNat n.val ∈ numeralChars := by decide
  have hlt := toNat_lt_of_digits (s := [c]) (by simpa using h) c (List.mem_singleton_self c)
  simpa [Char.ofNat_toNat, h] using hascii ⟨c.toNat, hlt⟩

theorem mem_decimalChars_of_digits (hs : s.all Char.isDigit = true) : ∀ c ∈ s, c ∈ decimalChars :=
  fun c hc ↦
    List.mem_append_left _ (mem_numeralChars_of_isDigit (List.all_eq_true.mp hs c hc))

theorem WritesSign.mem_decimalChars {negative : Bool} (h : WritesSign s negative) :
    ∀ c ∈ s, c ∈ decimalChars := by
  cases h <;> exact List.all_iff_forall_prop.mp (by decide)

/-- A decimal has no characters but those of numbers. -/
theorem WritesDecimal.mem_decimalChars {x : Binary64} (h : WritesDecimal s x) :
    ∀ c ∈ s, c ∈ decimalChars := by
  obtain ⟨hsign, hwhole, hfraction, -, hpower⟩ := h
  simp only [List.forall_mem_append]
  refine ⟨hsign.mem_decimalChars, mem_decimalChars_of_digits hwhole, ?_, ?_⟩
  · cases hfraction with
    | none => simp
    | point h => exact List.forall_mem_cons.mpr ⟨by decide, mem_decimalChars_of_digits h⟩
  · cases hpower with
    | none => simp
    | power hletter hsign hne hdigits =>
        simp only [List.forall_mem_cons, List.forall_mem_append]
        refine ⟨?_, hsign.mem_decimalChars, mem_decimalChars_of_digits hdigits⟩
        rcases hletter with rfl | rfl <;> decide

/-- A decimal is in ASCII. -/
theorem WritesDecimal.toNat_lt {x : Binary64} (h : WritesDecimal s x) : ∀ c ∈ s, c.toNat < 128 := by
  have hascii : ∀ c ∈ decimalChars, c.toNat < 128 := List.all_iff_forall_prop.mp (by decide)
  intro c hc
  exact hascii c (h.mem_decimalChars c hc)

/-! ## Writing -/

theorem writesSign_signText (negative : Bool) : WritesSign (signText negative) negative := by
  cases negative with
  | false => exact .none
  | true => exact .minus

theorem all_isDigit_decimalDigits (n : Nat) : (decimalDigits n).all Char.isDigit = true :=
  List.all_eq_true.mpr fun _ hc ↦ isDigit_of_mem_decimalDigits hc

theorem all_isDigit_zeros (n : Nat) : (zeros n).all Char.isDigit = true := by
  simp [zeros]

theorem digitsValue_append (n : Nat) (s t : List Char) :
    digitsValue n (s ++ t) = digitsValue (digitsValue n s) t := List.foldl_append

/-- Zeros in front do not matter. -/
theorem digitsValue_zeros_append (n : Nat) (s : List Char) :
    digitsValue 0 (zeros n ++ s) = digitsValue 0 s := by
  induction n with
  | zero => rfl
  | succ n ih => exact ih

/-- Zeros behind are powers of ten. -/
theorem digitsValue_append_zeros (n k : Nat) (s : List Char) :
    digitsValue n (s ++ zeros k) = digitsValue n s * 10 ^ k := by
  rw [digitsValue_append]
  generalize digitsValue n s = m
  induction k generalizing m with
  | zero => simp [zeros, digitsValue]
  | succ k ih =>
      change digitsValue (m * 10 + 0) (zeros k) = _
      rw [ih, Nat.pow_succ]
      ring

/-- Digits with a point set before the last ones write a decimal. -/
theorem writesMagnitude_placePoint (n places : Nat) :
    WritesMagnitude (placePoint (decimalDigits n) places) ⟨n, -(places : Int)⟩ := by
  have hpadded : (zeros (places + 1 - (decimalDigits n).length) ++ decimalDigits n).all
      Char.isDigit = true := by
    rw [List.all_append, all_isDigit_zeros, all_isDigit_decimalDigits, Bool.and_self]
  have hvalue : digitsValue 0 (zeros (places + 1 - (decimalDigits n).length) ++ decimalDigits n) =
      n := by
    rw [digitsValue_zeros_append, digitsValue_decimalDigits]
  have hlength : places <
      (zeros (places + 1 - (decimalDigits n).length) ++ decimalDigits n).length := by
    rw [List.length_append, zeros, List.length_replicate]
    omega
  unfold placePoint
  dsimp only
  generalize zeros (places + 1 - (decimalDigits n).length) ++ decimalDigits n = padded at *
  have hwhole : padded.take (padded.length - places) ≠ [] := by
    rw [← List.length_pos_iff, List.length_take]
    omega
  have hall : ∀ c ∈ padded, c.isDigit = true := List.all_eq_true.mp hpadded
  have htake : (padded.take (padded.length - places)).all Char.isDigit = true :=
    List.all_eq_true.mpr fun c hc ↦ hall c (List.mem_of_mem_take hc)
  have hdrop : (padded.drop (padded.length - places)).all Char.isDigit = true :=
    List.all_eq_true.mpr fun c hc ↦ hall c (List.mem_of_mem_drop hc)
  split_ifs with hplaces
  · subst hplaces
    have hwrites := WritesMagnitude.mk htake .none (fun h ↦ hwhole h.1) .none
    simpa [hvalue] using hwrites
  · have hwrites := WritesMagnitude.mk htake (.point hdrop) (fun h ↦ hwhole h.1) .none
    have hfraction : (padded.drop (padded.length - places)).length = places := by
      rw [List.length_drop]
      omega
    rw [List.take_append_drop, hvalue, hfraction, List.append_nil, Int.zero_sub] at hwrites
    exact hwrites

theorem mem_placePoint {digits : List Char} {places : Nat} {c : Char}
    (hdigits : digits.all Char.isDigit = true) (h : c ∈ placePoint digits places) :
    c ∈ numeralChars := by
  have hpadded : (zeros (places + 1 - digits.length) ++ digits).all Char.isDigit = true := by
    rw [List.all_append, all_isDigit_zeros, hdigits, Bool.and_self]
  unfold placePoint at h
  dsimp only at h
  generalize zeros (places + 1 - digits.length) ++ digits = padded at *
  have hall : ∀ c ∈ padded, c ∈ numeralChars := fun c hc ↦
    mem_numeralChars_of_isDigit (List.all_eq_true.mp hpadded c hc)
  split_ifs at h
  · exact hall c (List.mem_of_mem_take h)
  · rcases List.mem_append.mp h with h | h
    · exact hall c (List.mem_of_mem_take h)
    · rcases List.mem_cons.mp h with rfl | h
      · decide
      · exact hall c (List.mem_of_mem_drop h)

theorem mem_signText {negative : Bool} {c : Char} (h : c ∈ signText negative) :
    c ∈ numeralChars := by
  cases negative with
  | false => cases h
  | true =>
      obtain rfl := List.mem_singleton.mp h
      decide

theorem mem_fixed {places : Nat} {negative : Bool} {r : Fin infinityRank} {c : Char}
    (h : c ∈ (Binary64.fixed places (.finite negative r)).toList) : c ∈ numeralChars := by
  rw [Binary64.fixed, String.toList_ofList] at h
  exact (List.mem_append.mp h).elim mem_signText (mem_placePoint (all_isDigit_decimalDigits _))

theorem mem_plain {negative : Bool} {r : Fin infinityRank} {c : Char}
    (h : c ∈ (Binary64.plain (.finite negative r)).toList) : c ∈ numeralChars := by
  rw [Binary64.plain, String.toList_ofList] at h
  refine (List.mem_append.mp h).elim mem_signText fun h ↦ ?_
  unfold Decimal.positional at h
  split_ifs at h
  · obtain rfl := List.mem_singleton.mp h
    decide
  · rcases List.mem_append.mp h with h | h
    · exact mem_numeralChars_of_isDigit (isDigit_of_mem_decimalDigits h)
    · exact mem_numeralChars_of_isDigit (List.all_eq_true.mp (all_isDigit_zeros _) c h)
  · exact mem_placePoint (all_isDigit_decimalDigits _) h

/-- A decimal without an exponent writes its value. -/
theorem exists_writesMagnitude_positional (d : Decimal) :
    ∃ e, WritesMagnitude d.positional e ∧ e.rank = d.rank := by
  unfold Decimal.positional
  split_ifs with hexp hzero
  · have hwrites := writesMagnitude_placePoint 0 0
    refine ⟨_, hwrites, ?_⟩
    rw [Decimal.rank, Decimal.rank, if_pos hexp, if_pos (by simp), hzero]
    simp
  · have hdigits : (decimalDigits d.digits ++ zeros d.exponent.toNat).all Char.isDigit = true := by
      rw [List.all_append, all_isDigit_decimalDigits, all_isDigit_zeros, Bool.and_self]
    have hne : decimalDigits d.digits ++ zeros d.exponent.toNat ≠ [] := fun h ↦
      Nat.toDigits_ne_nil (List.append_eq_nil_iff.mp h).1
    have hwrites := WritesMagnitude.mk hdigits .none (fun h ↦ hne h.1) .none
    rw [List.append_nil, List.append_nil, digitsValue_append_zeros,
      digitsValue_decimalDigits] at hwrites
    refine ⟨_, hwrites, ?_⟩
    rw [Decimal.rank, Decimal.rank, if_pos hexp, if_pos (by simp)]
    simp [Nat.pow_eq]
  · refine ⟨_, writesMagnitude_placePoint _ _, ?_⟩
    have hneg : -(((-d.exponent).toNat : Nat) : Int) = d.exponent := by omega
    rw [hneg]

/-- A finite number with a fixed number of places writes the decimal that it is rounded to. -/
theorem writesDecimal_fixed (places : Nat) (negative : Bool) (r : Fin infinityRank) :
    WritesDecimal (Binary64.fixed places (.finite negative r)).toList
      (.ofRank negative (Decimal.rank
        ⟨roundHalfEven (scaled r.val * Nat.pow 10 places) unitsPerOne, -(places : Int)⟩)) := by
  rw [Binary64.fixed, String.toList_ofList]
  exact .mk (writesSign_signText negative) (writesMagnitude_placePoint _ _)

/-- The fewest digits of a finite number write it. -/
theorem writesDecimal_plain (negative : Bool) (r : Fin infinityRank) :
    WritesDecimal (Binary64.plain (.finite negative r)).toList (.finite negative r) := by
  obtain ⟨d, hwrites, hrank⟩ := exists_writesMagnitude_positional (shortestDecimal .up r.val)
  have hdecimal := WritesDecimal.mk (writesSign_signText negative) hwrites
  rw [hrank, rank_shortestDecimal, Binary64.ofRank_val] at hdecimal
  rw [Binary64.plain, String.toList_ofList]
  exact hdecimal

end HostWatch
