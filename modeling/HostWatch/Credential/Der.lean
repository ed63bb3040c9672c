import HostWatch.Credential.Bytes
/-!
# Values in their one written form

Certificates and keys are made of values, and each value has one form in bytes only: a mark that
says what it is, the length of its content in as few bytes as can hold it, and the content, which
may be made of values in turn.
-/

namespace HostWatch

/-- A value. -/
structure Der where
  /-- What it is. -/
  mark : UInt8
  /-- What it holds. -/
  content : List UInt8
  deriving DecidableEq, Repr

namespace Der

/-! ## Marks -/

namespace Mark

/-- The mark of truth values. -/
def boolean : UInt8 := 0x01

/-- The mark of numbers. -/
def integer : UInt8 := 0x02

/-- The mark of bits. -/
def bits : UInt8 := 0x03

/-- The mark of bytes. -/
def octets : UInt8 := 0x04

/-- The mark of the value that holds nothing. -/
def null : UInt8 := 0x05

/-- The mark of names. -/
def identifier : UInt8 := 0x06

/-- The mark of sequences. -/
def sequence : UInt8 := 0x30

/-- The mark of bytes that are a numbered part. -/
def part (n : UInt8) : UInt8 := 0x80 + n

/-- The mark of values that are a numbered part. -/
def group (n : UInt8) : UInt8 := 0xa0 + n

end Mark

/-! ## Writing -/

/-- A length in bytes: a length below 128 is one byte, and a longer one comes after the number of
its bytes. -/
def encodeLength (n : Nat) : List UInt8 :=
  if n < 128 then [UInt8.ofNat n]
  else
    let bs := Bytes.ofNumber n
    UInt8.ofNat (128 + bs.length) :: bs

/-- A value in bytes. -/
def encode (mark : UInt8) (content : List UInt8) : List UInt8 :=
  mark :: (encodeLength content.length ++ content)

/-- A number in bytes: a first byte from 128 on would be a sign. -/
def encodeNumber (n : Nat) : List UInt8 :=
  match Bytes.ofNumber n with
  | [] => encode Mark.integer [0]
  | first :: rest => encode Mark.integer (if first < 128 then first :: rest else 0 :: first :: rest)

/-! ## Reading -/

/-- The length at the start of bytes, which has its one written form, and the bytes after it. -/
def readLength? : List UInt8 → Option (Nat × List UInt8)
  | [] => none
  | size :: rest =>
    if size < 128 then some (size.toNat, rest)
    else
      let digits := rest.take (size.toNat - 128)
      if digits.length ≤ 4 ∧ encodeLength (Bytes.value digits) = size :: digits then
        some (Bytes.value digits, rest.drop (size.toNat - 128))
      else none

/-- The value at the start of bytes, and the bytes after it. -/
def read? : List UInt8 → Option (Der × List UInt8)
  | [] => none
  | mark :: rest =>
    match readLength? rest with
    | some (length, rest) =>
      if length ≤ rest.length then some (⟨mark, rest.take length⟩, rest.drop length) else none
    | none => none

theorem length_lt_of_readLength? {bs : List UInt8} {n : Nat} {rest : List UInt8}
    (h : readLength? bs = some (n, rest)) : rest.length < bs.length := by
  cases bs with
  | nil => simp [readLength?] at h
  | cons size bs =>
    simp only [readLength?] at h
    split at h
    · simp only [Option.some.injEq, Prod.mk.injEq] at h
      simp [← h.2]
    · split at h
      · simp only [Option.some.injEq, Prod.mk.injEq] at h
        simp only [← h.2, List.length_drop, List.length_cons]
        omega
      · simp at h

theorem length_lt_of_read? {bs : List UInt8} {v : Der} {rest : List UInt8}
    (h : read? bs = some (v, rest)) : rest.length < bs.length := by
  cases bs with
  | nil => simp [read?] at h
  | cons mark bs =>
    simp only [read?] at h
    split at h
    · rename_i n after hl
      have := length_lt_of_readLength? hl
      split at h
      · simp only [Option.some.injEq, Prod.mk.injEq] at h
        simp only [← h.2, List.length_drop, List.length_cons]
        omega
      · simp at h
    · simp at h

/-- The values that bytes are made of. -/
def readAll? (bs : List UInt8) : Option (List Der) :=
  if bs = [] then some []
  else match _h : read? bs with
    | some (v, rest) => (readAll? rest).map (v :: ·)
    | none => none
termination_by bs.length
decreasing_by exact length_lt_of_read? _h

/-- Takes values from the start of bytes. -/
abbrev Reader := StateT (List UInt8) Option

/-- Take the content of the next value, which has the mark. -/
def next (mark : UInt8) : Reader (List UInt8) := fun bs ↦
  match read? bs with
  | some (v, rest) => if v.mark = mark then some (v.content, rest) else none
  | none => none

/-- The mark stands next. -/
def standsNext (mark : UInt8) : Reader Bool := fun bs ↦ some (bs.head? = some mark, bs)

/-- Take the content of the next value if it has the mark. -/
def next? (mark : UInt8) : Reader (Option (List UInt8)) := do
  if ← standsNext mark then return some (← next mark) else return none

/-- Take a number, which is not negative and has its one written form. -/
def nextNumber : Reader Nat := do
  let content ← next Mark.integer
  let n := Bytes.value content
  guard (encodeNumber n = encode Mark.integer content)
  return n

/-- What a reader takes from bytes, nothing being left of them. -/
def whole? {α : Type} (r : Reader α) (bs : List UInt8) : Option α :=
  match r bs with
  | some (a, []) => some a
  | _ => none

/-- What a reader takes from the start of bytes. -/
def start? {α : Type} (r : Reader α) (bs : List UInt8) : Option α := (r bs).map (·.1)

/-- Take a value with the mark, a reader taking all of its content. -/
def within {α : Type} (mark : UInt8) (r : Reader α) : Reader α := do
  StateT.lift (whole? r (← next mark))

end Der

end HostWatch
