import HostWatch.Text.Number
/-!
# JSON values

Numbers without fraction or exponent that fit 64 bits, with or without sign, are integers; all
others are binary64.  An object is a list of members in the order in which they are written; the
objects that are read have each key once, in the order of the keys.
-/

namespace HostWatch

/-- An integer of 64 bits, signed or unsigned. -/
structure WideInt where
  /-- The integer. -/
  val : Int
  /-- It is not below the signed range. -/
  ge : -9223372036854775808 ≤ val
  /-- It is not above the unsigned range. -/
  lt : val < 18446744073709551616
  deriving DecidableEq, Repr

namespace WideInt

/-- An integer, if it fits. -/
def ofInt? (n : Int) : Option WideInt :=
  if h : -9223372036854775808 ≤ n ∧ n < 18446744073709551616 then some ⟨n, h.1, h.2⟩ else none

/-- An unsigned word. -/
def ofUInt64 (n : UInt64) : WideInt where
  val := n.toNat
  ge := by omega
  lt := by have := n.toNat_lt; omega

end WideInt

/-- A JSON value. -/
inductive Json where
  /-- The null value. -/
  | null
  /-- A boolean. -/
  | bool (b : Bool)
  /-- A number that is an integer of 64 bits. -/
  | integer (n : WideInt)
  /-- Any other number. -/
  | float (x : Binary64)
  /-- A string. -/
  | string (s : String)
  /-- An array. -/
  | array (items : List Json)
  /-- An object. -/
  | object (members : List (String × Json))
  deriving Repr

namespace Json

instance : Inhabited Json := ⟨null⟩

/-- Members by key: the value under a key, the first if there were several. -/
def lookup? (key : String) : List (String × Json) → Option Json
  | [] => none
  | (k, v) :: rest => if k = key then some v else lookup? key rest

/-- Put a value under a key, in the place of the key's order; a value already there is replaced. -/
def insertMember (key : String) (value : Json) : List (String × Json) → List (String × Json)
  | [] => [(key, value)]
  | (k, v) :: rest =>
    if key < k then (key, value) :: (k, v) :: rest
    else if key = k then (key, value) :: rest
    else (k, v) :: insertMember key value rest

/-- Members in the order of their keys; of two values under one key the later stays. -/
def sortMembers (members : List (String × Json)) : List (String × Json) :=
  members.foldl (fun sorted m ↦ insertMember m.1 m.2 sorted) []

/-- The object with the given members. -/
def ofMembers (members : List (String × Json)) : Json := object (sortMembers members)

/-- An unsigned word as a number. -/
def ofUInt64 (n : UInt64) : Json := integer (.ofUInt64 n)

/-- The keys of members are in strictly increasing order. -/
def KeysSorted : List (String × Json) → Prop
  | [] => True
  | [_] => True
  | (k, _) :: (l, v) :: rest => k < l ∧ KeysSorted ((l, v) :: rest)

mutual

/-- Every object within has its keys sorted, and every number is finite. -/
def WellFormed : Json → Prop
  | float x => x.isFinite = true
  | array items => AllWellFormed items
  | object members => KeysSorted members ∧ MembersWellFormed members
  | _ => True

/-- All items are well formed. -/
def AllWellFormed : List Json → Prop
  | [] => True
  | v :: rest => WellFormed v ∧ AllWellFormed rest

/-- All member values are well formed. -/
def MembersWellFormed : List (String × Json) → Prop
  | [] => True
  | (_, v) :: rest => WellFormed v ∧ MembersWellFormed rest

end

mutual

/-- How deep arrays and objects are nested. -/
def depth : Json → Nat
  | array items => 1 + itemsDepth items
  | object members => 1 + membersDepth members
  | _ => 0

/-- The greatest depth of an item. -/
def itemsDepth : List Json → Nat
  | [] => 0
  | v :: rest => max (depth v) (itemsDepth rest)

/-- The greatest depth of a member's value. -/
def membersDepth : List (String × Json) → Nat
  | [] => 0
  | (_, v) :: rest => max (depth v) (membersDepth rest)

end

end Json

end HostWatch
