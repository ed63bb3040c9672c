import HostWatch.Json.Decode
import HostWatch.Proofs.Except
import HostWatch.Proofs.Json.Members
import Mathlib.Data.List.Nodup
/-!
# Records that are decoded

A record is decoded if no field refuses what stands under its name and nothing that is required is
missing.  A list is decoded if each of its items is.
-/

namespace HostWatch

variable {α : Type} {v : Json} {x : α} {members : List (String × Json)}

/-- A list is decoded item by item. -/
theorem Decoder.list_array_map {item : Decoder α} {f : α → Json} {xs : List α}
    (h : ∀ x ∈ xs, item (f x) = .ok x) : Decoder.list item (.array (xs.map f)) = .ok xs := by
  change (xs.map f).mapM item = .ok xs
  rw [mapM_eq_ok_iff, List.forall₂_map_left_iff, List.forall₂_same]
  exact h

/-- Values under keys are decoded value by value. -/
theorem Decoder.map_object_map {item : Decoder α} {f : α → Json} {xs : List (String × α)}
    (h : ∀ x ∈ xs, item (f x.2) = .ok x.2) :
    Decoder.map item (.object (xs.map fun x ↦ (x.1, f x.2))) = .ok xs := by
  change (xs.map fun x ↦ (x.1, f x.2)).mapM (fun m ↦ (item m.2).map (m.1, ·)) = .ok xs
  rw [mapM_eq_ok_iff, List.forall₂_map_left_iff, List.forall₂_same]
  intro x hx
  rw [h x hx]
  rfl

/-- An unsigned word below the bound is one. -/
theorem Decoder.unsigned_ofUInt64 {bound : Nat} (name : String) {n : UInt64} (h : n.toNat < bound) :
    unsigned bound name (.ofUInt64 n) = .ok n.toNat := by
  have hn : 0 ≤ (WideInt.ofUInt64 n).val ∧ (WideInt.ofUInt64 n).val < bound :=
    ⟨Int.natCast_nonneg _, Int.ofNat_lt.mpr h⟩
  rw [Json.ofUInt64, unsigned, if_pos hn]
  rfl

/-- A field of a record, and a value that it takes. -/
structure Record.Entry where
  /-- The field. -/
  check : Field.Check
  /-- What is written for it. -/
  value : Json
  taken : check.refuses value = none

namespace Field

/-- A field with a value that it takes. -/
def entry (f : Field α) (v : Json) (h : f.decode v = .ok x) : Record.Entry where
  check := f.check
  value := v
  taken := by
    change (match f.decode v with
      | .ok _ => none
      | .error e => some e) = none
    rw [h]

/-- A field has the value that is decoded from what stands under its name, or the one for when
nothing does. -/
theorem get_eq_ok {f : Field α} (h : f.get members = .ok x) :
    (∃ v, (f.name, v) ∈ members ∧ f.decode v = .ok x) ∨ f.absent = some x := by
  unfold get at h
  split at h
  case h_1 v hlookup => exact .inl ⟨v, Json.mem_of_lookup? hlookup, h⟩
  split at h
  case h_1 habsent => exact .inr (habsent.trans (congrArg some (Except.ok.inj h)))
  case h_2 => cases h

end Field

namespace Record

variable {name : String} {fields : List Field.Check}

/-- Members are accepted if no field refuses the one under its name. -/
theorem checkMembers_eq_ok (h : ∀ m ∈ members, ∀ f ∈ fields, f.name = m.1 → f.refuses m.2 = none) :
    checkMembers fields members = .ok () := by
  have hnone : ∀ m ∈ members,
      (fields.find? fun f ↦ f.name = m.1).bind (·.refuses m.2) = none := by
    intro m hm
    rw [Option.bind_eq_none_iff]
    intro f hf
    have hname := List.find?_some hf
    exact h m hm f (List.mem_of_find?_eq_some hf) (of_decide_eq_true hname)
  unfold checkMembers
  rw [List.findSome?_eq_none_iff.mpr hnone]

/-- What is not an array is a record only if it is an object. -/
theorem eq_object_of_objectMembers (h : objectMembers name fields v = .ok members) :
    v = .object members := by
  cases v with
  | object members' =>
      obtain ⟨_, -, h⟩ := bind_eq_ok_iff.mp h
      exact congrArg Json.object (Except.ok.inj h)
  | null | bool | integer | float | string | array => cases h

/-- The members that are written for fields, in the order in which they are read back. -/
def written (entries : List Entry) : List (String × Json) :=
  Json.sortMembers (entries.map fun e ↦ (e.check.name, e.value))

variable {entries : List Entry} (hnames : (entries.map fun e ↦ e.check.name).Nodup)

include hnames

/-- No field refuses the value that is written for it. -/
theorem checkMembers_written (h : fields ⊆ entries.map Entry.check) :
    checkMembers fields (written entries) = .ok () := by
  apply checkMembers_eq_ok
  intro m hm f hf hname
  obtain ⟨e, he, rfl⟩ := List.mem_map.mp (Json.mem_of_mem_sortMembers hm)
  obtain ⟨e', he', rfl⟩ := List.mem_map.mp (h hf)
  rw [List.inj_on_of_nodup_map hnames he' he hname]
  exact e.taken

/-- A value for each field makes a record. -/
theorem members_written (name : String) :
    Record.members name (entries.map Entry.check) (.object (written entries)) =
      .ok (written entries) :=
  bind_eq_ok_iff.mpr ⟨(), checkMembers_written hnames (List.Subset.refl _), rfl⟩

/-- A record may hold more than its own fields. -/
theorem objectMembers_written (name : String) (h : fields ⊆ entries.map Entry.check) :
    Record.objectMembers name fields (.object (written entries)) = .ok (written entries) :=
  bind_eq_ok_iff.mpr ⟨(), checkMembers_written hnames h, rfl⟩

theorem lookup?_written {e : Entry} (h : e ∈ entries) :
    Json.lookup? e.check.name (written entries) = some e.value := by
  refine Json.lookup?_sortMembers_of_mem ?_ (List.mem_map.mpr ⟨e, h, rfl⟩)
  rwa [List.map_map]

/-- A field has the value that was written for it. -/
theorem get_written {f : Field α} {h : f.decode v = .ok x} (hmem : f.entry v h ∈ entries) :
    f.get (written entries) = .ok x := by
  have hlookup : Json.lookup? f.name (written entries) = some v := lookup?_written hnames hmem
  unfold Field.get
  rw [hlookup]
  exact h

end Record

end HostWatch
