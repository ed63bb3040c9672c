import HostWatch.Proofs.Json.Grammar
/-!
# Values that are read back

The text of a value over several lines is read back as the value, each object with its members in
the order of their keys, provided that its numbers that are no integers are read back and that it is
not too deep.
-/

namespace HostWatch

namespace Json

mutual

/-- The numbers within that are no integers are read back from their texts. -/
def FloatsReadBack : Json → Prop
  | float x => NumberParts.Spells (floatText x) (float x)
  | array items => ItemsReadBack items
  | object members => MembersReadBack members
  | _ => True

/-- The numbers in items are read back. -/
def ItemsReadBack : List Json → Prop
  | [] => True
  | v :: rest => FloatsReadBack v ∧ ItemsReadBack rest

/-- The numbers in members are read back. -/
def MembersReadBack : List (String × Json) → Prop
  | [] => True
  | (_, v) :: rest => FloatsReadBack v ∧ MembersReadBack rest

end

theorem itemsReadBack_iff {items : List Json} :
    ItemsReadBack items ↔ ∀ v ∈ items, FloatsReadBack v := by
  induction items with
  | nil => exact ⟨fun _ _ h ↦ absurd h List.not_mem_nil, fun _ ↦ trivial⟩
  | cons v rest ih => rw [ItemsReadBack, ih, List.forall_mem_cons]

theorem allSpace_newLine (level : Nat) : AllSpace (newLine level) := by
  intro c hc
  rcases List.mem_cons.mp hc with rfl | hc
  · rfl
  · obtain rfl := List.eq_of_mem_replicate hc
    rfl

theorem allSpace_blank : AllSpace [' '] := List.forall_mem_singleton.mpr rfl

mutual

/-- The text over several lines writes the value. -/
theorem writes_indentedText (level : Nat) :
    ∀ {v : Json}, FloatsReadBack v → Writes v (indentedText level v)
  | null, _ => .null
  | bool true, _ => .true
  | bool false, _ => .false
  | integer n, _ => .integer (NumberParts.spells_integerText n)
  | float x, hfloats => .float hfloats
  | string k, _ => .string k
  | array [], _ => .emptyArray
  | array (v :: rest), ⟨hv, hrest⟩ => by
      rw [indentedText, List.append_assoc]
      exact .array (allSpace_newLine _) (writes_indentedText (level + 1) hv)
        (writesItems_indentedItems level hrest)
  | object [], _ => .emptyObject
  | object ((k, v) :: rest), ⟨hv, hrest⟩ => by
      have h := Writes.object (k := k) (allSpace_newLine (level + 1)) allSpace_blank
        (writes_indentedText (level + 1) hv) (writesMembers_indentedMembers level hrest)
      simpa only [indentedText, List.cons_append, List.append_assoc, List.nil_append] using h

/-- So do the items behind the first. -/
theorem writesItems_indentedItems (level : Nat) :
    ∀ {items : List Json}, ItemsReadBack items → WritesItems items (indentedItems level items)
  | [], _ => .nil (allSpace_newLine level)
  | v :: rest, ⟨hv, hrest⟩ => by
      rw [indentedItems, List.append_assoc]
      exact .cons (allSpace_newLine _) (writes_indentedText (level + 1) hv)
        (writesItems_indentedItems level hrest)

/-- So do the members behind the first. -/
theorem writesMembers_indentedMembers (level : Nat) :
    ∀ {members : List (String × Json)}, MembersReadBack members →
      WritesMembers members (indentedMembers level members)
  | [], _ => .nil (allSpace_newLine level)
  | (k, v) :: rest, ⟨hv, hrest⟩ => by
      have h := WritesMembers.cons (k := k) (allSpace_newLine (level + 1)) allSpace_blank
        (writes_indentedText (level + 1) hv) (writesMembers_indentedMembers level hrest)
      simpa only [indentedMembers, List.cons_append, List.append_assoc, List.nil_append] using h

end

/-- A value is read back from its text. -/
theorem read?_pretty {v : Json} (hdepth : v.depth ≤ maxDepth) (hfloats : FloatsReadBack v) :
    read? v.pretty = some v.sorted := (writes_indentedText 0 hfloats).read?_ofList hdepth

end Json

end HostWatch
