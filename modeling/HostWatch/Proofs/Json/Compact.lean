import HostWatch.Proofs.Json.Order
/-!
# Compact text that is read back

The text of a value on one line is read back as the value, each object with its members in the order
of their keys, provided that its numbers that are no integers are read back and that it is not too
deep.
-/

namespace HostWatch

namespace Json

variable {v : Json}

/-- What stands behind the first item of an array. -/
def itemsAfter : List Json → List Char
  | [] => [']']
  | v :: rest => ',' :: compactItems (v :: rest)

/-- What stands behind the first member of an object. -/
def membersAfter : List (String × Json) → List Char
  | [] => ['\x7d']
  | m :: rest => ',' :: compactMembers (m :: rest)

theorem compactItems_cons (v : Json) (rest : List Json) :
    compactItems (v :: rest) = compactText v ++ itemsAfter rest := by
  cases rest <;> rfl

theorem compactMembers_cons (k : String) (v : Json) (rest : List (String × Json)) :
    compactMembers ((k, v) :: rest) =
      stringText k ++ ':' :: (compactText v ++ membersAfter rest) := by
  cases rest <;> rfl

theorem allSpace_nil : AllSpace [] := fun _ hc ↦ absurd hc List.not_mem_nil

mutual

/-- The text on one line writes the value. -/
theorem writes_compactText : ∀ {v : Json}, FloatsReadBack v → Writes v (compactText v)
  | null, _ => .null
  | bool true, _ => .true
  | bool false, _ => .false
  | integer n, _ => .integer (NumberParts.spells_integerText n)
  | float x, hfloats => .float hfloats
  | string k, _ => .string k
  | array [], _ => .emptyArray
  | array (v :: rest), ⟨hv, hrest⟩ => by
      have h := Writes.array allSpace_nil (writes_compactText hv) (writesItems_itemsAfter hrest)
      rw [compactText, compactItems_cons]
      exact h
  | object [], _ => .emptyObject
  | object ((k, v) :: rest), ⟨hv, hrest⟩ => by
      have h := Writes.object (k := k) allSpace_nil allSpace_nil (writes_compactText hv)
        (writesMembers_membersAfter hrest)
      rw [compactText, compactMembers_cons]
      exact h

/-- So do the items behind the first. -/
theorem writesItems_itemsAfter :
    ∀ {items : List Json}, ItemsReadBack items → WritesItems items (itemsAfter items)
  | [], _ => .nil allSpace_nil
  | v :: rest, ⟨hv, hrest⟩ => by
      have h := WritesItems.cons allSpace_nil (writes_compactText hv) (writesItems_itemsAfter hrest)
      rw [itemsAfter, compactItems_cons]
      exact h

/-- So do the members behind the first. -/
theorem writesMembers_membersAfter :
    ∀ {members : List (String × Json)}, MembersReadBack members →
      WritesMembers members (membersAfter members)
  | [], _ => .nil allSpace_nil
  | (k, v) :: rest, ⟨hv, hrest⟩ => by
      have h := WritesMembers.cons (k := k) allSpace_nil allSpace_nil (writes_compactText hv)
        (writesMembers_membersAfter hrest)
      rw [membersAfter, compactMembers_cons]
      exact h

end

/-- A value in order is read back from its text on one line, if its numbers are. -/
theorem IsOrdered.read?_compact (h : IsOrdered maxDepth v) (hfloats : FloatsReadBack v) :
    read? v.compact = some v := by
  have hread := (writes_compactText hfloats).read?_ofList h.2
  rwa [h.1] at hread

end Json

end HostWatch
