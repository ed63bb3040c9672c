import HostWatch.Proofs.Json.Order
import Mathlib.Data.List.Sort
/-!
# Members under their keys

What is looked up among members after one of them was put in its place, or after all of them were
sorted.  Members in order are told by what stands under each key.
-/

namespace HostWatch

namespace Json

variable {key k : String} {v : Json} {members old new : List (String × Json)}

/-- What is put under a key is found there, and all else as before. -/
theorem lookup?_insertMember (k key : String) (v : Json) (members : List (String × Json)) :
    lookup? k (insertMember key v members) = if key = k then some v else lookup? k members := by
  induction members with
  | nil => rfl
  | cons m rest ih =>
      rw [insertMember]
      split
      case isTrue => rfl
      split
      case isTrue heq =>
        subst heq
        rw [lookup?, lookup?]
        split <;> rfl
      case isFalse hne =>
        rw [lookup?, lookup?, ih]
        by_cases hm : m.1 = k
        · subst hm
          rw [if_pos rfl, if_neg hne, if_pos rfl]
        · rw [if_neg hm, if_neg hm]

/-- What is put under a key is found there. -/
theorem lookup?_insertMember_self (key : String) (value : Json) (members : List (String × Json)) :
    lookup? key (insertMember key value members) = some value := by
  rw [lookup?_insertMember, if_pos rfl]

theorem mem_of_lookup? (h : lookup? key members = some v) : (key, v) ∈ members := by
  induction members with
  | nil => cases h
  | cons m rest ih =>
      rw [lookup?] at h
      split at h
      case isTrue heq =>
        obtain rfl := Option.some.inj h
        subst heq
        exact List.mem_cons_self
      case isFalse => exact List.mem_cons_of_mem m (ih h)

/-- Where each key stands once, every member is found under its key. -/
theorem lookup?_of_mem (hkeys : (members.map Prod.fst).Nodup) (h : (key, v) ∈ members) :
    lookup? key members = some v := by
  induction members with
  | nil => cases h
  | cons m rest ih =>
      obtain ⟨hm, hrest⟩ := List.nodup_cons.mp hkeys
      rcases List.mem_cons.mp h with rfl | h
      · exact if_pos rfl
      · have hne : m.1 ≠ key := by
          rintro rfl
          exact hm (List.mem_map.mpr ⟨_, h, rfl⟩)
        rw [lookup?, if_neg hne]
        exact ih hrest h

theorem nodup_of_keysSorted (h : KeysSorted members) : (members.map Prod.fst).Nodup := by
  rw [keysSorted_iff_pairwise, ← List.pairwise_map] at h
  exact h.imp ne_of_lt

theorem lookup?_eq_some_iff (h : KeysSorted members) :
    lookup? key members = some v ↔ (key, v) ∈ members :=
  ⟨mem_of_lookup?, lookup?_of_mem (nodup_of_keysSorted h)⟩

/-- Members in order that have the same under each key are the same. -/
theorem eq_of_lookup?_eq (hold : KeysSorted old) (hnew : KeysSorted new)
    (h : ∀ key, lookup? key old = lookup? key new) : old = new := by
  have : Std.Irrefl fun m n : String × Json ↦ m.1 < n.1 := ⟨fun m ↦ lt_irrefl m.1⟩
  have : Std.Antisymm fun m n : String × Json ↦ m.1 < n.1 :=
    ⟨fun m n hmn hnm ↦ absurd hnm (lt_asymm hmn)⟩
  refine (keysSorted_iff_pairwise.mp hold).eq_of_mem_iff (keysSorted_iff_pairwise.mp hnew)
    fun m ↦ ?_
  rw [← lookup?_eq_some_iff hold, ← lookup?_eq_some_iff hnew, h]

/-- Of two values under one key the later is found after sorting. -/
theorem lookup?_sortMembers (key : String) (members : List (String × Json)) :
    lookup? key (sortMembers members) = lookup? key members.reverse := by
  induction members using List.reverseRecOn with
  | nil => rfl
  | append_singleton members m ih =>
      rw [sortMembers_concat, lookup?_insertMember, ih, List.reverse_append]
      rfl

theorem lookup?_sortMembers_of_mem (hkeys : (members.map Prod.fst).Nodup)
    (h : (key, v) ∈ members) : lookup? key (sortMembers members) = some v := by
  rw [lookup?_sortMembers]
  refine lookup?_of_mem ?_ (List.mem_reverse.mpr h)
  rw [List.map_reverse, List.nodup_reverse]
  exact hkeys

end Json

end HostWatch
