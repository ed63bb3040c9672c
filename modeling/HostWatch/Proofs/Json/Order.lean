import HostWatch.Proofs.Json.Pretty
import Mathlib.Data.List.Induction
import Mathlib.Data.String.Basic
/-!
# The order of what is read

The objects that are read have each key once, in the order of the keys, and are not nested too
deeply.  So what is read is read back from its text, if its numbers are.
-/

namespace HostWatch

namespace Json

variable {d : Nat} {v : Json} {key : String} {items : List Json} {m : String × Json}
  {members : List (String × Json)}

/-! ## Members in order -/

theorem keysSorted_iff_pairwise : KeysSorted members ↔ members.Pairwise fun m n ↦ m.1 < n.1 := by
  induction members with
  | nil => exact ⟨fun _ ↦ .nil, fun _ ↦ trivial⟩
  | cons m rest ih =>
      cases rest with
      | nil => exact ⟨fun _ ↦ List.pairwise_singleton _ m, fun _ ↦ trivial⟩
      | cons n rest =>
          rw [KeysSorted, ih]
          constructor
          · rintro ⟨hlt, hrest⟩
            refine List.pairwise_cons.mpr ⟨fun x hx ↦ ?_, hrest⟩
            rcases List.mem_cons.mp hx with rfl | hx
            · exact hlt
            · exact lt_trans hlt ((List.pairwise_cons.mp hrest).1 x hx)
          · intro h
            obtain ⟨hlt, hrest⟩ := List.pairwise_cons.mp h
            exact ⟨hlt n List.mem_cons_self, hrest⟩

theorem mem_insertMember (h : m ∈ insertMember key v members) : m = (key, v) ∨ m ∈ members := by
  induction members with
  | nil => exact .inl (List.mem_singleton.mp h)
  | cons n rest ih =>
      rw [insertMember] at h
      split at h
      case isTrue => exact List.mem_cons.mp h
      split at h
      case isTrue => exact (List.mem_cons.mp h).imp_right (List.mem_cons_of_mem n)
      case isFalse =>
        rcases List.mem_cons.mp h with rfl | h
        · exact .inr List.mem_cons_self
        · exact (ih h).imp_right (List.mem_cons_of_mem n)

/-- A member takes its place in the order of the keys. -/
theorem keysSorted_insertMember (key : String) (v : Json) (h : KeysSorted members) :
    KeysSorted (insertMember key v members) := by
  rw [keysSorted_iff_pairwise] at h ⊢
  induction members with
  | nil => exact List.pairwise_singleton _ _
  | cons n rest ih =>
      obtain ⟨hlt, hrest⟩ := List.pairwise_cons.mp h
      rw [insertMember]
      split
      case isTrue hkey =>
        refine List.pairwise_cons.mpr ⟨fun x hx ↦ ?_, h⟩
        rcases List.mem_cons.mp hx with rfl | hx
        · exact hkey
        · exact lt_trans hkey (hlt x hx)
      split
      case isTrue _ heq =>
        subst heq
        exact List.pairwise_cons.mpr ⟨hlt, hrest⟩
      case isFalse hge hne =>
        have hn : n.1 < key := lt_of_le_of_ne (not_lt.mp hge) (Ne.symm hne)
        refine List.pairwise_cons.mpr ⟨fun x hx ↦ ?_, ih hrest⟩
        rcases mem_insertMember hx with rfl | hx
        · exact hn
        · exact hlt x hx

theorem insertMember_of_forall_lt (v : Json) (h : ∀ m ∈ members, m.1 < key) :
    insertMember key v members = members ++ [(key, v)] := by
  induction members with
  | nil => rfl
  | cons n rest ih =>
      have hn := h n List.mem_cons_self
      rw [insertMember, if_neg (lt_asymm hn), if_neg (ne_of_gt hn),
        ih fun m hm ↦ h m (List.mem_cons_of_mem n hm)]
      rfl

theorem sortMembers_concat (members : List (String × Json)) (m : String × Json) :
    sortMembers (members ++ [m]) = insertMember m.1 m.2 (sortMembers members) := by
  rw [sortMembers, List.foldl_append]
  rfl

theorem keysSorted_sortMembers (members : List (String × Json)) :
    KeysSorted (sortMembers members) := by
  induction members using List.reverseRecOn with
  | nil => trivial
  | append_singleton members m ih =>
      rw [sortMembers_concat]
      exact keysSorted_insertMember m.1 m.2 ih

theorem mem_of_mem_sortMembers (h : m ∈ sortMembers members) : m ∈ members := by
  induction members using List.reverseRecOn with
  | nil => exact h
  | append_singleton members n ih =>
      rw [sortMembers_concat] at h
      rcases mem_insertMember h with rfl | h
      · exact List.mem_append_right members List.mem_cons_self
      · exact List.mem_append_left [n] (ih h)

/-- Members in order stay as they are. -/
theorem sortMembers_of_keysSorted (h : KeysSorted members) : sortMembers members = members := by
  rw [keysSorted_iff_pairwise] at h
  induction members using List.reverseRecOn with
  | nil => rfl
  | append_singleton members m ih =>
      obtain ⟨hmembers, -, hlt⟩ := List.pairwise_append.mp h
      rw [sortMembers_concat, ih hmembers]
      exact insertMember_of_forall_lt m.2 fun n hn ↦ hlt n hn m List.mem_cons_self

/-! ## Values in order -/

theorem sortedItems_eq_map (items : List Json) : sortedItems items = items.map sorted := by
  induction items with
  | nil => rfl
  | cons v rest ih => rw [sortedItems, ih, List.map_cons]

theorem sortedMembers_eq_map (members : List (String × Json)) :
    sortedMembers members = members.map fun m ↦ (m.1, m.2.sorted) := by
  induction members with
  | nil => rfl
  | cons m rest ih => rw [sortedMembers, ih, List.map_cons]

theorem itemsDepth_le_iff : itemsDepth items ≤ d ↔ ∀ v ∈ items, v.depth ≤ d := by
  induction items with
  | nil => simp [itemsDepth]
  | cons v rest ih => rw [itemsDepth, Nat.max_le, ih, List.forall_mem_cons]

theorem membersDepth_le_iff : membersDepth members ≤ d ↔ ∀ m ∈ members, m.2.depth ≤ d := by
  induction members with
  | nil => simp [membersDepth]
  | cons m rest ih => rw [membersDepth, Nat.max_le, ih, List.forall_mem_cons]

/-- A value is in order, and its containers are nested no more than `d` deep. -/
def IsOrdered (d : Nat) (v : Json) : Prop := v.sorted = v ∧ v.depth ≤ d

theorem sortedItems_eq_self_iff : sortedItems items = items ↔ ∀ v ∈ items, v.sorted = v := by
  have hself : items.map id = items := List.map_id items
  have hmap : items.map sorted = items.map id ↔ ∀ v ∈ items, v.sorted = v := List.map_inj_left
  rw [sortedItems_eq_map, ← hmap, hself]

theorem sortedMembers_eq_self_iff :
    sortedMembers members = members ↔ ∀ m ∈ members, m.2.sorted = m.2 := by
  have hself : members.map id = members := List.map_id members
  have hmap : (members.map fun m ↦ (m.1, m.2.sorted)) = members.map id ↔
      ∀ m ∈ members, m.2.sorted = m.2 := by
    rw [List.map_inj_left]
    exact forall₂_congr fun m _ ↦ ⟨fun h ↦ congrArg Prod.snd h, fun h ↦ Prod.ext rfl h⟩
  rw [sortedMembers_eq_map, ← hmap, hself]

/-- Only the values change, not the keys. -/
theorem keysSorted_sortedMembers : KeysSorted (sortedMembers members) ↔ KeysSorted members := by
  rw [keysSorted_iff_pairwise, keysSorted_iff_pairwise, sortedMembers_eq_map, List.pairwise_map]

theorem isOrdered_array : IsOrdered (d + 1) (array items) ↔ ∀ v ∈ items, IsOrdered d v := by
  have hdepth : (array items).depth ≤ d + 1 ↔ ∀ v ∈ items, v.depth ≤ d := by
    rw [depth, Nat.add_comm 1, Nat.add_le_add_iff_right, itemsDepth_le_iff]
  rw [IsOrdered, hdepth, sorted, array.injEq, sortedItems_eq_self_iff, ← forall₂_and]
  rfl

theorem isOrdered_object : IsOrdered (d + 1) (object members) ↔
    KeysSorted members ∧ ∀ m ∈ members, IsOrdered d m.2 := by
  have hdepth : (object members).depth ≤ d + 1 ↔ ∀ m ∈ members, m.2.depth ≤ d := by
    rw [depth, Nat.add_comm 1, Nat.add_le_add_iff_right, membersDepth_le_iff]
  have hsorted : (object members).sorted = object members ↔
      KeysSorted members ∧ ∀ m ∈ members, m.2.sorted = m.2 := by
    rw [sorted, ofMembers, object.injEq, ← sortedMembers_eq_self_iff]
    constructor
    · intro h
      have hkeys : KeysSorted members := h ▸ keysSorted_sortMembers (sortedMembers members)
      rw [sortMembers_of_keysSorted (keysSorted_sortedMembers.mpr hkeys)] at h
      exact ⟨hkeys, h⟩
    · rintro ⟨hkeys, h⟩
      rw [h, sortMembers_of_keysSorted hkeys]
  rw [IsOrdered, hdepth, hsorted, and_assoc, ← forall₂_and]
  rfl

/-- Members are well formed if each of their values is. -/
theorem membersWellFormed_iff : MembersWellFormed members ↔ ∀ m ∈ members, WellFormed m.2 := by
  induction members with
  | nil => exact ⟨fun _ _ hm ↦ absurd hm List.not_mem_nil, fun _ ↦ trivial⟩
  | cons m rest ih => rw [MembersWellFormed, ih, List.forall_mem_cons]

/-- Well-formed values make a well-formed object, in any order. -/
theorem wellFormed_ofMembers (h : ∀ m ∈ members, WellFormed m.2) : WellFormed (ofMembers members) :=
  ⟨keysSorted_sortMembers members,
    membersWellFormed_iff.mpr fun m hm ↦ h m (mem_of_mem_sortMembers hm)⟩

mutual

/-- A value whose objects have their keys sorted stays as it is. -/
theorem sorted_of_wellFormed : ∀ {v : Json}, WellFormed v → v.sorted = v
  | null, _ | bool _, _ | integer _, _ | float _, _ | string _, _ => rfl
  | array _, h => congrArg array (sortedItems_of_wellFormed h)
  | object _, ⟨hkeys, h⟩ => by
      rw [sorted, ofMembers, sortedMembers_of_wellFormed h, sortMembers_of_keysSorted hkeys]

/-- So do items. -/
theorem sortedItems_of_wellFormed :
    ∀ {items : List Json}, AllWellFormed items → sortedItems items = items
  | [], _ => rfl
  | _ :: _, ⟨hv, hrest⟩ =>
      congrArg₂ List.cons (sorted_of_wellFormed hv) (sortedItems_of_wellFormed hrest)

/-- So do the values of members. -/
theorem sortedMembers_of_wellFormed :
    ∀ {members : List (String × Json)}, MembersWellFormed members → sortedMembers members = members
  | [], _ => rfl
  | (_, _) :: _, ⟨hv, hrest⟩ => by
      rw [sortedMembers, sorted_of_wellFormed hv, sortedMembers_of_wellFormed hrest]

end

/-- Members that were sorted make an object in order. -/
theorem isOrdered_ofMembers (h : ∀ m ∈ members, IsOrdered d m.2) :
    IsOrdered (d + 1) (ofMembers members) :=
  isOrdered_object.mpr ⟨keysSorted_sortMembers members, fun m hm ↦ h m (mem_of_mem_sortMembers hm)⟩

/-! ## What is read -/

theorem isOrdered_of_value? {p : NumberParts} (h : p.value? = some v) : IsOrdered d v := by
  have hnumber : (∃ n, v = integer n) ∨ ∃ x, v = float x := by
    unfold NumberParts.value? at h
    dsimp only at h
    split at h
    case h_1 => exact .inl ⟨_, (Option.some.inj h).symm⟩
    case h_2 =>
      obtain ⟨x, -, rfl⟩ := Option.map_eq_some_iff.mp h
      exact .inr ⟨x, rfl⟩
  rcases hnumber with ⟨n, rfl⟩ | ⟨x, rfl⟩
  · exact ⟨rfl, Nat.zero_le d⟩
  · exact ⟨rfl, Nat.zero_le d⟩

theorem isOrdered_of_readNumber {s : List Char} {r : Rest s} (h : readNumber s = some (v, r)) :
    IsOrdered d v := by
  unfold readNumber at h
  split at h
  case h_1 => cases h
  case h_2 p _ _ =>
    obtain ⟨w, hw, hv⟩ := Option.map_eq_some_iff.mp h
    obtain rfl := (Prod.mk.inj hv).1
    exact isOrdered_of_value? hw

theorem word_of_readWord {s : List Char} {v : Json} {r : Rest s} (h : readWord s = some (v, r)) :
    v = null ∨ v = bool true ∨ v = bool false := by
  unfold readWord at h
  simp only [Option.orElse_eq_orElse, Option.orElse_eq_or, Option.or_eq_some_iff] at h
  rcases h with h | ⟨-, h | ⟨-, h⟩⟩
  · split at h
    case h_1 => cases h
    case h_2 => exact .inl (Prod.mk.inj (Option.some.inj h)).1.symm
  · split at h
    case h_1 => cases h
    case h_2 => exact .inr (.inl (Prod.mk.inj (Option.some.inj h)).1.symm)
  · split at h
    case h_1 => cases h
    case h_2 => exact .inr (.inr (Prod.mk.inj (Option.some.inj h)).1.symm)
mutual

/-- A value that is read is in order and not too deep. -/
theorem isOrdered_of_readValue {d : Nat} {s : List Char} {v : Json} {r : Rest s}
    (h : readValue d s = some (v, r)) : IsOrdered d v := by
  cases hskip : skipSpace s with
  | nil =>
      rw [readValue] at h
      split at h
      case h_1 => cases h
      case h_2 heq =>
        rw [hskip] at heq
        cases heq
  | cons c t =>
      obtain ⟨hw, hs, hread⟩ := readValue_of_skipSpace (d := d) hskip
      have ht : t.length < s.length := by
        rw [hskip, List.length_cons] at hs
        exact hs
      rw [hread] at h
      split at h
      case isTrue =>
        obtain ⟨x, -, hx⟩ := Option.map_eq_some_iff.mp h
        obtain rfl := (Prod.mk.inj hx).1
        exact ⟨rfl, Nat.zero_le d⟩
      split at h
      case isTrue =>
        cases d with
        | zero => cases h
        | succ d =>
            dsimp only at h
            split at h
            case h_1 =>
              obtain rfl := (Prod.mk.inj (Option.some.inj h)).1
              exact isOrdered_array.mpr fun v hv ↦ absurd hv List.not_mem_nil
            case h_2 =>
              obtain ⟨x, hitems, hx⟩ := Option.map_eq_some_iff.mp h
              obtain rfl := (Prod.mk.inj hx).1
              exact isOrdered_array.mpr (isOrdered_of_readItems hitems)
      split at h
      case isTrue =>
        cases d with
        | zero => cases h
        | succ d =>
            dsimp only at h
            split at h
            case h_1 =>
              obtain rfl := (Prod.mk.inj (Option.some.inj h)).1
              exact isOrdered_object.mpr ⟨trivial, fun v hv ↦ absurd hv List.not_mem_nil⟩
            case h_2 =>
              obtain ⟨x, hmembers, hx⟩ := Option.map_eq_some_iff.mp h
              obtain rfl := (Prod.mk.inj hx).1
              exact isOrdered_ofMembers (isOrdered_of_readMembers hmembers)
      split at h
      case isTrue =>
        obtain ⟨x, hnumber, hx⟩ := Option.map_eq_some_iff.mp h
        obtain rfl := (Prod.mk.inj hx).1
        exact isOrdered_of_readNumber hnumber
      case isFalse =>
        obtain ⟨x, hword, hx⟩ := Option.map_eq_some_iff.mp h
        obtain rfl := (Prod.mk.inj hx).1
        rcases word_of_readWord hword with hw | hw | hw
        all_goals
          rw [hw]
          exact ⟨rfl, Nat.zero_le d⟩
termination_by 2 * s.length

/-- So are the items of an array. -/
theorem isOrdered_of_readItems {d : Nat} {s : List Char} {items : List Json} {r : Rest s}
    (h : readItems d s = some (items, r)) : ∀ v ∈ items, IsOrdered d v := by
  rw [readItems] at h
  split at h
  case h_1 => cases h
  case h_2 v r₁ hvalue =>
    have hv := isOrdered_of_readValue hvalue
    have h₁ := r₁.property
    split at h
    case h_1 r₂ _ =>
      have h₂ := r₂.property
      obtain ⟨x, hrest, hx⟩ := Option.map_eq_some_iff.mp h
      obtain rfl := (Prod.mk.inj hx).1
      exact List.forall_mem_cons.mpr ⟨hv, isOrdered_of_readItems hrest⟩
    case h_2 =>
      obtain ⟨x, -, hx⟩ := Option.map_eq_some_iff.mp h
      obtain rfl := (Prod.mk.inj hx).1
      exact List.forall_mem_singleton.mpr hv
termination_by 2 * s.length + 1

/-- So are the values of an object's members. -/
theorem isOrdered_of_readMembers {d : Nat} {s : List Char} {members : List (String × Json)}
    {r : Rest s} (h : readMembers d s = some (members, r)) : ∀ m ∈ members, IsOrdered d m.2 := by
  rw [readMembers] at h
  split at h
  case h_1 => cases h
  case h_2 r _ =>
    have hr := r.property
    split at h
    case h_1 => cases h
    case h_2 key r' _ =>
      have hr' := r'.property
      split at h
      case h_1 => cases h
      case h_2 r₀ _ =>
        have h₀ := r₀.property
        split at h
        case h_1 => cases h
        case h_2 v r₁ hvalue =>
          have hv := isOrdered_of_readValue hvalue
          have h₁ := r₁.property
          split at h
          case h_1 r₂ _ =>
            have h₂ := r₂.property
            obtain ⟨x, hrest, hx⟩ := Option.map_eq_some_iff.mp h
            obtain rfl := (Prod.mk.inj hx).1
            exact List.forall_mem_cons.mpr ⟨hv, isOrdered_of_readMembers hrest⟩
          case h_2 =>
            obtain ⟨x, -, hx⟩ := Option.map_eq_some_iff.mp h
            obtain rfl := (Prod.mk.inj hx).1
            exact List.forall_mem_singleton.mpr hv
termination_by 2 * s.length + 1

end

/-- What is read from a text is in order. -/
theorem isOrdered_of_read? {text : String} (h : read? text = some v) : IsOrdered maxDepth v := by
  unfold read? readWithin? at h
  split at h
  case h_1 w r hread =>
    split at h
    case isTrue =>
      obtain rfl := Option.some.inj h
      exact isOrdered_of_readValue hread
    case isFalse => cases h
  case h_2 => cases h

/-- A value in order is read back as it is, if its numbers are. -/
theorem IsOrdered.read?_pretty (h : IsOrdered maxDepth v) (hfloats : FloatsReadBack v) :
    read? v.pretty = some v := by
  rw [Json.read?_pretty h.2 hfloats, h.1]

end Json

end HostWatch
