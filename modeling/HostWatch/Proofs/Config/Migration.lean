import HostWatch.Config.Migration
import HostWatch.Proofs.Json.Members
import HostWatch.Proofs.Rule.Verdict
/-!
# What is brought up to date

A configuration that is brought up to date has the current version, and its members stay in order.
One that is decoded has the version of the value that holds it.
-/

namespace HostWatch

namespace Json

variable {d : Nat} {v : Json} {key : String} {m : String × Json} {members : List (String × Json)}

theorem isOrdered_insertMember (key : String) (h : IsOrdered (d + 1) (object members))
    (hv : IsOrdered d v) : IsOrdered (d + 1) (object (insertMember key v members)) := by
  obtain ⟨hkeys, hvalues⟩ := isOrdered_object.mp h
  refine isOrdered_object.mpr ⟨keysSorted_insertMember key v hkeys, fun m hm ↦ ?_⟩
  rcases mem_insertMember hm with rfl | hm
  · exact hv
  · exact hvalues m hm

theorem keysSorted_addMember (key : String) (v : Json) (h : KeysSorted members) :
    KeysSorted (addMember key v members) := by
  unfold addMember
  split
  · exact h
  · exact keysSorted_insertMember key v h

theorem isOrdered_addMember (key : String) (h : IsOrdered (d + 1) (object members))
    (hv : IsOrdered d v) : IsOrdered (d + 1) (object (addMember key v members)) := by
  unfold addMember
  split
  · exact h
  · exact isOrdered_insertMember key h hv

theorem map_fst_modifyMember (key : String) (f : Json → Json) (members : List (String × Json)) :
    (modifyMember key f members).map Prod.fst = members.map Prod.fst := by
  induction members with
  | nil => rfl
  | cons n rest ih =>
      rw [modifyMember]
      split
      · rfl
      · rw [List.map_cons, ih, List.map_cons]

theorem exists_of_mem_modifyMember {f : Json → Json} (h : m ∈ modifyMember key f members) :
    ∃ n ∈ members, m = n ∨ m = (n.1, f n.2) := by
  induction members with
  | nil => cases h
  | cons n rest ih =>
      rw [modifyMember] at h
      split at h
      case isTrue =>
        rcases List.mem_cons.mp h with rfl | h
        · exact ⟨n, List.mem_cons_self, .inr rfl⟩
        · exact ⟨m, List.mem_cons_of_mem n h, .inl rfl⟩
      case isFalse =>
        rcases List.mem_cons.mp h with rfl | h
        · exact ⟨_, List.mem_cons_self, .inl rfl⟩
        · obtain ⟨x, hx, hm⟩ := ih h
          exact ⟨x, List.mem_cons_of_mem n hx, hm⟩

theorem keysSorted_modifyMember (key : String) (f : Json → Json) :
    KeysSorted (modifyMember key f members) ↔ KeysSorted members := by
  have hkeys : ∀ members, KeysSorted members ↔ (members.map Prod.fst).Pairwise (· < ·) := by
    intro members
    rw [keysSorted_iff_pairwise, List.pairwise_map]
  rw [hkeys, hkeys, map_fst_modifyMember]

theorem isOrdered_modifyMember {f : Json → Json} (key : String)
    (hf : ∀ v, IsOrdered d v → IsOrdered d (f v)) (h : IsOrdered (d + 1) (object members)) :
    IsOrdered (d + 1) (object (modifyMember key f members)) := by
  obtain ⟨hkeys, hvalues⟩ := isOrdered_object.mp h
  refine isOrdered_object.mpr ⟨(keysSorted_modifyMember key f).mpr hkeys, fun m hm ↦ ?_⟩
  obtain ⟨n, hn, rfl | rfl⟩ := exists_of_mem_modifyMember hm
  · exact hvalues m hn
  · exact hf n.2 (hvalues n hn)

/-! ### What is found -/

/-- A value is added only under a key that had none. -/
theorem lookup?_addMember (k key : String) (v : Json) (members : List (String × Json)) :
    lookup? k (addMember key v members) =
      if key = k then some ((lookup? k members).getD v) else lookup? k members := by
  unfold addMember
  split
  case h_1 w hfound =>
    split
    case isTrue heq =>
      subst heq
      rw [hfound]
      rfl
    case isFalse => rfl
  case h_2 hnone =>
    rw [lookup?_insertMember]
    split
    case isTrue heq =>
      subst heq
      rw [hnone]
      rfl
    case isFalse => rfl

/-- Only the value under the key is changed. -/
theorem lookup?_modifyMember (k key : String) (f : Json → Json) (members : List (String × Json)) :
    lookup? k (modifyMember key f members) =
      if key = k then (lookup? k members).map f else lookup? k members := by
  induction members with
  | nil => exact (ite_self none).symm
  | cons m rest ih =>
      rw [modifyMember]
      by_cases hm : m.1 = k
      · subst hm
        by_cases hkey : m.1 = key
        · rw [if_pos hkey, if_pos hkey.symm, lookup?, if_pos rfl, lookup?, if_pos rfl]
          rfl
        · rw [if_neg hkey, if_neg (Ne.symm hkey), lookup?, if_pos rfl, lookup?, if_pos rfl]
      · by_cases hkey : m.1 = key
        · subst hkey
          rw [if_pos rfl, if_neg hm, lookup?, if_neg hm, lookup?, if_neg hm]
        · rw [if_neg hkey, lookup?, if_neg hm, ih, lookup?, if_neg hm]

/-- A member is found where it first stands. -/
theorem exists_eq_append_of_lookup? (h : lookup? key members = some v) : ∃ before after,
      members = before ++ (key, v) :: after ∧ (∀ m ∈ before, m.1 ≠ key) ∧
        ∀ f, modifyMember key f members = before ++ (key, f v) :: after := by
  induction members with
  | nil => cases h
  | cons m rest ih =>
      rw [lookup?] at h
      split at h
      case isTrue hkey =>
        subst hkey
        obtain rfl := Option.some.inj h
        exact ⟨[], rest, rfl, fun n hn ↦ absurd hn List.not_mem_nil, fun f ↦ if_pos rfl⟩
      case isFalse hkey =>
        obtain ⟨before, after, rfl, hfirst, hmodify⟩ := ih h
        refine ⟨m :: before, after, rfl, List.forall_mem_cons.mpr ⟨hkey, hfirst⟩, fun f ↦ ?_⟩
        rw [List.cons_append, modifyMember, if_neg hkey, hmodify]

theorem modifyMember_of_lookup?_eq_none (h : lookup? key members = none) (f : Json → Json) :
    modifyMember key f members = members := by
  induction members with
  | nil => rfl
  | cons m rest ih =>
      rw [lookup?] at h
      split at h
      case isTrue => cases h
      case isFalse hkey => rw [modifyMember, if_neg hkey, ih h]

end Json

namespace Config

variable {v migrated : Json} {c : Config}

/-- A current version is written out. -/
theorem exists_of_versionOf_eq (h : versionOf v = currentVersion) :
    ∃ members n, v = .object members ∧ Json.lookup? "version" members = some (.integer n) ∧
      0 ≤ n.val ∧ UInt64.ofNat n.val.toNat = currentVersion := by
  have hone : (1 : UInt64) ≠ currentVersion := by decide
  unfold versionOf at h
  split at h
  case h_1 n hmember =>
    split at h
    case isTrue hn =>
      cases v with
      | object members => exact ⟨members, n, rfl, hmember, hn, h⟩
      | _ => cases hmember
    case isFalse => exact absurd h hone
  case h_2 => exact absurd h hone

theorem versionOf_object {n : UInt64} {members : List (String × Json)}
    (h : Json.lookup? "version" members = some (.ofUInt64 n)) :
    versionOf (.object members) = n := by
  have hn : (0 : Int) ≤ n.toNat := Int.natCast_nonneg _
  have hmember : (Json.object members).member? "version" = some (.integer (.ofUInt64 n)) := h
  unfold versionOf
  rw [hmember]
  change (if (0 : Int) ≤ n.toNat then UInt64.ofNat (n.toNat : Int).toNat else 1) = n
  rw [if_pos hn, Int.toNat_natCast, UInt64.ofNat_toNat]

/-- What is brought up to date has the current version. -/
theorem versionOf_of_migrate (h : migrate v = .ok migrated) :
    versionOf migrated = currentVersion := by
  unfold migrate at h
  split at h
  case isTrue => cases h
  split at h
  case h_1 members =>
    obtain rfl := Except.ok.inj h
    exact versionOf_object (Json.lookup?_insertMember_self _ _ _)
  case h_2 => cases h

/-- The version of a configuration is that of the members it is decoded from. -/
theorem get_versionField_of_decode {members : List (String × Json)}
    (h : decode (.object members) = .ok c) : versionField.get members = .ok c.version := by
  unfold decode at h
  obtain ⟨found, hmembers, h⟩ := bind_eq_ok_iff.mp h
  obtain ⟨-, -, hfound⟩ := bind_eq_ok_iff.mp hmembers
  obtain rfl := Except.ok.inj hfound
  obtain ⟨version, hversion, h⟩ := bind_eq_ok_iff.mp h
  -- The other five fields are decoded after it and do not change it.
  iterate 5 obtain ⟨_, -, h⟩ := bind_eq_ok_iff.mp h
  obtain rfl := Except.ok.inj h
  exact hversion

/-- A configuration has the version of the value that holds it. -/
theorem version_of_decode (hversion : versionOf v = currentVersion) (h : decode v = .ok c) :
    c.version = currentVersion := by
  obtain ⟨members, n, rfl, hlookup, hn, hcurrent⟩ := exists_of_versionOf_eq hversion
  have hget : versionField.get members = .ok (UInt64.ofNat n.val.toNat) := by
    unfold Field.get
    rw [show Json.lookup? versionField.name members = some (.integer n) from hlookup]
    change (if 0 ≤ n.val ∧ n.val < wordSize then Except.ok n.val.toNat
      else .error (DecodeError.outOfRange n.val "u64")).map UInt64.ofNat =
        .ok (UInt64.ofNat n.val.toNat)
    rw [if_pos ⟨hn, n.lt⟩]
    rfl
  exact (Except.ok.inj ((get_versionField_of_decode h).symm.trans hget)).trans hcurrent

/-! ## Order -/

theorem isOrdered_shortMonitor {d : Nat} (h : Json.IsOrdered d v) :
    Json.IsOrdered d (shortMonitor v) := by
  cases v with
  | string s =>
      have hstring : ∃ s', shortMonitor (.string s) = .string s' := by
        unfold shortMonitor
        dsimp only
        iterate 3
          split
          · exact ⟨_, rfl⟩
        exact ⟨s, rfl⟩
      obtain ⟨s', hs'⟩ := hstring
      rw [hs']
      exact ⟨rfl, Nat.zero_le d⟩
  | _ => exact h

theorem isOrdered_shortenRule {d : Nat} (h : Json.IsOrdered d v) :
    Json.IsOrdered d (shortenRule v) := by
  cases v with
  | object members =>
      obtain ⟨d, rfl, -⟩ := Json.exists_eq_add_one h.2
      exact Json.isOrdered_modifyMember "type" (fun _ ↦ isOrdered_shortMonitor) h
  | _ => exact h

theorem isOrdered_shortenRules {d : Nat} (h : Json.IsOrdered d v) :
    Json.IsOrdered d (shortenRules v) := by
  cases v with
  | array rules =>
      obtain ⟨d, rfl, -⟩ := Json.exists_eq_add_one h.2
      refine Json.isOrdered_array.mpr fun short hshort ↦ ?_
      obtain ⟨rule, hrule, rfl⟩ := List.mem_map.mp hshort
      exact isOrdered_shortenRule (Json.isOrdered_array.mp h rule hrule)
  | _ => exact h

/-- Members in order stay in order. -/
theorem isOrdered_migrate {d : Nat} (h : Json.IsOrdered d v) (hmigrate : migrate v = .ok migrated) :
    Json.IsOrdered d migrated := by
  unfold migrate at hmigrate
  split at hmigrate
  case isTrue => cases hmigrate
  split at hmigrate
  case h_2 => cases hmigrate
  case h_1 members _ =>
    obtain rfl := Except.ok.inj hmigrate
    obtain ⟨d, rfl, -⟩ := Json.exists_eq_add_one h.2
    have hstring : ∀ s, Json.IsOrdered d (.string s) := fun s ↦ ⟨rfl, Nat.zero_le d⟩
    have hadded : Json.IsOrdered (d + 1) (.object (addRateAndName members)) :=
      Json.isOrdered_addMember "name" (Json.isOrdered_addMember "rate" h (hstring _)) (hstring _)
    have hshortened : ∀ members, Json.IsOrdered (d + 1) (.object members) →
        Json.IsOrdered (d + 1) (.object (shortenMonitors members)) := fun members ↦
      Json.isOrdered_modifyMember "rules" fun _ ↦ isOrdered_shortenRules
    refine Json.isOrdered_insertMember "version" ?_ ⟨rfl, Nat.zero_le d⟩
    split
    · split
      · exact hshortened _ hadded
      · exact hshortened _ h
    · split
      · exact hadded
      · exact h

end Config

end HostWatch
