import HostWatch.Proofs.Config.Migration
import Mathlib.Data.List.Forall2
import Mathlib.Data.Option.Basic
/-!
# What bringing up to date changes

A configuration is brought up to date exactly if it is an object of no newer version.  What comes of
it is told member by member: the version is the current one, rate and name are there, rules name
their monitors in the new way, and all else is as it was.  So nothing is left to do the second time,
and the first step can be done ahead.
-/

namespace HostWatch

/-- An integer that is not negative is an unsigned word. -/
theorem WideInt.ofUInt64_of_nonneg {n : WideInt} (h : 0 ≤ n.val) :
    ofUInt64 (UInt64.ofNat n.val.toNat) = n := by
  obtain ⟨n, hge, hlt⟩ := n
  have hsize : n.toNat < UInt64.size := by
    change n.toNat < 18446744073709551616
    omega
  have hval : ((UInt64.ofNat n.toNat).toNat : Int) = n := by
    rw [UInt64.toNat_ofNat_of_lt' hsize, Int.toNat_of_nonneg h]
  simp only [ofUInt64, hval]

namespace Config

open Json (lookup? KeysSorted)

/-! ## Rules -/

/-- The monitors that were renamed, with their new names. -/
def renamings : List (String × String) :=
  [("memory", "mem"), ("network", "net"), ("temperature", "temp")]

/-- A rule, and the same with the new name of its monitor. -/
inductive Renamed : Json → Json → Prop
  /-- Its monitor has an old name, which is replaced where it stands. -/
  | short {before after : List (String × Json)} {long short : String}
      (hfirst : ∀ m ∈ before, m.1 ≠ "type") (hname : (long, short) ∈ renamings) :
      Renamed (.object (before ++ ("type", .string long) :: after))
        (.object (before ++ ("type", .string short) :: after))
  /-- It is no object, or its monitor has no old name. -/
  | same {rule : Json}
      (h : ∀ n ∈ renamings, rule.member? "type" ≠ some (.string n.1)) : Renamed rule rule

/-- Rules, and the same with the new names of their monitors. -/
inductive RulesRenamed : Json → Json → Prop
  /-- Each rule in its place. -/
  | array {rules rules' : List Json} (h : List.Forall₂ Renamed rules rules') :
      RulesRenamed (.array rules) (.array rules')
  /-- They are no array. -/
  | same {v : Json} (h : ∀ rules, v ≠ .array rules) : RulesRenamed v v

theorem shortMonitor_of_mem {long short : String} (h : (long, short) ∈ renamings) :
    shortMonitor (.string long) = .string short := by
  simp only [renamings, List.mem_cons, Prod.mk.injEq, List.not_mem_nil, or_false] at h
  rcases h with ⟨rfl, rfl⟩ | ⟨rfl, rfl⟩ | ⟨rfl, rfl⟩ <;> rfl

theorem shortMonitor_of_forall_ne {v : Json} (h : ∀ n ∈ renamings, v ≠ .string n.1) :
    shortMonitor v = v := by
  cases v with
  | string s =>
      have hne : ∀ n ∈ renamings, s ≠ n.1 := fun n hn hs ↦ h n hn (congrArg Json.string hs)
      unfold shortMonitor
      dsimp only
      rw [if_neg (hne ("memory", "mem") (by decide)), if_neg (hne ("network", "net") (by decide)),
        if_neg (hne ("temperature", "temp") (by decide))]
  | _ => rfl

/-- In a rule only an old name of its monitor changes. -/
theorem renamed_shortenRule (rule : Json) : Renamed rule (shortenRule rule) := by
  by_cases h : ∃ n ∈ renamings, rule.member? "type" = some (.string n.1)
  · obtain ⟨⟨long, short⟩, hname, hmember⟩ := h
    cases rule with
    | object members =>
        obtain ⟨before, after, rfl, hfirst, hmodify⟩ := Json.exists_eq_append_of_lookup? hmember
        rw [shortenRule, hmodify, shortMonitor_of_mem hname]
        exact .short hfirst hname
    | _ => cases hmember
  · have hsame : ∀ n ∈ renamings, rule.member? "type" ≠ some (.string n.1) :=
      fun n hn hmember ↦ h ⟨n, hn, hmember⟩
    have hshorten : shortenRule rule = rule := by
      cases rule with
      | object members =>
          rw [shortenRule]
          cases hmember : lookup? "type" members with
          | none => rw [Json.modifyMember_of_lookup?_eq_none hmember]
          | some v =>
              obtain ⟨before, after, rfl, -, hmodify⟩ := Json.exists_eq_append_of_lookup? hmember
              have hv : shortMonitor v = v := shortMonitor_of_forall_ne fun n hn hv ↦
                hsame n hn (hmember.trans (congrArg some hv))
              rw [hmodify, hv]
      | _ => rfl
    rw [hshorten]
    exact .same hsame

/-- Among rules nothing else changes either. -/
theorem rulesRenamed_shortenRules (v : Json) : RulesRenamed v (shortenRules v) := by
  cases v with
  | array rules =>
      refine .array (List.forall₂_map_right_iff.mpr ?_)
      exact List.forall₂_same.mpr fun rule _ ↦ renamed_shortenRule rule
  | _ => exact .same fun rules h ↦ Json.noConfusion h

/-! ## Members -/

/-- The members of a configuration of an old version, and the same brought up to date. -/
structure Upgraded (oldVersion : UInt64) (old new : List (String × Json)) : Prop where
  keysSorted : KeysSorted new
  version : lookup? "version" new = some (.ofUInt64 3)
  /-- A rate is added to the first version where there is none. -/
  rate : lookup? "rate" new =
    if oldVersion ≤ 1 then some ((lookup? "rate" old).getD (.string defaultRateText))
    else lookup? "rate" old
  /-- So is a name. -/
  name : lookup? "name" new =
    if oldVersion ≤ 1 then some ((lookup? "name" old).getD (.string defaultName))
    else lookup? "name" old
  /-- Monitors are renamed up to the second version. -/
  rules :
    if oldVersion ≤ 2 then Option.Rel RulesRenamed (lookup? "rules" old) (lookup? "rules" new)
    else lookup? "rules" new = lookup? "rules" old
  other : ∀ key ∉ ["version", "rate", "name", "rules"], lookup? key new = lookup? key old

/-- The members of a configuration, and the same with rate and name and marked as the second
version. -/
structure FilledIn (old new : List (String × Json)) : Prop where
  keysSorted : KeysSorted new
  version : lookup? "version" new = some (.ofUInt64 2)
  rate : lookup? "rate" new = some ((lookup? "rate" old).getD (.string defaultRateText))
  name : lookup? "name" new = some ((lookup? "name" old).getD (.string defaultName))
  other : ∀ key ∉ ["version", "rate", "name"], lookup? key new = lookup? key old

variable {v migrated : Json} {version : UInt64} {members : List (String × Json)}

theorem lookup?_addRateAndName (key : String) (members : List (String × Json)) :
    lookup? key (addRateAndName members) =
      if "name" = key then some ((lookup? key members).getD (.string defaultName))
      else if "rate" = key then some ((lookup? key members).getD (.string defaultRateText))
      else lookup? key members := by
  rw [addRateAndName, Json.lookup?_addMember, Json.lookup?_addMember]
  split
  case isTrue hname =>
    subst hname
    rw [if_neg (by decide)]
  case isFalse => rfl

theorem lookup?_shortenMonitors (key : String) (members : List (String × Json)) :
    lookup? key (shortenMonitors members) =
      if "rules" = key then (lookup? key members).map shortenRules else lookup? key members :=
  Json.lookup?_modifyMember key "rules" shortenRules members

theorem lookup?_version_migrateMembers :
    lookup? "version" (migrateMembers version members) = some (.ofUInt64 3) :=
  Json.lookup?_insertMember_self _ _ _

theorem lookup?_rules_migrateMembers :
    lookup? "rules" (migrateMembers version members) =
      if version ≤ 2 then (lookup? "rules" members).map shortenRules
      else lookup? "rules" members := by
  have hadded : lookup? "rules" (if version ≤ 1 then addRateAndName members else members) =
      lookup? "rules" members := by
    split
    · rw [lookup?_addRateAndName, if_neg (by decide), if_neg (by decide)]
    · rfl
  unfold migrateMembers
  rw [Json.lookup?_insertMember, if_neg (by decide)]
  split
  · rw [lookup?_shortenMonitors, if_pos rfl, hadded]
  · exact hadded

theorem lookup?_migrateMembers_of_ne {key : String} (hversion : key ≠ "version")
    (hrules : key ≠ "rules") : lookup? key (migrateMembers version members) =
      lookup? key (if version ≤ 1 then addRateAndName members else members) := by
  unfold migrateMembers
  rw [Json.lookup?_insertMember, if_neg (Ne.symm hversion)]
  split
  · rw [lookup?_shortenMonitors, if_neg (Ne.symm hrules)]
  · rfl

theorem keysSorted_addRateAndName (h : KeysSorted members) : KeysSorted (addRateAndName members) :=
  Json.keysSorted_addMember "name" _ (Json.keysSorted_addMember "rate" _ h)

theorem keysSorted_migrateMembers (h : KeysSorted members) :
    KeysSorted (migrateMembers version members) := by
  have hadded : KeysSorted (if version ≤ 1 then addRateAndName members else members) := by
    split
    · exact keysSorted_addRateAndName h
    · exact h
  refine Json.keysSorted_insertMember "version" _ ?_
  split
  · exact (Json.keysSorted_modifyMember "rules" shortenRules).mpr hadded
  · exact hadded

/-- Members are brought up to date as it is said, and nothing else happens to them. -/
theorem upgraded_migrateMembers (h : KeysSorted members) :
    Upgraded version members (migrateMembers version members) where
  keysSorted := keysSorted_migrateMembers h
  version := lookup?_version_migrateMembers
  rate := by
    rw [lookup?_migrateMembers_of_ne (by decide) (by decide)]
    split
    · rw [lookup?_addRateAndName, if_neg (by decide), if_pos rfl]
    · rfl
  name := by
    rw [lookup?_migrateMembers_of_ne (by decide) (by decide)]
    split
    · rw [lookup?_addRateAndName, if_pos rfl]
    · rfl
  rules := by
    rw [lookup?_rules_migrateMembers]
    split
    · cases lookup? "rules" members with
      | none => exact .none
      | some v => exact .some (rulesRenamed_shortenRules v)
    · rfl
  other key hkey := by
    simp only [List.mem_cons, List.not_mem_nil, or_false, not_or] at hkey
    obtain ⟨hversion, hrate, hname, hrules⟩ := hkey
    rw [lookup?_migrateMembers_of_ne hversion hrules]
    split
    · rw [lookup?_addRateAndName, if_neg (Ne.symm hname), if_neg (Ne.symm hrate)]
    · rfl

/-- What is up to date stays as it is. -/
theorem migrateMembers_of_current (hkeys : KeysSorted members)
    (hversion : lookup? "version" members = some (.ofUInt64 3)) :
    migrateMembers 3 members = members := by
  refine Json.eq_of_lookup?_eq (keysSorted_migrateMembers hkeys) hkeys fun key ↦ ?_
  by_cases hkey : key = "version"
  · rw [hkey, hversion, lookup?_version_migrateMembers]
  by_cases hrules : key = "rules"
  · rw [hrules, lookup?_rules_migrateMembers, if_neg (by decide)]
  · rw [lookup?_migrateMembers_of_ne hkey hrules, if_neg (by decide)]

theorem filledIn_addRateAndName (h : KeysSorted members) :
    FilledIn members (Json.insertMember "version" (.ofUInt64 2) (addRateAndName members)) where
  keysSorted := Json.keysSorted_insertMember "version" _ (keysSorted_addRateAndName h)
  version := Json.lookup?_insertMember_self _ _ _
  rate := by
    rw [Json.lookup?_insertMember, if_neg (by decide), lookup?_addRateAndName, if_neg (by decide),
      if_pos rfl]
  name := by
    rw [Json.lookup?_insertMember, if_neg (by decide), lookup?_addRateAndName, if_pos rfl]
  other key hkey := by
    simp only [List.mem_cons, List.not_mem_nil, or_false, not_or] at hkey
    obtain ⟨hversion, hrate, hname⟩ := hkey
    rw [Json.lookup?_insertMember, if_neg (Ne.symm hversion), lookup?_addRateAndName,
      if_neg (Ne.symm hname), if_neg (Ne.symm hrate)]

/-- The first step can be done ahead. -/
theorem migrateMembers_of_filledIn {filled : List (String × Json)} (hkeys : KeysSorted members)
    (hversion : version ≤ 1) (h : FilledIn members filled) :
    migrateMembers 2 filled = migrateMembers version members := by
  -- Both are in order, so it is enough that they agree under each key.
  refine Json.eq_of_lookup?_eq (keysSorted_migrateMembers h.keysSorted)
    (keysSorted_migrateMembers hkeys) fun key ↦ ?_
  by_cases hkey : key = "version"
  · rw [hkey, lookup?_version_migrateMembers, lookup?_version_migrateMembers]
  by_cases hrules : key = "rules"
  · rw [hrules, lookup?_rules_migrateMembers, lookup?_rules_migrateMembers, if_pos (by decide),
      if_pos (UInt64.le_trans hversion (by decide)), h.other "rules" (by decide)]
  rw [lookup?_migrateMembers_of_ne hkey hrules, lookup?_migrateMembers_of_ne hkey hrules,
    if_neg (by decide), if_pos hversion, lookup?_addRateAndName]
  split
  case isTrue hname =>
    subst hname
    exact h.name
  split
  case isTrue hrate =>
    subst hrate
    exact h.rate
  case isFalse hname hrate =>
    exact h.other key (by simp [hkey, Ne.symm hname, Ne.symm hrate])

/-! ## Values -/

/-- The version is what stands under its key if that is an unsigned integer, and else the first. -/
theorem versionOf_eq_iff {n : UInt64} :
    versionOf (.object members) = n ↔ lookup? "version" members = some (.ofUInt64 n) ∨
      n = 1 ∧ ∀ m, lookup? "version" members ≠ some (.ofUInt64 m) := by
  by_cases h : ∃ m, lookup? "version" members = some (.ofUInt64 m)
  · obtain ⟨m, hm⟩ := h
    rw [versionOf_object hm]
    constructor
    · rintro rfl
      exact .inl hm
    · rintro (hn | ⟨-, hnone⟩)
      · exact (versionOf_object hm).symm.trans (versionOf_object hn)
      · exact absurd hm (hnone m)
  · have hone : versionOf (.object members) = 1 := by
      unfold versionOf
      split
      case h_1 k hk =>
        refine if_neg fun hk₀ ↦ h ⟨UInt64.ofNat k.val.toNat, hk.trans ?_⟩
        rw [Json.ofUInt64, WideInt.ofUInt64_of_nonneg hk₀]
      case h_2 => rfl
    rw [hone]
    constructor
    · rintro rfl
      exact .inr ⟨rfl, fun m hm ↦ h ⟨m, hm⟩⟩
    · rintro (hn | ⟨rfl, -⟩)
      · exact absurd ⟨n, hn⟩ h
      · rfl

theorem migrate_of_le (h : versionOf (.object members) ≤ 3) :
    migrate (.object members) =
      .ok (.object (migrateMembers (versionOf (.object members)) members)) :=
  if_neg (UInt64.not_lt.mpr h)

/-- Nothing but a newer version or a value that is no object stops it. -/
theorem migrate_eq_error_iff {e : MigrationError} :
    migrate v = .error e ↔ 3 < versionOf v ∧ e = .tooNew (versionOf v) ∨
      (∀ members, v ≠ .object members) ∧ e = .notAnObject := by
  by_cases hv : ∃ members, v = .object members
  · obtain ⟨members, rfl⟩ := hv
    by_cases hversion : 3 < versionOf (.object members)
    · have hnewer : currentVersion < versionOf (.object members) := hversion
      rw [migrate, if_pos hnewer, Except.error.injEq]
      constructor
      · rintro rfl
        exact .inl ⟨hversion, rfl⟩
      · rintro (⟨-, rfl⟩ | ⟨hobject, -⟩)
        · rfl
        · exact absurd rfl (hobject members)
    · rw [migrate_of_le (UInt64.not_lt.mp hversion)]
      constructor
      · intro h
        cases h
      · rintro (⟨h, -⟩ | ⟨hobject, -⟩)
        · exact absurd h hversion
        · exact absurd rfl (hobject members)
  · have hobject : ∀ members, v ≠ .object members := fun members h ↦ hv ⟨members, h⟩
    have hmigrate : migrate v = .error .notAnObject := by
      cases v with
      | object members => exact absurd rfl (hobject members)
      | _ => rfl
    -- The version is asked first, but what is no object is of the first version.
    have hversion : ¬3 < versionOf v := by
      cases v with
      | object members => exact absurd rfl (hobject members)
      | _ => exact (by decide : ¬(3 : UInt64) < 1)
    rw [hmigrate, Except.error.injEq]
    constructor
    · rintro rfl
      exact .inr ⟨hobject, rfl⟩
    · rintro (⟨h, -⟩ | ⟨-, rfl⟩)
      · exact absurd h hversion
      · rfl

/-- A configuration is brought up to date exactly if it is an object of no newer version, and then
each of its members is as it is said.  Doing that again changes nothing, and a configuration of the
first version comes to the same when rate and name are filled in ahead. -/
theorem migrate_upgrades_exactly (hkeys : KeysSorted members) :
    (∀ n, versionOf (.object members) = n ↔ lookup? "version" members = some (.ofUInt64 n) ∨
      n = 1 ∧ ∀ m, lookup? "version" members ≠ some (.ofUInt64 m)) ∧
    (∀ v e, migrate v = .error e ↔ 3 < versionOf v ∧ e = .tooNew (versionOf v) ∨
      (∀ members, v ≠ .object members) ∧ e = .notAnObject) ∧
    (versionOf (.object members) ≤ 3 → ∃ new, migrate (.object members) = .ok (.object new) ∧
      Upgraded (versionOf (.object members)) members new ∧
      migrate (.object new) = .ok (.object new)) ∧
    (versionOf (.object members) ≤ 1 → (∃ filled, FilledIn members filled) ∧
      ∀ filled, FilledIn members filled →
        migrate (.object filled) = migrate (.object members)) := by
  refine ⟨fun n ↦ versionOf_eq_iff, fun v e ↦ migrate_eq_error_iff, fun hversion ↦ ?_,
    fun hversion ↦ ⟨⟨_, filledIn_addRateAndName hkeys⟩, fun filled hfilled ↦ ?_⟩⟩
  · have hnew : Upgraded (versionOf (.object members)) members
        (migrateMembers (versionOf (.object members)) members) := upgraded_migrateMembers hkeys
    have hcurrent := versionOf_object hnew.version
    refine ⟨_, migrate_of_le hversion, hnew, ?_⟩
    rw [migrate_of_le (UInt64.le_of_eq hcurrent), hcurrent,
      migrateMembers_of_current hnew.keysSorted hnew.version]
  · have hsecond := versionOf_object hfilled.version
    rw [migrate_of_le (hsecond ▸ by decide), migrate_of_le (UInt64.le_trans hversion (by decide)),
      hsecond, migrateMembers_of_filledIn hkeys hversion hfilled]

/-- A configuration that names no version, with a number for a name and with rules that are none. -/
def unversioned : List (String × Json) :=
  [("name", natJson 5),
    ("rules", .array [.object [("matcher", .string "used"), ("type", .string "memory")], .null,
      .object [("type", natJson 2)]]),
    ("zone", .null)]

/-- The version and the rate are filled in.  The monitor that a rule names is renamed; the items
that are no rules, and the name that is a number, stay as they are. -/
theorem migrate_upgrades_exactly_of_unversioned :
    KeysSorted unversioned ∧ versionOf (.object unversioned) ≤ 3 ∧
      migrate (.object unversioned) = .ok (.object
        [("name", natJson 5), ("rate", .string "1/1m"),
          ("rules", .array [.object [("matcher", .string "used"), ("type", .string "mem")], .null,
            .object [("type", natJson 2)]]),
          ("version", natJson 3), ("zone", .null)]) ∧
      ∃ new, migrate (.object unversioned) = .ok (.object new) ∧ Upgraded 1 unversioned new ∧
        migrate (.object new) = .ok (.object new) := by
  have hkeys : KeysSorted unversioned := ⟨by decide, by decide, trivial⟩
  obtain ⟨-, -, hnew, -⟩ := migrate_upgrades_exactly hkeys
  exact ⟨hkeys, by decide, rfl, hnew (by decide)⟩

end Config

end HostWatch
