import HostWatch.Proofs.Config.Load
import HostWatch.Proofs.Json.Record
/-!
# What is saved is loaded

A configuration is decoded from what it is encoded as, whatever is in it.  So a configuration of the
current version that was saved is loaded as it was, and loading it changes no file.
-/

namespace HostWatch

theorem Monitor.decode_name (m : Monitor) : Monitor.decode (.string m.name) = .ok m := by
  cases m <;> rfl

theorem Service.decode_name (s : Service) : Service.decode (.string s.name) = .ok s := by
  cases s <;> rfl

namespace Rule

/-- The fields of a rule with what is written for them. -/
def entries (r : Rule) : List Record.Entry :=
  [monitorField.entry (.string r.monitor.name) r.monitor.decode_name,
    thresholdField.entry (.string r.threshold) rfl, matcherField.entry (.string r.matcher) rfl]

theorem sorted_encode (r : Rule) : r.encode.sorted = .object (Record.written r.entries) := rfl

/-- A rule is decoded from what it is encoded as. -/
theorem decode_sorted_encode (r : Rule) : decode r.encode.sorted = .ok r := by
  have hnames : (r.entries.map fun e ↦ e.check.name).Nodup := by
    change ["type", "threshold", "matcher"].Nodup
    decide
  rw [sorted_encode]
  refine bind_eq_ok_iff.mpr ⟨_, Record.members_written hnames "Rule", ?_⟩
  refine bind_eq_ok_iff.mpr ⟨_, Record.get_written hnames (.head _), ?_⟩
  refine bind_eq_ok_iff.mpr ⟨_, Record.get_written hnames (.tail _ (.head _)), ?_⟩
  refine bind_eq_ok_iff.mpr ⟨_, Record.get_written hnames (.tail _ (.tail _ (.head _))), ?_⟩
  rfl

end Rule

namespace Push

variable {p : Push}

/-- The fields of a push with what is written for them. -/
def entries (p : Push) : List Record.Entry :=
  [serviceField.entry (.string p.service.name) p.service.decode_name,
    nameField.entry (.string p.name) rfl, settingsField.entry p.settings rfl]

theorem sorted_encode (h : p.settings.sorted = p.settings) :
    p.encode.sorted = .object (Record.written p.entries) := by
  have hsorted : p.encode.sorted = .ofMembers [("type", .string p.service.name),
    ("name", .string p.name), ("iface", p.settings.sorted)] := rfl
  rw [hsorted, h]
  rfl

/-- A push is decoded from what it is encoded as, whatever its settings are. -/
theorem decode_sorted_encode (h : p.settings.sorted = p.settings) :
    decode p.encode.sorted = .ok p := by
  have hnames : (p.entries.map fun e ↦ e.check.name).Nodup := by
    change ["type", "name", "iface"].Nodup
    decide
  rw [sorted_encode h]
  refine bind_eq_ok_iff.mpr ⟨_, Record.members_written hnames "Push", ?_⟩
  refine bind_eq_ok_iff.mpr ⟨_, Record.get_written hnames (.head _), ?_⟩
  refine bind_eq_ok_iff.mpr ⟨_, Record.get_written hnames (.tail _ (.head _)), ?_⟩
  refine bind_eq_ok_iff.mpr ⟨_, Record.get_written hnames (.tail _ (.tail _ (.head _))), ?_⟩
  rfl

end Push

namespace Config

variable {c : Config} {l : Location} {t t' : FileTree}

theorem decode_version (n : UInt64) : versionField.decode (.ofUInt64 n) = .ok n := by
  have hdecode : versionField.decode =
      fun v ↦ (Decoder.unsigned wordSize "u64" v).map UInt64.ofNat := rfl
  have hlt : n.toNat < wordSize := n.toNat_lt
  rw [hdecode]
  dsimp only
  rw [Decoder.unsigned_ofUInt64 "u64" hlt]
  exact congrArg Except.ok UInt64.ofNat_toNat

theorem decode_rules (rules : List Rule) :
    rulesField.decode (.array (rules.map fun r ↦ r.encode.sorted)) = .ok rules :=
  Decoder.list_array_map fun r _ ↦ r.decode_sorted_encode

section

variable (h : ∀ p ∈ c.pushes, p.settings.sorted = p.settings)

include h

theorem decode_pushes :
    pushesField.decode (.array (c.pushes.map fun p ↦ p.encode.sorted)) = .ok c.pushes :=
  Decoder.list_array_map fun p hp ↦ Push.decode_sorted_encode (h p hp)

/-- The fields of a configuration with what is written for them. -/
def entries : List Record.Entry :=
  [versionField.entry (.ofUInt64 c.version) (decode_version c.version),
    intervalField.entry (.string c.interval) rfl, rateField.entry (.string c.rate) rfl,
    nameField.entry (.string c.name) rfl, rulesField.entry _ (decode_rules c.rules),
    pushesField.entry _ (decode_pushes h)]

theorem sorted_encode : c.encode.sorted = .object (Record.written (entries h)) := by
  have hsorted : c.encode.sorted = .ofMembers
      [("version", .ofUInt64 c.version), ("interval", .string c.interval), ("rate", .string c.rate),
        ("name", .string c.name), ("rules", (Json.array (c.rules.map Rule.encode)).sorted),
        ("pushes", (Json.array (c.pushes.map Push.encode)).sorted)] := rfl
  rw [hsorted, Json.sorted, Json.sorted, Json.sortedItems_eq_map, Json.sortedItems_eq_map,
    List.map_map, List.map_map]
  rfl

theorem nodup_names_entries : ((entries h).map fun e ↦ e.check.name).Nodup := by
  change ["version", "interval", "rate", "name", "rules", "pushes"].Nodup
  decide

/-- A configuration is decoded from what it is encoded as, whatever the settings of its pushes
are. -/
theorem decode_sorted_encode : decode c.encode.sorted = .ok c := by
  have hnames := nodup_names_entries h
  rw [sorted_encode h]
  -- One step for the members, and then one for each field in the order of the entries.
  refine bind_eq_ok_iff.mpr ⟨_, Record.members_written hnames "AppConfig", ?_⟩
  refine bind_eq_ok_iff.mpr ⟨_, Record.get_written hnames (.head _), ?_⟩
  refine bind_eq_ok_iff.mpr ⟨_, Record.get_written hnames (.tail _ (.head _)), ?_⟩
  refine bind_eq_ok_iff.mpr ⟨_, Record.get_written hnames (.tail _ (.tail _ (.head _))), ?_⟩
  refine bind_eq_ok_iff.mpr
    ⟨_, Record.get_written hnames (.tail _ (.tail _ (.tail _ (.head _)))), ?_⟩
  refine bind_eq_ok_iff.mpr
    ⟨_, Record.get_written hnames (.tail _ (.tail _ (.tail _ (.tail _ (.head _))))), ?_⟩
  refine bind_eq_ok_iff.mpr
    ⟨_, Record.get_written hnames (.tail _ (.tail _ (.tail _ (.tail _ (.tail _ (.head _)))))), ?_⟩
  rfl

end

/-! ## Files -/

theorem floatsReadBack_encode (h : ∀ p ∈ c.pushes, p.settings.FloatsReadBack) :
    c.encode.FloatsReadBack := by
  have hrules : Json.ItemsReadBack (c.rules.map Rule.encode) := by
    refine Json.itemsReadBack_iff.mpr fun v hv ↦ ?_
    obtain ⟨r, -, rfl⟩ := List.mem_map.mp hv
    exact ⟨trivial, trivial, trivial, trivial⟩
  have hpushes : Json.ItemsReadBack (c.pushes.map Push.encode) := by
    refine Json.itemsReadBack_iff.mpr fun v hv ↦ ?_
    obtain ⟨p, hp, rfl⟩ := List.mem_map.mp hv
    exact ⟨trivial, trivial, h p hp, trivial⟩
  exact ⟨trivial, trivial, trivial, trivial, hrules, hpushes, trivial⟩

/-- What was saved is in the file. -/
theorem read?_of_save (hsave : c.save l t = (.ok (), t')) :
    t'.read? l = some c.fileText.toUTF8 := by
  unfold save at hsave
  split at hsave
  case h_1 => cases hsave
  case h_2 t₁ _ =>
    split at hsave
    case h_1 => cases hsave
    case h_2 t₂ hwritten =>
      obtain ⟨-, rfl⟩ := Prod.mk.inj hsave
      exact FileTree.read?_of_write? hwritten

/-- A configuration of the current version that was saved is loaded as it was, whatever stood in its
place before, and loading changes no file.  Its pushes may have any settings, not too deep, whose
numbers that are no integers are read back. -/
theorem load_of_save (hversion : c.version = currentVersion)
    (hsettings : ∀ p ∈ c.pushes, p.settings.WellFormed ∧ p.settings.FloatsReadBack)
    (hdepth : c.encode.depth ≤ Json.maxDepth) (hsave : c.save l t = (.ok (), t')) :
    load l t' = (.ok c, t') := by
  have hread : Json.read? c.fileText = some c.encode.sorted :=
    Json.read?_pretty hdepth (floatsReadBack_encode fun p hp ↦ (hsettings p hp).2)
  have hsorted : ∀ p ∈ c.pushes, p.settings.sorted = p.settings := fun p hp ↦
    Json.sorted_of_wellFormed (hsettings p hp).1
  have hcurrent : versionOf c.encode.sorted = currentVersion := by
    rw [sorted_encode hsorted, ← hversion]
    exact versionOf_object (Record.lookup?_written (nodup_names_entries hsorted) (.head _))
  rw [load_of_current (read?_of_save hsave) hread hcurrent, ofCurrent,
    decode_sorted_encode hsorted]

/-- A half. -/
def half : Binary64 := .ofDecimal false 5 (-1)

theorem spells_half : NumberParts.Spells (Json.floatText half) (.float half) := by
  have htext : Json.floatText half = ['0', '.', '5'] := by decide +kernel
  have hvalue : NumberParts.float? ⟨false, ['0'], ['5'], none⟩ = some half := by decide +kernel
  rw [htext]
  exact ⟨⟨false, ['0'], ['5'], none⟩, rfl, congrArg (Option.map Json.float) hvalue⟩

/-- A configuration that cannot be used, with settings that are no object. -/
def unusable : Config where
  version := 3
  interval := "\n"
  rate := ""
  name := "\"\\"
  rules := [⟨.net, "> 1m/s", "eth0-in"⟩, ⟨.disk, "", "/"⟩]
  pushes := [⟨.bark, "", .array [.object [("", .array []), ("a", .float half)], .null]⟩]

/-- Saved over a configuration of the second version, it is loaded as it was, with what is unusable
in it, and the file is not written again. -/
theorem load_of_save_over_older :
    ∃ t', unusable.save ⟨"conf.json", []⟩ secondVersionTree = (.ok (), t') ∧
      load ⟨"conf.json", []⟩ t' = (.ok unusable, t') := by
  have hplace : secondVersionTree.place? ⟨"conf.json", []⟩ = some ["conf.json"] :=
    (FileTree.place?_eq_some_iff (Location.steps_of_not_mem (by decide))).mpr
      ⟨by decide, [], _, rfl, rfl, by decide, rfl⟩
  have hdirectory : secondVersionTree.makeDirectory (Location.parent ⟨"conf.json", []⟩) =
      (true, secondVersionTree) := if_pos (by decide)
  have hsave : unusable.save ⟨"conf.json", []⟩ secondVersionTree =
      (.ok (), secondVersionTree.set ["conf.json"] (.file unusable.fileText.toUTF8)) := by
    have hwritten : secondVersionTree.writeText? ⟨"conf.json", []⟩ unusable.fileText = _ :=
      FileTree.write?_eq_some_iff.mpr ⟨_, hplace, rfl⟩
    rw [save, hdirectory]
    dsimp only
    rw [hwritten]
  have hfinite : half.isFinite = true := by decide +kernel
  refine ⟨_, hsave, load_of_save rfl ?_ (by decide) hsave⟩
  refine List.forall_mem_singleton.mpr ⟨?_, ⟨trivial, spells_half, trivial⟩, trivial, trivial⟩
  exact ⟨⟨⟨by decide, trivial⟩, trivial, hfinite, trivial⟩, trivial, trivial⟩

end Config

end HostWatch
