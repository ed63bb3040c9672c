import HostWatch.Proofs.Json.Record
import HostWatch.Push.Dispatcher
/-!
# Settings that are written out

The settings of a push may leave out what has a default, hold members that nothing looks at, and
have their members in any order.  A channel that is read from them is written with all of its
fields, and those of its check beside them.  What is written is read as the same channel again, so
to write out the settings of pushes changes nothing about what is sent.
-/

namespace HostWatch

namespace ResponseCheck

theorem decode_code (code : UInt16) : codeField.decode (.ofUInt64 code.toUInt64) = .ok code := by
  have hdecode : codeField.decode =
      fun v ↦ (Decoder.unsigned 65536 "u16" v).map UInt16.ofNat := rfl
  have hlt : code.toUInt64.toNat < 65536 := by simpa using code.toNat_lt
  rw [hdecode]
  dsimp only
  rw [Decoder.unsigned_ofUInt64 "u16" hlt, UInt16.toNat_toUInt64]
  exact congrArg Except.ok UInt16.ofNat_toNat

/-- The fields of a check with what is written for them. -/
def entries (c : ResponseCheck) : List Record.Entry :=
  [codeField.entry _ (decode_code c.code), bodyRegexField.entry (.string c.bodyRegex) rfl]

end ResponseCheck

/-- The names of the settings of a service: those of the target, and those of the check beside
them. -/
def Service.settingNames : Service → List String
  | webhook => ["url", "headers", "method", "body", "code", "body_regex"]
  | ios => ["token", "title", "content", "code", "body_regex"]
  | serverChan => ["sckey", "title", "desp", "code", "body_regex"]
  | bark => ["server", "device_key", "title", "body", "code", "body_regex"]

theorem Service.nodup_settingNames (s : Service) : s.settingNames.Nodup := by
  cases s <;> decide

theorem Method.decode_name (m : Method) : Target.methodField.decode (.string m.name) = .ok m := by
  cases m <;> rfl

namespace Target

/-- The service that a target belongs to. -/
def service : Target → Service
  | webhook .. => .webhook
  | ios .. => .ios
  | serverChan .. => .serverChan
  | bark .. => .bark

theorem decode_headers (headers : List (String × String)) :
    headersField.decode (.object (headers.map fun h ↦ (h.1, .string h.2))) = .ok headers :=
  Decoder.map_object_map fun _ _ ↦ rfl

/-- The fields of a target with what is written for them. -/
def entries : Target → List Record.Entry
  | webhook url headers method body =>
    [urlField.entry (.string url) rfl, headersField.entry _ (decode_headers headers),
      methodField.entry _ method.decode_name, hookBodyField.entry body rfl]
  | ios token title content =>
    [tokenField.entry (.string token) rfl, titleField.entry (.string title) rfl,
      contentField.entry (.string content) rfl]
  | serverChan sckey title desp =>
    [sckeyField.entry (.string sckey) rfl, titleField.entry (.string title) rfl,
      despField.entry (.string desp) rfl]
  | bark server deviceKey title body =>
    [serverField.entry (.string server) rfl, deviceKeyField.entry (.string deviceKey) rfl,
      titleField.entry (.string title) rfl, bodyField.entry (.string body) rfl]

/-- What is read of a service's settings is a target of the service. -/
theorem service_of_decode {service : Service} {v : Json} {r : Target × List (String × Json)}
    (h : decode service v = .ok r) : r.1.service = service := by
  cases service
  all_goals
    -- One step for the members, and then one for each field.
    obtain ⟨members, -, h⟩ := bind_eq_ok_iff.mp h
    obtain ⟨_, -, h⟩ := bind_eq_ok_iff.mp h
    obtain ⟨_, -, h⟩ := bind_eq_ok_iff.mp h
    obtain ⟨_, -, h⟩ := bind_eq_ok_iff.mp h
  case webhook | bark =>
    obtain ⟨_, -, h⟩ := bind_eq_ok_iff.mp h
    exact Except.ok.inj h ▸ rfl
  case ios | serverChan => exact Except.ok.inj h ▸ rfl

variable {rest : List Record.Entry}

/-- What is written for a target and for more fields is read as the target. -/
theorem decode_written (t : Target)
    (hnames : ((t.entries ++ rest).map fun e ↦ e.check.name).Nodup) :
    decode t.service (.object (Record.written (t.entries ++ rest))) =
      .ok (t, Record.written (t.entries ++ rest)) := by
  have hsubset : t.entries.map Record.Entry.check ⊆ (t.entries ++ rest).map Record.Entry.check :=
    List.map_subset _ (List.subset_append_left _ _)
  cases t
  all_goals
    refine bind_eq_ok_iff.mpr ⟨_, Record.objectMembers_written hnames _ hsubset, ?_⟩
    refine bind_eq_ok_iff.mpr ⟨_, Record.get_written hnames (.head _), ?_⟩
    refine bind_eq_ok_iff.mpr ⟨_, Record.get_written hnames (.tail _ (.head _)), ?_⟩
    refine bind_eq_ok_iff.mpr ⟨_, Record.get_written hnames (.tail _ (.tail _ (.head _))), ?_⟩
  case webhook | bark =>
    refine bind_eq_ok_iff.mpr
      ⟨_, Record.get_written hnames (.tail _ (.tail _ (.tail _ (.head _)))), ?_⟩
    rfl
  case ios | serverChan => rfl

/-- Headers that are read are written in the order of their names. -/
theorem wellFormed_headers {v : Json} {headers : List (String × String)} (hv : v.WellFormed)
    (h : headersField.decode v = .ok headers) :
    (Json.object (headers.map fun h ↦ (h.1, .string h.2))).WellFormed := by
  cases v with
  | object members =>
      have hkeys : members.map Prod.fst = headers.map Prod.fst := by
        rw [← List.forall₂_eq_eq_eq, List.forall₂_map_left_iff, List.forall₂_map_right_iff]
        refine (mapM_eq_ok_iff.mp h).imp ?_
        rintro ⟨key, value⟩ header hheader
        cases value with
        | string s => exact congrArg Prod.fst (Except.ok.inj hheader)
        | null | bool | integer | float | array | object => cases hheader
      constructor
      · rw [Json.keysSorted_iff_pairwise, List.pairwise_map, ← List.pairwise_map, ← hkeys,
          List.pairwise_map]
        exact Json.keysSorted_iff_pairwise.mp hv.1
      · rw [Json.membersWellFormed_iff, List.forall_mem_map]
        exact fun _ _ ↦ trivial
  | null | bool | integer | float | string | array => cases h

/-- The values that a target is written with are well formed if its settings are. -/
theorem wellFormed_members {service : Service} {v : Json} {r : Target × List (String × Json)}
    (hv : v.WellFormed) (h : decode service v = .ok r) : ∀ m ∈ r.1.members, m.2.WellFormed := by
  cases service
  all_goals
    obtain ⟨members, hmembers, h⟩ := bind_eq_ok_iff.mp h
    obtain ⟨_, -, h⟩ := bind_eq_ok_iff.mp h
    obtain ⟨headers, hheaders, h⟩ := bind_eq_ok_iff.mp h
    obtain ⟨_, -, h⟩ := bind_eq_ok_iff.mp h
  case webhook =>
    obtain ⟨body, hbody, h⟩ := bind_eq_ok_iff.mp h
    obtain rfl := Except.ok.inj h
    obtain rfl := Record.eq_object_of_objectMembers hmembers
    have hvalues := Json.membersWellFormed_iff.mp hv.2
    have hheaders : (Json.object (headers.map fun h ↦ (h.1, .string h.2))).WellFormed := by
      rcases Field.get_eq_ok hheaders with ⟨w, hw, hheaders⟩ | habsent
      · exact wellFormed_headers (hvalues _ hw) hheaders
      · obtain rfl := Option.some.inj habsent
        exact ⟨trivial, trivial⟩
    have hbody : body.WellFormed := by
      rcases Field.get_eq_ok hbody with ⟨w, hw, hbody⟩ | habsent
      · obtain rfl := Except.ok.inj hbody
        exact hvalues _ hw
      · obtain rfl := Option.some.inj habsent
        trivial
    exact Json.membersWellFormed_iff.mp ⟨trivial, hheaders, trivial, hbody, trivial⟩
  case bark =>
    obtain ⟨_, -, h⟩ := bind_eq_ok_iff.mp h
    obtain rfl := Except.ok.inj h
    exact Json.membersWellFormed_iff.mp ⟨trivial, trivial, trivial, trivial, trivial⟩
  case ios | serverChan =>
    obtain rfl := Except.ok.inj h
    exact Json.membersWellFormed_iff.mp ⟨trivial, trivial, trivial, trivial⟩

end Target

namespace Channel

/-- The fields of a channel with what is written for them: those of its target, and those of its
check beside them. -/
def entries (c : Channel) : List Record.Entry := c.target.entries ++ c.check.entries

theorem encode_eq (c : Channel) : c.encode = .object (Record.written c.entries) := by
  obtain ⟨target, check⟩ := c
  cases target <;> rfl

theorem map_name_entries (c : Channel) :
    (c.entries.map fun e ↦ e.check.name) = c.target.service.settingNames := by
  obtain ⟨target, check⟩ := c
  cases target <;> rfl

/-- A channel is read from what it is written as. -/
theorem decode_encode (c : Channel) : decode c.target.service c.encode = .ok c := by
  have hnames : (c.entries.map fun e ↦ e.check.name).Nodup := by
    rw [map_name_entries]
    exact c.target.service.nodup_settingNames
  have hsubset : ResponseCheck.fields ⊆ c.entries.map Record.Entry.check :=
    List.map_subset Record.Entry.check (List.subset_append_right c.target.entries c.check.entries)
  rw [encode_eq]
  refine bind_eq_ok_iff.mpr ⟨_, c.target.decode_written hnames, ?_⟩
  refine bind_eq_ok_iff.mpr ⟨c.check, ?_, rfl⟩
  refine bind_eq_ok_iff.mpr ⟨(), Record.checkMembers_written hnames hsubset, ?_⟩
  refine bind_eq_ok_iff.mpr ⟨_, Record.get_written hnames (List.mem_append_right _ (.head _)), ?_⟩
  refine bind_eq_ok_iff.mpr
    ⟨_, Record.get_written hnames (List.mem_append_right _ (.tail _ (.head _))), ?_⟩
  rfl

/-- A well-formed value is written for a channel if its settings are one. -/
theorem wellFormed_encode {service : Service} {v : Json} {c : Channel} (hv : v.WellFormed)
    (h : decode service v = .ok c) : c.encode.WellFormed := by
  obtain ⟨r, hr, h⟩ := bind_eq_ok_iff.mp h
  obtain ⟨check, -, h⟩ := bind_eq_ok_iff.mp h
  obtain rfl := Except.ok.inj h
  apply Json.wellFormed_ofMembers
  intro m hm
  rcases List.mem_append.mp hm with hm | hm
  · exact Target.wellFormed_members hv hr m hm
  · rcases List.mem_pair.mp hm with rfl | rfl <;> trivial

theorem map_fst_members (c : Channel) :
    (c.target.members ++ c.check.members).map Prod.fst = c.target.service.settingNames := by
  obtain ⟨target, check⟩ := c
  cases target <;> rfl

theorem mem_sortMembers_iff (c : Channel) (m : String × Json) :
    m ∈ Json.sortMembers (c.target.members ++ c.check.members) ↔
      m ∈ c.target.members ++ c.check.members := by
  refine ⟨Json.mem_of_mem_sortMembers, fun hm ↦ ?_⟩
  refine Json.mem_of_lookup? (Json.lookup?_sortMembers_of_mem ?_ hm)
  rw [map_fst_members]
  exact c.target.service.nodup_settingNames

end Channel

namespace Push

variable {p : Push} {c : Channel}

theorem channel_eq_ok_iff : p.channel = .ok c ↔
    Channel.decode p.service p.settings = .ok c ∧ ∃ q, c.check.pattern? = .ok q := by
  unfold channel
  split
  case h_1 e he =>
    rw [he]
    exact ⟨nofun, nofun⟩
  case h_2 c' hc' =>
    rw [hc']
    split
    case h_1 e he =>
      refine ⟨nofun, ?_⟩
      rintro ⟨hc, q, hq⟩
      obtain rfl := Except.ok.inj hc
      cases hq.symm.trans he
    case h_2 q hq =>
      constructor
      · intro hc
        obtain rfl := Except.ok.inj hc
        exact ⟨rfl, q, hq⟩
      · rintro ⟨hc, -⟩
        exact congrArg Except.ok (Except.ok.inj hc)

/-- The push with its settings written out, if they can be read. -/
def normalized (p : Push) : Push :=
  match p.channel with
  | .ok c => { p with settings := c.encode }
  | .error _ => p

theorem normalized_of_channel (h : p.channel = .ok c) :
    p.normalized = { p with settings := c.encode } := by
  unfold normalized
  rw [h]

theorem service_of_channel (h : p.channel = .ok c) : c.target.service = p.service := by
  obtain ⟨r, hr, hcheck⟩ := bind_eq_ok_iff.mp (channel_eq_ok_iff.mp h).1
  obtain ⟨check, -, hc⟩ := bind_eq_ok_iff.mp hcheck
  obtain rfl := Except.ok.inj hc
  exact Target.service_of_decode hr

/-- Whatever the name is, the settings that are written are read as the channel. -/
theorem channel_encode (h : p.channel = .ok c) (name : String) :
    channel ⟨p.service, name, c.encode⟩ = .ok c := by
  refine channel_eq_ok_iff.mpr ⟨?_, (channel_eq_ok_iff.mp h).2⟩
  rw [← service_of_channel h]
  exact c.decode_encode

/-- To write out the settings changes nothing about what is read, also where nothing can be. -/
theorem channel_normalized (p : Push) : p.normalized.channel = p.channel := by
  cases h : p.channel with
  | ok c =>
      rw [normalized_of_channel h]
      exact channel_encode h p.name
  | error e =>
      unfold normalized
      rw [h]
      exact h

theorem name_normalized (p : Push) : p.normalized.name = p.name := by
  unfold normalized
  split <;> rfl

/-- Settings that were written out stay as they are. -/
theorem normalized_normalized (p : Push) : p.normalized.normalized = p.normalized := by
  cases h : p.channel with
  | ok c =>
      have hnormalized := normalized_of_channel (p.channel_normalized.trans h)
      rw [hnormalized, normalized_of_channel h]
  | error e =>
      have hself : p.normalized = p := by
        unfold normalized
        rw [h]
      rw [hself, hself]

end Push

/-- A dispatcher looks at nothing of a push but its name and its channel. -/
theorem Dispatcher.readChannels_congr {pushes pushes' : List Push}
    (h : List.Forall₂ (fun p p' ↦ p.name = p'.name ∧ p.channel = p'.channel) pushes pushes') :
    readChannels pushes = readChannels pushes' := by
  induction h with
  | nil => rfl
  | cons hp _ ih => rw [readChannels, readChannels, ih, hp.1, hp.2]

namespace Push

variable {p : Push} {c : Channel}

/-- Settings that can be read can be written out: with a member for each setting of the service,
whatever was left out, and with nothing else.  What is written is read as the same channel, under
any name.  It is written again as it is, and a dispatcher that gets it among other pushes does all
that it would have done. -/
theorem normalized_keeps_channel (h : p.channel = .ok c) :
    (∀ name, channel ⟨p.service, name, c.encode⟩ = .ok c) ∧
      (∃ members, c.encode = .object members ∧
        (∀ m, m ∈ members ↔ m ∈ c.target.members ++ c.check.members) ∧
        (c.target.members ++ c.check.members).map Prod.fst = p.service.settingNames) ∧
      (p.settings.WellFormed → c.encode.WellFormed) ∧
      p.normalized = { p with settings := c.encode } ∧ p.normalized.normalized = p.normalized ∧
      ∀ server before after rate, Dispatcher.new server (before ++ p.normalized :: after) rate =
        Dispatcher.new server (before ++ p :: after) rate := by
  refine ⟨channel_encode h, ⟨_, rfl, c.mem_sortMembers_iff, ?_⟩, ?_, normalized_of_channel h,
    p.normalized_normalized, ?_⟩
  · rw [c.map_fst_members, service_of_channel h]
  · intro hformed
    exact Channel.wellFormed_encode hformed (channel_eq_ok_iff.mp h).1
  · intro server before after rate
    have hsame : ∀ pushes : List Push, List.Forall₂
        (fun p p' ↦ p.name = p'.name ∧ p.channel = p'.channel) pushes pushes :=
      fun pushes ↦ List.forall₂_same.mpr fun _ _ ↦ ⟨rfl, rfl⟩
    have hread : Dispatcher.readChannels (before ++ p.normalized :: after) =
        Dispatcher.readChannels (before ++ p :: after) :=
      Dispatcher.readChannels_congr (List.rel_append (hsame before)
        (.cons ⟨p.name_normalized, p.channel_normalized⟩ (hsame after)))
    unfold Dispatcher.new
    rw [hread]

/-- A push with a member that nothing looks at, with its method as an object, and without a body and
a status. -/
def sparseHook : Push :=
  ⟨.webhook, "hook", .object [("body_regex", .string "^ok$"),
    ("headers", .object [("accept", .string "*/*")]), ("method", .object [("GET", .null)]),
    ("retries", .array [.ofUInt64 3]), ("url", .string "http://localhost/")]⟩

/-- Its channel. -/
def sparseHookChannel : Channel :=
  ⟨.webhook "http://localhost/" [("accept", "*/*")] .get .null, ⟨0, "^ok$"⟩⟩

/-- The channel is written with all its fields and read again under any name; written once more it
stays as it is, and a dispatcher has the same channel from it. -/
theorem normalized_keeps_channel_of_sparseHook :
    sparseHook.channel = .ok sparseHookChannel ∧
      channel ⟨.webhook, "", sparseHookChannel.encode⟩ = .ok sparseHookChannel ∧
      sparseHook.normalized.normalized = sparseHook.normalized ∧
      (Dispatcher.new "" [sparseHook.normalized] .fallback).1.channels =
        [("hook", sparseHookChannel)] := by
  have hpattern : sparseHookChannel.check.pattern? =
      .ok (some (.seq (.look .textStart) (.seq (.literal ['o', 'k']) (.look .textEnd)))) := by
    decide +kernel
  have hchannel : sparseHook.channel = .ok sparseHookChannel :=
    channel_eq_ok_iff.mpr ⟨rfl, _, hpattern⟩
  obtain ⟨hread, -, -, -, hagain, hnew⟩ := normalized_keeps_channel hchannel
  refine ⟨hchannel, hread "", hagain, ?_⟩
  have hsame := hnew "" [] [] .fallback
  rw [List.nil_append, List.nil_append] at hsame
  rw [hsame]
  change (Dispatcher.readChannels [sparseHook]).1 = _
  rw [Dispatcher.readChannels, hchannel]
  rfl

end Push

end HostWatch
