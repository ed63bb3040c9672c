import HostWatch.Proofs.Config.Saved
import HostWatch.Proofs.Json.Compact
import HostWatch.Push.Channel
/-!
# The shape of a body

A webhook carries nothing for null, a string as it is filled, and all else as JSON.  The
placeholders are filled before the JSON is written, so whatever the alerts hold, what is read back
has the shape of the body: only the strings that are values differ, each of which is the template it
was, filled.
-/

namespace HostWatch

namespace Json

/-- The second value has the shape of the first, with its strings filled: the keys, the order and
number of items, numbers, booleans and nulls are the same. -/
inductive Filled (fill : String → String) : Json → Json → Prop
  | null : Filled fill null null
  | bool (b : Bool) : Filled fill (bool b) (bool b)
  | integer (n : WideInt) : Filled fill (integer n) (integer n)
  | float (x : Binary64) : Filled fill (float x) (float x)
  | string (s : String) : Filled fill (string s) (string (fill s))
  | array {items filled : List Json} (values : List.Forall₂ (Filled fill) items filled) :
    Filled fill (array items) (array filled)
  | object {members filled : List (String × Json)}
    (keys : members.map Prod.fst = filled.map Prod.fst)
    (values : List.Forall₂ (Filled fill) (members.map Prod.snd) (filled.map Prod.snd)) :
    Filled fill (object members) (object filled)

variable (name alerts : String)

theorem fillMembers_eq_map (members : List (String × Json)) :
    fillMembers name alerts members = members.map fun m ↦ (m.1, m.2.fillStrings name alerts) := by
  induction members with
  | nil => rfl
  | cons m rest ih => rw [fillMembers, ih, List.map_cons]

/-- Keys are not filled. -/
theorem map_fst_fillMembers (members : List (String × Json)) :
    (fillMembers name alerts members).map Prod.fst = members.map Prod.fst := by
  rw [fillMembers_eq_map, List.map_map]
  rfl

mutual

/-- Filling keeps the shape. -/
theorem filled_fillStrings :
    ∀ v : Json, Filled (Template.fill · name alerts) v (v.fillStrings name alerts)
  | null => .null
  | bool b => .bool b
  | integer n => .integer n
  | float x => .float x
  | string s => .string s
  | array items => .array (filled_fillItems items)
  | object members => .object (map_fst_fillMembers name alerts members).symm
      (filled_fillMembers members)

/-- It does so item by item. -/
theorem filled_fillItems : ∀ items : List Json,
    List.Forall₂ (Filled (Template.fill · name alerts)) items (fillItems name alerts items)
  | [] => .nil
  | v :: rest => .cons (filled_fillStrings v) (filled_fillItems rest)

/-- It does so member by member. -/
theorem filled_fillMembers : ∀ members : List (String × Json),
    List.Forall₂ (Filled (Template.fill · name alerts)) (members.map Prod.snd)
      ((fillMembers name alerts members).map Prod.snd)
  | [] => .nil
  | (_, v) :: rest => .cons (filled_fillStrings v) (filled_fillMembers rest)

end

mutual

/-- Filling keeps objects in order and makes nothing deeper. -/
theorem isOrdered_fillStrings : ∀ {d : Nat} {v : Json}, IsOrdered d v →
    IsOrdered d (v.fillStrings name alerts)
  | _, null, h | _, bool _, h | _, integer _, h | _, float _, h => h
  | _, string _, h => ⟨rfl, h.2⟩
  | d, array items, h => by
      obtain ⟨d, rfl, -⟩ := exists_eq_add_one h.2
      exact isOrdered_array.mpr (isOrdered_fillItems (isOrdered_array.mp h))
  | d, object members, h => by
      obtain ⟨d, rfl, -⟩ := exists_eq_add_one h.2
      obtain ⟨hkeys, hvalues⟩ := isOrdered_object.mp h
      refine isOrdered_object.mpr ⟨?_, isOrdered_fillMembers hvalues⟩
      rw [keysSorted_iff_pairwise] at hkeys ⊢
      rw [fillMembers_eq_map, List.pairwise_map]
      exact hkeys

/-- It does so for items. -/
theorem isOrdered_fillItems : ∀ {d : Nat} {items : List Json}, (∀ v ∈ items, IsOrdered d v) →
    ∀ v ∈ fillItems name alerts items, IsOrdered d v
  | _, [], h => h
  | _, _ :: _, h =>
      List.forall_mem_cons.mpr ⟨isOrdered_fillStrings (List.forall_mem_cons.mp h).1,
        isOrdered_fillItems (List.forall_mem_cons.mp h).2⟩

/-- It does so for members. -/
theorem isOrdered_fillMembers : ∀ {d : Nat} {members : List (String × Json)},
    (∀ m ∈ members, IsOrdered d m.2) → ∀ m ∈ fillMembers name alerts members, IsOrdered d m.2
  | _, [], _ => fun _ h ↦ absurd h List.not_mem_nil
  | _, (_, _) :: _, h =>
      List.forall_mem_cons.mpr ⟨isOrdered_fillStrings (List.forall_mem_cons.mp h).1,
        isOrdered_fillMembers (List.forall_mem_cons.mp h).2⟩

end

mutual

/-- Filling leaves the numbers alone. -/
theorem floatsReadBack_fillStrings : ∀ {v : Json}, FloatsReadBack v →
    FloatsReadBack (v.fillStrings name alerts)
  | null, h | bool _, h | integer _, h | float _, h => h
  | string _, _ => trivial
  | array _, h => itemsReadBack_fillItems h
  | object _, h => membersReadBack_fillMembers h

/-- It does so for items. -/
theorem itemsReadBack_fillItems : ∀ {items : List Json}, ItemsReadBack items →
    ItemsReadBack (fillItems name alerts items)
  | [], _ => trivial
  | _ :: _, ⟨hv, hrest⟩ => ⟨floatsReadBack_fillStrings hv, itemsReadBack_fillItems hrest⟩

/-- It does so for members. -/
theorem membersReadBack_fillMembers : ∀ {members : List (String × Json)}, MembersReadBack members →
    MembersReadBack (fillMembers name alerts members)
  | [], _ => trivial
  | (_, _) :: _, ⟨hv, hrest⟩ => ⟨floatsReadBack_fillStrings hv, membersReadBack_fillMembers hrest⟩

end

end Json

namespace Target

variable {body : Json}

/-- What is neither null nor a string is carried as JSON. -/
theorem hookBody?_eq_compact (hnull : body ≠ .null) (hstring : ∀ s, body ≠ .string s)
    (name : String) (alerts : List Alert) :
    hookBody? body name alerts = some (body.fillStrings name (Alert.list alerts)).compact := by
  cases body with
  | null => exact absurd rfl hnull
  | string s => exact absurd rfl (hstring s)
  | bool | integer | float | array | object => rfl

theorem hookBody?_eq_none_iff {name : String} {alerts : List Alert} :
    hookBody? body name alerts = none ↔ body = .null := by
  constructor
  · intro h
    by_contra hnull
    by_cases hstring : ∀ s, body ≠ .string s
    · cases (hookBody?_eq_compact hnull hstring name alerts).symm.trans h
    · push Not at hstring
      obtain ⟨s, rfl⟩ := hstring
      cases h
  · rintro rfl
    rfl

/-- A webhook carries nothing if its body is null, and only then; a string is carried as it is
filled.  Everything else is carried as JSON, which is read back as a value of the shape of the body,
each of its strings filled: the alerts only ever change what these strings hold.  Here the body is
not too deep, and its numbers that are no integers are read back. -/
theorem hookBody?_keeps_shape (body : Json) (name : String) (alerts : List Alert) :
    (hookBody? body name alerts = none ↔ body = .null) ∧
      (∀ s, body = .string s →
        hookBody? body name alerts = some (Template.fillAlerts s name alerts)) ∧
      (body ≠ .null → (∀ s, body ≠ .string s) → body.WellFormed → body.depth ≤ Json.maxDepth →
        body.FloatsReadBack → ∃ text v, hookBody? body name alerts = some text ∧
          Json.read? text = some v ∧
          Json.Filled (fun s ↦ Template.fillAlerts s name alerts) body v) := by
  refine ⟨hookBody?_eq_none_iff, ?_, ?_⟩
  · rintro s rfl
    rfl
  · intro hnull hstring hformed hdepth hfloats
    have hordered : body.IsOrdered Json.maxDepth := ⟨Json.sorted_of_wellFormed hformed, hdepth⟩
    refine ⟨_, _, hookBody?_eq_compact hnull hstring name alerts, ?_,
      Json.filled_fillStrings name (Alert.list alerts) body⟩
    exact (Json.isOrdered_fillStrings name _ hordered).read?_compact
      (Json.floatsReadBack_fillStrings name _ hfloats)

/-- A body with a placeholder in a key, and with text that JSON has to escape. -/
def sampleBody : Json :=
  .object [("text", .string "\"{{msg}}\" from {{name}}\n\u0001é"),
    ("values", .array [.integer (.ofUInt64 7), .float Config.half, .bool true, .null, .array []]),
    ("{{name}}", .object [("", .string "\\")])]

/-- Alerts in which quotes, backslashes, line breaks and control characters stand. -/
def sampleAlerts : List Alert :=
  [⟨"\",\"x\":\"\\", "\n\r\t\u0000", ""⟩, ⟨"\x7d]", "é", "\x7b\x7bname\x7d\x7d"⟩]

/-- What is sent is JSON of the same shape, whatever quotes and backslashes the alerts and the name
bring in; the placeholder in the key stays. -/
theorem hookBody?_keeps_shape_of_quotes : sampleBody ≠ .null ∧ (∀ s, sampleBody ≠ .string s) ∧
    sampleBody.WellFormed ∧ sampleBody.depth ≤ Json.maxDepth ∧ sampleBody.FloatsReadBack ∧
    ∃ text v, hookBody? sampleBody "\"\\" sampleAlerts = some text ∧ Json.read? text = some v ∧
      Json.Filled (fun s ↦ Template.fillAlerts s "\"\\" sampleAlerts) sampleBody v := by
  have hnull : sampleBody ≠ .null := nofun
  have hstring : ∀ s, sampleBody ≠ .string s := nofun
  have hfinite : Config.half.isFinite = true := by decide +kernel
  have hformed : sampleBody.WellFormed :=
    ⟨⟨by decide, by decide, trivial⟩, trivial,
      ⟨trivial, hfinite, trivial, trivial, trivial, trivial⟩, ⟨trivial, trivial, trivial⟩, trivial⟩
  have hdepth : sampleBody.depth ≤ Json.maxDepth := by decide
  have hfloats : sampleBody.FloatsReadBack :=
    ⟨trivial, ⟨trivial, Config.spells_half, trivial, trivial, trivial, trivial⟩, ⟨trivial, trivial⟩,
      trivial⟩
  exact ⟨hnull, hstring, hformed, hdepth, hfloats,
    (hookBody?_keeps_shape sampleBody "\"\\" sampleAlerts).2.2 hnull hstring hformed hdepth
      hfloats⟩

end Target

end HostWatch
