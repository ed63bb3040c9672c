import HostWatch.Proofs.Status.Parts
import HostWatch.Proofs.Status.Usage
/-!
# Memory from partial sections

A memory section tells what it knows, field by field.  It may leave fields out, which keep what was
known of them before, and it may tell a field again, of which the last value counts.  The available
memory alone never stays as it was: where it is not told, it is what is free or cached.  All that
matters of a section is which values it tells for each field, so lines may change places and unknown
fields may come and go.
-/

namespace HostWatch

/-- The fields of the memory section. -/
inductive MemoryField where
  | memTotal | memFree | memAvailable | cached | swapTotal | swapFree | swapCached
  deriving DecidableEq, Repr

namespace MemoryField

open Status (setField setFields)

/-- The name of the field. -/
def key : MemoryField → String
  | memTotal => "MemTotal:"
  | memFree => "MemFree:"
  | memAvailable => "MemAvailable:"
  | cached => "Cached:"
  | swapTotal => "SwapTotal:"
  | swapFree => "SwapFree:"
  | swapCached => "SwapCached:"

/-- The part of memory and swap that the field tells. -/
def part : MemoryField → Memory × Swap → Size
  | memTotal, m => m.1.total
  | memFree, m => m.1.free
  | memAvailable, m => m.1.available
  | cached, m => m.1.cached
  | swapTotal, m => m.2.total
  | swapFree, m => m.2.free
  | swapCached, m => m.2.cached

/-- What a status knows of the part. -/
def part? : MemoryField → Status → Option Size
  | memTotal, s => s.memory.map Memory.total
  | memFree, s => s.memory.map Memory.free
  | memAvailable, s => s.memory.map Memory.available
  | cached, s => s.memory.map Memory.cached
  | swapTotal, s => s.swap.map Swap.total
  | swapFree, s => s.swap.map Swap.free
  | swapCached, s => s.swap.map Swap.cached

/-- Where nothing is known the parts are zero. -/
theorem part_getD (f : MemoryField) (s : Status) :
    f.part (s.memory.getD .unknown, s.swap.getD .unknown) = (f.part? s).getD .zero := by
  cases f with
  | memTotal | memFree | memAvailable | cached =>
      rw [part, part?]
      cases s.memory <;> rfl
  | swapTotal | swapFree | swapCached =>
      rw [part, part?]
      cases s.swap <;> rfl

variable {α β : Type} {m : Memory × Swap}

/-- The values that are told for the field, in their order. -/
def values (f : MemoryField) (entries : List (String × α)) : List α :=
  (entries.filter fun e ↦ e.1 = f.key).map Prod.snd

theorem mem_values_iff {f : MemoryField} {entries : List (String × α)} {x : α} :
    x ∈ f.values entries ↔ (f.key, x) ∈ entries := by
  constructor
  · intro h
    obtain ⟨⟨key, x⟩, he, rfl⟩ := List.mem_map.mp h
    obtain ⟨he, hkey⟩ := List.mem_filter.mp he
    obtain rfl : key = f.key := of_decide_eq_true hkey
    exact he
  · intro h
    exact List.mem_map.mpr ⟨_, List.mem_filter.mpr ⟨h, decide_eq_true rfl⟩, rfl⟩

theorem values_cons (f : MemoryField) (e : String × α) (entries : List (String × α)) :
    f.values (e :: entries) =
      if e.1 = f.key then e.2 :: f.values entries else f.values entries := by
  unfold values
  rw [List.filter_cons]
  by_cases he : e.1 = f.key
  · rw [if_pos (decide_eq_true he), if_pos he, List.map_cons]
  · rw [if_neg (by simpa using he), if_neg he]

theorem values_append (f : MemoryField) (entries more : List (String × α)) :
    f.values (entries ++ more) = f.values entries ++ f.values more := by
  rw [values, List.filter_append, List.map_append, values, values]

theorem values_map (f : MemoryField) (g : α → β) (entries : List (String × α)) :
    f.values (entries.map fun e ↦ (e.1, g e.2)) = (f.values entries).map g := by
  rw [values, List.filter_map, List.map_map, values, List.map_map]
  rfl

/-- Of a field that is told once at most, the order does not matter, and neither do other fields. -/
theorem values_of_perm {f : MemoryField} {entries entries' more : List (String × α)}
    (hperm : entries'.Perm (entries ++ more)) (hmore : ∀ e ∈ more, e.1 ≠ f.key)
    (hone : (f.values entries).length ≤ 1) : f.values entries' = f.values entries := by
  have hnil : f.values more = [] := by
    apply List.eq_nil_iff_forall_not_mem.mpr
    intro x hx
    exact hmore _ (mem_values_iff.mp hx) rfl
  have hvalues : (f.values entries').Perm (f.values entries) := by
    have hboth : (f.values entries').Perm (f.values (entries ++ more)) :=
      (hperm.filter _).map Prod.snd
    rwa [values_append, hnil, List.append_nil] at hboth
  rcases hlist : f.values entries with - | ⟨n, rest⟩
  · rw [hlist] at hvalues
    exact hvalues.eq_nil
  · rw [hlist] at hvalues hone
    obtain rfl : rest = [] := List.eq_nil_of_length_eq_zero (by simpa using hone)
    exact hvalues.eq_singleton

/-! ## Field by field -/

theorem setField_of_ne {e : String × Size} (h : ∀ g : MemoryField, e.1 ≠ g.key) :
    setField m e = m :=
  (if_neg (h memTotal)).trans <| (if_neg (h memFree)).trans <| (if_neg (h memAvailable)).trans <|
    (if_neg (h cached)).trans <| (if_neg (h swapTotal)).trans <| (if_neg (h swapFree)).trans <|
      if_neg (h swapCached)

/-- A field changes its own part only. -/
theorem part_setField (f : MemoryField) (m : Memory × Swap) (e : String × Size) :
    f.part (setField m e) = if e.1 = f.key then e.2 else f.part m := by
  by_cases h : ∃ g : MemoryField, e.1 = g.key
  · obtain ⟨g, hg⟩ := h
    obtain ⟨_, size⟩ := e
    subst hg
    cases g <;> cases f <;> rfl
  · push Not at h
    rw [setField_of_ne h, if_neg (h f)]

/-- After some fields each part is the last value that is told for it, or what it was. -/
theorem part_foldl_setField (f : MemoryField) (m : Memory × Swap) (fields : List (String × Size)) :
    f.part (fields.foldl setField m) = (f.values fields).getLastD (f.part m) := by
  induction fields generalizing m with
  | nil => rfl
  | cons e rest ih =>
      rw [List.foldl_cons, ih, part_setField, values_cons]
      split
      case isTrue => rw [List.getLastD_cons]
      case isFalse => rfl

/-- Memory and swap with the given parts; what is used is the rest. -/
def assemble (value : MemoryField → Size) : Memory × Swap where
  fst := {
    total := value memTotal
    available := value memAvailable
    free := value memFree
    used := value memTotal - value memAvailable
    cached := value cached }
  snd := {
    total := value swapTotal
    free := value swapFree
    used := value swapTotal - value swapFree
    cached := value swapCached }

theorem part_assemble (f : MemoryField) (value : MemoryField → Size) :
    f.part (assemble value) = value f := by
  cases f <;> rfl

/-- What each part is after some fields: the last value, or what it was.  The available memory is
what is free or cached where it is not told. -/
def after (m : Memory × Swap) (fields : List (String × Size)) (f : MemoryField) : Size :=
  if f = memAvailable ∧ f.values fields = [] then
    (memFree.values fields).getLastD m.1.free + (cached.values fields).getLastD m.1.cached
  else (f.values fields).getLastD (f.part m)

theorem after_of_ne {f : MemoryField} (h : f ≠ memAvailable) (m : Memory × Swap)
    (fields : List (String × Size)) :
    after m fields f = (f.values fields).getLastD (f.part m) := if_neg fun hf ↦ h hf.1

theorem after_of_values {f : MemoryField} {fields : List (String × Size)} (h : f.values fields ≠ [])
    (m : Memory × Swap) : after m fields f = (f.values fields).getLastD (f.part m) :=
  if_neg fun hf ↦ h hf.2

theorem after_memAvailable {fields : List (String × Size)} (h : memAvailable.values fields = [])
    (m : Memory × Swap) :
    after m fields memAvailable = after m fields memFree + after m fields cached := by
  rw [after_of_ne (f := memFree) nofun, after_of_ne (f := cached) nofun]
  exact if_pos ⟨rfl, h⟩

/-- Only the values of each field matter. -/
theorem after_congr {fields fields' : List (String × Size)}
    (h : ∀ f : MemoryField, f.values fields = f.values fields') (m : Memory × Swap) :
    after m fields = after m fields' := by
  funext f
  unfold after
  rw [h f, h memFree, h cached]

/-- The sizes that are told in units of 1024 bytes. -/
def sizes (entries : List (String × Nat)) : List (String × Size) :=
  entries.map fun e ↦ (e.1, .ofNat (e.2 * 1024))

theorem values_sizes (f : MemoryField) (entries : List (String × Nat)) :
    f.values (sizes entries) = (f.values entries).map fun n ↦ .ofNat (n * 1024) :=
  f.values_map (fun n ↦ Size.ofNat (n * 1024)) entries

theorem toNat_after_of_getLast? {f : MemoryField} {entries : List (String × Nat)} {n : Nat}
    (h : (f.values entries).getLast? = some n) (m : Memory × Swap) :
    (after m (sizes entries) f).toNat = min (n * 1024) wordMax := by
  have hlast : (f.values (sizes entries)).getLast? = some (.ofNat (n * 1024)) := by
    rw [values_sizes, List.getLast?_map, h]
    rfl
  have hne : f.values (sizes entries) ≠ [] := by
    intro hnil
    rw [hnil] at hlast
    cases hlast
  rw [after_of_values hne, List.getLastD_eq_getLast?, hlast]
  exact Size.toNat_ofNat (n * 1024)

theorem after_of_values_eq_nil {f : MemoryField} {entries : List (String × Nat)}
    (hf : f ≠ memAvailable) (h : f.values entries = []) (m : Memory × Swap) :
    after m (sizes entries) f = f.part m := by
  rw [after_of_ne hf, values_sizes, h]
  rfl

/-- After a section memory and swap are made of what each part is then. -/
theorem setFields_eq_assemble (m : Memory × Swap) (fields : List (String × Size)) :
    setFields m fields = assemble (after m fields) := by
  have hpart (f : MemoryField) := part_foldl_setField f m fields
  have hnamed : (fields.any fun e ↦ e.1 = "MemAvailable:") = true ↔
      memAvailable.values fields ≠ [] := by
    rw [values, ne_eq, List.map_eq_nil_iff, List.filter_eq_nil_iff, List.any_eq_true]
    push Not
    rfl
  unfold setFields
  generalize fields.foldl setField m = r at hpart ⊢
  have hother (f : MemoryField) (hf : f ≠ memAvailable) : after m fields f = f.part r := by
    rw [after_of_ne hf, hpart]
  have havailable : after m fields memAvailable =
      if (fields.any fun e ↦ e.1 = "MemAvailable:") = true then r.1.available
      else r.1.free + r.1.cached := by
    by_cases htold : memAvailable.values fields = []
    · rw [after_memAvailable htold, hother memFree nofun, hother cached nofun,
        if_neg (mt hnamed.mp (not_not_intro htold))]
      rfl
    · rw [after_of_values htold, ← hpart, if_pos (hnamed.mpr htold)]
      rfl
  rw [assemble, havailable, hother memTotal nofun, hother memFree nofun, hother cached nofun,
    hother swapTotal nofun, hother swapFree nofun, hother swapCached nofun]
  rfl

end MemoryField

namespace Section

/-- The lines of a section that are not blank. -/
def fieldLines (text : List Char) : List (List Char) := (trimmedLines text).filter (· ≠ [])

/-- The line tells a field: its name, its value, and whatever stands behind them. -/
def TellsField (line : List Char) (entry : String × Nat) : Prop :=
  ∃ value rest, words line = entry.1.toList :: value :: rest ∧ readUnsigned? value = some entry.2

/-- A line tells one field at most. -/
theorem tellsField_rightUnique : Relator.RightUnique TellsField := by
  rintro line ⟨key, n⟩ ⟨key', n'⟩ ⟨value, rest, hwords, hn⟩ ⟨value', rest', hwords', hn'⟩
  obtain ⟨hkey, hrest⟩ := List.cons.inj (hwords.symm.trans hwords')
  obtain ⟨rfl, -⟩ := List.cons.inj hrest
  exact Prod.ext (String.toList_inj.mp hkey) (Option.some.inj (hn.symm.trans hn'))

/-- The value is told in units of 1024 bytes. -/
theorem readMemoryLine_eq_ok_iff {line : List Char} {field : String × Size} :
    readMemoryLine line = .ok field ↔
      ∃ entry, TellsField line entry ∧ field = (entry.1, .ofNat (entry.2 * 1024)) := by
  unfold readMemoryLine TellsField
  constructor
  · intro h
    split at h
    case h_1 key value rest hwords =>
      obtain ⟨n, hn, h⟩ := bind_eq_ok_iff.mp h
      refine ⟨(.ofList key, n), ⟨value, rest, ?_, readCounter_eq_ok_iff.mp hn⟩,
        (Except.ok.inj h).symm⟩
      rw [hwords, String.toList_ofList]
    case h_2 => cases h
  · rintro ⟨entry, ⟨value, rest, hwords, hvalue⟩, rfl⟩
    rw [hwords]
    dsimp only
    rw [readCounter_eq_ok_iff.mpr hvalue, String.ofList_toList]
    rfl

/-- A section is read if each of its lines tells a field. -/
theorem readMemory_eq_ok_iff {text : List Char} {fields : List (String × Size)} :
    readMemory text = .ok fields ↔ ∃ entries, List.Forall₂ TellsField (fieldLines text) entries ∧
      fields = MemoryField.sizes entries := by
  change (fieldLines text).mapM readMemoryLine = .ok fields ↔ _
  generalize fieldLines text = ls
  constructor
  · intro h
    replace h := (mapM_eq_ok_iff.mp h).imp fun _ _ ↦ readMemoryLine_eq_ok_iff.mp
    induction h with
    | nil => exact ⟨[], .nil, rfl⟩
    | cons hline _ ih =>
        obtain ⟨entry, hentry, rfl⟩ := hline
        obtain ⟨entries, hentries, rfl⟩ := ih
        exact ⟨entry :: entries, .cons hentry hentries, rfl⟩
  · rintro ⟨entries, h, rfl⟩
    refine mapM_eq_ok_iff.mpr (List.forall₂_map_right_iff.mpr ?_)
    exact h.imp fun _ entry hentry ↦ readMemoryLine_eq_ok_iff.mpr ⟨entry, hentry, rfl⟩

/-- Lines in another order, and more lines among them, tell the same fields in another order, and
more. -/
theorem exists_perm_of_lines {ls ls' more : List (List Char)} {entries : List (String × Nat)}
    {P : String × Nat → Prop} (h : List.Forall₂ TellsField ls entries)
    (hmore : ∀ line ∈ more, ∃ entry, TellsField line entry ∧ P entry)
    (hperm : ls'.Perm (ls ++ more)) :
    ∃ entries' extra, List.Forall₂ TellsField ls' entries' ∧ entries'.Perm (entries ++ extra) ∧
      ∀ entry ∈ extra, P entry := by
  choose! entry hentry using hmore
  have hextra : List.Forall₂ TellsField more (more.map entry) :=
    List.forall₂_map_right_iff.mpr (List.forall₂_same.mpr fun line hline ↦ (hentry line hline).1)
  obtain ⟨entries', hentries', hpermuted⟩ := List.perm_comp_forall₂ hperm (List.rel_append h hextra)
  refine ⟨entries', more.map entry, hentries', hpermuted, ?_⟩
  rw [List.forall_mem_map]
  exact fun line hline ↦ (hentry line hline).2

end Section

namespace Status

variable {s s' : Status} {text : List Char}

/-- A memory section that is read updates memory and swap only. -/
theorem applyMemory_eq_ok_iff : s.applyMemory text = .ok s' ↔
    ∃ fields, Section.readMemory text = .ok fields ∧
      s' = { s with
        memory := some (setFields (s.memory.getD .unknown, s.swap.getD .unknown) fields).1
        swap := some (setFields (s.memory.getD .unknown, s.swap.getD .unknown) fields).2 } := by
  cases h : Section.readMemory text with
  | ok fields =>
      rw [applyMemory, (Change.memory_readsFirst text).outcome_of_ok h]
      constructor
      · intro hs
        exact ⟨fields, rfl, (Except.ok.inj hs).symm⟩
      · rintro ⟨fields', hfields, rfl⟩
        obtain rfl := Except.ok.inj hfields
        rfl
  | error e =>
      rw [applyMemory, (Change.memory_readsFirst text).outcome_of_error h]
      exact ⟨nofun, nofun⟩

/-- After a memory section that is read, memory and swap are there.  Each part that is told is its
last value, in units of 1024 bytes and up to the greatest size; each other part is what it was,
except that the available memory is then what is free or cached.  What is used is what is left of
the total, so never more than it.  Where no field is told twice, the lines may change places, and
lines that tell unknown fields may come and go. -/
theorem applyMemory_by_fields (h : s.applyMemory text = .ok s') :
    ∃ entries memory swap, List.Forall₂ Section.TellsField (Section.fieldLines text) entries ∧
      s' = { s with memory := some memory, swap := some swap } ∧
      (∀ (f : MemoryField) n, (f.values entries).getLast? = some n →
        (f.part (memory, swap)).toNat = min (n * 1024) wordMax) ∧
      (∀ f : MemoryField, f ≠ .memAvailable → f.values entries = [] →
        f.part (memory, swap) = (f.part? s).getD .zero) ∧
      (MemoryField.memAvailable.values entries = [] →
        memory.available.toNat = min (memory.free.toNat + memory.cached.toNat) wordMax) ∧
      memory.used.toNat = memory.total.toNat - memory.available.toNat ∧
      swap.used.toNat = swap.total.toNat - swap.free.toNat ∧
      memory.used.toNat ≤ memory.total.toNat ∧ swap.used.toNat ≤ swap.total.toNat ∧
      ((∀ f : MemoryField, (f.values entries).length ≤ 1) → ∀ text' more,
        (Section.fieldLines text').Perm (Section.fieldLines text ++ more) →
        (∀ line ∈ more, ∃ entry, Section.TellsField line entry ∧
          ∀ f : MemoryField, entry.1 ≠ f.key) →
        s.applyMemory text' = .ok s') := by
  obtain ⟨fields, hread, hs⟩ := applyMemory_eq_ok_iff.mp h
  obtain ⟨entries, htells, rfl⟩ := Section.readMemory_eq_ok_iff.mp hread
  have hold (f : MemoryField) := f.part_getD s
  generalize hm : (s.memory.getD .unknown, s.swap.getD .unknown) = m at hold hs
  rw [MemoryField.setFields_eq_assemble] at hs
  generalize hvalue : MemoryField.after m (MemoryField.sizes entries) = value at hs
  refine ⟨entries, (MemoryField.assemble value).1, (MemoryField.assemble value).2, htells, hs,
    ?_, ?_, ?_, Size.toNat_sub _ _, Size.toNat_sub _ _, ?_, ?_, ?_⟩
  · intro f n hlast
    rw [Prod.mk.eta, MemoryField.part_assemble, ← hvalue]
    exact MemoryField.toNat_after_of_getLast? hlast m
  · intro f hf hnil
    rw [Prod.mk.eta, MemoryField.part_assemble, ← hvalue, ← hold]
    exact MemoryField.after_of_values_eq_nil hf hnil m
  · intro hnil
    have hsizes : MemoryField.memAvailable.values (MemoryField.sizes entries) = [] := by
      rw [MemoryField.values_sizes, hnil, List.map_nil]
    have havailable : value .memAvailable = value .memFree + value .cached := by
      rw [← hvalue]
      exact MemoryField.after_memAvailable hsizes m
    exact (congrArg Size.toNat havailable).trans (Size.toNat_add _ _)
  · exact (Size.toNat_sub _ _).trans_le (Nat.sub_le _ _)
  · exact (Size.toNat_sub _ _).trans_le (Nat.sub_le _ _)
  · intro hone text' more hperm hmore
    obtain ⟨entries', extra, htells', hentries, hextra⟩ :=
      Section.exists_perm_of_lines htells hmore hperm
    have hsame (f : MemoryField) : f.values (MemoryField.sizes entries') =
        f.values (MemoryField.sizes entries) := by
      rw [MemoryField.values_sizes, MemoryField.values_sizes,
        MemoryField.values_of_perm hentries (fun e he ↦ hextra e he f) (hone f)]
    refine applyMemory_eq_ok_iff.mpr ⟨_, Section.readMemory_eq_ok_iff.mpr ⟨_, htells', rfl⟩, ?_⟩
    rw [hm, MemoryField.setFields_eq_assemble, MemoryField.after_congr hsame, hvalue]
    exact hs

/-- A machine of which the memory is known, but not the swap. -/
def sampleKnown : Status :=
  { empty with memory := some ⟨⟨8192⟩, ⟨7000⟩, ⟨500⟩, ⟨1192⟩, ⟨400⟩⟩ }

/-- The same after the free memory and the cache were told. -/
def sampleTold : Status :=
  { sampleKnown with
    memory := some ⟨⟨8192⟩, ⟨3072⟩, ⟨1024⟩, ⟨5120⟩, ⟨2048⟩⟩
    swap := some .unknown }

/-- Two fields are told, and told again in another order with an unknown field between them.  The
total stays as it was known, and what is available is then what is free or cached. -/
theorem applyMemory_by_fields_sample :
    sampleKnown.applyMemory "MemFree: 1 kB\nCached: 2 kB".toList = .ok sampleTold ∧
      sampleKnown.applyMemory "\nCached: 2 kB\nHugePages_Total: 7\n  MemFree: 1 kB".toList =
        .ok sampleTold := by
  have happly : sampleKnown.applyMemory "MemFree: 1 kB\nCached: 2 kB".toList = .ok sampleTold := by
    decide +kernel
  refine ⟨happly, ?_⟩
  obtain ⟨entries, _, _, htells, -, -, -, -, -, -, -, -, hsame⟩ := applyMemory_by_fields happly
  have hlines : List.Forall₂ Section.TellsField
      (Section.fieldLines "MemFree: 1 kB\nCached: 2 kB".toList) [("MemFree:", 1), ("Cached:", 2)] :=
    .cons ⟨_, _, rfl, by decide⟩ (.cons ⟨_, _, rfl, by decide⟩ .nil)
  obtain rfl := Section.tellsField_rightUnique.forall₂ htells hlines
  refine hsame (fun f ↦ by cases f <;> decide) _ ["HugePages_Total: 7".toList] (by decide) ?_
  intro line hline
  obtain rfl := List.mem_singleton.mp hline
  exact ⟨("HugePages_Total:", 7), ⟨_, _, rfl, by decide⟩, fun f ↦ by cases f <;> decide⟩

end Status

end HostWatch
