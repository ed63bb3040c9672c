import HostWatch.Config.Store
import HostWatch.Proofs.Config.Migration
import HostWatch.Proofs.Files.Write
import HostWatch.Proofs.Json.Pretty
/-!
# Loading keeps what was written

A configuration file is only ever replaced by the same configuration brought up to date, with its
old bytes kept beside it.  Whatever fails before that leaves the file as it was, and loading once
more after that gives the same and changes nothing.
-/

namespace HostWatch

namespace Config

namespace StoreError

/-- The file was read or its value brought up to date, and no file was written yet. -/
def OnlyRead : StoreError → Prop
  | unreadable _ | syntaxError _ | migration _ _ => True
  | _ => False

/-- The system refused a file or a directory. -/
def IsRefusal : StoreError → Prop
  | backup _ | unwritable _ | directory _ => True
  | _ => False

theorem not_isRefusal {e : StoreError} (h : e.OnlyRead) : ¬e.IsRefusal := by
  cases e with
  | unreadable | syntaxError | migration => exact id
  | backup | unwritable | directory | invalid => exact h.elim

end StoreError

/-- A file holds an older configuration: its bytes, and what they are brought up to date as. -/
structure HoldsOlder (t : FileTree) (l : Location) (content : ByteArray) (migrated : Json) :
    Prop where
  read : t.read? l = some content
  older : ∃ text v, String.fromUTF8? content = some text ∧ Json.read? text = some v ∧
    versionOf v ≠ currentVersion ∧ migrate v = .ok migrated

/-- What loading a configuration comes to, and the files after it. -/
inductive Outcome (l : Location) (t : FileTree) : Except StoreError Config → FileTree → Prop
  /-- No value is to be had from the file. -/
  | refused {e : StoreError} (hthere : t.exists? l = true) (he : e.OnlyRead) :
      Outcome l t (.error e) t
  /-- The file is up to date. -/
  | current {content : ByteArray} {text : String} {v : Json} (hread : t.read? l = some content)
      (htext : String.fromUTF8? content = some text) (hv : Json.read? text = some v)
      (hversion : versionOf v = currentVersion) : Outcome l t (ofCurrent l v) t
  /-- The old bytes cannot be kept. -/
  | notKept {content : ByteArray} {migrated : Json} (holder : HoldsOlder t l content migrated) :
      Outcome l t (.error (.backup (backup l).text)) t
  /-- The old bytes are kept, but the file cannot be written. -/
  | notReplaced {content : ByteArray} {migrated : Json} {t' : FileTree}
      (holder : HoldsOlder t l content migrated) (hkept : t.write? (backup l) content = some t') :
      Outcome l t (.error (.unwritable l.text)) t'
  /-- The file is brought up to date. -/
  | replaced {content : ByteArray} {migrated : Json} {t₁ t' : FileTree}
      (holder : HoldsOlder t l content migrated) (hkept : t.write? (backup l) content = some t₁)
      (hwritten : t₁.writeText? l migrated.pretty = some t') : Outcome l t (ofCurrent l migrated) t'
  /-- A file that is missing cannot be made. -/
  | notMade {e : StoreError} (hmissing : t.exists? l = false) (he : e.IsRefusal) :
      Outcome l t (.error e) (t.makeDirectory l.parent).2
  /-- A file that was missing is made. -/
  | made {t' : FileTree} (hmissing : t.exists? l = false)
      (hwritten : (t.makeDirectory l.parent).2.writeText? l fresh.fileText = some t') :
      Outcome l t (.ok fresh) t'

variable {l : Location} {t t' : FileTree} {r : Except StoreError Config} {content : ByteArray}
  {v migrated : Json}

theorem outcome_loadOlder (hread : t.read? l = some content) {text : String}
    (htext : String.fromUTF8? content = some text) (hv : Json.read? text = some v)
    (hversion : versionOf v ≠ currentVersion) :
    Outcome l t (loadOlder l content v t).1 (loadOlder l content v t).2 := by
  have hthere := FileTree.exists?_of_read? hread
  unfold loadOlder
  split
  case h_1 e _ => exact .refused hthere trivial
  case h_2 migrated hmigrate =>
    have holder : HoldsOlder t l content migrated := ⟨hread, text, v, htext, hv, hversion, hmigrate⟩
    split
    case h_1 => exact .notKept holder
    case h_2 t₁ hkept =>
      split
      case h_1 => exact .notReplaced holder hkept
      case h_2 t' hwritten => exact .replaced holder hkept hwritten

theorem outcome_loadExisting (hthere : t.exists? l = true) :
    Outcome l t (loadExisting l t).1 (loadExisting l t).2 := by
  unfold loadExisting
  split
  case h_1 => exact .refused hthere trivial
  case h_2 content hread =>
    split
    case h_1 => exact .refused hthere trivial
    case h_2 text htext =>
      split
      case h_1 => exact .refused hthere trivial
      case h_2 v hv =>
        split
        case isTrue hversion => exact .current hread htext hv hversion
        case isFalse hversion => exact outcome_loadOlder hread htext hv hversion

theorem outcome_save (hmissing : t.exists? l = false) :
    (∃ e, fresh.save l t = (.error e, (t.makeDirectory l.parent).2) ∧ e.IsRefusal) ∨
      ∃ t', fresh.save l t = (.ok (), t') ∧ Outcome l t (.ok fresh) t' := by
  unfold save
  cases hdir : t.makeDirectory l.parent with
  | mk made t₁ =>
      cases made with
      | false => exact .inl ⟨_, rfl, trivial⟩
      | true =>
          dsimp only
          split
          case h_1 => exact .inl ⟨_, rfl, trivial⟩
          case h_2 t' hwritten =>
            refine .inr ⟨t', rfl, .made hmissing ?_⟩
            rw [hdir]
            exact hwritten

/-- Loading does nothing but what an outcome says. -/
theorem outcome_load (hload : load l t = (r, t')) : Outcome l t r t' := by
  have key : Outcome l t (load l t).1 (load l t).2 := by
    unfold load
    split
    case isTrue hthere => exact outcome_loadExisting hthere
    case isFalse hthere =>
      have hmissing : t.exists? l = false := Bool.eq_false_iff.mpr hthere
      rcases outcome_save hmissing with ⟨e, hsave, he⟩ | ⟨t', hsave, hmade⟩
      · rw [hsave]
        exact .notMade hmissing he
      · rw [hsave]
        exact hmade
  rwa [hload] at key

/-! ## The files -/

theorem ofCurrent_eq_ok {c : Config} (h : ofCurrent l v = .ok c) : decode v = .ok c := by
  unfold ofCurrent at h
  split at h
  case h_1 hdecode =>
    obtain rfl := Except.ok.inj h
    exact hdecode
  case h_2 => cases h

theorem ofCurrent_eq_error {e : StoreError} (h : ofCurrent l v = .error e) :
    ∃ cause, decode v = .error cause ∧ e = .invalid l.text cause := by
  unfold ofCurrent at h
  split at h
  case h_1 => cases h
  case h_2 cause hdecode => exact ⟨cause, hdecode, (Except.error.inj h).symm⟩

theorem isEnding_bak : Location.IsEnding ".bak" := ⟨by decide, by decide⟩

/-- The old bytes are kept beside the file, which they leave as it is. -/
theorem read?_of_kept (hread : t.read? l = some content)
    (hkept : t.write? (backup l) content = some t') :
    t'.read? l = some content ∧ t'.read? (backup l) = some content := by
  refine ⟨FileTree.read?_of_write?_of_ne hkept hread ?_, FileTree.read?_of_write? hkept⟩
  intro p hlocate
  obtain ⟨p', hlocate', hget⟩ := FileTree.read?_eq_some_iff.mp hread
  obtain rfl := Option.some.inj (hlocate.symm.trans hlocate')
  exact FileTree.place?_extend_ne isEnding_bak hlocate hget

/-- The file is replaced, which leaves the one beside it as it is. -/
theorem read?_of_replaced {text : String} (hbackup : t.read? (backup l) = some content)
    (hwritten : t.writeText? l text = some t') :
    t'.read? l = some text.toUTF8 ∧ t'.read? (backup l) = some content := by
  refine ⟨FileTree.read?_of_write? hwritten, FileTree.read?_of_write?_of_ne hwritten hbackup ?_⟩
  intro p hlocate
  exact FileTree.place?_ne_of_locate?_extend isEnding_bak hlocate

namespace Outcome

variable (h : Outcome l t r t')

include h

/-- A file is replaced only by what it is brought up to date as. -/
theorem read?_eq_or (hread : t.read? l = some content) :
    t'.read? l = some content ∨ ∃ migrated, HoldsOlder t l content migrated ∧
      t'.read? l = some migrated.pretty.toUTF8 ∧ t'.read? (backup l) = some content ∧
        r = ofCurrent l migrated := by
  have hthere := FileTree.exists?_of_read? hread
  cases h with
  | refused | current | notKept => exact .inl hread
  | notReplaced holder hkept =>
      obtain rfl := Option.some.inj (holder.read.symm.trans hread)
      exact .inl (read?_of_kept hread hkept).1
  | replaced holder hkept hwritten =>
      obtain rfl := Option.some.inj (holder.read.symm.trans hread)
      obtain ⟨hnew, hbackup⟩ := read?_of_replaced (read?_of_kept hread hkept).2 hwritten
      exact .inr ⟨_, holder, hnew, hbackup, rfl⟩
  | notMade hmissing | made hmissing =>
      rw [hmissing] at hthere
      cases hthere

/-- What changes is the file or the one beside it, or was not there before. -/
theorem changed {p : Path} (hp : t'.get? p ≠ t.get? p) :
    (t.exists? l = false ∧ (t.get? p = none ∨ t'.locate? l = some p)) ∨
      ∃ content migrated, HoldsOlder t l content migrated ∧ t'.read? (backup l) = some content ∧
        (t'.locate? l = some p ∨ t'.locate? (backup l) = some p) := by
  cases h with
  | refused | current | notKept => exact absurd rfl hp
  | notReplaced holder hkept =>
      exact .inr ⟨_, _, holder, (read?_of_kept holder.read hkept).2,
        .inr (FileTree.locate?_of_get?_ne hkept hp)⟩
  | @replaced content migrated t₁ _ holder hkept hwritten =>
      have hbackup := (read?_of_replaced (read?_of_kept holder.read hkept).2 hwritten).2
      refine .inr ⟨_, _, holder, hbackup, ?_⟩
      by_cases hp₁ : t₁.get? p = t.get? p
      · rw [← hp₁] at hp
        exact .inl (FileTree.locate?_of_get?_ne hwritten hp)
      · exact .inr ((FileTree.extends_of_write? hwritten).locate?
          (FileTree.locate?_of_get?_ne hkept hp₁))
  | notMade hmissing =>
      refine .inl ⟨hmissing, .inl ?_⟩
      exact ((t.get?_makeDirectory l.parent p).resolve_left hp).1
  | made hmissing hwritten =>
      refine .inl ⟨hmissing, ?_⟩
      by_cases hp₁ : (t.makeDirectory l.parent).2.get? p = t.get? p
      · rw [← hp₁] at hp
        exact .inr (FileTree.locate?_of_get?_ne hwritten hp)
      · exact .inl ((t.get?_makeDirectory l.parent p).resolve_left hp₁).1

/-- Without an older configuration in a file that is there, nothing happens to the files. -/
theorem eq_of_not_older (hthere : t.exists? l = true)
    (hnone : ¬∃ content migrated, HoldsOlder t l content migrated) : t' = t := by
  cases h with
  | refused | current | notKept => rfl
  | notReplaced holder | replaced holder => exact absurd ⟨_, _, holder⟩ hnone
  | notMade hmissing | made hmissing =>
      rw [hmissing] at hthere
      cases hthere

/-- A failure to read, to parse or to bring up to date comes before any file is written. -/
theorem eq_of_onlyRead {e : StoreError} (hr : r = .error e) (he : e.OnlyRead) : t' = t := by
  cases h with
  | refused | current | notKept => rfl
  | notReplaced =>
      obtain rfl := Except.error.inj hr
      exact he.elim
  | replaced =>
      obtain ⟨_, -, rfl⟩ := ofCurrent_eq_error hr
      exact he.elim
  | notMade _ hrefusal =>
      obtain rfl := Except.error.inj hr
      exact absurd hrefusal (StoreError.not_isRefusal he)
  | made => cases hr

/-- A missing file that cannot be made leaves all files as they are. -/
theorem get?_eq_file_iff {e : StoreError} (hmissing : t.exists? l = false) (hr : r = .error e)
    {p : Path} : t'.get? p = some (.file content) ↔ t.get? p = some (.file content) := by
  have hsame : t' = t ∨ t' = (t.makeDirectory l.parent).2 := by
    cases h with
    | refused | current | notKept => exact .inl rfl
    | notReplaced holder | replaced holder =>
        have hthere := FileTree.exists?_of_read? holder.read
        rw [hmissing] at hthere
        cases hthere
    | notMade => exact .inr rfl
    | made => cases hr
  rcases hsame with rfl | rfl
  · exact Iff.rfl
  · rcases t.get?_makeDirectory l.parent p with hp | ⟨hp, hp'⟩
    · rw [hp]
    · rw [hp, hp']
      simp

/-- Whatever is loaded has the current version. -/
theorem version_eq {c : Config} (hr : r = .ok c) : c.version = currentVersion := by
  cases h with
  | refused | notKept | notReplaced | notMade => cases hr
  | current _ _ _ hversion => exact version_of_decode hversion (ofCurrent_eq_ok hr)
  | replaced holder =>
      obtain ⟨_, _, -, -, -, hmigrate⟩ := holder.older
      exact version_of_decode (versionOf_of_migrate hmigrate) (ofCurrent_eq_ok hr)
  | made =>
      obtain rfl := Except.ok.inj hr
      rfl

end Outcome

/-! ## Loading again -/

/-- The bytes of a text are read as the text. -/
theorem fromUTF8?_toUTF8 (text : String) : String.fromUTF8? text.toUTF8 = some text :=
  dif_pos text.isValidUTF8

/-- Loading an up-to-date file only decodes it. -/
theorem load_of_current {text : String} (hread : t.read? l = some text.toUTF8)
    (hv : Json.read? text = some v) (hversion : versionOf v = currentVersion) :
    load l t = (ofCurrent l v, t) := by
  unfold load loadExisting
  rw [if_pos (FileTree.exists?_of_read? hread), hread]
  dsimp only
  rw [fromUTF8?_toUTF8]
  dsimp only
  rw [hv]
  exact if_pos hversion

/-- Loading an older file replaces it, unless the system refuses that. -/
theorem load_of_older {t₁ : FileTree} (holder : HoldsOlder t l content migrated)
    (hkept : t.write? (backup l) content = some t₁)
    (hwritten : t₁.writeText? l migrated.pretty = some t') :
    load l t = (ofCurrent l migrated, t') := by
  obtain ⟨hread, text, v, htext, hv, hversion, hmigrate⟩ := holder
  unfold load loadExisting
  rw [if_pos (FileTree.exists?_of_read? hread), hread]
  dsimp only
  rw [htext]
  dsimp only
  rw [hv]
  dsimp only
  rw [if_neg hversion]
  unfold loadOlder
  rw [hmigrate]
  dsimp only
  rw [hkept]
  dsimp only
  rw [hwritten]

/-- A fresh configuration is read back from its file. -/
theorem read?_fileText_fresh : Json.read? fresh.fileText = some fresh.encode.sorted := by
  have hfloats : fresh.encode.FloatsReadBack := by
    simp [fresh, encode, Rule.encode, Push.encode, exampleSettings, natJson, Json.ofUInt64,
      Json.FloatsReadBack, Json.MembersReadBack, Json.ItemsReadBack]
  exact Json.read?_pretty (by decide) hfloats

theorem versionOf_fresh : versionOf fresh.encode.sorted = currentVersion := by rfl

theorem decode_fresh : decode fresh.encode.sorted = .ok fresh := by rfl

/-- What an older configuration is brought up to date as is read back, if its numbers are. -/
theorem HoldsOlder.read?_pretty (h : HoldsOlder t l content migrated)
    (hfloats : migrated.FloatsReadBack) : Json.read? migrated.pretty = some migrated := by
  obtain ⟨text, v, -, hv, -, hmigrate⟩ := h.older
  exact (isOrdered_migrate (Json.isOrdered_of_read? hv) hmigrate).read?_pretty hfloats

/-- Loading once more gives the same and changes nothing. -/
theorem Outcome.load_eq (h : Outcome l t r t') (hload : load l t = (r, t'))
    (hback : ∀ content migrated, HoldsOlder t l content migrated →
      Json.read? migrated.pretty = some migrated)
    (hwrites : ∀ e, r = .error e → ¬e.IsRefusal) : load l t' = (r, t') := by
  cases h with
  | refused | current | notKept => exact hload
  | notReplaced => exact absurd trivial (hwrites _ rfl)
  | notMade _ he => exact absurd he (hwrites _ rfl)
  | @replaced content migrated _ _ holder _ hwritten =>
      obtain ⟨_, _, -, -, -, hmigrate⟩ := holder.older
      exact load_of_current (FileTree.read?_of_write? hwritten) (hback content migrated holder)
        (versionOf_of_migrate hmigrate)
  | made _ hwritten =>
      have hcurrent : ofCurrent l fresh.encode.sorted = .ok fresh := by
        rw [ofCurrent, decode_fresh]
      rw [load_of_current (FileTree.read?_of_write? hwritten) read?_fileText_fresh versionOf_fresh,
        hcurrent]

/-- A configuration of the second version, whose rule names its monitor in the old way. -/
def secondVersion : Json :=
  .object [("rules", .array [.object [("matcher", .string "used"), ("threshold", .string ">=90%"),
    ("type", .string "memory")]]), ("version", natJson 2)]

/-- The same brought up to date. -/
def secondVersionMigrated : Json :=
  .object [("rules", .array [.object [("matcher", .string "used"), ("threshold", .string ">=90%"),
    ("type", .string "mem")]]), ("version", natJson 3)]

/-- A directory with nothing but the older configuration in it. -/
def secondVersionTree : FileTree :=
  ⟨[(["conf.json"], .file secondVersion.pretty.toUTF8)], fun _ ↦ false⟩

theorem read?_pretty_secondVersion : Json.read? secondVersion.pretty = some secondVersion := by
  refine Json.read?_pretty (by decide) ?_
  simp [secondVersion, natJson, Json.FloatsReadBack, Json.MembersReadBack, Json.ItemsReadBack]

theorem holdsOlder_secondVersion :
    HoldsOlder secondVersionTree ⟨"conf.json", []⟩ content migrated ↔
      content = secondVersion.pretty.toUTF8 ∧ migrated = secondVersionMigrated := by
  have hlocate : secondVersionTree.locate? ⟨"conf.json", []⟩ = some ["conf.json"] :=
    (FileTree.locate?_eq_some_iff (Location.steps_of_not_mem (by decide))).mpr
      ⟨by decide, [], rfl, rfl, rfl, rfl⟩
  have hread : secondVersionTree.read? ⟨"conf.json", []⟩ = some secondVersion.pretty.toUTF8 :=
    FileTree.read?_eq_some_iff.mpr ⟨_, hlocate, rfl⟩
  have hmigrated : migrate secondVersion = .ok secondVersionMigrated := rfl
  constructor
  · rintro ⟨hcontent, text, v, htext, hv, -, hmigrate⟩
    obtain rfl := Option.some.inj (hcontent.symm.trans hread)
    obtain rfl := Option.some.inj (htext.symm.trans (fromUTF8?_toUTF8 _))
    obtain rfl := Option.some.inj (hv.symm.trans read?_pretty_secondVersion)
    exact ⟨rfl, Except.ok.inj (hmigrate.symm.trans hmigrated)⟩
  · rintro ⟨rfl, rfl⟩
    exact ⟨hread, _, _, fromUTF8?_toUTF8 _, read?_pretty_secondVersion, by decide, hmigrated⟩

end Config

end HostWatch
