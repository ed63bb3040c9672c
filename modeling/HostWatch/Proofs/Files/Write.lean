import HostWatch.Files.Tree
/-!
# What a written file changes

A file that is written can be read back, and nothing else is different: what was there before still
leads where it led.  Directories are made only where nothing stands.  A location and the one beside
it whose name goes on in another way never mean the same place.
-/

namespace HostWatch

/-! ## Texts that go on -/

section

variable {x : Char}

theorem splitParts_cons_self (part cs : List Char) :
    splitParts x [] part (x :: cs) = part.reverse :: splitParts x [] [] cs := by
  have hdrop : dropStart? [x] (x :: cs) = some cs := if_pos rfl
  rw [splitParts]
  split
  case h_1 rest h =>
    obtain rfl := Option.some.inj (hdrop.symm.trans h)
    rfl
  case h_2 h =>
    rw [hdrop] at h
    cases h

theorem splitParts_cons_of_ne {c : Char} (h : x ≠ c) (part cs : List Char) :
    splitParts x [] part (c :: cs) = splitParts x [] (c :: part) cs := by
  have hdrop : dropStart? [x] (c :: cs) = none := if_neg h
  rw [splitParts]
  split
  case h_1 rest hrest =>
    rw [hdrop] at hrest
    cases hrest
  case h_2 => rfl

/-- A text without the character is not divided. -/
theorem splitParts_of_not_mem {s : List Char} (h : x ∉ s) (part : List Char) :
    splitParts x [] part s = [part.reverse ++ s] := by
  induction s generalizing part with
  | nil => simp [splitParts]
  | cons c cs ih =>
      have hc : x ≠ c := List.ne_of_not_mem_cons h
      have hcs : x ∉ cs := List.not_mem_of_not_mem_cons h
      rw [splitParts_cons_of_ne hc, ih hcs]
      simp

/-- A text that goes on without the character goes on in its last part. -/
theorem exists_splitParts_append {ending : List Char} (h : x ∉ ending) (part s : List Char) :
    ∃ front last, splitParts x [] part s = front ++ [last] ∧
      splitParts x [] part (s ++ ending) = front ++ [last ++ ending] := by
  induction s generalizing part with
  | nil =>
      refine ⟨[], part.reverse, by simp [splitParts], ?_⟩
      rw [List.nil_append, splitParts_of_not_mem h]
      rfl
  | cons c cs ih =>
      by_cases hc : x = c
      · subst hc
        obtain ⟨front, last, hs, happend⟩ := ih []
        refine ⟨part.reverse :: front, last, ?_, ?_⟩
        · rw [splitParts_cons_self, hs]
          rfl
        · rw [List.cons_append, splitParts_cons_self, happend]
          rfl
      · obtain ⟨front, last, hs, happend⟩ := ih (c :: part)
        exact ⟨front, last, by rw [splitParts_cons_of_ne hc, hs],
          by rw [List.cons_append, splitParts_cons_of_ne hc, happend]⟩

end

namespace Path

theorem stepOf_eq_down {name : List Char} {n : String} (h : stepOf name = .down n) :
    n = .ofList name := by
  unfold stepOf at h
  split at h
  · cases h
  · split at h
    · cases h
    · exact (Step.down.inj h).symm

/-- A long name leads down. -/
theorem stepOf_of_length {name : List Char} (h : 2 < name.length) :
    stepOf name = .down (.ofList name) := by
  unfold stepOf
  rw [if_neg, if_neg]
  · rintro rfl
    exact absurd h (by decide)
  · rintro (rfl | rfl) <;> exact absurd h (by decide)

end Path

namespace Location

variable {l : Location} {ending : String}

/-- An ending of a name: it names no directory on the way, and is longer than the names that lead
nowhere else. -/
structure IsEnding (ending : String) : Prop where
  not_mem : '/' ∉ ending.toList
  length_lt : 2 < ending.toList.length

theorem start_extend (h : l.isSound = true) (ending : String) :
    (l.extend ending).start = l.start := by
  have htext : l.text.toList ≠ [] := by
    intro hnil
    have hempty : l.text = "" := String.toList_inj.mp hnil
    rw [isSound, Path.isText, hempty] at h
    exact absurd h (by decide)
  obtain ⟨c, cs, hcs⟩ := List.exists_cons_of_ne_nil htext
  simp [start, extend, Path.startOf, hcs]

/-- A text without slashes is one step. -/
theorem steps_of_not_mem (h : '/' ∉ l.text.toList) :
    l.steps = [] ++ [Path.stepOf l.text.toList] := by
  rw [steps, Path.stepsIn, splitAtPiece, splitParts_of_not_mem h]
  rfl

/-- The steps go on in the last one. -/
theorem exists_steps_extend (l : Location) (h : IsEnding ending) :
    ∃ front last, l.steps = front ++ [Path.stepOf last] ∧
      (l.extend ending).steps = front ++ [.down (.ofList (last ++ ending.toList))] := by
  obtain ⟨front, last, hsteps, hextend⟩ := exists_splitParts_append h.not_mem [] l.text.toList
  refine ⟨front.map Path.stepOf, last, ?_, ?_⟩
  · rw [steps, Path.stepsIn, splitAtPiece, hsteps, List.map_append]
    rfl
  · have hlong : 2 < (last ++ ending.toList).length := by
      rw [List.length_append]
      exact Nat.lt_of_lt_of_le h.length_lt (Nat.le_add_left _ _)
    rw [steps, extend, Path.stepsIn, splitAtPiece, String.toList_append, hextend, List.map_append,
      ← Path.stepOf_of_length hlong]
    rfl

end Location

namespace FileTree

variable {t t' : FileTree} {p q : Path} {e : Entry} {l : Location} {content : ByteArray}

/-! ## Paths -/

theorem find?_put_self (p : Path) (e : Entry) (entries : List (Path × Entry)) :
    find? p (put p e entries) = some e := by
  induction entries with
  | nil => exact if_pos rfl
  | cons entry rest ih =>
      by_cases h : entry.1 = p
      · rw [put, if_pos h, find?, if_pos h]
      · rw [put, if_neg h, find?, if_neg h]
        exact ih

theorem find?_put_of_ne (h : q ≠ p) (e : Entry) (entries : List (Path × Entry)) :
    find? q (put p e entries) = find? q entries := by
  induction entries with
  | nil => exact if_neg h.symm
  | cons entry rest ih =>
      by_cases hp : entry.1 = p
      · have hq : entry.1 ≠ q := fun heq ↦ h (heq.symm.trans hp)
        rw [put, if_pos hp, find?, if_neg hq, find?, if_neg hq]
      · rw [put, if_neg hp, find?, find?, ih]

theorem get?_set_self (h : p ≠ []) (t : FileTree) (e : Entry) : (t.set p e).get? p = some e := by
  rw [get?, if_neg h]
  exact find?_put_self p e t.entries

theorem get?_set_of_ne (h : q ≠ p) (t : FileTree) (e : Entry) :
    (t.set p e).get? q = t.get? q := by
  unfold get?
  rw [show (t.set p e).entries = put p e t.entries from rfl, find?_put_of_ne h]

theorem isDirectory_iff : t.isDirectory p = true ↔ t.get? p = some .directory := by
  unfold isDirectory
  cases t.get? p with
  | none => simp
  | some e => cases e <;> simp

/-! ## Locations -/

/-- Whatever stands in a tree stands in another one, and directories stay directories. -/
structure Extends (t t' : FileTree) : Prop where
  isSome_get? : ∀ p, (t.get? p).isSome = true → (t'.get? p).isSome = true
  isDirectory : ∀ p, t.isDirectory p = true → t'.isDirectory p = true

/-- Where steps lead they still lead. -/
theorem Extends.walk? (h : Extends t t') {steps : List Path.Step}
    (hwalk : t.walk? p steps = some q) : t'.walk? p steps = some q := by
  induction steps generalizing p with
  | nil => exact hwalk
  | cons s rest ih =>
      rw [FileTree.walk?] at hwalk ⊢
      split at hwalk
      case isTrue hstep =>
        rw [if_pos ⟨h.isDirectory p hstep.1, h.isSome_get? _ hstep.2⟩]
        exact ih hwalk
      case isFalse => cases hwalk

theorem Extends.locate? (h : Extends t t') (hlocate : t.locate? l = some p) :
    t'.locate? l = some p := by
  unfold FileTree.locate? at hlocate ⊢
  split at hlocate
  case isTrue hsound =>
    rw [if_pos hsound]
    exact h.walk? hlocate
  case isFalse => cases hlocate

/-- A file that takes no directory's place leaves everything where it was. -/
theorem extends_set_file (h : t.isDirectory p = false) (content : ByteArray) :
    Extends t (t.set p (.file content)) := by
  constructor
  · intro q hq
    by_cases heq : q = p
    · subst heq
      by_cases hroot : q = []
      · subst hroot
        rfl
      · rw [get?_set_self hroot]
        rfl
    · rwa [get?_set_of_ne heq]
  · intro q hq
    have hne : q ≠ p := by
      rintro rfl
      rw [h] at hq
      cases hq
    rw [isDirectory_iff] at hq ⊢
    rwa [get?_set_of_ne hne]

/-- The last step starts from a directory too. -/
theorem walk?_concat (t : FileTree) (p : Path) (steps : List Path.Step) (s : Path.Step) :
    t.walk? p (steps ++ [s]) = (t.walk? p steps).bind fun q ↦
      if t.isDirectory q ∧ (t.get? (q.follow s)).isSome then some (q.follow s) else none := by
  induction steps generalizing p with
  | nil => rfl
  | cons s' rest ih =>
      rw [List.cons_append, walk?, walk?]
      split
      · exact ih _
      · rfl

/-- Where a location leads: the last step goes on from a directory. -/
theorem locate?_eq_some_iff {front : List Path.Step} {s : Path.Step}
    (hsteps : l.steps = front ++ [s]) :
    t.locate? l = some p ↔ l.isSound = true ∧ ∃ q, t.walk? l.start front = some q ∧
      t.isDirectory q = true ∧ p = q.follow s ∧ (t.get? p).isSome = true := by
  unfold locate?
  rw [hsteps, walk?_concat]
  by_cases hsound : l.isSound = true
  · rw [if_pos hsound, Option.bind_eq_some_iff, and_iff_right hsound]
    refine exists_congr fun q ↦ and_congr_right fun _ ↦ ?_
    constructor
    · intro h
      split at h
      case isTrue hstep =>
        obtain rfl := Option.some.inj h
        exact ⟨hstep.1, rfl, hstep.2⟩
      case isFalse => cases h
    · rintro ⟨hdir, rfl, hsome⟩
      exact if_pos ⟨hdir, hsome⟩
  · rw [if_neg hsound]
    constructor
    · intro h
      cases h
    · rintro ⟨h, -⟩
      exact absurd h hsound

/-- Where a file can be written: the last step is a name that a directory takes. -/
theorem place?_eq_some_iff {front : List Path.Step} {s : Path.Step}
    (hsteps : l.steps = front ++ [s]) :
    t.place? l = some p ↔ l.isSound = true ∧ ∃ q name, s = .down name ∧
      t.walk? l.start front = some q ∧ t.takesFile q name = true ∧ p = q ++ [name] := by
  unfold place?
  rw [hsteps, List.getLast?_concat, List.dropLast_concat]
  by_cases hsound : l.isSound = true
  · rw [hsound, and_iff_right rfl]
    cases s with
    | down name =>
        simp only [Option.bind_eq_some_iff, Path.Step.down.injEq]
        constructor
        · rintro ⟨q, hwalk, h⟩
          split at h
          case isTrue htakes => exact ⟨q, name, rfl, hwalk, htakes, (Option.some.inj h).symm⟩
          case isFalse => cases h
        · rintro ⟨q, _, rfl, hwalk, htakes, rfl⟩
          exact ⟨q, hwalk, if_pos htakes⟩
    | stay | up =>
        constructor
        · intro h
          cases h
        · rintro ⟨_, _, h, -⟩
          cases h
  · rw [Bool.not_eq_true] at hsound
    rw [hsound]
    constructor
    · intro h
      cases h
    · rintro ⟨h, -⟩
      cases h

/-- A text has at least one step. -/
theorem exists_steps_eq (l : Location) : ∃ front s, l.steps = front ++ [s] := by
  obtain ⟨front, last, hsteps, -⟩ :=
    exists_splitParts_append (x := '/') List.not_mem_nil [] l.text.toList
  refine ⟨front.map Path.stepOf, Path.stepOf last, ?_⟩
  rw [Location.steps, Path.stepsIn, splitAtPiece, hsteps, List.map_append]
  rfl

theorem takesFile_iff {name : String} :
    t.takesFile p name = true ↔ t.isDirectory p = true ∧ Path.fits name = true ∧
      t.isDirectory (p ++ [name]) = false ∧ t.locked (p ++ [name]) = false := by
  simp [takesFile, and_assoc]

theorem place?_ne_nil (h : t.place? l = some p) : p ≠ [] := by
  obtain ⟨front, s, hsteps⟩ := exists_steps_eq l
  obtain ⟨-, q, name, -, -, -, rfl⟩ := (place?_eq_some_iff hsteps).mp h
  exact List.append_ne_nil_of_right_ne_nil q (List.cons_ne_nil name [])

/-- A file that is written takes no directory's place. -/
theorem extends_of_place? (h : t.place? l = some p) (content : ByteArray) :
    Extends t (t.set p (.file content)) := by
  obtain ⟨front, s, hsteps⟩ := exists_steps_eq l
  obtain ⟨-, q, name, -, -, htakes, rfl⟩ := (place?_eq_some_iff hsteps).mp h
  exact extends_set_file (takesFile_iff.mp htakes).2.2.1 content

/-- Where a file can be written is where its location leads once it is there. -/
theorem locate?_of_place? (h : t.place? l = some p) (content : ByteArray) :
    (t.set p (.file content)).locate? l = some p := by
  have hextends := extends_of_place? h content
  have hget := get?_set_self (place?_ne_nil h) t (.file content)
  obtain ⟨front, s, hsteps⟩ := exists_steps_eq l
  obtain ⟨hsound, q, name, rfl, hwalk, htakes, rfl⟩ := (place?_eq_some_iff hsteps).mp h
  refine (locate?_eq_some_iff hsteps).mpr ⟨hsound, q, hextends.walk? hwalk,
    hextends.isDirectory q (takesFile_iff.mp htakes).1, rfl, ?_⟩
  rw [hget]
  rfl

/-! ## Writing -/

theorem write?_eq_some_iff :
    t.write? l content = some t' ↔ ∃ p, t.place? l = some p ∧ t' = t.set p (.file content) := by
  unfold write?
  rw [Option.map_eq_some_iff]
  exact exists_congr fun p ↦ and_congr_right fun _ ↦ eq_comm

theorem read?_eq_some_iff :
    t.read? l = some content ↔ ∃ p, t.locate? l = some p ∧ t.get? p = some (.file content) := by
  unfold read?
  cases hlocate : t.locate? l with
  | none =>
      constructor
      · intro h
        cases h
      · rintro ⟨_, h, -⟩
        cases h
  | some p =>
      rw [Option.bind_some]
      constructor
      · intro h
        refine ⟨p, rfl, ?_⟩
        cases hget : t.get? p with
        | none =>
            rw [hget] at h
            cases h
        | some e =>
            rw [hget] at h
            cases e with
            | directory => cases h
            | file found =>
                obtain rfl := Option.some.inj h
                rfl
      · rintro ⟨_, hp, hget⟩
        obtain rfl := Option.some.inj hp
        rw [hget]

/-- A file that is there is somewhere. -/
theorem exists?_of_read? (h : t.read? l = some content) : t.exists? l = true := by
  obtain ⟨p, hlocate, -⟩ := read?_eq_some_iff.mp h
  rw [exists?, hlocate]
  rfl

/-- What is written is read back. -/
theorem read?_of_write? (h : t.write? l content = some t') : t'.read? l = some content := by
  obtain ⟨p, hplace, rfl⟩ := write?_eq_some_iff.mp h
  exact read?_eq_some_iff.mpr
    ⟨p, locate?_of_place? hplace content, get?_set_self (place?_ne_nil hplace) t _⟩

/-- Nothing else is written. -/
theorem get?_of_write? (h : t.write? l content = some t') (hp : t.place? l ≠ some p) :
    t'.get? p = t.get? p := by
  obtain ⟨q, hplace, rfl⟩ := write?_eq_some_iff.mp h
  refine get?_set_of_ne ?_ t _
  rintro rfl
  exact hp hplace

/-- A file in another place is read as before. -/
theorem read?_of_write?_of_ne {m : Location} {old : ByteArray} (h : t.write? m content = some t')
    (hread : t.read? l = some old) (hne : ∀ p, t.locate? l = some p → t.place? m ≠ some p) :
    t'.read? l = some old := by
  obtain ⟨p, hlocate, hget⟩ := read?_eq_some_iff.mp hread
  have hsame := get?_of_write? h (hne p hlocate)
  obtain ⟨q, hplace, rfl⟩ := write?_eq_some_iff.mp h
  exact read?_eq_some_iff.mpr
    ⟨p, (extends_of_place? hplace content).locate? hlocate, hsame.trans hget⟩

theorem extends_of_write? (h : t.write? l content = some t') : Extends t t' := by
  obtain ⟨p, hplace, rfl⟩ := write?_eq_some_iff.mp h
  exact extends_of_place? hplace content

/-- What a written file changes is where its location leads. -/
theorem locate?_of_get?_ne (h : t.write? l content = some t') (hne : t'.get? p ≠ t.get? p) :
    t'.locate? l = some p := by
  obtain ⟨q, hplace, rfl⟩ := write?_eq_some_iff.mp h
  have hq : p = q := by
    refine Decidable.not_not.mp fun hpq ↦ ?_
    exact hne (get?_set_of_ne hpq t _)
  subst hq
  exact locate?_of_place? hplace content

/-! ## Directories on the way -/

/-- Directories are made only where nothing stands, and nothing else changes. -/
theorem get?_makeSteps (t : FileTree) (p : Path) (steps : List Path.Step) (q : Path) :
    (t.makeSteps p steps).2.get? q = t.get? q ∨
      (t.get? q = none ∧ (t.makeSteps p steps).2.get? q = some .directory) := by
  induction steps generalizing t p with
  | nil => exact .inl rfl
  | cons s rest ih =>
      unfold makeSteps
      split
      case isTrue =>
        split
        case h_1 => exact ih t _
        case h_2 name hnone =>
          split
          case isTrue =>
            by_cases hq : q = p ++ [name]
            · subst hq
              have hmade := get?_set_self
                (List.append_ne_nil_of_right_ne_nil p (List.cons_ne_nil name [])) t .directory
              have hstays := ih (t.set (p ++ [name]) .directory) (p ++ [name])
              rw [hmade] at hstays
              exact .inr ⟨hnone, hstays.elim id (·.2)⟩
            · have hrest := ih (t.set (p ++ [name]) .directory) (p ++ [name])
              rwa [get?_set_of_ne hq] at hrest
          case isFalse => exact .inl rfl
        case h_3 => exact .inl rfl
      case isFalse => exact .inl rfl

theorem get?_makeDirectory (t : FileTree) (l : Location) (q : Path) :
    (t.makeDirectory l).2.get? q = t.get? q ∨
      (t.get? q = none ∧ (t.makeDirectory l).2.get? q = some .directory) := by
  unfold makeDirectory
  split
  · exact .inl rfl
  split
  · exact get?_makeSteps t l.start l.steps q
  · exact .inl rfl

/-! ## The file beside another -/

section

variable {ending : String} (hending : Location.IsEnding ending)

include hending

/-- A name that goes on is another one. -/
theorem down_extend_ne (q : Path) (last : List Char) :
    q ++ [.ofList last] ≠ q ++ [.ofList (last ++ ending.toList)] := by
  intro h
  have hnames := String.ofList_injective (List.singleton_inj.mp (List.append_cancel_left h))
  have hlong := hending.length_lt
  rw [List.self_eq_append_right.mp hnames] at hlong
  exact absurd hlong (by decide)

/-- A file's place is not the one beside it. -/
theorem place?_extend_ne (hlocate : t.locate? l = some p) (hget : t.get? p = some (.file content)) :
    t.place? (l.extend ending) ≠ some p := by
  intro hplace
  obtain ⟨front, last, hsteps, hextend⟩ := l.exists_steps_extend hending
  obtain ⟨hsound, q, hwalk, hdir, rfl, -⟩ := (locate?_eq_some_iff hsteps).mp hlocate
  obtain ⟨-, q', name, hname, hwalk', -, hp⟩ := (place?_eq_some_iff hextend).mp hplace
  obtain rfl := Path.Step.down.inj hname
  rw [Location.start_extend hsound, hwalk] at hwalk'
  obtain rfl := Option.some.inj hwalk'
  cases hlast : Path.stepOf last with
  | stay =>
      rw [hlast, show q.follow .stay = q from rfl] at hget
      rw [isDirectory_iff, hget] at hdir
      cases hdir
  | up =>
      rw [hlast, show q.follow .up = q.dropLast from rfl] at hp
      have hlength := congrArg List.length hp
      rw [List.length_dropLast, List.length_append, List.length_singleton] at hlength
      omega
  | down n =>
      obtain rfl := Path.stepOf_eq_down hlast
      rw [hlast, show q.follow (.down (.ofList last)) = q ++ [.ofList last] from rfl] at hp
      exact down_extend_ne hending q last hp

/-- The place beside a file is not the file's. -/
theorem place?_ne_of_locate?_extend (hlocate : t.locate? (l.extend ending) = some p) :
    t.place? l ≠ some p := by
  intro hplace
  obtain ⟨front, last, hsteps, hextend⟩ := l.exists_steps_extend hending
  obtain ⟨hsound, q, name, hlast, hwalk, -, rfl⟩ := (place?_eq_some_iff hsteps).mp hplace
  obtain ⟨-, q', hwalk', -, hp, -⟩ := (locate?_eq_some_iff hextend).mp hlocate
  rw [Location.start_extend hsound, hwalk] at hwalk'
  obtain rfl := Option.some.inj hwalk'
  obtain rfl := Path.stepOf_eq_down hlast
  exact down_extend_ne hending q last hp

end

end FileTree

end HostWatch
