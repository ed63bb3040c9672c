import HostWatch.Proofs.Status.Memory
import HostWatch.Proofs.Text.Lines
import HostWatch.Proofs.Text.Number
import HostWatch.Proofs.Text.Piece
/-!
# A snapshot that is read back

A pass prints what a machine counts: its interfaces, its processors and its memory, line by line, in
sections with a marker between two.  Whatever blanks the lines have in them and around them, and
whatever the other sections hold, the numbers that are read are those that were printed.
-/

namespace HostWatch

/-! ## Sections of a text -/

namespace Section

theorem trim_lineFeed_cons (s : List Char) : trim ('\n' :: s) = trim s := by
  have hgap : AllBlank ['\n'] := List.forall_mem_singleton.mpr rfl
  exact trim_allBlank_append hgap s

theorem trim_linesAfter (ls : List (List Char)) : trim (linesAfter ls) = trim (joinLines ls) := by
  cases ls with
  | nil => rfl
  | cons l ls => rw [linesAfter_eq_cons (List.cons_ne_nil l ls), trim_lineFeed_cons]

theorem marker_ne_nil : marker ≠ [] := by decide

theorem lineFeed_not_mem_marker : '\n' ∉ marker := by decide

/-- The lines behind a line have the marker if the lines have it. -/
theorem not_infix_linesAfter {ls : List (List Char)} (h : ¬marker <:+: joinLines ls) :
    ¬marker <:+: linesAfter ls := by
  cases ls with
  | nil => exact h
  | cons l ls =>
      rw [linesAfter_eq_cons (List.cons_ne_nil l ls)]
      exact fun hin ↦ h (infix_of_infix_cons marker_ne_nil lineFeed_not_mem_marker hin)

variable {sections : List (List (List Char))}

/-- Each section is a part, between line feeds that trimming takes away. -/
theorem map_trim_splitAtPiece (hne : sections ≠ [])
    (h : ∀ ls ∈ sections, ¬marker <:+: joinLines ls) :
    (splitAtPiece marker (linesAfter (List.intercalate [marker] sections))).map trim =
      sections.map fun ls ↦ trim (joinLines ls) := by
  induction sections with
  | nil => exact absurd rfl hne
  | cons ls rest ih =>
      obtain ⟨hls, hrest⟩ := List.forall_mem_cons.mp h
      have hnot := not_infix_linesAfter hls
      cases rest with
      | nil =>
          rw [List.intercalate_singleton, splitAtPiece_eq_singleton marker_ne_nil hnot,
            List.map_singleton, trim_linesAfter]
          rfl
      | cons ms rest =>
          have hbehind : linesAfter (List.intercalate [marker] (ls :: ms :: rest)) =
              (linesAfter ls ++ ['\n']) ++
                (marker ++ linesAfter (List.intercalate [marker] (ms :: rest))) := by
            rw [List.intercalate_cons_cons]
            simp [linesAfter]
          have hstart : NeverStarts marker (linesAfter ls ++ ['\n']) :=
            neverStarts_concat marker_ne_nil lineFeed_not_mem_marker hnot
          have hgap : AllBlank ['\n'] := List.forall_mem_singleton.mpr rfl
          rw [hbehind, hstart.splitAtPiece_append marker_ne_nil, List.map_cons,
            ih (List.cons_ne_nil ms rest) hrest, trim_append_of_allBlank hgap, trim_linesAfter]
          rfl

/-- The sections of a text are those that are divided by lines with the marker, if no section has
the marker itself. -/
theorem all_joinLines (hne : sections ≠ []) (h : ∀ ls ∈ sections, ¬marker <:+: joinLines ls) :
    all (.ofList (joinLines (List.intercalate [marker] sections))) =
      sections.map fun ls ↦ trim (joinLines ls) := by
  rw [all, String.toList_ofList, ← map_trim_splitAtPiece hne h]
  generalize List.intercalate [marker] sections = ls
  cases ls with
  | nil => rfl
  | cons l ls =>
      -- The line feed before the text belongs to the first part.
      have hnot : ¬marker <+: '\n' :: joinLines (l :: ls) := fun hstart ↦
        absurd (List.cons_prefix_cons.mp hstart).1 (by decide)
      obtain ⟨first, others, hsplit, hcons⟩ := exists_splitAtPiece_cons marker_ne_nil hnot
      rw [linesAfter_eq_cons (List.cons_ne_nil l ls), hcons, hsplit, List.map_cons, List.map_cons,
        trim_lineFeed_cons]

end Section

/-! ## Rows -/

/-- A counter in plain decimal. -/
def counterText (n : UInt64) : List Char := decimalDigits n.toNat

/-- An interface with what it counts: eight counters of what it received, and eight of what it sent,
each time the bytes first. -/
structure InterfaceRow where
  name : String
  counters : Fin 16 → UInt64
  name_ne : name ≠ ""
  colon_not_mem : ':' ∉ name.toList
  name_noBlank : NoBlank name.toList

/-- A processor with its ticks: seven counters, of which the fourth is that of the idle ticks, and
up to three more, which are not counted among all ticks. -/
structure CpuRow where
  name : String
  ticks : Fin 7 → UInt64
  more : List UInt64
  name_cpu : "cpu".toList <+: name.toList
  name_noBlank : NoBlank name.toList
  length_more : more.length ≤ 3
  total_lt : ((List.ofFn ticks).map UInt64.toNat).sum < wordSize

namespace InterfaceRow

/-- The line shows the interface: the name, a colon and the counters, with any blanks around the
name and the counters. -/
def IsShown (r : InterfaceRow) (line : List Char) : Prop :=
  ∃ label counters, line = label ++ ':' :: counters ∧ Spaced [r.name.toList] label ∧
    Spaced (List.ofFn fun i ↦ counterText (r.counters i)) counters

/-- The traffic of the interface: the bytes that it received and sent. -/
def traffic (r : InterfaceRow) : Traffic := ⟨⟨r.counters 0⟩, ⟨r.counters 8⟩⟩

end InterfaceRow

namespace CpuRow

/-- The line shows the processor: its name and all its counters, with any blanks between them. -/
def IsShown (r : CpuRow) (line : List Char) : Prop :=
  Spaced (r.name.toList :: (List.ofFn r.ticks ++ r.more).map counterText) line

instance (r : CpuRow) (line : List Char) : Decidable (r.IsShown line) :=
  inferInstanceAs (Decidable (Spaced (r.name.toList :: (List.ofFn r.ticks ++ r.more).map _) line))

/-- All ticks of the processor. -/
def total (r : CpuRow) : Nat := ((List.ofFn r.ticks).map UInt64.toNat).sum

/-- The ticks of the processor: those that were not idle, and all. -/
def times (r : CpuRow) : CpuTimes := ⟨r.total - (r.ticks 3).toNat, r.total⟩

end CpuRow

namespace MemoryField

/-- The line shows the field: its name, the value, and anything behind it, such as a unit. -/
def IsShown (f : MemoryField) (units : UInt64) (line : List Char) : Prop :=
  ∃ rest, Spaced (f.key.toList :: counterText units :: rest) line

instance (f : MemoryField) (units : UInt64) (line : List Char) : Decidable (f.IsShown units line) :=
  decidable_of_iff ([f.key.toList, counterText units] <+: words line)
    (exists_congr fun _ ↦ eq_comm.trans spaced_iff.symm)

end MemoryField

/-- A counter is a size as it is. -/
theorem Size.ofNat_toNat (n : UInt64) : ofNat n.toNat = ⟨n⟩ := by
  refine ext_toNat ?_
  rw [toNat_ofNat]
  exact Nat.min_eq_left (toNat_le ⟨n⟩)

namespace Section

theorem readCounter_counterText (part : SectionName) (n : UInt64) :
    readCounter part (counterText n) = .ok n.toNat := by
  rw [readCounter_eq_ok_iff, counterText, readUnsigned?_decimalDigits]
  exact if_pos n.toNat_lt

theorem mapM_readCounter (part : SectionName) (ns : List UInt64) :
    (ns.map counterText).mapM (readCounter part) = .ok (ns.map UInt64.toNat) := by
  rw [mapM_eq_ok_iff, List.forall₂_map_left_iff, List.forall₂_map_right_iff]
  exact List.forall₂_same.mpr fun n _ ↦ readCounter_counterText part n

theorem readInterfaceLine_of_words {line name counters : List Char} {fields : Fin 16 → List Char}
    (hsplit : splitFirst ':' line = some (name, counters))
    (hwords : words counters = List.ofFn fields) :
    readInterfaceLine line = do
      let receive ← readCounter .network (fields 0)
      let transmit ← readCounter .network (fields 8)
      return (.ofList (trim name), ⟨.ofNat receive, .ofNat transmit⟩) := by
  unfold readInterfaceLine
  rw [hsplit]
  dsimp only
  rw [hwords]
  rfl

theorem readCpuLine_of_words {line name : List Char} {fields : Fin 7 → List Char}
    {rest : List (List Char)} (hwords : words line = name :: (List.ofFn fields ++ rest)) :
    readCpuLine line = do
      let counters ← (List.ofFn fields).mapM (readCounter .cpu)
      let total := counters.foldl (· + ·) 0 % wordSize
      let idle ← readCounter .cpu (fields 3)
      return (.ofList name, ⟨total - idle, total⟩) := by
  unfold readCpuLine
  rw [hwords]
  rfl

theorem readInterfaceLine_of_isShown {r : InterfaceRow} {line : List Char} (h : r.IsShown line) :
    readInterfaceLine (trim line) = .ok (r.name, r.traffic) := by
  obtain ⟨label, counters, rfl, hlabel, hcounters⟩ := h
  have hcolon : ':' ∉ label := by
    intro hmem
    rcases hlabel.isBlank_or_mem hmem with hblank | ⟨w, hw, hmem⟩
    · exact absurd hblank (by decide)
    · obtain rfl := List.mem_singleton.mp hw
      exact r.colon_not_mem hmem
  have htrim : trim (label ++ ':' :: counters) = trimStart label ++ ':' :: trimEnd counters := by
    have hnot : ¬AllBlank (':' :: counters) := fun hall ↦
      absurd (hall ':' List.mem_cons_self) (by decide)
    have hend : trimEnd ([':'] ++ counters) = [':'] ++ trimEnd counters :=
      trimEnd_word_append (by decide) counters
    rw [trim, trimStart_append hlabel.not_allBlank, trimEnd_append hnot]
    exact congrArg _ hend
  have hsplit : splitFirst ':' (trim (label ++ ':' :: counters)) =
      some (trimStart label, trimEnd counters) := by
    rw [htrim, splitFirst_append (not_mem_trimStart hcolon)]
  have hwords : words (trimEnd counters) = List.ofFn fun i ↦ counterText (r.counters i) := by
    rw [words_trimEnd, hcounters.words_eq]
  rw [readInterfaceLine_of_words hsplit hwords, readCounter_counterText, readCounter_counterText,
    trim_trimStart, hlabel.trim_eq, String.ofList_toList]
  change Except.ok (r.name,
    Traffic.mk (.ofNat (r.counters 0).toNat) (.ofNat (r.counters 8).toNat)) = _
  rw [Size.ofNat_toNat, Size.ofNat_toNat, InterfaceRow.traffic]

theorem readCpuLine_of_isShown {r : CpuRow} {line : List Char} (h : r.IsShown line) :
    readCpuLine (trim line) = .ok (r.name, r.times) := by
  have hwords : words (trim line) = r.name.toList ::
      (List.ofFn (counterText ∘ r.ticks) ++ r.more.map counterText) := by
    rw [words_trim, h.words_eq, List.map_append, List.map_ofFn]
  have htotal : ((List.ofFn r.ticks).map UInt64.toNat).foldl (· + ·) 0 % wordSize = r.total := by
    rw [← List.sum_eq_foldl]
    exact Nat.mod_eq_of_lt r.total_lt
  have hidle : readCounter .cpu ((counterText ∘ r.ticks) 3) = .ok (r.ticks 3).toNat :=
    readCounter_counterText .cpu (r.ticks 3)
  rw [readCpuLine_of_words hwords, ← List.map_ofFn, mapM_readCounter, hidle, String.ofList_toList,
    CpuRow.times, ← htotal]
  rfl

theorem readMemoryLine_of_isShown {f : MemoryField} {units : UInt64} {line : List Char}
    (h : f.IsShown units line) :
    readMemoryLine (trim line) = .ok (f.key, .ofNat (units.toNat * 1024)) := by
  obtain ⟨rest, h⟩ := h
  unfold readMemoryLine
  rw [words_trim, h.words_eq]
  dsimp only
  rw [readCounter_counterText, String.ofList_toList]
  rfl

/-! ### Lines of a section -/

theorem filter_replicate_nil {p : List Char → Bool} (hp : p [] = false) (n : Nat) :
    (List.replicate n []).filter p = [] :=
  List.filter_eq_nil_iff.mpr fun l hl ↦ by
    rw [List.eq_of_mem_replicate hl, hp]
    exact Bool.false_ne_true

/-- What is looked for in the lines is not lost when the section is trimmed. -/
theorem filter_trimmedLines {p : List Char → Bool} (hp : p [] = false) {ls : List (List Char)}
    (h : ∀ l ∈ ls, '\n' ∉ l) :
    (trimmedLines (trim (joinLines ls))).filter p = (ls.map trim).filter p := by
  obtain ⟨j, k, hmap, -⟩ := exists_map_trim_eq h
  rw [hmap, List.filter_append, List.filter_append, filter_replicate_nil hp,
    filter_replicate_nil hp, List.nil_append, List.append_nil, trimmedLines]

/-- The headings are the two lines that are left out, even if the second is blank. -/
theorem interfaceLines_eq {header subheader : List Char} {ls : List (List Char)}
    (hheader : ¬AllBlank header) (h : ∀ l ∈ header :: subheader :: ls, '\n' ∉ l) :
    interfaceLines (trim (joinLines (header :: subheader :: ls))) =
      (ls.map trim).filter (· ≠ []) := by
  obtain ⟨j, k, hmap, hj⟩ := exists_map_trim_eq h
  have hfirst : ∀ l ∈ (header :: subheader :: ls).head?, ¬AllBlank l := by
    intro l hl
    obtain rfl := Option.some.inj hl
    exact hheader
  obtain rfl := hj hfirst
  have hdrop := congrArg (fun m ↦ (m.drop 2).filter (· ≠ [])) hmap
  rw [List.replicate_zero, List.nil_append, List.drop_append, List.filter_append,
    List.drop_replicate, filter_replicate_nil (by decide), List.append_nil] at hdrop
  rw [interfaceLines, List.map_drop, ← hdrop]
  rfl

/-- Lines that show some items are read as these. -/
theorem mapM_filter_map_trim {α β : Type} {IsShown : α → List Char → Prop} {p : List Char → Bool}
    {read : List Char → Except StatusError β} {value : α → β} {items : List α}
    {ls : List (List Char)} (h : List.Forall₂ IsShown items ls)
    (hp : ∀ x line, IsShown x line → p (trim line) = true)
    (hread : ∀ x line, IsShown x line → read (trim line) = .ok (value x)) :
    ((ls.map trim).filter p).mapM read = .ok (items.map value) := by
  induction h with
  | nil => rfl
  | cons hline _ ih =>
      rw [List.map_cons, List.filter_cons_of_pos (hp _ _ hline), List.mapM_cons,
        hread _ _ hline, ih]
      rfl

theorem readNetwork_of_isShown {header subheader : List Char} {rows : List InterfaceRow}
    {ls : List (List Char)} (hheader : ¬AllBlank header)
    (h : ∀ l ∈ header :: subheader :: ls, '\n' ∉ l)
    (hrows : List.Forall₂ InterfaceRow.IsShown rows ls) :
    readNetwork (trim (joinLines (header :: subheader :: ls))) =
      .ok (rows.map fun r ↦ (r.name, r.traffic)) := by
  have hsome : ∀ (r : InterfaceRow) line, r.IsShown line → decide (trim line ≠ []) = true := by
    rintro r _ ⟨label, counters, rfl, hlabel, -⟩
    exact decide_eq_true fun hnil ↦
      hlabel.not_allBlank (allBlank_append.mp (trim_eq_nil_iff.mp hnil)).1
  change (interfaceLines _).mapM readInterfaceLine = _
  rw [interfaceLines_eq hheader h]
  exact mapM_filter_map_trim hrows hsome fun _ _ ↦ readInterfaceLine_of_isShown

theorem readCpu_of_isShown {rows : List CpuRow} {ls : List (List Char)} (h : ∀ l ∈ ls, '\n' ∉ l)
    (hrows : List.Forall₂ CpuRow.IsShown rows ls) :
    readCpu (trim (joinLines ls)) = .ok (rows.map fun r ↦ (r.name, r.times)) := by
  have hcpu : ∀ (r : CpuRow) line, r.IsShown line →
      (dropStart? "cpu".toList (trim line)).isSome = true := by
    intro r line hline
    obtain ⟨rest, -, htrim⟩ := Spaced.exists_trim_eq hline
    rw [htrim, isSome_dropStart?_iff]
    exact r.name_cpu.trans (List.prefix_append _ _)
  rw [readCpu, filter_trimmedLines rfl h]
  exact mapM_filter_map_trim hrows hcpu fun _ _ ↦ readCpuLine_of_isShown

theorem readMemory_of_isShown {units : MemoryField → UInt64} {fields : List MemoryField}
    {ls : List (List Char)} (h : ∀ l ∈ ls, '\n' ∉ l)
    (hfields : List.Forall₂ (fun f line ↦ f.IsShown (units f) line) fields ls) :
    readMemory (trim (joinLines ls)) =
      .ok (fields.map fun f ↦ (f.key, .ofNat ((units f).toNat * 1024))) := by
  have hsome : ∀ (f : MemoryField) line, f.IsShown (units f) line →
      decide (trim line ≠ []) = true := by
    rintro f line ⟨rest, hline⟩
    exact decide_eq_true fun hnil ↦ hline.not_allBlank (trim_eq_nil_iff.mp hnil)
  rw [readMemory, filter_trimmedLines rfl h]
  exact mapM_filter_map_trim hfields hsome fun _ _ ↦ readMemoryLine_of_isShown

end Section

/-! ## Memory -/

namespace MemoryField

open Status (setFields)

theorem key_injective : Function.Injective key := by
  intro f g h
  cases f <;> cases g <;> first | rfl | exact absurd h (by decide)

/-- With all fields there each part is its value: the available memory is that of its own field. -/
theorem part_setFields {fields : List MemoryField} (value : MemoryField → Size)
    (h : ∀ f, f ∈ fields) (f : MemoryField) (m : Memory × Swap) :
    f.part (setFields m (fields.map fun g ↦ (g.key, value g))) = value f := by
  have hmem : value f ∈ f.values (fields.map fun g ↦ (g.key, value g)) :=
    mem_values_iff.mpr (List.mem_map.mpr ⟨f, h f, rfl⟩)
  have hne := List.ne_nil_of_mem hmem
  rw [setFields_eq_assemble, part_assemble, after_of_values hne, List.getLastD_eq_getLast?,
    List.getLast?_eq_some_getLast hne, Option.getD_some]
  obtain ⟨g, -, hlast⟩ := List.mem_map.mp (mem_values_iff.mp (List.getLast_mem hne))
  obtain ⟨hkey, hvalue⟩ := Prod.mk.inj hlast
  rw [← hvalue, key_injective hkey]

end MemoryField

/-! ## Snapshots -/

/-- What is counted of a machine. -/
structure Snapshot where
  interfaces : List InterfaceRow
  processors : List CpuRow
  /-- The values of the memory section, in units of 1024 bytes. -/
  memory : MemoryField → UInt64

/-- The lines that a pass prints, section by section; the network section has two headings. -/
structure Printout where
  start : List (List Char)
  header : List Char
  subheader : List Char
  interfaces : List (List Char)
  processors : List (List Char)
  disks : List (List Char)
  memory : List (List Char)
  sensorNames : List (List Char)
  sensorReadings : List (List Char)

namespace Printout

/-- The seven sections. -/
def sections (o : Printout) : List (List (List Char)) :=
  [o.start, o.header :: o.subheader :: o.interfaces, o.processors, o.disks, o.memory, o.sensorNames,
    o.sensorReadings]

/-- The text of the pass: the lines of the sections, with the marker on a line between two. -/
def text (o : Printout) : String :=
  .ofList (joinLines (List.intercalate [Section.marker] o.sections))

/-- The lines show what is counted, and the marker stands in no section. -/
structure Shows (o : Printout) (p : Snapshot) : Prop where
  header : ¬AllBlank o.header
  interfaces : List.Forall₂ InterfaceRow.IsShown p.interfaces o.interfaces
  processors : List.Forall₂ CpuRow.IsShown p.processors o.processors
  /-- The fields of the memory section come in any order. -/
  memory : ∃ fields : List MemoryField, (∀ f, f ∈ fields) ∧
    List.Forall₂ (fun f line ↦ f.IsShown (p.memory f) line) fields o.memory
  lineFeeds : ∀ ls ∈ o.sections, ∀ l ∈ ls, '\n' ∉ l
  unmarked : ∀ ls ∈ o.sections, ¬Section.marker <:+: joinLines ls

end Printout

namespace Status

variable {o : Printout} {p : Snapshot}

/-- A pass applied where nothing is known, three of whose sections are read. -/
theorem exists_applyOutput_empty {output : String}
    {start network cpu disks memory sensorNames sensorReadings : List Char}
    {interfaces : List (String × Traffic)} {processors : List (String × CpuTimes)}
    {fields : List (String × Size)}
    (hall : Section.all output =
      [start, network, cpu, disks, memory, sensorNames, sensorReadings])
    (hnetwork : Section.readNetwork network = .ok interfaces)
    (hcpu : Section.readCpu cpu = .ok processors)
    (hmemory : Section.readMemory memory = .ok fields) (elapsed : Duration) :
    ∃ s log, empty.applyOutput output elapsed = .ok (s, log) ∧
      s.network = Tracked.advance interfaces [] ∧ s.cpu = Tracked.advance processors [] ∧
      s.memory = some (setFields (.unknown, .unknown) fields).1 ∧
      s.swap = some (setFields (.unknown, .unknown) fields).2 := by
  have hparts := applySections_fst empty network cpu disks memory sensorNames sensorReadings elapsed
  rw [applyNetworkSince_of_ok elapsed hnetwork, cpuAfter, hcpu, memoryAfter, hmemory] at hparts
  have hpass := applyOutput_of_seven hall elapsed (s := empty)
  generalize empty.applySections network cpu disks memory sensorNames sensorReadings elapsed = r
    at hparts hpass
  obtain ⟨s, log⟩ := r
  dsimp only at hparts
  subst hparts
  exact ⟨_, log, hpass, rfl, rfl, rfl, rfl⟩

/-- From the text of a pass, applied where nothing is known, the numbers come back that were
printed: the interfaces and the processors in their order, and each part of memory and swap, which
stops at the greatest size.  The blanks in the lines, the order of the memory lines and what the
other sections hold do not matter. -/
theorem applyOutput_shows (h : o.Shows p) (elapsed : Duration) :
    ∃ s log, empty.applyOutput o.text elapsed = .ok (s, log) ∧
      (s.network.map fun i ↦ (i.name, i.receive, i.transmit)) =
        (p.interfaces.map fun r ↦ (r.name, ⟨r.counters 0⟩, ⟨r.counters 8⟩)) ∧
      (s.cpu.map fun c ↦ (c.name, c.samples.latest)) =
        (p.processors.map fun r ↦ (r.name, some ⟨r.total - (r.ticks 3).toNat, r.total⟩)) ∧
      ∃ memory swap, s.memory = some memory ∧ s.swap = some swap ∧
        ∀ f : MemoryField,
          (f.part (memory, swap)).toNat = min ((p.memory f).toNat * 1024) wordMax := by
  obtain ⟨fields, hfields, hshown⟩ := h.memory
  have hnetwork := Section.readNetwork_of_isShown h.header
    (h.lineFeeds _ (.tail _ (.head _))) h.interfaces
  have hcpu := Section.readCpu_of_isShown
    (h.lineFeeds _ (.tail _ (.tail _ (.head _)))) h.processors
  have hmemory := Section.readMemory_of_isShown
    (h.lineFeeds _ (.tail _ (.tail _ (.tail _ (.tail _ (.head _)))))) hshown
  obtain ⟨s, log, hs, hinterfaces, hprocessors, hused, hswap⟩ := exists_applyOutput_empty
    (Section.all_joinLines (List.cons_ne_nil _ _) h.unmarked) hnetwork hcpu hmemory elapsed
  refine ⟨s, log, hs, ?_, ?_, _, _, hused, hswap, fun f ↦ ?_⟩
  · have hlatest := congrArg (List.map fun i ↦
        (i.1, (i.2.getD Traffic.zero).receive, (i.2.getD Traffic.zero).transmit))
      (Tracked.latestSamples_advance (p.interfaces.map fun r ↦ (r.name, r.traffic)) [])
    rw [Tracked.latestSamples, List.map_map, List.map_map, List.map_map] at hlatest
    rw [hinterfaces]
    exact hlatest
  · have hlatest := Tracked.latestSamples_advance
      (p.processors.map fun r ↦ (r.name, r.times)) []
    rw [Tracked.latestSamples, List.map_map] at hlatest
    rw [hprocessors]
    exact hlatest
  · have hpart := MemoryField.part_setFields (fun g ↦ .ofNat ((p.memory g).toNat * 1024)) hfields f
      (.unknown, .unknown)
    rw [Prod.mk.eta, hpart, Size.toNat_ofNat]

/-- Two interfaces, two processors and a memory that is beyond the greatest size. -/
def sampleSnapshot : Snapshot where
  interfaces :=
    [⟨"lo", fun i ↦ if i = 0 ∨ i = 8 then 100 else 0, by decide, by decide, by decide⟩,
      ⟨"eth0", fun i ↦ if i = 0 then 5000 else if i = 8 then 700 else 1, by decide, by decide,
        by decide⟩]
  processors :=
    [⟨"cpu", fun i ↦ if i = 3 then 60 else 10, [7], by decide, by decide, by decide, by decide⟩,
      ⟨"cpu0", fun i ↦ if i = 3 then 30 else 5, [], by decide, by decide, by decide, by decide⟩]
  memory f := if f = .memTotal then 18446744073709551615 else if f = .swapFree then 8 else 0

/-- The same in lines, of which the first of the network section starts with a blank. -/
def samplePrintout : Printout where
  start := []
  header := " Inter-|   Receive".toList
  subheader := []
  interfaces := ["    lo:100 0 0 0 0 0 0 0 100 0 0 0 0 0 0 0".toList,
    " eth0:  5000 1 1 1 1 1 1 1  700 1 1 1 1 1 1 1\t".toList]
  processors := ["cpu  10 10 10 60 10 10 10 7".toList, "cpu0 5 5 5 30 5 5 5".toList]
  disks := ["Filesystem".toList]
  memory := ["SwapFree:       8 kB".toList, "MemTotal: 18446744073709551615 kB".toList,
    "MemFree: 0 kB".toList, "MemAvailable: 0 kB".toList, "Cached: 0".toList,
    "SwapTotal: 0 kB".toList, "SwapCached: 0 kB".toList]
  sensorNames := ["x86_pkg_temp".toList]
  sensorReadings := ["82000".toList, []]

/-- The numbers come back from lines with blanks in and around them, from memory lines in another
order, and with a total of the memory that is cut to the greatest size. -/
theorem applyOutput_shows_sample :
    samplePrintout.Shows sampleSnapshot ∧
      ∃ s log, empty.applyOutput samplePrintout.text ⟨0⟩ = .ok (s, log) ∧
        (s.network.map fun i ↦ (i.name, i.receive, i.transmit)) =
          [("lo", ⟨100⟩, ⟨100⟩), ("eth0", ⟨5000⟩, ⟨700⟩)] ∧
        (s.cpu.map fun c ↦ (c.name, c.samples.latest)) =
          [("cpu", some ⟨60, 120⟩), ("cpu0", some ⟨30, 60⟩)] ∧
        ∃ memory swap, s.memory = some memory ∧ s.swap = some swap ∧
          ∀ f : MemoryField, (f.part (memory, swap)).toNat =
            min ((sampleSnapshot.memory f).toNat * 1024) wordMax := by
  have hshows : samplePrintout.Shows sampleSnapshot := {
    header := by decide
    interfaces := .cons ⟨"    lo".toList, _, rfl, by decide, by decide⟩
      (.cons ⟨" eth0".toList, _, rfl, by decide, by decide⟩ .nil)
    processors := by decide
    memory := ⟨[.swapFree, .memTotal, .memFree, .memAvailable, .cached, .swapTotal, .swapCached],
      fun f ↦ by cases f <;> decide, by decide⟩
    lineFeeds := by decide +kernel
    unmarked := by decide +kernel }
  exact ⟨hshows, applyOutput_shows hshows ⟨0⟩⟩

end Status

end HostWatch
