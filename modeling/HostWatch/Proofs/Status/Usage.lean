import HostWatch.Proofs.Except
import HostWatch.Proofs.Numeric.Arithmetic
import HostWatch.Proofs.Status.Continuation
import Mathlib.Algebra.Order.BigOperators.Group.List
/-!
# The busy share of a processor

The share is taken of two differences that stop at zero each for itself.  Ticks are busy if they are
not idle, so if the idle ticks fall while all ticks rise, more ticks become busy than there are.
Main statement: this is the only way for a share to be above 100.
-/

namespace HostWatch

variable {part whole : Nat}

/-! ## Shares -/

/-- The rank of one. -/
def oneRank : Nat := 1023 * blockSize

theorem scaled_oneRank : scaled oneRank = unitsPerOne := by
  have hone : scaled oneRank = 1 * unitsPerOne :=
    scaled_of_mul_two_pow (e := 0) (m := blockSize) (by decide) le_rfl (by decide) (by decide)
  rw [hone, Nat.one_mul]

theorem scaled_oneRank_succ : scaled (oneRank + 1) * blockSize = (blockSize + 1) * unitsPerOne :=
  scaled_mul_blockSize (e := 0) (m := blockSize + 1) (by decide) (by decide) (by decide) (by decide)

/-- The rank of a hundred. -/
def hundredRank : Nat := 1029 * blockSize + 9 * (blockSize / 16)

theorem scaled_hundredRank : scaled hundredRank = 100 * unitsPerOne :=
  scaled_of_mul_two_pow (e := 6) (m := blockSize + 9 * (blockSize / 16)) (by decide) (by decide)
    (by decide) (by decide)

theorem scaled_hundredRank_succ :
    scaled (hundredRank + 1) * blockSize = (100 * blockSize + 64) * unitsPerOne :=
  scaled_mul_blockSize (e := 6) (m := blockSize + 9 * (blockSize / 16) + 1) (by decide) (by decide)
    (by decide) (by decide)

/-- The rank of a part of a whole. -/
def shareRank (part whole : Nat) : Nat :=
  nearestRank (counted part * unitsPerOne) (counted whole)

/-- The rank of a part of a whole in hundredths. -/
def percentRank (part whole : Nat) : Nat := nearestRank (scaled (shareRank part whole) * 100) 1

theorem unitsPerOne_le_counted (h : whole ≠ 0) : unitsPerOne ≤ counted whole := by
  simpa using (le_counted_iff (m := 1) (by decide)).mpr (Nat.one_le_iff_ne_zero.mpr h)

theorem counted_pos (h : whole ≠ 0) : 0 < counted whole :=
  unitsPerOne_pos.trans_le (unitsPerOne_le_counted h)

theorem shareRank_le (hwhole : whole ≠ 0) (h : part ≤ whole) : shareRank part whole ≤ oneRank := by
  refine nearestRank_le (counted_pos hwhole) ?_
  rw [scaled_oneRank, Nat.mul_comm]
  exact Nat.mul_le_mul_left _ (counted_mono h)

theorem le_shareRank (hwhole : whole ≠ 0) (h : whole ≤ part) : oneRank ≤ shareRank part whole := by
  refine le_nearestRank (counted_pos hwhole) ?_
  rw [scaled_oneRank, Nat.mul_comm]
  exact Nat.mul_le_mul_right _ (counted_mono h)

/-- The least excess shows, if the whole is so small that its neighbours are not rounded to it. -/
theorem lt_shareRank (hwhole : whole ≠ 0) (hsmall : whole < 2 * blockSize) (h : whole < part) :
    oneRank < shareRank part whole := by
  have hpart : (whole + 1) * unitsPerOne ≤ counted part := (le_counted_iff hsmall).mpr h
  have hfactor : (2 * blockSize + 1) * whole < 2 * blockSize * (whole + 1) := by
    rw [Nat.add_one_mul (2 * blockSize) whole, Nat.mul_add_one (2 * blockSize) whole]
    omega
  refine lt_nearestRank (counted_pos hwhole) ?_
  apply Nat.lt_of_mul_lt_mul_left (a := blockSize)
  calc blockSize * ((scaled oneRank + scaled (oneRank + 1)) * counted whole)
      = (scaled oneRank * blockSize + scaled (oneRank + 1) * blockSize) * counted whole := by ring
    _ = (2 * blockSize + 1) * whole * (unitsPerOne * unitsPerOne) := by
        rw [scaled_oneRank, scaled_oneRank_succ, counted_of_le hsmall.le]
        ring
    _ < 2 * blockSize * (whole + 1) * (unitsPerOne * unitsPerOne) :=
        Nat.mul_lt_mul_of_pos_right hfactor (Nat.mul_pos unitsPerOne_pos unitsPerOne_pos)
    _ = 2 * blockSize * unitsPerOne * ((whole + 1) * unitsPerOne) := by ring
    _ ≤ 2 * blockSize * unitsPerOne * counted part := Nat.mul_le_mul_left _ hpart
    _ = blockSize * (2 * (counted part * unitsPerOne)) := by ring

theorem percentRank_le (hwhole : whole ≠ 0) (h : part ≤ whole) :
    percentRank part whole ≤ hundredRank := by
  refine nearestRank_le Nat.one_pos ?_
  rw [scaled_hundredRank, Nat.mul_one, Nat.mul_comm, ← scaled_oneRank]
  exact Nat.mul_le_mul_left _ (scaled_le_scaled.mpr (shareRank_le hwhole h))

theorem le_percentRank (hwhole : whole ≠ 0) (h : whole ≤ part) :
    hundredRank ≤ percentRank part whole := by
  refine le_nearestRank Nat.one_pos ?_
  rw [scaled_hundredRank, Nat.mul_one, Nat.mul_comm, ← scaled_oneRank]
  exact Nat.mul_le_mul_right _ (scaled_le_scaled.mpr (le_shareRank hwhole h))

/-- A hundred times the number after one is past the middle between a hundred and the number after
it. -/
theorem lt_percentRank (hwhole : whole ≠ 0) (hsmall : whole < 2 * blockSize) (h : whole < part) :
    hundredRank < percentRank part whole := by
  have hleast : scaled (oneRank + 1) ≤ scaled (shareRank part whole) :=
    scaled_le_scaled.mpr (lt_shareRank hwhole hsmall h)
  refine lt_nearestRank Nat.one_pos ?_
  apply Nat.lt_of_mul_lt_mul_left (a := blockSize)
  calc blockSize * ((scaled hundredRank + scaled (hundredRank + 1)) * 1)
      = scaled hundredRank * blockSize + scaled (hundredRank + 1) * blockSize := by ring
    _ = (200 * blockSize + 64) * unitsPerOne := by
        rw [scaled_hundredRank, scaled_hundredRank_succ]
        ring
    _ < (200 * blockSize + 200) * unitsPerOne :=
        Nat.mul_lt_mul_of_pos_right (by omega) unitsPerOne_pos
    _ = 200 * (scaled (oneRank + 1) * blockSize) := by
        rw [scaled_oneRank_succ]
        ring
    _ ≤ 200 * (scaled (shareRank part whole) * blockSize) :=
        Nat.mul_le_mul_left _ (Nat.mul_le_mul_right _ hleast)
    _ = blockSize * (2 * (scaled (shareRank part whole) * 100)) := by ring

theorem exists_scaled_eq_blockSize_pow (k : Nat) : ∃ r, scaled r = blockSize ^ k := by
  obtain ⟨r, hr⟩ := exists_scaled_mul_pow 1 52 k
  exact ⟨r, by rw [hr, scaled_of_le (by decide), Nat.one_mul, blockSize_eq]⟩

/-- A share of a count far below the infinite numbers is as far below them. -/
theorem scaled_shareRank_le (hwhole : whole ≠ 0) (hpart : part ≤ blockSize ^ 2) :
    scaled (shareRank part whole) ≤ blockSize ^ 2 * unitsPerOne := by
  obtain ⟨r, hr⟩ := exists_scaled_eq_blockSize_pow 2
  obtain ⟨most, hmost⟩ := exists_scaled_mul_units r
  rw [← hr, ← hmost, scaled_le_scaled]
  refine nearestRank_le (counted_pos hwhole) ?_
  rw [hmost, hr]
  refine Nat.mul_le_mul ?_ (unitsPerOne_le_counted hwhole)
  rw [← counted_of_scaled hr]
  exact counted_mono hpart

theorem percentRank_lt_infinityRank (hwhole : whole ≠ 0) (hpart : part ≤ blockSize ^ 2) :
    percentRank part whole < infinityRank := by
  have hhundred : blockSize ^ 2 * 100 ≤ blockSize ^ 19 := le_blockSize_pow (by decide)
  refine nearestRank_lt_infinityRank Nat.one_pos ?_
  rw [Nat.mul_one]
  calc scaled (shareRank part whole) * 100 ≤ blockSize ^ 2 * unitsPerOne * 100 :=
        Nat.mul_le_mul_right _ (scaled_shareRank_le hwhole hpart)
    _ = blockSize ^ 2 * 100 * unitsPerOne := Nat.mul_right_comm _ _ _
    _ ≤ blockSize ^ 19 * unitsPerOne := Nat.mul_le_mul_right _ hhundred

theorem exists_ofNat_hundred_eq : ∃ h : Fin infinityRank,
    Binary64.ofNat 100 = .finite false h ∧ scaled h.val = 100 * unitsPerOne :=
  Binary64.exists_ofNat_eq_of_scaled (scaled_of_le (by decide)) (le_blockSize_pow (by decide))

/-- A share of counts far below the infinite numbers is finite. -/
theorem exists_percentage_eq (hwhole : whole ≠ 0) (hmost : whole ≤ blockSize ^ 2)
    (hpart : part ≤ blockSize ^ 2) : ∃ r : Fin infinityRank,
      percentage part whole = .finite false r ∧ r.val = percentRank part whole := by
  have hsquare : blockSize ^ 2 ≤ blockSize ^ 19 := le_blockSize_pow (by decide)
  obtain ⟨a, ha, hcounted⟩ := Binary64.exists_ofNat_eq (hpart.trans hsquare)
  obtain ⟨b, hb, hcounted'⟩ := Binary64.exists_ofNat_eq (hmost.trans hsquare)
  obtain ⟨h, hh, hhundred⟩ := exists_ofNat_hundred_eq
  have hb0 : b.val ≠ 0 := by
    rw [← scaled_pos_iff, hcounted']
    exact counted_pos hwhole
  have hshare : shareRank part whole < infinityRank :=
    lt_infinityRank_of_scaled_le
      ((scaled_shareRank_le hwhole hpart).trans (Nat.mul_le_mul_right _ hsquare))
  have hproduct : nearestRank (scaled (shareRank part whole) * (100 * unitsPerOne)) unitsPerOne =
      percentRank part whole := by
    have hscale := nearestRank_mul_mul unitsPerOne_pos (scaled (shareRank part whole) * 100) 1
    rwa [Nat.mul_assoc, Nat.one_mul] at hscale
  refine ⟨⟨_, percentRank_lt_infinityRank hwhole hpart⟩, ?_, rfl⟩
  rw [percentage, ha, hb, hh, Binary64.finite_div_finite hb0, hcounted, hcounted', ← shareRank,
    Binary64.ofRank_of_lt _ hshare, Binary64.finite_mul_finite, hhundred, hproduct]
  exact Binary64.ofRank_of_lt false _

/-- A share is at least zero; it is at most 100 of a part of the whole, and at least 100 of more
than the whole. -/
theorem percentage_bounds (hwhole : whole ≠ 0) (hmost : whole ≤ blockSize ^ 2)
    (hpart : part ≤ blockSize ^ 2) :
    Binary64.zero.le (percentage part whole) = true ∧
      (part ≤ whole → (percentage part whole).le (.ofNat 100) = true) ∧
      (whole ≤ part → (Binary64.ofNat 100).le (percentage part whole) = true) ∧
      (whole < part → whole < 2 * blockSize →
        (Binary64.ofNat 100).lt (percentage part whole) = true) := by
  obtain ⟨r, hr, hrank⟩ := exists_percentage_eq hwhole hmost hpart
  obtain ⟨h, hh, hhundred⟩ := exists_ofNat_hundred_eq
  have hh' : h.val = hundredRank := scaled_inj.mp (hhundred.trans scaled_hundredRank.symm)
  rw [hr, hh, Binary64.le_finite, Binary64.le_finite, Binary64.lt_finite, hrank, hh']
  exact ⟨Binary64.zero_le_finite, percentRank_le hwhole, le_percentRank hwhole,
    fun hlt hsmall ↦ lt_percentRank hwhole hsmall hlt⟩

/-! ## Lines -/

/-- The ticks that were idle. -/
def CpuTimes.idle (t : CpuTimes) : Nat := t.total - t.used

namespace Section

theorem readCounter_eq_ok_iff {part : SectionName} {field : List Char} {n : Nat} :
    readCounter part field = .ok n ↔ readUnsigned? field = some n := by
  unfold readCounter
  cases readUnsigned? field <;> simp

/-- A line that is read has seven counters after the name.  All ticks are their sum, as far as it
fits in 64 bits, and those that the fourth counter leaves are busy.  If the whole sum fits, the
fourth counter is that of the idle ticks. -/
theorem exists_counters_of_readCpuLine {line : List Char} {name : String} {t : CpuTimes}
    (h : readCpuLine line = .ok (name, t)) : ∃ fields counters n,
      name.toList :: fields <+: words line ∧ counters.length = 7 ∧
      List.Forall₂ (fun field n ↦ readUnsigned? field = some n) fields counters ∧
      t.total = counters.sum % wordSize ∧ counters[3]? = some n ∧ t.used = t.total - n ∧
      (counters.sum < wordSize → t.idle = n) := by
  unfold readCpuLine at h
  split at h
  case h_2 => cases h
  case h_1 first user nice system idle iowait irq softirq rest hwords =>
    obtain ⟨counters, hcounters, h⟩ := bind_eq_ok_iff.mp h
    obtain ⟨n, hidle, h⟩ := bind_eq_ok_iff.mp h
    obtain ⟨rfl, rfl⟩ := Prod.mk.inj (Except.ok.inj h)
    have hread := (mapM_eq_ok_iff.mp hcounters).imp fun _ _ ↦ readCounter_eq_ok_iff.mp
    have hfourth : counters[3]? = some n := by
      obtain ⟨-, hget⟩ := List.forall₂_iff_get.mp hread
      have hlt : 3 < counters.length := by simp [← hread.length_eq]
      rw [List.getElem?_eq_getElem hlt]
      exact (hget 3 (by simp) hlt).symm.trans (readCounter_eq_ok_iff.mp hidle)
    have hsum : counters.foldl (· + ·) 0 = counters.sum := List.sum_eq_foldl.symm
    have hle : n ≤ counters.sum := List.le_sum_of_mem (List.mem_of_getElem? hfourth)
    rw [hsum]
    refine ⟨_, counters, n, ⟨rest, ?_⟩, hread.length_eq.symm, hread, rfl, hfourth, rfl,
      fun hfits ↦ ?_⟩
    · rw [hwords, String.toList_ofList]
      rfl
    · rw [CpuTimes.idle, Nat.mod_eq_of_lt hfits]
      exact Nat.sub_sub_self hle

/-- Ticks that a line gives are busy or idle, and far below the infinite numbers. -/
theorem total_le_of_readCpuLine {line : List Char} {name : String} {t : CpuTimes}
    (h : readCpuLine line = .ok (name, t)) :
    t.used + t.idle = t.total ∧ t.total ≤ blockSize ^ 2 := by
  obtain ⟨_, counters, n, -, -, -, htotal, -, hused, -⟩ := exists_counters_of_readCpuLine h
  constructor
  · rw [CpuTimes.idle, hused]
    omega
  · rw [htotal]
    exact (Nat.mod_lt _ (by decide)).le.trans (by decide : wordSize ≤ blockSize ^ 2)

/-- What is read of a list is read of one of its items. -/
theorem exists_of_mem_mapM {α β : Type} {read : β → Except StatusError α} {items : List β}
    {ys : List α} (h : items.mapM read = .ok ys) {y : α} (hy : y ∈ ys) :
    ∃ x ∈ items, read x = .ok y := by
  have hread := mapM_eq_ok_iff.mp h
  obtain ⟨k, hk, rfl⟩ := List.getElem_of_mem hy
  have hlt : k < items.length := hread.length_eq ▸ hk
  exact ⟨items[k], List.getElem_mem hlt, (List.forall₂_iff_get.mp hread).2 k hlt hk⟩

end Section

namespace Tracked

variable {α : Type} {P : String → α → Prop} {samples : List (String × α)}
  {previous : List (Tracked α)}

/-- The samples of an entry have a property. -/
def All (P : String → α → Prop) (entry : Tracked α) : Prop :=
  (∀ x ∈ entry.samples.older, P entry.name x) ∧ ∀ x ∈ entry.samples.latest, P entry.name x

/-- What holds of the samples of all entries, and of new ones, holds of the samples of the entries
that they continue. -/
theorem all_advance (hsamples : ∀ s ∈ samples, P s.1 s.2)
    (hprevious : ∀ entry ∈ previous, entry.All P) :
    ∀ entry ∈ advance samples previous, entry.All P := by
  intro entry hentry
  have hnamed : entry ∈ named entry.name (advance samples previous) :=
    List.mem_filter.mpr ⟨hentry, by simp⟩
  obtain ⟨k, hk⟩ := List.getElem?_of_mem hnamed
  generalize entry.name = name at hk
  rw [getElem?_named_advance, Option.map_eq_some_iff] at hk
  obtain ⟨x, hx, rfl⟩ := hk
  constructor
  · intro y hy
    cases hbefore : (named name previous)[k]? with
    | none =>
        rw [hbefore] at hy
        cases hy
    | some before =>
        rw [hbefore] at hy
        obtain ⟨hmem, hname⟩ := List.mem_filter.mp (List.mem_of_getElem? hbefore)
        obtain rfl := of_decide_eq_true hname
        exact (hprevious before hmem).2 y hy
  · intro y hy
    obtain rfl := Option.some.inj hy
    obtain ⟨s, hs, rfl⟩ := List.mem_map.mp (List.mem_of_getElem? hx)
    obtain ⟨hmem, hname⟩ := List.mem_filter.mp hs
    obtain rfl := of_decide_eq_true hname
    exact hsamples s hmem

end Tracked

namespace Status

/-- A section that was read gives a processor of this name these ticks. -/
def Sampled (texts : List (List Char)) (name : String) (t : CpuTimes) : Prop :=
  ∃ text ∈ texts, ∃ samples, Section.readCpu text = .ok samples ∧ (name, t) ∈ samples

theorem Sampled.mono {texts texts' : List (List Char)} {name : String} {t : CpuTimes}
    (h : Sampled texts name t) (hsubset : texts ⊆ texts') : Sampled texts' name t := by
  obtain ⟨text, htext, hread⟩ := h
  exact ⟨text, hsubset htext, hread⟩

/-- Over a run all samples of all processors are those of sections. -/
theorem all_sampled_afterEach (texts : List (List Char)) :
    ∀ cpu ∈ (afterEach Change.cpu texts).cpu, cpu.All (Sampled texts) := by
  induction texts using List.reverseRecOn with
  | nil =>
      intro cpu hcpu
      cases hcpu
  | append_singleton texts text ih =>
      have hbefore : ∀ cpu ∈ (afterEach Change.cpu texts).cpu,
          cpu.All (Sampled (texts ++ [text])) := fun cpu hcpu ↦
          ⟨fun t ht ↦ ((ih cpu hcpu).1 t ht).mono (List.subset_append_left _ _),
            fun t ht ↦ ((ih cpu hcpu).2 t ht).mono (List.subset_append_left _ _)⟩
      rw [afterEach_concat]
      cases h : Section.readCpu text with
      | error e =>
          rw [(Change.cpu_readsFirst text).perform_of_error h]
          exact hbefore
      | ok samples =>
          rw [(Change.cpu_readsFirst text).perform_of_ok h]
          refine Tracked.all_advance (fun s hs ↦ ?_) hbefore
          exact ⟨text, List.mem_append_right _ (List.mem_singleton_self text), samples, h, hs⟩

theorem Sampled.total_le {texts : List (List Char)} {name : String} {t : CpuTimes}
    (h : Sampled texts name t) : t.used + t.idle = t.total ∧ t.total ≤ blockSize ^ 2 := by
  obtain ⟨text, -, samples, hread, hmem⟩ := h
  obtain ⟨line, -, hline⟩ := Section.exists_of_mem_mapM hread hmem
  exact Section.total_le_of_readCpuLine hline

/-- After any run of processor sections, accepted or refused, a share is of the ticks of two lines,
between which all ticks rose.  It is from 0 to 100 if the idle ticks did not fall.  If they fell,
more ticks became busy than there are, and the share is at least 100; it is more where the rise of
all ticks is below `2 ^ 53`. -/
theorem usage_within_hundred_iff {texts : List (List Char)} {cpu : Cpu} {x : Binary64}
    (hcpu : cpu ∈ (afterEach Change.cpu texts).cpu) (hx : cpu.usage? = some x) :
    ∃ older latest : CpuTimes, cpu.samples = ⟨some older, some latest⟩ ∧
      Sampled texts cpu.name older ∧ Sampled texts cpu.name latest ∧
      older.total < latest.total ∧ Binary64.zero.le x = true ∧
      (latest.used - older.used ≤ latest.total - older.total ↔ older.idle ≤ latest.idle) ∧
      (older.idle ≤ latest.idle → x.le (.ofNat 100) = true) ∧
      (latest.idle < older.idle → (Binary64.ofNat 100).le x = true ∧
        (latest.total - older.total < 2 ^ 53 → (Binary64.ofNat 100).lt x = true)) := by
  obtain ⟨name, older?, latest?⟩ := cpu
  obtain ⟨holder, hlatest⟩ := all_sampled_afterEach texts _ hcpu
  cases older? with
  | none => cases hx
  | some older =>
      cases latest? with
      | none => cases hx
      | some latest =>
          have hsampled := holder older rfl
          have hsampled' := hlatest latest rfl
          obtain ⟨hbusy, htotal⟩ := hsampled.total_le
          obtain ⟨hbusy', htotal'⟩ := hsampled'.total_le
          change (if latest.total - older.total = 0 then none else some
            (percentage (latest.used - older.used) (latest.total - older.total))) = some x at hx
          split_ifs at hx with hzero
          obtain rfl := Option.some.inj hx
          have hwhole : latest.total - older.total ≤ blockSize ^ 2 := by omega
          have hpart : latest.used - older.used ≤ blockSize ^ 2 := by omega
          obtain ⟨hnonneg, hle, hge, hlt⟩ := percentage_bounds hzero hwhole hpart
          refine ⟨older, latest, rfl, hsampled, hsampled', by omega, hnonneg, by omega,
            fun hidle ↦ hle (by omega), fun hidle ↦ ⟨hge (by omega), fun hsmall ↦ ?_⟩⟩
          exact hlt (by omega) (by rwa [blockSize_eq])

/-- Two lines between which all ticks rise by five and the idle ones fall by five. -/
theorem usage_within_hundred_iff_of_fallen_idle :
    let texts := ["cpu 100 0 0 100 0 0 0".toList, "cpu 110 0 0 95 0 0 0".toList]
    let cpu : Cpu := ⟨"cpu", ⟨some ⟨100, 200⟩, some ⟨110, 205⟩⟩⟩
    (cpu ∈ (afterEach Change.cpu texts).cpu ∧ cpu.usage? = some (.ofNat 200)) ∧
      (Binary64.ofNat 100).lt (.ofNat 200) = true := by
  intro texts cpu
  have hcpu : cpu ∈ (afterEach Change.cpu texts).cpu := by decide +kernel
  have hx : cpu.usage? = some (.ofNat 200) := by decide +kernel
  obtain ⟨older, latest, hsamples, -, -, -, -, -, -, hfell⟩ := usage_within_hundred_iff hcpu hx
  obtain ⟨rfl, rfl⟩ : (⟨100, 200⟩ : CpuTimes) = older ∧ (⟨110, 205⟩ : CpuTimes) = latest := by
    simpa [cpu] using hsamples
  exact ⟨⟨hcpu, hx⟩, (hfell (by decide)).2 (by decide)⟩

/-- A share may be above 100. -/
theorem usage_above_hundred :
    ¬ ∀ texts : List (List Char), ∀ cpu ∈ (afterEach Change.cpu texts).cpu,
      ∀ x ∈ cpu.usage?, x.le (.ofNat 100) = true := by
  intro h
  have hcpu : (⟨"cpu", ⟨some ⟨100, 200⟩, some ⟨110, 205⟩⟩⟩ : Cpu) ∈ (afterEach Change.cpu
      ["cpu 100 0 0 100 0 0 0".toList, "cpu 110 0 0 95 0 0 0".toList]).cpu := by
    decide +kernel
  have hle := h _ _ hcpu (.ofNat 200) (by decide +kernel)
  revert hle
  decide +kernel

end Status

end HostWatch
