import HostWatch.Command.Run
import HostWatch.Proofs.Sequence
import HostWatch.Proofs.Status.Parts
import Mathlib.Data.List.Basic
import Mathlib.Data.List.Induction
/-!
# What speeds are measured over

Two accounts make up the time of a speed.  The watch remembers when a sample was last applied, and
the status carries the time of the samples whose network section it refused.  At every moment the
two add up to the time since the counters were last read, whatever ticks there were in between.
-/

namespace HostWatch

/-! ## Counts -/

/-- The counters of all interfaces at some time. -/
structure Count where
  /-- When the counters were read. -/
  time : Instant
  /-- The counters of each interface. -/
  counters : List (String × Traffic)
  deriving DecidableEq

/-- The counters in the network section of a text, unless the text or its section is refused. -/
def Section.counters? (output : String) : Option (List (String × Traffic)) :=
  match Section.all output with
  | [_, network, _, _, _, _, _] => (readNetwork network).toOption
  | _ => none

theorem Section.counters?_of_length_ne {output : String} (h : (all output).length ≠ 7) :
    counters? output = none := by
  unfold counters?
  split
  case h_1 heq =>
    rw [heq] at h
    exact absurd rfl h
  case h_2 => rfl

namespace Tick

/-- The count that a tick brings in, if there is a sample and its network section is not refused. -/
def count? (t : Tick) : Option Count :=
  (t.sample.toOption.bind Section.counters?).map fun counters ↦ ⟨t.now, counters⟩

/-- The counts that ticks bring in. -/
def counts (ticks : List Tick) : List Count := ticks.filterMap count?

/-- The times of the ticks do not go back. -/
def Ordered (ticks : List Tick) : Prop := ticks.Pairwise fun t u ↦ t.now ≤ u.now

instance (ticks : List Tick) : Decidable (Ordered ticks) :=
  inferInstanceAs (Decidable (ticks.Pairwise fun t u ↦ t.now ≤ u.now))

@[simp] theorem counts_append (ticks more : List Tick) :
    counts (ticks ++ more) = counts ticks ++ counts more := List.filterMap_append

@[simp] theorem counts_singleton (t : Tick) : counts [t] = t.count?.toList := by
  cases h : t.count? <;> simp [counts, h]

/-- Some time is not before any of the ticks. -/
theorem exists_now_le (ticks : List Tick) : ∃ now : Instant, ∀ t ∈ ticks, t.now ≤ now := by
  induction ticks with
  | nil => exact ⟨⟨0⟩, fun t ht ↦ absurd ht List.not_mem_nil⟩
  | cons t rest ih =>
      obtain ⟨now, hnow⟩ := ih
      refine ⟨⟨max t.now.nanos now.nanos⟩, fun u hu ↦ ?_⟩
      rcases List.mem_cons.mp hu with rfl | hu
      · exact Int.le_max_left _ _
      · exact Instant.le_trans (hnow u hu) (Int.le_max_right _ _)

end Tick

/-- What a text does to the network part of a status, unless it is refused. -/
theorem Status.applyOutput_cases (s : Status) (output : String) (elapsed : Duration) :
    (∃ e, s.applyOutput output elapsed = .error e ∧ Section.counters? output = none) ∨
    ∃ s' log, s.applyOutput output elapsed = .ok (s', log) ∧
      ((Section.counters? output = none ∧
          s'.network = s.network ∧ s'.elapsed = s.elapsed ∧ s'.carried = s.carried + elapsed) ∨
        ∃ counters, Section.counters? output = some counters ∧
          s'.network = Tracked.advance counters s.network ∧
          s'.elapsed = s.carried + elapsed ∧ s'.carried = .zero) := by
  by_cases hlength : (Section.all output).length = 7
  · obtain ⟨start, network, cpu, disks, memory, names, readings, hall⟩ :
        ∃ a b c d e f g, Section.all output = [a, b, c, d, e, f, g] := by
      match Section.all output, hlength with
      | [a, b, c, d, e, f, g], _ => exact ⟨a, b, c, d, e, f, g, rfl⟩
    have hcounters : Section.counters? output = (Section.readNetwork network).toOption := by
      unfold Section.counters?
      rw [hall]
    let r := s.applySections network cpu disks memory names readings elapsed
    have hparts : r.1 = _ := applySections_fst s network cpu disks memory names readings elapsed
    refine .inr ⟨r.1, r.2, applyOutput_of_seven hall elapsed, ?_⟩
    rw [hcounters, hparts]
    cases h : Section.readNetwork network with
    | ok counters =>
        rw [applyNetworkSince_of_ok elapsed h]
        exact .inr ⟨counters, rfl, rfl, rfl, rfl⟩
    | error e =>
        rw [applyNetworkSince_of_error elapsed h]
        exact .inl ⟨rfl, rfl, rfl, rfl⟩
  · exact .inl ⟨_, applyOutput_of_length_ne hlength elapsed, Section.counters?_of_length_ne hlength⟩

namespace Watch

/-- What a tick does to the two accounts of time and to the interfaces: it is passed over, or it
only takes its time, or it brings in a count. -/
theorem tick_cases (w : Watch) (t : Tick) :
    let w' := (w.tick t.now t.sample t.replies).1
    (t.count? = none ∧ w' = w) ∨
    (w'.lastApplied = some t.now ∧
      ((t.count? = none ∧ w'.status.network = w.status.network ∧
          w'.status.elapsed = w.status.elapsed ∧
          w'.status.carried = w.status.carried + w.elapsed t.now) ∨
        ∃ counters, t.count? = some ⟨t.now, counters⟩ ∧
          w'.status.network = Tracked.advance counters w.status.network ∧
          w'.status.elapsed = w.status.carried + w.elapsed t.now ∧
          w'.status.carried = .zero)) := by
  obtain ⟨now, sample, replies⟩ := t
  cases sample with
  | error reason => exact .inl ⟨rfl, rfl⟩
  | ok output =>
      have hcount : (Tick.mk now (.ok output) replies).count? =
          (Section.counters? output).map fun counters ↦ ⟨now, counters⟩ := rfl
      simp only [tick, apply, hcount]
      obtain ⟨e, he, hnone⟩ | ⟨s', log, hs', hpart⟩ :=
        w.status.applyOutput_cases output (w.elapsed now)
      · rw [he, hnone]
        exact .inl ⟨rfl, rfl⟩
      · rw [hs']
        rcases hpart with ⟨hnone, hkept⟩ | ⟨counters, hsome, hnew⟩
        · rw [hnone]
          exact .inr ⟨rfl, .inl ⟨rfl, hkept⟩⟩
        · rw [hsome]
          exact .inr ⟨rfl, .inr ⟨counters, rfl, hnew⟩⟩

/-! ## The two accounts -/

/-- The interfaces after some counts. -/
def interfacesAfter (counts : List Count) : List Interface :=
  counts.foldl (fun previous c ↦ Tracked.advance c.counters previous) []

/-- What a watch holds now of the counts so far. -/
structure Accounts (now : Instant) (counts : List Count) (w : Watch) : Prop where
  /-- The interfaces are those of the counts. -/
  network : w.status.network = interfacesAfter counts
  /-- The last sample that was applied is over. -/
  last_le : ∀ last, w.lastApplied = some last → last ≤ now
  /-- The time is that between the last two counts. -/
  elapsed : ∀ past a b, counts = past ++ [a, b] → w.status.elapsed = b.time.since a.time
  /-- The time that is carried is that from the last count to the last sample. -/
  carried : ∀ past a, counts = past ++ [a] → ∃ last, w.lastApplied = some last ∧ a.time ≤ last ∧
    w.status.carried = last.since a.time

namespace Accounts

variable {now later : Instant} {counts : List Count} {w : Watch} {t : Tick}

/-- A watch before its first tick holds nothing. -/
theorem new (interval : Duration) (rules : List Rule) (dispatcher : Dispatcher) :
    Accounts now [] (.new interval rules dispatcher) where
  network := rfl
  last_le last h := absurd h (Option.not_mem_none last)
  elapsed past _ _ h :=
    absurd h.symm (List.append_ne_nil_of_right_ne_nil past (List.cons_ne_nil _ _))
  carried past _ h :=
    absurd h.symm (List.append_ne_nil_of_right_ne_nil past (List.cons_ne_nil _ _))

/-- Time goes by. -/
theorem mono (h : Accounts now counts w) (hle : now ≤ later) : Accounts later counts w where
  network := h.network
  last_le last hlast := Instant.le_trans (h.last_le last hlast) hle
  elapsed := h.elapsed
  carried := h.carried

/-- The time carried and the time since the last sample add up to the time since the last count. -/
theorem carried_add_elapsed {past : List Count} {a : Count} (h : Accounts now (past ++ [a]) w) :
    w.status.carried + w.elapsed now = now.since a.time ∧ a.time ≤ now := by
  obtain ⟨last, hlast, hle, hcarried⟩ := h.carried past a rfl
  have hnow := h.last_le last hlast
  refine ⟨?_, Instant.le_trans hle hnow⟩
  rw [hcarried, Watch.elapsed, hlast]
  exact Instant.since_add_since hle hnow

/-- A tick keeps the accounts. -/
theorem tick (h : Accounts t.now counts w) :
    Accounts t.now (counts ++ t.count?.toList) (w.tick t.now t.sample t.replies).1 := by
  obtain ⟨hcount, hw⟩ | ⟨happlied, hpart⟩ := w.tick_cases t
  · rw [hcount, hw, Option.toList_none, List.append_nil]
    exact h
  have hlast : ∀ last, (w.tick t.now t.sample t.replies).1.lastApplied = some last →
      last ≤ t.now := by
    intro last hlast
    rw [happlied] at hlast
    exact Instant.le_of_eq (Option.some.inj hlast).symm
  rcases hpart with ⟨hcount, hnetwork, helapsed, hcarried⟩ |
    ⟨counters, hcount, hnetwork, helapsed, hcarried⟩
  · -- The time of the tick moves from the account of the watch to that of the status.
    rw [hcount, Option.toList_none, List.append_nil]
    refine ⟨hnetwork.trans h.network, hlast, fun past a b heq ↦ ?_, ?_⟩
    · rw [helapsed, h.elapsed past a b heq]
    · rintro past a rfl
      obtain ⟨hspan, hle⟩ := h.carried_add_elapsed
      exact ⟨t.now, happlied, hle, hcarried.trans hspan⟩
  · -- The count closes both accounts, and their sum is the time that went by.
    rw [hcount, Option.toList_some]
    refine ⟨?_, hlast, fun past a b heq ↦ ?_, fun past a heq ↦ ?_⟩
    · rw [hnetwork, h.network, interfacesAfter, interfacesAfter, List.foldl_append]
      rfl
    · rw [List.append_cons past a [b]] at heq
      obtain ⟨rfl, hb⟩ := List.append_inj' heq rfl
      obtain rfl := List.singleton_inj.mp hb
      rw [helapsed]
      exact h.carried_add_elapsed.1
    · obtain ⟨-, ha⟩ := List.append_inj' heq rfl
      obtain rfl := List.singleton_inj.mp ha
      exact ⟨t.now, happlied, t.now.le_refl, hcarried.trans (Instant.since_self t.now).symm⟩

/-- Ticks whose times do not go back keep the accounts. -/
theorem run {ticks : List Tick} (interval : Duration) (rules : List Rule)
    (dispatcher : Dispatcher) (h : Tick.Ordered ticks) (hnow : ∀ t ∈ ticks, t.now ≤ now) :
    Accounts now (Tick.counts ticks) ((Watch.new interval rules dispatcher).run ticks) := by
  induction ticks using List.reverseRecOn generalizing now with
  | nil => exact Accounts.new interval rules dispatcher
  | append_singleton ticks t ih =>
      obtain ⟨hbefore, -, hlast⟩ := List.pairwise_append.mp h
      have ht := ih hbefore fun u hu ↦ hlast u hu t (List.mem_singleton_self t)
      rw [Tick.counts_append, Tick.counts_singleton, run_append]
      exact ht.tick.mono (hnow t (List.mem_append_right ticks (List.mem_singleton_self t)))

end Accounts

/-- The command watches the machine by ticks whose times do not go back. -/
theorem exists_run_eq_watchFor (s : Command.Surroundings) (data : Location) (past n : Nat)
    (w : Watch) (now : Instant) (files : FileTree) :
    ∃ ticks : List Tick, Tick.Ordered ticks ∧ (∀ t ∈ ticks, now ≤ t.now) ∧
      (Command.watchFor s data past n w now files).1 = w.run ticks := by
  induction n generalizing past w now files with
  | zero => exact ⟨[], List.Pairwise.nil, fun t ht ↦ absurd ht List.not_mem_nil, rfl⟩
  | succ n ih =>
      let sampled := Sampler.sample data (s.output past) files
      let t : Tick := ⟨now, sampled.1, s.replies past⟩
      let w' := (w.tick t.now t.sample t.replies).1
      obtain ⟨ticks, hordered, hnow, hrun⟩ :=
        ih (past + 1) w' (now.after w'.interval) sampled.2.1
      have hlater : ∀ u ∈ ticks, now ≤ u.now := fun u hu ↦
        Instant.le_trans (now.le_after w'.interval) (hnow u hu)
      refine ⟨t :: ticks, List.pairwise_cons.mpr ⟨hlater, hordered⟩, fun u hu ↦ ?_, hrun⟩
      rcases List.mem_cons.mp hu with rfl | hu
      · exact now.le_refl
      · exact hlater u hu

/-! ## Speeds -/

open Tracked (named samplesNamed)

/-- The interfaces hold the counters of two counts, matched in order under each name, and the time
that went by is that between the two. -/
structure Spans (s : Status) (a b : Count) : Prop where
  /-- The time is that between the counts. -/
  elapsed : s.elapsed = b.time.since a.time
  /-- Each entry holds a counter of either count. -/
  named : ∀ (name : String) (k : Nat), (named name s.network)[k]? =
    (samplesNamed name b.counters)[k]?.map fun x ↦
      Tracked.mk name ⟨(samplesNamed name a.counters)[k]?, some x⟩

/-- The speeds of an interface with two samples are those between the two counts. -/
theorem Spans.speeds {s : Status} {a b : Count} {i : Interface} (h : Spans s a b)
    (hi : i ∈ s.network) (hready : i.samples.isReady = true) :
    ∃ (k : Nat) (older newer : Traffic), (Tracked.named i.name s.network)[k]? = some i ∧
      (samplesNamed i.name a.counters)[k]? = some older ∧
      (samplesNamed i.name b.counters)[k]? = some newer ∧
      i.samples = ⟨some older, some newer⟩ ∧
      i.receiveSpeed? s.elapsed =
        some (.perSecond (newer.receive - older.receive) (b.time.since a.time)) ∧
      i.transmitSpeed? s.elapsed =
        some (.perSecond (newer.transmit - older.transmit) (b.time.since a.time)) := by
  have hmem : i ∈ Tracked.named i.name s.network := List.mem_filter.mpr ⟨hi, by simp⟩
  obtain ⟨k, hk⟩ := List.getElem?_of_mem hmem
  have hkth := hk
  rw [h.named, Option.map_eq_some_iff] at hkth
  obtain ⟨newer, hnewer, hentry⟩ := hkth
  have hsamples : i.samples = ⟨(samplesNamed i.name a.counters)[k]?, some newer⟩ :=
    (congrArg Tracked.samples hentry).symm
  cases holder : (samplesNamed i.name a.counters)[k]? with
  | none =>
      rw [hsamples, holder] at hready
      exact absurd hready Bool.false_ne_true
  | some older =>
      rw [holder] at hsamples
      refine ⟨k, older, newer, hk, holder, hnewer, hsamples, ?_, ?_⟩
      · rw [Interface.receiveSpeed?, hsamples, h.elapsed]
        rfl
      · rw [Interface.transmitSpeed?, hsamples, h.elapsed]
        rfl

/-- After two counts the interfaces and the time are those of the two. -/
theorem Accounts.spans {now : Instant} {past : List Count} {a b : Count} {w : Watch}
    (h : Accounts now (past ++ [a, b]) w) : Spans w.status a b where
  elapsed := h.elapsed past a b rfl
  named name k := by
    rw [h.network, interfacesAfter, List.foldl_append]
    exact Tracked.getElem?_named_advance_advance name a.counters b.counters (interfacesAfter past) k

/-- An interface has two samples only after two counts. -/
theorem exists_counts_of_isReady {counts : List Count} {i : Interface}
    (hi : i ∈ interfacesAfter counts) (hready : i.samples.isReady = true) :
    ∃ past a b, counts = past ++ [a, b] := by
  rcases List.eq_nil_or_concat' counts with rfl | ⟨before, b, rfl⟩
  · exact absurd hi List.not_mem_nil
  rcases List.eq_nil_or_concat' before with rfl | ⟨past, a, rfl⟩
  · have hone : i.samples.older = none := Tracked.older_eq_none_of_mem_advance_nil hi
    exact absurd hready (by simp [Sequence.isReady, hone])
  · exact ⟨past, a, b, (List.append_cons past a [b]).symm⟩

/-- After any ticks, whatever became of them, the time that went by is that between the last two
counts, and an interface with two samples holds the counters of these counts.  So each speed is the
difference of two counters over exactly the time between them. -/
theorem speeds_span_counts (interval : Duration) (rules : List Rule) (dispatcher : Dispatcher)
    (ticks : List Tick) (h : Tick.Ordered ticks) :
    let s := ((Watch.new interval rules dispatcher).run ticks).status
    (∀ past a b, Tick.counts ticks = past ++ [a, b] → Spans s a b) ∧
    ∀ i ∈ s.network, i.samples.isReady = true → ∃ past a b, Tick.counts ticks = past ++ [a, b] ∧
      ∃ (k : Nat) (older newer : Traffic), (named i.name s.network)[k]? = some i ∧
        (samplesNamed i.name a.counters)[k]? = some older ∧
        (samplesNamed i.name b.counters)[k]? = some newer ∧
        i.samples = ⟨some older, some newer⟩ ∧
        i.receiveSpeed? s.elapsed =
          some (.perSecond (newer.receive - older.receive) (b.time.since a.time)) ∧
        i.transmitSpeed? s.elapsed =
          some (.perSecond (newer.transmit - older.transmit) (b.time.since a.time)) := by
  intro s
  obtain ⟨now, hnow⟩ := Tick.exists_now_le ticks
  have hacc := Accounts.run interval rules dispatcher h hnow
  have hspans : ∀ past a b, Tick.counts ticks = past ++ [a, b] → Spans s a b := by
    intro past a b heq
    rw [heq] at hacc
    exact hacc.spans
  refine ⟨hspans, fun i hi hready ↦ ?_⟩
  have hi' : i ∈ interfacesAfter (Tick.counts ticks) := by
    rw [← hacc.network]
    exact hi
  obtain ⟨past, a, b, heq⟩ := exists_counts_of_isReady hi' hready
  exact ⟨past, a, b, heq, (hspans past a b heq).speeds hi hready⟩

/-- Two counts fifteen nanoseconds apart, with a text of one section, a section that is refused and
a tick without a sample between them. -/
theorem speeds_span_counts_over_gaps :
    let text : String → String := fun line ↦
      "SrvBoxInter-|\nface |\n" ++ line ++ "SrvBoxSrvBoxSrvBoxSrvBoxSrvBox"
    let ticks : List Tick :=
      [⟨⟨1⟩, .error "timed out", fun _ ↦ none⟩,
        ⟨⟨5⟩, .ok (text "lo: 10 0 0 0 0 0 0 0 7 0 0 0 0 0 0 0"), fun _ ↦ none⟩,
        ⟨⟨9⟩, .ok "lo", fun _ ↦ none⟩, ⟨⟨9⟩, .ok (text "lo: 12"), fun _ ↦ none⟩,
        ⟨⟨15⟩, .error "timed out", fun _ ↦ none⟩,
        ⟨⟨20⟩, .ok (text "lo: 17 0 0 0 0 0 0 0 7 0 0 0 0 0 0 0"), fun _ ↦ none⟩]
    let w := Watch.new ⟨10⟩ [] ⟨"host", [], .new ⟨1, ⟨10⟩⟩⟩
    Tick.Ordered ticks ∧ (w.run ticks).status.elapsed = ⟨15⟩ := by
  intro text ticks w
  have h : Tick.Ordered ticks := by decide
  have hcounts : Tick.counts ticks =
      [] ++ [⟨⟨5⟩, [("lo", ⟨.ofNat 10, .ofNat 7⟩)]⟩, ⟨⟨20⟩, [("lo", ⟨.ofNat 17, .ofNat 7⟩)]⟩] := by
    decide +kernel
  obtain ⟨hspans, -⟩ := speeds_span_counts ⟨10⟩ [] ⟨"host", [], .new ⟨1, ⟨10⟩⟩⟩ ticks h
  exact ⟨h, (hspans _ _ _ hcounts).elapsed⟩

end Watch

end HostWatch
