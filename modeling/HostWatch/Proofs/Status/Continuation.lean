import HostWatch.Proofs.Except
import HostWatch.Proofs.Sequence
import HostWatch.Proofs.Status.Refusal
import Mathlib.Data.List.Forall2
import Mathlib.Data.List.Induction
/-!
# How entries continue from section to section

The entries of a section take those of the section before out of a list that shrinks, one after
the other.  Over any run the outcome is a matching: the `k`-th entry of a name has the `k`-th sample
that each of the last two accepted sections has of the name, and the sections between and before
them do not matter.
-/

namespace HostWatch

/-! ## Differences -/

/-- Each counter of `d` is how much the counter rose, and zero if it fell. -/
def CpuTimes.IsRise (d new old : CpuTimes) : Prop :=
  (d.used : Int) = max ((new.used : Int) - old.used) 0 ∧
    (d.total : Int) = max ((new.total : Int) - old.total) 0

/-- Each counter of `d` is how much the counter rose, and zero if it fell. -/
def Traffic.IsRise (d new old : Traffic) : Prop :=
  (d.receive.toNat : Int) = max ((new.receive.toNat : Int) - old.receive.toNat) 0 ∧
    (d.transmit.toNat : Int) = max ((new.transmit.toNat : Int) - old.transmit.toNat) 0

/-- A difference that stops at zero, in integers. -/
theorem eq_sub_iff {d new old : Nat} : d = new - old ↔ (d : Int) = max ((new : Int) - old) 0 := by
  omega

theorem CpuTimes.eq_difference_iff (d new old : CpuTimes) :
    d = difference new old ↔ d.IsRise new old := by
  obtain ⟨used, total⟩ := d
  rw [difference, mk.injEq, eq_sub_iff, eq_sub_iff]
  exact Iff.rfl

theorem Traffic.eq_difference_iff (d new old : Traffic) :
    d = difference new old ↔ d.IsRise new old := by
  have hsize : ∀ a b c : Size, a = b - c ↔ (a.toNat : Int) = max ((b.toNat : Int) - c.toNat) 0 := by
    intro a b c
    rw [← eq_sub_iff, ← Size.toNat_sub]
    exact ⟨congrArg Size.toNat, Size.ext_toNat⟩
  obtain ⟨receive, transmit⟩ := d
  rw [difference, mk.injEq, hsize, hsize]
  exact Iff.rfl

namespace Tracked

variable {α : Type} {entries before : List (Tracked α)} {older newer : List (String × α)}

/-! ## Matching by name -/

/-- The latest sample of each entry, under its name. -/
def latestSamples (entries : List (Tracked α)) : List (String × Option α) :=
  entries.map fun entry ↦ (entry.name, entry.samples.latest)

/-- The latest samples are those that came last. -/
theorem latestSamples_advance (samples : List (String × α)) (previous : List (Tracked α)) :
    latestSamples (advance samples previous) = samples.map fun s ↦ (s.1, some s.2) := by
  induction samples generalizing previous with
  | nil => rfl
  | cons s rest ih => exact congrArg (_ :: ·) (ih _)

/-- Where the latest samples are some samples, the `k`-th entry of a name has the `k`-th of them. -/
theorem latest_named (h : latestSamples entries = older.map fun s ↦ (s.1, some s.2))
    (name : String) (k : Nat) :
    ((named name entries)[k]?.bind fun entry ↦ entry.samples.latest) =
      (samplesNamed name older)[k]? := by
  have hnamed : (named name entries).map (fun entry ↦ entry.samples.latest) =
      (samplesNamed name older).map some := by
    calc (named name entries).map (fun entry ↦ entry.samples.latest)
        = ((latestSamples entries).filter (·.1 = name)).map Prod.snd := by
          rw [latestSamples, List.filter_map, List.map_map]
          rfl
      _ = ((older.map fun s ↦ (s.1, some s.2)).filter (·.1 = name)).map Prod.snd := by rw [h]
      _ = (samplesNamed name older).map some := by
          rw [samplesNamed, List.filter_map, List.map_map, List.map_map]
          rfl
  have hk := congrArg (·[k]?) hnamed
  simp only [List.getElem?_map] at hk
  cases hentry : (named name entries)[k]? <;> cases hsample : (samplesNamed name older)[k]? <;>
    simp_all

/-- A name has as many samples as it occurs. -/
theorem length_samplesNamed (name : String) (samples : List (String × α)) :
    (samplesNamed name samples).length = (samples.map Prod.fst).count name := by
  rw [samplesNamed, List.length_map, List.count_eq_length_filter, List.filter_map, List.length_map]
  rfl

/-- Entries continue those before by new samples, where the latest samples were `older`. -/
structure Continues (IsRise : α → α → α → Prop) (difference : α → α → α)
    (older newer : List (String × α)) (before after : List (Tracked α)) : Prop where
  /-- There is one entry per sample, in the order of the samples. -/
  latest : latestSamples after = newer.map fun s ↦ (s.1, some s.2)
  /-- The `k`-th entry of a name has the `k`-th sample of the name, after the latest sample of the
  `k`-th entry that the name had before. -/
  continued : ∀ (name : String) (k : Nat),
    (named name after)[k]? = (samplesNamed name newer)[k]?.map fun x ↦
      ⟨name, ⟨(named name before)[k]?.bind fun entry ↦ entry.samples.latest, some x⟩⟩
  /-- The `k`-th entry of a name has two samples exactly if the name occurs so often both times. -/
  ready : ∀ (name : String) (k : Nat) entry, (named name after)[k]? = some entry →
    (entry.samples.isReady = true ↔
      k < (older.map Prod.fst).count name ∧ k < (newer.map Prod.fst).count name)
  /-- Its difference is that of the `k`-th samples of the name. -/
  delta : ∀ (name : String) (k : Nat) entry d, (named name after)[k]? = some entry →
    (entry.samples.delta? difference = some d ↔
      ∃ x y, (samplesNamed name older)[k]? = some x ∧ (samplesNamed name newer)[k]? = some y ∧
        IsRise d y x)

/-- What it comes to that each sample takes the first entry of its name that is left. -/
theorem continues_advance {IsRise : α → α → α → Prop} {difference : α → α → α}
    (hrise : ∀ d new old, d = difference new old ↔ IsRise d new old)
    (h : latestSamples before = older.map fun s ↦ (s.1, some s.2)) :
    Continues IsRise difference older newer before (advance newer before) := by
  have hcontinued : ∀ (name : String) (k : Nat), (named name (advance newer before))[k]? =
      (samplesNamed name newer)[k]?.map fun x ↦
        ⟨name, ⟨(named name before)[k]?.bind fun entry ↦ entry.samples.latest, some x⟩⟩ := by
    intro name k
    rw [getElem?_named_advance]
    congr 1
    funext x
    cases (named name before)[k]? <;> rfl
  -- So the older sample is the one that the last list before has in the same place.
  have hentry : ∀ (name : String) (k : Nat) entry,
      (named name (advance newer before))[k]? = some entry →
        ∃ y, (samplesNamed name newer)[k]? = some y ∧
          entry.samples = ⟨(samplesNamed name older)[k]?, some y⟩ := by
    intro name k entry hk
    rw [hcontinued, Option.map_eq_some_iff] at hk
    obtain ⟨y, hy, rfl⟩ := hk
    exact ⟨y, hy, by rw [latest_named h]⟩
  refine ⟨latestSamples_advance newer before, hcontinued, ?_, ?_⟩
  · intro name k entry hk
    obtain ⟨y, hy, hsamples⟩ := hentry name k entry hk
    obtain ⟨hlt, -⟩ := List.getElem?_eq_some_iff.mp hy
    rw [← length_samplesNamed, ← length_samplesNamed, and_iff_left hlt, hsamples]
    simp [Sequence.isReady]
  · intro name k entry d hk
    obtain ⟨y, hy, hsamples⟩ := hentry name k entry hk
    rw [hsamples, hy]
    cases (samplesNamed name older)[k]? with
    | none => simp [Sequence.delta?]
    | some x =>
        constructor
        · intro h
          exact ⟨x, y, rfl, rfl, (hrise d y x).mp (Option.some.inj h).symm⟩
        · rintro ⟨x', y', hx, hy', hd⟩
          obtain rfl := Option.some.inj hx
          obtain rfl := Option.some.inj hy'
          exact congrArg some ((hrise d y x).mpr hd).symm

end Tracked

/-! ## Runs -/

namespace Section

variable {α : Type}

/-- What the last text held that could be read. -/
def lastRead (read : List Char → Except StatusError (List α)) (texts : List (List Char)) : List α :=
  (texts.filterMap fun text ↦ (read text).toOption).getLast?.getD []

theorem lastRead_concat_of_ok {read : List Char → Except StatusError (List α)}
    {texts : List (List Char)} {text : List Char} {xs : List α} (h : read text = .ok xs) :
    lastRead read (texts ++ [text]) = xs := by
  have hsome : [text].filterMap (fun t ↦ (read t).toOption) = [xs] := by
    simp [h, Except.toOption]
  rw [lastRead, List.filterMap_append, hsome, List.getLast?_concat]
  rfl

theorem lastRead_concat_of_error {read : List Char → Except StatusError (List α)}
    {texts : List (List Char)} {text : List Char} {e : StatusError} (h : read text = .error e) :
    lastRead read (texts ++ [text]) = lastRead read texts := by
  have hnone : [text].filterMap (fun t ↦ (read t).toOption) = [] := by
    simp [h, Except.toOption]
  rw [lastRead, List.filterMap_append, hnone, List.append_nil]
  rfl

end Section

namespace Status

/-- The status that changes by some texts lead to, one after the other, whether they fail or not. -/
def afterEach (change : List Char → Change Unit) (texts : List (List Char)) : Status :=
  texts.foldl (fun s text ↦ ((change text).perform s).2) empty

theorem afterEach_concat (change : List Char → Change Unit) (texts : List (List Char))
    (text : List Char) :
    afterEach change (texts ++ [text]) = ((change text).perform (afterEach change texts)).2 :=
  List.foldl_append

section

variable {α : Type} {change : List Char → Change Unit}
  {read : List Char → Except StatusError (List (String × α))}
  {edit : List (String × α) → Status → Status} (entries : Status → List (Tracked α))

/-- Over a run the latest samples are those of the last section that was read. -/
theorem latestSamples_afterEach (hchange : ∀ text, (change text).ReadsFirst (read text) edit)
    (hedit : ∀ samples s, entries (edit samples s) = Tracked.advance samples (entries s))
    (hempty : entries empty = []) (texts : List (List Char)) :
    Tracked.latestSamples (entries (afterEach change texts)) =
      (Section.lastRead read texts).map fun s ↦ (s.1, some s.2) := by
  induction texts using List.reverseRecOn with
  | nil =>
      rw [show afterEach change [] = empty from rfl, hempty]
      rfl
  | append_singleton texts text ih =>
      rw [afterEach_concat]
      cases h : read text with
      | ok samples =>
          rw [(hchange text).perform_of_ok h, hedit, Section.lastRead_concat_of_ok h]
          exact Tracked.latestSamples_advance samples _
      | error e =>
          rw [(hchange text).perform_of_error h, Section.lastRead_concat_of_error h]
          exact ih

/-- A section that is accepted at the end of a run continues the entries by its samples. -/
theorem continues_afterEach {IsRise : α → α → α → Prop} {difference : α → α → α}
    (hrise : ∀ d new old, d = difference new old ↔ IsRise d new old)
    (hchange : ∀ text, (change text).ReadsFirst (read text) edit)
    (hedit : ∀ samples s, entries (edit samples s) = Tracked.advance samples (entries s))
    (hempty : entries empty = []) {texts : List (List Char)} {text : List Char}
    (h : ((change text).perform (afterEach change texts)).1 = .ok ()) :
    ∃ samples, read text = .ok samples ∧
      Tracked.Continues IsRise difference (Section.lastRead read texts) samples
        (entries (afterEach change texts)) (entries (afterEach change (texts ++ [text]))) := by
  cases hread : read text with
  | error e =>
      rw [(hchange text).perform_of_error hread] at h
      cases h
  | ok samples =>
      refine ⟨samples, rfl, ?_⟩
      rw [afterEach_concat, (hchange text).perform_of_ok hread, hedit]
      exact Tracked.continues_advance hrise
        (latestSamples_afterEach entries hchange hedit hempty texts)

end

/-- After any run of processor sections, accepted or refused, one that is accepted leaves one entry
per line, and the `k`-th entry of a name continues the `k`-th one that the name had.  So it is ready
exactly if the name occurs so often in both of the last two accepted sections, and its difference is
that of their lines.  The same holds of interfaces. -/
theorem entries_continue_by_name (texts : List (List Char)) (text : List Char) :
    (((Change.cpu text).perform (afterEach Change.cpu texts)).1 = .ok () →
      ∃ samples,
        List.Forall₂ (fun line s ↦ Section.readCpuLine line = .ok s) (Section.cpuLines text)
          samples ∧
        Tracked.Continues CpuTimes.IsRise CpuTimes.difference
          (Section.lastRead Section.readCpu texts) samples
          (afterEach Change.cpu texts).cpu (afterEach Change.cpu (texts ++ [text])).cpu) ∧
    (((Change.network text).perform (afterEach Change.network texts)).1 = .ok () →
      ∃ samples,
        List.Forall₂ (fun line s ↦ Section.readInterfaceLine line = .ok s)
          (Section.interfaceLines text) samples ∧
        Tracked.Continues Traffic.IsRise Traffic.difference
          (Section.lastRead Section.readNetwork texts) samples
          (afterEach Change.network texts).network
          (afterEach Change.network (texts ++ [text])).network) := by
  constructor
  · intro h
    obtain ⟨samples, hread, hcontinues⟩ := continues_afterEach Status.cpu
      CpuTimes.eq_difference_iff Change.cpu_readsFirst (fun _ _ ↦ rfl) rfl h
    exact ⟨samples, mapM_eq_ok_iff.mp hread, hcontinues⟩
  · intro h
    obtain ⟨samples, hread, hcontinues⟩ := continues_afterEach Status.network
      Traffic.eq_difference_iff Change.network_readsFirst (fun _ _ ↦ rfl) rfl h
    exact ⟨samples, mapM_eq_ok_iff.mp hread, hcontinues⟩

/-- A name twice, another order, lines that come and go, and a refused section in between. -/
theorem entries_continue_by_name_of_repeated :
    let cpus := ["cpu1 1 0 0 9 0 0 0\ncpu0 2 0 0 8 0 0 0\ncpu0 3 0 0 7 0 0 0".toList,
      "cpu0 4 0 0 6 0 0 0\ncpu1 5".toList]
    let cpu := "cpu0 9 0 0 9 0 0 0\ncpu2 1 0 0 1 0 0 0\ncpu0 2 0 0 8 0 0 0".toList
    let nets := ["\n\nlo: 1 0 0 0 0 0 0 0 5 0 0 0 0 0 0 0".toList, "\n\nlo 7".toList]
    let net := ("\n\neth0: 0 0 0 0 0 0 0 0 0 0 0 0 0 0 0 0\n" ++
      "lo: 4 0 0 0 0 0 0 0 3 0 0 0 0 0 0 0").toList
    (((Change.cpu cpu).perform (afterEach Change.cpu cpus)).1 = .ok () ∧
      ((Change.network net).perform (afterEach Change.network nets)).1 = .ok ()) ∧
    (∃ samples, Tracked.Continues CpuTimes.IsRise CpuTimes.difference
      (Section.lastRead Section.readCpu cpus) samples (afterEach Change.cpu cpus).cpu
      (afterEach Change.cpu (cpus ++ [cpu])).cpu) ∧
    ∃ samples, Tracked.Continues Traffic.IsRise Traffic.difference
      (Section.lastRead Section.readNetwork nets) samples (afterEach Change.network nets).network
      (afterEach Change.network (nets ++ [net])).network := by
  intro cpus cpu nets net
  have hcpu : ((Change.cpu cpu).perform (afterEach Change.cpu cpus)).1 = .ok () := by
    decide +kernel
  have hnet : ((Change.network net).perform (afterEach Change.network nets)).1 = .ok () := by
    decide +kernel
  obtain ⟨cpuSamples, -, hcpus⟩ := (entries_continue_by_name cpus cpu).1 hcpu
  obtain ⟨netSamples, -, hnets⟩ := (entries_continue_by_name nets net).2 hnet
  exact ⟨⟨hcpu, hnet⟩, ⟨cpuSamples, hcpus⟩, netSamples, hnets⟩

end Status

end HostWatch
