import HostWatch.Proofs.Rule.OneInterface
import HostWatch.Proofs.Size.Sum
import HostWatch.Status.Summary
import Mathlib.Data.List.Perm.Basic
/-!
# All interfaces together

The totals over the interfaces are exact sums that stop at the greatest size, and a total of speeds
is known when every interface has two samples.  No total depends on the order in which the machine
lists its interfaces, and neither does what is made of them: the verdicts on all interfaces and
their text in the summary.
-/

namespace HostWatch

section

variable {α β : Type} {f : α → Option β} {items other : List α} {results : List β}

/-- Something is known of all items if it is known of each, in the order of the items. -/
theorem mapM_eq_some_iff :
    items.mapM f = some results ↔ List.Forall₂ (fun a b ↦ f a = some b) items results := by
  induction items generalizing results with
  | nil =>
      rw [List.mapM_nil, List.forall₂_nil_left_iff]
      exact ⟨fun h ↦ (Option.some.inj h).symm, fun h ↦ congrArg some h.symm⟩
  | cons a rest ih =>
      rw [List.mapM_cons, List.forall₂_cons_left_iff]
      constructor
      · intro h
        obtain ⟨b, hb, h⟩ := Option.bind_eq_some_iff.mp h
        obtain ⟨more, hmore, h⟩ := Option.bind_eq_some_iff.mp h
        exact ⟨b, more, hb, ih.mp hmore, (Option.some.inj h).symm⟩
      · rintro ⟨b, more, hb, hmore, rfl⟩
        rw [hb, ih.mpr hmore]
        rfl

theorem mapM_eq_none_iff : items.mapM f = none ↔ ∃ a ∈ items, f a = none := by
  induction items with
  | nil => simp
  | cons a rest ih =>
      rw [List.mapM_cons, List.exists_mem_cons_iff, ← ih]
      cases f a with
      | none => simp
      | some b => cases rest.mapM f <;> simp

/-- In another order the same is known. -/
theorem exists_mapM_of_perm (h : other.Perm items) (hitems : items.mapM f = some results) :
    ∃ results', other.mapM f = some results' ∧ results'.Perm results := by
  obtain ⟨results', hother, hperm⟩ := List.perm_comp_forall₂ h (mapM_eq_some_iff.mp hitems)
  exact ⟨results', mapM_eq_some_iff.mpr hother, hperm⟩

end

variable {all other : List Interface} {s : Status}

namespace Interface

/-! ## Totals -/

/-- A total over interfaces of a speed that each of them has. -/
structure IsTotalSpeed (speed : Interface → Option Size) (all : List Interface)
    (total : Option Size) : Prop where
  /-- It is missing exactly if some interface has fewer than two samples. -/
  eq_none_iff : total = none ↔ ∃ i ∈ all, i.samples.isReady = false
  /-- If it is known it is the exact sum of the speeds of the interfaces, or the greatest size. -/
  exists_toNat_eq : ∀ t, total = some t → ∃ speeds,
    List.Forall₂ (fun i v ↦ speed i = some v) all speeds ∧
      t.toNat = min (speeds.map Size.toNat).sum (2 ^ 64 - 1)

/-- If each interface has a speed, and two samples, their sum is the total. -/
theorem IsTotalSpeed.eq_some {speed : Interface → Option Size} {total : Option Size}
    {speeds : List Size} (h : IsTotalSpeed speed all total)
    (hready : ∀ i ∈ all, i.samples.isReady = true) (hspeeds : all.mapM speed = some speeds) :
    total = some (.sum speeds) := by
  cases total with
  | none =>
      obtain ⟨i, hi, hcold⟩ := h.eq_none_iff.mp rfl
      exact absurd (hready i hi) (by rw [hcold]; exact Bool.false_ne_true)
  | some t =>
      obtain ⟨speeds', hspeeds', hsum⟩ := h.exists_toNat_eq t rfl
      obtain rfl : speeds' = speeds :=
        Option.some.inj ((mapM_eq_some_iff.mpr hspeeds').symm.trans hspeeds)
      exact congrArg some (Size.ext_toNat (hsum.trans (Size.toNat_sum speeds').symm))

theorem isTotalSpeed_map_sum {speed : Interface → Option Size}
    (h : ∀ i, speed i = none ↔ i.samples.isReady = false) (all : List Interface) :
    IsTotalSpeed speed all ((all.mapM speed).map Size.sum) where
  eq_none_iff := by
    rw [Option.map_eq_none_iff, mapM_eq_none_iff]
    simp only [h]
  exists_toNat_eq t ht := by
    obtain ⟨speeds, hspeeds, rfl⟩ := Option.map_eq_some_iff.mp ht
    exact ⟨speeds, mapM_eq_some_iff.mp hspeeds, Size.toNat_sum speeds⟩

theorem isTotalSpeed_receive (elapsed : Duration) (all : List Interface) :
    IsTotalSpeed (receiveSpeed? elapsed) all (totalReceiveSpeed? elapsed all) :=
  isTotalSpeed_map_sum (fun i ↦ traffic?_speed_eq_none_iff elapsed i .received) all

theorem isTotalSpeed_transmit (elapsed : Duration) (all : List Interface) :
    IsTotalSpeed (transmitSpeed? elapsed) all (totalTransmitSpeed? elapsed all) :=
  isTotalSpeed_map_sum (fun i ↦ traffic?_speed_eq_none_iff elapsed i .sent) all

theorem toNat_sum_map (bytes : Interface → Size) (all : List Interface) :
    (Size.sum (all.map bytes)).toNat = min (all.map fun i ↦ (bytes i).toNat).sum (2 ^ 64 - 1) := by
  rw [Size.toNat_sum, List.map_map]
  rfl

/-! ## Another order -/

theorem map_sum_mapM_perm (h : other.Perm all) (speed : Interface → Option Size) :
    (other.mapM speed).map Size.sum = (all.mapM speed).map Size.sum := by
  cases hall : all.mapM speed with
  | none =>
      obtain ⟨i, hi, hnone⟩ := mapM_eq_none_iff.mp hall
      rw [mapM_eq_none_iff.mpr ⟨i, h.mem_iff.mpr hi, hnone⟩]
  | some speeds =>
      obtain ⟨speeds', hother, hperm⟩ := exists_mapM_of_perm h hall
      rw [hother, Option.map_some, Option.map_some, Size.sum_perm hperm]

theorem totalReceive_perm (h : other.Perm all) : totalReceive other = totalReceive all :=
  Size.sum_perm (h.map receive)

theorem totalTransmit_perm (h : other.Perm all) : totalTransmit other = totalTransmit all :=
  Size.sum_perm (h.map transmit)

theorem totalReceiveSpeed?_perm (h : other.Perm all) (elapsed : Duration) :
    totalReceiveSpeed? elapsed other = totalReceiveSpeed? elapsed all :=
  map_sum_mapM_perm h (receiveSpeed? elapsed)

theorem totalTransmitSpeed?_perm (h : other.Perm all) (elapsed : Duration) :
    totalTransmitSpeed? elapsed other = totalTransmitSpeed? elapsed all :=
  map_sum_mapM_perm h (transmitSpeed? elapsed)

end Interface

namespace Rule

theorem measureTraffic_perm (h : other.Perm all) (kind : Kind) (direction : Direction)
    (elapsed : Duration) :
    measureTraffic kind direction elapsed other = measureTraffic kind direction elapsed all := by
  unfold measureTraffic
  rw [Interface.totalReceive_perm h, Interface.totalTransmit_perm h,
    Interface.totalReceiveSpeed?_perm h, Interface.totalTransmitSpeed?_perm h]

/-- The matchers that mean all interfaces. -/
def allMatchers : List String := ["all", "all-in", "all-out", "all-in-out", "all-out-in"]

theorem split_fst_of_mem_allMatchers :
    ∀ matcher ∈ allMatchers, (Direction.split matcher.toList).1 = "all".toList := by
  decide

/-- What is measured of all interfaces does not depend on their order. -/
theorem measureNetwork_perm {r : Rule} (hr : r.matcher ∈ allMatchers)
    (h : other.Perm s.network) (kind : Kind) :
    r.measureNetwork kind { s with network := other } = r.measureNetwork kind s := by
  have hsplit := split_fst_of_mem_allMatchers r.matcher hr
  have hpick : ∀ network, pickInterfaces? "all".toList network = some network := fun _ ↦ if_pos rfl
  unfold measureNetwork
  dsimp only
  rw [hsplit, hpick, hpick, h.isEmpty_eq]
  dsimp only
  rw [measureTraffic_perm h]

/-- A rule on all interfaces has the same verdict in any order. -/
theorem evaluate_perm {matcher : String} (hmatcher : matcher ∈ allMatchers)
    (h : other.Perm s.network) (threshold : String) (now : Instant) :
    evaluate ⟨.net, threshold, matcher⟩ { s with network := other } now =
      evaluate ⟨.net, threshold, matcher⟩ s now := by
  refine evaluate_congr (fun kind ↦ ?_) now
  change measureNetwork ⟨.net, threshold, matcher⟩ kind _ = measureNetwork _ kind _
  exact measureNetwork_perm hmatcher h kind

end Rule

theorem Status.summary_network_perm (h : other.Perm s.network) (name : String) :
    ({ s with network := other }.summary name).network = (s.summary name).network := by
  dsimp only [summary]
  rw [h.isEmpty_eq, Interface.totalReceive_perm h, Interface.totalTransmit_perm h]

/-- The bytes of all interfaces together are the exact sums of their latest counters, and their
speeds the exact sums of the speeds of each, which are those of its last two counters, known if and
only if each has two samples; a sum beyond the greatest size is the greatest size.  In another order
the interfaces have the same totals, the rules on all of them the same verdicts, and the summary the
same text. -/
theorem Interface.totals_exact_in_any_order (s : Status) :
    (totalReceive s.network).toNat =
      min (s.network.map fun i ↦ (i.samples.latest.getD .zero).receive.toNat).sum (2 ^ 64 - 1) ∧
    (totalTransmit s.network).toNat =
      min (s.network.map fun i ↦ (i.samples.latest.getD .zero).transmit.toNat).sum (2 ^ 64 - 1) ∧
    (∀ elapsed,
      IsTotalSpeed (fun i ↦ (i.samples.delta? Traffic.difference).map fun d ↦
        .perSecond d.receive elapsed) s.network (totalReceiveSpeed? elapsed s.network) ∧
      IsTotalSpeed (fun i ↦ (i.samples.delta? Traffic.difference).map fun d ↦
        .perSecond d.transmit elapsed) s.network (totalTransmitSpeed? elapsed s.network)) ∧
    ∀ other, other.Perm s.network →
      totalReceive other = totalReceive s.network ∧
      totalTransmit other = totalTransmit s.network ∧
      (∀ elapsed,
        totalReceiveSpeed? elapsed other = totalReceiveSpeed? elapsed s.network ∧
        totalTransmitSpeed? elapsed other = totalTransmitSpeed? elapsed s.network) ∧
      (∀ threshold, ∀ matcher ∈ Rule.allMatchers, ∀ now,
        Rule.evaluate ⟨.net, threshold, matcher⟩ { s with network := other } now =
          Rule.evaluate ⟨.net, threshold, matcher⟩ s now) ∧
      ∀ name, ({ s with network := other }.summary name).network = (s.summary name).network := by
  refine ⟨toNat_sum_map receive s.network, toNat_sum_map transmit s.network, fun elapsed ↦
    ⟨isTotalSpeed_receive elapsed s.network, isTotalSpeed_transmit elapsed s.network⟩,
    fun other h ↦ ⟨totalReceive_perm h, totalTransmit_perm h, fun elapsed ↦
      ⟨totalReceiveSpeed?_perm h elapsed, totalTransmitSpeed?_perm h elapsed⟩,
      fun threshold matcher hmatcher now ↦ Rule.evaluate_perm hmatcher h threshold now,
      Status.summary_network_perm h⟩⟩

/-- An interface that received all that can be counted. -/
def Interface.trunk : Interface :=
  ⟨"eth1", ⟨some ⟨⟨0⟩, ⟨0⟩⟩, some ⟨⟨18446744073709551615⟩, ⟨9⟩⟩⟩⟩

/-- An interface that sent more than it received. -/
def Interface.spare : Interface := ⟨"eth2", ⟨some ⟨⟨10⟩, ⟨20⟩⟩, some ⟨⟨30⟩, ⟨61⟩⟩⟩⟩

/-- Three interfaces: together they received more than can be counted, and one has one sample
only. -/
def Status.crowded : Status :=
  { empty with
    network := [Interface.trunk, Rule.container, Interface.spare], elapsed := ⟨2000000000⟩ }

/-- Together the three interfaces received the greatest size and sent the sum of what each sent, and
neither speed is known.  Without the interface of one sample both are known: the speed of the sent
bytes is the sum of two speeds that are whole bytes each, and not that of the sum of the bytes. -/
theorem Interface.totals_exact_in_any_order_of_crowded :
    let elapsed : Duration := ⟨2000000000⟩
    (totalReceive Status.crowded.network = ⟨18446744073709551615⟩ ∧
        totalTransmit Status.crowded.network = ⟨77⟩ ∧
        totalReceiveSpeed? elapsed Status.crowded.network = none ∧
        totalTransmitSpeed? elapsed Status.crowded.network = none) ∧
      (totalReceiveSpeed? elapsed [trunk, spare] = some ⟨9223372036854775818⟩ ∧
        totalTransmitSpeed? elapsed [trunk, spare] = some ⟨24⟩) ∧
      [spare, trunk, Rule.container].Perm Status.crowded.network ∧
      totalTransmit [spare, trunk, Rule.container] = ⟨77⟩ ∧
      ∀ matcher ∈ Rule.allMatchers, Rule.evaluate ⟨.net, ">1k", matcher⟩
          { Status.crowded with network := [spare, trunk, Rule.container] } ⟨0⟩ =
        Rule.evaluate ⟨.net, ">1k", matcher⟩ Status.crowded ⟨0⟩ := by
  intro elapsed
  obtain ⟨hreceive, htransmit, hspeeds, horder⟩ := totals_exact_in_any_order Status.crowded
  obtain ⟨-, -, hknown, -⟩ :=
    totals_exact_in_any_order { Status.crowded with network := [trunk, spare] }
  have hcold : ∃ i ∈ Status.crowded.network, i.samples.isReady = false :=
    ⟨Rule.container, .tail _ (.head _), rfl⟩
  have hready : ∀ i ∈ [trunk, spare], i.samples.isReady = true := by decide
  have hsent : totalTransmit Status.crowded.network = ⟨77⟩ := by
    apply Size.ext_toNat
    rw [htransmit]
    decide
  have hperm : [spare, trunk, Rule.container].Perm Status.crowded.network := by decide
  obtain ⟨-, hsame, -, hverdicts, -⟩ := horder _ hperm
  refine ⟨⟨Size.ext_toNat ?_, hsent, (hspeeds elapsed).1.eq_none_iff.mpr hcold,
      (hspeeds elapsed).2.eq_none_iff.mpr hcold⟩, ⟨?_, ?_⟩, hperm, hsame.trans hsent,
    fun matcher hmatcher ↦ hverdicts ">1k" matcher hmatcher ⟨0⟩⟩
  · rw [hreceive]
    decide
  · exact (hknown elapsed).1.eq_some hready
      (by decide +kernel : _ = some [⟨9223372036854775808⟩, ⟨10⟩])
  · exact (hknown elapsed).2.eq_some hready (by decide +kernel : _ = some [⟨4⟩, ⟨20⟩])

end HostWatch
