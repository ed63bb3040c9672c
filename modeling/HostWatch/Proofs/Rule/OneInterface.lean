import HostWatch.Proofs.Rule.Outcome
import HostWatch.Proofs.Sequence
import HostWatch.Proofs.Text.Piece
/-!
# The interface that decides

A matcher for traffic is the name of an interface and an ending for the direction.  It means one
interface, the first of that name, or else the first whose name has it within, and the verdict is on
the traffic of that interface alone.  So a rule is not disturbed by interfaces that come and go
under other names, as those of containers do.
-/

namespace HostWatch

variable {stem threshold ending : String} {i : Interface} {network : List Interface} {s : Status}
  {t : Threshold} {kind : Kind} {direction : Direction} {now : Instant}

/-! ## Names and endings -/

namespace Direction

/-- The endings that ask for a direction behind the name of an interface. -/
def endings : Direction → List String
  | received => ["-in"]
  | sent => ["-out"]
  | both => ["", "-in-out", "-out-in"]

/-- A matcher can have this in it as the name of one interface. -/
structure IsStem (stem : String) : Prop where
  ne_empty : stem ≠ ""
  ne_all : stem ≠ "all"
  not_in : ¬"-in".toList <:+ stem.toList
  not_out : ¬"-out".toList <:+ stem.toList

/-- A matcher is divided into the name and the ending behind it. -/
theorem split_append (h : IsStem stem) (he : ending ∈ direction.endings) :
    split (stem ++ ending).toList = (stem.toList, direction) := by
  have hfound : ∀ last : List Char, dropEnd? last (stem.toList ++ last) = some stem.toList :=
    fun last ↦ dropEnd?_eq_some_iff.mpr rfl
  rw [String.toList_append]
  unfold split
  -- The longer endings are looked for first: each is ruled out by what the name does not end in, or
  -- by the last character.
  cases direction with
  | received =>
      obtain rfl := List.mem_singleton.mp he
      have houtIn : dropEnd? "-out-in".toList (stem.toList ++ "-in".toList) = none :=
        dropEnd?_append_eq_none "-in".toList h.not_out
      have hinOut : dropEnd? "-in-out".toList (stem.toList ++ "-in".toList) = none :=
        dropEnd?_eq_none_of_getLast? (by decide) (by decide) (by decide) _
      rw [houtIn, hinOut, hfound]
      rfl
  | sent =>
      obtain rfl := List.mem_singleton.mp he
      have houtIn : dropEnd? "-out-in".toList (stem.toList ++ "-out".toList) = none :=
        dropEnd?_eq_none_of_getLast? (by decide) (by decide) (by decide) _
      have hinOut : dropEnd? "-in-out".toList (stem.toList ++ "-out".toList) = none :=
        dropEnd?_append_eq_none "-out".toList h.not_in
      have hin : dropEnd? "-in".toList (stem.toList ++ "-out".toList) = none :=
        dropEnd?_eq_none_of_getLast? (by decide) (by decide) (by decide) _
      rw [houtIn, hinOut, hin, hfound]
      rfl
  | both =>
      simp only [endings, List.mem_cons, List.not_mem_nil, or_false] at he
      rcases he with rfl | rfl | rfl
      · have houtIn : dropEnd? "-out-in".toList stem.toList = none :=
          dropEnd?_eq_none_of_suffix (List.suffix_append "-out".toList "-in".toList) h.not_in
        have hinOut : dropEnd? "-in-out".toList stem.toList = none :=
          dropEnd?_eq_none_of_suffix (List.suffix_append "-in".toList "-out".toList) h.not_out
        have hin : dropEnd? "-in".toList stem.toList = none :=
          dropEnd?_eq_none_of_suffix List.suffix_rfl h.not_in
        have hout : dropEnd? "-out".toList stem.toList = none :=
          dropEnd?_eq_none_of_suffix List.suffix_rfl h.not_out
        rw [String.toList_empty, List.append_nil, houtIn, hinOut, hin, hout]
        rfl
      · have houtIn : dropEnd? "-out-in".toList (stem.toList ++ "-in-out".toList) = none :=
          dropEnd?_eq_none_of_getLast? (by decide) (by decide) (by decide) _
        rw [houtIn, hfound]
        rfl
      · rw [hfound]
        rfl

end Direction

/-! ## The interface that is meant -/

/-- The first interface with a property. -/
def Interface.IsFirst (P : Interface → Prop) (network : List Interface) (i : Interface) : Prop :=
  P i ∧ ∃ before after, network = before ++ i :: after ∧ ∀ j ∈ before, ¬P j

/-- The interface that a name means: the first of the name or, if there is none, the first whose
name has it within. -/
def Interface.IsMeant (stem : String) (network : List Interface) (i : Interface) : Prop :=
  IsFirst (fun j ↦ j.name = stem) network i ∨
    (∀ j ∈ network, j.name ≠ stem) ∧ IsFirst (fun j ↦ stem.toList <:+: j.name.toList) network i

namespace Interface

theorem find?_eq_some_iff_isFirst {P : Interface → Prop} {p : Interface → Bool}
    (hp : ∀ j, p j = true ↔ P j) : network.find? p = some i ↔ IsFirst P network i := by
  have hnot : ∀ j, (!p j) = true ↔ ¬P j := fun j ↦ by
    rw [Bool.not_eq_true', ← hp j, Bool.not_eq_true]
  rw [List.find?_eq_some_iff_append, hp i]
  simp only [hnot, IsFirst]

/-- The interface that is found is the one that is meant. -/
theorem findInterface?_eq_some_iff :
    Rule.findInterface? stem.toList network = some i ↔ IsMeant stem network i := by
  have hname : ∀ j : Interface, decide (j.name.toList = stem.toList) = true ↔ j.name = stem :=
    fun j ↦ by rw [decide_eq_true_iff, String.toList_inj]
  have hnone : network.find? (fun j ↦ decide (j.name.toList = stem.toList)) = none ↔
      ∀ j ∈ network, j.name ≠ stem := by
    rw [List.find?_eq_none]
    exact forall₂_congr fun j _ ↦ not_congr (hname j)
  rw [Rule.findInterface?, Option.orElse_eq_some, hnone,
    find?_eq_some_iff_isFirst hname, find?_eq_some_iff_isFirst fun j ↦ hasPiece_iff]
  rfl

/-- None is found if none has the name within its own. -/
theorem findInterface?_eq_none_iff :
    Rule.findInterface? stem.toList network = none ↔
      ¬∃ j ∈ network, stem.toList <:+: j.name.toList := by
  simp only [not_exists, not_and]
  rw [Rule.findInterface?, Option.orElse_eq_none, List.find?_eq_none, List.find?_eq_none]
  simp only [hasPiece_iff, decide_eq_true_eq, and_iff_right_iff_imp]
  intro h j hj hname
  exact h j hj (hname ▸ List.infix_rfl)

/-- Some interface is meant if any has the name within its own. -/
theorem exists_isMeant_iff :
    (∃ i, IsMeant stem network i) ↔ ∃ j ∈ network, stem.toList <:+: j.name.toList := by
  simp only [← findInterface?_eq_some_iff]
  rw [← Option.isSome_iff_exists, Option.isSome_iff_ne_none, Ne, findInterface?_eq_none_iff,
    not_not]

/-- Where an interface has the very name, the interfaces of other names are no matter. -/
theorem findInterface?_congr {other : List Interface} (h : ∃ j ∈ network, j.name = stem)
    (hnamed : Tracked.named stem other = Tracked.named stem network) :
    Rule.findInterface? stem.toList other = Rule.findInterface? stem.toList network := by
  have hfirst : ∀ all : List Interface,
      all.find? (fun j ↦ decide (j.name.toList = stem.toList)) =
        (Tracked.named stem all).head? := by
    intro all
    rw [Tracked.named, List.head?_filter]
    simp only [String.toList_inj]
  obtain ⟨j, hj, hname⟩ := h
  have hmem : j ∈ Tracked.named stem network := List.mem_filter.mpr ⟨hj, decide_eq_true hname⟩
  obtain ⟨first, hhead⟩ := Option.isSome_iff_exists.mp
    (List.isSome_head?.mpr (List.ne_nil_of_mem hmem))
  rw [Rule.findInterface?, Rule.findInterface?, hfirst, hfirst, hnamed, hhead]
  rfl

end Interface

/-! ## Its traffic -/

theorem Size.sum_singleton (x : Size) : sum [x] = x := by
  refine ext_toNat ?_
  rw [sum, List.foldl_cons, List.foldl_nil, toNat_add, toNat_zero, Nat.zero_add]
  exact Nat.min_eq_left x.toNat_le

namespace Interface

/-- The bytes that an interface received, so far or per second. -/
def received? (kind : Kind) (elapsed : Duration) (i : Interface) : Option Size :=
  if kind = .speed then i.receiveSpeed? elapsed else some i.receive

/-- The bytes that an interface sent, so far or per second. -/
def sent? (kind : Kind) (elapsed : Duration) (i : Interface) : Option Size :=
  if kind = .speed then i.transmitSpeed? elapsed else some i.transmit

/-- The bytes of an interface in a direction, so far or per second. -/
def traffic? (kind : Kind) (elapsed : Duration) (i : Interface) : Direction → Option Size
  | .received => i.received? kind elapsed
  | .sent => i.sent? kind elapsed
  | .both => do return (← i.received? kind elapsed) + (← i.sent? kind elapsed)

theorem traffic?_both {elapsed : Duration} {received sent : Size}
    (hreceived : i.traffic? kind elapsed .received = some received)
    (hsent : i.traffic? kind elapsed .sent = some sent) :
    i.traffic? kind elapsed .both = some (received + sent) := by
  have hreceived' : i.received? kind elapsed = some received := hreceived
  have hsent' : i.sent? kind elapsed = some sent := hsent
  rw [traffic?, hreceived', hsent']
  rfl

/-- An amount of traffic as a quantity. -/
def reading (kind : Kind) (bytes : Size) : Reading :=
  if kind = .speed then .speed bytes else .size bytes

theorem kind_reading (h : Monitor.net.supports kind = true) (bytes : Size) :
    (reading kind bytes).kind = kind := by
  cases kind with
  | speed | size => rfl
  | percent | temperature => cases h

theorem map_sum_mapM_singleton (f : Interface → Option Size) (i : Interface) :
    ([i].mapM f).map Size.sum = f i := by
  cases h : f i with
  | none => simp [h]
  | some x => simp [h, Size.sum_singleton]

/-- What is measured of one interface is its own traffic. -/
theorem measureTraffic_singleton (kind : Kind) (direction : Direction) (elapsed : Duration)
    (i : Interface) :
    Rule.measureTraffic kind direction elapsed [i] =
      (Rule.known (i.traffic? kind elapsed direction)).map (reading kind) := by
  unfold Rule.measureTraffic totalReceiveSpeed? totalTransmitSpeed? totalReceive totalTransmit
  rw [map_sum_mapM_singleton, map_sum_mapM_singleton, List.map_singleton, List.map_singleton,
    Size.sum_singleton, Size.sum_singleton]
  by_cases hspeed : kind = .speed
  · subst hspeed
    have hreceived : i.received? .speed elapsed = i.receiveSpeed? elapsed := rfl
    have hsent : i.sent? .speed elapsed = i.transmitSpeed? elapsed := rfl
    cases direction with
    | received =>
        rw [traffic?, hreceived]
        cases i.receiveSpeed? elapsed <;> rfl
    | sent =>
        rw [traffic?, hsent]
        cases i.transmitSpeed? elapsed <;> rfl
    | both =>
        rw [traffic?, hreceived, hsent]
        cases i.receiveSpeed? elapsed <;> cases i.transmitSpeed? elapsed <;> rfl
  · have hreceived : i.received? kind elapsed = some i.receive := if_neg hspeed
    have hsent : i.sent? kind elapsed = some i.transmit := if_neg hspeed
    have hreading : ∀ bytes, reading kind bytes = .size bytes := fun _ ↦ if_neg hspeed
    rw [if_neg hspeed]
    cases direction with
    | received => rw [traffic?, hreceived, ← hreading]; rfl
    | sent => rw [traffic?, hsent, ← hreading]; rfl
    | both => rw [traffic?, hreceived, hsent, ← hreading]; rfl

/-- A speed is known when there are two samples. -/
theorem traffic?_speed_eq_none_iff (elapsed : Duration) (i : Interface) (direction : Direction) :
    i.traffic? .speed elapsed direction = none ↔ i.samples.isReady = false := by
  have hreceived : i.received? .speed elapsed = i.receiveSpeed? elapsed := rfl
  have hsent : i.sent? .speed elapsed = i.transmitSpeed? elapsed := rfl
  unfold receiveSpeed? Sequence.delta? at hreceived
  unfold transmitSpeed? Sequence.delta? at hsent
  unfold traffic?
  rw [hreceived, hsent, Sequence.isReady]
  cases i.samples.older <;> cases i.samples.latest <;> cases direction <;> simp

end Interface

/-! ## The verdict -/

namespace Rule

open Direction (IsStem)

/-- A rule about the traffic of one interface. -/
def traffic (threshold stem ending : String) : Rule := ⟨.net, threshold, stem ++ ending⟩

/-- What is measured is the traffic of the interface that is found. -/
theorem measure_traffic (threshold : String) (hstem : IsStem stem) (hs : s.network ≠ [])
    (he : ending ∈ direction.endings) (kind : Kind) :
    (traffic threshold stem ending).measure kind s =
      match findInterface? stem.toList s.network with
      | none => .error (.invalidMatcher .net (stem ++ ending) "no interface contains this name")
      | some i => (known (i.traffic? kind s.elapsed direction)).map fun bytes ↦
          (stem ++ ending, Interface.reading kind bytes) := by
  have hsplit := Direction.split_append hstem he
  have hne : stem.toList ≠ [] := fun h ↦ hstem.ne_empty (String.toList_eq_nil_iff.mp h)
  have hall : stem.toList ≠ "all".toList := fun h ↦ hstem.ne_all (String.toList_inj.mp h)
  have hempty : ¬s.network.isEmpty = true := fun h ↦ hs (List.isEmpty_iff.mp h)
  change (traffic threshold stem ending).measureNetwork kind s = _
  unfold measureNetwork
  rw [show (traffic threshold stem ending).matcher = stem ++ ending from rfl, hsplit]
  dsimp only
  rw [if_neg hne, if_neg hempty, pickInterfaces?, if_neg hall]
  cases findInterface? stem.toList s.network with
  | none => rfl
  | some i =>
      dsimp only [Option.map_some]
      rw [Interface.measureTraffic_singleton]
      cases i.traffic? kind s.elapsed direction <;> rfl

/-- The verdict is on what was measured, if anything was. -/
theorem evaluate_of_measure {r : Rule} {key : String} {bytes? : Option Size}
    {reading : Size → Reading} (ht : r.validate = .ok t)
    (hkind : ∀ bytes, (reading bytes).kind = t.kind)
    (hmeasure : r.measure t.kind s = (known bytes?).map fun bytes ↦ (key, reading bytes))
    (now : Instant) :
    r.evaluate s now = (known bytes?).map fun bytes ↦ verdictOn t key (reading bytes) now := by
  cases bytes? with
  | none =>
      unfold evaluate
      rw [ht]
      dsimp only [bind, Except.bind]
      rw [hmeasure]
      rfl
  | some bytes =>
      exact evaluate_eq_ok_iff.mpr ⟨t, key, reading bytes, ht, hmeasure, hkind bytes, rfl⟩

theorem evaluate_of_measure_error {r : Rule} {e : RuleError} (ht : r.validate = .ok t)
    (hmeasure : r.measure t.kind s = .error e) (now : Instant) : r.evaluate s now = .error e := by
  unfold evaluate
  rw [ht]
  dsimp only [bind, Except.bind]
  rw [hmeasure]

/-- The name of a quantity matters for nothing but the name in the alert. -/
theorem map_verdictOn (key other : String) {reading : Reading} :
    (verdictOn t key reading now).map (fun alert ↦ { alert with key := other }) =
      verdictOn t other reading now := by
  unfold verdictOn
  split <;> rfl

/-- What is measured alike is judged alike. -/
theorem evaluate_congr {r : Rule} {other : Status}
    (h : ∀ kind, r.measure kind other = r.measure kind s) (now : Instant) :
    r.evaluate other now = r.evaluate s now := by
  unfold evaluate
  simp only [h]

/-- The rules with a name for an interface are decided by this one. -/
structure DecidedBy (i : Interface) (t : Threshold) (threshold stem : String) (s : Status)
    (now : Instant) : Prop where
  /-- What is measured is the interface's traffic in the direction that the ending asks for. -/
  measures : ∀ direction : Direction, ∀ ending ∈ direction.endings,
    (traffic threshold stem ending).measure t.kind s =
      (known (i.traffic? t.kind s.elapsed direction)).map fun bytes ↦
        (stem ++ ending, Interface.reading t.kind bytes)
  /-- The verdict is on that alone. -/
  judges : ∀ direction : Direction, ∀ ending ∈ direction.endings,
    (traffic threshold stem ending).evaluate s now =
      (known (i.traffic? t.kind s.elapsed direction)).map fun bytes ↦
        verdictOn t (stem ++ ending) (Interface.reading t.kind bytes) now
  /-- Both directions are added up, at most to the greatest size. -/
  adds : ∀ received sent, i.traffic? t.kind s.elapsed .received = some received →
    i.traffic? t.kind s.elapsed .sent = some sent →
    ∃ all, i.traffic? t.kind s.elapsed .both = some all ∧
      all.toNat = min (received.toNat + sent.toNat) wordMax
  /-- The endings for both directions make no difference but to the name in alerts. -/
  agrees : ∀ ending ∈ Direction.both.endings,
    (traffic threshold stem ending).evaluate s now =
      ((traffic threshold stem "").evaluate s now).map
        (Option.map fun alert ↦ { alert with key := stem ++ ending })
  /-- A speed is not known before the interface has two samples, and only then. -/
  waits : t.kind = .speed → ∀ direction : Direction, ∀ ending ∈ direction.endings,
    ((traffic threshold stem ending).evaluate s now = .error .notReady ↔
      i.samples.isReady = false)

theorem known_map_eq_error_iff {α β : Type} {o : Option α} {f : α → β} :
    (known o).map f = .error .notReady ↔ o = none := by
  cases o with
  | none => exact ⟨fun _ ↦ rfl, fun _ ↦ rfl⟩
  | some a => exact ⟨nofun, nofun⟩

theorem decidedBy_of_isMeant (hstem : IsStem stem) (hparse : Threshold.parse threshold = .ok t)
    (hkind : Monitor.net.supports t.kind = true) (hs : s.network ≠ [])
    (hmeant : Interface.IsMeant stem s.network i) (now : Instant) :
    DecidedBy i t threshold stem s now := by
  have hvalid : ∀ ending, (traffic threshold stem ending).validate = .ok t := fun ending ↦
    validate_eq_ok_iff.mpr ⟨hparse, hkind⟩
  have hmeasures : ∀ direction : Direction, ∀ ending ∈ direction.endings,
      (traffic threshold stem ending).measure t.kind s =
        (known (i.traffic? t.kind s.elapsed direction)).map fun bytes ↦
          (stem ++ ending, Interface.reading t.kind bytes) := by
    intro direction ending he
    rw [measure_traffic threshold hstem hs he, Interface.findInterface?_eq_some_iff.mpr hmeant]
  have hjudges : ∀ direction : Direction, ∀ ending ∈ direction.endings,
      (traffic threshold stem ending).evaluate s now =
        (known (i.traffic? t.kind s.elapsed direction)).map fun bytes ↦
          verdictOn t (stem ++ ending) (Interface.reading t.kind bytes) now :=
    fun direction ending he ↦ evaluate_of_measure (hvalid ending)
      (Interface.kind_reading hkind) (hmeasures direction ending he) now
  refine ⟨hmeasures, hjudges, ?_, ?_, ?_⟩
  · exact fun received sent hreceived hsent ↦ ⟨received + sent,
      Interface.traffic?_both hreceived hsent, Size.toNat_add received sent⟩
  · intro ending he
    rw [hjudges .both ending he, hjudges .both "" List.mem_cons_self]
    cases i.traffic? t.kind s.elapsed .both with
    | none => rfl
    | some bytes => exact congrArg Except.ok (map_verdictOn _ _).symm
  · intro hspeed direction ending he
    rw [hjudges direction ending he, known_map_eq_error_iff, hspeed,
      Interface.traffic?_speed_eq_none_iff]

/-- A rule about the traffic of an interface is decided by one interface alone, the one that its
name means, whichever ending asks for a direction; its matcher is refused if no interface has the
name within its own.  Where an interface has the very name, the interfaces of other names can come,
go and change places. -/
theorem traffic_decidedBy (hstem : IsStem stem) (hparse : Threshold.parse threshold = .ok t)
    (hkind : Monitor.net.supports t.kind = true) (hs : s.network ≠ []) (now : Instant) :
    (∀ i, Interface.IsMeant stem s.network i → DecidedBy i t threshold stem s now) ∧
      ((∃ i, Interface.IsMeant stem s.network i) ↔
        ∃ j ∈ s.network, stem.toList <:+: j.name.toList) ∧
      ((¬∃ i, Interface.IsMeant stem s.network i) → ∀ direction : Direction,
        ∀ ending ∈ direction.endings, (traffic threshold stem ending).evaluate s now =
          .error (.invalidMatcher .net (stem ++ ending) "no interface contains this name")) ∧
      ((∃ j ∈ s.network, j.name = stem) → ∀ other : Status, other.elapsed = s.elapsed →
        Tracked.named stem other.network = Tracked.named stem s.network →
        ∀ direction : Direction, ∀ ending ∈ direction.endings,
          (traffic threshold stem ending).evaluate other now =
            (traffic threshold stem ending).evaluate s now) := by
  refine ⟨fun i hmeant ↦ decidedBy_of_isMeant hstem hparse hkind hs hmeant now,
    Interface.exists_isMeant_iff, ?_, ?_⟩
  · intro hnone direction ending he
    have hfind : findInterface? stem.toList s.network = none :=
      Interface.findInterface?_eq_none_iff.mpr (mt Interface.exists_isMeant_iff.mpr hnone)
    have hvalid : (traffic threshold stem ending).validate = .ok t :=
      validate_eq_ok_iff.mpr ⟨hparse, hkind⟩
    refine evaluate_of_measure_error hvalid ?_ now
    rw [measure_traffic threshold hstem hs he, hfind]
  · intro hexact other helapsed hnamed direction ending he
    have hother : other.network ≠ [] := by
      obtain ⟨j, hj, hname⟩ := hexact
      intro hnil
      have hmem : j ∈ Tracked.named stem s.network :=
        List.mem_filter.mpr ⟨hj, decide_eq_true hname⟩
      rw [← hnamed, hnil] at hmem
      exact absurd hmem List.not_mem_nil
    refine evaluate_congr (fun kind ↦ ?_) now
    rw [measure_traffic threshold hstem hother he, measure_traffic threshold hstem hs he,
      Interface.findInterface?_congr hexact hnamed, helapsed]

/-- An interface with two samples. -/
def uplink : Interface := ⟨"eth0", ⟨some ⟨⟨100⟩, ⟨50⟩⟩, some ⟨⟨4100⟩, ⟨50⟩⟩⟩⟩

/-- The interface of a container, with one sample. -/
def container : Interface := ⟨"veth0a1", ⟨none, some ⟨⟨7⟩, ⟨7⟩⟩⟩⟩

/-- Both interfaces, the container's first. -/
def withContainer : Status :=
  { Status.empty with network := [container, uplink], elapsed := ⟨1000000000⟩ }

/-- The interface of the container stands first, and its name has `eth0` in it, but the one of this
very name decides.  The verdicts are the same after the container is gone. -/
theorem traffic_decidedBy_uplink :
    IsStem "eth0" ∧ Threshold.parse ">1k/s" = .ok ⟨.speed, .ofNat 1024, .gt⟩ ∧
      Monitor.net.supports .speed = true ∧ withContainer.network ≠ [] ∧
      DecidedBy uplink ⟨.speed, .ofNat 1024, .gt⟩ ">1k/s" "eth0" withContainer ⟨0⟩ ∧
      ∀ direction : Direction, ∀ ending ∈ direction.endings,
        (traffic ">1k/s" "eth0" ending).evaluate { withContainer with network := [uplink] } ⟨0⟩ =
          (traffic ">1k/s" "eth0" ending).evaluate withContainer ⟨0⟩ := by
  have hstem : IsStem "eth0" := ⟨by decide, by decide, by decide, by decide⟩
  have hparse : Threshold.parse ">1k/s" = .ok ⟨.speed, .ofNat 1024, .gt⟩ := by decide +kernel
  have hsome : withContainer.network ≠ [] := List.cons_ne_nil _ _
  have hexact : ∃ j ∈ withContainer.network, j.name = "eth0" := ⟨uplink, .tail _ (.head _), rfl⟩
  have hmeant : Interface.IsMeant "eth0" withContainer.network uplink :=
    .inl ⟨rfl, [container], [], rfl, by decide⟩
  have hdecided := traffic_decidedBy hstem hparse rfl hsome ⟨0⟩
  exact ⟨hstem, hparse, rfl, hsome, hdecided.1 uplink hmeant,
    hdecided.2.2.2 hexact _ rfl (by decide)⟩

end Rule

end HostWatch
