import HostWatch.Proofs.RateLimit
import HostWatch.Push.Dispatcher
import Mathlib.Data.List.Forall2
/-!
# How often a name gets through

The turns of all calls of a dispatcher, put one after another, form one trace.  Whether a channel
is tried at its turn is decided by what got through under its name before, in earlier calls or in
the same one.  The trace keeps three laws: the rate is kept in every span as long as the window, a
name without a recent success is tried again, and no name depends on the outcomes of another.
-/

namespace HostWatch

/-! ## Turns -/

namespace Turn

/-- The channel was tried. -/
def attempted (t : Turn) : Bool := t.fate ≠ .limited

/-- When the channel got through, if it did. -/
def sent? (t : Turn) : Option Instant :=
  match t.fate with
  | .sent time => some time
  | .limited | .failed => none

/-- What the turn asks of the limiter, and what it records. -/
def uses (t : Turn) : List RateLimiter.Use :=
  .check t.name t.asked :: (t.sent?.map (RateLimiter.Use.acquire t.name)).toList

/-- When channels of a name got through. -/
def sentTimes (name : String) (turns : List Turn) : List Instant :=
  (turns.filter (·.name = name)).filterMap sent?

variable {name : String}

@[simp] theorem sentTimes_append (name : String) (turns more : List Turn) :
    sentTimes name (turns ++ more) = sentTimes name turns ++ sentTimes name more := by
  simp [sentTimes]

/-- A channel that was not tried did not get through. -/
theorem attempted_of_sent? {t : Turn} {time : Instant} (h : t.sent? = some time) :
    t.attempted = true := by
  obtain ⟨_, _, fate⟩ := t
  cases fate with
  | limited => exact absurd h (by simp [sent?])
  | failed => exact absurd h (by simp [sent?])
  | sent => rfl

theorem sent?_eq_none {t : Turn} (h : t.attempted = false) : t.sent? = none := by
  cases hs : t.sent? with
  | none => rfl
  | some time => exact absurd (attempted_of_sent? hs) (by simp [h])

/-- What the limiter is told is what got through. -/
theorem acquired_uses (name : String) (turns : List Turn) :
    RateLimiter.acquired name (turns.flatMap uses) = sentTimes name turns := by
  induction turns with
  | nil => rfl
  | cons t rest ih =>
      have hrest : sentTimes name (t :: rest) = sentTimes name [t] ++ sentTimes name rest :=
        sentTimes_append name [t] rest
      rw [List.flatMap_cons, RateLimiter.acquired_append, ih, hrest]
      congr 1
      by_cases hn : t.name = name <;> cases hs : t.sent? <;>
        simp [uses, sentTimes, RateLimiter.acquired, RateLimiter.Use.acquired?, List.filterMap_cons,
          hn, hs]

end Turn

/-! ## Turns that a limiter allows -/

/-- A limiter has the say in each of the turns, and the last one is what becomes of it. -/
inductive Obeys : RateLimiter → List Turn → RateLimiter → Prop where
  /-- No turn leaves the limiter as it is. -/
  | nil (l : RateLimiter) : Obeys l [] l
  /-- A channel is tried if the limiter allows it. -/
  | cons {l l' : RateLimiter} {t : Turn} {rest : List Turn}
      (allowed : t.attempted = (l.check t.name t.asked).1)
      (tail : Obeys (l.useAll t.uses) rest l') : Obeys l (t :: rest) l'

namespace Obeys

variable {l m r : RateLimiter} {turns past future : List Turn} {t : Turn}

theorem append (h : Obeys l past m) (h' : Obeys m future r) : Obeys l (past ++ future) r := by
  induction h with
  | nil _ => exact h'
  | cons allowed _ ih => exact .cons allowed (ih h')

/-- The limiter is asked after all that happened before the turn. -/
theorem attempted_eq (h : Obeys l (past ++ t :: future) m) :
    t.attempted = ((l.useAll (past.flatMap Turn.uses)).check t.name t.asked).1 := by
  induction past generalizing l with
  | nil =>
      cases h with
      | cons allowed _ => exact allowed
  | cons p past ih =>
      cases h with
      | cons _ tail =>
          rw [List.flatMap_cons, RateLimiter.useAll_append]
          exact ih tail

end Obeys

namespace Dispatcher

variable {server : String} {alerts : List Alert} {d : Dispatcher}

/-- The turns of a delivery are those that the limiter allows. -/
theorem obeys_sendAll (clock : Clock) (replies : Nat → Channel.Reply)
    (channels : List (String × Channel)) (limiter : RateLimiter) :
    Obeys limiter (sendAll server alerts clock replies channels limiter).turns
      (sendAll server alerts clock replies channels limiter).limiter := by
  fun_induction sendAll server alerts clock replies channels limiter with
  | case1 _ _ limiter => exact .nil limiter
  | case2 _ _ name _ _ limiter asked _ _ _ time d hcheck _ ih =>
      refine .cons (congrArg Prod.fst hcheck).symm ?_
      change Obeys ((limiter.check name asked).2.acquire name time) d.turns d.limiter
      rw [hcheck]
      exact ih
  | case3 _ _ name _ _ limiter asked _ _ _ _ d hcheck _ ih =>
      refine .cons (congrArg Prod.fst hcheck).symm ?_
      change Obeys (limiter.check name asked).2 d.turns d.limiter
      rw [hcheck]
      exact ih
  | case4 _ _ name _ _ limiter asked allowed _ hcheck hallowed d ih =>
      rw [Bool.not_eq_true] at hallowed
      refine .cons ((congrArg Prod.fst hcheck).trans hallowed).symm ?_
      change Obeys (limiter.check name asked).2 d.turns d.limiter
      rw [hcheck]
      exact ih

/-- Readings of a clock, some before the others. -/
theorem map_range_add (clock : Clock) (k n : Nat) :
    (List.range (k + n)).map clock =
      (List.range k).map clock ++ (List.range n).map (clock.skip k) := by
  rw [List.range_add, List.map_append, List.map_map]
  congr 1
  exact List.map_congr_left fun i _ ↦ congrArg clock (Nat.add_comm k i)

/-- The limiter is used whenever the clock is read. -/
theorem map_now_uses_sendAll (clock : Clock) (replies : Nat → Channel.Reply)
    (channels : List (String × Channel)) (limiter : RateLimiter) :
    ∃ n, ((sendAll server alerts clock replies channels limiter).turns.flatMap Turn.uses).map
      RateLimiter.Use.now = (List.range n).map clock := by
  fun_induction sendAll server alerts clock replies channels limiter with
  | case1 => exact ⟨0, rfl⟩
  | case2 clock _ _ _ _ _ _ _ _ _ _ _ _ _ ih =>
      obtain ⟨n, hn⟩ := ih
      refine ⟨2 + n, ?_⟩
      rw [map_range_add, List.flatMap_cons, List.map_append, hn]
      rfl
  | case3 clock _ _ _ _ _ _ _ _ _ _ _ _ _ ih =>
      obtain ⟨n, hn⟩ := ih
      refine ⟨1 + n, ?_⟩
      rw [map_range_add, List.flatMap_cons, List.map_append, hn]
      rfl
  | case4 clock _ _ _ _ _ _ _ _ _ _ _ ih =>
      obtain ⟨n, hn⟩ := ih
      refine ⟨1 + n, ?_⟩
      rw [map_range_add, List.flatMap_cons, List.map_append, hn]
      rfl

/-- What is returned is how many channels got through. -/
theorem delivered_sendAll (clock : Clock) (replies : Nat → Channel.Reply)
    (channels : List (String × Channel)) (limiter : RateLimiter) :
    (sendAll server alerts clock replies channels limiter).delivered =
      (sendAll server alerts clock replies channels limiter).turns.countP (·.sent?.isSome) := by
  fun_induction sendAll server alerts clock replies channels limiter with
  | case1 => rfl
  | case2 _ _ _ _ _ _ _ _ _ _ _ _ _ _ ih =>
      rw [List.countP_cons_of_pos rfl]
      exact congrArg (· + 1) ih
  | case3 _ _ _ _ _ _ _ _ _ _ _ _ _ _ ih =>
      rw [List.countP_cons_of_neg (by simp [Turn.sent?])]
      exact ih
  | case4 _ _ _ _ _ _ _ _ _ _ _ _ ih =>
      rw [List.countP_cons_of_neg (by simp [Turn.sent?])]
      exact ih

/-- What comes of the channels' turns, reply by reply. -/
inductive Answered (server : String) (alerts : List Alert) :
    (Nat → Channel.Reply) → List (String × Channel) → List Turn → List Request → Prop where
  /-- No channel is left. -/
  | nil (replies : Nat → Channel.Reply) : Answered server alerts replies [] [] []
  /-- A channel that is passed over makes no request. -/
  | limited {replies : Nat → Channel.Reply} {c : Channel} {rest : List (String × Channel)}
      {t : Turn} {turns : List Turn} {requests : List Request} (passed : t.attempted = false)
      (tail : Answered server alerts replies rest turns requests) :
      Answered server alerts replies ((t.name, c) :: rest) (t :: turns) requests
  /-- A channel that is tried makes its request, and gets through if the reply is as it should
  be. -/
  | tried {replies : Nat → Channel.Reply} {c : Channel} {rest : List (String × Channel)}
      {t : Turn} {turns : List Turn} {requests : List Request} (tried : t.attempted = true)
      (success : t.sent?.isSome = true ↔ (sendOne server alerts c (replies 0)).1 = .ok ())
      (tail : Answered server alerts
        (fun n ↦ replies (n + (sendOne server alerts c (replies 0)).2.length))
        rest turns requests) :
      Answered server alerts replies ((t.name, c) :: rest) (t :: turns)
        ((sendOne server alerts c (replies 0)).2 ++ requests)

/-- The turns and the requests of a delivery are what comes of the replies. -/
theorem answered_sendAll (clock : Clock) (replies : Nat → Channel.Reply)
    (channels : List (String × Channel)) (limiter : RateLimiter) :
    Answered server alerts replies channels
      (sendAll server alerts clock replies channels limiter).turns
      (sendAll server alerts clock replies channels limiter).requests := by
  fun_induction sendAll server alerts clock replies channels limiter with
  | case1 _ replies => exact .nil replies
  | case2 _ replies name c rest _ asked _ requests _ time d _ hsend ih =>
      have h : Answered server alerts replies ((name, c) :: rest)
          (⟨name, asked, .sent time⟩ :: d.turns)
          ((sendOne server alerts c (replies 0)).2 ++ d.requests) :=
        .tried (t := ⟨name, asked, .sent time⟩) rfl (by simp [Turn.sent?, hsend])
          (by rw [hsend]; exact ih)
      rwa [hsend] at h
  | case3 _ replies name c rest _ asked _ requests _ e d _ hsend ih =>
      have h : Answered server alerts replies ((name, c) :: rest)
          (⟨name, asked, .failed⟩ :: d.turns)
          ((sendOne server alerts c (replies 0)).2 ++ d.requests) :=
        .tried (t := ⟨name, asked, .failed⟩) rfl (by simp [Turn.sent?, hsend])
          (by rw [hsend]; exact ih)
      rwa [hsend] at h
  | case4 _ _ name _ _ _ asked _ _ _ _ _ ih => exact .limited (t := ⟨name, asked, .limited⟩) rfl ih

end Dispatcher

/-! ## Calls -/

/-- A call of a dispatcher. -/
structure Call where
  /-- What is to be sent. -/
  alerts : List Alert
  /-- The clock during the call. -/
  clock : Clock
  /-- The replies to the requests. -/
  replies : Nat → Channel.Reply

namespace Call

/-- The calls are made one after another. -/
def Ordered (calls : List Call) : Prop :=
  (∀ c ∈ calls, c.clock.Forward) ∧ calls.Pairwise fun c later ↦ ∀ i j, c.clock i ≤ later.clock j

theorem ordered_nil : Ordered [] := ⟨List.forall_mem_nil _, .nil⟩

theorem ordered_cons_iff {c : Call} {calls : List Call} :
    Ordered (c :: calls) ↔ c.clock.Forward ∧
      (∀ later ∈ calls, ∀ i j, c.clock i ≤ later.clock j) ∧ Ordered calls := by
  unfold Ordered
  rw [List.forall_mem_cons, List.pairwise_cons]
  exact ⟨fun ⟨⟨hfirst, hrest⟩, hbefore, hpair⟩ ↦ ⟨hfirst, hbefore, hrest, hpair⟩,
    fun ⟨hfirst, hbefore, hrest, hpair⟩ ↦ ⟨⟨hfirst, hrest⟩, hbefore, hpair⟩⟩

end Call

namespace Dispatcher

variable {d : Dispatcher} {calls : List Call}

/-- The deliveries of calls that are made one after another. -/
def deliveries (d : Dispatcher) : List Call → List Delivery
  | [] => []
  | c :: rest =>
    let delivery := d.dispatchOver c.alerts c.clock c.replies
    delivery :: deliveries (d.after delivery) rest

/-- The turns of all calls. -/
def turns (d : Dispatcher) (calls : List Call) : List Turn :=
  (d.deliveries calls).flatMap Delivery.turns

/-- The turns of a call are those that the limiter allows. -/
theorem obeys_dispatchOver (d : Dispatcher) (c : Call) :
    Obeys d.limiter (d.dispatchOver c.alerts c.clock c.replies).turns
      (d.dispatchOver c.alerts c.clock c.replies).limiter := by
  unfold dispatchOver
  split
  · exact .nil d.limiter
  · exact obeys_sendAll c.clock c.replies d.channels d.limiter

/-- The turns of all calls are those that the limiter allows. -/
theorem obeys_turns (d : Dispatcher) (calls : List Call) :
    ∃ l, Obeys d.limiter (d.turns calls) l := by
  induction calls generalizing d with
  | nil => exact ⟨d.limiter, .nil d.limiter⟩
  | cons c rest ih =>
      obtain ⟨l, hl⟩ := ih (d.after (d.dispatchOver c.alerts c.clock c.replies))
      exact ⟨l, (obeys_dispatchOver d c).append hl⟩

/-- The limiter is used when the clock of the call is read. -/
theorem map_now_uses_dispatchOver (d : Dispatcher) (c : Call) :
    ∃ n, ((d.dispatchOver c.alerts c.clock c.replies).turns.flatMap Turn.uses).map
      RateLimiter.Use.now = (List.range n).map c.clock := by
  unfold dispatchOver
  split
  · exact ⟨0, rfl⟩
  · exact map_now_uses_sendAll c.clock c.replies d.channels d.limiter

/-- Each use of the limiter in a call happens when the clock of the call is read. -/
theorem exists_reading_of_mem_uses {c : Call} {u : RateLimiter.Use}
    (h : u ∈ (d.dispatchOver c.alerts c.clock c.replies).turns.flatMap Turn.uses) :
    ∃ i, u.now = c.clock i := by
  obtain ⟨n, hn⟩ := map_now_uses_dispatchOver d c
  have hmem := List.mem_map_of_mem (f := RateLimiter.Use.now) h
  rw [hn, List.mem_map] at hmem
  obtain ⟨i, -, hi⟩ := hmem
  exact ⟨i, hi.symm⟩

/-- The turns of a call come before those of later calls. -/
theorem turns_cons (d : Dispatcher) (c : Call) (rest : List Call) :
    d.turns (c :: rest) = (d.dispatchOver c.alerts c.clock c.replies).turns ++
      (d.after (d.dispatchOver c.alerts c.clock c.replies)).turns rest := rfl

/-- Each use of the limiter happens in one of the calls. -/
theorem exists_clock_of_mem_uses {u : RateLimiter.Use}
    (h : u ∈ (d.turns calls).flatMap Turn.uses) : ∃ c ∈ calls, ∃ i, u.now = c.clock i := by
  induction calls generalizing d with
  | nil => exact absurd h (by simp [turns, deliveries])
  | cons c rest ih =>
      rw [turns_cons, List.flatMap_append] at h
      rcases List.mem_append.mp h with h | h
      · exact ⟨c, List.mem_cons_self, exists_reading_of_mem_uses h⟩
      · obtain ⟨c', hc', i, hi⟩ := ih h
        exact ⟨c', List.mem_cons_of_mem c hc', i, hi⟩

/-- If the calls are made one after another, the limiter is used at instants that do not go
back. -/
theorem ordered_uses (d : Dispatcher) (h : Call.Ordered calls) :
    RateLimiter.Ordered ((d.turns calls).flatMap Turn.uses) := by
  induction calls generalizing d with
  | nil => exact List.Pairwise.nil
  | cons c rest ih =>
      obtain ⟨hforward, hbefore, hrest⟩ := Call.ordered_cons_iff.mp h
      obtain ⟨n, hn⟩ := map_now_uses_dispatchOver d c
      have hrange : ((List.range n).map c.clock).Pairwise (· ≤ ·) :=
        List.Pairwise.map c.clock (fun i j hij ↦ hforward i j (Nat.le_of_lt hij))
          List.pairwise_lt_range
      rw [turns_cons, List.flatMap_append]
      refine List.pairwise_append.mpr ⟨?_, ?_, fun u hu v hv ↦ ?_⟩
      · rw [← hn, List.pairwise_map] at hrange
        exact hrange
      · exact ih _ hrest
      · obtain ⟨i, hi⟩ := exists_reading_of_mem_uses hu
        obtain ⟨c', hc', j, hj⟩ := exists_clock_of_mem_uses hv
        rw [hi, hj]
        exact hbefore c' hc' i j

end Dispatcher

/-! ## Laws of a trace -/

/-- Turns in which the rate alone decides who is tried. -/
structure KeepsRate (rate : Rate) (turns : List Turn) : Prop where
  /-- The limiter is used at instants that do not go back. -/
  ordered : RateLimiter.Ordered (turns.flatMap Turn.uses)
  /-- A channel is tried exactly if its name got through fewer times within the window than the rate
  has. -/
  attempted_iff : ∀ past t future, turns = past ++ t :: future →
    (t.attempted = true ↔
      ((Turn.sentTimes t.name past).countP fun s ↦ t.asked.since s < rate.window) < rate.times)

/-- Turns of one name that agree on when the limiter was asked, and on the outcome where both were
tried. -/
def Turn.Agrees (t t' : Turn) : Prop :=
  t.asked = t'.asked ∧ (t.attempted = true → t'.attempted = true → t.sent? = t'.sent?)

namespace KeepsRate

variable {rate : Rate} {turns more : List Turn} {t : Turn}

theorem of_append (h : KeepsRate rate (turns ++ more)) : KeepsRate rate turns where
  ordered := by
    have hall := h.ordered
    rw [List.flatMap_append] at hall
    exact (List.pairwise_append.mp hall).1
  attempted_iff past t future heq := by
    refine h.attempted_iff past t (future ++ more) ?_
    rw [heq, List.append_assoc, List.cons_append]

/-- A channel gets through after the limiter was asked. -/
theorem asked_le {time : Instant} (h : KeepsRate rate turns) (ht : t ∈ turns)
    (hsent : t.sent? = some time) : t.asked ≤ time := by
  have huses : t.uses.Pairwise fun u v ↦ u.now ≤ v.now := by
    refine h.ordered.sublist ?_
    obtain ⟨past, future, rfl⟩ := List.append_of_mem ht
    rw [List.flatMap_append, List.flatMap_cons]
    exact (List.sublist_append_left _ _).trans (List.sublist_append_right _ _)
  have htwo : t.uses = [.check t.name t.asked, .acquire t.name time] := by
    rw [Turn.uses, hsent]
    rfl
  rw [htwo] at huses
  exact List.rel_of_pairwise_cons huses (List.mem_singleton_self _)

/-- In no span that is as long as the window does a name get through more often than the rate
has. -/
theorem countP_sentTimes_le (h : KeepsRate rate turns) (name : String) (start : Instant) :
    (Turn.sentTimes name turns).countP (fun s ↦ start ≤ s ∧ s.since start < rate.window) ≤
      rate.times := by
  induction turns using List.reverseRecOn with
  | nil => exact Nat.zero_le _
  | append_singleton turns t ih =>
      have hbefore := ih h.of_append
      rw [Turn.sentTimes_append, List.countP_append]
      by_cases hlast : t.name = name ∧
          ∃ time, t.sent? = some time ∧ start ≤ time ∧ time.since start < rate.window
      · obtain ⟨hname, time, hsent, hstart, hwithin⟩ := hlast
        have hasked := h.asked_le (List.mem_append_right turns (List.mem_singleton_self t)) hsent
        have hlt := (h.attempted_iff turns t [] rfl).mp (Turn.attempted_of_sent? hsent)
        -- What got through in the span still counted when the limiter was asked.
        have hle : (Turn.sentTimes name turns).countP
              (fun s ↦ start ≤ s ∧ s.since start < rate.window) ≤
            (Turn.sentTimes name turns).countP fun s ↦ t.asked.since s < rate.window := by
          refine List.countP_mono_left fun s _ hs ↦ ?_
          simp only [decide_eq_true_eq, Duration.lt_iff, Instant.nanos_since, Instant.le_iff]
            at hs hstart hwithin hasked ⊢
          omega
        rw [hname] at hlt
        have hone : (Turn.sentTimes name [t]).length = 1 := by
          simp [Turn.sentTimes, hname, hsent]
        have hmost := List.countP_le_length (l := Turn.sentTimes name [t])
          (p := fun s ↦ decide (start ≤ s ∧ s.since start < rate.window))
        omega
      · have hzero : (Turn.sentTimes name [t]).countP
            (fun s ↦ start ≤ s ∧ s.since start < rate.window) = 0 := by
          rw [List.countP_eq_zero]
          intro s hs hin
          simp only [Turn.sentTimes, List.mem_filterMap, List.mem_filter, List.mem_singleton,
            decide_eq_true_eq] at hs hin
          obtain ⟨t', ⟨rfl, hname⟩, hsent⟩ := hs
          exact hlast ⟨hname, s, hsent, hin⟩
        rw [hzero]
        exact hbefore

/-- A name that did not get through within the window is tried, if anything is let through at
all. -/
theorem attempted_of_quiet (h : KeepsRate rate turns) (htimes : 0 < rate.times)
    {past future : List Turn} (heq : turns = past ++ t :: future)
    (hquiet : ∀ s ∈ Turn.sentTimes t.name past, ¬ t.asked.since s < rate.window) :
    t.attempted = true := by
  rw [h.attempted_iff past t future heq, List.countP_eq_zero.mpr (by simpa using hquiet)]
  exact htimes

/-- Who is tried under a name is decided by that name's turns alone. -/
theorem attempted_iff_of_filter (h : KeepsRate rate turns) {name : String}
    {past future : List Turn} (heq : turns.filter (·.name = name) = past ++ t :: future) :
    t.attempted = true ↔
      ((past.filterMap Turn.sent?).countP fun s ↦ t.asked.since s < rate.window) < rate.times := by
  obtain ⟨before, after, hturns, hbefore, hafter⟩ := List.filter_eq_append_iff.mp heq
  obtain ⟨others, rest, hrest, hothers, hname, -⟩ := List.filter_eq_cons_iff.mp hafter
  have hname' : t.name = name := by simpa using hname
  have hpast : Turn.sentTimes t.name (before ++ others) = past.filterMap Turn.sent? := by
    have hnone : others.filter (·.name = name) = [] := List.filter_eq_nil_iff.mpr hothers
    rw [Turn.sentTimes, hname', List.filter_append, hbefore, hnone, List.append_nil]
  rw [h.attempted_iff (before ++ others) t rest (by rw [hturns, hrest, List.append_assoc]), hpast]

/-- Two traces in which a name's turns agree from some point on, after the same successes of that
name. -/
theorem map_attempted_eq_of_agrees {turns' past past' future future' : List Turn} {name : String}
    (h : KeepsRate rate turns) (h' : KeepsRate rate turns')
    (heq : turns.filter (·.name = name) = past ++ future)
    (heq' : turns'.filter (·.name = name) = past' ++ future')
    (hpast : past.filterMap Turn.sent? = past'.filterMap Turn.sent?)
    (agree : List.Forall₂ Turn.Agrees future future') :
    future.map Turn.attempted = future'.map Turn.attempted := by
  induction agree generalizing past past' with
  | nil => rfl
  | @cons t t' rest rest' htt' _ ih =>
      obtain ⟨hasked, hsent⟩ := htt'
      have hattempted : t.attempted = t'.attempted := by
        rw [Bool.eq_iff_iff, h.attempted_iff_of_filter heq, h'.attempted_iff_of_filter heq', hpast,
          hasked]
      have hsame : t.sent? = t'.sent? := by
        cases ht : t.attempted with
        | false => rw [Turn.sent?_eq_none ht, Turn.sent?_eq_none (hattempted ▸ ht)]
        | true => exact hsent ht (hattempted ▸ ht)
      have hnext : (past ++ [t]).filterMap Turn.sent? = (past' ++ [t']).filterMap Turn.sent? := by
        rw [List.filterMap_append, List.filterMap_append, hpast, List.filterMap_cons,
          List.filterMap_cons, hsame]
      rw [List.map_cons, List.map_cons, hattempted,
        ih (by rw [heq, List.append_assoc]; rfl) (by rw [heq', List.append_assoc]; rfl) hnext]

end KeepsRate

namespace Dispatcher

variable {calls : List Call}

/-- The turns of all calls keep the rate of the limiter. -/
theorem keepsRate_turns (server : String) (channels : List (String × Channel)) (rate : Rate)
    (h : Call.Ordered calls) : KeepsRate rate (turns ⟨server, channels, .new rate⟩ calls) where
  ordered := ordered_uses ⟨server, channels, .new rate⟩ h
  attempted_iff past t future heq := by
    obtain ⟨l, hl⟩ := obeys_turns ⟨server, channels, .new rate⟩ calls
    rw [heq] at hl
    have huses := ordered_uses ⟨server, channels, .new rate⟩ h
    have hbefore : RateLimiter.Ordered
        (past.flatMap Turn.uses ++ [.check t.name t.asked]) := by
      refine huses.sublist ?_
      rw [heq, List.flatMap_append, List.flatMap_cons, Turn.uses]
      exact (List.Sublist.refl _).append ((List.nil_sublist _).cons_cons _ |>.trans
        (List.sublist_append_left _ _))
    rw [hl.attempted_eq, RateLimiter.check_useAll rate hbefore, decide_eq_true_eq,
      Turn.acquired_uses]

/-- The delivery of each call: nothing without alerts, and otherwise a turn for each channel. -/
theorem deliveries_getElem? (d : Dispatcher) (k : Nat) {c : Call} (hc : calls[k]? = some c) :
    ∃ v, (d.deliveries calls)[k]? = some v ∧
      v.delivered = v.turns.countP (·.sent?.isSome) ∧
      (c.alerts = [] → v.turns = [] ∧ v.requests = []) ∧
      (c.alerts ≠ [] → Answered d.server c.alerts c.replies d.channels v.turns v.requests) := by
  induction calls generalizing d k with
  | nil => exact absurd hc (by simp)
  | cons first rest ih =>
      cases k with
      | zero =>
          obtain rfl : first = c := by simpa using hc
          refine ⟨d.dispatchOver first.alerts first.clock first.replies, rfl, ?_⟩
          unfold dispatchOver
          cases halerts : first.alerts with
          | nil => exact ⟨rfl, fun _ ↦ ⟨rfl, rfl⟩, fun hne ↦ absurd rfl hne⟩
          | cons alert alerts =>
              refine ⟨?_, fun hnil ↦ absurd hnil (List.cons_ne_nil _ _), fun _ ↦ ?_⟩
              · exact delivered_sendAll first.clock first.replies d.channels d.limiter
              · exact answered_sendAll first.clock first.replies d.channels d.limiter
      | succ k => exact ih (d.after (d.dispatchOver first.alerts first.clock first.replies)) k hc

/-- The rate holds for each name over all calls of a dispatcher, whatever is sent and whatever comes
of it.  A call without alerts does nothing; in any other each channel has its turn and is tried
exactly if its name got through fewer times within the window than the rate has.  What is returned
counts what got through.  So in no span as long as the window does a name get through more often,
a name that did not get through lately is tried again, and what comes of one name has no say in who
is tried under another. -/
theorem turns_within_rate (server : String) (channels : List (String × Channel)) (rate : Rate)
    (calls : List Call) (h : Call.Ordered calls) :
    let d : Dispatcher := ⟨server, channels, .new rate⟩
    (∀ (k : Nat) (c : Call), calls[k]? = some c → ∃ v, (d.deliveries calls)[k]? = some v ∧
      v.delivered = v.turns.countP (·.sent?.isSome) ∧
      (c.alerts = [] → v.turns = [] ∧ v.requests = []) ∧
      (c.alerts ≠ [] → Answered server c.alerts c.replies channels v.turns v.requests)) ∧
    (∀ past t future, d.turns calls = past ++ t :: future →
      (t.attempted = true ↔
        ((Turn.sentTimes t.name past).countP fun s ↦ t.asked.since s < rate.window) < rate.times) ∧
      (0 < rate.times → (∀ s ∈ Turn.sentTimes t.name past, ¬ t.asked.since s < rate.window) →
        t.attempted = true)) ∧
    (∀ name start, (Turn.sentTimes name (d.turns calls)).countP
      (fun s ↦ start ≤ s ∧ s.since start < rate.window) ≤ rate.times) ∧
    (∀ others name, Call.Ordered others →
      List.Forall₂ Turn.Agrees ((d.turns calls).filter (·.name = name))
        ((d.turns others).filter (·.name = name)) →
      ((d.turns calls).filter (·.name = name)).map Turn.attempted =
        ((d.turns others).filter (·.name = name)).map Turn.attempted) := by
  intro d
  have hkeeps : KeepsRate rate (d.turns calls) := keepsRate_turns server channels rate h
  refine ⟨fun k c hc ↦ d.deliveries_getElem? k hc, fun past t future heq ↦ ⟨?_, ?_⟩, ?_, ?_⟩
  · exact hkeeps.attempted_iff past t future heq
  · exact fun htimes hquiet ↦ hkeeps.attempted_of_quiet htimes heq hquiet
  · exact hkeeps.countP_sentTimes_le
  · intro others name hothers agree
    exact hkeeps.map_attempted_eq_of_agrees (keepsRate_turns server channels rate hothers)
      (List.nil_append _).symm (List.nil_append _).symm rfl agree

/-- Two channels of one name and one of another, once in ten nanoseconds.  In the first call the
second channel of the shared name finds that the first has used up what both have.  The second call
starts where the window of the first ends, so both names are tried; the one that fails then is tried
again in the third call, where the other is still passed over.  Whether the other name got through
in the first call makes no difference to who is tried under the shared one. -/
theorem turns_within_rate_shared_name :
    let c : Channel := ⟨.bark "http://[::1]" "key" "" "", ⟨0, ""⟩⟩
    let d : Dispatcher := ⟨"host", [("a", c), ("b", c), ("a", c)], .new ⟨1, ⟨10⟩⟩⟩
    let alerts : List Alert := [⟨"cpu", "99.00%", ""⟩]
    let later : List Call :=
      [⟨alerts, fun k ↦ ⟨10 + min k 5⟩, fun n ↦ if n = 0 then some .success else none⟩,
        ⟨alerts, .stopped ⟨15⟩, fun _ ↦ some .success⟩]
    let calls : List Call := ⟨alerts, .stopped ⟨0⟩, fun _ ↦ some .success⟩ :: later
    let others : List Call :=
      ⟨alerts, .stopped ⟨0⟩, fun n ↦ if n = 0 then some .success else none⟩ :: later
    let turns : List Turn :=
      [⟨"a", ⟨0⟩, .sent ⟨0⟩⟩, ⟨"b", ⟨0⟩, .sent ⟨0⟩⟩, ⟨"a", ⟨0⟩, .limited⟩,
        ⟨"a", ⟨10⟩, .sent ⟨11⟩⟩, ⟨"b", ⟨12⟩, .failed⟩, ⟨"a", ⟨13⟩, .limited⟩,
        ⟨"a", ⟨15⟩, .limited⟩, ⟨"b", ⟨15⟩, .sent ⟨15⟩⟩, ⟨"a", ⟨15⟩, .limited⟩]
    (Call.Ordered calls ∧ Call.Ordered others) ∧
      d.turns calls = turns ∧ (d.deliveries calls).map (·.delivered) = [2, 1, 1] ∧
      Turn.sentTimes "a" turns = [⟨0⟩, ⟨11⟩] ∧ Turn.sentTimes "b" turns = [⟨0⟩, ⟨15⟩] ∧
      (∀ past t future, turns = past ++ t :: future →
        (t.attempted = true ↔
          ((Turn.sentTimes t.name past).countP fun s ↦ t.asked.since s < ⟨10⟩) < 1)) ∧
      (∀ name start, (Turn.sentTimes name turns).countP
        (fun s ↦ start ≤ s ∧ s.since start < ⟨10⟩) ≤ 1) ∧
      ((d.turns calls).filter (·.name = "a")).map Turn.attempted =
        ((d.turns others).filter (·.name = "a")).map Turn.attempted := by
  intro c d alerts later calls others turns
  have hlater : Call.Ordered later := by
    refine Call.ordered_cons_iff.mpr ⟨fun i j hij ↦ ?_, List.forall_mem_singleton.mpr fun i _ ↦ ?_,
      Call.ordered_cons_iff.mpr ⟨Clock.forward_stopped ⟨15⟩, nofun, Call.ordered_nil⟩⟩
    · change (10 : Int) + min i 5 ≤ 10 + min j 5
      omega
    · change (10 : Int) + min i 5 ≤ 15
      omega
  have hordered (replies : Nat → Channel.Reply) :
      Call.Ordered (⟨alerts, .stopped ⟨0⟩, replies⟩ :: later) := by
    refine Call.ordered_cons_iff.mpr ⟨Clock.forward_stopped ⟨0⟩, List.forall_mem_cons.mpr
      ⟨fun _ j ↦ ?_, List.forall_mem_singleton.mpr fun _ _ ↦ ?_⟩, hlater⟩
    · change (0 : Int) ≤ 10 + min j 5
      omega
    · change (0 : Int) ≤ 15
      omega
  have hturns : d.turns calls = turns := by decide +kernel
  have hagree : List.Forall₂ Turn.Agrees ((d.turns calls).filter (·.name = "a"))
      ((d.turns others).filter (·.name = "a")) := by
    have hothers : (d.turns others).filter (·.name = "a") = turns.filter (·.name = "a") := by
      decide +kernel
    rw [hturns, hothers]
    exact List.forall₂_same.mpr fun t _ ↦ ⟨rfl, fun _ _ ↦ rfl⟩
  obtain ⟨-, hattempted, hbound, hother⟩ := turns_within_rate "host" [("a", c), ("b", c), ("a", c)]
    ⟨1, ⟨10⟩⟩ calls (hordered _)
  refine ⟨⟨hordered _, hordered _⟩, hturns, by decide +kernel, by decide, by decide,
    fun past t future heq ↦ (hattempted past t future (hturns.trans heq)).1, fun name start ↦ ?_,
    hother others "a" (hordered _) hagree⟩
  rw [← hturns]
  exact hbound name start

end Dispatcher

end HostWatch
