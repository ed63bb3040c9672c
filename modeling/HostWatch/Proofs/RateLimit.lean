import HostWatch.RateLimit
import Mathlib.Data.List.Induction
/-!
# What a limiter remembers of its past

A limiter forgets the instants that have left its window, also when it is only asked.  Its answers
are those of the whole past nevertheless: what is forgotten no longer counts, and it never will
again, since the instants at which a limiter is used do not go back.
-/

namespace HostWatch

namespace RateLimiter

/-! ## Queues -/

section Queues

variable {window : Duration} {now later entry : Instant} {past queue : List Instant}

theorem expired_iff : expired window now entry = true ↔ window.nanos ≤ (now.since entry).nanos :=
  decide_eq_true_iff

/-- An entry is either within the window or has left it. -/
theorem since_lt_iff : now.since entry < window ↔ ¬ expired window now entry = true := by
  rw [expired_iff, Nat.not_le, Duration.lt_iff]

/-- What has left the window stays out of it. -/
theorem expired_of_le (h : now ≤ later) (he : expired window now entry = true) :
    expired window later entry = true := by
  rw [expired_iff, Instant.nanos_since] at he ⊢
  rw [Instant.le_iff] at h
  omega

/-- Later entries leave the window later. -/
theorem expired_of_entry_le {earlier : Instant} (h : earlier ≤ entry)
    (he : expired window now entry = true) : expired window now earlier = true := by
  rw [expired_iff, Instant.nanos_since] at he ⊢
  rw [Instant.le_iff] at h
  omega

/-- Of entries in order, those at the front that have left the window are all that have. -/
theorem length_expire_of_ordered (h : queue.Pairwise (· ≤ ·)) :
    (expire window now queue).length = queue.countP fun s ↦ now.since s < window := by
  induction queue with
  | nil => rfl
  | cons s rest ih =>
      rw [List.pairwise_cons] at h
      unfold expire at ih ⊢
      by_cases hs : expired window now s = true
      · have hout : ¬ now.since s < window := fun hin ↦ since_lt_iff.mp hin hs
        rw [List.dropWhile_cons_of_pos hs, List.countP_cons_of_neg (by simpa using hout)]
        exact ih h.2
      · have hall : ∀ t ∈ s :: rest, now.since t < window := by
          intro t ht
          rw [since_lt_iff]
          intro he
          rcases List.mem_cons.mp ht with rfl | ht
          · exact hs he
          · exact hs (expired_of_entry_le (h.1 t ht) he)
        rw [List.dropWhile_cons_of_neg hs, List.countP_eq_length.mpr]
        intro t ht
        simpa using hall t ht

/-- The queue is what is remembered now of the instants of the past: all of them, except for some
at the front that have left the window. -/
structure Remembers (window : Duration) (now : Instant) (past queue : List Instant) : Prop where
  /-- The past is in order. -/
  ordered : past.Pairwise (· ≤ ·)
  /-- The past is over. -/
  past_le : ∀ s ∈ past, s ≤ now
  /-- What is forgotten has left the window. -/
  suffix : ∃ forgotten, past = forgotten ++ queue ∧ ∀ s ∈ forgotten, expired window now s = true

namespace Remembers

/-- There is nothing to remember at first. -/
theorem nil : Remembers window now [] [] :=
  ⟨List.Pairwise.nil, by simp, [], rfl, by simp⟩

/-- Time goes by. -/
theorem mono (h : Remembers window now past queue) (hle : now ≤ later) :
    Remembers window later past queue := by
  obtain ⟨forgotten, hpast, hout⟩ := h.suffix
  refine ⟨h.ordered, fun s hs ↦ ?_, forgotten, hpast, fun s hs ↦ expired_of_le hle (hout s hs)⟩
  exact Instant.le_trans (h.past_le s hs) hle

/-- Dropping what has left the window is forgetting. -/
theorem expire (h : Remembers window now past queue) :
    Remembers window now past (RateLimiter.expire window now queue) := by
  obtain ⟨forgotten, hpast, hout⟩ := h.suffix
  refine ⟨h.ordered, h.past_le, forgotten ++ queue.takeWhile (expired window now), ?_, ?_⟩
  · rw [List.append_assoc, RateLimiter.expire, List.takeWhile_append_dropWhile]
    exact hpast
  · intro s hs
    rcases List.mem_append.mp hs with hs | hs
    · exact hout s hs
    · exact List.all_eq_true.mp List.all_takeWhile s hs

/-- The present becomes the last instant of the past. -/
theorem record (h : Remembers window now past queue) :
    Remembers window now (past ++ [now]) (queue ++ [now]) := by
  obtain ⟨forgotten, hpast, hout⟩ := h.suffix
  refine ⟨?_, ?_, forgotten, ?_, hout⟩
  · rw [List.pairwise_append]
    refine ⟨h.ordered, List.pairwise_singleton _ _, fun s hs t ht ↦ ?_⟩
    rw [List.mem_singleton.mp ht]
    exact h.past_le s hs
  · intro s hs
    rcases List.mem_append.mp hs with hs | hs
    · exact h.past_le s hs
    · rw [List.mem_singleton.mp hs]
      exact now.le_refl
  · rw [hpast, List.append_assoc]

/-- What is left of the queue after expiry is all of the past that is within the window. -/
theorem length_expire (h : Remembers window now past queue) :
    (RateLimiter.expire window now queue).length =
      past.countP fun s ↦ now.since s < window := by
  obtain ⟨forgotten, hpast, hout⟩ := h.suffix
  have hqueue : queue.Pairwise (· ≤ ·) := by
    have := h.ordered
    rw [hpast, List.pairwise_append] at this
    exact this.2.1
  have hnone : forgotten.countP (fun s ↦ now.since s < window) = 0 := by
    rw [List.countP_eq_zero]
    intro s hs hin
    exact since_lt_iff.mp (by simpa using hin) (hout s hs)
  rw [length_expire_of_ordered hqueue, hpast, List.countP_append, hnone, Nat.zero_add]

end Remembers

end Queues

/-! ## Runs -/

/-- One use of a limiter. -/
inductive Use where
  /-- To ask whether a key may be let through. -/
  | check (key : String) (now : Instant)
  /-- To record that a key is let through. -/
  | acquire (key : String) (now : Instant)
  deriving DecidableEq, Repr

namespace Use

/-- When the limiter is used. -/
def now : Use → Instant
  | check _ now | acquire _ now => now

/-- When the use lets a key through, if it does. -/
def acquired? (key : String) : Use → Option Instant
  | check .. => none
  | acquire k now => if k = key then some now else none

end Use

/-- The limiter after a use. -/
def use (l : RateLimiter) : Use → RateLimiter
  | .check key now => (l.check key now).2
  | .acquire key now => l.acquire key now

/-- The limiter after some uses. -/
def useAll (l : RateLimiter) (uses : List Use) : RateLimiter := uses.foldl use l

/-- The instants at which a key was let through, over all uses. -/
def acquired (key : String) (uses : List Use) : List Instant := uses.filterMap (Use.acquired? key)

/-- The instants of the uses do not go back. -/
def Ordered (uses : List Use) : Prop := uses.Pairwise fun u v ↦ u.now ≤ v.now

instance (uses : List Use) : Decidable (Ordered uses) :=
  inferInstanceAs (Decidable (uses.Pairwise fun u v ↦ u.now ≤ v.now))

variable {l : RateLimiter} {uses : List Use} {key : String} {now : Instant}

@[simp] theorem useAll_append (l : RateLimiter) (uses more : List Use) :
    l.useAll (uses ++ more) = (l.useAll uses).useAll more := List.foldl_append

@[simp] theorem acquired_append (key : String) (uses more : List Use) :
    acquired key (uses ++ more) = acquired key uses ++ acquired key more := List.filterMap_append

@[simp] theorem rate_use (l : RateLimiter) (u : Use) : (l.use u).rate = l.rate := by
  cases u <;> simp [use]

@[simp] theorem rate_useAll (l : RateLimiter) (uses : List Use) :
    (l.useAll uses).rate = l.rate := by
  induction uses generalizing l with
  | nil => rfl
  | cons u rest ih => exact (ih (l.use u)).trans (rate_use l u)

/-- A use keeps what is remembered of each key in step with what happened to it. -/
theorem Remembers.use (u : Use)
    (h : Remembers l.rate.window u.now (acquired key uses) (queueOf key l.history)) :
    Remembers l.rate.window u.now (acquired key (uses ++ [u])) (queueOf key (l.use u).history) := by
  rw [acquired_append]
  cases u with
  | check k now =>
      have hnone : acquired key [Use.check k now] = [] := rfl
      rw [hnone, List.append_nil, RateLimiter.use, queueOf_check]
      by_cases hk : k = key
      · rw [if_pos hk]
        exact h.expire
      · rw [if_neg hk]
        exact h
  | acquire k now =>
      rw [RateLimiter.use, queueOf_acquire]
      by_cases hk : k = key
      · have hsome : acquired key [Use.acquire k now] = [now] := by
          simp [acquired, Use.acquired?, hk]
        rw [if_pos hk, hsome]
        exact h.expire.record
      · have hnone : acquired key [Use.acquire k now] = [] := by
          simp [acquired, Use.acquired?, hk]
        rw [if_neg hk, hnone, List.append_nil]
        exact h

/-- After uses whose instants do not go back, a limiter remembers of each key all that still counts
for it. -/
theorem remembers_useAll (rate : Rate) (key : String) (h : Ordered uses)
    (hnow : ∀ u ∈ uses, u.now ≤ now) :
    Remembers rate.window now (acquired key uses)
      (queueOf key ((new rate).useAll uses).history) := by
  induction uses using List.reverseRecOn generalizing now with
  | nil => exact Remembers.nil
  | append_singleton uses u ih =>
      obtain ⟨hbefore, -, hlast⟩ := List.pairwise_append.mp h
      have hu := ih hbefore fun v hv ↦ hlast v hv u (List.mem_singleton_self u)
      have hstep : Remembers ((new rate).useAll uses).rate.window u.now (acquired key uses)
          (queueOf key ((new rate).useAll uses).history) := by
        rw [rate_useAll]
        exact hu
      have hrate : ((new rate).useAll uses).rate = rate := rate_useAll (new rate) uses
      have hnext := hstep.use u
      rw [hrate] at hnext
      rw [useAll_append]
      exact hnext.mono (hnow u (List.mem_append_right uses (List.mem_singleton_self u)))

/-- The answer after uses whose instants do not go back counts all the past. -/
theorem check_useAll (rate : Rate) (h : Ordered (uses ++ [.check key now])) :
    (((new rate).useAll uses).check key now).1 =
      decide (((acquired key uses).countP fun s ↦ now.since s < rate.window) < rate.times) := by
  obtain ⟨hbefore, -, hlast⟩ := List.pairwise_append.mp h
  have hpast : ∀ u ∈ uses, u.now ≤ now := fun u hu ↦
    hlast u hu (.check key now) (List.mem_singleton_self _)
  have hrate : ((new rate).useAll uses).rate = rate := rate_useAll (new rate) uses
  rw [check_fst, hrate, (remembers_useAll rate key hbefore hpast).length_expire]

/-- A key may be let through exactly if it was let through fewer times within the window than the
rate has.  The instants at which it was let through are all that counts: neither asking nor what
happens to other keys changes a later answer. -/
theorem check_iff_acquired_lt (rate : Rate) (uses : List Use) (key : String) (now : Instant)
    (h : Ordered (uses ++ [.check key now])) :
    ((((new rate).useAll uses).check key now).1 = true ↔
      ((acquired key uses).countP fun s ↦ now.since s < rate.window) < rate.times) ∧
    ∀ others : List Use, Ordered (others ++ [.check key now]) →
      acquired key others = acquired key uses →
      (((new rate).useAll others).check key now).1 =
        (((new rate).useAll uses).check key now).1 := by
  refine ⟨?_, fun others hothers hsame ↦ ?_⟩
  · rw [check_useAll rate h, decide_eq_true_eq]
  · rw [check_useAll rate h, check_useAll rate hothers, hsame]

/-- Twice in ten nanoseconds: at the end of the window of the first time, after asking in between,
only the second time counts. -/
theorem check_iff_acquired_lt_at_window_end :
    let uses : List Use := [.acquire "a" ⟨0⟩, .check "a" ⟨3⟩, .acquire "b" ⟨4⟩, .acquire "a" ⟨5⟩,
      .check "a" ⟨9⟩]
    Ordered (uses ++ [.check "a" ⟨10⟩]) ∧
      (((new ⟨2, ⟨10⟩⟩).useAll uses).check "a" ⟨10⟩).1 = true := by
  intro uses
  have h : Ordered (uses ++ [.check "a" ⟨10⟩]) := by decide
  exact ⟨h, (check_iff_acquired_lt ⟨2, ⟨10⟩⟩ uses "a" ⟨10⟩ h).1.mpr (by decide)⟩

end RateLimiter

end HostWatch
