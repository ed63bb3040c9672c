import HostWatch.Calendar
/-!
# Rate limits

A limiter lets each key through a number of times within a window.  It remembers when each key was
let through and forgets what has left the window from the front.
-/

namespace HostWatch

/-- How often each key is let through. -/
structure Rate where
  /-- The number of times. -/
  times : Nat
  /-- The time within which they count. -/
  window : Duration
  deriving DecidableEq, Repr

namespace Rate

/-- Once in ten seconds. -/
def fallback : Rate := ⟨1, .ofSeconds 10⟩

end Rate

/-- A rate and when each key was let through, the earliest first. -/
structure RateLimiter where
  /-- The rate. -/
  rate : Rate
  /-- The keys that were let through and when. -/
  history : List (String × List Instant)

namespace RateLimiter

/-- Nothing was let through yet. -/
def new (rate : Rate) : RateLimiter := ⟨rate, []⟩

/-- When a key was let through, as far as it is remembered. -/
def queue? (key : String) : List (String × List Instant) → Option (List Instant)
  | [] => none
  | (k, q) :: rest => if k = key then some q else queue? key rest

/-- Remember a queue for a key. -/
def setQueue (key : String) (queue : List Instant) :
    List (String × List Instant) → List (String × List Instant)
  | [] => [(key, queue)]
  | (k, q) :: rest => if k = key then (k, queue) :: rest else (k, q) :: setQueue key queue rest

/-- When a key was let through, as far as it is remembered; never, if nothing is. -/
def queueOf (key : String) (history : List (String × List Instant)) : List Instant :=
  (queue? key history).getD []

/-- The queue that was put in place is found again, and no other has changed. -/
theorem queueOf_setQueue (key other : String) (queue : List Instant)
    (history : List (String × List Instant)) :
    queueOf other (setQueue key queue history) =
      if key = other then queue else queueOf other history := by
  unfold queueOf
  induction history with
  | nil => by_cases h : key = other <;> simp [setQueue, queue?, h]
  | cons entry rest ih =>
    obtain ⟨k, q⟩ := entry
    by_cases hk : k = key
    · subst hk
      by_cases h : k = other <;> simp [setQueue, queue?, h]
    · by_cases h : k = other
      · subst h
        simp [setQueue, queue?, hk, Ne.symm hk]
      · simpa [setQueue, queue?, hk, h] using ih

/-- An entry has left the window. -/
def expired (window : Duration) (now entry : Instant) : Bool :=
  decide (window.nanos ≤ (now.since entry).nanos)

/-- A queue without the entries at its front that have left the window. -/
def expire (window : Duration) (now : Instant) (queue : List Instant) : List Instant :=
  queue.dropWhile (expired window now)

/-- Whether a key may be let through now.  What has left the window is forgotten. -/
def check (l : RateLimiter) (key : String) (now : Instant) : Bool × RateLimiter :=
  match queue? key l.history with
  | none => (decide (0 < l.rate.times), l)
  | some queue =>
    let queue := expire l.rate.window now queue
    (decide (queue.length < l.rate.times), { l with history := setQueue key queue l.history })

/-- Record that a key is let through now.  A queue has room for any number of entries here; a
program that reserves room for `times` entries when it first records a key ends there, without an
answer, if that is more than can be reserved. -/
def acquire (l : RateLimiter) (key : String) (now : Instant) : RateLimiter :=
  let queue := expire l.rate.window now (queueOf key l.history)
  { l with history := setQueue key (queue ++ [now]) l.history }

@[simp] theorem rate_check (l : RateLimiter) (key : String) (now : Instant) :
    (l.check key now).2.rate = l.rate := by
  unfold check
  split <;> rfl

@[simp] theorem rate_acquire (l : RateLimiter) (key : String) (now : Instant) :
    (l.acquire key now).rate = l.rate := rfl

/-- The answer counts what is left of the queue. -/
theorem check_fst (l : RateLimiter) (key : String) (now : Instant) :
    (l.check key now).1 =
      decide ((expire l.rate.window now (queueOf key l.history)).length < l.rate.times) := by
  unfold check queueOf
  cases queue? key l.history <;> rfl

/-- Asking drops what has left the window from the queue of the key, and nothing else. -/
theorem queueOf_check (l : RateLimiter) (key other : String) (now : Instant) :
    queueOf other (l.check key now).2.history =
      if key = other then expire l.rate.window now (queueOf other l.history)
      else queueOf other l.history := by
  unfold check
  cases h : queue? key l.history with
  | none =>
    by_cases hk : key = other
    · subst hk
      simp [queueOf, h, expire]
    · simp [hk]
  | some queue =>
    simp only [queueOf_setQueue]
    by_cases hk : key = other
    · subst hk
      simp [queueOf, h]
    · simp [hk]

/-- Recording also adds the instant to the queue of the key. -/
theorem queueOf_acquire (l : RateLimiter) (key other : String) (now : Instant) :
    queueOf other (l.acquire key now).history =
      if key = other then expire l.rate.window now (queueOf other l.history) ++ [now]
      else queueOf other l.history := by
  unfold acquire
  rw [queueOf_setQueue]
  by_cases hk : key = other
  · subst hk
    rfl
  · simp [hk]

end RateLimiter

end HostWatch
