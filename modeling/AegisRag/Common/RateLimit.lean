import Mathlib.Algebra.Order.Field.Rat
import Mathlib.Tactic.Linarith
import AegisRag.Semantics.Transitions

/-!
# The token bucket

`InMemoryRateLimiter` of `packages/common/rate_limit.py` over exact rational times; how a key is
hashed is a parameter. A bucket refills at `max_requests / window_seconds`. One that was idle for
longer than a window, or that was purged, is replaced by a full one.
-/

namespace AegisRag.Common

open Semantics

/-- `RateLimitConfig`, with the bounds its fields are checked against. -/
structure RateLimitConfig where
  maxRequests : ℕ
  windowSeconds : ℚ
  burstMultiplier : ℕ
  bucketTtlSeconds : ℚ
  one_le_maxRequests : 1 ≤ maxRequests
  windowSeconds_pos : 0 < windowSeconds
  one_le_burstMultiplier : 1 ≤ burstMultiplier
  bucketTtlSeconds_pos : 0 < bucketTtlSeconds

/-- `_TokenBucket`, without its copies of the configuration's capacity and rate. -/
structure TokenBucket where
  tokens : ℚ
  lastRefill : ℚ
  lastAccess : ℚ

structure InMemoryRateLimiter where
  buckets : String → Option TokenBucket
  lastPurge : ℚ

/-- One `is_allowed` call and the time it reads under the lock. -/
structure LimitCall where
  key : String
  cost : ℕ
  now : ℚ

namespace RateLimitConfig

variable (config : RateLimitConfig)

def capacity : ℚ := config.maxRequests * config.burstMultiplier

def rate : ℚ := config.maxRequests / config.windowSeconds

def full (now : ℚ) : TokenBucket := ⟨config.capacity, now, now⟩

/-- The bucket as a call at `now` finds it, with the access noted. -/
def refilled (now : ℚ) : Option TokenBucket → TokenBucket
  | none => config.full now
  | some bucket =>
    if now - bucket.lastRefill > config.windowSeconds then config.full now
    else
      ⟨min config.capacity (bucket.tokens + (now - bucket.lastRefill) * config.rate), now, now⟩

end RateLimitConfig

/-- A bucket that covers the cost pays it. -/
def TokenBucket.charge (bucket : TokenBucket) (cost : ℕ) : Bool × TokenBucket :=
  if bucket.tokens ≥ (cost : ℚ) then (true, { bucket with tokens := bucket.tokens - cost })
  else (false, bucket)

namespace InMemoryRateLimiter

variable (config : RateLimitConfig) (bucketKey : String → String) (limiter : InMemoryRateLimiter)

/-- A limiter as it is created at `now`. -/
def create (now : ℚ) : InMemoryRateLimiter := ⟨fun _ => none, now⟩

/-- `_purge_stale`. -/
def purgeStale (now : ℚ) : InMemoryRateLimiter :=
  if now - limiter.lastPurge < max 60 (config.bucketTtlSeconds / 10) then limiter
  else
    { buckets := fun name => (limiter.buckets name).filter fun bucket =>
        ¬ bucket.lastAccess < now - config.bucketTtlSeconds
      lastPurge := now }

/-- Whether a call drops the bucket that stands under `name`: its own one if it was idle for
longer than a window, another one if the purge takes it. -/
def Drops (name : String) (call : LimitCall) (bucket : TokenBucket) : Prop :=
  if name = bucketKey call.key then call.now - bucket.lastRefill > config.windowSeconds
  else max 60 (config.bucketTtlSeconds / 10) ≤ call.now - limiter.lastPurge ∧
    bucket.lastAccess < call.now - config.bucketTtlSeconds

/-- `is_allowed`. -/
def isAllowed (call : LimitCall) : Bool × InMemoryRateLimiter :=
  let name := bucketKey call.key
  let (allowed, bucket) := (config.refilled call.now (limiter.buckets name)).charge call.cost
  (allowed, purgeStale config
    { limiter with buckets := Function.update limiter.buckets name bucket } call.now)

def serve (calls : List LimitCall) : InMemoryRateLimiter :=
  calls.foldl (fun limiter call => (isAllowed config bucketKey limiter call).2) limiter

/-- What the allowed calls for `key` in a series cost. -/
def allowedCost (key : String) (limiter : InMemoryRateLimiter) : List LimitCall → ℚ
  | [] => 0
  | call :: rest =>
    let (allowed, next) := isAllowed config bucketKey limiter call
    (if allowed ∧ call.key = key then (call.cost : ℚ) else 0) + allowedCost key next rest

/-- If a call drops the bucket under `name`, refilling alone would have filled it by then. -/
def DropsOnlyFull (name : String) (limiter : InMemoryRateLimiter) (call : LimitCall) : Prop :=
  ∀ bucket ∈ limiter.buckets name, Drops config bucketKey limiter name call bucket →
    config.capacity ≤ bucket.tokens + (call.now - bucket.lastRefill) * config.rate

/-- The state a call leaves. -/
def after (limiter : InMemoryRateLimiter) (call : LimitCall) : Option InMemoryRateLimiter :=
  some (isAllowed config bucketKey limiter call).2

end InMemoryRateLimiter

/-- The calls in the order of their times. -/
abbrev Chronological (calls : List LimitCall) : Prop :=
  calls.Pairwise fun first second => first.now ≤ second.now

/-! ## What a bucket holds -/

/-- A bucket of the limiter that was last used at `now` or before. -/
structure TokenBucket.Sound (now : ℚ) (bucket : TokenBucket) : Prop where
  tokens : 0 ≤ bucket.tokens
  lastAccess : bucket.lastAccess = bucket.lastRefill
  lastRefill : bucket.lastRefill ≤ now

/-- What refilling alone puts into a bucket by `now`. -/
def RateLimitConfig.level (config : RateLimitConfig) (now : ℚ) : Option TokenBucket → ℚ
  | none => config.capacity
  | some bucket => min config.capacity (bucket.tokens + (now - bucket.lastRefill) * config.rate)

def InMemoryRateLimiter.Sound (now : ℚ) (limiter : InMemoryRateLimiter) : Prop :=
  ∀ name, ∀ bucket ∈ limiter.buckets name, bucket.Sound now

variable {config : RateLimitConfig} {limiter : InMemoryRateLimiter} {bucket : TokenBucket}

namespace RateLimitConfig

theorem capacity_nonneg : 0 ≤ config.capacity := by
  unfold capacity
  positivity

theorem refill_nonneg (later : earlier ≤ now) : 0 ≤ (now - earlier) * config.rate :=
  mul_nonneg (sub_nonneg.mpr later) (div_nonneg (Nat.cast_nonneg _) config.windowSeconds_pos.le)

theorem level_le (bucket : Option TokenBucket) (now : ℚ) :
    config.level now bucket ≤ config.capacity := by
  cases bucket with
  | none => exact le_rfl
  | some bucket => exact min_le_left _ _

theorem level_nonneg (bucket : Option TokenBucket)
    (sound : ∀ known ∈ bucket, known.Sound now) : 0 ≤ config.level now bucket := by
  cases bucket with
  | none => exact config.capacity_nonneg
  | some bucket =>
    have known := sound bucket rfl
    exact le_min config.capacity_nonneg (add_nonneg known.tokens (refill_nonneg known.lastRefill))

/-- Time adds to a bucket at the refill rate at most. -/
theorem level_advance (bucket : Option TokenBucket) (later : earlier ≤ now) :
    config.level now bucket ≤ config.level earlier bucket + (now - earlier) * config.rate := by
  have refill := config.refill_nonneg later
  cases bucket with
  | none => exact le_add_of_nonneg_right refill
  | some bucket =>
    rw [level, level, ← min_add_add_right]
    apply le_min
    · exact (min_le_left _ _).trans (le_add_of_nonneg_right refill)
    · exact (min_le_right _ _).trans (by linarith)

end RateLimitConfig

namespace TokenBucket.Sound

/-- A charge takes the cost it allows. -/
theorem charge (sound : bucket.Sound now) (cost : ℕ) :
    (bucket.charge cost).2.Sound now ∧
      (bucket.charge cost).2.lastRefill = bucket.lastRefill ∧
      (if (bucket.charge cost).1 then (cost : ℚ) else 0) + (bucket.charge cost).2.tokens =
        bucket.tokens := by
  unfold TokenBucket.charge
  split
  · rename_i covers
    exact ⟨{ sound with tokens := sub_nonneg.mpr covers }, rfl, by simp⟩
  · exact ⟨sound, rfl, by simp⟩

end TokenBucket.Sound

namespace RateLimitConfig

theorem refilled_sound (bucket : Option TokenBucket)
    (sound : ∀ known ∈ bucket, known.Sound now) :
    (config.refilled now bucket).Sound now ∧ (config.refilled now bucket).lastRefill = now := by
  have nonneg := config.level_nonneg bucket sound
  have full : (config.full now).Sound now := ⟨config.capacity_nonneg, rfl, le_rfl⟩
  cases bucket with
  | none => exact ⟨full, rfl⟩
  | some bucket =>
    simp only [refilled]
    split
    · exact ⟨full, rfl⟩
    · exact ⟨⟨nonneg, rfl, le_rfl⟩, rfl⟩

/-- A call that replaces only a bucket that would be full finds what refilling alone puts into
the bucket. -/
theorem refilled_tokens (bucket : Option TokenBucket)
    (refills : ∀ known ∈ bucket, now - known.lastRefill > config.windowSeconds →
      config.capacity ≤ known.tokens + (now - known.lastRefill) * config.rate) :
    (config.refilled now bucket).tokens = config.level now bucket := by
  cases bucket with
  | none => rfl
  | some bucket =>
    simp only [refilled]
    split
    · rename_i idle
      exact (min_eq_left (refills bucket rfl idle)).symm
    · rfl

end RateLimitConfig

namespace InMemoryRateLimiter

theorem Sound.later (sound : limiter.Sound earlier) (later : earlier ≤ now) :
    limiter.Sound now := fun name bucket found =>
  { sound name bucket found with lastRefill := (sound name bucket found).lastRefill.trans later }

theorem Sound.purgeStale (sound : limiter.Sound now) :
    (limiter.purgeStale config now).Sound now := by
  unfold InMemoryRateLimiter.purgeStale
  split
  · exact sound
  · intro name bucket kept
    exact sound name bucket (Option.filter_eq_some_iff.mp kept).1

/-- A purge that takes a bucket only when it would be full adds nothing to it. -/
theorem purgeStale_level (refills : ∀ bucket ∈ limiter.buckets name,
      max 60 (config.bucketTtlSeconds / 10) ≤ now - limiter.lastPurge →
      bucket.lastAccess < now - config.bucketTtlSeconds →
      config.capacity ≤ bucket.tokens + (now - bucket.lastRefill) * config.rate) :
    config.level now ((limiter.purgeStale config now).buckets name) =
      config.level now (limiter.buckets name) := by
  unfold purgeStale
  split
  · rfl
  · rename_i due
    cases found : limiter.buckets name with
    | none => simp [found]
    | some bucket =>
      simp only [found, Option.filter_some, not_lt, decide_eq_true_eq]
      split
      · rfl
      · rename_i stale
        exact (min_eq_left (refills bucket found (not_lt.mp due) (not_le.mp stale))).symm

theorem Sound.store (sound : limiter.Sound now) (known : bucket.Sound now) (name : String) :
    Sound now { limiter with buckets := Function.update limiter.buckets name bucket } := by
  intro other stored found
  by_cases same : other = name
  · subst same
    obtain rfl : bucket = stored := by simpa using found
    exact known
  · exact sound other stored (by simpa [same] using found)

/-- The state a call leaves is sound. -/
theorem Sound.isAllowed (sound : limiter.Sound earlier) {call : LimitCall}
    (later : earlier ≤ call.now) :
    (limiter.isAllowed config bucketKey call).2.Sound call.now := by
  have current := sound.later later
  obtain ⟨known, -⟩ := config.refilled_sound _ (current (bucketKey call.key))
  obtain ⟨charged, -, -⟩ := known.charge call.cost
  exact (current.store charged _).purgeStale

/-- What a call takes from a bucket that it drops only when it would be full: its cost from its
own one, if it is allowed. -/
theorem isAllowed_level (sound : limiter.Sound earlier) {call : LimitCall}
    (later : earlier ≤ call.now)
    (refills : limiter.DropsOnlyFull config bucketKey (bucketKey key) call)
    (answered : limiter.isAllowed config bucketKey call = (allowed, next)) :
    (if allowed ∧ call.key = key then (call.cost : ℚ) else 0) +
      config.level call.now (next.buckets (bucketKey key)) ≤
        config.level call.now (limiter.buckets (bucketKey key)) := by
  have current := sound.later later
  obtain ⟨known, refill⟩ := config.refilled_sound _ (current (bucketKey call.key))
  obtain ⟨charged, unmoved, spent⟩ := known.charge call.cost
  simp only [InMemoryRateLimiter.isAllowed] at answered
  by_cases same : bucketKey key = bucketKey call.key
  · simp only [DropsOnlyFull, same, Drops, if_true] at refills
    have tokens := config.refilled_tokens _ refills
    generalize TokenBucket.charge _ call.cost = outcome at charged unmoved spent answered
    have level : config.level call.now (some outcome.2) ≤ outcome.2.tokens := by
      rw [RateLimitConfig.level, unmoved, refill, sub_self, zero_mul, add_zero]
      exact min_le_right _ _
    obtain ⟨rfl, rfl⟩ := Prod.mk.inj answered
    -- The call's own bucket was used just now, so the purge leaves it.
    rw [same, purgeStale_level, ← tokens, ← spent]
    · refine add_le_add ?_ (by simpa only [Function.update_self] using level)
      split_ifs <;> simp_all
    · rintro bucket found - stale
      obtain rfl : outcome.2 = bucket := by simpa using found
      rw [charged.lastAccess, unmoved, refill] at stale
      linarith [config.bucketTtlSeconds_pos]
  · simp only [DropsOnlyFull, Drops, same, if_false] at refills
    have other : call.key ≠ key := fun equal => same (by rw [equal])
    obtain ⟨rfl, rfl⟩ := Prod.mk.inj answered
    rw [purgeStale_level]
    · simp [other, same]
    · intro bucket found due stale
      exact refills bucket (by simpa [same] using found) ⟨due, stale⟩

theorem Sound.serve (calls : List LimitCall) : ∀ (limiter : InMemoryRateLimiter) (now : ℚ),
    limiter.Sound now → now ≤ stop → (∀ call ∈ calls, now ≤ call.now ∧ call.now ≤ stop) →
    Chronological calls → (limiter.serve config bucketKey calls).Sound stop := by
  induction calls with
  | nil => exact fun limiter now sound before _ _ => sound.later before
  | cons call rest induction =>
    intro limiter now sound _ within ordered
    obtain ⟨⟨first, last⟩, within⟩ := List.forall_mem_cons.mp within
    obtain ⟨ahead, ordered⟩ := List.pairwise_cons.mp ordered
    exact induction _ call.now (sound.isAllowed first) last
      (fun other isIn => ⟨ahead other isIn, (within other isIn).2⟩) ordered

/-- What a series of calls allows is covered by the bucket and by what time adds, where a bucket
is dropped only when it would be full. -/
theorem allowedCost_le (key : String) (calls : List LimitCall) :
    ∀ (limiter : InMemoryRateLimiter) (now : ℚ), limiter.Sound now → now ≤ stop →
      (∀ call ∈ calls, now ≤ call.now ∧ call.now ≤ stop) → Chronological calls →
      EachStep (after config bucketKey) (DropsOnlyFull config bucketKey (bucketKey key)) limiter
        calls →
      limiter.allowedCost config bucketKey key calls ≤
        config.level now (limiter.buckets (bucketKey key)) + (stop - now) * config.rate := by
  induction calls with
  | nil =>
    intro limiter now sound before _ _ _
    exact add_nonneg (config.level_nonneg _ (sound _)) (config.refill_nonneg before)
  | cons call rest induction =>
    rintro limiter now sound - within ordered ⟨refills, later⟩
    replace later := later _ rfl
    obtain ⟨⟨first, last⟩, within⟩ := List.forall_mem_cons.mp within
    obtain ⟨ahead, ordered⟩ := List.pairwise_cons.mp ordered
    have isSound : (limiter.isAllowed config bucketKey call).2.Sound call.now :=
      sound.isAllowed first
    cases answered : limiter.isAllowed config bucketKey call with
    | mk allowed next =>
      rw [answered] at isSound later
      have taken := isAllowed_level sound first refills answered
      have cost := induction next call.now isSound last
        (fun other isIn => ⟨ahead other isIn, (within other isIn).2⟩) ordered later
      have advance := config.level_advance (limiter.buckets (bucketKey key)) first
      simp only [allowedCost, answered]
      linarith

end InMemoryRateLimiter

/-- Where the calls of an interval drop the bucket of a key only when refilling would have filled
it, those allowed for the key cost at most a full bucket and what the interval refills. -/
theorem token_bucket_bounds_interval (config : RateLimitConfig) (bucketKey : String → String)
    (created : ℚ) (before inside : List LimitCall) (key : String) (start length : ℚ)
    (ordered : Chronological (before ++ inside))
    (within : ∀ call ∈ inside, start ≤ call.now ∧ call.now ≤ start + length)
    (earlier : ∀ call ∈ before, call.now ≤ start) (nonneg : 0 ≤ length)
    (refills : EachStep (InMemoryRateLimiter.after config bucketKey)
      (InMemoryRateLimiter.DropsOnlyFull config bucketKey (bucketKey key))
      ((InMemoryRateLimiter.create created).serve config bucketKey before) inside) :
    ((InMemoryRateLimiter.create created).serve config bucketKey before).allowedCost config
      bucketKey key inside ≤ config.maxRequests * config.burstMultiplier +
        length * (config.maxRequests / config.windowSeconds) := by
  obtain ⟨order, orderInside, _⟩ := List.pairwise_append.mp ordered
  -- No bucket exists before the first call, so the count may start there.
  obtain ⟨first, isFirst, past⟩ : ∃ first ≤ start, ∀ call ∈ before, first ≤ call.now := by
    cases before with
    | nil => exact ⟨start, le_rfl, by simp⟩
    | cons call rest =>
      refine ⟨call.now, earlier call List.mem_cons_self, List.forall_mem_cons.mpr ⟨le_rfl, ?_⟩⟩
      exact fun other isIn => List.rel_of_pairwise_cons order isIn
  refine (InMemoryRateLimiter.allowedCost_le key inside _ start ?_
    (le_add_of_nonneg_right nonneg) within orderInside refills).trans ?_
  · exact InMemoryRateLimiter.Sound.serve before _ first (by rintro _ _ ⟨⟩) isFirst
      (fun call isIn => ⟨past call isIn, earlier call isIn⟩) order
  · rw [add_sub_cancel_left]
    exact add_le_add_left (config.level_le _ start) _

def RateLimitConfig.sample (burstMultiplier : ℕ) (positive : 1 ≤ burstMultiplier) :
    RateLimitConfig :=
  ⟨1, 1, burstMultiplier, 600, le_rfl, one_pos, positive, by norm_num⟩

/-- The second call replaces a bucket that has refilled, also with a bucket of two windows'
worth. -/
theorem token_bucket_bounds_interval_idle :
    ((InMemoryRateLimiter.create 0).serve (.sample 2 one_le_two) id []).allowedCost
      (.sample 2 one_le_two) id "client" [⟨"client", 1, 0⟩, ⟨"client", 2, 3 / 2⟩] ≤
        (1 : ℕ) * (2 : ℕ) + 2 * ((1 : ℕ) / 1) :=
  token_bucket_bounds_interval (.sample 2 one_le_two) id 0 [] _ "client" 0 2 (by decide +kernel)
    (by decide +kernel) (by simp) (by norm_num) (by
      refine ⟨by rintro _ ⟨⟩, ?_⟩
      rintro _ ⟨⟩
      refine ⟨?_, fun _ _ => trivial⟩
      simp only [InMemoryRateLimiter.DropsOnlyFull, InMemoryRateLimiter.Drops]
      decide +kernel)

/-- With a bucket of two windows' worth, two bursts five quarters of a window apart are allowed
four requests, while the bucket and the refill cover three and a quarter. -/
theorem idle_window_refills_burst :
    ((InMemoryRateLimiter.create 0).serve (.sample 2 one_le_two) id []).allowedCost
      (.sample 2 one_le_two) id "client" [⟨"client", 2, 0⟩, ⟨"client", 2, 5 / 4⟩] = 4 ∧
    (1 : ℕ) * (2 : ℕ) + 5 / 4 * ((1 : ℕ) / 1) < (4 : ℚ) := by
  decide +kernel

end AegisRag.Common
