import Polku.Data.Bucket
import Polku.Middleware.TokenBucket
import Polku.Message

/-!
# The rate limiter

`RateLimiter` is the token bucket of `Throttle` once more, statement by statement. Here
its arithmetic is that of a build profile: with overflow checks, an operation which does
not fit into a `u64` panics; without, it wraps. A division by zero panics in both.
Times are the `u64` nanoseconds since the start which each call reads.
-/

namespace Polku

open Data

/-- Whether arithmetic is checked for overflow. -/
inductive Profile where
  | debug
  | release
deriving DecidableEq, Repr

/-- The result of an addition or a multiplication. -/
def Profile.fit (self : Profile) (value : Nat) : Option Nat :=
  match self with
  | .debug => if value < 2 ^ 64 then some value else none
  | .release => some (wrap64 value)

/-- What fits is not changed. -/
theorem Profile.fit_of_lt (self : Profile) {value : Nat} (fits : value < 2 ^ 64) :
    self.fit value = some value := by
  cases self with
  | debug => exact if_pos fits
  | release => exact congrArg some (Nat.mod_eq_of_lt fits)

/-- No result is greater than the value. -/
theorem Profile.le_of_fit {self : Profile} {value result : Nat}
    (isResult : self.fit value = some result) : result ≤ value := by
  cases self with
  | debug =>
      obtain ⟨-, rfl⟩ : value < 2 ^ 64 ∧ value = result := by simpa [fit] using isResult
      exact le_rfl
  | release =>
      obtain rfl := Option.some.inj isResult
      exact Nat.mod_le ..

namespace TokenBucket

/-- Add the tokens of the refill intervals which have passed, in a build profile. -/
def refillIn (profile : Profile) (self : TokenBucket) (now : Nat) : Option TokenBucket :=
  let elapsed := elapsedNanos self.start now - self.lastRefill
  if elapsed < self.refillNanos then some self
  else if self.refillNanos = 0 then none
  else
    let intervals := elapsed / self.refillNanos
    if intervals = 0 then some self
    else do
      let claimed ← profile.fit (intervals * self.refillNanos)
      let newLast ← profile.fit (self.lastRefill + claimed)
      let tokensToAdd ← profile.fit (intervals * self.refillAmount)
      if tokensToAdd = 0 then some { self with lastRefill := newLast }
      else some { self with
        lastRefill := newLast
        tokens := min (saturate64 (self.tokens + tokensToAdd)) self.capacity }

/-- Take a token if there is one. The subtraction is guarded. -/
def tryAcquireIn (profile : Profile) (self : TokenBucket) (now : Nat) :
    Option (Bool × TokenBucket) :=
  (self.refillIn profile now).map fun self =>
    if self.tokens < 1000 then (false, self)
    else (true, { self with tokens := self.tokens - 1000 })

/-- In a release build the arithmetic wraps. -/
theorem refillIn_release (self : TokenBucket) (now : Nat) :
    self.refillIn .release now = self.refill now := by
  have wraps : ∀ value claimed, wrap64 (value + wrap64 claimed) = wrap64 (value + claimed) :=
    fun value claimed => Nat.add_mod_mod value claimed _
  simp only [refillIn, refill, Profile.fit, Option.bind_eq_bind, Option.bind_some, wraps]

theorem tryAcquireIn_release (self : TokenBucket) (now : Nat) :
    self.tryAcquireIn .release now = self.tryAcquire now := by
  rw [tryAcquireIn, tryAcquire, refillIn_release]

/-- Calls one after another, at the times they read: the answers, and the bucket after
them. -/
def acquireEach (profile : Profile) (self : TokenBucket) :
    List UInt64 → Option (List Bool × TokenBucket)
  | [] => some ([], self)
  | time :: times => do
      let (answer, self) ← self.tryAcquireIn profile (self.start + time.toNat)
      let (answers, self) ← self.acquireEach profile times
      some (answer :: answers, self)

/-- The calls after a first one start from the bucket it leaves. -/
theorem acquireEach_cons {profile : Profile} {self after : TokenBucket} {time : UInt64}
    {answer : Bool} (called : self.tryAcquireIn profile (self.start + time.toNat) =
      some (answer, after)) (times : List UInt64) :
    self.acquireEach profile (time :: times) = (after.acquireEach profile times).map
      fun (answers, last) => (answer :: answers, last) := by
  rw [acquireEach, called, Option.map_eq_bind]
  rfl

/-- The first of some calls, and the others. -/
theorem acquireEach_cons_some {profile : Profile} {self final : TokenBucket} {time : UInt64}
    {times : List UInt64} {answers : List Bool}
    (run : self.acquireEach profile (time :: times) = some (answers, final)) :
    ∃ answer after others,
      self.tryAcquireIn profile (self.start + time.toNat) = some (answer, after) ∧
        after.acquireEach profile times = some (others, final) ∧ answers = answer :: others := by
  rw [acquireEach, Option.bind_eq_bind, Option.bind_eq_some_iff] at run
  obtain ⟨⟨answer, after⟩, called, run⟩ := run
  obtain ⟨⟨others, last⟩, rest, same⟩ := Option.bind_eq_some_iff.mp run
  obtain ⟨rfl, rfl⟩ := Prod.mk.inj (Option.some.inj same)
  exact ⟨answer, after, others, called, rest, rfl⟩

/-- In thousandths, the refill intervals from each call to the next fit into a `u64`, and
so do those from the start to the first call. -/
def IntervalsFit (nanos : Nat) (times : List UInt64) : Prop :=
  (0 :: times).IsChain fun last time =>
    (time.toNat / nanos - last.toNat / nanos) * 1000 < 2 ^ 64

instance (nanos : Nat) (times : List UInt64) : Decidable (IntervalsFit nanos times) :=
  inferInstanceAs (Decidable (List.IsChain _ _))

/-! ### What a refill does -/

/-- The time between two refills, at a rate up to one message a nanosecond. -/
theorem refillNanosOf_eq {rate : Nat} (positive : 1 ≤ rate) :
    refillNanosOf rate = 1000000000 / rate :=
  if_neg (Nat.one_le_iff_ne_zero.mp positive)

theorem refillNanosOf_pos {rate : Nat} (usable : rate ≤ 1000000000) : 0 < refillNanosOf rate := by
  unfold refillNanosOf
  split
  · decide
  · exact Nat.div_pos usable (by omega)

theorem refillNanosOf_eq_zero {rate : Nat} (fast : 1000000000 < rate) : refillNanosOf rate = 0 := by
  rw [refillNanosOf_eq (by omega)]
  exact Nat.div_eq_of_lt fast

/-- What every call keeps true of a bucket which has a refill time, after calls which
read times up to `now`. -/
structure Aligned (bucket : TokenBucket) (now : Nat) : Prop where
  amount : bucket.refillAmount = 1000
  positive : 0 < bucket.refillNanos
  lastRefill : bucket.lastRefill = bucket.refillNanos * (now / bucket.refillNanos)
  within : bucket.tokens ≤ bucket.capacity
  bounded : bucket.capacity < 2 ^ 64

/-- A new bucket is aligned if its refill time is not zero. -/
theorem aligned_new {rate : Nat} (burst start : Nat) (usable : 0 < refillNanosOf rate) :
    (new rate burst start).Aligned 0 where
  amount := rfl
  positive := usable
  lastRefill := by simp [new]
  within := le_rfl
  bounded := by
    simp only [new, saturate64]
    omega

/-- A refill gains the tokens of the multiples of the refill time which have passed, as far
as their number fits. -/
theorem Aligned.refillIn_eq {self : TokenBucket} {last now : Nat} (aligned : self.Aligned last)
    (profile : Profile) (later : last ≤ now) (bounded : now < 2 ^ 64) :
    self.refillIn profile (self.start + now) =
      (profile.fit ((now / self.refillNanos - last / self.refillNanos) * 1000)).map fun added =>
        { self with
          lastRefill := self.refillNanos * (now / self.refillNanos)
          tokens := min (self.tokens + added) self.capacity } := by
  have elapsed : elapsedNanos self.start (self.start + now) = now := by
    rw [elapsedNanos, Nat.add_sub_cancel_left]
    exact Nat.mod_eq_of_lt bounded
  have order : last / self.refillNanos ≤ now / self.refillNanos := Nat.div_le_div_right later
  have intervals : (now - self.refillNanos * (last / self.refillNanos)) / self.refillNanos =
      now / self.refillNanos - last / self.refillNanos :=
    Nat.sub_mul_div ..
  have positive := aligned.positive
  simp only [refillIn, elapsed, aligned.lastRefill, intervals]
  rcases Nat.eq_or_lt_of_le order with none | some
  · -- No multiple of the refill time has passed.
    have early : now - self.refillNanos * (last / self.refillNanos) < self.refillNanos := by
      apply (Nat.div_eq_zero_iff_lt positive).mp
      rw [intervals, none, Nat.sub_self]
    have still : min self.tokens self.capacity = self.tokens := Nat.min_eq_left aligned.within
    rw [if_pos early, none, Nat.sub_self, Nat.zero_mul, profile.fit_of_lt (by decide)]
    simp only [Option.map_some, Nat.add_zero, still, ← none, ← aligned.lastRefill]
  · have late : ¬ now - self.refillNanos * (last / self.refillNanos) < self.refillNanos := by
      intro early
      have zero := (Nat.div_eq_zero_iff_lt positive).mpr early
      omega
    have floor := Nat.mul_div_le now self.refillNanos
    have reached : self.refillNanos * (last / self.refillNanos) +
        (now / self.refillNanos - last / self.refillNanos) * self.refillNanos =
          self.refillNanos * (now / self.refillNanos) := by
      rw [Nat.mul_comm (_ - _), ← Nat.mul_add, Nat.add_sub_cancel' order]
    rw [if_neg late, if_neg positive.ne', if_neg (by omega), profile.fit_of_lt (by omega)]
    simp only [Option.bind_eq_bind, Option.bind_some, reached]
    rw [profile.fit_of_lt (by omega), Option.bind_some, aligned.amount]
    rcases profile.fit ((now / self.refillNanos - last / self.refillNanos) * 1000) with _ | added
    · rfl
    · have bounded := aligned.bounded
      have within := aligned.within
      have capped : min (saturate64 (self.tokens + added)) self.capacity =
          min (self.tokens + added) self.capacity := by
        simp only [saturate64]
        omega
      by_cases nothing : added = 0
      · have still : min self.tokens self.capacity = self.tokens := Nat.min_eq_left within
        simp [nothing, still]
      · simp [nothing, capped]

/-- What one call does: it fails only in the tokens which it gains, and it answers from the
tokens it then has. -/
theorem Aligned.tryAcquireIn_spec {self : TokenBucket} {last now : Nat}
    (aligned : self.Aligned last) (profile : Profile) (later : last ≤ now)
    (bounded : now < 2 ^ 64) :
    (∀ added, profile.fit ((now / self.refillNanos - last / self.refillNanos) * 1000) =
        some added →
      ∃ answer after, self.tryAcquireIn profile (self.start + now) = some (answer, after) ∧
        after.Aligned now ∧ after.capacity = self.capacity ∧
        after.refillNanos = self.refillNanos ∧ after.start = self.start ∧
        (answer = true ∧ after.tokens + 1000 = min (self.tokens + added) self.capacity ∨
          answer = false ∧ after.tokens = min (self.tokens + added) self.capacity ∧
            after.tokens < 1000)) ∧
      (profile.fit ((now / self.refillNanos - last / self.refillNanos) * 1000) = none →
        self.tryAcquireIn profile (self.start + now) = none) := by
  rw [tryAcquireIn, aligned.refillIn_eq profile later bounded]
  refine ⟨fun added gained => ?_, fun overflow => by rw [overflow]; rfl⟩
  rw [gained]
  simp only [Option.map_some]
  split
  case isTrue few =>
      refine ⟨_, _, rfl, ⟨aligned.amount, aligned.positive, rfl, Nat.min_le_right ..,
        aligned.bounded⟩, rfl, rfl, rfl, Or.inr ⟨rfl, rfl, few⟩⟩
  case isFalse enough =>
      refine ⟨_, _, rfl, ⟨aligned.amount, aligned.positive, rfl, ?_, aligned.bounded⟩, rfl, rfl,
        rfl, Or.inl ⟨rfl, ?_⟩⟩
      all_goals
        dsimp only at enough ⊢
        omega

end TokenBucket

/-- The rate limiter: the same fields, and the same code over them. -/
abbrev RateLimiter := TokenBucket

namespace RateLimiter

/-- A full limiter. -/
def new (rate burst start : Nat) : RateLimiter := TokenBucket.new rate burst start

/-- Add the tokens of the refill intervals which have passed. -/
def refill (profile : Profile) (self : RateLimiter) (now : Nat) : Option RateLimiter :=
  TokenBucket.refillIn profile self now

/-- Take a token if there is one. -/
def tryAcquire (profile : Profile) (self : RateLimiter) (now : Nat) :
    Option (Bool × RateLimiter) :=
  TokenBucket.tryAcquireIn profile self now

/-- Forward a message which gets a token, and drop the others. -/
def process (profile : Profile) (self : RateLimiter) (now : Nat) (msg : Message) :
    Option (Option Message × RateLimiter) :=
  (self.tryAcquire profile now).map fun (acquired, self) =>
    (if acquired then some msg else none, self)

/-- Calls one after another, at the times they read. -/
def acquireEach (profile : Profile) (self : RateLimiter) (times : List UInt64) :
    Option (List Bool × RateLimiter) :=
  TokenBucket.acquireEach profile self times

end RateLimiter

end Polku
