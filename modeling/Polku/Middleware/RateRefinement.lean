import Polku.Middleware.RateLimiter
import Mathlib.Order.Bounds.Basic

/-!
# The bucket which the rate limiter is

The limiter gains its tokens at the next call, all those of the intervals which have
passed. Its answers are those of the bucket which gains every token when it is due, so
traffic within its rate and burst always passes.
-/

namespace Polku

open Data

namespace TokenBucket

/-- A bucket counts in thousandths what another counts in tokens, and its last refill was at
the tick which the other has seen last. -/
structure Mirrors (bucket : TokenBucket) (model : Bucket) : Prop where
  size : bucket.capacity = model.size * 1000
  tokens : bucket.tokens = model.tokens * 1000
  ticks : bucket.lastRefill = bucket.refillNanos * model.ticks

/-- A new bucket is a full one. -/
theorem mirrors_new (rate start : Nat) {burst : Nat} (burstFits : burst * 1000 < 2 ^ 64) :
    (new rate burst start).Mirrors (Bucket.full burst) where
  size := Nat.min_eq_left (Nat.le_sub_one_of_lt burstFits)
  tokens := Nat.min_eq_left (Nat.le_sub_one_of_lt burstFits)
  ticks := rfl

/-- A call is answered as by the bucket which catches up with the ticks. -/
theorem Mirrors.tryAcquireIn {self : TokenBucket} {model : Bucket} (mirrors : self.Mirrors model)
    {last now : Nat} (aligned : self.Aligned last) (profile : Profile) (later : last ≤ now)
    (bounded : now < 2 ^ 64)
    (fits : (now / self.refillNanos - last / self.refillNanos) * 1000 < 2 ^ 64) :
    ∃ after, self.tryAcquireIn profile (self.start + now) =
        some ((model.call (now / self.refillNanos)).1, after) ∧
      after.Mirrors (model.call (now / self.refillNanos)).2 ∧ after.Aligned now ∧
      after.refillNanos = self.refillNanos ∧ after.start = self.start := by
  have ticks : model.ticks = last / self.refillNanos :=
    Nat.eq_of_mul_eq_mul_left aligned.positive (mirrors.ticks.symm.trans aligned.lastRefill)
  obtain ⟨answer, after, called, still, capacity, nanos, start, taken⟩ :=
    (aligned.tryAcquireIn_spec profile later bounded).1 _ (profile.fit_of_lt fits)
  have filled : min (self.tokens + (now / self.refillNanos - last / self.refillNanos) * 1000)
      self.capacity = (model.catchUp (now / self.refillNanos)).tokens * 1000 := by
    simp only [Bucket.catchUp, mirrors.tokens, mirrors.size, ticks]
    omega
  have reached : after.lastRefill = after.refillNanos * (now / self.refillNanos) := by
    rw [still.lastRefill, nanos]
  have size := capacity.trans mirrors.size
  rw [filled] at taken
  have same : answer = (model.call (now / self.refillNanos)).1 ∧
      after.Mirrors (model.call (now / self.refillNanos)).2 := by
    rw [Bucket.call, Bucket.take]
    split
    case isTrue empty =>
        rcases taken with ⟨-, tokens⟩ | ⟨denied, tokens, -⟩
        · omega
        · exact ⟨denied, size, tokens, reached⟩
    case isFalse some =>
        rcases taken with ⟨granted, tokens⟩ | ⟨-, tokens, few⟩
        · refine ⟨granted, size, ?_, reached⟩
          dsimp only
          omega
        · omega
  exact ⟨after, by rw [called, same.1], same.2, still, nanos, start⟩

/-- Calls in order of time are answered as by the bucket which catches up with the ticks, and
the last refill is that of the last call. -/
theorem Mirrors.acquireEach {self : TokenBucket} {model : Bucket} (mirrors : self.Mirrors model)
    {last : UInt64} (aligned : self.Aligned last.toNat) (profile : Profile) (times : List UInt64)
    (ordered : (last :: times).Pairwise (· ≤ ·))
    (fits : (last :: times).IsChain fun last time =>
      (time.toNat / self.refillNanos - last.toNat / self.refillNanos) * 1000 < 2 ^ 64) :
    ∃ after, self.acquireEach profile times =
        some ((model.calls (times.map (·.toNat / self.refillNanos))).1, after) ∧
      after.Aligned (times.getLastD last).toNat ∧ after.refillNanos = self.refillNanos := by
  induction times generalizing self model last with
  | nil => exact ⟨self, rfl, aligned, rfl⟩
  | cons time times inductionHypothesis =>
      obtain ⟨later, rest⟩ := List.pairwise_cons.mp ordered
      obtain ⟨first, others⟩ := List.isChain_cons_cons.mp fits
      obtain ⟨next, called, same, still, nanos, -⟩ := mirrors.tryAcquireIn aligned profile
        (UInt64.le_iff_toNat_le.mp (later time List.mem_cons_self)) time.toNat_lt first
      obtain ⟨after, answered, reached, kept⟩ :=
        inductionHypothesis same still rest (by rwa [nanos])
      rw [nanos] at answered kept
      refine ⟨after, ?_, ?_, kept⟩
      · rw [acquireEach_cons called, answered]
        rfl
      · rwa [List.getLastD_cons]

/-- Calls in order of time come after the start. -/
theorem pairwise_zero_cons {times : List UInt64} (ordered : times.Pairwise (· ≤ ·)) :
    ((0 : UInt64) :: times).Pairwise (· ≤ ·) :=
  List.pairwise_cons.mpr ⟨fun _ _ => UInt64.le_iff_toNat_le.mpr (Nat.zero_le _), ordered⟩

/-- A new bucket answers calls as a full one which catches up with the ticks. -/
theorem acquireEach_new (profile : Profile) {rate burst : Nat} (start : Nat)
    {times : List UInt64} (usable : rate ≤ 1000000000) (burstFits : burst * 1000 < 2 ^ 64)
    (ordered : times.Pairwise (· ≤ ·)) (fits : IntervalsFit (refillNanosOf rate) times) :
    ∃ after, (new rate burst start).acquireEach profile times =
        some (((Bucket.full burst).calls (times.map (·.toNat / refillNanosOf rate))).1, after) ∧
      after.lastRefill = refillNanosOf rate * ((times.getLastD 0).toNat / refillNanosOf rate) := by
  have aligned : (new rate burst start).Aligned (0 : UInt64).toNat :=
    aligned_new burst start (refillNanosOf_pos usable)
  obtain ⟨after, answered, reached, nanos⟩ :=
    (mirrors_new rate start burstFits).acquireEach aligned profile times
      (pairwise_zero_cons ordered) fits
  refine ⟨after, answered, ?_⟩
  rw [reached.lastRefill, nanos]
  rfl

end TokenBucket

namespace RateLimiter

/-- Whatever the rate and the burst, and whenever it is called, the limiter answers as the
bucket which starts full and gains a token at every multiple of the refill time, and its
last refill is the last multiple before the last call. -/
theorem refines_eager (profile : Profile) {rate burst : Nat} (start : Nat)
    {times : List UInt64} (positive : 1 ≤ rate) (usable : rate ≤ 1000000000)
    (burstFits : burst * 1000 < 2 ^ 64) (ordered : times.Pairwise (· ≤ ·))
    (fits : TokenBucket.IntervalsFit (1000000000 / rate) times) :
    ∃ limiter, (new rate burst start).acquireEach profile times =
        some (((EagerBucket.full (1000000000 / rate) burst).calls
          (times.map UInt64.toNat)).1, limiter) ∧
      IsGreatest {nanos | 1000000000 / rate ∣ nanos ∧ nanos ≤ (times.getLastD 0).toNat}
        limiter.lastRefill := by
  rw [← TokenBucket.refillNanosOf_eq positive] at fits ⊢
  obtain ⟨limiter, answered, reached⟩ :=
    TokenBucket.acquireEach_new profile start usable burstFits ordered fits
  have eager := (EagerBucket.full (TokenBucket.refillNanosOf rate) burst).calls_toBucket le_rfl
    (times.map UInt64.toNat)
    (List.pairwise_cons.mpr ⟨fun _ _ => Nat.zero_le _, List.pairwise_map.mpr
      (ordered.imp UInt64.le_iff_toNat_le.mp)⟩)
  have full : (EagerBucket.full (TokenBucket.refillNanosOf rate) burst).toBucket =
      Bucket.full burst := by
    simp [EagerBucket.toBucket, EagerBucket.full, Bucket.full]
  refine ⟨limiter, ?_, ?_⟩
  · rw [eager, full, List.map_map]
    exact answered
  · rw [reached]
    refine ⟨⟨Nat.dvd_mul_right .., Nat.mul_div_le ..⟩, ?_⟩
    rintro multiple ⟨⟨factor, rfl⟩, before⟩
    have order := Nat.div_le_div_right before (c := TokenBucket.refillNanosOf rate)
    rw [Nat.mul_div_cancel_left _ (TokenBucket.refillNanosOf_pos usable)] at order
    exact Nat.mul_le_mul_left _ order

/-- Three calls at two messages a second: a burst, nothing left, one refill. -/
theorem refines_eager_twice_a_second :
    ∃ limiter, (new 2 1 0).acquireEach .release [3, 4, 500000000] =
        some (((EagerBucket.full 500000000 1).calls
          ([3, 4, 500000000].map UInt64.toNat)).1, limiter) ∧
      IsGreatest {nanos | 500000000 ∣ nanos ∧ nanos ≤ 500000000} limiter.lastRefill :=
  refines_eager .release 0 (by decide) (by decide) (by decide) (by decide) (by decide)

/-- A window within the configured rate holds no more calls than the ticks in it allow: the
refill time is rounded down. -/
private theorem rate_le_ticks {rate : Nat} (positive : 1 ≤ rate) (usable : rate ≤ 1000000000)
    {first last : Nat} (order : first ≤ last) :
    rate * (last - first) / 1000000000 ≤
      last / (1000000000 / rate) - first / (1000000000 / rate) := by
  have nanos : 0 < 1000000000 / rate := Nat.div_pos usable positive
  calc rate * (last - first) / 1000000000
      ≤ rate * (last - first) / (rate * (1000000000 / rate)) :=
        Nat.div_le_div_left (Nat.mul_div_le ..) (Nat.mul_pos positive nanos)
    _ = (last - first) / (1000000000 / rate) := Nat.mul_div_mul_left _ _ positive
    _ ≤ last / (1000000000 / rate) - first / (1000000000 / rate) := by
        apply Nat.le_sub_of_add_le'
        simpa [Nat.add_sub_cancel' order] using Nat.div_add_div_le_add_div (x := first)
          (y := last - first) (z := 1000000000 / rate)

/-- Traffic within the configured rate and burst is never limited. -/
theorem conforming_granted (profile : Profile) {rate burst : Nat} (start : Nat)
    {times : List UInt64} (positive : 1 ≤ rate) (usable : rate ≤ 1000000000)
    (burstFits : burst * 1000 < 2 ^ 64) (ordered : times.Pairwise (· ≤ ·))
    (fits : TokenBucket.IntervalsFit (1000000000 / rate) times)
    (conforming : ∀ first last : Nat, first ≤ last →
      times.countP (fun time => first ≤ time.toNat ∧ time.toNat ≤ last) ≤
        burst + rate * (last - first) / 1000000000) :
    ∃ limiter, (new rate burst start).acquireEach profile times =
      some (times.map fun _ => true, limiter) := by
  have conforms : Bucket.Conforms burst (1000000000 / rate) (times.map UInt64.toNat) := by
    intro first last order
    rw [List.countP_map]
    exact (conforming first last order).trans
      (Nat.add_le_add_left (rate_le_ticks positive usable order) _)
  have granted := Bucket.calls_eq_true burst (1000000000 / rate) (times.map UInt64.toNat)
    (List.pairwise_map.mpr (ordered.imp UInt64.le_iff_toNat_le.mp)) conforms
  rw [← TokenBucket.refillNanosOf_eq positive] at fits granted
  obtain ⟨limiter, answered, -⟩ :=
    TokenBucket.acquireEach_new profile start usable burstFits ordered fits
  rw [List.map_map, List.map_map] at granted
  exact ⟨limiter, answered.trans (congrArg (fun answers => some (answers, limiter)) granted)⟩

/-- Two calls at two messages a second, with a burst of one. The second takes the token which
has been added since. -/
theorem conforming_granted_pair :
    ∃ limiter, (new 2 1 0).acquireEach .release [3, 500000003] = some ([true, true], limiter) := by
  refine conforming_granted .release 0 (by decide) (by decide) (by decide) (by decide) (by decide)
    fun first last _ => ?_
  have three : (3 : UInt64).toNat = 3 := rfl
  have later : (500000003 : UInt64).toNat = 500000003 := rfl
  simp only [List.countP_cons, List.countP_nil, three, later, decide_eq_true_eq]
  split <;> split <;> omega

end RateLimiter

end Polku
