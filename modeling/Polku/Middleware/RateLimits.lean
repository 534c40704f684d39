import Polku.Middleware.RateRefinement
import Mathlib.Data.List.Range
import Mathlib.Data.Nat.ModEq

/-!
# The limits of the rate limiter

How far the arithmetic of the limiter goes, and how far it keeps to its rate. The time
between two refills is rounded down to whole nanoseconds: from a billion messages a
second on nothing is left of it, and below, what is lost makes the limiter faster than
its rate, unless the rate divides a billion.
-/

namespace Polku

open Data

namespace TokenBucket

/-! ### Overflow -/

/-- With overflow checks, calls in order of time are answered if and only if the tokens
which each of them gains fit. -/
theorem Aligned.acquireEach_isSome {self : TokenBucket} {last : UInt64}
    (aligned : self.Aligned last.toNat) (times : List UInt64)
    (ordered : (last :: times).Pairwise (· ≤ ·)) :
    (self.acquireEach .debug times).isSome ↔ (last :: times).IsChain fun last time =>
      (time.toNat / self.refillNanos - last.toNat / self.refillNanos) * 1000 < 2 ^ 64 := by
  induction times generalizing self last with
  | nil => simp [acquireEach]
  | cons time times inductionHypothesis =>
      obtain ⟨later, rest⟩ := List.pairwise_cons.mp ordered
      obtain ⟨answers, panics⟩ := aligned.tryAcquireIn_spec .debug
        (UInt64.le_iff_toNat_le.mp (later time List.mem_cons_self)) time.toNat_lt
      rw [List.isChain_cons_cons]
      by_cases fits :
          (time.toNat / self.refillNanos - last.toNat / self.refillNanos) * 1000 < 2 ^ 64
      · obtain ⟨answer, after, called, still, -, nanos, -⟩ := answers _ (if_pos fits)
        have others := inductionHypothesis still rest
        rw [nanos] at others
        rw [acquireEach_cons called, Option.isSome_map, others, and_iff_right fits]
      · have stuck : self.acquireEach .debug (time :: times) = none := by
          rw [acquireEach, panics (if_neg fits)]
          rfl
        rw [stuck]
        simp only [Option.isSome_none, Bool.false_eq_true, false_iff]
        exact fun allFit => fits allFit.1

/-- With overflow checks, a new bucket answers calls in order of time if and only if there
are none, or it has a refill time and the tokens which each of them gains fit. -/
theorem acquireEach_new_isSome (rate burst start : Nat) {times : List UInt64}
    (ordered : times.Pairwise (· ≤ ·)) :
    ((new rate burst start).acquireEach .debug times).isSome ↔
      times = [] ∨ rate ≤ 1000000000 ∧ IntervalsFit (refillNanosOf rate) times := by
  rcases Nat.lt_or_ge 1000000000 rate with fast | usable
  · have nothing := refillNanosOf_eq_zero fast
    cases times with
    | nil => simp [acquireEach]
    | cons time times =>
        have panics : (new rate burst start).acquireEach .debug (time :: times) = none := by
          simp [acquireEach, tryAcquireIn, refillIn, new, nothing]
        simp [panics, Nat.not_le_of_lt fast]
  · have aligned : (new rate burst start).Aligned (0 : UInt64).toNat :=
      aligned_new burst start (refillNanosOf_pos usable)
    rw [aligned.acquireEach_isSome times (pairwise_zero_cons ordered)]
    constructor
    · exact fun fits => Or.inr ⟨usable, fits⟩
    · rintro (rfl | ⟨-, fits⟩)
      · exact List.isChain_singleton 0
      · exact fits

/-! ### The rate -/

/-- The calls which were granted in a window of time. -/
def grantedIn (first last : Nat) (times : List UInt64) (answers : List Bool) : Nat :=
  (times.zip answers).countP fun (time, granted) =>
    granted ∧ first ≤ time.toNat ∧ time.toNat ≤ last

/-- A call counts if it was granted in the window. -/
theorem grantedIn_cons (first last : Nat) (time : UInt64) (times : List UInt64) (answer : Bool)
    (answers : List Bool) :
    grantedIn first last (time :: times) (answer :: answers) =
      grantedIn first last times answers +
        if answer ∧ first ≤ time.toNat ∧ time.toNat ≤ last then 1 else 0 := by
  simp [grantedIn, List.countP_cons]

/-- One call takes a token, if it counts at all. -/
theorem grantedIn_cons_le (first last : Nat) (time : UInt64) (times : List UInt64)
    (answer : Bool) (answers : List Bool) :
    grantedIn first last (time :: times) (answer :: answers) * 1000 ≤
      grantedIn first last times answers * 1000 + if answer then 1000 else 0 := by
  rw [grantedIn_cons, Nat.add_mul]
  apply Nat.add_le_add_left
  cases answer with
  | false => simp
  | true =>
      rw [if_pos rfl]
      split
      · exact le_rfl
      · exact Nat.zero_le _

/-- No call counts after the end of the window. -/
theorem grantedIn_of_lt {first last : Nat} {times : List UInt64} (answers : List Bool)
    (late : ∀ time ∈ times, last < time.toNat) : grantedIn first last times answers = 0 := by
  apply List.countP_eq_zero.mpr
  rintro ⟨time, granted⟩ member
  have after := late time (List.of_mem_zip member).1
  simp only [decide_eq_true_eq]
  omega

/-- If a call is after the end of the window, the calls from it on are. -/
private theorem late_cons {time : UInt64} {times : List UInt64} {last : Nat}
    (ordered : (time :: times).Pairwise (· ≤ ·)) (late : last < time.toNat) :
    ∀ other ∈ time :: times, last < other.toNat := by
  intro other member
  rcases List.mem_cons.mp member with rfl | member
  · exact late
  · exact late.trans_le (UInt64.le_iff_toNat_le.mp ((List.pairwise_cons.mp ordered).1 other member))

/-- What one call takes out of a bucket, it held or gained; the gain may be cut, or wrap, and
is never more than the ticks which have passed. -/
theorem Aligned.tryAcquireIn_le {self after : TokenBucket} {last now : Nat} {answer : Bool}
    (aligned : self.Aligned last) {profile : Profile} (later : last ≤ now)
    (bounded : now < 2 ^ 64)
    (called : self.tryAcquireIn profile (self.start + now) = some (answer, after)) :
    after.Aligned now ∧ after.capacity = self.capacity ∧
      after.refillNanos = self.refillNanos ∧ after.start = self.start ∧
      after.tokens + (if answer then 1000 else 0) ≤ self.capacity ∧
      after.tokens + (if answer then 1000 else 0) ≤
        self.tokens + (now / self.refillNanos - last / self.refillNanos) * 1000 := by
  obtain ⟨answers, panics⟩ := aligned.tryAcquireIn_spec profile later bounded
  cases gained : profile.fit ((now / self.refillNanos - last / self.refillNanos) * 1000) with
  | none =>
      rw [panics gained] at called
      cases called
  | some added =>
      have fewer := Profile.le_of_fit gained
      obtain ⟨_, _, same, still, capacity, nanos, start, taken⟩ := answers added gained
      rw [called] at same
      obtain ⟨rfl, rfl⟩ := Prod.mk.inj (Option.some.inj same)
      refine ⟨still, capacity, nanos, start, ?_, ?_⟩
      all_goals
        rcases taken with ⟨rfl, tokens⟩ | ⟨rfl, tokens, -⟩
        · rw [if_pos rfl]
          omega
        · rw [if_neg Bool.false_ne_true]
          omega

/-- In a window which has begun, a bucket gives what it holds and what it gains until the
end. -/
theorem Aligned.grantedIn_le {self final : TokenBucket} {latest : UInt64}
    (aligned : self.Aligned latest.toNat) {profile : Profile} {times : List UInt64}
    {answers : List Bool} (ordered : (latest :: times).Pairwise (· ≤ ·))
    (run : self.acquireEach profile times = some (answers, final)) (first : Nat) {last : Nat}
    (begun : latest.toNat ≤ last) :
    grantedIn first last times answers * 1000 ≤
      self.tokens + (last / self.refillNanos - latest.toNat / self.refillNanos) * 1000 := by
  induction times generalizing self latest answers with
  | nil => simp [grantedIn]
  | cons time times inductionHypothesis =>
      obtain ⟨later, rest⟩ := List.pairwise_cons.mp ordered
      have after := UInt64.le_iff_toNat_le.mp (later time List.mem_cons_self)
      obtain ⟨answer, next, answers, called, remaining, rfl⟩ := acquireEach_cons_some run
      obtain ⟨still, -, nanos, -, -, taken⟩ :=
        aligned.tryAcquireIn_le after time.toNat_lt called
      rcases Nat.lt_or_ge last time.toNat with ended | inside
      · rw [grantedIn_of_lt _ (late_cons rest ended), Nat.zero_mul]
        exact Nat.zero_le _
      · have others := inductionHypothesis still rest remaining inside
        have ticks := Nat.div_le_div_right after (c := self.refillNanos)
        have ticksAfter := Nat.div_le_div_right inside (c := self.refillNanos)
        have counted := grantedIn_cons_le first last time times answer answers
        rw [nanos] at others
        grind

/-- In any window a bucket gives what it can hold and what it gains in the window. -/
theorem Aligned.grantedIn_window {self final : TokenBucket} {latest : UInt64}
    (aligned : self.Aligned latest.toNat) {profile : Profile} {times : List UInt64}
    {answers : List Bool} (ordered : (latest :: times).Pairwise (· ≤ ·))
    (run : self.acquireEach profile times = some (answers, final)) (first last : Nat) :
    grantedIn first last times answers * 1000 ≤
      self.capacity + (last / self.refillNanos - first / self.refillNanos) * 1000 := by
  induction times generalizing self latest answers with
  | nil => simp [grantedIn]
  | cons time times inductionHypothesis =>
      obtain ⟨later, rest⟩ := List.pairwise_cons.mp ordered
      have after := UInt64.le_iff_toNat_le.mp (later time List.mem_cons_self)
      obtain ⟨answer, next, answers, called, remaining, rfl⟩ := acquireEach_cons_some run
      obtain ⟨still, capacity, nanos, -, taken, -⟩ :=
        aligned.tryAcquireIn_le after time.toNat_lt called
      rcases Nat.lt_or_ge time.toNat first with early | begun
      · have others := inductionHypothesis still rest remaining
        have uncounted : ¬ (answer = true ∧ first ≤ time.toNat ∧ time.toNat ≤ last) := by omega
        rwa [grantedIn_cons, if_neg uncounted, ← capacity, ← nanos]
      · rcases Nat.lt_or_ge last time.toNat with ended | inside
        · rw [grantedIn_of_lt _ (late_cons rest ended), Nat.zero_mul]
          exact Nat.zero_le _
        · have others := still.grantedIn_le rest remaining first inside
          have ticks := Nat.div_le_div_right begun (c := self.refillNanos)
          have counted := grantedIn_cons_le first last time times answer answers
          rw [nanos] at others
          grind

/-- Whatever its rate, a new bucket gives in a window its burst, a token for every refill
time, and one more. -/
theorem grantedIn_new (profile : Profile) {rate : Nat} (usable : rate ≤ 1000000000)
    (burst start : Nat) {times : List UInt64} (ordered : times.Pairwise (· ≤ ·))
    {answers : List Bool} {final : TokenBucket}
    (run : (new rate burst start).acquireEach profile times = some (answers, final))
    {first last : Nat} (order : first ≤ last) :
    grantedIn first last times answers ≤ burst + (last - first) / refillNanosOf rate + 1 := by
  have aligned : (new rate burst start).Aligned (0 : UInt64).toNat :=
    aligned_new burst start (refillNanosOf_pos usable)
  have window := aligned.grantedIn_window (pairwise_zero_cons ordered) run first last
  have capacity : (new rate burst start).capacity ≤ burst * 1000 := Nat.min_le_left ..
  have ticks := Nat.add_div_le_div_add_div_add_one first (last - first) (refillNanosOf rate)
  rw [Nat.add_sub_cancel' order] at ticks
  have before := Nat.div_le_div_right order (c := refillNanosOf rate)
  have nanos : (new rate burst start).refillNanos = refillNanosOf rate := rfl
  rw [nanos] at window
  omega

/-- A call at every refill. -/
def steadyCalls (nanos count : Nat) : List UInt64 :=
  (List.range' 1 count).map fun tick => UInt64.ofNat (tick * nanos)

/-- The times of steady calls, as far as they fit. -/
private theorem toNat_steady {nanos count tick : Nat} (bounded : count * nanos < 2 ^ 64)
    (within : tick ≤ count) : (UInt64.ofNat (tick * nanos)).toNat = tick * nanos :=
  UInt64.toNat_ofNat_of_lt' ((Nat.mul_le_mul_right nanos within).trans_lt bounded)

/-- Steady calls are in order of time, and each of them gains one token. -/
theorem steadyCalls_ordered {nanos count : Nat} (positive : 0 < nanos)
    (bounded : count * nanos < 2 ^ 64) :
    (steadyCalls nanos count).Pairwise (· ≤ ·) ∧ IntervalsFit nanos (steadyCalls nanos count) := by
  constructor
  · refine List.pairwise_map.mpr ((List.pairwise_le_range' 1).imp_of_mem ?_)
    intro tick later member laterMember order
    have within := (List.mem_range'_1.mp member).2
    have laterWithin := (List.mem_range'_1.mp laterMember).2
    rw [UInt64.le_iff_toNat_le, toNat_steady bounded (by omega),
      toNat_steady bounded (by omega)]
    exact Nat.mul_le_mul_right nanos order
  · have all : (0 : UInt64) :: steadyCalls nanos count =
        (List.range (count + 1)).map fun tick => UInt64.ofNat (tick * nanos) := by
      rw [List.range_eq_range', List.range'_succ, List.map_cons, Nat.zero_mul]
      rfl
    rw [IntervalsFit, all, List.isChain_map, List.isChain_range_succ]
    intro tick before
    rw [toNat_steady bounded before, toNat_steady bounded before.le,
      Nat.mul_div_cancel _ positive, Nat.mul_div_cancel _ positive]
    omega

/-- A bucket with a burst of one grants all steady calls. -/
theorem acquireEach_steady (profile : Profile) {rate count : Nat} (usable : rate ≤ 1000000000)
    (bounded : count * refillNanosOf rate < 2 ^ 64) :
    ∃ final, (new rate 1 0).acquireEach profile (steadyCalls (refillNanosOf rate) count) =
      some (List.replicate count true, final) := by
  have positive := refillNanosOf_pos usable
  obtain ⟨ordered, fits⟩ := steadyCalls_ordered positive bounded
  obtain ⟨final, run, -⟩ :=
    acquireEach_new profile 0 usable (show 1 * 1000 < 2 ^ 64 by decide) ordered fits
  have ticks : (steadyCalls (refillNanosOf rate) count).map (·.toNat / refillNanosOf rate) =
      List.range' 1 count := by
    rw [steadyCalls, List.map_map]
    conv_rhs => rw [← List.map_id (List.range' 1 count)]
    apply List.map_congr_left
    intro tick member
    have within := (List.mem_range'_1.mp member).2
    rw [Function.comp_apply, toNat_steady bounded (by omega), Nat.mul_div_cancel _ positive, id]
  have granted := (Bucket.full 1).calls_range' Nat.one_pos count
  rw [ticks] at run
  exact ⟨final, run.trans (congrArg (fun answers => some (answers, final)) granted)⟩

/-- All of them are between the first and the last. -/
theorem grantedIn_steady {nanos count : Nat} (bounded : count * nanos < 2 ^ 64) :
    grantedIn nanos (count * nanos) (steadyCalls nanos count) (List.replicate count true) =
      count := by
  have length : ((steadyCalls nanos count).zip (List.replicate count true)).length = count := by
    simp [steadyCalls]
  conv_rhs => rw [← length]
  apply List.countP_eq_length.mpr
  rintro ⟨time, granted⟩ member
  obtain ⟨timeMember, grantedMember⟩ := List.of_mem_zip member
  obtain ⟨tick, tickMember, rfl⟩ := List.mem_map.mp timeMember
  obtain ⟨from_, within⟩ := List.mem_range'_1.mp tickMember
  simp only [decide_eq_true_eq, toNat_steady bounded (show tick ≤ count by omega)]
  refine ⟨(List.mem_replicate.mp grantedMember).2, ?_, ?_⟩
  · exact Nat.le_mul_of_pos_left nanos from_
  · exact Nat.mul_le_mul_right nanos (by omega)

end TokenBucket

namespace RateLimiter

/-- With overflow checks, the limiter and the bucket of a source answer calls in order of
time without a panic if and only if there are none, or the rate is at most a billion and
the tokens which each call gains fit. -/
theorem answers_iff (rate burst : UInt64) (start : Nat) {times : List UInt64}
    (ordered : times.Pairwise (· ≤ ·)) :
    (((new rate.toNat burst.toNat start).acquireEach .debug times).isSome ↔
        times = [] ∨ rate.toNat ≤ 1000000000 ∧
          TokenBucket.IntervalsFit (TokenBucket.refillNanosOf rate.toNat) times) ∧
      (((TokenBucket.new rate.toNat burst.toNat start).acquireEach .debug times).isSome ↔
        times = [] ∨ rate.toNat ≤ 1000000000 ∧
          TokenBucket.IntervalsFit (TokenBucket.refillNanosOf rate.toNat) times) :=
  ⟨TokenBucket.acquireEach_new_isSome _ _ start ordered,
    TokenBucket.acquireEach_new_isSome _ _ start ordered⟩

/-- A call every millisecond, at a thousand messages a second. -/
theorem answers_iff_thousand :
    (((new 1000 1 0).acquireEach .debug [1000000, 2000000]).isSome ↔
        ([1000000, 2000000] : List UInt64) = [] ∨ 1000 ≤ 1000000000 ∧
          TokenBucket.IntervalsFit (TokenBucket.refillNanosOf 1000) [1000000, 2000000]) ∧
      (((TokenBucket.new 1000 1 0).acquireEach .debug [1000000, 2000000]).isSome ↔
        ([1000000, 2000000] : List UInt64) = [] ∨ 1000 ≤ 1000000000 ∧
          TokenBucket.IntervalsFit (TokenBucket.refillNanosOf 1000) [1000000, 2000000]) :=
  answers_iff 1000 1 0 (by decide)

/-- Two billion messages a second leave no time between two refills: the first call divides
by zero. At a billion a second, the first call after the longest time gains too much. -/
theorem first_call_panics :
    ((new 2000000000 1 0).acquireEach .debug [0]).isSome = false ∧
      ((TokenBucket.new 2000000000 1 0).acquireEach .release [0]).isSome = false ∧
      ((new 1000000000 1 0).acquireEach .debug [18446744073709551615]).isSome = false := by
  decide +kernel

/-- The granted calls of any window are at most the burst, what the configured rate brings in
it, rounded up, and one more, if and only if the rate divides a billion. -/
theorem rate_kept_iff (profile : Profile) {rate : Nat} (positive : 1 ≤ rate)
    (usable : rate ≤ 1000000000) :
    (∀ (burst : UInt64) (start : Nat) (times : List UInt64) (answers : List Bool)
        (limiter : RateLimiter) (first last : Nat), times.Pairwise (· ≤ ·) → first ≤ last →
      (new rate burst.toNat start).acquireEach profile times = some (answers, limiter) →
      TokenBucket.grantedIn first last times answers ≤
        burst.toNat + (rate * (last - first) + 999999999) / 1000000000 + 1) ↔
      rate ∣ 1000000000 := by
  constructor
  · intro kept
    by_contra loses
    -- Three billion refills gain at least three tokens too many.
    have faster : rate * (1000000000 / rate) < 1000000000 :=
      lt_of_le_of_ne (Nat.mul_div_le ..) fun same => loses ⟨_, same.symm⟩
    rw [← TokenBucket.refillNanosOf_eq positive] at faster
    have short : TokenBucket.refillNanosOf rate ≤ 1000000000 := by
      rw [TokenBucket.refillNanosOf_eq positive]
      exact Nat.div_le_self ..
    have bounded : 3000000001 * TokenBucket.refillNanosOf rate < 2 ^ 64 := by omega
    obtain ⟨limiter, run⟩ := TokenBucket.acquireEach_steady profile usable bounded
    have window := kept 1 0 _ _ limiter (TokenBucket.refillNanosOf rate)
      (3000000001 * TokenBucket.refillNanosOf rate)
      (TokenBucket.steadyCalls_ordered (TokenBucket.refillNanosOf_pos usable) bounded).1
      (by omega) run
    rw [TokenBucket.grantedIn_steady bounded] at window
    have spent : rate * (3000000001 * TokenBucket.refillNanosOf rate -
        TokenBucket.refillNanosOf rate) ≤ 1000000000 * 2999999997 := by
      calc rate * (3000000001 * TokenBucket.refillNanosOf rate - TokenBucket.refillNanosOf rate)
          = 3000000000 * (rate * TokenBucket.refillNanosOf rate) := by
            rw [Nat.mul_left_comm]
            congr 1
            omega
        _ ≤ 3000000000 * 999999999 := Nat.mul_le_mul_left _ (by omega)
        _ = 1000000000 * 2999999997 := by decide
    have one : (1 : UInt64).toNat = 1 := rfl
    omega
  · rintro ⟨nanos, divides⟩ burst start times answers limiter first last ordered order run
    have refill : TokenBucket.refillNanosOf rate = nanos := by
      rw [TokenBucket.refillNanosOf_eq positive, divides, Nat.mul_div_cancel_left _ positive]
    have granted := TokenBucket.grantedIn_new profile usable burst.toNat start ordered run order
    have floor : rate * (last - first) / 1000000000 ≤
        (rate * (last - first) + 999999999) / 1000000000 :=
      Nat.div_le_div_right (Nat.le_add_right _ _)
    rw [refill, ← Nat.mul_div_mul_left _ nanos positive, ← divides] at granted
    exact granted.trans (Nat.add_le_add_right (Nat.add_le_add_left floor _) 1)

/-- Seven messages a second. -/
theorem rate_kept_iff_seven :
    (∀ (burst : UInt64) (start : Nat) (times : List UInt64) (answers : List Bool)
        (limiter : RateLimiter) (first last : Nat), times.Pairwise (· ≤ ·) → first ≤ last →
      (new 7 burst.toNat start).acquireEach .release times = some (answers, limiter) →
      TokenBucket.grantedIn first last times answers ≤
        burst.toNat + (7 * (last - first) + 999999999) / 1000000000 + 1) ↔
      7 ∣ 1000000000 :=
  rate_kept_iff .release (by decide) (by decide)

/-- At six hundred million messages a second, six messages pass in five nanoseconds with a
burst of one. -/
theorem six_in_five_nanoseconds :
    ((new 600000000 1 0).acquireEach .release [0, 1, 2, 3, 4, 5]).map Prod.fst =
        some [true, true, true, true, true, true] ∧
      ¬ TokenBucket.grantedIn 0 5 [0, 1, 2, 3, 4, 5] [true, true, true, true, true, true] ≤
        1 + (600000000 * (5 - 0) + 999999999) / 1000000000 + 1 := by
  decide +kernel

end RateLimiter

end Polku
