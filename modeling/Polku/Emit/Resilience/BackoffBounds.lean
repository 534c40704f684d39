import Polku.Emit.Resilience.Retry

/-!
# How long the backoff waits

The exponential delay is capped first, and jitter is applied to what the cap leaves. So jitter
may take a delay over the maximum.
-/

namespace Polku.BackoffConfig

/-- What jitter multiplies a delay by. -/
def jitterScale (self : BackoffConfig) (jitter : ℚ) : ℚ := 1 + (jitter * 2 - 1) * self.jitterFactor

/-- The delay before the cap and jitter, in microseconds. -/
def uncapped (self : BackoffConfig) (attempt : UInt32) : ℚ :=
  ((self.initialDelay / 1000 : Nat) : ℚ) * self.multiplier ^ exponent attempt

/-- The cap, in whole microseconds. -/
def cap (self : BackoffConfig) : Nat := self.maxDelay / 1000

variable {self : BackoffConfig} {attempt : UInt32} {jitter : ℚ}

/-- Jitter turns no delay negative. -/
theorem jitterScale_nonneg (factorNonneg : 0 ≤ self.jitterFactor)
    (factorLe : self.jitterFactor ≤ 1) (jitterNonneg : 0 ≤ jitter) :
    0 ≤ self.jitterScale jitter := by
  have least : (jitter * 2 - 1) * self.jitterFactor ≥ (-1) * self.jitterFactor :=
    mul_le_mul_of_nonneg_right (by linarith) factorNonneg
  rw [jitterScale]
  linarith

/-- A delay is the lesser of the exponential one and the cap, both with jitter, of whole
microseconds, of which there is at least one. -/
theorem delay_eq (retried : attempt ≠ 0) (scale : 0 ≤ self.jitterScale jitter) :
    self.delayForAttemptWithJitter attempt jitter =
      min ⌊max (min (self.uncapped attempt * self.jitterScale jitter)
        (self.cap * self.jitterScale jitter)) 1⌋₊ (2 ^ 64 - 1) * 1000 := by
  have scaled : ∀ base : ℚ, base + (jitter * 2 - 1) * (base * self.jitterFactor) =
      base * self.jitterScale jitter := by
    intro base
    rw [jitterScale]
    ring
  rw [delayForAttemptWithJitter, if_neg retried, ← min_mul_of_nonneg _ _ scale]
  simp only [scaled]
  rfl

/-- A whole number of microseconds is within the maximum exactly if it is within the cap. -/
theorem mul_le_maxDelay_iff (micros : Nat) :
    micros * 1000 ≤ self.maxDelay ↔ micros ≤ self.cap :=
  (Nat.le_div_iff_mul_le (by decide)).symm

/-- The whole part of the lesser of two numbers, or one, is within a bound exactly if either
number is below the next one. -/
private theorem floor_le_iff (left right : ℚ) {bound : Nat} (positive : 1 ≤ bound) :
    ⌊max (min left right) 1⌋₊ ≤ bound ↔ left < bound + 1 ∨ right < bound + 1 := by
  have beyond : (1 : ℚ) < bound + 1 := by
    have some : (0 : ℚ) < bound := by exact_mod_cast positive
    linarith
  rw [← Nat.lt_succ_iff, Nat.floor_lt (zero_le_one.trans (le_max_right _ _)),
    Nat.succ_eq_add_one, Nat.cast_add, Nat.cast_one, max_lt_iff, and_iff_left beyond, min_lt_iff]

/-- With a maximum of a microsecond or more, a delay is at least a microsecond, and at most the
maximum exactly if the exponential delay with jitter is below the next microsecond, or the cap
with jitter is, or the maximum is beyond what a delay can be. -/
theorem delay_within_iff (self : BackoffConfig) (attempt : UInt32) (jitter : ℚ)
    (retried : attempt ≠ 0) (microsecond : 1000 ≤ self.maxDelay)
    (factorNonneg : 0 ≤ self.jitterFactor) (factorLe : self.jitterFactor ≤ 1)
    (jitterNonneg : 0 ≤ jitter) :
    (1000 ≤ self.delayForAttemptWithJitter attempt jitter ∧
      self.delayForAttemptWithJitter attempt jitter ≤ self.maxDelay) ↔
      self.uncapped attempt * self.jitterScale jitter < self.cap + 1 ∨
        self.cap * self.jitterScale jitter < self.cap + 1 ∨ 2 ^ 64 - 1 ≤ self.cap := by
  have scale : 0 ≤ self.jitterScale jitter :=
    jitterScale_nonneg factorNonneg factorLe jitterNonneg
  have capped : 1 ≤ self.cap :=
    (Nat.le_div_iff_mul_le (by decide)).mpr (by simpa using microsecond)
  have waits : 1 ≤ min ⌊max (min (self.uncapped attempt * self.jitterScale jitter)
      (self.cap * self.jitterScale jitter)) 1⌋₊ (2 ^ 64 - 1) :=
    le_min (Nat.floor_pos.mpr (le_max_right _ _)) (by decide)
  rw [delay_eq retried scale, mul_le_maxDelay_iff, min_le_iff, floor_le_iff _ _ capped, or_assoc]
  exact and_iff_right (Nat.mul_le_mul_right 1000 waits)

/-- The first retry of the default configuration waits 125 ms at most. -/
theorem delay_within_iff_default :
    1000 ≤ default.delayForAttemptWithJitter 1 1 ∧
      default.delayForAttemptWithJitter 1 1 ≤ default.maxDelay := by
  refine (delay_within_iff default 1 1 (by decide) (by decide) ?_ ?_ zero_le_one).mpr (.inl ?_)
  · norm_num [default]
  · norm_num [default]
  · have exponent : exponent 1 = 0 := by decide
    norm_num [uncapped, jitterScale, cap, exponent, default]

/-- With the default configuration a delay after a cap of 30 s is 33.75 s. -/
theorem delay_over_maximum :
    default.delayForAttemptWithJitter 10 (3 / 4) = 33750 * 10 ^ 6 ∧
      default.maxDelay < default.delayForAttemptWithJitter 10 (3 / 4) := by
  have delay : default.delayForAttemptWithJitter 10 (3 / 4) = 33750 * 10 ^ 6 := by
    decide +kernel
  exact ⟨delay, delay ▸ by decide⟩

end Polku.BackoffConfig
