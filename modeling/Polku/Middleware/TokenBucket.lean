import Mathlib.Algebra.Ring.Nat

/-!
# Token buckets

The bucket which `Throttle` keeps for each source, as calls made one after
another use it: a compare-exchange which fails is only repeated, and without
contention none fails for good. Tokens are counted in thousandths. `u64` values
are numbers below `2 ^ 64`, and arithmetic on them wraps, or saturates where the
code asks for it. A division by zero panics.
-/

namespace Polku

/-- The value of an `as u64` cast or of wrapping arithmetic. -/
def wrap64 (value : Nat) : Nat := value % 2 ^ 64

/-- The value of saturating arithmetic. -/
def saturate64 (value : Nat) : Nat := min value (2 ^ 64 - 1)

/-- The nanoseconds `since.elapsed().as_nanos() as u64` reads at time `now`. -/
def elapsedNanos (since now : Nat) : Nat := wrap64 (now - since)

/-- A token bucket. -/
structure TokenBucket where
  capacity : Nat
  refillAmount : Nat
  refillNanos : Nat
  tokens : Nat
  lastRefill : Nat
  start : Nat
deriving DecidableEq, Repr

namespace TokenBucket

/-- The nanoseconds between refills at a rate; without a rate, the longest time. -/
def refillNanosOf (rate : Nat) : Nat :=
  if rate = 0 then 2 ^ 64 - 1 else 1000000000 / rate

/-- A full bucket. -/
def new (rate burst start : Nat) : TokenBucket where
  capacity := saturate64 (burst * 1000)
  refillAmount := 1000
  refillNanos := refillNanosOf rate
  tokens := saturate64 (burst * 1000)
  lastRefill := 0
  start := start

/-- Add the tokens of the refill intervals which have passed. -/
def refill (self : TokenBucket) (now : Nat) : Option TokenBucket :=
  let elapsed := elapsedNanos self.start now - self.lastRefill
  if elapsed < self.refillNanos then some self
  else if self.refillNanos = 0 then none
  else
    let intervals := elapsed / self.refillNanos
    if intervals = 0 then some self
    else
      let newLast := wrap64 (self.lastRefill + intervals * self.refillNanos)
      let tokensToAdd := wrap64 (intervals * self.refillAmount)
      if tokensToAdd = 0 then some { self with lastRefill := newLast }
      else some { self with
        lastRefill := newLast
        tokens := min (saturate64 (self.tokens + tokensToAdd)) self.capacity }

/-- Take a token if there is one. -/
def tryAcquire (self : TokenBucket) (now : Nat) : Option (Bool × TokenBucket) :=
  (self.refill now).map fun self =>
    if self.tokens < 1000 then (false, self)
    else (true, { self with tokens := self.tokens - 1000 })

/-- A new bucket can be used unless its refill time is zero. -/
theorem tryAcquire_new {rate : Nat} (burst now : Nat) (usable : refillNanosOf rate ≠ 0) :
    ∃ answer, (new rate burst now).tryAcquire now = some answer := by
  simp [tryAcquire, refill, new, elapsedNanos, wrap64, Nat.pos_of_ne_zero usable]

/-- A bucket whose refill time is zero cannot be used. -/
theorem tryAcquire_eq_none {self : TokenBucket} {now : Nat} (unusable : self.refillNanos = 0) :
    self.tryAcquire now = none := by
  simp [tryAcquire, refill, unusable]

end TokenBucket

end Polku
