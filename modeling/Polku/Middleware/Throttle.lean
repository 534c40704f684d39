import Polku.Data.HashMap
import Polku.Message
import Polku.Middleware.TokenBucket

/-!
# The per-source throttle

`Throttle` keeps a token bucket for each of at most `max_sources` sources. A call
reads the clock up to four times: when it creates a bucket, when it starts its
token bucket, when it accesses it and when it refills it. The order in which
`evict_lru` sees the buckets is an input.
-/

namespace Polku

open Data

/-- What one call reads from the clock, in the order of reading. -/
structure ThrottleTimes where
  created : Nat
  started : Nat
  accessed : Nat
  refilled : Nat
deriving DecidableEq, Repr

/-- The readings follow `clock` and each other. -/
def ThrottleTimes.Follow (self : ThrottleTimes) (clock : Nat) : Prop :=
  clock < self.created ∧ self.created ≤ self.started ∧ self.started ≤ self.accessed ∧
    self.accessed ≤ self.refilled

/-- A token bucket with its last access. -/
structure TrackedBucket where
  bucket : TokenBucket
  lastAccessNanos : Nat
  created : Nat
deriving DecidableEq, Repr

namespace TrackedBucket

/-- A new bucket. -/
def new (rate burst : Nat) (times : ThrottleTimes) : TrackedBucket :=
  ⟨.new rate burst times.started, 0, times.created⟩

/-- Note the access and try to take a token. -/
def tryAcquire (self : TrackedBucket) (times : ThrottleTimes) : Option (Bool × TrackedBucket) :=
  (self.bucket.tryAcquire times.refilled).map fun (result, bucket) =>
    (result, { self with
      bucket := bucket
      lastAccessNanos := elapsedNanos self.created times.accessed })

/-- The time of the last access, counted from the creation of the bucket. -/
def lastAccess (self : TrackedBucket) : Nat := self.lastAccessNanos

end TrackedBucket

/-- A throttle and the buckets of the sources it tracks. -/
structure Throttle where
  rate : Nat
  burst : Nat
  maxSources : Nat
  buckets : HashMap String TrackedBucket

namespace Throttle

/-- A throttle which tracks no source. -/
def new (rate burst : Nat) : Throttle := ⟨rate, burst, 10000, ∅⟩

/-- Set the maximum number of sources. -/
def withMaxSources (self : Throttle) (max : Nat) : Throttle := { self with maxSources := max }

/-- The number of tracked sources. -/
def sourceCount (self : Throttle) : Nat := self.buckets.keys.card

/-- Remove the first bucket, in the order of the iteration, with the least last access. -/
def evictLru (buckets : HashMap String TrackedBucket) (order : buckets.Iteration) :
    HashMap String TrackedBucket :=
  match order.entries.argmin fun entry => entry.2.lastAccess with
  | some entry => buckets.erase entry.1
  | none => buckets

/-- Evict a bucket if the throttle is at capacity. -/
def makeRoom (self : Throttle) (order : self.buckets.Iteration) : HashMap String TrackedBucket :=
  if self.maxSources ≤ self.sourceCount then evictLru self.buckets order else self.buckets

/-- Take a token from the bucket of a source, which is created if need be. -/
def getOrCreateBucket (self : Throttle) (times : ThrottleTimes) (order : self.buckets.Iteration)
    (source : String) : Option (Bool × Throttle) :=
  match self.buckets.lookup source with
  | some tracked =>
      (tracked.tryAcquire times).map fun (result, tracked) =>
        (result, { self with buckets := self.buckets.insert source tracked })
  | none =>
      let buckets := self.makeRoom order
      let tracked := TrackedBucket.new self.rate self.burst times
      (tracked.tryAcquire times).map fun (result, tracked) =>
        (result, { self with buckets := buckets.insert source tracked })

/-- Pass a message if its source has a token left. The outer `none` is a panic. -/
def process (self : Throttle) (times : ThrottleTimes) (order : self.buckets.Iteration)
    (msg : Message) : Option (Option Message × Throttle) :=
  (self.getOrCreateBucket times order msg.source).map fun (passed, self) =>
    (if passed then some msg else none, self)

/-! ### What a call does to the buckets -/

/-- How a call finds its bucket, and the buckets after it. -/
inductive Accesses (self : Throttle) (times : ThrottleTimes) (order : self.buckets.Iteration)
    (source : String) : HashMap String TrackedBucket → Prop
  | existing {tracked} (bucket) (held : self.buckets.lookup source = some tracked) :
      Accesses self times order source (self.buckets.insert source
        ⟨bucket, elapsedNanos tracked.created times.accessed, tracked.created⟩)
  | created (bucket) (absent : self.buckets.lookup source = none)
      (usable : TokenBucket.refillNanosOf self.rate ≠ 0) :
      Accesses self times order source ((self.makeRoom order).insert source
        ⟨bucket, elapsedNanos times.created times.accessed, times.created⟩)

/-- A call changes the buckets only, in one of the listed ways. -/
theorem accesses_of_getOrCreateBucket {self after : Throttle} {times : ThrottleTimes}
    {order : self.buckets.Iteration} {source : String} {passed : Bool}
    (done : self.getOrCreateBucket times order source = some (passed, after)) :
    after = { self with buckets := after.buckets } ∧
      self.Accesses times order source after.buckets := by
  unfold getOrCreateBucket at done
  split at done
  case h_1 tracked held =>
    obtain ⟨⟨result, next⟩, acquired, same⟩ := Option.map_eq_some_iff.mp done
    obtain ⟨⟨token, bucket⟩, taken, answer⟩ := Option.map_eq_some_iff.mp acquired
    cases answer
    cases same
    exact ⟨rfl, .existing bucket held⟩
  case h_2 absent =>
    obtain ⟨⟨result, next⟩, acquired, same⟩ := Option.map_eq_some_iff.mp done
    obtain ⟨⟨token, bucket⟩, taken, answer⟩ := Option.map_eq_some_iff.mp acquired
    cases answer
    cases same
    refine ⟨rfl, .created bucket absent fun unusable => ?_⟩
    rw [TokenBucket.tryAcquire_eq_none unusable] at taken
    cases taken

/-- A call for a source which is not tracked succeeds if new buckets can be used. -/
theorem exists_getOrCreateBucket {self : Throttle} {source : String} (time : Nat)
    (order : self.buckets.Iteration) (absent : self.buckets.lookup source = none)
    (usable : TokenBucket.refillNanosOf self.rate ≠ 0) :
    ∃ answer, self.getOrCreateBucket ⟨time, time, time, time⟩ order source = some answer := by
  obtain ⟨⟨token, bucket⟩, taken⟩ :=
    TokenBucket.tryAcquire_new self.burst time usable
  simp [getOrCreateBucket, absent, TrackedBucket.tryAcquire, TrackedBucket.new, taken]

/-- A full throttle makes room by removing what is least accessed. -/
theorem makeRoom_full {self : Throttle} {order : self.buckets.Iteration}
    (full : self.maxSources ≤ self.sourceCount) :
    self.makeRoom order = evictLru self.buckets order := if_pos full

end Throttle

end Polku
