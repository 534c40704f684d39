import Mathlib.Algebra.BigOperators.Ring.Finset
import Mathlib.Algebra.Order.BigOperators.Group.Finset
import Mathlib.Order.Interval.Finset.Nat
import Polku.Middleware.ThrottleBuckets

/-!
# What a contended throttle lets through

A source gets a burst, and what its rate brings, for each bucket that is made for it, and a
new bucket is made for it only when its last one was evicted or lost. With no more sources
than the throttle tracks none is evicted. So however its calls interleave, the throttle
limits each source by itself.
-/

namespace Polku.Throttle

open Semantics Data

/-- The bucket which has let a message of a source through, if a step has. -/
def Event.grantedBy (source : String) : Event → Option Nat
  | .worked other bucket (.answered true) => if other = source then some bucket else none
  | _ => none

/-- The buckets which have let messages of a source through. -/
def grants (source : String) (history : List Event) : List Nat :=
  history.filterMap (Event.grantedBy source)

/-- The time that a step has read for a message of a source. -/
def Event.clock (source : String) : Event → Nat
  | .worked other _ event => if other = source then event.clock else 0
  | _ => 0

/-- The largest time that was read on a bucket of a source. -/
def latest (source : String) (history : List Event) : Nat :=
  (history.map (Event.clock source)).foldl max 0

variable {profile : Profile} {rate burst maxSources : Nat} {history : List Event}
  {shared : Shared} {tasks : List Call} {source : String}

theorem latest_snoc (source : String) (history : List Event) (event : Event) :
    latest source (history ++ [event]) = max (latest source history) (event.clock source) := by
  simp [latest]

/-- Which steps grant a message. -/
theorem grantedBy_eq_some {event : Event} {bucket : Nat} :
    event.grantedBy source = some bucket ↔ event = .worked source bucket (.answered true) := by
  unfold Event.grantedBy
  split
  case h_1 other made =>
      by_cases same : other = source <;> simp [same]
  case h_2 notGranted =>
      simp only [reduceCtorEq, false_iff]
      exact notGranted source bucket

/-- Which steps are taken on a bucket. -/
theorem onBucket_eq_some {event : Event} {bucket : Nat} {done : RateLimiter.Event} :
    event.onBucket source bucket = some done ↔
      event = .accessed source bucket ∧ done = .called ∨ event = .worked source bucket done := by
  cases event with
  | accessed other made =>
      by_cases isUsed : other = source ∧ made = bucket <;>
        simp [Event.onBucket, isUsed, eq_comm]
  | worked other made event =>
      by_cases isUsed : other = source ∧ made = bucket
      · simp [Event.onBucket, isUsed]
      · simp only [Event.onBucket, if_neg isUsed, reduceCtorEq, false_and, false_or, false_iff]
        rintro ⟨⟩
        exact isUsed ⟨rfl, rfl⟩
  | found | missed | created | finished | unwound => simp [Event.onBucket]

/-- How often the only value there may be is a given one. -/
private theorem count_toList {Value : Type} [DecidableEq Value] (option : Option Value)
    (value : Value) : option.toList.count value = if option = some value then 1 else 0 := by
  cases option <;> simp [List.count_singleton]

/-- What a bucket grants is what it is seen to grant. -/
theorem count_grants (source : String) (bucket : Nat) (history : List Event) :
    (grants source history).count bucket =
      RateLimiter.grants (bucketTrace source bucket history) := by
  induction history using List.reverseRecOn with
  | nil => rfl
  | append_singleton history event inductionHypothesis =>
      have same : event.grantedBy source = some bucket ↔
          event.onBucket source bucket = some (.answered true) := by
        rw [grantedBy_eq_some, onBucket_eq_some]
        simp
      rw [grants, filterMap_snoc, List.count_append, ← grants, inductionHypothesis,
        RateLimiter.grants, RateLimiter.grants, bucketTrace_snoc, List.count_append, count_toList,
        count_toList]
      simp only [same]

/-- No bucket of a source has read a later time. -/
theorem latest_bucketTrace (source : String) (bucket : Nat) (history : List Event) :
    RateLimiter.latest (bucketTrace source bucket history) ≤ latest source history := by
  induction history using List.reverseRecOn with
  | nil => exact Nat.le_refl _
  | append_singleton history event inductionHypothesis =>
      rw [latest_snoc, bucketTrace_snoc]
      cases occurs : event.onBucket source bucket with
      | none =>
          rw [Option.toList_none, List.append_nil]
          exact inductionHypothesis.trans (Nat.le_max_left _ _)
      | some done =>
          rw [Option.toList_some, RateLimiter.latest_snoc]
          refine max_le_max inductionHypothesis ?_
          rcases onBucket_eq_some.mp occurs with ⟨rfl, rfl⟩ | rfl
          · exact Nat.le_refl _
          · simp [Event.clock]

/-- What is known of every run. -/
structure Invariant (profile : Profile) (rate burst maxSources : Nat) (history : List Event)
    (shared : Shared) (tasks : List Call) : Prop where
  fits : shared.lock.Fits (tasks.map Call.hold)
  placed : Placed maxSources shared tasks
  like : LikeLimiters profile rate burst history shared tasks
  accounted : Accounted maxSources history shared tasks
  numbered : ∀ source, ∀ bucket ∈ grants source history,
    bucket ≠ 0 ∧ bucket ≤ creations source history

/-- A bucket in use has a number. -/
private theorem made_pos {front back : List Call} {call : Call}
    (accounted : Accounted maxSources history shared (front ++ call :: back))
    (isBucket : source ∈ shared.throttle.buckets.keys ∨ call.makes = some source) :
    shared.made source ≠ 0 := by
  have balance := accounted.balance source
  rw [accounted.made]
  rcases isBucket with isTracked | makes
  · rw [if_pos isTracked] at balance
    omega
  · simp only [List.countP_append, List.countP_cons, makes, decide_true, if_true] at balance
    omega

/-- The buckets which have let a message through have numbers, after any step. -/
private theorem numbered_step {front back : List Call} {call next : Call} {event : Event}
    {after : Shared}
    (accounted : Accounted maxSources history shared (front ++ call :: back))
    (numbered : ∀ source, ∀ bucket ∈ grants source history,
      bucket ≠ 0 ∧ bucket ≤ creations source history)
    (step : Call.Step profile shared call event after next) :
    ∀ source, ∀ bucket ∈ grants source (history ++ [event]),
      bucket ≠ 0 ∧ bucket ≤ creations source (history ++ [event]) := by
  intro source bucket member
  have more : creations source history ≤ creations source (history ++ [event]) := by
    rw [creations, creations, List.countP_append]
    exact Nat.le_add_right _ _
  rw [grants, filterMap_snoc, ← grants] at member
  rcases List.mem_append.mp member with earlier | isNew
  · exact (numbered source bucket earlier).imp_right (·.trans more)
  · obtain rfl := grantedBy_eq_some.mp (Option.mem_toList.mp isNew)
    have made := accounted.made source
    cases step with
    | work held => exact ⟨made_pos accounted (.inl (mem_keys held)), made ▸ more⟩
    | workNew => exact ⟨made_pos accounted (.inr rfl), made ▸ more⟩

/-- It is known at first. -/
private theorem Invariant.new :
    Invariant profile rate burst maxSources [] (.new rate burst maxSources) [] where
  fits := .new
  placed := ⟨rfl, by simp, by simp, Nat.zero_le _⟩
  like := by
    refine ⟨rfl, rfl, fun _ _ _ => rfl, fun _ _ => ⟨0, _, .initial rfl⟩, ?_⟩
    rintro source tracked (found | ⟨progress, member⟩)
    · cases found
    · cases member
  accounted := by
    refine ⟨fun _ => rfl, fun _ => rfl, ?_, by simp, fun _ _ => rfl⟩
    exact fun source isTracked => absurd (Finmap.mem_keys.mp isTracked) Finmap.notMem_empty
  numbered := by simp [grants]

/-- A call which arrives changes nothing. -/
private theorem Invariant.start
    (invariant : Invariant profile rate burst maxSources history shared tasks) (source : String) :
    Invariant profile rate burst maxSources history shared (tasks ++ [.arriving source]) where
  fits := by simpa [Call.hold] using invariant.fits.start
  placed := by
    obtain ⟨settings, held, absent, bounded⟩ := invariant.placed
    refine ⟨settings, ?_, ?_, by simpa [Call.makes] using bounded⟩
    · exact List.forall_mem_append.mpr ⟨held, by simp [Call.uses]⟩
    · exact List.forall_mem_append.mpr ⟨absent, by simp [Call.makes]⟩
  like := by
    obtain ⟨sameRate, sameBurst, fresh, every, current⟩ := invariant.like
    refine ⟨sameRate, sameBurst, fresh, every, fun other tracked isBucket => ?_⟩
    have before : IsBucket shared tasks other tracked := by
      simpa [IsBucket] using isBucket
    have same : (tasks ++ [Call.arriving source]).filterMap (Call.progressOn other) =
        tasks.filterMap (Call.progressOn other) := by
      rw [filterMap_snoc]
      exact List.append_nil _
    rw [same]
    exact current other tracked before
  accounted := by
    obtain ⟨made, balance, seen, lacking, kept⟩ := invariant.accounted
    refine ⟨made, by simpa [Call.makes] using balance, seen, ?_, kept⟩
    exact List.forall_mem_append.mpr ⟨lacking, by simp [Call.lacks]⟩
  numbered := invariant.numbered

/-- Every run keeps all of it. -/
theorem Invariant.of_runs {trace : List (Tasks.Label Event)} {pool : Tasks.Pool Shared Call}
    (run : (contended profile rate burst maxSources).Runs trace pool) :
    Invariant profile rate burst maxSources (Tasks.events trace) pool.shared pool.tasks := by
  apply Tasks.pool_history (Invariant profile rate burst maxSources) .new ?starts ?steps run
  case starts =>
      rintro history shared tasks _ invariant ⟨source, rfl⟩
      exact invariant.start source
  case steps =>
      intro history shared front call back event after next invariant step
      exact ⟨step.fits invariant.fits, invariant.placed.step invariant.fits step,
        invariant.like.step invariant.placed invariant.fits step,
        invariant.accounted.step invariant.placed step,
        numbered_step invariant.accounted invariant.numbered step⟩

/-- What a bucket lets through. -/
theorem granted_bucket (invariant : Invariant profile rate burst maxSources history shared tasks)
    (source : String) (bucket : Nat) :
    1000 * (grants source history).count bucket ≤ saturate64 (burst * 1000) +
      1000 * (latest source history / TokenBucket.refillNanosOf rate) := by
  obtain ⟨start, state, run⟩ := invariant.like.every source bucket
  rw [count_grants]
  rcases Nat.lt_or_ge 1000000000 rate with fast | usable
  · rw [RateLimiter.grants_eq_zero fast run]
    exact Nat.zero_le _
  · have kept := RateLimiter.Callers.kept_of_runs usable run
    have balance := kept.balance
    have past := Nat.div_le_div_right (c := TokenBucket.refillNanosOf rate)
      (kept.past.trans (latest_bucketTrace source bucket history))
    rw [kept.capacity, kept.nanos] at balance
    omega

/-- At more than one message a nanosecond no bucket lets anything through. -/
theorem grants_of_fast (invariant : Invariant profile rate burst maxSources history shared tasks)
    (fast : 1000000000 < rate) (source : String) : grants source history = [] := by
  rw [List.eq_nil_iff_forall_not_mem]
  intro bucket member
  obtain ⟨start, state, run⟩ := invariant.like.every source bucket
  have none := RateLimiter.grants_eq_zero fast run
  rw [← count_grants] at none
  exact List.count_eq_zero.mp none member

/-- A source has one bucket at most, which is in the map or being made. -/
private theorem one_bucket
    (invariant : Invariant profile rate burst maxSources history shared tasks) (source : String) :
    (if source ∈ shared.throttle.buckets.keys then 1 else 0) +
      tasks.countP (·.makes = some source) ≤ 1 := by
  by_cases isTracked : source ∈ shared.throttle.buckets.keys
  · have none : tasks.countP (·.makes = some source) = 0 := by
      rw [List.countP_eq_zero]
      intro call member makes
      exact invariant.placed.absent call member source (of_decide_eq_true makes) isTracked
    rw [if_pos isTracked, none]
  · have writes : tasks.countP (·.makes = some source) ≤
        (tasks.map Call.hold).count (some .write) := by
      rw [List.count, List.countP_map]
      apply List.countP_mono_left
      intro call _ makes
      have isMade := of_decide_eq_true makes
      cases call with
      | creating => rfl
      | arriving | missing | holding | returned | panicked => cases isMade
    rw [invariant.fits.writer] at writes
    have atMost := Bool.toNat_le shared.lock.writer
    rw [if_neg isTracked]
    omega

/-- What a source gets, if each bucket made for it lets no more than some number through. -/
private theorem length_le_mul {buckets : List Nat} {last most : Nat}
    (numbered : ∀ bucket ∈ buckets, bucket ≠ 0 ∧ bucket ≤ last)
    (each : ∀ bucket, 1000 * buckets.count bucket ≤ most) :
    1000 * buckets.length ≤ last * most := by
  have inRange : buckets.toFinset ⊆ Finset.Icc 1 last := by
    intro bucket member
    obtain ⟨positive, atMost⟩ := numbered bucket (List.mem_toFinset.mp member)
    exact Finset.mem_Icc.mpr ⟨Nat.pos_of_ne_zero positive, atMost⟩
  have few := Finset.card_le_card inRange
  rw [Nat.card_Icc, Nat.add_sub_cancel] at few
  calc 1000 * buckets.length
      = ∑ bucket ∈ buckets.toFinset, 1000 * buckets.count bucket := by
        rw [← Finset.mul_sum, List.sum_toFinset_count_eq_length]
    _ ≤ buckets.toFinset.card • most := Finset.sum_le_card_nsmul _ _ _ fun bucket _ => each bucket
    _ ≤ last * most := Nat.mul_le_mul_right most few

/-- How a throttle limits sources. -/
structure LimitsEach (profile : Profile) (rate burst maxSources : Nat) (history : List Event)
    (shared : Shared) : Prop where
  /-- No more sources are tracked than may be. -/
  bounded : shared.throttle.sourceCount ≤ max 1 maxSources
  /-- What is done to each bucket is a run of a rate limiter. -/
  limiters : ∀ source bucket, ∃ start state,
    (RateLimiter.contended profile rate burst start).Runs (bucketTrace source bucket history) state
  /-- A source gets a new bucket only for one that was evicted or lost. -/
  remade : ∀ source,
    creations source history ≤ 1 + evictions source history + losses source history
  /-- With no more sources than may be tracked none is evicted. -/
  kept : (sources history).card ≤ maxSources → ∀ source, evictions source history = 0
  /-- A source gets a burst and what its rate brings for each of its buckets. -/
  granted : ∀ source, 1000 * (grants source history).length ≤
    creations source history * (saturate64 (burst * 1000) +
      1000 * (latest source history / TokenBucket.refillNanosOf rate))
  /-- A rate which leaves no time between refills brings nothing, and no burst either. -/
  unusable : 1000000000 < rate → ∀ source, grants source history = []

/-- However any number of concurrent calls of `process` interleave, a throttle never tracks
more sources than it may, two calls never make two buckets for a source at once, and each
bucket is a rate limiter for its source. -/
theorem throttle_limits_each (profile : Profile) (rate burst maxSources : Nat)
    {trace : List (Tasks.Label Event)} {pool : Tasks.Pool Shared Call}
    (run : (contended profile rate burst maxSources).Runs trace pool) :
    LimitsEach profile rate burst maxSources (Tasks.events trace) pool.shared := by
  have invariant := Invariant.of_runs run
  refine ⟨?_, invariant.like.every, fun source => ?_, invariant.accounted.kept,
    fun source => ?_, grants_of_fast invariant⟩
  · have bounded := invariant.placed.bounded
    omega
  · have balance := invariant.accounted.balance source
    have onlyOne := one_bucket invariant source
    omega
  · exact length_le_mul (invariant.numbered source) (granted_bucket invariant source)

/-- An empty map has nothing to see. -/
private def noEntries : HashMap.Iteration (∅ : HashMap String TrackedBucket) where
  entries := []
  nodup := List.nodup_nil
  mem_iff entry := by simp

/-- Two calls find no bucket for a source. One makes it and takes its only token; the other
finds it then, and gets none. -/
private theorem racing_run : ∃ trace pool, (contended .release 1 1 1).Runs trace pool ∧
    grants "a" (Tasks.events trace) = [1] ∧ creations "a" (Tasks.events trace) = 1 ∧
    pool.tasks = [.returned true, .returned false] := by
  have start : (contended .release 1 1 1).Runs [] ⟨.new 1 1 1, []⟩ := .initial rfl
  have first := start.snoc (.start ⟨"a", rfl⟩)
  have both := first.snoc (.start ⟨"a", rfl⟩)
  have missed := both.snoc (.did 0 rfl (.miss rfl rfl))
  have missedToo := missed.snoc (.did 1 rfl (.miss rfl rfl))
  have created := missedToo.snoc (.did 0 rfl (.create rfl rfl noEntries ⟨0, 0, 0, 0⟩))
  -- The first call takes the token, and the second one waits for the lock meanwhile.
  have early : RateLimiter.Call.step .release (.new 1 1 0) 0 false (.loadLast 0) =
      some (.new 1 1 0, .loadCurrent, .worked) := by decide +kernel
  have noted := created.snoc (.did 0 rfl (.accessNew 0))
  have read := noted.snoc (.did 0 rfl (.workNew 0 false rfl))
  have loaded := read.snoc (.did 0 rfl (.workNew 0 false early))
  have enough := loaded.snoc (.did 0 rfl (.workNew 0 false rfl))
  have taken := enough.snoc (.did 0 rfl (.workNew 0 false rfl))
  have inserted := taken.snoc (.did 0 rfl (.insert true))
  have found := inserted.snoc (.did 1 rfl (.findAgain (Finmap.lookup_insert _) rfl))
  -- Then it takes the lock, and is denied.
  have still : RateLimiter.Call.step .release { RateLimiter.new 1 1 0 with tokens := 0 } 0 false
      (.loadLast 0) = some ({ RateLimiter.new 1 1 0 with tokens := 0 }, .loadCurrent, .worked) := by
    decide +kernel
  have notedToo := found.snoc (.did 1 rfl (.access (Finmap.lookup_insert _) 0))
  have readToo := notedToo.snoc (.did 1 rfl (.work (Finmap.lookup_insert _) 0 false rfl))
  have loadedToo := readToo.snoc (.did 1 rfl (.work (Finmap.lookup_insert _) 0 false still))
  have denied := loadedToo.snoc (.did 1 rfl (.work (Finmap.lookup_insert _) 0 false rfl))
  have finished := denied.snoc (.did 1 rfl (.finish false))
  exact ⟨_, _, finished, rfl, rfl, rfl⟩

/-- So that source gets its one token, from the one bucket which was made for it. -/
theorem throttle_limits_each_racing : ∃ history shared,
    LimitsEach .release 1 1 1 history shared ∧ grants "a" history = [1] ∧
      creations "a" history = 1 := by
  obtain ⟨trace, pool, run, granted, created, -⟩ := racing_run
  exact ⟨_, _, throttle_limits_each .release 1 1 1 run, granted, created⟩

end Polku.Throttle
