import Polku.Middleware.ThrottleContention

/-!
# Each bucket of a throttle is a rate limiter

What the calls of `Throttle::process` do to one bucket, from when it is made to when it is
evicted, is a run of a rate limiter which these calls share. So what holds of every contended
rate limiter holds of every bucket, and a source gets no more than its buckets give.
-/

namespace Polku.Throttle

open Semantics Data

/-- What a step does to a bucket of a source. -/
def Event.onBucket (source : String) (bucket : Nat) : Event → Option RateLimiter.Event
  | .accessed other made => if other = source ∧ made = bucket then some .called else none
  | .worked other made event => if other = source ∧ made = bucket then some event else none
  | _ => none

/-- What has been done to a bucket of a source. -/
def bucketTrace (source : String) (bucket : Nat) (history : List Event) :
    List RateLimiter.Event :=
  history.filterMap (Event.onBucket source bucket)

/-- What has been done to a bucket after one more step. -/
theorem bucketTrace_snoc (source : String) (bucket : Nat) (history : List Event) (event : Event) :
    bucketTrace source bucket (history ++ [event]) =
      bucketTrace source bucket history ++ (event.onBucket source bucket).toList :=
  filterMap_snoc _ history event

/-- Where a call stands on the bucket of a source. -/
def Call.progressOn (source : String) : Call → Option RateLimiter.Call
  | .holding _ other progress => if other = source then progress else none
  | .creating other _ progress => if other = source then progress else none
  | _ => none

/-- The bucket of a source is in the map, or a call is making it. -/
def IsBucket (shared : Shared) (tasks : List Call) (source : String) (tracked : TrackedBucket) :
    Prop :=
  shared.throttle.buckets.lookup source = some tracked ∨
    ∃ progress, .creating source tracked progress ∈ tasks

/-- Each bucket has been used as a limiter may be, and the one a source has now stands as a
limiter does with the calls on it, and with others that are done. -/
structure LikeLimiters (profile : Profile) (rate burst : Nat) (history : List Event)
    (shared : Shared) (tasks : List Call) : Prop where
  sameRate : shared.throttle.rate = rate
  sameBurst : shared.throttle.burst = burst
  fresh : ∀ source bucket, shared.made source < bucket → bucketTrace source bucket history = []
  every : ∀ source bucket, ∃ start state,
    (RateLimiter.contended profile rate burst start).Runs (bucketTrace source bucket history) state
  current : ∀ source tracked, IsBucket shared tasks source tracked → ∃ start calls done,
    (RateLimiter.contended profile rate burst start).Runs
        (bucketTrace source (shared.made source) history) ⟨tracked.bucket, calls⟩ ∧
      calls.Perm (tasks.filterMap (Call.progressOn source) ++ done)

variable {profile : Profile} {rate burst : Nat} {history : List Event} {shared after : Shared}
  {call next : Call} {event : Event} {front back : List Call}

/-- A call on a limiter begins. -/
theorem exists_called (limiter : RateLimiter) (calls : List RateLimiter.Call)
    {rest : List RateLimiter.Call} (same : calls.Perm rest) :
    ∃ calls', RateLimiter.Callers.Step profile ⟨limiter, calls⟩ .called ⟨limiter, calls'⟩ ∧
      calls'.Perm (.readClock :: rest) :=
  ⟨_, .call limiter calls, (List.perm_append_singleton _ _).trans (same.cons _)⟩

/-- One of the calls on a limiter takes a step. -/
theorem exists_worked {limiter limiter' : RateLimiter} {call next : RateLimiter.Call}
    {event : RateLimiter.Event} {now : UInt64} {spurious : Bool}
    (moves : call.step profile limiter now spurious = some (limiter', next, event))
    {calls rest : List RateLimiter.Call} (same : calls.Perm (call :: rest)) :
    ∃ calls', RateLimiter.Callers.Step profile ⟨limiter, calls⟩ event ⟨limiter', calls'⟩ ∧
      calls'.Perm (next :: rest) := by
  obtain ⟨front, back, rfl⟩ := List.append_of_mem (same.symm.subset List.mem_cons_self)
  refine ⟨_, .advance front back now spurious moves, ?_⟩
  have others : (front ++ back).Perm rest := (List.perm_middle.symm.trans same).cons_inv
  exact List.perm_middle.trans (others.cons next)

/-- What stands on a bucket, with one call set apart. -/
theorem progress_split (source : String) (front back : List Call) (call : Call)
    (done : List RateLimiter.Call) :
    ((front ++ call :: back).filterMap (Call.progressOn source) ++ done).Perm
      ((call.progressOn source).toList ++
        ((front ++ back).filterMap (Call.progressOn source) ++ done)) := by
  rw [List.filterMap_append, List.filterMap_append, List.filterMap_cons, List.append_assoc]
  cases stands : call.progressOn source with
  | none => simp
  | some progress =>
      simp only [List.cons_append, Option.toList_some, List.nil_append, List.append_assoc]
      exact List.perm_middle

/-- A step which does nothing to a bucket, and after which there are no other buckets, keeps
all this. A call may be done with its bucket. -/
private theorem LikeLimiters.quiet
    (like : LikeLimiters profile rate burst history shared (front ++ call :: back))
    (sameRate : after.throttle.rate = shared.throttle.rate)
    (sameBurst : after.throttle.burst = shared.throttle.burst)
    (made : after.made = shared.made) (noUse : ∀ source bucket, event.onBucket source bucket = none)
    (buckets : ∀ source tracked, IsBucket after (front ++ next :: back) source tracked →
      IsBucket shared (front ++ call :: back) source tracked)
    (progress : ∀ source, next.progressOn source = none ∨
      next.progressOn source = call.progressOn source) :
    LikeLimiters profile rate burst (history ++ [event]) after (front ++ next :: back) := by
  have same : ∀ source bucket, bucketTrace source bucket (history ++ [event]) =
      bucketTrace source bucket history := by
    intro source bucket
    rw [bucketTrace_snoc, noUse]
    exact List.append_nil _
  refine ⟨sameRate.trans like.sameRate, sameBurst.trans like.sameBurst, ?_, ?_, ?_⟩
  · intro source bucket later
    rw [same]
    exact like.fresh source bucket (made ▸ later)
  · intro source bucket
    rw [same]
    exact like.every source bucket
  · intro source tracked isBucket
    obtain ⟨start, calls, done, run, stand⟩ := like.current source tracked (buckets _ _ isBucket)
    rw [same, made]
    rcases progress source with none | still
    · refine ⟨start, calls, (call.progressOn source).toList ++ done, run, ?_⟩
      have before := stand.trans (progress_split source front back call done)
      have now := progress_split source front back next
        ((call.progressOn source).toList ++ done)
      rw [none, Option.toList_none, List.nil_append] at now
      refine before.trans (.trans ?_ now.symm)
      rw [← List.append_assoc, ← List.append_assoc]
      exact List.perm_append_comm.append_right done
    · refine ⟨start, calls, done, run, ?_⟩
      have before := stand.trans (progress_split source front back call done)
      rw [← still] at before
      exact before.trans (progress_split source front back next done).symm

/-- A step on the bucket of a source keeps it like a limiter. -/
private theorem LikeLimiters.use {source : String} {tracked tracked' : TrackedBucket}
    {done : RateLimiter.Event}
    (like : LikeLimiters profile rate burst history shared (front ++ call :: back))
    (sameRate : after.throttle.rate = shared.throttle.rate)
    (sameBurst : after.throttle.burst = shared.throttle.burst) (made : after.made = shared.made)
    (uses : ∀ other bucket, event.onBucket other bucket =
      if source = other ∧ shared.made source = bucket then some done else none)
    (isBucket : IsBucket shared (front ++ call :: back) source tracked)
    (buckets : ∀ other bucket, IsBucket after (front ++ next :: back) other bucket →
      other = source ∧ bucket = tracked' ∨
        other ≠ source ∧ IsBucket shared (front ++ call :: back) other bucket)
    (others : ∀ other ≠ source, next.progressOn other = call.progressOn other)
    (steps : ∀ calls rest, calls.Perm ((call.progressOn source).toList ++ rest) →
      ∃ calls', RateLimiter.Callers.Step profile ⟨tracked.bucket, calls⟩ done
          ⟨tracked'.bucket, calls'⟩ ∧
        calls'.Perm ((next.progressOn source).toList ++ rest)) :
    LikeLimiters profile rate burst (history ++ [event]) after (front ++ next :: back) := by
  obtain ⟨start, calls, left, run, stand⟩ := like.current source tracked isBucket
  obtain ⟨calls', step, stands⟩ := steps calls _
    (stand.trans (progress_split source front back call left))
  have now := run.snoc step
  have same : ∀ other bucket, ¬ (source = other ∧ shared.made source = bucket) →
      bucketTrace other bucket (history ++ [event]) = bucketTrace other bucket history := by
    intro other bucket different
    rw [bucketTrace_snoc, uses, if_neg different]
    exact List.append_nil _
  have used : bucketTrace source (shared.made source) (history ++ [event]) =
      bucketTrace source (shared.made source) history ++ [done] := by
    rw [bucketTrace_snoc, uses, if_pos ⟨rfl, rfl⟩]
    rfl
  refine ⟨sameRate.trans like.sameRate, sameBurst.trans like.sameBurst, ?_, ?_, ?_⟩
  · intro other bucket later
    rw [made] at later
    rw [same other bucket, like.fresh other bucket later]
    rintro ⟨rfl, rfl⟩
    exact Nat.lt_irrefl _ later
  · intro other bucket
    by_cases isUsed : source = other ∧ shared.made source = bucket
    · obtain ⟨rfl, rfl⟩ := isUsed
      rw [used]
      exact ⟨start, _, now⟩
    · rw [same other bucket isUsed]
      exact like.every other bucket
  · intro other bucket isBucketNow
    rw [made]
    rcases buckets other bucket isBucketNow with ⟨rfl, rfl⟩ | ⟨different, isBucket⟩
    · rw [used]
      exact ⟨start, calls', left, now,
        stands.trans (progress_split other front back next left).symm⟩
    · rw [same other _ fun isUsed => different isUsed.1.symm]
      obtain ⟨start, calls, left, run, stand⟩ := like.current other bucket isBucket
      refine ⟨start, calls, left, run, ?_⟩
      have before := stand.trans (progress_split other front back call left)
      rw [← others other different] at before
      exact before.trans (progress_split other front back next left).symm

/-- A call without the lock stands on no bucket. -/
theorem Call.progressOn_of_unheld (unheld : call.hold = none) (source : String) :
    call.progressOn source = none := by
  cases call with
  | holding | creating => cases unheld
  | arriving | missing | returned | panicked => rfl

/-- A call without the lock makes no bucket. -/
theorem Call.ne_creating_of_unheld (unheld : call.hold = none) {source : String}
    {tracked : TrackedBucket} {progress : Option RateLimiter.Call} :
    .creating source tracked progress ≠ call := by
  rintro rfl
  cases unheld

/-- A new bucket is like a new limiter. -/
private theorem LikeLimiters.create {source : String} {lock : RwLock}
    (like : LikeLimiters profile rate burst history shared (front ++ .missing source :: back))
    (absent : shared.throttle.buckets.lookup source = none)
    (unheld : ∀ other ∈ front ++ .missing source :: back, other.hold = none)
    (order : shared.throttle.buckets.Iteration) (times : ThrottleTimes) :
    LikeLimiters profile rate burst
      (history ++ [.created source (shared.throttle.victim order)])
      { throttle := { shared.throttle with buckets := shared.throttle.makeRoom order }
        lock := lock
        made := Function.update shared.made source (shared.made source + 1) }
      (front ++ .creating source (.new shared.throttle.rate shared.throttle.burst times) none :: back)
      := by
  have same : ∀ other bucket,
      bucketTrace other bucket (history ++ [.created source (shared.throttle.victim order)]) =
        bucketTrace other bucket history := by
    intro other bucket
    rw [bucketTrace_snoc]
    exact List.append_nil _
  have onlyOne : ∀ {other tracked progress}, .creating other tracked progress ∈
      front ++ .creating source (.new shared.throttle.rate shared.throttle.burst times) none :: back →
        other = source ∧ tracked = .new shared.throttle.rate shared.throttle.burst times := by
    intro other tracked progress member
    rcases List.mem_append.mp member with inFront | isRest
    · exact absurd rfl (Call.ne_creating_of_unheld (unheld _ (List.mem_append_left _ inFront)))
    · rcases List.mem_cons.mp isRest with isNew | inBack
      · cases isNew
        exact ⟨rfl, rfl⟩
      · exact absurd rfl (Call.ne_creating_of_unheld
          (unheld _ (List.mem_append_right _ (List.mem_cons_of_mem _ inBack))))
  have noProgress : ∀ other, (front ++
      .creating source (.new shared.throttle.rate shared.throttle.burst times) none :: back).filterMap
        (Call.progressOn other) = [] := by
    intro other
    rw [List.filterMap_eq_nil_iff]
    refine forall_mem_replace unheld (fun call none => Call.progressOn_of_unheld none other) ?_
    simp [Call.progressOn]
  refine ⟨like.sameRate, like.sameBurst, ?_, ?_, ?_⟩
  · intro other bucket later
    rw [same]
    apply like.fresh other bucket
    dsimp only at later
    by_cases isSource : other = source
    · subst isSource
      rw [Function.update_self] at later
      exact Nat.lt_of_succ_lt later
    · rwa [Function.update_of_ne isSource] at later
  · intro other bucket
    rw [same]
    exact like.every other bucket
  · intro other tracked isBucket
    rw [same, noProgress]
    dsimp only
    by_cases isSource : other = source
    · subst isSource
      have isNew : tracked = .new shared.throttle.rate shared.throttle.burst times := by
        rcases isBucket with held | ⟨progress, member⟩
        · rw [lookup_makeRoom held] at absent
          cases absent
        · exact (onlyOne member).2
      subst isNew
      rw [Function.update_self, like.fresh other _ (Nat.lt_succ_self _), like.sameRate,
        like.sameBurst]
      exact ⟨times.started, [], [], .initial rfl, .refl _⟩
    · rw [Function.update_of_ne isSource]
      have before : IsBucket shared (front ++ .missing source :: back) other tracked := by
        rcases isBucket with held | ⟨progress, member⟩
        · exact .inl (lookup_makeRoom held)
        · exact absurd (onlyOne member).1 isSource
      obtain ⟨start, calls, done, run, -⟩ := like.current other tracked before
      exact ⟨start, calls, calls, run, .refl _⟩

/-- Others make the buckets they made, whatever a call does which makes none. -/
private theorem creating_others {source : String} {tracked : TrackedBucket}
    (makes : ∀ tracked progress, .creating source tracked progress ≠ next)
    (making : ∃ progress, .creating source tracked progress ∈ front ++ next :: back) :
    ∃ progress, .creating source tracked progress ∈ front ++ call :: back := by
  obtain ⟨progress, member⟩ := making
  refine ⟨progress, ?_⟩
  rcases List.mem_append.mp member with inFront | isRest
  · exact List.mem_append_left _ inFront
  · rcases List.mem_cons.mp isRest with isNext | inBack
    · exact absurd isNext (makes tracked progress)
    · exact List.mem_append_right _ (List.mem_cons_of_mem _ inBack)

/-- What is in the map after a bucket was put into it. -/
private theorem lookup_put {source other : String} {tracked bucket : TrackedBucket}
    (found : (shared.put source tracked).throttle.buckets.lookup other = some bucket) :
    other = source ∧ bucket = tracked ∨
      other ≠ source ∧ shared.throttle.buckets.lookup other = some bucket := by
  rw [Shared.put] at found
  by_cases same : other = source
  · subst same
    rw [Finmap.lookup_insert] at found
    exact .inl ⟨rfl, (Option.some.inj found).symm⟩
  · rw [Finmap.lookup_insert_of_ne _ same] at found
    exact .inr ⟨same, found⟩

/-- The buckets beside a call which makes one. -/
private theorem Placed.isBucket_own {maxSources : Nat} {source other : String}
    {tracked tracked' bucket : TrackedBucket} {progress progress' : Option RateLimiter.Call}
    (placed : Placed maxSources shared (front ++ .creating source tracked progress :: back))
    (unheld : ∀ call ∈ front ++ back, call.hold = none)
    (isBucket : IsBucket shared (front ++ .creating source tracked' progress' :: back) other bucket) :
    other = source ∧ bucket = tracked' ∨ other ≠ source ∧
      IsBucket shared (front ++ .creating source tracked progress :: back) other bucket := by
  rcases isBucket with held | ⟨progress, member⟩
  · refine .inr ⟨?_, .inl held⟩
    rintro rfl
    exact placed.absent (.creating other tracked progress) (by simp) other rfl (mem_keys held)
  · rcases List.mem_append.mp member with inFront | isRest
    · exact absurd rfl (Call.ne_creating_of_unheld (unheld _ (List.mem_append_left _ inFront)))
    · rcases List.mem_cons.mp isRest with isOwn | inBack
      · cases isOwn
        exact .inl ⟨rfl, rfl⟩
      · exact absurd rfl (Call.ne_creating_of_unheld (unheld _ (List.mem_append_right _ inBack)))

/-- A step of a call on a bucket in the map. -/
private theorem LikeLimiters.holding {maxSources : Nat} {access : LockAccess} {source : String}
    {before now : Option RateLimiter.Call} {tracked tracked' : TrackedBucket}
    {done : RateLimiter.Event}
    (like : LikeLimiters profile rate burst history shared
      (front ++ .holding access source before :: back))
    (placed : Placed maxSources shared (front ++ .holding access source before :: back))
    (held : shared.throttle.buckets.lookup source = some tracked)
    (uses : ∀ other bucket, event.onBucket other bucket =
      if source = other ∧ shared.made source = bucket then some done else none)
    (steps : ∀ calls rest, calls.Perm (before.toList ++ rest) →
      ∃ calls', RateLimiter.Callers.Step profile ⟨tracked.bucket, calls⟩ done
          ⟨tracked'.bucket, calls'⟩ ∧ calls'.Perm (now.toList ++ rest)) :
    LikeLimiters profile rate burst (history ++ [event]) (shared.put source tracked')
      (front ++ .holding access source now :: back) := by
  refine @use _ _ _ _ _ _ _ _ _ _ _ _ tracked tracked' _ like rfl rfl rfl uses (.inl held) ?_ ?_ ?_
  · intro other bucket isBucket
    rcases isBucket with found | making
    · exact (lookup_put found).imp_right fun before => ⟨before.1, .inl before.2⟩
    · obtain ⟨progress, member⟩ :=
        @creating_others (.holding access source before) _ front back _ _ (by simp) making
      refine .inr ⟨?_, .inr ⟨progress, member⟩⟩
      rintro rfl
      exact placed.absent _ member other rfl (mem_keys held)
  · intro other different
    simp [Call.progressOn, Ne.symm different]
  · simpa [Call.progressOn] using steps

/-- A step of a call on a bucket which it has made. -/
private theorem LikeLimiters.creating {maxSources : Nat} {source : String}
    {before now : Option RateLimiter.Call} {tracked tracked' : TrackedBucket}
    {done : RateLimiter.Event}
    (like : LikeLimiters profile rate burst history shared
      (front ++ .creating source tracked before :: back))
    (placed : Placed maxSources shared (front ++ .creating source tracked before :: back))
    (unheld : ∀ other ∈ front ++ back, other.hold = none)
    (uses : ∀ other bucket, event.onBucket other bucket =
      if source = other ∧ shared.made source = bucket then some done else none)
    (steps : ∀ calls rest, calls.Perm (before.toList ++ rest) →
      ∃ calls', RateLimiter.Callers.Step profile ⟨tracked.bucket, calls⟩ done
          ⟨tracked'.bucket, calls'⟩ ∧ calls'.Perm (now.toList ++ rest)) :
    LikeLimiters profile rate burst (history ++ [event]) shared
      (front ++ .creating source tracked' now :: back) := by
  refine @use _ _ _ _ _ _ _ _ _ _ _ _ tracked tracked' _ like rfl rfl rfl uses
    (.inr ⟨before, by simp⟩) ?_ ?_ ?_
  · intro other bucket isBucket
    exact placed.isBucket_own unheld isBucket
  · intro other different
    simp [Call.progressOn, Ne.symm different]
  · simpa [Call.progressOn] using steps

/-- Every step keeps the buckets like limiters. -/
theorem LikeLimiters.step {maxSources : Nat}
    (like : LikeLimiters profile rate burst history shared (front ++ call :: back))
    (placed : Placed maxSources shared (front ++ call :: back))
    (fits : shared.lock.Fits ((front ++ call :: back).map Call.hold))
    (step : Call.Step profile shared call event after next) :
    LikeLimiters profile rate burst (history ++ [event]) after (front ++ next :: back) := by
  cases step with
  | find | findAgain =>
      refine like.quiet rfl rfl rfl (fun _ _ => rfl) (fun _ _ => ?_) fun source => .inl ?_
      · exact Or.imp_right (creating_others (by simp))
      · simp [Call.progressOn]
  | miss | finish | unwind | unwindNew =>
      refine like.quiet rfl rfl rfl (fun _ _ => rfl) (fun _ _ => ?_) fun source => .inl rfl
      exact Or.imp_right (creating_others (by simp))
  | @insert source tracked passed =>
      refine like.quiet rfl rfl rfl (fun _ _ => rfl) (fun other bucket isBucket => ?_)
        fun source => .inl rfl
      rcases isBucket with found | making
      · rcases lookup_put found with ⟨rfl, rfl⟩ | ⟨-, before⟩
        · exact .inr ⟨some (.returned passed), by simp⟩
        · exact .inl before
      · exact .inr (creating_others (by simp) making)
  | create absent taken order times => exact like.create absent (unheld fits taken) order times
  | access held accessed =>
      apply like.holding placed held (fun _ _ => rfl)
      intro calls rest same
      exact exists_called _ _ same
  | work held now spurious moves =>
      apply like.holding placed held (fun _ _ => rfl)
      intro calls rest same
      exact exists_worked moves same
  | accessNew accessed =>
      apply like.creating placed (alone fits rfl) (fun _ _ => rfl)
      intro calls rest same
      exact exists_called _ _ same
  | workNew now spurious moves =>
      apply like.creating placed (alone fits rfl) (fun _ _ => rfl)
      intro calls rest same
      exact exists_worked moves same

/-! ## What becomes of the buckets -/

/-- The source a step is about. -/
def Event.source : Event → String
  | .found source | .missed source | .created source _ | .accessed source _
  | .worked source _ _ | .finished source | .unwound source => source

/-- A bucket has been made for a source. -/
def Event.creates (source : String) : Event → Bool
  | .created other _ => other = source
  | _ => false

/-- The bucket of a source has been evicted. -/
def Event.evicts (source : String) : Event → Bool
  | .created _ evicted => evicted = some source
  | _ => false

/-- A new bucket of a source has been lost to a panic. -/
def Event.loses (source : String) : Event → Bool
  | .unwound other => other = source
  | _ => false

/-- The sources of which there were messages. -/
def sources (history : List Event) : Finset String := (history.map Event.source).toFinset

/-- How often a bucket was made for a source. -/
def creations (source : String) (history : List Event) : Nat :=
  history.countP (Event.creates source)

/-- How often a bucket of a source was evicted. -/
def evictions (source : String) (history : List Event) : Nat :=
  history.countP (Event.evicts source)

/-- How often a new bucket of a source was lost to a panic. -/
def losses (source : String) (history : List Event) : Nat :=
  history.countP (Event.loses source)

/-- The source for which a call has found no bucket. -/
def Call.lacks : Call → Option String
  | .missing source | .creating source _ _ => some source
  | _ => none

/-- What has become of the buckets which were made. -/
structure Accounted (maxSources : Nat) (history : List Event) (shared : Shared)
    (tasks : List Call) : Prop where
  made : ∀ source, shared.made source = creations source history
  balance : ∀ source, creations source history = evictions source history +
    losses source history + (if source ∈ shared.throttle.buckets.keys then 1 else 0) +
      tasks.countP (·.makes = some source)
  seen : shared.throttle.buckets.keys ⊆ sources history
  lacking : ∀ call ∈ tasks, ∀ source ∈ call.lacks, source ∈ sources history
  kept : (sources history).card ≤ maxSources → ∀ source, evictions source history = 0

variable {maxSources : Nat}

/-- The sources after one more step. -/
theorem sources_snoc (history : List Event) (event : Event) :
    sources (history ++ [event]) = insert event.source (sources history) := by
  ext source
  simp [sources]

/-- Sources which were seen stay so. -/
theorem sources_subset (history : List Event) (event : Event) :
    sources history ⊆ sources (history ++ [event]) := by
  rw [sources_snoc]
  exact Finset.subset_insert _ _

/-- What is lacking was seen, after a step of a call which lacks no other source. -/
private theorem Accounted.lacking_step
    (accounted : Accounted maxSources history shared (front ++ call :: back))
    (lacks : ∀ source ∈ next.lacks, source ∈ call.lacks ∨ source = event.source) :
    ∀ other ∈ front ++ next :: back, ∀ source ∈ other.lacks,
      source ∈ sources (history ++ [event]) := by
  have before := accounted.lacking
  refine forall_mem_replace before (fun other earlier source isLacking => ?_) ?_
  · exact sources_subset history event (earlier source isLacking)
  · intro source isLacking
    rcases lacks source isLacking with earlier | rfl
    · exact sources_subset history event (before call (by simp) source earlier)
    · rw [sources_snoc]
      exact Finset.mem_insert_self _ _

/-- A step which makes no bucket and loses none. -/
private theorem Accounted.idle
    (accounted : Accounted maxSources history shared (front ++ call :: back))
    (made : after.made = shared.made)
    (keys : after.throttle.buckets.keys = shared.throttle.buckets.keys)
    (nothing : ∀ source, event.creates source = false ∧ event.evicts source = false ∧
      event.loses source = false)
    (makes : next.makes = call.makes)
    (lacks : ∀ source ∈ next.lacks, source ∈ call.lacks ∨ source = event.source) :
    Accounted maxSources (history ++ [event]) after (front ++ next :: back) where
  made source := by
    simpa [made, creations, (nothing source).1] using accounted.made source
  balance source := by
    obtain ⟨noCreation, noEviction, noLoss⟩ := nothing source
    have before := accounted.balance source
    simp only [creations, evictions, losses, List.countP_append, List.countP_cons,
      List.countP_nil, noCreation, noEviction, noLoss, keys, makes] at before ⊢
    simpa using before
  seen := by
    rw [keys]
    exact accounted.seen.trans (sources_subset _ _)
  lacking := accounted.lacking_step lacks
  kept few source := by
    have fewer := (Finset.card_le_card (sources_subset history event)).trans few
    simpa [evictions, (nothing source).2.1] using accounted.kept fewer source

/-- A bucket is made. -/
private theorem Accounted.create {source : String} {lock : RwLock} {tracked : TrackedBucket}
    {progress : Option RateLimiter.Call}
    (accounted : Accounted maxSources history shared (front ++ .missing source :: back))
    (settings : shared.throttle.maxSources = maxSources)
    (absent : source ∉ shared.throttle.buckets.keys)
    (order : shared.throttle.buckets.Iteration) :
    Accounted maxSources (history ++ [.created source (shared.throttle.victim order)])
      { throttle := { shared.throttle with buckets := shared.throttle.makeRoom order }
        lock := lock
        made := Function.update shared.made source (shared.made source + 1) }
      (front ++ .creating source tracked progress :: back) where
  made other := by
    have before := accounted.made other
    dsimp only
    by_cases same : other = source
    · subst same
      simp [creations, Event.creates, before]
    · simp [creations, Event.creates, before, same, Ne.symm same]
  balance other := by
    have before := accounted.balance other
    have isMade : (Call.creating source tracked progress).makes = some source := rfl
    have noneMade : (Call.missing source).makes = none := rfl
    simp only [creations, evictions, losses, List.countP_append, List.countP_cons,
      List.countP_nil, Event.creates, Event.evicts, Event.loses, isMade, noneMade,
      makeRoom_eq] at before ⊢
    cases isVictim : shared.throttle.victim order with
    | none =>
        by_cases isTracked : other ∈ shared.throttle.buckets.keys <;>
          by_cases same : source = other <;> simp [isTracked, same] at before ⊢ <;> omega
    | some evicted =>
        have isTracked := victim_tracked isVictim
        have different : source ≠ evicted := by
          rintro rfl
          exact absent isTracked
        simp only [Option.elim_some, Finmap.keys_erase, Finset.mem_erase]
        by_cases gone : other = evicted
        · subst gone
          simp [different, isTracked] at before ⊢
          omega
        · by_cases isTracked : other ∈ shared.throttle.buckets.keys <;>
            by_cases same : source = other <;>
              simp [isTracked, same, gone, Ne.symm gone] at before ⊢ <;> omega
  seen := by
    intro other isTracked
    obtain ⟨bucket, held⟩ := Finmap.mem_iff.mp (Finmap.mem_keys.mp isTracked)
    exact sources_subset _ _ (accounted.seen (mem_keys (lookup_makeRoom held)))
  lacking := by
    apply accounted.lacking_step
    rintro _ ⟨⟩
    exact .inl rfl
  kept few other := by
    have fewer := (Finset.card_le_card (sources_subset history _)).trans few
    have isSeen := accounted.lacking (.missing source) (by simp) source rfl
    have grows := Finset.card_le_card (Finset.insert_subset isSeen accounted.seen)
    rw [Finset.card_insert_of_notMem absent] at grows
    have roomy : shared.throttle.victim order = none := by
      rw [victim, if_neg]
      rw [settings, sourceCount]
      omega
    have before := accounted.kept fewer other
    rw [evictions] at before ⊢
    simp [roomy, Event.evicts, before]

/-- A bucket which was made is put into the map. -/
private theorem Accounted.insert {source : String} {lock : RwLock} {tracked : TrackedBucket}
    {progress : Option RateLimiter.Call}
    (accounted : Accounted maxSources history shared
      (front ++ .creating source tracked progress :: back))
    (absent : source ∉ shared.throttle.buckets.keys) (makes : next.makes = none)
    (lacks : next.lacks = none) :
    Accounted maxSources (history ++ [.finished source])
      { shared.put source tracked with lock := lock } (front ++ next :: back) where
  made other := by simpa [creations, Event.creates, Shared.put] using accounted.made other
  balance other := by
    have before := accounted.balance other
    have isMade : (Call.creating source tracked progress).makes = some source := rfl
    have keys : (shared.put source tracked).throttle.buckets.keys =
        Insert.insert source shared.throttle.buckets.keys := keys_insert _ _ _
    simp only [creations, evictions, losses, List.countP_append, List.countP_cons,
      List.countP_nil, Event.creates, Event.evicts, Event.loses, isMade, makes, keys,
      Finset.mem_insert] at before ⊢
    by_cases same : source = other
    · subst same
      simp [absent] at before ⊢
      omega
    · simp [same, Ne.symm same] at before ⊢
      omega
  seen := by
    have keys : (shared.put source tracked).throttle.buckets.keys =
        Insert.insert source shared.throttle.buckets.keys := keys_insert _ _ _
    have isSeen := accounted.lacking (.creating source tracked progress) (by simp) source rfl
    change (shared.put source tracked).throttle.buckets.keys ⊆ _
    rw [keys]
    exact (Finset.insert_subset isSeen accounted.seen).trans (sources_subset _ _)
  lacking := by
    apply accounted.lacking_step
    simp [lacks]
  kept few other := by
    have fewer := (Finset.card_le_card (sources_subset history _)).trans few
    simpa [evictions, Event.evicts] using accounted.kept fewer other

/-- A bucket which was made is lost. -/
private theorem Accounted.lose {source : String} {lock : RwLock} {tracked : TrackedBucket}
    {progress : Option RateLimiter.Call}
    (accounted : Accounted maxSources history shared
      (front ++ .creating source tracked progress :: back))
    (makes : next.makes = none) (lacks : next.lacks = none) :
    Accounted maxSources (history ++ [.unwound source]) { shared with lock := lock }
      (front ++ next :: back) where
  made other := by simpa [creations, Event.creates] using accounted.made other
  balance other := by
    have before := accounted.balance other
    have isMade : (Call.creating source tracked progress).makes = some source := rfl
    simp only [creations, evictions, losses, List.countP_append, List.countP_cons,
      List.countP_nil, Event.creates, Event.evicts, Event.loses, isMade, makes] at before ⊢
    by_cases same : source = other
    · simp [same] at before ⊢
      omega
    · simp [same] at before ⊢
      omega
  seen := accounted.seen.trans (sources_subset _ _)
  lacking := by
    apply accounted.lacking_step
    simp [lacks]
  kept few other := by
    have fewer := (Finset.card_le_card (sources_subset history _)).trans few
    simpa [evictions, Event.evicts] using accounted.kept fewer other

/-- Every step keeps the account. -/
theorem Accounted.step
    (accounted : Accounted maxSources history shared (front ++ call :: back))
    (placed : Placed maxSources shared (front ++ call :: back))
    (step : Call.Step profile shared call event after next) :
    Accounted maxSources (history ++ [event]) after (front ++ next :: back) := by
  have keysPut : ∀ {source : String} {tracked : TrackedBucket} (other : TrackedBucket),
      shared.throttle.buckets.lookup source = some tracked →
        (shared.put source other).throttle.buckets.keys = shared.throttle.buckets.keys := by
    intro source tracked other held
    rw [Shared.put, keys_insert, Finset.insert_eq_of_mem (mem_keys held)]
  cases step with
  | find | findAgain | finish | unwind =>
      exact accounted.idle rfl rfl (fun _ => ⟨rfl, rfl, rfl⟩) rfl (by simp [Call.lacks])
  | miss =>
      refine accounted.idle rfl rfl (fun _ => ⟨rfl, rfl, rfl⟩) rfl ?_
      rintro _ ⟨⟩
      exact .inr rfl
  | create absent taken order times =>
      exact accounted.create placed.settings (notMem_keys absent) order
  | access held accessed =>
      exact accounted.idle rfl (keysPut _ held) (fun _ => ⟨rfl, rfl, rfl⟩) rfl (by simp [Call.lacks])
  | work held now spurious moves =>
      exact accounted.idle rfl (keysPut _ held) (fun _ => ⟨rfl, rfl, rfl⟩) rfl (by simp [Call.lacks])
  | accessNew | workNew =>
      refine accounted.idle rfl rfl (fun _ => ⟨rfl, rfl, rfl⟩) rfl ?_
      rintro _ ⟨⟩
      exact .inl rfl
  | @insert source tracked passed =>
      exact accounted.insert
        (placed.absent (.creating source tracked (some (.returned passed))) (by simp) source rfl)
        rfl rfl
  | unwindNew => exact accounted.lose rfl rfl

end Polku.Throttle
