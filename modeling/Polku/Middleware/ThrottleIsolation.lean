import Polku.Middleware.RateLimiter
import Polku.Middleware.Throttle

/-!
# Throttled sources are isolated

As long as there is a bucket for every source, a throttle answers the messages of each
source as a rate limiter would which sees no others.
-/

namespace Polku

open Data

/-- A message, with what its call reads from the clock and the order in which it would see
the buckets. -/
structure ThrottleCall where
  times : ThrottleTimes
  order : (buckets : HashMap String TrackedBucket) → buckets.Iteration
  msg : Message

namespace Throttle

/-- Process messages one after another: what becomes of each, and the throttle after
them. -/
def processEach (self : Throttle) :
    List ThrottleCall → Option (List (Option Message) × Throttle)
  | [] => some ([], self)
  | call :: calls => do
      let (result, self) ← self.process call.times (call.order self.buckets) call.msg
      let (results, self) ← self.processEach calls
      some (result :: results, self)

end Throttle

namespace RateLimiter

/-- Process messages one after another, each at the time it reads: what becomes of each,
and the limiter after them. -/
def processEach (profile : Profile) (self : RateLimiter) :
    List (Nat × Message) → Option (List (Option Message) × RateLimiter)
  | [] => some ([], self)
  | (now, msg) :: calls => do
      let (result, self) ← self.process profile now msg
      let (results, self) ← processEach profile self calls
      some (result :: results, self)

/-- What becomes of the messages which only one source sends: they meet a limiter, which
the first of them creates if there is none. -/
def resume (rate burst : Nat) (limiter : Option RateLimiter)
    (own : List (ThrottleTimes × Message)) : Option (List (Option Message)) :=
  match own with
  | [] => some []
  | (times, _) :: _ => ((limiter.getD (new rate burst times.started)).processEach .release
      (own.map fun (times, msg) => (times.refilled, msg))).map Prod.fst

/-- What becomes of the messages of a source alone. -/
def alone (rate burst : Nat) (own : List (ThrottleTimes × Message)) :
    Option (List (Option Message)) :=
  resume rate burst none own

/-- A source which has been answered goes on with the limiter it has. -/
theorem resume_some (rate burst : Nat) (limiter : RateLimiter)
    (own : List (ThrottleTimes × Message)) :
    resume rate burst (some limiter) own = (limiter.processEach .release
      (own.map fun (times, msg) => (times.refilled, msg))).map Prod.fst := by
  cases own <;> rfl

/-- The first message of a source is answered by its limiter, and the others go on with
what that leaves. -/
theorem resume_cons (rate burst : Nat) (limiter : Option RateLimiter) (times : ThrottleTimes)
    (msg : Message) (own : List (ThrottleTimes × Message)) :
    resume rate burst limiter ((times, msg) :: own) =
      ((limiter.getD (new rate burst times.started)).process .release times.refilled msg).bind
        fun (result, next) => (resume rate burst (some next) own).map (result :: ·) := by
  simp only [resume_some]
  rw [resume, List.map_cons, processEach]
  cases (limiter.getD (new rate burst times.started)).process .release times.refilled msg with
  | none => rfl
  | some answer =>
      simp only [Option.bind_eq_bind, Option.bind_some]
      cases answer.2.processEach .release
        (own.map fun (times, msg) => (times.refilled, msg)) <;> rfl

end RateLimiter

namespace Throttle

/-- The limiter of a source, as far as it is tracked. -/
def limiter (self : Throttle) (source : String) : Option RateLimiter :=
  (self.buckets.lookup source).map TrackedBucket.bucket

/-- The messages of a source, with the readings of their calls. -/
def own (source : String) (calls : List ThrottleCall) : List (ThrottleTimes × Message) :=
  (calls.filter (·.msg.source = source)).map fun call => (call.times, call.msg)

/-- The answers to the messages of a source. -/
def decisions (source : String) (calls : List ThrottleCall) (answers : List (Option Message)) :
    List (Option Message) :=
  ((calls.zip answers).filter (·.1.msg.source = source)).map Prod.snd

/-- There is a bucket for each source which is tracked or still sends. -/
def Roomy (self : Throttle) (calls : List ThrottleCall) : Prop :=
  (self.buckets.keys ∪ (calls.map (·.msg.source)).toFinset).card ≤ self.maxSources

/-- The bucket of a message's source, which is created if need be. -/
def bucketFor (self : Throttle) (call : ThrottleCall) : TrackedBucket :=
  (self.buckets.lookup call.msg.source).getD (.new self.rate self.burst call.times)

/-- The limiter in it. -/
def limiterFor (self : Throttle) (call : ThrottleCall) : RateLimiter :=
  (self.limiter call.msg.source).getD (.new self.rate self.burst call.times.started)

/-- The throttle after a message whose source is left with a limiter. -/
def track (self : Throttle) (call : ThrottleCall) (next : RateLimiter) : Throttle :=
  { self with
    buckets := self.buckets.insert call.msg.source
      ⟨next, elapsedNanos (self.bucketFor call).created call.times.accessed,
        (self.bucketFor call).created⟩ }

variable {self : Throttle} {call : ThrottleCall} {calls : List ThrottleCall}

/-- The limiter in the bucket of a message's source. -/
theorem bucketFor_bucket (self : Throttle) (call : ThrottleCall) :
    (self.bucketFor call).bucket = self.limiterFor call := by
  rw [bucketFor, limiterFor, limiter]
  cases self.buckets.lookup call.msg.source <;> rfl

/-- After a message its source has the limiter it is left with, and every other source the
one it had. -/
theorem limiter_track (self : Throttle) (call : ThrottleCall) (next : RateLimiter)
    (source : String) :
    (self.track call next).limiter source =
      if call.msg.source = source then some next else self.limiter source := by
  split
  case isTrue same =>
      subst same
      simp [limiter, track]
  case isFalse other => simp [limiter, track, Finmap.lookup_insert_of_ne _ (Ne.symm other)]

/-- A source which is about to send has room, or is tracked. -/
theorem Roomy.makeRoom_eq (roomy : self.Roomy (call :: calls)) (order : self.buckets.Iteration)
    (absent : self.buckets.lookup call.msg.source = none) : self.makeRoom order = self.buckets := by
  have untracked : call.msg.source ∉ self.buckets.keys := fun member =>
    Finmap.lookup_eq_none.mp absent (Finmap.mem_keys.mp member)
  have grows : insert call.msg.source self.buckets.keys ⊆
      self.buckets.keys ∪ ((call :: calls).map (·.msg.source)).toFinset := by
    intro source member
    rcases Finset.mem_insert.mp member with rfl | held
    · simp
    · exact Finset.mem_union_left _ held
  have fits := (Finset.card_le_card grows).trans roomy
  rw [Finset.card_insert_of_notMem untracked] at fits
  exact if_neg (Nat.not_le.mpr fits)

/-- A message leaves room for those after it. -/
theorem Roomy.track (roomy : self.Roomy (call :: calls)) (next : RateLimiter) :
    (self.track call next).Roomy calls := by
  refine (Finset.card_le_card fun source member => ?_).trans roomy
  simp only [Throttle.track, Finset.mem_union, Finmap.mem_keys, Finmap.mem_insert,
    List.map_cons, List.toFinset_cons, Finset.mem_insert] at member ⊢
  tauto

/-- With room for its source, a message is answered by the limiter of its source, and is
tracked. -/
theorem process_spec (roomy : self.Roomy (call :: calls)) :
    self.process call.times (call.order self.buckets) call.msg =
      ((self.limiterFor call).process .release call.times.refilled call.msg).map
        fun (result, next) => (result, self.track call next) := by
  rw [← bucketFor_bucket]
  unfold process getOrCreateBucket RateLimiter.process RateLimiter.tryAcquire track
  cases held : self.buckets.lookup call.msg.source with
  | none => simp [bucketFor, held, roomy.makeRoom_eq _ held, TrackedBucket.tryAcquire,
      TokenBucket.tryAcquireIn_release, Option.map_map, Function.comp_def]
  | some tracked => simp [bucketFor, held, TrackedBucket.tryAcquire,
      TokenBucket.tryAcquireIn_release, Option.map_map, Function.comp_def]

/-! ### Whole sequences of messages -/

/-- The first of some messages, and the others. -/
theorem processEach_cons (roomy : self.Roomy (call :: calls)) :
    self.processEach (call :: calls) =
      ((self.limiterFor call).process .release call.times.refilled call.msg).bind
        fun (result, next) => ((self.track call next).processEach calls).map
          fun (results, after) => (result :: results, after) := by
  rw [processEach, process_spec roomy]
  cases RateLimiter.process .release (self.limiterFor call) call.times.refilled call.msg with
  | none => rfl
  | some answer =>
      simp only [Option.bind_eq_bind, Option.bind_some, Option.map_eq_bind]
      rfl

/-- The first message of a source is its own, and no other's. -/
theorem own_cons (source : String) (call : ThrottleCall) (calls : List ThrottleCall) :
    own source (call :: calls) = if call.msg.source = source
      then (call.times, call.msg) :: own source calls else own source calls := by
  unfold own
  by_cases same : call.msg.source = source <;> simp [same]

theorem decisions_cons (source : String) (call : ThrottleCall) (calls : List ThrottleCall)
    (answer : Option Message) (answers : List (Option Message)) :
    decisions source (call :: calls) (answer :: answers) = if call.msg.source = source
      then answer :: decisions source calls answers else decisions source calls answers := by
  unfold decisions
  by_cases same : call.msg.source = source <;> simp [same]

/-- With room for every source, the messages are all answered if those of each source can
be, and then as the limiter of their source answers them. -/
theorem processEach_spec (calls : List ThrottleCall) (self : Throttle)
    (roomy : self.Roomy calls) :
    ((self.processEach calls).isSome = true ↔ ∀ source, (RateLimiter.resume self.rate self.burst
      (self.limiter source) (own source calls)).isSome = true) ∧
    ∀ answers after, self.processEach calls = some (answers, after) → ∀ source,
      RateLimiter.resume self.rate self.burst (self.limiter source) (own source calls) =
        some (decisions source calls answers) := by
  induction calls generalizing self with
  | nil =>
      refine ⟨by simp [processEach, own, RateLimiter.resume], fun answers after done source => ?_⟩
      obtain ⟨rfl, rfl⟩ := Prod.mk.inj (Option.some.inj done)
      rfl
  | cons call calls inductionHypothesis =>
      rw [processEach_cons roomy]
      have first : ∀ source, RateLimiter.resume self.rate self.burst (self.limiter source)
          (own source (call :: calls)) = if call.msg.source = source
            then ((self.limiterFor call).process .release call.times.refilled call.msg).bind
              fun (result, next) => (RateLimiter.resume self.rate self.burst (some next)
                (own source calls)).map (result :: ·)
            else RateLimiter.resume self.rate self.burst (self.limiter source)
              (own source calls) := by
        intro source
        rw [own_cons]
        split
        case isTrue same => rw [RateLimiter.resume_cons, limiterFor, same]
        case isFalse => rfl
      simp only [first]
      cases answer : (self.limiterFor call).process .release call.times.refilled call.msg with
      | none =>
          refine ⟨⟨fun some => by simp at some, fun all => ?_⟩, fun answers after done => ?_⟩
          · simpa using all call.msg.source
          · simp at done
      | some result =>
          obtain ⟨result, next⟩ := result
          obtain ⟨goes, same⟩ := inductionHypothesis (self.track call next) (roomy.track next)
          simp only [limiter_track] at goes same
          simp only [Option.bind_some, Option.isSome_map]
          refine ⟨goes.trans (forall_congr' fun source => ?_), fun answers after done source => ?_⟩
          · split <;> simp [track]
          · obtain ⟨⟨others, last⟩, rest, whole⟩ := Option.map_eq_some_iff.mp done
            obtain ⟨rfl, rfl⟩ := Prod.mk.inj whole
            have others := same others last rest source
            rw [decisions_cons]
            split
            case isTrue mine =>
                rw [if_pos mine] at others
                exact congrArg (Option.map (result :: ·)) others
            case isFalse notMine => rwa [if_neg notMine] at others

/-- A throttle which tracks nobody has room for the sources of messages from few. -/
theorem roomy_new (rate burst : Nat) {maxSources : Nat}
    (few : (calls.map (·.msg.source)).toFinset.card ≤ maxSources) :
    ((new rate burst).withMaxSources maxSources).Roomy calls := by
  simpa [Roomy, new, withMaxSources] using few

end Throttle

/-- With a bucket for every source, a throttle answers the messages of each source as a rate
limiter of its own does; so it answers them alike whatever the other sources send. -/
theorem Throttle.isolates (rate burst maxSources : Nat) (calls : List ThrottleCall)
    (few : (calls.map (·.msg.source)).toFinset.card ≤ maxSources) :
    let self := (new rate burst).withMaxSources maxSources
    ((self.processEach calls).isSome = true ↔
      ∀ source, (RateLimiter.alone rate burst (own source calls)).isSome = true) ∧
    ∀ answers after, self.processEach calls = some (answers, after) → ∀ source,
      RateLimiter.alone rate burst (own source calls) = some (decisions source calls answers) ∧
      ∀ others othersAnswers othersAfter,
        (others.map (·.msg.source)).toFinset.card ≤ maxSources →
        self.processEach others = some (othersAnswers, othersAfter) →
        own source others = own source calls →
          decisions source others othersAnswers = decisions source calls answers := by
  intro self
  have spec : ∀ calls : List ThrottleCall,
      (calls.map (·.msg.source)).toFinset.card ≤ maxSources → _ := fun calls few =>
    processEach_spec calls self (roomy_new rate burst few)
  refine ⟨(spec calls few).1, fun answers after done source => ?_⟩
  have here := (spec calls few).2 answers after done source
  refine ⟨here, fun others othersAnswers othersAfter othersFew othersDone same => ?_⟩
  have there := (spec others othersFew).2 othersAnswers othersAfter othersDone source
  rw [same] at there
  exact Option.some.inj (there.symm.trans here)

/-- A source which has sent more than its burst takes nothing from another. -/
theorem Throttle.isolates_burst :
    let message source := Message.withId "" 0 source "" []
    let call time source : ThrottleCall :=
      ⟨⟨time, time, time, time⟩, fun buckets => (HashMap.Iteration.nonempty buckets).some,
        message source⟩
    let calls := [call 0 "loud", call 1 "loud", call 2 "quiet"]
    ∃ answers after, ((new 1 1).withMaxSources 2).processEach calls = some (answers, after) ∧
      decisions "loud" calls answers = [some (message "loud"), none] ∧
        decisions "quiet" calls answers = [some (message "quiet")] := by
  intro message call calls
  have few : (calls.map (·.msg.source)).toFinset.card ≤ 2 := by decide
  have isolated := isolates 1 1 2 calls few
  have loud : RateLimiter.alone 1 1 (own "loud" calls) = some [some (message "loud"), none] := by
    decide
  have quiet : RateLimiter.alone 1 1 (own "quiet" calls) = some [some (message "quiet")] := by
    decide
  have each : ∀ source, (RateLimiter.alone 1 1 (own source calls)).isSome = true := by
    intro source
    by_cases isLoud : "loud" = source
    · rw [← isLoud, loud]
      rfl
    · by_cases isQuiet : "quiet" = source
      · rw [← isQuiet, quiet]
        rfl
      · have silent : calls.filter (·.msg.source = source) = [] := by
          apply List.filter_eq_nil_iff.mpr
          refine List.forall_mem_cons.mpr ⟨?first, List.forall_mem_cons.mpr
            ⟨?second, List.forall_mem_singleton.mpr ?third⟩⟩
          case first => exact fun same => isLoud (of_decide_eq_true same)
          case second => exact fun same => isLoud (of_decide_eq_true same)
          case third => exact fun same => isQuiet (of_decide_eq_true same)
        rw [own, silent]
        rfl
  obtain ⟨⟨answers, after⟩, done⟩ := Option.isSome_iff_exists.mp (isolated.1.mpr each)
  have decided := isolated.2 answers after done
  exact ⟨answers, after, done, Option.some.inj ((decided "loud").1.symm.trans loud),
    Option.some.inj ((decided "quiet").1.symm.trans quiet)⟩

end Polku
