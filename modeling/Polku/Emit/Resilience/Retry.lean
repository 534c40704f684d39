import Polku.Emit.Emitter

/-!
# Retry with exponential backoff

The delays are computed in `f64`; here they are exact rationals, truncated to
whole microseconds at the end as the code's cast does.
-/

namespace Polku

/-- Configuration of the backoff between attempts. -/
structure BackoffConfig where
  initialDelay : Nat
  maxDelay : Nat
  multiplier : ℚ
  maxAttempts : UInt32
  jitterFactor : ℚ

namespace BackoffConfig

/-- The default configuration: 100 ms doubling up to 30 s, three retries. -/
def default : BackoffConfig where
  initialDelay := 100 * 10 ^ 6
  maxDelay := 30 * 10 ^ 9
  multiplier := 2
  maxAttempts := 3
  jitterFactor := 1 / 4

/-- The exponent `(attempt - 1) as i32`, which wraps from 2^31 on. -/
def exponent (attempt : UInt32) : Int := (attempt - 1).toInt32.toInt

/-- The delay before an attempt, given a jitter value. -/
def delayForAttemptWithJitter (self : BackoffConfig) (attempt : UInt32) (jitter : ℚ) :
    Nat :=
  if attempt = 0 then 0
  else
    let baseUs := ((self.initialDelay / 1000 : Nat) : ℚ) * self.multiplier ^ exponent attempt
    let baseUs := min baseUs ((self.maxDelay / 1000 : Nat) : ℚ)
    let jitterRange := baseUs * self.jitterFactor
    let jitterOffset := (jitter * 2 - 1) * jitterRange
    let finalUs := max (baseUs + jitterOffset) 1
    min ⌊finalUs⌋₊ (2 ^ 64 - 1) * 1000

/-- The delay before an attempt, with a drawn jitter value. -/
def delayForAttempt (self : BackoffConfig) (attempt : UInt32) (world : World) :
    Nat × World :=
  let (jitter, world) := world.randJitter
  (self.delayForAttemptWithJitter attempt jitter, world)

/-- Only the first attempt is not delayed: a delay is at least one microsecond. -/
theorem delayForAttempt_eq_zero (self : BackoffConfig) (attempt : UInt32) (world : World) :
    (self.delayForAttempt attempt world).1 = 0 ↔ attempt = 0 := by
  unfold delayForAttempt delayForAttemptWithJitter
  by_cases first : attempt = 0
  · simp [first]
  · simp only [first, if_false, iff_false]
    apply Nat.mul_ne_zero _ (by decide)
    apply Nat.ne_of_gt
    exact lt_min (Nat.floor_pos.mpr (le_max_right _ _)) (by decide)

end BackoffConfig

/-- The counters of a `RetryEmitter` beside the state of what it wraps. -/
structure RetryEmitter (Inner : Type) where
  inner : Inner
  retryCount : Nat
  recoveredCount : Nat

namespace RetryEmitter

variable {Inner : Type}

/-- The attempts from `attempt` on, `remaining` of them after this one. The
sleep itself leaves no trace but the time which passes. -/
def attempts (inner : Inner → List Event → World → EmitResult × Inner × World)
    (config : BackoffConfig) (events : List Event) :
    (remaining : Nat) → (attempt : UInt32) → RetryEmitter Inner → World →
      EmitResult × RetryEmitter Inner × World
  | remaining, attempt, self, world =>
    let (delay, world) := config.delayForAttempt attempt world
    let self := if delay = 0 then self else { self with retryCount := self.retryCount + 1 }
    match inner self.inner events world with
    | (.ok (), innerState, world) =>
        let self := { self with inner := innerState }
        let self := if 0 < attempt then
          { self with recoveredCount := self.recoveredCount + 1 } else self
        (.ok (), self, world)
    | (.error error, innerState, world) =>
        let self := { self with inner := innerState }
        match remaining with
        | 0 => (.error error, self, world)
        | remaining + 1 => attempts inner config events remaining (attempt + 1) self world

/-- Emit with up to `maxAttempts` retries; the last error is returned. -/
def emit (inner : Inner → List Event → World → EmitResult × Inner × World)
    (config : BackoffConfig) (self : RetryEmitter Inner) (events : List Event)
    (world : World) : EmitResult × RetryEmitter Inner × World :=
  attempts inner config events config.maxAttempts.toNat 0 self world

/-- Wrap an emitter with retries. -/
def new (inner : Emitter) (config : BackoffConfig) : Emitter where
  name := "retry"
  State := RetryEmitter inner.State
  state := ⟨inner.state, 0, 0⟩
  emit := emit inner.emit config
  health self := inner.health self.inner

/-! ### What one call does -/

/-- What a call of `emit` makes of a batch with at most `retries` retries: the calls
of the wrapped emitter, and the result. -/
structure Retries (retries : Nat) (events : List Event) (calls : List EmitCall)
    (result : EmitResult) : Prop where
  sameBatch : ∀ call ∈ calls, call.events = events
  atLeastOne : 1 ≤ calls.length
  atMost : calls.length ≤ retries + 1
  failedBefore : ∀ call ∈ calls.dropLast, call.result ≠ .ok ()
  lastResult : calls.getLast?.map EmitCall.result = some result
  exhausted : result ≠ .ok () → calls.length = retries + 1

/-- A single call gives its own result. -/
theorem Retries.single {retries : Nat} {events : List Event} {result : EmitResult}
    (final : result = .ok () ∨ retries = 0) :
    Retries retries events [⟨events, result⟩] result where
  sameBatch := by simp
  atLeastOne := le_rfl
  atMost := by simp
  failedBefore := by simp
  lastResult := rfl
  exhausted := fun failed => by simp [final.resolve_left failed]

/-- After a failed call come those of the retries. -/
theorem Retries.cons {retries : Nat} {events : List Event} {calls : List EmitCall}
    {result : EmitResult} (error : PluginError) (later : Retries retries events calls result) :
    Retries (retries + 1) events (⟨events, .error error⟩ :: calls) result := by
  have some := later.atLeastOne
  cases calls with
  | nil => cases some
  | cons call calls =>
      refine ⟨?_, by simp, by simpa using later.atMost, ?_, later.lastResult, ?_⟩
      · simpa using later.sameBatch
      · simpa using later.failedBefore
      · simpa using later.exhausted

variable {config : BackoffConfig} {events : List Event}

/-- The counters of a retrying emitter after it has made some calls for a batch, the
first of them as attempt number `attempt`. -/
def Counts (before after : RetryEmitter Inner) (attempt : UInt32) (calls : List EmitCall)
    (result : EmitResult) : Prop :=
  after.retryCount = before.retryCount + (calls.length - if attempt = 0 then 1 else 0) ∧
  after.recoveredCount = before.recoveredCount +
    if (attempt ≠ 0 ∨ 1 < calls.length) ∧ result = .ok () then 1 else 0

/-- The first of several attempts is one call of the wrapped emitter, after the delay, and
is counted; if it fails and retries remain, they follow. -/
private theorem attempts_step (inner : Inner → List Event → World → EmitResult × Inner × World)
    (remaining : Nat) (attempt : UInt32) (self : RetryEmitter Inner) (world : World) :
    ∃ (woken later : World) (result : EmitResult) (next : RetryEmitter Inner),
      inner self.inner events woken = (result, next.inner, later) ∧
      next.retryCount = self.retryCount + (if attempt = 0 then 0 else 1) ∧
      next.recoveredCount = self.recoveredCount +
        (if attempt ≠ 0 ∧ result = .ok () then 1 else 0) ∧
      attempts inner config events remaining attempt self world =
        match result, remaining with
        | .error _, remaining + 1 =>
            attempts inner config events remaining (attempt + 1) next later
        | _, _ => (result, next, later) := by
  have delayed := config.delayForAttempt_eq_zero attempt world
  rcases delay : config.delayForAttempt attempt world with ⟨pause, woken⟩
  rw [delay] at delayed
  rcases call : inner self.inner events woken with ⟨result, state, later⟩
  have positive : 0 < attempt ↔ attempt ≠ 0 := UInt32.pos_iff_ne_zero
  refine ⟨woken, later, result, ⟨state, _, _⟩, call, rfl, rfl, ?_⟩
  rw [attempts, delay]
  by_cases first : attempt = 0
  · have noPause : pause = 0 := delayed.mpr first
    cases result <;> cases remaining <;> simp [noPause, first, call]
  · have paused : pause ≠ 0 := fun none => first (delayed.mp none)
    cases result <;> cases remaining <;> simp [paused, first, positive, call]

/-- What the attempts from one on do: they log the calls of a call of `emit` with as
many retries as remain, and count them. -/
theorem attempts_spec (inner : Emitter) (remaining : Nat) (attempt : UInt32)
    (self : RetryEmitter inner.logged.State) (world : World)
    (fits : attempt.toNat + remaining < 2 ^ 32) {result : EmitResult}
    {after : RetryEmitter inner.logged.State} {later : World}
    (done : attempts inner.logged.emit config events remaining attempt self world =
      (result, after, later)) :
    ∃ calls, after.inner.2 = self.inner.2 ++ calls ∧ Retries remaining events calls result ∧
      Counts self after attempt calls result := by
  induction remaining generalizing attempt self world with
  | zero =>
      obtain ⟨woken, ended, first, next, called, retried, recovered, step⟩ :=
        attempts_step inner.logged.emit 0 attempt self world
      have logged := inner.logged_calls called
      have last : attempts inner.logged.emit config events 0 attempt self world =
          (first, next, ended) := by cases first <;> exact step
      obtain ⟨rfl, rfl, -⟩ : first = result ∧ next = after ∧ ended = later := by
        simpa using last.symm.trans done
      refine ⟨[⟨events, first⟩], logged, .single (.inr rfl), ?_, ?_⟩
      · by_cases start : attempt = 0 <;> simp [retried, start]
      · simp [recovered]
  | succ remaining inductionHypothesis =>
      obtain ⟨woken, ended, first, next, called, retried, recovered, step⟩ :=
        attempts_step inner.logged.emit (remaining + 1) attempt self world
      have logged := inner.logged_calls called
      rw [step] at done
      cases first with
      | ok =>
          cases done
          refine ⟨[⟨events, .ok ()⟩], logged, .single (.inl rfl), ?_, ?_⟩
          · by_cases start : attempt = 0 <;> simp [retried, start]
          · simp [recovered]
      | error error =>
          have counted : (attempt + 1).toNat = attempt.toNat + 1 := by
            rw [UInt32.toNat_add]
            simp only [UInt32.reduceToNat]
            omega
          have notFirst : attempt + 1 ≠ 0 := fun wraps => by
            rw [wraps] at counted
            simp at counted
          obtain ⟨calls, laterLogged, retries, laterRetried, laterRecovered⟩ :=
            inductionHypothesis (attempt + 1) next ended (by omega) done
          have some := retries.atLeastOne
          refine ⟨⟨events, .error error⟩ :: calls, ?_, retries.cons error, ?_, ?_⟩
          · simp [laterLogged, logged]
          · rw [laterRetried, retried, List.length_cons]
            simp only [notFirst, if_false]
            split <;> omega
          · rw [laterRecovered, recovered]
            have more : 1 < calls.length + 1 := by omega
            simp [notFirst, more]

/-- What holds of the wrapped emitter before and after each of its calls for a batch
holds after all attempts. -/
theorem attempts_preserves {inner : Inner → List Event → World → EmitResult × Inner × World}
    (property : Inner → Prop)
    (preserved : ∀ state world, property state → property (inner state events world).2.1)
    (remaining : Nat) (attempt : UInt32) (self : RetryEmitter Inner) (world : World)
    (holds : property self.inner) :
    property (attempts inner config events remaining attempt self world).2.1.inner := by
  induction remaining generalizing attempt self world with
  | zero =>
      obtain ⟨woken, later, result, next, called, -, -, step⟩ :=
        attempts_step inner 0 attempt self world
      have kept := preserved self.inner woken holds
      rw [called] at kept
      rw [step]
      cases result <;> exact kept
  | succ remaining inductionHypothesis =>
      obtain ⟨woken, later, result, next, called, -, -, step⟩ :=
        attempts_step inner (remaining + 1) attempt self world
      have kept := preserved self.inner woken holds
      rw [called] at kept
      rw [step]
      cases result with
      | ok => exact kept
      | error error => exact inductionHypothesis (attempt + 1) next later kept

/-- What each call of the wrapped emitter for a batch preserves, `emit` preserves. -/
theorem emit_preserves {inner : Inner → List Event → World → EmitResult × Inner × World}
    (property : Inner → Prop)
    (preserved : ∀ state world, property state → property (inner state events world).2.1)
    {self after : RetryEmitter Inner} {world later : World} {result : EmitResult}
    (holds : property self.inner)
    (done : emit inner config self events world = (result, after, later)) :
    property after.inner := by
  have kept : property (emit inner config self events world).2.1.inner :=
    attempts_preserves property preserved config.maxAttempts.toNat 0 self world holds
  rwa [done] at kept

/-- A call of `emit` makes the first attempt and up to `max_attempts` retries. -/
theorem emit_spec (inner : Emitter) (self : RetryEmitter inner.logged.State) (world : World)
    {result : EmitResult} {after : RetryEmitter inner.logged.State} {later : World}
    (done : emit inner.logged.emit config self events world = (result, after, later)) :
    ∃ calls, after.inner.2 = self.inner.2 ++ calls ∧
      Retries config.maxAttempts.toNat events calls result ∧
      after.retryCount = self.retryCount + (calls.length - 1) ∧
      after.recoveredCount = self.recoveredCount +
        if 1 < calls.length ∧ result = .ok () then 1 else 0 := by
  have width := config.maxAttempts.toNat_lt
  obtain ⟨calls, logged, retries, retried, recovered⟩ :=
    attempts_spec inner config.maxAttempts.toNat 0 self world (by simpa using width) done
  refine ⟨calls, logged, retries, ?_, ?_⟩
  · simpa using retried
  · simpa using recovered

end RetryEmitter

end Polku
