import Polku.Emit.Resilience.BreakerInvariant

/-!
# Recovery of a circuit breaker

Once the reset timeout has passed and the wrapped emitter succeeds, calls made
one after another should all be forwarded and close the circuit. Nothing
releases the place a probe takes in the half-open quota when the probe
completes, so they do exactly while the quota has room for all the successes
which are still missing.
-/

namespace Polku

open Semantics Data BreakerHistory

namespace CircuitBreakerEmitter

/-- A whole call, with nothing else running, around an emitter which succeeds:
whether it is forwarded, and the breaker after it. -/
def healthyCall (self : CircuitBreakerEmitter) (now : Nat) : Bool × CircuitBreakerEmitter :=
  match self.shouldAllowRequest now with
  | (true, breaker) => (true, breaker.recordSuccess)
  | (false, breaker) => (false, breaker)

/-- Calls made one after another at the given times. -/
def healthyCalls (self : CircuitBreakerEmitter) : List Nat → List Bool × CircuitBreakerEmitter
  | [] => ([], self)
  | now :: times =>
      let (forwarded, next) := self.healthyCall now
      let (rest, last) := next.healthyCalls times
      (forwarded :: rest, last)

/-- `healthyCall` is what `emit` does around an emitter which succeeds. -/
theorem emit_healthy {Inner : Type}
    {inner : Inner → List Event → World → EmitResult × Inner × World} {innerState : Inner}
    {events : List Event} {world : World} (self : CircuitBreakerEmitter)
    (succeeds : (inner innerState events world.now.2).1 = .ok ()) :
    ((emit inner (innerState, self) events world).1 =
        if (self.healthyCall world.now.1).1 then .ok () else .error .notReady) ∧
      (emit inner (innerState, self) events world).2.1.2 = (self.healthyCall world.now.1).2 := by
  unfold emit healthyCall
  rcases answer : self.shouldAllowRequest world.now.1 with ⟨allowed, breaker⟩
  cases allowed with
  | false => simp [answer]
  | true =>
      rcases result : inner innerState events world.now.2 with ⟨_ | _, after, rest⟩
      · simp [result] at succeeds
      · simp [answer, result]

/-- The successes which a half-open circuit is still missing. -/
def missing (self : CircuitBreakerEmitter) : Nat :=
  max 1 self.config.successThreshold.toNat - self.state.consecutiveSuccesses.toNat

/-- The half-open quota has room for the successes which are still missing. -/
def HasRoom (self : CircuitBreakerEmitter) : Prop :=
  (self.state.state = .opened →
    max 1 self.config.successThreshold.toNat ≤ max 1 self.config.halfOpenMaxRequests.toNat) ∧
  (self.state.state = .halfOpen →
    self.state.halfOpenRequests.toNat + self.missing ≤ self.config.halfOpenMaxRequests.toNat)

instance (self : CircuitBreakerEmitter) : Decidable self.HasRoom :=
  inferInstanceAs (Decidable (_ ∧ _))

/-- All calls are forwarded and the circuit is closed after them. -/
def ClosesOver (self : CircuitBreakerEmitter) (times : List Nat) : Prop :=
  (self.healthyCalls times).1 = times.map (fun _ => true) ∧
    (self.healthyCalls times).2.state.state = .closed

variable {self : CircuitBreakerEmitter} {now : Nat} {times : List Nat}

/-- A forwarded call leaves the rest of the calls to the breaker after it. -/
theorem closesOver_cons_forwarded {breaker : CircuitBreakerEmitter}
    (allowed : self.shouldAllowRequest now = (true, breaker)) :
    self.ClosesOver (now :: times) ↔ breaker.recordSuccess.ClosesOver times := by
  simp [ClosesOver, healthyCalls, healthyCall, allowed]

/-- A closed circuit forwards every call and stays closed. -/
theorem closesOver_closed (state : self.state.state = .closed) : self.ClosesOver times := by
  induction times generalizing self with
  | nil => exact ⟨rfl, state⟩
  | cons now times inductionHypothesis =>
      rw [closesOver_cons_forwarded (shouldAllowRequest_closed state)]
      exact inductionHypothesis (by simp [recordSuccess, state])

/-- A half-open circuit closes over enough calls exactly when it has room. -/
theorem closesOver_halfOpen (state : self.state.state = .halfOpen)
    (below : self.state.consecutiveSuccesses.toNat < max 1 self.config.successThreshold.toNat)
    (enough : self.missing ≤ times.length) : self.ClosesOver times ↔ self.HasRoom := by
  induction times generalizing self with
  | nil =>
      unfold missing at enough
      exact absurd enough (by simp only [List.length_nil]; omega)
  | cons now times inductionHypothesis =>
      have room : self.HasRoom ↔ self.state.halfOpenRequests.toNat + self.missing ≤
          self.config.halfOpenMaxRequests.toNat := by simp [HasRoom, state]
      rw [room]
      by_cases free : self.state.halfOpenRequests < self.config.halfOpenMaxRequests
      · have freeNat := UInt32.lt_iff_toNat_lt.mp free
        have taken : self.probed.state.halfOpenRequests.toNat =
            self.state.halfOpenRequests.toNat + 1 := toNat_succ free
        rw [closesOver_cons_forwarded (shouldAllowRequest_halfOpen state free)]
        rcases self.probed.recordSuccess_halfOpen state below with
          ⟨last, closes⟩ | ⟨more, probing, config, requests, successes⟩
        · change self.state.consecutiveSuccesses.toNat + 1 =
            max 1 self.config.successThreshold.toNat at last
          apply iff_of_true (closesOver_closed closes)
          unfold missing
          omega
        · change self.state.consecutiveSuccesses.toNat + 1 <
            max 1 self.config.successThreshold.toNat at more
          change _ = self.state.consecutiveSuccesses.toNat + 1 at successes
          change _ = self.config at config
          have fewer : self.probed.recordSuccess.missing + 1 = self.missing := by
            unfold missing
            rw [successes, config]
            omega
          rw [inductionHypothesis probing ?_ ?_]
          · simp only [HasRoom, probing, requests, taken, config, reduceCtorEq, false_implies,
              true_implies, true_and]
            omega
          · rw [successes, config]
            omega
          · simp only [List.length_cons] at enough
            omega
      · have full := UInt32.le_iff_toNat_le.mp (UInt32.not_lt.mp free)
        apply iff_of_false
        · rintro ⟨forwarded, -⟩
          simp [healthyCalls, healthyCall, shouldAllowRequest_full state free, reject] at forwarded
        · unfold missing
          omega

/-- An opened circuit whose timeout has elapsed closes over enough calls exactly
when the whole quota has room for the successes needed. -/
theorem closesOver_opened (state : self.state.state = .opened)
    (elapsed : ∀ time ∈ times, self.resetElapsed time = true)
    (enough : max 1 self.config.successThreshold.toNat ≤ times.length) :
    self.ClosesOver times ↔ self.HasRoom := by
  cases times with
  | nil => simp at enough
  | cons now times =>
      have room : self.HasRoom ↔ max 1 self.config.successThreshold.toNat ≤
          max 1 self.config.halfOpenMaxRequests.toNat := by simp [HasRoom, state]
      have waited := shouldAllowRequest_opened state (elapsed now (by simp))
      rw [room, closesOver_cons_forwarded waited]
      have below : self.probing.state.consecutiveSuccesses.toNat <
          max 1 self.probing.config.successThreshold.toNat :=
        Nat.lt_of_lt_of_le Nat.zero_lt_one (Nat.le_max_left 1 _)
      rcases self.probing.recordSuccess_halfOpen rfl below with
        ⟨last, closes⟩ | ⟨more, probing, config, requests, successes⟩
      · change 0 + 1 = max 1 self.config.successThreshold.toNat at last
        exact iff_of_true (closesOver_closed closes) (by omega)
      · change 0 + 1 < max 1 self.config.successThreshold.toNat at more
        change _ = 0 + 1 at successes
        change _ = (1 : UInt32) at requests
        change _ = self.config at config
        have one : self.probing.recordSuccess.missing =
            max 1 self.config.successThreshold.toNat - 1 := by
          unfold missing
          rw [successes, config]
        rw [closesOver_halfOpen probing ?_ ?_]
        · simp only [HasRoom, probing, requests, config, reduceCtorEq, false_implies,
            true_implies, true_and, UInt32.reduceToNat]
          omega
        · rw [successes, config]
          omega
        · simp only [List.length_cons] at enough
          omega

end CircuitBreakerEmitter

/-! ## Recovery of reachable breakers -/

/-- Any long enough sequence of calls one after another, made when the last
recorded failure is a reset timeout ago and served by an emitter which succeeds,
is forwarded as a whole and closes the circuit. -/
def Recovers (trace : List BreakerLabel) (machine : BreakerSystem) : Prop :=
  ∀ times : List Nat,
    times.length = max 1 machine.breaker.config.successThreshold.toNat →
    times.Pairwise (· ≤ ·) → (∀ time ∈ times, machine.clock ≤ time) →
    (∀ failure, lastFailure trace = some failure →
      ∀ time ∈ times, failure + machine.breaker.config.resetTimeout ≤ time) →
    machine.breaker.ClosesOver times

variable {config : CircuitBreakerConfig} {trace : List BreakerLabel} {machine : BreakerSystem}

/-- Whether a consistent breaker closes over enough calls depends on its quota
only, not on when the calls are made. -/
private theorem closesOver_iff (holds : Consistent config trace machine) {times : List Nat}
    (enough : times.length = max 1 machine.breaker.config.successThreshold.toNat)
    (waited : ∀ failure, lastFailure trace = some failure →
      ∀ time ∈ times, failure + machine.breaker.config.resetTimeout ≤ time) :
    machine.breaker.ClosesOver times ↔ machine.breaker.HasRoom := by
  cases circuit : machine.circuit with
  | closed =>
      have state : machine.breaker.state.state = .closed := circuit
      exact iff_of_true (CircuitBreakerEmitter.closesOver_closed state)
        (by simp [CircuitBreakerEmitter.HasRoom, state])
  | opened =>
      refine CircuitBreakerEmitter.closesOver_opened circuit (fun time member => ?_) enough.ge
      obtain ⟨failure, recorded⟩ := Option.ne_none_iff_exists'.mp (holds.opened circuit).1
      have past := waited failure (holds.lastFailureTime ▸ recorded) time member
      simp only [CircuitBreakerEmitter.resetElapsed, recorded, decide_eq_true_eq]
      omega
  | halfOpen =>
      obtain ⟨-, -, -, below⟩ := holds.halfOpen circuit
      rw [← holds.sameConfig] at below
      apply CircuitBreakerEmitter.closesOver_halfOpen circuit below
      unfold CircuitBreakerEmitter.missing
      omega

/-- A consistent breaker recovers exactly when its quota has room. -/
theorem Consistent.recovers_iff (holds : Consistent config trace machine) :
    Recovers trace machine ↔ machine.breaker.HasRoom := by
  constructor
  · intro recovers
    -- One call after another at a single late instant.
    let late := machine.clock + (lastFailure trace).getD 0 + machine.breaker.config.resetTimeout
    let times := List.replicate (max 1 machine.breaker.config.successThreshold.toNat) late
    have atLate : ∀ time ∈ times, time = late := fun time member => List.eq_of_mem_replicate member
    have waited : ∀ failure, lastFailure trace = some failure →
        ∀ time ∈ times, failure + machine.breaker.config.resetTimeout ≤ time := by
      intro failure recorded time member
      rw [atLate time member]
      simp only [late, recorded, Option.getD_some]
      omega
    refine (closesOver_iff holds (by simp [times]) waited).mp (recovers times ?_ ?_ ?_ waited)
    · simp [times]
    · simp [times, List.pairwise_replicate]
    · intro time member
      rw [atLate time member]
      omega
  · intro room times enough _ _ waited
    exact (closesOver_iff holds enough waited).mpr room

/-- While half-open, each probe admitted is counted as a success or in flight. -/
def ProbesAccounted (machine : BreakerSystem) : Prop :=
  machine.circuit = .halfOpen →
    machine.breaker.state.halfOpenRequests.toNat ≤
      machine.breaker.state.consecutiveSuccesses.toNat + machine.inFlight.length

/-- Every step keeps the probes accounted for. -/
private theorem probesAccounted_step (holds : Consistent config trace machine)
    (accounted : ProbesAccounted machine) {label : BreakerLabel} {next : BreakerSystem}
    (transition : BreakerSystem.Step machine label next) : ProbesAccounted next := by
  intro probing
  cases transition with
  | admitted later allowed =>
      cases CircuitBreakerEmitter.allows_of_shouldAllowRequest allowed with
      | closed state => exact absurd (state.symm.trans probing) (by simp)
      | reset state elapsed => simp [CircuitBreakerEmitter.probing]
      | probe state room =>
          have before := accounted state
          simp only [CircuitBreakerEmitter.probed, CircuitBreakerEmitter.toNat_succ room,
            List.length_append, List.length_singleton]
          omega
  | rejected later refused =>
      obtain ⟨-, rfl⟩ := CircuitBreakerEmitter.rejects_of_shouldAllowRequest refused
      exact accounted probing
  | succeeded pending =>
      have left := List.length_erase_of_mem pending
      have some := List.length_pos_of_mem pending
      have was := CircuitBreakerEmitter.halfOpen_of_recordSuccess probing
      obtain ⟨-, -, -, below⟩ := holds.halfOpen was
      rw [← holds.sameConfig] at below
      rcases machine.breaker.recordSuccess_halfOpen was below with
        ⟨-, closes⟩ | ⟨-, -, -, requests, successes⟩
      · exact absurd (closes.symm.trans probing) (by simp)
      · have before := accounted was
        dsimp only
        rw [requests, successes, left]
        omega
  | @failed _ now later pending =>
      have frame := (machine.breaker.fails_recordFailure now).frame
      exact absurd probing frame.2.2.2.2.2

/-- The probes are accounted for in every reachable state. -/
theorem probesAccounted (runs : (BreakerSystem.system config).Runs trace machine) :
    ProbesAccounted machine := by
  refine System.Runs.history (fun _ machine => ProbesAccounted machine) ?_ ?_ runs
  · rintro machine ⟨clock, rfl⟩ probing
    cases probing
  · intro trace machine label next runs accounted transition
    exact probesAccounted_step (Consistent.of_runs runs).toConsistent accounted transition

/-- With enough room for every success needed, a breaker without calls in flight
has room for the successes it is missing. -/
theorem hasRoom_of_quota (runs : (BreakerSystem.system config).Runs trace machine)
    (quiescent : machine.inFlight = [])
    (quota : max 1 config.successThreshold.toNat ≤ max 1 config.halfOpenMaxRequests.toNat) :
    machine.breaker.HasRoom := by
  have holds := Consistent.of_runs runs
  unfold CircuitBreakerEmitter.HasRoom CircuitBreakerEmitter.missing
  rw [holds.sameConfig]
  refine ⟨fun _ => quota, fun circuit => ?_⟩
  obtain ⟨-, least, -, below⟩ := holds.halfOpen circuit
  have accounted := probesAccounted runs circuit
  simp only [quiescent, List.length_nil] at accounted
  omega

/-- Enough failures in a row open the circuit. -/
theorem exists_opened (config : CircuitBreakerConfig) :
    ∃ execution : (BreakerSystem.system config).Execution,
      execution.state.inFlight = [] ∧ execution.state.circuit = .opened := by
  -- By contradiction: a circuit which never opens stays closed under failures.
  by_contra never
  have closes : ∀ count, ∃ trace machine, (BreakerSystem.system config).Runs trace machine ∧
      machine.inFlight = [] ∧ machine.circuit = .closed ∧ trailingFailures trace = count := by
    intro count
    induction count with
    | zero =>
        exact ⟨[], .init config 0, .initial ⟨0, rfl⟩, rfl, rfl, rfl⟩
    | succ count inductionHypothesis =>
        obtain ⟨trace, machine, runs, quiescent, isClosed, trailing⟩ := inductionHypothesis
        obtain ⟨longer, after, longerRuns, failed, noneInFlight, grown⟩ :=
          BreakerSystem.exists_failingCall runs quiescent
            (CircuitBreakerEmitter.shouldAllowRequest_closed isClosed)
        refine ⟨longer, after, longerRuns, noneInFlight, ?_, by omega⟩
        cases circuit : after.circuit with
        | closed => rfl
        | opened => exact absurd ⟨⟨longer, after, longerRuns⟩, noneInFlight, circuit⟩ never
        | halfOpen =>
            have frame := (machine.breaker.fails_recordFailure machine.clock).frame
            rw [← failed] at frame
            exact absurd circuit frame.2.2.2.2.2
  obtain ⟨trace, machine, runs, -, isClosed, trailing⟩ :=
    closes (max 1 config.failureThreshold.toNat)
  have bounded := ((Consistent.of_runs runs).closed isClosed).2.1
  omega

/-- A reachable breaker recovers exactly while its half-open quota has room for
the successes it is missing. All those without calls in flight do exactly when
the quota is as large as the number of successes needed. -/
theorem breaker_recovers_iff (config : CircuitBreakerConfig) :
    (∀ execution : (BreakerSystem.system config).Execution,
      Recovers execution.trace execution.state ↔ execution.state.breaker.HasRoom) ∧
    ((∀ execution : (BreakerSystem.system config).Execution, execution.state.inFlight = [] →
        Recovers execution.trace execution.state) ↔
      max 1 config.successThreshold.toNat ≤ max 1 config.halfOpenMaxRequests.toNat) := by
  have exact : ∀ execution : (BreakerSystem.system config).Execution,
      Recovers execution.trace execution.state ↔ execution.state.breaker.HasRoom :=
    fun execution => (Consistent.of_runs execution.runs).recovers_iff
  refine ⟨exact, ?_, ?_⟩
  · intro recover
    obtain ⟨execution, quiescent, opened⟩ := exists_opened config
    have room := (exact execution).mp (recover execution quiescent)
    have quota := room.1 opened
    rwa [(Consistent.of_runs execution.runs).sameConfig] at quota
  · intro quota execution quiescent
    exact (exact execution).mpr (hasRoom_of_quota execution.runs quiescent quota)

/-- The history of five calls which fail one after another at time zero. -/
def fiveFailures : List BreakerLabel :=
  (List.range 5).flatMap fun call =>
    [⟨.admitted call 0, .closed, .closed⟩,
      ⟨.failed call 0, .closed, if call = 4 then .opened else .closed⟩]

/-- With the default configuration, which needs two successes and admits one
probe, a breaker opened by five failures does not recover. -/
theorem default_breaker_parks : ∃ execution : (BreakerSystem.system .default).Execution,
    execution.trace = fiveFailures ∧ execution.state.inFlight = [] ∧
    ¬ Recovers execution.trace execution.state := by
  have start : (BreakerSystem.system .default).Runs [] (.init .default 0) := .initial ⟨0, rfl⟩
  have one := BreakerSystem.failingCall start rfl
  have two := BreakerSystem.failingCall one rfl
  have three := BreakerSystem.failingCall two rfl
  have four := BreakerSystem.failingCall three rfl
  have five := BreakerSystem.failingCall four rfl
  refine ⟨⟨_, _, five⟩, rfl, rfl, ?_⟩
  rw [(Consistent.of_runs five).recovers_iff]
  decide

end Polku
