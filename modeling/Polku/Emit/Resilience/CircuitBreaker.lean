import Polku.Emit.Emitter

/-!
# The circuit breaker

The three handlers of `CircuitBreakerEmitter` each hold the state's write lock
for their whole body, and read the clock while holding it. `u32` fields have
their width, and `+= 1` on them wraps as it does in the release profile. The
`u64` metrics are taken as not wrapping.
-/

namespace Polku

/-- The states of a circuit. -/
inductive CircuitState where
  | closed
  | opened
  | halfOpen
deriving DecidableEq, Repr

/-- Configuration of a circuit breaker. -/
structure CircuitBreakerConfig where
  failureThreshold : UInt32
  successThreshold : UInt32
  resetTimeout : Nat
  halfOpenMaxRequests : UInt32
deriving DecidableEq, Repr

/-- The default configuration. -/
def CircuitBreakerConfig.default : CircuitBreakerConfig where
  failureThreshold := 5
  successThreshold := 2
  resetTimeout := 30 * 10 ^ 9
  halfOpenMaxRequests := 1

/-- What the lock protects. -/
structure CircuitBreakerState where
  state : CircuitState
  consecutiveFailures : UInt32
  consecutiveSuccesses : UInt32
  lastFailureTime : Option Nat
  halfOpenRequests : UInt32
deriving DecidableEq, Repr

/-- A closed circuit without history. -/
def CircuitBreakerState.new : CircuitBreakerState := ⟨.closed, 0, 0, none, 0⟩

/-- A circuit breaker without the emitter it wraps. -/
structure CircuitBreakerEmitter where
  config : CircuitBreakerConfig
  state : CircuitBreakerState
  openCount : Nat
  rejectedCount : Nat
deriving DecidableEq, Repr

namespace CircuitBreakerEmitter

/-- A new breaker is closed. -/
def init (config : CircuitBreakerConfig) : CircuitBreakerEmitter := ⟨config, .new, 0, 0⟩

/-- Answer a request with a rejection. -/
def reject (self : CircuitBreakerEmitter) : Bool × CircuitBreakerEmitter :=
  (false, { self with rejectedCount := self.rejectedCount + 1 })

/-- Whether an opened circuit has waited for its reset timeout. A circuit
without a recorded failure never has. -/
def resetElapsed (self : CircuitBreakerEmitter) (now : Nat) : Bool :=
  match self.state.lastFailureTime with
  | some lastFailure => self.config.resetTimeout ≤ now - lastFailure
  | none => false

/-- Decide whether a request may pass, moving from opened to half-open in time. -/
def shouldAllowRequest (self : CircuitBreakerEmitter) (now : Nat) :
    Bool × CircuitBreakerEmitter :=
  match self.state.state with
  | .closed => (true, self)
  | .opened =>
      if self.resetElapsed now then
        (true, { self with state := { self.state with
          state := .halfOpen
          halfOpenRequests := 1
          consecutiveSuccesses := 0 } })
      else self.reject
  | .halfOpen =>
      if self.state.halfOpenRequests < self.config.halfOpenMaxRequests then
        (true, { self with state := { self.state with
          halfOpenRequests := self.state.halfOpenRequests + 1 } })
      else self.reject

/-- Record that a request succeeded. -/
def recordSuccess (self : CircuitBreakerEmitter) : CircuitBreakerEmitter :=
  let state := { self.state with consecutiveFailures := 0 }
  if state.state = .halfOpen then
    let state := { state with consecutiveSuccesses := state.consecutiveSuccesses + 1 }
    if self.config.successThreshold ≤ state.consecutiveSuccesses then
      { self with state := { state with state := .closed, halfOpenRequests := 0 } }
    else { self with state := state }
  else { self with state := state }

/-- Record that a request failed. -/
def recordFailure (self : CircuitBreakerEmitter) (now : Nat) : CircuitBreakerEmitter :=
  let state := { self.state with
    consecutiveSuccesses := 0
    consecutiveFailures := self.state.consecutiveFailures + 1
    lastFailureTime := some now }
  match state.state with
  | .closed =>
      if self.config.failureThreshold ≤ state.consecutiveFailures then
        { self with state := { state with state := .opened }, openCount := self.openCount + 1 }
      else { self with state := state }
  | .halfOpen =>
      { self with
        state := { state with state := .opened, halfOpenRequests := 0 }
        openCount := self.openCount + 1 }
  | .opened => { self with state := state }

/-- Counting one more below a 32-bit bound does not wrap. -/
theorem toNat_succ {count bound : UInt32} (below : count < bound) :
    (count + 1).toNat = count.toNat + 1 := by
  have bounded := UInt32.lt_iff_toNat_lt.mp below
  have width := bound.toNat_lt
  rw [UInt32.toNat_add]
  simp only [UInt32.reduceToNat]
  omega

/-! ### When a request may pass -/

section Admission

variable {self : CircuitBreakerEmitter} {now : Nat}

/-- A closed circuit admits every request. -/
theorem shouldAllowRequest_closed (state : self.state.state = .closed) :
    self.shouldAllowRequest now = (true, self) := by
  simp [shouldAllowRequest, state]

/-- The breaker after an opened circuit admitted its first probe. -/
def probing (self : CircuitBreakerEmitter) : CircuitBreakerEmitter :=
  { self with state := { self.state with
    state := .halfOpen, halfOpenRequests := 1, consecutiveSuccesses := 0 } }

/-- An opened circuit admits a probe once its reset timeout has elapsed. -/
theorem shouldAllowRequest_opened (state : self.state.state = .opened)
    (elapsed : self.resetElapsed now = true) :
    self.shouldAllowRequest now = (true, self.probing) := by
  simp [shouldAllowRequest, probing, state, elapsed]

/-- The breaker after a half-open circuit admitted one more probe. -/
def probed (self : CircuitBreakerEmitter) : CircuitBreakerEmitter :=
  { self with state := { self.state with halfOpenRequests := self.state.halfOpenRequests + 1 } }

/-- A half-open circuit admits a probe while its quota has room. -/
theorem shouldAllowRequest_halfOpen (state : self.state.state = .halfOpen)
    (room : self.state.halfOpenRequests < self.config.halfOpenMaxRequests) :
    self.shouldAllowRequest now = (true, self.probed) := by
  simp [shouldAllowRequest, probed, state, room]

/-- A half-open circuit rejects a request once its quota is used up. -/
theorem shouldAllowRequest_full (state : self.state.state = .halfOpen)
    (full : ¬ self.state.halfOpenRequests < self.config.halfOpenMaxRequests) :
    self.shouldAllowRequest now = self.reject := by
  simp [shouldAllowRequest, state, full]

end Admission

/-! ### What each handler can do -/

/-- How a request may pass, and the breaker after it. -/
inductive Allows (self : CircuitBreakerEmitter) (now : Nat) : CircuitBreakerEmitter → Prop
  | closed (state : self.state.state = .closed) : Allows self now self
  | reset (state : self.state.state = .opened) (elapsed : self.resetElapsed now = true) :
      Allows self now self.probing
  | probe (state : self.state.state = .halfOpen)
      (room : self.state.halfOpenRequests < self.config.halfOpenMaxRequests) :
      Allows self now self.probed

/-- What passing a request leaves unchanged. -/
theorem Allows.frame {breaker after : CircuitBreakerEmitter} {now : Nat}
    (allows : breaker.Allows now after) :
    after.config = breaker.config ∧
    after.state.consecutiveFailures = breaker.state.consecutiveFailures ∧
    after.state.lastFailureTime = breaker.state.lastFailureTime ∧
    after.openCount = breaker.openCount ∧ after.rejectedCount = breaker.rejectedCount ∧
    after.state.state ≠ .opened := by
  cases allows with
  | closed state => simp [state]
  | reset state elapsed => simp [probing]
  | probe state room => simp [probed, state]

/-- A request passes only in one of the listed ways. -/
theorem allows_of_shouldAllowRequest {self after : CircuitBreakerEmitter} {now : Nat}
    (allowed : self.shouldAllowRequest now = (true, after)) : self.Allows now after := by
  obtain ⟨config, ⟨circuit, failures, successes, lastFailure, requests⟩, opens, rejects⟩ := self
  unfold shouldAllowRequest reject at allowed
  cases circuit with
  | closed =>
      cases allowed
      exact .closed rfl
  | opened =>
      dsimp only at allowed
      split at allowed
      case isTrue elapsed =>
        cases allowed
        exact .reset rfl elapsed
      case isFalse => cases allowed
  | halfOpen =>
      dsimp only at allowed
      split at allowed
      case isTrue room =>
        cases allowed
        exact .probe rfl room
      case isFalse => cases allowed

/-- A rejection only counts itself, and happens only while not closed. -/
theorem rejects_of_shouldAllowRequest {self after : CircuitBreakerEmitter} {now : Nat}
    (refused : self.shouldAllowRequest now = (false, after)) :
    self.state.state ≠ .closed ∧ after = { self with rejectedCount := self.rejectedCount + 1 } := by
  obtain ⟨config, ⟨circuit, failures, successes, lastFailure, requests⟩, opens, rejects⟩ := self
  unfold shouldAllowRequest reject at refused
  cases circuit with
  | closed => cases refused
  | opened =>
      dsimp only at refused
      split at refused
      case isTrue => cases refused
      case isFalse =>
        cases refused
        exact ⟨by simp, rfl⟩
  | halfOpen =>
      dsimp only at refused
      split at refused
      case isTrue => cases refused
      case isFalse =>
        cases refused
        exact ⟨by simp, rfl⟩

/-- How a success may be recorded, and the breaker after it. -/
inductive Succeeds (self : CircuitBreakerEmitter) : CircuitBreakerEmitter → Prop
  | elsewhere (state : self.state.state ≠ .halfOpen) :
      Succeeds self { self with state := { self.state with consecutiveFailures := 0 } }
  | counted (state : self.state.state = .halfOpen)
      (below : self.state.consecutiveSuccesses + 1 < self.config.successThreshold) :
      Succeeds self { self with state := { self.state with
        consecutiveFailures := 0
        consecutiveSuccesses := self.state.consecutiveSuccesses + 1 } }
  | closing (state : self.state.state = .halfOpen)
      (reached : self.config.successThreshold ≤ self.state.consecutiveSuccesses + 1) :
      Succeeds self { self with state := { self.state with
        state := .closed
        consecutiveFailures := 0
        consecutiveSuccesses := self.state.consecutiveSuccesses + 1
        halfOpenRequests := 0 } }

/-- What recording a success leaves unchanged. -/
theorem Succeeds.frame {breaker after : CircuitBreakerEmitter}
    (succeeds : breaker.Succeeds after) :
    after.config = breaker.config ∧ after.state.consecutiveFailures = 0 ∧
    after.state.lastFailureTime = breaker.state.lastFailureTime ∧
    after.openCount = breaker.openCount ∧ after.rejectedCount = breaker.rejectedCount ∧
    (after.state.state = .opened ↔ breaker.state.state = .opened) := by
  cases succeeds with
  | elsewhere state => simp
  | counted state below => simp
  | closing state reached => simp [state]

/-- A success is recorded in one of the listed ways. -/
theorem succeeds_recordSuccess (self : CircuitBreakerEmitter) :
    self.Succeeds self.recordSuccess := by
  obtain ⟨config, ⟨circuit, failures, successes, lastFailure, requests⟩, opens, rejects⟩ := self
  unfold recordSuccess
  by_cases probing : circuit = .halfOpen
  · subst probing
    by_cases reached : config.successThreshold ≤ successes + 1
    · simp only [reached, if_true]
      exact .closing rfl reached
    · simp only [reached, if_true, if_false]
      exact .counted rfl (UInt32.not_le.mp reached)
  · simp only [probing, if_false]
    exact .elsewhere probing

/-- A circuit is half-open after a success only if it was half-open before. -/
theorem halfOpen_of_recordSuccess {self : CircuitBreakerEmitter}
    (probing : self.recordSuccess.state.state = .halfOpen) : self.state.state = .halfOpen := by
  by_contra other
  simp [recordSuccess, other] at probing

/-- A success recorded by a half-open circuit which needs more either closes it
or is counted. -/
theorem recordSuccess_halfOpen (self : CircuitBreakerEmitter)
    (state : self.state.state = .halfOpen)
    (below : self.state.consecutiveSuccesses.toNat < max 1 self.config.successThreshold.toNat) :
    (self.state.consecutiveSuccesses.toNat + 1 = max 1 self.config.successThreshold.toNat ∧
      self.recordSuccess.state.state = .closed) ∨
    (self.state.consecutiveSuccesses.toNat + 1 < max 1 self.config.successThreshold.toNat ∧
      self.recordSuccess.state.state = .halfOpen ∧ self.recordSuccess.config = self.config ∧
      self.recordSuccess.state.halfOpenRequests = self.state.halfOpenRequests ∧
      self.recordSuccess.state.consecutiveSuccesses.toNat =
        self.state.consecutiveSuccesses.toNat + 1) := by
  have wide := self.config.successThreshold.toNat_lt
  have counted : (self.state.consecutiveSuccesses + 1).toNat =
      self.state.consecutiveSuccesses.toNat + 1 := by
    rw [UInt32.toNat_add]
    simp only [UInt32.reduceToNat]
    omega
  have succeeds := self.succeeds_recordSuccess
  generalize self.recordSuccess = after at succeeds ⊢
  cases succeeds with
  | elsewhere other => exact absurd state other
  | counted probing missing =>
      have threshold := UInt32.lt_iff_toNat_lt.mp missing
      exact .inr ⟨by omega, state, rfl, rfl, counted⟩
  | closing probing reached =>
      have threshold := UInt32.le_iff_toNat_le.mp reached
      exact .inl ⟨by omega, rfl⟩

/-- How a failure may be recorded, and the breaker after it. -/
inductive Fails (self : CircuitBreakerEmitter) (now : Nat) : CircuitBreakerEmitter → Prop
  | tolerated (state : self.state.state = .closed)
      (below : self.state.consecutiveFailures + 1 < self.config.failureThreshold) :
      Fails self now { self with state := { self.state with
        consecutiveSuccesses := 0
        consecutiveFailures := self.state.consecutiveFailures + 1
        lastFailureTime := some now } }
  | opening (state : self.state.state = .closed)
      (reached : self.config.failureThreshold ≤ self.state.consecutiveFailures + 1) :
      Fails self now { self with
        state := { self.state with
          state := .opened
          consecutiveSuccesses := 0
          consecutiveFailures := self.state.consecutiveFailures + 1
          lastFailureTime := some now }
        openCount := self.openCount + 1 }
  | reopening (state : self.state.state = .halfOpen) :
      Fails self now { self with
        state := { self.state with
          state := .opened
          consecutiveSuccesses := 0
          consecutiveFailures := self.state.consecutiveFailures + 1
          lastFailureTime := some now
          halfOpenRequests := 0 }
        openCount := self.openCount + 1 }
  | late (state : self.state.state = .opened) :
      Fails self now { self with state := { self.state with
        consecutiveSuccesses := 0
        consecutiveFailures := self.state.consecutiveFailures + 1
        lastFailureTime := some now } }

/-- What recording a failure leaves unchanged, and how it counts. -/
theorem Fails.frame {breaker after : CircuitBreakerEmitter} {now : Nat}
    (fails : breaker.Fails now after) :
    after.config = breaker.config ∧
    after.state.consecutiveFailures = breaker.state.consecutiveFailures + 1 ∧
    after.state.lastFailureTime = some now ∧
    after.openCount = breaker.openCount +
      (if breaker.state.state != .opened && after.state.state == .opened then 1 else 0) ∧
    after.rejectedCount = breaker.rejectedCount ∧ after.state.state ≠ .halfOpen := by
  cases fails with
  | tolerated state below => simp [state]
  | opening state reached => simp [state]
  | reopening state => simp [state]
  | late state => simp [state]

/-- A failure is recorded in one of the listed ways. -/
theorem fails_recordFailure (self : CircuitBreakerEmitter) (now : Nat) :
    self.Fails now (self.recordFailure now) := by
  obtain ⟨config, ⟨circuit, failures, successes, lastFailure, requests⟩, opens, rejects⟩ := self
  unfold recordFailure
  cases circuit with
  | closed =>
      by_cases reached : config.failureThreshold ≤ failures + 1
      · simp only [reached, if_true]
        exact .opening rfl reached
      · simp only [reached, if_false]
        exact .tolerated rfl (UInt32.not_le.mp reached)
  | opened => exact .late rfl
  | halfOpen => exact .reopening rfl

/-- A failure leaves the circuit opened unless it is closed and tolerates one more. -/
theorem recordFailure_state (self : CircuitBreakerEmitter) (now : Nat) :
    (self.recordFailure now).state.state =
      if self.state.state = .closed ∧
        self.state.consecutiveFailures + 1 < self.config.failureThreshold
      then .closed else .opened := by
  have fails := self.fails_recordFailure now
  generalize self.recordFailure now = after at fails ⊢
  cases fails with
  | tolerated state below => simp [state, below]
  | opening state reached => simp [UInt32.not_lt.mpr reached]
  | reopening state => simp [state]
  | late state => simp [state]

/-! ### The wrapper -/

/-- One whole call of `emit` with nothing else running: admission, the wrapped
emitter, and the record of its result. -/
def emit {Inner : Type} (inner : Inner → List Event → World → EmitResult × Inner × World)
    (self : Inner × CircuitBreakerEmitter) (events : List Event) (world : World) :
    EmitResult × (Inner × CircuitBreakerEmitter) × World :=
  let (now, world) := world.now
  match self.2.shouldAllowRequest now with
  | (false, breaker) => (.error .notReady, (self.1, breaker), world)
  | (true, breaker) =>
      match inner self.1 events world with
      | (.ok (), innerState, world) => (.ok (), (innerState, breaker.recordSuccess), world)
      | (.error error, innerState, world) =>
          let (now, world) := world.now
          (.error error, (innerState, breaker.recordFailure now), world)

/-- Wrap an emitter with a circuit breaker. -/
def new (inner : Emitter) (config : CircuitBreakerConfig) : Emitter where
  name := "circuit_breaker"
  State := inner.State × CircuitBreakerEmitter
  state := (inner.state, init config)
  emit := emit inner.emit
  health self := match self.2.state.state with
    | .opened => false
    | _ => inner.health self.1

end CircuitBreakerEmitter

end Polku
