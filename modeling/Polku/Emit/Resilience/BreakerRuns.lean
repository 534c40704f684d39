import Polku.Semantics.Execution
import Polku.Emit.Resilience.CircuitBreaker
import Polku.Data.List

/-!
# Concurrent calls on one circuit breaker

Any number of `emit` calls overlap. Each call first makes one admission step;
an admitted call is forwarded to the wrapped emitter, and some time later makes
one completion step. Clock readings never decrease. A call may also never
complete.
-/

namespace Polku

open Semantics Data

/-- What one step of one call did. Calls are numbered as they are made. -/
inductive BreakerEvent where
  | admitted (call : Nat) (now : Nat)
  | rejected (call : Nat) (now : Nat)
  | succeeded (call : Nat)
  | failed (call : Nat) (now : Nat)
deriving DecidableEq, Repr

/-- A step together with the circuit's state before and after it. -/
structure BreakerLabel where
  event : BreakerEvent
  before : CircuitState
  after : CircuitState
deriving DecidableEq, Repr

/-- A breaker, the clock, the number of calls made and the admitted calls
which have not completed. -/
structure BreakerSystem where
  breaker : CircuitBreakerEmitter
  clock : Nat
  calls : Nat
  inFlight : List Nat
deriving DecidableEq, Repr

namespace BreakerSystem

/-- The state of the circuit. -/
def circuit (self : BreakerSystem) : CircuitState := self.breaker.state.state

/-- A new breaker before its first call. -/
def init (config : CircuitBreakerConfig) (clock : Nat) : BreakerSystem :=
  ⟨.init config, clock, 0, []⟩

/-- One step of one call. -/
inductive Step : BreakerSystem → BreakerLabel → BreakerSystem → Prop where
  | admitted {self now breaker} (later : self.clock ≤ now)
      (allowed : self.breaker.shouldAllowRequest now = (true, breaker)) :
      Step self ⟨.admitted self.calls now, self.circuit, breaker.state.state⟩
        ⟨breaker, now, self.calls + 1, self.inFlight ++ [self.calls]⟩
  | rejected {self now breaker} (later : self.clock ≤ now)
      (refused : self.breaker.shouldAllowRequest now = (false, breaker)) :
      Step self ⟨.rejected self.calls now, self.circuit, breaker.state.state⟩
        ⟨breaker, now, self.calls + 1, self.inFlight⟩
  | succeeded {self call} (pending : call ∈ self.inFlight) :
      Step self ⟨.succeeded call, self.circuit, self.breaker.recordSuccess.state.state⟩
        ⟨self.breaker.recordSuccess, self.clock, self.calls, self.inFlight.erase call⟩
  | failed {self call now} (later : self.clock ≤ now) (pending : call ∈ self.inFlight) :
      Step self ⟨.failed call now, self.circuit, (self.breaker.recordFailure now).state.state⟩
        ⟨self.breaker.recordFailure now, now, self.calls, self.inFlight.erase call⟩

/-- The runs of a breaker with a given configuration. -/
def system (config : CircuitBreakerConfig) : System BreakerLabel where
  State := BreakerSystem
  Initial self := ∃ clock, self = init config clock
  Step := Step

end BreakerSystem

/-! ## What a history tells -/

/-- The call admitted by an event, if any. -/
def BreakerEvent.admittedCall : BreakerEvent → Option Nat
  | .admitted call _ => some call
  | _ => none

/-- The call rejected by an event, if any. -/
def BreakerEvent.rejectedCall : BreakerEvent → Option Nat
  | .rejected call _ => some call
  | _ => none

/-- The call completed with success by an event, if any. -/
def BreakerEvent.succeededCall : BreakerEvent → Option Nat
  | .succeeded call => some call
  | _ => none

/-- The call completed by an event, if any. -/
def BreakerEvent.completedCall : BreakerEvent → Option Nat
  | .succeeded call => some call
  | .failed call _ => some call
  | _ => none

/-- The result recorded by an event, if any: whether the call succeeded. -/
def BreakerEvent.outcome : BreakerEvent → Option Bool
  | .succeeded _ => some true
  | .failed _ _ => some false
  | _ => none

/-- The time of the failure recorded by an event, if any. -/
def BreakerEvent.failedAt : BreakerEvent → Option Nat
  | .failed _ now => some now
  | _ => none

namespace BreakerHistory

/-- The calls which passed the breaker, in order. -/
def admitted (trace : List BreakerLabel) : List Nat :=
  trace.filterMap fun label => label.event.admittedCall

/-- The calls answered `NotReady` by the breaker, in order. -/
def rejected (trace : List BreakerLabel) : List Nat :=
  trace.filterMap fun label => label.event.rejectedCall

/-- The calls which completed with success, in order. -/
def succeeded (trace : List BreakerLabel) : List Nat :=
  trace.filterMap fun label => label.event.succeededCall

/-- The calls which completed, in order. -/
def completed (trace : List BreakerLabel) : List Nat :=
  trace.filterMap fun label => label.event.completedCall

/-- The recorded results, in order. -/
def outcomes (trace : List BreakerLabel) : List Bool :=
  trace.filterMap fun label => label.event.outcome

/-- The length of the run of failures at the end of the recorded results. -/
def trailingFailures (trace : List BreakerLabel) : Nat :=
  ((outcomes trace).rtakeWhile fun succeeded => !succeeded).length

/-- The time of the last recorded failure. -/
def lastFailure (trace : List BreakerLabel) : Option Nat :=
  (trace.filterMap fun label => label.event.failedAt).getLast?

/-- How often the circuit went from another state to opened. -/
def openings (trace : List BreakerLabel) : Nat :=
  trace.countP fun label => label.before != .opened && label.after == .opened

/-- The steps of the half-open episode which is under way: the last steps which
left the circuit half-open, the one which began the episode included. -/
def episode (trace : List BreakerLabel) : List BreakerLabel :=
  trace.rtakeWhile fun label => label.after == .halfOpen

section Snoc

variable (trace : List BreakerLabel) (label : BreakerLabel)

@[simp] theorem admitted_snoc :
    admitted (trace ++ [label]) = admitted trace ++ label.event.admittedCall.toList :=
  filterMap_snoc _ trace label

@[simp] theorem rejected_snoc :
    rejected (trace ++ [label]) = rejected trace ++ label.event.rejectedCall.toList :=
  filterMap_snoc _ trace label

@[simp] theorem succeeded_snoc :
    succeeded (trace ++ [label]) = succeeded trace ++ label.event.succeededCall.toList :=
  filterMap_snoc _ trace label

@[simp] theorem completed_snoc :
    completed (trace ++ [label]) = completed trace ++ label.event.completedCall.toList :=
  filterMap_snoc _ trace label

@[simp] theorem outcomes_snoc :
    outcomes (trace ++ [label]) = outcomes trace ++ label.event.outcome.toList :=
  filterMap_snoc _ trace label

theorem trailingFailures_snoc :
    trailingFailures (trace ++ [label]) = match label.event.outcome with
      | some true => 0
      | some false => trailingFailures trace + 1
      | none => trailingFailures trace := by
  unfold trailingFailures
  rw [outcomes_snoc]
  rcases label.event.outcome with _ | _ | _ <;> simp

theorem lastFailure_snoc :
    lastFailure (trace ++ [label]) = label.event.failedAt.or (lastFailure trace) := by
  unfold lastFailure
  rw [filterMap_snoc]
  cases label.event.failedAt <;> simp

theorem openings_snoc :
    openings (trace ++ [label]) = openings trace +
      if label.before != .opened && label.after == .opened then 1 else 0 := by
  simp [openings, List.countP_append, List.countP_singleton]

variable {label} in
theorem episode_snoc_probing (probing : label.after = .halfOpen) :
    episode (trace ++ [label]) = episode trace ++ [label] := by
  simp [episode, probing]

variable {label} in
theorem episode_snoc_other (other : label.after ≠ .halfOpen) :
    episode (trace ++ [label]) = [] := by
  simp [episode, other]

end Snoc

end BreakerHistory

section FailingCall

variable {config : CircuitBreakerConfig} {trace : List BreakerLabel} {machine : BreakerSystem}
  {breaker : CircuitBreakerEmitter}

/-- A run may be extended by a whole call which is admitted at once and fails at once. -/
theorem BreakerSystem.failingCall (runs : (system config).Runs trace machine)
    (allowed : machine.breaker.shouldAllowRequest machine.clock = (true, breaker)) :
    (system config).Runs
      (trace ++ [⟨.admitted machine.calls machine.clock, machine.circuit, breaker.state.state⟩] ++
        [⟨.failed machine.calls machine.clock, breaker.state.state,
          (breaker.recordFailure machine.clock).state.state⟩])
      ⟨breaker.recordFailure machine.clock, machine.clock, machine.calls + 1,
        (machine.inFlight ++ [machine.calls]).erase machine.calls⟩ :=
  (runs.snoc (Step.admitted (le_refl machine.clock) allowed)).snoc
    (Step.failed (le_refl machine.clock) (by simp))

/-- After such a call of a machine which had none in flight, none is in flight. -/
theorem BreakerSystem.exists_failingCall (runs : (system config).Runs trace machine)
    (quiescent : machine.inFlight = [])
    (allowed : machine.breaker.shouldAllowRequest machine.clock = (true, breaker)) :
    ∃ longer after, (system config).Runs longer after ∧
      after.breaker = breaker.recordFailure machine.clock ∧ after.inFlight = [] ∧
      BreakerHistory.trailingFailures longer = BreakerHistory.trailingFailures trace + 1 := by
  refine ⟨_, _, failingCall runs allowed, rfl, ?_, ?_⟩
  · simp [quiescent]
  · rw [BreakerHistory.trailingFailures_snoc, BreakerHistory.trailingFailures_snoc]
    rfl

end FailingCall

end Polku
