import Polku.Emit.Resilience.FailureHistory
import Polku.Emit.Resilience.Stack
import Polku.Semantics.Tasks

/-!
# Concurrent calls on one stack

Any number of calls of `emit` overlap on the wrappers which `ResilientEmitter.build` puts
around an emitter, whichever were chosen. They share the counters of the retries, the circuit
breaker and the failure buffer, and what the wrapped emitter answers is arbitrary. Whoever
else has the failure buffer may call it at any time. A call which is cancelled takes no more
steps.
-/

namespace Polku

open Semantics Data

namespace ResilientEmitter

/-- The retries which follow the first attempt, none without that wrapper. -/
def maxAttempts (self : ResilientEmitter) : UInt32 :=
  match self.retryConfig with
  | some config => config.maxAttempts
  | none => 0

/-- The delay before an attempt, given a jitter value. -/
def delay (self : ResilientEmitter) (attempt : UInt32) (jitter : ℚ) : Nat :=
  match self.retryConfig with
  | some config => config.delayForAttemptWithJitter attempt jitter
  | none => 0

/-- The name which is recorded with a failed event: that of what the capture wraps. -/
def capturedName (self : ResilientEmitter) : String :=
  ({ self with failureCapture := none } : ResilientEmitter).build.name

/-- What is captured of a batch which failed, with some readings of the clock. -/
def failedEvents (self : ResilientEmitter) (config : FailureCaptureConfig) (error : PluginError)
    (batch : List Event) (world : World) : List FailedEvent :=
  (FailureCaptureEmitter.capture config self.capturedName error batch world).1

end ResilientEmitter

/-- What the calls on a stack share. What belongs to a wrapper which was not chosen is never
used. -/
structure StackShared where
  retryCount : Nat
  recoveredCount : Nat
  breaker : CircuitBreakerEmitter
  clock : Nat
  failures : FailureBuffer

/-- A stack before its first call. -/
def StackShared.start (layers : ResilientEmitter) (clock : Nat) : StackShared where
  retryCount := 0
  recoveredCount := 0
  breaker := .init (layers.circuitBreakerConfig.getD .default)
  clock := clock
  failures := match layers.failureCapture with
    | some (buffer, _) => buffer
    | none => .new 0

/-- What a step did to a circuit, whichever call took it. -/
inductive CircuitEvent where
  | admitted (now : Nat)
  | rejected (now : Nat)
  | succeeded
  | failed (now : Nat)
deriving DecidableEq

/-- A step on a circuit together with its state before and after it. -/
structure CircuitLabel where
  event : CircuitEvent
  before : CircuitState
  after : CircuitState
deriving DecidableEq

/-- What can be seen of a step on a stack. -/
inductive StackEvent where
  | circuit (label : CircuitLabel)
  | paused (attempt : UInt32)
  | called (events : List Event)
  | answered (result : EmitResult)
  | recovered
  | captured (failed : List FailedEvent)
  /-- The failure buffer is called from elsewhere. -/
  | owned (call : FailureCall)

/-- Where a call of `emit` stands. `starting attempt` is the head of the loop of the retries,
`waiting attempt` while the wrapped emitter has been called. -/
inductive StackPhase where
  | entering
  | starting (attempt : UInt32)
  | pausing (attempt : UInt32)
  | waiting (attempt : UInt32)
  | recovering
  | recording (result : EmitResult)
  | capturing (error : PluginError)
  | returned (result : EmitResult)

namespace StackPhase

/-- Where a call starts: without a circuit breaker nothing is asked. -/
def first (layers : ResilientEmitter) : StackPhase :=
  if layers.circuitBreakerConfig.isSome then .entering else .starting 0

/-- Where a call goes with what the circuit breaker returns. -/
def afterRecording (layers : ResilientEmitter) : EmitResult → StackPhase
  | .ok () => .returned (.ok ())
  | .error error =>
      if layers.failureCapture.isSome then .capturing error else .returned (.error error)

/-- Where a call goes with what the retries return. -/
def afterRetries (layers : ResilientEmitter) (result : EmitResult) : StackPhase :=
  if layers.circuitBreakerConfig.isSome then .recording result else afterRecording layers result

/-- Where a call goes with the answer to an attempt. -/
def afterAttempt (layers : ResilientEmitter) (attempt : UInt32) : EmitResult → StackPhase
  | .ok () => if 0 < attempt then .recovering else afterRetries layers (.ok ())
  | .error error =>
      if attempt < layers.maxAttempts then .starting (attempt + 1)
      else afterRetries layers (.error error)

end StackPhase

/-- A call of `emit` with its batch. -/
structure StackCall where
  batch : List Event
  phase : StackPhase

/-- The steps of a call of `emit`. -/
inductive StackCall.Step (layers : ResilientEmitter) :
    StackShared → StackCall → StackEvent → StackShared → StackCall → Prop where
  | allow {shared batch now breaker} (later : shared.clock ≤ now)
      (allowed : shared.breaker.shouldAllowRequest now = (true, breaker)) :
      Step layers shared ⟨batch, .entering⟩
        (.circuit ⟨.admitted now, shared.breaker.state.state, breaker.state.state⟩)
        { shared with breaker := breaker, clock := now } ⟨batch, .starting 0⟩
  | reject {shared batch now breaker} (later : shared.clock ≤ now)
      (refused : shared.breaker.shouldAllowRequest now = (false, breaker)) :
      Step layers shared ⟨batch, .entering⟩
        (.circuit ⟨.rejected now, shared.breaker.state.state, breaker.state.state⟩)
        { shared with breaker := breaker, clock := now }
        ⟨batch, .afterRecording layers (.error .notReady)⟩
  | pause {shared batch attempt} (jitter : ℚ) (positive : layers.delay attempt jitter ≠ 0) :
      Step layers shared ⟨batch, .starting attempt⟩ (.paused attempt)
        { shared with retryCount := shared.retryCount + 1 } ⟨batch, .pausing attempt⟩
  | call {shared batch attempt} (jitter : ℚ) (none : layers.delay attempt jitter = 0) :
      Step layers shared ⟨batch, .starting attempt⟩ (.called batch) shared
        ⟨batch, .waiting attempt⟩
  | resume {shared batch attempt} :
      Step layers shared ⟨batch, .pausing attempt⟩ (.called batch) shared
        ⟨batch, .waiting attempt⟩
  | answer {shared batch attempt} (result : EmitResult) :
      Step layers shared ⟨batch, .waiting attempt⟩ (.answered result) shared
        ⟨batch, .afterAttempt layers attempt result⟩
  | recover {shared batch} :
      Step layers shared ⟨batch, .recovering⟩ .recovered
        { shared with recoveredCount := shared.recoveredCount + 1 }
        ⟨batch, .afterRetries layers (.ok ())⟩
  | succeed {shared batch} :
      Step layers shared ⟨batch, .recording (.ok ())⟩
        (.circuit ⟨.succeeded, shared.breaker.state.state,
          shared.breaker.recordSuccess.state.state⟩)
        { shared with breaker := shared.breaker.recordSuccess }
        ⟨batch, .afterRecording layers (.ok ())⟩
  | fail {shared batch error now} (later : shared.clock ≤ now) :
      Step layers shared ⟨batch, .recording (.error error)⟩
        (.circuit ⟨.failed now, shared.breaker.state.state,
          (shared.breaker.recordFailure now).state.state⟩)
        { shared with breaker := shared.breaker.recordFailure now, clock := now }
        ⟨batch, .afterRecording layers (.error error)⟩
  | capture {shared batch error buffer config} (world : World)
      (chosen : layers.failureCapture = some (buffer, config)) :
      Step layers shared ⟨batch, .capturing error⟩
        (.captured (layers.failedEvents config error batch world))
        { shared with
          failures := shared.failures.push (layers.failedEvents config error batch world) }
        ⟨batch, .returned (.error error)⟩

/-- A task on a stack: a call of `emit`, or one which has the failure buffer. -/
inductive StackTask where
  | call (call : StackCall)
  | owner

namespace StackTask

/-- How a task may start. -/
inductive Start (layers : ResilientEmitter) : StackTask → Prop where
  | call (batch : List Event) : Start layers (.call ⟨batch, .first layers⟩)
  | owner : Start layers .owner

/-- The steps of a task. -/
inductive Step (layers : ResilientEmitter) :
    StackShared → StackTask → StackEvent → StackShared → StackTask → Prop where
  | call {shared call event shared' call'}
      (step : StackCall.Step layers shared call event shared' call') :
      Step layers shared (.call call) event shared' (.call call')
  | owner {shared} (call : FailureCall) :
      Step layers shared .owner (.owned call)
        { shared with failures := (shared.failures.call call).2 } .owner

end StackTask

/-- The tasks of a stack. -/
def ResilientEmitter.tasks (self : ResilientEmitter) :
    Tasks StackShared StackTask StackEvent where
  Start := StackTask.Start self
  Step := StackTask.Step self

/-! ### What a history tells -/

namespace StackEvent

/-- The step taken on the circuit, if any. -/
def label? : StackEvent → Option CircuitLabel
  | circuit label => some label
  | _ => none

/-- The slice which the wrapped emitter is called with, if it is. -/
def sent? : StackEvent → Option (List Event)
  | called events => some events
  | _ => none

/-- What the wrapped emitter returns, if it does. -/
def result? : StackEvent → Option EmitResult
  | answered result => some result
  | _ => none

/-- What is captured, if anything. -/
def capture? : StackEvent → Option (List FailedEvent)
  | captured failed => some failed
  | _ => none

/-- The call of the failure buffer, if there is one. -/
def failureCall? : StackEvent → Option FailureCall
  | captured failed => some (.push failed)
  | owned call => some call
  | _ => none

/-- Whether a retry is counted. -/
def isPaused : StackEvent → Bool
  | paused _ => true
  | _ => false

/-- Whether a recovery is counted. -/
def isRecovered : StackEvent → Bool
  | recovered => true
  | _ => false

end StackEvent

namespace StackHistory

/-- The steps on the circuit, in order. -/
def labels (history : List StackEvent) : List CircuitLabel := history.filterMap StackEvent.label?

/-- What the steps on the circuit did, in order. -/
def circuit (history : List StackEvent) : List CircuitEvent :=
  (labels history).map CircuitLabel.event

/-- The slices which the wrapped emitter was called with, in order. -/
def sent (history : List StackEvent) : List (List Event) := history.filterMap StackEvent.sent?

/-- What the wrapped emitter returned, in order. -/
def results (history : List StackEvent) : List EmitResult := history.filterMap StackEvent.result?

/-- What was captured, in order. -/
def captures (history : List StackEvent) : List (List FailedEvent) :=
  history.filterMap StackEvent.capture?

/-- The calls of the failure buffer, in order. -/
def failureCalls (history : List StackEvent) : List FailureCall :=
  history.filterMap StackEvent.failureCall?

/-- How often a retry was counted. -/
def retries (history : List StackEvent) : Nat := history.countP StackEvent.isPaused

/-- How often a recovery was counted. -/
def recoveries (history : List StackEvent) : Nat := history.countP StackEvent.isRecovered

section Snoc

variable (history : List StackEvent) (event : StackEvent)

@[simp] theorem circuit_snoc : circuit (history ++ [event]) =
    circuit history ++ (event.label?.map CircuitLabel.event).toList := by
  rw [circuit, labels, filterMap_snoc, List.map_append]
  cases event.label? <;> rfl

@[simp] theorem sent_snoc : sent (history ++ [event]) = sent history ++ event.sent?.toList :=
  filterMap_snoc _ history event

@[simp] theorem results_snoc :
    results (history ++ [event]) = results history ++ event.result?.toList :=
  filterMap_snoc _ history event

@[simp] theorem captures_snoc :
    captures (history ++ [event]) = captures history ++ event.capture?.toList :=
  filterMap_snoc _ history event

@[simp] theorem failureCalls_snoc :
    failureCalls (history ++ [event]) = failureCalls history ++ event.failureCall?.toList :=
  filterMap_snoc _ history event

@[simp] theorem retries_snoc :
    retries (history ++ [event]) = retries history + event.isPaused.toNat := by
  cases paused : event.isPaused <;> simp [retries, paused]

@[simp] theorem recoveries_snoc :
    recoveries (history ++ [event]) = recoveries history + event.isRecovered.toNat := by
  cases recovered : event.isRecovered <;> simp [recoveries, recovered]

end Snoc

end StackHistory

end Polku
