import Polku.Emit.Resilience.Config
import Polku.Message

/-!
# The full resilience stack

Retries, a circuit breaker and failure capture around an emitter whose calls are
logged. Batches are emitted one after another; a `StackRecord` keeps what one of
them led to. The breaker's state and all counters carry over from one batch to
the next.
-/

namespace Polku

namespace ResilientEmitter

/-- All three layers around an emitter whose calls are logged. -/
def fullStack (inner : Emitter) (retry : BackoffConfig) (breaker : CircuitBreakerConfig)
    (buffer : FailureBuffer) (capture : FailureCaptureConfig) : Emitter :=
  ((((wrap inner.logged).withRetry retry).withCircuitBreaker breaker).withFailureCapture
    buffer capture).build

end ResilientEmitter

/-- What the layers of a full stack hold. -/
abbrev StackState (Inner : Type) : Type :=
  (RetryEmitter (Inner × List EmitCall) × CircuitBreakerEmitter) × FailureBuffer

namespace StackState

variable {Inner : Type} (self : StackState Inner)

/-- The calls made on the innermost emitter. -/
def calls : List EmitCall := self.1.1.inner.2

/-- The state of the retries. -/
def retry : RetryEmitter (Inner × List EmitCall) := self.1.1

/-- The state of the circuit breaker. -/
def breaker : CircuitBreakerEmitter := self.1.2

/-- The failure buffer. -/
def buffer : FailureBuffer := self.2

end StackState

/-- One batch emitted through a stack: the result, the calls it led to and the
circuit breaker before and after it. -/
structure StackRecord where
  events : List Event
  result : EmitResult
  calls : List EmitCall
  before : CircuitBreakerEmitter
  after : CircuitBreakerEmitter

namespace StackRecord

/-- The breaker rejected the batch, which it counted, and recorded no outcome. -/
structure Rejected (record : StackRecord) : Prop where
  result : record.result = .error .notReady
  calls : record.calls = []
  breaker : ∃ now, record.before.shouldAllowRequest now = (false, record.after)
  counted : record.after = { record.before with rejectedCount := record.before.rejectedCount + 1 }

/-- The breaker admitted the batch, which was tried with retries, and recorded the
result of the last attempt, once: `Allows`, `Succeeds` and `Fails` say what becomes of
each of its fields. -/
structure Forwarded (retry : BackoffConfig) (record : StackRecord) : Prop where
  calls : RetryEmitter.Retries retry.maxAttempts.toNat record.events record.calls record.result
  breaker : ∃ now breaker, record.before.shouldAllowRequest now = (true, breaker) ∧
    record.before.Allows now breaker ∧
    (record.result = .ok () →
      record.after = breaker.recordSuccess ∧ breaker.Succeeds record.after) ∧
    (record.result ≠ .ok () → ∃ later,
      record.after = breaker.recordFailure later ∧ breaker.Fails later record.after)

/-- Whether the batch failed. -/
def failed (record : StackRecord) : Bool := record.result ≠ .ok ()

/-- Whether the batch was emitted by a retry. -/
def recovered (record : StackRecord) : Bool :=
  1 < record.calls.length ∧ record.result = .ok ()

end StackRecord

section Runs

variable (inner : Emitter) (retry : BackoffConfig) (breaker : CircuitBreakerConfig)
  (buffer : FailureBuffer) (capture : FailureCaptureConfig)

/-- The state of a new stack. -/
def stackStart : StackState inner.State :=
  (ResilientEmitter.fullStack inner retry breaker buffer capture).state

/-- What `emit` of a stack does. -/
def stackEmit (state : StackState inner.State) (events : List Event) (world : World) :
    EmitResult × StackState inner.State × World :=
  (ResilientEmitter.fullStack inner retry breaker buffer capture).emit state events world

/-- Emit one batch through a stack. -/
def emitRecorded (state : StackState inner.State) (events : List Event) (world : World) :
    StackRecord × StackState inner.State × World :=
  let (result, next, world) := stackEmit inner retry breaker buffer capture state events world
  (⟨events, result, next.calls.drop state.calls.length, state.breaker, next.breaker⟩, next, world)

/-- Emit batches one after another. -/
def emitBatches (state : StackState inner.State) :
    List (List Event) → World → List StackRecord × StackState inner.State × World
  | [], world => ([], state, world)
  | events :: batches, world =>
      let (record, next, world) :=
        emitRecorded inner retry breaker buffer capture state events world
      let (records, last, world) := emitBatches next batches world
      (record :: records, last, world)

end Runs

/-! ## What one batch does -/

section Step

variable {inner : Emitter} {retry : BackoffConfig} {breaker : CircuitBreakerConfig}
  {buffer : FailureBuffer} {capture : FailureCaptureConfig} {state next : StackState inner.State}
  {events : List Event} {world later : World} {record : StackRecord}

/-- What the breaker and the retries inside it do with a batch. -/
private theorem breaker_emit (state : RetryEmitter inner.logged.State × CircuitBreakerEmitter)
    {result : EmitResult} {after : RetryEmitter inner.logged.State × CircuitBreakerEmitter}
    (done : CircuitBreakerEmitter.emit (RetryEmitter.emit inner.logged.emit retry) state events
      world = (result, after, later)) :
    ∃ calls, after.1.inner.2 = state.1.inner.2 ++ calls ∧
      ((⟨events, result, calls, state.2, after.2⟩ : StackRecord).Rejected ∨
        (⟨events, result, calls, state.2, after.2⟩ : StackRecord).Forwarded retry) ∧
      after.1.retryCount = state.1.retryCount + (calls.length - 1) ∧
      after.1.recoveredCount = state.1.recoveredCount +
        if 1 < calls.length ∧ result = .ok () then 1 else 0 := by
  unfold CircuitBreakerEmitter.emit at done
  rcases reading : world.now with ⟨now, woken⟩
  rcases admission : state.2.shouldAllowRequest now with ⟨allowed, admitted⟩
  simp only [reading, admission] at done
  cases allowed with
  | false =>
      obtain ⟨rfl, rfl, -⟩ : .error .notReady = result ∧ (state.1, admitted) = after ∧
          woken = later := by simpa using done
      have rejected := (CircuitBreakerEmitter.rejects_of_shouldAllowRequest admission).2
      exact ⟨[], by simp, .inl ⟨rfl, rfl, ⟨now, admission⟩, rejected⟩, by simp, by simp⟩
  | true =>
      rcases attempt : RetryEmitter.emit inner.logged.emit retry state.1 events woken with
        ⟨answer, retried, rest⟩
      obtain ⟨calls, logged, retries, counted, recovered⟩ :=
        RetryEmitter.emit_spec inner state.1 woken attempt
      simp only [attempt] at done
      have allows := CircuitBreakerEmitter.allows_of_shouldAllowRequest admission
      cases answer with
      | ok =>
          obtain ⟨rfl, rfl, -⟩ : .ok () = result ∧ (retried, admitted.recordSuccess) = after ∧
              rest = later := by simpa using done
          refine ⟨calls, logged, .inr ⟨retries, now, admitted, admission, allows, ?_, ?_⟩, counted,
            recovered⟩
          · exact fun _ => ⟨rfl, admitted.succeeds_recordSuccess⟩
          · exact fun failed => absurd rfl failed
      | error error =>
          rcases clock : rest.now with ⟨failedAt, end_⟩
          simp only [clock] at done
          obtain ⟨rfl, rfl, -⟩ : .error error = result ∧
              (retried, admitted.recordFailure failedAt) = after ∧ end_ = later := by
            simpa using done
          refine ⟨calls, logged, .inr ⟨retries, now, admitted, admission, allows, ?_, ?_⟩, counted,
            recovered⟩
          · rintro ⟨⟩
          · exact fun _ => ⟨failedAt, rfl, admitted.fails_recordFailure failedAt⟩

/-- What one batch does to a stack. -/
structure Serves (retry : BackoffConfig) {Inner : Type} (state : StackState Inner)
    (record : StackRecord) (next : StackState Inner) : Prop where
  outcome : record.Rejected ∨ record.Forwarded retry
  breaker : record.before = state.breaker ∧ record.after = next.breaker
  calls : next.calls = state.calls ++ record.calls
  retryCount : next.retry.retryCount = state.retry.retryCount + (record.calls.length - 1)
  recoveredCount : next.retry.recoveredCount =
    state.retry.recoveredCount + if record.recovered then 1 else 0
  captured : next.buffer.events.map FailedEvent.event =
    state.buffer.events.map FailedEvent.event ++ if record.failed then record.events else []
  capacity : next.buffer.capacity = state.buffer.capacity

/-- What the breaker did is kept in the record, and a failed batch is captured as a
whole if the buffer has room for it. -/
private theorem emitRecorded_serves (storesAll : capture.storeFullBatch = true)
    (done : emitRecorded inner retry breaker buffer capture state events world =
      (record, next, later))
    (room : record.failed = true →
      state.buffer.events.length + events.length ≤ state.buffer.capacity) :
    record.events = events ∧ Serves retry state record next := by
  rcases emitted : CircuitBreakerEmitter.emit (RetryEmitter.emit inner.logged.emit retry)
    state.1 events world with ⟨result, ⟨retries, circuit⟩, rest⟩
  obtain ⟨calls, logged, outcome, counted, recovered⟩ := breaker_emit state.1 emitted
  have unfolded : stackEmit inner retry breaker buffer capture state events world =
      FailureCaptureEmitter.emit "circuit_breaker"
        (CircuitBreakerEmitter.emit (RetryEmitter.emit inner.logged.emit retry)) capture state
        events world := rfl
  have recordIs : ∀ result (last : FailureBuffer),
      (⟨events, result, calls, state.breaker, circuit⟩ : StackRecord) =
        ⟨events, result, (StackState.calls ((retries, circuit), last)).drop state.calls.length,
          state.breaker, circuit⟩ := by
    intro result last
    have appended : StackState.calls ((retries, circuit), last) = state.calls ++ calls := logged
    rw [appended, List.drop_left]
  simp only [emitRecorded, unfolded, FailureCaptureEmitter.emit, emitted] at done
  cases result with
  | ok =>
      simp only [Prod.mk.injEq] at done
      obtain ⟨recorded, rfl, -⟩ := done
      obtain rfl := (recordIs _ _).trans recorded
      refine ⟨rfl, outcome, ⟨rfl, rfl⟩, logged, counted, ?_, ?_, rfl⟩
      · simpa [StackRecord.recovered, StackState.retry] using recovered
      · simp [StackRecord.failed, StackState.buffer]
  | error error =>
      simp only [FailureCaptureEmitter.capture, storesAll, if_true, Prod.mk.injEq] at done
      obtain ⟨recorded, rfl, -⟩ := done
      obtain rfl := (recordIs _ _).trans recorded
      have captured := FailureCaptureEmitter.failedEvents_event error.toText "circuit_breaker"
        events rest
      have sameLength := congrArg List.length captured
      rw [List.length_map] at sameLength
      have pushed := @FailureBuffer.push_of_room state.buffer _ <| by
        rw [sameLength]
        exact room (by simp [StackRecord.failed])
      refine ⟨rfl, outcome, ⟨rfl, rfl⟩, logged, counted, ?_, ?_, pushed.2⟩
      · simpa [StackRecord.recovered, StackState.retry] using recovered
      · change (state.buffer.push _).events.map _ = _
        simp [pushed.1, captured, StackRecord.failed]

end Step

/-! ## What a sequence of batches does -/

/-- What emitting batches does to a stack: each was rejected or forwarded, the
breaker is carried from one to the next, and the counters and the failure buffer sum
up what happened. -/
structure StackLaw (retry : BackoffConfig) {Inner : Type} (state : StackState Inner)
    (records : List StackRecord) (last : StackState Inner) : Prop where
  outcomes : ∀ record ∈ records, record.Rejected ∨ record.Forwarded retry
  chained : state.breaker :: records.map StackRecord.after =
    records.map StackRecord.before ++ [last.breaker]
  calls : last.calls = state.calls ++ records.flatMap StackRecord.calls
  retryCount : last.retry.retryCount = state.retry.retryCount +
    (records.map fun record => record.calls.length - 1).sum
  recoveredCount : last.retry.recoveredCount =
    state.retry.recoveredCount + records.countP StackRecord.recovered
  captured : last.buffer.events.map FailedEvent.event =
    state.buffer.events.map FailedEvent.event ++
      (records.filter StackRecord.failed).flatMap StackRecord.events

/-- No batch changes nothing. -/
private theorem StackLaw.nil {retry : BackoffConfig} {Inner : Type} (state : StackState Inner) :
    StackLaw retry state [] state where
  outcomes := by simp
  chained := rfl
  calls := by simp
  retryCount := rfl
  recoveredCount := rfl
  captured := by simp

/-- A batch comes before the others. -/
private theorem StackLaw.cons {retry : BackoffConfig} {Inner : Type}
    {state next last : StackState Inner} {record : StackRecord} {records : List StackRecord}
    (first : Serves retry state record next) (others : StackLaw retry next records last) :
    StackLaw retry state (record :: records) last where
  outcomes := by
    intro other member
    rcases List.mem_cons.mp member with rfl | member
    · exact first.outcome
    · exact others.outcomes other member
  chained := by simp [first.breaker, others.chained]
  calls := by simp [others.calls, first.calls]
  retryCount := by
    rw [others.retryCount, first.retryCount, List.map_cons, List.sum_cons, Nat.add_assoc]
  recoveredCount := by
    rw [others.recoveredCount, first.recoveredCount, List.countP_cons]
    omega
  captured := by
    rw [others.captured, first.captured]
    cases failed : record.failed <;> simp [failed]

section Sequence

variable (inner : Emitter) (retry : BackoffConfig) (breaker : CircuitBreakerConfig)
  (buffer : FailureBuffer) (capture : FailureCaptureConfig)

/-- The events of the batches which failed. -/
def failedBatches (records : List StackRecord) : List Event :=
  (records.filter StackRecord.failed).flatMap StackRecord.events

/-- Emitting batches one after another keeps the law of the stack, as long as the
failure buffer has room for what fails. -/
private theorem emitBatches_keeps (storesAll : capture.storeFullBatch = true)
    (batches : List (List Event)) (state : StackState inner.State) (world : World)
    {records : List StackRecord} {last : StackState inner.State} {later : World}
    (done : emitBatches inner retry breaker buffer capture state batches world =
      (records, last, later))
    (room : state.buffer.events.length + (failedBatches records).length ≤
      state.buffer.capacity) :
    records.map StackRecord.events = batches ∧ StackLaw retry state records last := by
  induction batches generalizing state world records with
  | nil =>
      obtain ⟨rfl, rfl, -⟩ : [] = records ∧ state = last ∧ world = later := by
        simpa [emitBatches] using done
      exact ⟨rfl, .nil state⟩
  | cons events batches inductionHypothesis =>
      rcases first : emitRecorded inner retry breaker buffer capture state events world with
        ⟨record, next, woken⟩
      rcases others : emitBatches inner retry breaker buffer capture next batches woken with
        ⟨rest, end_, after⟩
      obtain ⟨rfl, rfl, rfl⟩ : record :: rest = records ∧ end_ = last ∧ after = later := by
        simpa [emitBatches, first, others] using done
      have sameEvents : record.events = events := by
        have projected := congrArg (fun triple => triple.1.events) first
        exact projected.symm
      have total : (failedBatches (record :: rest)).length =
          (if record.failed then events.length else 0) + (failedBatches rest).length := by
        cases failed : record.failed <;> simp [failedBatches, failed, sameEvents]
      rw [total] at room
      obtain ⟨-, serves⟩ := emitRecorded_serves storesAll first fun failed => by
        simp only [failed, if_true] at room
        omega
      have grown := congrArg List.length serves.captured
      rw [sameEvents] at grown
      have roomLeft : next.buffer.events.length + (failedBatches rest).length ≤
          next.buffer.capacity := by
        rw [serves.capacity]
        cases failed : record.failed <;> simp [failed] at grown room ⊢ <;> omega
      obtain ⟨sameBatches, law⟩ := inductionHypothesis next woken others roomLeft
      exact ⟨by simp [sameEvents, sameBatches], .cons serves law⟩

/-- Batches emitted one after another through a new stack whose failure buffer has
room for all that fails: each batch is rejected, or is tried with retries and its
outcome is recorded once; the failure buffer holds the events of the failed batches,
in order; and the counters of the retries count what the calls show. -/
theorem emitBatches_law (storesAll : capture.storeFullBatch = true) (capacity : Nat)
    (batches : List (List Event)) (world : World) {records : List StackRecord}
    {last : StackState inner.State} {later : World}
    (done : emitBatches inner retry breaker (.new capacity) capture
      (stackStart inner retry breaker (.new capacity) capture) batches world =
        (records, last, later))
    (room : (failedBatches records).length ≤ capacity) :
    records.map StackRecord.events = batches ∧
    (∀ record ∈ records, record.Rejected ∨ record.Forwarded retry) ∧
    CircuitBreakerEmitter.init breaker :: records.map StackRecord.after =
      records.map StackRecord.before ++ [last.breaker] ∧
    last.calls = records.flatMap StackRecord.calls ∧
    last.retry.retryCount = (records.map fun record => record.calls.length - 1).sum ∧
    last.retry.recoveredCount = records.countP StackRecord.recovered ∧
    last.buffer.events.map FailedEvent.event = failedBatches records := by
  obtain ⟨sameBatches, law⟩ := emitBatches_keeps inner retry breaker (.new capacity) capture
    storesAll batches _ world done ((Nat.zero_add _).trans_le room)
  refine ⟨sameBatches, law.outcomes, law.chained, law.calls, ?_, ?_, law.captured⟩
  · exact law.retryCount.trans (Nat.zero_add _)
  · exact law.recoveredCount.trans (Nat.zero_add _)

/-- An emitter whose calls fail as long as its state is positive, which each of
them lowers. -/
def failing (failures : Nat) : Emitter where
  name := "failing"
  State := Nat
  state := failures
  emit state _ world := (if state = 0 then .ok () else .error (.send "down"), state - 1, world)
  health _ := true

end Sequence

/-- An event named by its id. -/
def namedEvent (id : String) : Event := (Message.withId id 0 "source" "type" []).toEvent

/-- Three batches emitted without retries and with a breaker which one failure opens, the
last of them when the reset timeout has elapsed. -/
def openedByFirst : List StackRecord × StackState Nat × World :=
  let retry := { BackoffConfig.default with maxAttempts := 0 }
  let breaker := { CircuitBreakerConfig.default with failureThreshold := 1 }
  emitBatches (failing 1) retry breaker (.new 2) .default
    (stackStart (failing 1) retry breaker (.new 2) .default)
    [[namedEvent "1"], [namedEvent "2"], [namedEvent "3"]]
    ⟨fun reads => if reads ≤ 3 then 0 else 30 * 10 ^ 9, 0, fun _ => 0, 0⟩

/-- Opened by the failure of the first batch, the breaker rejects the second; both are
captured. The third one is a probe, whose success is counted once. -/
theorem emitBatches_law_opened :
    openedByFirst.2.1.calls.map EmitCall.events = [[namedEvent "1"], [namedEvent "3"]] ∧
    openedByFirst.1.map (fun record => (record.after.state.state,
        record.after.state.consecutiveFailures, record.after.state.consecutiveSuccesses)) =
      [(.opened, 1, 0), (.opened, 1, 0), (.halfOpen, 0, 1)] ∧
    (∀ record ∈ openedByFirst.1, record.Rejected ∨
      record.Forwarded { BackoffConfig.default with maxAttempts := 0 }) ∧
    openedByFirst.2.1.buffer.events.map FailedEvent.event = [namedEvent "1", namedEvent "2"] := by
  have twoFailed : failedBatches openedByFirst.1 = [namedEvent "1", namedEvent "2"] := by
    decide +kernel
  have room : (failedBatches openedByFirst.1).length ≤ 2 := by
    rw [twoFailed]
    decide
  obtain ⟨-, outcomes, -, -, -, -, captured⟩ := emitBatches_law (failing 1) _ _ .default rfl 2
    [[namedEvent "1"], [namedEvent "2"], [namedEvent "3"]] _ (rfl : openedByFirst = _) room
  exact ⟨by decide +kernel, by decide +kernel, outcomes, captured.trans twoFailed⟩

end Polku
