import Polku.Emit.Resilience.StackCalls

/-!
# What becomes of a call on a stack

However calls of `emit` overlap, each of them is rejected without an attempt, or makes one
attempt and then retries while it fails; what the last attempt returned is recorded once,
and the batch is captured once if that was an error.
-/

namespace Polku

open Semantics Data StackHistory

variable {layers : ResilientEmitter} {batch : List Event} {own : List StackEvent}

namespace StackCall

/-- The circuit breaker, if there is one, has admitted the call, and recorded nothing. -/
def Admitted (layers : ResilientEmitter) (own : List StackEvent) : Prop :=
  if layers.circuitBreakerConfig.isSome then ∃ now, circuit own = [.admitted now]
  else circuit own = []

/-- So many attempts were made with so many pauses, of which so many have failed. -/
structure Tried (layers : ResilientEmitter) (batch : List Event) (own : List StackEvent)
    (attempts failures pauses : Nat) : Prop where
  admitted : Admitted layers own
  sent : sent own = List.replicate attempts batch
  failed : ∃ errors : List PluginError, errors.length = failures ∧
    results own = errors.map Except.error
  pauses : retries own = pauses
  unrecovered : recoveries own = 0
  uncaptured : captures own = []

/-- The attempts are over, with some result. -/
structure Ended (layers : ResilientEmitter) (batch : List Event) (own : List StackEvent)
    (result : EmitResult) : Prop where
  sent : sent own = List.replicate (results own).length batch
  attempts : RetryEmitter.Retries layers.maxAttempts.toNat batch
    ((results own).map fun result => ⟨batch, result⟩) result
  pauses : retries own + 1 = (results own).length

/-- A recovery is counted exactly if a retry succeeded. -/
def CountsRecovery (own : List StackEvent) (result : EmitResult) : Prop :=
  recoveries own = if 1 < (results own).length ∧ result = .ok () then 1 else 0

/-- What a circuit breaker records of a result. -/
def Verdict : EmitResult → CircuitEvent → Prop
  | .ok (), verdict => verdict = .succeeded
  | .error _, verdict => ∃ now, verdict = .failed now

/-- The circuit breaker rejected the call, which was not attempted. -/
structure Rejected (layers : ResilientEmitter) (own : List StackEvent) (result : EmitResult) :
    Prop where
  guarded : layers.circuitBreakerConfig.isSome
  result : result = .error .notReady
  circuit : ∃ now, circuit own = [.rejected now]
  unsent : sent own = []
  unpaused : retries own = 0
  unrecovered : recoveries own = 0

/-- The call was attempted, and the circuit breaker, if there is one, has admitted it and then
recorded its result. -/
structure Forwarded (layers : ResilientEmitter) (batch : List Event) (own : List StackEvent)
    (result : EmitResult) : Prop where
  ended : Ended layers batch own result
  recovery : CountsRecovery own result
  circuit : if layers.circuitBreakerConfig.isSome then
      ∃ now verdict, circuit own = [.admitted now, verdict] ∧ Verdict result verdict
    else circuit own = []

/-- One of the two. -/
def Judged (layers : ResilientEmitter) (batch : List Event) (own : List StackEvent)
    (result : EmitResult) : Prop :=
  Rejected layers own result ∨ Forwarded layers batch own result

/-- The batch is captured once if the call failed and there is something to capture it. -/
def Captured (layers : ResilientEmitter) (batch : List Event) (own : List StackEvent) :
    EmitResult → Prop
  | .ok () => captures own = []
  | .error error =>
      match layers.failureCapture with
      | some (_, config) => ∃ world, captures own = [layers.failedEvents config error batch world]
      | none => captures own = []

/-- What a call has done when it has come to a phase. -/
def Reaches (layers : ResilientEmitter) (batch : List Event) (own : List StackEvent) :
    StackPhase → Prop
  | .entering => layers.circuitBreakerConfig.isSome ∧ own = []
  | .starting attempt => attempt ≤ layers.maxAttempts ∧
      Tried layers batch own attempt.toNat attempt.toNat (attempt.toNat - 1)
  | .pausing attempt => attempt ≤ layers.maxAttempts ∧
      Tried layers batch own attempt.toNat attempt.toNat attempt.toNat
  | .waiting attempt => attempt ≤ layers.maxAttempts ∧
      Tried layers batch own (attempt.toNat + 1) attempt.toNat attempt.toNat
  | .recovering => Admitted layers own ∧ Ended layers batch own (.ok ()) ∧
      1 < (results own).length ∧ recoveries own = 0 ∧ captures own = []
  | .recording result => layers.circuitBreakerConfig.isSome ∧ Admitted layers own ∧
      Ended layers batch own result ∧ CountsRecovery own result ∧ captures own = []
  | .capturing error => layers.failureCapture.isSome ∧
      Judged layers batch own (.error error) ∧ captures own = []
  | .returned result => Judged layers batch own result ∧ Captured layers batch own result

/-! ### Each phase leads to the next -/

/-- A new call has done nothing. -/
theorem Reaches.first (layers : ResilientEmitter) (batch : List Event) :
    Reaches layers batch [] (.first layers) := by
  unfold StackPhase.first
  split
  case isTrue guarded => exact ⟨guarded, rfl⟩
  case isFalse unguarded =>
      refine ⟨UInt32.zero_le, ?_, rfl, ⟨[], rfl, rfl⟩, rfl, rfl, rfl⟩
      rw [Admitted, if_neg unguarded]
      rfl

/-- What the circuit breaker returns is returned, or captured first. -/
theorem Reaches.afterRecording {result : EmitResult} (judged : Judged layers batch own result)
    (uncaptured : captures own = []) :
    Reaches layers batch own (.afterRecording layers result) := by
  cases result with
  | ok => exact ⟨judged, uncaptured⟩
  | error error =>
      simp only [StackPhase.afterRecording]
      split
      case isTrue captures => exact ⟨captures, judged, uncaptured⟩
      case isFalse none =>
          rw [Bool.not_eq_true, Option.isSome_eq_false_iff, Option.isNone_iff_eq_none] at none
          refine ⟨judged, ?_⟩
          simpa only [Captured, none] using uncaptured

/-- What the retries return is recorded by the circuit breaker, if there is one. -/
theorem Reaches.afterRetries {result : EmitResult} (admitted : Admitted layers own)
    (ended : Ended layers batch own result) (recovery : CountsRecovery own result)
    (uncaptured : captures own = []) :
    Reaches layers batch own (.afterRetries layers result) := by
  unfold StackPhase.afterRetries
  split
  case isTrue guarded => exact ⟨guarded, admitted, ended, recovery, uncaptured⟩
  case isFalse unguarded =>
      rw [Admitted, if_neg unguarded] at admitted
      refine .afterRecording (.inr ⟨ended, recovery, ?_⟩) uncaptured
      rwa [if_neg unguarded]

/-- Without a pause there is only the first attempt. -/
theorem delay_eq_zero {attempt : UInt32} (within : attempt ≤ layers.maxAttempts) (jitter : ℚ) :
    layers.delay attempt jitter = 0 ↔ attempt = 0 := by
  unfold ResilientEmitter.delay
  unfold ResilientEmitter.maxAttempts at within
  cases chosen : layers.retryConfig with
  | none =>
      simp only [chosen] at within
      simpa using UInt32.le_antisymm within UInt32.zero_le
  | some config =>
      exact config.delayForAttempt_eq_zero attempt ⟨fun _ => 0, 0, fun _ => jitter, 0⟩

/-- The attempts end with one which succeeds, or with the last one which may be made. -/
theorem Tried.ended {attempt : UInt32} (result : EmitResult)
    (within : attempt ≤ layers.maxAttempts)
    (tried : Tried layers batch own (attempt.toNat + 1) attempt.toNat attempt.toNat)
    (last : result ≠ .ok () → attempt = layers.maxAttempts) :
    Ended layers batch (own ++ [.answered result]) result ∧
      (results (own ++ [.answered result])).length = attempt.toNat + 1 := by
  obtain ⟨errors, count, failed⟩ := tried.failed
  have answers : results (own ++ [.answered result]) = errors.map Except.error ++ [result] := by
    rw [results_snoc, failed]
    rfl
  have length : (results (own ++ [.answered result])).length = attempt.toNat + 1 := by
    simp [answers, count]
  have bounded := UInt32.le_iff_toNat_le.mp within
  refine ⟨⟨?_, ?_, ?_⟩, length⟩
  · rw [length]
    simpa [StackEvent.sent?] using tried.sent
  · rw [answers]
    refine ⟨?_, ?_, ?_, ?_, ?_, ?_⟩
    · intro call member
      obtain ⟨answer, -, rfl⟩ := List.mem_map.mp member
      rfl
    · simp
    · simpa [count] using bounded
    · simp
    · simp
    · intro unsuccessful
      simp [count, last unsuccessful]
  · rw [length]
    simpa [StackEvent.isPaused] using tried.pauses

/-- The answer to an attempt ends the attempts, or another follows. -/
theorem Reaches.afterAttempt {attempt : UInt32} (within : attempt ≤ layers.maxAttempts)
    (tried : Tried layers batch own (attempt.toNat + 1) attempt.toNat attempt.toNat)
    (result : EmitResult) :
    Reaches layers batch (own ++ [.answered result]) (.afterAttempt layers attempt result) := by
  have admitted : Admitted layers (own ++ [.answered result]) := by
    simpa [Admitted, StackEvent.label?] using tried.admitted
  have uncaptured : captures (own ++ [.answered result]) = [] := by
    simpa [StackEvent.capture?] using tried.uncaptured
  have unrecovered : recoveries (own ++ [.answered result]) = 0 := by
    simpa [StackEvent.isRecovered] using tried.unrecovered
  cases result with
  | ok =>
      obtain ⟨ended, length⟩ := tried.ended (.ok ()) within fun failed => absurd rfl failed
      simp only [StackPhase.afterAttempt]
      split
      case isTrue again =>
          have more : 1 < attempt.toNat + 1 := Nat.succ_lt_succ (UInt32.lt_iff_toNat_lt.mp again)
          exact ⟨admitted, ended, more.trans_eq length.symm, unrecovered, uncaptured⟩
      case isFalse notAgain =>
          have isFirst : attempt.toNat = 0 := by
            rw [UInt32.lt_iff_toNat_lt] at notAgain
            simpa using notAgain
          refine .afterRetries admitted ended ?_ uncaptured
          rw [CountsRecovery, unrecovered, length, isFirst]
          rfl
  | error error =>
      simp only [StackPhase.afterAttempt]
      split
      case isTrue more =>
          obtain ⟨errors, count, failed⟩ := tried.failed
          have next := CircuitBreakerEmitter.toNat_succ more
          refine ⟨?_, admitted, ?_, ⟨errors ++ [error], ?_, ?_⟩, ?_, unrecovered, uncaptured⟩
          · rw [UInt32.le_iff_toNat_le, next]
            exact UInt32.lt_iff_toNat_lt.mp more
          · rw [next]
            simpa [StackEvent.sent?] using tried.sent
          · simp [count, next]
          · simp [failed, StackEvent.result?]
          · rw [next]
            simpa [StackEvent.isPaused] using tried.pauses
      case isFalse noMore =>
          have last : attempt = layers.maxAttempts :=
            UInt32.le_antisymm within (UInt32.not_lt.mp noMore)
          obtain ⟨ended, -⟩ := tried.ended (.error error) within fun _ => last
          refine .afterRetries admitted ended ?_ uncaptured
          simp [CountsRecovery, unrecovered]

variable {shared shared' : StackShared} {call call' : StackCall} {event : StackEvent}

/-- A pause comes before a retry, and is counted. -/
private theorem Reaches.pause {attempt : UInt32} {jitter : ℚ}
    (reaches : Reaches layers batch own (.starting attempt))
    (positive : layers.delay attempt jitter ≠ 0) :
    Reaches layers batch (own ++ [.paused attempt]) (.pausing attempt) := by
  obtain ⟨within, tried⟩ := reaches
  have again : attempt ≠ 0 := fun isFirst => positive ((delay_eq_zero within jitter).mpr isFirst)
  have some : 0 < attempt.toNat := UInt32.lt_iff_toNat_lt.mp (UInt32.pos_iff_ne_zero.mpr again)
  refine ⟨within, ?_, ?_, ?_, ?_, ?_, ?_⟩
  · simpa [Admitted, StackEvent.label?] using tried.admitted
  · simpa [StackEvent.sent?] using tried.sent
  · simpa [StackEvent.result?] using tried.failed
  · have pauses := tried.pauses
    simp only [retries_snoc, StackEvent.isPaused, Bool.toNat_true]
    omega
  · simpa [StackEvent.isRecovered] using tried.unrecovered
  · simpa [StackEvent.capture?] using tried.uncaptured

/-- An attempt is a call with the whole batch. -/
private theorem Reaches.attempt {attempt : UInt32} (within : attempt ≤ layers.maxAttempts)
    (tried : Tried layers batch own attempt.toNat attempt.toNat attempt.toNat) :
    Reaches layers batch (own ++ [.called batch]) (.waiting attempt) := by
  refine ⟨within, ?_, ?_, ?_, ?_, ?_, ?_⟩
  · simpa [Admitted, StackEvent.label?] using tried.admitted
  · simp [tried.sent, StackEvent.sent?, List.replicate_succ']
  · simpa [StackEvent.result?] using tried.failed
  · simpa [StackEvent.isPaused] using tried.pauses
  · simpa [StackEvent.isRecovered] using tried.unrecovered
  · simpa [StackEvent.capture?] using tried.uncaptured

/-- What is neither an attempt nor an answer leaves the attempts as they are. -/
private theorem Ended.idle {result : EmitResult} (ended : Ended layers batch own result)
    (unsent : event.sent? = none) (unanswered : event.result? = none)
    (unpaused : event.isPaused = false) : Ended layers batch (own ++ [event]) result := by
  refine ⟨?_, ?_, ?_⟩
  · simpa [unsent, unanswered] using ended.sent
  · simpa [unanswered] using ended.attempts
  · simpa [unanswered, unpaused] using ended.pauses

/-- What is captured has no part in how the call is judged. -/
private theorem Judged.captured {result : EmitResult} (judged : Judged layers batch own result)
    (failed : List FailedEvent) : Judged layers batch (own ++ [.captured failed]) result := by
  rcases judged with rejected | forwarded
  · refine .inl ⟨rejected.guarded, rejected.result, ?_, ?_, ?_, ?_⟩
    · simpa [StackEvent.label?] using rejected.circuit
    · simpa [StackEvent.sent?] using rejected.unsent
    · simpa [StackEvent.isPaused] using rejected.unpaused
    · simpa [StackEvent.isRecovered] using rejected.unrecovered
  · refine .inr ⟨forwarded.ended.idle rfl rfl rfl, ?_, ?_⟩
    · simpa [CountsRecovery, StackEvent.isRecovered, StackEvent.result?] using forwarded.recovery
    · simpa [StackEvent.label?] using forwarded.circuit

/-- What the circuit breaker records of a result is its verdict. -/
private theorem Reaches.record {result : EmitResult} {label : CircuitLabel}
    (reaches : Reaches layers batch own (.recording result))
    (verdict : Verdict result label.event) :
    Reaches layers batch (own ++ [.circuit label]) (.afterRecording layers result) := by
  obtain ⟨guarded, admitted, ended, recovery, uncaptured⟩ := reaches
  rw [Admitted, if_pos guarded] at admitted
  obtain ⟨now, asked⟩ := admitted
  refine .afterRecording (.inr ⟨ended.idle rfl rfl rfl, ?_, ?_⟩) ?_
  · simpa [CountsRecovery, StackEvent.isRecovered, StackEvent.result?] using recovery
  · rw [if_pos guarded]
    exact ⟨now, label.event, by simp [asked, StackEvent.label?], verdict⟩
  · simpa [StackEvent.capture?] using uncaptured

/-- Each step of a call brings it to its next phase. -/
theorem Reaches.step (reaches : Reaches layers call.batch own call.phase)
    (step : Step layers shared call event shared' call') :
    call'.batch = call.batch ∧ Reaches layers call'.batch (own ++ [event]) call'.phase := by
  cases step with
  | @allow batch now breaker later allowed =>
      obtain ⟨guarded, rfl⟩ := reaches
      refine ⟨rfl, UInt32.zero_le, ?_, rfl, ⟨[], rfl, rfl⟩, rfl, rfl, rfl⟩
      rw [Admitted, if_pos guarded]
      exact ⟨now, rfl⟩
  | @reject batch now breaker later refused =>
      obtain ⟨guarded, rfl⟩ := reaches
      exact ⟨rfl, .afterRecording (.inl ⟨guarded, rfl, ⟨now, rfl⟩, rfl, rfl, rfl⟩) rfl⟩
  | pause jitter positive => exact ⟨rfl, reaches.pause positive⟩
  | call jitter none =>
      obtain ⟨within, tried⟩ := reaches
      obtain rfl := (delay_eq_zero within jitter).mp none
      exact ⟨rfl, .attempt within tried⟩
  | resume => exact ⟨rfl, .attempt reaches.1 reaches.2⟩
  | answer result => exact ⟨rfl, .afterAttempt reaches.1 reaches.2 result⟩
  | recover =>
      obtain ⟨admitted, ended, again, unrecovered, uncaptured⟩ := reaches
      refine ⟨rfl, .afterRetries ?_ (ended.idle rfl rfl rfl) ?_ ?_⟩
      · simpa [Admitted, StackEvent.label?] using admitted
      · simp [CountsRecovery, StackEvent.isRecovered, StackEvent.result?, unrecovered, again]
      · simpa [StackEvent.capture?] using uncaptured
  | succeed => exact ⟨rfl, reaches.record rfl⟩
  | @fail batch error now later => exact ⟨rfl, reaches.record ⟨now, rfl⟩⟩
  | @capture batch error buffer config world chosen =>
      obtain ⟨-, judged, uncaptured⟩ := reaches
      refine ⟨rfl, judged.captured _, ?_⟩
      simp only [Captured, chosen]
      exact ⟨world, by simp [uncaptured, StackEvent.capture?]⟩

end StackCall

end Polku
