import Mathlib.Algebra.Order.BigOperators.Group.List
import Polku.Emit.Resilience.BreakerExposure
import Polku.Emit.Resilience.StackOutcomes

/-!
# Runs of a stack

What the calls on a stack share is what their steps make of it: the circuit breaker goes
through a run of a breaker of its own, and the failure buffer holds what was captured. So an
emitter which fails is called no more often than its breaker and its retries allow.
-/

namespace Polku

open Semantics Data StackHistory

variable {layers : ResilientEmitter} {history : List StackEvent} {shared shared' : StackShared}

/-- What a step of a breaker did, without the number of the call. -/
def BreakerEvent.circuit : BreakerEvent → CircuitEvent
  | .admitted _ now => .admitted now
  | .rejected _ now => .rejected now
  | .succeeded _ => .succeeded
  | .failed _ now => .failed now

/-- A step of a breaker without the number of the call. -/
def BreakerLabel.circuit (self : BreakerLabel) : CircuitLabel :=
  ⟨self.event.circuit, self.before, self.after⟩

/-- Whether a call has been admitted by the circuit breaker and has yet to record its result. -/
def StackTask.inFlight : StackTask → Bool
  | .call ⟨_, .starting _⟩ | .call ⟨_, .pausing _⟩ | .call ⟨_, .waiting _⟩
  | .call ⟨_, .recovering⟩ | .call ⟨_, .recording _⟩ => true
  | _ => false

/-- The breaker of a stack has gone through a run of its own. -/
def Guards (config : CircuitBreakerConfig) (history : List StackEvent) (shared : StackShared)
    (tasks : List StackTask) : Prop :=
  ∃ trace machine, (BreakerSystem.system config).Runs trace machine ∧
    machine.breaker = shared.breaker ∧ machine.clock = shared.clock ∧
    machine.inFlight.length = tasks.countP StackTask.inFlight ∧
    trace.map BreakerLabel.circuit = labels history

section Guards

variable {config : CircuitBreakerConfig} {front back : List StackTask} {task task' : StackTask}
  {event : StackEvent}

/-- A step which leaves the breaker alone. -/
private theorem Guards.idle (guards : Guards config history shared (front ++ task :: back))
    (breaker : shared'.breaker = shared.breaker) (clock : shared'.clock = shared.clock)
    (same : task'.inFlight = task.inFlight) (none : event.label? = none) :
    Guards config (history ++ [event]) shared' (front ++ task' :: back) := by
  obtain ⟨trace, machine, run, isBreaker, isClock, count, seen⟩ := guards
  refine ⟨trace, machine, run, isBreaker.trans breaker.symm, isClock.trans clock.symm, ?_, ?_⟩
  · simpa [List.countP_append, List.countP_cons, same] using count
  · rw [seen, labels, labels, filterMap_snoc, none]
    exact (List.append_nil _).symm

/-- A step which the breaker takes too. -/
private theorem Guards.goesOn {trace : List BreakerLabel} {machine next : BreakerSystem}
    {label : BreakerLabel} (run : (BreakerSystem.system config).Runs trace machine)
    (count : machine.inFlight.length = (front ++ task :: back).countP StackTask.inFlight)
    (seen : trace.map BreakerLabel.circuit = labels history)
    (step : BreakerSystem.Step machine label next)
    (breaker : next.breaker = shared'.breaker) (clock : next.clock = shared'.clock)
    (moved : next.inFlight.length + task.inFlight.toNat =
      machine.inFlight.length + task'.inFlight.toNat) :
    Guards config (history ++ [.circuit label.circuit]) shared' (front ++ task' :: back) := by
  refine ⟨_, next, run.snoc step, breaker, clock, ?_, ?_⟩
  · have oneIf : ∀ task : StackTask, (if task.inFlight then 1 else 0) = task.inFlight.toNat :=
      fun task => by cases task.inFlight <;> rfl
    rw [List.countP_append, List.countP_cons, oneIf] at count ⊢
    omega
  · rw [List.map_append, seen, labels, labels, filterMap_snoc]
    rfl

/-- A call which is in flight is one of those of the breaker. -/
private theorem exists_pending {machine : BreakerSystem}
    (count : machine.inFlight.length = (front ++ task :: back).countP StackTask.inFlight)
    (isInFlight : task.inFlight = true) : ∃ number, number ∈ machine.inFlight := by
  apply List.exists_mem_of_length_pos
  rw [count, List.countP_append, List.countP_cons, if_pos isInFlight]
  omega

/-- Where a call goes with its result, it is no longer in flight. -/
@[simp] theorem inFlight_afterRecording (batch : List Event) (result : EmitResult) :
    (StackTask.call ⟨batch, .afterRecording layers result⟩).inFlight = false := by
  rcases result with error | success
  · simp only [StackPhase.afterRecording]
    split <;> rfl
  · rfl

/-- With a breaker, a call is in flight until its result is recorded. -/
theorem inFlight_afterRetries (guarded : layers.circuitBreakerConfig.isSome) (batch : List Event)
    (result : EmitResult) :
    (StackTask.call ⟨batch, .afterRetries layers result⟩).inFlight = true := by
  rw [StackPhase.afterRetries, if_pos guarded]
  rfl

/-- With a breaker, a call is in flight after each of its attempts. -/
theorem inFlight_afterAttempt (guarded : layers.circuitBreakerConfig.isSome) (batch : List Event)
    (attempt : UInt32) (result : EmitResult) :
    (StackTask.call ⟨batch, .afterAttempt layers attempt result⟩).inFlight = true := by
  rcases result with error | success
  · simp only [StackPhase.afterAttempt]
    split
    · rfl
    · exact inFlight_afterRetries guarded batch _
  · simp only [StackPhase.afterAttempt]
    split
    · rfl
    · exact inFlight_afterRetries guarded batch _

/-- Every step of a call goes on with the run of the breaker. -/
theorem Guards.step (guarded : layers.circuitBreakerConfig.isSome)
    (guards : Guards config history shared (front ++ task :: back))
    (step : StackTask.Step layers shared task event shared' task') :
    Guards config (history ++ [event]) shared' (front ++ task' :: back) := by
  cases step with
  | owner call => exact guards.idle rfl rfl rfl rfl
  | call step =>
      have ⟨trace, machine, run, isBreaker, isClock, count, seen⟩ := guards
      cases step with
      | @allow batch now breaker later allowed =>
          rw [← isBreaker] at allowed ⊢
          refine .goesOn run count seen (.admitted (isClock.trans_le later) allowed) rfl rfl ?_
          simp [StackTask.inFlight]
      | @reject batch now breaker later refused =>
          rw [← isBreaker] at refused ⊢
          refine .goesOn run count seen (.rejected (isClock.trans_le later) refused) rfl rfl ?_
          rw [inFlight_afterRecording]
          rfl
      | pause jitter positive => exact guards.idle rfl rfl rfl rfl
      | call jitter none => exact guards.idle rfl rfl rfl rfl
      | resume => exact guards.idle rfl rfl rfl rfl
      | answer result => exact guards.idle rfl rfl (inFlight_afterAttempt guarded _ _ _) rfl
      | recover => exact guards.idle rfl rfl (inFlight_afterRetries guarded _ _) rfl
      | succeed =>
          obtain ⟨number, pending⟩ := exists_pending count rfl
          have fewer := List.length_erase_of_mem pending
          have some := List.length_pos_of_mem pending
          rw [← isBreaker]
          refine .goesOn run count seen (.succeeded pending) ?_ isClock ?_
          · rw [isBreaker]
          · rw [inFlight_afterRecording, fewer]
            exact Nat.sub_add_cancel some
      | fail later =>
          obtain ⟨number, pending⟩ := exists_pending count rfl
          have fewer := List.length_erase_of_mem pending
          have some := List.length_pos_of_mem pending
          rw [← isBreaker]
          refine .goesOn run count seen (.failed (isClock.trans_le later) pending) rfl rfl ?_
          rw [inFlight_afterRecording, fewer]
          exact Nat.sub_add_cancel some
      | capture world chosen => exact guards.idle rfl rfl rfl rfl

end Guards

/-! ### What holds of every run -/

/-- So many attempts have been made as may be, each with the whole batch. -/
def StackCall.AttemptsFew (layers : ResilientEmitter) (batch : List Event)
    (own : List StackEvent) : Prop :=
  ∃ count, sent own = List.replicate count batch ∧ count ≤ layers.maxAttempts.toNat + 1

/-- What a call has done when it has come to a phase: it has passed its whole batch on in each
attempt, of which there are few, and captures it, if at all, just before it returns. -/
structure StackCall.Serves (layers : ResilientEmitter) (batch : List Event)
    (own : List StackEvent) (phase : StackPhase) : Prop where
  attempts : StackCall.AttemptsFew layers batch own
  uncaptured : (∀ result, phase ≠ .returned result) → captures own = []
  returned : ∀ result, phase = .returned result →
    StackCall.Judged layers batch own result ∧ StackCall.Captured layers batch own result

/-- What a stack has done. -/
structure StackServes (layers : ResilientEmitter) (clock : Nat)
    (trace : List (Tasks.Label StackEvent)) (pool : Tasks.Pool StackShared StackTask) : Prop where
  /-- Each call is rejected, or attempted, recorded once and captured once if it failed. -/
  calls : ∀ place call, pool.tasks[place]? = some (.call call) →
    StackCall.Serves layers call.batch (Tasks.own place trace) call.phase
  /-- The circuit breaker goes through a run of its own. -/
  breaker : ∀ config, layers.circuitBreakerConfig = some config →
    ∃ steps machine, (BreakerSystem.system config).Runs steps machine ∧
      machine.breaker = pool.shared.breaker ∧
      steps.map BreakerLabel.circuit = labels (Tasks.events trace)
  /-- The failure buffer has been called by these steps only, each call at once. -/
  failures : pool.shared.failures = ((StackShared.start layers clock).failures.replay
    (failureCalls (Tasks.events trace))).2
  /-- The counters count the retries and the recoveries. -/
  counted : pool.shared.retryCount = retries (Tasks.events trace) ∧
    pool.shared.recoveredCount = recoveries (Tasks.events trace)

/-- The attempts which have ended are few. -/
private theorem StackCall.Ended.attempts_few {batch : List Event} {own : List StackEvent}
    {result : EmitResult} (ended : StackCall.Ended layers batch own result) :
    StackCall.AttemptsFew layers batch own :=
  ⟨_, ended.sent, by simpa using ended.attempts.atMost⟩

/-- The attempts of a call which is judged are few. -/
private theorem StackCall.Judged.attempts_few {batch : List Event} {own : List StackEvent}
    {result : EmitResult} (judged : StackCall.Judged layers batch own result) :
    StackCall.AttemptsFew layers batch own := by
  rcases judged with rejected | forwarded
  · exact ⟨0, rejected.unsent, Nat.zero_le _⟩
  · exact forwarded.ended.attempts_few

/-- A call which has come to a phase has served. -/
private theorem StackCall.Reaches.serves {batch : List Event} {own : List StackEvent}
    {phase : StackPhase} (reaches : StackCall.Reaches layers batch own phase) :
    StackCall.Serves layers batch own phase := by
  cases phase with
  | entering =>
      obtain ⟨-, rfl⟩ := reaches
      exact ⟨⟨0, rfl, Nat.zero_le _⟩, fun _ => rfl, fun _ isReturned => by cases isReturned⟩
  | starting attempt | pausing attempt =>
      obtain ⟨within, tried⟩ := reaches
      have bound := UInt32.le_iff_toNat_le.mp within
      exact ⟨⟨_, tried.sent, bound.trans (Nat.le_succ _)⟩, fun _ => tried.uncaptured,
        fun _ isReturned => by cases isReturned⟩
  | waiting attempt =>
      obtain ⟨within, tried⟩ := reaches
      have bound := UInt32.le_iff_toNat_le.mp within
      exact ⟨⟨_, tried.sent, Nat.succ_le_succ bound⟩, fun _ => tried.uncaptured,
        fun _ isReturned => by cases isReturned⟩
  | recovering =>
      obtain ⟨-, ended, -, -, uncaptured⟩ := reaches
      exact ⟨ended.attempts_few, fun _ => uncaptured, fun _ isReturned => by cases isReturned⟩
  | recording result =>
      obtain ⟨-, -, ended, -, uncaptured⟩ := reaches
      exact ⟨ended.attempts_few, fun _ => uncaptured, fun _ isReturned => by cases isReturned⟩
  | capturing error =>
      obtain ⟨-, judged, uncaptured⟩ := reaches
      exact ⟨judged.attempts_few, fun _ => uncaptured, fun _ isReturned => by cases isReturned⟩
  | returned result =>
      refine ⟨reaches.1.attempts_few, fun other => absurd rfl (other result), ?_⟩
      intro same isReturned
      cases isReturned
      exact reaches

/-- What a task has done: a call has come to where it is, and one which has the failure buffer
has attempted nothing. -/
def StackTask.Reaches (layers : ResilientEmitter) (own : List StackEvent) : StackTask → Prop
  | .call made => StackCall.Reaches layers made.batch own made.phase
  | .owner => sent own = []

/-- Each task of a run has done so. -/
private theorem reaches_of_runs {clock : Nat} {trace : List (Tasks.Label StackEvent)}
    {pool : Tasks.Pool StackShared StackTask}
    (run : (layers.tasks.system (.start layers clock)).Runs trace pool) {place : Nat}
    {task : StackTask} (isTask : pool.tasks[place]? = some task) :
    task.Reaches layers (Tasks.own place trace) := by
  apply Tasks.each_task (fun _ => True) (fun own task => task.Reaches layers own) trivial
    (fun _ _ _ _ _ _ _ => trivial) ?starts ?goesOn run isTask
  case starts =>
      rintro _ (batch | _)
      · exact StackCall.Reaches.first layers batch
      · rfl
  case goesOn =>
      rintro own shared _ event shared' _ - reaches (step | call)
      · obtain ⟨same, next⟩ := reaches.step step
        exact next
      · simpa [StackTask.Reaches, StackEvent.sent?] using reaches

/-- Every run of the tasks on a guarded stack is one of its breaker. -/
private theorem guards {config : CircuitBreakerConfig}
    (chosen : layers.circuitBreakerConfig = some config) {clock : Nat}
    {trace : List (Tasks.Label StackEvent)} {pool : Tasks.Pool StackShared StackTask}
    (run : (layers.tasks.system (.start layers clock)).Runs trace pool) :
    Guards config (Tasks.events trace) pool.shared pool.tasks := by
  have guarded : layers.circuitBreakerConfig.isSome := by simp [chosen]
  apply Tasks.pool_history (Guards config) ?initial ?starts ?steps run
  case initial =>
      refine ⟨[], .init config clock, .initial ⟨clock, rfl⟩, ?_, rfl, rfl, rfl⟩
      simp [StackShared.start, chosen, BreakerSystem.init]
  case starts =>
      rintro history shared tasks _ ⟨steps, machine, isRun, breaker, isClock, count, seen⟩ new
      refine ⟨steps, machine, isRun, breaker, isClock, ?_, seen⟩
      have notInFlight : ∀ task, StackTask.Start layers task → task.inFlight = false := by
        rintro _ (batch | _)
        · rw [StackPhase.first, if_pos guarded]
          rfl
        · rfl
      rw [List.countP_append, List.countP_singleton, notInFlight _ new]
      exact count
  case steps =>
      intro history shared front task back event shared' task' guards step
      exact guards.step guarded step

/-- In every run of any number of calls of `emit` which overlap on a stack, whichever wrappers
it has, each call is rejected without an attempt, or passes its batch on, again while that
fails and retries are left, its last result is recorded once, and its batch is captured once
before an error is returned. The shared breaker goes through a run of its own, the failure
buffer is called as the steps say, and the counters agree with them. -/
theorem stack_serves (layers : ResilientEmitter) (clock : Nat)
    {trace : List (Tasks.Label StackEvent)} {pool : Tasks.Pool StackShared StackTask}
    (run : (layers.tasks.system (.start layers clock)).Runs trace pool) :
    StackServes layers clock trace pool where
  calls := by
    intro place call isCall
    exact (reaches_of_runs run isCall).serves
  breaker := by
    intro config chosen
    obtain ⟨steps, machine, isRun, breaker, -, -, seen⟩ := guards chosen run
    exact ⟨steps, machine, isRun, breaker, seen⟩
  failures := by
    apply Tasks.shared_history (fun history (shared : StackShared) => shared.failures =
      ((StackShared.start layers clock).failures.replay (failureCalls history)).2) rfl ?_ run
    intro history shared task event shared' task' replayed step
    rw [failureCalls_snoc, FailureBuffer.replay_append, ← replayed]
    rcases step with ⟨⟨⟩⟩ | call <;> rfl
  counted := by
    apply Tasks.shared_history (fun history (shared : StackShared) =>
      shared.retryCount = retries history ∧ shared.recoveredCount = recoveries history)
      ⟨rfl, rfl⟩ ?_ run
    intro history shared task event shared' task' counted step
    rw [retries_snoc, recoveries_snoc, ← counted.1, ← counted.2]
    rcases step with ⟨⟨⟩⟩ | call <;> exact ⟨rfl, rfl⟩

/-- A stack whose breaker is opened by one failure, and which retries once. -/
def touchyStack : ResilientEmitter :=
  (((ResilientEmitter.wrap (failing 1)).withRetry
    { BackoffConfig.default with maxAttempts := 1 }).withCircuitBreaker
      ⟨1, 1, 10, 1⟩).withFailureCapture (.new 2) .default

/-- Its only retry is paused for. -/
private theorem touchyStack_delay : touchyStack.delay 1 0 ≠ 0 := by
  intro none
  have isFirst := (StackCall.delay_eq_zero (by decide : 1 ≤ touchyStack.maxAttempts) 0).mp none
  cases isFirst

/-- A call which fails twice, while one which was admitted with it succeeds. -/
private theorem touchy_run : ∃ trace pool,
    (touchyStack.tasks.system (.start touchyStack 0)).Runs trace pool ∧
    pool.shared.breaker.state.state = .opened ∧ pool.shared.retryCount = 1 ∧
    pool.shared.failures.events.map FailedEvent.event = [namedEvent "1"] := by
  have start : (touchyStack.tasks.system (.start touchyStack 0)).Runs []
    ⟨.start touchyStack 0, []⟩ := .initial rfl
  have first := start.snoc (.start (.call [namedEvent "1"]))
  have both := first.snoc (.start (.call [namedEvent "2"]))
  have admitted := both.snoc (.did 0 rfl (.call (.allow (le_refl 0) rfl)))
  have admittedToo := admitted.snoc (.did 1 rfl (.call (.allow (le_refl 0) rfl)))
  have called := admittedToo.snoc (.did 0 rfl (.call (.call 0 rfl)))
  have failed := called.snoc (.did 0 rfl (.call (.answer (.error (.send "down")))))
  have paused := failed.snoc (.did 0 rfl (.call (.pause 0 touchyStack_delay)))
  have calledToo := paused.snoc (.did 1 rfl (.call (.call 0 rfl)))
  have again := calledToo.snoc (.did 0 rfl (.call .resume))
  have failedAgain := again.snoc (.did 0 rfl (.call (.answer (.error (.send "down")))))
  have opened := failedAgain.snoc (.did 0 rfl (.call (.fail (le_refl 0))))
  have captured := opened.snoc (.did 0 rfl (.call (.capture ⟨fun _ => 0, 0, fun _ => 0, 0⟩ rfl)))
  have answered := captured.snoc (.did 1 rfl (.call (.answer (.ok ()))))
  have recorded := answered.snoc (.did 1 rfl (.call .succeed))
  exact ⟨_, _, recorded, rfl, rfl, rfl⟩

/-- The circuit is opened and the batch of the call which failed is captured. -/
theorem stack_serves_touchy : ∃ trace pool, StackServes touchyStack 0 trace pool ∧
    pool.shared.breaker.state.state = .opened ∧ pool.shared.retryCount = 1 ∧
    pool.shared.failures.events.map FailedEvent.event = [namedEvent "1"] := by
  obtain ⟨trace, pool, run, opened, retried, captured⟩ := touchy_run
  exact ⟨trace, pool, stack_serves touchyStack 0 run, opened, retried, captured⟩

/-! ### How often the wrapped emitter is called -/

/-- The time at which a step on the circuit admits a call, if it does. -/
def CircuitLabel.admittedAt (self : CircuitLabel) : Option Nat :=
  match self.event with
  | .admitted now => some now
  | _ => none

/-- The call which a step admits, if it admits one. -/
def admittedCall : Tasks.Label StackEvent → Option Nat
  | .did place (.circuit label) => label.admittedAt.map fun _ => place
  | _ => none

/-- The steps on the circuit in a part of a run, in order. -/
def circuitSteps (part : List (Tasks.Label StackEvent)) : List CircuitLabel :=
  labels (Tasks.events part)

/-- The steps on the circuit in several parts. -/
private theorem circuitSteps_append (first second : List (Tasks.Label StackEvent)) :
    circuitSteps (first ++ second) = circuitSteps first ++ circuitSteps second := by
  simp [circuitSteps, labels, Tasks.events]

/-- As many calls are admitted as there are times at which one is. -/
private theorem length_admittedCall (part : List (Tasks.Label StackEvent)) :
    (part.filterMap admittedCall).length =
      ((circuitSteps part).filterMap CircuitLabel.admittedAt).length := by
  induction part with
  | nil => rfl
  | cons label part inductionHypothesis =>
      rw [← List.singleton_append, circuitSteps_append, List.filterMap_append,
        List.filterMap_append, List.length_append, List.length_append, inductionHypothesis]
      congr 1
      rcases label with _ | ⟨place, step | _ | _ | _ | _ | _ | _⟩
      · rfl
      · change (List.filterMap admittedCall [.did place (.circuit step)]).length =
          ([step].filterMap CircuitLabel.admittedAt).length
        cases admitted : step.admittedAt <;> simp [admittedCall, admitted]
      all_goals rfl

/-- No call is attempted more often than the retries allow. -/
private theorem attempts_le {clock : Nat} {trace : List (Tasks.Label StackEvent)}
    {pool : Tasks.Pool StackShared StackTask}
    (run : (layers.tasks.system (.start layers clock)).Runs trace pool) (place : Nat) :
    (sent (Tasks.own place trace)).length ≤ layers.maxAttempts.toNat + 1 := by
  rcases Nat.lt_or_ge place pool.tasks.length with started | notStarted
  · have reaches := reaches_of_runs run (List.getElem?_eq_getElem started)
    cases isTask : pool.tasks[place] with
    | call call =>
        rw [isTask] at reaches
        obtain ⟨count, attempts, few⟩ := (StackCall.Reaches.serves reaches).attempts
        rw [attempts, List.length_replicate]
        exact few
    | owner =>
        rw [isTask] at reaches
        rw [show sent (Tasks.own place trace) = [] from reaches]
        exact Nat.zero_le _
  · rw [Tasks.own_of_length_le run notStarted]
    exact Nat.zero_le _

/-- However many calls of `emit` overlap, the calls which are admitted in a part of a run in
which the circuit is not closed, and which lasts for some time, call the wrapped emitter no
more often than the retries allow for one quota of half-open requests in each reset timeout. -/
theorem stack_limits_attempts (layers : ResilientEmitter) (config : CircuitBreakerConfig)
    (chosen : layers.circuitBreakerConfig = some config) (positive : 0 < config.resetTimeout)
    {clock : Nat} {trace before middle after : List (Tasks.Label StackEvent)}
    {pool : Tasks.Pool StackShared StackTask}
    (run : (layers.tasks.system (.start layers clock)).Runs trace pool)
    (split : trace = before ++ (middle ++ after))
    (notClosed : ∀ label ∈ circuitSteps middle, label.before ≠ .closed) {start duration : Nat}
    (within : ∀ label ∈ circuitSteps middle, ∀ time, label.admittedAt = some time →
      start ≤ time ∧ time ≤ start + duration) :
    ((middle.filterMap admittedCall).map fun place =>
        (sent (Tasks.own place trace)).length).sum ≤
      max 1 config.halfOpenMaxRequests.toNat * (duration / config.resetTimeout + 1) *
        (layers.maxAttempts.toNat + 1) := by
  obtain ⟨steps, machine, isRun, -, -, -, seen⟩ := guards chosen run
  have parts : steps.map BreakerLabel.circuit =
      circuitSteps before ++ (circuitSteps middle ++ circuitSteps after) := by
    rw [seen, ← circuitSteps_append, ← circuitSteps_append, ← split]
    rfl
  obtain ⟨earlier, rest, isSplit, -, restSeen⟩ := List.map_eq_append_iff.mp parts
  obtain ⟨inside, later, rfl, insideSeen, -⟩ := List.map_eq_append_iff.mp restSeen
  have sameTimes : BreakerHistory.admissions inside =
      (circuitSteps middle).filterMap CircuitLabel.admittedAt := by
    rw [← insideSeen, List.filterMap_map]
    apply List.filterMap_congr
    rintro ⟨event, _, _⟩ -
    cases event <;> rfl
  have open_ : ∀ label ∈ inside, label.before ≠ .closed := by
    intro label member
    apply notClosed label.circuit
    rw [← insideSeen]
    exact List.mem_map_of_mem member
  have spaced := (exposedThroughout positive isRun earlier inside later isSplit open_).1
  have inTime : ∀ time ∈ BreakerHistory.admissions inside,
      start ≤ time ∧ time ≤ start + duration := by
    intro time member
    rw [sameTimes] at member
    obtain ⟨label, isLabel, admitted⟩ := List.mem_filterMap.mp member
    exact within label isLabel time admitted
  have few := spaced.length_le positive inTime
  rw [sameTimes, ← length_admittedCall] at few
  calc ((middle.filterMap admittedCall).map fun place =>
          (sent (Tasks.own place trace)).length).sum
      ≤ (middle.filterMap admittedCall).length • (layers.maxAttempts.toNat + 1) := by
        rw [← List.length_map fun place => (sent (Tasks.own place trace)).length]
        apply List.sum_le_card_nsmul
        intro attempts member
        obtain ⟨place, -, rfl⟩ := List.mem_map.mp member
        exact attempts_le run place
    _ ≤ _ := Nat.mul_le_mul_right _ few

/-- The first call fails at once, and opens the circuit. -/
private def openingPart : List (Tasks.Label StackEvent) :=
  [.started, .did 0 (.circuit ⟨.admitted 0, .closed, .closed⟩), .did 0 (.called []),
    .did 0 (.answered (.error (.send "down"))), .did 0 (.paused 1), .did 0 (.called []),
    .did 0 (.answered (.error (.send "down"))), .did 0 (.circuit ⟨.failed 0, .closed, .opened⟩)]

/-- The second one probes it in time, and the third is rejected. -/
private def probingPart : List (Tasks.Label StackEvent) :=
  [.started, .did 1 (.circuit ⟨.admitted 10, .opened, .halfOpen⟩), .did 1 (.called []),
    .did 1 (.answered (.error (.send "down"))), .did 1 (.paused 1), .did 1 (.called []),
    .did 1 (.answered (.error (.send "down"))), .did 1 (.circuit ⟨.failed 12, .halfOpen, .opened⟩),
    .started, .did 2 (.circuit ⟨.rejected 15, .opened, .opened⟩)]

/-- The parts are those of a run. -/
private theorem probing_run : ∃ pool, (touchyStack.tasks.system (.start touchyStack 0)).Runs
    (openingPart ++ (probingPart ++ [])) pool := by
  have start : (touchyStack.tasks.system (.start touchyStack 0)).Runs []
    ⟨.start touchyStack 0, []⟩ := .initial rfl
  have first := start.snoc (.start (.call []))
  have admitted := first.snoc (.did 0 rfl (.call (.allow (le_refl 0) rfl)))
  have called := admitted.snoc (.did 0 rfl (.call (.call 0 rfl)))
  have failed := called.snoc (.did 0 rfl (.call (.answer (.error (.send "down")))))
  have paused := failed.snoc (.did 0 rfl (.call (.pause 0 touchyStack_delay)))
  have again := paused.snoc (.did 0 rfl (.call .resume))
  have failedAgain := again.snoc (.did 0 rfl (.call (.answer (.error (.send "down")))))
  have opened := failedAgain.snoc (.did 0 rfl (.call (.fail (le_refl 0))))
  have second := opened.snoc (.start (.call []))
  have probing := second.snoc
    (.did 1 rfl (.call (@StackCall.Step.allow _ _ _ 10 _ (by decide) rfl)))
  have probed := probing.snoc (.did 1 rfl (.call (.call 0 rfl)))
  have failing := probed.snoc (.did 1 rfl (.call (.answer (.error (.send "down")))))
  have waiting := failing.snoc (.did 1 rfl (.call (.pause 0 touchyStack_delay)))
  have probedAgain := waiting.snoc (.did 1 rfl (.call .resume))
  have failing := probedAgain.snoc (.did 1 rfl (.call (.answer (.error (.send "down")))))
  have reopened := failing.snoc
    (.did 1 rfl (.call (@StackCall.Step.fail _ _ _ _ 12 (by decide))))
  have third := reopened.snoc (.start (.call []))
  have rejected := third.snoc
    (.did 2 rfl (.call (@StackCall.Step.reject _ _ _ 15 _ (by decide) rfl)))
  exact ⟨_, rejected⟩

/-- The two attempts of the second call are all there may be. -/
theorem stack_limits_attempts_probing :
    ((probingPart.filterMap admittedCall).map fun place =>
        (sent (Tasks.own place (openingPart ++ (probingPart ++ [])))).length).sum = 2 ∧
      ((probingPart.filterMap admittedCall).map fun place =>
        (sent (Tasks.own place (openingPart ++ (probingPart ++ [])))).length).sum ≤
          max 1 1 * (0 / 10 + 1) * (1 + 1) := by
  obtain ⟨pool, run⟩ := probing_run
  refine ⟨rfl, @stack_limits_attempts touchyStack ⟨1, 1, 10, 1⟩ rfl (by decide) 0 _ openingPart
    probingPart [] pool run rfl (by decide) 10 0 ?_⟩
  have times : ∀ label ∈ circuitSteps probingPart, ∀ time ∈ label.admittedAt,
      10 ≤ time ∧ time ≤ 10 + 0 := by decide
  exact times

end Polku
