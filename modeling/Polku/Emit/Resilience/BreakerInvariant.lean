import Polku.Emit.Resilience.BreakerRuns

/-!
# The breaker's fields and its history

`Consistent` says what each field of the breaker means in terms of the history
of calls, for every reachable state. It is inductive: each handler preserves it
in each state of the circuit, whichever state admitted the call it completes.
-/

namespace Polku

open Semantics Data BreakerHistory

/-- What the fields of a breaker mean. -/
structure Consistent (config : CircuitBreakerConfig) (trace : List BreakerLabel)
    (machine : BreakerSystem) : Prop where
  sameConfig : machine.breaker.config = config
  /-- `consecutive_failures` is the length of the trailing run of failures, as
  far as 32 bits can tell. -/
  failures : machine.breaker.state.consecutiveFailures.toNat = trailingFailures trace % 2 ^ 32
  closed : machine.circuit = .closed →
    machine.breaker.state.consecutiveFailures.toNat = trailingFailures trace ∧
    trailingFailures trace < max 1 config.failureThreshold.toNat ∧
    machine.breaker.state.halfOpenRequests = 0
  opened : machine.circuit = .opened →
    machine.breaker.state.lastFailureTime ≠ none ∧ machine.breaker.state.halfOpenRequests = 0
  halfOpen : machine.circuit = .halfOpen →
    machine.breaker.state.halfOpenRequests.toNat = (admitted (episode trace)).length ∧
    1 ≤ machine.breaker.state.halfOpenRequests.toNat ∧
    machine.breaker.state.halfOpenRequests.toNat ≤ max 1 config.halfOpenMaxRequests.toNat ∧
    machine.breaker.state.consecutiveSuccesses.toNat < max 1 config.successThreshold.toNat
  openCount : machine.breaker.openCount = openings trace
  rejectedCount : machine.breaker.rejectedCount = (rejected trace).length
  /-- Each call made so far was either admitted, once, or rejected, once. -/
  answered : (admitted trace ++ rejected trace).Perm (List.range machine.calls)
  /-- Each admitted call has completed, once, or is in flight. -/
  completes : (completed trace ++ machine.inFlight).Perm (admitted trace)
  lastFailureTime : machine.breaker.state.lastFailureTime = lastFailure trace
  /-- A call admitted by an opened circuit waited for the reset timeout. -/
  waited : ∀ before label after call now, trace = before ++ label :: after →
    label.before = .opened → label.event = .admitted call now →
    ∃ failure, lastFailure before = some failure ∧ failure + config.resetTimeout ≤ now

/-- `Consistent` with what its induction needs besides. -/
structure Consistent.Inductive (config : CircuitBreakerConfig) (trace : List BreakerLabel)
    (machine : BreakerSystem) : Prop extends Consistent config trace machine where
  noEpisode : machine.circuit ≠ .halfOpen → episode trace = []
  pastFailure : ∀ failure, lastFailure trace = some failure → failure ≤ machine.clock

namespace Consistent

variable {config : CircuitBreakerConfig} {trace : List BreakerLabel} {machine : BreakerSystem}

/-- A breaker without history is consistent. -/
theorem Inductive.init (config : CircuitBreakerConfig) (clock : Nat) :
    Inductive config [] (BreakerSystem.init config clock) where
  sameConfig := rfl
  failures := rfl
  closed _ := ⟨rfl, by simp [trailingFailures, outcomes], rfl⟩
  opened state := by cases state
  halfOpen state := by cases state
  openCount := rfl
  rejectedCount := rfl
  answered := by simp [admitted, rejected, BreakerSystem.init]
  completes := by simp [admitted, completed, BreakerSystem.init]
  lastFailureTime := rfl
  waited := by simp
  noEpisode _ := rfl
  pastFailure := by simp [lastFailure]

/-- Extending a history by a step which is not an admission by an opened
circuit keeps what is known about those admissions. -/
private theorem waited_snoc {label : BreakerLabel} (holds : Consistent config trace machine)
    (now : ∀ call time, label.before = .opened → label.event = .admitted call time →
      ∃ failure, lastFailure trace = some failure ∧ failure + config.resetTimeout ≤ time) :
    ∀ before middle after call time, trace ++ [label] = before ++ middle :: after →
      middle.before = .opened → middle.event = .admitted call time →
      ∃ failure, lastFailure before = some failure ∧
        failure + config.resetTimeout ≤ time := by
  intro before middle after call time split wasOpen event
  rcases snoc_split split with ⟨rfl, rfl, -⟩ | ⟨rest, -, whole⟩
  · exact now call time wasOpen event
  · exact holds.waited before middle rest call time whole wasOpen event

/-- A step which records no failure keeps the failures in the past. -/
private theorem pastFailure_snoc (holds : Inductive config trace machine) {label : BreakerLabel}
    (other : label.event.failedAt = none) {now : Nat} (later : machine.clock ≤ now) :
    ∀ failure, lastFailure (trace ++ [label]) = some failure → failure ≤ now := by
  intro failure recorded
  rw [lastFailure_snoc, other, Option.none_or] at recorded
  exact (holds.pastFailure failure recorded).trans later

/-- An admission answers a new call and puts it in flight. -/
private theorem perms_admitted (holds : Inductive config trace machine) (now : Nat)
    (before after : CircuitState) :
    (admitted (trace ++ [⟨.admitted machine.calls now, before, after⟩]) ++
        rejected (trace ++ [⟨.admitted machine.calls now, before, after⟩])).Perm
      (List.range (machine.calls + 1)) ∧
    (completed (trace ++ [⟨.admitted machine.calls now, before, after⟩]) ++
        (machine.inFlight ++ [machine.calls])).Perm
      (admitted (trace ++ [⟨.admitted machine.calls now, before, after⟩])) := by
  simp only [admitted_snoc, rejected_snoc, completed_snoc, BreakerEvent.admittedCall,
    BreakerEvent.rejectedCall, BreakerEvent.completedCall, Option.toList_some,
    Option.toList_none, List.append_nil]
  constructor
  · rw [List.range_succ]
    refine List.Perm.trans ?_ (holds.answered.append_right [machine.calls])
    rw [List.append_assoc, List.append_assoc]
    exact List.perm_append_comm.append_left (admitted trace)
  · rw [← List.append_assoc]
    exact holds.completes.append_right [machine.calls]

/-- An opened circuit admits a call only after its reset timeout. -/
private theorem waited_of_allows (holds : Inductive config trace machine) {now : Nat}
    {after : CircuitBreakerEmitter} (later : machine.clock ≤ now)
    (allows : machine.breaker.Allows now after) (wasOpen : machine.circuit = .opened) :
    ∃ failure, lastFailure trace = some failure ∧ failure + config.resetTimeout ≤ now := by
  cases allows with
  | closed state => exact absurd (state.symm.trans wasOpen) (by simp)
  | probe state room => exact absurd (state.symm.trans wasOpen) (by simp)
  | reset state elapsed =>
      have recorded := holds.lastFailureTime
      unfold CircuitBreakerEmitter.resetElapsed at elapsed
      cases failed : machine.breaker.state.lastFailureTime with
      | none => simp [failed] at elapsed
      | some failure =>
          rw [failed] at recorded
          simp only [failed, decide_eq_true_eq, holds.sameConfig] at elapsed
          have past := holds.pastFailure failure recorded.symm
          exact ⟨failure, recorded.symm, by omega⟩

/-- Admitting a call keeps the breaker consistent. -/
theorem Inductive.admitted (holds : Inductive config trace machine) {now : Nat}
    {breaker : CircuitBreakerEmitter} (later : machine.clock ≤ now)
    (allowed : machine.breaker.shouldAllowRequest now = (true, breaker)) :
    Inductive config
      (trace ++ [⟨.admitted machine.calls now, machine.circuit, breaker.state.state⟩])
      ⟨breaker, now, machine.calls + 1, machine.inFlight ++ [machine.calls]⟩ := by
  have allows := CircuitBreakerEmitter.allows_of_shouldAllowRequest allowed
  obtain ⟨sameConfig, failures, lastFailureTime, openCount, rejectedCount, notOpened⟩ :=
    allows.frame
  obtain ⟨answered, completes⟩ := perms_admitted holds now machine.circuit breaker.state.state
  have noOpening : (breaker.state.state == .opened) = false := by simpa using notOpened
  refine
    { sameConfig := sameConfig.trans holds.sameConfig
      failures := by
        simpa [trailingFailures_snoc, BreakerEvent.outcome, failures] using holds.failures
      closed := ?_
      opened := fun state => absurd state notOpened
      halfOpen := ?_
      openCount := by simpa [openings_snoc, noOpening, openCount] using holds.openCount
      rejectedCount := by
        simpa [BreakerEvent.rejectedCall, rejectedCount] using holds.rejectedCount
      answered := answered
      completes := completes
      lastFailureTime := by
        simpa [lastFailure_snoc, BreakerEvent.failedAt, lastFailureTime] using
          holds.lastFailureTime
      waited := waited_snoc holds.toConsistent fun call time wasOpen event => by
        cases event
        exact waited_of_allows holds later allows wasOpen
      noEpisode := fun state => episode_snoc_other trace state
      pastFailure := pastFailure_snoc holds rfl later }
  · intro isClosed
    cases allows with
    | closed state =>
        simpa [trailingFailures_snoc, BreakerEvent.outcome] using holds.closed state
    | reset state elapsed => cases isClosed
    | probe state room => exact absurd (state.symm.trans isClosed) (by simp)
  · intro isHalfOpen
    rw [episode_snoc_probing trace isHalfOpen, admitted_snoc]
    cases allows with
    | closed state => exact absurd (state.symm.trans isHalfOpen) (by simp)
    | reset state elapsed =>
        -- The first call of a new episode.
        have fresh : episode trace = [] := holds.noEpisode (by simp [BreakerSystem.circuit, state])
        simp [CircuitBreakerEmitter.probing, fresh, BreakerEvent.admittedCall,
          BreakerHistory.admitted]
    | probe state room =>
        obtain ⟨count, least, most, successes⟩ := holds.halfOpen state
        have bounded := UInt32.lt_iff_toNat_lt.mp room
        rw [holds.sameConfig] at bounded
        simp only [CircuitBreakerEmitter.probed, CircuitBreakerEmitter.toNat_succ room,
          List.length_append, BreakerEvent.admittedCall, Option.toList_some, List.length_singleton]
        omega

/-- Rejecting a call keeps the breaker consistent. -/
theorem Inductive.rejected (holds : Inductive config trace machine) {now : Nat}
    {breaker : CircuitBreakerEmitter} (later : machine.clock ≤ now)
    (refused : machine.breaker.shouldAllowRequest now = (false, breaker)) :
    Inductive config
      (trace ++ [⟨.rejected machine.calls now, machine.circuit, breaker.state.state⟩])
      ⟨breaker, now, machine.calls + 1, machine.inFlight⟩ := by
  obtain ⟨notClosed, rfl⟩ := CircuitBreakerEmitter.rejects_of_shouldAllowRequest refused
  refine
    { sameConfig := holds.sameConfig
      failures := by
        simpa [trailingFailures_snoc, BreakerEvent.outcome] using holds.failures
      closed := fun state => absurd state notClosed
      opened := holds.opened
      halfOpen := fun state => by
        rw [episode_snoc_probing trace state, admitted_snoc]
        simpa [BreakerEvent.admittedCall] using holds.halfOpen state
      openCount := by
        have same : machine.circuit = machine.breaker.state.state := rfl
        simpa [openings_snoc, same] using holds.openCount
      rejectedCount := by
        simpa [BreakerEvent.rejectedCall] using holds.rejectedCount
      answered := ?_
      completes := by
        simpa [BreakerEvent.admittedCall, BreakerEvent.completedCall] using holds.completes
      lastFailureTime := by
        simpa [lastFailure_snoc, BreakerEvent.failedAt] using holds.lastFailureTime
      waited := waited_snoc holds.toConsistent fun call time wasOpen event => by cases event
      noEpisode := fun state => episode_snoc_other trace state
      pastFailure := pastFailure_snoc holds rfl later }
  simp only [admitted_snoc, rejected_snoc, BreakerEvent.admittedCall,
    BreakerEvent.rejectedCall, Option.toList_some, Option.toList_none, List.append_nil]
  rw [List.range_succ, ← List.append_assoc]
  exact holds.answered.append_right [machine.calls]

/-- A completed call leaves the flight. -/
private theorem perm_completed {completed inFlight admitted : List Nat} {call : Nat}
    (completes : (completed ++ inFlight).Perm admitted) (pending : call ∈ inFlight) :
    (completed ++ [call] ++ inFlight.erase call).Perm admitted := by
  refine List.Perm.trans ?_ completes
  rw [List.append_assoc, List.singleton_append]
  exact (List.perm_cons_erase pending).symm.append_left completed

/-- Recording a success keeps the breaker consistent. -/
theorem Inductive.succeeded (holds : Inductive config trace machine) {call : Nat}
    (pending : call ∈ machine.inFlight) :
    Inductive config
      (trace ++ [⟨.succeeded call, machine.circuit,
        machine.breaker.recordSuccess.state.state⟩])
      ⟨machine.breaker.recordSuccess, machine.clock, machine.calls,
        machine.inFlight.erase call⟩ := by
  have succeeds := machine.breaker.succeeds_recordSuccess
  generalize machine.breaker.recordSuccess = after at succeeds ⊢
  obtain ⟨sameConfig, failures, lastFailureTime, openCount, rejectedCount, opening⟩ :=
    succeeds.frame
  have cleared : trailingFailures
      (trace ++ [⟨.succeeded call, machine.circuit, after.state.state⟩]) = 0 := by
    rw [trailingFailures_snoc]
    rfl
  refine
    { sameConfig := sameConfig.trans holds.sameConfig
      failures := by simp [cleared, failures]
      closed := fun state => ⟨by simp [cleared, failures], by rw [cleared]; omega, ?_⟩
      opened := fun state => ?_
      halfOpen := fun state => ?_
      openCount := ?_
      rejectedCount := by
        simpa [BreakerEvent.rejectedCall, rejectedCount] using holds.rejectedCount
      answered := by
        simpa [BreakerEvent.admittedCall, BreakerEvent.rejectedCall] using holds.answered
      completes := by
        simpa [BreakerEvent.admittedCall, BreakerEvent.completedCall] using
          perm_completed holds.completes pending
      lastFailureTime := by
        simpa [lastFailure_snoc, BreakerEvent.failedAt, lastFailureTime] using
          holds.lastFailureTime
      waited := waited_snoc holds.toConsistent fun call time wasOpen event => by cases event
      noEpisode := fun state => episode_snoc_other trace state
      pastFailure := pastFailure_snoc holds rfl le_rfl }
  · -- Closed after a success: it was closed, or the half-open episode ends here.
    cases succeeds with
    | elsewhere notProbing => exact (holds.closed state).2.2
    | counted probing below => exact absurd (probing.symm.trans state) (by simp)
    | closing probing reached => rfl
  · have wasOpened := opening.mp state
    rw [lastFailureTime]
    cases succeeds with
    | elsewhere notProbing => exact holds.opened wasOpened
    | counted probing below => exact absurd (probing.symm.trans wasOpened) (by simp)
    | closing probing reached => cases state
  · rw [episode_snoc_probing trace state, admitted_snoc]
    cases succeeds with
    | elsewhere notProbing => exact absurd state notProbing
    | closing probing reached => cases state
    | counted probing below =>
        obtain ⟨count, least, most, successes⟩ := holds.halfOpen probing
        rw [holds.sameConfig] at below
        have bounded := UInt32.lt_iff_toNat_lt.mp below
        refine ⟨by simpa [BreakerEvent.admittedCall] using count, least, most, ?_⟩
        dsimp only
        omega
  · have same : machine.circuit = machine.breaker.state.state := rfl
    have noOpening : (machine.circuit != .opened && after.state.state == .opened) = false := by
      rw [same]
      by_cases wasOpened : machine.breaker.state.state = .opened <;> simp [wasOpened, opening]
    simpa [openings_snoc, noOpening, openCount] using holds.openCount

/-- Recording a failure keeps the breaker consistent. -/
theorem Inductive.failed (holds : Inductive config trace machine) {call now : Nat}
    (pending : call ∈ machine.inFlight) :
    Inductive config
      (trace ++ [⟨.failed call now, machine.circuit,
        (machine.breaker.recordFailure now).state.state⟩])
      ⟨machine.breaker.recordFailure now, now, machine.calls, machine.inFlight.erase call⟩ := by
  have fails := machine.breaker.fails_recordFailure now
  generalize machine.breaker.recordFailure now = after at fails ⊢
  obtain ⟨sameConfig, failures, lastFailureTime, openCount, rejectedCount, notProbing⟩ :=
    fails.frame
  have grown : trailingFailures
      (trace ++ [⟨.failed call now, machine.circuit, after.state.state⟩]) =
        trailingFailures trace + 1 := by
    rw [trailingFailures_snoc]
    rfl
  have counted : after.state.consecutiveFailures.toNat =
      (trailingFailures trace + 1) % 2 ^ 32 := by
    have before := holds.failures
    rw [failures, UInt32.toNat_add, before]
    simp
  refine
    { sameConfig := sameConfig.trans holds.sameConfig
      failures := by rw [grown, counted]
      closed := fun state => ?_
      opened := fun state => ⟨by simp [lastFailureTime], ?_⟩
      halfOpen := fun state => absurd state notProbing
      openCount := by
        have same : machine.circuit = machine.breaker.state.state := rfl
        rw [openings_snoc, ← holds.openCount]
        exact openCount
      rejectedCount := by
        simpa [BreakerEvent.rejectedCall, rejectedCount] using holds.rejectedCount
      answered := by
        simpa [BreakerEvent.admittedCall, BreakerEvent.rejectedCall] using holds.answered
      completes := by
        simpa [BreakerEvent.admittedCall, BreakerEvent.completedCall] using
          perm_completed holds.completes pending
      lastFailureTime := by
        simp [lastFailure_snoc, BreakerEvent.failedAt, lastFailureTime]
      waited := waited_snoc holds.toConsistent fun call time wasOpen event => by cases event
      noEpisode := fun state => episode_snoc_other trace state
      pastFailure := fun failure recorded => by
        simp only [lastFailure_snoc, BreakerEvent.failedAt, Option.some_or,
          Option.some.injEq] at recorded
        exact recorded.ge }
  · rw [grown, counted]
    cases fails with
    | opening wasClosed reached => cases state
    | reopening probing => cases state
    | late wasOpened => exact absurd (wasOpened.symm.trans state) (by simp)
    | tolerated wasClosed below =>
        -- Below the threshold the count is exact: the threshold has 32 bits.
        obtain ⟨exact, bounded, noProbes⟩ := holds.closed wasClosed
        rw [holds.sameConfig] at below
        have under := UInt32.lt_iff_toNat_lt.mp below
        have width := config.failureThreshold.toNat_lt
        rw [UInt32.toNat_add, exact] at under
        simp only [UInt32.reduceToNat] at under
        refine ⟨?_, ?_, noProbes⟩ <;> omega
  · cases fails with
    | tolerated wasClosed below => exact absurd (wasClosed.symm.trans state) (by simp)
    | opening wasClosed reached => exact (holds.closed wasClosed).2.2
    | reopening probing => rfl
    | late wasOpened => exact (holds.opened wasOpened).2

/-- Every step of a call keeps the breaker consistent. -/
theorem Inductive.step (holds : Inductive config trace machine) {label : BreakerLabel}
    {next : BreakerSystem} (transition : BreakerSystem.Step machine label next) :
    Inductive config (trace ++ [label]) next := by
  cases transition with
  | admitted later allowed => exact holds.admitted later allowed
  | rejected later refused => exact holds.rejected later refused
  | succeeded pending => exact holds.succeeded pending
  | failed later pending => exact holds.failed pending

/-- Every reachable state of a breaker is consistent with its history. -/
theorem of_runs (runs : (BreakerSystem.system config).Runs trace machine) :
    Inductive config trace machine := by
  refine System.Runs.history (Inductive config) ?_ ?_ runs
  · rintro machine ⟨clock, rfl⟩
    exact .init config clock
  · intro trace machine label next _ holds transition
    exact holds.step transition

end Consistent

/-- In every state a breaker reaches, its fields mean what the history of calls
says they mean. -/
theorem breaker_consistent (config : CircuitBreakerConfig)
    (execution : (BreakerSystem.system config).Execution) :
    Consistent config execution.trace execution.state :=
  (Consistent.of_runs execution.runs).toConsistent

/-- Opens at the first failure and retries at once. -/
def eagerConfig : CircuitBreakerConfig := ⟨1, 1, 0, 1⟩

/-- Calls made one after another may fail any number of times. -/
private theorem exists_failing (count : Nat) : ∃ trace machine,
    (BreakerSystem.system eagerConfig).Runs trace machine ∧ machine.inFlight = [] ∧
    machine.circuit ≠ .halfOpen ∧ trailingFailures trace = count := by
  induction count with
  | zero =>
      exact ⟨[], .init eagerConfig 0, .initial ⟨0, rfl⟩, rfl, by decide, rfl⟩
  | succ count inductionHypothesis =>
      obtain ⟨trace, machine, runs, quiescent, notProbing, trailing⟩ := inductionHypothesis
      have holds := Consistent.of_runs runs
      obtain ⟨breaker, allowed⟩ : ∃ breaker,
          machine.breaker.shouldAllowRequest machine.clock = (true, breaker) := by
        cases circuit : machine.circuit with
        | closed => exact ⟨_, CircuitBreakerEmitter.shouldAllowRequest_closed circuit⟩
        | halfOpen => exact absurd circuit notProbing
        | opened =>
            refine ⟨_, CircuitBreakerEmitter.shouldAllowRequest_opened circuit ?_⟩
            obtain ⟨failure, recorded⟩ := Option.ne_none_iff_exists'.mp (holds.opened circuit).1
            simp [CircuitBreakerEmitter.resetElapsed, recorded, holds.sameConfig, eagerConfig]
      obtain ⟨longer, after, longerRuns, failed, noneInFlight, grown⟩ :=
        BreakerSystem.exists_failingCall runs quiescent allowed
      refine ⟨longer, after, longerRuns, noneInFlight, ?_, by omega⟩
      have frame := (breaker.fails_recordFailure machine.clock).frame
      rw [← failed] at frame
      exact frame.2.2.2.2.2

/-- After `2 ^ 32` failures in a row the 32-bit count of them is zero again. -/
theorem breaker_count_wraps : ∃ execution : (BreakerSystem.system eagerConfig).Execution,
    execution.state.breaker.state.consecutiveFailures.toNat ≠ trailingFailures execution.trace := by
  obtain ⟨trace, machine, runs, -, -, trailing⟩ := exists_failing (2 ^ 32)
  refine ⟨⟨trace, machine, runs⟩, ?_⟩
  have counted := (Consistent.of_runs runs).failures
  dsimp only
  rw [counted, trailing]
  decide

end Polku
