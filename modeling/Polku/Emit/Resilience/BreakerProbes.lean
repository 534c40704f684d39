import Polku.Emit.Resilience.BreakerInvariant

/-!
# What decides a half-open circuit

The breaker records the result of a call without knowing when the call was
admitted. A half-open circuit is decided by the results recorded during its
episode: those of the probes admitted in the episode, and the late ones of calls
admitted before it.
-/

namespace Polku

open Semantics Data BreakerHistory

/-! ## Decisions by probes only -/

/-- A half-open circuit closes by enough successes of probes of its episode. -/
def ClosesByProbes (config : CircuitBreakerConfig) (before : List BreakerLabel)
    (label : BreakerLabel) : Prop :=
  label.before = .halfOpen → label.after = .closed →
    max 1 config.successThreshold.toNat ≤
      ((succeeded (episode before ++ [label])).filter
        (· ∈ admitted (episode before))).length

/-- A half-open circuit opens by the failure of a probe of its episode. -/
def OpensByProbe (before : List BreakerLabel) (label : BreakerLabel) : Prop :=
  label.before = .halfOpen → label.after = .opened →
    ∃ call now, label.event = .failed call now ∧ call ∈ admitted (episode before)

/-- No call admitted before the episode has completed in it. -/
def OnTime (before : List BreakerLabel) (label : BreakerLabel) : Prop :=
  ∀ call ∈ completed (episode before ++ [label]), call ∈ admitted (episode before)

/-! ## Decisions by what is recorded -/

/-- What a step does to a circuit which is not closed. -/
structure Decided (config : CircuitBreakerConfig) (before : List BreakerLabel)
    (label : BreakerLabel) : Prop where
  /-- A half-open circuit closes at the success which makes the number of
  different calls which succeeded in its episode, probes and late ones, the
  threshold. -/
  closes : label.before = .halfOpen → label.after = .closed →
    (∃ call, label.event = .succeeded call) ∧
    (succeeded (episode before ++ [label])).Nodup ∧
    ((succeeded (episode before ++ [label])).filter (· ∈ admitted (episode before))).length +
      ((succeeded (episode before ++ [label])).filter (· ∉ admitted (episode before))).length =
        max 1 config.successThreshold.toNat
  /-- It opens at the failure of a call in flight. -/
  opens : label.before = .halfOpen → label.after = .opened →
    ∃ call now, label.event = .failed call now ∧ call ∈ admitted before ∧ call ∉ completed before
  /-- The result of a call never changes an opened circuit. -/
  staysOpened : ∀ call, label.event.completedCall = some call → label.before = .opened →
    label.after = .opened
  /-- In an episode without late results its probes decide. -/
  onTime : OnTime before label → ClosesByProbes config before label ∧ OpensByProbe before label

variable {config : CircuitBreakerConfig} {trace : List BreakerLabel} {machine : BreakerSystem}

/-- While half-open, `consecutive_successes` counts the calls which succeeded in
the episode. -/
def SuccessesCounted (trace : List BreakerLabel) (machine : BreakerSystem) : Prop :=
  machine.circuit = .halfOpen →
    machine.breaker.state.consecutiveSuccesses.toNat = (succeeded (episode trace)).length

/-- Every step keeps the successes counted. -/
private theorem successesCounted_step (holds : Consistent.Inductive config trace machine)
    (counted : SuccessesCounted trace machine) {label : BreakerLabel} {next : BreakerSystem}
    (transition : BreakerSystem.Step machine label next) :
    SuccessesCounted (trace ++ [label]) next := by
  intro probing
  cases transition with
  | admitted later allowed =>
      rw [episode_snoc_probing trace probing, succeeded_snoc]
      cases CircuitBreakerEmitter.allows_of_shouldAllowRequest allowed with
      | closed state => exact absurd (state.symm.trans probing) (by simp)
      | reset state elapsed =>
          have fresh : episode trace = [] :=
            holds.noEpisode (by simp [BreakerSystem.circuit, state])
          simp [CircuitBreakerEmitter.probing, fresh, succeeded, BreakerEvent.succeededCall]
      | probe state room =>
          simpa [CircuitBreakerEmitter.probed, BreakerEvent.succeededCall] using counted state
  | rejected later refused =>
      obtain ⟨-, rfl⟩ := CircuitBreakerEmitter.rejects_of_shouldAllowRequest refused
      rw [episode_snoc_probing trace probing, succeeded_snoc]
      simpa [BreakerEvent.succeededCall] using counted probing
  | succeeded pending =>
      rw [episode_snoc_probing trace probing, succeeded_snoc]
      have was := CircuitBreakerEmitter.halfOpen_of_recordSuccess probing
      obtain ⟨-, -, -, below⟩ := holds.halfOpen was
      rw [← holds.sameConfig] at below
      rcases machine.breaker.recordSuccess_halfOpen was below with
        ⟨-, closes⟩ | ⟨-, -, -, -, successes⟩
      · exact absurd (closes.symm.trans probing) (by simp)
      · dsimp only
        rw [successes, counted was]
        simp [BreakerEvent.succeededCall]
  | @failed _ now later pending =>
      have frame := (machine.breaker.fails_recordFailure now).frame
      exact absurd probing frame.2.2.2.2.2

/-- The successes of the episode are counted in every reachable state. -/
private theorem successesCounted (runs : (BreakerSystem.system config).Runs trace machine) :
    SuccessesCounted trace machine := by
  refine System.Runs.history SuccessesCounted ?_ ?_ runs
  · rintro machine ⟨clock, rfl⟩ probing
    cases probing
  · intro trace machine label next runs counted transition
    exact successesCounted_step (Consistent.of_runs runs) counted transition

/-- A call which succeeded has completed. -/
theorem succeeded_sublist_completed (trace : List BreakerLabel) :
    (succeeded trace).Sublist (completed trace) := by
  induction trace with
  | nil => exact .slnil
  | cons label trace inductionHypothesis =>
      obtain ⟨event, before, after⟩ := label
      cases event with
      | admitted call now => exact inductionHypothesis
      | rejected call now => exact inductionHypothesis
      | succeeded call => exact inductionHypothesis.cons_cons call
      | failed call now => exact inductionHypothesis.cons call

/-- No call completes twice, and none completes which is still in flight. -/
theorem Consistent.completed_nodup (holds : Consistent config trace machine) :
    (completed trace ++ machine.inFlight).Nodup := by
  have each : (admitted trace).Nodup :=
    (holds.answered.nodup_iff.mpr List.nodup_range).of_append_left
  exact holds.completes.nodup_iff.mpr each

/-- What a step does to a half-open circuit: keep it, close it by a success which
reaches the threshold, or open it by a failure. -/
private theorem step_from_halfOpen (holds : Consistent config trace machine)
    {label : BreakerLabel} {next : BreakerSystem}
    (transition : BreakerSystem.Step machine label next) (probing : machine.circuit = .halfOpen) :
    label.after = .halfOpen ∨
    (label.after = .closed ∧ ∃ call ∈ machine.inFlight, label.event = .succeeded call ∧
      machine.breaker.state.consecutiveSuccesses.toNat + 1 =
        max 1 config.successThreshold.toNat) ∨
    (label.after = .opened ∧ ∃ call ∈ machine.inFlight, ∃ now, label.event = .failed call now) := by
  cases transition with
  | admitted later allowed =>
      left
      cases CircuitBreakerEmitter.allows_of_shouldAllowRequest allowed with
      | closed state => exact probing
      | reset state elapsed => rfl
      | probe state room => exact probing
  | rejected later refused =>
      obtain ⟨-, rfl⟩ := CircuitBreakerEmitter.rejects_of_shouldAllowRequest refused
      exact .inl probing
  | @succeeded call pending =>
      obtain ⟨-, -, -, below⟩ := holds.halfOpen probing
      rw [← holds.sameConfig] at below
      rcases machine.breaker.recordSuccess_halfOpen probing below with
        ⟨reached, closes⟩ | ⟨-, stays, -⟩
      · exact .inr (.inl ⟨closes, call, pending, rfl, holds.sameConfig ▸ reached⟩)
      · exact .inl stays
  | @failed call now later pending =>
      have notClosed : machine.breaker.state.state ≠ .closed := by
        rw [show machine.breaker.state.state = .halfOpen from probing]
        decide
      refine .inr (.inr ⟨?_, call, pending, now, rfl⟩)
      simp [CircuitBreakerEmitter.recordFailure_state, notClosed]

/-- A step which closes a half-open circuit records the last success of its quota. -/
private theorem closes_of_step (runs : (BreakerSystem.system config).Runs trace machine)
    {label : BreakerLabel} {next : BreakerSystem}
    (transition : BreakerSystem.Step machine label next) (probing : machine.circuit = .halfOpen)
    (closed : label.after = .closed) :
    ∃ call ∈ machine.inFlight, label.event = .succeeded call ∧
      (succeeded (episode trace ++ [label])).length = max 1 config.successThreshold.toNat := by
  have holds := (Consistent.of_runs runs).toConsistent
  rcases step_from_halfOpen holds transition probing with
    stays | ⟨-, call, pending, event, reached⟩ | ⟨opened, -⟩
  · exact absurd (stays.symm.trans closed) (by simp)
  · refine ⟨call, pending, event, ?_⟩
    rw [succeeded_snoc, event, List.length_append, ← successesCounted runs probing]
    exact reached
  · exact absurd (opened.symm.trans closed) (by simp)

/-- A step which opens a half-open circuit records a failure. -/
private theorem opens_of_step (holds : Consistent config trace machine)
    {label : BreakerLabel} {next : BreakerSystem}
    (transition : BreakerSystem.Step machine label next) (probing : machine.circuit = .halfOpen)
    (opened : label.after = .opened) :
    ∃ call ∈ machine.inFlight, ∃ now, label.event = .failed call now := by
  rcases step_from_halfOpen holds transition probing with stays | ⟨closed, -⟩ | ⟨-, failure⟩
  · exact absurd (stays.symm.trans opened) (by simp)
  · exact absurd (closed.symm.trans opened) (by simp)
  · exact failure

/-- The calls which have succeeded in an episode are different ones, with that which succeeds
next. -/
private theorem succeeded_nodup (holds : Consistent config trace machine) {call : Nat}
    (pending : call ∈ machine.inFlight) {label : BreakerLabel}
    (event : label.event = .succeeded call) :
    (succeeded (episode trace ++ [label])).Nodup := by
  have within : (succeeded (episode trace)).Sublist (completed trace) :=
    ((List.rtakeWhile_suffix _ trace).sublist.filterMap _).trans
      (succeeded_sublist_completed trace)
  rw [succeeded_snoc, event]
  exact holds.completed_nodup.sublist (within.append (List.singleton_sublist.mpr pending))

/-- A call in flight has been admitted and has not completed. -/
private theorem admitted_of_inFlight (holds : Consistent config trace machine) {call : Nat}
    (pending : call ∈ machine.inFlight) : call ∈ admitted trace ∧ call ∉ completed trace := by
  refine ⟨holds.completes.subset (List.mem_append_right _ pending), fun again => ?_⟩
  exact (List.nodup_append.mp holds.completed_nodup).2.2 call again call pending rfl

/-- What one step decides. -/
private theorem decided (runs : (BreakerSystem.system config).Runs trace machine)
    {label : BreakerLabel} {next : BreakerSystem}
    (transition : BreakerSystem.Step machine label next) : Decided config trace label := by
  have holds := (Consistent.of_runs runs).toConsistent
  have before : label.before = machine.circuit := by cases transition <;> rfl
  refine
    { closes := fun probing closed => ?_
      opens := fun probing opened => ?_
      staysOpened := ?_
      onTime := fun punctual => ⟨fun probing closed => ?_, fun probing opened => ?_⟩ }
  · obtain ⟨call, pending, event, reached⟩ :=
      closes_of_step runs transition (before ▸ probing) closed
    refine ⟨⟨call, event⟩, succeeded_nodup holds pending event, ?_⟩
    rw [← reached]
    simpa only [decide_not] using (List.length_eq_length_filter_add
      fun call => decide (call ∈ admitted (episode trace))).symm
  · obtain ⟨call, pending, now, event⟩ :=
      opens_of_step holds transition (before ▸ probing) opened
    exact ⟨call, now, event, admitted_of_inFlight holds pending⟩
  · intro call completes wasOpened
    rw [before] at wasOpened
    have state : machine.breaker.state.state = .opened := wasOpened
    cases transition with
    | admitted later allowed => cases completes
    | rejected later refused => cases completes
    | succeeded pending => simp [CircuitBreakerEmitter.recordSuccess, state]
    | failed later pending => simp [CircuitBreakerEmitter.recordFailure_state, state]
  · obtain ⟨call, pending, event, reached⟩ :=
      closes_of_step runs transition (before ▸ probing) closed
    rw [List.filter_eq_self.mpr, reached]
    intro call member
    simpa using punctual call ((succeeded_sublist_completed _).subset member)
  · obtain ⟨call, pending, now, event⟩ :=
      opens_of_step holds transition (before ▸ probing) opened
    refine ⟨call, now, event, punctual call ?_⟩
    rw [completed_snoc, event]
    simp [BreakerEvent.completedCall]

/-- Every step of a history decides as `Decided` says. -/
def DecidedThroughout (config : CircuitBreakerConfig) (trace : List BreakerLabel) : Prop :=
  ∀ before label after, trace = before ++ label :: after → Decided config before label

/-- Every step of every run decides a half-open circuit by the results recorded
in its episode, and by those of its probes alone if none is late. -/
theorem half_open_decided (config : CircuitBreakerConfig)
    (execution : (BreakerSystem.system config).Execution) :
    DecidedThroughout config execution.trace := by
  intro before label after split
  refine execution.runs.each (Decided config) ?_ split
  intro trace machine label next runs transition
  exact decided runs transition

/-- A late success closes a half-open circuit none of whose probes has completed:
call 0 is admitted before call 1 opens the circuit, and succeeds after call 2
has begun the episode. -/
theorem late_success_closes :
    ∃ execution : (BreakerSystem.system eagerConfig).Execution, ∃ before,
      execution.trace = before ++ [⟨.succeeded 0, .halfOpen, .closed⟩] ∧
      admitted (episode before) = [2] ∧
      ¬ ClosesByProbes eagerConfig before ⟨.succeeded 0, .halfOpen, .closed⟩ := by
  have start : (BreakerSystem.system eagerConfig).Runs [] (.init eagerConfig 0) :=
    .initial ⟨0, rfl⟩
  have first := start.snoc (BreakerSystem.Step.admitted (le_refl 0) rfl)
  have second := first.snoc (BreakerSystem.Step.admitted (le_refl 0) rfl)
  have opened := second.snoc (BreakerSystem.Step.failed (le_refl 0) (by decide : 1 ∈ [0, 1]))
  have probe := opened.snoc (BreakerSystem.Step.admitted (le_refl 0) rfl)
  have late := probe.snoc (BreakerSystem.Step.succeeded (by decide : 0 ∈ [0, 2]))
  refine ⟨⟨_, _, late⟩, _, rfl, rfl, fun closes => ?_⟩
  exact absurd (closes rfl rfl) (by decide)

end Polku
