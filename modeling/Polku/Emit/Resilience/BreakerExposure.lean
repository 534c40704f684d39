import Polku.Data.Spaced
import Polku.Emit.Resilience.BreakerInvariant

/-!
# What a failing emitter is exposed to

While a circuit is not closed, the wrapped emitter gets one quota of half-open requests at
most in each reset timeout, however many calls are made and whenever they complete: a
half-open circuit admits no more than its quota, and when it opens its next episode waits
for the timeout.
-/

namespace Polku

open Semantics Data BreakerHistory

/-- The time at which an event admits a call, if it does. -/
def BreakerEvent.admittedAt : BreakerEvent → Option Nat
  | .admitted _ now => some now
  | _ => none

namespace BreakerHistory

/-- The times at which calls were admitted, in order. -/
def admissions (trace : List BreakerLabel) : List Nat :=
  trace.filterMap fun label => label.event.admittedAt

/-- The times of one more step. -/
theorem admissions_snoc (trace : List BreakerLabel) (label : BreakerLabel) :
    admissions (trace ++ [label]) = admissions trace ++ label.event.admittedAt.toList :=
  filterMap_snoc _ trace label

end BreakerHistory

/-- The calls which one half-open episode admits at most. -/
def CircuitBreakerConfig.quota (self : CircuitBreakerConfig) : Nat :=
  max 1 self.halfOpenMaxRequests.toNat

/-- What is known of the admissions since some moment, if the circuit has not been closed
after it. -/
structure Exposed (config : CircuitBreakerConfig) (since : List BreakerLabel)
    (machine : BreakerSystem) : Prop where
  spaced : Spaced config.quota config.resetTimeout (admissions since)
  past : ∀ time ∈ admissions since, time ≤ machine.clock
  opened : machine.circuit = .opened → ∀ failure,
    machine.breaker.state.lastFailureTime = some failure →
      ∀ time ∈ admissions since, time ≤ failure
  halfOpen : machine.circuit = .halfOpen → ∃ older recent,
    admissions since = older ++ recent ∧
      recent.length ≤ machine.breaker.state.halfOpenRequests.toNat ∧
      ∀ time ∈ older, time + config.resetTimeout ≤ machine.clock

variable {config : CircuitBreakerConfig} {since : List BreakerLabel} {machine : BreakerSystem}

/-- Nothing has been admitted at first. -/
theorem Exposed.nil (config : CircuitBreakerConfig) (machine : BreakerSystem) :
    Exposed config [] machine where
  spaced := .nil _ _
  past := by simp [admissions]
  opened := by simp [admissions]
  halfOpen _ := ⟨[], [], rfl, Nat.zero_le _, by simp⟩

/-- A call which is admitted keeps the admissions spaced out. -/
theorem Exposed.admitted (exposed : Exposed config since machine)
    (positive : 0 < config.resetTimeout) (same : machine.breaker.config = config)
    (notClosed : machine.circuit ≠ .closed) {now : Nat} {breaker : CircuitBreakerEmitter}
    (later : machine.clock ≤ now)
    (allowed : machine.breaker.shouldAllowRequest now = (true, breaker)) :
    Exposed config
      (since ++ [⟨.admitted machine.calls now, machine.circuit, breaker.state.state⟩])
      ⟨breaker, now, machine.calls + 1, machine.inFlight ++ [machine.calls]⟩ := by
  have times : admissions
      (since ++ [⟨.admitted machine.calls now, machine.circuit, breaker.state.state⟩]) =
        admissions since ++ [now] := admissions_snoc since _
  have past : ∀ time ∈ admissions since ++ [now], time ≤ now := by
    intro time member
    rcases List.mem_append.mp member with before | isNow
    · exact Nat.le_trans (exposed.past time before) later
    · exact Nat.le_of_eq (List.mem_singleton.mp isNow)
  cases CircuitBreakerEmitter.allows_of_shouldAllowRequest allowed with
  | closed state => exact absurd state notClosed
  | reset state elapsed =>
      -- The first call of an episode: all others are a timeout before it.
      have apart : ∀ time ∈ admissions since, time + config.resetTimeout ≤ now := by
        intro time member
        unfold CircuitBreakerEmitter.resetElapsed at elapsed
        cases failed : machine.breaker.state.lastFailureTime with
        | none => simp [failed] at elapsed
        | some failure =>
            have before := exposed.opened state failure failed time member
            simp only [failed, decide_eq_true_eq, same] at elapsed
            omega
      refine ⟨?_, times ▸ past, ?_, fun _ => ⟨admissions since, [now], times, ?_, apart⟩⟩
      · have longer := @Spaced.snoc _ _ (admissions since) [] (by simpa using exposed.spaced)
          (by simp [CircuitBreakerConfig.quota]) now apart
        simpa [times] using longer
      · intro isOpened
        cases isOpened
      · simp [CircuitBreakerEmitter.probing]
  | probe state room =>
      -- One more call of an episode, within its quota.
      obtain ⟨older, recent, split, few, apart⟩ := exposed.halfOpen state
      have bounded := UInt32.lt_iff_toNat_lt.mp room
      rw [same] at bounded
      have apartNow : ∀ time ∈ older, time + config.resetTimeout ≤ now :=
        fun time member => Nat.le_trans (apart time member) later
      have spaced := exposed.spaced
      rw [split] at spaced times
      refine ⟨?_, ?_, ?_, fun _ => ⟨older, recent ++ [now], ?_, ?_, apartNow⟩⟩
      · rw [times]
        apply spaced.snoc _ apartNow
        rw [CircuitBreakerConfig.quota]
        omega
      · rw [times, ← split]
        exact past
      · intro isOpened
        cases state.symm.trans isOpened
      · rw [times, List.append_assoc]
      · simp only [CircuitBreakerEmitter.probed, CircuitBreakerEmitter.toNat_succ room,
          List.length_append, List.length_singleton]
        omega

/-- A step which admits nothing leaves the admissions as they are. -/
theorem Exposed.idle (exposed : Exposed config since machine) {label : BreakerLabel}
    {next : BreakerSystem} (none : label.event.admittedAt = none)
    (later : machine.clock ≤ next.clock)
    (opened : next.circuit = .opened → ∀ failure,
      next.breaker.state.lastFailureTime = some failure →
        ∀ time ∈ admissions since, time ≤ failure)
    (halfOpen : next.circuit = .halfOpen → machine.circuit = .halfOpen ∧
      next.breaker.state.halfOpenRequests = machine.breaker.state.halfOpenRequests) :
    Exposed config (since ++ [label]) next := by
  have times : admissions (since ++ [label]) = admissions since := by
    rw [admissions_snoc, none]
    exact List.append_nil _
  refine ⟨?_, ?_, ?_, ?_⟩
  · rw [times]
    exact exposed.spaced
  · rw [times]
    exact fun time member => Nat.le_trans (exposed.past time member) later
  · rwa [times]
  · intro probing
    obtain ⟨was, requests⟩ := halfOpen probing
    obtain ⟨older, recent, split, few, apart⟩ := exposed.halfOpen was
    rw [times, requests]
    exact ⟨older, recent, split, few, fun time member => Nat.le_trans (apart time member) later⟩

/-- Every step keeps it until the circuit closes. -/
theorem Exposed.step (exposed : Exposed config since machine)
    (positive : 0 < config.resetTimeout) (same : machine.breaker.config = config)
    (notClosed : machine.circuit ≠ .closed) {label : BreakerLabel} {next : BreakerSystem}
    (transition : BreakerSystem.Step machine label next) :
    Exposed config (since ++ [label]) next := by
  cases transition with
  | admitted later allowed => exact exposed.admitted positive same notClosed later allowed
  | rejected later refused =>
      obtain ⟨-, rfl⟩ := CircuitBreakerEmitter.rejects_of_shouldAllowRequest refused
      exact exposed.idle rfl later exposed.opened fun probing => ⟨probing, rfl⟩
  | succeeded pending =>
      have succeeds := machine.breaker.succeeds_recordSuccess
      obtain ⟨-, -, lastFailureTime, -, -, opening⟩ := succeeds.frame
      refine exposed.idle rfl (Nat.le_refl _) ?_ ?_
      · intro isOpened failure recorded
        exact exposed.opened (opening.mp isOpened) failure (lastFailureTime.symm.trans recorded)
      · intro probing
        have was := CircuitBreakerEmitter.halfOpen_of_recordSuccess probing
        refine ⟨was, ?_⟩
        change machine.breaker.recordSuccess.state.state = .halfOpen at probing
        generalize machine.breaker.recordSuccess = after at succeeds probing
        cases succeeds with
        | elsewhere other => exact absurd was other
        | counted _ _ => rfl
        | closing _ _ => cases probing
  | @failed call now later pending =>
      obtain ⟨-, -, lastFailureTime, -, -, notProbing⟩ :=
        (machine.breaker.fails_recordFailure now).frame
      refine exposed.idle rfl later ?_ fun probing => absurd probing notProbing
      intro _ failure recorded time member
      obtain rfl := Option.some.inj (lastFailureTime.symm.trans recorded)
      exact Nat.le_trans (exposed.past time member) later

/-- What is known of every part of a history in which the circuit is not closed. -/
def ExposedThroughout (config : CircuitBreakerConfig) (trace : List BreakerLabel)
    (machine : BreakerSystem) : Prop :=
  ∀ before middle after, trace = before ++ (middle ++ after) →
    (∀ label ∈ middle, label.before ≠ .closed) →
      Spaced config.quota config.resetTimeout (admissions middle) ∧
        (after = [] → machine.circuit ≠ .closed → Exposed config middle machine)

/-- It is known in every run. -/
theorem exposedThroughout (positive : 0 < config.resetTimeout) {trace : List BreakerLabel}
    (run : (BreakerSystem.system config).Runs trace machine) :
    ExposedThroughout config trace machine := by
  apply run.history (ExposedThroughout config)
  case initial =>
      intro machine _ before middle after split _
      obtain ⟨rfl, rfl⟩ := List.append_eq_nil_iff.mp (List.append_eq_nil_iff.mp split.symm).2
      exact ⟨.nil _ _, fun _ _ => .nil config machine⟩
  case preserved =>
      intro trace machine label next prior exposed transition before middle after split notClosed
      rcases List.eq_nil_or_concat after with rfl | ⟨rest, last, rfl⟩
      · rw [List.append_nil] at split
        rcases List.eq_nil_or_concat middle with rfl | ⟨middle, last, rfl⟩
        · exact ⟨.nil _ _, fun _ _ => .nil config next⟩
        · -- The step is the last of the part: the circuit was not closed before it.
          rw [List.concat_eq_append] at split notClosed ⊢
          rw [← List.append_assoc] at split
          obtain ⟨rfl, isLast⟩ := List.append_inj' split rfl
          obtain rfl := List.singleton_inj.mp isLast
          have stillOpen : machine.circuit ≠ .closed := by
            have wasNot := notClosed label (by simp)
            cases transition <;> exact wasNot
          have earlier : ∀ label ∈ middle, label.before ≠ .closed :=
            fun label member => notClosed label (List.mem_append_left _ member)
          have now := (exposed before middle [] (by simp) earlier).2 rfl stillOpen
          have same := (Consistent.of_runs prior).sameConfig
          have next := now.step positive same stillOpen transition
          exact ⟨next.spaced, fun _ _ => next⟩
      · have whole : trace ++ [label] = (before ++ (middle ++ rest)) ++ [last] := by
          simpa using split
        obtain ⟨same, -⟩ := List.append_inj' whole rfl
        exact ⟨(exposed before middle rest same notClosed).1, by simp⟩

/-- However the calls of an emitter interleave, in any part of a run in which its circuit is
not closed, and which lasts for some time, the wrapped emitter is called for one quota of
half-open requests in each reset timeout at most. -/
theorem breaker_limits_exposure (config : CircuitBreakerConfig)
    (positive : 0 < config.resetTimeout) {trace before middle after : List BreakerLabel}
    {machine : BreakerSystem} (run : (BreakerSystem.system config).Runs trace machine)
    (split : trace = before ++ (middle ++ after))
    (notClosed : ∀ label ∈ middle, label.before ≠ .closed) {start duration : Nat}
    (within : ∀ time ∈ admissions middle, start ≤ time ∧ time ≤ start + duration) :
    (admissions middle).length ≤
      max 1 config.halfOpenMaxRequests.toNat * (duration / config.resetTimeout + 1) :=
  (exposedThroughout positive run before middle after split notClosed).1.length_le positive within

/-- Two requests may pass while half-open, every ten nanoseconds. -/
def probingConfig : CircuitBreakerConfig := ⟨1, 3, 10, 2⟩

/-- The first call opens the circuit. -/
def openingCall : List BreakerLabel :=
  [⟨.admitted 0 0, .closed, .closed⟩, ⟨.failed 0 0, .closed, .opened⟩]

/-- Two probes pass ten nanoseconds later, one of which fails, so that the next waits again. -/
def probingCalls : List BreakerLabel :=
  [⟨.admitted 1 10, .opened, .halfOpen⟩, ⟨.admitted 2 12, .halfOpen, .halfOpen⟩,
    ⟨.failed 1 13, .halfOpen, .opened⟩, ⟨.rejected 3 22, .opened, .opened⟩,
    ⟨.admitted 4 23, .opened, .halfOpen⟩]

/-- Three calls pass in thirteen nanoseconds, where four might. -/
theorem breaker_limits_exposure_probes :
    (∃ machine, (BreakerSystem.system probingConfig).Runs
        (openingCall ++ (probingCalls ++ [])) machine) ∧
      admissions probingCalls = [10, 12, 23] ∧
      (admissions probingCalls).length ≤ max 1 2 * (13 / 10 + 1) := by
  have start : (BreakerSystem.system probingConfig).Runs [] (.init probingConfig 0) :=
    .initial ⟨0, rfl⟩
  have first := start.snoc (BreakerSystem.Step.admitted (le_refl 0) rfl)
  have opened := first.snoc (BreakerSystem.Step.failed (le_refl 0) (by decide : 0 ∈ [0]))
  have probe := opened.snoc (@BreakerSystem.Step.admitted _ 10 _ (by decide) rfl)
  have second := probe.snoc (@BreakerSystem.Step.admitted _ 12 _ (by decide) rfl)
  have failed := second.snoc (@BreakerSystem.Step.failed _ 1 13 (by decide) (by decide))
  have rejected := failed.snoc (@BreakerSystem.Step.rejected _ 22 _ (by decide) rfl)
  have third := rejected.snoc (@BreakerSystem.Step.admitted _ 23 _ (by decide) rfl)
  have window : ∀ time ∈ admissions probingCalls, 10 ≤ time ∧ time ≤ 10 + 13 := by decide
  exact ⟨⟨_, third⟩, rfl, @breaker_limits_exposure probingConfig (by decide) _ openingCall
    probingCalls [] _ third rfl (by decide) 10 13 window⟩

end Polku
