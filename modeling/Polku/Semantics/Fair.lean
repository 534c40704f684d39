import Mathlib.Order.WellFounded
import Polku.Semantics.Execution

/-!
# Fair behaviors

A behavior goes on for ever: at each time a step is taken, or nothing happens. It is fair to
a process which takes one of its steps whenever, from some time on, it always could.

A goal is reached in a behavior which is fair to the right processes if in every state there
is one whose next step does some of what is left, and no other step undoes any of it or keeps
that one from its step.
-/

namespace Polku.Semantics

universe u v w

namespace System

variable {Label : Type u}

/-- An infinite sequence of steps and of times at which nothing happens. -/
structure Behavior (system : System.{u, v} Label) where
  state : Nat → system.State
  label : Nat → Option Label
  initial : system.Initial (state 0)
  idle : ∀ time, label time = none → state (time + 1) = state time
  moves : ∀ time event, label time = some event →
    system.Step (state time) event (state (time + 1))

namespace Behavior

variable {system : System.{u, v} Label}

/-- The labels before some time. -/
def history (behavior : system.Behavior) (time : Nat) : List Label :=
  (List.range time).filterMap behavior.label

/-- Some process does not wait for ever while it can take a step. -/
def Fair (behavior : system.Behavior) (process : system.State → system.State → Prop) : Prop :=
  ∀ time, (∀ later, time ≤ later → ∃ next, process (behavior.state later) next) →
    ∃ later, time ≤ later ∧ process (behavior.state later) (behavior.state (later + 1))

variable (behavior : system.Behavior)

/-- The history up to one time more. -/
theorem history_succ (time : Nat) : behavior.history (time + 1) =
    behavior.history time ++ (behavior.label time).toList := by
  rw [history, List.range_succ, List.filterMap_append]
  cases happens : behavior.label time <;> simp [history, happens]

/-- What is in the history has happened at some time. -/
theorem mem_history {time : Nat} {event : Label} : event ∈ behavior.history time ↔
    ∃ earlier, earlier < time ∧ behavior.label earlier = some event := by
  simp [history]

/-- What has happened up to some time is a run. -/
theorem runs (time : Nat) : system.Runs (behavior.history time) (behavior.state time) := by
  induction time with
  | zero => exact .initial behavior.initial
  | succ time inductionHypothesis =>
      rw [history_succ]
      cases happens : behavior.label time with
      | none =>
          rw [behavior.idle time happens]
          simpa using inductionHypothesis
      | some event => exact inductionHypothesis.snoc (behavior.moves time event happens)

/-- What every step keeps stays, once it holds. -/
theorem stays {property : system.State → Prop}
    (kept : ∀ state event next, property state → system.Step state event next → property next)
    {time later : Nat} (after : time ≤ later) (holds : property (behavior.state time)) :
    property (behavior.state later) := by
  induction later, after using Nat.le_induction with
  | base => exact holds
  | succ later _ inductionHypothesis =>
      cases happens : behavior.label later with
      | none =>
          rw [behavior.idle later happens]
          exact inductionHypothesis
      | some event => exact kept _ event _ inductionHypothesis (behavior.moves later event happens)

/-- A behavior is fair to a process which can take no step in the end. -/
theorem fair_of_ended {process : system.State → system.State → Prop} {time : Nat}
    {last : system.State} (ended : ∀ later, time ≤ later → behavior.state later = last)
    (done : ∀ next, ¬ process last next) : behavior.Fair process := by
  intro start enabled
  obtain ⟨next, step⟩ := enabled (max start time) (Nat.le_max_left _ _)
  rw [ended _ (Nat.le_max_right _ _)] at step
  exact absurd step (done next)

/-- Fairness to a process is fairness to any other that can step whenever it can and not
otherwise, and whose steps include its own. -/
theorem Fair.of_imp {behavior : system.Behavior}
    {process other : system.State → system.State → Prop} (fair : behavior.Fair process)
    (included : ∀ state next, process state next → other state next)
    (enables : ∀ state next, other state next → ∃ next, process state next) :
    behavior.Fair other := by
  intro time enabled
  have possible : ∀ later, time ≤ later → ∃ next, process (behavior.state later) next := by
    intro later after
    obtain ⟨next, step⟩ := enabled later after
    exact enables _ next step
  obtain ⟨later, after, step⟩ := fair time possible
  exact ⟨later, after, included _ _ step⟩

section Helpful

variable {Process : Type w} {Rank : Type w} [WellFoundedRelation Rank]

/-- How a goal comes nearer: in every state short of it one process helps. -/
structure Helps (system : System.{u, v} Label) (goal : system.State → Prop)
    (process : Process → system.State → system.State → Prop) (invariant : system.State → Prop)
    (helpful : system.State → Process) (rank : system.State → Rank) : Prop where
  /-- The helpful process has a step. -/
  progress : ∀ state, invariant state → ¬ goal state → ∃ next, process (helpful state) state next
  /-- Each of its steps goes down in the rank. -/
  descends : ∀ state next, invariant state → ¬ goal state → process (helpful state) state next →
    WellFoundedRelation.rel (rank next) (rank state)
  /-- So does every other step, or it leaves the rank and the helpful process as they are. -/
  steady : ∀ state event next, invariant state → ¬ goal state → system.Step state event next →
    invariant next ∧ (WellFoundedRelation.rel (rank next) (rank state) ∨
      rank next = rank state ∧ helpful next = helpful state)

variable {goal : system.State → Prop} {process : Process → system.State → system.State → Prop}
  {invariant : system.State → Prop} {helpful : system.State → Process}
  {rank : system.State → Rank}

/-- Short of the goal, what is left does not stay as it is for ever. -/
private theorem exists_descends (helps : Helps system goal process invariant helpful rank)
    (fair : ∀ each, behavior.Fair (process each)) {time : Nat}
    (holds : invariant (behavior.state time))
    (short : ∀ later, time ≤ later → ¬ goal (behavior.state later)) :
    ∃ later, time ≤ later ∧ invariant (behavior.state later) ∧
      WellFoundedRelation.rel (rank (behavior.state later)) (rank (behavior.state time)) := by
  by_contra never
  -- Otherwise the same process could always take its step, and never did.
  have same : ∀ later, time ≤ later → invariant (behavior.state later) ∧
      rank (behavior.state later) = rank (behavior.state time) ∧
      helpful (behavior.state later) = helpful (behavior.state time) := by
    intro later after
    induction later, after using Nat.le_induction with
    | base => exact ⟨holds, rfl, rfl⟩
    | succ later after inductionHypothesis =>
        obtain ⟨still, sameRank, sameHelpful⟩ := inductionHypothesis
        cases happens : behavior.label later with
        | none =>
            rw [behavior.idle later happens]
            exact ⟨still, sameRank, sameHelpful⟩
        | some event =>
            obtain ⟨next, lower | ⟨keepsRank, keepsHelpful⟩⟩ := helps.steady _ event _ still
              (short later after) (behavior.moves later event happens)
            · rw [sameRank] at lower
              exact absurd ⟨later + 1, Nat.le_succ_of_le after, next, lower⟩ never
            · exact ⟨next, keepsRank.trans sameRank, keepsHelpful.trans sameHelpful⟩
  have enabled : ∀ later, time ≤ later →
      ∃ next, process (helpful (behavior.state time)) (behavior.state later) next := by
    intro later after
    obtain ⟨still, -, sameHelpful⟩ := same later after
    rw [← sameHelpful]
    exact helps.progress _ still (short later after)
  obtain ⟨later, after, step⟩ := fair (helpful (behavior.state time)) time enabled
  obtain ⟨still, sameRank, sameHelpful⟩ := same later after
  rw [← sameHelpful] at step
  have lower := helps.descends _ _ still (short later after) step
  rw [sameRank] at lower
  exact never ⟨later + 1, Nat.le_succ_of_le after, (same (later + 1) (Nat.le_succ_of_le after)).1,
    lower⟩

/-- A behavior which is fair to all processes comes to the goal. -/
theorem Helps.eventually (helps : Helps system goal process invariant helpful rank)
    (fair : ∀ each, behavior.Fair (process each)) {time : Nat}
    (holds : invariant (behavior.state time)) :
    ∃ later, time ≤ later ∧ goal (behavior.state later) := by
  have descent := (InvImage.wf (fun time => rank (behavior.state time))
    WellFoundedRelation.wf).apply time
  induction descent with
  | intro time _ inductionHypothesis =>
      by_contra never
      have short : ∀ later, time ≤ later → ¬ goal (behavior.state later) :=
        fun later after isGoal => never ⟨later, after, isGoal⟩
      obtain ⟨later, after, still, lower⟩ := exists_descends behavior helps fair holds short
      obtain ⟨last, afterLater, isGoal⟩ := inductionHypothesis later lower still
      exact short last (Nat.le_trans after afterLater) isGoal

end Helpful

end Behavior

/-! ### Runs which come to an end -/

/-- One more step at the time from which nothing happens. -/
def Behavior.thenStep {system : System.{u, v} Label} (behavior : system.Behavior) (time : Nat)
    {event : Label} {next : system.State} (step : system.Step (behavior.state time) event next) :
    system.Behavior where
  state later := if later ≤ time then behavior.state later else next
  label later := if later < time then behavior.label later
    else if later = time then some event else none
  initial := by simpa using behavior.initial
  idle later none := by
    rcases Nat.lt_trichotomy later time with before | rfl | after
    · rw [if_pos before] at none
      rw [if_pos (Nat.succ_le_of_lt before), if_pos (Nat.le_of_lt before)]
      exact behavior.idle later none
    · simp at none
    · rw [if_neg (by omega), if_neg (by omega)]
  moves later other happens := by
    rcases Nat.lt_trichotomy later time with before | rfl | after
    · rw [if_pos before] at happens
      rw [if_pos (Nat.succ_le_of_lt before), if_pos (Nat.le_of_lt before)]
      exact behavior.moves later other happens
    · rw [if_neg (Nat.lt_irrefl later), if_pos rfl] at happens
      obtain rfl := Option.some.inj happens
      rw [if_pos (Nat.le_refl later), if_neg (Nat.not_succ_le_self later)]
      exact step
    · rw [if_neg (by omega), if_neg (by omega)] at happens
      cases happens

/-- Any run is one of a behavior in which nothing happens any more after it. -/
theorem Runs.exists_behavior {system : System.{u, v} Label} {trace : List Label}
    {state : system.State} (run : system.Runs trace state) :
    ∃ (behavior : system.Behavior) (time : Nat), behavior.history time = trace ∧
      behavior.state time = state ∧ ∀ later, time ≤ later → behavior.state later = state := by
  induction run with
  | @initial state valid =>
      exact ⟨⟨fun _ => state, fun _ => none, valid, fun _ _ => rfl, fun _ _ => nofun⟩, 0, rfl,
        rfl, fun _ _ => rfl⟩
  | @step trace state event next prior transition _ inductionHypothesis =>
      obtain ⟨behavior, time, history, rfl, ended⟩ := inductionHypothesis
      have last : ∀ later, time + 1 ≤ later →
          (behavior.thenStep time transition).state later = next :=
        fun later after => if_neg (Nat.not_le.mpr after)
      refine ⟨behavior.thenStep time transition, time + 1, ?_, last _ (Nat.le_refl _), last⟩
      have same : (behavior.thenStep time transition).history time = behavior.history time := by
        apply List.filterMap_congr
        intro later member
        exact if_pos (List.mem_range.mp member)
      have now : (behavior.thenStep time transition).label time = some event := by
        simp [Behavior.thenStep]
      rw [Behavior.history_succ, same, history, now]
      rfl

/-! ### Runs which go on -/

/-- A sequence of steps which are taken from some time on. -/
def Behavior.thenSteps {system : System.{u, v} Label} (behavior : system.Behavior) (time : Nat)
    (after : Nat → system.State) (events : Nat → Label) (start : after 0 = behavior.state time)
    (steps : ∀ count, system.Step (after count) (events count) (after (count + 1))) :
    system.Behavior where
  state later := if later < time then behavior.state later else after (later - time)
  label later := if later < time then behavior.label later else some (events (later - time))
  initial := by
    split
    · exact behavior.initial
    · have now : time = 0 := by omega
      subst now
      exact start ▸ behavior.initial
  idle later none := by
    split at none
    case isTrue before =>
        rw [if_pos before, ← behavior.idle later none]
        split
        · rfl
        · have now : later + 1 = time := by omega
          rw [now, Nat.sub_self, start]
    case isFalse => cases none
  moves later event happens := by
    split at happens
    case isTrue before =>
        have step := behavior.moves later event happens
        rw [if_pos before]
        split
        · exact step
        · have now : later + 1 = time := by omega
          rw [now, Nat.sub_self, start, ← now]
          exact step
    case isFalse notBefore =>
        obtain rfl := Option.some.inj happens
        rw [if_neg notBefore, if_neg (by omega), Nat.sub_add_comm (Nat.not_lt.mp notBefore)]
        exact steps (later - time)

/-- A run which can go on for ever with steps of a process is one of a behavior which is fair
to it. -/
theorem Runs.exists_fair {system : System.{u, v} Label} {trace : List Label}
    {state : system.State} {process : system.State → system.State → Prop}
    {invariant : system.State → Prop}
    (goesOn : ∀ state, invariant state →
      ∃ event next, system.Step state event next ∧ process state next ∧ invariant next)
    (run : system.Runs trace state) (holds : invariant state) :
    ∃ (behavior : system.Behavior) (time : Nat), behavior.history time = trace ∧
      behavior.state time = state ∧ behavior.Fair process := by
  obtain ⟨behavior, time, history, reached, -⟩ := run.exists_behavior
  have each : ∀ state : { state // invariant state }, ∃ (event : Label)
      (next : { state // invariant state }), system.Step state.1 event next.1 ∧
        process state.1 next.1 := by
    intro ⟨state, holds⟩
    obtain ⟨event, next, step, taken, still⟩ := goesOn state holds
    exact ⟨event, ⟨next, still⟩, step, taken⟩
  choose event next steps taken using each
  -- From the state which is reached, the chosen steps are taken one after another.
  let after (count : Nat) := next^[count] ⟨state, holds⟩
  have succ : ∀ count, after (count + 1) = next (after count) :=
    fun count => Function.iterate_succ_apply' next count _
  have moves : ∀ count, system.Step (after count).1 (event (after count)) (after (count + 1)).1 := by
    intro count
    rw [succ]
    exact steps (after count)
  refine ⟨behavior.thenSteps time (fun count => (after count).1) (fun count => event (after count))
    reached.symm moves, time, ?_, ?_, ?_⟩
  · rw [← history]
    apply List.filterMap_congr
    intro later member
    exact if_pos (List.mem_range.mp member)
  · simp only [Behavior.thenSteps, lt_irrefl, if_false, Nat.sub_self]
    rfl
  · intro start _
    refine ⟨max start time, Nat.le_max_left _ _, ?_⟩
    have notBefore : ¬ max start time < time := by omega
    have still : ¬ max start time + 1 < time := by omega
    simp only [Behavior.thenSteps, if_neg notBefore, if_neg still]
    rw [Nat.sub_add_comm (Nat.le_max_right _ _), succ]
    exact taken _

end System

end Polku.Semantics
