import Polku.Semantics.Fair

/-!
# Refinement

A system refines another one if, in the states of an invariant, each of its steps is a step
of the other or changes nothing there. A run then shows a run of the other system with the
labels that can be seen, and a fair behavior a fair one, so that properties of either kind
carry over.
-/

namespace Polku.Semantics

universe u v w

namespace System

variable {Label : Type u} {Seen : Type w}

/-- How the steps of a system are seen as steps of another one. -/
structure Refines (concrete : System.{u, v} Label) (abstract : System.{w, v} Seen)
    (project : concrete.State → abstract.State) (view : Label → Option Seen)
    (invariant : concrete.State → Prop) : Prop where
  initial : ∀ state, concrete.Initial state → invariant state ∧ abstract.Initial (project state)
  kept : ∀ {state label next}, invariant state → concrete.Step state label next → invariant next
  hidden : ∀ {state label next}, invariant state → concrete.Step state label next →
    view label = none → project next = project state
  seen : ∀ {state label next event}, invariant state → concrete.Step state label next →
    view label = some event → abstract.Step (project state) event (project next)

namespace Refines

variable {concrete : System.{u, v} Label} {abstract : System.{w, v} Seen}
  {project : concrete.State → abstract.State} {view : Label → Option Seen}
  {invariant : concrete.State → Prop}
  (refines : Refines concrete abstract project view invariant)
include refines

/-- The invariant holds in every run. -/
theorem holds {trace : List Label} {state : concrete.State} (run : concrete.Runs trace state) :
    invariant state := by
  apply run.history fun _ state => invariant state
  case initial => exact fun state valid => (refines.initial state valid).1
  case preserved => exact fun _ holds transition => refines.kept holds transition

/-- What is seen of a run is a run. -/
theorem runs {trace : List Label} {state : concrete.State} (run : concrete.Runs trace state) :
    abstract.Runs (trace.filterMap view) (project state) := by
  apply run.history fun trace state => abstract.Runs (trace.filterMap view) (project state)
  case initial => exact fun state valid => .initial (refines.initial state valid).2
  case preserved =>
      intro trace state label next prior shown transition
      have valid := refines.holds prior
      rw [Data.filterMap_snoc]
      cases visible : view label with
      | none =>
          rw [refines.hidden valid transition visible]
          simpa using shown
      | some event => exact shown.snoc (refines.seen valid transition visible)

/-- What is seen of a behavior. -/
def behavior (behavior : concrete.Behavior) : abstract.Behavior where
  state time := project (behavior.state time)
  label time := (behavior.label time).bind view
  initial := (refines.initial _ behavior.initial).2
  idle time none := by
    cases happens : behavior.label time with
    | none => rw [behavior.idle time happens]
    | some label =>
        rw [happens] at none
        exact refines.hidden (refines.holds (behavior.runs time))
          (behavior.moves time label happens) none
  moves time event happens := by
    obtain ⟨label, isLabel, visible⟩ := Option.bind_eq_some_iff.mp happens
    exact refines.seen (refines.holds (behavior.runs time)) (behavior.moves time label isLabel)
      visible

/-- Its history is what is seen of the history. -/
theorem history_behavior (behavior : concrete.Behavior) (time : Nat) :
    (refines.behavior behavior).history time = (behavior.history time).filterMap view := by
  rw [Behavior.history, Behavior.history, List.filterMap_filterMap]
  rfl

/-- It is fair to a process whose steps the system can take. -/
theorem fair_behavior {behavior : concrete.Behavior}
    {process : abstract.State → abstract.State → Prop}
    (possible : ∀ state next, process (project state) next → ∃ after, project after = next)
    (fair : behavior.Fair fun state next => process (project state) (project next)) :
    (refines.behavior behavior).Fair process := by
  intro time enabled
  apply fair time
  intro later after
  obtain ⟨next, step⟩ := enabled later after
  obtain ⟨reached, rfl⟩ := possible _ next step
  exact ⟨reached, step⟩

end Refines

end System

end Polku.Semantics
