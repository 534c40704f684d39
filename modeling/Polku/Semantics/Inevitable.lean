import Mathlib.Order.WellFounded

/-!
# What is inevitable

A goal is inevitable in a state if every run from it which goes on as long as it can comes
to the goal after finitely many steps. A measure which each step decreases makes it so, and
a set of states which has no goal and is never left prevents it.
-/

namespace Polku.Semantics

universe u v

variable {State : Type u} {Step : State → State → Prop} {goal : State → Prop}

/-- Every run from a state reaches the goal, and no run stops before. -/
inductive Inevitable (Step : State → State → Prop) (goal : State → Prop) : State → Prop where
  | reached {state} (isGoal : goal state) : Inevitable Step goal state
  | later {state} (goesOn : ∃ next, Step state next)
      (all : ∀ next, Step state next → Inevitable Step goal next) : Inevitable Step goal state

/-- A goal is inevitable if every state short of it has a step, and every such step goes down
in a well-founded measure. -/
theorem Inevitable.of_measure {Rank : Type v} [WellFoundedRelation Rank] (rank : State → Rank)
    (invariant : State → Prop)
    (progress : ∀ state, invariant state → goal state ∨ ∃ next, Step state next)
    (descends : ∀ state next, invariant state → Step state next →
      invariant next ∧ WellFoundedRelation.rel (rank next) (rank state))
    {state : State} (holds : invariant state) : Inevitable Step goal state := by
  have descent := (InvImage.wf rank WellFoundedRelation.wf).apply state
  induction descent with
  | intro state _ inductionHypothesis =>
      rcases progress state holds with isGoal | goesOn
      · exact .reached isGoal
      · refine .later goesOn fun next step => ?_
        obtain ⟨still, lower⟩ := descends state next holds step
        exact inductionHypothesis next lower still

/-- A goal is not inevitable in states which have none and are never left. -/
theorem not_inevitable (stuck : State → Prop) (noGoal : ∀ state, stuck state → ¬ goal state)
    (remains : ∀ state, stuck state → ∀ next, Step state next → stuck next)
    {state : State} (isStuck : stuck state) : ¬ Inevitable Step goal state := by
  intro inevitable
  induction inevitable with
  | reached isGoal => exact noGoal _ isStuck isGoal
  | later step _ inductionHypothesis =>
      obtain ⟨next, step⟩ := step
      exact inductionHypothesis next step (remains _ isStuck next step)

end Polku.Semantics
