import Polku.Data.List

/-!
# Labelled executions

A system is a state type, its initial states and a labelled step relation. A
run keeps the labels of its steps in order, so that a property of a run may
speak about its whole history.

`System.RunsWhere` restricts the steps a run may take by a condition on the
prior history and the step itself. `System.Runs` is the unrestricted case.
Nothing here mentions a particular program.
-/

namespace Polku.Semantics

universe u v

/-- A labelled transition system. -/
structure System (Label : Type u) where
  State : Type v
  Initial : State → Prop
  Step : State → Label → State → Prop

namespace System

variable {Label : Type u}

/-- Finite runs each of whose steps meets `cond`, a condition on the labels
before the step, the state before it, its label and the state after it. -/
inductive RunsWhere (system : System.{u, v} Label)
    (cond : List Label → system.State → Label → system.State → Prop) :
    List Label → system.State → Prop where
  | initial {state} (valid : system.Initial state) : RunsWhere system cond [] state
  | step {trace state label next} (prior : RunsWhere system cond trace state)
      (transition : system.Step state label next)
      (meets : cond trace state label next) :
      RunsWhere system cond (trace ++ [label]) next

/-- Every finite run, whatever its steps. -/
abbrev Runs (system : System.{u, v} Label) : List Label → system.State → Prop :=
  system.RunsWhere fun _ _ _ _ => True

variable {system : System.{u, v} Label}
  {cond stronger : List Label → system.State → Label → system.State → Prop}
  {trace : List Label} {state next : system.State} {label : Label}

/-- Extend an unrestricted run by one step. -/
theorem Runs.snoc (prior : system.Runs trace state)
    (transition : system.Step state label next) : system.Runs (trace ++ [label]) next :=
  .step prior transition trivial

/-- A restricted run is a run. -/
theorem RunsWhere.runs (run : system.RunsWhere cond trace state) :
    system.Runs trace state := by
  induction run with
  | initial valid => exact .initial valid
  | step _ transition _ inductionHypothesis => exact inductionHypothesis.snoc transition

/-- The rule for properties of a run: `property` holds of the empty history in
every initial state and each step carries it from one history to the next. -/
theorem RunsWhere.history (property : List Label → system.State → Prop)
    (initial : ∀ state, system.Initial state → property [] state)
    (preserved : ∀ {trace state label next}, system.Runs trace state →
      property trace state → system.Step state label next →
      cond trace state label next → property (trace ++ [label]) next)
    (run : system.RunsWhere cond trace state) : property trace state := by
  induction run with
  | initial valid => exact initial _ valid
  | step prior transition meets inductionHypothesis =>
      exact preserved prior.runs inductionHypothesis transition meets

/-- The rule for unrestricted runs. -/
theorem Runs.history (property : List Label → system.State → Prop)
    (initial : ∀ state, system.Initial state → property [] state)
    (preserved : ∀ {trace state label next}, system.Runs trace state →
      property trace state → system.Step state label next → property (trace ++ [label]) next)
    (run : system.Runs trace state) : property trace state :=
  RunsWhere.history property initial
    (fun prior holds transition _ => preserved prior holds transition) run

/-- The rule for properties of single steps: what each step has, given the
history before it, every step of every run has. -/
theorem Runs.each (property : List Label → Label → Prop)
    (holds : ∀ {trace state label next}, system.Runs trace state →
      system.Step state label next → property trace label)
    (run : system.Runs trace state) {before after : List Label} {label : Label}
    (split : trace = before ++ label :: after) : property before label := by
  induction run generalizing after with
  | initial valid => simp at split
  | step prior transition _ inductionHypothesis =>
      rcases Data.snoc_split split with ⟨rfl, rfl, -⟩ | ⟨rest, -, whole⟩
      · exact holds prior transition
      · exact inductionHypothesis whole

/-- If the steps of a run all meet `cond`, and a step of a run which meets
`cond` has the property `stronger`, then all its steps have that property. -/
theorem RunsWhere.strengthen
    (implies : ∀ {trace state label next}, system.Runs trace state →
      system.Step state label next → cond trace state label next →
      stronger trace state label next)
    (run : system.RunsWhere cond trace state) : system.RunsWhere stronger trace state := by
  induction run with
  | initial valid => exact .initial valid
  | step prior transition meets inductionHypothesis =>
      exact .step inductionHypothesis transition (implies prior.runs transition meets)

/-- A finite run packaged with its history and the state it reaches. -/
structure Execution (system : System.{u, v} Label) where
  trace : List Label
  state : system.State
  runs : system.Runs trace state

/-- The execution which has taken no step yet. -/
def Execution.initial (valid : system.Initial state) : system.Execution where
  trace := []
  state := state
  runs := .initial valid

/-- Extend an execution by one step. -/
def Execution.snoc (execution : system.Execution)
    (transition : system.Step execution.state label next) : system.Execution where
  trace := execution.trace ++ [label]
  state := next
  runs := execution.runs.snoc transition

end System

end Polku.Semantics
