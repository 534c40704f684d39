import Mathlib.Data.List.Forall2
import Polku.Semantics.Execution

/-!
# Simulation

A system simulates another one along a relation of their states if it can match each step of
the other by one with a label which looks the same. Then every run of the other looks like one
of its own. Two systems which simulate each other cannot be told apart.
-/

namespace Polku.Semantics

universe u v w x

namespace System

variable {Label : Type u} {Label' : Type w}

/-- Each step of the first system is matched by one of the second. -/
structure Simulates (first : System.{u, v} Label) (second : System.{w, x} Label')
    (related : first.State → second.State → Prop) (alike : Label → Label' → Prop) : Prop where
  initial : ∀ state, first.Initial state → ∃ state', second.Initial state' ∧ related state state'
  step : ∀ {state state' label next}, related state state' → first.Step state label next →
    ∃ label' next', second.Step state' label' next' ∧ alike label label' ∧ related next next'

/-- Each run of the first system is matched by one of the second. -/
theorem Simulates.runs {first : System.{u, v} Label} {second : System.{w, x} Label'}
    {related : first.State → second.State → Prop} {alike : Label → Label' → Prop}
    (simulates : Simulates first second related alike) {trace : List Label}
    {state : first.State} (run : first.Runs trace state) :
    ∃ trace' state', second.Runs trace' state' ∧ List.Forall₂ alike trace trace' ∧
      related state state' := by
  apply run.history fun trace state => ∃ trace' state', second.Runs trace' state' ∧
    List.Forall₂ alike trace trace' ∧ related state state'
  case initial =>
      intro state valid
      obtain ⟨state', valid', isRelated⟩ := simulates.initial state valid
      exact ⟨[], state', .initial valid', .nil, isRelated⟩
  case preserved =>
      rintro trace state label next - ⟨trace', state', run', looksLike, isRelated⟩ transition
      obtain ⟨label', next', transition', same, nextRelated⟩ :=
        simulates.step isRelated transition
      exact ⟨trace' ++ [label'], next', run'.snoc transition',
        List.rel_append looksLike (.cons same .nil), nextRelated⟩

end System

end Polku.Semantics
