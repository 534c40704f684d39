import Mathlib.Data.List.Basic

/-!
# Calls one after another

A method takes the state of an object and an argument to an answer and the next state. Of
calls made one after another, each finds the state which the call before it has left.
-/

namespace Polku.Data

universe u v w u' v' w'

variable {State : Type u} {Arg : Type v} {Answer : Type w} {call : State → Arg → Answer × State}

/-- Make calls in order: what each of them answers, and the state after all of them. -/
def callAll (call : State → Arg → Answer × State) (state : State) : List Arg → List Answer × State
  | [] => ([], state)
  | arg :: rest =>
      let (answer, state) := call state arg
      let (answers, state) := callAll call state rest
      (answer :: answers, state)

@[simp] theorem callAll_nil (state : State) : callAll call state [] = ([], state) := rfl

@[simp] theorem callAll_cons (state : State) (arg : Arg) (rest : List Arg) :
    callAll call state (arg :: rest) =
      ((call state arg).1 :: (callAll call (call state arg).2 rest).1,
        (callAll call (call state arg).2 rest).2) := rfl

/-- Calls may be made in two parts. -/
theorem callAll_append (state : State) (first second : List Arg) :
    callAll call state (first ++ second) =
      ((callAll call state first).1 ++ (callAll call (callAll call state first).2 second).1,
        (callAll call (callAll call state first).2 second).2) := by
  induction first generalizing state with
  | nil => rfl
  | cons arg rest inductionHypothesis => simp [inductionHypothesis]

/-- Each call has an answer. -/
theorem length_callAll (state : State) (args : List Arg) :
    (callAll call state args).1.length = args.length := by
  induction args generalizing state with
  | nil => rfl
  | cons arg rest inductionHypothesis => simp [inductionHypothesis]

/-- What every call keeps is kept by all of them. -/
theorem callAll_keeps (call : State → Arg → Answer × State) (property : State → Prop)
    (keeps : ∀ state arg, property state → property (call state arg).2) {state : State}
    (holds : property state) (args : List Arg) : property (callAll call state args).2 := by
  induction args generalizing state with
  | nil => exact holds
  | cons arg rest inductionHypothesis => exact inductionHypothesis (keeps state arg holds)

/-- If each call of one object goes with a call of another, so do all of them. -/
theorem callAll_map (call : State → Arg → Answer × State) {State' : Type u'} {Arg' : Type v'}
    {Answer' : Type w'} (call' : State' → Arg' → Answer' × State') (onState : State → State')
    (onArg : Arg → Arg') (onAnswer : Answer → Answer')
    (same : ∀ state arg, call' (onState state) (onArg arg) =
      (onAnswer (call state arg).1, onState (call state arg).2)) (state : State) (args : List Arg) :
    callAll call' (onState state) (args.map onArg) =
      ((callAll call state args).1.map onAnswer, onState (callAll call state args).2) := by
  induction args generalizing state with
  | nil => rfl
  | cons arg rest inductionHypothesis => simp [same, inductionHypothesis]

/-- If of all that is collected from calls something comes from a call of one kind only, such a
call has been made. -/
theorem exists_call_of_flatMap {Item : Type w} {collect : Arg → List Item}
    {kind : List Item → Arg} (only : ∀ arg, collect arg ≠ [] → arg = kind (collect arg))
    {args : List Arg} (some : args.flatMap collect ≠ []) :
    ∃ before items after, args = before ++ kind items :: after ∧ items ≠ [] := by
  obtain ⟨arg, member, gives⟩ : ∃ arg ∈ args, collect arg ≠ [] := by
    simpa [List.flatMap_eq_nil_iff] using some
  obtain ⟨before, after, split⟩ := List.append_of_mem member
  exact ⟨before, collect arg, after, only arg gives ▸ split, gives⟩

end Polku.Data
