import Mathlib.Data.Nat.Count
import Mathlib.Logic.Function.Iterate
import Polku.Data.Calls
import Polku.Semantics.Execution

/-!
# Updates by compare-exchange

Any number of calls replace the value of one atomic variable. Each loads the value,
computes the new one from it, and exchanges the two if the variable still has the value
it loaded; otherwise it starts again. A weak compare-exchange may also fail for no reason.
The steps of different calls come in any order.

However they do, the variable takes the values which the calls would give it one after
another: each exchange is one update of the value it finds.
-/

namespace Polku.Semantics

universe u

/-- What the calls share: how they update the value, and the answer which a call gives to
its request once it has stored a value. -/
structure UpdateLoop (Request Value Answer : Type u) where
  update : Value → Value
  answer : Request → Value → Answer

namespace UpdateLoop

variable {Request Value Answer : Type u}

/-- Where a call stands: the atomic step it takes next. -/
inductive Call (Value : Type u) where
  | load
  | exchange (old : Value)

/-- What can be seen of a step. -/
inductive Event (Request Value Answer : Type u) where
  | called (request : Request)
  | loaded
  | retried
  | returned (request : Request) (stored : Value) (answer : Answer)

/-- The variable, and the calls which have not returned. -/
structure Callers (Request Value : Type u) where
  value : Value
  calls : List (Request × Call Value)

/-- A call begins, or one of the calls takes its next step. -/
inductive Step (loop : UpdateLoop Request Value Answer) :
    Callers Request Value → Event Request Value Answer → Callers Request Value → Prop where
  | call (value : Value) (calls : List (Request × Call Value)) (request : Request) :
      Step loop ⟨value, calls⟩ (.called request) ⟨value, calls ++ [(request, .load)]⟩
  | load (value : Value) (front back : List (Request × Call Value)) (request : Request) :
      Step loop ⟨value, front ++ (request, .load) :: back⟩ .loaded
        ⟨value, front ++ (request, .exchange value) :: back⟩
  | retry (value old : Value) (front back : List (Request × Call Value)) (request : Request) :
      Step loop ⟨value, front ++ (request, .exchange old) :: back⟩ .retried
        ⟨value, front ++ (request, .load) :: back⟩
  | exchange (old : Value) (front back : List (Request × Call Value)) (request : Request) :
      Step loop ⟨old, front ++ (request, .exchange old) :: back⟩
        (.returned request (loop.update old) (loop.answer request (loop.update old)))
        ⟨loop.update old, front ++ back⟩

/-- The calls on a variable which has some value at first. -/
def system (loop : UpdateLoop Request Value Answer) (initial : Value) :
    System (Event Request Value Answer) where
  State := Callers Request Value
  Initial := fun state => state = ⟨initial, []⟩
  Step := loop.Step

/-- Whether a call has exchanged the value in a step. -/
def Event.exchanges : Event Request Value Answer → Bool
  | .returned _ _ _ => true
  | _ => false

/-- The number of exchanges in a run. -/
def exchanges (trace : List (Event Request Value Answer)) : Nat := trace.countP Event.exchanges

variable {loop : UpdateLoop Request Value Answer} {initial : Value}
  {trace : List (Event Request Value Answer)} {state : Callers Request Value}

/-- Only an exchange changes the value, and it updates the one it finds. -/
theorem Step.value_eq {state next : Callers Request Value} {event : Event Request Value Answer}
    (step : loop.Step state event next) :
    next.value = loop.update^[exchanges [event]] state.value := by
  cases step <;> rfl

/-- After some exchanges the value has been updated as often. -/
theorem value_eq (run : (loop.system initial).Runs trace state) :
    state.value = loop.update^[exchanges trace] initial := by
  apply run.history fun trace (state : Callers Request Value) =>
    state.value = loop.update^[exchanges trace] initial
  case initial =>
      rintro state rfl
      rfl
  case preserved =>
      intro trace state event next _ orbit step
      rw [step.value_eq, orbit, ← Function.iterate_add_apply, exchanges, exchanges, exchanges,
        List.countP_append, Nat.add_comm]

/-- What a call which returns after a history stores is the next value after those stored
before, and its answer goes with it. -/
def Follows (loop : UpdateLoop Request Value Answer) (initial : Value)
    (before : List (Event Request Value Answer)) : Event Request Value Answer → Prop
  | .returned request stored answer =>
      stored = loop.update (loop.update^[exchanges before] initial) ∧
        answer = loop.answer request stored
  | _ => True

/-- Every event of a run follows those before it. -/
theorem follows (run : (loop.system initial).Runs trace state)
    {before after : List (Event Request Value Answer)} {event : Event Request Value Answer}
    (split : trace = before ++ event :: after) : loop.Follows initial before event := by
  apply run.each (loop.Follows initial) ?_ split
  intro before state event next prior step
  have orbit := value_eq prior
  cases step with
  | call | load | retry => trivial
  | exchange old front back request => exact ⟨congrArg loop.update orbit, rfl⟩

/-- What holds of the value at first, and which an update keeps, holds of the value in
every state and of every value stored. -/
theorem invariant (property : Value → Prop) (holds : property initial)
    (kept : ∀ value, property value → property (loop.update value))
    (run : (loop.system initial).Runs trace state) :
    property state.value ∧
      ∀ request stored answer, .returned request stored answer ∈ trace →
        property stored ∧ answer = loop.answer request stored := by
  have orbit : ∀ times, property (loop.update^[times] initial) :=
    fun times => Function.Iterate.rec property holds kept times
  constructor
  · rw [value_eq run]
    exact orbit _
  · intro request stored answer returned
    obtain ⟨before, after, split⟩ := List.append_of_mem returned
    obtain ⟨next, answered⟩ := follows run split
    refine ⟨?_, answered⟩
    rw [next]
    exact kept _ (orbit _)

/-- Exchanges add up. -/
theorem exchanges_append (first second : List (Event Request Value Answer)) :
    exchanges (first ++ second) = exchanges first + exchanges second := List.countP_append

/-- Whether a step returns with a value of some kind. -/
def Event.stores (property : Value → Prop) [DecidablePred property] :
    Event Request Value Answer → Bool
  | .returned _ stored _ => property stored
  | _ => false

/-- The values stored in some part of a run are the updates which follow those before it. -/
theorem countP_stores (property : Value → Prop) [DecidablePred property]
    (run : (loop.system initial).Runs trace state)
    {before middle after : List (Event Request Value Answer)}
    (split : trace = before ++ (middle ++ after)) :
    middle.countP (Event.stores property) =
      (exchanges middle).count fun times =>
        property (loop.update^[times + 1] (loop.update^[exchanges before] initial)) := by
  induction middle using List.reverseRecOn generalizing after with
  | nil => rfl
  | append_singleton middle event inductionHypothesis =>
      rw [List.append_assoc, List.singleton_append] at split
      have follows := follows run (split.trans (List.append_assoc before middle _).symm)
      rw [List.countP_append, inductionHypothesis split]
      cases event with
      | called | loaded | retried =>
          rw [exchanges_append]
          rfl
      | returned request stored answer =>
          obtain ⟨rfl, _⟩ := follows
          have next : exchanges (before ++ middle) = exchanges middle + exchanges before := by
            rw [exchanges_append, Nat.add_comm]
          have last : exchanges (middle ++ [.returned request
              (loop.update (loop.update^[exchanges (before ++ middle)] initial)) answer]) =
                exchanges middle + 1 := exchanges_append middle _
          rw [last, Nat.count_succ, next, Function.iterate_add_apply,
            ← Function.iterate_succ_apply' loop.update, List.countP_singleton]
          simp only [Event.stores, decide_eq_true_eq]

/-- A call with nothing between its steps returns, whatever the other calls have done. -/
theorem alone (run : (loop.system initial).Runs trace state) (request : Request) :
    (loop.system initial).Runs (trace ++ [.called request] ++ [.loaded] ++
      [.returned request (loop.update state.value)
        (loop.answer request (loop.update state.value))])
      ⟨loop.update state.value, state.calls⟩ := by
  have called := run.snoc (.call state.value state.calls request)
  have loaded := called.snoc (.load state.value state.calls [] request)
  simpa using loaded.snoc (.exchange state.value state.calls [] request)

/-! ### One after another -/

/-- The requests which were answered, with their answers, in order. -/
def answered (trace : List (Event Request Value Answer)) : List (Request × Answer) :=
  trace.filterMap fun event => match event with
    | .returned request _ answer => some (request, answer)
    | _ => none

/-- What a call does with nothing between its steps: its answer, and the value after it. -/
def serve (loop : UpdateLoop Request Value Answer) (value : Value) (request : Request) :
    Answer × Value := (loop.answer request (loop.update value), loop.update value)

theorem answered_snoc (trace : List (Event Request Value Answer))
    (event : Event Request Value Answer) :
    answered (trace ++ [event]) = answered trace ++ answered [event] := List.filterMap_append

theorem mem_answered {request : Request} {answer : Answer} :
    (request, answer) ∈ answered trace ↔ ∃ stored, .returned request stored answer ∈ trace := by
  rw [answered, List.mem_filterMap]
  constructor
  · rintro ⟨event, member, isAnswer⟩
    cases event with
    | called | loaded | retried => cases isAnswer
    | returned request stored answer =>
        cases isAnswer
        exact ⟨stored, member⟩
  · rintro ⟨stored, member⟩
    exact ⟨_, member, rfl⟩

/-- Each exchange answers one request. -/
theorem length_answered (trace : List (Event Request Value Answer)) :
    (answered trace).length = exchanges trace := by
  induction trace using List.reverseRecOn with
  | nil => rfl
  | append_singleton trace event inductionHypothesis =>
      rw [answered_snoc, exchanges_append, List.length_append, inductionHypothesis]
      cases event <;> rfl

/-- However calls interleave, they get the answers which they would get one after another,
in the order of their exchanges. -/
theorem callAll_answered (run : (loop.system initial).Runs trace state) :
    Data.callAll loop.serve initial ((answered trace).map Prod.fst) =
      ((answered trace).map Prod.snd, state.value) := by
  apply run.history fun trace (state : Callers Request Value) =>
    Data.callAll loop.serve initial ((answered trace).map Prod.fst) =
      ((answered trace).map Prod.snd, state.value)
  case initial =>
      rintro state rfl
      rfl
  case preserved =>
      intro trace state event next _ sequential step
      rw [answered_snoc]
      cases step with
      | call | load | retry => simpa [answered] using sequential
      | exchange old front back request =>
          have alone : answered [Event.returned request (loop.update old)
              (loop.answer request (loop.update old))] =
                [(request, loop.answer request (loop.update old))] := rfl
          rw [alone, List.map_append, List.map_append, Data.callAll_append, sequential]
          rfl

/-- Any requests can be made one after another. -/
theorem exists_answered (loop : UpdateLoop Request Value Answer) (initial : Value)
    (requests : List Request) :
    ∃ trace state, (loop.system initial).Runs trace state ∧
      (answered trace).map Prod.fst = requests := by
  induction requests using List.reverseRecOn with
  | nil => exact ⟨[], _, .initial rfl, rfl⟩
  | append_singleton requests request inductionHypothesis =>
      obtain ⟨trace, state, run, rfl⟩ := inductionHypothesis
      refine ⟨_, _, alone run request, ?_⟩
      simp [answered]

end UpdateLoop

end Polku.Semantics
