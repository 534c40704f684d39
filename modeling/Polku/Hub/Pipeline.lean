import Polku.Emit.Resilience.StackOutcomes
import Polku.Hub.Delivery
import Polku.Semantics.Refinement

/-!
# A hub with resilient emitters

Each emitter of the hub was built by `ResilientEmitter`. The flush loop goes through the
wrappers of an emitter step by step, while the receive loop goes on and others use the failure
buffers. What the wrapped emitters answer is arbitrary.

Seen from outside, this is the hub whose emitters may return anything.
-/

namespace Polku

open Data Semantics

/-- A hub and what each of its emitters was built of. -/
structure Pipeline where
  hub : Hub
  layers : List ResilientEmitter
  emitters : hub.emitters = layers.map fun layers => layers.build.name

/-- The state of a hub, what the calls on each of its emitters share, and the call which the
flush loop has made and which has yet to return. -/
structure PipelineState where
  hub : HubState
  shared : List StackShared
  call : Option StackCall

/-- What a step did: one of the hub, a call of an emitter, or a step inside of one. -/
inductive PipelineEvent where
  | hub (event : HubEvent)
  | called (emitter : Nat) (events : List Event)
  | stack (emitter : Nat) (event : StackEvent)

namespace Pipeline

/-- The steps of a hub and of its emitters. -/
inductive Step (self : Pipeline) : PipelineState → PipelineEvent → PipelineState → Prop where
  | sender {state event next} (step : HubState.SenderStep state.hub event next) :
      Step self state (.hub event) { state with hub := next }
  | receiver {state event next} (step : HubState.ReceiverStep state.hub event next) :
      Step self state (.hub event) { state with hub := next }
  | flusher {state event next} (idle : state.call = none)
      (noOffer : ∀ emitter events succeeded, event ≠ .offered emitter events succeeded)
      (step : HubState.FlusherStep self.hub state.hub event next) :
      Step self state (.hub event) { state with hub := next }
  | call {state events emitter layers routed} (idle : state.call = none)
      (phase : state.hub.flusher = .emitting events emitter)
      (isEmitter : self.layers[emitter]? = some layers)
      (sliced : Hub.slice events layers.build.name = some routed) :
      Step self state (.called emitter routed)
        { state with call := some ⟨routed, .first layers⟩ }
  | emit {state events emitter layers call shared event shared' call'}
      (calling : state.call = some call)
      (phase : state.hub.flusher = .emitting events emitter)
      (isEmitter : self.layers[emitter]? = some layers)
      (stack : state.shared[emitter]? = some shared)
      (step : StackCall.Step layers shared call event shared' call') :
      Step self state (.stack emitter event)
        { state with shared := state.shared.set emitter shared', call := some call' }
  | finish {state emitter routed result next}
      (calling : state.call = some ⟨routed, .returned result⟩)
      (step : HubState.FlusherStep self.hub state.hub
        (.offered emitter routed (result = .ok ())) next) :
      Step self state (.hub (.offered emitter routed (result = .ok ())))
        { state with hub := next, call := none }
  | owner {state emitter shared} (call : FailureCall)
      (stack : state.shared[emitter]? = some shared) :
      Step self state (.stack emitter (.owned call))
        { state with
          shared := state.shared.set emitter
            { shared with failures := (shared.failures.call call).2 } }

/-- A hub about to start with fresh emitters. -/
structure Initial (pipeline : Pipeline) (state : PipelineState) : Prop where
  hub : (HubState.system pipeline.hub).Initial state.hub
  shared : ∃ clock, state.shared = pipeline.layers.map fun layers => .start layers clock
  call : state.call = none

/-- The runs of a hub with its emitters. -/
def system (self : Pipeline) : System PipelineEvent where
  State := PipelineState
  Initial := Initial self
  Step := Step self

/-! ### What a history tells -/

end Pipeline

namespace PipelineEvent

/-- The step of the hub, if it is one. -/
def hub? : PipelineEvent → Option HubEvent
  | hub event => some event
  | _ => none

/-- The step inside of the emitter at a position, if it is one. -/
def stack? (emitter : Nat) : PipelineEvent → Option StackEvent
  | stack position event => if position = emitter then some event else none
  | _ => none

end PipelineEvent

namespace PipelineHistory

/-- The steps of the hub, in order. -/
def hub (trace : List PipelineEvent) : List HubEvent := trace.filterMap PipelineEvent.hub?

/-- The steps inside of the emitter at a position, in order. -/
def stack (emitter : Nat) (trace : List PipelineEvent) : List StackEvent :=
  trace.filterMap (PipelineEvent.stack? emitter)

variable (trace : List PipelineEvent) (event : PipelineEvent)

@[simp] theorem hub_snoc : hub (trace ++ [event]) = hub trace ++ event.hub?.toList :=
  filterMap_snoc _ trace event

@[simp] theorem stack_snoc (emitter : Nat) :
    stack emitter (trace ++ [event]) = stack emitter trace ++ (event.stack? emitter).toList :=
  filterMap_snoc _ trace event

end PipelineHistory

namespace Pipeline

variable {self : Pipeline}

/-- With the calls of its emitters hidden, it is a hub whose emitters may return anything. -/
theorem refines (self : Pipeline) : System.Refines self.system (HubState.system self.hub)
    PipelineState.hub PipelineEvent.hub? fun _ => True where
  initial _ valid := ⟨trivial, valid.hub⟩
  kept _ _ := trivial
  hidden := by
    intro state event next _ step none
    cases step with
    | sender | receiver | flusher | finish => cases none
    | call | emit | owner => rfl
  seen := by
    intro state event next seen _ step visible
    cases step with
    | sender step =>
        obtain rfl := Option.some.inj visible
        exact .sender step
    | receiver step =>
        obtain rfl := Option.some.inj visible
        exact .receiver step
    | flusher _ _ step | finish _ step =>
        obtain rfl := Option.some.inj visible
        exact .flusher step
    | call | emit | owner => cases visible

/-- The steps of the hub are a run of it. -/
theorem hub_runs {trace : List PipelineEvent} {state : PipelineState}
    (run : self.system.Runs trace state) :
    (HubState.system self.hub).Runs (PipelineHistory.hub trace) state.hub :=
  self.refines.runs run

end Pipeline

end Polku
