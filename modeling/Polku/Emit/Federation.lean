import Polku.Emit.Grpc
import Polku.Server.GatewayCalls

/-!
# Federated gateways

gRPC emitters which forward to one gateway, with whatever else its clients do. Each call of
`emit` sends the events of its batch in tasks of their own and then waits for these in order,
up to the first error; the tasks run on without it. A request reaches the gateway once at
most, and may do so after its task was told of a timeout. A task which is told of an error
does not know whether its event was stored.
-/

namespace Polku

open Semantics Data

/-- Where the request of a task is. One which has arrived is the unary call at some place of
the gateway. -/
inductive Delivery where
  | unsent
  | underway
  | arrived (place : Nat)
deriving DecidableEq

/-- The place at which a request has arrived, if it has. -/
def Delivery.place? : Delivery → Option Nat
  | arrived place => some place
  | _ => none

/-- A request has a place exactly if it has arrived there. -/
theorem Delivery.place?_eq_some {delivery : Delivery} {place : Nat} :
    delivery.place? = some place ↔ delivery = .arrived place := by
  cases delivery <;> simp [Delivery.place?]

/-- A task which forwards an event, with what `emit` gets by waiting for it. -/
structure SendTask where
  event : Event
  delivery : Delivery
  outcome : Option EmitResult

/-- Where a call of `emit` stands. -/
inductive GrpcPhase where
  | spawning
  | joining (next : Nat)
  | returned (result : EmitResult)

/-- The place at which the request of a task has arrived, if it has. -/
def SendTask.place? (self : SendTask) : Option Nat := self.delivery.place?

/-- A call of `emit` with its batch and the tasks it has spawned. -/
structure GrpcEmit where
  events : List Event
  sends : List SendTask
  phase : GrpcPhase

namespace GrpcEmit

/-- A call of `emit` which has just been made: there is nothing to do for an empty batch. -/
def start (events : List Event) : GrpcEmit :=
  ⟨events, [], if events.isEmpty then .returned (.ok ()) else .spawning⟩

/-- What `emit` gets by waiting for a task which panicked or was cancelled. -/
def notJoined (text : String) : EmitResult :=
  .error (.send s!"Failed to join send_event task: {text}")

/-- The places at which requests of the batch have arrived, in the order of the batch. -/
def places (self : GrpcEmit) : List Nat := self.sends.filterMap SendTask.place?

end GrpcEmit

/-- What can be seen of a step of a federation. -/
inductive FederationEvent where
  /-- The gateway or another client of it takes a step. -/
  | gateway (label : Tasks.Label GatewayEvent)
  | spawned
  | joining
  | requested
  /-- A request arrives at the gateway. -/
  | arrived
  | answered
  | failed
  | aborted
  | joined
  | returned (result : EmitResult)

/-- What the gateway has a part in. -/
def FederationEvent.atGateway : FederationEvent → Option (Tasks.Label GatewayEvent)
  | gateway label => some label
  | arrived => some .started
  | _ => none

/-- The gateway to which a federation forwards, with the tasks of all its clients. -/
abbrev GatewayPool := Tasks.Pool GatewayService GatewayTask

namespace GrpcEmit

/-- The unary call which forwards an event. -/
def forwards (event : Event) : GatewayTask := .call ⟨GrpcEmitter.request event, .processing⟩

/-- The steps of a call of `emit`, of its tasks, and of the network. -/
inductive Step : GatewayPool → GrpcEmit → FederationEvent → GatewayPool → GrpcEmit → Prop where
  | spawn {pool emit event} (phase : emit.phase = .spawning)
      (next : emit.events[emit.sends.length]? = some event) :
      Step pool emit .spawned pool
        { emit with sends := emit.sends ++ [⟨event, .unsent, none⟩] }
  | join {pool emit} (phase : emit.phase = .spawning)
      (all : emit.events.length ≤ emit.sends.length) :
      Step pool emit .joining pool { emit with phase := .joining 0 }
  | request {pool emit event} (index : Nat)
      (isSend : emit.sends[index]? = some ⟨event, .unsent, none⟩) :
      Step pool emit .requested pool
        { emit with sends := emit.sends.set index ⟨event, .underway, none⟩ }
  | arrive {pool emit event outcome} (index : Nat)
      (isSend : emit.sends[index]? = some ⟨event, .underway, outcome⟩) :
      Step pool emit .arrived ⟨pool.shared, pool.tasks ++ [forwards event]⟩
        { emit with
          sends := emit.sends.set index ⟨event, .arrived pool.tasks.length, outcome⟩ }
  | answer {pool emit event place ingest ack} (index : Nat)
      (isSend : emit.sends[index]? = some ⟨event, .arrived place, none⟩)
      (answered : pool.tasks[place]? = some (.call ⟨ingest, .returned (.ok ack)⟩)) :
      Step pool emit .answered pool
        { emit with
          sends := emit.sends.set index
            ⟨event, .arrived place, some (GrpcEmitter.forward event (.ok ack))⟩ }
  | fail {pool emit event delivery} (index : Nat) (text : String)
      (isSend : emit.sends[index]? = some ⟨event, delivery, none⟩) :
      Step pool emit .failed pool
        { emit with
          sends := emit.sends.set index
            ⟨event, delivery, some (GrpcEmitter.forward event (.error text))⟩ }
  | abort {pool emit event delivery} (index : Nat) (text : String)
      (isSend : emit.sends[index]? = some ⟨event, delivery, none⟩) :
      Step pool emit .aborted pool
        { emit with
          sends := emit.sends.set index ⟨event, delivery, some (notJoined text)⟩ }
  | joinOk {pool emit send next} (phase : emit.phase = .joining next)
      (isSend : emit.sends[next]? = some send) (outcome : send.outcome = some (.ok ())) :
      Step pool emit .joined pool { emit with phase := .joining (next + 1) }
  | joinError {pool emit send next error} (phase : emit.phase = .joining next)
      (isSend : emit.sends[next]? = some send) (outcome : send.outcome = some (.error error)) :
      Step pool emit (.returned (.error error)) pool
        { emit with phase := .returned (.error error) }
  | finish {pool emit next} (phase : emit.phase = .joining next)
      (all : emit.sends.length ≤ next) :
      Step pool emit (.returned (.ok ())) pool { emit with phase := .returned (.ok ()) }

end GrpcEmit

/-- A task of a federation: a call of `emit`, or the gateway with its other clients. -/
inductive FederationTask where
  | emit (emit : GrpcEmit)
  | gateway

namespace FederationTask

/-- How a task may start. -/
inductive Start : FederationTask → Prop where
  | emit (events : List Event) : Start (.emit (.start events))
  | gateway : Start .gateway

/-- The steps of a task. -/
inductive Step : GatewayPool → FederationTask → FederationEvent → GatewayPool →
    FederationTask → Prop where
  | emit {pool emit event pool' emit'} (step : GrpcEmit.Step pool emit event pool' emit') :
      Step pool (.emit emit) event pool' (.emit emit')
  | gateway {pool label pool'} (step : Polku.gateway.PoolStep pool label pool') :
      Step pool .gateway (.gateway label) pool' .gateway

/-- The places at which requests of a task have arrived. -/
def places : FederationTask → List Nat
  | .emit made => made.places
  | .gateway => []

end FederationTask

/-- The tasks of a federation. -/
def federation : Tasks GatewayPool FederationTask FederationEvent where
  Start := FederationTask.Start
  Step := FederationTask.Step

/-- The steps of a federation in which the gateway has a part, in order. -/
def atGateway (history : List FederationEvent) : List (Tasks.Label GatewayEvent) :=
  history.filterMap FederationEvent.atGateway

/-- What the gateway sees of one more step. -/
theorem atGateway_snoc (history : List FederationEvent) (event : FederationEvent) :
    atGateway (history ++ [event]) = atGateway history ++ event.atGateway.toList :=
  filterMap_snoc _ history event

/-! ### The gateway in a federation is a gateway -/

variable {service : GatewayService} {pool pool' : GatewayPool} {event : FederationEvent}

/-- A step is none for the gateway, or one which it may take. -/
theorem FederationTask.Step.atGateway {task task' : FederationTask}
    (step : FederationTask.Step pool task event pool' task') :
    (event.atGateway = none ∧ pool' = pool) ∨
      ∃ label, event.atGateway = some label ∧ Polku.gateway.PoolStep pool label pool' := by
  cases step with
  | gateway step => exact .inr ⟨_, rfl, step⟩
  | emit step =>
      cases step with
      | arrive index isSend => exact .inr ⟨_, rfl, .start (.call _)⟩
      | spawn phase next | join phase all | request index isSend
      | answer index isSend answered | fail index text isSend | abort index text isSend
      | joinOk phase isSend outcome | joinError phase isSend outcome | finish phase all =>
          exact .inl ⟨rfl, rfl⟩

/-- What the gateway sees of a run is a run of a gateway. -/
theorem gateway_runs {trace : List (Tasks.Label FederationEvent)}
    {federated : Tasks.Pool GatewayPool FederationTask}
    (run : (federation.system ⟨service, []⟩).Runs trace federated) :
    (gateway.system service).Runs (atGateway (Tasks.events trace)) federated.shared := by
  apply Tasks.shared_history (fun history pool =>
    (gateway.system service).Runs (atGateway history) pool) (.initial rfl) ?_ run
  intro history pool task event pool' task' runs step
  rw [atGateway_snoc]
  rcases step.atGateway with ⟨none, rfl⟩ | ⟨label, some, step⟩
  · rw [none]
    simpa using runs
  · rw [some]
    exact runs.snoc step

/-- A unary call keeps its request, and takes no step once it has returned. -/
theorem PoolStep.call_kept {label : Tasks.Label GatewayEvent}
    (step : gateway.PoolStep pool label pool') {place : Nat} {call : UnaryCall}
    (isCall : pool.tasks[place]? = some (.call call)) :
    ∃ call', pool'.tasks[place]? = some (.call call') ∧ call'.ingest = call.ingest ∧
      ∀ item, call.phase = .returned item → call' = call := by
  have started := (List.getElem?_eq_some_iff.mp isCall).choose
  cases step with
  | start starts =>
      exact ⟨call, (List.getElem?_append_left started).trans isCall, rfl, fun _ _ => rfl⟩
  | @did other shared tasks task event shared' task' isTask step =>
      by_cases same : other = place
      · subst same
        rw [isCall] at isTask
        obtain rfl := Option.some.inj isTask
        cases step with
        | @call _ _ _ call' step =>
            refine ⟨call', List.getElem?_set_self started, ?_, ?_⟩
            · cases step <;> rfl
            · rintro item isReturned
              cases step <;> cases isReturned
      · exact ⟨call, (List.getElem?_set_ne same).trans isCall, rfl, fun _ _ => rfl⟩

end Polku
