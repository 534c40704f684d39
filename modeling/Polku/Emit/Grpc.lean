import Polku.Emit.Emitter
import Mathlib.Data.List.Range

/-!
# The gRPC emitter

`GrpcEmitter::emit` sends each event of a batch in a task of its own, and then waits for
the tasks in order, up to the first error; the other tasks run on. What the remote
gateway answers is given for each call of `emit` and each place in the batch, an error
by its text. The emitter keeps the requests it made with their answers.
-/

namespace Polku

/-- The answer to a `send_event` request. -/
abbrev SendAnswer := Except String Ack

/-- A `send_event` request and its answer. -/
structure SendEvent where
  request : IngestEvent
  answer : SendAnswer

/-- What a remote gateway answers to a call of `emit` and a place in its batch. -/
abbrev RemoteGateway := Nat → Nat → SendAnswer

/-- The calls of `emit` so far, the requests they made, and what the gateway would say
about its health. -/
structure GrpcEmitter where
  emits : Nat
  sent : List SendEvent
  healthy : Bool

namespace GrpcEmitter

/-- The request which forwards an event. -/
def request (event : Event) : IngestEvent where
  source := event.source
  cluster := ""
  format := ""
  payload := some (.event event)

/-- What the task of an event returns. -/
def forward (event : Event) : SendAnswer → EmitResult
  | .ok _ => .ok ()
  | .error text => .error (.send s!"Failed to forward event {event.id}: {text}")

/-- Wait for the tasks in order, up to the first error. -/
def join : List EmitResult → EmitResult
  | [] => .ok ()
  | .ok () :: handles => join handles
  | .error error :: _ => .error error

/-- The requests of one call of `emit`, with their answers. -/
def requests (gateway : RemoteGateway) (call : Nat) (events : List Event) : List SendEvent :=
  events.mapIdx fun place event => ⟨request event, gateway call place⟩

/-- What the tasks of one call of `emit` return. -/
def handles (gateway : RemoteGateway) (call : Nat) (events : List Event) : List EmitResult :=
  events.mapIdx fun place event => forward event (gateway call place)

/-- Send each event, and wait for the answers. -/
def emit (gateway : RemoteGateway) (self : GrpcEmitter) (events : List Event) (world : World) :
    EmitResult × GrpcEmitter × World :=
  if events.isEmpty then (.ok (), { self with emits := self.emits + 1 }, world)
  else
    (join (handles gateway self.emits events),
      { self with
        emits := self.emits + 1
        sent := self.sent ++ requests gateway self.emits events }, world)

/-- A connected emitter. -/
def new (gateway : RemoteGateway) (healthy : Bool) : Emitter where
  name := "grpc"
  State := GrpcEmitter
  state := ⟨0, [], healthy⟩
  emit := emit gateway
  health self := self.healthy

/-- An empty batch is no exception: nothing is sent, and all of it is forwarded. -/
theorem emit_eq (gateway : RemoteGateway) (self : GrpcEmitter) (events : List Event)
    (world : World) :
    emit gateway self events world =
      (join (handles gateway self.emits events),
        { self with
          emits := self.emits + 1
          sent := self.sent ++ requests gateway self.emits events }, world) := by
  cases events <;> simp [emit, handles, requests, join]

/-- The tasks are joined without an error exactly if none of them returned one. -/
theorem join_eq_ok (results : List EmitResult) :
    join results = .ok () ↔ ∀ result ∈ results, result = .ok () := by
  induction results with
  | nil => simp [join]
  | cons result results inductionHypothesis => cases result <;> simp [join, inductionHypothesis]

/-- A call of `emit` succeeds exactly if all its requests do. -/
theorem join_handles_eq_ok (gateway : RemoteGateway) (call : Nat) (events : List Event) :
    join (handles gateway call events) = .ok () ↔
      ∀ place < events.length, (gateway call place).isOk = true := by
  have forwards : ∀ event answer, forward event answer = .ok () ↔ answer.isOk = true := by
    intro event answer
    cases answer <;> simp [forward, Except.isOk, Except.toBool]
  rw [join_eq_ok, List.forall_mem_iff_getElem]
  simp [handles, forwards]

/-- How often the remote gateway has stored an event. -/
def stored (self : GrpcEmitter) (event : Event) : Nat :=
  self.sent.countP fun sent => sent.request.payload = some (.event event) ∧ sent.answer.isOk

end GrpcEmitter

end Polku
