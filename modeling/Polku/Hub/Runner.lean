import Polku.Buffer.History
import Polku.Hub.Flush
import Polku.Metrics
import Polku.Middleware.Chain
import Polku.Semantics.Execution

/-!
# The hub runner

`HubRunner::run` has two tasks: the receive loop, which processes each message of
the channel and pushes it into the ring buffer, and the flush loop, which drains
the buffer and fans out to the emitters. Steps of the senders, of the receive
loop and of the flush loop interleave in any order. Each access to the channel,
the buffer and the shutdown flag is a step, with the metrics it leads to. An
emitter is known by its name; what a call of `emit` returns is arbitrary, and a
call returns without panicking.
-/

namespace Polku

open Data Semantics Buffer

/-- The configuration of a hub. -/
structure Hub where
  bufferCapacity : Nat
  batchSize : Nat
  flushIntervalMs : Nat
  middleware : MiddlewareChain
  emitters : List String

namespace Hub

/-- A hub with the default settings. -/
def new : Hub := ⟨10000, 100, 10, .new, []⟩

/-- The capacity of the channel between senders and the hub. -/
def channelCapacity : Nat := 1024

end Hub

/-- Where the receive loop, or what follows it, is. -/
inductive Receiver where
  | receiving
  | processing (msg : Message)
  | pushing (msg : Message)
  | closing
  | joining
  | returned
deriving DecidableEq

/-- Where the flush loop is. `emitting events next` is about to turn to the
emitter at position `next`. -/
inductive Flusher where
  | checking
  | checkingEmpty
  | selecting
  | draining
  | measuring (messages : List Message)
  | emitting (events : List Event) (next : Nat)
  | exited
deriving DecidableEq

/-- The state of a running hub. -/
structure HubState where
  channel : List Message
  closed : Bool
  receiver : Receiver
  middleware : MiddlewareChain
  shutdown : Bool
  buffer : RingBuffer Message
  flusher : Flusher
  metrics : Option Metrics

/-- What a step did. -/
inductive HubEvent where
  | sent (msg : Message)
  | closed
  | received (msg : Message)
  | ended
  | processed (result : Option Message)
  | pushed (msg : Message)
  | signalled
  | joined
  | checkedShutdown
  | checkedEmpty
  | woken
  | drained (messages : List Message)
  | measured
  | skipped (emitter : Nat)
  | offered (emitter : Nat) (events : List Event) (succeeded : Bool)
  | flushed
deriving DecidableEq

namespace HubState

/-- A hub about to receive its first message, with metrics if they could be set up. -/
def start (hub : Hub) (metrics : Option Metrics) : HubState where
  channel := []
  closed := false
  receiver := .receiving
  middleware := hub.middleware
  shutdown := false
  buffer := .new hub.bufferCapacity
  flusher := .checking
  metrics := metrics.map (·.setBufferCapacity hub.bufferCapacity)

/-- Steps of the senders: send into a channel with room, or close it for good. -/
inductive SenderStep : HubState → HubEvent → HubState → Prop where
  | send {self} (msg : Message) (isOpen : self.closed = false)
      (room : self.channel.length < Hub.channelCapacity) :
      SenderStep self (.sent msg) { self with channel := self.channel ++ [msg] }
  | close {self} (isOpen : self.closed = false) :
      SenderStep self .closed { self with closed := true }

/-- Steps of `HubRunner::run`. -/
inductive ReceiverStep : HubState → HubEvent → HubState → Prop where
  | receive {self msg rest} (phase : self.receiver = .receiving)
      (next : self.channel = msg :: rest) :
      ReceiverStep self (.received msg) { self with
        channel := rest
        receiver := .processing msg
        metrics := self.metrics.map (·.recordReceived msg.source msg.messageType 1) }
  | finish {self} (phase : self.receiver = .receiving) (none : self.channel = [])
      (isClosed : self.closed = true) :
      ReceiverStep self .ended { self with receiver := .closing }
  | filter {self msg middleware} (phase : self.receiver = .processing msg)
      (dropped : self.middleware.process msg = (none, middleware)) :
      ReceiverStep self (.processed none) { self with
        receiver := .receiving
        middleware := middleware
        metrics := self.metrics.map (·.recordDropped "middleware_filtered" 1) }
  | pass {self msg result middleware} (phase : self.receiver = .processing msg)
      (passed : self.middleware.process msg = (some result, middleware)) :
      ReceiverStep self (.processed (some result)) { self with
        receiver := .pushing result
        middleware := middleware }
  | push {self msg dropped buffer} (phase : self.receiver = .pushing msg)
      (pushed : self.buffer.push [msg] = (dropped, buffer)) :
      ReceiverStep self (.pushed msg) { self with
        receiver := .receiving
        buffer := buffer
        metrics := self.metrics.map fun metrics =>
          if 0 < dropped then metrics.recordDropped "buffer_overflow" dropped else metrics }
  | signal {self} (phase : self.receiver = .closing) :
      ReceiverStep self .signalled { self with receiver := .joining, shutdown := true }
  | join {self} (phase : self.receiver = .joining) (done : self.flusher = .exited) :
      ReceiverStep self .joined { self with receiver := .returned }

/-- The metrics after `emit` returned. -/
def recordEmit (metrics : Metrics) (name : String) (events : List Event) (succeeded : Bool) :
    Metrics :=
  if succeeded then
    events.foldl (fun metrics event => metrics.recordForwarded name event.eventType 1) metrics
  else metrics.recordDropped name events.length

/-- Steps of `flush_loop`. -/
inductive FlusherStep (hub : Hub) : HubState → HubEvent → HubState → Prop where
  | checkShutdown {self} (phase : self.flusher = .checking) :
      FlusherStep hub self .checkedShutdown { self with
        flusher := if self.shutdown then .checkingEmpty else .selecting }
  | checkEmpty {self} (phase : self.flusher = .checkingEmpty) :
      FlusherStep hub self .checkedEmpty { self with
        flusher := if self.buffer.isEmpty then .exited else .selecting }
  | wake {self} (phase : self.flusher = .selecting) :
      FlusherStep hub self .woken { self with flusher := .draining }
  | drain {self messages buffer} (phase : self.flusher = .draining)
      (drained : self.buffer.drain hub.batchSize = (messages, buffer)) :
      FlusherStep hub self (.drained messages) { self with
        buffer := buffer
        flusher := .measuring messages }
  | measure {self messages} (phase : self.flusher = .measuring messages) :
      FlusherStep hub self .measured { self with
        metrics := self.metrics.map (·.setBufferSize self.buffer.len)
        flusher := if messages.isEmpty then .checking
          else .emitting (messages.map Message.toEvent) 0 }
  | skip {self events next name} (phase : self.flusher = .emitting events next)
      (emitter : hub.emitters[next]? = some name) (none : Hub.slice events name = none) :
      FlusherStep hub self (.skipped next) { self with flusher := .emitting events (next + 1) }
  | offer {self events next name routed} (succeeded : Bool)
      (phase : self.flusher = .emitting events next)
      (emitter : hub.emitters[next]? = some name) (some : Hub.slice events name = some routed) :
      FlusherStep hub self (.offered next routed succeeded) { self with
        metrics := self.metrics.map (recordEmit · name routed succeeded)
        flusher := .emitting events (next + 1) }
  | finish {self events next} (phase : self.flusher = .emitting events next)
      (last : hub.emitters.length ≤ next) :
      FlusherStep hub self .flushed { self with flusher := .checking }

/-- One step of any task. -/
inductive Step (hub : Hub) : HubState → HubEvent → HubState → Prop where
  | sender {self event next} (step : SenderStep self event next) : Step hub self event next
  | receiver {self event next} (step : ReceiverStep self event next) : Step hub self event next
  | flusher {self event next} (step : FlusherStep hub self event next) : Step hub self event next

/-- The runs of a hub. -/
def system (hub : Hub) : System HubEvent where
  State := HubState
  Initial self := ∃ metrics, self = start hub metrics
  Step := Step hub

end HubState

/-! ## What a history tells -/

/-- The message sent by an event, if any. -/
def HubEvent.sentMessage : HubEvent → Option Message
  | .sent msg => some msg
  | _ => none

/-- The call an event makes on the ring buffer, if any. -/
def HubEvent.bufferCall (batchSize : Nat) : HubEvent → Option (BufferCall Message)
  | .pushed msg => some (.push [msg])
  | .drained _ => some (.drain batchSize)
  | _ => none

/-- The batch drained by an event, if any. -/
def HubEvent.batch : HubEvent → Option (List Message)
  | .drained messages => some messages
  | _ => none

/-- The slice an event offers to an emitter, if any. -/
def HubEvent.slice (emitter : Nat) : HubEvent → Option (List Event)
  | .offered position events _ => if position = emitter then some events else none
  | _ => none

namespace HubHistory

/-- The messages sent, in order. -/
def sent (trace : List HubEvent) : List Message := trace.filterMap HubEvent.sentMessage

/-- The calls on the ring buffer, in order. -/
def bufferCalls (hub : Hub) (trace : List HubEvent) : List (BufferCall Message) :=
  trace.filterMap (HubEvent.bufferCall hub.batchSize)

/-- The drained batches, in order. -/
def batches (trace : List HubEvent) : List (List Message) := trace.filterMap HubEvent.batch

/-- The slices passed to the `emit` of the emitter at a position, in call order. -/
def slices (emitter : Nat) (trace : List HubEvent) : List (List Event) :=
  trace.filterMap (HubEvent.slice emitter)

section Snoc

variable (hub : Hub) (trace : List HubEvent) (event : HubEvent)

@[simp] theorem sent_snoc :
    sent (trace ++ [event]) = sent trace ++ event.sentMessage.toList :=
  filterMap_snoc _ trace event

@[simp] theorem bufferCalls_snoc :
    bufferCalls hub (trace ++ [event]) =
      bufferCalls hub trace ++ (event.bufferCall hub.batchSize).toList :=
  filterMap_snoc _ trace event

@[simp] theorem batches_snoc :
    batches (trace ++ [event]) = batches trace ++ event.batch.toList :=
  filterMap_snoc _ trace event

@[simp] theorem slices_snoc (emitter : Nat) :
    slices emitter (trace ++ [event]) = slices emitter trace ++ (event.slice emitter).toList :=
  filterMap_snoc _ trace event

end Snoc

end HubHistory

/-! ## What each task leaves alone -/

namespace HubState

variable {hub : Hub} {self next : HubState} {event : HubEvent}

/-- Senders only reach the channel. -/
theorem SenderStep.frame (hub : Hub) (step : SenderStep self event next) :
    next.receiver = self.receiver ∧ next.middleware = self.middleware ∧
    next.shutdown = self.shutdown ∧ next.buffer = self.buffer ∧ next.flusher = self.flusher ∧
    event.bufferCall hub.batchSize = none ∧ event.batch = none ∧
    ∀ emitter, event.slice emitter = none := by
  cases step <;> exact ⟨rfl, rfl, rfl, rfl, rfl, rfl, rfl, fun _ => rfl⟩

/-- The receive loop sends nothing, drains nothing and emits nothing. -/
theorem ReceiverStep.frame (step : ReceiverStep self event next) :
    next.flusher = self.flusher ∧ next.closed = self.closed ∧ event.sentMessage = none ∧
    event.batch = none ∧ ∀ emitter, event.slice emitter = none := by
  cases step <;> exact ⟨rfl, rfl, rfl, rfl, fun _ => rfl⟩

/-- The flush loop leaves the channel, the receive loop and the flag alone. -/
theorem FlusherStep.frame (step : FlusherStep hub self event next) :
    next.channel = self.channel ∧ next.closed = self.closed ∧ next.receiver = self.receiver ∧
    next.middleware = self.middleware ∧ next.shutdown = self.shutdown ∧
    event.sentMessage = none ∧
    ((event.bufferCall hub.batchSize).toList.flatMap BufferCall.handed) = [] := by
  cases step <;> exact ⟨rfl, rfl, rfl, rfl, rfl, rfl, rfl⟩

end HubState

end Polku
