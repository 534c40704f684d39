import Polku.Semantics.Tasks
import Polku.Server.Stream

/-!
# The gateway

All that clients do at one time: any number of streams and of unary calls, which share the
buffer and the counter, and readers, which drain the buffer. The answers of a stream go
through a channel with room for 32, from which its consumer takes them. That is the transport,
not the remote peer: it drops the stream of answers after an error, or when the peer is gone.
Here it may hang up at any time: then the channel closes, what it holds is lost, and nothing
more can be put into it.

The loop of a stream goes on when an error cannot be sent, and ends when an acknowledgment
cannot. So after its consumer has hung up one more batch with events is stored at most, and a
consumer which does not take the answers is waited for.
-/

namespace Polku

open Buffer Semantics Data

/-- What can be seen of the steps of a client's task. -/
inductive GatewayEvent where
  /-- A stream receives a batch. -/
  | received (batch : IngestBatch)
  /-- The request stream has ended. -/
  | ended
  /-- A stream pushes messages. -/
  | pushed (messages : List Message)
  /-- The counter is changed. -/
  | counted (eventCount : Nat)
  /-- An acknowledgment is made. -/
  | acknowledged
  /-- An item is put into the channel of a stream. -/
  | queued (item : Except Status Ack)
  /-- An item cannot be sent, as the channel is closed. -/
  | refused (item : Except Status Ack)
  /-- The consumer takes an item from the channel. -/
  | took (item : Except Status Ack)
  /-- The consumer closes the channel. -/
  | hungUp
  /-- The request of a unary call is found not to decode to an event. -/
  | rejected (status : Status)
  /-- A unary call pushes its message, and is told how many were dropped. -/
  | stored (message : Message) (dropped : Nat)
  /-- A unary call returns. -/
  | answered (item : Except Status Ack)
  /-- A reader drains the buffer. -/
  | drained (n : Nat)

namespace GatewayService

/-- Call the buffer. -/
def callBuffer (self : GatewayService) (call : BufferCall Message) : GatewayService :=
  { self with buffer := (self.buffer.call call).2 }

/-- Count events. -/
def count (self : GatewayService) (eventCount : Nat) : GatewayService :=
  { self with eventsProcessed := self.eventsProcessed + eventCount }

end GatewayService

/-- A stream with the consumer of its answers: where its loop is, unless that has ended, whether
the consumer holds the channel, what is in it, and what has been taken from it. -/
structure StreamTask where
  phase : Option StreamPhase
  listening : Bool
  queue : List (Except Status Ack)
  taken : List (Except Status Ack)

namespace StreamTask

/-- The room in the response channel. -/
def channelSize : Nat := 32

/-- A stream which has been opened. -/
def opened : StreamTask := ⟨some .receiving, true, [], []⟩

/-- Where the loop goes when an item cannot be sent: it goes on after an error. -/
def afterRefused : Except Status Ack → Option StreamPhase
  | .error _ => some .receiving
  | .ok _ => none

/-- The steps of a stream and of the consumer of its answers. -/
inductive Step : GatewayService → StreamTask → GatewayEvent → GatewayService → StreamTask →
    Prop where
  | receive {service task} (batch : IngestBatch) (phase : task.phase = some .receiving) :
      Step service task (.received batch) service
        { task with phase := some (.afterBatch batch service.registry) }
  | finish {service task} (phase : task.phase = some .receiving) :
      Step service task .ended service { task with phase := none }
  | push {service task events} (phase : task.phase = some (.pushing events)) :
      Step service task (.pushed (events.map Message.ofEvent))
        (service.callBuffer (.push (events.map Message.ofEvent)))
        { task with phase := some (.counting (events.map Event.id) events.length) }
  | count {service task eventIds eventCount}
      (phase : task.phase = some (.counting eventIds eventCount)) :
      Step service task (.counted eventCount) (service.count eventCount)
        { task with phase := some (.acknowledging eventIds) }
  | acknowledge {service task eventIds} (phase : task.phase = some (.acknowledging eventIds)) :
      Step service task .acknowledged service
        { task with phase := some (.sending (.ok (service.acknowledge eventIds))) }
  | queue {service task item} (phase : task.phase = some (.sending item))
      (listening : task.listening = true) (room : task.queue.length < channelSize) :
      Step service task (.queued item) service
        { task with phase := some .receiving, queue := task.queue ++ [item] }
  | refuse {service task item} (phase : task.phase = some (.sending item))
      (gone : task.listening = false) :
      Step service task (.refused item) service { task with phase := afterRefused item }
  | take {service task item rest} (listening : task.listening = true)
      (next : task.queue = item :: rest) :
      Step service task (.took item) service
        { task with queue := rest, taken := task.taken ++ [item] }
  | hangUp {service task} (listening : task.listening = true) :
      Step service task .hungUp service { task with listening := false, queue := [] }

end StreamTask

/-- Where a unary call stands. -/
inductive CallPhase where
  | processing
  | counting (eventId : String)
  | acknowledging (eventId : String)
  | returning (item : Except Status Ack)
  | returned (item : Except Status Ack)

/-- A unary call with its request. -/
structure UnaryCall where
  ingest : IngestEvent
  phase : CallPhase

namespace UnaryCall

/-- The answer to a call whose push has dropped a message. -/
def bufferFull : Except Status Ack :=
  .error ⟨.resourceExhausted, "Buffer full, event dropped"⟩

/-- Where a call goes once it has pushed its message. -/
def afterPush (eventId : String) (dropped : Nat) : CallPhase :=
  if 0 < dropped then .returning bufferFull else .counting eventId

/-- The steps of a unary call. -/
inductive Step : GatewayService → UnaryCall → GatewayEvent → GatewayService → UnaryCall →
    Prop where
  | reject {service ingest status} (failed : service.processEvent ingest = .error status) :
      Step service ⟨ingest, .processing⟩ (.rejected status) service
        ⟨ingest, .returning (.error status)⟩
  | push {service ingest event} (decoded : service.processEvent ingest = .ok event) :
      Step service ⟨ingest, .processing⟩
        (.stored (Message.ofEvent event) (service.buffer.push [Message.ofEvent event]).1)
        (service.callBuffer (.push [Message.ofEvent event]))
        ⟨ingest, afterPush event.id (service.buffer.push [Message.ofEvent event]).1⟩
  | count {service ingest eventId} :
      Step service ⟨ingest, .counting eventId⟩ (.counted 1) (service.count 1)
        ⟨ingest, .acknowledging eventId⟩
  | acknowledge {service ingest eventId} :
      Step service ⟨ingest, .acknowledging eventId⟩ .acknowledged service
        ⟨ingest, .returning (.ok (service.acknowledge [eventId]))⟩
  | answer {service ingest item} :
      Step service ⟨ingest, .returning item⟩ (.answered item) service ⟨ingest, .returned item⟩

end UnaryCall

/-- A task on the service of a gateway. -/
inductive GatewayTask where
  | stream (task : StreamTask)
  | call (task : UnaryCall)
  | reader

namespace GatewayTask

/-- How a task may start. -/
inductive Start : GatewayTask → Prop where
  | stream : Start (.stream .opened)
  | call (ingest : IngestEvent) : Start (.call ⟨ingest, .processing⟩)
  | reader : Start .reader

/-- The steps of a task. -/
inductive Step : GatewayService → GatewayTask → GatewayEvent → GatewayService → GatewayTask →
    Prop where
  | stream {service task event service' task'}
      (step : StreamTask.Step service task event service' task') :
      Step service (.stream task) event service' (.stream task')
  | call {service task event service' task'}
      (step : UnaryCall.Step service task event service' task') :
      Step service (.call task) event service' (.call task')
  | drain {service} (n : Nat) :
      Step service .reader (.drained n) (service.callBuffer (.drain n)) .reader

end GatewayTask

/-- The tasks of a gateway. -/
def gateway : Tasks GatewayService GatewayTask GatewayEvent where
  Start := GatewayTask.Start
  Step := GatewayTask.Step

namespace GatewayEvent

/-- The messages which a step hands to the buffer. -/
def handed : GatewayEvent → List Message
  | pushed messages => messages
  | stored message _ => [message]
  | _ => []

/-- What a step calls on the buffer. -/
def bufferCall : GatewayEvent → Option (BufferCall Message)
  | pushed messages => some (.push messages)
  | stored message _ => some (.push [message])
  | drained n => some (.drain n)
  | _ => none

/-- The events which a step counts. -/
def count : GatewayEvent → Nat
  | counted eventCount => eventCount
  | _ => 0

/-- Whether a unary call is told that its message, or another, has been dropped. -/
def isDropped : GatewayEvent → Bool
  | stored _ dropped => 0 < dropped
  | _ => false

/-- Whether a unary call is told that its message has taken nobody's place. -/
def isAccepted : GatewayEvent → Bool
  | stored _ dropped => dropped = 0
  | _ => false

/-- Whether a unary call returns an acknowledgment. -/
def isOk : GatewayEvent → Bool
  | answered (.ok _) => true
  | _ => false

/-- Whether a reader drains the buffer. -/
def isDrained : GatewayEvent → Bool
  | drained _ => true
  | _ => false

/-- Whether a stream pushes. -/
def isPushed : GatewayEvent → Bool
  | pushed _ => true
  | _ => false

/-- The batch which a step receives. -/
def batch? : GatewayEvent → Option IngestBatch
  | received batch => some batch
  | _ => none

end GatewayEvent

end Polku
