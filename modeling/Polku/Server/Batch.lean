import Polku.Buffer.Capacity
import Polku.Server

/-!
# A batch of the stream

What `stream_events` does with one batch, while nothing else touches the buffer. It lists in
its acknowledgment the events of the batch, also those which the push of the same batch has
evicted.
-/

namespace Polku

open Buffer

/-- Decode a batch to its events. -/
def processBatchWithRegistry (batch : IngestBatch) (registry : PluginRegistry) :
    Except Status (List Event) :=
  match batch.payload with
  | some (.events payload) => .ok payload.events
  | some (.raw payload) =>
      match registry.transform ⟨batch.source, batch.cluster, payload.format⟩ payload.data with
      | .ok events => .ok events
      | .error error => .error ⟨.unimplemented,
          s!"Transform failed for source '{batch.source}': {error.toText}"⟩
  | none => .ok []

namespace GatewayService

/-- Acknowledge events. -/
def acknowledge (self : GatewayService) (eventIds : List String) : Ack where
  eventIds := eventIds
  errors := []
  bufferSize := self.buffer.len
  bufferCapacity := self.buffer.capacity

/-- Handle one batch: what is answered to it, and the service after it. -/
def handleBatch (self : GatewayService) (batch : IngestBatch) :
    Except Status Ack × GatewayService :=
  match processBatchWithRegistry batch self.registry with
  | .error status => (.error status, self)
  | .ok events =>
      if events.isEmpty then (.ok (self.acknowledge []), self)
      else
        let eventIds := events.map Event.id
        let (_, buffer) := self.buffer.push (events.map Message.ofEvent)
        let self := { self with
          buffer := buffer
          eventsProcessed := self.eventsProcessed + events.length }
        (.ok (self.acknowledge eventIds), self)

variable {self : GatewayService} {batch : IngestBatch} {events : List Event}

/-- Two events in one batch. -/
def twoEvents : IngestBatch :=
  ⟨"source", "cluster", some (.events ⟨[plainEvent "a", plainEvent "b"]⟩)⟩

end GatewayService

end Polku
