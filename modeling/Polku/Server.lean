import Polku.Buffer.Ring
import Polku.Message
import Polku.Registry

/-!
# The gRPC gateway service

Unary ingestion: a request is decoded to an event, which is pushed into the ring
buffer. Nothing else touches the buffer during a call. `events_processed` is a
`u64` counter, taken as not wrapping.
-/

namespace Polku

open Buffer

/-- The state of the service. -/
structure GatewayService where
  buffer : RingBuffer Message
  registry : PluginRegistry
  eventsProcessed : Nat

/-- The event of a request: the one it passes through, or the first one which the ingestor of
its source returns for its data. -/
def IngestEvent.event (ingest : IngestEvent) (registry : PluginRegistry) : Option Event :=
  match ingest.payload with
  | none => none
  | some (.event event) => some event
  | some (.raw data) =>
      match registry.ingestors.lookup ingest.source with
      | none => none
      | some ingestor =>
          match ingestor.ingest ⟨ingest.source, ingest.cluster, ingest.format⟩ data with
          | .error _ => none
          | .ok events => events.head?

namespace GatewayService

/-- A service with a buffer and a registry. -/
def withRegistry (buffer : RingBuffer Message) (registry : PluginRegistry) : GatewayService :=
  ⟨buffer, registry, 0⟩

/-- A service with a buffer only. -/
def new (buffer : RingBuffer Message) : GatewayService := withRegistry buffer .new

/-- Decode a request to one event. -/
def processEvent (self : GatewayService) (ingest : IngestEvent) : Except Status Event :=
  match ingest.payload with
  | some (.event event) => .ok event
  | some (.raw data) =>
      match self.registry.transform ⟨ingest.source, ingest.cluster, ingest.format⟩ data with
      | .ok [] => .error ⟨.invalidArgument, "Transform produced no events"⟩
      | .ok (event :: _) => .ok event
      | .error error => .error ⟨.unimplemented,
          s!"Transform failed for source '{ingest.source}': {error.toText}"⟩
  | none => .error ⟨.invalidArgument, "Event payload is empty"⟩

/-- Ingest one event. -/
def sendEvent (self : GatewayService) (ingest : IngestEvent) :
    Except Status Ack × GatewayService :=
  match self.processEvent ingest with
  | .error status => (.error status, self)
  | .ok event =>
      let (dropped, buffer) := self.buffer.push [Message.ofEvent event]
      let self := { self with buffer := buffer }
      if 0 < dropped then
        (.error ⟨.resourceExhausted, "Buffer full, event dropped"⟩, self)
      else
        let self := { self with eventsProcessed := self.eventsProcessed + 1 }
        (.ok
          { eventIds := [event.id]
            errors := []
            bufferSize := self.buffer.len
            bufferCapacity := self.buffer.capacity }, self)

/-! ### Atomicity -/

/-- The messages a call evicts from the buffer. -/
def evicted (self : GatewayService) (ingest : IngestEvent) : List Message :=
  match self.processEvent ingest with
  | .error _ => []
  | .ok event => (self.buffer.evictions [Message.ofEvent event]).map Eviction.message

/-- A call which fails changes nothing, and a call which succeeds only appends
its event, with every field. -/
structure SendsAtomically (service : GatewayService) (ingest : IngestEvent) : Prop where
  onError : ∀ status, (service.sendEvent ingest).1 = .error status →
    (service.sendEvent ingest).2.buffer.messages = service.buffer.messages ∧
    service.evicted ingest = [] ∧
    (service.sendEvent ingest).2.eventsProcessed = service.eventsProcessed
  onOk : ∀ ack, (service.sendEvent ingest).1 = .ok ack →
    ∃ event message, service.processEvent ingest = .ok event ∧
      ingest.event service.registry = some event ∧ event.Carries message ∧
      (service.sendEvent ingest).2.buffer.messages = service.buffer.messages ++ [message] ∧
      service.evicted ingest = []

/-- A request which the registry decodes to no event. -/
def Undecodable (registry : PluginRegistry) (ingest : IngestEvent) : Prop :=
  match ingest.payload with
  | none => True
  | some (.event _) => False
  | some (.raw data) =>
      ∀ event rest, registry.transform ⟨ingest.source, ingest.cluster, ingest.format⟩ data ≠
        .ok (event :: rest)

variable {self : GatewayService} {ingest : IngestEvent}

/-- Decoding fails exactly on the undecodable requests. -/
theorem processEvent_error_iff :
    (∃ status, self.processEvent ingest = .error status) ↔
      Undecodable self.registry ingest := by
  unfold processEvent Undecodable
  rcases ingest.payload with _ | data | event
  · simp
  · simp only
    split <;> simp_all
  · simp

/-- What is decoded is the event of the request. -/
theorem event_of_processEvent {event : Event} (decoded : self.processEvent ingest = .ok event) :
    ingest.event self.registry = some event := by
  unfold processEvent at decoded
  rcases payload : ingest.payload with _ | data | passed
  · simp [payload] at decoded
  · simp only [payload, PluginRegistry.transform, PluginRegistry.ingest] at decoded
    simp only [IngestEvent.event, payload]
    cases registered : self.registry.ingestors.lookup ingest.source with
    | none => simp [registered] at decoded
    | some ingestor =>
        simp only [registered] at decoded
        dsimp only
        -- An ingestor fails, returns nothing, or returns a first event.
        rcases returned : ingestor.ingest ⟨ingest.source, ingest.cluster, ingest.format⟩ data with
          error | _ | ⟨first, rest⟩
        · simp [returned] at decoded
        · simp [returned] at decoded
        · simpa [returned] using decoded
  · simpa [IngestEvent.event, payload] using decoded

/-- A failed decoding is reported and changes nothing. -/
private theorem sendsAtomically_of_error {status : Status}
    (failed : self.processEvent ingest = .error status) : self.SendsAtomically ingest where
  onError := by simp [sendEvent, evicted, failed]
  onOk := by simp [sendEvent, failed]

/-- With room in the buffer an event is only appended. -/
private theorem sendsAtomically_of_room {event : Event}
    (decoded : self.processEvent ingest = .ok event)
    (room : self.buffer.messages.length < self.buffer.capacity) :
    self.SendsAtomically ingest where
  onError := by simp [sendEvent, decoded, RingBuffer.pushLoop_of_room _ room]
  onOk := by
    intro ack _
    refine ⟨event, .ofEvent event, decoded, event_of_processEvent decoded,
      Message.carries_ofEvent event, ?_, ?_⟩
    · simp [sendEvent, decoded, RingBuffer.pushLoop_of_room _ room]
    · simp [evicted, RingBuffer.evictions, decoded, RingBuffer.pushLoop_of_room _ room]

/-- A full buffer takes an event it reports as dropped: at the cost of its oldest
message or, if it has no capacity at all, beyond it. -/
private theorem not_sendsAtomically_of_full {event : Event}
    (decoded : self.processEvent ingest = .ok event)
    (full : self.buffer.capacity ≤ self.buffer.messages.length) :
    ¬ self.SendsAtomically ingest := by
  intro atomic
  have loop := RingBuffer.pushLoop_of_full (Message.ofEvent event) full
  have reported : (self.sendEvent ingest).1 =
      .error ⟨.resourceExhausted, "Buffer full, event dropped"⟩ := by
    simp [sendEvent, decoded, loop]
  obtain ⟨same, none, -⟩ := atomic.onError _ reported
  cases held : self.buffer.messages with
  | nil => simp [sendEvent, decoded, loop, held] at same
  | cons oldest rest => simp [evicted, RingBuffer.evictions, decoded, loop, held] at none

/-- Unary ingestion is atomic exactly when the request does not decode to an
event or the buffer has room for it. -/
theorem send_event_atomic_iff (self : GatewayService) (ingest : IngestEvent) :
    self.SendsAtomically ingest ↔
      Undecodable self.registry ingest ∨ self.buffer.len < self.buffer.capacity := by
  rw [← processEvent_error_iff]
  cases decoded : self.processEvent ingest with
  | error status => exact iff_of_true (sendsAtomically_of_error decoded) (.inl ⟨status, rfl⟩)
  | ok event =>
      rcases Nat.lt_or_ge self.buffer.messages.length self.buffer.capacity with room | full
      · exact iff_of_true (sendsAtomically_of_room decoded room) (.inr room)
      · apply iff_of_false (not_sendsAtomically_of_full decoded full)
        rintro (⟨status, failed⟩ | room)
        · cases failed
        · exact absurd room (Nat.not_lt.mpr full)

/-- An event with an id and nothing else of interest. -/
def plainEvent (id : String) : Event :=
  (Message.withId id 0 "source" "type" []).toEvent

/-- A service whose buffer has room for one message and holds event `a`. -/
def fullService : GatewayService := new ⟨[Message.ofEvent (plainEvent "a")], 1, ⟨1, 0, 0⟩⟩

/-- A pass-through request with event `b`. -/
def sendB : IngestEvent := ⟨"source", "cluster", "", some (.event (plainEvent "b"))⟩

/-- Sending `b` to a buffer full with `a` is answered with `b` having been
dropped, while `b` is held and `a` is gone. -/
theorem full_buffer_send_event :
    (fullService.sendEvent sendB).1 =
        .error ⟨.resourceExhausted, "Buffer full, event dropped"⟩ ∧
      (fullService.sendEvent sendB).2.buffer.messages = [Message.ofEvent (plainEvent "b")] ∧
      fullService.evicted sendB = [Message.ofEvent (plainEvent "a")] ∧
      ¬ fullService.SendsAtomically sendB := by
  refine ⟨rfl, rfl, rfl, fun atomic => ?_⟩
  exact absurd (atomic.onError _ rfl).2.1 (by decide)

end GatewayService

end Polku
