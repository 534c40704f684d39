import Polku.Server.Batch
import Polku.Buffer.History
import Polku.Semantics.Execution
import Polku.Semantics.Inevitable

/-!
# The stream of batches

`stream_events` receives one batch after another. It answers each with one item on the
response channel, which stays open. Other tasks push into the same buffer, drain it and count
events, between any two steps of the stream.
-/

namespace Polku

open Buffer Semantics Data

/-- Where the loop of a stream is, with the values it holds. -/
inductive StreamPhase where
  | receiving
  | pushing (events : List Event)
  | counting (eventIds : List String) (eventCount : Nat)
  | acknowledging (eventIds : List String)
  | sending (item : Except Status Ack)

/-- A stream: the service, the batches still to come, and what has been answered. -/
structure StreamState where
  service : GatewayService
  batches : List IngestBatch
  phase : StreamPhase
  responses : List (Except Status Ack)

/-- What a step did. -/
inductive StreamEvent where
  | received (batch : IngestBatch)
  | pushed (messages : List Message)
  | counted (eventCount : Nat)
  | acknowledged
  | sent (item : Except Status Ack)
  | others (call : BufferCall Message)
  | othersCounted (eventCount : Nat)

/-- What the loop does with a batch. -/
def StreamPhase.afterBatch (batch : IngestBatch) (registry : PluginRegistry) : StreamPhase :=
  match processBatchWithRegistry batch registry with
  | .error status => .sending (.error status)
  | .ok events => if events.isEmpty then .acknowledging [] else .pushing events

namespace StreamState

/-- Count events. -/
def count (self : StreamState) (eventCount : Nat) : StreamState :=
  { self with service := { self.service with
      eventsProcessed := self.service.eventsProcessed + eventCount } }

/-- Call the buffer. -/
def callBuffer (self : StreamState) (call : BufferCall Message) : StreamState :=
  { self with service := { self.service with buffer := (self.service.buffer.call call).2 } }

/-- Steps of the stream itself. -/
inductive OwnStep : StreamState → StreamEvent → StreamState → Prop where
  | receive {self batch batches} (phase : self.phase = .receiving)
      (next : self.batches = batch :: batches) :
      OwnStep self (.received batch) { self with
        batches := batches
        phase := .afterBatch batch self.service.registry }
  | push {self events} (phase : self.phase = .pushing events) :
      OwnStep self (.pushed (events.map Message.ofEvent))
        { self.callBuffer (.push (events.map Message.ofEvent)) with
          phase := .counting (events.map Event.id) events.length }
  | count {self eventIds eventCount} (phase : self.phase = .counting eventIds eventCount) :
      OwnStep self (.counted eventCount)
        { self.count eventCount with phase := .acknowledging eventIds }
  | acknowledge {self eventIds} (phase : self.phase = .acknowledging eventIds) :
      OwnStep self .acknowledged
        { self with phase := .sending (.ok (self.service.acknowledge eventIds)) }
  | send {self item} (phase : self.phase = .sending item) :
      OwnStep self (.sent item)
        { self with phase := .receiving, responses := self.responses ++ [item] }

/-- Steps of the stream and of other tasks. -/
inductive Step : StreamState → StreamEvent → StreamState → Prop where
  | own {self event next} (step : OwnStep self event next) : Step self event next
  | call (self : StreamState) (call : BufferCall Message) :
      Step self (.others call) (self.callBuffer call)
  | count (self : StreamState) (eventCount : Nat) :
      Step self (.othersCounted eventCount) (self.count eventCount)

/-- A stream of batches to a service. -/
def system (service : GatewayService) (batches : List IngestBatch) : System StreamEvent where
  State := StreamState
  Initial self := self = ⟨service, batches, .receiving, []⟩
  Step := Step

/-- All batches have been answered. -/
def Finished (self : StreamState) : Prop := self.phase = .receiving ∧ self.batches = []

end StreamState

/-! ## What a history tells -/

namespace StreamEvent

/-- Whether a step is one of the stream itself. -/
def isOwn : StreamEvent → Bool
  | others _ | othersCounted _ => false
  | _ => true

/-- The messages which the stream hands to the buffer. -/
def messages : StreamEvent → List Message
  | pushed messages => messages
  | _ => []

/-- The events which the stream counts. -/
def count : StreamEvent → Nat
  | counted eventCount => eventCount
  | _ => 0

/-- The item which the stream puts on the response channel. -/
def item : StreamEvent → Option (Except Status Ack)
  | sent item => some item
  | _ => none

/-- The call of the buffer, by whatever task. -/
def bufferCall : StreamEvent → Option (BufferCall Message)
  | pushed messages => some (.push messages)
  | others call => some call
  | _ => none

/-- The events which any task counts. -/
def anyCount : StreamEvent → Nat
  | counted eventCount | othersCounted eventCount => eventCount
  | _ => 0

end StreamEvent

/-- A batch is raw, and there is no ingestor for its source, or that fails. -/
def IngestBatch.Fails (batch : IngestBatch) (registry : PluginRegistry) : Prop :=
  ∃ payload, batch.payload = some (.raw payload) ∧
    (registry.ingestors.lookup batch.source = none ∨
      ∃ ingestor error, registry.ingestors.lookup batch.source = some ingestor ∧
        ingestor.ingest ⟨batch.source, batch.cluster, payload.format⟩ payload.data =
          .error error)

/-- The events of a batch: those it lists, or those which the ingestor of its source returns for
its data. One which fails has none. -/
def IngestBatch.events (batch : IngestBatch) (registry : PluginRegistry) : List Event :=
  match batch.payload with
  | none => []
  | some (.events payload) => payload.events
  | some (.raw payload) =>
      match registry.ingestors.lookup batch.source with
      | none => []
      | some ingestor =>
          match ingestor.ingest ⟨batch.source, batch.cluster, payload.format⟩ payload.data with
          | .error _ => []
          | .ok events => events

/-- A batch does not fail, and has certain events. -/
structure IngestBatch.Decodes (batch : IngestBatch) (registry : PluginRegistry)
    (events : List Event) : Prop where
  accepted : ¬ batch.Fails registry
  events : batch.events registry = events

variable {registry : PluginRegistry} {batch : IngestBatch}

/-- A batch is decoded to its events, or it fails. -/
theorem processBatchWithRegistry_spec (batch : IngestBatch) (registry : PluginRegistry) :
    (∃ status, processBatchWithRegistry batch registry = .error status ∧ batch.Fails registry) ∨
      ∃ events, processBatchWithRegistry batch registry = .ok events ∧
        batch.Decodes registry events := by
  rcases payload : batch.payload with _ | raw | listed
  · refine .inr ⟨[], ?_, ?_, ?_⟩ <;>
      simp [processBatchWithRegistry, IngestBatch.Fails, IngestBatch.events, payload]
  · cases registered : registry.ingestors.lookup batch.source with
    | none =>
        have isError : ∃ status, processBatchWithRegistry batch registry = .error status := by
          simp [processBatchWithRegistry, payload, PluginRegistry.transform,
            PluginRegistry.ingest, registered]
        obtain ⟨status, isError⟩ := isError
        exact .inl ⟨status, isError, raw, payload, .inl registered⟩
    | some ingestor =>
        cases returned : ingestor.ingest ⟨batch.source, batch.cluster, raw.format⟩ raw.data with
        | error error =>
            have isError : ∃ status, processBatchWithRegistry batch registry = .error status := by
              simp [processBatchWithRegistry, payload, PluginRegistry.transform,
                PluginRegistry.ingest, registered, returned]
            obtain ⟨status, isError⟩ := isError
            exact .inl ⟨status, isError, raw, payload,
              .inr ⟨ingestor, error, registered, returned⟩⟩
        | ok events =>
            refine .inr ⟨events, ?_, ?_, ?_⟩
            · simp [processBatchWithRegistry, payload, PluginRegistry.transform,
                PluginRegistry.ingest, registered, returned]
            · simp [IngestBatch.Fails, payload, registered, returned]
            · simp [IngestBatch.events, payload, registered, returned]
  · refine .inr ⟨listed.events, ?_, ?_, ?_⟩ <;>
      simp [processBatchWithRegistry, IngestBatch.Fails, IngestBatch.events, payload]

/-- A batch which fails has no events. -/
theorem IngestBatch.Fails.events (fails : batch.Fails registry) : batch.events registry = [] := by
  obtain ⟨raw, payload, missing | ⟨ingestor, error, registered, returned⟩⟩ := fails
  · simp [IngestBatch.events, payload, missing]
  · simp [IngestBatch.events, payload, registered, returned]

namespace StreamEvent

/-- The steps which the stream takes for one batch: none but a batch with events reaches the
buffer and the counter. -/
inductive Handles (registry : PluginRegistry) (batch : IngestBatch) : List StreamEvent → Prop where
  | failed {status} (fails : batch.Fails registry) :
      Handles registry batch [.received batch, .sent (.error status)]
  | empty {ack : Ack} (decoded : batch.Decodes registry [])
      (ids : ack.eventIds = []) :
      Handles registry batch [.received batch, .acknowledged, .sent (.ok ack)]
  | stored {events : List Event} {ack : Ack} (some : events ≠ [])
      (decoded : batch.Decodes registry events)
      (ids : ack.eventIds = events.map Event.id) :
      Handles registry batch [.received batch, .pushed (events.map Message.ofEvent),
        .counted events.length, .acknowledged, .sent (.ok ack)]

/-- How a batch is answered: with an error exactly if it fails, and otherwise with the ids of
its events. -/
structure Answers (registry : PluginRegistry) (batch : IngestBatch)
    (item : Except Status Ack) : Prop where
  error : (∃ status, item = .error status) ↔ batch.Fails registry
  ids : ∀ ack, item = .ok ack → ack.eventIds = (batch.events registry).map Event.id

/-- An acknowledgment of its events answers a batch which can be decoded. -/
theorem answers_ok {events : List Event} {ack : Ack}
    (decoded : batch.Decodes registry events)
    (ids : ack.eventIds = events.map Event.id) : Answers registry batch (.ok ack) where
  error := by simp [decoded.accepted]
  ids other same := by
    obtain rfl := Except.ok.inj same
    rw [ids, decoded.events]

/-- What the steps for one batch come to. -/
theorem Handles.spec {steps : List StreamEvent} (handles : Handles registry batch steps) :
    steps.flatMap messages = (batch.events registry).map Message.ofEvent ∧
      (steps.map count).sum = (batch.events registry).length ∧
      ∃ answer, steps.filterMap item = [answer] ∧ Answers registry batch answer := by
  cases handles with
  | failed fails =>
      rw [fails.events]
      exact ⟨rfl, rfl, _, rfl, iff_of_true ⟨_, rfl⟩ fails, nofun⟩
  | empty decoded ids =>
      rw [decoded.events]
      exact ⟨rfl, rfl, _, rfl, answers_ok decoded ids⟩
  | stored some decoded ids =>
      rw [decoded.events]
      exact ⟨List.append_nil _, by simp [count], _, rfl, answers_ok decoded ids⟩

/-- The steps for several batches, one batch after another. -/
theorem handlesEach_spec {batches : List IngestBatch} {parts : List (List StreamEvent)}
    (handles : List.Forall₂ (Handles registry) batches parts) :
    parts.flatten.flatMap messages =
        (batches.flatMap (·.events registry)).map Message.ofEvent ∧
      (parts.flatten.map count).sum = (batches.flatMap (·.events registry)).length ∧
      List.Forall₂ (Answers registry) batches (parts.flatten.filterMap item) := by
  induction handles with
  | nil => exact ⟨rfl, rfl, .nil⟩
  | @cons batch steps batches parts first rest inductionHypothesis =>
      obtain ⟨handed, counted, answers⟩ := inductionHypothesis
      obtain ⟨firstHanded, firstCounted, answer, firstItem, isAnswer⟩ := first.spec
      refine ⟨?_, ?_, ?_⟩
      · rw [List.flatten_cons, List.flatMap_append, firstHanded, handed, List.flatMap_cons,
          List.map_append]
      · rw [List.flatten_cons, List.map_append, List.sum_append, firstCounted, counted,
          List.flatMap_cons, List.length_append]
      · rw [List.flatten_cons, List.filterMap_append, firstItem]
        exact .cons isAnswer answers

end StreamEvent

/-! ## What every step keeps -/

/-- The steps which the stream has taken for the batch it is at, if it is at one. -/
inductive InProgress (registry : PluginRegistry) :
    List IngestBatch → StreamPhase → List StreamEvent → Prop where
  | receiving : InProgress registry [] .receiving []
  | pushing {batch events} (some : events ≠ [])
      (decoded : batch.Decodes registry events) :
      InProgress registry [batch] (.pushing events) [.received batch]
  | counting {batch events} (some : events ≠ [])
      (decoded : batch.Decodes registry events) :
      InProgress registry [batch] (.counting (events.map Event.id) events.length)
        [.received batch, .pushed (events.map Message.ofEvent)]
  | acknowledging {batch eventIds steps}
      (handles : ∀ ack : Ack, ack.eventIds = eventIds →
        StreamEvent.Handles registry batch (steps ++ [.acknowledged, .sent (.ok ack)])) :
      InProgress registry [batch] (.acknowledging eventIds) steps
  | sending {batch item steps}
      (handles : StreamEvent.Handles registry batch (steps ++ [.sent item])) :
      InProgress registry [batch] (.sending item) steps

/-- A batch which has been received is in progress. -/
theorem inProgress_afterBatch (registry : PluginRegistry) (batch : IngestBatch) :
    InProgress registry [batch] (.afterBatch batch registry) [.received batch] := by
  rw [StreamPhase.afterBatch]
  rcases processBatchWithRegistry_spec batch registry with
    ⟨status, isError, fails⟩ | ⟨events, isOk, decoded⟩
  · rw [isError]
    exact .sending (.failed fails)
  · rw [isOk]
    cases events with
    | nil => exact .acknowledging fun ack ids => .empty decoded ids
    | cons event events => exact .pushing (List.cons_ne_nil _ _) decoded

/-- What every step keeps. -/
structure Streaming (service : GatewayService) (batches : List IngestBatch)
    (trace : List StreamEvent) (state : StreamState) : Prop where
  registry : state.service.registry = service.registry
  buffer : state.service.buffer =
    (service.buffer.replay (trace.filterMap StreamEvent.bufferCall)).2
  processed : state.service.eventsProcessed =
    service.eventsProcessed + (trace.map StreamEvent.anyCount).sum
  responses : state.responses = trace.filterMap StreamEvent.item
  aligned : ∃ done current parts steps, batches = done ++ current ++ state.batches ∧
    trace.filter StreamEvent.isOwn = parts.flatten ++ steps ∧
    List.Forall₂ (StreamEvent.Handles service.registry) done parts ∧
    InProgress service.registry current state.phase steps

namespace Streaming

variable {service : GatewayService} {batches : List IngestBatch} {trace : List StreamEvent}
  {state next : StreamState} {event : StreamEvent}

/-- What a step calls on the buffer, counts and answers is added to what has been. -/
theorem extend (streaming : Streaming service batches trace state)
    (sameRegistry : next.service.registry = state.service.registry)
    (called : next.service.buffer = (state.service.buffer.replay event.bufferCall.toList).2)
    (counted : next.service.eventsProcessed = state.service.eventsProcessed + event.anyCount)
    (answered : next.responses = state.responses ++ event.item.toList)
    (aligned : ∃ done current parts steps, batches = done ++ current ++ next.batches ∧
      (trace ++ [event]).filter StreamEvent.isOwn = parts.flatten ++ steps ∧
      List.Forall₂ (StreamEvent.Handles service.registry) done parts ∧
      InProgress service.registry current next.phase steps) :
    Streaming service batches (trace ++ [event]) next where
  registry := sameRegistry.trans streaming.registry
  buffer := by
    rw [called, streaming.buffer, filterMap_snoc, RingBuffer.replay_append]
  processed := by
    rw [counted, streaming.processed, List.map_append, List.sum_append, Nat.add_assoc]
    simp
  responses := by rw [answered, streaming.responses, filterMap_snoc]
  aligned := aligned

/-- Every step keeps it. -/
theorem step (streaming : Streaming service batches trace state)
    (transition : StreamState.Step state event next) :
    Streaming service batches (trace ++ [event]) next := by
  obtain ⟨done, current, parts, steps, whole, own, handles, progress⟩ := streaming.aligned
  cases transition with
  | call call =>
      refine streaming.extend rfl rfl rfl (List.append_nil _).symm
        ⟨done, current, parts, steps, whole, ?_, handles, progress⟩
      simpa [StreamEvent.isOwn] using own
  | count eventCount =>
      refine streaming.extend rfl rfl rfl (List.append_nil _).symm
        ⟨done, current, parts, steps, whole, ?_, handles, progress⟩
      simpa [StreamEvent.isOwn] using own
  | own step =>
      have longer : event.isOwn = true →
          (trace ++ [event]).filter StreamEvent.isOwn = parts.flatten ++ (steps ++ [event]) := by
        intro isOwn
        rw [List.filter_append, own, List.append_assoc]
        simp [isOwn]
      cases step with
      | @receive batch rest phase isNext =>
          rw [phase] at progress
          cases progress
          refine streaming.extend rfl rfl rfl (List.append_nil _).symm
            ⟨done, [batch], parts, _, ?_, longer rfl, handles, ?_⟩
          · rw [whole, isNext]
            simp
          · rw [streaming.registry]
            exact inProgress_afterBatch service.registry batch
      | @push events phase =>
          rw [phase] at progress
          cases progress with
          | pushing some decoded =>
              exact streaming.extend rfl rfl rfl (List.append_nil _).symm
                ⟨done, _, parts, _, whole, longer rfl, handles, .counting some decoded⟩
      | @count eventIds eventCount phase =>
          rw [phase] at progress
          cases progress with
          | counting some decoded =>
              exact streaming.extend rfl rfl rfl (List.append_nil _).symm
                ⟨done, _, parts, _, whole, longer rfl, handles,
                  .acknowledging fun ack ids => .stored some decoded ids⟩
      | @acknowledge eventIds phase =>
          rw [phase] at progress
          cases progress with
          | acknowledging complete =>
              refine streaming.extend rfl rfl rfl (List.append_nil _).symm
                ⟨done, _, parts, _, whole, longer rfl, handles, .sending ?_⟩
              rw [List.append_assoc]
              exact complete _ rfl
      | @send item phase =>
          rw [phase] at progress
          cases progress with
          | @sending batch _ steps complete =>
              refine streaming.extend rfl rfl rfl rfl
                ⟨done ++ [batch], [], parts ++ [steps ++ [.sent item]], [], ?_, ?_, ?_, .receiving⟩
              · simpa using whole
              · rw [longer rfl]
                simp
              · exact List.rel_append handles (.cons complete .nil)

/-- Every run keeps it. -/
theorem of_runs (run : (StreamState.system service batches).Runs trace state) :
    Streaming service batches trace state := by
  refine System.Runs.history (fun trace (state : StreamState) =>
    Streaming service batches trace state) ?_ ?_ run
  · rintro _ rfl
    exact ⟨rfl, rfl, rfl, rfl, [], [], [], [], rfl, rfl, .nil, .receiving⟩
  · exact fun _ streaming transition => streaming.step transition

end Streaming

namespace StreamState

/-- A step of the stream itself. -/
def Advances (self next : StreamState) : Prop := ∃ event, OwnStep self event next

/-- What is left to do with the batch at hand. -/
def stepsLeft : StreamPhase → Nat
  | .receiving => 0
  | .sending _ => 1
  | .acknowledging _ => 2
  | .counting _ _ => 3
  | .pushing _ => 4

/-- Until all batches have been answered, the stream goes on. -/
theorem finished_or_advances (self : StreamState) :
    self.Finished ∨ ∃ next, Advances self next := by
  cases phase : self.phase with
  | receiving =>
      cases batches : self.batches with
      | nil => exact Or.inl ⟨phase, batches⟩
      | cons batch rest => exact Or.inr ⟨_, _, .receive phase batches⟩
  | pushing events => exact Or.inr ⟨_, _, .push phase⟩
  | counting eventIds eventCount => exact Or.inr ⟨_, _, .count phase⟩
  | acknowledging eventIds => exact Or.inr ⟨_, _, .acknowledge phase⟩
  | sending item => exact Or.inr ⟨_, _, .send phase⟩

/-- Every step of the stream does some of what is left. -/
theorem Advances.descends {self next : StreamState} (step : Advances self next) :
    Prod.Lex (· < ·) (· < ·) (next.batches.length, stepsLeft next.phase)
      (self.batches.length, stepsLeft self.phase) := by
  obtain ⟨event, step⟩ := step
  cases step with
  | @receive batch rest phase isNext =>
      rw [isNext]
      exact .left _ _ (Nat.lt_succ_self _)
  | push phase => exact .right _ (by rw [phase]; exact Nat.lt_succ_self _)
  | count phase => exact .right _ (by rw [phase]; exact Nat.lt_succ_self _)
  | acknowledge phase => exact .right _ (by rw [phase]; exact Nat.lt_succ_self _)
  | send phase => exact .right _ (by rw [phase]; exact Nat.lt_succ_self _)

/-- From any state the stream comes to answer all batches. -/
theorem inevitable_finished (self : StreamState) : Inevitable Advances Finished self := by
  refine Inevitable.of_measure (fun state => (state.batches.length, stepsLeft state.phase))
    (fun _ => True) (fun state _ => state.finished_or_advances) ?_ trivial
  exact fun _ _ _ step => ⟨trivial, step.descends⟩

/-- With nothing between its steps, the stream does with a batch what `handleBatch` does. -/
theorem advances_handleBatch (service : GatewayService) (batch : IngestBatch)
    (batches : List IngestBatch) (responses : List (Except Status Ack)) :
    Relation.ReflTransGen Advances ⟨service, batch :: batches, .receiving, responses⟩
      ⟨(service.handleBatch batch).2, batches, .receiving,
        responses ++ [(service.handleBatch batch).1]⟩ := by
  have received : Advances ⟨service, batch :: batches, .receiving, responses⟩
      ⟨service, batches, .afterBatch batch service.registry, responses⟩ := ⟨_, .receive rfl rfl⟩
  refine .head received ?_
  rw [StreamPhase.afterBatch, GatewayService.handleBatch]
  cases processBatchWithRegistry batch service.registry with
  | error status => exact .single ⟨_, .send rfl⟩
  | ok events =>
      cases events with
      | nil => exact .head ⟨_, .acknowledge rfl⟩ (.single ⟨_, .send rfl⟩)
      | cons event events =>
          exact .head ⟨_, .push rfl⟩ (.head ⟨_, .count rfl⟩ (.head ⟨_, .acknowledge rfl⟩
            (.single ⟨_, .send rfl⟩)))

end StreamState

/-- What a stream which has answered all its batches has done. -/
structure Streams (service : GatewayService) (batches : List IngestBatch)
    (trace : List StreamEvent) (state : StreamState) : Prop where
  /-- There is one item for each batch, in order. -/
  answers : List.Forall₂ (StreamEvent.Answers service.registry) batches state.responses
  /-- The buffer has been handed the events of the batches which do not fail, in order. -/
  handed : trace.flatMap StreamEvent.messages =
    (batches.flatMap (·.events service.registry)).map Message.ofEvent
  /-- Each message has every field of its event. -/
  preserved : List.Forall₂ Event.Carries (batches.flatMap (·.events service.registry))
    (trace.flatMap StreamEvent.messages)
  /-- As many events have been counted. -/
  counted : (trace.map StreamEvent.count).sum =
    (batches.flatMap (·.events service.registry)).length
  /-- The buffer has been called, and the counter changed, by these steps and those of other
  tasks only. -/
  buffer : state.service.buffer =
    (service.buffer.replay (trace.filterMap StreamEvent.bufferCall)).2
  processed : state.service.eventsProcessed =
    service.eventsProcessed + (trace.map StreamEvent.anyCount).sum
  /-- The stream has taken its steps batch by batch: for a batch which fails, none which
  reaches the buffer or the counter. -/
  handles : ∃ parts, trace.filter StreamEvent.isOwn = parts.flatten ∧
    List.Forall₂ (StreamEvent.Handles service.registry) batches parts

/-- Only the steps of the stream itself hand messages over, count for it or answer. -/
theorem StreamEvent.own_spec (trace : List StreamEvent) :
    (trace.filter isOwn).flatMap messages = trace.flatMap messages ∧
      ((trace.filter isOwn).map count).sum = (trace.map count).sum ∧
      (trace.filter isOwn).filterMap item = trace.filterMap item := by
  induction trace with
  | nil => exact ⟨rfl, rfl, rfl⟩
  | cons event trace inductionHypothesis =>
      obtain ⟨handed, counted, answered⟩ := inductionHypothesis
      cases event <;> simp [List.filter_cons, List.filterMap_cons, isOwn, messages, count, item,
        handed, counted, answered]

/-- Whatever other tasks do to the buffer and the counter, a stream answers all its batches in
order, each with one item, stores and counts their events, and goes on after a batch which
fails without having changed anything. -/
theorem streams (service : GatewayService) (batches : List IngestBatch)
    (execution : (StreamState.system service batches).Execution) :
    Inevitable StreamState.Advances StreamState.Finished execution.state ∧
      (StreamState.Finished execution.state →
        Streams service batches execution.trace execution.state) := by
  refine ⟨StreamState.inevitable_finished _, ?_⟩
  rintro ⟨phase, noBatch⟩
  have streaming := Streaming.of_runs execution.runs
  obtain ⟨done, current, parts, steps, whole, own, handles, progress⟩ := streaming.aligned
  rw [phase] at progress
  cases progress
  rw [noBatch, List.append_nil, List.append_nil] at whole
  rw [List.append_nil] at own
  subst whole
  obtain ⟨ownHanded, ownCounted, ownAnswered⟩ := StreamEvent.own_spec execution.trace
  obtain ⟨handed, counted, answers⟩ := StreamEvent.handlesEach_spec handles
  rw [own] at ownHanded ownCounted ownAnswered
  have stored := ownHanded.symm.trans handed
  refine ⟨?_, stored, ?_, ownCounted.symm.trans counted, streaming.buffer, streaming.processed,
    parts, own, handles⟩
  · rw [streaming.responses, ← ownAnswered]
    exact answers
  · rw [stored]
    exact Message.forall₂_carries_ofEvent _

/-- An ingestor which puts the data of a batch into one event. -/
def wrapping : Ingestor where
  name := "wrapping"
  ingest ctx data := .ok [⟨"raw", 0, ctx.source, ctx.format, ∅, data, []⟩]

/-- A service which decodes raw batches of one source. -/
def wrappingService : GatewayService :=
  .withRegistry (.new 10) (PluginRegistry.new.registerIngestor "device" wrapping)

/-- A raw batch from a source without an ingestor, a batch without a payload, a raw batch which
is decoded, and two events. -/
def mixedBatches : List IngestBatch :=
  [⟨"source", "cluster", some (.raw ⟨[1], "json"⟩)⟩, ⟨"source", "cluster", none⟩,
    ⟨"device", "cluster", some (.raw ⟨[1, 2], "json"⟩)⟩, GatewayService.twoEvents]

/-- They are answered one after another; another task drains an event before the last answer. -/
def mixedRun : (StreamState.system wrappingService mixedBatches).Execution :=
  (System.Execution.initial rfl : (StreamState.system wrappingService mixedBatches).Execution)
    |>.snoc (.own (.receive rfl rfl))
    |>.snoc (.own (.send rfl))
    |>.snoc (.own (.receive rfl rfl))
    |>.snoc (.own (.acknowledge rfl))
    |>.snoc (.own (.send rfl))
    |>.snoc (.own (.receive rfl rfl))
    |>.snoc (.own (.push rfl))
    |>.snoc (.own (.count rfl))
    |>.snoc (.own (.acknowledge rfl))
    |>.snoc (.own (.send rfl))
    |>.snoc (.own (.receive rfl rfl))
    |>.snoc (.own (.push rfl))
    |>.snoc (.own (.count rfl))
    |>.snoc (.call _ (.drain 1))
    |>.snoc (.own (.acknowledge rfl))
    |>.snoc (.own (.send rfl))

/-- There are four answers, and three events are counted: the first one with the data of the raw
batch. -/
theorem streams_mixed :
    List.Forall₂ (StreamEvent.Answers wrappingService.registry) mixedBatches
        mixedRun.state.responses ∧
      mixedRun.state.responses.map (fun item => item.toOption.map Ack.eventIds) =
        [none, some [], some ["raw"], some ["a", "b"]] ∧
      mixedRun.trace.flatMap StreamEvent.messages =
        [⟨"raw", 0, "device", "json", ∅, [1, 2], []⟩, ⟨"a", 0, "source", "type", ∅, [], []⟩,
          ⟨"b", 0, "source", "type", ∅, [], []⟩] ∧
      mixedRun.state.service.eventsProcessed = 3 := by
  have streams := (streams wrappingService mixedBatches mixedRun).2 ⟨rfl, rfl⟩
  exact ⟨streams.answers, rfl, streams.handed, streams.processed⟩

end Polku
