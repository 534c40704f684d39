import Polku.Hub.Runner
import Polku.Middleware.Alike
import Polku.Semantics.Simulation

/-!
# Hubs which annotate

Some middlewares of a hub only annotate messages: enrichers, and validators which tag. If the
others are blind to metadata, the hub with them and the hub without them cannot be told apart
but by the metadata of what is emitted.
-/

namespace Polku

open Data Semantics Buffer

/-- An event without its metadata. -/
def Event.plain (self : Event) : Event := { self with metadata := ∅ }

/-- Messages which are alike become events which are. -/
theorem Message.plain_toEvent (self : Message) : self.plain.toEvent = self.toEvent.plain := rfl

namespace Hub

/-- Which events of a batch go to an emitter does not depend on metadata. -/
theorem slice_plain (events : List Event) (name : String) :
    (slice events name).map (List.map Event.plain) = slice (events.map Event.plain) name := by
  have routed : (routedEvents events name).map Event.plain =
      routedEvents (events.map Event.plain) name := by
    rw [routedEvents, routedEvents, List.filter_map]
    rfl
  rw [slice, slice, ← routed]
  cases routedEvents events name <;> rfl

/-- Batches which differ in metadata are cut into slices which do. -/
theorem slice_plain_congr {events events' : List Event}
    (same : events.map Event.plain = events'.map Event.plain) (name : String) :
    (slice events name).map (List.map Event.plain) =
      (slice events' name).map (List.map Event.plain) := by
  rw [slice_plain, same, ← slice_plain]

end Hub

/-- Where two receive loops are which differ in the metadata of what they push at most. -/
def Receiver.Alike : Receiver → Receiver → Prop
  | .pushing msg, other => ∃ msg', other = .pushing msg' ∧ msg.Alike msg'
  | phase, other => other = phase

/-- Where two flush loops are which differ in the metadata of what they emit at most. -/
def Flusher.Alike : Flusher → Flusher → Prop
  | .measuring messages, other => ∃ messages', other = .measuring messages' ∧
      messages.map Message.plain = messages'.map Message.plain
  | .emitting events next, other => ∃ events', other = .emitting events' next ∧
      events.map Event.plain = events'.map Event.plain
  | phase, other => other = phase

/-- What a step did, without the metadata of what was processed. -/
def HubEvent.plain : HubEvent → HubEvent
  | .processed result => .processed (result.map Message.plain)
  | .pushed msg => .pushed msg.plain
  | .drained messages => .drained (messages.map Message.plain)
  | .offered emitter events succeeded => .offered emitter (events.map Event.plain) succeeded
  | event => event

/-- Two hubs which differ by middlewares which annotate at most. -/
structure Hub.Alike (first second : Hub) : Prop where
  bufferCapacity : first.bufferCapacity = second.bufferCapacity
  batchSize : first.batchSize = second.batchSize
  emitters : first.emitters = second.emitters
  middleware : MiddlewareChain.Alike first.middleware.middlewares second.middleware.middlewares

namespace HubState

/-- Two states which differ in metadata, and in what the middlewares know, at most. -/
structure Alike (first second : HubState) : Prop where
  channel : first.channel = second.channel
  closed : first.closed = second.closed
  receiver : first.receiver.Alike second.receiver
  middleware : MiddlewareChain.Alike first.middleware.middlewares second.middleware.middlewares
  shutdown : first.shutdown = second.shutdown
  buffer : first.buffer.map Message.plain = second.buffer.map Message.plain
  flusher : first.flusher.Alike second.flusher
  metrics : first.metrics = second.metrics

/-- What is counted of events which were emitted does not depend on their metadata. -/
theorem recordEmit_plain (metrics : Metrics) (name : String) (events : List Event)
    (succeeded : Bool) :
    recordEmit metrics name (events.map Event.plain) succeeded =
      recordEmit metrics name events succeeded := by
  rw [recordEmit, recordEmit, List.foldl_map, List.length_map]
  rfl

/-- Chains which are alike answer to the same message alike. -/
theorem Alike.process {self other : HubState} (alike : self.Alike other) (msg : Message) :
    ∃ result middleware, other.middleware.process msg = (result, middleware) ∧
      AlikeResults (self.middleware.process msg).1 result ∧
      MiddlewareChain.Alike (self.middleware.process msg).2.middlewares middleware.middlewares :=
  ⟨_, _, rfl, alike.middleware.processAll (.refl msg)⟩

/-- Buffers which are alike hold equally many messages. -/
theorem Alike.len {self other : HubState} (alike : self.Alike other) :
    self.buffer.len = other.buffer.len := by
  simpa [RingBuffer.map, RingBuffer.len] using congrArg RingBuffer.len alike.buffer

/-- Buffers which are alike are both empty or both not. -/
theorem Alike.isEmpty {self other : HubState} (alike : self.Alike other) :
    self.buffer.isEmpty = other.buffer.isEmpty := by
  simpa [RingBuffer.map, RingBuffer.isEmpty] using congrArg RingBuffer.isEmpty alike.buffer

variable {hub hub' : Hub} {self other next : HubState} {event : HubEvent}

/-- A step of the senders of one hub is one of the other. -/
theorem SenderStep.alike (alike : self.Alike other) (step : SenderStep self event next) :
    ∃ event' next', SenderStep other event' next' ∧ event.plain = event'.plain ∧
      next.Alike next' := by
  cases step with
  | send msg isOpen room =>
      exact ⟨_, _, .send msg (alike.closed ▸ isOpen) (alike.channel ▸ room), rfl,
        { alike with channel := congrArg (· ++ [msg]) alike.channel }⟩
  | close isOpen => exact ⟨_, _, .close (alike.closed ▸ isOpen), rfl, { alike with closed := rfl }⟩

/-- A step of the receive loop of one hub is one of the other. -/
theorem ReceiverStep.alike (alike : self.Alike other) (step : ReceiverStep self event next) :
    ∃ event' next', ReceiverStep other event' next' ∧ event.plain = event'.plain ∧
      next.Alike next' := by
  have samePhase := alike.receiver
  cases step with
  | @receive msg rest phase first =>
      rw [phase] at samePhase
      refine ⟨_, _, .receive samePhase (alike.channel ▸ first), rfl, ?_⟩
      exact { alike with
        channel := rfl
        receiver := rfl
        metrics := congrArg (Option.map (·.recordReceived msg.source msg.messageType 1))
          alike.metrics }
  | finish phase empty isClosed =>
      rw [phase] at samePhase
      exact ⟨_, _, .finish samePhase (alike.channel ▸ empty) (alike.closed ▸ isClosed), rfl,
        { alike with receiver := rfl }⟩
  | @filter msg middleware phase dropped =>
      rw [phase] at samePhase
      obtain ⟨result', middleware', processed, result, still⟩ := alike.process msg
      rw [dropped] at result still
      obtain rfl : result' = none := by cases result; rfl
      refine ⟨_, _, .filter samePhase processed, rfl, ?_⟩
      exact { alike with
        receiver := rfl
        middleware := still
        metrics := congrArg (Option.map (·.recordDropped "middleware_filtered" 1)) alike.metrics }
  | @pass msg result middleware phase passed =>
      rw [phase] at samePhase
      obtain ⟨result', middleware', processed, results, still⟩ := alike.process msg
      rw [passed] at results still
      obtain ⟨result', rfl, same⟩ : ∃ msg', result' = some msg' ∧ result.Alike msg' := by
        cases results with
        | some same => exact ⟨_, rfl, same⟩
      refine ⟨_, _, .pass samePhase processed, ?_, ?_⟩
      · exact congrArg (fun msg => HubEvent.processed (some msg)) same
      · exact { alike with receiver := ⟨result', rfl, same⟩, middleware := still }
  | @push msg dropped buffer phase pushed =>
      rw [phase] at samePhase
      obtain ⟨msg', phase', same⟩ := samePhase
      obtain ⟨sameDrops, sameBuffer⟩ := @RingBuffer.push_congr _ _ Message.plain _ _ alike.buffer
        [msg] [msg'] (congrArg (fun msg => [msg]) same)
      rcases pushed' : other.buffer.push [msg'] with ⟨dropped', buffer'⟩
      rw [pushed, pushed'] at sameDrops sameBuffer
      obtain rfl : dropped = dropped' := sameDrops
      refine ⟨_, _, .push phase' pushed', congrArg HubEvent.pushed same, ?_⟩
      exact { alike with
        receiver := rfl
        buffer := sameBuffer
        metrics := congrArg (Option.map _) alike.metrics }
  | signal phase =>
      rw [phase] at samePhase
      exact ⟨_, _, .signal samePhase, rfl, { alike with receiver := rfl, shutdown := rfl }⟩
  | join phase exited =>
      rw [phase] at samePhase
      have sameFlusher := alike.flusher
      rw [exited] at sameFlusher
      exact ⟨_, _, .join samePhase sameFlusher, rfl, { alike with receiver := rfl }⟩

/-- A step of the flush loop of one hub is one of the other. -/
theorem FlusherStep.alike (hubs : hub.Alike hub') (alike : self.Alike other)
    (step : FlusherStep hub self event next) :
    ∃ event' next', FlusherStep hub' other event' next' ∧ event.plain = event'.plain ∧
      next.Alike next' := by
  have samePhase := alike.flusher
  cases step with
  | checkShutdown phase =>
      rw [phase] at samePhase
      refine ⟨_, _, .checkShutdown samePhase, rfl, { alike with flusher := ?_ }⟩
      rw [alike.shutdown]
      split <;> rfl
  | checkEmpty phase =>
      rw [phase] at samePhase
      refine ⟨_, _, .checkEmpty samePhase, rfl, { alike with flusher := ?_ }⟩
      rw [alike.isEmpty]
      split <;> rfl
  | wake phase =>
      rw [phase] at samePhase
      exact ⟨_, _, .wake samePhase, rfl, { alike with flusher := rfl }⟩
  | @drain messages buffer phase drained =>
      rw [phase] at samePhase
      obtain ⟨sameMessages, sameBuffer⟩ := RingBuffer.drain_congr alike.buffer hub.batchSize
      rcases drained' : other.buffer.drain hub.batchSize with ⟨messages', buffer'⟩
      rw [drained, drained'] at sameMessages sameBuffer
      rw [hubs.batchSize] at drained'
      refine ⟨_, _, .drain samePhase drained', congrArg HubEvent.drained sameMessages, ?_⟩
      exact { alike with buffer := sameBuffer, flusher := ⟨messages', rfl, sameMessages⟩ }
  | @measure messages phase =>
      rw [phase] at samePhase
      obtain ⟨messages', phase', same⟩ := samePhase
      refine ⟨_, _, .measure phase', rfl, { alike with flusher := ?_, metrics := ?_ }⟩
      · have sameEvents : (messages.map Message.toEvent).map Event.plain =
            (messages'.map Message.toEvent).map Event.plain := by
          have comm : Event.plain ∘ Message.toEvent = Message.toEvent ∘ Message.plain :=
            funext fun msg => msg.plain_toEvent.symm
          rw [List.map_map, List.map_map, comm, ← List.map_map, same, List.map_map]
        have sameEmpty : messages.isEmpty = messages'.isEmpty := by
          simpa using congrArg List.isEmpty same
        rw [sameEmpty]
        split
        · rfl
        · exact ⟨_, rfl, sameEvents⟩
      · rw [alike.metrics, alike.len]
  | @skip events position name phase emitter empty =>
      rw [phase] at samePhase
      obtain ⟨events', phase', same⟩ := samePhase
      have sliced := Hub.slice_plain_congr same name
      rw [empty] at sliced
      exact ⟨_, _, .skip phase' (hubs.emitters ▸ emitter) (Option.map_eq_none_iff.mp sliced.symm),
        rfl, { alike with flusher := ⟨events', rfl, same⟩ }⟩
  | @offer events position name routed succeeded phase emitter sliced =>
      rw [phase] at samePhase
      obtain ⟨events', phase', same⟩ := samePhase
      have slices := Hub.slice_plain_congr same name
      rw [sliced] at slices
      obtain ⟨routed', sliced', sameRouted⟩ := Option.map_eq_some_iff.mp slices.symm
      refine ⟨_, _, .offer succeeded phase' (hubs.emitters ▸ emitter) sliced', ?_, ?_⟩
      · exact congrArg (HubEvent.offered position · succeeded) sameRouted.symm
      · have sameCounts : (recordEmit · name routed succeeded) =
            (recordEmit · name routed' succeeded) := by
          funext metrics
          rw [← recordEmit_plain, ← sameRouted, recordEmit_plain]
        refine { alike with flusher := ⟨events', rfl, same⟩, metrics := ?_ }
        rw [← sameCounts]
        exact congrArg (Option.map _) alike.metrics
  | finish phase last =>
      rw [phase] at samePhase
      obtain ⟨events', phase', -⟩ := samePhase
      exact ⟨_, _, .finish phase' (hubs.emitters ▸ last), rfl, { alike with flusher := rfl }⟩

/-- Two hubs which differ by middlewares which annotate simulate one another. -/
theorem simulates (hubs : hub.Alike hub') :
    System.Simulates (system hub) (system hub') Alike
      fun event event' => event.plain = event'.plain := by
  refine ⟨?_, ?_⟩
  · rintro _ ⟨metrics, rfl⟩
    refine ⟨start hub' metrics, ⟨metrics, rfl⟩, ⟨rfl, rfl, rfl, hubs.middleware, rfl, ?_, rfl, ?_⟩⟩
    · rw [start, start, hubs.bufferCapacity]
    · rw [start, start, hubs.bufferCapacity]
  · intro self other event next alike step
    cases step with
    | sender step =>
        obtain ⟨event', next', step', looks, still⟩ := step.alike alike
        exact ⟨event', next', .sender step', looks, still⟩
    | receiver step =>
        obtain ⟨event', next', step', looks, still⟩ := step.alike alike
        exact ⟨event', next', .receiver step', looks, still⟩
    | flusher step =>
        obtain ⟨event', next', step', looks, still⟩ := step.alike hubs alike
        exact ⟨event', next', .flusher step', looks, still⟩

end HubState

/-! ## Chains which annotate -/

/-- A middleware which only annotates messages, or one which is blind to metadata. -/
inductive AnnotatingStage where
  | enriching (enricher : Enricher)
  | tagging (validator : Validator) (tags : validator.onInvalid = .tag)
  | blind (middleware : Middleware) (isBlind : middleware.Blind)

namespace AnnotatingStage

/-- The middleware of a stage. -/
def middleware : AnnotatingStage → Middleware
  | enriching enricher => enricher.middleware
  | tagging validator _ => validator.middleware
  | blind middleware _ => middleware

/-- The middleware of a stage, if it does more than annotate. -/
def essential : AnnotatingStage → Option Middleware
  | enriching _ => none
  | tagging _ _ => none
  | blind middleware _ => some middleware

/-- Stages which only annotate can be left out. -/
theorem alike_essential (stages : List AnnotatingStage) :
    MiddlewareChain.Alike (stages.map middleware) (stages.filterMap essential) := by
  induction stages with
  | nil => exact .nil
  | cons stage stages inductionHypothesis =>
      cases stage with
      | enriching enricher => exact .left enricher.passes inductionHypothesis
      | tagging validator tags => exact .left (validator.passes tags) inductionHypothesis
      | blind middleware isBlind => exact .both isBlind inductionHypothesis

end AnnotatingStage

namespace HubHistory

/-- What was sent is what is seen of it. -/
theorem sent_plain (trace : List HubEvent) : sent (trace.map HubEvent.plain) = sent trace := by
  rw [sent, List.filterMap_map, sent]
  congr 1
  funext event
  cases event <;> rfl

/-- What is seen of a slice has no metadata. -/
theorem slices_plain (emitter : Nat) (trace : List HubEvent) :
    slices emitter (trace.map HubEvent.plain) =
      (slices emitter trace).map (List.map Event.plain) := by
  rw [slices, slices, List.filterMap_map, List.map_filterMap]
  congr 1
  funext event
  cases event with
  | offered position events succeeded =>
      simp only [Function.comp_apply, HubEvent.plain, HubEvent.slice]
      split <;> rfl
  | _ => rfl

end HubHistory

namespace Hub

open HubHistory

/-- Two runs which cannot be told apart but by metadata. -/
structure AlikeRuns (trace : List HubEvent) (state : HubState) (trace' : List HubEvent)
    (state' : HubState) : Prop where
  /-- Each step does the same, but for metadata. -/
  steps : trace.map HubEvent.plain = trace'.map HubEvent.plain
  sent : sent trace = sent trace'
  /-- Each emitter is offered the same slices, but for metadata. -/
  slices : ∀ emitter, (slices emitter trace).map (List.map Event.plain) =
    (slices emitter trace').map (List.map Event.plain)
  metrics : state.metrics = state'.metrics

/-- Runs of hubs which differ by middlewares which annotate look alike. -/
theorem Alike.runs {first second : Hub} (alike : first.Alike second) {trace : List HubEvent}
    {state : HubState} (run : (HubState.system first).Runs trace state) :
    ∃ trace' state', (HubState.system second).Runs trace' state' ∧
      AlikeRuns trace state trace' state' := by
  obtain ⟨trace', state', run', looksLike, still⟩ := (HubState.simulates alike).runs run
  have steps : trace.map HubEvent.plain = trace'.map HubEvent.plain := by
    rw [← List.forall₂_eq_eq_eq, List.forall₂_map_left_iff, List.forall₂_map_right_iff]
    exact looksLike
  refine ⟨trace', state', run', steps, ?_, ?_, still.metrics⟩
  · rw [← sent_plain, steps, sent_plain]
  · intro emitter
    rw [← slices_plain, steps, slices_plain]

variable (hub : Hub) (stages : List AnnotatingStage)

/-- A hub with some stages. -/
def annotating : Hub := { hub with middleware := ⟨stages.map AnnotatingStage.middleware⟩ }

/-- A hub with those of some stages which do more than annotate. -/
def essential : Hub :=
  { hub with middleware := ⟨stages.filterMap AnnotatingStage.essential⟩ }

/-- Stages which annotate change nothing but metadata: in whatever order the steps of senders
and of the hub come, each run of a hub with them looks like a run of the hub without them, and
each run of the hub without them like a run with them. -/
theorem annotating_changes_metadata_only :
    (∀ {trace state}, (HubState.system (hub.annotating stages)).Runs trace state →
      ∃ trace' state', (HubState.system (hub.essential stages)).Runs trace' state' ∧
        AlikeRuns trace state trace' state') ∧
    ∀ {trace state}, (HubState.system (hub.essential stages)).Runs trace state →
      ∃ trace' state', (HubState.system (hub.annotating stages)).Runs trace' state' ∧
        AlikeRuns trace state trace' state' := by
  have alike := AnnotatingStage.alike_essential stages
  have forth : (hub.annotating stages).Alike (hub.essential stages) := ⟨rfl, rfl, rfl, alike⟩
  have back : (hub.essential stages).Alike (hub.annotating stages) := ⟨rfl, rfl, rfl, alike.symm⟩
  exact ⟨forth.runs, back.runs⟩

/-- The region of a deployment, as metadata. -/
private def region : Enrichment where
  metadata := Finmap.singleton "region" "north"
  order :=
    { entries := [("region", "north")]
      nodup := List.nodup_singleton _
      mem_iff := by
        rintro ⟨key, value⟩
        rw [List.mem_singleton, Prod.mk.injEq]
        by_cases same : key = "region"
        · subst same
          simp [Finmap.lookup_singleton_eq, eq_comm]
        · have absent : key ∉ (Finmap.singleton "region" "north" : HashMap String String) := by
            rwa [Finmap.mem_singleton]
          simp [same, Finmap.lookup_eq_none.mpr absent] }

/-- A filter which drops messages without a source looks at no metadata. -/
private theorem sourced_blind :
    (Stage.filter ⟨fun msg => !msg.source.isEmpty⟩).middleware.Blind := by
  apply Filter.blind
  intro msg msg' same
  simp only [(Message.alike_iff.mp same).2.2.1]

/-- Add the region, tag empty payloads, and drop what has no source. -/
private def regional : List AnnotatingStage :=
  [.enriching (.withStatic region), .tagging (Validator.nonEmpty.withOnInvalid .tag) rfl,
    .blind _ sourced_blind]

/-- A message without a payload. -/
private def bare : Message := .withId "1" 0 "sensor" "reading" []

/-- The message with its region and a tag. -/
private def noted : Message :=
  Validator.tag { bare with metadata := Enricher.enrich ∅ region } "empty payload"

/-- A hub with one emitter. -/
private def printing : Hub := { Hub.new with bufferCapacity := 1, emitters := ["stdout"] }

/-- It annotates a message and emits it. -/
private def regionalRun : (HubState.system (printing.annotating regional)).Execution :=
  (System.Execution.initial ⟨none, rfl⟩ :
      (HubState.system (printing.annotating regional)).Execution)
    |>.snoc (.sender (.send bare rfl (by decide)))
    |>.snoc (.receiver (.receive rfl rfl))
    |>.snoc (.receiver (.pass rfl rfl))
    |>.snoc (.receiver (.push rfl rfl))
    |>.snoc (.flusher (.checkShutdown rfl))
    |>.snoc (.flusher (.wake rfl))
    |>.snoc (.flusher (.drain rfl rfl))
    |>.snoc (.flusher (.measure rfl))
    |>.snoc (.flusher (.offer true rfl rfl rfl))

/-- The hub without the annotations does the same, and emits the bare message. -/
theorem annotating_changes_metadata_only_regional :
    ∃ state trace' state',
      (HubState.system (printing.essential regional)).Runs trace' state' ∧
        AlikeRuns [.sent bare, .received bare, .processed (some noted), .pushed noted,
          .checkedShutdown, .woken, .drained [noted], .measured,
          .offered 0 [noted.toEvent] true] state trace' state' ∧
        (slices 0 trace').map (List.map Event.plain) =
          [[⟨"1", 0, "sensor", "reading", ∅, [], []⟩]] := by
  obtain ⟨trace', state', run, alike⟩ :=
    (annotating_changes_metadata_only printing regional).1 regionalRun.runs
  exact ⟨_, trace', state', run, alike, (alike.slices 0).symm⟩

end Hub

end Polku
