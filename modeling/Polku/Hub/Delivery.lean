import Polku.Hub.Runner

/-!
# End-to-end delivery

Four invariants follow a message through the hub: from the channel through the
middleware to the buffer, through the buffer into a drained batch, and from the
batch to the emitters; and the flush loop exits only after the last push, with
the buffer empty. Together they say what each emitter has been offered when the
hub returns.
-/

namespace Polku

open Data Semantics Buffer HubHistory

namespace Hub

variable {hub : Hub} {trace : List HubEvent} {machine next : HubState} {event : HubEvent}

/-! ## From the channel to the buffer -/

/-- The message which is being processed. -/
def input : Receiver → List Message
  | .processing msg => [msg]
  | _ => []

/-- The message which has passed the middleware and is not yet pushed. -/
def output : Receiver → List Message
  | .pushing msg => [msg]
  | _ => []

/-- What was sent has been processed, is being processed or waits in the channel,
and what survived has been pushed or is about to be. -/
def Receives (hub : Hub) (trace : List HubEvent) (machine : HubState) : Prop :=
  ∃ processed, sent trace = processed ++ input machine.receiver ++ machine.channel ∧
    machine.middleware = (hub.middleware.processEach processed).2 ∧
    hub.middleware.survivors processed =
      handed (bufferCalls hub trace) ++ output machine.receiver

/-- One more message is processed. -/
theorem survivors_snoc (chain : MiddlewareChain) (processed : List Message) (msg : Message) :
    chain.survivors (processed ++ [msg]) =
      chain.survivors processed ++
        ((chain.processEach processed).2.process msg).1.toList := by
  rw [MiddlewareChain.survivors, MiddlewareChain.processEach_snoc, List.reduceOption_append]
  cases ((chain.processEach processed).2.process msg).1 <;> rfl

/-- The calls of an event are handed over last. -/
theorem handed_snoc :
    handed (bufferCalls hub (trace ++ [event])) =
      handed (bufferCalls hub trace) ++
        (event.bufferCall hub.batchSize).toList.flatMap BufferCall.handed := by
  simp [handed]

/-- A step keeps track if it sends nothing, pushes nothing and processes nothing. -/
private theorem Receives.idle (holds : Receives hub trace machine)
    (noSend : event.sentMessage = none)
    (noPush : (event.bufferCall hub.batchSize).toList.flatMap BufferCall.handed = [])
    (middleware : next.middleware = machine.middleware)
    (waiting : input next.receiver ++ next.channel = input machine.receiver ++ machine.channel)
    (ready : output next.receiver = output machine.receiver) :
    Receives hub (trace ++ [event]) next := by
  obtain ⟨processed, sentSoFar, chain, survived⟩ := holds
  refine ⟨processed, ?_, middleware.trans chain, ?_⟩
  · simpa [noSend, waiting] using sentSoFar
  · rw [handed_snoc, noPush, ready, List.append_nil]
    exact survived

/-- Every step keeps track of the messages up to the buffer. -/
theorem Receives.step (holds : Receives hub trace machine)
    (transition : HubState.Step hub machine event next) : Receives hub (trace ++ [event]) next := by
  have ⟨processed, sentSoFar, chain, survived⟩ := holds
  cases transition with
  | flusher step =>
      obtain ⟨channel, -, receiver, middleware, -, noSend, noPush⟩ := step.frame
      apply holds.idle noSend noPush middleware
      · rw [channel, receiver]
      · rw [receiver]
  | sender step =>
      cases step with
      | send msg isOpen room =>
          refine ⟨processed, ?_, chain, ?_⟩
          · simp [sentSoFar, HubEvent.sentMessage]
          · simpa [HubEvent.bufferCall] using survived
      | close isOpen => exact holds.idle rfl rfl rfl rfl rfl
  | receiver step =>
      cases step with
      | receive phase waiting =>
          refine holds.idle rfl rfl rfl ?_ ?_
          · simp [phase, waiting, input]
          · simp [phase, output]
      | finish phase none isClosed =>
          refine holds.idle rfl rfl rfl ?_ ?_
          · simp [phase, input]
          · simp [phase, output]
      | @filter msg middleware phase dropped =>
          rw [chain] at dropped
          refine ⟨processed ++ [msg], ?_, ?_, ?_⟩
          · simpa [HubEvent.sentMessage, phase, input] using sentSoFar
          · simp [MiddlewareChain.processEach_snoc, dropped]
          · simpa [survivors_snoc, dropped, HubEvent.bufferCall, phase, output] using survived
      | @pass msg result middleware phase passed =>
          rw [chain] at passed
          refine ⟨processed ++ [msg], ?_, ?_, ?_⟩
          · simpa [HubEvent.sentMessage, phase, input] using sentSoFar
          · simp [MiddlewareChain.processEach_snoc, passed]
          · simpa [survivors_snoc, passed, HubEvent.bufferCall, phase, output] using survived
      | push phase pushed =>
          refine ⟨processed, ?_, chain, ?_⟩
          · simpa [HubEvent.sentMessage, phase, input] using sentSoFar
          · rw [handed_snoc]
            simpa [HubEvent.bufferCall, BufferCall.handed, phase, output] using survived
      | signal phase =>
          refine holds.idle rfl rfl rfl ?_ ?_
          · simp [phase, input]
          · simp [phase, output]
      | join phase done =>
          refine holds.idle rfl rfl rfl ?_ ?_
          · simp [phase, input]
          · simp [phase, output]

/-! ## Through the buffer -/

/-- The buffer is what its calls make of it, and the drained batches are what
left it by draining, in order. -/
structure Buffers (hub : Hub) (trace : List HubEvent) (machine : HubState) : Prop where
  buffer : machine.buffer = ((RingBuffer.new hub.bufferCapacity).replay (bufferCalls hub trace)).2
  drained : (batches trace).flatten =
    ((RingBuffer.new hub.bufferCapacity).ledger (bufferCalls hub trace)).departedFor (· == .drained)
  sizes : ∀ batch ∈ batches trace, batch.length ≤ hub.batchSize

/-- A step which makes no call on the buffer keeps its account. -/
private theorem Buffers.idle (holds : Buffers hub trace machine)
    (same : next.buffer = machine.buffer)
    (noCall : event.bufferCall hub.batchSize = none) (noBatch : event.batch = none) :
    Buffers hub (trace ++ [event]) next where
  buffer := by simpa [noCall, same] using holds.buffer
  drained := by simpa [noCall, noBatch] using holds.drained
  sizes := by simpa [noBatch] using holds.sizes

/-- A push drains nothing. -/
private theorem Buffers.push (holds : Buffers hub trace machine) {msg : Message} {dropped : Nat}
    (pushed : machine.buffer.push [msg] = (dropped, next.buffer)) :
    Buffers hub (trace ++ [.pushed msg]) next where
  buffer := by
    simp [HubEvent.bufferCall, RingBuffer.replay_append, ← holds.buffer, RingBuffer.call, pushed]
  drained := by
    have none : ∀ evictions : List (Eviction Message),
        (evictions.map fun eviction => (Departure.evicted, eviction.message)).filter
          (fun departure => departure.1 == .drained) = [] := by
      intro evictions
      simp [List.filter_map, Function.comp_def]
    simp [HubEvent.bufferCall, HubEvent.batch, RingBuffer.ledger_snoc, Ledger.departedFor,
      RingBuffer.call, Outcome.departed, holds.drained, none]
  sizes := by simpa [HubEvent.batch] using holds.sizes

/-- A drain adds its batch. -/
private theorem Buffers.drain (holds : Buffers hub trace machine) {messages : List Message}
    (drained : machine.buffer.drain hub.batchSize = (messages, next.buffer)) :
    Buffers hub (trace ++ [.drained messages]) next where
  buffer := by
    simp [HubEvent.bufferCall, RingBuffer.replay_append, ← holds.buffer, RingBuffer.call, drained]
  drained := by
    simp [HubEvent.bufferCall, HubEvent.batch, RingBuffer.ledger_snoc, Ledger.departedFor,
      RingBuffer.call, Outcome.departed, holds.drained, ← holds.buffer, drained,
      List.filter_map, Function.comp_def]
  sizes := by
    have size := machine.buffer.drain_length hub.batchSize
    simp only [drained] at size
    intro batch member
    rw [batches_snoc] at member
    rcases List.mem_append.mp member with earlier | latest
    · exact holds.sizes batch earlier
    · obtain rfl : batch = messages := by simpa [HubEvent.batch] using latest
      omega

/-- Every step keeps the account of the buffer. -/
theorem Buffers.step (holds : Buffers hub trace machine)
    (transition : HubState.Step hub machine event next) : Buffers hub (trace ++ [event]) next := by
  cases transition with
  | sender step =>
      obtain ⟨-, -, -, buffer, -, noCall, noBatch, -⟩ := step.frame hub
      exact holds.idle buffer noCall noBatch
  | receiver step =>
      cases step with
      | push phase pushed => exact holds.push pushed
      | receive phase waiting => exact holds.idle rfl rfl rfl
      | finish phase none isClosed => exact holds.idle rfl rfl rfl
      | filter phase dropped => exact holds.idle rfl rfl rfl
      | pass phase passed => exact holds.idle rfl rfl rfl
      | signal phase => exact holds.idle rfl rfl rfl
      | join phase done => exact holds.idle rfl rfl rfl
  | flusher step =>
      cases step with
      | drain phase drained => exact holds.drain drained
      | checkShutdown phase => exact holds.idle rfl rfl rfl
      | checkEmpty phase => exact holds.idle rfl rfl rfl
      | wake phase => exact holds.idle rfl rfl rfl
      | measure phase => exact holds.idle rfl rfl rfl
      | skip phase emitter none => exact holds.idle rfl rfl rfl
      | offer succeeded phase emitter some => exact holds.idle rfl rfl rfl
      | finish phase last => exact holds.idle rfl rfl rfl

/-! ## From a batch to the emitters -/

/-- The slice which the emitter at a position has yet to be offered. -/
def pending (emitter : Nat) (name : String) : Flusher → List (List Event)
  | .measuring messages => (slice (messages.map Message.toEvent) name).toList
  | .emitting events next => if next ≤ emitter then (slice events name).toList else []
  | _ => []

/-- Each emitter has been offered its slice of every batch, but for the last one. -/
def Offers (hub : Hub) (trace : List HubEvent) (machine : HubState) : Prop :=
  ∀ emitter name, hub.emitters[emitter]? = some name →
    slices emitter trace ++ pending emitter name machine.flusher =
      (batches trace).filterMap fun batch => slice (batch.map Message.toEvent) name

/-- Every step keeps track of what the emitters have been offered. -/
theorem Offers.step (holds : Offers hub trace machine)
    (transition : HubState.Step hub machine event next) : Offers hub (trace ++ [event]) next := by
  intro emitter name isEmitter
  have before := holds emitter name isEmitter
  cases transition with
  | sender step =>
      obtain ⟨-, -, -, -, flusher, -, noBatch, noSlice⟩ := step.frame hub
      simpa [flusher, noBatch, noSlice] using before
  | receiver step =>
      obtain ⟨flusher, -, -, noBatch, noSlice⟩ := step.frame
      simpa [flusher, noBatch, noSlice] using before
  | flusher step =>
      cases step with
      | checkShutdown phase =>
          cases flag : machine.shutdown <;>
            simpa [HubEvent.batch, HubEvent.slice, phase, pending, flag] using before
      | checkEmpty phase =>
          cases empty : machine.buffer.isEmpty <;>
            simpa [HubEvent.batch, HubEvent.slice, phase, pending, empty] using before
      | wake phase => simpa [HubEvent.batch, HubEvent.slice, phase, pending] using before
      | @drain messages buffer phase drained =>
          have grown : batches (trace ++ [.drained messages]) = batches trace ++ [messages] := by
            simp [HubEvent.batch]
          rw [grown, filterMap_snoc, ← before, phase]
          simp [HubEvent.slice, pending]
      | @measure messages phase =>
          rw [phase] at before
          cases messages with
          | nil => simpa [HubEvent.batch, HubEvent.slice, pending, slice, routedEvents] using before
          | cons first rest => simpa [HubEvent.batch, HubEvent.slice, pending] using before
      | @skip events position other phase isNext none =>
          rw [phase] at before
          by_cases same : position = emitter
          · subst same
            obtain rfl : name = other := Option.some.inj (isEmitter.symm.trans isNext)
            simpa [HubEvent.batch, HubEvent.slice, pending, none] using before
          · have still : position + 1 ≤ emitter ↔ position ≤ emitter := by omega
            simpa [HubEvent.batch, HubEvent.slice, pending, still] using before
      | @offer events position other routed succeeded phase isNext some =>
          rw [phase] at before
          by_cases same : position = emitter
          · subst same
            obtain rfl : name = other := Option.some.inj (isEmitter.symm.trans isNext)
            simpa [HubEvent.batch, HubEvent.slice, pending, some] using before
          · have still : position + 1 ≤ emitter ↔ position ≤ emitter := by omega
            simpa [HubEvent.batch, HubEvent.slice, pending, still, same] using before
      | @finish events position phase last =>
          rw [phase] at before
          have allOffered : ¬ position ≤ emitter := fun within => by
            have bound := (List.getElem?_eq_some_iff.mp isEmitter).1
            omega
          simpa [HubEvent.batch, HubEvent.slice, pending, allOffered] using before

/-! ## Shutting down -/

/-- The receive loop signals only when nothing is left to push, and the flush loop
exits only after the signal, with the buffer empty. -/
structure ShutsDown (machine : HubState) : Prop where
  drainedChannel : machine.receiver = .closing ∨ machine.receiver = .joining ∨
    machine.receiver = .returned → machine.closed = true ∧ machine.channel = []
  signalled : machine.shutdown = true ↔
    machine.receiver = .joining ∨ machine.receiver = .returned
  checkingEmpty : machine.flusher = .checkingEmpty → machine.shutdown = true
  exited : machine.flusher = .exited → machine.shutdown = true ∧ machine.buffer.messages = []
  returned : machine.receiver = .returned → machine.flusher = .exited

/-- The receive loop has not ended yet. -/
def busy : Receiver → Bool
  | .receiving | .processing _ | .pushing _ => true
  | .closing | .joining | .returned => false

private theorem busy_ne {receiver : Receiver} (isBusy : busy receiver = true) :
    receiver ≠ .closing ∧ receiver ≠ .joining ∧ receiver ≠ .returned := by
  refine ⟨?_, ?_, ?_⟩ <;> rintro rfl <;> cases isBusy

/-- While the receive loop is busy the flag is down. -/
private theorem ShutsDown.unsignalled (holds : ShutsDown machine)
    (isBusy : busy machine.receiver = true) : machine.shutdown = false := by
  obtain ⟨-, notJoining, notReturned⟩ := busy_ne isBusy
  simpa [notJoining, notReturned] using holds.signalled

/-- While the receive loop is busy, the flush loop does not exit. -/
private theorem ShutsDown.busy (holds : ShutsDown machine)
    (wasBusy : busy machine.receiver = true) (isBusy : busy next.receiver = true)
    (shutdown : next.shutdown = machine.shutdown) (flusher : next.flusher = machine.flusher) :
    ShutsDown next := by
  obtain ⟨notClosing, notJoining, notReturned⟩ := busy_ne isBusy
  have down := holds.unsignalled wasBusy
  refine ⟨?_, ?_, ?_, ?_, fun phase => absurd phase notReturned⟩
  · simp [notClosing, notJoining, notReturned]
  · simp [shutdown, down, notJoining, notReturned]
  · intro phase
    rw [shutdown]
    exact holds.checkingEmpty (flusher ▸ phase)
  · intro phase
    have up := (holds.exited (flusher ▸ phase)).1
    rw [down] at up
    cases up

/-- While the flush loop runs, `HubRunner::run` does not return. -/
private theorem ShutsDown.flushing (holds : ShutsDown machine)
    (step : HubState.FlusherStep hub machine event next) (running : machine.flusher ≠ .exited)
    (checks : next.flusher = .checkingEmpty → machine.shutdown = true)
    (exits : next.flusher = .exited → machine.shutdown = true ∧ next.buffer.messages = []) :
    ShutsDown next := by
  obtain ⟨channel, closed, receiver, -, shutdown, -, -⟩ := step.frame
  refine ⟨?_, ?_, ?_, ?_, ?_⟩
  · rw [receiver, closed, channel]
    exact holds.drainedChannel
  · rw [receiver, shutdown]
    exact holds.signalled
  · rw [shutdown]
    exact checks
  · rw [shutdown]
    exact exits
  · rw [receiver]
    exact fun phase => absurd (holds.returned phase) running

/-- Every step keeps to the order of shutting down. -/
theorem ShutsDown.step (holds : ShutsDown machine)
    (transition : HubState.Step hub machine event next) : ShutsDown next := by
  cases transition with
  | sender step =>
      cases step with
      | send msg isOpen room =>
          refine ⟨fun phase => ?_, holds.signalled, holds.checkingEmpty, holds.exited,
            holds.returned⟩
          rw [(holds.drainedChannel phase).1] at isOpen
          cases isOpen
      | close isOpen =>
          exact ⟨fun phase => ⟨rfl, (holds.drainedChannel phase).2⟩, holds.signalled,
            holds.checkingEmpty, holds.exited, holds.returned⟩
  | receiver step =>
      cases step with
      | receive phase waiting => exact holds.busy (by rw [phase]; rfl) rfl rfl rfl
      | finish phase none isClosed =>
          have unsignalled := holds.unsignalled (by rw [phase]; rfl)
          refine ⟨fun _ => ⟨isClosed, none⟩, ?_, holds.checkingEmpty, holds.exited, ?_⟩
          · simp [unsignalled]
          · simp
      | filter phase dropped => exact holds.busy (by rw [phase]; rfl) rfl rfl rfl
      | pass phase passed => exact holds.busy (by rw [phase]; rfl) rfl rfl rfl
      | push phase pushed => exact holds.busy (by rw [phase]; rfl) rfl rfl rfl
      | signal phase =>
          have empty := holds.drainedChannel (.inl phase)
          refine ⟨fun _ => empty, ?_, fun _ => rfl, fun stopped => ?_, ?_⟩
          · simp
          · exact ⟨rfl, (holds.exited stopped).2⟩
          · simp
      | join phase done =>
          have empty := holds.drainedChannel (.inr (.inl phase))
          have signalled := holds.signalled.mpr (.inl phase)
          refine ⟨fun _ => empty, ?_, holds.checkingEmpty, holds.exited, fun _ => done⟩
          simp [signalled]
  | flusher step =>
      have flushing := holds.flushing step
      cases step with
      | checkShutdown phase =>
          refine flushing (by simp [phase]) ?_ ?_ <;> cases flag : machine.shutdown <;> simp
      | checkEmpty phase =>
          apply flushing (by simp [phase])
          · cases machine.buffer.isEmpty <;> simp
          · cases empty : machine.buffer.isEmpty with
            | false => simp
            | true =>
                intro
                exact ⟨holds.checkingEmpty phase, List.isEmpty_iff.mp empty⟩
      | wake phase => exact flushing (by simp [phase]) (by simp) (by simp)
      | drain phase drained => exact flushing (by simp [phase]) (by simp) (by simp)
      | @measure messages phase =>
          refine flushing (by simp [phase]) ?_ ?_ <;> cases messages <;> simp
      | skip phase emitter none => exact flushing (by simp [phase]) (by simp) (by simp)
      | offer succeeded phase emitter some =>
          exact flushing (by simp [phase]) (by simp) (by simp)
      | finish phase last => exact flushing (by simp [phase]) (by simp) (by simp)

/-! ## Delivery -/

/-- What holds after every step of a running hub. -/
structure Delivering (hub : Hub) (trace : List HubEvent) (machine : HubState) : Prop where
  receives : Receives hub trace machine
  buffers : Buffers hub trace machine
  offers : Offers hub trace machine
  shutsDown : ShutsDown machine

/-- A hub which has taken no step has delivered nothing and owes nothing. -/
theorem Delivering.start (hub : Hub) (metrics : Option Metrics) :
    Delivering hub [] (.start hub metrics) where
  receives := ⟨[], rfl, rfl, rfl⟩
  buffers := ⟨rfl, rfl, by simp [batches]⟩
  offers := fun _ _ _ => rfl
  shutsDown := by constructor <;> simp [HubState.start]

/-- Every step of a hub delivers. -/
theorem Delivering.step (holds : Delivering hub trace machine)
    (transition : HubState.Step hub machine event next) :
    Delivering hub (trace ++ [event]) next where
  receives := holds.receives.step transition
  buffers := holds.buffers.step transition
  offers := holds.offers.step transition
  shutsDown := holds.shutsDown.step transition

/-- Every run of a hub delivers. -/
theorem Delivering.of_runs (run : (HubState.system hub).Runs trace machine) :
    Delivering hub trace machine :=
  System.Runs.history (Delivering hub)
    (fun _ ⟨metrics, initial⟩ => initial ▸ .start hub metrics)
    (fun _ holds transition => holds.step transition) run

/-- The messages which survived the middleware and were not evicted, in the order
they were sent. -/
def kept (hub : Hub) (trace : List HubEvent) : List Message :=
  ((hub.middleware.survivors (sent trace)).zipIdx.filter
    (· ∉ evictedMessages hub.bufferCapacity (bufferCalls hub trace))).map Prod.fst

/-- The same of some of the messages which were sent. -/
def keptOf (hub : Hub) (trace : List HubEvent) (processed : List Message) : List Message :=
  ((hub.middleware.survivors processed).zipIdx.filter
    (· ∉ evictedMessages hub.bufferCapacity (bufferCalls hub trace))).map Prod.fst

/-- What has been delivered when the hub returns. -/
structure Delivered (hub : Hub) (trace : List HubEvent) (machine : HubState) : Prop where
  /-- Nothing is left in the buffer. -/
  empty : machine.buffer.messages = []
  /-- Each emitter was offered each kept message routed to it, once, in order and with every
  field. -/
  offered : ∀ emitter name, hub.emitters[emitter]? = some name →
    List.Forall₂ Event.Carries (slices emitter trace).flatten
      ((kept hub trace).filter (·.shouldRouteTo name))
  /-- No slice is empty or longer than a batch. -/
  sizes : ∀ emitter name, hub.emitters[emitter]? = some name →
    ∀ events ∈ slices emitter trace, events ≠ [] ∧ events.length ≤ hub.batchSize

/-- When the hub has returned, every sent message has been processed, and what
survived has been handed to the buffer. -/
theorem Delivering.handed_eq (holds : Delivering hub trace machine)
    (returned : machine.receiver = .returned) :
    handed (bufferCalls hub trace) = hub.middleware.survivors (sent trace) := by
  obtain ⟨processed, sentSoFar, -, survived⟩ := holds.receives
  have empty := (holds.shutsDown.drainedChannel (.inr (.inr returned))).2
  have all : sent trace = processed := by simpa [returned, input, empty] using sentSoFar
  rw [all, survived, returned]
  simp [output]

/-- The drained batches are the kept messages. -/
theorem Delivering.batches_eq (holds : Delivering hub trace machine)
    (returned : machine.receiver = .returned) : (batches trace).flatten = kept hub trace := by
  have empty := (holds.shutsDown.exited (holds.shutsDown.returned returned)).2
  rw [holds.buffers.buffer] at empty
  rw [holds.buffers.drained, drained_of_empty _ _ empty, holds.handed_eq returned, kept]

/-- The emitters have been offered their slices of every batch. -/
theorem Delivering.slices_eq (holds : Delivering hub trace machine)
    (returned : machine.receiver = .returned) {emitter : Nat} {name : String}
    (isEmitter : hub.emitters[emitter]? = some name) :
    slices emitter trace =
      (batches trace).filterMap fun batch => slice (batch.map Message.toEvent) name := by
  have offers := holds.offers emitter name isEmitter
  rw [holds.shutsDown.returned returned] at offers
  simpa [pending] using offers

/-- The emitters have been offered the kept messages which are routed to them. -/
theorem Delivering.offered (holds : Delivering hub trace machine)
    (returned : machine.receiver = .returned) {emitter : Nat} {name : String}
    (isEmitter : hub.emitters[emitter]? = some name) :
    List.Forall₂ Event.Carries (slices emitter trace).flatten
      ((kept hub trace).filter (·.shouldRouteTo name)) := by
  rw [Message.forall₂_carries_iff, holds.slices_eq returned isEmitter, flatten_slices,
    holds.batches_eq returned]

/-- Whenever the hub returns, the buffer is empty, and each emitter has been
offered exactly the messages which survived the middleware, were not evicted and
are routed to it, unchanged, each once and in the order they were sent. -/
theorem hub_delivers (hub : Hub) (execution : (HubState.system hub).Execution)
    (returned : execution.state.receiver = .returned) :
    Delivered hub execution.trace execution.state := by
  have holds := Delivering.of_runs execution.runs
  refine ⟨(holds.shutsDown.exited (holds.shutsDown.returned returned)).2, ?_, ?_⟩
  · exact fun emitter name isEmitter => holds.offered returned isEmitter
  · intro emitter name isEmitter events member
    rw [holds.slices_eq returned isEmitter] at member
    obtain ⟨batch, drained, offered⟩ := List.mem_filterMap.mp member
    obtain ⟨someEvent, bounded⟩ := slice_bounds offered
    rw [List.length_map] at bounded
    exact ⟨someEvent, bounded.trans (holds.buffers.sizes batch drained)⟩

/-- A hub whose buffer holds one message. -/
def smallHub : Hub := { Hub.new with bufferCapacity := 1, emitters := ["stdout"] }

/-- A message for every emitter. -/
def broadcast (id : String) : Message := .withId id 0 "app" "created" []

/-- Two messages are sent before the first flush, so that the first one is evicted. -/
def smallRun : (HubState.system smallHub).Execution :=
  (System.Execution.initial ⟨none, rfl⟩ : (HubState.system smallHub).Execution)
    |>.snoc (.sender (.send (broadcast "a") rfl (by decide)))
    |>.snoc (.sender (.send (broadcast "b") rfl (by decide)))
    |>.snoc (.sender (.close rfl))
    |>.snoc (.receiver (.receive rfl rfl))
    |>.snoc (.receiver (.pass rfl rfl))
    |>.snoc (.receiver (.push rfl rfl))
    |>.snoc (.receiver (.receive rfl rfl))
    |>.snoc (.receiver (.pass rfl rfl))
    |>.snoc (.receiver (.push rfl rfl))
    |>.snoc (.receiver (.finish rfl rfl rfl))
    |>.snoc (.receiver (.signal rfl))
    |>.snoc (.flusher (.checkShutdown rfl))
    |>.snoc (.flusher (.checkEmpty rfl))
    |>.snoc (.flusher (.wake rfl))
    |>.snoc (.flusher (.drain rfl rfl))
    |>.snoc (.flusher (.measure rfl))
    |>.snoc (.flusher (.offer false rfl rfl rfl))
    |>.snoc (.flusher (.finish rfl (by decide)))
    |>.snoc (.flusher (.checkShutdown rfl))
    |>.snoc (.flusher (.checkEmpty rfl))
    |>.snoc (.receiver (.join rfl rfl))

/-- The run returns, and its emitter has been offered the second message. -/
theorem hub_delivers_small :
    slices 0 smallRun.trace = [[⟨"b", 0, "app", "created", ∅, [], []⟩]] ∧
      Delivered smallHub smallRun.trace smallRun.state :=
  ⟨by decide, hub_delivers smallHub smallRun rfl⟩

end Hub

end Polku
