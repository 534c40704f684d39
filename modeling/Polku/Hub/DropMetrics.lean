import Polku.Buffer.Accounting
import Polku.Hub.Delivery

/-!
# The drops a hub counts

A hub with metrics counts a drop for each message the chain answers with `none`, for
each drop which `RingBuffer::push` reports, and, under the name of the emitter, for
each event of a failed call of `emit`.
-/

namespace Polku

open Semantics Buffer HubHistory

namespace HubState

/-- The runs of a hub whose metrics are set up before it starts. -/
def metered (hub : Hub) (metrics : Metrics) : System HubEvent where
  State := HubState
  Initial self := self = start hub (some metrics)
  Step := Step hub

/-- Runs with metrics are runs. -/
theorem runs_of_metered {hub : Hub} {metrics : Metrics} {trace : List HubEvent}
    {machine : HubState} (run : (metered hub metrics).Runs trace machine) :
    (system hub).Runs trace machine :=
  @System.Runs.history _ (metered hub metrics) _ _ (system hub).Runs
    (fun _ valid => .initial ⟨some metrics, valid⟩)
    (fun _ holds transition => System.Runs.snoc holds transition) run

/-- Recording a failed call adds its events under the name of the emitter. -/
@[simp] theorem droppedFor_recordEmit (metrics : Metrics) (name : String) (events : List Event)
    (succeeded : Bool) (reason : String) :
    (recordEmit metrics name events succeeded).droppedFor reason = metrics.droppedFor reason +
      if succeeded = false ∧ name = reason then events.length else 0 := by
  cases succeeded with
  | false => simp [recordEmit]
  | true =>
      have forwarded : ∀ metrics : Metrics,
          (events.foldl (fun metrics event => metrics.recordForwarded name event.eventType 1)
            metrics).droppedFor reason = metrics.droppedFor reason := by
        induction events with
        | nil => exact fun _ => rfl
        | cons event events inductionHypothesis => simp [inductionHypothesis]
      simp [recordEmit, forwarded]

end HubState

/-- What the chain answered, if this is the event. -/
def HubEvent.answer : HubEvent → Option (Option Message)
  | .processed result => some result
  | _ => none

/-- How many events a failed call of the emitters of a name was passed. -/
def HubEvent.failedAs (hub : Hub) (name : String) : HubEvent → Nat
  | .offered emitter events false => if hub.emitters[emitter]? = some name then events.length else 0
  | _ => 0

namespace HubHistory

/-- What the chain answered, in order. -/
def answers (trace : List HubEvent) : List (Option Message) := trace.filterMap HubEvent.answer

/-- How many events the failed calls of the emitters of a name were passed. -/
def failedAs (hub : Hub) (name : String) (trace : List HubEvent) : Nat :=
  (trace.map (HubEvent.failedAs hub name)).sum

@[simp] theorem answers_snoc (trace : List HubEvent) (event : HubEvent) :
    answers (trace ++ [event]) = answers trace ++ event.answer.toList :=
  Data.filterMap_snoc _ trace event

@[simp] theorem failedAs_snoc (hub : Hub) (name : String) (trace : List HubEvent)
    (event : HubEvent) :
    failedAs hub name (trace ++ [event]) = failedAs hub name trace + event.failedAs hub name := by
  simp [failedAs]

/-- The drops counted for a reason. -/
def countedFor (hub : Hub) (reason : String) (trace : List HubEvent) : Nat :=
  (if reason = "middleware_filtered" then (answers trace).count none else 0) +
    (if reason = "buffer_overflow" then
      (RingBuffer.new hub.bufferCapacity).returnedTotal (bufferCalls hub trace) else 0) +
    failedAs hub reason trace

end HubHistory

namespace Hub

variable {hub : Hub} {trace : List HubEvent} {machine next : HubState} {event : HubEvent}

/-! ## What the chain answers -/

/-- The messages received have been answered by the chain, but for the one which is
being processed. -/
def Answers (hub : Hub) (trace : List HubEvent) (machine : HubState) : Prop :=
  ∃ processed, sent trace = processed ++ input machine.receiver ++ machine.channel ∧
    machine.middleware = (hub.middleware.processEach processed).2 ∧
    answers trace = (hub.middleware.processEach processed).1

/-- A step which answers nothing and sends nothing only moves messages. -/
private theorem Answers.idle (holds : Answers hub trace machine)
    (noSend : event.sentMessage = none) (noAnswer : event.answer = none)
    (middleware : next.middleware = machine.middleware)
    (waiting : input next.receiver ++ next.channel = input machine.receiver ++ machine.channel) :
    Answers hub (trace ++ [event]) next := by
  obtain ⟨processed, sentSoFar, chain, answered⟩ := holds
  refine ⟨processed, ?_, middleware.trans chain, ?_⟩
  · simpa [noSend, waiting] using sentSoFar
  · simpa [noAnswer] using answered

/-- The message which is being processed gets its answer. -/
private theorem Answers.answer (holds : Answers hub trace machine) {msg : Message}
    {result : Option Message} (phase : machine.receiver = .processing msg)
    (answered : machine.middleware.process msg = (result, next.middleware))
    (channel : next.channel = machine.channel) (done : input next.receiver = []) :
    Answers hub (trace ++ [.processed result]) next := by
  obtain ⟨processed, sentSoFar, chain, earlier⟩ := holds
  have processing : input machine.receiver = [msg] := by rw [phase]; rfl
  rw [processing] at sentSoFar
  rw [chain] at answered
  refine ⟨processed ++ [msg], ?_, ?_, ?_⟩
  · simpa [HubEvent.sentMessage, channel, done] using sentSoFar
  · simp [MiddlewareChain.processEach_snoc, answered]
  · simp [MiddlewareChain.processEach_snoc, answered, HubEvent.answer, earlier]

/-- Every step keeps track of the answers. -/
theorem Answers.step (holds : Answers hub trace machine)
    (transition : HubState.Step hub machine event next) : Answers hub (trace ++ [event]) next := by
  cases transition with
  | flusher step =>
      obtain ⟨channel, -, receiver, middleware, -, noSend, -⟩ := step.frame
      have noAnswer : event.answer = none := by cases step <;> rfl
      exact holds.idle noSend noAnswer middleware (by rw [channel, receiver])
  | sender step =>
      cases step with
      | send msg isOpen room =>
          obtain ⟨processed, sentSoFar, chain, answered⟩ := holds
          refine ⟨processed, ?_, chain, ?_⟩
          · simp [sentSoFar, HubEvent.sentMessage]
          · simpa [HubEvent.answer] using answered
      | close isOpen => exact holds.idle rfl rfl rfl rfl
  | receiver step =>
      cases step with
      | receive phase waiting => exact holds.idle rfl rfl rfl (by simp [phase, waiting, input])
      | finish phase none isClosed => exact holds.idle rfl rfl rfl (by simp [phase, input])
      | filter phase dropped => exact holds.answer phase dropped rfl rfl
      | pass phase passed => exact holds.answer phase passed rfl rfl
      | push phase pushed => exact holds.idle rfl rfl rfl (by simp [phase, input])
      | signal phase => exact holds.idle rfl rfl rfl (by simp [phase, input])
      | join phase done => exact holds.idle rfl rfl rfl (by simp [phase, input])

/-- When the hub has returned, the chain has answered every message sent. -/
theorem answers_of_returned (run : (HubState.system hub).Runs trace machine)
    (returned : machine.receiver = .returned) :
    answers trace = (hub.middleware.processEach (sent trace)).1 := by
  obtain ⟨processed, sentSoFar, -, answered⟩ := System.Runs.history (Answers hub)
    (fun _ ⟨metrics, initial⟩ => initial ▸ ⟨[], rfl, rfl, rfl⟩)
    (fun _ holds transition => holds.step transition) run
  have empty := ((Delivering.of_runs run).shutsDown.drainedChannel (.inr (.inr returned))).2
  have all : sent trace = processed := by simpa [returned, input, empty] using sentSoFar
  rw [all, answered]

/-! ## What the metrics count -/

/-- The counters of dropped events have grown by the drops of the run. -/
def Meters (hub : Hub) (initial : Metrics) (trace : List HubEvent) (machine : HubState) : Prop :=
  ∃ metrics, machine.metrics = some metrics ∧
    ∀ reason, metrics.droppedFor reason = initial.droppedFor reason + countedFor hub reason trace

/-- A step which counts what it says keeps the account. -/
private theorem Meters.grow {initial : Metrics} (holds : Meters hub initial trace machine)
    (record : Metrics → Metrics) (recorded : next.metrics = machine.metrics.map record)
    (counts : ∀ reason, ∃ count, countedFor hub reason (trace ++ [event]) =
        countedFor hub reason trace + count ∧
      ∀ metrics : Metrics, (record metrics).droppedFor reason =
        metrics.droppedFor reason + count) :
    Meters hub initial (trace ++ [event]) next := by
  obtain ⟨metrics, isMetrics, account⟩ := holds
  refine ⟨record metrics, by rw [recorded, isMetrics, Option.map_some], fun reason => ?_⟩
  obtain ⟨count, grown, added⟩ := counts reason
  rw [grown, added, account, Nat.add_assoc]

/-- A step which counts nothing keeps the account. -/
private theorem Meters.idle {initial : Metrics} (holds : Meters hub initial trace machine)
    (record : Metrics → Metrics) (recorded : next.metrics = machine.metrics.map record)
    (same : ∀ metrics reason, (record metrics).droppedFor reason = metrics.droppedFor reason)
    (noAnswer : event.answer = none) (noFailure : ∀ reason, event.failedAs hub reason = 0)
    (noPush : ((RingBuffer.new hub.bufferCapacity).returnedTotal
        (bufferCalls hub (trace ++ [event]))) =
      (RingBuffer.new hub.bufferCapacity).returnedTotal (bufferCalls hub trace)) :
    Meters hub initial (trace ++ [event]) next := by
  refine holds.grow record recorded fun reason => ⟨0, ?_, fun metrics => same metrics reason⟩
  unfold countedFor
  rw [noPush]
  simp [noAnswer, noFailure]

/-- A step which does not call the buffer makes it return nothing. -/
private theorem returnedTotal_idle (noCall : event.bufferCall hub.batchSize = none) :
    (RingBuffer.new hub.bufferCapacity).returnedTotal (bufferCalls hub (trace ++ [event])) =
      (RingBuffer.new hub.bufferCapacity).returnedTotal (bufferCalls hub trace) := by
  simp [noCall]

/-- A step which only moves messages on leaves the metrics as they are. -/
private theorem Meters.silent {initial : Metrics} (holds : Meters hub initial trace machine)
    (untouched : next.metrics = machine.metrics) (noAnswer : event.answer = none)
    (noFailure : ∀ reason, event.failedAs hub reason = 0)
    (noCall : event.bufferCall hub.batchSize = none) :
    Meters hub initial (trace ++ [event]) next :=
  holds.idle id (by simp [untouched]) (fun _ _ => rfl) noAnswer noFailure
    (returnedTotal_idle noCall)

/-- Every step counts its drops. -/
theorem Meters.step {initial : Metrics} (run : (HubState.system hub).Runs trace machine)
    (holds : Meters hub initial trace machine)
    (transition : HubState.Step hub machine event next) :
    Meters hub initial (trace ++ [event]) next := by
  have buffer := (Delivering.of_runs run).buffers.buffer
  have untouched : machine.metrics = machine.metrics.map id := by simp
  cases transition with
  | sender step =>
      cases step with
      | send msg isOpen room => exact holds.silent rfl rfl (fun _ => rfl) rfl
      | close isOpen => exact holds.silent rfl rfl (fun _ => rfl) rfl
  | receiver step =>
      cases step with
      | receive phase waiting =>
          exact holds.idle _ rfl (fun _ _ => rfl) rfl (fun _ => rfl) (returnedTotal_idle rfl)
      | filter phase dropped =>
          refine holds.grow _ rfl fun reason =>
            ⟨if reason = "middleware_filtered" then 1 else 0, ?_, fun metrics => ?_⟩
          · unfold countedFor
            rw [returnedTotal_idle rfl]
            by_cases filtered : reason = "middleware_filtered"
            · simp [filtered, HubEvent.answer, HubEvent.failedAs]
              omega
            · simp [filtered, HubEvent.failedAs]
          · simp [eq_comm]
      | pass phase passed =>
          refine holds.grow id untouched fun reason => ⟨0, ?_, fun metrics => rfl⟩
          unfold countedFor
          rw [returnedTotal_idle rfl]
          simp [HubEvent.answer, HubEvent.failedAs]
      | @push msg dropped after phase pushed =>
          have returned : (RingBuffer.new hub.bufferCapacity).returnedTotal
              (bufferCalls hub (trace ++ [.pushed msg])) =
                (RingBuffer.new hub.bufferCapacity).returnedTotal (bufferCalls hub trace) +
                  dropped := by
            simp [HubEvent.bufferCall, RingBuffer.returnedTotal_snoc, ← buffer, RingBuffer.call,
              pushed, Outcome.returned]
          refine holds.grow _ rfl fun reason =>
            ⟨if reason = "buffer_overflow" then dropped else 0, ?_, fun metrics => ?_⟩
          · unfold countedFor
            rw [returned]
            by_cases overflowed : reason = "buffer_overflow"
            · simp [overflowed, HubEvent.failedAs]
              omega
            · simp [overflowed, HubEvent.answer, HubEvent.failedAs]
          · by_cases some : 0 < dropped
            · simp [some, eq_comm]
            · have zero : dropped = 0 := by omega
              simp [zero]
      | finish phase none isClosed => exact holds.silent rfl rfl (fun _ => rfl) rfl
      | signal phase => exact holds.silent rfl rfl (fun _ => rfl) rfl
      | join phase done => exact holds.silent rfl rfl (fun _ => rfl) rfl
  | flusher step =>
      cases step with
      | checkShutdown phase => exact holds.silent rfl rfl (fun _ => rfl) rfl
      | checkEmpty phase => exact holds.silent rfl rfl (fun _ => rfl) rfl
      | wake phase => exact holds.silent rfl rfl (fun _ => rfl) rfl
      | drain phase drained =>
          refine holds.idle id untouched (fun _ _ => rfl) rfl (fun _ => rfl) ?_
          simp [HubEvent.bufferCall, RingBuffer.returnedTotal_snoc, RingBuffer.call,
            Outcome.returned]
      | measure phase =>
          exact holds.idle _ rfl (fun _ _ => rfl) rfl (fun _ => rfl) (returnedTotal_idle rfl)
      | skip phase emitter none => exact holds.silent rfl rfl (fun _ => rfl) rfl
      | @offer events position name routed succeeded phase emitter some =>
          refine holds.grow _ rfl fun reason =>
            ⟨if succeeded = false ∧ name = reason then routed.length else 0, ?_, fun metrics => ?_⟩
          · unfold countedFor
            rw [returnedTotal_idle rfl]
            cases succeeded <;>
              simp [HubEvent.answer, HubEvent.failedAs, emitter, Nat.add_assoc]
          · simp
      | finish phase last => exact holds.silent rfl rfl (fun _ => rfl) rfl

/-- At any time the counters of dropped events have grown by the drops of the run. -/
theorem Meters.of_runs {initial : Metrics}
    (run : (HubState.metered hub initial).Runs trace machine) :
    Meters hub initial trace machine :=
  System.Runs.history (Meters hub initial)
    (fun _ valid => ⟨_, congrArg HubState.metrics valid, fun _ => by
      simp [countedFor, answers, failedAs, bufferCalls, RingBuffer.returnedTotal]⟩)
    (fun prior holds transition => holds.step (HubState.runs_of_metered prior) transition) run

end Hub

end Polku
