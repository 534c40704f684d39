import Polku.Server.Gateway

/-!
# The unary calls of a gateway, and its counter

However the steps of its clients interleave, a unary call stores one message at most, and
the counter agrees with what has been handed to the buffer, but for the messages whose calls
were told of a drop and for those which their tasks have yet to count.

The gateway binary starts no reader. So such a gateway acknowledges no more unary calls in its
life than its buffer has room for.
-/

namespace Polku

open Buffer Semantics Data

/-- What a gateway with some registry decodes a request to. -/
def PluginRegistry.decode (registry : PluginRegistry) (ingest : IngestEvent) :
    Except Status Event := (GatewayService.withRegistry (.new 0) registry).processEvent ingest

namespace UnaryCall

/-- What a call has done when it has come to a phase: its request was rejected, or its
message pushed and, if the push dropped nothing, counted and acknowledged. -/
inductive Reaches (registry : PluginRegistry) (ingest : IngestEvent) :
    List GatewayEvent → CallPhase → Prop where
  | processing : Reaches registry ingest [] .processing
  | rejecting {status} (failed : registry.decode ingest = .error status) :
      Reaches registry ingest [.rejected status] (.returning (.error status))
  | dropping {event dropped} (decoded : registry.decode ingest = .ok event)
      (some : 0 < dropped) :
      Reaches registry ingest [.stored (Message.ofEvent event) dropped] (.returning bufferFull)
  | counting {event} (decoded : registry.decode ingest = .ok event) :
      Reaches registry ingest [.stored (Message.ofEvent event) 0] (.counting event.id)
  | acknowledging {event} (decoded : registry.decode ingest = .ok event) :
      Reaches registry ingest [.stored (Message.ofEvent event) 0, .counted 1]
        (.acknowledging event.id)
  | accepting {event} {ack : Ack} (decoded : registry.decode ingest = .ok event)
      (ids : ack.eventIds = [event.id]) :
      Reaches registry ingest [.stored (Message.ofEvent event) 0, .counted 1, .acknowledged]
        (.returning (.ok ack))
  | returned {history item} (before : Reaches registry ingest history (.returning item)) :
      Reaches registry ingest (history ++ [.answered item]) (.returned item)

variable {registry : PluginRegistry} {service service' : GatewayService}
  {task task' : UnaryCall} {event : GatewayEvent} {history : List GatewayEvent}

/-- Decoding rests on nothing but the registry. -/
theorem processEvent_eq (same : service.registry = registry) (ingest : IngestEvent) :
    service.processEvent ingest = registry.decode ingest := by
  subst same
  rfl

/-- Each step of a call brings it to its next phase. -/
theorem Reaches.step (reaches : Reaches registry task.ingest history task.phase)
    (same : service.registry = registry) (step : Step service task event service' task') :
    task'.ingest = task.ingest ∧
      Reaches registry task'.ingest (history ++ [event]) task'.phase := by
  cases step with
  | reject failed =>
      rw [processEvent_eq same] at failed
      cases reaches
      exact ⟨rfl, .rejecting failed⟩
  | push decoded =>
      rw [processEvent_eq same] at decoded
      cases reaches
      refine ⟨rfl, ?_⟩
      rw [afterPush]
      split
      case isTrue some => exact .dropping decoded some
      case isFalse none =>
          rw [Nat.eq_zero_of_not_pos none]
          exact .counting decoded
  | count =>
      cases reaches with
      | counting decoded => exact ⟨rfl, .acknowledging decoded⟩
  | acknowledge =>
      cases reaches with
      | acknowledging decoded => exact ⟨rfl, .accepting decoded rfl⟩
  | answer => exact ⟨rfl, .returned reaches⟩

/-- A step of a call, with the service. -/
def Advances (before after : GatewayService × UnaryCall) : Prop :=
  ∃ event, Step before.1 before.2 event after.1 after.2

/-- A step is one with the service. -/
theorem Step.advances (step : Step service task event service' task') :
    Advances (service, task) (service', task') := ⟨event, step⟩

/-- With nothing between its steps, a call does what `sendEvent` does. -/
theorem advances_sendEvent (service : GatewayService) (ingest : IngestEvent) :
    Relation.ReflTransGen Advances (service, ⟨ingest, .processing⟩)
      ((service.sendEvent ingest).2, ⟨ingest, .returned (service.sendEvent ingest).1⟩) := by
  rw [GatewayService.sendEvent]
  cases decoded : service.processEvent ingest with
  | error status => exact .head (Step.reject decoded).advances (.single Step.answer.advances)
  | ok event =>
      refine .head (Step.push decoded).advances ?_
      simp only [afterPush]
      split
      case isTrue some => exact .single Step.answer.advances
      case isFalse none =>
          exact .head Step.count.advances
            (.head Step.acknowledge.advances (.single Step.answer.advances))

end UnaryCall

/-! ### The counter -/

namespace GatewayTask

/-- The events which a task has stored and not counted. -/
def uncounted : GatewayTask → Nat
  | .stream task => match task.phase with
      | some (.counting _ eventCount) => eventCount
      | _ => 0
  | .call task => match task.phase with
      | .counting _ => 1
      | _ => 0
  | .reader => 0

/-- Whether a call has had its message stored for it and has yet to return. -/
def accepting : GatewayTask → Nat
  | .call task => match task.phase with
      | .counting _ | .acknowledging _ | .returning (.ok _) => 1
      | _ => 0
  | _ => 0

variable {service service' : GatewayService} {task task' : GatewayTask} {event : GatewayEvent}

/-- A new task has stored nothing. -/
theorem Start.uncounted_eq (starts : Start task) : task.uncounted = 0 ∧ task.accepting = 0 := by
  cases starts <;> exact ⟨rfl, rfl⟩

/-- What a batch leads to has not been stored. -/
theorem uncounted_afterBatch (batch : IngestBatch) (registry : PluginRegistry)
    (task : StreamTask) :
    uncounted (.stream { task with phase := some (.afterBatch batch registry) }) = 0 := by
  simp only [uncounted, StreamPhase.afterBatch]
  cases processBatchWithRegistry batch registry with
  | error status => rfl
  | ok events => cases events <;> rfl

/-- What is stored, and not reported as dropped, is counted later. -/
theorem Step.uncounted_eq (step : Step service task event service' task') :
    task.uncounted + (event.handed.length - if event.isDropped then 1 else 0) =
      task'.uncounted + event.count := by
  cases step with
  | drain n => rfl
  | stream step =>
      cases step with
      | receive batch phase =>
          rw [uncounted_afterBatch]
          simp [uncounted, phase, GatewayEvent.handed, GatewayEvent.count]
      | finish phase | acknowledge phase | queue phase _ _ =>
          simp [uncounted, phase, GatewayEvent.handed, GatewayEvent.count]
      | @refuse item phase gone =>
          simp only [uncounted, phase, GatewayEvent.handed, GatewayEvent.count]
          cases item <;> rfl
      | push phase =>
          simp [uncounted, phase, GatewayEvent.handed, GatewayEvent.count, GatewayEvent.isDropped]
      | count phase =>
          simp [uncounted, phase, GatewayEvent.handed, GatewayEvent.count]
      | take _ _ | hangUp _ => rfl
  | call step =>
      cases step with
      | @push ingest event decoded =>
          simp only [uncounted, GatewayEvent.handed, GatewayEvent.count, GatewayEvent.isDropped,
            UnaryCall.afterPush, List.length_singleton]
          cases (service.buffer.push [Message.ofEvent event]).1 <;> simp
      | reject _ | count | acknowledge | answer => rfl

/-- A call of which the message took nobody's place is acknowledged later. -/
theorem Step.accepting_eq (step : Step service task event service' task') :
    task.accepting + (if event.isAccepted then 1 else 0) =
      task'.accepting + if event.isOk then 1 else 0 := by
  cases step with
  | drain n => rfl
  | stream step => cases step <;> rfl
  | call step =>
      cases step with
      | @push ingest event decoded =>
          simp only [accepting, GatewayEvent.isAccepted, GatewayEvent.isOk, UnaryCall.afterPush]
          cases (service.buffer.push [Message.ofEvent event]).1 <;> simp [UnaryCall.bufferFull]
      | @answer ingest item => cases item <;> rfl
      | reject _ | count | acknowledge => rfl

end GatewayTask

/-! ### What holds of every run -/

/-- What a gateway has counted and stored. -/
structure GatewayAccounts (service : GatewayService) (trace : List (Tasks.Label GatewayEvent))
    (pool : Tasks.Pool GatewayService GatewayTask) : Prop where
  /-- The buffer has been called by these steps only, each call at once. -/
  buffer : pool.shared.buffer =
    (service.buffer.replay ((Tasks.events trace).filterMap GatewayEvent.bufferCall)).2
  /-- The counter, the events yet to be counted and those whose calls were told of a drop are
  all events handed to the buffer. -/
  processed : pool.shared.eventsProcessed + (pool.tasks.map GatewayTask.uncounted).sum +
      (Tasks.events trace).countP GatewayEvent.isDropped =
    service.eventsProcessed + ((Tasks.events trace).flatMap GatewayEvent.handed).length
  /-- Each call has taken the steps to where it is, and no others. -/
  calls : ∀ place call, pool.tasks[place]? = some (.call call) →
    UnaryCall.Reaches service.registry call.ingest (Tasks.own place trace) call.phase

/-- Messages which a history has handed over, less the drops reported. -/
private theorem sum_handed (events : List GatewayEvent) :
    (events.map fun event =>
        event.handed.length - if event.isDropped then 1 else 0).sum +
      events.countP GatewayEvent.isDropped = (events.flatMap GatewayEvent.handed).length := by
  induction events with
  | nil => rfl
  | cons event events inductionHypothesis =>
      rw [List.map_cons, List.sum_cons, List.countP_cons, List.flatMap_cons, List.length_append,
        ← inductionHypothesis]
      have one : event.isDropped = true → event.handed.length = 1 := by
        cases event <;> simp [GatewayEvent.isDropped, GatewayEvent.handed]
      split
      case isTrue dropped =>
          rw [one dropped]
          omega
      case isFalse => omega

/-- What a step does to the service: it calls the buffer and counts, as its event tells. -/
theorem GatewayTask.Step.service_eq {service service' : GatewayService}
    {task task' : GatewayTask} {event : GatewayEvent}
    (step : Step service task event service' task') :
    service'.registry = service.registry ∧
      service'.buffer = (service.buffer.replay event.bufferCall.toList).2 ∧
      service'.eventsProcessed = service.eventsProcessed + event.count := by
  rcases step with ⟨⟨⟩⟩ | ⟨⟨⟩⟩ | _ <;> exact ⟨rfl, rfl, rfl⟩

/-- In every run of a gateway each call has taken the steps to where it is, and no others. -/
theorem UnaryCall.reaches_of_runs {service : GatewayService}
    {trace : List (Tasks.Label GatewayEvent)} {pool : Tasks.Pool GatewayService GatewayTask}
    (run : (gateway.system service).Runs trace pool) {place : Nat} {call : UnaryCall}
    (isCall : pool.tasks[place]? = some (.call call)) :
    Reaches service.registry call.ingest (Tasks.own place trace) call.phase := by
  have reaches := Tasks.each_task (fun shared => shared.registry = service.registry)
    (fun history task => ∀ call, task = .call call →
      Reaches service.registry call.ingest history call.phase) rfl ?kept ?starts ?goesOn run isCall
  case kept =>
      intro shared task event shared' task' same step
      rw [step.service_eq.1, same]
  case starts =>
      rintro _ (_ | ingest | _) call ⟨⟩
      exact .processing
  case goesOn =>
      rintro history shared task event shared' task' same reaches step call rfl
      cases step with
      | call step => exact ((reaches _ rfl).step same step).2
  exact reaches call rfl

/-- In every run of a gateway, with any number of streams, unary calls and readers whose steps
come in any order, the buffer is called as the steps say and the counter agrees with what
has been handed to it, and each unary call pushes its message once at most and is counted
exactly if it is acknowledged. -/
theorem gateway_accounts {service : GatewayService} {trace : List (Tasks.Label GatewayEvent)}
    {pool : Tasks.Pool GatewayService GatewayTask}
    (run : (gateway.system service).Runs trace pool) : GatewayAccounts service trace pool where
  buffer := by
    apply Tasks.shared_history (fun history (shared : GatewayService) => shared.buffer =
      (service.buffer.replay (history.filterMap GatewayEvent.bufferCall)).2) rfl ?_ run
    intro history shared task event shared' task' replayed step
    rw [step.service_eq.2.1, replayed, filterMap_snoc, RingBuffer.replay_append]
  processed := by
    have counted := Tasks.shared_history (fun history (shared : GatewayService) =>
      shared.eventsProcessed =
        service.eventsProcessed + (history.map GatewayEvent.count).sum) rfl (by
          intro history shared task event shared' task' summed step
          rw [step.service_eq.2.2, summed, List.map_append, List.sum_append, Nat.add_assoc]
          simp) run
    have balanced := Tasks.balance (fun event : GatewayEvent =>
        event.handed.length - if event.isDropped then 1 else 0) GatewayEvent.count
      GatewayTask.uncounted (fun _ starts => (GatewayTask.Start.uncounted_eq starts).1)
      (fun _ _ _ _ _ step => GatewayTask.Step.uncounted_eq step) run
    have handed := sum_handed (Tasks.events trace)
    omega
  calls := fun _ _ isCall => UnaryCall.reaches_of_runs run isCall

/-- A call stores an event before a stream stores two, and is acknowledged while these are
yet to be counted. -/
def mixedGateway : (gateway.system (.new (.new 10))).Execution :=
  (System.Execution.initial rfl : (gateway.system (.new (.new 10))).Execution)
    |>.snoc (.start .stream)
    |>.snoc (.start (.call GatewayService.sendB))
    |>.snoc (.did 0 rfl (.stream (.receive GatewayService.twoEvents rfl)))
    |>.snoc (.did 1 rfl (.call (.push rfl)))
    |>.snoc (.did 0 rfl (.stream (.push rfl)))
    |>.snoc (.did 1 rfl (.call .count))
    |>.snoc (.did 1 rfl (.call .acknowledge))
    |>.snoc (.did 1 rfl (.call .answer))

/-- One event has been counted, and two have not. -/
theorem gateway_accounts_mixed :
    GatewayAccounts (.new (.new 10)) mixedGateway.trace mixedGateway.state ∧
      mixedGateway.state.shared.eventsProcessed = 1 ∧
      (mixedGateway.state.tasks.map GatewayTask.uncounted).sum = 2 ∧
      mixedGateway.state.shared.buffer.len = 3 :=
  ⟨gateway_accounts mixedGateway.runs, rfl, rfl, rfl⟩

/-! ### Without a reader -/

/-- What a buffer which nobody drains holds after a history, and what unary calls were told
about it. -/
structure Fills (capacity : Nat) (history : List GatewayEvent) (shared : GatewayService) :
    Prop where
  room : shared.buffer.capacity = capacity
  len : shared.buffer.len = min (history.flatMap GatewayEvent.handed).length (max capacity 1)
  accepted : history.countP GatewayEvent.isAccepted ≤
    min (history.flatMap GatewayEvent.handed).length capacity
  decides : ∀ before message dropped after, history = before ++ .stored message dropped :: after →
    (dropped = 0 ↔ (before.flatMap GatewayEvent.handed).length < capacity)

/-- A new buffer is empty. -/
theorem Fills.new (capacity : Nat) (registry : PluginRegistry) :
    Fills capacity [] (.withRegistry (.new capacity) registry) where
  room := rfl
  len := (Nat.zero_min _).symm
  accepted := Nat.zero_le _
  decides := by simp

/-- A push of some messages fills the buffer further. -/
theorem Fills.len_push {capacity : Nat} {history : List GatewayEvent} {shared : GatewayService}
    (fills : Fills capacity history shared) (messages : List Message) :
    (shared.buffer.push messages).2.len =
      min ((history.flatMap GatewayEvent.handed).length + messages.length) (max capacity 1) := by
  have within : shared.buffer.len ≤ max shared.buffer.capacity 1 := by
    rw [fills.len, fills.room]
    exact Nat.min_le_right _ _
  rw [RingBuffer.len_push within, fills.len, fills.room]
  omega

/-- A push of one message drops none exactly if the buffer has room. -/
theorem Fills.push_fst {capacity : Nat} {history : List GatewayEvent} {shared : GatewayService}
    (fills : Fills capacity history shared) (message : Message) :
    (shared.buffer.push [message]).1 = 0 ↔
      (history.flatMap GatewayEvent.handed).length < capacity := by
  have held := fills.len
  rw [RingBuffer.len] at held
  rcases Nat.lt_or_ge shared.buffer.messages.length shared.buffer.capacity with room | full
  · rw [RingBuffer.push_fst, RingBuffer.pushLoop_of_room message room]
    rw [fills.room] at room
    exact iff_of_true rfl (by omega)
  · rw [RingBuffer.push_fst, RingBuffer.pushLoop_of_full message full]
    rw [fills.room] at full
    exact iff_of_false Nat.one_ne_zero (by omega)

/-- What a unary call is told is what its push returns. -/
theorem GatewayTask.Step.dropped_eq {service service' : GatewayService}
    {task task' : GatewayTask} {message : Message} {dropped : Nat}
    (step : Step service task (.stored message dropped) service' task') :
    dropped = (service.buffer.push [message]).1 := by
  rcases step with ⟨⟨⟩⟩ | ⟨⟨⟩⟩
  rfl

/-- A step which drains nothing fills the buffer further. -/
theorem Fills.step {capacity : Nat} {history : List GatewayEvent}
    {shared shared' : GatewayService} {task task' : GatewayTask} {event : GatewayEvent}
    (fills : Fills capacity history shared) (undrained : event.isDrained = false)
    (step : GatewayTask.Step shared task event shared' task') :
    Fills capacity (history ++ [event]) shared' := by
  have accepted := fills.accepted
  have same := step.service_eq.2.1
  -- What a call was told before stays so.
  have earlier : (∀ message dropped, event ≠ .stored message dropped) →
      ∀ before message dropped after, history ++ [event] = before ++ .stored message dropped :: after →
        (dropped = 0 ↔ (before.flatMap GatewayEvent.handed).length < capacity) := by
    intro notStored before message dropped after split
    rcases snoc_split split with ⟨-, isEvent, -⟩ | ⟨rest, -, whole⟩
    · exact absurd isEvent.symm (notStored message dropped)
    · exact fills.decides before message dropped rest whole
  -- A step which pushes nothing leaves the buffer as it is.
  have idle : event.bufferCall = none → event.handed = [] → event.isAccepted = false →
      (∀ message dropped, event ≠ .stored message dropped) →
      Fills capacity (history ++ [event]) shared' := by
    intro noCall noMessage notAccepted notStored
    rw [noCall] at same
    have handed : (history ++ [event]).flatMap GatewayEvent.handed =
        history.flatMap GatewayEvent.handed := by simp [noMessage]
    have count : (history ++ [event]).countP GatewayEvent.isAccepted =
        history.countP GatewayEvent.isAccepted := by simp [notAccepted]
    refine ⟨?_, ?_, ?_, earlier notStored⟩
    · rw [same]
      exact fills.room
    · rw [same, handed]
      exact fills.len
    · rw [handed, count]
      exact accepted
  cases event with
  | drained n => cases undrained
  | received _ | ended | counted _ | acknowledged | queued _ | refused _ | took _ | hungUp
  | rejected _ | answered _ => exact idle rfl rfl rfl nofun
  | pushed messages =>
      refine ⟨?_, ?_, ?_, earlier nofun⟩
      · rw [same]
        exact fills.room
      · rw [same, List.flatMap_append, List.length_append, List.flatMap_singleton]
        exact fills.len_push messages
      · rw [List.flatMap_append, List.length_append, List.countP_append]
        simp only [List.countP_singleton, GatewayEvent.isAccepted, Bool.false_eq_true, if_false]
        omega
  | stored message dropped =>
      have decided := fills.push_fst message
      rw [← step.dropped_eq] at decided
      refine ⟨?_, ?_, ?_, ?_⟩
      · rw [same]
        exact fills.room
      · rw [same, List.flatMap_append, List.length_append, List.flatMap_singleton]
        exact fills.len_push [message]
      · rw [List.flatMap_append, List.length_append, List.countP_append]
        simp only [List.countP_singleton, GatewayEvent.isAccepted, List.flatMap_singleton,
          GatewayEvent.handed, List.length_singleton, decide_eq_true_eq]
        split <;> omega
      · intro before other count after split
        rcases snoc_split split with ⟨rfl, isEvent, -⟩ | ⟨rest, -, whole⟩
        · cases isEvent
          exact decided
        · exact fills.decides before other count rest whole

/-- If nobody drains the buffer of a gateway, a unary call is told of no drop exactly if fewer
messages have been handed over before than the buffer has room for. So no more calls than that
are ever acknowledged, whatever the streams do. -/
theorem gateway_without_reader {capacity : Nat} {registry : PluginRegistry}
    {trace : List (Tasks.Label GatewayEvent)} {pool : Tasks.Pool GatewayService GatewayTask}
    (run : (gateway.system (.withRegistry (.new capacity) registry)).Runs trace pool)
    (noReader : ∀ event ∈ Tasks.events trace, event.isDrained = false) :
    (Tasks.events trace).countP GatewayEvent.isOk ≤ capacity ∧
      ∀ before message dropped after,
        Tasks.events trace = before ++ .stored message dropped :: after →
          (dropped = 0 ↔ (before.flatMap GatewayEvent.handed).length < capacity) := by
  have fills := Tasks.shared_history (fun history shared =>
    (∀ event ∈ history, event.isDrained = false) → Fills capacity history shared)
    (fun _ => .new capacity registry) (by
      intro history shared task event shared' task' fills step undrained
      have before : ∀ event ∈ history, event.isDrained = false :=
        fun event member => undrained event (List.mem_append_left _ member)
      exact (fills before).step (undrained event (by simp)) step) run noReader
  have balanced := Tasks.balance_countP GatewayEvent.isAccepted GatewayEvent.isOk
    GatewayTask.accepting (fun _ starts => (GatewayTask.Start.uncounted_eq starts).2)
    (fun _ _ _ _ _ step => GatewayTask.Step.accepting_eq step) run
  have accepted := fills.accepted
  exact ⟨by omega, fills.decides⟩

/-- Two calls with room for one event. -/
def twoCalls : (gateway.system (.withRegistry (.new 1) .new)).Execution :=
  (System.Execution.initial rfl : (gateway.system (.withRegistry (.new 1) .new)).Execution)
    |>.snoc (.start (.call GatewayService.sendB))
    |>.snoc (.start (.call GatewayService.sendB))
    |>.snoc (.did 1 rfl (.call (.push rfl)))
    |>.snoc (.did 0 rfl (.call (.push rfl)))
    |>.snoc (.did 1 rfl (.call .count))
    |>.snoc (.did 1 rfl (.call .acknowledge))
    |>.snoc (.did 1 rfl (.call .answer))
    |>.snoc (.did 0 rfl (.call .answer))

/-- The one which came second is told of a drop. -/
theorem gateway_without_reader_twice :
    (Tasks.events twoCalls.trace).countP GatewayEvent.isOk = 1 ∧
      (Tasks.events twoCalls.trace).countP GatewayEvent.isOk ≤ 1 ∧
      (Tasks.events twoCalls.trace).countP GatewayEvent.isDropped = 1 :=
  ⟨rfl, (gateway_without_reader twoCalls.runs (by decide)).1, rfl⟩

end Polku
