import Polku.Server.Gateway

/-!
# The streams of a gateway

Whatever the other clients of the gateway do, a stream hands over and answers its batches
one after another. It is never more than the channel and one batch ahead of what the consumer
of its answers has taken, and stores one more batch at most when that has hung up.
-/

namespace Polku

open Buffer Semantics Data

namespace GatewayEvent

/-- A step of the loop of a stream, as of a stream whose channel stays open: there every
item is sent. -/
def ofLoop : GatewayEvent → Option StreamEvent
  | received batch => some (.received batch)
  | pushed messages => some (.pushed messages)
  | counted eventCount => some (.counted eventCount)
  | acknowledged => some .acknowledged
  | queued item | refused item => some (.sent item)
  | _ => none

end GatewayEvent

namespace StreamTask

/-- One if the loop has stored events for which nothing is in the channel yet, or has ended. -/
def stage : Option StreamPhase → Nat
  | none => 1
  | some (.counting _ _) | some (.acknowledging _) | some (.sending (.ok _)) => 1
  | some .receiving | some (.pushing _) | some (.sending (.error _)) => 0

/-- Nothing is stored yet when a batch has been received, if it has events. -/
theorem stage_le (phase : Option StreamPhase) : stage phase ≤ 1 := by
  unfold stage
  split <;> omega

/-- The steps of the loop for the batch it is at, if it is at one. -/
inductive LoopAt (registry : PluginRegistry) :
    List IngestBatch → Option StreamPhase → List StreamEvent → Prop where
  | running {current phase steps} (progress : InProgress registry current phase steps) :
      LoopAt registry current (some phase) steps
  | ended : LoopAt registry [] none []

/-- What every step of a stream keeps. -/
structure Flow (registry : PluginRegistry) (history : List GatewayEvent) (task : StreamTask) :
    Prop where
  aligned : ∃ done current parts steps,
    history.filterMap GatewayEvent.batch? = done ++ current ∧
      history.filterMap GatewayEvent.ofLoop = parts.flatten ++ steps ∧
      List.Forall₂ (StreamEvent.Handles registry) done parts ∧
      LoopAt registry current task.phase steps
  handed : history.flatMap GatewayEvent.handed =
    (history.filterMap GatewayEvent.ofLoop).flatMap StreamEvent.messages
  sent : ∃ lost, (history.filterMap GatewayEvent.ofLoop).filterMap StreamEvent.item =
    task.taken ++ task.queue ++ lost ∧ (task.listening = true → lost = [])
  room : task.queue.length ≤ channelSize
  ahead : history.countP GatewayEvent.isPushed ≤ task.taken.length +
    (if task.listening then task.queue.length else channelSize) + stage task.phase
  gone : ∀ before after, history = before ++ .hungUp :: after →
    task.listening = false ∧ after.countP GatewayEvent.isPushed ≤ stage task.phase

variable {registry : PluginRegistry} {history : List GatewayEvent} {task task' : StreamTask}
  {event : GatewayEvent} {service service' : GatewayService}

/-- The loop handles its batches one after another. -/
theorem Flow.aligned_step (flow : Flow registry history task) (same : service.registry = registry)
    (step : Step service task event service' task') :
    ∃ done current parts steps,
      (history ++ [event]).filterMap GatewayEvent.batch? = done ++ current ∧
        (history ++ [event]).filterMap GatewayEvent.ofLoop = parts.flatten ++ steps ∧
        List.Forall₂ (StreamEvent.Handles registry) done parts ∧
        LoopAt registry current task'.phase steps := by
  obtain ⟨done, current, parts, steps, batches, own, handles, loopAt⟩ := flow.aligned
  rw [filterMap_snoc, filterMap_snoc, batches, own]
  -- A step of the consumer leaves the loop where it is.
  have unmoved : event.batch? = none → event.ofLoop = none → task'.phase = task.phase →
      ∃ done' current' parts' steps',
        done ++ current ++ event.batch?.toList = done' ++ current' ∧
          parts.flatten ++ steps ++ event.ofLoop.toList = parts'.flatten ++ steps' ∧
          List.Forall₂ (StreamEvent.Handles registry) done' parts' ∧
          LoopAt registry current' task'.phase steps' := by
    intro noBatch noLoop samePhase
    rw [noBatch, noLoop, samePhase]
    exact ⟨done, current, parts, steps, List.append_nil _, List.append_nil _, handles, loopAt⟩
  cases step with
  | take _ _ => exact unmoved rfl rfl rfl
  | hangUp _ => exact unmoved rfl rfl rfl
  | receive batch phase =>
      rw [phase] at loopAt
      obtain ⟨⟨⟩⟩ := loopAt
      refine ⟨done, [batch], parts, [.received batch], by simp [GatewayEvent.batch?],
        by simp [GatewayEvent.ofLoop], handles, .running ?_⟩
      rw [same]
      exact inProgress_afterBatch registry batch
  | finish phase =>
      rw [phase] at loopAt
      obtain ⟨⟨⟩⟩ := loopAt
      exact ⟨done, [], parts, [], by simp [GatewayEvent.batch?],
        by simp [GatewayEvent.ofLoop], handles, .ended⟩
  | push phase =>
      rw [phase] at loopAt
      obtain ⟨progress⟩ := loopAt
      cases progress with
      | pushing some decoded =>
          exact ⟨done, _, parts, _, List.append_nil _, List.append_assoc _ _ _, handles,
            .running (.counting some decoded)⟩
  | count phase =>
      rw [phase] at loopAt
      obtain ⟨progress⟩ := loopAt
      cases progress with
      | counting some decoded =>
          exact ⟨done, _, parts, _, List.append_nil _, List.append_assoc _ _ _, handles,
            .running (.acknowledging fun ack ids => .stored some decoded ids)⟩
  | acknowledge phase =>
      rw [phase] at loopAt
      obtain ⟨progress⟩ := loopAt
      cases progress with
      | acknowledging complete =>
          refine ⟨done, _, parts, _, List.append_nil _, List.append_assoc _ _ _, handles,
            .running (.sending ?_)⟩
          rw [List.append_assoc]
          exact complete _ rfl
  | @queue item phase listening room =>
      rw [phase] at loopAt
      obtain ⟨progress⟩ := loopAt
      cases progress with
      | @sending batch _ steps complete =>
          exact ⟨done ++ [batch], [], parts ++ [steps ++ [.sent item]], [],
            by simp [GatewayEvent.batch?], by simp [GatewayEvent.ofLoop],
            List.rel_append handles (.cons complete .nil), .running .receiving⟩
  | @refuse item phase gone =>
      rw [phase] at loopAt
      obtain ⟨progress⟩ := loopAt
      cases progress with
      | @sending batch _ steps complete =>
          refine ⟨done ++ [batch], [], parts ++ [steps ++ [.sent item]], [],
            by simp [GatewayEvent.batch?], by simp [GatewayEvent.ofLoop],
            List.rel_append handles (.cons complete .nil), ?_⟩
          cases item with
          | error status => exact .running .receiving
          | ok ack => exact .ended

/-- What is sent is in the channel, or was taken from it, or is lost with it. -/
theorem Flow.sent_step (flow : Flow registry history task)
    (step : Step service task event service' task') :
    ∃ lost, ((history ++ [event]).filterMap GatewayEvent.ofLoop).filterMap StreamEvent.item =
      task'.taken ++ task'.queue ++ lost ∧ (task'.listening = true → lost = []) := by
  obtain ⟨lost, sent, kept⟩ := flow.sent
  rw [filterMap_snoc, List.filterMap_append, sent]
  cases step with
  | receive _ _ | finish _ | push _ | count _ | acknowledge _ =>
      exact ⟨lost, List.append_nil _, kept⟩
  | @queue item phase listening room =>
      rw [kept listening]
      exact ⟨[], by simp [GatewayEvent.ofLoop, StreamEvent.item], fun _ => rfl⟩
  | @refuse item phase gone =>
      refine ⟨lost ++ [item], List.append_assoc _ _ _, fun listening => ?_⟩
      rw [gone] at listening
      cases listening
  | @take item rest listening next =>
      rw [next]
      exact ⟨lost, by simp [GatewayEvent.ofLoop], kept⟩
  | hangUp listening =>
      exact ⟨task.queue ++ lost, by simp [GatewayEvent.ofLoop], by simp⟩

/-- The loop is never further ahead of the consumer than the channel and one batch. -/
theorem Flow.ahead_step (flow : Flow registry history task)
    (step : Step service task event service' task') :
    (history ++ [event]).countP GatewayEvent.isPushed ≤ task'.taken.length +
      (if task'.listening then task'.queue.length else channelSize) + stage task'.phase := by
  have ahead := flow.ahead
  have room := flow.room
  rw [List.countP_append, List.countP_singleton]
  cases step with
  | receive batch phase =>
      rw [phase] at ahead
      exact Nat.le_trans ahead (Nat.add_le_add_left (Nat.zero_le _) _)
  | finish phase =>
      rw [phase] at ahead
      exact Nat.le_trans ahead (Nat.add_le_add_left (Nat.zero_le _) _)
  | push phase =>
      rw [phase] at ahead
      exact Nat.succ_le_succ ahead
  | count phase =>
      rw [phase] at ahead
      exact ahead
  | acknowledge phase =>
      rw [phase] at ahead
      exact ahead
  | @queue item phase listening free =>
      have late := stage_le (some (.sending item))
      rw [phase] at ahead
      simp only [listening, if_true] at ahead ⊢
      simp only [List.length_append, List.length_singleton, GatewayEvent.isPushed,
        Bool.false_eq_true, if_false, stage]
      omega
  | @refuse item phase gone =>
      rw [phase] at ahead
      cases item with
      | error status => exact ahead
      | ok ack => exact ahead
  | @take item rest listening next =>
      simp only [listening, if_true, next, List.length_cons] at ahead
      simp only [listening, if_true, List.length_append, List.length_singleton,
        GatewayEvent.isPushed, Bool.false_eq_true, if_false]
      omega
  | hangUp listening =>
      simp only [listening, if_true] at ahead
      simp only [Bool.false_eq_true, if_false, GatewayEvent.isPushed]
      omega

/-- After the consumer has hung up, events are stored once at most. -/
theorem Flow.gone_step (flow : Flow registry history task)
    (step : Step service task event service' task') (before after : List GatewayEvent)
    (split : history ++ [event] = before ++ .hungUp :: after) :
    task'.listening = false ∧ after.countP GatewayEvent.isPushed ≤ stage task'.phase := by
  rcases snoc_split split with ⟨rfl, rfl, rfl⟩ | ⟨rest, rfl, whole⟩
  · cases step with
    | hangUp listening => exact ⟨rfl, Nat.zero_le _⟩
  · obtain ⟨gone, few⟩ := flow.gone before rest whole
    have closed : task.listening ≠ true := by simp [gone]
    rw [List.countP_append, List.countP_singleton]
    cases step with
    | receive batch phase | finish phase =>
        rw [phase] at few
        exact ⟨gone, Nat.le_trans few (Nat.zero_le _)⟩
    | push phase =>
        rw [phase] at few
        exact ⟨gone, Nat.succ_le_succ few⟩
    | count phase | acknowledge phase =>
        rw [phase] at few
        exact ⟨gone, few⟩
    | @refuse item phase _ =>
        rw [phase] at few
        cases item with
        | error status => exact ⟨gone, few⟩
        | ok ack => exact ⟨gone, few⟩
    | queue _ listening _ | take listening _ | hangUp listening => exact absurd listening closed

/-- Every step of a stream keeps it. -/
theorem Flow.step (flow : Flow registry history task) (same : service.registry = registry)
    (step : Step service task event service' task') :
    Flow registry (history ++ [event]) task' where
  aligned := flow.aligned_step same step
  handed := by
    rw [List.flatMap_append, flow.handed, filterMap_snoc, List.flatMap_append]
    cases step <;> rfl
  sent := flow.sent_step step
  room := by
    have room := flow.room
    cases step with
    | receive _ _ | finish _ | push _ | count _ | acknowledge _ | refuse _ _ => exact room
    | queue phase listening free =>
        rw [List.length_append]
        exact free
    | take listening next =>
        rw [next] at room
        exact Nat.le_of_succ_le room
    | hangUp listening => exact Nat.zero_le _
  ahead := flow.ahead_step step
  gone := flow.gone_step step

/-- A stream which has been opened has done nothing. -/
theorem Flow.opened (registry : PluginRegistry) : Flow registry [] opened where
  aligned := ⟨[], [], [], [], rfl, rfl, .nil, .running .receiving⟩
  handed := rfl
  sent := ⟨[], rfl, fun _ => rfl⟩
  room := Nat.zero_le _
  ahead := Nat.zero_le _
  gone := by simp

/-! ### What a stream does for the consumer of its answers -/

/-- What the consumer of the answers, which may hang up at any time, can tell of a stream. -/
structure Serves (registry : PluginRegistry) (history : List GatewayEvent) (task : StreamTask) :
    Prop where
  /-- It has taken one item for each of the first batches, in order. -/
  answers : ∃ answered rest, history.filterMap GatewayEvent.batch? = answered ++ rest ∧
    List.Forall₂ (StreamEvent.Answers registry) answered task.taken
  /-- The events of the batches have been handed over in order and with every field, those of
  the last perhaps not yet. -/
  handed : ∃ stored rest, history.filterMap GatewayEvent.batch? = stored ++ rest ∧
    rest.length ≤ 1 ∧
    history.flatMap GatewayEvent.handed =
      (stored.flatMap (·.events registry)).map Message.ofEvent ∧
    List.Forall₂ Event.Carries (stored.flatMap (·.events registry))
      (history.flatMap GatewayEvent.handed)
  /-- Events have been stored for 33 more batches at most than it has items. -/
  ahead : history.countP GatewayEvent.isPushed ≤ task.taken.length + 33
  /-- Once it has hung up, they are stored for one more batch at most. -/
  hungUp : ∀ before after, history = before ++ .hungUp :: after →
    after.countP GatewayEvent.isPushed ≤ 1

/-- What has been handed over of the batch at hand. -/
theorem LoopAt.handed {current : List IngestBatch} {phase : Option StreamPhase}
    {steps : List StreamEvent} (loopAt : LoopAt registry current phase steps) :
    ∃ stored rest, current = stored ++ rest ∧ rest.length ≤ 1 ∧
      steps.flatMap StreamEvent.messages =
        (stored.flatMap (·.events registry)).map Message.ofEvent := by
  cases loopAt with
  | ended => exact ⟨[], [], rfl, Nat.zero_le _, rfl⟩
  | running progress =>
      cases progress with
      | receiving => exact ⟨[], [], rfl, Nat.zero_le _, rfl⟩
      | @pushing batch events some decoded => exact ⟨[], [batch], rfl, Nat.le_refl _, rfl⟩
      | @counting batch events some decoded =>
          refine ⟨[batch], [], rfl, Nat.zero_le _, ?_⟩
          simp [StreamEvent.messages, decoded.events]
      | @acknowledging batch eventIds steps complete =>
          obtain ⟨messages, -⟩ := (complete ⟨eventIds, [], 0, 0⟩ rfl).spec
          refine ⟨[batch], [], rfl, Nat.zero_le _, ?_⟩
          simpa [StreamEvent.messages] using messages
      | @sending batch item steps complete =>
          obtain ⟨messages, -⟩ := complete.spec
          refine ⟨[batch], [], rfl, Nat.zero_le _, ?_⟩
          simpa [StreamEvent.messages] using messages

/-- Until the batch at hand has been answered, nothing is sent for it. -/
theorem LoopAt.item_eq_nil {current : List IngestBatch} {phase : Option StreamPhase}
    {steps : List StreamEvent} (loopAt : LoopAt registry current phase steps) :
    steps.filterMap StreamEvent.item = [] := by
  cases loopAt with
  | ended => rfl
  | running progress =>
      cases progress with
      | receiving | pushing _ _ | counting _ _ => rfl
      | @acknowledging batch eventIds steps complete =>
          obtain ⟨-, -, answer, items, -⟩ := (complete ⟨eventIds, [], 0, 0⟩ rfl).spec
          have length := congrArg List.length items
          rw [List.filterMap_append, List.length_append] at length
          have none : (steps.filterMap StreamEvent.item).length + 1 = 0 + 1 := length
          exact List.length_eq_zero_iff.mp (Nat.succ.inj none)
      | @sending batch item steps complete =>
          obtain ⟨-, -, answer, items, -⟩ := complete.spec
          have length := congrArg List.length items
          rw [List.filterMap_append, List.length_append] at length
          have none : (steps.filterMap StreamEvent.item).length + 1 = 0 + 1 := length
          exact List.length_eq_zero_iff.mp (Nat.succ.inj none)

/-- What every step keeps is what the consumer can tell. -/
theorem Flow.serves (flow : Flow registry history task) : Serves registry history task := by
  obtain ⟨done, current, parts, steps, batches, own, handles, loopAt⟩ := flow.aligned
  obtain ⟨doneHanded, -, answers⟩ := StreamEvent.handlesEach_spec handles
  obtain ⟨stored, rest, split, short, currentHanded⟩ := loopAt.handed
  obtain ⟨lost, sent, -⟩ := flow.sent
  have handed : history.flatMap GatewayEvent.handed =
      ((done ++ stored).flatMap (·.events registry)).map Message.ofEvent := by
    rw [flow.handed, own, List.flatMap_append, doneHanded, currentHanded, List.flatMap_append,
      List.map_append]
  refine ⟨?_, ⟨done ++ stored, rest, ?_, short, handed, ?_⟩, ?_, ?_⟩
  · rw [own, List.filterMap_append, loopAt.item_eq_nil, List.append_nil, List.append_assoc] at sent
    rw [sent] at answers
    refine ⟨done.take task.taken.length, done.drop task.taken.length ++ current, ?_, ?_⟩
    · rw [batches, ← List.append_assoc, List.take_append_drop]
    · have first := List.forall₂_take task.taken.length answers
      rwa [List.take_left] at first
  · rw [batches, split, List.append_assoc]
  · rw [handed]
    exact Message.forall₂_carries_ofEvent _
  · have ahead := flow.ahead
    have late := stage_le task.phase
    have room := flow.room
    simp only [channelSize] at ahead room
    split at ahead <;> omega
  · intro before after split
    exact Nat.le_trans (flow.gone before after split).2 (stage_le _)

end StreamTask

/-- In every run of a gateway, with any number of streams, unary calls and readers whose steps
come in any order, each stream answers its batches in order, one item for each, and hands
their events to the buffer in order. It stores no more than 33 batches ahead of what the
consumer of its answers has taken, and one more at most once that has hung up. -/
theorem gateway_serves_streams {service : GatewayService}
    {trace : List (Tasks.Label GatewayEvent)} {pool : Tasks.Pool GatewayService GatewayTask}
    (run : (gateway.system service).Runs trace pool) {place : Nat} {task : StreamTask}
    (isStream : pool.tasks[place]? = some (.stream task)) :
    task.Serves service.registry (Tasks.own place trace) := by
  have flows := Tasks.each_task (fun shared => shared.registry = service.registry)
    (fun history task => ∀ stream, task = .stream stream →
      stream.Flow service.registry history) rfl ?kept ?starts ?goesOn run isStream
  case kept =>
      rintro shared task event shared' task' same (⟨⟨⟩⟩ | ⟨⟨⟩⟩ | _) <;> exact same
  case starts =>
      rintro _ (_ | _ | _) stream ⟨⟩
      exact .opened service.registry
  case goesOn =>
      rintro history shared task event shared' task' same flows step stream rfl
      cases step with
      | stream step => exact (flows _ rfl).step same step
  exact (flows task rfl).serves

/-- The consumer hangs up while the events of its batch are on their way. -/
def hungUpRun : (gateway.system (.new (.new 5))).Execution :=
  (System.Execution.initial rfl : (gateway.system (.new (.new 5))).Execution)
    |>.snoc (.start .stream)
    |>.snoc (.did 0 rfl (.stream (.receive GatewayService.twoEvents rfl)))
    |>.snoc (.did 0 rfl (.stream (.hangUp rfl)))
    |>.snoc (.did 0 rfl (.stream (.push rfl)))
    |>.snoc (.did 0 rfl (.stream (.count rfl)))
    |>.snoc (.did 0 rfl (.stream (.acknowledge rfl)))
    |>.snoc (.did 0 rfl (.stream (.refuse rfl rfl)))

/-- They are stored, and then its loop ends without an answer. -/
theorem gateway_serves_streams_hungUp :
    StreamTask.Serves .new (Tasks.own 0 hungUpRun.trace) ⟨none, false, [], []⟩ ∧
      (Tasks.own 0 hungUpRun.trace).countP GatewayEvent.isPushed = 1 ∧
      hungUpRun.state.shared.buffer.len = 2 :=
  ⟨gateway_serves_streams hungUpRun.runs rfl, rfl, rfl⟩

end Polku
