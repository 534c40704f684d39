import Polku.Hub.PipelineDelivery

/-!
# A hub with resilient emitters returns

The wrappers do not keep the flush loop from going on: a call makes at most one attempt and the
retries. So the hub returns once all senders are gone, provided that the wrapped emitters
answer.
-/

namespace Polku

open Data Semantics

/-! ### The steps of a call -/

namespace StackCall

variable {layers : ResilientEmitter} {shared shared' : StackShared} {call call' : StackCall}
  {event : StackEvent}

/-- What a call has left to do at most. -/
def phaseLeft (layers : ResilientEmitter) : StackPhase → Nat
  | .entering => 3 * layers.maxAttempts.toNat + 8
  | .starting attempt => 3 * (layers.maxAttempts.toNat - attempt.toNat) + 7
  | .pausing attempt => 3 * (layers.maxAttempts.toNat - attempt.toNat) + 6
  | .waiting attempt => 3 * (layers.maxAttempts.toNat - attempt.toNat) + 5
  | .recovering => 4
  | .recording _ => 3
  | .capturing _ => 2
  | .returned _ => 0

/-- After its result is recorded a call may have something left to capture. -/
theorem phaseLeft_afterRecording (layers : ResilientEmitter) (result : EmitResult) :
    phaseLeft layers (.afterRecording layers result) ≤ 2 := by
  rcases result with error | success
  · simp only [StackPhase.afterRecording]
    split
    · exact Nat.le_refl 2
    · exact Nat.zero_le 2
  · exact Nat.zero_le 2

/-- After the retries it may have something left to record. -/
theorem phaseLeft_afterRetries (layers : ResilientEmitter) (result : EmitResult) :
    phaseLeft layers (.afterRetries layers result) ≤ 3 := by
  simp only [StackPhase.afterRetries]
  split
  · exact Nat.le_refl 3
  · exact (phaseLeft_afterRecording layers result).trans (Nat.le_succ 2)

/-- After an attempt there is one retry less. -/
theorem phaseLeft_afterAttempt (layers : ResilientEmitter) (attempt : UInt32)
    (result : EmitResult) :
    phaseLeft layers (.afterAttempt layers attempt result) <
      phaseLeft layers (.waiting attempt) := by
  have later := phaseLeft_afterRetries layers
  have before : 4 < phaseLeft layers (.waiting attempt) := by
    simp only [phaseLeft]
    omega
  rcases result with error | success
  · simp only [StackPhase.afterAttempt]
    split
    case isTrue more =>
        have bound := UInt32.lt_iff_toNat_lt.mp more
        simp only [phaseLeft, CircuitBreakerEmitter.toNat_succ more]
        omega
    case isFalse => exact (later _).trans_lt (Nat.lt_of_succ_lt before)
  · simp only [StackPhase.afterAttempt]
    split
    · exact before
    · exact (later _).trans_lt (Nat.lt_of_succ_lt before)

/-- Each step of a call does some of it. -/
theorem phaseLeft_lt (step : Step layers shared call event shared' call') :
    phaseLeft layers call'.phase < phaseLeft layers call.phase := by
  cases step with
  | allow later allowed => simp [phaseLeft]
  | reject later refused =>
      have before : 2 < phaseLeft layers .entering := by
        simp only [phaseLeft]
        omega
      exact (phaseLeft_afterRecording layers (.error .notReady)).trans_lt before
  | pause jitter positive => simp [phaseLeft]
  | call jitter none => simp [phaseLeft]
  | resume => simp [phaseLeft]
  | answer result => exact phaseLeft_afterAttempt layers _ result
  | recover => exact Nat.lt_succ_of_le (phaseLeft_afterRetries layers (.ok ()))
  | succeed => exact Nat.lt_succ_of_le (phaseLeft_afterRecording layers (.ok ()))
  | @fail batch error now later =>
      exact Nat.lt_succ_of_le (phaseLeft_afterRecording layers (.error error))
  | capture world chosen => simp [phaseLeft]

/-- A call which has not returned goes on, if the wrapped emitter answers. -/
theorem exists_step {batch : List Event} {own : List StackEvent} {phase : StackPhase}
    (reaches : Reaches layers batch own phase) (running : ∀ result, phase ≠ .returned result)
    (shared : StackShared) :
    ∃ event shared' call', Step layers shared ⟨batch, phase⟩ event shared' call' := by
  cases phase with
  | entering =>
      rcases asked : shared.breaker.shouldAllowRequest shared.clock with ⟨_ | _, breaker⟩
      · exact ⟨_, _, _, .reject (Nat.le_refl _) asked⟩
      · exact ⟨_, _, _, .allow (Nat.le_refl _) asked⟩
  | starting attempt =>
      by_cases none : layers.delay attempt 0 = 0
      · exact ⟨_, _, _, .call 0 none⟩
      · exact ⟨_, _, _, .pause 0 none⟩
  | pausing attempt => exact ⟨_, _, _, .resume⟩
  | waiting attempt => exact ⟨_, _, _, .answer (.ok ())⟩
  | recovering => exact ⟨_, _, _, .recover⟩
  | recording result =>
      rcases result with error | success
      · exact ⟨_, _, _, .fail (Nat.le_refl _)⟩
      · exact ⟨_, _, _, .succeed⟩
  | capturing error =>
      obtain ⟨⟨buffer, config⟩, chosen⟩ := Option.isSome_iff_exists.mp reaches.1
      exact ⟨_, _, _, .capture ⟨fun _ => 0, 0, fun _ => 0, 0⟩ chosen⟩
  | returned result => exact absurd rfl (running result)

end StackCall

/-! ### The steps of the hub -/

/-- Senders take steps only while the channel is open. -/
theorem HubState.SenderStep.closed_eq_false {self next : HubState} {event : HubEvent}
    (step : HubState.SenderStep self event next) : self.closed = false := by
  cases step with
  | send msg isOpen room => exact isOpen
  | close isOpen => exact isOpen

/-- The task of the hub which takes a step, if one of them does. -/
def HubEvent.task? : HubEvent → Option Hub.HubTask
  | received _ | ended | processed _ | pushed _ | signalled | joined => some .receive
  | checkedShutdown | checkedEmpty | woken | drained _ | measured | skipped _ | offered _ _ _
  | flushed => some .flush
  | sent _ | closed => none

/-- The task of the hub which takes a step, inside of an emitter or not, if one of them does. -/
def PipelineEvent.task? : PipelineEvent → Option Hub.HubTask
  | hub event => event.task?
  | called _ _ => some .flush
  | stack _ (.owned _) => none
  | stack _ _ => some .flush

namespace Pipeline

/-- The steps of a task. -/
def TaskStep (self : Pipeline) (task : Hub.HubTask) (state next : PipelineState) : Prop :=
  ∃ event, Step self state event next ∧ event.task? = some task

variable {self : Pipeline} {state next : PipelineState} {event : PipelineEvent}

/-- The call which the flush loop has made has come to its place on the emitter whose turn it
is, with the slice which is routed there. -/
def Calling (self : Pipeline) (state : PipelineState) : Prop :=
  ∀ call, state.call = some call → ∃ events position layers own,
    state.hub.flusher = .emitting events position ∧ self.layers[position]? = some layers ∧
    Hub.slice events layers.build.name = some call.batch ∧
    StackCall.Reaches layers call.batch own call.phase

/-- The hub is shutting down, and each emitter has what its calls share. -/
structure Closing (pipeline : Pipeline) (state : PipelineState) : Prop where
  hub : Hub.ChannelClosed state.hub
  calling : Calling pipeline state
  shared : state.shared.length = pipeline.layers.length

/-- What the call which the flush loop makes has left to do. -/
def callLeft (self : Pipeline) (state : PipelineState) : Nat :=
  match state.hub.flusher with
  | .emitting _ position =>
      match self.layers[position]?, state.call with
      | some layers, some call => StackCall.phaseLeft layers call.phase
      | some layers, none => StackCall.phaseLeft layers (.first layers) + 1
      | none, _ => 0
  | _ => 0

/-- What is left before the hub returns, and before the call which it waits for does. -/
def returnLeft (self : Pipeline) (state : PipelineState) : (Nat × Nat × Nat) × Nat :=
  (Hub.returnLeft self.hub state.hub,
    if state.hub.receiver = .joining then callLeft self state else 0)

/-- A call is made where its place is. -/
theorem Calling.step (calling : Calling self state) (step : Step self state event next) :
    Calling self next := by
  intro call' isCall
  cases step with
  | sender step =>
      obtain ⟨-, -, -, -, flusher, -⟩ := step.frame self.hub
      rw [flusher]
      exact calling call' isCall
  | receiver step =>
      rw [step.frame.1]
      exact calling call' isCall
  | flusher idle noOffer step =>
      rw [idle] at isCall
      cases isCall
  | @call events position layers routed idle phase isEmitter sliced =>
      obtain rfl := Option.some.inj isCall
      exact ⟨events, position, layers, [], phase, isEmitter, sliced, .first layers routed⟩
  | @emit events position layers call shared inside shared' _ before phase isEmitter isShared
      step =>
      obtain rfl := Option.some.inj isCall
      obtain ⟨events', position', layers', own, phase', isEmitter', sliced, reaches⟩ :=
        calling call before
      obtain ⟨rfl, rfl⟩ := Flusher.emitting.inj (phase'.symm.trans phase)
      obtain rfl := Option.some.inj (isEmitter'.symm.trans isEmitter)
      obtain ⟨same, reachesNext⟩ := reaches.step step
      exact ⟨events', position', layers', _, phase, isEmitter, same ▸ sliced, reachesNext⟩
  | finish before step => cases isCall
  | owner call isShared => exact calling call' isCall

/-- What the calls on the emitters share stays in place. -/
theorem length_shared (step : Step self state event next) :
    next.shared.length = state.shared.length := by
  cases step with
  | sender | receiver | flusher | call | finish => rfl
  | emit | owner => exact List.length_set

/-- A task which takes a step on the receive loop's side is the receive loop. -/
theorem receive_of_task (step : Step self state event next)
    (isTask : event.task? = some .receive) :
    ∃ hubEvent, HubState.ReceiverStep state.hub hubEvent next.hub := by
  cases step with
  | sender step => cases step <;> cases isTask
  | receiver step => exact ⟨_, step⟩
  | flusher idle noOffer step => cases step <;> cases isTask
  | call => cases isTask
  | emit calling phase isEmitter isShared step => cases step <;> cases isTask
  | finish calling step => cases isTask
  | owner => cases isTask

/-- A step of no task is one of the senders, or one of those who have a failure buffer. -/
theorem sender_or_owner (step : Step self state event next) (noTask : event.task? = none) :
    (∃ hubEvent, HubState.SenderStep state.hub hubEvent next.hub) ∨
      next.hub = state.hub ∧ next.call = state.call := by
  cases step with
  | sender step => exact .inl ⟨_, step⟩
  | receiver step => cases step <;> cases noTask
  | flusher idle noOffer step => cases step <;> cases noTask
  | call => cases noTask
  | emit calling phase isEmitter isShared step => cases step <;> cases noTask
  | finish calling step => cases noTask
  | owner => exact .inr ⟨rfl, rfl⟩

/-- A step of the flush loop is one of the hub, or does some of the call which it makes. -/
theorem flush_of_task (step : Step self state event next) (isTask : event.task? = some .flush) :
    (∃ hubEvent, HubState.FlusherStep self.hub state.hub hubEvent next.hub) ∨
      next.hub = state.hub ∧ callLeft self next < callLeft self state := by
  cases step with
  | sender step => cases step <;> cases isTask
  | receiver step => cases step <;> cases isTask
  | flusher idle noOffer step => exact .inl ⟨_, step⟩
  | call idle phase isEmitter sliced =>
      refine .inr ⟨rfl, ?_⟩
      simp only [callLeft, phase, isEmitter, idle]
      exact Nat.lt_succ_self _
  | emit calling phase isEmitter isShared step =>
      refine .inr ⟨rfl, ?_⟩
      simp only [callLeft, phase, isEmitter, calling]
      exact StackCall.phaseLeft_lt step
  | finish calling step => exact .inl ⟨_, step⟩
  | owner => cases isTask

/-- While the receive loop waits for the flush loop, its steps do some of what is left. -/
theorem returnLeft_lt (closing : Closing self state) (positive : 0 < self.hub.batchSize)
    (joining : state.hub.receiver = .joining) (step : Step self state event next)
    (isTask : event.task? = some .flush) :
    WellFoundedRelation.rel (returnLeft self next) (returnLeft self state) := by
  rcases flush_of_task step isTask with ⟨hubEvent, hubStep⟩ | ⟨sameHub, lower⟩
  · exact .left _ _ (Hub.returnLeft_flush positive closing.hub.shutsDown joining hubStep)
  · rw [returnLeft, returnLeft, sameHub, if_pos joining, if_pos joining]
    exact .right _ lower

/-- Until then, they leave the receive loop to do what is left. -/
theorem returnLeft_eq (notJoining : state.hub.receiver ≠ .joining)
    (step : Step self state event next) (isTask : event.task? = some .flush) :
    returnLeft self next = returnLeft self state ∧
      Hub.nextTask next.hub = Hub.nextTask state.hub := by
  rcases flush_of_task step isTask with ⟨hubEvent, hubStep⟩ | ⟨sameHub, -⟩
  · obtain ⟨sameChannel, -, sameReceiver, -⟩ := hubStep.frame
    refine ⟨?_, ?_⟩
    · simp only [returnLeft, Hub.returnLeft, Hub.receiveLeft, sameReceiver, sameChannel,
        notJoining, if_false]
    · simp only [Hub.nextTask, sameReceiver, notJoining, false_and, if_false]
  · rw [returnLeft, returnLeft, sameHub, if_neg notJoining, if_neg notJoining]
    exact ⟨rfl, rfl⟩

/-- While it has not exited, the flush loop goes on, if the wrapped emitters answer. -/
theorem exists_flush (closing : Closing self state) (running : state.hub.flusher ≠ .exited) :
    ∃ next, TaskStep self .flush state next := by
  cases isCall : state.call with
  | none =>
      obtain ⟨hubNext, hubEvent, step⟩ := Hub.exists_flushStep self.hub running
      by_cases offers : ∃ emitter events succeeded, hubEvent = .offered emitter events succeeded
      · obtain ⟨emitter, events, succeeded, rfl⟩ := offers
        cases step with
        | offer _ phase isName sliced =>
            rw [self.emitters, List.getElem?_map] at isName
            obtain ⟨layers, isEmitter, rfl⟩ := Option.map_eq_some_iff.mp isName
            exact ⟨_, _, .call isCall phase isEmitter sliced, rfl⟩
      · have noOffer : ∀ emitter events succeeded,
            hubEvent ≠ .offered emitter events succeeded :=
          fun emitter events succeeded same => offers ⟨emitter, events, succeeded, same⟩
        refine ⟨_, _, .flusher isCall noOffer step, ?_⟩
        cases step <;> rfl
  | some call =>
      obtain ⟨events, position, layers, own, phase, isEmitter, sliced, reaches⟩ :=
        closing.calling call isCall
      obtain ⟨batch, place⟩ := call
      by_cases isReturned : ∃ result, place = .returned result
      · obtain ⟨result, rfl⟩ := isReturned
        have isName : self.hub.emitters[position]? = some layers.build.name := by
          rw [self.emitters, List.getElem?_map, isEmitter]
          rfl
        exact ⟨_, _, .finish isCall (.offer _ phase isName sliced), rfl⟩
      · have within : position < state.shared.length := by
          rw [closing.shared]
          exact (List.getElem?_eq_some_iff.mp isEmitter).1
        obtain ⟨inside, shared', call', step⟩ := StackCall.exists_step reaches
          (fun result same => isReturned ⟨result, same⟩) state.shared[position]
        refine ⟨_, _, .emit isCall phase isEmitter (List.getElem?_eq_getElem within) step, ?_⟩
        cases step <;> rfl

/-- What is left before a hub with resilient emitters returns, and which task does it. -/
theorem helps_return (self : Pipeline) (positive : 0 < self.hub.batchSize) :
    System.Behavior.Helps self.system (fun state => state.hub.receiver = .returned)
      (TaskStep self) (Closing self) (fun state => Hub.nextTask state.hub)
      (returnLeft self) where
  progress state closing running := by
    unfold Hub.nextTask
    split
    case isTrue joins => exact exists_flush closing joins.2
    case isFalse receives =>
        have joins : state.hub.receiver = .joining → state.hub.flusher = .exited := by
          intro joining
          by_contra flushing
          exact receives ⟨joining, flushing⟩
        obtain ⟨hubNext, hubEvent, step⟩ :=
          Hub.exists_receiveStep closing.hub.closed running joins
        refine ⟨_, _, .receiver step, ?_⟩
        cases step <;> rfl
  descends state next closing running step := by
    obtain ⟨event, step, isTask⟩ := step
    unfold Hub.nextTask at isTask
    split at isTask
    case isTrue joins => exact returnLeft_lt closing positive joins.1 step isTask
    case isFalse =>
        obtain ⟨hubEvent, step⟩ := receive_of_task step isTask
        exact .left _ _ (.left _ _ (Hub.receiveLeft_lt step))
  steady state event next closing running step := by
    have hubClosed : Hub.ChannelClosed next.hub := by
      cases visible : event.hub? with
      | none => exact self.refines.hidden trivial step visible ▸ closing.hub
      | some hubEvent =>
          exact ((Hub.helps_return self.hub positive).steady _ hubEvent _ closing.hub running
            (self.refines.seen trivial step visible)).1
    refine ⟨⟨hubClosed, closing.calling.step step, (length_shared step).trans closing.shared⟩,
      ?_⟩
    cases isTask : event.task? with
    | none =>
        rcases sender_or_owner step isTask with ⟨hubEvent, sends⟩ | ⟨sameHub, sameCall⟩
        · have isOpen := sends.closed_eq_false
          rw [closing.hub.closed] at isOpen
          cases isOpen
        · refine .inr ⟨?_, congrArg Hub.nextTask sameHub⟩
          simp only [returnLeft, callLeft, sameHub, sameCall]
    | some task =>
        cases task with
        | receive =>
            obtain ⟨hubEvent, step⟩ := receive_of_task step isTask
            exact .inl (.left _ _ (.left _ _ (Hub.receiveLeft_lt step)))
        | flush =>
            by_cases joining : state.hub.receiver = .joining
            · exact .inl (returnLeft_lt closing positive joining step isTask)
            · exact .inr (returnLeft_eq joining step isTask)

/-- In every run a call is made where its place is, and each emitter has what its calls share. -/
theorem calling_of_runs {trace : List PipelineEvent} (run : self.system.Runs trace state) :
    Calling self state ∧ state.shared.length = self.layers.length := by
  apply run.history fun _ (state : PipelineState) =>
    Calling self state ∧ state.shared.length = self.layers.length
  case initial =>
      intro state valid
      refine ⟨?_, ?_⟩
      · intro call isCall
        rw [valid.call] at isCall
        cases isCall
      · obtain ⟨clock, isShared⟩ := valid.shared
        rw [isShared, List.length_map]
  case preserved =>
      intro trace state event next _ holds step
      exact ⟨holds.1.step step, (length_shared step).trans holds.2⟩

/-- In every behavior of a hub with resilient emitters in which neither task waits for ever
while it could go on, so that pauses end and the wrapped emitters answer each attempt somehow,
the hub returns once its channel is closed, and then each emitter has been offered what was
kept for it. -/
theorem pipeline_returns (pipeline : Pipeline) (positive : 0 < pipeline.hub.batchSize)
    (behavior : pipeline.system.Behavior)
    (fairReceive : behavior.Fair (TaskStep pipeline .receive))
    (fairFlush : behavior.Fair (TaskStep pipeline .flush)) {time : Nat}
    (closed : (behavior.state time).hub.closed = true) :
    ∃ later, time ≤ later ∧
      Hub.Returned pipeline.hub (PipelineHistory.hub (behavior.history later))
        (behavior.state later).hub := by
  have hubRun := pipeline.hub_runs (behavior.runs time)
  obtain ⟨calling, isShared⟩ := calling_of_runs (behavior.runs time)
  have closing : Closing pipeline (behavior.state time) :=
    ⟨⟨closed, (Hub.Delivering.of_runs hubRun).shutsDown⟩, calling, isShared⟩
  have fair : ∀ task, behavior.Fair (TaskStep pipeline task) := by
    rintro (_ | _)
    · exact fairReceive
    · exact fairFlush
  obtain ⟨later, after, returned⟩ :=
    (pipeline.helps_return positive).eventually behavior fair closing
  exact ⟨later, after, .of_runs (pipeline.hub_runs (behavior.runs later)) returned⟩

/-- The hub whose emitter fails once does so after its channel has closed, in a behavior where
nothing happens when it has returned. -/
theorem pipeline_returns_captured :
    ∃ (behavior : capturingPipeline.system.Behavior) (time later : Nat),
      behavior.label time = some (.hub .closed) ∧ time < later ∧
        Hub.Returned capturingPipeline.hub (PipelineHistory.hub (behavior.history later))
          (behavior.state later).hub := by
  obtain ⟨behavior, last, history, -, ended⟩ := capturingRun.runs.exists_behavior
  have receives : behavior.Fair (TaskStep capturingPipeline .receive) := by
    refine behavior.fair_of_ended ended ?_
    rintro next ⟨event, step, isTask⟩
    obtain ⟨hubEvent, step⟩ := receive_of_task step isTask
    exact Hub.ReceiveStep.running ⟨hubEvent, step⟩ rfl
  have flushes : behavior.Fair (TaskStep capturingPipeline .flush) := by
    refine behavior.fair_of_ended ended ?_
    rintro next ⟨event, step, isTask⟩
    rcases flush_of_task step isTask with ⟨hubEvent, step⟩ | ⟨-, lower⟩
    · exact Hub.FlushStep.running ⟨hubEvent, step⟩ rfl
    · exact Nat.not_lt_zero _ lower
  have closes : .hub .closed ∈ behavior.history last := by
    have second : capturingRun.trace[1]? = some (.hub .closed) := rfl
    rw [history]
    exact List.mem_of_getElem? second
  obtain ⟨time, -, happens⟩ := behavior.mem_history.mp closes
  have closed := Hub.closed_of_step
    (capturingPipeline.refines.seen trivial (behavior.moves time _ happens) rfl)
  obtain ⟨later, after, returned⟩ :=
    pipeline_returns capturingPipeline (by decide) behavior receives flushes closed
  exact ⟨behavior, time, later, happens, after, returned⟩

end Pipeline

end Polku
