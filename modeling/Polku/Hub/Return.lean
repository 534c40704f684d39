import Polku.Hub.Delivery
import Polku.Hub.Drain
import Polku.Semantics.Fair

/-!
# The hub returns

Once all senders are gone, `HubRunner::run` returns if neither of its two tasks waits for ever
while it could go on: the receive loop works off the channel and signals, and then the flush
loop empties the buffer. By then everything that was kept has been offered to its emitters.
-/

namespace Polku.Hub

open Semantics Buffer HubHistory

/-- A step of the receive loop, or of what follows it. -/
def ReceiveStep (self next : HubState) : Prop := ∃ event, HubState.ReceiverStep self event next

/-- The tasks of a hub. -/
inductive HubTask where
  | receive
  | flush

/-- The steps of a task. -/
def HubTask.step (hub : Hub) : HubTask → HubState → HubState → Prop
  | .receive => ReceiveStep
  | .flush => FlushStep hub

/-- The channel is closed, and both tasks keep to the order of shutting down. -/
structure ChannelClosed (machine : HubState) : Prop where
  closed : machine.closed = true
  shutsDown : ShutsDown machine

/-- The task which has to go on: the flush loop while the other waits for it. -/
def nextTask (self : HubState) : HubTask :=
  if self.receiver = .joining ∧ self.flusher ≠ .exited then .flush else .receive

/-- What the receive loop has left to do. -/
def receiveLeft (self : HubState) : Nat :=
  match self.receiver with
  | .receiving => 3 * self.channel.length + 3
  | .processing _ => 3 * self.channel.length + 5
  | .pushing _ => 3 * self.channel.length + 4
  | .closing => 2
  | .joining => 1
  | .returned => 0

/-- What is left before the hub returns. -/
def returnLeft (hub : Hub) (self : HubState) : Nat × Nat × Nat :=
  (receiveLeft self, if self.receiver = .joining then leftToDo hub self else (0, 0))

variable {hub : Hub} {self next : HubState} {event : HubEvent}

/-- Every step of the receive loop does some of it. -/
theorem receiveLeft_lt (step : HubState.ReceiverStep self event next) :
    receiveLeft next < receiveLeft self := by
  cases step with
  | receive phase waiting =>
      simp only [receiveLeft, phase, waiting, List.length_cons]
      omega
  | finish phase none isClosed =>
      simp only [receiveLeft, phase]
      omega
  | filter phase dropped | pass phase passed | push phase pushed | signal phase
  | join phase done =>
      simp only [receiveLeft, phase]
      omega

/-- What has returned takes no step. -/
theorem ReceiveStep.running (step : ReceiveStep self next) : self.receiver ≠ .returned := by
  obtain ⟨event, step⟩ := step
  cases step with
  | receive phase _ | finish phase _ _ | filter phase _ | pass phase _ | push phase _
  | signal phase | join phase _ => simp [phase]

/-- Nor does a flush loop which has exited. -/
theorem FlushStep.running (step : FlushStep hub self next) : self.flusher ≠ .exited := by
  obtain ⟨event, step⟩ := step
  cases step with
  | checkShutdown phase | checkEmpty phase | wake phase | drain phase _ | measure phase
  | skip phase _ _ | offer _ phase _ _ | finish phase _ => simp [phase]

/-- Until the hub has returned, the receive loop goes on, unless it waits for the flush loop. -/
theorem exists_receiveStep (closed : self.closed = true) (running : self.receiver ≠ .returned)
    (joins : self.receiver = .joining → self.flusher = .exited) :
    ∃ next, ReceiveStep self next := by
  cases phase : self.receiver with
  | receiving =>
      cases waiting : self.channel with
      | nil => exact ⟨_, _, .finish phase waiting closed⟩
      | cons msg rest => exact ⟨_, _, .receive phase waiting⟩
  | processing msg =>
      rcases processed : self.middleware.process msg with ⟨_ | result, middleware⟩
      · exact ⟨_, _, .filter phase processed⟩
      · exact ⟨_, _, .pass phase processed⟩
  | pushing msg => exact ⟨_, _, .push phase rfl⟩
  | closing => exact ⟨_, _, .signal phase⟩
  | joining => exact ⟨_, _, .join phase (joins phase)⟩
  | returned => exact absurd phase running

/-- While the receive loop waits for it, every step of the flush loop does some of what is
left. -/
theorem returnLeft_flush (positive : 0 < hub.batchSize) (shutsDown : ShutsDown self)
    (joining : self.receiver = .joining) (step : HubState.FlusherStep hub self event next) :
    WellFoundedRelation.rel (returnLeft hub next) (returnLeft hub self) := by
  have shuttingDown : ShuttingDown hub self :=
    ⟨shutsDown.signalled.mpr (.inl joining),
      fun exited => List.isEmpty_iff.mpr (shutsDown.exited exited).2, .inl positive⟩
  have lower := (FlushStep.descends shuttingDown ⟨event, step⟩).2
  obtain ⟨-, -, sameReceiver, -⟩ := step.frame
  rw [returnLeft, returnLeft, receiveLeft, receiveLeft, sameReceiver, joining]
  exact .right _ lower

/-- What is left before a hub returns, and which of its tasks does it. -/
theorem helps_return (hub : Hub) (positive : 0 < hub.batchSize) :
    System.Behavior.Helps (HubState.system hub) (fun self => self.receiver = .returned)
      (HubTask.step hub) ChannelClosed nextTask (returnLeft hub) where
  progress self closing running := by
    unfold nextTask
    split
    case isTrue joins => exact exists_flushStep hub joins.2
    case isFalse receives =>
        apply exists_receiveStep closing.closed running
        intro joining
        by_contra flushing
        exact receives ⟨joining, flushing⟩
  descends self next closing running step := by
    unfold nextTask at step
    split at step
    case isTrue joins =>
        obtain ⟨event, step⟩ := step
        exact returnLeft_flush positive closing.shutsDown joins.1 step
    case isFalse =>
        obtain ⟨event, step⟩ := step
        exact .left _ _ (receiveLeft_lt step)
  steady self event next closing running step := by
    have shutsDown := closing.shutsDown.step step
    cases step with
    | sender step =>
        have closed := closing.closed
        cases step with
        | send msg isOpen room =>
            rw [closed] at isOpen
            cases isOpen
        | close isOpen =>
            rw [closed] at isOpen
            cases isOpen
    | receiver step =>
        have closed := step.frame.2.1.trans closing.closed
        exact ⟨⟨closed, shutsDown⟩, .inl (.left _ _ (receiveLeft_lt step))⟩
    | flusher step =>
        obtain ⟨sameChannel, sameClosed, sameReceiver, -⟩ := step.frame
        refine ⟨⟨sameClosed.trans closing.closed, shutsDown⟩, ?_⟩
        by_cases joining : self.receiver = .joining
        · exact .inl (returnLeft_flush positive closing.shutsDown joining step)
        · -- The receive loop goes on as before.
          refine .inr ⟨?_, ?_⟩
          · simp only [returnLeft, receiveLeft, sameReceiver, sameChannel, joining, if_false]
          · simp only [nextTask, sameReceiver, joining, false_and, if_false]

/-- What holds when a hub has returned. -/
structure Returned (hub : Hub) (trace : List HubEvent) (machine : HubState) : Prop where
  returned : machine.receiver = .returned
  /-- Nothing waits in the channel or in the buffer. -/
  channel : machine.channel = []
  buffer : machine.buffer.messages = []
  /-- Each emitter has been offered each kept message which is routed to it, in order and with
  every field. -/
  offered : ∀ emitter name, hub.emitters[emitter]? = some name →
    List.Forall₂ Event.Carries (slices emitter trace).flatten
      ((kept hub trace).filter (·.shouldRouteTo name))

/-- All of it holds whenever a run has returned. -/
theorem Returned.of_runs {trace : List HubEvent} (run : (HubState.system hub).Runs trace self)
    (returned : self.receiver = .returned) : Returned hub trace self := by
  have holds := Delivering.of_runs run
  refine ⟨returned, (holds.shutsDown.drainedChannel (.inr (.inr returned))).2,
    (holds.shutsDown.exited (holds.shutsDown.returned returned)).2, ?_⟩
  exact fun emitter name isEmitter => holds.offered returned isEmitter

/-- A behavior which is fair to both tasks of a hub is fair to each. -/
private theorem fair_tasks {behavior : (HubState.system hub).Behavior}
    (fairReceive : behavior.Fair ReceiveStep) (fairFlush : behavior.Fair (FlushStep hub))
    (task : HubTask) : behavior.Fair (HubTask.step hub task) := by
  cases task with
  | receive => exact fairReceive
  | flush => exact fairFlush

/-- In a behavior which is fair to both tasks, the hub returns once its channel is closed. -/
theorem eventually_returned (positive : 0 < hub.batchSize)
    {behavior : (HubState.system hub).Behavior} (fairReceive : behavior.Fair ReceiveStep)
    (fairFlush : behavior.Fair (FlushStep hub)) {time : Nat}
    (closed : (behavior.state time).closed = true) :
    ∃ later, time ≤ later ∧ Returned hub (behavior.history later) (behavior.state later) := by
  have closing : ChannelClosed (behavior.state time) :=
    ⟨closed, (Delivering.of_runs (behavior.runs time)).shutsDown⟩
  obtain ⟨later, after, returned⟩ := (helps_return hub positive).eventually behavior
    (fair_tasks fairReceive fairFlush) closing
  exact ⟨later, after, .of_runs (behavior.runs later) returned⟩

/-- In every behavior of a hub with a batch size of at least one in which neither task waits
for ever while it could go on, the hub returns once its channel is closed, whatever the
emitters answer, and then each emitter has been offered what was kept for it. -/
theorem hub_returns (hub : Hub) (positive : 0 < hub.batchSize)
    (behavior : (HubState.system hub).Behavior) (fairReceive : behavior.Fair ReceiveStep)
    (fairFlush : behavior.Fair (FlushStep hub)) {time : Nat}
    (closed : (behavior.state time).closed = true) :
    ∃ later, time ≤ later ∧
      Returned hub (behavior.history later) (behavior.state later) :=
  eventually_returned positive fairReceive fairFlush closed

/-- Once the channel is closed it is closed. -/
theorem closed_of_step (step : HubState.Step hub self .closed next) : next.closed = true := by
  cases step with
  | sender step =>
      cases step
      rfl
  | receiver step => cases step
  | flusher step => cases step

/-- A hub which returns after two messages does so after its channel has closed, in a behavior
where nothing happens when it has returned. -/
theorem hub_returns_small :
    ∃ (behavior : (HubState.system smallHub).Behavior) (time later : Nat),
      behavior.label time = some .closed ∧ time < later ∧
        Returned smallHub (behavior.history later) (behavior.state later) := by
  obtain ⟨behavior, last, history, -, ended⟩ := smallRun.runs.exists_behavior
  have receives : behavior.Fair ReceiveStep :=
    behavior.fair_of_ended ended fun next step => step.running rfl
  have flushes : behavior.Fair (FlushStep smallHub) :=
    behavior.fair_of_ended ended fun next step => step.running rfl
  have closes : .closed ∈ behavior.history last := by
    rw [history]
    decide
  obtain ⟨time, -, happens⟩ := behavior.mem_history.mp closes
  have closed := closed_of_step (behavior.moves time _ happens)
  obtain ⟨later, after, returned⟩ :=
    hub_returns smallHub (by decide) behavior receives flushes closed
  exact ⟨behavior, time, later, happens, after, returned⟩

end Polku.Hub
