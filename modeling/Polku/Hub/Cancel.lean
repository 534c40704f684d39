import Polku.Hub.Return

/-!
# A cancelled run

The future of `HubRunner::run` may be dropped where it awaits something, as by a timeout. The
channel is then closed and what waits in it is lost, but the flush loop is a task of its own:
as long as the emitters answer, it still delivers what is in the buffer. If shutdown was not
signalled before, it never is, and the flush loop does not end.
-/

namespace Polku

open Data Semantics Buffer

namespace HubState

/-- Where `HubRunner::run` awaits something. -/
def awaits (self : HubState) : Bool :=
  match self.receiver with
  | .receiving | .processing _ | .joining => true
  | .pushing _ | .closing | .returned => false

/-- What is left of a hub whose `HubRunner::run` is dropped, with its channel. -/
def cancel (self : HubState) : HubState := { self with channel := [], closed := true }

end HubState

/-- A hub, and whether the future of its `HubRunner::run` has been dropped. -/
structure CancelState where
  hub : HubState
  cancelled : Bool

/-- What a step did: one of the hub, or the future was dropped, with the messages it had not
processed yet. -/
inductive CancelEvent where
  | hub (event : HubEvent)
  | cancelled (lost : List Message)

/-- The step of the hub, if it was one. -/
def CancelEvent.hub? : CancelEvent → Option HubEvent
  | hub event => some event
  | cancelled _ => none

/-- The messages lost by a step. -/
def CancelEvent.lost : CancelEvent → List Message
  | hub _ => []
  | cancelled lost => lost

namespace CancelHistory

/-- The steps of the hub. -/
def hub (trace : List CancelEvent) : List HubEvent := trace.filterMap CancelEvent.hub?

/-- The messages lost when the future was dropped. -/
def lost (trace : List CancelEvent) : List Message := trace.flatMap CancelEvent.lost

variable (trace : List CancelEvent) (event : CancelEvent)

@[simp] theorem hub_snoc : hub (trace ++ [event]) = hub trace ++ event.hub?.toList :=
  filterMap_snoc _ trace event

@[simp] theorem lost_snoc : lost (trace ++ [event]) = lost trace ++ event.lost := by
  simp [lost]

end CancelHistory

namespace CancelState

/-- The steps of a hub, until the future of `HubRunner::run` is dropped, and then those of the
flush loop. -/
inductive Step (hub : Hub) : CancelState → CancelEvent → CancelState → Prop where
  | run {self event next} (step : HubState.Step hub self event next) :
      Step hub ⟨self, false⟩ (.hub event) ⟨next, false⟩
  | cancel {self} (awaits : self.awaits = true) :
      Step hub ⟨self, false⟩ (.cancelled (Hub.input self.receiver ++ self.channel))
        ⟨self.cancel, true⟩
  | flush {self event next} (step : HubState.FlusherStep hub self event next) :
      Step hub ⟨self, true⟩ (.hub event) ⟨next, true⟩

/-- The runs of a hub which may be cancelled. -/
def system (hub : Hub) : System CancelEvent where
  State := CancelState
  Initial self := ∃ metrics, self = ⟨.start hub metrics, false⟩
  Step := Step hub

end CancelState

namespace Hub

open HubHistory CancelHistory

variable {hub : Hub} {trace : List CancelEvent} {state next : CancelState} {event : CancelEvent}

/-! ### What the run would be -/

/-- The flush loop does not see that the channel is gone. -/
theorem flusherStep_cancel {self next : HubState} {event : HubEvent}
    (step : HubState.FlusherStep hub self.cancel event next) :
    ∃ after, HubState.FlusherStep hub self event after ∧ next = after.cancel := by
  cases step with
  | checkShutdown phase => exact ⟨_, .checkShutdown phase, rfl⟩
  | checkEmpty phase => exact ⟨_, .checkEmpty phase, rfl⟩
  | wake phase => exact ⟨_, .wake phase, rfl⟩
  | drain phase drained => exact ⟨_, .drain phase drained, rfl⟩
  | measure phase => exact ⟨_, .measure phase, rfl⟩
  | skip phase isEmitter unrouted => exact ⟨_, .skip phase isEmitter unrouted, rfl⟩
  | offer succeeded phase isEmitter routed =>
      exact ⟨_, .offer succeeded phase isEmitter routed, rfl⟩
  | finish phase last => exact ⟨_, .finish phase last, rfl⟩

/-- A run of a hub in which the same was done, but the future was not dropped: it only takes no
step any more. -/
inductive Uncancelled (hub : Hub) (trace : List CancelEvent) : CancelState → Prop where
  | running {machine} (run : (HubState.system hub).Runs (CancelHistory.hub trace) machine)
      (none : lost trace = []) : Uncancelled hub trace ⟨machine, false⟩
  | cancelled {machine} (run : (HubState.system hub).Runs (CancelHistory.hub trace) machine)
      (awaits : machine.awaits = true)
      (all : lost trace = input machine.receiver ++ machine.channel) :
      Uncancelled hub trace ⟨machine.cancel, true⟩

/-- Every step of the hub is one of this run. -/
theorem Uncancelled.step (uncancelled : Uncancelled hub trace state)
    (step : CancelState.Step hub state event next) : Uncancelled hub (trace ++ [event]) next := by
  cases step with
  | run step =>
      cases uncancelled with
      | running run none =>
          refine .running ?_ ?_
          · rw [hub_snoc]
            exact run.snoc step
          · rw [lost_snoc, none]
            rfl
  | cancel awaits =>
      cases uncancelled with
      | running run none =>
          refine .cancelled ?_ awaits ?_
          · rw [hub_snoc]
            exact (List.append_nil _).symm ▸ run
          · rw [lost_snoc, none]
            rfl
  | flush step =>
      cases uncancelled with
      | cancelled run awaits all =>
          obtain ⟨after, same, rfl⟩ := flusherStep_cancel step
          obtain ⟨channel, -, receiver, -⟩ := same.frame
          refine .cancelled ?_ ?_ ?_
          · rw [hub_snoc]
            exact run.snoc (.flusher same)
          · rw [HubState.awaits, receiver]
            exact awaits
          · rw [lost_snoc, all, receiver, channel]
            exact List.append_nil _

/-- Every run is such a run as far as its hub can tell. -/
theorem Uncancelled.of_runs (run : (CancelState.system hub).Runs trace state) :
    Uncancelled hub trace state := by
  apply run.history fun trace (state : CancelState) => Uncancelled hub trace state
  case initial =>
      rintro state ⟨metrics, rfl⟩
      exact .running (.initial ⟨metrics, rfl⟩) rfl
  case preserved => exact fun _ uncancelled step => uncancelled.step step

/-! ### The flush loop goes on -/

/-- After the future was dropped there are only steps of the flush loop. -/
theorem flusherStep_of_cancelled (cancelled : state.cancelled = true)
    (step : CancelState.Step hub state event next) :
    next.cancelled = true ∧ ∃ event, HubState.FlusherStep hub state.hub event next.hub := by
  cases step with
  | run step | cancel awaits => cases cancelled
  | flush step => exact ⟨rfl, _, step⟩

/-- The flush loop has nothing in hand. -/
def idles : Flusher → Bool
  | .measuring messages => messages.isEmpty
  | .emitting _ _ => false
  | .checking | .checkingEmpty | .selecting | .draining | .exited => true

/-- Nothing is left to deliver. -/
def Emptied (self : HubState) : Prop := self.buffer.isEmpty = true ∧ idles self.flusher = true

/-- What the flush loop has left to do before there is nothing left to deliver. -/
def flushLeft (hub : Hub) (self : HubState) : Nat × Nat :=
  (self.buffer.len, stepsLeft hub.emitters.length false self.flusher)

/-- Every step does some of it. -/
theorem flushLeft_lt (positive : 0 < hub.batchSize) {self next : HubState} {event : HubEvent}
    (short : ¬ Emptied self) (step : HubState.FlusherStep hub self event next) :
    Prod.Lex (· < ·) (· < ·) (flushLeft hub next) (flushLeft hub self) := by
  have notEmpty : idles self.flusher = true → self.buffer.isEmpty = false := by
    intro idle
    by_contra empty
    exact short ⟨by simpa using empty, idle⟩
  cases step with
  | checkShutdown phase =>
      refine .right _ ?_
      simp only [phase]
      split <;> simp [stepsLeft]
  | checkEmpty phase =>
      refine .right _ ?_
      simp [phase, notEmpty, idles, stepsLeft]
  | wake phase =>
      refine .right _ ?_
      simp [phase, stepsLeft]
  | @drain messages buffer phase drained =>
      have after : (self.buffer.drain hub.batchSize).2 = buffer := congrArg Prod.snd drained
      have shorter := len_drain_lt positive (notEmpty (by rw [phase]; rfl))
      rw [after] at shorter
      exact .left _ _ shorter
  | @measure messages phase =>
      refine .right _ ?_
      simp only [phase]
      split <;> simp [stepsLeft]
  | skip phase isEmitter unrouted | offer succeeded phase isEmitter routed =>
      have inRange := (List.getElem?_eq_some_iff.mp isEmitter).1
      refine .right _ ?_
      simp only [phase, stepsLeft]
      omega
  | finish phase last =>
      refine .right _ ?_
      simp only [phase, stepsLeft]
      omega

/-- Once there is nothing left to deliver, there never is, as nothing is pushed. -/
theorem Emptied.step {self next : HubState} {event : HubEvent} (emptied : Emptied self)
    (step : HubState.FlusherStep hub self event next) : Emptied next := by
  obtain ⟨empty, idle⟩ := emptied
  cases step with
  | checkShutdown phase => exact ⟨empty, by dsimp only; split <;> rfl⟩
  | checkEmpty phase => exact ⟨empty, by dsimp only; split <;> rfl⟩
  | wake phase => exact ⟨empty, rfl⟩
  | @drain messages buffer phase drained =>
      obtain ⟨rfl, rfl⟩ := Prod.mk.inj drained
      refine ⟨isEmpty_drain hub.batchSize empty, ?_⟩
      simp [idles, List.isEmpty_iff.mp empty]
  | @measure messages phase =>
      rw [phase] at idle
      have none : messages.isEmpty = true := idle
      refine ⟨empty, ?_⟩
      simp only [none]
      rfl
  | skip phase isEmitter unrouted | offer succeeded phase isEmitter routed
  | finish phase last =>
      rw [phase] at idle
      cases idle

/-- Nor is there when the future was dropped. -/
theorem emptied_step (holds : state.cancelled = true ∧ Emptied state.hub)
    (step : CancelState.Step hub state event next) :
    next.cancelled = true ∧ Emptied next.hub := by
  obtain ⟨cancelled, emptied⟩ := holds
  obtain ⟨still, _, step⟩ := flusherStep_of_cancelled cancelled step
  exact ⟨still, emptied.step step⟩

/-- The flush loop exits only with an empty buffer. -/
theorem isEmpty_of_exits {self next : HubState} {event : HubEvent}
    (step : HubState.FlusherStep hub self event next) (exits : next.flusher = .exited) :
    next.buffer.isEmpty = true := by
  cases step with
  | checkShutdown phase =>
      dsimp only at exits
      split at exits <;> cases exits
  | checkEmpty phase =>
      dsimp only at exits
      split at exits
      case isTrue empty => exact empty
      case isFalse => cases exits
  | measure phase =>
      dsimp only at exits
      split at exits <;> cases exits
  | wake phase | drain phase drained | skip phase isEmitter unrouted
  | offer succeeded phase isEmitter routed | finish phase last => cases exits

/-- A step of the flush loop of a hub which may be cancelled. -/
def FlushTask (hub : Hub) (self next : CancelState) : Prop :=
  self.cancelled = next.cancelled ∧ FlushStep hub self.hub next.hub

/-- The future has been dropped, and the flush loop has not exited with something in the
buffer. -/
structure Cancelled (state : CancelState) : Prop where
  cancelled : state.cancelled = true
  exited : state.hub.flusher = .exited → state.hub.buffer.isEmpty = true

/-- It stays so. -/
theorem Cancelled.step (cancelled : Cancelled state)
    (step : CancelState.Step hub state event next) : Cancelled next := by
  obtain ⟨still, _, step⟩ := flusherStep_of_cancelled cancelled.cancelled step
  exact ⟨still, isEmpty_of_exits step⟩

/-- What is left after the future was dropped, which is up to the flush loop. -/
theorem helps_empty (hub : Hub) (positive : 0 < hub.batchSize) :
    System.Behavior.Helps (CancelState.system hub) (fun state => Emptied state.hub)
      (fun _ : Unit => FlushTask hub) Cancelled (fun _ => ())
      (fun state => flushLeft hub state.hub) where
  progress state cancelled short := by
    have running : state.hub.flusher ≠ .exited := by
      intro exited
      exact short ⟨cancelled.exited exited, by rw [exited]; rfl⟩
    obtain ⟨next, step⟩ := exists_flushStep hub running
    exact ⟨⟨next, state.cancelled⟩, rfl, step⟩
  descends state next cancelled short step := by
    obtain ⟨-, event, step⟩ := step
    exact flushLeft_lt positive short step
  steady state event next cancelled short step := by
    obtain ⟨-, _, flush⟩ := flusherStep_of_cancelled cancelled.cancelled step
    exact ⟨cancelled.step step, .inl (flushLeft_lt positive short flush)⟩

/-- If shutdown was signalled before, the flush loop comes to its exit. -/
theorem helps_exit (hub : Hub) :
    System.Behavior.Helps (CancelState.system hub) (fun state => state.hub.flusher = .exited)
      (fun _ : Unit => FlushTask hub)
      (fun state => state.cancelled = true ∧ ShuttingDown hub state.hub) (fun _ => ())
      (fun state => leftToDo hub state.hub) where
  progress state _ running := by
    obtain ⟨next, step⟩ := exists_flushStep hub running
    exact ⟨⟨next, state.cancelled⟩, rfl, step⟩
  descends state next holds _ step := (FlushStep.descends holds.2 step.2).2
  steady state event next holds _ step := by
    obtain ⟨cancelled, shuttingDown⟩ := holds
    obtain ⟨stays, flush⟩ := flusherStep_of_cancelled cancelled step
    obtain ⟨still, lower⟩ := FlushStep.descends shuttingDown flush
    exact ⟨⟨stays, still⟩, .inl lower⟩

/-! ### What is delivered -/

/-- What holds when a cancelled run has nothing left to deliver. -/
structure Abandoned (hub : Hub) (trace : List CancelEvent) (state : CancelState) : Prop where
  cancelled : state.cancelled = true
  /-- Nothing is left in the buffer. -/
  empty : state.hub.buffer.isEmpty = true
  /-- What was sent was processed, but for what was lost, and each emitter was offered what
  was kept of it, once, in order and with every field. -/
  offered : ∃ processed, sent (CancelHistory.hub trace) = processed ++ lost trace ∧
    ∀ emitter name, hub.emitters[emitter]? = some name →
      List.Forall₂ Event.Carries (slices emitter (CancelHistory.hub trace)).flatten
        ((keptOf hub (CancelHistory.hub trace) processed).filter (·.shouldRouteTo name))

/-- With nothing in hand no slice is to be offered. -/
private theorem pending_of_idles {flusher : Flusher} (idle : idles flusher = true)
    (emitter : Nat) (name : String) : pending emitter name flusher = [] := by
  cases flusher with
  | measuring messages =>
      obtain rfl := List.isEmpty_iff.mp idle
      rfl
  | emitting events position => cases idle
  | checking | checkingEmpty | selecting | draining | exited => rfl

/-- Where the run awaits something, no message is about to be pushed. -/
private theorem output_of_awaits {self : HubState} (awaits : self.awaits = true) :
    output self.receiver = [] := by
  rw [HubState.awaits] at awaits
  cases phase : self.receiver with
  | pushing msg => simp [phase] at awaits
  | receiving | processing msg | closing | joining | returned => rfl

/-- All of it holds whenever there is nothing left to deliver. -/
theorem Abandoned.of_runs (run : (CancelState.system hub).Runs trace state)
    (cancelled : state.cancelled = true) (emptied : Emptied state.hub) :
    Abandoned hub trace state := by
  refine ⟨cancelled, emptied.1, ?_⟩
  cases Uncancelled.of_runs run with
  | running _ none => cases cancelled
  | @cancelled machine other awaits all =>
      have holds := Delivering.of_runs other
      have idle : idles machine.flusher = true := emptied.2
      obtain ⟨processed, sentSoFar, -, survived⟩ := holds.receives
      rw [output_of_awaits awaits, List.append_nil] at survived
      refine ⟨processed, ?_, ?_⟩
      · rw [sentSoFar, all, List.append_assoc]
      · intro emitter name isEmitter
        have offers := holds.offers emitter name isEmitter
        rw [pending_of_idles idle, List.append_nil] at offers
        have empty : machine.buffer.messages = [] := List.isEmpty_iff.mp emptied.1
        rw [holds.buffers.buffer] at empty
        rw [Message.forall₂_carries_iff, offers, flatten_slices, holds.buffers.drained,
          drained_of_empty _ _ empty, keptOf, survived]

/-- Where shutdown was not signalled before the future was dropped, it never is. -/
private theorem unsignalled_step
    (holds : state.cancelled = true ∧ state.hub.shutdown = false)
    (step : CancelState.Step hub state event next) :
    next.cancelled = true ∧ next.hub.shutdown = false := by
  obtain ⟨cancelled, down⟩ := holds
  obtain ⟨still, _, step⟩ := flusherStep_of_cancelled cancelled step
  obtain ⟨-, -, -, -, shutdown, -⟩ := step.frame
  exact ⟨still, shutdown.trans down⟩

/-- The flush loop has exited only after the signal, with an empty buffer. -/
private theorem exited_of_runs (run : (CancelState.system hub).Runs trace state)
    (exited : state.hub.flusher = .exited) :
    state.hub.shutdown = true ∧ state.hub.buffer.isEmpty = true := by
  cases Uncancelled.of_runs run with
  | running other _ | cancelled other _ _ =>
      obtain ⟨signalled, empty⟩ := (Delivering.of_runs other).shutsDown.exited exited
      exact ⟨signalled, List.isEmpty_iff.mpr empty⟩

/-- In every behavior of a hub with a batch size of at least one which is fair to the flush
loop, whatever the emitters answer, once the future of `HubRunner::run` has been dropped all
that was kept of the processed messages is delivered, and the flush loop exits if and only if
shutdown had been signalled before. -/
theorem cancelled_delivers (hub : Hub) (positive : 0 < hub.batchSize)
    (behavior : (CancelState.system hub).Behavior) (fair : behavior.Fair (FlushTask hub))
    {time : Nat} (cancelled : (behavior.state time).cancelled = true) :
    (∃ later, time ≤ later ∧ ∀ moment, later ≤ moment →
      Abandoned hub (behavior.history moment) (behavior.state moment)) ∧
    ((∃ moment, time ≤ moment ∧ (behavior.state moment).hub.flusher = .exited) ↔
      (behavior.state time).hub.shutdown = true) := by
  have exits : (behavior.state time).hub.flusher = .exited →
      (behavior.state time).hub.buffer.isEmpty = true :=
    fun exited => (exited_of_runs (behavior.runs time) exited).2
  refine ⟨?_, ?_, ?_⟩
  · obtain ⟨later, after, emptied⟩ := (helps_empty hub positive).eventually behavior
      (fun _ => fair) ⟨cancelled, exits⟩
    have here := behavior.stays (fun _ _ _ => Cancelled.step) after ⟨cancelled, exits⟩
    refine ⟨later, after, fun moment afterLater => ?_⟩
    obtain ⟨still, stillEmptied⟩ := behavior.stays (fun _ _ _ => emptied_step) afterLater
      ⟨here.cancelled, emptied⟩
    exact .of_runs (behavior.runs moment) still stillEmptied
  · rintro ⟨moment, after, exited⟩
    by_contra down
    have still := behavior.stays (fun _ _ _ => unsignalled_step) after
      ⟨cancelled, Bool.eq_false_of_not_eq_true down⟩
    have signalled := (exited_of_runs (behavior.runs moment) exited).1
    rw [still.2] at signalled
    cases signalled
  · intro signalled
    exact (helps_exit hub).eventually behavior (fun _ => fair)
      ⟨cancelled, signalled, exits, .inl positive⟩

/-- A cancelled hub which has not signalled shutdown goes on for ever. -/
private theorem exists_flushTask (state : CancelState)
    (holds : (∃ trace, (CancelState.system hub).Runs trace state) ∧
      state.cancelled = true ∧ state.hub.shutdown = false) :
    ∃ event next, CancelState.Step hub state event next ∧ FlushTask hub state next ∧
      (∃ trace, (CancelState.system hub).Runs trace next) ∧
      next.cancelled = true ∧ next.hub.shutdown = false := by
  obtain ⟨⟨trace, run⟩, cancelled, down⟩ := holds
  have running : state.hub.flusher ≠ .exited := by
    intro exited
    rw [(exited_of_runs run exited).1] at down
    cases down
  obtain ⟨next, event, flush⟩ := exists_flushStep hub running
  have step : CancelState.Step hub state (.hub event) ⟨next, true⟩ := by
    obtain ⟨machine, isCancelled⟩ := state
    obtain rfl : isCancelled = true := cancelled
    exact .flush flush
  exact ⟨_, _, step, ⟨cancelled, event, flush⟩, ⟨_, run.snoc step⟩,
    unsignalled_step ⟨cancelled, down⟩ step⟩

/-- A message is pushed and another one waits in the channel when the future is dropped. -/
def cancelledRun : (CancelState.system smallHub).Execution :=
  (System.Execution.initial ⟨none, rfl⟩ : (CancelState.system smallHub).Execution)
    |>.snoc (.run (.sender (.send (broadcast "a") rfl (by decide))))
    |>.snoc (.run (.receiver (.receive rfl rfl)))
    |>.snoc (.run (.receiver (.pass rfl rfl)))
    |>.snoc (.run (.receiver (.push rfl rfl)))
    |>.snoc (.run (.sender (.send (broadcast "b") rfl (by decide))))
    |>.snoc (.cancel rfl)

/-- The first one is delivered, the second one is lost, and the flush loop does not exit. -/
theorem cancelled_delivers_small :
    lost cancelledRun.trace = [broadcast "b"] ∧
    ∃ (behavior : (CancelState.system smallHub).Behavior) (time : Nat),
      behavior.history time = cancelledRun.trace ∧
      (∃ later, time ≤ later ∧
        Abandoned smallHub (behavior.history later) (behavior.state later)) ∧
      ∀ moment, time ≤ moment → (behavior.state moment).hub.flusher ≠ .exited := by
  refine ⟨rfl, ?_⟩
  obtain ⟨behavior, time, history, reached, fair⟩ := cancelledRun.runs.exists_fair
    exists_flushTask ⟨⟨_, cancelledRun.runs⟩, rfl, rfl⟩
  have isCancelled : (behavior.state time).cancelled = true := by
    rw [reached]
    rfl
  obtain ⟨⟨later, after, abandoned⟩, exits⟩ := cancelled_delivers smallHub (by decide) behavior
    fair isCancelled
  refine ⟨behavior, time, history, ⟨later, after, abandoned later (Nat.le_refl later)⟩, ?_⟩
  intro moment afterTime exited
  have signalled := exits.mp ⟨moment, afterTime, exited⟩
  rw [reached] at signalled
  cases signalled

end Hub

end Polku
