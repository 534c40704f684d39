import Polku.Hub.Runner
import Polku.Semantics.Inevitable

/-!
# The end of the flush loop

Once shutdown is signalled, nothing is pushed, and the flush loop runs until it finds the
buffer empty. Each iteration drains a batch; with a batch size of zero that is nothing.
-/

namespace Polku.Hub

open Semantics Buffer

/-- A step of the flush loop. -/
def FlushStep (hub : Hub) (self next : HubState) : Prop :=
  ∃ event, HubState.FlusherStep hub self event next

/-- The flush loop has exited, with nothing in the buffer. -/
def Drained (self : HubState) : Prop := self.flusher = .exited ∧ self.buffer.isEmpty = true

/-- Shutdown is signalled, the flush loop has not exited with something in the buffer, and
it drains what there is. -/
structure ShuttingDown (hub : Hub) (state : HubState) : Prop where
  signalled : state.shutdown = true
  exits : state.flusher = .exited → state.buffer.isEmpty = true
  drains : 0 < hub.batchSize ∨ state.buffer.isEmpty = true

/-- How many steps are left in an iteration, or to the exit if the buffer is empty. -/
def stepsLeft (emitters : Nat) (empty : Bool) : Flusher → Nat
  | .exited => 0
  | .draining => if empty then emitters + 7 else 1
  | .selecting => if empty then emitters + 8 else 2
  | .checkingEmpty => 3
  | .checking => 4
  | .emitting _ next => emitters - next + 5
  | .measuring _ => emitters + 6

/-- What is left to do: the messages, and the steps of the iteration. -/
def leftToDo (hub : Hub) (self : HubState) : Nat × Nat :=
  (self.buffer.len, stepsLeft hub.emitters.length self.buffer.isEmpty self.flusher)

variable {hub : Hub} {self next : HubState}

/-- Until it has exited, the flush loop goes on. -/
theorem exists_flushStep (hub : Hub) (running : self.flusher ≠ .exited) :
    ∃ next, FlushStep hub self next := by
  cases phase : self.flusher with
  | checking => exact ⟨_, _, .checkShutdown phase⟩
  | checkingEmpty => exact ⟨_, _, .checkEmpty phase⟩
  | selecting => exact ⟨_, _, .wake phase⟩
  | draining => exact ⟨_, _, .drain phase rfl⟩
  | measuring messages => exact ⟨_, _, .measure phase⟩
  | emitting events position =>
      cases emitter : hub.emitters[position]? with
      | none => exact ⟨_, _, .finish phase (List.getElem?_eq_none_iff.mp emitter)⟩
      | some name =>
          cases routed : slice events name with
          | none => exact ⟨_, _, .skip phase emitter routed⟩
          | some events => exact ⟨_, _, .offer true phase emitter routed⟩
  | exited => exact absurd phase running

section Buffer

variable {buffer : RingBuffer Message}

private theorem len_of_isEmpty (empty : buffer.isEmpty = true) : buffer.len = 0 :=
  congrArg List.length (List.isEmpty_iff.mp empty)

/-- An empty buffer stays empty. -/
theorem isEmpty_drain (batchSize : Nat) (empty : buffer.isEmpty = true) :
    (buffer.drain batchSize).2.isEmpty = true := by
  rw [RingBuffer.isEmpty, RingBuffer.drain_messages, List.isEmpty_iff.mp empty]
  exact congrArg List.isEmpty List.drop_nil

/-- A batch of size zero leaves the buffer as it is. -/
private theorem isEmpty_drain_zero (buffer : RingBuffer Message) :
    (buffer.drain 0).2.isEmpty = buffer.isEmpty := by
  rw [RingBuffer.isEmpty, RingBuffer.drain_messages, Nat.zero_min, List.drop_zero]
  rfl

/-- A batch which is not empty makes the buffer shorter. -/
theorem len_drain_lt {batchSize : Nat} (positive : 0 < batchSize)
    (notEmpty : buffer.isEmpty = false) : (buffer.drain batchSize).2.len < buffer.len := by
  have some : 0 < buffer.messages.length :=
    List.length_pos_of_ne_nil (List.isEmpty_eq_false_iff.mp notEmpty)
  rw [RingBuffer.len_drain]
  exact Nat.sub_lt some positive

end Buffer

/-- A step which leaves the buffer and the flag alone keeps a shutdown, and does some of what
is left if it takes the iteration further. -/
private theorem ShuttingDown.stays (shuttingDown : ShuttingDown hub self)
    (sameFlag : next.shutdown = self.shutdown) (sameBuffer : next.buffer = self.buffer)
    (exits : next.flusher = .exited → self.buffer.isEmpty = true)
    (further : stepsLeft hub.emitters.length self.buffer.isEmpty next.flusher <
      stepsLeft hub.emitters.length self.buffer.isEmpty self.flusher) :
    ShuttingDown hub next ∧
      Prod.Lex (· < ·) (· < ·) (leftToDo hub next) (leftToDo hub self) := by
  refine ⟨⟨sameFlag.trans shuttingDown.signalled, ?_, ?_⟩, ?_⟩
  · rwa [sameBuffer]
  · rw [sameBuffer]
    exact shuttingDown.drains
  · rw [leftToDo, leftToDo, sameBuffer]
    exact .right _ further

/-- Every step of a shutdown does some of what is left. -/
theorem FlushStep.descends (shuttingDown : ShuttingDown hub self)
    (step : FlushStep hub self next) :
    ShuttingDown hub next ∧
      Prod.Lex (· < ·) (· < ·) (leftToDo hub next) (leftToDo hub self) := by
  obtain ⟨event, step⟩ := step
  cases step with
  | checkShutdown phase =>
      have signalled := shuttingDown.signalled
      refine shuttingDown.stays rfl rfl (by simp [signalled]) ?_
      simp [signalled, phase, stepsLeft]
  | checkEmpty phase =>
      cases empty : self.buffer.isEmpty with
      | true =>
          refine shuttingDown.stays rfl rfl (fun _ => empty) ?_
          simp [phase, stepsLeft]
      | false =>
          refine shuttingDown.stays rfl rfl (by simp [empty]) ?_
          simp [phase, stepsLeft, empty]
  | wake phase =>
      refine shuttingDown.stays rfl rfl nofun ?_
      simp only [phase, stepsLeft]
      split <;> omega
  | @drain messages buffer phase drained =>
      have after : (self.buffer.drain hub.batchSize).2 = buffer := congrArg Prod.snd drained
      cases empty : self.buffer.isEmpty with
      | true =>
          have still : buffer.isEmpty = true := after ▸ isEmpty_drain hub.batchSize empty
          refine ⟨⟨shuttingDown.signalled, nofun, Or.inr still⟩, ?_⟩
          simp only [leftToDo, len_of_isEmpty still, len_of_isEmpty empty, phase, empty]
          exact .right _ (Nat.lt_succ_self _)
      | false =>
          have positive := shuttingDown.drains.resolve_right (by simp [empty])
          have shorter : buffer.len < self.buffer.len := after ▸ len_drain_lt positive empty
          exact ⟨⟨shuttingDown.signalled, nofun, Or.inl positive⟩, .left _ _ shorter⟩
  | @measure messages phase =>
      refine shuttingDown.stays rfl rfl (by split <;> nofun) ?_
      dsimp only
      rw [phase]
      split <;> simp [stepsLeft]
  | @skip events position name phase emitter unrouted =>
      have inRange := (List.getElem?_eq_some_iff.mp emitter).1
      refine shuttingDown.stays rfl rfl nofun ?_
      simp only [phase, stepsLeft]
      omega
  | @offer events position name routed succeeded phase emitter isRouted =>
      have inRange := (List.getElem?_eq_some_iff.mp emitter).1
      refine shuttingDown.stays rfl rfl nofun ?_
      simp only [phase, stepsLeft]
      omega
  | @finish events position phase last =>
      refine shuttingDown.stays rfl rfl nofun ?_
      simp only [phase, stepsLeft]
      omega

/-- The flush loop has not exited, drains nothing, and finds something in the buffer. -/
def Starving (hub : Hub) (self : HubState) : Prop :=
  hub.batchSize = 0 ∧ self.flusher ≠ .exited ∧ self.buffer.isEmpty = false

/-- It never stops starving. -/
theorem Starving.stays (starving : Starving hub self) (step : FlushStep hub self next) :
    Starving hub next := by
  obtain ⟨nothing, running, notEmpty⟩ := starving
  obtain ⟨event, step⟩ := step
  cases step with
  | checkShutdown phase => exact ⟨nothing, by dsimp only; split <;> nofun, notEmpty⟩
  | checkEmpty phase => exact ⟨nothing, by simp [notEmpty], notEmpty⟩
  | wake phase => exact ⟨nothing, nofun, notEmpty⟩
  | @drain messages buffer phase drained =>
      have after : (self.buffer.drain hub.batchSize).2 = buffer := congrArg Prod.snd drained
      refine ⟨nothing, nofun, ?_⟩
      rw [← after, nothing, isEmpty_drain_zero]
      exact notEmpty
  | measure phase => exact ⟨nothing, by dsimp only; split <;> nofun, notEmpty⟩
  | skip phase emitter unrouted => exact ⟨nothing, nofun, notEmpty⟩
  | offer succeeded phase emitter isRouted => exact ⟨nothing, nofun, notEmpty⟩
  | finish phase last => exact ⟨nothing, nofun, notEmpty⟩

/-- When shutdown is signalled and nothing more is pushed, the flush loop comes to its exit
with an empty buffer if and only if its batch size is not zero or the buffer is empty. -/
theorem drains_iff (hub : Hub) (self : HubState) (signalled : self.shutdown = true)
    (running : self.flusher ≠ .exited) :
    Inevitable (FlushStep hub) Drained self ↔
      0 < hub.batchSize ∨ self.buffer.isEmpty = true := by
  constructor
  · intro inevitable
    by_contra neither
    rw [not_or, Nat.not_lt, Nat.le_zero] at neither
    refine not_inevitable (Starving hub) (fun _ starving drained => starving.2.1 drained.1)
      (fun _ starving _ step => starving.stays step) ⟨neither.1, running, ?_⟩ inevitable
    simpa using neither.2
  · intro drains
    refine Inevitable.of_measure (leftToDo hub) (ShuttingDown hub) ?_ ?_
      ⟨signalled, fun exited => absurd exited running, drains⟩
    · intro state shuttingDown
      by_cases exited : state.flusher = .exited
      · exact Or.inl ⟨exited, shuttingDown.exits exited⟩
      · exact Or.inr (exists_flushStep hub exited)
    · exact fun _ _ shuttingDown step => step.descends shuttingDown

/-- A hub of a batch size, with a message in its buffer when it signals shutdown. -/
def shutdownRun (batchSize : Nat) :
    (HubState.system { Hub.new with batchSize := batchSize }).Execution :=
  (System.Execution.initial ⟨none, rfl⟩ :
      (HubState.system { Hub.new with batchSize := batchSize }).Execution)
    |>.snoc (.sender (.send (Message.withId "1" 0 "source" "type" []) rfl (Nat.succ_pos _)))
    |>.snoc (.sender (.close rfl))
    |>.snoc (.receiver (.receive rfl rfl))
    |>.snoc (.receiver (.pass rfl rfl))
    |>.snoc (.receiver (.push rfl rfl))
    |>.snoc (.receiver (.finish rfl rfl rfl))
    |>.snoc (.receiver (.signal rfl))

/-- With a batch size of one, the flush loop drains the message and exits. -/
theorem drains_iff_one :
    Inevitable (FlushStep { Hub.new with batchSize := 1 }) Drained (shutdownRun 1).state :=
  (drains_iff _ (shutdownRun 1).state rfl nofun).mpr (Or.inl (by decide))

/-- With a batch size of zero, shutdown is signalled and nothing more is pushed, but the flush
loop never finds the buffer empty. -/
theorem never_drains :
    (shutdownRun 0).state.receiver = .joining ∧ (shutdownRun 0).state.shutdown = true ∧
      ¬ Inevitable (FlushStep { Hub.new with batchSize := 0 }) Drained (shutdownRun 0).state := by
  refine ⟨rfl, rfl, not_inevitable (Starving _) (fun _ starving drained => starving.2.1 drained.1)
    (fun _ starving _ step => starving.stays step) ⟨rfl, nofun, rfl⟩⟩

end Polku.Hub
