import Polku.Hub.SenderAccounts

/-!
# No send waits for ever

A call of `send` gets its turn if the receive loop and the calls which have a permit go on:
permits are handed on in line, and the receive loop never waits for the flush loop or for an
emitter, as a full ring buffer evicts. Calls of other senders do not come in between.
-/

namespace Polku.Hub

open Semantics SendersState SenderHistory

/-- The tasks a waiting call depends on. -/
inductive SenderTask where
  | receive
  | push (call : SendCall)

/-- The steps of a task. -/
def SenderTask.step : SenderTask → SendersState → SendersState → Prop
  | .receive, self, next => ∃ event after,
      HubState.ReceiverStep self.hub event after ∧ next = self.afterStep event after
  | .push call, self, next => call ∈ self.granted ∧ next = self.push call

/-- The task which brings a call nearer to its end: its own, once it has a permit, and before
that the receive loop, unless no call with a permit has sent anything for it. -/
def senderTask (call : SendCall) (self : SendersState) : SenderTask :=
  if call ∈ self.granted then .push call
  else match self.hub.channel, self.granted with
    | [], first :: _ => .push first
    | _, _ => .receive

/-- What the receive loop does before it receives again. -/
def receivePhase : Receiver → Nat
  | .processing _ => 2
  | .pushing _ => 1
  | _ => 0

/-- How far a call is from its end. -/
def placeInLine (call : SendCall) (self : SendersState) : Nat :=
  if call ∈ self.waiting then self.waiting.idxOf call + 2
  else if call ∈ self.granted then 1 else 0

/-- What is left of a call. -/
def sendLeft (call : SendCall) (self : SendersState) : Nat × Nat × Nat :=
  (placeInLine call self,
    if call ∈ self.waiting then
      (if self.hub.channel.isEmpty then 1 else 0, receivePhase self.hub.receiver)
    else (0, 0))

variable {hub : Hub} {machine next : SendersState} {event : SenderEvent} {call : SendCall}

/-- The place of a call which waits. -/
theorem placeInLine_waiting (waits : call ∈ machine.waiting) :
    placeInLine call machine = machine.waiting.idxOf call + 2 := by
  rw [placeInLine, if_pos waits]

/-- What is left of a call which waits. -/
theorem sendLeft_waiting (waits : call ∈ machine.waiting) : sendLeft call machine =
    (machine.waiting.idxOf call + 2, if machine.hub.channel.isEmpty then 1 else 0,
      receivePhase machine.hub.receiver) := by
  rw [sendLeft, placeInLine_waiting waits, if_pos waits]

/-- What is left of a call which has a permit. -/
theorem sendLeft_granted {free : Nat} (connected : Connected free machine)
    (isGranted : call ∈ machine.granted) : sendLeft call machine = (1, 0, 0) := by
  have notWaiting : call ∉ machine.waiting :=
    fun waits => (List.nodup_append.mp connected.nodup).2.2 call waits call isGranted rfl
  rw [sendLeft, placeInLine, if_neg notWaiting, if_pos isGranted, if_neg notWaiting]

/-- No call waits twice. -/
theorem Connected.distinctWaiting {free : Nat} (connected : Connected free machine) :
    machine.waiting.Nodup := (List.nodup_append.mp connected.nodup).1

/-- A call which waits has no permit. -/
theorem Connected.not_granted {free : Nat} (connected : Connected free machine)
    (waits : call ∈ machine.waiting) : call ∉ machine.granted :=
  fun isGranted => (List.nodup_append.mp connected.nodup).2.2 call waits call isGranted rfl

/-- While a call is in flight, the receive loop is not about to end. -/
theorem Connected.receiving {free : Nat} (connected : Connected free machine)
    (inFlight : call ∈ machine.inFlight) : ¬ (machine.hub.receiver = .closing ∨
      machine.hub.receiver = .joining ∨ machine.hub.receiver = .returned) := by
  intro ending
  have closed := (connected.shutsDown.drainedChannel ending).1
  rw [connected.isOpen (connected.held call inFlight)] at closed
  cases closed

/-- A call comes nearer when a permit is handed on. -/
theorem placeInLine_grantNext (nodup : machine.waiting.Nodup) (waits : call ∈ machine.waiting) :
    placeInLine call machine.grantNext < machine.waiting.idxOf call + 2 := by
  unfold grantNext
  split
  case h_1 none => simp [none] at waits
  case h_2 first rest line =>
      rw [line] at nodup waits ⊢
      by_cases isFirst : call = first
      · subst isFirst
        have notAgain := (List.nodup_cons.mp nodup).1
        simp [placeInLine, notAgain]
      · have still : call ∈ rest := (List.mem_cons.mp waits).resolve_left isFirst
        rw [placeInLine_waiting (by exact still), List.idxOf_cons_ne _ (Ne.symm isFirst)]
        exact Nat.lt_succ_self _

/-- A call which is not in flight is done. -/
theorem placeInLine_done (done : call ∉ machine.inFlight) : placeInLine call machine = 0 := by
  rw [inFlight, List.mem_append, not_or] at done
  rw [placeInLine, if_neg done.1, if_neg done.2]

/-- To leave the calls in flight is to come nearer. -/
theorem sendLeft_done (inFlight : call ∈ machine.inFlight) (done : call ∉ next.inFlight) :
    WellFoundedRelation.rel (sendLeft call next) (sendLeft call machine) := by
  apply Prod.Lex.left
  rw [placeInLine_done done, placeInLine]
  split
  case isTrue => exact Nat.succ_pos _
  case isFalse notWaiting =>
      rw [if_pos ((List.mem_append.mp inFlight).resolve_left notWaiting)]
      exact Nat.zero_lt_one

/-- A call comes nearer when the receive loop comes nearer to receiving. -/
theorem sendLeft_phase (waits : call ∈ machine.waiting) (line : next.waiting = machine.waiting)
    (channel : next.hub.channel = machine.hub.channel)
    (lower : receivePhase next.hub.receiver < receivePhase machine.hub.receiver) :
    WellFoundedRelation.rel (sendLeft call next) (sendLeft call machine) := by
  rw [sendLeft_waiting waits, sendLeft_waiting (line ▸ waits), line, channel]
  exact .right _ (.right _ lower)

/-- Every step of the receive loop brings a waiting call nearer. -/
theorem sendLeft_receive (connected : Connected 0 machine) (waits : call ∈ machine.waiting)
    {event : HubEvent} {after : HubState}
    (step : HubState.ReceiverStep machine.hub event after) :
    WellFoundedRelation.rel (sendLeft call (machine.afterStep event after))
      (sendLeft call machine) := by
  have inFlight : call ∈ machine.inFlight := List.mem_append_left _ waits
  have receiving := connected.receiving inFlight
  cases step with
  | receive phase waiting =>
      apply Prod.Lex.left
      rw [placeInLine_waiting waits]
      exact @placeInLine_grantNext { machine with hub := _ } call connected.distinctWaiting waits
  | finish phase none isClosed =>
      rw [connected.isOpen (connected.held call inFlight)] at isClosed
      cases isClosed
  | signal phase => exact absurd (.inl phase) receiving
  | join phase done => exact absurd (.inr (.inl phase)) receiving
  | filter phase dropped | pass phase passed | push phase pushed =>
      rw [afterStep_of_none rfl]
      refine sendLeft_phase waits rfl rfl ?_
      simp [phase, receivePhase]

/-- The account of what is left stays as it is in a step which changes nothing for a call. -/
theorem sendLeft_same (waits : call ∈ machine.waiting) (still : call ∈ next.waiting)
    (line : next.waiting.idxOf call = machine.waiting.idxOf call)
    (channel : next.hub.channel = machine.hub.channel)
    (receiver : next.hub.receiver = machine.hub.receiver)
    (granted : next.granted = machine.granted) :
    sendLeft call next = sendLeft call machine ∧
      senderTask call next = senderTask call machine := by
  rw [sendLeft_waiting waits, sendLeft_waiting still, line, channel, receiver, senderTask,
    senderTask, channel, granted]
  exact ⟨rfl, rfl⟩

/-- Calls before a call may leave the line. -/
private theorem idxOf_erase_le {other : SendCall} (line : List SendCall) (different : call ≠ other) :
    (line.erase other).idxOf call ≤ line.idxOf call := by
  induction line with
  | nil => simp
  | cons first rest inductionHypothesis =>
      by_cases isOther : first = other
      · subst isOther
        rw [List.erase_cons_head, List.idxOf_cons_ne _ (Ne.symm different)]
        exact Nat.le_succ _
      · rw [List.erase_cons_tail (by simpa using isOther)]
        by_cases isCall : first = call
        · simp [isCall]
        · rw [List.idxOf_cons_ne _ isCall, List.idxOf_cons_ne _ isCall]
          exact Nat.succ_le_succ inductionHypothesis

/-- A waiting call comes nearer when the channel is no longer empty. -/
theorem sendLeft_filled (waits : call ∈ machine.waiting) {other : SendCall}
    (empty : machine.hub.channel = []) :
    WellFoundedRelation.rel (sendLeft call (machine.push other)) (sendLeft call machine) := by
  have filled : (machine.push other).hub.channel.isEmpty = false := by simp [SendersState.push]
  rw [sendLeft_waiting waits, sendLeft_waiting (by exact waits), filled, empty]
  exact .right _ (.left _ _ Nat.zero_lt_one)

/-- What is left of a waiting call after any step. -/
theorem sendLeft_step (connected : Connected 0 machine) (waits : call ∈ machine.waiting)
    (step : Step hub machine event next) :
    WellFoundedRelation.rel (sendLeft call next) (sendLeft call machine) ∨
      sendLeft call next = sendLeft call machine ∧
        senderTask call next = senderTask call machine := by
  have inFlight : call ∈ machine.inFlight := List.mem_append_left _ waits
  have receiving := connected.receiving inFlight
  have noRoom := connected.full (List.ne_nil_of_mem waits)
  cases step with
  | clone | drop => exact .inr (sendLeft_same waits waits rfl rfl rfl rfl)
  | call kind msg isLive begins =>
      cases begins_of_begin begins with
      | closed | refused => exact .inr (sendLeft_same waits waits rfl rfl rfl rfl)
      | granted running room => omega
      | waits running full isSend =>
          refine .inr (sendLeft_same waits (List.mem_append_left _ waits) ?_ rfl rfl rfl)
          exact List.idxOf_append_of_mem waits
  | @push other isGranted =>
      have filled : (machine.push other).hub.channel.isEmpty = false := by
        simp [SendersState.push]
      cases channel : machine.hub.channel with
      | nil => exact .inl (sendLeft_filled waits channel)
      | cons first rest =>
          have notGranted := connected.not_granted waits
          have notAfter : call ∉ machine.granted.erase other :=
            fun member => notGranted (List.mem_of_mem_erase member)
          refine .inr ⟨?_, ?_⟩
          · rw [sendLeft_waiting waits, sendLeft_waiting (by exact waits), filled, channel]
            rfl
          · simp [senderTask, SendersState.push, channel, notGranted, notAfter]
  | refuse _ gone => exact absurd (.inr (.inr gone)) receiving
  | @stopWaiting other otherWaits =>
      by_cases same : call = other
      · subst same
        refine .inl (sendLeft_done inFlight fun still => ?_)
        rcases List.mem_append.mp still with again | isGranted
        · exact connected.distinctWaiting.not_mem_erase again
        · exact connected.not_granted waits isGranted
      · have still : call ∈ machine.waiting.erase other := (List.mem_erase_of_ne same).mpr waits
        rcases Nat.lt_or_eq_of_le (idxOf_erase_le machine.waiting same) with nearer | isSame
        · apply Or.inl
          apply Prod.Lex.left
          rw [placeInLine_waiting waits, placeInLine_waiting (by exact still)]
          exact Nat.add_lt_add_right nearer 2
        · exact .inr (sendLeft_same waits still isSame rfl rfl rfl)
  | giveBack isGranted isSend =>
      apply Or.inl
      apply Prod.Lex.left
      rw [placeInLine_waiting waits]
      exact @placeInLine_grantNext { machine with granted := _ } call connected.distinctWaiting waits
  | receiver step => exact .inl (sendLeft_receive connected waits step)
  | @flusher event after step =>
      obtain ⟨channel, -, receiver, -⟩ := step.frame
      have none : event.receivedMessage = none := by cases step <;> rfl
      rw [afterStep_of_none none]
      exact .inr (sendLeft_same waits waits rfl channel receiver rfl)

/-- A call with a permit is gone once it has sent. -/
theorem push_done (connected : Connected 0 machine) (isGranted : call ∈ machine.granted) :
    call ∉ (machine.push call).inFlight := by
  intro still
  rcases List.mem_append.mp still with waits | again
  · exact connected.not_granted waits isGranted
  · exact ((List.nodup_append.mp connected.nodup).2.1).not_mem_erase again

/-- A call which has a permit keeps it until it is done. -/
theorem granted_step (connected : Connected 0 machine) (isGranted : call ∈ machine.granted)
    (step : Step hub machine event next) : call ∈ next.granted ∨ call ∉ next.inFlight := by
  have notWaiting : call ∉ machine.waiting := fun waits => connected.not_granted waits isGranted
  cases step with
  | clone | drop | refuse | stopWaiting => exact .inl isGranted
  | call kind msg isLive begins =>
      cases begins_of_begin begins with
      | closed | refused | waits => exact .inl isGranted
      | granted => exact .inl (List.mem_append_left _ isGranted)
  | @push other otherGranted =>
      by_cases same : call = other
      · exact .inr (same ▸ push_done connected isGranted)
      · exact .inl ((List.mem_erase_of_ne same).mpr isGranted)
  | @giveBack other otherGranted =>
      by_cases same : call = other
      · subst same
        refine .inr fun still => push_done connected isGranted ?_
        exact (@grantNext_inFlight { machine with granted := _ }).subset still
      · exact .inl (granted_grantNext ((List.mem_erase_of_ne same).mpr isGranted))
  | receiver | flusher => exact .inl (granted_afterStep isGranted)

/-- While a call waits and there is a message for it, the receive loop can go on. -/
theorem exists_receive (connected : Connected 0 machine) (inFlight : call ∈ machine.inFlight)
    (some : machine.hub.channel ≠ []) :
    ∃ next, SenderTask.step .receive machine next := by
  have receiving := connected.receiving inFlight
  cases phase : machine.hub.receiver with
  | receiving =>
      obtain ⟨msg, rest, waiting⟩ := List.exists_cons_of_ne_nil some
      exact ⟨_, _, _, .receive phase waiting, rfl⟩
  | processing msg =>
      rcases processed : machine.hub.middleware.process msg with ⟨_ | result, middleware⟩
      · exact ⟨_, _, _, .filter phase processed, rfl⟩
      · exact ⟨_, _, _, .pass phase processed, rfl⟩
  | pushing msg => exact ⟨_, _, _, .push phase rfl, rfl⟩
  | closing => exact absurd (.inl phase) receiving
  | joining => exact absurd (.inr (.inl phase)) receiving
  | returned => exact absurd (.inr (.inr phase)) receiving

/-- What is left of a call, and which task does it. -/
theorem helps_send (hub : Hub) (call : SendCall) :
    System.Behavior.Helps (SendersState.system hub) (fun machine => call ∉ machine.inFlight)
      SenderTask.step (Connected 0) (senderTask call) (sendLeft call) where
  progress machine connected short := by
    have inFlight := Classical.not_not.mp short
    unfold senderTask
    split
    case isTrue isGranted => exact ⟨_, isGranted, rfl⟩
    case isFalse notGranted =>
        have waits := (List.mem_append.mp inFlight).resolve_right notGranted
        have full := connected.full (List.ne_nil_of_mem waits)
        split
        case h_1 first rest empty granted =>
            exact ⟨_, granted ▸ List.mem_cons_self, rfl⟩
        case h_2 other =>
            apply exists_receive connected inFlight
            intro empty
            cases granted : machine.granted with
            | nil => simp [taken, empty, granted, channelCapacity] at full
            | cons first rest => exact other first rest empty granted
  descends machine next connected short step := by
    have inFlight := Classical.not_not.mp short
    unfold senderTask at step
    split at step
    case isTrue isGranted =>
        obtain ⟨-, rfl⟩ := step
        exact sendLeft_done inFlight (push_done connected isGranted)
    case isFalse notGranted =>
        have waits := (List.mem_append.mp inFlight).resolve_right notGranted
        split at step
        case h_1 first rest empty granted =>
            obtain ⟨-, rfl⟩ := step
            exact sendLeft_filled waits empty
        case h_2 =>
            obtain ⟨event, after, step, rfl⟩ := step
            exact sendLeft_receive connected waits step
  steady machine event next connected short step := by
    have inFlight := Classical.not_not.mp short
    have still := connected.step step
    refine ⟨still, ?_⟩
    rcases List.mem_append.mp inFlight with waits | isGranted
    · exact sendLeft_step connected waits step
    · rcases granted_step connected isGranted step with keeps | done
      · refine .inr ⟨?_, ?_⟩
        · rw [sendLeft_granted connected isGranted, sendLeft_granted still keeps]
        · exact (if_pos keeps).trans (if_pos isGranted).symm
      · exact .inl (sendLeft_done inFlight done)

/-- A call is done by sending its message, or by being cancelled. -/
theorem done_step (connected : Connected 0 machine) (inFlight : call ∈ machine.inFlight)
    (step : Step hub machine event next) (done : call ∉ next.inFlight) :
    event = .sent call ∨ event = .cancelled call := by
  have place := List.mem_append.mp inFlight
  cases step with
  | clone | drop => exact absurd inFlight done
  | call kind msg isLive begins =>
      cases begins_of_begin begins with
      | closed | refused => exact absurd inFlight done
      | granted =>
          refine absurd (List.mem_append.mpr ?_) done
          exact place.imp_right (List.mem_append_left _)
      | waits =>
          refine absurd (List.mem_append.mpr ?_) done
          exact place.imp_left (List.mem_append_left _)
  | @push other isGranted =>
      by_cases same : call = other
      · exact .inl (same ▸ rfl)
      · refine absurd (List.mem_append.mpr ?_) done
        exact place.imp_right (List.mem_erase_of_ne same).mpr
  | refuse _ gone => exact absurd (.inr (.inr gone)) (connected.receiving inFlight)
  | @stopWaiting other waits =>
      by_cases same : call = other
      · exact .inr (same ▸ rfl)
      · refine absurd (List.mem_append.mpr ?_) done
        exact place.imp_left (List.mem_erase_of_ne same).mpr
  | @giveBack other isGranted =>
      by_cases same : call = other
      · exact .inr (same ▸ rfl)
      · refine absurd ?_ done
        apply (@grantNext_inFlight { machine with granted := machine.granted.erase other }).symm.subset
        exact List.mem_append.mpr (place.imp_right (List.mem_erase_of_ne same).mpr)
  | receiver | flusher => exact absurd (afterStep_inFlight.symm.subset inFlight) done

/-- A call which is in flight at one time and not at a later one has sent its message in
between, or was cancelled. -/
private theorem exists_done (behavior : (SendersState.system hub).Behavior) {time later : Nat}
    (after : time ≤ later) (inFlight : call ∈ (behavior.state time).inFlight)
    (done : call ∉ (behavior.state later).inFlight) : ∃ moment, time ≤ moment ∧
      (behavior.label moment = some (.sent call) ∨
        behavior.label moment = some (.cancelled call)) := by
  induction later, after using Nat.le_induction with
  | base => exact absurd inFlight done
  | succ later after inductionHypothesis =>
      by_cases still : call ∈ (behavior.state later).inFlight
      · cases happens : behavior.label later with
        | none =>
            rw [behavior.idle later happens] at done
            exact absurd still done
        | some event =>
            have connected := (senders_refine hub).holds (behavior.runs later)
            have isDone := done_step connected still (behavior.moves later event happens) done
            refine ⟨later, after, ?_⟩
            rw [happens, Option.some_inj, Option.some_inj]
            exact isDone
      · exact inductionHypothesis still

/-- The receive loop goes on whether or not calls get permits. -/
private theorem fair_receive {behavior : (SendersState.system hub).Behavior}
    (fair : behavior.Fair (SenderTask.step .receive)) :
    behavior.Fair fun machine next => ReceiveStep machine.hub next.hub := by
  apply fair.of_imp
  case included =>
      rintro machine next ⟨event, after, step, rfl⟩
      have same : (SendersState.afterStep machine event after).hub = after := afterStep_hub
      exact ⟨event, same.symm ▸ step⟩
  case enables =>
      rintro machine next ⟨event, step⟩
      exact ⟨_, event, _, step, rfl⟩

/-- In every behavior of a hub and its senders in which the receive loop does not wait for ever
while it could go on, nor does a call with a permit, each call of `send` or `try_send` which
was not refused sends its message unless it is cancelled, even if an emitter never answers and
whatever other senders do. If the flush loop does not wait for ever either, the hub returns
once the last sender is dropped. -/
theorem hub_never_blocks_senders (hub : Hub) (behavior : (SendersState.system hub).Behavior)
    (fairReceive : behavior.Fair (SenderTask.step .receive))
    (fairPush : ∀ call, behavior.Fair (SenderTask.step (.push call))) :
    (∀ time, ∀ call ∈ (behavior.state time).inFlight, ∃ later, time ≤ later ∧
      (behavior.label later = some (.sent call) ∨
        behavior.label later = some (.cancelled call))) ∧
    (0 < hub.batchSize →
      (behavior.Fair fun machine next => FlushStep hub machine.hub next.hub) →
      ∀ time, (behavior.state time).handles = [] → ∃ later, time ≤ later ∧
        Returned hub (hubTrace (behavior.history later)) (behavior.state later).hub) := by
  have refines := senders_refine hub
  constructor
  · intro time call inFlight
    have fair : ∀ task, behavior.Fair (SenderTask.step task) := by
      intro task
      cases task with
      | receive => exact fairReceive
      | push call => exact fairPush call
    obtain ⟨later, after, done⟩ := (helps_send hub call).eventually behavior fair
      (refines.holds (behavior.runs time))
    exact exists_done behavior after inFlight done
  · intro positive fairFlush time dropped
    have connected := refines.holds (behavior.runs time)
    have closed : ((refines.behavior behavior).state time).closed = true := by
      change (behavior.state time).hub.closed = true
      rw [connected.closed, dropped]
      rfl
    have possible : ∀ (machine : SendersState) (next : HubState),
        ∃ after : SendersState, after.hub = next :=
      fun machine next => ⟨{ machine with hub := next }, rfl⟩
    obtain ⟨later, after, returned⟩ := eventually_returned positive
      (refines.fair_behavior (fun machine next _ => possible machine next)
        (fair_receive fairReceive))
      (refines.fair_behavior (fun machine next _ => possible machine next) fairFlush) closed
    rw [refines.history_behavior] at returned
    exact ⟨later, after, returned⟩

/-- When the last handle has been dropped there is none. -/
private theorem handles_of_last {handle : Nat}
    (step : Step hub machine (.dropped handle true) next) : next.handles = [] := by
  generalize same : SenderEvent.dropped handle true = event at step
  cases step with
  | drop isLive unused =>
      obtain ⟨rfl, isLast⟩ := SenderEvent.dropped.inj same
      exact List.isEmpty_iff.mp isLast.symm
  | call kind msg isLive begins => cases begins_of_begin begins <;> cases same
  | clone | push | refuse | stopWaiting | giveBack | receiver | flusher => cases same

/-- A call which begins and is not refused is in flight. -/
private theorem inFlight_of_called (step : Step hub machine (.called call) next) :
    call ∈ next.inFlight := by
  cases step with
  | call kind msg isLive begins =>
      cases begins_of_begin begins with
      | granted =>
          exact List.mem_append_right _ (List.mem_append_right _ (List.mem_singleton_self _))
      | waits =>
          exact List.mem_append_left _ (List.mem_append_right _ (List.mem_singleton_self _))

/-- In the run above a call of `send` which has begun is done, and when the last handle has
been dropped the hub returns. -/
theorem hub_never_blocks_senders_two :
    ∃ (behavior : (SendersState.system smallHub).Behavior) (begun done dropped later : Nat),
      behavior.label begun = some (.called ⟨0, 0, .send, broadcast "a"⟩) ∧ begun < done ∧
      (behavior.label done = some (.sent ⟨0, 0, .send, broadcast "a"⟩) ∨
        behavior.label done = some (.cancelled ⟨0, 0, .send, broadcast "a"⟩)) ∧
      behavior.label dropped = some (.dropped 1 true) ∧ dropped < later ∧
      Returned smallHub (hubTrace (behavior.history later)) (behavior.state later).hub := by
  obtain ⟨behavior, last, history, -, ended⟩ := senderRun.runs.exists_behavior
  have receives : behavior.Fair (SenderTask.step .receive) := by
    apply behavior.fair_of_ended ended
    rintro next ⟨event, after, step, -⟩
    exact ReceiveStep.running ⟨event, step⟩ rfl
  have pushes : ∀ call, behavior.Fair (SenderTask.step (.push call)) := by
    intro call
    apply behavior.fair_of_ended ended
    rintro next ⟨isGranted, -⟩
    have none : senderRun.state.granted = [] := rfl
    rw [none] at isGranted
    cases isGranted
  have flushes : behavior.Fair fun machine next => FlushStep smallHub machine.hub next.hub :=
    behavior.fair_of_ended ended fun next step => step.running rfl
  obtain ⟨serves, returns⟩ := hub_never_blocks_senders smallHub behavior receives pushes
  have begins : .called ⟨0, 0, .send, broadcast "a"⟩ ∈ behavior.history last := by
    rw [history]
    decide
  have drops : .dropped 1 true ∈ behavior.history last := by
    rw [history]
    decide
  obtain ⟨begun, -, called⟩ := behavior.mem_history.mp begins
  obtain ⟨dropped, -, isLast⟩ := behavior.mem_history.mp drops
  obtain ⟨done, afterCall, isDone⟩ :=
    serves (begun + 1) _ (inFlight_of_called (behavior.moves begun _ called))
  obtain ⟨later, afterDrop, returned⟩ :=
    returns (by decide) flushes (dropped + 1) (handles_of_last (behavior.moves dropped _ isLast))
  exact ⟨behavior, begun, done, dropped, later, called, afterCall, isDone, isLast, afterDrop,
    returned⟩

end Polku.Hub
