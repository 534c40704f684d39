import Polku.Hub.Senders

/-!
# What becomes of a call

Each call of `send` or `try_send` which is not refused is in flight until it has sent its
message or its future is dropped, and never both. A call is refused only for want of a free
place, and what was sent has been delivered when the hub returns.
-/

namespace Polku

open Semantics

/-! ## What a history tells -/

/-- The call which has begun with an event, if any. -/
def SenderEvent.calledCall : SenderEvent → Option SendCall
  | .called call => some call
  | _ => none

/-- The call whose message an event has sent, if any. -/
def SenderEvent.sentCall : SenderEvent → Option SendCall
  | .sent call => some call
  | _ => none

/-- The call which an event has cancelled, if any. -/
def SenderEvent.cancelledCall : SenderEvent → Option SendCall
  | .cancelled call => some call
  | _ => none

namespace SenderHistory

/-- The calls which have begun and were not refused, in order. -/
def called (trace : List SenderEvent) : List SendCall := trace.filterMap SenderEvent.calledCall

/-- The calls which have sent their message, in order. -/
def sent (trace : List SenderEvent) : List SendCall := trace.filterMap SenderEvent.sentCall

/-- The calls whose future was dropped, in order. -/
def cancelled (trace : List SenderEvent) : List SendCall :=
  trace.filterMap SenderEvent.cancelledCall

/-- What the hub sees. -/
def hubTrace (trace : List SenderEvent) : List HubEvent := trace.filterMap SenderEvent.hubEvent

/-- The messages received, in order. -/
def received (trace : List SenderEvent) : List Message :=
  (hubTrace trace).filterMap HubEvent.receivedMessage

section Snoc

variable (trace : List SenderEvent) (event : SenderEvent)

@[simp] theorem called_snoc : called (trace ++ [event]) = called trace ++ event.calledCall.toList :=
  Data.filterMap_snoc _ trace event

@[simp] theorem sent_snoc : sent (trace ++ [event]) = sent trace ++ event.sentCall.toList :=
  Data.filterMap_snoc _ trace event

@[simp] theorem cancelled_snoc :
    cancelled (trace ++ [event]) = cancelled trace ++ event.cancelledCall.toList :=
  Data.filterMap_snoc _ trace event

@[simp] theorem hubTrace_snoc :
    hubTrace (trace ++ [event]) = hubTrace trace ++ event.hubEvent.toList :=
  Data.filterMap_snoc _ trace event

@[simp] theorem received_snoc : received (trace ++ [event]) =
    received trace ++ event.hubEvent.toList.filterMap HubEvent.receivedMessage := by
  simp [received]

end Snoc

end SenderHistory

namespace Hub

open SendersState SenderHistory

variable {hub : Hub} {trace : List SenderEvent} {machine next : SendersState}
  {event : SenderEvent}

/-- Every call which has begun is in one place. -/
structure CallsAccounted (trace : List SenderEvent) (machine : SendersState) : Prop where
  calls : (called trace).Perm (sent trace ++ cancelled trace ++ machine.inFlight)
  distinct : (called trace).Nodup
  numbered : ∀ call ∈ called trace, call.number < machine.calls
  forwarded : HubHistory.sent (hubTrace trace) = (sent trace).map SendCall.msg
  channel : (sent trace).map SendCall.msg = received trace ++ machine.hub.channel

/-- A step keeps the account if it moves calls and messages from one place to the next. -/
private theorem CallsAccounted.snoc (accounted : CallsAccounted trace machine)
    (moves : (event.calledCall.toList ++ machine.inFlight).Perm
      (event.sentCall.toList ++ event.cancelledCall.toList ++ next.inFlight))
    (fresh : ∀ call, event.calledCall = some call → call.number = machine.calls)
    (calls : machine.calls + event.calledCall.toList.length ≤ next.calls)
    (forwarded : event.hubEvent.toList.filterMap HubEvent.sentMessage =
      event.sentCall.toList.map SendCall.msg)
    (channel : machine.hub.channel ++ event.sentCall.toList.map SendCall.msg =
      event.hubEvent.toList.filterMap HubEvent.receivedMessage ++ next.hub.channel) :
    CallsAccounted (trace ++ [event]) next where
  calls := by
    have before := accounted.calls
    rw [List.perm_iff_count] at before moves ⊢
    intro other
    have isBefore := before other
    have isMoved := moves other
    simp only [called_snoc, sent_snoc, cancelled_snoc, List.count_append] at isBefore isMoved ⊢
    omega
  distinct := by
    rw [called_snoc]
    cases begins : event.calledCall with
    | none => simpa using accounted.distinct
    | some call =>
        have isNew : call ∉ called trace := by
          intro member
          have earlier := accounted.numbered call member
          have isNext := fresh call begins
          omega
        exact List.nodup_append_comm.mp (List.nodup_cons.mpr ⟨isNew, accounted.distinct⟩)
  numbered := by
    intro call member
    rw [called_snoc] at member
    rcases List.mem_append.mp member with earlier | isNew
    · have before := accounted.numbered call earlier
      omega
    · have isNext := fresh call (Option.mem_toList.mp isNew)
      have some := List.length_pos_of_mem isNew
      omega
  forwarded := by
    have before := accounted.forwarded
    rw [HubHistory.sent] at before ⊢
    simp [forwarded, before]
  channel := by
    rw [sent_snoc, List.map_append, accounted.channel, List.append_assoc, channel]
    simp

/-- A step keeps the account if it moves no message and no call begins. -/
private theorem CallsAccounted.idle (accounted : CallsAccounted trace machine)
    (noCall : event.calledCall = none) (noSend : event.sentCall = none)
    (moves : machine.inFlight.Perm (event.cancelledCall.toList ++ next.inFlight))
    (calls : machine.calls ≤ next.calls)
    (unsent : event.hubEvent.toList.filterMap HubEvent.sentMessage = [])
    (channel : machine.hub.channel =
      event.hubEvent.toList.filterMap HubEvent.receivedMessage ++ next.hub.channel) :
    CallsAccounted (trace ++ [event]) next := by
  apply accounted.snoc
  case moves => simpa [noCall, noSend] using moves
  case fresh => simp [noCall]
  case calls => simpa [noCall] using calls
  case forwarded => simpa [noSend] using unsent
  case channel => simpa [noSend] using channel

/-- A call begins. -/
private theorem CallsAccounted.begin (accounted : CallsAccounted trace machine) {call : SendCall}
    (isNext : call.number = machine.calls) (moves : (call :: machine.inFlight).Perm next.inFlight)
    (calls : next.calls = machine.calls + 1) (channel : next.hub = machine.hub) :
    CallsAccounted (trace ++ [.called call]) next := by
  apply accounted.snoc
  case moves => exact moves
  case fresh =>
    intro other isCall
    exact Option.some.inj isCall ▸ isNext
  case calls => exact Nat.le_of_eq calls.symm
  case forwarded => rfl
  case channel => simp [SenderEvent.sentCall, SenderEvent.hubEvent, channel]

/-- The hub goes on. -/
private theorem CallsAccounted.afterStep (accounted : CallsAccounted trace machine)
    {event : HubEvent} {after : HubState}
    (channel : machine.hub.channel = event.receivedMessage.toList ++ after.channel)
    (unsent : event.sentMessage = none) :
    CallsAccounted (trace ++ [.ran event]) (machine.afterStep event after) := by
  refine accounted.idle rfl rfl afterStep_inFlight.symm (Nat.le_of_eq afterStep_calls.symm) ?_ ?_
  · simp [SenderEvent.hubEvent, unsent]
  · rw [afterStep_hub, channel, SenderEvent.hubEvent]
    cases taken : event.receivedMessage <;> simp [taken]

/-- Every step keeps the account. -/
private theorem CallsAccounted.step (accounted : CallsAccounted trace machine)
    (connected : Connected 0 machine) (step : Step hub machine event next) :
    CallsAccounted (trace ++ [event]) next := by
  cases step with
  | clone isLive => exact accounted.idle rfl rfl (.refl _) (Nat.le_refl _) rfl rfl
  | drop isLive unused =>
      refine accounted.idle rfl rfl (.refl _) (Nat.le_refl _) ?_ ?_
      · cases last : (machine.handles.erase _).isEmpty <;> rfl
      · cases last : (machine.handles.erase _).isEmpty <;> rfl
  | call kind msg isLive begins =>
      cases begins_of_begin begins with
      | closed | refused => exact accounted.idle rfl rfl (.refl _) (Nat.le_succ _) rfl rfl
      | granted running room =>
          refine accounted.begin rfl ?_ rfl rfl
          rw [inFlight, inFlight, ← List.append_assoc]
          exact (List.perm_append_singleton _ _).symm
      | waits running full isSend =>
          refine accounted.begin rfl ?_ rfl rfl
          exact ((List.perm_append_singleton _ _).append_right _).symm
  | @push call isGranted =>
      apply accounted.snoc
      case moves => exact ((List.perm_cons_erase isGranted).append_left _).trans List.perm_middle
      case fresh => simp [SenderEvent.calledCall]
      case calls => exact Nat.le_refl _
      case forwarded => rfl
      case channel => rfl
  | refuse waits gone =>
      exact absurd gone (connected.running (connected.held _ (List.mem_append_left _ waits)))
  | @stopWaiting call waits =>
      refine accounted.idle rfl rfl ?_ (Nat.le_refl _) rfl rfl
      exact (List.perm_cons_erase waits).append_right _
  | @giveBack call isGranted isSend =>
      refine accounted.idle rfl rfl ?_ ?_ rfl ?_
      · have still : ({ machine with granted := machine.granted.erase call } :
            SendersState).grantNext.inFlight.Perm (machine.waiting ++ machine.granted.erase call) :=
          grantNext_inFlight
        exact (((List.perm_cons_erase isGranted).append_left _).trans List.perm_middle).trans
          (still.symm.cons call)
      · rw [grantNext_calls]
      · rw [grantNext_hub]
        rfl
  | receiver step =>
      obtain ⟨-, -, unsent, -⟩ := step.frame
      exact accounted.afterStep step.channel_eq unsent
  | flusher step =>
      obtain ⟨-, -, -, -, -, unsent, -⟩ := step.frame
      exact accounted.afterStep step.channel_eq unsent

/-- The account holds in every run. -/
theorem CallsAccounted.of_runs (run : (SendersState.system hub).Runs trace machine) :
    CallsAccounted trace machine := by
  apply run.history CallsAccounted
  case initial =>
      rintro machine ⟨metrics, rfl⟩
      exact ⟨.refl _, List.nodup_nil, by simp [SenderHistory.called], rfl, rfl⟩
  case preserved =>
      intro trace machine event next prior accounted step
      exact accounted.step ((senders_refine hub).holds prior) step

/-- The calls which have begun, by where they or their messages are. -/
theorem CallsAccounted.length_eq (accounted : CallsAccounted trace machine) :
    (called trace).length = (received trace).length + (cancelled trace).length +
      (machine.taken + machine.waiting.length) := by
  have calls := accounted.calls.length_eq
  have messages := congrArg List.length accounted.channel
  simp only [inFlight, List.length_append, List.length_map] at calls messages
  rw [taken]
  omega

/-- The places which calls have claimed, as a history tells: those of the calls which were
neither cancelled nor are their messages received. -/
def Exhausted (trace : List SenderEvent) : Prop :=
  (received trace).length + (cancelled trace).length + channelCapacity ≤ (called trace).length

/-- All places are claimed exactly if the channel has no permit left. -/
theorem CallsAccounted.exhausted_iff (accounted : CallsAccounted trace machine)
    (connected : Connected 0 machine) : Exhausted trace ↔ channelCapacity ≤ machine.taken := by
  rw [Exhausted, accounted.length_eq]
  by_cases waits : machine.waiting = []
  · rw [waits, List.length_nil]
    omega
  · have full := connected.full waits
    omega

/-- What a call of `try_send` or `send` is told. -/
def AnsweredByRoom (before : List SenderEvent) : SenderEvent → Prop
  | .called call => call.kind = .trySend → ¬ Exhausted before
  | .refused call error =>
      call.kind = .trySend ∧ error = .send "no available capacity" ∧ Exhausted before
  | _ => True

/-- Each call is answered so. -/
private theorem answeredByRoom (accounted : CallsAccounted trace machine)
    (connected : Connected 0 machine) (step : Step hub machine event next) :
    AnsweredByRoom trace event := by
  have exhausted := accounted.exhausted_iff connected
  cases step with
  | clone | drop | push | stopWaiting | giveBack | receiver | flusher => trivial
  | call kind msg isLive begins =>
      cases begins_of_begin begins with
      | closed gone => exact absurd gone (connected.running isLive)
      | granted running room => exact fun _ noRoom => Nat.not_lt.mpr (exhausted.mp noRoom) room
      | waits running full isSend =>
          intro isTry
          cases isSend.symm.trans isTry
      | refused running full isTry => exact ⟨isTry, rfl, exhausted.mpr full⟩
  | refuse waits gone =>
      exact absurd gone (connected.running (connected.held _ (List.mem_append_left _ waits)))

/-- What the callers of `send` and `try_send` can rely on. -/
structure Served (hub : Hub) (trace : List SenderEvent) (machine : SendersState) : Prop where
  /-- A call which was not refused has sent its message, was cancelled or is in flight, and
  only one of these. -/
  calls : (called trace).Perm (sent trace ++ cancelled trace ++ machine.inFlight)
  distinct : (called trace).Nodup
  /-- Only `try_send` is refused, and exactly if all places are claimed. -/
  answered : ∀ before event after, trace = before ++ event :: after → AnsweredByRoom before event
  /-- The hub returns only if all handles are dropped and no call is in flight, and has
  received and delivered by then what the calls have sent, in that order. -/
  returned : machine.hub.receiver = .returned →
    machine.handles = [] ∧ machine.inFlight = [] ∧
      HubHistory.sent (hubTrace trace) = (sent trace).map SendCall.msg ∧
      Returned hub (hubTrace trace) machine.hub

/-- However the calls of any number of senders, cloned and dropped in any order, interleave
with each other and with the tasks of the hub, no call is ever told that the channel is
closed, no message is lost on its way into the hub or sent twice, and the hub does not return
before the last sender is gone. -/
theorem hub_serves_senders (hub : Hub)
    (run : (SendersState.system hub).Runs trace machine) : Served hub trace machine := by
  have accounted := CallsAccounted.of_runs run
  have connected := (senders_refine hub).holds run
  refine ⟨accounted.calls, accounted.distinct, ?_, ?_⟩
  · intro before event after split
    apply run.each AnsweredByRoom _ split
    intro trace machine event next prior step
    exact answeredByRoom (.of_runs prior) ((senders_refine hub).holds prior) step
  · intro returned
    have closed := (connected.shutsDown.drainedChannel (.inr (.inr returned))).1
    rw [connected.closed, List.isEmpty_iff] at closed
    refine ⟨closed, ?_, accounted.forwarded, .of_runs ((senders_refine hub).runs run) returned⟩
    apply List.eq_nil_iff_forall_not_mem.mpr
    intro call inFlight
    have held := connected.held call inFlight
    rw [closed] at held
    cases held

/-- A sender and its clone send one message each and are dropped, and the hub returns. -/
def senderRun : (SendersState.system smallHub).Execution :=
  (System.Execution.initial ⟨none, rfl⟩ : (SendersState.system smallHub).Execution)
    |>.snoc (@Step.clone smallHub _ 0 (by decide))
    |>.snoc (@Step.call smallHub _ 0 _ _ .send (broadcast "a") (by decide) rfl)
    |>.snoc (@Step.call smallHub _ 1 _ _ .trySend (broadcast "b") (by decide) rfl)
    |>.snoc (@Step.push smallHub _ ⟨1, 1, .trySend, broadcast "b"⟩ (by decide))
    |>.snoc (@Step.push smallHub _ ⟨0, 0, .send, broadcast "a"⟩ (by decide))
    |>.snoc (@Step.drop smallHub _ 0 (by decide) (by decide))
    |>.snoc (@Step.drop smallHub _ 1 (by decide) (by decide))
    |>.snoc (.receiver (.receive rfl rfl))
    |>.snoc (.receiver (.pass rfl rfl))
    |>.snoc (.receiver (.push rfl rfl))
    |>.snoc (.receiver (.receive rfl rfl))
    |>.snoc (.receiver (.pass rfl rfl))
    |>.snoc (.receiver (.push rfl rfl))
    |>.snoc (.receiver (.finish rfl rfl rfl))
    |>.snoc (.receiver (.signal rfl))
    |>.snoc (.flusher (.checkShutdown rfl))
    |>.snoc (.flusher (.checkEmpty rfl))
    |>.snoc (.flusher (.wake rfl))
    |>.snoc (.flusher (.drain rfl rfl))
    |>.snoc (.flusher (.measure rfl))
    |>.snoc (.flusher (.offer true rfl rfl rfl))
    |>.snoc (.flusher (.finish rfl (by decide)))
    |>.snoc (.flusher (.checkShutdown rfl))
    |>.snoc (.flusher (.checkEmpty rfl))
    |>.snoc (.receiver (.join rfl rfl))

/-- The later call sent first; both messages were received, and the first of them evicted. -/
theorem hub_serves_senders_two :
    Served smallHub senderRun.trace senderRun.state ∧
      senderRun.state.hub.receiver = .returned ∧
      (sent senderRun.trace).map SendCall.msg = [broadcast "b", broadcast "a"] ∧
      HubHistory.slices 0 (hubTrace senderRun.trace) =
        [[⟨"a", 0, "app", "created", ∅, [], []⟩]] :=
  ⟨hub_serves_senders smallHub senderRun.runs, rfl, by decide, by decide⟩

end Hub

end Polku
