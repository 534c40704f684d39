import Polku.Error
import Polku.Hub.Return
import Polku.Semantics.Refinement

/-!
# The senders of a hub

`Hub::build` makes one `MessageSender`, which may be cloned and dropped; the channel closes
when the last one is dropped. Any number of calls of `send` and `try_send` interleave with the
tasks of the hub. The channel has a permit for each place: a call takes one before it sends
its message, a call of `send` waits for one in line, and `try_send` is refused if there is
none. The future of a `send` may be dropped before it is done.
-/

namespace Polku

open Semantics

/-- The two ways to send. -/
inductive SendKind where
  | send
  | trySend
deriving DecidableEq

/-- A call on a `MessageSender`. -/
structure SendCall where
  number : Nat
  handle : Nat
  kind : SendKind
  msg : Message
deriving DecidableEq

/-- A hub with the handles on its channel and the calls in flight: those which wait for a
permit, first come first, and those which have one. -/
structure SendersState where
  hub : HubState
  handles : List Nat
  issued : Nat
  calls : Nat
  waiting : List SendCall
  granted : List SendCall

/-- What a step of a hub with senders did. -/
inductive SenderEvent where
  | cloned (handle clone : Nat)
  | dropped (handle : Nat) (last : Bool)
  | called (call : SendCall)
  | refused (call : SendCall) (error : PluginError)
  | sent (call : SendCall)
  | cancelled (call : SendCall)
  | ran (event : HubEvent)
deriving DecidableEq

/-- What the hub sees of it. -/
def SenderEvent.hubEvent : SenderEvent → Option HubEvent
  | .dropped _ true => some .closed
  | .sent call => some (.sent call.msg)
  | .ran event => some event
  | _ => none

namespace SendersState

/-- A hub and the sender which `Hub::build` returns with it. -/
def build (hub : Hub) (metrics : Option Metrics) : SendersState :=
  ⟨.start hub metrics, [0], 1, 0, [], []⟩

/-- The places of the channel which are taken or promised. -/
def taken (self : SendersState) : Nat := self.hub.channel.length + self.granted.length

/-- A call of `send` or `try_send` begins. -/
def begin (self : SendersState) (call : SendCall) : SenderEvent × SendersState :=
  if self.hub.receiver = .returned then
    (.refused call (.send "channel closed"), { self with calls := self.calls + 1 })
  else if self.taken < Hub.channelCapacity then
    (.called call, { self with calls := self.calls + 1, granted := self.granted ++ [call] })
  else match call.kind with
    | .send =>
        (.called call, { self with calls := self.calls + 1, waiting := self.waiting ++ [call] })
    | .trySend =>
        (.refused call (.send "no available capacity"), { self with calls := self.calls + 1 })

/-- A call which has a permit sends its message. -/
def push (self : SendersState) (call : SendCall) : SendersState :=
  { self with
    hub := { self.hub with channel := self.hub.channel ++ [call.msg] }
    granted := self.granted.erase call }

/-- A permit which has become free goes to the call that has waited longest. -/
def grantNext (self : SendersState) : SendersState :=
  match self.waiting with
  | [] => self
  | call :: rest => { self with waiting := rest, granted := self.granted ++ [call] }

/-- A permit becomes free when a message is received. -/
def afterStep (self : SendersState) (event : HubEvent) (hub : HubState) : SendersState :=
  match event with
  | .received _ => { self with hub := hub }.grantNext
  | _ => { self with hub := hub }

/-- The calls in flight. -/
def inFlight (self : SendersState) : List SendCall := self.waiting ++ self.granted

/-- One step of a sender or of the hub. A handle which a call is using is not dropped. -/
inductive Step (hub : Hub) : SendersState → SenderEvent → SendersState → Prop where
  | clone {self handle} (isLive : handle ∈ self.handles) :
      Step hub self (.cloned handle self.issued)
        { self with handles := self.handles ++ [self.issued], issued := self.issued + 1 }
  | drop {self handle} (isLive : handle ∈ self.handles)
      (unused : ∀ call ∈ self.inFlight, call.handle ≠ handle) :
      Step hub self (.dropped handle (self.handles.erase handle).isEmpty) { self with
        handles := self.handles.erase handle
        hub := { self.hub with
          closed := self.hub.closed || (self.handles.erase handle).isEmpty } }
  | call {self handle event next} (kind : SendKind) (msg : Message)
      (isLive : handle ∈ self.handles)
      (begins : self.begin ⟨self.calls, handle, kind, msg⟩ = (event, next)) :
      Step hub self event next
  | push {self call} (isGranted : call ∈ self.granted) :
      Step hub self (.sent call) (self.push call)
  | refuse {self call} (waits : call ∈ self.waiting) (gone : self.hub.receiver = .returned) :
      Step hub self (.refused call (.send "channel closed"))
        { self with waiting := self.waiting.erase call }
  | stopWaiting {self call} (waits : call ∈ self.waiting) :
      Step hub self (.cancelled call) { self with waiting := self.waiting.erase call }
  | giveBack {self call} (isGranted : call ∈ self.granted) (isSend : call.kind = .send) :
      Step hub self (.cancelled call)
        { self with granted := self.granted.erase call }.grantNext
  | receiver {self event next} (step : HubState.ReceiverStep self.hub event next) :
      Step hub self (.ran event) (self.afterStep event next)
  | flusher {self event next} (step : HubState.FlusherStep hub self.hub event next) :
      Step hub self (.ran event) (self.afterStep event next)

/-- The runs of a hub with senders. -/
def system (hub : Hub) : System SenderEvent where
  State := SendersState
  Initial self := ∃ metrics, self = build hub metrics
  Step := Step hub

end SendersState

/-! ## What each step does -/

/-- The message which a step takes from the channel, if any. -/
def HubEvent.receivedMessage : HubEvent → Option Message
  | .received msg => some msg
  | _ => none

namespace HubState

variable {hub : Hub} {self next : HubState} {event : HubEvent}

/-- The receive loop takes one message at a time from the channel. -/
theorem ReceiverStep.channel_eq (step : ReceiverStep self event next) :
    self.channel = event.receivedMessage.toList ++ next.channel := by
  cases step with
  | receive phase waiting => exact waiting
  | finish | filter | pass | push | signal | join => rfl

/-- The flush loop takes none. -/
theorem FlusherStep.channel_eq (step : FlusherStep hub self event next) :
    self.channel = event.receivedMessage.toList ++ next.channel := by
  cases step <;> rfl

end HubState

namespace SendersState

section Steps

variable {hub : Hub} {self next : SendersState} {call : SendCall} {event : SenderEvent}

/-- How a call begins. -/
inductive Begins (self : SendersState) (call : SendCall) : SenderEvent → SendersState → Prop where
  | closed (gone : self.hub.receiver = .returned) :
      Begins self call (.refused call (.send "channel closed"))
        { self with calls := self.calls + 1 }
  | granted (running : self.hub.receiver ≠ .returned)
      (room : self.taken < Hub.channelCapacity) :
      Begins self call (.called call)
        { self with calls := self.calls + 1, granted := self.granted ++ [call] }
  | waits (running : self.hub.receiver ≠ .returned) (full : Hub.channelCapacity ≤ self.taken)
      (isSend : call.kind = .send) :
      Begins self call (.called call)
        { self with calls := self.calls + 1, waiting := self.waiting ++ [call] }
  | refused (running : self.hub.receiver ≠ .returned) (full : Hub.channelCapacity ≤ self.taken)
      (isTry : call.kind = .trySend) :
      Begins self call (.refused call (.send "no available capacity"))
        { self with calls := self.calls + 1 }

/-- `begin` does one of these. -/
theorem begins_of_begin (begins : self.begin call = (event, next)) :
    self.Begins call event next := by
  unfold begin at begins
  split at begins
  case isTrue gone =>
      cases begins
      exact .closed gone
  case isFalse running =>
      split at begins
      case isTrue room =>
          cases begins
          exact .granted running room
      case isFalse full =>
          split at begins
          case h_1 isSend =>
              cases begins
              exact .waits running (Nat.not_lt.mp full) isSend
          case h_2 isTry =>
              cases begins
              exact .refused running (Nat.not_lt.mp full) isTry

/-- To begin a call is not seen by the hub. -/
theorem Begins.hidden (begins : self.Begins call event next) :
    next.hub = self.hub ∧ event.hubEvent = none := by
  cases begins <;> exact ⟨rfl, rfl⟩

@[simp] theorem grantNext_hub : self.grantNext.hub = self.hub := by
  unfold grantNext
  split <;> rfl

@[simp] theorem grantNext_handles : self.grantNext.handles = self.handles := by
  unfold grantNext
  split <;> rfl

@[simp] theorem grantNext_calls : self.grantNext.calls = self.calls := by
  unfold grantNext
  split <;> rfl

/-- The calls in flight stay in flight. -/
theorem grantNext_inFlight : self.grantNext.inFlight.Perm self.inFlight := by
  unfold grantNext
  split
  case h_1 none => exact .refl _
  case h_2 call rest waits =>
      rw [inFlight, inFlight, waits, ← List.append_assoc]
      exact List.perm_append_singleton _ _

/-- No call loses its permit. -/
theorem granted_grantNext : self.granted ⊆ self.grantNext.granted := by
  unfold grantNext
  split
  case h_1 => exact List.Subset.refl _
  case h_2 => exact List.subset_append_left _ _

@[simp] theorem afterStep_hub {event : HubEvent} {after : HubState} :
    (self.afterStep event after).hub = after := by
  unfold afterStep
  split <;> simp

/-- No other step frees a permit. -/
theorem afterStep_of_none {event : HubEvent} {after : HubState}
    (none : event.receivedMessage = none) :
    self.afterStep event after = { self with hub := after } := by
  cases event with
  | received msg => cases none
  | _ => rfl

@[simp] theorem afterStep_calls {event : HubEvent} {after : HubState} :
    (self.afterStep event after).calls = self.calls := by
  unfold afterStep
  split <;> simp

/-- The calls in flight stay in flight. -/
theorem afterStep_inFlight {event : HubEvent} {after : HubState} :
    (self.afterStep event after).inFlight.Perm self.inFlight := by
  unfold afterStep
  split
  case h_1 => exact grantNext_inFlight
  case h_2 => exact .refl _

/-- No call loses its permit. -/
theorem granted_afterStep {event : HubEvent} {after : HubState} :
    self.granted ⊆ (self.afterStep event after).granted := by
  unfold afterStep
  split
  case h_1 => exact @granted_grantNext { self with hub := after }
  case h_2 => exact List.Subset.refl _

end Steps

end SendersState

/-! ## What the senders can rely on -/

namespace Hub

open SendersState

variable {hub : Hub} {machine next : SendersState} {event : SenderEvent} {free : Nat}

/-- What holds of a hub with senders, when some permits are about to be handed on: the channel
is open while there is a handle, calls in flight use a handle, and no one waits while there
is a permit. -/
structure Connected (free : Nat) (machine : SendersState) : Prop where
  shutsDown : ShutsDown machine.hub
  closed : machine.hub.closed = machine.handles.isEmpty
  held : ∀ call ∈ machine.inFlight, call.handle ∈ machine.handles
  numbered : ∀ call ∈ machine.inFlight, call.number < machine.calls
  nodup : machine.inFlight.Nodup
  room : machine.taken + free ≤ channelCapacity
  full : machine.waiting ≠ [] → machine.taken + free = channelCapacity

/-- It holds at first. -/
theorem Connected.build (hub : Hub) (metrics : Option Metrics) :
    Connected 0 (.build hub metrics) where
  shutsDown := (Delivering.start hub metrics).shutsDown
  closed := rfl
  held := by simp [SendersState.build, inFlight]
  numbered := by simp [SendersState.build, inFlight]
  nodup := by simp [SendersState.build, inFlight]
  room := Nat.zero_le _
  full waits := absurd rfl waits

/-- While there is a handle, the hub has not returned. -/
theorem Connected.running (connected : Connected free machine) {handle : Nat}
    (isLive : handle ∈ machine.handles) : machine.hub.receiver ≠ .returned := by
  intro returned
  have closed := (connected.shutsDown.drainedChannel (.inr (.inr returned))).1
  rw [connected.closed, List.isEmpty_iff] at closed
  simp [closed] at isLive

/-- While there is a handle, the channel is open. -/
theorem Connected.isOpen (connected : Connected free machine) {handle : Nat}
    (isLive : handle ∈ machine.handles) : machine.hub.closed = false := by
  rw [connected.closed, List.isEmpty_eq_false_iff]
  exact List.ne_nil_of_mem isLive

/-- The hub sees nothing of other steps. -/
theorem Connected.hidden (step : Step hub machine event next)
    (none : event.hubEvent = none) : next.hub = machine.hub := by
  cases step with
  | clone | refuse | stopWaiting => rfl
  | drop isLive unused =>
      cases empty : (machine.handles.erase _).isEmpty with
      | true => simp [empty, SenderEvent.hubEvent] at none
      | false => simp
  | call kind msg isLive begins => exact (begins_of_begin begins).hidden.1
  | giveBack => exact grantNext_hub
  | push | receiver | flusher => cases none

/-- What the hub sees is a step of it. -/
theorem Connected.seen (connected : Connected 0 machine) (step : Step hub machine event next)
    {seen : HubEvent} (visible : event.hubEvent = some seen) :
    HubState.Step hub machine.hub seen next.hub := by
  cases step with
  | clone | refuse | stopWaiting | giveBack => cases visible
  | drop isLive unused =>
      cases empty : (machine.handles.erase _).isEmpty with
      | true =>
          obtain rfl : HubEvent.closed = seen := by
            simpa [empty, SenderEvent.hubEvent] using visible
          simpa [empty] using HubState.Step.sender (.close (connected.isOpen isLive))
      | false => simp [empty, SenderEvent.hubEvent] at visible
  | call kind msg isLive begins =>
      rw [(begins_of_begin begins).hidden.2] at visible
      cases visible
  | @push call isGranted =>
      cases visible
      have isOpen := connected.isOpen
        (connected.held call (List.mem_append_right _ isGranted))
      have room : machine.hub.channel.length < channelCapacity := by
        have bounded := connected.room
        have someGranted := List.length_pos_of_mem isGranted
        rw [taken] at bounded
        omega
      exact .sender (.send call.msg isOpen room)
  | receiver step =>
      cases visible
      rw [afterStep_hub]
      exact .receiver step
  | flusher step =>
      cases visible
      rw [afterStep_hub]
      exact .flusher step

/-- The hub goes on shutting down in order. -/
theorem Connected.shutsDown_next (connected : Connected 0 machine)
    (step : Step hub machine event next) : ShutsDown next.hub := by
  cases visible : event.hubEvent with
  | none =>
      rw [Connected.hidden step visible]
      exact connected.shutsDown
  | some seen => exact connected.shutsDown.step (connected.seen step visible)

/-- Calls may be done, but not begin, in a step which keeps all this. -/
private theorem Connected.less {left : Nat} (connected : Connected free machine)
    (shutsDown : ShutsDown next.hub) (closed : next.hub.closed = machine.hub.closed)
    (handles : next.handles = machine.handles) (calls : machine.calls ≤ next.calls)
    (less : next.inFlight.Subperm machine.inFlight) (room : next.taken + left ≤ channelCapacity)
    (full : next.waiting ≠ [] → next.taken + left = channelCapacity) : Connected left next where
  shutsDown := shutsDown
  closed := by rw [closed, handles, connected.closed]
  held call member := by
    rw [handles]
    exact connected.held call (less.subset member)
  numbered call member := Nat.lt_of_lt_of_le (connected.numbered call (less.subset member)) calls
  nodup := by
    obtain ⟨calls, same, sublist⟩ := less
    exact same.nodup_iff.mp (connected.nodup.sublist sublist)
  room := room
  full := full

/-- A permit is handed on. -/
theorem Connected.grantNext (connected : Connected 1 machine) :
    Connected 0 machine.grantNext := by
  have room := connected.room
  have full := connected.full
  refine connected.less ?_ ?_ grantNext_handles (Nat.le_of_eq grantNext_calls.symm)
    grantNext_inFlight.subperm ?_ ?_
  · rw [grantNext_hub]
    exact connected.shutsDown
  · rw [grantNext_hub]
  · unfold SendersState.grantNext
    split
    case h_1 => omega
    case h_2 => simpa [taken, Nat.add_assoc] using room
  · unfold SendersState.grantNext
    split
    case h_1 none => exact fun waits => absurd none waits
    case h_2 call rest waits =>
        intro _
        simpa [taken, Nat.add_assoc] using full (by simp [waits])

/-- One more call. -/
private theorem Connected.begin (connected : Connected 0 machine) {call : SendCall}
    (isLive : call.handle ∈ machine.handles) (isNext : call.number = machine.calls)
    (begins : machine.Begins call event next) : Connected 0 next := by
  have room := connected.room
  have full := connected.full
  have fresh : call ∉ machine.inFlight := by
    intro member
    have earlier := connected.numbered call member
    omega
  have held : ∀ other ∈ call :: machine.inFlight,
      other.handle ∈ machine.handles ∧ other.number < machine.calls + 1 := by
    intro other member
    rcases List.mem_cons.mp member with rfl | earlier
    · exact ⟨isLive, Nat.lt_succ_of_le (Nat.le_of_eq isNext)⟩
    · exact ⟨connected.held other earlier,
        Nat.lt_succ_of_lt (connected.numbered other earlier)⟩
  have nodup := List.nodup_cons.mpr ⟨fresh, connected.nodup⟩
  cases begins with
  | closed gone => exact absurd gone (connected.running isLive)
  | refused => exact connected.less connected.shutsDown rfl rfl (Nat.le_succ _) (.refl _) room full
  | granted running vacant =>
      have more : (machine.waiting ++ (machine.granted ++ [call])).Perm
          (call :: machine.inFlight) := by
        rw [← List.append_assoc]
        exact List.perm_append_singleton _ _
      refine ⟨connected.shutsDown, connected.closed, ?_, ?_, more.nodup_iff.mpr nodup, ?_, ?_⟩
      · exact fun other member => (held other (more.subset member)).1
      · exact fun other member => (held other (more.subset member)).2
      · simpa [taken, Nat.add_assoc] using Nat.succ_le_of_lt vacant
      · intro waits
        have noRoom := full waits
        omega
  | waits running noRoom isSend =>
      have more : (machine.waiting ++ [call] ++ machine.granted).Perm (call :: machine.inFlight) :=
        (List.perm_append_singleton _ _).append_right _
      refine ⟨connected.shutsDown, connected.closed, ?_, ?_, more.nodup_iff.mpr nodup, room, ?_⟩
      · exact fun other member => (held other (more.subset member)).1
      · exact fun other member => (held other (more.subset member)).2
      · exact fun _ => Nat.le_antisymm room noRoom

/-- The hub goes on. -/
private theorem Connected.afterStep (connected : Connected 0 machine) {event : HubEvent}
    {after : HubState} (shutsDown : ShutsDown after) (closed : after.closed = machine.hub.closed)
    (channel : machine.hub.channel = event.receivedMessage.toList ++ after.channel) :
    Connected 0 (machine.afterStep event after) := by
  have room := connected.room
  have full := connected.full
  simp only [taken, channel, List.length_append] at room full
  have freed : Connected event.receivedMessage.toList.length { machine with hub := after } := by
    refine connected.less shutsDown closed rfl (Nat.le_refl _) (.refl _) ?_ ?_
    · simp only [taken]
      omega
    · intro waits
      have noRoom := full waits
      simp only [taken]
      omega
  cases event with
  | received msg => exact freed.grantNext
  | _ => exact freed

/-- Every step keeps it. -/
theorem Connected.step (connected : Connected 0 machine) (step : Step hub machine event next) :
    Connected 0 next := by
  have shutsDown := connected.shutsDown_next step
  have room := connected.room
  have full := connected.full
  cases step with
  | clone isLive =>
      refine ⟨shutsDown, ?_, ?_, connected.numbered, connected.nodup, room, full⟩
      · rw [connected.isOpen isLive]
        simp
      · exact fun call member => List.mem_append_left _ (connected.held call member)
  | drop isLive unused =>
      refine ⟨shutsDown, ?_, ?_, connected.numbered, connected.nodup, room, full⟩
      · simp [connected.isOpen isLive]
      · intro call member
        exact (List.mem_erase_of_ne (unused call member)).mpr (connected.held call member)
  | call kind msg isLive begins => exact connected.begin isLive rfl (begins_of_begin begins)
  | @push call isGranted =>
      have same : (machine.push call).taken = machine.taken := by
        have someGranted := List.length_pos_of_mem isGranted
        simp only [SendersState.push, taken, List.length_append, List.length_singleton,
          List.length_erase_of_mem isGranted]
        omega
      refine connected.less shutsDown rfl rfl (Nat.le_refl _) ?_ (same ▸ room) (same ▸ full)
      exact (List.erase_sublist.append_left _).subperm
  | refuse waits gone =>
      exact absurd gone (connected.running (connected.held _ (List.mem_append_left _ waits)))
  | stopWaiting waits =>
      refine connected.less shutsDown rfl rfl (Nat.le_refl _) ?_ room ?_
      · exact (List.erase_sublist.append_right _).subperm
      · exact fun _ => full (List.ne_nil_of_mem waits)
  | @giveBack call isGranted =>
      have someGranted := List.length_pos_of_mem isGranted
      have freed : ({ machine with granted := machine.granted.erase call } : SendersState).taken + 1 =
          machine.taken := by
        simp only [taken, List.length_erase_of_mem isGranted]
        omega
      apply Connected.grantNext
      refine connected.less connected.shutsDown rfl rfl (Nat.le_refl _) ?_ ?_ ?_
      · exact (List.erase_sublist.append_left _).subperm
      · exact freed ▸ room
      · exact fun waits => freed ▸ full waits
  | receiver step =>
      rw [afterStep_hub] at shutsDown
      exact connected.afterStep shutsDown step.frame.2.1 step.channel_eq
  | flusher step =>
      rw [afterStep_hub] at shutsDown
      exact connected.afterStep shutsDown step.frame.2.1 step.channel_eq

/-- A hub with senders is a hub whose channel the last one closes. -/
theorem senders_refine (hub : Hub) :
    System.Refines (SendersState.system hub) (HubState.system hub) SendersState.hub
      SenderEvent.hubEvent (Connected 0) where
  initial machine valid := by
    obtain ⟨metrics, rfl⟩ := valid
    exact ⟨.build hub metrics, metrics, rfl⟩
  kept connected step := connected.step step
  hidden _ step none := Connected.hidden step none
  seen connected step visible := connected.seen step visible

end Hub

end Polku
