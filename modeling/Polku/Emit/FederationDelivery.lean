import Polku.Emit.Federation

/-!
# What a federation delivers

However the steps of any number of calls of `emit`, of their tasks, of the network and of the
gateway interleave, a call stores each event of its batch once at most. If it succeeds, the
gateway has stored the whole batch; if it fails, all that came before the event which it
names.
-/

namespace Polku

open Semantics Data

/-- What a task has got for the task at some index, once it can be waited for. -/
def GrpcEmit.outcome? (self : GrpcEmit) (index : Nat) : Option EmitResult :=
  self.sends[index]?.bind SendTask.outcome

/-- A gateway keeps its unary calls, and those which have returned as they are. -/
def GatewayExtends (pool pool' : GatewayPool) : Prop :=
  ∀ (place : Nat) (call : UnaryCall), pool.tasks[place]? = some (.call call) →
    ∃ call', pool'.tasks[place]? = some (.call call') ∧ call'.ingest = call.ingest ∧
      ∀ item, call.phase = .returned item → call' = call

/-- A task whose request has arrived has a call of its own at the gateway, which has been
acknowledged if the task succeeded. -/
structure SendTask.Linked (pool : GatewayPool) (send : SendTask) : Prop where
  arrived : ∀ place, send.delivery = .arrived place →
    ∃ call, pool.tasks[place]? = some (.call call) ∧
      call.ingest = GrpcEmitter.request send.event
  ok : send.outcome = some (.ok ()) → ∃ place call ack, send.delivery = .arrived place ∧
    pool.tasks[place]? = some (.call call) ∧ call.phase = .returned (.ok ack)
  error : ∀ error, send.outcome = some (.error error) → ∃ text,
    .error error = GrpcEmitter.forward send.event (.error text) ∨
      .error error = GrpcEmit.notJoined text

/-- A call of `emit` has a task for each event as far as it has come, and goes on only as long
as its tasks succeed. -/
structure GrpcEmit.Linked (pool : GatewayPool) (emit : GrpcEmit) : Prop where
  sends : ∀ send ∈ emit.sends, send.Linked pool
  batch : emit.sends.map SendTask.event = emit.events.take emit.sends.length
  spawned : emit.phase ≠ .spawning → emit.events.length ≤ emit.sends.length
  joined : ∀ next, emit.phase = .joining next →
    ∀ index < next, emit.outcome? index = some (.ok ())
  ok : emit.phase = .returned (.ok ()) →
    ∀ index < emit.sends.length, emit.outcome? index = some (.ok ())
  error : ∀ error, emit.phase = .returned (.error error) →
    ∃ index, emit.outcome? index = some (.error error) ∧
      ∀ earlier < index, emit.outcome? earlier = some (.ok ())

variable {pool pool' : GatewayPool} {emit emit' : GrpcEmit} {event : FederationEvent}

/-- A step of a federation keeps the calls of the gateway. -/
theorem FederationTask.Step.extends {task task' : FederationTask}
    (step : FederationTask.Step pool task event pool' task') : GatewayExtends pool pool' := by
  intro place call isCall
  rcases step.atGateway with ⟨-, rfl⟩ | ⟨label, -, step⟩
  · exact ⟨call, isCall, rfl, fun _ _ => rfl⟩
  · exact PoolStep.call_kept step isCall

/-- The task is linked to a gateway which goes on. -/
theorem SendTask.Linked.extend {send : SendTask} (linked : send.Linked pool)
    (kept : GatewayExtends pool pool') : send.Linked pool' where
  arrived place isArrived := by
    obtain ⟨call, isCall, ingest⟩ := linked.arrived place isArrived
    obtain ⟨call', isCall', same, -⟩ := kept place call isCall
    exact ⟨call', isCall', same.trans ingest⟩
  ok succeeded := by
    obtain ⟨place, call, ack, isArrived, isCall, returned⟩ := linked.ok succeeded
    obtain ⟨call', isCall', -, same⟩ := kept place call isCall
    obtain rfl := same _ returned
    exact ⟨place, call', ack, isArrived, isCall', returned⟩
  error := linked.error

namespace GrpcEmit.Linked

/-- A new call has nothing to link. -/
theorem start (pool : GatewayPool) (events : List Event) : (GrpcEmit.start events).Linked pool := by
  cases events with
  | nil =>
      refine ⟨by simp [GrpcEmit.start], rfl, fun _ => le_rfl, ?_, ?_, ?_⟩
      · intro next isJoining
        cases isJoining
      · intro _ index within
        cases within
      · intro error isReturned
        cases isReturned
  | cons first rest =>
      refine ⟨by simp [GrpcEmit.start], rfl, fun other => absurd rfl other, ?_, ?_, ?_⟩
      · intro next isJoining
        cases isJoining
      · intro isReturned
        cases isReturned
      · intro error isReturned
        cases isReturned

/-- The call is linked to a gateway which goes on. -/
theorem extend (linked : emit.Linked pool) (kept : GatewayExtends pool pool') :
    emit.Linked pool' :=
  { linked with sends := fun send member => (linked.sends send member).extend kept }

/-- A task goes on, and keeps its outcome if it has one. -/
theorem update (linked : emit.Linked pool) (kept : GatewayExtends pool pool') {index : Nat}
    {old new : SendTask} (isSend : emit.sends[index]? = some old) (same : new.event = old.event)
    (isLinked : new.Linked pool')
    (keeps : ∀ result, old.outcome = some result → new.outcome = some result) :
    ({ emit with sends := emit.sends.set index new } : GrpcEmit).Linked pool' := by
  have inList := (List.getElem?_eq_some_iff.mp isSend).choose
  have outcomes : ∀ place result, emit.outcome? place = some result →
      ({ emit with sends := emit.sends.set index new } : GrpcEmit).outcome? place =
        some result := by
    intro place result known
    rcases eq_or_ne index place with rfl | other
    · rw [outcome?, isSend] at known
      rw [outcome?, List.getElem?_set_self inList]
      exact keeps result known
    · rw [outcome?, List.getElem?_set_ne other]
      exact known
  have events : (emit.sends.set index new).map SendTask.event =
      emit.sends.map SendTask.event := by
    apply List.ext_getElem?
    intro place
    rw [List.map_set, same]
    rcases eq_or_ne index place with rfl | other
    · rw [List.getElem?_set_self (by simpa using inList), List.getElem?_map, isSend]
      rfl
    · rw [List.getElem?_set_ne other]
  refine ⟨?_, ?_, ?_, ?_, ?_, ?_⟩
  · intro send member
    rcases List.mem_or_eq_of_mem_set member with before | rfl
    · exact (linked.sends send before).extend kept
    · exact isLinked
  · rw [events, List.length_set]
    exact linked.batch
  · intro notSpawning
    rw [List.length_set]
    exact linked.spawned notSpawning
  · exact fun next isJoining place within => outcomes _ _ (linked.joined next isJoining place within)
  · intro isReturned place within
    rw [List.length_set] at within
    exact outcomes _ _ (linked.ok isReturned place within)
  · intro error isReturned
    obtain ⟨place, failed, before⟩ := linked.error error isReturned
    exact ⟨place, outcomes _ _ failed, fun earlier within => outcomes _ _ (before earlier within)⟩

/-- Every step of a call of `emit`, of its tasks and of the network keeps it linked. -/
theorem step (linked : emit.Linked pool) (kept : GatewayExtends pool pool')
    (step : GrpcEmit.Step pool emit event pool' emit') : emit'.Linked pool' := by
  cases step with
  | @spawn sent phase next =>
      have inBatch := (List.getElem?_eq_some_iff.mp next).choose
      refine ⟨?_, ?_, fun notSpawning => absurd phase notSpawning, ?_, ?_, ?_⟩
      · intro send member
        rcases List.mem_append.mp member with before | isNew
        · exact linked.sends send before
        · obtain rfl := List.mem_singleton.mp isNew
          refine ⟨?_, ?_, ?_⟩ <;> simp
      · rw [List.map_append, linked.batch, List.length_append, List.length_singleton,
          List.take_add_one, next]
        rfl
      all_goals simp [phase]
  | join phase all =>
      refine ⟨linked.sends, linked.batch, fun _ => all, ?_, ?_, ?_⟩
      · intro next isJoining index within
        obtain rfl : 0 = next := by simpa using isJoining
        omega
      all_goals simp
  | request index isSend =>
      refine linked.update kept isSend rfl ⟨?_, ?_, ?_⟩ (by simp) <;> simp
  | @arrive sent outcome index isSend =>
      have old := linked.sends _ (List.mem_of_getElem? isSend)
      refine linked.update kept isSend rfl ⟨?_, ?_, old.error⟩ (fun _ same => same)
      · rintro place ⟨⟩
        exact ⟨_, List.getElem?_concat_length, rfl⟩
      · intro succeeded
        obtain ⟨place, call, ack, isArrived, -⟩ := old.ok succeeded
        cases isArrived
  | answer index isSend answered =>
      have old := linked.sends _ (List.mem_of_getElem? isSend)
      refine linked.update kept isSend rfl ⟨old.arrived, ?_, ?_⟩ (by simp)
      · exact fun _ => ⟨_, _, _, rfl, answered, rfl⟩
      · intro error failed
        cases failed
  | fail index text isSend =>
      have old := linked.sends _ (List.mem_of_getElem? isSend)
      refine linked.update kept isSend rfl ⟨old.arrived, ?_, ?_⟩ (by simp)
      · intro succeeded
        cases succeeded
      · intro error failed
        exact ⟨text, .inl (Option.some.inj failed).symm⟩
  | abort index text isSend =>
      have old := linked.sends _ (List.mem_of_getElem? isSend)
      refine linked.update kept isSend rfl ⟨old.arrived, ?_, ?_⟩ (by simp)
      · intro succeeded
        cases succeeded
      · intro error failed
        exact ⟨text, .inr (Option.some.inj failed).symm⟩
  | @joinOk send next phase isSend outcome =>
      refine ⟨linked.sends, linked.batch, fun _ => linked.spawned (by simp [phase]), ?_, ?_, ?_⟩
      · intro later isJoining index within
        obtain rfl : next + 1 = later := by simpa using isJoining
        rcases Nat.lt_succ_iff_lt_or_eq.mp within with before | rfl
        · exact linked.joined next phase index before
        · simp [outcome?, isSend, outcome]
      all_goals simp
  | @joinError send next error phase isSend outcome =>
      refine ⟨linked.sends, linked.batch, fun _ => linked.spawned (by simp [phase]), ?_, ?_, ?_⟩
      · simp
      · simp
      · rintro other ⟨⟩
        exact ⟨next, by simp [outcome?, isSend, outcome], linked.joined next phase⟩
  | @finish next phase all =>
      refine ⟨linked.sends, linked.batch, fun _ => linked.spawned (by simp [phase]), ?_, ?_, ?_⟩
      · simp
      · intro _ index within
        exact linked.joined next phase index (within.trans_le all)
      · simp

end GrpcEmit.Linked

/-! ### Each request has a place of its own -/

/-- A task goes on: what its place becomes stands where its place stood. -/
private theorem places_set {index : Nat} {old : SendTask}
    (isSend : emit.sends[index]? = some old) : ∃ front back,
      emit.places = front ++ (old.place?.toList ++ back) ∧
      ∀ new, ({ emit with sends := emit.sends.set index new } : GrpcEmit).places =
        front ++ (new.place?.toList ++ back) := by
  obtain ⟨before, after, split, replaced⟩ := Tasks.exists_split isSend
  have places : ∀ send, (before ++ send :: after).filterMap SendTask.place? =
      before.filterMap SendTask.place? ++
        (send.place?.toList ++ after.filterMap SendTask.place?) := by
    intro send
    rw [List.filterMap_append, List.filterMap_cons]
    cases send.place? <;> rfl
  refine ⟨before.filterMap SendTask.place?, after.filterMap SendTask.place?, ?_, fun new => ?_⟩
  · rw [GrpcEmit.places, split, places]
  · rw [GrpcEmit.places, replaced, places]

/-- A step leaves the places as they are, or adds one at the end of the gateway. -/
theorem GrpcEmit.Step.places (step : GrpcEmit.Step pool emit event pool' emit') :
    emit'.places = emit.places ∨ ∃ front back, emit.places = front ++ back ∧
      emit'.places = front ++ pool.tasks.length :: back := by
  cases step with
  | spawn phase next => exact .inl (by simp [GrpcEmit.places, SendTask.place?, Delivery.place?])
  | join phase all | joinOk phase isSend outcome | joinError phase isSend outcome
  | finish phase all => exact .inl rfl
  | request index isSend | answer index isSend answered | fail index text isSend
  | abort index text isSend =>
      obtain ⟨front, back, was, isNow⟩ := places_set isSend
      exact .inl ((isNow _).trans was.symm)
  | arrive index isSend =>
      obtain ⟨front, back, was, isNow⟩ := places_set isSend
      exact .inr ⟨front, back, was, isNow _⟩

/-- Every call of `emit` is linked to the gateway, and no place is that of two requests. -/
structure Federated (pool : GatewayPool) (tasks : List FederationTask) : Prop where
  linked : ∀ emit, .emit emit ∈ tasks → emit.Linked pool
  apart : (tasks.flatMap FederationTask.places).Nodup

namespace Federated

variable {tasks front back : List FederationTask} {task task' : FederationTask}

/-- The requests which have arrived are calls of the gateway. -/
private theorem bounded (federated : Federated pool tasks) {place : Nat}
    (member : place ∈ tasks.flatMap FederationTask.places) : place < pool.tasks.length := by
  obtain ⟨task, isTask, isPlace⟩ := List.mem_flatMap.mp member
  cases task with
  | gateway => cases isPlace
  | emit emit =>
      obtain ⟨send, isSend, hasPlace⟩ := List.mem_filterMap.mp isPlace
      obtain ⟨call, isCall, -⟩ := ((federated.linked emit isTask).sends send isSend).arrived place
        (Delivery.place?_eq_some.mp hasPlace)
      exact (List.getElem?_eq_some_iff.mp isCall).choose

/-- A task which starts has no request. -/
private theorem starts (federated : Federated pool tasks) (new : FederationTask.Start task) :
    Federated pool (tasks ++ [task]) where
  linked emit member := by
    rcases List.mem_append.mp member with before | isNew
    · exact federated.linked emit before
    · obtain rfl := List.mem_singleton.mp isNew
      cases new with
      | emit events => exact .start pool events
  apart := by
    have none : task.places = [] := by cases new <;> rfl
    simpa [none] using federated.apart

/-- Every step of a task keeps the federation. -/
theorem step (federated : Federated pool (front ++ task :: back))
    (step : FederationTask.Step pool task event pool' task') :
    Federated pool' (front ++ task' :: back) where
  linked emit member := by
    have kept := step.extends
    rcases List.mem_append.mp member with inFront | fromTask
    · exact (federated.linked emit (List.mem_append_left _ inFront)).extend kept
    · rcases List.mem_cons.mp fromTask with rfl | inBack
      · cases step with
        | emit step => exact (federated.linked _ (by simp)).step kept step
      · exact (federated.linked emit (by simp [inBack])).extend kept
  apart := by
    have distinct := federated.apart
    have fresh : pool.tasks.length ∉ (front ++ task :: back).flatMap FederationTask.places :=
      fun member => Nat.lt_irrefl _ (federated.bounded member)
    rw [List.flatMap_append, List.flatMap_cons] at distinct fresh ⊢
    cases step with
    | gateway step => exact distinct
    | emit step =>
        rcases step.places with same | ⟨before, after, was, isNow⟩
        · have samePlaces : FederationTask.places (.emit _) = FederationTask.places (.emit _) :=
            same
          rwa [samePlaces]
        · have oldPlaces : FederationTask.places (.emit _) = before ++ after := was
          have newPlaces : FederationTask.places (.emit _) =
            before ++ pool.tasks.length :: after := isNow
          rw [oldPlaces] at distinct fresh
          rw [newPlaces]
          have moved := @List.perm_middle _ pool.tasks.length
            (front.flatMap FederationTask.places ++ before)
            (after ++ back.flatMap FederationTask.places)
          simp only [List.append_assoc, List.cons_append] at moved distinct fresh ⊢
          exact moved.nodup_iff.mpr (List.nodup_cons.mpr ⟨fresh, distinct⟩)

/-- It holds in every run. -/
theorem of_runs {service : GatewayService} {trace : List (Tasks.Label FederationEvent)}
    {whole : Tasks.Pool GatewayPool FederationTask}
    (run : (federation.system ⟨service, []⟩).Runs trace whole) :
    Federated whole.shared whole.tasks := by
  apply Tasks.pool_history (fun _ => Federated) ⟨by simp, .nil⟩ ?starts ?steps run
  case starts =>
      intro history pool tasks task federated new
      exact federated.starts new
  case steps =>
      intro history pool front task back event pool' task' federated step
      exact federated.step step

end Federated

/-! ### What the gateway stores for a batch -/

/-- The message which a unary call pushes, if it does. -/
def GatewayEvent.stored? : GatewayEvent → Option Message
  | stored message _ => some message
  | _ => none

/-- The messages which the calls at some places have pushed, in order. -/
def storedBy (places : List Nat) (seen : List (Tasks.Label GatewayEvent)) : List Message :=
  (Tasks.among places seen).filterMap GatewayEvent.stored?

/-- Whether the push of a unary call dropped nothing. -/
def Undropped (own : List GatewayEvent) : Prop :=
  ∀ message dropped, .stored message dropped ∈ own → dropped = 0

variable {registry : PluginRegistry} {forwarded : Event} {own : List GatewayEvent}
  {phase : CallPhase}

/-- What is known of the messages which a call has pushed for an event. -/
structure Files (forwarded : Event) (own : List GatewayEvent) (phase : CallPhase) : Prop where
  once : own.filterMap GatewayEvent.stored? = [] ∨
    own.filterMap GatewayEvent.stored? = [Message.ofEvent forwarded]
  accepted : ∀ ack, phase = .returned (.ok ack) ∨ phase = .returning (.ok ack) →
    own.filterMap GatewayEvent.stored? = [Message.ofEvent forwarded] ∧ Undropped own

/-- A call which forwards an event stores that event, once at most, and as the only one if it
is acknowledged. -/
theorem UnaryCall.Reaches.files
    (reaches : UnaryCall.Reaches registry (GrpcEmitter.request forwarded) own phase) :
    Files forwarded own phase := by
  -- Such a request decodes to its event, whatever the registry is.
  have decodes : registry.decode (GrpcEmitter.request forwarded) = .ok forwarded := rfl
  induction reaches with
  | processing => exact ⟨.inl rfl, by simp⟩
  | rejecting failed => exact ⟨.inl rfl, by simp⟩
  | dropping decoded some =>
      obtain rfl := Except.ok.inj (decodes.symm.trans decoded)
      exact ⟨.inr rfl, by simp [bufferFull]⟩
  | counting decoded =>
      obtain rfl := Except.ok.inj (decodes.symm.trans decoded)
      exact ⟨.inr rfl, by simp⟩
  | acknowledging decoded =>
      obtain rfl := Except.ok.inj (decodes.symm.trans decoded)
      exact ⟨.inr rfl, by simp⟩
  | accepting decoded ids =>
      obtain rfl := Except.ok.inj (decodes.symm.trans decoded)
      exact ⟨.inr rfl, fun _ _ => ⟨rfl, by simp [Undropped]⟩⟩
  | @returned history item before files =>
      have same : (history ++ [GatewayEvent.answered item]).filterMap GatewayEvent.stored? =
          history.filterMap GatewayEvent.stored? := by
        rw [filterMap_snoc]
        exact List.append_nil _
      refine ⟨same ▸ files.once, fun ack isOk => ?_⟩
      obtain ⟨stored, undropped⟩ := files.accepted ack (by simpa using isOk)
      refine ⟨same.trans stored, fun message dropped member => ?_⟩
      exact undropped message dropped (by simpa using member)

section Batch

variable {service : GatewayService} {seen : List (Tasks.Label GatewayEvent)}

/-- The messages pushed for the request of a task. -/
def SendTask.filed (seen : List (Tasks.Label GatewayEvent)) (send : SendTask) : List Message :=
  send.place?.elim [] fun place => (Tasks.own place seen).filterMap GatewayEvent.stored?

/-- What is known of the messages pushed for a task. -/
private theorem SendTask.Linked.files {send : SendTask} (linked : send.Linked pool)
    (run : (gateway.system service).Runs seen pool) :
    (send.filed seen = [] ∨ send.filed seen = [Message.ofEvent send.event]) ∧
      (send.outcome = some (.ok ()) → send.filed seen = [Message.ofEvent send.event] ∧
        ∀ place, send.place? = some place → Undropped (Tasks.own place seen)) := by
  have reaches : ∀ place call, pool.tasks[place]? = some (.call call) →
      call.ingest = GrpcEmitter.request send.event →
        Files send.event (Tasks.own place seen) call.phase := by
    intro place call isCall same
    have reached := UnaryCall.reaches_of_runs run isCall
    rw [same] at reached
    exact reached.files
  refine ⟨?_, fun succeeded => ?_⟩
  · cases hasPlace : send.place? with
    | none => exact .inl (by simp [SendTask.filed, hasPlace])
    | some place =>
        obtain ⟨call, isCall, same⟩ := linked.arrived place (Delivery.place?_eq_some.mp hasPlace)
        simpa [SendTask.filed, hasPlace] using (reaches place call isCall same).once
  · obtain ⟨place, call, ack, isArrived, isCall, returned⟩ := linked.ok succeeded
    obtain ⟨other, isOther, same⟩ := linked.arrived place isArrived
    rw [isCall] at isOther
    obtain rfl := GatewayTask.call.inj (Option.some.inj isOther)
    have hasPlace : send.place? = some place := Delivery.place?_eq_some.mpr isArrived
    obtain ⟨stored, undropped⟩ := (reaches place call isCall same).accepted ack (.inl returned)
    refine ⟨by simpa [SendTask.filed, hasPlace] using stored, ?_⟩
    rintro later isLater
    obtain rfl := Option.some.inj (hasPlace.symm.trans isLater)
    exact undropped

/-- What is stored for a batch is what is stored for each of its tasks. -/
private theorem storedBy_perm (distinct : emit.places.Nodup) :
    (storedBy emit.places seen).Perm (emit.sends.flatMap (SendTask.filed seen)) := by
  have each := (Tasks.among_perm distinct seen).filterMap GatewayEvent.stored?
  rw [List.filterMap_flatMap, GrpcEmit.places, flatMap_filterMap] at each
  exact each

/-- What a call of `emit` makes a gateway store: each event of its batch once at most, the
whole batch if it succeeds, and if it fails all events before the one which its error is
about. -/
structure Forwards (seen : List (Tasks.Label GatewayEvent)) (emit : GrpcEmit) : Prop where
  /-- The messages which are meant have every field of the events. -/
  preserved : List.Forall₂ Event.Carries emit.events (emit.events.map Message.ofEvent)
  once : (storedBy emit.places seen).Subperm (emit.events.map Message.ofEvent)
  all : emit.phase = .returned (.ok ()) →
    (storedBy emit.places seen).Perm (emit.events.map Message.ofEvent) ∧
      Undropped (Tasks.among emit.places seen)
  first : ∀ error, emit.phase = .returned (.error error) → ∃ index event text,
    emit.events[index]? = some event ∧
    (.error error = GrpcEmitter.forward event (.error text) ∨
      .error error = GrpcEmit.notJoined text) ∧
    ((emit.events.take index).map Message.ofEvent).Subperm (storedBy emit.places seen)

/-- The events of the tasks are those of the batch, as far as it has come. -/
private theorem map_ofEvent (linked : emit.Linked pool) :
    emit.sends.map (fun send => Message.ofEvent send.event) =
      (emit.events.take emit.sends.length).map Message.ofEvent := by
  rw [← linked.batch, List.map_map]
  rfl

/-- A linked call forwards its batch. -/
theorem GrpcEmit.Linked.forwards (linked : emit.Linked pool) (distinct : emit.places.Nodup)
    (run : (gateway.system service).Runs seen pool) : Forwards seen emit where
  preserved := Message.forall₂_carries_ofEvent emit.events
  once := by
    have some : (emit.sends.flatMap (SendTask.filed seen)).Sublist
        (emit.sends.map fun send => Message.ofEvent send.event) :=
      flatMap_sublist_map fun send member => ((linked.sends send member).files run).1
    rw [map_ofEvent linked] at some
    have whole := some.trans ((List.take_sublist emit.sends.length emit.events).map _)
    exact (storedBy_perm distinct).subperm.trans whole.subperm
  all returned := by
    have succeeded : ∀ send ∈ emit.sends, send.outcome = some (.ok ()) := by
      intro send member
      obtain ⟨index, isSend⟩ := List.getElem?_of_mem member
      have within := (List.getElem?_eq_some_iff.mp isSend).choose
      have outcome := linked.ok returned index within
      rwa [GrpcEmit.outcome?, isSend] at outcome
    have each : emit.sends.flatMap (SendTask.filed seen) =
        emit.sends.map fun send => Message.ofEvent send.event :=
      flatMap_eq_map fun send member =>
        (((linked.sends send member).files run).2 (succeeded send member)).1
    have spawned := linked.spawned (by simp [returned])
    refine ⟨?_, ?_⟩
    · have stored := @storedBy_perm emit seen distinct
      rwa [each, map_ofEvent linked, List.take_of_length_le spawned] at stored
    · intro message dropped member
      have inOwn := (Tasks.among_perm distinct seen).mem_iff.mp member
      obtain ⟨place, isPlace, inPlace⟩ := List.mem_flatMap.mp inOwn
      obtain ⟨send, isSend, hasPlace⟩ := List.mem_filterMap.mp isPlace
      exact (((linked.sends send isSend).files run).2 (succeeded send isSend)).2 place hasPlace
        message dropped inPlace
  first error returned := by
    obtain ⟨index, failed, before⟩ := linked.error error returned
    obtain ⟨send, isSend, outcome⟩ := Option.bind_eq_some_iff.mp failed
    obtain ⟨text, about⟩ := (linked.sends send (List.mem_of_getElem? isSend)).error error outcome
    obtain ⟨within, isHere⟩ := List.getElem?_eq_some_iff.mp isSend
    have isEvent : emit.events[index]? = some send.event := by
      have inBatch := congrArg (·[index]?) linked.batch
      simpa [within, isHere] using inBatch.symm
    refine ⟨index, send.event, text, isEvent, about, ?_⟩
    have each : (emit.sends.take index).flatMap (SendTask.filed seen) =
        (emit.sends.take index).map fun send => Message.ofEvent send.event := by
      apply flatMap_eq_map
      intro earlier member
      obtain ⟨place, isEarlier⟩ := List.getElem?_of_mem member
      obtain ⟨inTake, rfl⟩ := List.getElem?_eq_some_iff.mp isEarlier
      have beforeIndex : place < index := by
        rw [List.length_take] at inTake
        omega
      have succeeded := before place beforeIndex
      rw [List.getElem_take]
      rw [GrpcEmit.outcome?, List.getElem?_eq_getElem (beforeIndex.trans within)] at succeeded
      exact (((linked.sends _ (List.getElem_mem _)).files run).2 succeeded).1
    have events : (emit.sends.take index).map (fun send => Message.ofEvent send.event) =
        (emit.events.take index).map Message.ofEvent := by
      rw [List.map_take, map_ofEvent linked, ← List.map_take, List.take_take,
        Nat.min_eq_left within.le]
    have front : ((emit.sends.take index).flatMap (SendTask.filed seen)).Sublist
        (emit.sends.flatMap (SendTask.filed seen)) := (List.take_sublist _ _).flatMap _
    rw [each, events] at front
    exact front.subperm.trans (storedBy_perm distinct).symm.subperm

end Batch

/-- What a federation does. -/
structure FederationServes (service : GatewayService) (history : List FederationEvent)
    (pool : GatewayPool) (tasks : List FederationTask) : Prop where
  /-- The gateway serves requests of the federation as it serves others. -/
  serves : (gateway.system service).Runs (atGateway history) pool
  /-- No unary call serves two requests. -/
  apart : (tasks.flatMap FederationTask.places).Nodup
  /-- Each call of `emit` forwards its batch. -/
  forwards : ∀ emit, .emit emit ∈ tasks → Forwards (atGateway history) emit

/-- In every run of any number of calls of `emit` which forward to one gateway, whatever the
network and the other clients do, the gateway stores each event of a batch once at most for
it, the whole batch without a drop if the call succeeds, and everything before the event which
the error is about if it fails. -/
theorem federation_serves {service : GatewayService}
    {trace : List (Tasks.Label FederationEvent)} {whole : Tasks.Pool GatewayPool FederationTask}
    (run : (federation.system ⟨service, []⟩).Runs trace whole) :
    FederationServes service (Tasks.events trace) whole.shared whole.tasks where
  serves := gateway_runs run
  apart := (Federated.of_runs run).apart
  forwards emit isEmit := by
    have federated := Federated.of_runs run
    have distinct : emit.places.Nodup := (List.nodup_flatMap.mp federated.apart).1 _ isEmit
    exact (federated.linked emit isEmit).forwards distinct (gateway_runs run)

/-- An event of some id. -/
private def plainEvent (id : String) : Event := ⟨id, 0, "source", "type", ∅, [], []⟩

/-- Two events are forwarded, the second of which arrives first. The gateway stores both, but
its task is told of a timeout. -/
private theorem timeout_run : ∃ trace whole,
    (federation.system ⟨.new (.new 10), []⟩).Runs trace whole ∧
    ∃ emit, .emit emit ∈ whole.tasks ∧ emit.phase = .returned (.error
        (.send "Failed to forward event 2: timeout")) ∧
      storedBy emit.places (atGateway (Tasks.events trace)) =
        [Message.ofEvent (plainEvent "2"), Message.ofEvent (plainEvent "1")] := by
  have start : (federation.system ⟨.new (.new 10), []⟩).Runs [] ⟨⟨.new (.new 10), []⟩, []⟩ :=
    .initial rfl
  have gateway := start.snoc (.start .gateway)
  have called := gateway.snoc (.start (.emit [plainEvent "1", plainEvent "2"]))
  have first := called.snoc (.did 1 rfl (.emit (.spawn rfl rfl)))
  have second := first.snoc (.did 1 rfl (.emit (.spawn rfl rfl)))
  have joining := second.snoc (.did 1 rfl (.emit (.join rfl (Nat.le_refl 2))))
  have sent := joining.snoc (.did 1 rfl (.emit (.request 0 rfl)))
  have sentToo := sent.snoc (.did 1 rfl (.emit (.request 1 rfl)))
  have overtook := sentToo.snoc (.did 1 rfl (.emit (.arrive 1 rfl)))
  have arrived := overtook.snoc (.did 1 rfl (.emit (.arrive 0 rfl)))
  have stored := arrived.snoc (.did 0 rfl (.gateway (.did 0 rfl (.call (.push rfl)))))
  have gaveUp := stored.snoc (.did 1 rfl (.emit (.fail 1 "timeout" rfl)))
  have storedToo := gaveUp.snoc (.did 0 rfl (.gateway (.did 1 rfl (.call (.push rfl)))))
  have counted := storedToo.snoc (.did 0 rfl (.gateway (.did 1 rfl (.call .count))))
  have acknowledged := counted.snoc (.did 0 rfl (.gateway (.did 1 rfl (.call .acknowledge))))
  have returned := acknowledged.snoc (.did 0 rfl (.gateway (.did 1 rfl (.call .answer))))
  have answered := returned.snoc (.did 1 rfl (.emit (.answer 0 rfl rfl)))
  have joined := answered.snoc (.did 1 rfl (.emit (.joinOk rfl rfl rfl)))
  have failed := joined.snoc (.did 1 rfl (.emit (.joinError rfl rfl rfl)))
  exact ⟨_, _, failed, _, List.mem_cons_of_mem _ List.mem_cons_self, rfl, rfl⟩

/-- So an event may be stored of which the emitter is told that it was not. -/
theorem federation_serves_timeout : ∃ history pool tasks emit,
    FederationServes (.new (.new 10)) history pool tasks ∧ .emit emit ∈ tasks ∧
    emit.phase = .returned (.error (.send "Failed to forward event 2: timeout")) ∧
    storedBy emit.places (atGateway history) =
      [Message.ofEvent (plainEvent "2"), Message.ofEvent (plainEvent "1")] := by
  obtain ⟨trace, whole, run, emit, isEmit, failed, stored⟩ := timeout_run
  exact ⟨_, _, _, emit, federation_serves run, isEmit, failed, stored⟩

end Polku
