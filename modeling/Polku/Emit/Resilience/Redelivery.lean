import Polku.Emit.Grpc
import Polku.Emit.Resilience.Retry

/-!
# Retrying the gRPC emitter

A batch whose events are sent one by one has a single result, and a retry sends all of
them again. An event is stored once for every attempt in which its own request
succeeded.
-/

namespace Polku

open GrpcEmitter

/-- What the calls of a new emitter for one batch have left behind. -/
structure Redelivers (gateway : RemoteGateway) (events : List Event)
    (state : GrpcEmitter × List EmitCall) : Prop where
  emits : state.1.emits = state.2.length
  sent : state.1.sent =
    (List.range state.2.length).flatMap fun attempt => requests gateway attempt events
  results : state.2.map EmitCall.result =
    (List.range state.2.length).map fun attempt => join (handles gateway attempt events)

/-- One more call sends the batch once more. -/
theorem Redelivers.emit {gateway : RemoteGateway} {events : List Event} {healthy : Bool}
    {state : GrpcEmitter × List EmitCall} (holds : Redelivers gateway events state)
    (world : World) :
    Redelivers gateway events ((GrpcEmitter.new gateway healthy).logged.emit state events
      world).2.1 := by
  have called : (GrpcEmitter.new gateway healthy).emit state.1 events world = _ :=
    emit_eq gateway state.1 events world
  simp only [Emitter.logged, called]
  refine ⟨?_, ?_, ?_⟩
  · simp [holds.emits]
  · simp [holds.sent, holds.emits, List.range_succ]
  · simp [holds.results, holds.emits, List.range_succ]

/-- An event which is not in a batch is not in its requests. -/
private theorem countP_requests_of_notMem (answer : Nat → SendAnswer) {events : List Event}
    {event : Event} (absent : event ∉ events) :
    (events.mapIdx fun place event => (⟨request event, answer place⟩ : SendEvent)).countP
      (fun sent => sent.request.payload = some (.event event) ∧ sent.answer.isOk) = 0 := by
  apply List.countP_eq_zero.mpr
  intro sent isSent
  obtain ⟨place, bound, rfl⟩ := List.mem_mapIdx.mp isSent
  have other : events[place] ≠ event := fun same => absent (same ▸ List.getElem_mem bound)
  simp [request, other]

/-- An event of a batch of distinct events is in its requests once. -/
private theorem countP_requests (gateway : RemoteGateway) (attempt : Nat) {events : List Event}
    (distinct : (events.map Event.id).Nodup) {place : Nat} {event : Event}
    (isEvent : events[place]? = some event) :
    (requests gateway attempt events).countP (fun sent =>
        sent.request.payload = some (.event event) ∧ sent.answer.isOk) =
      if (gateway attempt place).isOk then 1 else 0 := by
  obtain ⟨bound, rfl⟩ := List.getElem?_eq_some_iff.mp isEvent
  have whole : events.take place ++ events[place] :: events.drop (place + 1) = events := by
    rw [← List.drop_eq_getElem_cons bound, List.take_append_drop]
  have apart := List.Nodup.of_map Event.id distinct
  rw [← whole] at apart
  have notBefore : events[place] ∉ events.take place := fun member =>
    (List.nodup_append.mp apart).2.2 _ member _ List.mem_cons_self rfl
  have notAfter : events[place] ∉ events.drop (place + 1) :=
    (List.nodup_cons.mp (List.nodup_append.mp apart).2.1).1
  have length : (events.take place).length = place := List.length_take_of_le (Nat.le_of_lt bound)
  have split : requests gateway attempt events =
      ((events.take place).mapIdx fun place event => ⟨request event, gateway attempt place⟩) ++
        ⟨request events[place], gateway attempt place⟩ ::
          (events.drop (place + 1)).mapIdx fun later event =>
            ⟨request event, gateway attempt (later + 1 + place)⟩ := by
    conv_lhs => rw [requests, ← whole, List.mapIdx_append, List.mapIdx_cons, length, Nat.zero_add]
  rw [split, List.countP_append, List.countP_cons, countP_requests_of_notMem _ notBefore,
    countP_requests_of_notMem _ notAfter]
  cases (gateway attempt place).isOk <;> simp [request]

/-- How often the gateway has stored an event: once for each attempt in which its request
succeeded. -/
theorem Redelivers.stored_eq {gateway : RemoteGateway} {events : List Event}
    {state : GrpcEmitter × List EmitCall} (holds : Redelivers gateway events state)
    (distinct : (events.map Event.id).Nodup) {place : Nat} {event : Event}
    (isEvent : events[place]? = some event) :
    state.1.stored event =
      (List.range state.2.length).countP fun attempt => (gateway attempt place).isOk := by
  rw [stored, holds.sent]
  generalize state.2.length = attempts
  induction attempts with
  | zero => rfl
  | succ attempts inductionHypothesis =>
      rw [List.range_succ, List.flatMap_append, List.countP_append, inductionHypothesis,
        List.flatMap_singleton, countP_requests gateway attempts distinct isEvent,
        List.countP_append, List.countP_singleton]

/-- An event is stored once at most if the attempts before the last one store nothing. -/
private theorem Redelivers.stored_le_one {gateway : RemoteGateway} {events : List Event}
    {state : GrpcEmitter × List EmitCall} (holds : Redelivers gateway events state)
    (distinct : (events.map Event.id).Nodup) (some : 1 ≤ state.2.length)
    (storedNothing : ∀ attempt, attempt + 1 < state.2.length →
      ∀ place < events.length, (gateway attempt place).isOk = false)
    {event : Event} (member : event ∈ events) : state.1.stored event ≤ 1 := by
  obtain ⟨place, isEvent⟩ := List.getElem?_of_mem member
  have bound := (List.getElem?_eq_some_iff.mp isEvent).1
  rw [holds.stored_eq distinct isEvent]
  generalize state.2.length = attempts at storedNothing some ⊢
  obtain ⟨earlier, rfl⟩ : ∃ earlier, attempts = earlier + 1 := ⟨attempts - 1, by omega⟩
  have none : (List.range earlier).countP (fun attempt => (gateway attempt place).isOk) = 0 := by
    apply List.countP_eq_zero.mpr
    intro attempt isEarlier
    rw [storedNothing attempt (by simpa using isEarlier) place bound]
    simp
  rw [List.range_succ, List.countP_append, none, Nat.zero_add, List.countP_singleton]
  split <;> omega

/-- One `emit` of the retries around a new gRPC emitter makes some number of attempts, each
of which sends the whole batch: every attempt before the last has a request which failed,
and the last has none if the result is a success. Each event is stored once for every
attempt in which its own request succeeded, so at most once if the attempts which were
followed by another stored none. -/
theorem retry_redelivers (gateway : RemoteGateway) (healthy : Bool) (config : BackoffConfig)
    (events : List Event) (distinct : (events.map Event.id).Nodup) (world : World) :
    let inner := (GrpcEmitter.new gateway healthy).logged
    let (result, after, _) :=
      RetryEmitter.emit inner.emit config ⟨inner.state, 0, 0⟩ events world
    let attempts := after.inner.2.length
    1 ≤ attempts ∧ attempts ≤ config.maxAttempts.toNat + 1 ∧
    after.inner.1.sent.map (fun sent => (sent.request.payload, sent.answer)) =
      (List.range attempts).flatMap (fun attempt =>
        events.mapIdx fun place event => (some (.event event), gateway attempt place)) ∧
    (∀ attempt, attempt + 1 < attempts →
      ∃ place < events.length, (gateway attempt place).isOk = false) ∧
    (result = .ok () → ∀ place < events.length, (gateway (attempts - 1) place).isOk = true) ∧
    (∀ place event, events[place]? = some event → after.inner.1.stored event =
      (List.range attempts).countP fun attempt => (gateway attempt place).isOk) ∧
    ((∀ attempt, attempt + 1 < attempts →
        ∀ place < events.length, (gateway attempt place).isOk = false) →
      ∀ event ∈ events, after.inner.1.stored event ≤ 1) := by
  rcases done : RetryEmitter.emit (GrpcEmitter.new gateway healthy).logged.emit config
    ⟨(GrpcEmitter.new gateway healthy).logged.state, 0, 0⟩ events world with ⟨result, after, later⟩
  simp only [done]
  obtain ⟨calls, logged, retries, -, -⟩ := RetryEmitter.emit_spec _ _ world done
  obtain rfl : after.inner.2 = calls := logged
  have redelivers : Redelivers gateway events after.inner :=
    RetryEmitter.emit_preserves (Redelivers gateway events) (fun _ woken holds => holds.emit woken)
      ⟨rfl, rfl, rfl⟩ done
  have resultAt : ∀ attempt (bound : attempt < after.inner.2.length),
      (after.inner.2[attempt]).result = join (handles gateway attempt events) := by
    intro attempt bound
    have place := congrArg (·[attempt]?) redelivers.results
    simpa [bound] using place
  refine ⟨retries.atLeastOne, retries.atMost, ?_, ?_, ?_, ?_, ?_⟩
  · rw [redelivers.sent, List.map_flatMap]
    simp [requests, List.mapIdx_eq_zipIdx_map, request, Function.comp_def]
  · intro attempt earlier
    have isEarlier : after.inner.2[attempt] ∈ after.inner.2.dropLast := by
      rw [← List.getElem_dropLast (by simp; omega)]
      exact List.getElem_mem _
    have failed := retries.failedBefore _ isEarlier
    rw [resultAt attempt (by omega), Ne, join_handles_eq_ok] at failed
    push Not at failed
    simpa using failed
  · intro succeeded
    have some := retries.atLeastOne
    have last := retries.lastResult
    rw [List.getLast?_eq_getElem?, List.getElem?_eq_getElem (by omega), Option.map_some,
      resultAt _ (by omega), succeeded, Option.some.injEq, join_handles_eq_ok] at last
    exact last
  · intro place event isEvent
    exact redelivers.stored_eq distinct isEvent
  · intro storedNothing event member
    exact redelivers.stored_le_one distinct retries.atLeastOne storedNothing member

/-- An event of a given id. -/
def forwarded (id : String) : Event := ⟨id, 0, "source", "type", ∅, [], []⟩

/-- A gateway which fails the second event of the first batch it gets, and no other. -/
def failsSecond : RemoteGateway := fun call place =>
  if call = 0 ∧ place = 1 then .error "unavailable" else .ok ⟨[], [], 0, 0⟩

/-- With one retry, two events of which the second one fails at first are sent twice: the one
which failed is stored once. -/
theorem retry_redelivers_once :
    let inner := (GrpcEmitter.new failsSecond true).logged
    let config := { BackoffConfig.default with maxAttempts := 1 }
    let after := (RetryEmitter.emit inner.emit config ⟨inner.state, 0, 0⟩
      [forwarded "1", forwarded "2"] ⟨fun _ => 0, 0, fun _ => 0, 0⟩).2.1
    after.inner.1.sent.map (·.request.payload) =
        [some (.event (forwarded "1")), some (.event (forwarded "2")),
          some (.event (forwarded "1")), some (.event (forwarded "2"))] ∧
      after.inner.1.stored (forwarded "2") = 1 := by
  obtain ⟨-, -, sent, -, -, stored, -⟩ := retry_redelivers failsSecond true
    { BackoffConfig.default with maxAttempts := 1 } [forwarded "1", forwarded "2"] (by decide)
    ⟨fun _ => 0, 0, fun _ => 0, 0⟩
  refine ⟨?_, (stored 1 _ rfl).trans (by decide +kernel)⟩
  have payloads := congrArg (List.map Prod.fst) sent
  rw [List.map_map] at payloads
  exact payloads.trans (by decide +kernel)

/-- Two events are sent with one retry, and the second one fails at first: the first event
is stored twice. -/
theorem retry_stores_twice :
    let inner := (GrpcEmitter.new failsSecond true).logged
    let config := { BackoffConfig.default with maxAttempts := 1 }
    let after := (RetryEmitter.emit inner.emit config ⟨inner.state, 0, 0⟩
      [forwarded "1", forwarded "2"] ⟨fun _ => 0, 0, fun _ => 0, 0⟩).2.1
    after.inner.1.stored (forwarded "1") = 2 ∧ after.inner.1.stored (forwarded "2") = 1 := by
  decide +kernel

end Polku
