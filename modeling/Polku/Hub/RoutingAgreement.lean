import Polku.Emit.Resilience.Routing

/-!
# The two routing implementations compared

The flush loop filters the events of a batch for each emitter; `emit_with_routing`
sorts them by the names in their routes, and then offers twice. What an emitter is
offered is compared as a multiset, over all calls of its `emit`.
-/

namespace Polku

open Data

/-- How often an event is among those for all emitters or for a name. -/
private theorem count_routed (name : String) (events : List Event) (event : Event) :
    (events.filter (·.routeTo.isEmpty) ++ PluginRegistry.naming name events).count event =
      events.count event *
        if event.routeTo = [] then 1 else event.routeTo.count name := by
  rw [List.count_append, PluginRegistry.count_naming]
  by_cases broadcast : event.routeTo = []
  · have counted := List.count_filter (l := events) (p := (·.routeTo.isEmpty)) (a := event)
      (by simp [broadcast])
    rw [counted]
    simp [broadcast]
  · have absent : (events.filter (·.routeTo.isEmpty)).count event = 0 := by
      apply List.count_eq_zero.mpr
      simp [broadcast]
    simp [absent, broadcast]

/-- How often an event is among those which the flush loop routes to a name. -/
private theorem count_routedEvents (name : String) (events : List Event) (event : Event) :
    (Hub.routedEvents events name).count event =
      events.count event * if event.routeTo = [] ∨ name ∈ event.routeTo then 1 else 0 := by
  unfold Hub.routedEvents
  by_cases routed : event.routeTo = [] ∨ name ∈ event.routeTo
  · rw [List.count_filter (by simpa using routed), if_pos routed, Nat.mul_one]
  · rw [if_neg routed, Nat.mul_zero]
    apply List.count_eq_zero.mpr
    simpa using fun _ => routed

/-- Sorting by name and filtering give the same multiset exactly when no event names
the emitter twice. -/
theorem routed_perm_iff (name : String) (events : List Event) :
    (events.filter (·.routeTo.isEmpty) ++ PluginRegistry.naming name events).Perm
        (Hub.routedEvents events name) ↔
      ∀ event ∈ events, event.routeTo.count name ≤ 1 := by
  rw [List.perm_iff_count]
  simp only [count_routed, count_routedEvents]
  constructor
  · intro same event member
    by_contra several
    have occurs : 0 < events.count event := List.count_pos_iff.mpr member
    have named : name ∈ event.routeTo := List.count_pos_iff.mp (by omega)
    have some : event.routeTo ≠ [] := List.ne_nil_of_mem named
    have counts := same event
    rw [if_neg some, if_pos (.inr named)] at counts
    have := Nat.eq_of_mul_eq_mul_left occurs counts
    omega
  · intro once event
    by_cases member : event ∈ events
    · congr 1
      have atMost := once event member
      by_cases broadcast : event.routeTo = []
      · simp [broadcast]
      · by_cases named : name ∈ event.routeTo
        · have occurs : 0 < event.routeTo.count name := List.count_pos_iff.mpr named
          simp only [broadcast, named, if_false, or_true, if_true]
          omega
        · simp [broadcast, named, List.count_eq_zero.mpr named]
    · simp [List.count_eq_zero.mpr member]

/-- `emit_with_routing` passes to an emitter, over all its calls, exactly the events
which name it or no one, each once, and so what the flush loop passes to it, if and
only if no message names the emitter twice. -/
theorem routing_agrees_iff (before after : List Registered) (emitter : Emitter)
    (ingestors : HashMap String Ingestor) (messages : List Message) (world : World) :
    (∃ routed flushed,
      routingOffers before after emitter ingestors messages world = some routed ∧
      flushOffers before after emitter [messages] world = some flushed ∧
      routed.flatten.Perm ((messages.map Message.toEvent).filter fun event =>
        event.routeTo = [] ∨ emitter.name ∈ event.routeTo) ∧
      routed.flatten.Perm flushed.flatten) ↔
    ∀ message ∈ messages, message.routeTo.count emitter.name ≤ 1 := by
  have filtered : (messages.map Message.toEvent).filter (fun event =>
      event.routeTo = [] ∨ emitter.name ∈ event.routeTo) =
        Hub.routedEvents (messages.map Message.toEvent) emitter.name := by
    apply List.filter_congr
    intro event member
    rw [Bool.eq_iff_iff]
    simp
  have flushedAll : (([messages].map fun messages => messages.map Message.toEvent).filterMap
      (Hub.slice · emitter.name)).flatten =
        Hub.routedEvents (messages.map Message.toEvent) emitter.name := by
    have whole := Hub.flatten_slices [messages] emitter.name
    rw [List.flatten_singleton, ← Hub.routedEvents_map_toEvent] at whole
    exact whole
  have events : (∀ event ∈ messages.map Message.toEvent,
      event.routeTo.count emitter.name ≤ 1) ↔
        ∀ message ∈ messages, message.routeTo.count emitter.name ≤ 1 := by
    simp [Message.toEvent]
  rw [routingOffers_eq, flushOffers_eq, filtered, ← events, ← routed_perm_iff]
  constructor
  · rintro ⟨routed, flushed, isRouted, isFlushed, same, -⟩
    obtain rfl := Option.some.inj isRouted
    simpa using same
  · intro same
    refine ⟨_, _, rfl, rfl, by simpa using same, ?_⟩
    rw [flushedAll]
    simpa using same

/-- A message which names `grpc` twice. -/
def namedTwice : Message :=
  (Message.withId "1" 0 "source" "type" []).withRoutes ["grpc", "grpc"]

/-- A message which names `grpc` twice is passed to it twice by `emit_with_routing`,
and once by the flush loop. -/
theorem routing_repeats :
    (((PluginRegistry.new.registerEmitter grpcEmitter).emitWithRouting [namedTwice.toEvent]
      stillWorld).2.1.emitters.map (·.offered)) = [[[namedTwice.toEvent, namedTwice.toEvent]]] ∧
    (routingOffers [] [] grpcEmitter ∅ [namedTwice] stillWorld).map List.flatten =
        some [namedTwice.toEvent, namedTwice.toEvent] ∧
    (flushOffers [] [] grpcEmitter [[namedTwice]] stillWorld).map List.flatten =
        some [namedTwice.toEvent] ∧
    ¬ [namedTwice.toEvent, namedTwice.toEvent].Perm ([namedTwice.toEvent].filter fun event =>
        event.routeTo = [] ∨ "grpc" ∈ event.routeTo) := by
  refine ⟨by decide, ?_⟩
  simp only [flushOffers_eq, routingOffers_eq]
  decide

end Polku
