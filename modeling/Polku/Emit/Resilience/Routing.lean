import Polku.Emit.Resilience.Config
import Polku.Hub.Flush
import Polku.Registry

/-!
# Routing to a wrapped emitter

Both routing implementations compare the routes of an event with the name of an
emitter, and every wrapper has a name of its own. A stack is therefore routed
like the emitter inside it only as far as the routes name both equally often.
-/

namespace Polku

open Data

namespace ResilientEmitter

/-- The name of the outermost wrapper, or of the emitter if it has none. -/
def outerName (self : ResilientEmitter) : String :=
  if self.failureCapture.isSome then "failure_capture"
  else if self.circuitBreakerConfig.isSome then "circuit_breaker"
  else if self.retryConfig.isSome then "retry"
  else self.inner.name

/-- A stack answers to its outermost name. -/
theorem build_name (self : ResilientEmitter) : self.build.name = self.outerName := by
  obtain ⟨inner, retry, breaker, capture⟩ := self
  cases capture <;> cases breaker <;> cases retry <;> rfl

end ResilientEmitter

/-! ## What an emitter registered among others is offered -/

section Offers

variable (before after : List Registered) (emitter : Emitter)

/-- The slices the flush loop offers to an emitter from batches of messages. -/
def flushOffers (batches : List (List Message)) (world : World) :
    Option (List (List Event)) :=
  let events := batches.map fun messages => messages.map Message.toEvent
  ((Hub.fanOutAll (before ++ .fresh emitter :: after) events world).1[before.length]?).map
    (·.offered)

/-- The slices `emit_with_routing` offers to an emitter from a batch of messages. -/
def routingOffers (ingestors : HashMap String Ingestor) (messages : List Message)
    (world : World) : Option (List (List Event)) :=
  let registry : PluginRegistry := ⟨ingestors, before ++ .fresh emitter :: after⟩
  let events := messages.map Message.toEvent
  ((registry.emitWithRouting events world).2.1.emitters[before.length]?).map (·.offered)

/-- What stands at a place of the views of emitters. -/
private theorem offered_at {result : List Registered} {more : String → List (List Event)}
    (view : result.map Registered.view =
      ((before ++ .fresh emitter :: after).map Registered.view).map (Registered.extend more)) :
    (result[before.length]?).map (·.offered) = some (more emitter.name) := by
  have place := congrArg (fun views => (views[before.length]?).map Prod.snd) view
  simpa [Registered.view, Registered.extend, Registered.fresh, Function.comp_def] using place

theorem flushOffers_eq (batches : List (List Message)) (world : World) :
    flushOffers before after emitter batches world =
      some ((batches.map fun messages => messages.map Message.toEvent).filterMap
        (Hub.slice · emitter.name)) :=
  offered_at before after emitter (Hub.fanOutAll_view _ _ world)

theorem routingOffers_eq (ingestors : HashMap String Ingestor) (messages : List Message)
    (world : World) :
    routingOffers before after emitter ingestors messages world =
      some ((nonEmpty ((messages.map Message.toEvent).filter (·.routeTo.isEmpty))).toList ++
        (nonEmpty (PluginRegistry.naming emitter.name (messages.map Message.toEvent))).toList) :=
  offered_at before after emitter (PluginRegistry.emitWithRouting_view
    ⟨ingestors, before ++ .fresh emitter :: after⟩ _ world)

end Offers

/-- How often an event is among those which name an emitter. -/
theorem PluginRegistry.count_naming (name : String) (events : List Event) (event : Event) :
    (naming name events).count event = events.count event * event.routeTo.count name := by
  induction events with
  | nil => simp [naming]
  | cons first events inductionHypothesis =>
      have split : naming name (first :: events) =
          List.replicate (first.routeTo.count name) first ++ naming name events := rfl
      rw [split, List.count_append, inductionHypothesis, List.count_replicate]
      by_cases same : first = event
      · simp [same]
        ring
      · simp [same]

/-- Two names are named alike by events exactly when each event names both
equally often. -/
theorem PluginRegistry.naming_eq_iff (left right : String) (events : List Event) :
    naming left events = naming right events ↔
      ∀ event ∈ events, event.routeTo.count left = event.routeTo.count right := by
  constructor
  · intro same event member
    have counts := congrArg (List.count event) same
    rw [count_naming, count_naming] at counts
    exact Nat.eq_of_mul_eq_mul_left (List.count_pos_iff.mpr member) counts
  · intro alike
    induction events with
    | nil => rfl
    | cons first events inductionHypothesis =>
        have split : ∀ name, naming name (first :: events) =
            List.replicate (first.routeTo.count name) first ++ naming name events :=
          fun name => rfl
        rw [split, split, alike first (by simp), inductionHypothesis fun event member =>
          alike event (List.mem_cons_of_mem first member)]

/-- Events which name two names equally often are routed to both alike. -/
theorem Hub.slice_congr {left right : String} {events : List Event}
    (alike : ∀ event ∈ events, event.routeTo.count left = event.routeTo.count right) :
    slice events left = slice events right := by
  have routed : routedEvents events left = routedEvents events right := by
    apply List.filter_congr
    intro event member
    have named : ∀ name, event.routeTo.any (· == name) = true ↔ 0 < event.routeTo.count name :=
      fun name => by simp [List.count_pos_iff]
    rw [Bool.eq_iff_iff, Bool.or_eq_true, Bool.or_eq_true, named, named, alike event member]
  rw [slice, slice, routed]

/-- Wrapping an emitter leaves what it is offered unchanged, by the flush loop and
by `emit_with_routing`, exactly when each message names the emitter as often as
the outermost wrapper. -/
theorem wrapping_transparent_iff (layers : ResilientEmitter) (before after : List Registered)
    (ingestors : HashMap String Ingestor) (batches : List (List Message)) (world : World) :
    (flushOffers before after layers.build batches world =
        flushOffers before after layers.inner batches world ∧
      ∀ messages ∈ batches,
        routingOffers before after layers.build ingestors messages world =
          routingOffers before after layers.inner ingestors messages world) ↔
      ∀ messages ∈ batches, ∀ message ∈ messages,
        message.routeTo.count layers.outerName = message.routeTo.count layers.inner.name := by
  have events : ∀ messages : List Message,
      (∀ event ∈ messages.map Message.toEvent,
        event.routeTo.count layers.outerName = event.routeTo.count layers.inner.name) ↔
      ∀ message ∈ messages,
        message.routeTo.count layers.outerName = message.routeTo.count layers.inner.name :=
    fun messages => by simp [Message.toEvent]
  have routing : ∀ messages,
      (routingOffers before after layers.build ingestors messages world =
        routingOffers before after layers.inner ingestors messages world) ↔
      ∀ message ∈ messages,
        message.routeTo.count layers.outerName = message.routeTo.count layers.inner.name := by
    intro messages
    rw [routingOffers_eq, routingOffers_eq, layers.build_name, ← events,
      ← PluginRegistry.naming_eq_iff, Option.some.injEq, List.append_cancel_left_eq]
    constructor
    · intro same
      simpa using congrArg List.flatten same
    · intro same
      rw [same]
  constructor
  · rintro ⟨-, routed⟩ messages member
    exact (routing messages).mp (routed messages member)
  · intro alike
    refine ⟨?_, fun messages member => (routing messages).mpr (alike messages member)⟩
    rw [flushOffers_eq, flushOffers_eq, layers.build_name, List.filterMap_map, List.filterMap_map]
    congr 1
    apply List.filterMap_congr
    intro messages member
    exact Hub.slice_congr ((events messages).mpr (alike messages member))

/-- An emitter named `grpc` which accepts everything. -/
def grpcEmitter : Emitter where
  name := "grpc"
  State := Unit
  state := ()
  emit _ _ world := (.ok (), (), world)
  health _ := true

/-- A message which is routed to `grpc` only. -/
def routedMessage : Message := (Message.withId "1" 0 "source" "type" []).withRoutes ["grpc"]

/-- A world in which no time passes. -/
def stillWorld : World := ⟨fun _ => 0, 0, fun _ => 0, 0⟩

/-- A message routed to `grpc` reaches the bare emitter, and is offered to no one
once the emitter is wrapped with retries. -/
theorem retry_hides_route :
    flushOffers [] [] grpcEmitter [[routedMessage]] stillWorld =
        some [[routedMessage.toEvent]] ∧
    flushOffers [] [] ((ResilientEmitter.wrap grpcEmitter).withRetry .default).build
      [[routedMessage]] stillWorld = some [] ∧
    routingOffers [] [] grpcEmitter ∅ [routedMessage] stillWorld =
        some [[routedMessage.toEvent]] ∧
    routingOffers [] [] ((ResilientEmitter.wrap grpcEmitter).withRetry .default).build ∅
      [routedMessage] stillWorld = some [] := by
  simp only [flushOffers_eq, routingOffers_eq, ResilientEmitter.build_name]
  decide

end Polku
