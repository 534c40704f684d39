import Polku.Message
import Polku.Emit.Emitter
import Polku.Data.List

/-!
# The fan-out of the flush loop

A drained batch is offered to the emitters one after another, each receiving the
events which are routed to it, unless there are none.
-/

namespace Polku.Hub

open Data

/-- The events of a batch which are routed to an emitter. -/
def routedEvents (events : List Event) (name : String) : List Event :=
  events.filter fun event => event.routeTo.isEmpty || event.routeTo.any (· == name)

/-- Routing an event and routing the message it came from are the same. -/
theorem routedEvents_map_toEvent (messages : List Message) (name : String) :
    routedEvents (messages.map Message.toEvent) name =
      (messages.filter (·.shouldRouteTo name)).map Message.toEvent := by
  rw [routedEvents, List.filter_map]
  rfl

/-- The slice an emitter is offered from a batch, if any. -/
def slice (events : List Event) (name : String) : Option (List Event) :=
  nonEmpty (routedEvents events name)

/-- A slice has an event, and none which the batch has not. -/
theorem slice_bounds {events routed : List Event} {name : String}
    (offered : slice events name = some routed) :
    routed ≠ [] ∧ routed.length ≤ events.length := by
  have size : (routedEvents events name).length ≤ events.length := List.length_filter_le _ _
  unfold slice at offered
  cases whole : routedEvents events name with
  | nil => simp [whole] at offered
  | cons first rest =>
      rw [whole] at offered size
      obtain rfl : first :: rest = routed := by simpa using offered
      exact ⟨by simp, size⟩

/-- The slices of several batches join to what all the batches hold for an emitter. -/
theorem flatten_slices (batches : List (List Message)) (name : String) :
    (batches.filterMap fun batch => slice (batch.map Message.toEvent) name).flatten =
      (batches.flatten.filter (·.shouldRouteTo name)).map Message.toEvent := by
  induction batches with
  | nil => rfl
  | cons batch batches inductionHypothesis =>
      have joined : (slice (batch.map Message.toEvent) name).toList.flatten =
          (batch.filter (·.shouldRouteTo name)).map Message.toEvent := by
        rw [slice, flatten_nonEmpty, routedEvents_map_toEvent]
      rw [List.flatten_cons, List.filter_append, List.map_append, ← joined,
        ← inductionHypothesis]
      cases picked : slice (batch.map Message.toEvent) name <;> simp [picked]

/-- Offer a batch to all emitters. -/
def fanOut (emitters : List Registered) (events : List Event) (world : World) :
    List Registered × World :=
  (Registered.emitEach (slice events) emitters world).2

/-- Offer batches to all emitters, one batch after another. -/
def fanOutAll : List Registered → List (List Event) → World → List Registered × World
  | emitters, [], world => (emitters, world)
  | emitters, events :: batches, world =>
      let (emitters, world) := fanOut emitters events world
      fanOutAll emitters batches world

/-- The flush loop offers each emitter its slices, batch by batch. -/
theorem fanOutAll_view (emitters : List Registered) (batches : List (List Event))
    (world : World) :
    (fanOutAll emitters batches world).1.map Registered.view =
      (emitters.map Registered.view).map
        (Registered.extend fun name => batches.filterMap (slice · name)) := by
  induction batches generalizing emitters world with
  | nil => simp [fanOutAll, Registered.extend]
  | cons events batches inductionHypothesis =>
      rw [fanOutAll, inductionHypothesis, fanOut, Registered.emitEach_view,
        Registered.map_extend_extend]
      congr 2
      funext name
      cases picked : slice events name <;> simp [picked]

end Polku.Hub
