import Mathlib.Data.List.Forall2
import Polku.Proto

/-!
# The message envelope

`Message` is the internal form of an `Event`. The two conversions copy every
field, so a message survives the trip through the wire format unchanged.
-/

namespace Polku

open Data

/-- The universal message envelope. -/
structure Message where
  id : String
  timestamp : Int64
  source : String
  messageType : String
  metadata : HashMap String String
  payload : Bytes
  routeTo : List String
deriving DecidableEq

/-- An event carries a message if they agree in every field. -/
structure Event.Carries (event : Event) (msg : Message) : Prop where
  id : event.id = msg.id
  timestamp : event.timestampUnixNs = msg.timestamp
  source : event.source = msg.source
  messageType : event.eventType = msg.messageType
  metadata : event.metadata = msg.metadata
  payload : event.payload = msg.payload
  routeTo : event.routeTo = msg.routeTo

namespace Message

/-- Create a message with its identifying fields, no metadata and no routes. -/
def withId (id : String) (timestamp : Int64) (source messageType : String)
    (payload : Bytes) : Message where
  id := id
  timestamp := timestamp
  source := source
  messageType := messageType
  metadata := ∅
  payload := payload
  routeTo := []

/-- Set the routing targets. -/
def withRoutes (self : Message) (routes : List String) : Message :=
  { self with routeTo := routes }

/-- Whether the message goes to an output: an empty `routeTo` is a broadcast. -/
def shouldRouteTo (self : Message) (outputName : String) : Bool :=
  self.routeTo.isEmpty || self.routeTo.any (· == outputName)

/-- The payload as text, if it is UTF-8. -/
def payloadStr (self : Message) : Option String :=
  String.fromUTF8? ⟨self.payload.toArray⟩

/-- Conversion from a proto event. -/
def ofEvent (event : Event) : Message where
  id := event.id
  timestamp := event.timestampUnixNs
  source := event.source
  messageType := event.eventType
  metadata := event.metadata
  payload := event.payload
  routeTo := event.routeTo

/-- Conversion to a proto event. -/
def toEvent (self : Message) : Event where
  id := self.id
  timestampUnixNs := self.timestamp
  source := self.source
  eventType := self.messageType
  metadata := self.metadata
  payload := self.payload
  routeTo := self.routeTo

/-- An event which is made of a message carries it. -/
theorem toEvent_carries (self : Message) : self.toEvent.Carries self :=
  ⟨rfl, rfl, rfl, rfl, rfl, rfl, rfl⟩

/-- A message which is made of an event is carried by it. -/
theorem carries_ofEvent (event : Event) : event.Carries (ofEvent event) :=
  ⟨rfl, rfl, rfl, rfl, rfl, rfl, rfl⟩

/-- Nothing else carries a message. -/
theorem carries_iff {event : Event} {msg : Message} : event.Carries msg ↔ event = msg.toEvent := by
  constructor
  · rintro ⟨id, timestamp, source, messageType, metadata, payload, routeTo⟩
    rw [toEvent, ← id, ← timestamp, ← source, ← messageType, ← metadata, ← payload, ← routeTo]
  · rintro rfl
    exact msg.toEvent_carries

/-- Events carry messages, each the one in its place, if they are made of them. -/
theorem forall₂_carries_iff {events : List Event} {messages : List Message} :
    List.Forall₂ Event.Carries events messages ↔ events = messages.map toEvent := by
  have carries : Event.Carries = fun event msg => event = toEvent msg := by
    funext event msg
    exact propext carries_iff
  rw [carries, List.forall₂_map_right_iff.symm, List.forall₂_eq_eq_eq]

/-- Messages which are made of events are carried by them. -/
theorem forall₂_carries_ofEvent (events : List Event) :
    List.Forall₂ Event.Carries events (events.map ofEvent) := by
  rw [List.forall₂_map_right_iff]
  exact List.forall₂_same.mpr fun event _ => carries_ofEvent event

/-- A message keeps every field on its way through the wire format. -/
@[simp] theorem ofEvent_toEvent (self : Message) : ofEvent self.toEvent = self := rfl

/-- An event keeps every field on its way through the pipeline. -/
@[simp] theorem toEvent_ofEvent (event : Event) : (ofEvent event).toEvent = event := rfl

/-- A message goes to the outputs its routes name, or to all if it names none. -/
theorem shouldRouteTo_iff (self : Message) (outputName : String) :
    self.shouldRouteTo outputName = true ↔ self.routeTo = [] ∨ outputName ∈ self.routeTo := by
  simp [shouldRouteTo]

end Message

end Polku
