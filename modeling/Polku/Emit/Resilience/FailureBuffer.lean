import Polku.Buffer.Ring
import Polku.Emit.Emitter

/-!
# Capturing failed events

`FailureBuffer::push` runs the same dropping loop as `RingBuffer::push`, with
other counters around it.
-/

namespace Polku

open Buffer

/-- A failed event with what is known about its failure. -/
structure FailedEvent where
  event : Event
  error : String
  emitterName : String
  failedAt : Nat
  attempts : UInt32
deriving DecidableEq

/-- Configuration of failure capture. -/
structure FailureCaptureConfig where
  capacity : Nat
  storeFullBatch : Bool
deriving DecidableEq

/-- The default configuration. -/
def FailureCaptureConfig.default : FailureCaptureConfig := ⟨1000, true⟩

/-- Failed events, oldest first. -/
structure FailureBuffer where
  events : List FailedEvent
  capacity : Nat
  totalCaptured : Nat
  totalDropped : Nat
deriving DecidableEq

namespace FailureBuffer

/-- An empty buffer of the given capacity. -/
def new (capacity : Nat) : FailureBuffer := ⟨[], capacity, 0, 0⟩

/-- Add failed events, dropping the oldest when full. -/
def push (self : FailureBuffer) (events : List FailedEvent) : FailureBuffer :=
  let loop := events.foldl (PushLoop.iterate self.capacity) ⟨self.events, 0, []⟩
  { self with
    events := loop.buffer
    totalCaptured := self.totalCaptured + events.length
    totalDropped := self.totalDropped + loop.dropped }

/-- Remove and return up to `n` of the oldest failed events. -/
def drain (self : FailureBuffer) (n : Nat) : List FailedEvent × FailureBuffer :=
  let drainCount := min n self.events.length
  (self.events.take drainCount, { self with events := self.events.drop drainCount })

/-- Remove all failed events. -/
def clear (self : FailureBuffer) : FailureBuffer := { self with events := [] }

/-- With room for all of them, failed events are only appended. -/
theorem push_of_room {self : FailureBuffer} {events : List FailedEvent}
    (room : self.events.length + events.length ≤ self.capacity) :
    (self.push events).events = self.events ++ events ∧
      (self.push events).capacity = self.capacity := by
  have loop : events.foldl (PushLoop.iterate self.capacity) ⟨self.events, 0, []⟩ =
      ⟨self.events ++ events, 0, []⟩ := PushLoop.foldl_of_room room
  simp [push, loop]

end FailureBuffer

namespace FailureCaptureEmitter

/-- Record each event of a list with one error text, reading the clock once an
event. -/
def failedEvents (error emitterName : String) :
    List Event → World → List FailedEvent × World
  | [], world => ([], world)
  | event :: rest, world =>
      let (now, world) := world.now
      let (later, world) := failedEvents error emitterName rest world
      (⟨event, error, emitterName, now, 1⟩ :: later, world)

/-- What is captured of a failed batch: all of it, or its first event. -/
def capture (config : FailureCaptureConfig) (emitterName : String) (error : PluginError)
    (events : List Event) (world : World) : List FailedEvent × World :=
  if config.storeFullBatch then
    failedEvents error.toText emitterName events world
  else
    failedEvents (error.toText ++ " (batch of " ++ toString events.length ++ ")") emitterName
      events.head?.toList world

/-- Each event of the list is captured, in order. -/
@[simp] theorem failedEvents_event (error emitterName : String) (events : List Event)
    (world : World) :
    (failedEvents error emitterName events world).1.map FailedEvent.event = events := by
  induction events generalizing world with
  | nil => rfl
  | cons event rest inductionHypothesis => simp [failedEvents, inductionHypothesis]

/-- Emit, capturing the batch if the wrapped emitter fails. -/
def emit {Inner : Type} (innerName : String)
    (inner : Inner → List Event → World → EmitResult × Inner × World)
    (config : FailureCaptureConfig) (self : Inner × FailureBuffer) (events : List Event)
    (world : World) : EmitResult × (Inner × FailureBuffer) × World :=
  match inner self.1 events world with
  | (.ok (), innerState, world) => (.ok (), (innerState, self.2), world)
  | (.error error, innerState, world) =>
      let (failed, world) := capture config innerName error events world
      (.error error, (innerState, self.2.push failed), world)

/-- Wrap an emitter with failure capture into a buffer. -/
def new (inner : Emitter) (buffer : FailureBuffer) (config : FailureCaptureConfig) :
    Emitter where
  name := "failure_capture"
  State := inner.State × FailureBuffer
  state := (inner.state, buffer)
  emit := emit inner.name inner.emit config
  health self := inner.health self.1

end FailureCaptureEmitter

end Polku
