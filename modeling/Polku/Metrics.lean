import Polku.Data.HashMap
import Mathlib.Data.String.Basic

/-!
# Metrics

The counters and gauges the hub records. Prometheus keeps `f64` values; here
they are numbers.
-/

namespace Polku

open Data

/-- The metrics of a gateway. -/
structure Metrics where
  eventsReceived : HashMap (String × String) Nat
  eventsForwarded : HashMap (String × String) Nat
  eventsDropped : HashMap String Nat
  bufferSize : Nat
  bufferCapacity : Nat

namespace Metrics

/-- Fresh metrics. -/
def fresh : Metrics := ⟨∅, ∅, ∅, 0, 0⟩

/-- Increase the counter of a label. -/
def incBy {Label : Type} [DecidableEq Label] (counters : HashMap Label Nat) (label : Label)
    (count : Nat) : HashMap Label Nat :=
  counters.insert label ((counters.lookup label).getD 0 + count)

/-- Record received events. -/
def recordReceived (self : Metrics) (source eventType : String) (count : Nat) : Metrics :=
  { self with eventsReceived := incBy self.eventsReceived (source, eventType) count }

/-- Record forwarded events. -/
def recordForwarded (self : Metrics) (output eventType : String) (count : Nat) : Metrics :=
  { self with eventsForwarded := incBy self.eventsForwarded (output, eventType) count }

/-- Record dropped events. -/
def recordDropped (self : Metrics) (reason : String) (count : Nat) : Metrics :=
  { self with eventsDropped := incBy self.eventsDropped reason count }

/-- Update the buffer size. -/
def setBufferSize (self : Metrics) (size : Nat) : Metrics := { self with bufferSize := size }

/-- Update the buffer capacity. -/
def setBufferCapacity (self : Metrics) (capacity : Nat) : Metrics :=
  { self with bufferCapacity := capacity }

/-- The counter of dropped events for a reason. -/
def droppedFor (self : Metrics) (reason : String) : Nat :=
  (self.eventsDropped.lookup reason).getD 0

/-- Recording drops adds to the counter of their reason only. -/
@[simp] theorem droppedFor_recordDropped (self : Metrics) (reason other : String) (count : Nat) :
    (self.recordDropped reason count).droppedFor other =
      self.droppedFor other + if reason = other then count else 0 := by
  unfold droppedFor recordDropped incBy
  by_cases same : reason = other
  · subst same
    simp
  · simp [Finmap.lookup_insert_of_ne _ (Ne.symm same), same]

@[simp] theorem droppedFor_recordReceived (self : Metrics) (source eventType reason : String)
    (count : Nat) :
    (self.recordReceived source eventType count).droppedFor reason = self.droppedFor reason := rfl

@[simp] theorem droppedFor_recordForwarded (self : Metrics) (output eventType reason : String)
    (count : Nat) :
    (self.recordForwarded output eventType count).droppedFor reason = self.droppedFor reason := rfl

@[simp] theorem droppedFor_setBufferSize (self : Metrics) (size : Nat) (reason : String) :
    (self.setBufferSize size).droppedFor reason = self.droppedFor reason := rfl

@[simp] theorem droppedFor_setBufferCapacity (self : Metrics) (capacity : Nat) (reason : String) :
    (self.setBufferCapacity capacity).droppedFor reason = self.droppedFor reason := rfl

end Metrics

end Polku
