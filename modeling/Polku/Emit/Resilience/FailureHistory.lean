import Polku.Buffer.Capacity
import Polku.Emit.Resilience.FailureBuffer

/-!
# Histories of a failure buffer

What calls of `push`, `drain` and `clear` leave in a failure buffer and in its counters,
which are `u64`s and taken as not wrapping. It keeps its capacity and counts its drops just
as the ring buffer does.
-/

namespace Polku

open Buffer Data

/-- One call on a failure buffer. -/
inductive FailureCall where
  | push (events : List FailedEvent)
  | drain (n : Nat)
  | clear
deriving DecidableEq

/-- The failed events which a call hands to the buffer. -/
def FailureCall.handed : FailureCall → List FailedEvent
  | .push events => events
  | _ => []

namespace FailureBuffer

/-- The number of failed events held. -/
def len (self : FailureBuffer) : Nat := self.events.length

/-- Make one call: the failed events which are drained or cleared, and the buffer after it. -/
def call (self : FailureBuffer) : FailureCall → List FailedEvent × FailureBuffer
  | .push events => ([], self.push events)
  | .drain n => self.drain n
  | .clear => (self.events, self.clear)

/-- Make calls in order: the failed events which are drained or cleared, and the buffer. -/
def replay (self : FailureBuffer) : List FailureCall → List FailedEvent × FailureBuffer
  | [] => ([], self)
  | call :: calls =>
      let (taken, self) := self.call call
      let (later, self) := self.replay calls
      (taken ++ later, self)

/-- A push adds to `total_dropped` the failed events which were held or handed in and are no
longer held. -/
def Reports (self : FailureBuffer) (events : List FailedEvent) : Prop :=
  (self.push events).totalDropped + (self.push events).len =
    self.totalDropped + self.len + events.length

/-- What has been captured and not dropped is held, or has been drained or cleared. -/
def Balances (self : FailureBuffer) (taken : List FailedEvent) : Prop :=
  self.totalCaptured = self.totalDropped + self.len + taken.length

variable {self : FailureBuffer}

@[simp] theorem call_capacity (self : FailureBuffer) (call : FailureCall) :
    (self.call call).2.capacity = self.capacity := by
  cases call <;> rfl

/-- A history is made of calls one after another. -/
theorem replay_eq (self : FailureBuffer) (calls : List FailureCall) :
    self.replay calls = ((callAll call self calls).1.flatten, (callAll call self calls).2) := by
  induction calls generalizing self with
  | nil => rfl
  | cons call calls inductionHypothesis => simp [replay, inductionHypothesis]

@[simp] theorem replay_capacity (self : FailureBuffer) (calls : List FailureCall) :
    (self.replay calls).2.capacity = self.capacity := by
  rw [replay_eq]
  exact callAll_keeps call (·.capacity = self.capacity)
    (fun middle call same => (middle.call_capacity call).trans same) rfl calls

/-- Calls may be made in two parts. -/
theorem replay_append (self : FailureBuffer) (first second : List FailureCall) :
    self.replay (first ++ second) =
      ((self.replay first).1 ++ ((self.replay first).2.replay second).1,
        ((self.replay first).2.replay second).2) := by
  simp only [replay_eq, callAll_append, List.flatten_append]

/-- A push into a buffer within its bounds. -/
theorem len_push (within : self.len ≤ max self.capacity 1) (events : List FailedEvent) :
    (self.push events).len = min (self.len + events.length) (max self.capacity 1) :=
  PushLoop.length_foldl events within

/-- A drain leaves what was not asked for. -/
theorem len_drain (self : FailureBuffer) (n : Nat) : (self.drain n).2.len = self.len - n := by
  rw [len, drain, List.length_drop, len]
  omega

/-- Each call is a change of what is held. -/
theorem call_change (self : FailureBuffer) (call : FailureCall) :
    Change self.capacity self.events (self.call call).2.events := by
  cases call with
  | push events => exact .push events
  | drain n => exact .remove _
  | clear =>
      have all : Change self.capacity self.events (self.events.drop self.events.length) := .remove _
      rwa [List.drop_length] at all

/-- A history never leaves the bounds. -/
theorem len_replay_le (within : self.len ≤ max self.capacity 1) (calls : List FailureCall) :
    (self.replay calls).2.len ≤ max self.capacity 1 := by
  rw [replay_eq]
  exact length_callAll_le events capacity call_change call_capacity within calls

/-- A new buffer holds at most one failed event more than its capacity, and that only if it
is zero. -/
theorem len_replay_new (capacity : Nat) (calls : List FailureCall) :
    ((new capacity).replay calls).2.len ≤ max capacity 1 := by
  have within : (new capacity).len ≤ max (new capacity).capacity 1 := Nat.zero_le _
  exact len_replay_le within calls

/-- With room for at least one failed event a push reports what is no longer held. -/
theorem reports (positive : 0 < self.capacity) (events : List FailedEvent) :
    self.Reports events := by
  have loop := PushLoop.dropped_add_length positive events self.events
  simp only [Reports, push, len]
  omega

/-- With room for at least one failed event every call keeps the balance. -/
theorem Balances.call {taken : List FailedEvent} (balances : self.Balances taken)
    (positive : 0 < self.capacity) (call : FailureCall) :
    (self.call call).2.Balances (taken ++ (self.call call).1) := by
  unfold Balances at balances ⊢
  rw [List.length_append]
  cases call with
  | push events =>
      have reported := reports positive events
      have captured : (self.push events).totalCaptured = self.totalCaptured + events.length := rfl
      simp only [FailureBuffer.call, Reports, List.length_nil] at reported ⊢
      omega
  | drain n =>
      have drained : (self.drain n).1.length = min n self.len := by
        rw [drain, List.length_take, Nat.min_assoc, Nat.min_self, len]
      have rest := self.len_drain n
      have same : (self.drain n).2.totalCaptured = self.totalCaptured ∧
          (self.drain n).2.totalDropped = self.totalDropped := ⟨rfl, rfl⟩
      simp only [FailureBuffer.call]
      omega
  | clear =>
      simp only [FailureBuffer.call, clear, len, List.length_nil] at balances ⊢
      omega

/-- A whole history keeps the balance. -/
theorem Balances.replay {taken : List FailedEvent} (balances : self.Balances taken)
    (positive : 0 < self.capacity) (calls : List FailureCall) :
    (self.replay calls).2.Balances (taken ++ (self.replay calls).1) := by
  induction calls generalizing self taken with
  | nil => simpa [FailureBuffer.replay] using balances
  | cons call calls inductionHypothesis =>
      have later := inductionHypothesis (balances.call positive call) (by simpa using positive)
      simpa [FailureBuffer.replay] using later

end FailureBuffer

/-- The failed events handed to the buffer by a history. -/
def handedFailures (calls : List FailureCall) : List FailedEvent := calls.flatMap FailureCall.handed

/-- Along a history no more failed events are held than the capacity, every push reports
those which are no longer held, and the counters balance. -/
structure FailuresExact (capacity : Nat) (calls : List FailureCall) : Prop where
  bounded : ∀ before after, calls = before ++ after →
    ((FailureBuffer.new capacity).replay before).2.len ≤ capacity
  reported : ∀ before events after, calls = before ++ .push events :: after →
    ((FailureBuffer.new capacity).replay before).2.Reports events
  balanced : ∀ before after, calls = before ++ after →
    ((FailureBuffer.new capacity).replay before).2.Balances
      ((FailureBuffer.new capacity).replay before).1

/-- A history which hands nothing over leaves a new buffer as it is. -/
theorem FailureBuffer.replay_of_nothing (capacity : Nat) {calls : List FailureCall}
    (nothing : handedFailures calls = []) : (new capacity).replay calls = ([], new capacity) := by
  induction calls with
  | nil => rfl
  | cons call calls inductionHypothesis =>
      obtain ⟨first, rest⟩ := List.append_eq_nil_iff.mp nothing
      have still : (new capacity).call call = ([], new capacity) := by
        cases call with
        | push events =>
            obtain rfl : events = [] := first
            rfl
        | drain n => simp [FailureBuffer.call, drain, new]
        | clear => rfl
      rw [replay, still]
      simp only [inductionHypothesis rest, List.append_nil]

/-- The capacity and the counters are exact for the histories of a buffer which has any
capacity, and those which hand nothing over. -/
theorem failuresExact_iff (capacity : Nat) (calls : List FailureCall) :
    FailuresExact capacity calls ↔ 0 < capacity ∨ handedFailures calls = [] := by
  constructor
  · intro exact
    by_contra neither
    rw [not_or, Nat.not_lt, Nat.le_zero] at neither
    obtain ⟨rfl, some⟩ := neither
    have pushes : ∀ call : FailureCall, call.handed ≠ [] → call = .push call.handed := by
      rintro (events | n | _) gives
      · rfl
      · exact absurd rfl gives
      · exact absurd rfl gives
    obtain ⟨before, events, after, rfl, notEmpty⟩ := exists_call_of_flatMap pushes some
    have bounded := exact.bounded (before ++ [.push events]) after (by simp)
    have within : ((FailureBuffer.new 0).replay before).2.len ≤
        max ((FailureBuffer.new 0).replay before).2.capacity 1 := by
      rw [FailureBuffer.replay_capacity]
      exact FailureBuffer.len_replay_new 0 before
    have held := FailureBuffer.len_push within events
    have positive := List.length_pos_of_ne_nil notEmpty
    simp only [FailureBuffer.replay_append, FailureBuffer.replay, FailureBuffer.call,
      FailureBuffer.replay_capacity, FailureBuffer.new] at bounded held
    omega
  · rintro (positive | nothing)
    · refine ⟨fun before _ _ => ?_, fun before events _ _ => ?_, fun before _ _ => ?_⟩
      · have within := FailureBuffer.len_replay_new capacity before
        omega
      · apply FailureBuffer.reports
        rw [FailureBuffer.replay_capacity]
        exact positive
      · have start : (FailureBuffer.new capacity).Balances [] := rfl
        exact start.replay positive before
    · refine ⟨fun before after split => ?_, fun before events after split => ?_,
        fun before after split => ?_⟩
      all_goals simp only [split, handedFailures, List.flatMap_append, List.flatMap_cons,
        FailureCall.handed, List.append_eq_nil_iff] at nothing
      all_goals rw [FailureBuffer.replay_of_nothing capacity nothing.1]
      · exact Nat.zero_le _
      · obtain ⟨-, rfl, -⟩ := nothing
        rfl
      · rfl

/-- Both buffers keep to their capacity and report their drops exactly, along every history,
if and only if they have any capacity or are handed nothing. -/
theorem capacities_exact_iff {α : Type} :
    (∀ capacity (calls : List (BufferCall α)),
      CapacityExact capacity calls ↔ 0 < capacity ∨ handed calls = []) ∧
    ∀ capacity calls, FailuresExact capacity calls ↔
      0 < capacity ∨ handedFailures calls = [] :=
  ⟨capacityExact_iff, failuresExact_iff⟩

/-- A failed event. -/
def plainFailure : FailedEvent :=
  ⟨⟨"1", 0, "source", "type", ∅, [], []⟩, "send failed: ", "grpc", 0, 1⟩

/-- With a capacity of zero the first message and the first failed event are held, and are
counted as dropped. -/
theorem zero_capacity_holds :
    ((RingBuffer.new 0).push ["first"]).2.len = 1 ∧ ((RingBuffer.new 0).push ["first"]).1 = 1 ∧
    ((FailureBuffer.new 0).push [plainFailure]).len = 1 ∧
    ((FailureBuffer.new 0).push [plainFailure]).totalDropped = 1 ∧
    ¬ CapacityExact 0 [.push ["first"]] ∧ ¬ FailuresExact 0 [.push [plainFailure]] := by
  refine ⟨rfl, rfl, rfl, rfl, fun exact => ?_, fun exact => ?_⟩
  · exact absurd (exact.bounded [.push ["first"]] [] rfl) (by decide)
  · exact absurd (exact.bounded [.push [plainFailure]] [] rfl) (by decide)

end Polku
