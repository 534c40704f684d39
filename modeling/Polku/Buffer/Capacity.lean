import Polku.Buffer.History

/-!
# Capacity

A buffer holds no more than its capacity, and each push reports the messages which are no
longer held, unless the capacity is zero: then `push` pops nothing from an empty buffer,
counts it, and holds a message all the same.
-/

namespace Polku.Buffer

universe u v w x

open Polku.Data

variable {α : Type u}

namespace PushLoop

/-- An iteration finds room, or keeps the length of the buffer. -/
theorem length_iterate {capacity : Nat} {loop : PushLoop α}
    (within : loop.buffer.length ≤ max capacity 1) (msg : α) :
    (loop.iterate capacity msg).buffer.length =
      min (loop.buffer.length + 1) (max capacity 1) := by
  unfold iterate
  split
  case isTrue full =>
      rw [List.length_append, List.length_tail, List.length_singleton]
      omega
  case isFalse free =>
      rw [List.length_append, List.length_singleton]
      omega

/-- The loop holds all messages, or as many as the capacity, but one at least. -/
theorem length_foldl {capacity : Nat} (messages : List α) {loop : PushLoop α}
    (within : loop.buffer.length ≤ max capacity 1) :
    (messages.foldl (iterate capacity) loop).buffer.length =
      min (loop.buffer.length + messages.length) (max capacity 1) := by
  induction messages generalizing loop with
  | nil => exact (Nat.min_eq_left within).symm
  | cons msg rest inductionHypothesis =>
      have once := length_iterate within msg
      rw [List.foldl_cons, inductionHypothesis (by omega), once, List.length_cons]
      omega

/-- With room for at least one message, the loop counts those which are no longer held. -/
theorem dropped_add_length {capacity : Nat} (positive : 0 < capacity) (messages buffer : List α) :
    (messages.foldl (iterate capacity) ⟨buffer, 0, []⟩).dropped +
        (messages.foldl (iterate capacity) ⟨buffer, 0, []⟩).buffer.length =
      buffer.length + messages.length := by
  have empty : (⟨buffer, 0, []⟩ : PushLoop α).dropped =
      (⟨buffer, 0, []⟩ : PushLoop α).evictions.length := rfl
  have counted := dropped_foldl positive messages empty
  have line := congrArg List.length (line_foldl capacity messages ⟨buffer, 0, []⟩)
  simp only [PushLoop.line, List.map_nil, List.nil_append, List.length_append,
    List.length_map] at line
  omega

end PushLoop

/-- What one call makes of what is held: it pushes a batch, or removes some of the oldest. -/
inductive Change (capacity : Nat) (held : List α) : List α → Prop where
  | push (messages : List α) :
      Change capacity held (messages.foldl (PushLoop.iterate capacity) ⟨held, 0, []⟩).buffer
  | remove (n : Nat) : Change capacity held (held.drop n)

/-- No change leaves the bounds. -/
theorem Change.length_le {capacity : Nat} {held after : List α}
    (change : Change capacity held after) (within : held.length ≤ max capacity 1) :
    after.length ≤ max capacity 1 := by
  cases change with
  | push messages =>
      rw [PushLoop.length_foldl messages within]
      exact Nat.min_le_right _ _
  | remove n =>
      rw [List.length_drop]
      omega

/-- Nor do all calls on a buffer, if each of them is such a change and keeps the capacity. -/
theorem length_callAll_le {State : Type v} {Call : Type w} {Answer : Type x}
    {call : State → Call → Answer × State} (held : State → List α) (capacity : State → Nat)
    (changes : ∀ state each, Change (capacity state) (held state) (held (call state each).2))
    (keeps : ∀ state each, capacity (call state each).2 = capacity state) {self : State}
    (within : (held self).length ≤ max (capacity self) 1) (calls : List Call) :
    (held (callAll call self calls).2).length ≤ max (capacity self) 1 := by
  refine (callAll_keeps call (fun state => capacity state = capacity self ∧
    (held state).length ≤ max (capacity self) 1) ?_ ⟨rfl, within⟩ calls).2
  rintro state each ⟨same, bounded⟩
  exact ⟨(keeps state each).trans same,
    same ▸ (changes state each).length_le (same.symm ▸ bounded)⟩

namespace RingBuffer

/-- A push reports the messages which were held or handed in and are no longer held. -/
def Reports (self : RingBuffer α) (messages : List α) : Prop :=
  (self.push messages).1 + (self.push messages).2.len = self.len + messages.length

/-- A push into a buffer within its bounds. -/
theorem len_push {self : RingBuffer α} (within : self.len ≤ max self.capacity 1)
    (messages : List α) :
    (self.push messages).2.len = min (self.len + messages.length) (max self.capacity 1) :=
  PushLoop.length_foldl messages within

/-- A push or a drain is a change of what is held. -/
theorem call_change (self : RingBuffer α) (call : BufferCall α) :
    Change self.capacity self.messages (self.call call).2.messages := by
  cases call with
  | push messages => exact .push messages
  | drain n => exact .remove _

/-- A history never leaves the bounds. -/
theorem len_replay_le {self : RingBuffer α} (within : self.len ≤ max self.capacity 1)
    (calls : List (BufferCall α)) : (self.replay calls).2.len ≤ max self.capacity 1 := by
  rw [replay_eq]
  exact length_callAll_le messages capacity call_change call_capacity within calls

/-- A new buffer holds at most one message more than its capacity, and that only if it is
zero. -/
theorem len_replay_new (capacity : Nat) (calls : List (BufferCall α)) :
    ((new capacity : RingBuffer α).replay calls).2.len ≤ max capacity 1 := by
  have within : (new capacity : RingBuffer α).len ≤ max (new capacity : RingBuffer α).capacity 1 :=
    Nat.zero_le _
  exact len_replay_le within calls

end RingBuffer

/-- Along a history no more messages are held than the capacity, and every push reports those
which are no longer held. -/
structure CapacityExact (capacity : Nat) (calls : List (BufferCall α)) : Prop where
  bounded : ∀ before after, calls = before ++ after →
    ((RingBuffer.new capacity).replay before).2.len ≤ capacity
  reported : ∀ before messages after, calls = before ++ .push messages :: after →
    ((RingBuffer.new capacity).replay before).2.Reports messages

/-- A history holds no more messages than it hands over. -/
theorem len_replay_le_handed (capacity : Nat) (calls : List (BufferCall α)) :
    ((RingBuffer.new capacity : RingBuffer α).replay calls).2.len ≤ (handed calls).length := by
  have whole := congrArg List.length ((RingBuffer.new capacity).ledger_arrived calls)
  rw [Ledger.arrived, List.length_append, List.length_append] at whole
  change _ + ((RingBuffer.new capacity).replay calls).2.len = 0 + (handed calls).length at whole
  omega

/-- The capacity is exact for the histories of a buffer which has any, and those which hand
nothing over. -/
theorem capacityExact_iff (capacity : Nat) (calls : List (BufferCall α)) :
    CapacityExact capacity calls ↔ 0 < capacity ∨ handed calls = [] := by
  constructor
  · intro exact
    by_contra neither
    rw [not_or, Nat.not_lt, Nat.le_zero] at neither
    obtain ⟨rfl, some⟩ := neither
    have pushes : ∀ call : BufferCall α, call.handed ≠ [] → call = .push call.handed := by
      rintro (messages | n) gives
      · rfl
      · exact absurd rfl gives
    obtain ⟨before, messages, after, rfl, notEmpty⟩ := exists_call_of_flatMap pushes some
    have bounded := exact.bounded (before ++ [.push messages]) after (by simp)
    have within : ((RingBuffer.new 0).replay before).2.len ≤
        max ((RingBuffer.new 0).replay before).2.capacity 1 := by
      rw [RingBuffer.replay_capacity]
      exact RingBuffer.len_replay_new 0 before
    have held := RingBuffer.len_push within messages
    have positive := List.length_pos_of_ne_nil notEmpty
    simp only [RingBuffer.replay_append, RingBuffer.replay_cons, RingBuffer.replay_nil,
      RingBuffer.call, RingBuffer.replay_capacity, RingBuffer.new] at bounded held
    omega
  · rintro (positive | nothing)
    · refine ⟨fun before _ _ => ?_, fun before messages _ _ => ?_⟩
      · have within := RingBuffer.len_replay_new (α := α) capacity before
        omega
      · refine PushLoop.dropped_add_length ?_ messages _
        rw [RingBuffer.replay_capacity]
        exact positive
    · refine ⟨fun before after split => ?_, fun before messages after split => ?_⟩
      · have few := len_replay_le_handed capacity before
        simp only [split, handed, List.flatMap_append, List.append_eq_nil_iff] at nothing
        rw [handed, nothing.1] at few
        exact few.trans (Nat.zero_le _)
      · simp only [split, handed, List.flatMap_append, List.flatMap_cons, BufferCall.handed,
          List.append_eq_nil_iff] at nothing
        obtain ⟨-, rfl, -⟩ := nothing
        exact Nat.zero_add _

end Polku.Buffer
