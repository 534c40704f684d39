import Polku.Buffer.History
import Mathlib.Algebra.Ring.Nat

/-!
# What the buffer counters count

`total_dropped` and `total_drained` count what their names say. `total_pushed`
does not: each `push` adds the length of the buffer after it, so the messages
which were already held are counted again. `pushed_replay` says by how much.
-/

namespace Polku.Buffer

universe u

open Polku.Data

variable {α : Type u}

namespace RingBuffer

/-- The messages found held by the pushes of a history, counted once a push. -/
def heldBeforePushes (self : RingBuffer α) : List (BufferCall α) → Nat
  | [] => 0
  | .push messages :: rest =>
      self.len + (self.call (.push messages)).2.heldBeforePushes rest
  | .drain n :: rest => (self.call (.drain n)).2.heldBeforePushes rest

/-- Every push of the history, an empty one included, finds the buffer empty. -/
def PushesFindEmpty (self : RingBuffer α) (calls : List (BufferCall α)) : Prop :=
  ∀ before messages after, calls = before ++ .push messages :: after →
    (self.replay before).2.messages = []

/-- The messages evicted during a history. -/
def evicted (self : RingBuffer α) (calls : List (BufferCall α)) : List α :=
  (self.ledger calls).departedFor (· == .evicted)

/-- The messages drained during a history. -/
def drained (self : RingBuffer α) (calls : List (BufferCall α)) : List α :=
  (self.ledger calls).departedFor (· == .drained)

/-- The values a history's pushes returned, summed. -/
def returnedTotal (self : RingBuffer α) (calls : List (BufferCall α)) : Nat :=
  ((self.replay calls).1.map Outcome.returned).sum

/-- `total_pushed` grows by the length found and the length of the batch. -/
theorem push_pushed (self : RingBuffer α) (positive : 0 < self.capacity) (messages : List α) :
    (self.push messages).2.metrics.pushed =
      self.metrics.pushed + self.len + messages.length := by
  have line := congrArg List.length (self.push_line messages)
  have dropped := self.push_fst_eq_evictions positive messages
  simp only [List.length_append, List.length_map, push_messages, push_fst] at line dropped
  simp only [push, len]
  omega

/-- `total_pushed` exceeds the messages handed over by what pushes found held. -/
theorem pushed_replay (self : RingBuffer α) (positive : 0 < self.capacity)
    (calls : List (BufferCall α)) :
    (self.replay calls).2.metrics.pushed =
      self.metrics.pushed + (handed calls).length + self.heldBeforePushes calls := by
  induction calls generalizing self with
  | nil => simp [handed, heldBeforePushes]
  | cons call rest inductionHypothesis =>
      have later := inductionHypothesis (self.call call).2 (by simpa using positive)
      cases call with
      | push messages =>
          have now : (self.call (.push messages)).2.metrics.pushed =
              self.metrics.pushed + self.len + messages.length :=
            self.push_pushed positive messages
          simp only [replay_cons, later, now, heldBeforePushes, handed, List.flatMap_cons,
            List.length_append, BufferCall.handed]
          omega
      | drain n =>
          have now : (self.call (.drain n)).2.metrics.pushed = self.metrics.pushed := rfl
          simp [later, now, heldBeforePushes, handed, BufferCall.handed]

/-- `total_dropped` grows by the values the pushes return. -/
theorem dropped_replay (self : RingBuffer α) (calls : List (BufferCall α)) :
    (self.replay calls).2.metrics.dropped =
      self.metrics.dropped + self.returnedTotal calls := by
  induction calls generalizing self with
  | nil => simp [returnedTotal]
  | cons call rest inductionHypothesis =>
      have later := inductionHypothesis (self.call call).2
      have now : (self.call call).2.metrics.dropped =
          self.metrics.dropped + (self.call call).1.returned := by
        cases call <;> rfl
      simp only [replay_cons, later, now, returnedTotal, List.map_cons, List.sum_cons]
      omega

/-- The departures of a history are those of its first call, then the rest. -/
theorem departedFor_cons (self : RingBuffer α) (call : BufferCall α)
    (rest : List (BufferCall α)) (selects : Departure → Bool) :
    (self.ledger (call :: rest)).departedFor selects =
      ((self.call call).1.departed.filter fun departure => selects departure.1).map Prod.snd ++
        ((self.call call).2.ledger rest).departedFor selects := by
  simp only [ledger, Ledger.departedFor, replay_cons, List.flatMap_cons, List.filter_append,
    List.map_append]

/-- `total_drained` grows by the messages the drains return. -/
theorem drained_replay (self : RingBuffer α) (calls : List (BufferCall α)) :
    (self.replay calls).2.metrics.drained =
      self.metrics.drained + (self.drained calls).length := by
  induction calls generalizing self with
  | nil => rfl
  | cons call rest inductionHypothesis =>
      have later := inductionHypothesis (self.call call).2
      have now : (self.call call).2.metrics.drained = self.metrics.drained +
          ((self.call call).1.departed.filter fun departure =>
            departure.1 == .drained).length := by
        cases call with
        | push messages =>
            have kept : (Departure.evicted == Departure.drained) = false := rfl
            simp only [RingBuffer.call, Outcome.departed, List.filter_map, Function.comp_def,
              kept, List.filter_false, List.map_nil, List.length_nil, Nat.add_zero]
            rfl
        | drain n =>
            simp only [RingBuffer.call, Outcome.departed, List.filter_map, Function.comp_def,
              beq_self_eq_true, List.filter_true, List.length_map]
            rfl
      rw [replay_cons, later, now, drained, drained, departedFor_cons, List.length_append,
        List.length_map]
      omega

/-- With room for at least one message, the pushes return what they evict. -/
theorem returnedTotal_eq_evicted (self : RingBuffer α) (positive : 0 < self.capacity)
    (calls : List (BufferCall α)) : self.returnedTotal calls = (self.evicted calls).length := by
  induction calls generalizing self with
  | nil => rfl
  | cons call rest inductionHypothesis =>
      have later := inductionHypothesis (self.call call).2 (by simpa using positive)
      have now : (self.call call).1.returned =
          ((self.call call).1.departed.filter fun departure =>
            departure.1 == .evicted).length := by
        cases call with
        | push messages =>
            simp only [RingBuffer.call, Outcome.departed, List.filter_map, Function.comp_def,
              beq_self_eq_true, List.filter_true, List.length_map]
            exact self.push_fst_eq_evictions positive messages
        | drain n =>
            have kept : (Departure.drained == Departure.evicted) = false := rfl
            simp only [RingBuffer.call, Outcome.departed, List.filter_map, Function.comp_def,
              kept, List.filter_false, List.map_nil, List.length_nil, Outcome.returned]
      unfold returnedTotal at later ⊢
      rw [replay_cons, List.map_cons, List.sum_cons, later, now, evicted, evicted,
        departedFor_cons, List.length_append, List.length_map]

/-- A further call adds what it returns. -/
theorem returnedTotal_snoc (self : RingBuffer α) (calls : List (BufferCall α))
    (call : BufferCall α) :
    self.returnedTotal (calls ++ [call]) =
      self.returnedTotal calls + ((self.replay calls).2.call call).1.returned := by
  simp [returnedTotal, replay_append]

/-- Without room for a message, every message pushed counts a drop. -/
theorem returnedTotal_of_zero (self : RingBuffer α) (none : self.capacity = 0)
    (calls : List (BufferCall α)) : self.returnedTotal calls = (handed calls).length := by
  have counts : ∀ (messages : List α) (loop : PushLoop α),
      (messages.foldl (PushLoop.iterate 0) loop).dropped = loop.dropped + messages.length := by
    intro messages
    induction messages with
    | nil => simp
    | cons message messages inductionHypothesis =>
        intro loop
        rw [List.foldl_cons, inductionHypothesis]
        simp only [PushLoop.iterate, Nat.zero_le, if_true, List.length_cons]
        omega
  induction calls generalizing self with
  | nil => rfl
  | cons call rest inductionHypothesis =>
      have later := inductionHypothesis (self.call call).2 (by simpa using none)
      have now : (self.call call).1.returned = call.handed.length := by
        cases call with
        | push messages =>
            have looped : (self.pushLoop messages).dropped = messages.length := by
              rw [pushLoop, none, counts, Nat.zero_add]
            exact looped
        | drain n => rfl
      unfold returnedTotal at later ⊢
      rw [replay_cons, List.map_cons, List.sum_cons, later, now]
      simp [handed]

/-- Nothing is found held exactly when every push finds the buffer empty. -/
theorem heldBeforePushes_eq_zero (self : RingBuffer α) (calls : List (BufferCall α)) :
    self.heldBeforePushes calls = 0 ↔ self.PushesFindEmpty calls := by
  induction calls generalizing self with
  | nil => simp [heldBeforePushes, PushesFindEmpty]
  | cons call rest inductionHypothesis =>
      have unfolded : self.PushesFindEmpty (call :: rest) ↔
          (∀ messages, call = .push messages → self.messages = []) ∧
            (self.call call).2.PushesFindEmpty rest := by
        constructor
        · intro holds
          refine ⟨fun messages same => holds [] messages rest (by simp [same]), ?_⟩
          rintro before messages after rfl
          simpa using holds (call :: before) messages after rfl
        · rintro ⟨first, later⟩ before messages after same
          cases before with
          | nil =>
              obtain ⟨head, -⟩ := List.cons.inj same
              exact first messages head
          | cons head tail =>
              obtain ⟨rfl, tailEq⟩ := List.cons.inj same
              simpa using later tail messages after tailEq
      rw [unfolded, ← inductionHypothesis]
      cases call <;> simp [heldBeforePushes, len]

end RingBuffer

/-- The counters of the buffer a history leaves behind count its pushes, its
evictions and its drains, and balance. -/
structure CountersExact (capacity : Nat) (calls : List (BufferCall α)) : Prop where
  pushed : ((RingBuffer.new capacity).replay calls).2.metrics.pushed = (handed calls).length
  dropped : ((RingBuffer.new capacity).replay calls).2.metrics.dropped =
    ((RingBuffer.new capacity).evicted calls).length
  returned : ((RingBuffer.new capacity).replay calls).2.metrics.dropped =
    (RingBuffer.new capacity).returnedTotal calls
  drained : ((RingBuffer.new capacity).replay calls).2.metrics.drained =
    ((RingBuffer.new capacity).drained calls).length
  balanced : ((RingBuffer.new capacity).replay calls).2.metrics.pushed =
    ((RingBuffer.new capacity).replay calls).2.metrics.dropped +
      ((RingBuffer.new capacity).replay calls).2.metrics.drained +
      ((RingBuffer.new capacity).replay calls).2.len

/-- The messages handed over are those evicted, drained and held. -/
theorem RingBuffer.handed_length (capacity : Nat) (calls : List (BufferCall α)) :
    (handed calls).length = ((RingBuffer.new capacity).evicted calls).length +
      ((RingBuffer.new capacity).drained calls).length +
      ((RingBuffer.new capacity).replay calls).2.len := by
  have perm := ((RingBuffer.new capacity).ledger calls).departedFor_perm (· == .drained)
  rw [not_drained_eq_evicted, RingBuffer.ledger_arrived] at perm
  have lengths := perm.length_eq
  simp only [RingBuffer.new, List.nil_append, List.length_append] at lengths
  simp only [RingBuffer.evicted, RingBuffer.drained, RingBuffer.len, RingBuffer.ledger,
    RingBuffer.new] at lengths ⊢
  omega

/-- The counters are exact precisely for the histories whose pushes all find
the buffer empty: any other push counts the messages it finds once more. -/
theorem counters_exact_iff (capacity : Nat) (positive : 0 < capacity)
    (calls : List (BufferCall α)) :
    CountersExact capacity calls ↔ (RingBuffer.new capacity).PushesFindEmpty calls := by
  have pushed := (RingBuffer.new capacity).pushed_replay positive calls
  have dropped := (RingBuffer.new capacity).dropped_replay calls
  have returned := (RingBuffer.new capacity).returnedTotal_eq_evicted positive calls
  have drained := (RingBuffer.new capacity).drained_replay calls
  have arrivals := RingBuffer.handed_length capacity calls
  rw [← RingBuffer.heldBeforePushes_eq_zero]
  have fresh : (RingBuffer.new capacity : RingBuffer α).metrics = ⟨0, 0, 0⟩ := rfl
  simp only [fresh, Nat.zero_add] at pushed dropped drained
  constructor
  · intro exact
    have total := exact.pushed
    omega
  · intro none
    refine ⟨?_, ?_, ?_, ?_, ?_⟩ <;> omega

/-- On a history whose one push finds the buffer empty the counters are exact. -/
theorem counters_exact_iff_single :
    CountersExact 2 [.push ["first", "second", "third"], .drain 2] ↔
      (RingBuffer.new 2).PushesFindEmpty [.push ["first", "second", "third"], .drain 2] :=
  counters_exact_iff 2 (by decide) _

/-- Two pushes of one message each leave `total_pushed` at three. -/
theorem counters_inexact_two_pushes :
    ¬ CountersExact 10 [.push ["first"], .push ["second"]] := by
  intro exact
  exact absurd exact.pushed (by decide)

end Polku.Buffer
