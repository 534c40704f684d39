import Polku.Data.Fifo

/-!
# The message ring buffer

`RingBuffer::push` and `RingBuffer::drain` each hold the buffer's lock for
their whole body, so each is one step. The element type is a parameter: the
code stores `Message`, and the histories below also store numbered messages.

`Eviction` and `PushLoop.evictions` keep what the code's `pop_front` returns
and throws away. The metrics are `u64` counters, taken as not wrapping.
-/

namespace Polku.Buffer

universe u v

/-- The counters behind `total_pushed`, `total_dropped` and `total_drained`. -/
structure BufferMetrics where
  pushed : Nat
  dropped : Nat
  drained : Nat
deriving DecidableEq, Repr

/-- Fresh counters. -/
def BufferMetrics.default : BufferMetrics := ⟨0, 0, 0⟩

/-- A ring buffer with its oldest message first. -/
structure RingBuffer (α : Type u) where
  messages : List α
  capacity : Nat
  metrics : BufferMetrics
deriving DecidableEq

/-- One message popped by `push`, the message whose arrival popped it and the
length of the buffer at that moment. -/
structure Eviction (α : Type u) where
  message : α
  newer : α
  held : Nat
deriving DecidableEq

/-- The local state of the loop in `push`. -/
structure PushLoop (α : Type u) where
  buffer : List α
  dropped : Nat
  evictions : List (Eviction α)

variable {α : Type u} {β : Type v}

/-- One iteration of the loop in `push`. `dropped` counts the iterations which
found the buffer full, whether or not `pop_front` had something to return. -/
def PushLoop.iterate (capacity : Nat) (loop : PushLoop α) (msg : α) : PushLoop α :=
  if capacity ≤ loop.buffer.length then
    { buffer := loop.buffer.tail ++ [msg]
      dropped := loop.dropped + 1
      evictions := loop.evictions ++
        (loop.buffer.head?.map fun oldest => ⟨oldest, msg, loop.buffer.length⟩).toList }
  else
    { loop with buffer := loop.buffer ++ [msg] }

namespace RingBuffer

/-- An empty buffer of the given capacity. -/
def new (capacity : Nat) : RingBuffer α := ⟨[], capacity, .default⟩

/-- The loop of `push` over a whole batch. -/
def pushLoop (self : RingBuffer α) (messages : List α) : PushLoop α :=
  messages.foldl (PushLoop.iterate self.capacity) ⟨self.messages, 0, []⟩

/-- Push a batch, dropping the oldest messages when full. Returns the number of
iterations which dropped. -/
def push (self : RingBuffer α) (messages : List α) : Nat × RingBuffer α :=
  let loop := self.pushLoop messages
  (loop.dropped,
    { self with
      messages := loop.buffer
      metrics := { self.metrics with
        pushed := self.metrics.pushed + (loop.buffer.length + loop.dropped)
        dropped := self.metrics.dropped + loop.dropped } })

/-- The messages a push evicts, each with the moment of its eviction. -/
def evictions (self : RingBuffer α) (messages : List α) : List (Eviction α) :=
  (self.pushLoop messages).evictions

/-- Remove and return up to `n` of the oldest messages. -/
def drain (self : RingBuffer α) (n : Nat) : List α × RingBuffer α :=
  let drainCount := min n self.messages.length
  let messages := self.messages.take drainCount
  (messages,
    { self with
      messages := self.messages.drop drainCount
      metrics := { self.metrics with drained := self.metrics.drained + messages.length } })

/-- The number of messages held. -/
def len (self : RingBuffer α) : Nat := self.messages.length

/-- Whether no message is held. -/
def isEmpty (self : RingBuffer α) : Bool := self.messages.isEmpty

/-- Relabel the messages of a buffer. -/
def map (f : α → β) (self : RingBuffer α) : RingBuffer β :=
  ⟨self.messages.map f, self.capacity, self.metrics⟩

@[simp] theorem push_fst (self : RingBuffer α) (messages : List α) :
    (self.push messages).1 = (self.pushLoop messages).dropped := rfl

@[simp] theorem push_messages (self : RingBuffer α) (messages : List α) :
    (self.push messages).2.messages = (self.pushLoop messages).buffer := rfl

@[simp] theorem push_capacity (self : RingBuffer α) (messages : List α) :
    (self.push messages).2.capacity = self.capacity := rfl

@[simp] theorem drain_fst (self : RingBuffer α) (n : Nat) :
    (self.drain n).1 = self.messages.take (min n self.messages.length) := rfl

@[simp] theorem drain_messages (self : RingBuffer α) (n : Nat) :
    (self.drain n).2.messages = self.messages.drop (min n self.messages.length) := rfl

@[simp] theorem drain_capacity (self : RingBuffer α) (n : Nat) :
    (self.drain n).2.capacity = self.capacity := rfl

/-- A message pushed while there is room is only appended. -/
theorem pushLoop_of_room {self : RingBuffer α} (message : α)
    (room : self.messages.length < self.capacity) :
    self.pushLoop [message] = ⟨self.messages ++ [message], 0, []⟩ := by
  simp [pushLoop, PushLoop.iterate, room]

/-- A message pushed while there is no room takes the place of the oldest. -/
theorem pushLoop_of_full {self : RingBuffer α} (message : α)
    (full : self.capacity ≤ self.messages.length) :
    self.pushLoop [message] = ⟨self.messages.tail ++ [message], 1,
      (self.messages.head?.map fun oldest => ⟨oldest, message, self.messages.length⟩).toList⟩ := by
  simp [pushLoop, PushLoop.iterate, full]

end RingBuffer

/-! ## What the push loop preserves -/

namespace PushLoop

/-- Evicted messages followed by the held ones. -/
def line (loop : PushLoop α) : List α := loop.evictions.map Eviction.message ++ loop.buffer

/-- An iteration only adds its message at the end of the line. -/
theorem line_iterate (capacity : Nat) (loop : PushLoop α) (msg : α) :
    (loop.iterate capacity msg).line = loop.line ++ [msg] := by
  unfold iterate line
  split
  · cases loop.buffer <;> simp
  · simp

/-- With room for the whole batch the loop only appends it. -/
theorem foldl_of_room {capacity : Nat} {messages : List α} {loop : PushLoop α}
    (room : loop.buffer.length + messages.length ≤ capacity) :
    messages.foldl (iterate capacity) loop = { loop with buffer := loop.buffer ++ messages } := by
  induction messages generalizing loop with
  | nil => simp
  | cons msg rest inductionHypothesis =>
      simp only [List.length_cons] at room
      have free : ¬ capacity ≤ loop.buffer.length := by omega
      have step : loop.iterate capacity msg = { loop with buffer := loop.buffer ++ [msg] } := by
        simp [iterate, free]
      rw [List.foldl_cons, step, inductionHypothesis]
      · simp
      · simp only [List.length_append, List.length_singleton]
        omega

/-- The whole loop adds its batch at the end of the line. -/
theorem line_foldl (capacity : Nat) (messages : List α) (loop : PushLoop α) :
    (messages.foldl (iterate capacity) loop).line = loop.line ++ messages := by
  induction messages generalizing loop with
  | nil => simp
  | cons msg rest inductionHypothesis =>
      rw [List.foldl_cons, inductionHypothesis, line_iterate, List.append_assoc,
        List.singleton_append]

/-- Every recorded eviction happened in a full buffer, and the evicted message
stood before the one which pushed it out. -/
def EvictsWhenFull (capacity : Nat) (loop : PushLoop α) : Prop :=
  ∀ eviction ∈ loop.evictions, capacity ≤ eviction.held ∧
    [eviction.message, eviction.newer].Sublist loop.line

/-- An iteration evicts only from a full buffer. -/
theorem evictsWhenFull_iterate {capacity : Nat} {loop : PushLoop α}
    (holds : loop.EvictsWhenFull capacity) (msg : α) :
    (loop.iterate capacity msg).EvictsWhenFull capacity := by
  intro eviction member
  rw [line_iterate]
  have earlier : eviction ∈ loop.evictions → capacity ≤ eviction.held ∧
      [eviction.message, eviction.newer].Sublist (loop.line ++ [msg]) := fun old =>
    ⟨(holds eviction old).1, (holds eviction old).2.trans (List.sublist_append_left _ _)⟩
  unfold iterate at member
  split at member
  case isFalse => exact earlier member
  case isTrue full =>
    rcases List.mem_append.mp member with old | new
    · exact earlier old
    · -- The new eviction pops the head of the buffer it found full.
      cases front : loop.buffer with
      | nil => simp [front] at new
      | cons oldest rest =>
          simp only [front, List.head?_cons, Option.map_some, Option.toList_some,
            List.mem_singleton] at new
          subst new
          refine ⟨by simpa [front] using full, ?_⟩
          have inLine : [oldest].Sublist loop.line :=
            List.singleton_sublist.mpr (by simp [line, front])
          exact inLine.append (List.Sublist.refl [msg])

/-- The whole loop evicts only from full buffers. -/
theorem evictsWhenFull_foldl {capacity : Nat} (messages : List α) {loop : PushLoop α}
    (holds : loop.EvictsWhenFull capacity) :
    (messages.foldl (iterate capacity) loop).EvictsWhenFull capacity := by
  induction messages generalizing loop with
  | nil => exact holds
  | cons msg rest inductionHypothesis =>
      exact inductionHypothesis (evictsWhenFull_iterate holds msg)

/-- With room for at least one message, every iteration which counted a drop
also evicted a message. -/
theorem dropped_iterate {capacity : Nat} (positive : 0 < capacity) {loop : PushLoop α}
    (holds : loop.dropped = loop.evictions.length) (msg : α) :
    (loop.iterate capacity msg).dropped = (loop.iterate capacity msg).evictions.length := by
  unfold iterate
  split
  case isTrue full =>
    cases front : loop.buffer with
    | nil => simp [front] at full; omega
    | cons oldest rest => simp [holds]
  case isFalse => exact holds

/-- With room for at least one message, the loop returns its eviction count. -/
theorem dropped_foldl {capacity : Nat} (positive : 0 < capacity) (messages : List α)
    {loop : PushLoop α} (holds : loop.dropped = loop.evictions.length) :
    (messages.foldl (iterate capacity) loop).dropped =
      (messages.foldl (iterate capacity) loop).evictions.length := by
  induction messages generalizing loop with
  | nil => exact holds
  | cons msg rest inductionHypothesis =>
      exact inductionHypothesis (dropped_iterate positive holds msg)

/-- A loop which starts with earlier drops and evictions behind it adds its own
to them and treats the buffer alike. -/
theorem foldl_resume (capacity : Nat) (messages : List α) (buffer : List α) (dropped : Nat)
    (evictions : List (Eviction α)) :
    messages.foldl (iterate capacity) ⟨buffer, dropped, evictions⟩ =
      let fresh := messages.foldl (iterate capacity) ⟨buffer, 0, []⟩
      ⟨fresh.buffer, dropped + fresh.dropped, evictions ++ fresh.evictions⟩ := by
  induction messages generalizing buffer dropped evictions with
  | nil => simp
  | cons msg rest inductionHypothesis =>
      simp only [List.foldl_cons, iterate]
      split
      · rw [inductionHypothesis, inductionHypothesis _ (0 + 1)]
        simp [Nat.add_assoc]
      · exact inductionHypothesis _ _ _

/-- Relabel everything a loop mentions. -/
def map (f : α → β) (loop : PushLoop α) : PushLoop β :=
  ⟨loop.buffer.map f, loop.dropped,
    loop.evictions.map fun eviction => ⟨f eviction.message, f eviction.newer, eviction.held⟩⟩

/-- The loop never looks inside a message. -/
theorem foldl_map (f : α → β) (capacity : Nat) (messages : List α) (loop : PushLoop α) :
    (messages.map f).foldl (iterate capacity) (loop.map f) =
      (messages.foldl (iterate capacity) loop).map f := by
  induction messages generalizing loop with
  | nil => rfl
  | cons msg rest inductionHypothesis =>
      have once : (loop.map f).iterate capacity (f msg) = (loop.iterate capacity msg).map f := by
        unfold iterate map
        simp only [List.length_map]
        split
        · cases loop.buffer <;> simp
        · simp
      rw [List.map_cons, List.foldl_cons, List.foldl_cons, once, inductionHypothesis]

end PushLoop

namespace RingBuffer

/-- Evicted messages followed by the held ones are the old contents followed by
the batch: a push only removes from the front and only adds at the back. -/
theorem push_line (self : RingBuffer α) (messages : List α) :
    (self.evictions messages).map Eviction.message ++ (self.push messages).2.messages =
      self.messages ++ messages := by
  simpa [PushLoop.line, evictions, pushLoop] using
    PushLoop.line_foldl self.capacity messages ⟨self.messages, 0, []⟩

/-- A push evicts only while the buffer is full, and only messages older than
the one which takes their place. -/
theorem push_evictsWhenFull (self : RingBuffer α) (messages : List α)
    {eviction : Eviction α} (member : eviction ∈ self.evictions messages) :
    self.capacity ≤ eviction.held ∧
      [eviction.message, eviction.newer].Sublist (self.messages ++ messages) := by
  have start : PushLoop.EvictsWhenFull self.capacity ⟨self.messages, 0, []⟩ := by
    intro eviction member
    cases member
  have holds := PushLoop.evictsWhenFull_foldl messages start eviction member
  rwa [PushLoop.line_foldl, PushLoop.line, List.map_nil, List.nil_append] at holds

/-- With room for at least one message, `push` returns how many it evicted. -/
theorem push_fst_eq_evictions (self : RingBuffer α) (positive : 0 < self.capacity)
    (messages : List α) : (self.push messages).1 = (self.evictions messages).length :=
  PushLoop.dropped_foldl positive messages rfl

/-- Pushing two batches at once leaves the same contents, and returns the same
total, as pushing them one after the other. -/
theorem push_append (self : RingBuffer α) (first second : List α) :
    (self.push (first ++ second)).2.messages =
        ((self.push first).2.push second).2.messages ∧
      (self.push (first ++ second)).1 =
        (self.push first).1 + ((self.push first).2.push second).1 := by
  have whole : self.pushLoop (first ++ second) =
      second.foldl (PushLoop.iterate self.capacity) (self.pushLoop first) := by
    simp [pushLoop]
  have resumed := PushLoop.foldl_resume self.capacity second (self.pushLoop first).buffer
    (self.pushLoop first).dropped (self.pushLoop first).evictions
  simp only [push_messages, push_fst, whole]
  rw [resumed]
  exact ⟨rfl, rfl⟩

/-- Drained messages followed by the remaining ones are the old contents. -/
theorem drain_line (self : RingBuffer α) (n : Nat) :
    (self.drain n).1 ++ (self.drain n).2.messages = self.messages := by
  simp

/-- A drain returns as many messages as asked for, or all of them. -/
theorem drain_length (self : RingBuffer α) (n : Nat) :
    (self.drain n).1.length = min n self.messages.length := by
  simp

/-- A drain leaves what was not asked for. -/
theorem len_drain (self : RingBuffer α) (n : Nat) : (self.drain n).2.len = self.len - n := by
  rw [len, drain_messages, List.length_drop, len]
  omega

end RingBuffer

end Polku.Buffer
