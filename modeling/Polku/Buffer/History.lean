import Polku.Buffer.Ring
import Polku.Data.Calls
import Mathlib.Data.List.Range

/-!
# Histories of a ring buffer

A history is a list of `push` and `drain` calls. `RingBuffer.replay` makes the
calls in order and keeps what each of them did. The abstract account of a
history is a `Ledger`: every message handed to `push` is still held, or was
drained, or was evicted, and messages leave in the order they came.

`number` attaches to each message its position in the order of handing over, so
that equal messages are told apart. Numbers do not change what the buffer does.
-/

namespace Polku.Buffer

universe u v

open Polku.Data

variable {α : Type u} {β : Type v}

/-- One call on a ring buffer. -/
inductive BufferCall (α : Type u) where
  | push (messages : List α)
  | drain (n : Nat)
deriving DecidableEq

/-- What one call did. -/
inductive Outcome (α : Type u) where
  | pushed (evictions : List (Eviction α)) (dropped : Nat)
  | drained (messages : List α)
deriving DecidableEq

/-- Why a message left the buffer. -/
inductive Departure where
  | evicted
  | drained
deriving DecidableEq

/-- The messages a call hands to the buffer. -/
def BufferCall.handed : BufferCall α → List α
  | .push messages => messages
  | .drain _ => []

/-- Relabel the messages of a call. -/
def BufferCall.map (f : α → β) : BufferCall α → BufferCall β
  | .push messages => .push (messages.map f)
  | .drain n => .drain n

/-- The messages which left during a call, oldest first, with the reason. -/
def Outcome.departed : Outcome α → List (Departure × α)
  | .pushed evictions _ => evictions.map fun eviction => (.evicted, eviction.message)
  | .drained messages => messages.map fun message => (.drained, message)

/-- Relabel the messages of an outcome. -/
def Outcome.map (f : α → β) : Outcome α → Outcome β
  | .pushed evictions dropped =>
      .pushed (evictions.map fun eviction =>
        ⟨f eviction.message, f eviction.newer, eviction.held⟩) dropped
  | .drained messages => .drained (messages.map f)

/-- The value a `push` returned. -/
def Outcome.returned : Outcome α → Nat
  | .pushed _ dropped => dropped
  | .drained _ => 0

/-- The messages handed to a buffer by a history, in order. -/
def handed (calls : List (BufferCall α)) : List α := calls.flatMap BufferCall.handed

namespace RingBuffer

/-- Make one call. -/
def call (self : RingBuffer α) : BufferCall α → Outcome α × RingBuffer α
  | .push messages =>
      let (dropped, after) := self.push messages
      (.pushed (self.evictions messages) dropped, after)
  | .drain n =>
      let (messages, after) := self.drain n
      (.drained messages, after)

/-- Make the calls of a history in order, keeping what each did. -/
def replay (self : RingBuffer α) : List (BufferCall α) → List (Outcome α) × RingBuffer α
  | [] => ([], self)
  | first :: rest =>
      let (outcome, middle) := self.call first
      let (outcomes, after) := middle.replay rest
      (outcome :: outcomes, after)

/-- The account of a history: who left and why, and who is held at its end. -/
def ledger (self : RingBuffer α) (calls : List (BufferCall α)) : Ledger Departure α :=
  ⟨(self.replay calls).1.flatMap Outcome.departed, (self.replay calls).2.messages⟩

@[simp] theorem replay_nil (self : RingBuffer α) : self.replay [] = ([], self) := rfl

@[simp] theorem replay_cons (self : RingBuffer α) (first : BufferCall α)
    (rest : List (BufferCall α)) :
    self.replay (first :: rest) =
      ((self.call first).1 :: ((self.call first).2.replay rest).1,
        ((self.call first).2.replay rest).2) := rfl

/-- A history is made of calls one after another. -/
theorem replay_eq (self : RingBuffer α) (calls : List (BufferCall α)) :
    self.replay calls = callAll call self calls := by
  induction calls generalizing self with
  | nil => rfl
  | cons call rest inductionHypothesis => simp [inductionHypothesis]

/-- A history may be replayed in two parts. -/
theorem replay_append (self : RingBuffer α) (first second : List (BufferCall α)) :
    self.replay (first ++ second) =
      ((self.replay first).1 ++ ((self.replay first).2.replay second).1,
        ((self.replay first).2.replay second).2) := by
  simp only [replay_eq, callAll_append]

@[simp] theorem call_capacity (self : RingBuffer α) (call : BufferCall α) :
    (self.call call).2.capacity = self.capacity := by
  cases call <;> rfl

@[simp] theorem replay_capacity (self : RingBuffer α) (calls : List (BufferCall α)) :
    (self.replay calls).2.capacity = self.capacity := by
  rw [replay_eq]
  exact callAll_keeps call (·.capacity = self.capacity)
    (fun middle call same => (middle.call_capacity call).trans same) rfl calls

/-- One call only removes messages from the front and adds those handed to it
at the back. -/
theorem call_line (self : RingBuffer α) (call : BufferCall α) :
    (self.call call).1.departed.map Prod.snd ++ (self.call call).2.messages =
      self.messages ++ call.handed := by
  cases call with
  | push messages =>
      have line := self.push_line messages
      simpa [RingBuffer.call, Outcome.departed, BufferCall.handed, Function.comp_def] using line
  | drain n =>
      simp [RingBuffer.call, Outcome.departed, BufferCall.handed, Function.comp_def]

/-- Over a whole history, the messages which left, in order of leaving, and the
held ones are the first contents followed by all messages handed over. -/
theorem ledger_arrived (self : RingBuffer α) (calls : List (BufferCall α)) :
    (self.ledger calls).arrived = self.messages ++ handed calls := by
  induction calls generalizing self with
  | nil => simp [ledger, Ledger.arrived, handed]
  | cons call rest inductionHypothesis =>
      have later := inductionHypothesis (self.call call).2
      have now := self.call_line call
      simp only [ledger, Ledger.arrived, handed, replay_cons, List.flatMap_cons,
        List.map_append, List.append_assoc] at later ⊢
      rw [later, ← List.append_assoc, now, List.append_assoc]

/-- A further call adds what left during it to the account. -/
theorem ledger_snoc (self : RingBuffer α) (calls : List (BufferCall α)) (call : BufferCall α) :
    self.ledger (calls ++ [call]) =
      ⟨(self.ledger calls).departed ++ ((self.replay calls).2.call call).1.departed,
        ((self.replay calls).2.call call).2.messages⟩ := by
  simp [ledger, replay_append]

/-- A buffer of relabelled messages makes the same calls with relabelled
outcomes. -/
theorem call_map (f : α → β) (self : RingBuffer α) (call : BufferCall α) :
    (self.map f).call (call.map f) =
      ((self.call call).1.map f, (self.call call).2.map f) := by
  cases call with
  | push messages =>
      have loops : (self.map f).pushLoop (messages.map f) = (self.pushLoop messages).map f :=
        PushLoop.foldl_map f self.capacity messages ⟨self.messages, 0, []⟩
      simp only [RingBuffer.call, BufferCall.map, push, evictions, loops]
      simp [Outcome.map, PushLoop.map, map]
  | drain n =>
      simp [RingBuffer.call, BufferCall.map, Outcome.map, drain, map]

/-- Buffers which hold the same, but for relabelling, drop equally often on a push, and hold the
same after it. -/
theorem push_congr {f : α → β} {self other : RingBuffer α} (same : self.map f = other.map f)
    {messages messages' : List α} (sameMessages : messages.map f = messages'.map f) :
    (self.push messages).1 = (other.push messages').1 ∧
      (self.push messages).2.map f = (other.push messages').2.map f := by
  have relabelled : ∀ (buffer : RingBuffer α) (messages : List α),
      (buffer.map f).push (messages.map f) =
        ((buffer.push messages).1, (buffer.push messages).2.map f) := by
    intro buffer messages
    have loops : (buffer.map f).pushLoop (messages.map f) = (buffer.pushLoop messages).map f :=
      PushLoop.foldl_map f buffer.capacity messages ⟨buffer.messages, 0, []⟩
    simp only [push, loops]
    simp [PushLoop.map, map]
  have pushed := relabelled self messages
  rw [same, sameMessages, relabelled other messages'] at pushed
  exact ⟨(Prod.mk.inj pushed).1.symm, (Prod.mk.inj pushed).2.symm⟩

/-- Buffers which hold the same, but for relabelling, drain the same, and hold the same
after it. -/
theorem drain_congr {f : α → β} {self other : RingBuffer α} (same : self.map f = other.map f)
    (n : Nat) : (self.drain n).1.map f = (other.drain n).1.map f ∧
      (self.drain n).2.map f = (other.drain n).2.map f := by
  have relabelled : ∀ buffer : RingBuffer α, (buffer.map f).drain n =
      ((buffer.drain n).1.map f, (buffer.drain n).2.map f) := by
    intro buffer
    simp [drain, map]
  have drained := relabelled self
  rw [same, relabelled other] at drained
  exact ⟨(Prod.mk.inj drained).1.symm, (Prod.mk.inj drained).2.symm⟩

/-- Relabelling commutes with a whole history. -/
theorem replay_map (f : α → β) (self : RingBuffer α) (calls : List (BufferCall α)) :
    (self.map f).replay (calls.map (BufferCall.map f)) =
      ((self.replay calls).1.map (Outcome.map f), (self.replay calls).2.map f) := by
  simp only [replay_eq]
  exact callAll_map call call (map f) (BufferCall.map f) (Outcome.map f) (call_map f) self calls

end RingBuffer

/-! ## Numbered histories -/

/-- Attach to every message its place in the order of handing over, counting
from `next`. -/
def number (next : Nat) : List (BufferCall α) → List (BufferCall (α × Nat))
  | [] => []
  | .push messages :: rest =>
      .push (messages.zipIdx next) :: number (next + messages.length) rest
  | .drain n :: rest => .drain n :: number next rest

/-- Forgetting the numbers gives back the history. -/
theorem number_erase (next : Nat) (calls : List (BufferCall α)) :
    (number next calls).map (BufferCall.map Prod.fst) = calls := by
  induction calls generalizing next with
  | nil => rfl
  | cons call rest inductionHypothesis =>
      cases call <;> simp [number, BufferCall.map, inductionHypothesis]

/-- A numbered history hands over the same messages with consecutive numbers. -/
theorem handed_number (next : Nat) (calls : List (BufferCall α)) :
    handed (number next calls) = (handed calls).zipIdx next := by
  induction calls generalizing next with
  | nil => rfl
  | cons call rest inductionHypothesis =>
      cases call with
      | push messages =>
          change messages.zipIdx next ++ handed (number (next + messages.length) rest) =
            (messages ++ handed rest).zipIdx next
          rw [inductionHypothesis, List.zipIdx_append]
      | drain n => simpa [handed, number, BufferCall.handed] using inductionHypothesis next

/-- The numbered replay of a history from an empty buffer. -/
def numbered (capacity : Nat) (calls : List (BufferCall α)) :
    List (Outcome (α × Nat)) × RingBuffer (α × Nat) :=
  (RingBuffer.new capacity).replay (number 0 calls)

/-- The account of a numbered history. -/
def numberedLedger (capacity : Nat) (calls : List (BufferCall α)) :
    Ledger Departure (α × Nat) :=
  (RingBuffer.new capacity).ledger (number 0 calls)

/-- The messages evicted during a history, with their numbers. -/
def evictedMessages (capacity : Nat) (calls : List (BufferCall α)) : List (α × Nat) :=
  (numberedLedger capacity calls).departedFor (· == .evicted)

/-- The messages drained during a history, with their numbers. -/
def drainedMessages (capacity : Nat) (calls : List (BufferCall α)) : List (α × Nat) :=
  (numberedLedger capacity calls).departedFor (· == .drained)

/-- Numbers do not change what the buffer does. -/
theorem numbered_erase (capacity : Nat) (calls : List (BufferCall α)) :
    (RingBuffer.new capacity).replay calls =
      ((numbered capacity calls).1.map (Outcome.map Prod.fst),
        (numbered capacity calls).2.map Prod.fst) := by
  have erased := RingBuffer.replay_map (Prod.fst : α × Nat → α) (RingBuffer.new capacity)
    (number 0 calls)
  rw [number_erase] at erased
  exact erased

/-- The departures of a history are those of its numbered history, without the
numbers. -/
theorem departedFor_erase (capacity : Nat) (calls : List (BufferCall α))
    (selects : Departure → Bool) :
    ((RingBuffer.new capacity).ledger calls).departedFor selects =
      ((numberedLedger capacity calls).departedFor selects).map Prod.fst := by
  have erased := congrArg Prod.fst (numbered_erase capacity calls)
  have departed : ∀ outcome : Outcome (α × Nat),
      (outcome.map Prod.fst).departed = outcome.departed.map (Prod.map id Prod.fst) := by
    intro outcome
    cases outcome <;> simp [Outcome.map, Outcome.departed]
  simp only [RingBuffer.ledger, numberedLedger, Ledger.departedFor] at erased ⊢
  rw [erased, List.flatMap_map]
  simp only [departed, ← List.map_flatMap, List.filter_map, List.map_map]
  rfl

/-- The arrivals of a numbered history are its messages with their numbers. -/
theorem numberedLedger_arrived (capacity : Nat) (calls : List (BufferCall α)) :
    (numberedLedger capacity calls).arrived = (handed calls).zipIdx := by
  rw [numberedLedger, RingBuffer.ledger_arrived, handed_number]
  rfl

/-- Arrival numbers are those below the number of messages handed over. -/
theorem numberedLedger_numbers (capacity : Nat) (calls : List (BufferCall α)) :
    (numberedLedger capacity calls).arrived.map Prod.snd = List.range (handed calls).length := by
  rw [numberedLedger_arrived, List.zipIdx_map_snd, List.range_eq_range']

/-- Arrivals are told apart by their numbers. -/
theorem numberedLedger_nodup (capacity : Nat) (calls : List (BufferCall α)) :
    (numberedLedger capacity calls).arrived.Nodup := by
  apply List.Nodup.of_map Prod.snd
  rw [numberedLedger_numbers]
  exact List.nodup_range

/-! ## What every history satisfies -/

/-- Along a history every eviction happens in a full buffer, to a message older
than the one which takes its place. -/
theorem RingBuffer.replay_evictsWhenFull (self : RingBuffer α) (calls : List (BufferCall α))
    {evictions : List (Eviction α)} {dropped : Nat} {eviction : Eviction α}
    (happened : .pushed evictions dropped ∈ (self.replay calls).1)
    (member : eviction ∈ evictions) :
    self.capacity ≤ eviction.held ∧
      [eviction.message, eviction.newer].Sublist (self.messages ++ handed calls) := by
  induction calls generalizing self with
  | nil => cases happened
  | cons call rest inductionHypothesis =>
      have line := self.call_line call
      have whole : self.messages ++ handed (call :: rest) =
          (self.call call).1.departed.map Prod.snd ++
            ((self.call call).2.messages ++ handed rest) := by
        rw [← List.append_assoc, line, List.append_assoc]
        rfl
      rw [whole]
      rw [replay_cons] at happened
      rcases List.mem_cons.mp happened with now | later
      · cases call with
        | drain n => cases now
        | push messages =>
            cases now
            have full := self.push_evictsWhenFull messages member
            refine ⟨full.1, full.2.trans ?_⟩
            rw [← List.append_assoc, line]
            exact List.sublist_append_left _ _
      · have full := inductionHypothesis _ later
        rw [call_capacity] at full
        exact ⟨full.1, full.2.trans (List.sublist_append_right _ _)⟩

/-- What a history of `push` and `drain` calls on a new buffer keeps true of
the numbers of its messages. -/
structure KeepsOrder (capacity : Nat) (calls : List (BufferCall α)) : Prop where
  /-- Numbering hands over the same messages, and the buffer treats them alike. -/
  faithful : handed (number 0 calls) = (handed calls).zipIdx ∧
    (RingBuffer.new capacity).replay calls =
      ((numbered capacity calls).1.map (Outcome.map Prod.fst),
        (numbered capacity calls).2.map Prod.fst)
  /-- The buffer holds a contiguous run of numbers ending at the last pushed. -/
  contiguous : ∃ oldest ≤ (handed calls).length,
    (numbered capacity calls).2.messages.map Prod.snd =
      List.range' oldest ((handed calls).length - oldest)
  /-- Each message is held, or was drained once, or was evicted once. -/
  leavesOnce : ((numbered capacity calls).2.messages ++ drainedMessages capacity calls ++
    evictedMessages capacity calls).Perm ((handed calls).zipIdx)
  /-- Over all drains the returned numbers increase. -/
  drainedIncreasing : ((drainedMessages capacity calls).map Prod.snd).Pairwise (· < ·)
  /-- A message is evicted only by a newer one which finds the buffer full. -/
  evictedWhenFull : ∀ evictions dropped,
    .pushed evictions dropped ∈ (numbered capacity calls).1 → ∀ eviction ∈ evictions,
      capacity ≤ eviction.held ∧ eviction.message.2 < eviction.newer.2

/-- Messages which left for either reason keep their numbers increasing. -/
theorem departedFor_increasing (capacity : Nat) (calls : List (BufferCall α))
    (selects : Departure → Bool) :
    (((numberedLedger capacity calls).departedFor selects).map Prod.snd).Pairwise (· < ·) := by
  have inOrder := ((numberedLedger capacity calls).departedFor_sublist selects).map Prod.snd
  rw [numberedLedger_numbers] at inOrder
  exact List.pairwise_lt_range.sublist inOrder

/-- A departure is an eviction exactly when it is not a drain. -/
theorem not_drained_eq_evicted :
    (fun reason : Departure => !(reason == .drained)) = (· == .evicted) := by
  funext reason
  cases reason <;> rfl

/-- What a history which leaves the buffer empty has drained: every message handed
over, in order, but for the evicted ones. -/
theorem drained_of_empty [DecidableEq α] (capacity : Nat) (calls : List (BufferCall α))
    (empty : ((RingBuffer.new capacity).replay calls).2.messages = []) :
    ((RingBuffer.new capacity).ledger calls).departedFor (· == .drained) =
      ((handed calls).zipIdx.filter (· ∉ evictedMessages capacity calls)).map Prod.fst := by
  have held : (numberedLedger capacity calls).held = [] := by
    rw [numbered_erase] at empty
    exact List.map_eq_nil_iff.mp empty
  have drained := (numberedLedger capacity calls).departedFor_eq_filter (· == .drained)
    (numberedLedger_nodup capacity calls) held
  rw [departedFor_erase, drained, numberedLedger_arrived, not_drained_eq_evicted]
  refine congrArg (List.map Prod.fst) (List.filter_congr fun item _ => ?_)
  exact decide_eq_decide.mpr Iff.rfl

/-- Every history of a new buffer keeps the order of its messages. -/
theorem keepsOrder (capacity : Nat) (calls : List (BufferCall α)) :
    KeepsOrder capacity calls where
  faithful := ⟨handed_number 0 calls, numbered_erase capacity calls⟩
  contiguous := by
    have held := (numberedLedger capacity calls).held_eq_drop
    have numbers := congrArg (List.map Prod.snd) held
    rw [List.map_drop, numberedLedger_numbers] at numbers
    set left := (numberedLedger capacity calls).departed.length with leftEq
    have bounded : left ≤ (handed calls).length := by
      have lengths := congrArg List.length (numberedLedger_arrived capacity calls)
      simp only [Ledger.arrived, List.length_append, List.length_map, List.length_zipIdx]
        at lengths
      omega
    refine ⟨left, bounded, numbers.trans ?_⟩
    rw [List.range_eq_range', List.drop_range', Nat.zero_add, Nat.mul_one]
  leavesOnce := by
    have perm := (numberedLedger capacity calls).departedFor_perm (· == .drained)
    rw [not_drained_eq_evicted, numberedLedger_arrived] at perm
    rw [List.append_assoc]
    exact List.perm_append_comm.trans perm
  drainedIncreasing := departedFor_increasing capacity calls _
  evictedWhenFull := by
    intro evictions dropped happened eviction member
    have full := (RingBuffer.new capacity).replay_evictsWhenFull (number 0 calls) happened member
    rw [handed_number] at full
    refine ⟨full.1, ?_⟩
    have inOrder := full.2.map Prod.snd
    simp only [RingBuffer.new, List.nil_append, List.zipIdx_map_snd, List.map_cons,
      List.map_nil] at inOrder
    have sorted := (List.pairwise_lt_range' (s := 0) (n := (handed calls).length)).sublist inOrder
    simpa using sorted

/-- The buffer is a first-in first-out queue with eviction at the front: every
history keeps the order of its messages, a drain returns the `min n len` oldest
held messages in order, and a batch may be pushed in two parts. -/
theorem ring_buffer_history :
    (∀ (capacity : Nat) (calls : List (BufferCall α)), KeepsOrder capacity calls) ∧
    (∀ (self : RingBuffer α) (n : Nat),
      (self.drain n).1.length = min n self.len ∧
      (self.drain n).1 ++ (self.drain n).2.messages = self.messages) ∧
    (∀ (self : RingBuffer α) (first second : List α),
      (self.push (first ++ second)).2.messages =
        ((self.push first).2.push second).2.messages ∧
      (self.push (first ++ second)).1 =
        (self.push first).1 + ((self.push first).2.push second).1) :=
  ⟨keepsOrder, fun self n => ⟨self.drain_length n, self.drain_line n⟩, RingBuffer.push_append⟩

end Polku.Buffer
