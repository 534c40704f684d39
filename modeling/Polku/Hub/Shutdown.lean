import Polku.Hub.Delivery
import Polku.Middleware.Stages

/-!
# What an aggregator holds at shutdown

Before it returns, `HubRunner::run` drains the ring buffer, but it never calls `flush`
on a stage. The messages an aggregator holds at that time are lost.
-/

namespace Polku.Hub

open Semantics Buffer HubHistory

/-- A hub whose chain is a single new aggregator. -/
def aggregating (hub : Hub) (aggregator : Aggregator) (json : SerdeJson)
    (stamps : Nat → Stamp) : Hub :=
  { hub with middleware := .add .new (aggregator.middleware json stamps 0) }

/-- The ring buffer evicted nothing. -/
def NeverOverflows (hub : Hub) (trace : List HubEvent) : Prop :=
  evictedMessages hub.bufferCapacity (bufferCalls hub trace) = []

/-- Every message sent is part of exactly one combined message, and these were offered
to the emitters they are routed to, each once. -/
def NoneHeldBack (hub : Hub) (aggregator : Aggregator) (json : SerdeJson)
    (trace : List HubEvent) : Prop :=
  ∃ parts combined, parts.flatten = sent trace ∧ combined = (batches trace).flatten ∧
    List.Forall₂ (aggregator.Combines json) parts combined ∧
    ∀ emitter name, hub.emitters[emitter]? = some name →
      List.Forall₂ Event.Carries (slices emitter trace).flatten
        (combined.filter (·.shouldRouteTo name))

/-- If nothing is evicted, all survivors are kept. -/
theorem kept_of_neverOverflows {hub : Hub} {trace : List HubEvent}
    (noOverflow : NeverOverflows hub trace) :
    kept hub trace = hub.middleware.survivors (sent trace) := by
  rw [kept, noOverflow]
  simp

/-- Batches of one size hold a multiple of it. -/
private theorem flatten_length {parts : List (List Message)} {size : Nat}
    (sizes : ∀ part ∈ parts, part.length = size) :
    parts.flatten.length = size * parts.length := by
  rw [List.length_flatten, List.map_congr_left sizes]
  simp [Nat.mul_comm]

/-- What is combined to the same messages is as long. -/
private theorem combined_length {aggregator : Aggregator} {json : SerdeJson}
    {left right : List (List Message)} {combined : List Message}
    (isLeft : List.Forall₂ (aggregator.Combines json) left combined)
    (isRight : List.Forall₂ (aggregator.Combines json) right combined) :
    left.flatten.length = right.flatten.length := by
  induction isLeft generalizing right with
  | nil =>
      cases isRight
      rfl
  | cons first rest inductionHypothesis =>
      cases isRight with
      | cons otherFirst otherRest =>
          rw [List.flatten_cons, List.flatten_cons, List.length_append, List.length_append,
            first.length_eq otherFirst, inductionHypothesis otherRest]

/-- When a hub with a single aggregator returns and its buffer never overflowed, every
message sent is part of exactly one combined message which was offered to the emitters
it is routed to, if and only if the number of messages is a multiple of the batch size. -/
theorem aggregated_iff (hub : Hub) (batchSize : Nat) (positive : 0 < batchSize)
    (strategy : AggregateStrategy) (json : SerdeJson) (stamps : Nat → Stamp)
    (execution : (HubState.system
      (hub.aggregating ⟨batchSize, strategy, [], positive⟩ json stamps)).Execution)
    (returned : execution.state.receiver = .returned)
    (noOverflow : NeverOverflows (hub.aggregating ⟨batchSize, strategy, [], positive⟩ json stamps)
      execution.trace) :
    NoneHeldBack (hub.aggregating ⟨batchSize, strategy, [], positive⟩ json stamps)
        ⟨batchSize, strategy, [], positive⟩ json execution.trace ↔
      batchSize ∣ (sent execution.trace).length := by
  have holds := Delivering.of_runs execution.runs
  have delivered := (hub_delivers _ execution returned).offered
  have drained := holds.batches_eq returned
  rw [← drained] at delivered
  rw [kept_of_neverOverflows noOverflow] at drained
  obtain ⟨parts, held, whole, sizes, few, combines⟩ :=
    Aggregator.survivors_spec ⟨batchSize, strategy, [], positive⟩ json stamps 0
      (sent execution.trace) positive
  have survived : List.Forall₂ (Aggregator.Combines ⟨batchSize, strategy, [], positive⟩ json)
      parts (batches execution.trace).flatten := drained ▸ combines
  rw [List.nil_append] at whole
  constructor
  · rintro ⟨others, combined, all, rfl, others_combine, -⟩
    rw [← all, combined_length others_combine survived, flatten_length sizes]
    exact Nat.dvd_mul_right batchSize parts.length
  · intro divides
    have total : (sent execution.trace).length = batchSize * parts.length + held.length := by
      rw [← whole, List.length_append, flatten_length sizes]
    rw [total, Nat.dvd_add_right (Nat.dvd_mul_right batchSize parts.length)] at divides
    obtain rfl : held = [] :=
      List.length_eq_zero_iff.mp (Nat.eq_zero_of_dvd_of_lt divides few)
    rw [List.append_nil] at whole
    exact ⟨parts, _, whole, rfl, survived, delivered⟩

/-- An aggregator of pairs which keeps the first payload. -/
def pairs : Aggregator := ⟨2, .first, [], by decide⟩

/-- A hub which combines messages in pairs. -/
def pairHub : Hub :=
  ({ Hub.new with emitters := ["stdout"] } : Hub).aggregating pairs Aggregator.noJson fun _ => ⟨"ab", 0⟩

/-- Two messages are sent, combined and offered as one. -/
def pairRun : (HubState.system pairHub).Execution :=
  (System.Execution.initial ⟨none, rfl⟩ : (HubState.system pairHub).Execution)
    |>.snoc (.sender (.send (broadcast "a") rfl (by decide)))
    |>.snoc (.sender (.send (broadcast "b") rfl (by decide)))
    |>.snoc (.sender (.close rfl))
    |>.snoc (.receiver (.receive rfl rfl))
    |>.snoc (.receiver (.filter rfl rfl))
    |>.snoc (.receiver (.receive rfl rfl))
    |>.snoc (.receiver (.pass rfl rfl))
    |>.snoc (.receiver (.push rfl rfl))
    |>.snoc (.receiver (.finish rfl rfl rfl))
    |>.snoc (.receiver (.signal rfl))
    |>.snoc (.flusher (.checkShutdown rfl))
    |>.snoc (.flusher (.checkEmpty rfl))
    |>.snoc (.flusher (.wake rfl))
    |>.snoc (.flusher (.drain rfl rfl))
    |>.snoc (.flusher (.measure rfl))
    |>.snoc (.flusher (.offer true rfl rfl rfl))
    |>.snoc (.flusher (.finish rfl (by decide)))
    |>.snoc (.flusher (.checkShutdown rfl))
    |>.snoc (.flusher (.checkEmpty rfl))
    |>.snoc (.receiver (.join rfl rfl))

/-- Of two messages none is held back. -/
theorem aggregated_iff_pair : NoneHeldBack pairHub pairs Aggregator.noJson pairRun.trace :=
  (aggregated_iff _ 2 (by decide) .first Aggregator.noJson _ pairRun rfl rfl).mpr (by decide)

/-- One message is sent, and held when the hub returns. -/
def heldRun : (HubState.system pairHub).Execution :=
  (System.Execution.initial ⟨none, rfl⟩ : (HubState.system pairHub).Execution)
    |>.snoc (.sender (.send (broadcast "a") rfl (by decide)))
    |>.snoc (.sender (.close rfl))
    |>.snoc (.receiver (.receive rfl rfl))
    |>.snoc (.receiver (.filter rfl rfl))
    |>.snoc (.receiver (.finish rfl rfl rfl))
    |>.snoc (.receiver (.signal rfl))
    |>.snoc (.flusher (.checkShutdown rfl))
    |>.snoc (.flusher (.checkEmpty rfl))
    |>.snoc (.receiver (.join rfl rfl))

/-- A message without a second one to complete its batch is lost at shutdown: the hub
returns, nothing overflowed, and nothing was offered. -/
theorem held_message_lost :
    heldRun.state.receiver = .returned ∧ NeverOverflows pairHub heldRun.trace ∧
    sent heldRun.trace = [broadcast "a"] ∧ slices 0 heldRun.trace = [] ∧
    ¬ NoneHeldBack pairHub pairs Aggregator.noJson heldRun.trace := by
  refine ⟨rfl, rfl, rfl, rfl, ?_⟩
  rintro ⟨parts, combined, whole, none, combines, -⟩
  obtain rfl : combined = [] := none
  cases combines
  cases whole

end Polku.Hub
