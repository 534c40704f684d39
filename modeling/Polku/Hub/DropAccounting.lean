import Polku.Hub.DropMetrics
import Polku.Hub.Shutdown
import Polku.Middleware.Provenance

/-!
# Accounting for every message

Each message sent to a hub of filters, transforms, routers and aggregators is followed
from the channel to the emitters. A drop is counted for the message which the chain
answered with `none`, or for the one which completed an evicted message.
-/

namespace Polku.Hub

open Semantics Buffer HubHistory TrackedStage

/-- A hub whose chain is made of new stages. -/
def staged (hub : Hub) (stages : List Stage) : Hub :=
  { hub with middleware := ⟨stages.map Stage.middleware⟩ }

section Account

variable (hub : Hub) (stages : List Stage) (trace : List HubEvent)

/-- What was passed on while each message sent was processed. -/
def outcomes : List (Option Tracked) := results stages (sent trace)

/-- The messages which passed the chain, in order. -/
def outputs : List Tracked := (outcomes stages trace).reduceOption

/-- The numbers, among the messages pushed, of those which were evicted. -/
def evictedNumbers : List Nat :=
  (evictedMessages hub.bufferCapacity (bufferCalls hub trace)).map Prod.snd

/-- The messages which passed the chain and were evicted. -/
def evictedOutputs : List Tracked :=
  ((outputs stages trace).zipIdx.filter (·.2 ∈ evictedNumbers hub trace)).map Prod.fst

/-- The messages which passed the chain and were not evicted. -/
def drainedOutputs : List Tracked :=
  ((outputs stages trace).zipIdx.filter (·.2 ∉ evictedNumbers hub trace)).map Prod.fst

/-- How often the message sent at a position was counted as dropped: as filtered if the
chain answered none, and as an overflow if what it completed was evicted. -/
def countedDrops (position : Nat) : Nat :=
  (if (outcomes stages trace)[position]? = some none then 1 else 0) +
    (evictedOutputs hub stages trace).countP (·.parts.getLast? = some position)

/-- A message which was drained was offered to an emitter. -/
def Offered (output : Tracked) : Prop :=
  ∃ emitter name, hub.emitters[emitter]? = some name ∧
    ∃ event ∈ (slices emitter trace).flatten, event.Carries output.message

/-- The message sent at a position reached an emitter, itself or in an aggregate. -/
def Reaches (position : Nat) : Prop :=
  ∃ output ∈ drainedOutputs hub stages trace, position ∈ output.parts ∧ Offered hub trace output

/-- Each message was either counted as dropped, once, and reached no emitter, or was not
counted and reached one; and no other drop was counted as filtered or as an overflow. -/
structure Accounted (initial : Metrics) (machine : HubState) : Prop where
  eachOnce : ∀ position < (sent trace).length,
    (countedDrops hub stages trace position = 1 ∧ ¬ Reaches hub stages trace position) ∨
      (countedDrops hub stages trace position = 0 ∧ Reaches hub stages trace position)
  noOther : ∃ metrics, machine.metrics = some metrics ∧
    metrics.droppedFor "middleware_filtered" =
      initial.droppedFor "middleware_filtered" + (outcomes stages trace).count none ∧
    metrics.droppedFor "buffer_overflow" =
      initial.droppedFor "buffer_overflow" + (evictedOutputs hub stages trace).length

/-! ## Where the messages which pass the chain go -/

/-- Each message which passes the chain is evicted or not. -/
theorem outputs_perm : (evictedOutputs hub stages trace ++ drainedOutputs hub stages trace).Perm
    (outputs stages trace) := by
  have whole := (List.filter_append_perm (fun item : Tracked × Nat =>
    decide (item.2 ∈ evictedNumbers hub trace)) (outputs stages trace).zipIdx).map Prod.fst
  rw [List.map_append, List.zipIdx_map_fst] at whole
  simpa [evictedOutputs, drainedOutputs] using whole

/-- The messages which pass the chain are its survivors. -/
theorem survivors_eq :
    (hub.staged stages).middleware.survivors (sent trace) =
      (outputs stages trace).map Tracked.message := by
  rw [MiddlewareChain.survivors, staged, results_erase]
  exact List.reduceOption_map

variable {hub stages trace} {machine : HubState} {initial : Metrics}

/-- A message which was pushed is evicted if and only if its number is. -/
private theorem evicted_iff {calls : List (BufferCall Message)} {capacity number : Nat}
    {message : Message} (pushed : (handed calls)[number]? = some message) :
    (message, number) ∈ evictedMessages capacity calls ↔
      number ∈ (evictedMessages capacity calls).map Prod.snd := by
  constructor
  · exact fun member => List.mem_map_of_mem member
  · intro member
    obtain ⟨⟨other, place⟩, isEvicted, rfl⟩ := List.mem_map.mp member
    have arrived := ((numberedLedger capacity calls).departedFor_sublist (· == .evicted)).mem
      isEvicted
    rw [numberedLedger_arrived, List.mk_mem_zipIdx_iff_getElem?] at arrived
    obtain rfl : other = message := Option.some.inj (arrived.symm.trans pushed)
    exact isEvicted

/-- Those which are not evicted are the kept messages. -/
theorem drainedOutputs_erase
    (pushed : handed (bufferCalls hub trace) = (outputs stages trace).map Tracked.message) :
    (drainedOutputs hub stages trace).map Tracked.message = kept (hub.staged stages) trace := by
  rw [kept, survivors_eq, List.zipIdx_map, List.filter_map, List.map_map, drainedOutputs,
    List.map_map]
  refine congrArg (List.map _) (List.filter_congr ?_)
  rintro ⟨output, number⟩ member
  have place : (handed (bufferCalls hub trace))[number]? = some output.message := by
    rw [pushed, List.getElem?_map, List.mk_mem_zipIdx_iff_getElem?.mp member]
    rfl
  exact decide_eq_decide.mpr (not_congr (evicted_iff place).symm)

/-! ## Each message once -/

variable (hub stages trace) in
/-- The messages which passed the chain and end with a position: evicted or not, they are
one at most, and one if the chain passed something on there. -/
private theorem ending_at (position : Nat) :
    (evictedOutputs hub stages trace).countP (·.parts.getLast? = some position) +
        (drainedOutputs hub stages trace).countP (·.parts.getLast? = some position) ≤ 1 ∧
      ((evictedOutputs hub stages trace).countP (·.parts.getLast? = some position) +
          (drainedOutputs hub stages trace).countP (·.parts.getLast? = some position) = 1 ↔
        ∃ output, (outcomes stages trace)[position]? = some (some output)) := by
  have whole := (outputs_perm hub stages trace).countP_eq (·.parts.getLast? = some position)
  rw [List.countP_append] at whole
  have bound := (countP_getLast_le position (outputs stages trace)).trans
    (results_occurrences_le_one stages (sent trace) position)
  rw [whole]
  refine ⟨bound, ?_⟩
  have positive : (outputs stages trace).countP (·.parts.getLast? = some position) = 1 ↔
      0 < (outputs stages trace).countP (·.parts.getLast? = some position) := by omega
  rw [positive, List.countP_pos_iff]
  apply exists_congr
  intro output
  rw [decide_eq_true_iff]
  exact getLast_iff stages (sent trace) position output

/-- Each message sent has an outcome. -/
private theorem outcomes_length : (outcomes stages trace).length = (sent trace).length := by
  have erased := congrArg List.length (results_erase stages (sent trace))
  rw [MiddlewareChain.processEach_length, List.length_map] at erased
  exact erased.symm

/-- A message which passed the chain ends with the position it was passed on at. -/
private theorem output_last {output : Tracked} (member : output ∈ outputs stages trace) :
    ∃ position < (sent trace).length, output.parts.getLast? = some position ∧
      (outcomes stages trace)[position]? = some (some output) := by
  obtain ⟨position, isResult⟩ := List.getElem?_of_mem (List.reduceOption_mem_iff.mp member)
  have bound := (List.getElem?_eq_some_iff.mp isResult).1
  exact ⟨position, outcomes_length ▸ bound, results_getLast stages (sent trace) isResult, isResult⟩

/-- Two messages which passed the chain have no part in common. -/
private theorem eq_of_part {first second : Tracked} (isFirst : first ∈ outputs stages trace)
    (isSecond : second ∈ outputs stages trace) {position : Nat}
    (ofFirst : position ∈ first.parts) (ofSecond : position ∈ second.parts) : first = second :=
  eq_of_occurrences (results_occurrences_le_one stages (sent trace) position) isFirst isSecond
    ofFirst ofSecond

variable (stages) in
/-- Every message sent is held back or passed on. -/
private theorem exists_outcome {position : Nat} (bound : position < (sent trace).length) :
    ∃ result, (outcomes stages trace)[position]? = some result :=
  ⟨_, List.getElem?_eq_getElem (outcomes_length ▸ bound)⟩

private theorem mem_outputs_of_drained {output : Tracked}
    (drained : output ∈ drainedOutputs hub stages trace) : output ∈ outputs stages trace :=
  (outputs_perm hub stages trace).mem_iff.mp (List.mem_append_right _ drained)

/-- A part which was passed on at its own position is the last one. -/
private theorem eq_of_passed {output passed : Tracked} {part position : Nat}
    (member : output ∈ outputs stages trace) (isPart : part ∈ output.parts)
    (last : output.parts.getLast? = some position)
    (isPassed : (outcomes stages trace)[part]? = some (some passed)) : part = position := by
  obtain ⟨isOutput, partLast⟩ := (getLast_iff stages (sent trace) part passed).mpr isPassed
  obtain rfl := eq_of_part isOutput member (List.mem_of_getLast? partLast) isPart
  exact Option.some.inj (partLast.symm.trans last)

/-- A message whose parts are all the same has one. -/
private theorem length_parts_eq_one {output : Tracked} {position : Nat}
    (member : output ∈ outputs stages trace) (part : position ∈ output.parts)
    (same : ∀ other ∈ output.parts, other = position) : output.parts.length = 1 := by
  have counted : output.parts.count position = output.parts.length := by
    conv_lhs => rw [List.eq_replicate_iff.mpr ⟨rfl, same⟩]
    exact List.count_replicate_self
  have once := (count_le_occurrences position member).trans
    (results_occurrences_le_one stages (sent trace) position)
  have some := List.length_pos_of_mem part
  omega

/-- If each message is counted or delivered, a drained message is offered and has one part. -/
private theorem single_of_eachOnce
    (eachOnce : ∀ position < (sent trace).length,
      (countedDrops hub stages trace position = 1 ∧ ¬ Reaches hub stages trace position) ∨
        (countedDrops hub stages trace position = 0 ∧ Reaches hub stages trace position))
    {output : Tracked} (drained : output ∈ drainedOutputs hub stages trace) :
    output.parts.length = 1 ∧ Offered hub trace output := by
  have isOutput := mem_outputs_of_drained drained
  obtain ⟨position, bound, last, isResult⟩ := output_last isOutput
  have part : position ∈ output.parts := List.mem_of_getLast? last
  have reached : Offered hub trace output := by
    have ends : 0 < (drainedOutputs hub stages trace).countP
        (·.parts.getLast? = some position) :=
      List.countP_pos_iff.mpr ⟨output, drained, decide_eq_true last⟩
    have atMost := (ending_at hub stages trace position).1
    rcases eachOnce position bound with ⟨counted, -⟩ | ⟨-, other, isDrained, otherPart, offered⟩
    · rw [countedDrops, isResult] at counted
      simp only [Option.some.injEq, reduceCtorEq, if_false] at counted
      omega
    · exact eq_of_part (mem_outputs_of_drained isDrained) isOutput otherPart part ▸ offered
  refine ⟨length_parts_eq_one isOutput part fun other otherPart => ?_, reached⟩
  -- The message is delivered with this part, so the part has not been counted.
  have otherBound := results_lt stages (sent trace) isOutput otherPart
  rcases eachOnce other otherBound with ⟨-, unreached⟩ | ⟨uncounted, -⟩
  · exact absurd ⟨output, drained, otherPart, reached⟩ unreached
  · obtain ⟨result, isOther⟩ := exists_outcome stages otherBound
    cases result with
    | none => simp [countedDrops, isOther] at uncounted
    | some passed => exact eq_of_passed isOutput otherPart last isOther

/-- If the drained messages are offered and have one part, each message is counted or
delivered. -/
private theorem eachOnce_of_single
    (single : ∀ output ∈ drainedOutputs hub stages trace,
      output.parts.length = 1 ∧ Offered hub trace output)
    {position : Nat} (bound : position < (sent trace).length) :
    (countedDrops hub stages trace position = 1 ∧ ¬ Reaches hub stages trace position) ∨
      (countedDrops hub stages trace position = 0 ∧ Reaches hub stages trace position) := by
  have isLast : ∀ output ∈ drainedOutputs hub stages trace, position ∈ output.parts →
      output.parts.getLast? = some position := by
    intro output drained part
    obtain ⟨only, whole⟩ := List.length_eq_one_iff.mp (single output drained).1
    rw [whole] at part ⊢
    rw [List.mem_singleton.mp part]
    rfl
  have absent : (drainedOutputs hub stages trace).countP
      (·.parts.getLast? = some position) = 0 → ¬ Reaches hub stages trace position := by
    rintro none ⟨output, drained, part, -⟩
    exact List.countP_eq_zero.mp none output drained (decide_eq_true (isLast output drained part))
  obtain ⟨atMost, exactly⟩ := ending_at hub stages trace position
  obtain ⟨result, isResult⟩ := exists_outcome stages bound
  cases result with
  | none =>
      rw [isResult] at exactly
      have noneEnds := exactly.not.mpr (by simp)
      refine .inl ⟨?_, absent (by omega)⟩
      simp only [countedDrops, isResult, if_true]
      omega
  | some passed =>
      have oneEnds := exactly.mpr ⟨passed, isResult⟩
      rcases Nat.eq_zero_or_pos ((drainedOutputs hub stages trace).countP
        (·.parts.getLast? = some position)) with none | some
      · refine .inl ⟨?_, absent none⟩
        simp only [countedDrops, isResult, Option.some.injEq, reduceCtorEq, if_false]
        omega
      · refine .inr ⟨?_, ?_⟩
        · simp only [countedDrops, isResult, Option.some.injEq, reduceCtorEq, if_false]
          omega
        · obtain ⟨output, drained, last⟩ := List.countP_pos_iff.mp some
          exact ⟨output, drained, List.mem_of_getLast? (of_decide_eq_true last),
            (single output drained).2⟩

/-- Each message is counted or delivered, and not both, exactly when no drained message is
an aggregate of several and each of them was offered to an emitter. -/
theorem eachOnce_iff :
    (∀ position < (sent trace).length,
      (countedDrops hub stages trace position = 1 ∧ ¬ Reaches hub stages trace position) ∨
        (countedDrops hub stages trace position = 0 ∧ Reaches hub stages trace position)) ↔
    ∀ output ∈ drainedOutputs hub stages trace,
      output.parts.length = 1 ∧ Offered hub trace output :=
  ⟨fun eachOnce _ drained => single_of_eachOnce eachOnce drained,
    fun single _ bound => eachOnce_of_single single bound⟩

/-! ## When the hub has returned -/

/-- What was pushed are the messages which passed the chain. -/
private theorem pushed_eq (holds : Delivering (hub.staged stages) trace machine)
    (returned : machine.receiver = .returned) :
    handed (bufferCalls hub trace) = (outputs stages trace).map Tracked.message :=
  (holds.handed_eq returned).trans (survivors_eq hub stages trace)

/-- A drained message was offered to an emitter exactly if it is routed to one. -/
theorem offered_iff (holds : Delivering (hub.staged stages) trace machine)
    (returned : machine.receiver = .returned) {output : Tracked}
    (drained : output ∈ drainedOutputs hub stages trace) :
    Offered hub trace output ↔ ∃ name ∈ hub.emitters, output.message.shouldRouteTo name = true := by
  have isKept : output.message ∈ kept (hub.staged stages) trace := by
    rw [← drainedOutputs_erase (pushed_eq holds returned)]
    exact List.mem_map_of_mem drained
  have slices_eq : ∀ emitter name, hub.emitters[emitter]? = some name →
      (slices emitter trace).flatten =
        ((kept (hub.staged stages) trace).filter (·.shouldRouteTo name)).map Message.toEvent :=
    fun emitter name isEmitter =>
      Message.forall₂_carries_iff.mp (holds.offered returned isEmitter)
  constructor
  · rintro ⟨emitter, name, isEmitter, event, offered, carries⟩
    rw [slices_eq emitter name isEmitter] at offered
    obtain ⟨message, routed, rfl⟩ := List.mem_map.mp offered
    obtain rfl : message = output.message := by
      simpa using congrArg Message.ofEvent (Message.carries_iff.mp carries)
    exact ⟨name, List.mem_of_getElem? isEmitter, (List.mem_filter.mp routed).2⟩
  · rintro ⟨name, isEmitter, routed⟩
    obtain ⟨emitter, place⟩ := List.getElem?_of_mem isEmitter
    refine ⟨emitter, name, place, output.message.toEvent, ?_, output.message.toEvent_carries⟩
    rw [slices_eq emitter name place]
    exact List.mem_map_of_mem (List.mem_filter.mpr ⟨isKept, routed⟩)

/-- The buffer counted its evictions, unless it has no capacity: then it counted what was
drained as well. -/
theorem returnedTotal_eq (holds : Delivering (hub.staged stages) trace machine)
    (returned : machine.receiver = .returned) :
    (RingBuffer.new hub.bufferCapacity).returnedTotal (bufferCalls hub trace) =
      (evictedOutputs hub stages trace).length +
        if hub.bufferCapacity = 0 then (drainedOutputs hub stages trace).length else 0 := by
  have pushed := congrArg List.length (pushed_eq holds returned)
  have drained := congrArg List.length (drainedOutputs_erase (pushed_eq holds returned))
  have kept_eq : (kept (hub.staged stages) trace).length =
      ((RingBuffer.new hub.bufferCapacity).drained (bufferCalls hub trace)).length := by
    rw [← holds.batches_eq returned, holds.buffers.drained]
    rfl
  have empty := congrArg List.length (holds.shutsDown.exited (holds.shutsDown.returned returned)).2
  have account := RingBuffer.handed_length hub.bufferCapacity (bufferCalls hub trace)
  have whole := (outputs_perm hub stages trace).length_eq
  have buffer : machine.buffer =
      ((RingBuffer.new hub.bufferCapacity).replay (bufferCalls hub trace)).2 := holds.buffers.buffer
  rw [buffer] at empty
  simp only [List.length_map, List.length_append, List.length_nil, RingBuffer.len] at *
  split
  case isTrue none =>
    rw [RingBuffer.returnedTotal_of_zero _ none]
    omega
  case isFalse some =>
    rw [RingBuffer.returnedTotal_eq_evicted _ (Nat.pos_of_ne_zero some)]
    omega

/-- No event was lost under a name exactly if no call of an emitter of that name failed. -/
theorem failedAs_eq_zero (holds : Delivering (hub.staged stages) trace machine)
    (returned : machine.receiver = .returned) (name : String) :
    failedAs hub name trace = 0 ↔ ∀ emitter events, .offered emitter events false ∈ trace →
      hub.emitters[emitter]? ≠ some name := by
  rw [failedAs, List.sum_eq_zero_iff_forall_eq_nat]
  constructor
  · intro none emitter events failed isEmitter
    have counted := none _ (List.mem_map_of_mem failed)
    have isSlice : events ∈ slices emitter trace :=
      List.mem_filterMap.mpr ⟨_, failed, by simp [HubEvent.slice]⟩
    rw [holds.slices_eq returned isEmitter] at isSlice
    obtain ⟨batch, -, offered⟩ := List.mem_filterMap.mp isSlice
    have some := List.length_pos_iff.mpr (slice_bounds offered).1
    simp only [HubEvent.failedAs, isEmitter, if_true] at counted
    omega
  · intro none count member
    obtain ⟨event, isEvent, rfl⟩ := List.mem_map.mp member
    unfold HubEvent.failedAs
    split
    case h_1 emitter events => exact if_neg (none emitter events isEvent)
    case h_2 => rfl

end Account

/-- Whether a call of an emitter which is named like a reason for drops failed. -/
def FailsAsReason (hub : Hub) (trace : List HubEvent) : Prop :=
  ∃ emitter events, .offered emitter events false ∈ trace ∧
    (hub.emitters[emitter]? = some "middleware_filtered" ∨
      hub.emitters[emitter]? = some "buffer_overflow")

/-- No such call failed exactly if no event was lost under either name. -/
private theorem not_failsAsReason_iff {hub : Hub} {stages : List Stage} {trace : List HubEvent}
    {machine : HubState}
    (holds : Delivering (hub.staged stages) trace machine)
    (returned : machine.receiver = .returned) :
    ¬ FailsAsReason hub trace ↔
      failedAs hub "middleware_filtered" trace = 0 ∧ failedAs hub "buffer_overflow" trace = 0 := by
  rw [failedAs_eq_zero holds returned, failedAs_eq_zero holds returned]
  constructor
  · intro none
    exact ⟨fun emitter events failed named => none ⟨emitter, events, failed, .inl named⟩,
      fun emitter events failed named => none ⟨emitter, events, failed, .inr named⟩⟩
  · rintro ⟨noFiltered, noOverflowed⟩ ⟨emitter, events, failed, named | named⟩
    · exact noFiltered emitter events failed named
    · exact noOverflowed emitter events failed named

/-- When a hub of filters, transforms, routers and aggregators returns, every message is
accounted for exactly if every message which was drained from the buffer was made of a
single one and is routed to an emitter, if there was no such message or the buffer has a
capacity, and if no emitter which is named like one of the two reasons failed. -/
theorem accounted_iff (hub : Hub) (stages : List Stage) (initial : Metrics)
    (execution : (HubState.metered (hub.staged stages) initial).Execution)
    (returned : execution.state.receiver = .returned) :
    Accounted hub stages execution.trace initial execution.state ↔
      (∀ output ∈ drainedOutputs hub stages execution.trace,
        0 < hub.bufferCapacity ∧ output.parts.length = 1 ∧
          ∃ name ∈ hub.emitters, output.message.shouldRouteTo name = true) ∧
      ¬ FailsAsReason hub execution.trace := by
  have run := HubState.runs_of_metered execution.runs
  have holds := Delivering.of_runs run
  obtain ⟨metrics, isMetrics, stagedAccount⟩ := Meters.of_runs execution.runs
  have account : ∀ reason, metrics.droppedFor reason =
      initial.droppedFor reason + countedFor hub reason execution.trace := stagedAccount
  have counted := returnedTotal_eq holds returned
  have answered : (answers execution.trace).count none =
      (outcomes stages execution.trace).count none := by
    have erased := (answers_of_returned run returned).trans
      (results_erase stages (sent execution.trace))
    rw [erased]
    exact Data.count_none_map _ _
  have filteredAccount : metrics.droppedFor "middleware_filtered" =
      initial.droppedFor "middleware_filtered" +
        ((outcomes stages execution.trace).count none +
          failedAs hub "middleware_filtered" execution.trace) := by
    rw [account, ← answered]
    simp [countedFor]
  have overflowAccount : metrics.droppedFor "buffer_overflow" =
      initial.droppedFor "buffer_overflow" +
        ((RingBuffer.new hub.bufferCapacity).returnedTotal (bufferCalls hub execution.trace) +
          failedAs hub "buffer_overflow" execution.trace) := by
    rw [account]
    simp [countedFor]
  have noFailure := not_failsAsReason_iff holds returned
  constructor
  · rintro ⟨eachOnce, other, isOther, filtered, overflowed⟩
    obtain rfl : metrics = other := Option.some.inj (isMetrics.symm.trans isOther)
    have single := eachOnce_iff.mp eachOnce
    refine ⟨fun output drained => ⟨?_, (single output drained).1,
      (offered_iff holds returned drained).mp (single output drained).2⟩, noFailure.mpr ?_⟩
    · have some := List.length_pos_of_mem drained
      apply Nat.pos_of_ne_zero
      intro none
      rw [if_pos none] at counted
      omega
    · omega
  · rintro ⟨single, none⟩
    obtain ⟨noFiltered, noOverflowed⟩ := noFailure.mp none
    refine ⟨eachOnce_iff.mpr fun output drained => ⟨(single output drained).2.1,
      (offered_iff holds returned drained).mpr (single output drained).2.2⟩,
      metrics, isMetrics, by omega, ?_⟩
    have noSpurious : (if hub.bufferCapacity = 0 then
        (drainedOutputs hub stages execution.trace).length else 0) = 0 := by
      cases drained : drainedOutputs hub stages execution.trace with
      | nil => simp
      | cons output rest =>
          have positive := (single output (by simp [drained])).1
          exact if_neg (Nat.pos_iff_ne_zero.mp positive)
    omega

/-- A hub with one emitter. -/
def oneEmitterHub : Hub := { Hub.new with emitters := ["stdout"] }

/-- A filter which keeps the messages with one id. -/
def keepB : List Stage := [.filter ⟨fun msg => msg.id = "b"⟩]

/-- Two messages are sent: the first one is dropped, the second one is offered. -/
def rejectedRun : (HubState.metered (oneEmitterHub.staged keepB) .fresh).Execution :=
  (System.Execution.initial rfl :
      (HubState.metered (oneEmitterHub.staged keepB) .fresh).Execution)
    |>.snoc (.sender (.send (broadcast "a") rfl (by decide)))
    |>.snoc (.sender (.send (broadcast "b") rfl (by decide)))
    |>.snoc (.sender (.close rfl))
    |>.snoc (.receiver (.receive rfl rfl))
    |>.snoc (.receiver (.filter rfl rfl))
    |>.snoc (.receiver (.receive rfl rfl))
    |>.snoc (.receiver (.pass rfl rfl))
    |>.snoc (.receiver (.push rfl rfl))
    |>.snoc (.receiver (.finish rfl rfl rfl))
    |>.snoc (.receiver (.signal rfl))
    |>.snoc (.flusher (.checkShutdown rfl))
    |>.snoc (.flusher (.checkEmpty rfl))
    |>.snoc (.flusher (.wake rfl))
    |>.snoc (.flusher (.drain rfl rfl))
    |>.snoc (.flusher (.measure rfl))
    |>.snoc (.flusher (.offer true rfl rfl rfl))
    |>.snoc (.flusher (.finish rfl (by decide)))
    |>.snoc (.flusher (.checkShutdown rfl))
    |>.snoc (.flusher (.checkEmpty rfl))
    |>.snoc (.receiver (.join rfl rfl))

/-- The message dropped by the filter is counted, the other one is delivered, and both are
accounted for. -/
theorem accounted_iff_rejected :
    countedDrops oneEmitterHub keepB rejectedRun.trace 0 = 1 ∧
      Reaches oneEmitterHub keepB rejectedRun.trace 1 ∧
      Accounted oneEmitterHub keepB rejectedRun.trace .fresh rejectedRun.state := by
  have drained : drainedOutputs oneEmitterHub keepB rejectedRun.trace =
      [⟨broadcast "b", [1]⟩] := by decide
  refine ⟨by decide, ?_, (accounted_iff oneEmitterHub keepB .fresh rejectedRun rfl).mpr ⟨?_, ?_⟩⟩
  · refine ⟨⟨broadcast "b", [1]⟩, ?_, by decide, 0, "stdout", rfl, _, List.mem_cons_self,
      Message.toEvent_carries _⟩
    rw [drained]
    exact List.mem_singleton_self _
  · intro output isDrained
    rw [drained] at isDrained
    obtain rfl := List.mem_singleton.mp isDrained
    exact ⟨by decide, rfl, "stdout", List.mem_singleton_self _, by decide⟩
  · rintro ⟨emitter, events, failed, -⟩
    have succeeded : ∀ event ∈ rejectedRun.trace, event ≠ .offered emitter events false := by
      simp [rejectedRun, System.Execution.snoc, System.Execution.initial]
    exact succeeded _ failed rfl

/-- An aggregator of pairs. -/
def pairStages : List Stage := [.aggregator Aggregator.noJson (fun _ => ⟨"ab", 0⟩) 0 pairs]

/-- Two messages are sent, the first is held, and both are offered as one. -/
def combinedRun : (HubState.metered (oneEmitterHub.staged pairStages) .fresh).Execution :=
  (System.Execution.initial rfl :
      (HubState.metered (oneEmitterHub.staged pairStages) .fresh).Execution)
    |>.snoc (.sender (.send (broadcast "a") rfl (by decide)))
    |>.snoc (.sender (.send (broadcast "b") rfl (by decide)))
    |>.snoc (.sender (.close rfl))
    |>.snoc (.receiver (.receive rfl rfl))
    |>.snoc (.receiver (.filter rfl rfl))
    |>.snoc (.receiver (.receive rfl rfl))
    |>.snoc (.receiver (.pass rfl rfl))
    |>.snoc (.receiver (.push rfl rfl))
    |>.snoc (.receiver (.finish rfl rfl rfl))
    |>.snoc (.receiver (.signal rfl))
    |>.snoc (.flusher (.checkShutdown rfl))
    |>.snoc (.flusher (.checkEmpty rfl))
    |>.snoc (.flusher (.wake rfl))
    |>.snoc (.flusher (.drain rfl rfl))
    |>.snoc (.flusher (.measure rfl))
    |>.snoc (.flusher (.offer true rfl rfl rfl))
    |>.snoc (.flusher (.finish rfl (by decide)))
    |>.snoc (.flusher (.checkShutdown rfl))
    |>.snoc (.flusher (.checkEmpty rfl))
    |>.snoc (.receiver (.join rfl rfl))

/-- The message which was held is counted as dropped, and delivered. -/
theorem held_message_counted :
    combinedRun.state.receiver = .returned ∧
    countedDrops oneEmitterHub pairStages combinedRun.trace 0 = 1 ∧
    Reaches oneEmitterHub pairStages combinedRun.trace 0 ∧
    ¬ Accounted oneEmitterHub pairStages combinedRun.trace .fresh combinedRun.state := by
  have counted : countedDrops oneEmitterHub pairStages combinedRun.trace 0 = 1 := by decide
  have reached : Reaches oneEmitterHub pairStages combinedRun.trace 0 :=
    ⟨_, List.mem_cons_self, by decide, 0, "stdout", rfl, _, List.mem_cons_self,
      Message.toEvent_carries _⟩
  refine ⟨rfl, counted, reached, fun accounted => ?_⟩
  rcases accounted.eachOnce 0 (by decide) with ⟨-, unreached⟩ | ⟨uncounted, -⟩
  · exact unreached reached
  · rw [counted] at uncounted
    cases uncounted

end Polku.Hub

