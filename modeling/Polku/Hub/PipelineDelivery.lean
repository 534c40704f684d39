import Polku.Hub.Pipeline
import Polku.Hub.Return

/-!
# Nothing is lost in silence

What a hub with resilient emitters has kept for an emitter ends in one of its slices. The
wrapped emitter has accepted a slice as a whole, once, or the slice was captured by the failure
buffer, and leaves it only if it is taken or dropped there, which is counted.
-/

namespace Polku

open Data Semantics

/-- Whether the failure buffer is called from elsewhere. -/
def StackEvent.isOwned : StackEvent → Bool
  | owned _ => true
  | _ => false

/-- The attempts of a call which are under way. -/
def StackPhase.unanswered : StackPhase → Nat
  | waiting _ => 1
  | _ => 0

/-- A call goes on with no attempt under way after its result is recorded. -/
theorem StackPhase.unanswered_afterRecording (layers : ResilientEmitter)
    (result : EmitResult) : (afterRecording layers result).unanswered = 0 := by
  rcases result with error | success
  · simp only [afterRecording]
    split <;> rfl
  · rfl

/-- Nor is there one once the retries are over. -/
theorem StackPhase.unanswered_afterRetries (layers : ResilientEmitter)
    (result : EmitResult) : (afterRetries layers result).unanswered = 0 := by
  simp only [afterRetries]
  split
  · rfl
  · exact unanswered_afterRecording layers result

/-- Nor right after the answer to an attempt. -/
theorem StackPhase.unanswered_afterAttempt (layers : ResilientEmitter)
    (attempt : UInt32) (result : EmitResult) :
    (afterAttempt layers attempt result).unanswered = 0 := by
  rcases result with error | success <;> simp only [afterAttempt] <;> split
  · rfl
  · exact unanswered_afterRetries layers _
  · rfl
  · exact unanswered_afterRetries layers _

/-- What the emitter at a position has returned for which slice, if a step says so. -/
def HubEvent.emitted (emitter : Nat) : HubEvent → Option (List Event × Bool)
  | .offered position events succeeded =>
      if position = emitter then some (events, succeeded) else none
  | _ => none

/-- A slice with what its emitter has returned, and what was done for it on the way. -/
structure Offer where
  batch : List Event
  result : EmitResult
  own : List StackEvent

namespace Offer

open StackHistory

variable {layers : ResilientEmitter} {offer : Offer}

/-- The call which returned is judged, and its slice captured if it failed. -/
structure Settled (layers : ResilientEmitter) (offer : Offer) : Prop where
  judged : StackCall.Judged layers offer.batch offer.own offer.result
  captured : StackCall.Captured layers offer.batch offer.own offer.result
  answered : (sent offer.own).length = (results offer.own).length

/-- Of the attempts at a batch one succeeds if the call does, and none otherwise. -/
private theorem countP_ok {retries : Nat} {batch : List Event} {answers : List EmitResult}
    {result : EmitResult}
    (attempts : RetryEmitter.Retries retries batch (answers.map (⟨batch, ·⟩)) result) :
    answers.countP (· = .ok ()) = if result = .ok () then 1 else 0 := by
  have some : answers ≠ [] := by
    rintro rfl
    exact absurd attempts.atLeastOne (by simp)
  obtain ⟨before, last, rfl⟩ := (List.eq_nil_or_concat' answers).resolve_left some
  have failed : before.countP (· = .ok ()) = 0 := by
    rw [List.countP_eq_zero]
    intro answer member succeeded
    refine attempts.failedBefore ⟨batch, answer⟩ ?_ (of_decide_eq_true succeeded)
    simpa using member
  obtain rfl : last = result := by simpa using attempts.lastResult
  simp [List.countP_append, failed, List.countP_singleton]

/-- A slice is passed on as a whole, or not at all. -/
theorem Settled.attempts (settled : offer.Settled layers) :
    ∃ count ≤ layers.maxAttempts.toNat + 1, sent offer.own = List.replicate count offer.batch := by
  rcases settled.judged with rejected | forwarded
  · exact ⟨0, Nat.zero_le _, rejected.unsent⟩
  · exact ⟨_, by simpa using forwarded.ended.attempts.atMost, forwarded.ended.sent⟩

/-- A slice is accepted once if the call succeeds, and never otherwise. -/
theorem Settled.accepted (settled : offer.Settled layers) :
    (results offer.own).countP (· = .ok ()) = if offer.result = .ok () then 1 else 0 := by
  rcases settled.judged with rejected | forwarded
  · have none : results offer.own = [] := by
      rw [← List.length_eq_zero_iff, ← settled.answered, rejected.unsent]
      rfl
    rw [none, rejected.result]
    rfl
  · exact countP_ok forwarded.ended.attempts

/-- What is captured of a slice, if the failure buffer stores whole batches: all of it if the
call failed, and nothing otherwise. -/
theorem Settled.events (settled : offer.Settled layers)
    {buffer : FailureBuffer} {config : FailureCaptureConfig}
    (chosen : layers.failureCapture = some (buffer, config))
    (whole : config.storeFullBatch = true) :
    (captures offer.own).flatten.map FailedEvent.event =
      if offer.result = .ok () then [] else offer.batch := by
  have captured := settled.captured
  rcases offer with ⟨batch, error | success, own⟩
  · simp only [StackCall.Captured, chosen] at captured
    obtain ⟨world, isCaptured⟩ := captured
    simp [isCaptured, ResilientEmitter.failedEvents, FailureCaptureEmitter.capture, whole]
  · have none : captures own = [] := captured
    simp [none]

end Offer

namespace Pipeline

open StackHistory
open PipelineHistory (hub_snoc stack stack_snoc)

variable {self : Pipeline} {trace : List PipelineEvent} {state next : PipelineState}
  {event : PipelineEvent} {emitter : Nat} {layers : ResilientEmitter}

/-! ### The calls on an emitter -/

/-- The call which the flush loop has made, if it waits for the emitter at a position. -/
def callAt (emitter : Nat) (flusher : Flusher) (call : Option StackCall) : Option StackCall :=
  match flusher with
  | .emitting _ position => if position = emitter then call else none
  | _ => none

/-- Without a call there is none on any emitter. -/
theorem callAt_none (emitter : Nat) (flusher : Flusher) : callAt emitter flusher none = none := by
  unfold callAt
  split
  · exact ite_self none
  · rfl

/-- The call which has been made is one on the emitter whose turn it is. -/
theorem callAt_emitting (events : List Event) (position : Nat) (call : Option StackCall) :
    callAt emitter (.emitting events position) call =
      if position = emitter then call else none := rfl

/-- What has been done for a call is what its place in the wrappers says, and each attempt is
answered, but for one which is under way. -/
structure Reached (layers : ResilientEmitter) (own : List StackEvent) (call : StackCall) :
    Prop where
  reaches : StackCall.Reaches layers call.batch own call.phase
  answered : (sent own).length = (results own).length + call.phase.unanswered

/-- A new call has done nothing. -/
theorem Reached.first (layers : ResilientEmitter) (batch : List Event) :
    Reached layers [] ⟨batch, .first layers⟩ where
  reaches := .first layers batch
  answered := by
    unfold StackPhase.first
    split <;> rfl

/-- Each step of a call brings it to its next place. -/
theorem Reached.step {own : List StackEvent} {call call' : StackCall}
    {shared shared' : StackShared} {event : StackEvent} (reached : Reached layers own call)
    (step : StackCall.Step layers shared call event shared' call') :
    call'.batch = call.batch ∧ Reached layers (own ++ [event]) call' := by
  obtain ⟨same, reaches⟩ := reached.reaches.step step
  refine ⟨same, reaches, ?_⟩
  have answered := reached.answered
  rw [sent_snoc, results_snoc, List.length_append, List.length_append, answered]
  cases step with
  | allow | pause | call | resume | capture => rfl
  | answer =>
      simp only [StackPhase.unanswered_afterAttempt]
      rfl
  | reject | succeed | fail =>
      simp only [StackPhase.unanswered_afterRecording]
      rfl
  | recover =>
      simp only [StackPhase.unanswered_afterRetries]
      rfl

/-- A call which has returned is settled. -/
theorem Reached.settled {own : List StackEvent} {batch : List Event} {result : EmitResult}
    (reached : Reached layers own ⟨batch, .returned result⟩) :
    Offer.Settled layers ⟨batch, result, own⟩ :=
  ⟨reached.reaches.1, reached.reaches.2, reached.answered⟩

/-- What the steps inside of an emitter are: those of calls which have returned, each with its
answer to the flush loop, and those of the call which has not, if there is one. -/
def Offering (emitter : Nat) (layers : ResilientEmitter) (trace : List PipelineEvent)
    (state : PipelineState) : Prop :=
  ∃ (offers : List Offer) (current : List StackEvent),
    (∀ offer ∈ offers, offer.Settled layers) ∧
    (PipelineHistory.hub trace).filterMap (HubEvent.emitted emitter) =
      offers.map (fun offer => (offer.batch, decide (offer.result = .ok ()))) ∧
    (stack emitter trace).filter (!·.isOwned) = offers.flatMap Offer.own ++ current ∧
    match callAt emitter state.hub.flusher state.call with
    | some call => Reached layers current call
    | none => current = []

/-- A step which the emitter does not take part in. -/
private theorem Offering.idle (offering : Offering emitter layers trace state)
    (sameCall : callAt emitter next.hub.flusher next.call =
      callAt emitter state.hub.flusher state.call)
    (noAnswer : event.hub?.bind (HubEvent.emitted emitter) = none)
    (noStep : ∀ inside, event.stack? emitter = some inside → inside.isOwned = true) :
    Offering emitter layers (trace ++ [event]) next := by
  obtain ⟨offers, current, settled, answers, steps, here⟩ := offering
  refine ⟨offers, current, settled, ?_, ?_, ?_⟩
  · rw [hub_snoc, List.filterMap_append, answers]
    cases ofHub : event.hub? with
    | none => simp
    | some step =>
        rw [ofHub] at noAnswer
        simp only [Option.toList_some, List.filterMap_cons, List.filterMap_nil]
        rw [show HubEvent.emitted emitter step = none from noAnswer]
        simp
  · rw [stack_snoc, List.filter_append, steps]
    cases inside : event.stack? emitter with
    | none => simp
    | some step => simp [noStep step inside]
  · rw [sameCall]
    exact here

/-- No step of a call on an emitter is one of those who have its failure buffer. -/
theorem not_isOwned {call call' : StackCall} {shared shared' : StackShared} {event : StackEvent}
    (step : StackCall.Step layers shared call event shared' call') : event.isOwned = false := by
  cases step <;> rfl

/-- Every step keeps track of the calls on an emitter. -/
theorem Offering.step (isEmitter : self.layers[emitter]? = some layers)
    (offering : Offering emitter layers trace state) (step : Step self state event next) :
    Offering emitter layers (trace ++ [event]) next := by
  cases step with
  | @sender event hub step =>
      obtain ⟨-, -, -, -, flusher, -⟩ := step.frame self.hub
      refine offering.idle ?_ ?_ ?_
      · rw [flusher]
      · cases step <;> rfl
      · intro inside isInside
        cases isInside
  | receiver step =>
      refine offering.idle ?_ ?_ ?_
      · rw [step.frame.1]
      · cases step <;> rfl
      · intro inside isInside
        cases isInside
  | flusher idle noOffer step =>
      refine offering.idle ?_ ?_ ?_
      · rw [idle, callAt_none, callAt_none]
      · cases step <;> first | rfl | exact absurd rfl (noOffer _ _ _)
      · intro inside isInside
        cases isInside
  | @call events position _ routed idle phase atPosition sliced =>
      obtain ⟨offers, current, settled, answers, steps, here⟩ := offering
      rw [idle, callAt_none] at here
      obtain rfl : current = [] := here
      refine ⟨offers, [], settled, ?_, ?_, ?_⟩
      · simpa [PipelineEvent.hub?] using answers
      · simpa [PipelineEvent.stack?] using steps
      · rw [phase, callAt_emitting]
        by_cases same : position = emitter
        · subst same
          obtain rfl := Option.some.inj (isEmitter.symm.trans atPosition)
          rw [if_pos rfl]
          exact .first layers routed
        · rw [if_neg same]
  | @emit events position _ call shared inside shared' call' calling phase atPosition isStack
      step =>
      by_cases same : position = emitter
      · subst same
        obtain rfl := Option.some.inj (isEmitter.symm.trans atPosition)
        obtain ⟨offers, current, settled, answers, steps, here⟩ := offering
        rw [phase, callAt_emitting, if_pos rfl, calling] at here
        refine ⟨offers, current ++ [inside], settled, ?_, ?_, ?_⟩
        · simpa [PipelineEvent.hub?] using answers
        · simp [PipelineEvent.stack?, steps, not_isOwned step]
        · rw [phase, callAt_emitting, if_pos rfl]
          exact (Reached.step here step).2
      · refine offering.idle ?_ rfl ?_
        · rw [phase, callAt_emitting, callAt_emitting, if_neg same, if_neg same]
        · intro other isInside
          rw [PipelineEvent.stack?, if_neg same] at isInside
          cases isInside
  | @finish position routed result hub calling step =>
      cases step with
      | @offer events _ name _ _ phase isName sliced =>
          by_cases same : position = emitter
          · subst same
            obtain ⟨offers, current, settled, answers, steps, here⟩ := offering
            rw [phase, callAt_emitting, if_pos rfl, calling] at here
            refine ⟨offers ++ [⟨routed, result, current⟩], [], ?_, ?_, ?_, ?_⟩
            · intro offer member
              rcases List.mem_append.mp member with earlier | latest
              · exact settled offer earlier
              · obtain rfl := List.mem_singleton.mp latest
                exact Reached.settled here
            · simp [PipelineEvent.hub?, HubEvent.emitted, answers]
            · simp [PipelineEvent.stack?, steps]
            · rw [callAt_none]
          · refine offering.idle ?_ ?_ ?_
            · rw [callAt_none, phase, callAt_emitting, if_neg same]
            · simp [PipelineEvent.hub?, HubEvent.emitted, same]
            · intro other isInside
              cases isInside
  | @owner position shared call isStack =>
      refine offering.idle rfl rfl ?_
      intro inside isInside
      simp only [PipelineEvent.stack?] at isInside
      split at isInside
      · obtain rfl := Option.some.inj isInside
        rfl
      · cases isInside

/-- In every run the steps inside of an emitter are those of the calls made on it. -/
theorem Offering.of_runs (run : self.system.Runs trace state)
    (isEmitter : self.layers[emitter]? = some layers) : Offering emitter layers trace state := by
  apply run.history fun trace (state : PipelineState) => Offering emitter layers trace state
  case initial =>
      intro state valid
      refine ⟨[], [], ?_, rfl, rfl, ?_⟩
      · intro offer member
        cases member
      · rw [valid.call, callAt_none]
  case preserved => exact fun _ offering step => offering.step isEmitter step

/-! ### The failure buffers -/

/-- The failure buffer of an emitter has been called as its steps say. -/
def Captures (emitter : Nat) (layers : ResilientEmitter) (trace : List PipelineEvent)
    (state : PipelineState) : Prop :=
  ∃ shared, state.shared[emitter]? = some shared ∧
    shared.failures =
      ((StackShared.start layers 0).failures.replay (failureCalls (stack emitter trace))).2

/-- A step which the emitter does not take part in. -/
private theorem Captures.idle (captures : Captures emitter layers trace state)
    (same : next.shared[emitter]? = state.shared[emitter]?)
    (noStep : event.stack? emitter = none) : Captures emitter layers (trace ++ [event]) next := by
  obtain ⟨shared, isShared, replayed⟩ := captures
  refine ⟨shared, same.trans isShared, ?_⟩
  simpa [noStep] using replayed

/-- A step which is taken on what the calls of one emitter share. -/
private theorem Captures.moves (captures : Captures emitter layers trace state)
    {position : Nat} {shared shared' : StackShared} {inside : StackEvent}
    (isShared : state.shared[position]? = some shared)
    (moved : shared'.failures =
      (shared.failures.replay inside.failureCall?.toList).2)
    (set : next.shared = state.shared.set position shared') :
    Captures emitter layers (trace ++ [.stack position inside]) next := by
  by_cases same : position = emitter
  · subst same
    obtain ⟨other, isOther, replayed⟩ := captures
    obtain rfl := Option.some.inj (isOther.symm.trans isShared)
    have within := (List.getElem?_eq_some_iff.mp isShared).1
    refine ⟨shared', ?_, ?_⟩
    · rw [set, List.getElem?_set_self within]
    · rw [moved, replayed, stack_snoc]
      simp [PipelineEvent.stack?, FailureBuffer.replay_append]
  · apply captures.idle
    · rw [set, List.getElem?_set_ne same]
    · rw [PipelineEvent.stack?, if_neg same]

/-- Every step calls the failure buffers as it says. -/
theorem Captures.step (captures : Captures emitter layers trace state)
    (step : Step self state event next) : Captures emitter layers (trace ++ [event]) next := by
  cases step with
  | sender | receiver | flusher | call | finish => exact captures.idle rfl rfl
  | emit calling phase atPosition isShared step =>
      refine captures.moves isShared ?_ rfl
      cases step <;> rfl
  | owner call isShared => exact captures.moves isShared rfl rfl

/-- In every run the failure buffers are called as its steps say. -/
theorem Captures.of_runs (run : self.system.Runs trace state)
    (isEmitter : self.layers[emitter]? = some layers) : Captures emitter layers trace state := by
  apply run.history fun trace (state : PipelineState) => Captures emitter layers trace state
  case initial =>
      intro state valid
      obtain ⟨clock, isShared⟩ := valid.shared
      refine ⟨.start layers clock, ?_, rfl⟩
      rw [isShared, List.getElem?_map, isEmitter]
      rfl
  case preserved => exact fun _ captures step => captures.step step

/-! ### What has become of what was kept -/

/-- The answers to the flush loop name the slices. -/
private theorem slices_eq (emitter : Nat) (history : List HubEvent) :
    HubHistory.slices emitter history =
      (history.filterMap (HubEvent.emitted emitter)).map Prod.fst := by
  rw [HubHistory.slices, List.map_filterMap]
  congr 1
  funext event
  cases event with
  | offered position events succeeded =>
      simp only [HubEvent.slice, HubEvent.emitted]
      split <;> rfl
  | _ => rfl

/-- What has become of what a hub has kept for an emitter, given the slices it was offered. -/
structure Accounted (pipeline : Pipeline) (emitter : Nat) (layers : ResilientEmitter)
    (trace : List PipelineEvent) (state : PipelineState) (offers : List Offer) : Prop where
  /-- Each kept message which is routed to the emitter is in one slice, in order and with every
  field. -/
  kept : List.Forall₂ Event.Carries (offers.flatMap Offer.batch)
    ((Hub.kept pipeline.hub (PipelineHistory.hub trace)).filter
      (·.shouldRouteTo layers.build.name))
  /-- Nothing else has been done inside of the emitter. -/
  steps : (stack emitter trace).filter (!·.isOwned) = offers.flatMap Offer.own
  /-- The wrapped emitter is called with whole slices, with few attempts for each. -/
  attempts : ∀ offer ∈ offers, ∃ count ≤ layers.maxAttempts.toNat + 1,
    sent offer.own = List.replicate count offer.batch
  /-- It accepts a slice once if the call has succeeded, and never if it has failed. -/
  accepted : ∀ offer ∈ offers,
    (results offer.own).countP (· = .ok ()) = if offer.result = .ok () then 1 else 0
  /-- If whole batches are captured, then those are captured whose call has failed. -/
  captured : ∀ buffer config, layers.failureCapture = some (buffer, config) →
    config.storeFullBatch = true →
      (captures (stack emitter trace)).flatten.map FailedEvent.event =
        (offers.filter (·.result ≠ .ok ())).flatMap Offer.batch
  /-- They are handed to the failure buffer. -/
  handed : (captures (stack emitter trace)).flatten.Sublist
    (handedFailures (failureCalls (stack emitter trace)))
  /-- What that has held or been handed is taken, dropped and counted, or held. -/
  ledger : ∀ buffer config, layers.failureCapture = some (buffer, config) →
    ∃ shared dropped, state.shared[emitter]? = some shared ∧
      (buffer.events ++ handedFailures (failureCalls (stack emitter trace))).Perm
        ((buffer.replay (failureCalls (stack emitter trace))).1 ++ dropped ++
          shared.failures.events) ∧
      (0 < buffer.capacity →
        shared.failures.totalDropped = buffer.totalDropped + dropped.length)

/-- An emitter which fails once, with failure capture around it. -/
def capturingEmitter : ResilientEmitter :=
  (ResilientEmitter.wrap (failing 1)).withFailureCapture (.new 2) .default

/-- A hub with this emitter. -/
def capturingPipeline : Pipeline where
  hub := { Hub.new with emitters := ["failure_capture"] }
  layers := [capturingEmitter]
  emitters := rfl

/-- It starts with everything empty. -/
def capturingStart : PipelineState where
  hub := .start capturingPipeline.hub none
  shared := [.start capturingEmitter 0]
  call := none

/-- A message is sent and kept, the emitter fails, and the hub returns. -/
def capturingRun : capturingPipeline.system.Execution :=
  (@System.Execution.initial _ capturingPipeline.system capturingStart
      ⟨⟨none, rfl⟩, ⟨0, rfl⟩, rfl⟩)
    |>.snoc (.sender (.send (Hub.broadcast "a") rfl (by decide)))
    |>.snoc (.sender (.close rfl))
    |>.snoc (.receiver (.receive rfl rfl))
    |>.snoc (.receiver (.pass rfl rfl))
    |>.snoc (.receiver (.push rfl rfl))
    |>.snoc (.receiver (.finish rfl rfl rfl))
    |>.snoc (.receiver (.signal rfl))
    |>.snoc (.flusher rfl (by simp) (.checkShutdown rfl))
    |>.snoc (.flusher rfl (by simp) (.checkEmpty rfl))
    |>.snoc (.flusher rfl (by simp) (.wake rfl))
    |>.snoc (.flusher rfl (by simp) (.drain rfl rfl))
    |>.snoc (.flusher rfl (by simp) (.measure rfl))
    |>.snoc (.call rfl rfl rfl rfl)
    |>.snoc (.emit rfl rfl rfl rfl (.call 0 rfl))
    |>.snoc (.emit rfl rfl rfl rfl (.answer (.error (.send "down"))))
    |>.snoc (.emit rfl rfl rfl rfl (.capture ⟨fun _ => 0, 0, fun _ => 0, 0⟩ rfl))
    |>.snoc (.finish rfl (.offer _ rfl rfl rfl))
    |>.snoc (.flusher rfl (by simp) (.finish rfl (by decide)))
    |>.snoc (.flusher rfl (by simp) (.checkShutdown rfl))
    |>.snoc (.flusher rfl (by simp) (.checkEmpty rfl))
    |>.snoc (.receiver (.join rfl rfl))

end Pipeline

end Polku
