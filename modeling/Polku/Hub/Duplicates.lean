import Polku.Hub.Delivery
import Polku.Middleware.Duplicates

/-!
# No duplicates

A deduplicator anywhere in the chain of a hub keeps duplicates from every emitter, if no later
stage gives a message another id.
-/

namespace Polku

open Data Semantics Buffer

namespace Hub

open HubHistory

variable {hub : Hub} {trace : List HubEvent} {machine : HubState}

/-- At any time each emitter has been offered only messages which have survived the middleware,
each at most once and in order. -/
theorem slices_sublist (run : (HubState.system hub).Runs trace machine) {emitter : Nat}
    {name : String} (isEmitter : hub.emitters[emitter]? = some name) :
    (slices emitter trace).flatten.Sublist
      ((hub.middleware.survivors (sent trace)).map Message.toEvent) := by
  have holds := Delivering.of_runs run
  obtain ⟨processed, sentSoFar, -, survived⟩ := holds.receives
  have arrived := (RingBuffer.new hub.bufferCapacity).ledger_arrived (bufferCalls hub trace)
  have drained : (batches trace).flatten.Sublist (handed (bufferCalls hub trace)) := by
    have inOrder := Ledger.departedFor_sublist
      ((RingBuffer.new hub.bufferCapacity).ledger (bufferCalls hub trace)) (· == .drained)
    rw [arrived] at inOrder
    rw [holds.buffers.drained]
    exact inOrder
  have pushed : (handed (bufferCalls hub trace)).Sublist
      (hub.middleware.survivors (sent trace)) := by
    have first := hub.middleware.survivors_prefix processed
      (input machine.receiver ++ machine.channel)
    rw [← List.append_assoc, ← sentSoFar, survived] at first
    exact (List.sublist_append_left _ _).trans first.sublist
  have offered := congrArg List.flatten (holds.offers emitter name isEmitter)
  rw [List.flatten_append, flatten_slices] at offered
  have slices := List.sublist_append_left (slices emitter trace).flatten
    (pending emitter name machine.flusher).flatten
  rw [offered] at slices
  exact slices.trans ((List.filter_sublist.trans (drained.trans pushed)).map Message.toEvent)

/-- If a chain has a new deduplicator somewhere, whose calls read the clock one after another,
and the stages after it leave ids as they are, then in every state of every run of the hub
the events offered to each emitter, in order, are among the messages which passed the
deduplicator: of two with one id the later one came after the time to live, and what was
withheld was a duplicate. -/
theorem hub_deduplicates (hub : Hub) {before after : List Middleware} {dedup : Deduplicator}
    (new : dedup.seen = ∅) {times : Nat → Nat} (clock : Monotone times)
    (chain : hub.middleware = ⟨before ++ dedup.middleware times 0 :: after⟩)
    (keep : ∀ mw ∈ after, mw.KeepsId) {trace : List HubEvent} {machine : HubState}
    (run : (HubState.system hub).Runs trace machine) :
    ∃ passes, Deduplicator.Passes dedup.ttl []
        (Deduplicator.reads times 0 ((⟨before⟩ : MiddlewareChain).survivors (sent trace)))
        passes ∧
      ∀ (emitter : Nat) (name : String), hub.emitters[emitter]? = some name →
        ∃ offers : List (Nat × String), offers.Sublist passes ∧
          (slices emitter trace).flatten.map Event.id = offers.map Prod.snd := by
  have remembers : Window.Remembers dedup.ttl [] 0 dedup.seen := by
    rw [new]
    exact Window.remembers_empty dedup.ttl 0
  obtain ⟨passes, pass, ids⟩ := Deduplicator.survivors_passes clock remembers
    (Nat.zero_le _) ((⟨before⟩ : MiddlewareChain).survivors (sent trace))
  refine ⟨passes, pass, fun emitter name isEmitter => ?_⟩
  have offered := (slices_sublist run isEmitter).map Event.id
  have kept := MiddlewareChain.survivors_ids_sublist keep
    ((⟨[dedup.middleware times 0]⟩ : MiddlewareChain).survivors
      ((⟨before⟩ : MiddlewareChain).survivors (sent trace)))
  rw [← ids, ← MiddlewareChain.survivors_append, ← MiddlewareChain.survivors_append] at kept
  have sameId : Event.id ∘ Message.toEvent = Message.id := rfl
  rw [List.map_map, sameId, chain] at offered
  exact List.sublist_map_iff.mp (offered.trans kept)

/-- A hub with a deduplicator, whose calls read the clock every ten units, before a router. -/
def dedupHub : Hub :=
  { Hub.new with
    middleware := .add (.add .new ((Deduplicator.new 15).middleware (10 * ·) 0))
      (Stage.router .new).middleware
    emitters := ["stdout"] }

/-- A message is sent twice before the first flush. -/
def dedupRun : (HubState.system dedupHub).Execution :=
  (System.Execution.initial ⟨none, rfl⟩ : (HubState.system dedupHub).Execution)
    |>.snoc (.sender (.send (broadcast "a") rfl (by decide)))
    |>.snoc (.sender (.send (broadcast "a") rfl (by decide)))
    |>.snoc (.receiver (.receive rfl rfl))
    |>.snoc (.receiver (.pass rfl rfl))
    |>.snoc (.receiver (.push rfl rfl))
    |>.snoc (.receiver (.receive rfl rfl))
    |>.snoc (.receiver (.filter rfl rfl))
    |>.snoc (.flusher (.checkShutdown rfl))
    |>.snoc (.flusher (.wake rfl))
    |>.snoc (.flusher (.drain rfl rfl))
    |>.snoc (.flusher (.measure rfl))
    |>.snoc (.flusher (.offer true rfl rfl rfl))

/-- It is offered once. -/
theorem hub_deduplicates_twice :
    slices 0 dedupRun.trace = [[⟨"a", 0, "app", "created", ∅, [], []⟩]] ∧
    ∃ passes, Deduplicator.Passes 15 [] [(0, "a"), (10, "a")] passes ∧
      ∀ (emitter : Nat) (name : String), dedupHub.emitters[emitter]? = some name →
        ∃ offers : List (Nat × String), offers.Sublist passes ∧
          (slices emitter dedupRun.trace).flatten.map Event.id = offers.map Prod.snd :=
  ⟨by decide, @hub_deduplicates dedupHub [] _ (Deduplicator.new 15) rfl (10 * ·)
    (fun _ _ order => Nat.mul_le_mul_left 10 order) rfl
    (by simpa using Stage.keepsId_router .new) _ _ dedupRun.runs⟩

end Hub

end Polku
