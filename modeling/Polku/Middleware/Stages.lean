import Polku.Middleware.Aggregator

/-!
# The stages of a chain

`Filter`, `Transform`, `Router` and `Aggregator` as values of `dyn Middleware`. The
closures are pure functions. A `Stage` is one of the four, with what it holds.
-/

namespace Polku

/-- Keeps the messages which satisfy a predicate. -/
structure Filter where
  predicate : Message → Bool

namespace Filter

/-- Pass a message on, or drop it. -/
def process (self : Filter) (msg : Message) : Option Message :=
  if self.predicate msg then some msg else none

end Filter

/-- Modifies every message. -/
structure Transform where
  transformFn : Message → Message

namespace Transform

/-- Pass the modified message on. -/
def process (self : Transform) (msg : Message) : Option Message := some (self.transformFn msg)

end Transform

/-- Routes messages by content: the targets of the first matching rule. -/
structure Router where
  rules : List (Message → Option (List String))

namespace Router

/-- A router without rules. -/
def new : Router := ⟨[]⟩

/-- Add a rule. -/
def rule (self : Router) (matcher : Message → Bool) (targets : List String) : Router :=
  ⟨self.rules ++ [fun msg => if matcher msg then some targets else none]⟩

/-- Route by the prefix of the message type. -/
def routeTypePrefix (self : Router) (start : String) (targets : List String) : Router :=
  self.rule (fun msg => msg.messageType.startsWith start) targets

/-- Route by source. -/
def routeSource (self : Router) (source : String) (targets : List String) : Router :=
  self.rule (fun msg => msg.source = source) targets

/-- Route what no earlier rule matches. -/
def defaultRoute (self : Router) (targets : List String) : Router :=
  self.rule (fun _ => true) targets

/-- Set the targets of the first matching rule; without one, the message keeps its
routes. -/
def process (self : Router) (msg : Message) : Option Message :=
  match self.rules.findSome? (· msg) with
  | some targets => some (msg.withRoutes targets)
  | none => some msg

end Router

namespace Aggregator

/-- Only an empty batch is not combined. -/
theorem combine_isSome (self : Aggregator) (json : SerdeJson) (stamp : Stamp)
    (messages : List Message) (some : messages ≠ []) :
    (self.combine json stamp messages).isSome := by
  cases messages with
  | nil => exact absurd rfl some
  | cons first rest => rfl

/-- Processing a message never panics. -/
theorem process_isSome (self : Aggregator) (json : SerdeJson) (stamp : Stamp) (msg : Message) :
    (self.process json stamp msg).isSome := by
  unfold process
  dsimp only
  split
  · rw [Option.isSome_map]
    exact self.combine_isSome json stamp _ (by simp)
  · rfl

/-- What a message becomes, and the aggregator after it. -/
def step (self : Aggregator) (json : SerdeJson) (stamp : Stamp) (msg : Message) :
    Option Message × Aggregator :=
  (self.process json stamp msg).get (self.process_isSome json stamp msg)

/-- A message is what some messages are combined to, at some time. -/
def Combines (self : Aggregator) (json : SerdeJson) (messages : List Message)
    (combined : Message) : Prop :=
  ∃ stamp, self.combine json stamp messages = some combined

/-- A message which does not complete a batch is held. -/
theorem step_of_room (self : Aggregator) (json : SerdeJson) (stamp : Stamp) (msg : Message)
    (room : self.buffer.length + 1 < self.batchSize) :
    self.step json stamp msg = (none, { self with buffer := self.buffer ++ [msg] }) := by
  have notFull : ¬ self.batchSize ≤ (self.buffer ++ [msg]).length := by simpa using room
  simp only [step, process, notFull, if_false, Option.get_some]

/-- A message which completes a batch is combined with what is held. -/
theorem exists_combine (self : Aggregator) (json : SerdeJson) (stamp : Stamp) (msg : Message)
    (full : self.batchSize ≤ self.buffer.length + 1) :
    ∃ combined, self.combine json stamp (self.buffer ++ [msg]) = some combined ∧
      self.step json stamp msg = (some combined, { self with buffer := [] }) := by
  have isFull : self.batchSize ≤ (self.buffer ++ [msg]).length := by simpa using full
  obtain ⟨combined, isCombined⟩ := Option.isSome_iff_exists.mp
    (self.combine_isSome json stamp (self.buffer ++ [msg]) (by simp))
  refine ⟨combined, isCombined, ?_⟩
  simp only [step, process, isFull, if_true, isCombined, Option.map_some, Option.get_some]

/-- At whatever time it is. -/
theorem step_of_full (self : Aggregator) (json : SerdeJson) (stamp : Stamp) (msg : Message)
    (full : self.batchSize ≤ self.buffer.length + 1) :
    ∃ combined, self.Combines json (self.buffer ++ [msg]) combined ∧
      self.step json stamp msg = (some combined, { self with buffer := [] }) := by
  obtain ⟨combined, isCombined, stepped⟩ := self.exists_combine json stamp msg full
  exact ⟨combined, ⟨stamp, isCombined⟩, stepped⟩

/-- How many messages were combined can be read off the combined message. -/
theorem Combines.length_eq {self : Aggregator} {json : SerdeJson} {left right : List Message}
    {combined : Message} (isLeft : self.Combines json left combined)
    (isRight : self.Combines json right combined) : left.length = right.length := by
  have counted : ∀ messages, self.Combines json messages combined →
      combined.metadata.lookup "polku.aggregator.count" = some (toString messages.length) := by
    rintro messages ⟨stamp, isCombined⟩
    cases messages with
    | nil => cases isCombined
    | cons first rest =>
        obtain rfl := Option.some.inj isCombined
        exact Finmap.lookup_insert _
  have sameText := Option.some.inj ((counted left isLeft).symm.trans (counted right isRight))
  have sameDigits := congrArg String.toList sameText
  rw [Nat.toString_eq_ofList_toDigits, Nat.toString_eq_ofList_toDigits, String.toList_ofList,
    String.toList_ofList] at sameDigits
  have read := congrArg (Nat.ofDigitChars 10 · 0) sameDigits
  simpa using read

/-- An aggregator as middleware. The calls read one stamp after another, starting
with number `calls`. -/
def middleware (self : Aggregator) (json : SerdeJson) (stamps : Nat → Stamp) (calls : Nat) :
    Middleware where
  name := "aggregator"
  State := Aggregator × Nat
  state := (self, calls)
  process state msg :=
    let (result, next) := state.1.step json (stamps state.2) msg
    (result, (next, state.2 + 1))

/-- An aggregator and its middleware take the same step. -/
theorem middleware_step (self : Aggregator) (json : SerdeJson) (stamps : Nat → Stamp)
    (calls : Nat) (msg : Message) :
    (self.middleware json stamps calls).step msg =
      ((self.step json (stamps calls) msg).1,
        (self.step json (stamps calls) msg).2.middleware json stamps (calls + 1)) := rfl

/-- What a chain of one aggregator lets through: the messages, after those held before,
combined in batches, but for some at the end which are too few. -/
theorem survivors_spec (self : Aggregator) (json : SerdeJson) (stamps : Nat → Stamp)
    (calls : Nat) (messages : List Message) (room : self.buffer.length < self.batchSize) :
    ∃ parts held, parts.flatten ++ held = self.buffer ++ messages ∧
      (∀ part ∈ parts, part.length = self.batchSize) ∧ held.length < self.batchSize ∧
      List.Forall₂ (self.Combines json) parts
        ((⟨[self.middleware json stamps calls]⟩ : MiddlewareChain).survivors messages) := by
  induction messages generalizing self calls with
  | nil => exact ⟨[], self.buffer, by simp, by simp, room, .nil⟩
  | cons msg messages inductionHypothesis =>
      rw [MiddlewareChain.survivors_cons, MiddlewareChain.process_singleton, middleware_step]
      rcases Nat.lt_or_ge (self.buffer.length + 1) self.batchSize with short | full
      · rw [self.step_of_room json (stamps calls) msg short]
        obtain ⟨parts, held, whole, sizes, few, combines⟩ :=
          inductionHypothesis { self with buffer := self.buffer ++ [msg] } (calls + 1)
            (by simpa using short)
        exact ⟨parts, held, by simpa using whole, sizes, few, combines⟩
      · obtain ⟨combined, isCombined, stepped⟩ := self.step_of_full json (stamps calls) msg full
        rw [stepped]
        obtain ⟨parts, held, whole, sizes, few, combines⟩ :=
          inductionHypothesis { self with buffer := [] } (calls + 1) self.positive
        refine ⟨(self.buffer ++ [msg]) :: parts, held, ?_, ?_, few, .cons isCombined combines⟩
        · simpa using whole
        · intro part member
          rcases List.mem_cons.mp member with rfl | later
          · simp only [List.length_append, List.length_singleton]
            omega
          · exact sizes part later

end Aggregator

/-- A stage of a chain. -/
inductive Stage where
  | filter (self : Filter)
  | transform (self : Transform)
  | router (self : Router)
  | aggregator (json : SerdeJson) (stamps : Nat → Stamp) (calls : Nat) (self : Aggregator)

namespace Stage

/-- A stage as middleware. -/
def middleware : Stage → Middleware
  | .filter self => ⟨"filter", Unit, (), fun _ msg => (self.process msg, ())⟩
  | .transform self => ⟨"transform", Unit, (), fun _ msg => (self.process msg, ())⟩
  | .router self => ⟨"router", Unit, (), fun _ msg => (self.process msg, ())⟩
  | .aggregator json stamps calls self => self.middleware json stamps calls

/-- What a message becomes, and the stage after it. -/
def step : Stage → Message → Option Message × Stage
  | .filter self, msg => (self.process msg, .filter self)
  | .transform self, msg => (self.process msg, .transform self)
  | .router self, msg => (self.process msg, .router self)
  | .aggregator json stamps calls self, msg =>
      let (result, next) := self.step json (stamps calls) msg
      (result, .aggregator json stamps (calls + 1) next)

/-- A stage and its middleware take the same step. -/
theorem middleware_step (self : Stage) (msg : Message) :
    self.middleware.step msg = ((self.step msg).1, (self.step msg).2.middleware) := by
  cases self <;> rfl

end Stage

end Polku
