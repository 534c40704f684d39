import Mathlib.Data.Option.Basic
import Polku.Middleware.Annotation
import Polku.Middleware.Dedup
import Polku.Middleware.Sampler

/-!
# What metadata decides

Messages which differ in their metadata only are alike. A middleware is blind if it treats
such messages alike, and so do chains of blind middlewares, also if one of them annotates
messages on the way.
-/

namespace Polku

open Data

namespace Message

/-- A message without its metadata. -/
def plain (self : Message) : Message := { self with metadata := ∅ }

/-- Two messages differ in their metadata at most. -/
def Alike (first second : Message) : Prop := first.plain = second.plain

@[refl] theorem Alike.refl (msg : Message) : msg.Alike msg := Eq.refl _

@[symm] theorem Alike.symm {first second : Message} (alike : first.Alike second) :
    second.Alike first := Eq.symm alike

/-- Other metadata makes no difference. -/
theorem alike_of_metadata (msg : Message) (metadata : HashMap String String) :
    ({ msg with metadata := metadata } : Message).Alike msg := Eq.refl _

/-- Messages are alike if they agree in everything else. -/
theorem alike_iff {first second : Message} : first.Alike second ↔
    first.id = second.id ∧ first.timestamp = second.timestamp ∧ first.source = second.source ∧
      first.messageType = second.messageType ∧ first.payload = second.payload ∧
      first.routeTo = second.routeTo := by
  simp [Alike, plain]

end Message

/-- What two calls return, if anything, is alike. -/
abbrev AlikeResults : Option Message → Option Message → Prop := Option.Rel Message.Alike

theorem AlikeResults.symm {result result' : Option Message} (alike : AlikeResults result result') :
    AlikeResults result' result := by
  cases alike with
  | none => exact .none
  | some same => exact .some same.symm

namespace Middleware

/-- Messages which are alike are treated alike for ever. -/
def Alike (first second : Middleware) : Prop :=
  ∃ related : first.State → second.State → Prop, related first.state second.state ∧
    ∀ state state' msg msg', related state state' → msg.Alike msg' →
      AlikeResults (first.process state msg).1 (second.process state' msg').1 ∧
        related (first.process state msg).2 (second.process state' msg').2

/-- A middleware which does not look at metadata. -/
def Blind (self : Middleware) : Prop := self.Alike self

/-- A middleware which passes every message on and changes its metadata at most. -/
def Passes (self : Middleware) : Prop :=
  ∀ state msg, ∃ result, (self.process state msg).1 = some result ∧ result.Alike msg

variable {first second : Middleware} {msg msg' : Message}

/-- They are still alike after a call. -/
theorem Alike.step (alike : first.Alike second) (same : msg.Alike msg') :
    AlikeResults (first.step msg).1 (second.step msg').1 ∧
      (first.step msg).2.Alike (second.step msg').2 := by
  obtain ⟨related, isRelated, keeps⟩ := alike
  obtain ⟨results, still⟩ := keeps _ _ _ _ isRelated same
  exact ⟨results, related, still, keeps⟩

/-- The second of two such middlewares treats messages like the first. -/
theorem Alike.symm (alike : first.Alike second) : second.Alike first := by
  obtain ⟨related, isRelated, keeps⟩ := alike
  refine ⟨fun state state' => related state' state, isRelated, ?_⟩
  intro state state' msg msg' relatedNow same
  obtain ⟨results, still⟩ := keeps state' state msg' msg relatedNow same.symm
  exact ⟨AlikeResults.symm results, still⟩

/-- After a call it still passes everything on. -/
theorem Passes.step (passes : first.Passes) (msg : Message) :
    (∃ result, (first.step msg).1 = some result ∧ result.Alike msg) ∧
      (first.step msg).2.Passes :=
  ⟨passes first.state msg, passes⟩

end Middleware

namespace MiddlewareChain

/-- Chains which differ by middlewares which pass every message on. -/
inductive Alike : List Middleware → List Middleware → Prop where
  | nil : Alike [] []
  | both {first second rest rest'} (same : first.Alike second) (others : Alike rest rest') :
      Alike (first :: rest) (second :: rest')
  | left {first rest rest'} (passes : first.Passes) (others : Alike rest rest') :
      Alike (first :: rest) rest'
  | right {second rest rest'} (passes : second.Passes) (others : Alike rest rest') :
      Alike rest (second :: rest')

/-- It does not matter which of the chains comes first. -/
theorem Alike.symm {firsts seconds : List Middleware} (alike : Alike firsts seconds) :
    Alike seconds firsts := by
  induction alike with
  | nil => exact .nil
  | both same _ inductionHypothesis => exact .both same.symm inductionHypothesis
  | left passes _ inductionHypothesis => exact .right passes inductionHypothesis
  | right passes _ inductionHypothesis => exact .left passes inductionHypothesis

/-- What a first middleware passes on goes through the others. -/
theorem processAll_cons {first next : Middleware} {rest : List Middleware} {msg result : Message}
    (passed : first.step msg = (some result, next)) :
    processAll (first :: rest) msg =
      ((processAll rest result).1, next :: (processAll rest result).2) := by
  rw [processAll, passed]

/-- Such chains treat messages which are alike alike. -/
theorem Alike.processAll {firsts seconds : List Middleware} (alike : Alike firsts seconds)
    {msg msg' : Message} (same : msg.Alike msg') :
    AlikeResults (MiddlewareChain.processAll firsts msg).1
        (MiddlewareChain.processAll seconds msg').1 ∧
      Alike (MiddlewareChain.processAll firsts msg).2
        (MiddlewareChain.processAll seconds msg').2 := by
  induction alike generalizing msg msg' with
  | nil => exact ⟨.some same, .nil⟩
  | @both first second rest rest' sameHere others inductionHypothesis =>
      obtain ⟨results, still⟩ := sameHere.step same
      rw [MiddlewareChain.processAll, MiddlewareChain.processAll]
      rcases firstStep : first.step msg with ⟨_ | result, next⟩ <;>
        rcases secondStep : second.step msg' with ⟨_ | result', next'⟩ <;>
        rw [firstStep, secondStep] at results still
      · exact ⟨.none, .both still others⟩
      · cases results
      · cases results
      · cases results with
        | some sameResult =>
            obtain ⟨laterResults, laterStill⟩ := inductionHypothesis sameResult
            exact ⟨laterResults, .both still laterStill⟩
  | @left first rest rest' passes others inductionHypothesis =>
      obtain ⟨⟨result, isResult, unchanged⟩, still⟩ := passes.step msg
      rcases firstStep : first.step msg with ⟨answer, next⟩
      rw [firstStep] at isResult still
      obtain rfl : answer = some result := isResult
      obtain ⟨laterResults, laterStill⟩ := inductionHypothesis (unchanged.trans same)
      rw [processAll_cons firstStep]
      exact ⟨laterResults, .left still laterStill⟩
  | @right second rest rest' passes others inductionHypothesis =>
      obtain ⟨⟨result, isResult, unchanged⟩, still⟩ := passes.step msg'
      rcases secondStep : second.step msg' with ⟨answer, next⟩
      rw [secondStep] at isResult still
      obtain rfl : answer = some result := isResult
      obtain ⟨laterResults, laterStill⟩ := inductionHypothesis (same.trans unchanged.symm)
      rw [processAll_cons secondStep]
      exact ⟨laterResults, .right still laterStill⟩

end MiddlewareChain

/-! ### Which middlewares annotate -/

/-- An enricher passes everything on. -/
theorem Enricher.passes (self : Enricher) : self.middleware.Passes := fun _ msg =>
  ⟨_, rfl, msg.alike_of_metadata _⟩

/-- A validator which tags passes everything on. -/
theorem Validator.passes {self : Validator} (tags : self.onInvalid = .tag) :
    self.middleware.Passes := by
  intro _ msg
  simp only [middleware, process, tags]
  cases self.validateFn msg with
  | valid => exact ⟨msg, rfl, .refl msg⟩
  | invalid reason => exact ⟨tag msg reason, rfl, msg.alike_of_metadata _⟩

/-! ### Which middlewares are blind -/

/-- A function of messages which does not depend on their metadata. -/
def Message.Plain {α : Type} (f : Message → α) : Prop := ∀ msg msg', msg.Alike msg' → f msg = f msg'

/-- A middleware without a state is blind if its results are alike. -/
private theorem blind_of_pure (name : String) {process : Message → Option Message}
    (alike : ∀ msg msg', msg.Alike msg' → AlikeResults (process msg) (process msg')) :
    (⟨name, Unit, (), fun _ msg => (process msg, ())⟩ : Middleware).Blind :=
  ⟨fun _ _ => True, trivial, fun _ _ msg msg' _ same => ⟨alike msg msg' same, trivial⟩⟩

/-- A middleware which decides by its state and by what is not metadata, and changes no
message, is blind. -/
private theorem blind_of_gate (name : String) {State : Type} (initial : State)
    {gate : State → Message → Bool × State}
    (plain : ∀ state msg msg', msg.Alike msg' → gate state msg = gate state msg') :
    (⟨name, State, initial, fun state msg =>
      (if (gate state msg).1 then some msg else none, (gate state msg).2)⟩ :
        Middleware).Blind := by
  refine ⟨Eq, rfl, ?_⟩
  rintro state _ msg msg' rfl same
  dsimp only
  rw [plain state msg msg' same]
  refine ⟨?_, rfl⟩
  split
  · exact .some same
  · exact .none

/-- A filter is blind if its predicate does not look at metadata. -/
theorem Filter.blind {self : Filter} (plain : Message.Plain self.predicate) :
    (Stage.filter self).middleware.Blind := by
  apply blind_of_pure
  intro msg msg' same
  rw [process, process, plain msg msg' same]
  split
  · exact .some same
  · exact .none

/-- A transformation is blind if it makes of metadata at most metadata. -/
theorem Transform.blind {self : Transform}
    (alike : ∀ msg msg', msg.Alike msg' → (self.transformFn msg).Alike (self.transformFn msg')) :
    (Stage.transform self).middleware.Blind :=
  blind_of_pure _ fun msg msg' same => .some (alike msg msg' same)

/-- A router is blind if its rules do not look at metadata. -/
theorem Router.blind {self : Router} (plain : ∀ rule ∈ self.rules, Message.Plain rule) :
    (Stage.router self).middleware.Blind := by
  apply blind_of_pure
  intro msg msg' same
  have sameTargets : self.rules.findSome? (· msg) = self.rules.findSome? (· msg') := by
    obtain ⟨rules⟩ := self
    induction rules with
    | nil => rfl
    | cons rule rules inductionHypothesis =>
        obtain ⟨first, others⟩ := List.forall_mem_cons.mp plain
        rw [List.findSome?_cons, List.findSome?_cons, first msg msg' same,
          inductionHypothesis others]
  rw [process, process, sameTargets]
  split
  · refine .some (Message.alike_iff.mpr ?_)
    obtain ⟨id, timestamp, source, messageType, payload, -⟩ := Message.alike_iff.mp same
    exact ⟨id, timestamp, source, messageType, payload, rfl⟩
  · exact .some same

/-- Routing by source, by the prefix of the type and by default looks at no metadata. -/
theorem Router.plain_rules (source start : String) (targets : List String) :
    (∀ rule ∈ (Router.new.routeSource source targets).rules, Message.Plain rule) ∧
      (∀ rule ∈ (Router.new.routeTypePrefix start targets).rules, Message.Plain rule) ∧
      ∀ rule ∈ (Router.new.defaultRoute targets).rules, Message.Plain rule := by
  refine ⟨?_, ?_, ?_⟩ <;> intro rule member msg msg' same <;>
    obtain ⟨-, -, sameSource, sameType, -⟩ := Message.alike_iff.mp same
  · obtain rfl := List.mem_singleton.mp member
    simp only [sameSource]
  · obtain rfl := List.mem_singleton.mp member
    simp only [sameType]
  · obtain rfl := List.mem_singleton.mp member
    rfl

/-- A validator which drops is blind if it does not look at metadata. -/
theorem Validator.blind {self : Validator} (drops : self.onInvalid = .drop)
    (plain : Message.Plain self.validateFn) : self.middleware.Blind := by
  apply blind_of_pure
  intro msg msg' same
  rw [process, process, plain msg msg' same, drops]
  split
  · exact .some same
  · exact .none

/-- The validators of JSON and of sizes look at no metadata. -/
theorem Validator.plain_payload (readError : Bytes → Option String) (maxBytes : Nat) :
    Message.Plain (json readError).validateFn ∧ Message.Plain nonEmpty.validateFn ∧
      Message.Plain (maxSize maxBytes).validateFn := by
  refine ⟨?_, ?_, ?_⟩ <;> intro msg msg' same <;>
    obtain ⟨-, -, -, -, payload, -⟩ := Message.alike_iff.mp same
  · simp only [json, new, payload]
  · simp only [nonEmpty, new, payload]
  · simp only [maxSize, new, payload]

/-- A sampler is blind. -/
theorem Sampler.blind (self : Sampler) : self.middleware.Blind :=
  @blind_of_gate "sampler" Sampler self (fun state _ => state.shouldSample) fun _ _ _ _ => rfl

/-- A deduplicator as middleware. Its calls read the times `times`, one after another,
starting with number `calls`. -/
def Deduplicator.middleware (self : Deduplicator) (times : Nat → Nat) (calls : Nat) :
    Middleware where
  name := "deduplicator"
  State := Deduplicator × Nat
  state := (self, calls)
  process state msg :=
    let (result, next) := state.1.process (times state.2) msg
    (result, (next, state.2 + 1))

/-- A deduplicator is blind. -/
theorem Deduplicator.blind (self : Deduplicator) (times : Nat → Nat) (calls : Nat) :
    (self.middleware times calls).Blind := by
  refine ⟨Eq, rfl, ?_⟩
  rintro state _ msg msg' rfl same
  have sameId : msg.id = msg'.id := (Message.alike_iff.mp same).1
  simp only [middleware, process, sameId]
  refine ⟨?_, trivial⟩
  split
  · exact .some same
  · exact .none

namespace Aggregator

/-- What is combined of messages does not depend on their metadata, but for the metadata. -/
theorem combine_alike (self : Aggregator) (json : SerdeJson) (stamp : Stamp)
    {messages messages' : List Message}
    (same : messages.map Message.plain = messages'.map Message.plain) :
    AlikeResults (self.combine json stamp messages) (self.combine json stamp messages') := by
  have payloads : ∀ first (messages : List Message), combinePayloads json self.strategy first
      messages = combinePayloads json self.strategy first.plain (messages.map Message.plain) := by
    intro first messages
    cases self.strategy with
    | jsonArray => simp [combinePayloads, Message.plain, Message.payloadStr, Function.comp_def]
    | concat => simp [combinePayloads, Message.plain, List.flatMap_map]
    | last => simp [combinePayloads, Message.plain, List.getLast?_map, Function.comp_def]
    | first => rfl
  have sources : ∀ first (messages : List Message), combineSources first messages =
      combineSources first.plain (messages.map Message.plain) := by
    intro first messages
    rw [combineSources, combineSources, List.all_map]
    rfl
  have routes : ∀ messages : List Message,
      combineRoutes messages = combineRoutes (messages.map Message.plain) := by
    intro messages
    simp [combineRoutes, Message.plain, List.flatMap_map]
  cases messages with
  | nil =>
      obtain rfl := List.map_eq_nil_iff.mp same.symm
      exact .none
  | cons first rest =>
      obtain ⟨first', rest', rfl, sameFirst, -⟩ := List.map_eq_cons_iff.mp same.symm
      refine .some (Message.alike_iff.mpr ⟨rfl, rfl, ?_, ?_, ?_, ?_⟩)
      · rw [sources first, sources first', same, sameFirst]
      · exact congrArg (fun msg => msg.messageType ++ ".aggregate") sameFirst.symm
      · rw [payloads first, payloads first', same, sameFirst]
      · rw [routes, same, ← routes]

/-- How messages are combined depends on the strategy only. -/
private theorem combine_of_strategy {first second : Aggregator}
    (same : first.strategy = second.strategy) (json : SerdeJson) (stamp : Stamp)
    (messages : List Message) :
    first.combine json stamp messages = second.combine json stamp messages := by
  cases messages with
  | nil => rfl
  | cons msg rest => rw [combine, combine, same]

/-- Two aggregators which hold messages that are alike. -/
structure Alike (first second : Aggregator) : Prop where
  batchSize : first.batchSize = second.batchSize
  strategy : first.strategy = second.strategy
  buffer : first.buffer.map Message.plain = second.buffer.map Message.plain

/-- They combine alike, and then hold nothing, or hold one more message each. -/
theorem Alike.step {first second : Aggregator} (alike : first.Alike second) (json : SerdeJson)
    (stamp : Stamp) {msg msg' : Message} (same : msg.Alike msg') :
    AlikeResults (first.step json stamp msg).1 (second.step json stamp msg').1 ∧
      (first.step json stamp msg).2.Alike (second.step json stamp msg').2 := by
  obtain ⟨sameSize, sameStrategy, sameBuffer⟩ := alike
  have grown : (first.buffer ++ [msg]).map Message.plain =
      (second.buffer ++ [msg']).map Message.plain := by
    rw [List.map_append, List.map_append, sameBuffer]
    exact congrArg (_ ++ [·]) same
  have sameLength : first.buffer.length = second.buffer.length := by
    simpa using congrArg List.length sameBuffer
  rcases Nat.lt_or_ge (first.buffer.length + 1) first.batchSize with room | full
  · rw [first.step_of_room json stamp msg room,
      second.step_of_room json stamp msg' (by omega)]
    exact ⟨.none, sameSize, sameStrategy, grown⟩
  · obtain ⟨combined, isCombined, stepped⟩ := first.exists_combine json stamp msg full
    obtain ⟨combined', isCombined', stepped'⟩ :=
      second.exists_combine json stamp msg' (by omega)
    have results := first.combine_alike json stamp grown
    rw [combine_of_strategy sameStrategy json stamp (second.buffer ++ [msg']), isCombined,
      isCombined'] at results
    rw [stepped, stepped']
    exact ⟨results, sameSize, sameStrategy, rfl⟩

/-- An aggregator is blind. -/
theorem blind (self : Aggregator) (json : SerdeJson) (stamps : Nat → Stamp) (calls : Nat) :
    (self.middleware json stamps calls).Blind := by
  refine ⟨fun state state' => state.1.Alike state'.1 ∧ state.2 = state'.2,
    ⟨⟨rfl, rfl, rfl⟩, rfl⟩, ?_⟩
  rintro ⟨first, number⟩ ⟨second, _⟩ msg msg' ⟨alike, rfl⟩ same
  obtain ⟨results, still⟩ := Alike.step alike json (stamps number) same
  exact ⟨results, still, rfl⟩

end Aggregator

end Polku
