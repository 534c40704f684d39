import Polku.Data.Calls
import Polku.Message
import Mathlib.Data.List.ReduceOption

/-!
# Middleware

A `Middleware` is a value of the trait object `dyn Middleware`: its name, its
current private state and what one call of `process` does. The state includes
whatever the middleware reads from outside, so a call may answer anything.
-/

namespace Polku

open Data

/-- A stage which passes a message on, possibly changed, or drops it. -/
structure Middleware where
  name : String
  State : Type
  state : State
  process : State → Message → Option Message × State

/-- Process a message, and keep the state. -/
def Middleware.step (self : Middleware) (msg : Message) : Option Message × Middleware :=
  let (result, state) := self.process self.state msg
  (result, { self with state := state })

/-- The middleware of a hub, in the order of processing. -/
structure MiddlewareChain where
  middlewares : List Middleware

namespace MiddlewareChain

/-- The empty chain. -/
def new : MiddlewareChain := ⟨[]⟩

/-- Add a middleware at the end. -/
def add (self : MiddlewareChain) (middleware : Middleware) : MiddlewareChain :=
  ⟨self.middlewares ++ [middleware]⟩

/-- Process a message through each middleware, up to the first which drops it. -/
def processAll : List Middleware → Message → Option Message × List Middleware
  | [], msg => (some msg, [])
  | mw :: rest, msg =>
      match mw.step msg with
      | (none, mw) => (none, mw :: rest)
      | (some msg, mw) =>
          let (result, rest) := processAll rest msg
          (result, mw :: rest)

/-- Process a message through the chain. -/
def process (self : MiddlewareChain) (msg : Message) : Option Message × MiddlewareChain :=
  let (result, middlewares) := processAll self.middlewares msg
  (result, ⟨middlewares⟩)

/-- Process messages one after another: what becomes of each, and the chain
after them. -/
def processEach (self : MiddlewareChain) :
    List Message → List (Option Message) × MiddlewareChain
  | [] => ([], self)
  | msg :: rest =>
      let (result, self) := self.process msg
      let (results, self) := self.processEach rest
      (result :: results, self)

/-- The messages which pass a chain, in order. -/
def survivors (self : MiddlewareChain) (messages : List Message) : List Message :=
  (self.processEach messages).1.reduceOption

/-- They are calls of `process` made one after another. -/
theorem processEach_eq (self : MiddlewareChain) (messages : List Message) :
    self.processEach messages = callAll process self messages := by
  induction messages generalizing self with
  | nil => rfl
  | cons msg messages inductionHypothesis => simp [processEach, inductionHypothesis]

/-- The last of several messages is processed by the chain the others leave. -/
theorem processEach_snoc (self : MiddlewareChain) (messages : List Message) (msg : Message) :
    self.processEach (messages ++ [msg]) =
      ((self.processEach messages).1 ++ [((self.processEach messages).2.process msg).1],
        ((self.processEach messages).2.process msg).2) := by
  simp only [processEach_eq, callAll_append, callAll_cons, callAll_nil]

/-- Each message gets an answer. -/
theorem processEach_length (self : MiddlewareChain) (messages : List Message) :
    (self.processEach messages).1.length = messages.length := by
  rw [processEach_eq]
  exact length_callAll self messages

/-- What survives of a first message comes first. -/
theorem survivors_cons (self : MiddlewareChain) (msg : Message) (messages : List Message) :
    self.survivors (msg :: messages) =
      (self.process msg).1.toList ++ (self.process msg).2.survivors messages := by
  simp only [survivors, processEach]
  cases (self.process msg).1 <;> rfl

/-- A chain of one middleware answers as it does. -/
theorem process_singleton (middleware : Middleware) (msg : Message) :
    (⟨[middleware]⟩ : MiddlewareChain).process msg =
      ((middleware.step msg).1, ⟨[(middleware.step msg).2]⟩) := by
  rcases answer : middleware.step msg with ⟨_ | result, next⟩ <;>
    simp [process, processAll, answer]

/-- A message goes through the first stages and then through the others. -/
theorem processAll_append (before after : List Middleware) (msg : Message) :
    processAll (before ++ after) msg =
      match processAll before msg with
      | (none, before) => (none, before ++ after)
      | (some msg, before) => ((processAll after msg).1, before ++ (processAll after msg).2) := by
  induction before generalizing msg with
  | nil => rfl
  | cons mw before inductionHypothesis =>
      simp only [List.cons_append, processAll]
      rcases answer : mw.step msg with ⟨_ | passed, next⟩
      · rfl
      · simp only [inductionHypothesis]
        rcases processAll before passed with ⟨_ | result, others⟩ <;> rfl

/-- What survives the first stages is what the others process. -/
theorem survivors_append (before after : List Middleware) (messages : List Message) :
    (⟨before ++ after⟩ : MiddlewareChain).survivors messages =
      (⟨after⟩ : MiddlewareChain).survivors
        ((⟨before⟩ : MiddlewareChain).survivors messages) := by
  induction messages generalizing before after with
  | nil => rfl
  | cons msg messages inductionHypothesis =>
      rw [survivors_cons, survivors_cons]
      simp only [process, processAll_append]
      rcases processAll before msg with ⟨_ | passed, next⟩
      · exact inductionHypothesis next after
      · simp only [Option.toList_some, List.singleton_append, survivors_cons, process]
        rw [inductionHypothesis]

/-- More messages do not change what survives of the first ones. -/
theorem survivors_prefix (self : MiddlewareChain) (first second : List Message) :
    self.survivors first <+: self.survivors (first ++ second) := by
  induction first generalizing self with
  | nil => exact List.nil_prefix
  | cons msg first inductionHypothesis =>
      rw [List.cons_append, survivors_cons, survivors_cons, List.prefix_append_right_inj]
      exact inductionHypothesis _

end MiddlewareChain

end Polku
