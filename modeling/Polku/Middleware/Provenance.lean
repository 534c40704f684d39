import Polku.Middleware.Stages

/-!
# What a message is made of

A chain of stages processes messages which carry the positions of the received
messages they are made of. Positions do not change what the chain does; an
aggregator joins those of the messages it combines. No position goes two ways.
-/

namespace Polku

/-- A message and the positions of the received messages it is made of. -/
structure Tracked where
  message : Message
  parts : List Nat
deriving DecidableEq

/-- Messages at their positions, counting from `next`. -/
def Tracked.number (next : Nat) (messages : List Message) : List Tracked :=
  (messages.zipIdx next).map fun (msg, position) => ⟨msg, [position]⟩

/-- Whether a stage holds the messages which it does not pass on. -/
def Stage.holds : Stage → Bool
  | .aggregator .. => true
  | _ => false

/-- A stage, and the tracked messages it holds. -/
structure TrackedStage where
  stage : Stage
  held : List Tracked

namespace TrackedStage

/-- A stage which holds nothing. -/
def fresh (stage : Stage) : TrackedStage := ⟨stage, []⟩

/-- Process a message. What is passed on is made of it and of all that was held. -/
def step (self : TrackedStage) (item : Tracked) : Option Tracked × TrackedStage :=
  match self.stage.step item.message with
  | (some msg, stage) =>
      (some ⟨msg, (self.held ++ [item]).flatMap Tracked.parts⟩, ⟨stage, []⟩)
  | (none, stage) => (none, ⟨stage, if stage.holds then self.held ++ [item] else []⟩)

/-- Process a message through each stage, up to the first which passes nothing on. -/
def processAll : List TrackedStage → Tracked → Option Tracked × List TrackedStage
  | [], item => (some item, [])
  | stage :: rest, item =>
      match stage.step item with
      | (none, stage) => (none, stage :: rest)
      | (some item, stage) =>
          let (result, rest) := processAll rest item
          (result, stage :: rest)

/-- Process messages one after another. -/
def processEach (stages : List TrackedStage) :
    List Tracked → List (Option Tracked) × List TrackedStage
  | [] => ([], stages)
  | item :: rest =>
      let (result, stages) := processAll stages item
      let (results, stages) := processEach stages rest
      (result :: results, stages)

/-! ### Tracking changes nothing -/

/-- A stage without what is known about its messages. -/
def middleware (self : TrackedStage) : Middleware := self.stage.middleware

/-- A tracked stage answers as its middleware does. -/
theorem step_erase (self : TrackedStage) (item : Tracked) :
    self.middleware.step item.message =
      ((self.step item).1.map Tracked.message, (self.step item).2.middleware) := by
  rw [middleware, Stage.middleware_step, step]
  rcases self.stage.step item.message with ⟨_ | msg, stage⟩ <;> rfl

/-- A tracked chain answers as its middleware does. -/
theorem processAll_erase (stages : List TrackedStage) (item : Tracked) :
    MiddlewareChain.processAll (stages.map middleware) item.message =
      ((processAll stages item).1.map Tracked.message,
        (processAll stages item).2.map middleware) := by
  induction stages generalizing item with
  | nil => rfl
  | cons stage rest inductionHypothesis =>
      have first := stage.step_erase item
      rcases answer : stage.step item with ⟨_ | result, next⟩
      · rw [answer] at first
        simp [MiddlewareChain.processAll, processAll, first, answer]
      · rw [answer] at first
        have others := inductionHypothesis result
        simp only [Option.map_some] at first
        simp [MiddlewareChain.processAll, processAll, first, answer, others]

/-- Over a whole sequence of messages, tracking changes nothing. -/
theorem processEach_erase (stages : List TrackedStage) (items : List Tracked) :
    MiddlewareChain.processEach ⟨stages.map middleware⟩ (items.map Tracked.message) =
      ((processEach stages items).1.map (Option.map Tracked.message),
        ⟨(processEach stages items).2.map middleware⟩) := by
  induction items generalizing stages with
  | nil => rfl
  | cons item items inductionHypothesis =>
      have first := processAll_erase stages item
      simp only [List.map_cons, MiddlewareChain.processEach, MiddlewareChain.process, first,
        inductionHypothesis, processEach]

/-! ### What is tracked -/

/-- The messages held are those of the aggregator; other stages hold none. -/
def Faithful (self : TrackedStage) : Prop :=
  match self.stage with
  | .aggregator _ _ _ aggregator => aggregator.buffer = self.held.map Tracked.message
  | _ => self.held = []

/-- A message passed on by a faithful stage is made of what it says: an aggregator
combined it from the messages whose parts it has, and from any other stage it is made
of the one processed. The stage stays faithful. -/
theorem step_faithful {self : TrackedStage} (faithful : self.Faithful) (item : Tracked) :
    (self.step item).2.Faithful ∧ ∀ result, (self.step item).1 = some result →
      match self.stage with
      | .aggregator json _ _ aggregator =>
          aggregator.Combines json ((self.held ++ [item]).map Tracked.message) result.message ∧
          result.parts = (self.held ++ [item]).flatMap Tracked.parts
      | _ => result.parts = item.parts := by
  obtain ⟨stage, held⟩ := self
  cases stage with
  | filter filter =>
      obtain rfl : held = [] := faithful
      unfold step Stage.step
      dsimp only
      cases filter.process item.message <;> simp [Faithful, Stage.holds]
  | transform transform =>
      obtain rfl : held = [] := faithful
      simp [step, Stage.step, Transform.process, Faithful]
  | router router =>
      obtain rfl : held = [] := faithful
      unfold step Stage.step
      dsimp only
      cases router.process item.message <;> simp [Faithful, Stage.holds]
  | aggregator json stamps calls aggregator =>
      have holds : aggregator.buffer = held.map Tracked.message := faithful
      unfold step Stage.step
      dsimp only
      rcases Nat.lt_or_ge (aggregator.buffer.length + 1) aggregator.batchSize with short | full
      · rw [aggregator.step_of_room json (stamps calls) item.message short]
        simp [Faithful, Stage.holds, holds]
      · obtain ⟨combined, isCombined, stepped⟩ :=
          aggregator.step_of_full json (stamps calls) item.message full
        rw [stepped]
        refine ⟨rfl, ?_⟩
        rintro result ⟨⟩
        exact ⟨by simpa [holds] using isCombined, rfl⟩

/-- Stages which are faithful stay so while a message is processed. -/
theorem processAll_faithful {stages : List TrackedStage}
    (faithful : ∀ stage ∈ stages, stage.Faithful) (item : Tracked) :
    ∀ stage ∈ (processAll stages item).2, stage.Faithful := by
  induction stages generalizing item with
  | nil => simp [processAll]
  | cons stage rest inductionHypothesis =>
      have first := (step_faithful (faithful stage List.mem_cons_self) item).1
      have others := fun other member => faithful other (List.mem_cons_of_mem stage member)
      rcases answer : stage.step item with ⟨_ | result, next⟩
      · rw [answer] at first
        simpa [processAll, answer] using ⟨first, others⟩
      · rw [answer] at first
        simpa [processAll, answer] using ⟨first, inductionHypothesis others result⟩

/-- Stages which are faithful stay so over a whole sequence of messages. -/
theorem processEach_faithful {stages : List TrackedStage}
    (faithful : ∀ stage ∈ stages, stage.Faithful) (items : List Tracked) :
    ∀ stage ∈ (processEach stages items).2, stage.Faithful := by
  induction items generalizing stages with
  | nil => exact faithful
  | cons item items inductionHypothesis =>
      exact inductionHypothesis (processAll_faithful faithful item)

/-! ### No position goes two ways -/

/-- How often a position is among the parts of messages. -/
def occurrences (position : Nat) (items : List Tracked) : Nat :=
  (items.flatMap Tracked.parts).count position

/-- How often a position is among the parts of what stages hold. -/
def heldOccurrences (position : Nat) (stages : List TrackedStage) : Nat :=
  occurrences position (stages.flatMap held)

@[simp] theorem occurrences_nil (position : Nat) : occurrences position [] = 0 := rfl

@[simp] theorem occurrences_append (position : Nat) (first second : List Tracked) :
    occurrences position (first ++ second) =
      occurrences position first + occurrences position second := by
  simp [occurrences]

@[simp] theorem heldOccurrences_cons (position : Nat) (stage : TrackedStage)
    (stages : List TrackedStage) :
    heldOccurrences position (stage :: stages) =
      occurrences position stage.held + heldOccurrences position stages := by
  simp [heldOccurrences]

/-- A stage passes on, holds or drops what it gets. -/
theorem step_occurrences (self : TrackedStage) (item : Tracked) (position : Nat) :
    occurrences position (self.step item).1.toList +
        occurrences position (self.step item).2.held ≤
      occurrences position self.held + occurrences position [item] := by
  unfold step
  rcases self.stage.step item.message with ⟨_ | msg, stage⟩
  · dsimp only
    cases stage.holds <;> simp
  · simp [occurrences]

/-- A chain passes on, holds or drops what it gets. -/
theorem processAll_occurrences (stages : List TrackedStage) (item : Tracked) (position : Nat) :
    occurrences position (processAll stages item).1.toList +
        heldOccurrences position (processAll stages item).2 ≤
      heldOccurrences position stages + occurrences position [item] := by
  induction stages generalizing item with
  | nil => simp [processAll, heldOccurrences]
  | cons stage rest inductionHypothesis =>
      have first := stage.step_occurrences item position
      rcases answer : stage.step item with ⟨_ | result, next⟩
      · rw [answer] at first
        simp only [processAll, answer, heldOccurrences_cons] at first ⊢
        omega
      · have others := inductionHypothesis result
        rw [answer] at first
        simp only [processAll, answer, heldOccurrences_cons, Option.toList_some] at first ⊢
        omega

/-- Over a whole sequence of messages, no position is passed on more often than it
came. -/
theorem processEach_occurrences (stages : List TrackedStage) (items : List Tracked)
    (position : Nat) :
    occurrences position (processEach stages items).1.reduceOption ≤
      heldOccurrences position stages + occurrences position items := by
  induction items generalizing stages with
  | nil => simp [processEach]
  | cons item items inductionHypothesis =>
      have first := processAll_occurrences stages item position
      have others := inductionHypothesis (processAll stages item).2
      have split : occurrences position (item :: items) =
          occurrences position [item] + occurrences position items :=
        occurrences_append position [item] items
      have joined : (processEach stages (item :: items)).1.reduceOption =
          (processAll stages item).1.toList ++
            (processEach (processAll stages item).2 items).1.reduceOption := by
        simp only [processEach]
        cases (processAll stages item).1 <;> rfl
      rw [joined, split, occurrences_append]
      omega

/-- What is passed on while a message is processed ends with its parts. -/
theorem processAll_suffix (stages : List TrackedStage) (item : Tracked) {result : Tracked}
    (passed : (processAll stages item).1 = some result) : item.parts <:+ result.parts := by
  induction stages generalizing item with
  | nil =>
      obtain rfl : item = result := Option.some.inj passed
      exact List.suffix_refl _
  | cons stage rest inductionHypothesis =>
      rcases answer : stage.step item with ⟨_ | middle, next⟩
      · simp [processAll, answer] at passed
      · have last : (processAll rest middle).1 = some result := by
          simpa [processAll, answer] using passed
        have first : item.parts <:+ middle.parts := by
          unfold step at answer
          rcases whole : stage.stage.step item.message with ⟨_ | msg, after⟩
          · simp [whole] at answer
          · simp only [whole, Prod.mk.injEq, Option.some.injEq] at answer
            rw [← answer.1]
            simp
        exact first.trans (inductionHypothesis middle last)

/-- What is passed on ends with the parts of the message processed at that time. -/
theorem processEach_suffix (stages : List TrackedStage) (items : List Tracked) :
    List.Forall₂ (fun item result => ∀ passed, result = some passed → item.parts <:+ passed.parts)
      items (processEach stages items).1 := by
  induction items generalizing stages with
  | nil => exact .nil
  | cons item items inductionHypothesis =>
      exact .cons (fun _ passed => processAll_suffix stages item passed) (inductionHypothesis _)

/-- A position is among the parts of a message at most as often as it occurs. -/
theorem count_le_occurrences (position : Nat) {item : Tracked} {items : List Tracked}
    (member : item ∈ items) : item.parts.count position ≤ occurrences position items := by
  obtain ⟨before, after, rfl⟩ := List.append_of_mem member
  simp only [occurrences, List.flatMap_append, List.flatMap_cons, List.count_append]
  omega

/-- A part which occurs at most once tells messages apart. -/
theorem eq_of_occurrences {position : Nat} {items : List Tracked}
    (once : occurrences position items ≤ 1) {first second : Tracked} (isFirst : first ∈ items)
    (isSecond : second ∈ items) (ofFirst : position ∈ first.parts)
    (ofSecond : position ∈ second.parts) : first = second := by
  induction items with
  | nil => cases isFirst
  | cons item items inductionHypothesis =>
      have counted : occurrences position (item :: items) =
          item.parts.count position + occurrences position items := by simp [occurrences]
      have later : ∀ other ∈ items, position ∈ other.parts → 0 < occurrences position items :=
        fun other member part =>
          List.count_pos_iff.mpr (List.mem_flatMap.mpr ⟨other, member, part⟩)
      rcases List.mem_cons.mp isFirst with rfl | firstLater <;>
        rcases List.mem_cons.mp isSecond with rfl | secondLater
      · rfl
      · have here := List.count_pos_iff.mpr ofFirst
        have there := later second secondLater ofSecond
        omega
      · have here := List.count_pos_iff.mpr ofSecond
        have there := later first firstLater ofFirst
        omega
      · exact inductionHypothesis (by omega) firstLater secondLater

/-- A message ends with a part at most as often as the part occurs. -/
theorem countP_getLast_le (position : Nat) (items : List Tracked) :
    items.countP (·.parts.getLast? = some position) ≤ occurrences position items := by
  induction items with
  | nil => simp
  | cons item items inductionHypothesis =>
      have counted : occurrences position (item :: items) =
          item.parts.count position + occurrences position items := by simp [occurrences]
      rw [List.countP_cons, counted]
      split
      case isTrue last =>
        have part := List.mem_of_getLast? (of_decide_eq_true last)
        have here := List.count_pos_iff.mpr part
        omega
      case isFalse => omega

/-! ### New stages -/

/-- What new stages make of messages. -/
def results (stages : List Stage) (messages : List Message) : List (Option Tracked) :=
  (processEach (stages.map fresh) (Tracked.number 0 messages)).1

variable (stages : List Stage) (messages : List Message)

/-- The results are those of the chain. -/
theorem results_erase :
    (MiddlewareChain.processEach ⟨stages.map Stage.middleware⟩ messages).1 =
      (results stages messages).map (Option.map Tracked.message) := by
  have erased := processEach_erase (stages.map fresh) (Tracked.number 0 messages)
  have chain : (stages.map fresh).map middleware = stages.map Stage.middleware := by
    simp [Function.comp_def, middleware, fresh]
  have plain : (Tracked.number 0 messages).map Tracked.message = messages := by
    simp [Tracked.number, Function.comp_def]
  rw [chain, plain] at erased
  rw [erased, results]

/-- The results are made of the messages, each of which is part of one at most. -/
theorem results_occurrences (position : Nat) :
    occurrences position (results stages messages).reduceOption ≤
      (List.range messages.length).count position := by
  have holdNothing : heldOccurrences position (stages.map fresh) = 0 := by
    have none : (stages.map fresh).flatMap held = [] := by
      simp [List.flatMap_eq_nil_iff, fresh]
    rw [heldOccurrences, none, occurrences_nil]
  have numbers : (Tracked.number 0 messages).flatMap Tracked.parts = List.range messages.length := by
    rw [Tracked.number, List.flatMap_map, List.range_eq_range', ← List.zipIdx_map_snd 0 messages,
      List.map_eq_flatMap]
  have passed := processEach_occurrences (stages.map fresh) (Tracked.number 0 messages) position
  rw [holdNothing, Nat.zero_add] at passed
  rw [← numbers]
  exact passed

/-- No position is part of two results. -/
theorem results_occurrences_le_one (position : Nat) :
    occurrences position (results stages messages).reduceOption ≤ 1 :=
  (results_occurrences stages messages position).trans
    (List.nodup_iff_count_le_one.mp List.nodup_range position)

/-- The parts of a result are positions of messages. -/
theorem results_lt {position : Nat} {passed : Tracked}
    (member : passed ∈ (results stages messages).reduceOption) (part : position ∈ passed.parts) :
    position < messages.length := by
  have occurs : 0 < occurrences position (results stages messages).reduceOption :=
    List.count_pos_iff.mpr (List.mem_flatMap.mpr ⟨passed, member, part⟩)
  have counted := occurs.trans_le (results_occurrences stages messages position)
  exact List.mem_range.mp (List.count_pos_iff.mp counted)

/-- What is passed on while a message is processed ends with its position. -/
theorem results_getLast {position : Nat} {passed : Tracked}
    (isResult : (results stages messages)[position]? = some (some passed)) :
    passed.parts.getLast? = some position := by
  have suffixes := processEach_suffix (stages.map fresh) (Tracked.number 0 messages)
  obtain ⟨bound, result⟩ := List.getElem?_eq_some_iff.mp isResult
  have lengths := suffixes.length_eq
  have ofItem := (List.forall₂_iff_get.mp suffixes).2 position (by rw [lengths]; exact bound) bound
    passed result
  have item : ((Tracked.number 0 messages).get ⟨position, by rw [lengths]; exact bound⟩).parts =
      [position] := by simp [Tracked.number]
  rw [item] at ofItem
  obtain ⟨front, whole⟩ := ofItem
  rw [← whole, List.getLast?_append]
  rfl

/-- A result ends with a position exactly if it was passed on while the message there
was processed. -/
theorem getLast_iff (position : Nat) (passed : Tracked) :
    (passed ∈ (results stages messages).reduceOption ∧ passed.parts.getLast? = some position) ↔
      (results stages messages)[position]? = some (some passed) := by
  constructor
  · rintro ⟨member, last⟩
    obtain ⟨other, isResult⟩ := List.getElem?_of_mem (List.reduceOption_mem_iff.mp member)
    obtain rfl : other = position := Option.some.inj
      ((results_getLast stages messages isResult).symm.trans last)
    exact isResult
  · intro isResult
    exact ⟨List.reduceOption_mem_iff.mpr (List.mem_of_getElem? isResult),
      results_getLast stages messages isResult⟩

end TrackedStage

end Polku
