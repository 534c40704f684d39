import Polku.Middleware.Stages

/-!
# What the aggregator combines

Calls of `process` and `flush`, in any order, take the messages apart into groups. The
groups which have been combined, and after them the messages which are held, are the
messages which have been processed.
-/

namespace Polku

open Data

/-- A call of an aggregator. -/
inductive AggregatorCall where
  | process (msg : Message)
  | flush

/-- The messages which a call brings. -/
def AggregatorCall.messages : AggregatorCall → List Message
  | .process msg => [msg]
  | .flush => []

namespace Aggregator

/-- One call. The outer `none` is a panic. -/
def call (self : Aggregator) (json : SerdeJson) (stamp : Stamp) :
    AggregatorCall → Option (Option Message × Aggregator)
  | .process msg => self.process json stamp msg
  | .flush => self.flush json stamp

/-- The messages which a call combines, if it does. -/
def group (self : Aggregator) : AggregatorCall → Option (List Message)
  | .process msg =>
      if self.batchSize ≤ (self.buffer ++ [msg]).length then some (self.buffer ++ [msg]) else none
  | .flush => nonEmpty self.buffer

/-- Calls one after another, each with the stamp it reads: the group and the answer of each
call, and the aggregator after them. -/
def callEach (self : Aggregator) (json : SerdeJson) : List (Stamp × AggregatorCall) →
    Option (List (Option (List Message) × Option Message) × Aggregator)
  | [] => some ([], self)
  | (stamp, call) :: calls => do
      let (answer, next) ← self.call json stamp call
      let (answers, last) ← next.callEach json calls
      some ((self.group call, answer) :: answers, last)

/-- The aggregator after a call. -/
def after (self : Aggregator) (call : AggregatorCall) : Aggregator :=
  { self with
    buffer := if (self.group call).isSome then [] else self.buffer ++ call.messages }

/-- A call combines its group, if it has one, and holds its messages otherwise. -/
theorem call_eq (self : Aggregator) (json : SerdeJson) (stamp : Stamp) (call : AggregatorCall) :
    self.call json stamp call =
      match self.group call with
      | some group => (self.combine json stamp group).map fun combined =>
          (some combined, self.after call)
      | none => some (none, self.after call) := by
  cases call with
  | process msg =>
      by_cases full : self.batchSize ≤ self.buffer.length + 1
      · simp [Aggregator.call, process, after, group, full]
      · simp [Aggregator.call, process, after, group, full, AggregatorCall.messages]
  | flush =>
      cases held : self.buffer with
      | nil =>
          cases self
          simp_all [Aggregator.call, flush, after, group, AggregatorCall.messages]
      | cons first rest => simp [Aggregator.call, flush, after, group, held]

/-- How many messages the group of a call has: a whole batch, or when it is flushed at least
one and not a whole batch. -/
def Size (batchSize : Nat) (call : AggregatorCall) (size : Nat) : Prop :=
  match call with
  | .process _ => size = batchSize
  | .flush => 1 ≤ size ∧ size ≤ batchSize - 1

/-- What the combined message of a group is. -/
structure Releases (aggregator : Aggregator) (json : SerdeJson) (stamp : Stamp)
    (call : AggregatorCall) (group : List Message) (combined : Message) : Prop where
  notEmpty : group ≠ []
  isCombined : aggregator.combine json stamp group = some combined
  size : Size aggregator.batchSize call group.length
  count : combined.metadata.lookup "polku.aggregator.count" = some (toString group.length)
  metadata : ∀ key ≠ "polku.aggregator.count", combined.metadata.lookup key =
    group.reverse.findSome? (·.metadata.lookup key)

variable {self : Aggregator} {json : SerdeJson} {stamp : Stamp} {call : AggregatorCall}

/-- What a combined message tells of its group. -/
theorem lookup_combineMetadata (messages : List Message) (key : String) :
    (combineMetadata messages).lookup key =
      if key = "polku.aggregator.count" then some (toString messages.length)
      else messages.reverse.findSome? (·.metadata.lookup key) := by
  rw [combineMetadata]
  split
  case isTrue same =>
      subst same
      exact Finmap.lookup_insert _
  case isFalse other =>
      rw [Finmap.lookup_insert_of_ne _ other, HashMap.lookup_foldl_union, Finmap.lookup_empty,
        Option.or_none]

/-- A call between whose messages a batch is not completed has a group of the right size. -/
theorem group_size (room : self.buffer.length < self.batchSize) {group : List Message}
    (isGroup : self.group call = some group) :
    group ≠ [] ∧ group = self.buffer ++ call.messages ∧
      Size self.batchSize call group.length := by
  cases call with
  | process msg =>
      obtain ⟨full, same⟩ := Option.ite_none_right_eq_some.mp isGroup
      obtain rfl := Option.some.inj same
      refine ⟨by simp, rfl, ?_⟩
      rw [List.length_append, List.length_singleton] at full
      simp only [Size, List.length_append, List.length_singleton]
      omega
  | flush =>
      obtain ⟨empty, same⟩ := Option.ite_none_left_eq_some.mp isGroup
      obtain rfl := Option.some.inj same
      have notEmpty : self.buffer ≠ [] := by simpa using empty
      exact ⟨notEmpty, (List.append_nil _).symm, List.length_pos_of_ne_nil notEmpty,
        Nat.le_sub_one_of_lt room⟩

/-- A group is combined, and its message tells what it was. -/
theorem exists_releases (room : self.buffer.length < self.batchSize) (json : SerdeJson)
    (stamp : Stamp) {group : List Message} (isGroup : self.group call = some group) :
    ∃ combined, self.Releases json stamp call group combined := by
  obtain ⟨some, -, size⟩ := group_size room isGroup
  cases group with
  | nil => exact absurd rfl some
  | cons first rest =>
      refine ⟨_, some, rfl, size, ?_, fun key other => ?_⟩
      · exact (lookup_combineMetadata (first :: rest) _).trans (if_pos rfl)
      · exact (lookup_combineMetadata (first :: rest) key).trans (if_neg other)

/-- After a call there is still room, and every message is in the group of the call or is
held. -/
theorem after_spec (room : self.buffer.length < self.batchSize) (call : AggregatorCall) :
    (self.after call).buffer.length < self.batchSize ∧
      ((self.group call).getD []) ++ (self.after call).buffer =
        self.buffer ++ call.messages := by
  rw [after]
  cases isGroup : self.group call with
  | some group =>
      obtain ⟨-, whole, -⟩ := group_size room isGroup
      exact ⟨self.positive, by simpa using whole⟩
  | none =>
      refine ⟨?_, rfl⟩
      cases call with
      | process msg => simpa [group, AggregatorCall.messages] using isGroup
      | flush => simpa [AggregatorCall.messages] using room

/-- Only the size and the strategy, which no call changes, matter. -/
theorem Releases.of_after {first : AggregatorCall} {group : List Message} {combined : Message}
    (releases : (self.after first).Releases json stamp call group combined) :
    self.Releases json stamp call group combined :=
  ⟨releases.notEmpty, releases.isCombined, releases.size, releases.count, releases.metadata⟩

/-- What a call answers: nothing, or the combined message of its group. -/
def Answers (self : Aggregator) (json : SerdeJson) (call : Stamp × AggregatorCall)
    (outcome : Option (List Message) × Option Message) : Prop :=
  match outcome with
  | (none, answer) => answer = none
  | (some group, answer) =>
      ∃ combined, answer = some combined ∧ self.Releases json call.1 call.2 group combined

theorem Answers.of_after {first : AggregatorCall} {call : Stamp × AggregatorCall}
    {outcome : Option (List Message) × Option Message}
    (answers : (self.after first).Answers json call outcome) : self.Answers json call outcome := by
  obtain ⟨group, answer⟩ := outcome
  cases group with
  | none => exact answers
  | some group =>
      obtain ⟨combined, same, releases⟩ := answers
      exact ⟨combined, same, releases.of_after⟩

/-- A call never panics, and answers with the combined message of its group. -/
theorem call_spec (room : self.buffer.length < self.batchSize) (json : SerdeJson) (stamp : Stamp)
    (call : AggregatorCall) :
    ∃ answer, self.call json stamp call = some (answer, self.after call) ∧
      self.Answers json (stamp, call) (self.group call, answer) := by
  rw [call_eq]
  cases isGroup : self.group call with
  | none => exact ⟨none, rfl, rfl⟩
  | some group =>
      obtain ⟨combined, releases⟩ := exists_releases room json stamp isGroup
      refine ⟨some combined, ?_, combined, rfl, releases⟩
      simp only [releases.isCombined, Option.map_some]

/-- Calls from any state with room take apart what is held and what they bring. -/
theorem callEach_spec (json : SerdeJson) (calls : List (Stamp × AggregatorCall))
    (self : Aggregator) (room : self.buffer.length < self.batchSize) :
    ∃ outcomes last, self.callEach json calls = some (outcomes, last) ∧
      last.pending < self.batchSize ∧
      List.Forall₂ (self.Answers json) calls outcomes ∧
      (outcomes.filterMap Prod.fst).flatten ++ last.buffer =
        self.buffer ++ calls.flatMap (·.2.messages) := by
  induction calls generalizing self with
  | nil => exact ⟨[], self, rfl, room, .nil, by simp⟩
  | cons call calls inductionHypothesis =>
      obtain ⟨stamp, call⟩ := call
      obtain ⟨answer, called, answers⟩ := call_spec room json stamp call
      obtain ⟨still, whole⟩ := after_spec room call
      obtain ⟨outcomes, last, rest, few, others, partition⟩ :=
        inductionHypothesis (self.after call) still
      refine ⟨(self.group call, answer) :: outcomes, last, ?_, few,
        .cons answers (others.imp fun _ _ => Answers.of_after), ?_⟩
      · simp only [callEach, called, rest, Option.bind_eq_bind, Option.bind_some]
      · rw [List.flatMap_cons, ← List.append_assoc, ← whole, List.append_assoc, ← partition]
        cases isGroup : self.group call <;> simp

/-- However its calls come, an aggregator takes the messages it processes apart into groups
of the batch size, smaller ones where it is flushed, and those it holds. Each group has its
combined message, and no call panics. -/
theorem partitions (batchSize : Nat) (positive : 0 < batchSize) (strategy : AggregateStrategy)
    (json : SerdeJson) (calls : List (Stamp × AggregatorCall)) :
    ∃ self outcomes last, (new batchSize).map (·.withStrategy strategy) = some self ∧
      self.callEach json calls = some (outcomes, last) ∧
      last.pending < batchSize ∧
      List.Forall₂ (self.Answers json) calls outcomes ∧
      (outcomes.filterMap Prod.fst).flatten ++ last.buffer = calls.flatMap (·.2.messages) := by
  obtain ⟨outcomes, last, done⟩ :=
    callEach_spec json calls ⟨batchSize, strategy, [], positive⟩ positive
  exact ⟨_, outcomes, last, by simp [new, positive, withStrategy], done⟩

/-- Two messages make a batch, and a flush releases the third. -/
theorem partitions_flushed :
    let calls := [(⟨"4", 0⟩, .process broadcast), (⟨"5", 0⟩, .process targeted),
      (⟨"6", 0⟩, .process broadcast), (⟨"7", 0⟩, .flush)]
    ∃ outcomes last, (Aggregator.mk 2 .last [] (by decide)).callEach noJson calls =
        some (outcomes, last) ∧
      outcomes.map Prod.fst = [none, some [broadcast, targeted], none, some [broadcast]] ∧
      (outcomes.filterMap Prod.fst).flatten ++ last.buffer = [broadcast, targeted, broadcast] := by
  intro calls
  obtain ⟨self, outcomes, last, made, done, -, -, whole⟩ :=
    partitions 2 (by decide) .last noJson calls
  obtain rfl := Option.some.inj made
  refine ⟨outcomes, last, done, ?_, whole⟩
  obtain ⟨rfl, -⟩ := Prod.mk.inj (Option.some.inj done)
  rfl

end Aggregator

end Polku
