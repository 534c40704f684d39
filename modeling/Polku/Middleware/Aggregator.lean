import Polku.Data.List
import Polku.Middleware.Chain
import Mathlib.Data.List.Sort
import Mathlib.Data.String.Basic

/-!
# The aggregator

`Aggregator` holds messages until a batch is complete and combines them into
one. JSON parsing and serialisation are parameters, and so are the identifier
and the time each combination reads.
-/

namespace Polku

open Data

/-- How payloads are combined. -/
inductive AggregateStrategy where
  | jsonArray
  | concat
  | last
  | first
deriving DecidableEq, Repr

/-- What the aggregator uses of a JSON library. -/
structure SerdeJson where
  Value : Type
  fromSlice : Bytes → Option Value
  string : String → Value
  toVec : List Value → Option Bytes

/-- The identifier and the time which one combination reads. -/
structure Stamp where
  id : String
  timestamp : Int64
deriving DecidableEq, Repr

/-- The aggregator and the messages it holds. -/
structure Aggregator where
  batchSize : Nat
  strategy : AggregateStrategy
  buffer : List Message
  positive : 0 < batchSize

namespace Aggregator

/-- An aggregator which holds nothing. Without a batch size, none is made. -/
def new (batchSize : Nat) : Option Aggregator :=
  if positive : 0 < batchSize then some ⟨batchSize, .jsonArray, [], positive⟩ else none

/-- Set the strategy. -/
def withStrategy (self : Aggregator) (strategy : AggregateStrategy) : Aggregator :=
  { self with strategy := strategy }

/-- The combined payload. -/
def combinePayloads (json : SerdeJson) (strategy : AggregateStrategy) (first : Message)
    (messages : List Message) : Bytes :=
  match strategy with
  | .jsonArray =>
      let payloads := messages.map fun m =>
        (json.fromSlice m.payload).getD (json.string (m.payloadStr.getD ""))
      (json.toVec payloads).getD []
  | .concat => messages.flatMap fun m => m.payload ++ [10]
  | .last => (messages.getLast?.map (·.payload)).getD []
  | .first => first.payload

/-- The merged metadata: the last message wins. -/
def combineMetadata (messages : List Message) : HashMap String String :=
  (messages.foldl (fun metadata (msg : Message) => msg.metadata ∪ metadata) ∅).insert
    "polku.aggregator.count" (toString messages.length)

/-- The common source, if there is one. -/
def combineSources (first : Message) (messages : List Message) : String :=
  if messages.all (·.source = first.source) then first.source else "aggregated"

/-- The merged routes, sorted and without repetitions. -/
def combineRoutes (messages : List Message) : List String :=
  ((messages.flatMap (·.routeTo)).insertionSort (· ≤ ·)).eraseReps

/-- Combine messages into one. Without a first message this panics. -/
def combine (self : Aggregator) (json : SerdeJson) (stamp : Stamp) (messages : List Message) :
    Option Message :=
  match messages with
  | [] => none
  | first :: _ => some
      { id := stamp.id
        timestamp := stamp.timestamp
        source := combineSources first messages
        messageType := first.messageType ++ ".aggregate"
        metadata := combineMetadata messages
        payload := combinePayloads json self.strategy first messages
        routeTo := combineRoutes messages }

/-- The number of messages held. -/
def pending (self : Aggregator) : Nat := self.buffer.length

/-- Hold a message, and combine the batch it completes. The outer `none` is a panic. -/
def process (self : Aggregator) (json : SerdeJson) (stamp : Stamp) (msg : Message) :
    Option (Option Message × Aggregator) :=
  let buffer := self.buffer ++ [msg]
  if self.batchSize ≤ buffer.length then
    (self.combine json stamp buffer).map fun combined =>
      (some combined, { self with buffer := [] })
  else some (none, { self with buffer := buffer })

/-- Combine what is held, if anything is. The outer `none` is a panic. -/
def flush (self : Aggregator) (json : SerdeJson) (stamp : Stamp) :
    Option (Option Message × Aggregator) :=
  if self.buffer.isEmpty then some (none, self)
  else (self.combine json stamp self.buffer).map fun combined =>
    (some combined, { self with buffer := [] })

/-! ### Routing of combined messages -/

/-- The merged routes are those of the messages. -/
theorem mem_combineRoutes (messages : List Message) (name : String) :
    name ∈ combineRoutes messages ↔ ∃ message ∈ messages, name ∈ message.routeTo := by
  simp [combineRoutes, List.mem_insertionSort]

/-- No route is left exactly if every message is a broadcast. -/
theorem combineRoutes_eq_nil (messages : List Message) :
    combineRoutes messages = [] ↔ ∀ message ∈ messages, message.routeTo = [] := by
  rw [List.eq_nil_iff_forall_not_mem]
  simp only [mem_combineRoutes, List.eq_nil_iff_forall_not_mem]
  constructor
  · intro none message member name named
    exact none name ⟨message, member, named⟩
  · rintro none name ⟨message, member, named⟩
    exact none message member name named

/-- A combined message goes to an emitter exactly if one of its messages does,
provided that one of them names the emitter, or that all of them are broadcasts,
or that none is; and not otherwise. -/
theorem combine_routes_iff (self : Aggregator) (json : SerdeJson) (stamp : Stamp)
    (first : Message) (rest : List Message) (name : String) :
    ∃ combined, self.combine json stamp (first :: rest) = some combined ∧
      ((combined.shouldRouteTo name = true ↔
          ∃ message ∈ first :: rest, message.shouldRouteTo name = true) ↔
        (∃ message ∈ first :: rest, name ∈ message.routeTo) ∨
          (∀ message ∈ first :: rest, message.routeTo = []) ∨
          ∀ message ∈ first :: rest, message.routeTo ≠ []) := by
  refine ⟨_, rfl, ?_⟩
  simp only [Message.shouldRouteTo_iff, combineRoutes_eq_nil, mem_combineRoutes]
  by_cases named : ∃ message ∈ first :: rest, name ∈ message.routeTo
  · obtain ⟨message, member, route⟩ := named
    exact iff_of_true (iff_of_true (.inr ⟨message, member, route⟩) ⟨message, member, .inr route⟩)
      (.inl ⟨message, member, route⟩)
  · -- No message names the emitter: only broadcasts reach it.
    have broadcasts : (∃ message ∈ first :: rest,
        message.routeTo = [] ∨ name ∈ message.routeTo) ↔
        ∃ message ∈ first :: rest, message.routeTo = [] := by
      refine ⟨?_, fun ⟨message, member, empty⟩ => ⟨message, member, .inl empty⟩⟩
      rintro ⟨message, member, empty | route⟩
      · exact ⟨message, member, empty⟩
      · exact absurd ⟨message, member, route⟩ named
    simp only [named, or_false, false_or, broadcasts]
    constructor
    · intro same
      by_cases some : ∃ message ∈ first :: rest, message.routeTo = []
      · exact .inl (same.mpr some)
      · exact .inr fun message member empty => some ⟨message, member, empty⟩
    · rintro (all | none)
      · exact iff_of_true all ⟨first, List.mem_cons_self, all first List.mem_cons_self⟩
      · refine iff_of_false (fun all => ?_) fun ⟨message, member, empty⟩ => ?_
        · exact none first List.mem_cons_self (all first List.mem_cons_self)
        · exact none message member empty

/-- A broadcast. -/
def broadcast : Message := Message.withId "1" 0 "source" "type" []

/-- A message for `grpc` only. -/
def targeted : Message := (Message.withId "2" 0 "source" "type" []).withRoutes ["grpc"]

/-- A JSON library which reads nothing and writes nothing. -/
def noJson : SerdeJson := ⟨Unit, fun _ => none, fun _ => (), fun _ => none⟩

/-- Batched with a message for `grpc`, a broadcast is lost to `stdout`. -/
theorem combine_loses_broadcast :
    broadcast.shouldRouteTo "stdout" = true ∧
    ((Aggregator.mk 2 .first [] (by decide)).combine noJson ⟨"3", 0⟩
      [broadcast, targeted]).map (·.shouldRouteTo "stdout") = some false := by
  decide

end Aggregator

end Polku
