import Polku.Middleware.Json

/-!
# What a JSON array keeps

`JsonArray` makes one array element of each message: the value its payload parses to,
else its text, and the empty string if it is not text either. Two payloads which are not
JSON are kept apart unless neither has any text.
-/

namespace Polku

open Data

namespace Message

/-- Whether the fallback text of the payload is empty. -/
def Textless (self : Message) : Prop := self.payload = [] ∨ self.payloadStr = none

/-- Whether the payloads are equal, or neither has any text. -/
def SameText (self other : Message) : Prop :=
  self.payload = other.payload ∨ self.Textless ∧ other.Textless

/-- The text of a payload has its bytes. -/
theorem payloadStr_eq_some {self : Message} {text : String} :
    self.payloadStr = some text ↔ text.toUTF8.data.toList = self.payload := by
  have bytes : text.toUTF8.data.toList = self.payload ↔
      text.toByteArray = ⟨self.payload.toArray⟩ := by
    rw [String.toUTF8_eq_toByteArray, ByteArray.ext_iff, ← Array.toList_inj]
  rw [bytes, payloadStr, String.fromUTF8?]
  split
  next valid =>
    rw [Option.some.injEq, ← String.toByteArray_inj]
    exact eq_comm
  next invalid =>
    refine iff_of_false (fun impossible => by cases impossible) fun same => ?_
    exact invalid (same ▸ text.isValidUTF8)

/-- The fallback text is empty if there are no bytes or they are not text. -/
theorem textless_iff (self : Message) : self.Textless ↔ self.payloadStr.getD "" = "" := by
  have empty : self.payload = [] ↔ self.payloadStr = some "" := by
    rw [payloadStr_eq_some]
    exact eq_comm
  rw [Textless, empty]
  cases self.payloadStr with
  | none => simp
  | some text => simp

/-- The fallback texts of two messages agree only if their payloads do, or if neither
has any text. -/
theorem payloadStr_getD_eq_iff (left right : Message) :
    left.payloadStr.getD "" = right.payloadStr.getD "" ↔ left.SameText right := by
  constructor
  · intro same
    by_cases textless : left.Textless
    · have empty := same ▸ (textless_iff left).mp textless
      exact .inr ⟨textless, (textless_iff right).mpr empty⟩
    · have apart : ¬right.Textless := by
        rwa [textless_iff, ← same, ← textless_iff]
      obtain ⟨text, leftText⟩ :=
        Option.ne_none_iff_exists'.mp fun none => textless (.inr none)
      obtain ⟨other, rightText⟩ := Option.ne_none_iff_exists'.mp fun none => apart (.inr none)
      rw [leftText, rightText, Option.getD_some, Option.getD_some] at same
      refine .inl ?_
      rw [← payloadStr_eq_some.mp leftText, ← payloadStr_eq_some.mp rightText, same]
  · rintro (same | ⟨leftTextless, rightTextless⟩)
    · rw [payloadStr, payloadStr, same]
    · rw [(textless_iff left).mp leftTextless, (textless_iff right).mp rightTextless]

end Message

namespace SerdeJson

/-- The array element of a message. -/
def element (json : SerdeJson) (m : Message) : json.Value :=
  (json.fromSlice m.payload).getD (json.string (m.payloadStr.getD ""))

/-- What the element of a message is: the value it parses to, else a string whose UTF-8
encoding is the payload, else the empty string. -/
structure Represents (json : SerdeJson) (m : Message) (value : json.Value) : Prop where
  parsed : ∀ parsed, json.fromSlice m.payload = some parsed → value = parsed
  text : json.fromSlice m.payload = none → m.payloadStr ≠ none →
    ∃ text, value = json.string text ∧ text.toUTF8.data.toList = m.payload
  binary : json.fromSlice m.payload = none → m.payloadStr = none → value = json.string ""

variable {json : SerdeJson}

theorem represents_element (json : SerdeJson) (m : Message) :
    json.Represents m (json.element m) where
  parsed := by
    intro parsed parses
    rw [element, parses, Option.getD_some]
  text := by
    intro unparsed isText
    obtain ⟨text, payloadStr⟩ := Option.ne_none_iff_exists'.mp isText
    refine ⟨text, ?_, Message.payloadStr_eq_some.mp payloadStr⟩
    rw [element, unparsed, payloadStr, Option.getD_none, Option.getD_some]
  binary := by
    intro unparsed binary
    rw [element, unparsed, binary, Option.getD_none, Option.getD_none]

/-- Of payloads which are not JSON, the elements agree as the fallback texts do. -/
theorem Faithful.element_eq_iff (faithful : json.Faithful) {left right : Message}
    (leftUnparsed : json.fromSlice left.payload = none)
    (rightUnparsed : json.fromSlice right.payload = none) :
    json.element left = json.element right ↔ left.SameText right := by
  rw [element, element, leftUnparsed, rightUnparsed, Option.getD_none, Option.getD_none,
    faithful.string_injective.eq_iff, Message.payloadStr_getD_eq_iff]

/-- Of batches which are not JSON, the arrays agree as the fallback texts do. -/
theorem Faithful.map_element_eq_iff (faithful : json.Faithful) {left right : List Message}
    (leftUnparsed : ∀ m ∈ left, json.fromSlice m.payload = none)
    (rightUnparsed : ∀ m ∈ right, json.fromSlice m.payload = none) :
    left.map json.element = right.map json.element ↔
      List.Forall₂ Message.SameText left right := by
  induction left generalizing right with
  | nil =>
      cases right with
      | nil => simp
      | cons other right => simp
  | cons one left inductionHypothesis =>
      cases right with
      | nil => simp
      | cons other right =>
          obtain ⟨oneUnparsed, leftRest⟩ := List.forall_mem_cons.mp leftUnparsed
          obtain ⟨otherUnparsed, rightRest⟩ := List.forall_mem_cons.mp rightUnparsed
          rw [List.map_cons, List.map_cons, List.cons.injEq, List.forall₂_cons,
            faithful.element_eq_iff oneUnparsed otherUnparsed,
            inductionHypothesis leftRest rightRest]

end SerdeJson

namespace Aggregator

/-- The combined payload is the array of the elements. -/
theorem combine_jsonArray (self : Aggregator) {json : SerdeJson} (faithful : json.Faithful)
    (arrays : self.strategy = .jsonArray) (stamp : Stamp) {messages : List Message}
    (notEmpty : messages ≠ []) :
    ∃ combined, self.combine json stamp messages = some combined ∧
      json.toVec (messages.map json.element) = some combined.payload := by
  obtain ⟨first, rest, rfl⟩ := List.exists_cons_of_ne_nil notEmpty
  obtain ⟨bytes, written⟩ := faithful.writes ((first :: rest).map json.element)
  refine ⟨_, rfl, ?_⟩
  change _ = some (combinePayloads json self.strategy first (first :: rest))
  rw [arrays, written]
  exact congrArg some (congrArg (Option.getD · []) written).symm

/-- A batch is combined to the array with one element for each message, in order. Two
batches which are not JSON have the same combined payload exactly if they are as long and
any two messages which differ in their payload have no text. -/
theorem combines_json {json : SerdeJson} (faithful : json.Faithful) (self : Aggregator)
    (arrays : self.strategy = .jsonArray) (stamp : Stamp) (messages : List Message)
    (notEmpty : messages ≠ []) :
    ∃ combined values, self.combine json stamp messages = some combined ∧
      json.toVec values = some combined.payload ∧
      List.Forall₂ json.Represents messages values ∧
      ∀ otherStamp others other, self.combine json otherStamp others = some other →
        (∀ m ∈ messages, json.fromSlice m.payload = none) →
        (∀ m ∈ others, json.fromSlice m.payload = none) →
        (combined.payload = other.payload ↔ List.Forall₂ Message.SameText messages others) := by
  obtain ⟨combined, combines, written⟩ := self.combine_jsonArray faithful arrays stamp notEmpty
  refine ⟨combined, messages.map json.element, combines, written, ?_, ?_⟩
  · rw [List.forall₂_map_right_iff, List.forall₂_same]
    exact fun m _ => json.represents_element m
  · intro otherStamp others other otherCombines unparsed othersUnparsed
    have othersNotEmpty : others ≠ [] := by
      rintro rfl
      cases otherCombines
    obtain ⟨_, again, otherWritten⟩ :=
      self.combine_jsonArray faithful arrays otherStamp othersNotEmpty
    obtain rfl := Option.some.inj (again.symm.trans otherCombines)
    rw [← faithful.map_element_eq_iff unparsed othersUnparsed]
    constructor
    · intro same
      exact faithful.determines (same ▸ written) otherWritten
    · intro same
      exact Option.some.inj (written.symm.trans (same ▸ otherWritten))

/-- A message with a payload. -/
def payloadMessage (payload : Bytes) : Message :=
  Message.withId "1" 0 "source" "type" payload

/-- An aggregator of two messages to an array. -/
def arrayPair : Aggregator := ⟨2, .jsonArray, [], Nat.zero_lt_two⟩

/-- A text is not combined to the same array as another, whatever comes with them. -/
theorem combines_json_text :
    ∃ combined other,
      arrayPair.combine Scalar.json ⟨"2", 0⟩ [payloadMessage [97], payloadMessage []] =
        some combined ∧
      arrayPair.combine Scalar.json ⟨"3", 0⟩ [payloadMessage [98], payloadMessage [255]] =
        some other ∧
      combined.payload ≠ other.payload := by
  obtain ⟨combined, values, combines, -, -, apart⟩ :=
    combines_json Scalar.json_faithful arrayPair rfl ⟨"2", 0⟩
      [payloadMessage [97], payloadMessage []] (List.cons_ne_nil _ _)
  refine ⟨combined, _, combines, rfl, fun same => ?_⟩
  have texts := (apart ⟨"3", 0⟩ [payloadMessage [98], payloadMessage [255]] _ rfl
    (by decide) (by decide)).mp same
  obtain payloads | ⟨leftTextless, -⟩ := (List.forall₂_cons.mp texts).1
  · revert payloads
    decide
  · have isText : ¬(payloadMessage [97]).Textless := by
      simp only [Message.Textless]
      decide +kernel
    exact isText leftTextless

/-- Two payloads which are neither JSON nor text are combined to the same array. -/
theorem binary_lost :
    Scalar.json.Faithful ∧
    Scalar.json.fromSlice [254] = none ∧ Scalar.json.fromSlice [255] = none ∧
    (arrayPair.combine Scalar.json ⟨"2", 0⟩ [payloadMessage [254]]).map (·.payload) =
      some [91, 34, 34, 93] ∧
    (arrayPair.combine Scalar.json ⟨"3", 0⟩ [payloadMessage [255]]).map (·.payload) =
      some [91, 34, 34, 93] :=
  ⟨Scalar.json_faithful, by decide +kernel⟩

end Aggregator

end Polku
