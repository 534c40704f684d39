import Polku.Middleware.Stages

/-!
# Middleware which annotates

`Enricher` adds metadata to each message, and `Validator` drops what is not valid or tags it.
What an enricher reads from elsewhere is part of its state. The closures of a validator are
pure functions.
-/

namespace Polku

open Data

/-- Further metadata, which is read in some order. -/
structure Enrichment where
  metadata : HashMap String String
  order : metadata.Iteration

/-- Adds metadata from elsewhere. -/
structure Enricher where
  State : Type
  state : State
  enrichFn : State → Message → Enrichment × State

namespace Enricher

/-- Always the same metadata. -/
def withStatic (additional : Enrichment) : Enricher := ⟨Unit, (), fun _ _ => (additional, ())⟩

/-- Insert the entries one after another. -/
def enrich (metadata : HashMap String String) (additional : Enrichment) :
    HashMap String String :=
  additional.order.entries.foldl (fun metadata entry => metadata.insert entry.1 entry.2) metadata

/-- An enricher as middleware. -/
def middleware (self : Enricher) : Middleware where
  name := "enricher"
  State := self.State
  state := self.state
  process state msg :=
    let (additional, state) := self.enrichFn state msg
    (some { msg with metadata := enrich msg.metadata additional }, state)

/-- A key which is not among the entries keeps its value. -/
private theorem lookup_foldl_insert_of_notMem {entries : List (String × String)} {key : String}
    (absent : ∀ value, (key, value) ∉ entries) (metadata : HashMap String String) :
    (entries.foldl (fun metadata entry => metadata.insert entry.1 entry.2) metadata).lookup key =
      metadata.lookup key := by
  induction entries generalizing metadata with
  | nil => rfl
  | cons entry entries inductionHypothesis =>
      have other : key ≠ entry.1 := by
        rintro rfl
        exact absent entry.2 List.mem_cons_self
      rw [List.foldl_cons, inductionHypothesis fun value member =>
        absent value (List.mem_cons_of_mem _ member)]
      exact Finmap.lookup_insert_of_ne _ other

/-- A key with one value among the entries has that value. -/
private theorem lookup_foldl_insert_of_mem {entries : List (String × String)} {key value : String}
    (member : (key, value) ∈ entries) (unique : ∀ other, (key, other) ∈ entries → other = value)
    (metadata : HashMap String String) :
    (entries.foldl (fun metadata entry => metadata.insert entry.1 entry.2) metadata).lookup key =
      some value := by
  induction entries generalizing metadata with
  | nil => cases member
  | cons entry entries inductionHypothesis =>
      rw [List.foldl_cons]
      by_cases again : ∃ other, (key, other) ∈ entries
      · obtain ⟨other, later⟩ := again
        obtain rfl := unique other (List.mem_cons_of_mem _ later)
        exact inductionHypothesis later
          (fun last isLast => unique last (List.mem_cons_of_mem _ isLast)) _
      · have isFirst : entry = (key, value) := by
          rcases List.mem_cons.mp member with same | later
          · exact same.symm
          · exact absurd ⟨value, later⟩ again
        rw [lookup_foldl_insert_of_notMem fun other isLater => again ⟨other, isLater⟩, isFirst]
        exact Finmap.lookup_insert _

/-- In whatever order the entries are read, the further metadata wins. -/
theorem enrich_eq (metadata : HashMap String String) (additional : Enrichment) :
    enrich metadata additional = additional.metadata ∪ metadata := by
  apply Finmap.ext_lookup
  intro key
  rw [HashMap.lookup_union]
  cases held : additional.metadata.lookup key with
  | none =>
      apply lookup_foldl_insert_of_notMem
      intro value member
      rw [additional.order.mem_iff, held] at member
      cases member
  | some value =>
      apply lookup_foldl_insert_of_mem ((additional.order.mem_iff _).mpr held)
      intro other member
      rw [additional.order.mem_iff, held] at member
      exact (Option.some.inj member).symm

end Enricher

/-- The result of a validation. -/
inductive ValidationResult where
  | valid
  | invalid (reason : String)
deriving DecidableEq

/-- What to do with messages which are not valid. -/
inductive InvalidAction where
  | drop
  | tag
deriving DecidableEq

/-- Validates every message. -/
structure Validator where
  validateFn : Message → ValidationResult
  onInvalid : InvalidAction

namespace Validator

/-- A validator which drops what is not valid. -/
def new (validateFn : Message → ValidationResult) : Validator := ⟨validateFn, .drop⟩

/-- Set what to do with messages which are not valid. -/
def withOnInvalid (self : Validator) (action : InvalidAction) : Validator :=
  { self with onInvalid := action }

/-- Check that the payload is JSON, given the error of reading it, if there is one. -/
def json (readError : Bytes → Option String) : Validator :=
  new fun msg =>
    if msg.payload.isEmpty then .invalid "empty payload"
    else
      match readError msg.payload with
      | none => .valid
      | some error => .invalid s!"invalid JSON: {error}"

/-- Check that the payload is not empty. -/
def nonEmpty : Validator :=
  new fun msg => if msg.payload.isEmpty then .invalid "empty payload" else .valid

/-- Check the size of the payload. -/
def maxSize (maxBytes : Nat) : Validator :=
  new fun msg =>
    if maxBytes < msg.payload.length then
      .invalid s!"payload too large: {msg.payload.length} > {maxBytes} bytes"
    else .valid

/-- Tag a message as not valid. -/
def tag (msg : Message) (reason : String) : Message :=
  { msg with
    metadata := (msg.metadata.insert "polku.validator.error" reason).insert
      "polku.validator.valid" "false" }

/-- Pass a message on, drop it or tag it. -/
def process (self : Validator) (msg : Message) : Option Message :=
  match self.validateFn msg with
  | .valid => some msg
  | .invalid reason =>
      match self.onInvalid with
      | .drop => none
      | .tag => some (tag msg reason)

/-- A validator as middleware. -/
def middleware (self : Validator) : Middleware :=
  ⟨"validator", Unit, (), fun _ msg => (self.process msg, ())⟩

end Validator

end Polku
