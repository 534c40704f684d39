import Mathlib.Logic.Function.Basic

/-!
# Delimited encodings

An encoding is delimited if a reader can tell where an encoded value ends, whatever
follows it. Such encodings can be joined without losing a boundary.
-/

namespace Polku.Data

universe u v w

variable {Value : Type u} {Symbol : Type v} {Source : Type w}

/-- No encoded value runs into what follows it. -/
def Delimited (encode : Value → List Symbol) : Prop :=
  ∀ ⦃left right : Value⦄ ⦃afterLeft afterRight : List Symbol⦄,
    encode left ++ afterLeft = encode right ++ afterRight →
      left = right ∧ afterLeft = afterRight

/-- The values under a separator, as they follow one another. -/
def separated (separator : Symbol) (encode : Value → List Symbol) (values : List Value) :
    List Symbol :=
  values.flatMap fun value => separator :: encode value

namespace Delimited

variable {encode : Value → List Symbol}

/-- What can be read back before any rest is delimited. -/
theorem ofRead (read : List Symbol → Option (Value × List Symbol))
    (reads : ∀ value rest, read (encode value ++ rest) = some (value, rest)) :
    Delimited encode := by
  intro left right afterLeft afterRight same
  have answers := (reads left afterLeft).symm.trans ((congrArg read same).trans (reads right _))
  simpa using answers

/-- Different values have different encodings. -/
theorem injective (delimited : Delimited encode) : Function.Injective encode := by
  intro left right same
  exact (delimited (congrArg (· ++ []) same)).1

/-- An encoding stays delimited behind an injective translation. -/
theorem comp (delimited : Delimited encode) {translate : Source → Value}
    (injective : Function.Injective translate) : Delimited (encode ∘ translate) := by
  intro left right afterLeft afterRight same
  obtain ⟨values, rests⟩ := delimited same
  exact ⟨injective values, rests⟩

/-- An encoding stays delimited behind a symbol which announces it. -/
theorem announced (delimited : Delimited encode) (symbol : Symbol) :
    Delimited fun value => symbol :: encode value := by
  intro left right afterLeft afterRight same
  exact delimited (List.cons.inj same).2

/-- A sequence of values is delimited by a symbol with which no value starts. -/
theorem stopped (delimited : Delimited encode) {stop : Symbol}
    (apart : ∀ value rest after, encode value ++ rest ≠ stop :: after) :
    Delimited fun values : List Value => values.flatMap encode ++ [stop] := by
  intro left right afterLeft afterRight same
  simp only [List.append_assoc, List.singleton_append] at same
  induction left generalizing right with
  | nil =>
      cases right with
      | nil => simpa using same
      | cons value right =>
          rw [List.flatMap_cons, List.append_assoc] at same
          exact absurd same.symm (apart _ _ _)
  | cons value left inductionHypothesis =>
      cases right with
      | nil =>
          rw [List.flatMap_cons, List.append_assoc] at same
          exact absurd same (apart _ _ _)
      | cons other right =>
          simp only [List.flatMap_cons, List.append_assoc] at same
          obtain ⟨values, rests⟩ := delimited same
          obtain ⟨lists, afters⟩ := inductionHypothesis rests
          exact ⟨congrArg₂ _ values lists, afters⟩

/-- The values under a separator are delimited by a symbol other than it. -/
theorem separated (delimited : Delimited encode) {separator stop : Symbol}
    (different : separator ≠ stop) :
    Delimited fun values : List Value => Data.separated separator encode values ++ [stop] :=
  (delimited.announced separator).stopped fun _ _ _ same => different (List.cons.inj same).1

end Delimited

end Polku.Data
