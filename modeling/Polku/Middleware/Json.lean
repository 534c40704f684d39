import Polku.Data.Delimited
import Polku.Middleware.Aggregator

/-!
# JSON libraries

What the aggregator relies on in a JSON library, and a library of the values without
numbers, objects and nested arrays which keeps to it.
-/

namespace Polku

open Data

/-- Every array can be written, what is written determines the array, and different texts
are different values. -/
structure SerdeJson.Faithful (json : SerdeJson) : Prop where
  writes : ∀ values, ∃ bytes, json.toVec values = some bytes
  determines : ∀ ⦃left right bytes⦄, json.toVec left = some bytes →
    json.toVec right = some bytes → left = right
  string_injective : Function.Injective json.string

/-- A JSON value without parts. -/
inductive Scalar where
  | null
  | bool (value : Bool)
  | string (text : String)
deriving DecidableEq

namespace Scalar

/-- A hexadecimal digit. -/
def hexDigit (digit : UInt8) : UInt8 := if digit < 10 then 48 + digit else 87 + digit

/-- The value of a hexadecimal digit. -/
def digitValue (symbol : UInt8) : UInt8 := if symbol < 58 then symbol - 48 else symbol - 87

/-- The bytes which are escaped by a letter. -/
def letters : List (UInt8 × UInt8) :=
  [(34, 34), (92, 92), (8, 98), (9, 116), (10, 110), (12, 102), (13, 114)]

/-- A byte of a text as it is written: quotes, backslashes and control bytes are escaped. -/
def escape (byte : UInt8) : Bytes :=
  match letters.find? (·.1 = byte) with
  | some (_, letter) => [92, letter]
  | none =>
      if byte < 32 then [92, 117, 48, 48, hexDigit (byte / 16), hexDigit (byte % 16)]
      else [byte]

/-- Read one byte of a text. -/
def unescape : Bytes → Option (UInt8 × Bytes)
  | 92 :: 117 :: 48 :: 48 :: high :: low :: rest =>
      some (16 * digitValue high + digitValue low, rest)
  | 92 :: letter :: rest =>
      (letters.find? (·.2 = letter)).map fun entry => (entry.1, rest)
  | byte :: rest => some (byte, rest)
  | [] => none

/-- A value as it is written. -/
def write : Scalar → Bytes
  | null => [110, 117, 108, 108]
  | bool true => [116, 114, 117, 101]
  | bool false => [102, 97, 108, 115, 101]
  | string text => 34 :: (text.toUTF8.data.toList.flatMap escape ++ [34])

/-- An array as it is written. -/
def writeArray : List Scalar → Bytes
  | [] => [91, 93]
  | first :: rest => 91 :: (write first ++ (separated 44 write rest ++ [93]))

/-- The constant which is all there is to read. -/
def read (bytes : Bytes) : Option Scalar :=
  [null, bool true, bool false].find? (write · = bytes)

/-- A library of scalars, which reads the constants. -/
def json : SerdeJson := ⟨Scalar, read, string, fun values => some (writeArray values)⟩

private theorem digits_control (byte : UInt8) (control : byte < 32) :
    16 * digitValue (hexDigit (byte / 16)) + digitValue (hexDigit (byte % 16)) = byte := by
  have digits : ∀ number < 32, 16 * digitValue (hexDigit (UInt8.ofNat number / 16)) +
      digitValue (hexDigit (UInt8.ofNat number % 16)) = UInt8.ofNat number := by
    decide
  simpa using digits byte.toNat (UInt8.lt_iff_toNat_lt.mp control)

/-- A letter tells which byte it escapes, and that it is not a control byte. -/
private theorem unescape_letter (rest : Bytes) : ∀ entry ∈ letters,
    unescape (92 :: entry.2 :: rest) = some (entry.1, rest) := by
  intro entry member
  simp only [letters, List.mem_cons, List.not_mem_nil, or_false] at member
  rcases member with rfl | rfl | rfl | rfl | rfl | rfl | rfl
  all_goals rfl

/-- A byte is read back from what is written of it. -/
theorem unescape_escape (byte : UInt8) (rest : Bytes) :
    unescape (escape byte ++ rest) = some (byte, rest) := by
  unfold escape
  cases found : letters.find? (·.1 = byte) with
  | some entry =>
      have same : entry.1 = byte := by simpa using List.find?_some found
      rw [← same]
      exact unescape_letter rest entry (List.mem_of_find?_eq_some found)
  | none =>
      by_cases control : byte < 32
      · simp only [control, if_true, List.cons_append, List.nil_append, unescape,
          digits_control byte control]
      · have plain : byte ≠ 92 := by
          rintro rfl
          cases found
        simp [control, unescape, plain]

theorem escape_ne_quote (byte : UInt8) (rest after : Bytes) :
    escape byte ++ rest ≠ 34 :: after := by
  unfold escape
  cases found : letters.find? (·.1 = byte) with
  | some entry => simp
  | none =>
      have plain : byte ≠ 34 := by
        rintro rfl
        cases found
      by_cases control : byte < 32
      · simp [control]
      · simp [control, plain]

/-- The end of a text shows. -/
theorem delimited_text : Delimited fun text : String =>
    text.toUTF8.data.toList.flatMap escape ++ [34] := by
  have injective : Function.Injective fun text : String => text.toUTF8.data.toList := by
    intro left right same
    rw [← String.toByteArray_inj, ByteArray.ext_iff, ← Array.toList_inj]
    exact same
  exact ((Delimited.ofRead unescape unescape_escape).stopped escape_ne_quote).comp injective

/-- The end of a value shows. -/
theorem delimited_write : Delimited write := by
  intro left right afterLeft afterRight same
  match left, right with
  | null, null => simpa [write] using same
  | bool true, bool true => simpa [write] using same
  | bool false, bool false => simpa [write] using same
  | string text, string other =>
      obtain ⟨texts, rests⟩ := delimited_text.announced 34 same
      exact ⟨congrArg string texts, rests⟩
  | null, bool true | null, bool false | null, string _ | bool true, null | bool false, null
  | string _, null | bool true, bool false | bool true, string _ | bool false, bool true
  | bool false, string _ | string _, bool true | string _, bool false => simp [write] at same

/-- No value starts with the end of an array. -/
theorem write_ne_end (value : Scalar) (rest after : Bytes) : write value ++ rest ≠ 93 :: after := by
  rcases value with - | (- | -) | text
  all_goals simp [write]

/-- An array determines its values. -/
theorem writeArray_injective : Function.Injective writeArray := by
  intro left right same
  cases left with
  | nil =>
      cases right with
      | nil => rfl
      | cons other right => exact absurd (List.cons.inj same).2.symm (write_ne_end other _ _)
  | cons value left =>
      cases right with
      | nil => exact absurd (List.cons.inj same).2 (write_ne_end value _ _)
      | cons other right =>
          obtain ⟨values, rests⟩ := delimited_write (List.cons.inj same).2
          have different : (44 : UInt8) ≠ 93 := by decide
          exact congrArg₂ _ values ((delimited_write.separated different).injective rests)

/-- The library of scalars is faithful. -/
theorem json_faithful : json.Faithful where
  writes := fun values => ⟨writeArray values, rfl⟩
  determines := by
    intro left right bytes leftWritten rightWritten
    exact writeArray_injective (Option.some.inj (leftWritten.trans rightWritten.symm))
  string_injective := fun _ _ => string.inj

end Scalar

end Polku
