import Mathlib.Data.Finmap
import Mathlib.Data.List.MinMax

/-!
# Hash maps

A `HashMap` is a finite map without an order of its entries. A loop over one
sees them in some order, an `Iteration`, of which nothing else is known.
-/

namespace Polku.Data

universe u v

/-- A hash map; iteration order is not part of it. -/
abbrev HashMap (Key : Type u) (Value : Type v) := Finmap fun _ : Key => Value

namespace HashMap

variable {Key : Type u} {Value : Type v} [DecidableEq Key]

/-- An order of the entries of a hash map. -/
structure Iteration (map : HashMap Key Value) where
  entries : List (Key × Value)
  nodup : entries.Nodup
  mem_iff : ∀ entry, entry ∈ entries ↔ map.lookup entry.1 = some entry.2

/-- Keep the entries which meet a condition. -/
def retain (keep : Key → Value → Bool) (map : HashMap Key Value) : HashMap Key Value where
  entries := map.entries.filter fun entry => keep entry.1 entry.2
  nodupKeys := Multiset.nodup_keys.mp (Multiset.nodup_of_le
    (Multiset.map_le_map (Multiset.filter_le _ _)) map.nodupKeys.nodup_keys)

/-- A key has the value it had, if that is kept. -/
@[simp] theorem lookup_retain (keep : Key → Value → Bool) (map : HashMap Key Value) (key : Key) :
    (map.retain keep).lookup key = (map.lookup key).filter (keep key) := by
  ext value
  rw [← Option.mem_def, Finmap.mem_lookup_iff, Option.filter_eq_some_iff, ← Option.mem_def,
    Finmap.mem_lookup_iff]
  exact Multiset.mem_filter

/-- The left map of a union wins. -/
theorem lookup_union (left right : HashMap Key Value) (key : Key) :
    (left ∪ right).lookup key = (left.lookup key).or (right.lookup key) := by
  by_cases held : key ∈ left
  · obtain ⟨value, found⟩ := Finmap.mem_iff.mp held
    rw [Finmap.lookup_union_left held, found, Option.some_or]
  · rw [Finmap.lookup_union_right held, Finmap.lookup_eq_none.mpr held, Option.none_or]

/-- When maps extend one another, the last one which has a key wins. -/
theorem lookup_foldl_union {Item : Type*} (maps : Item → HashMap Key Value) (items : List Item)
    (start : HashMap Key Value) (key : Key) :
    (items.foldl (fun all item => maps item ∪ all) start).lookup key =
      (items.reverse.findSome? fun item => (maps item).lookup key).or (start.lookup key) := by
  induction items generalizing start with
  | nil => rfl
  | cons item items inductionHypothesis =>
      rw [List.foldl_cons, inductionHypothesis, lookup_union, List.reverse_cons,
        List.findSome?_append, Option.or_assoc, List.findSome?_singleton]

variable {map : HashMap Key Value}

/-- Every hash map has an iteration. -/
theorem Iteration.nonempty (map : HashMap Key Value) : Nonempty (Iteration map) := by
  induction map using Finmap.induction_on with
  | H list =>
      refine ⟨list.entries.map fun entry => (entry.1, entry.2), ?_, ?_⟩
      · refine List.Nodup.map ?_ (List.NodupKeys.nodup list.nodupKeys)
        rintro ⟨key, value⟩ ⟨key', value'⟩ same
        cases same
        rfl
      · rintro ⟨key, value⟩
        rw [Finmap.lookup_toFinmap, ← Option.mem_def, AList.mem_lookup_iff]
        simp

/-- Any entry may come first. -/
theorem Iteration.exists_first {key : Key} {value : Value} (held : map.lookup key = some value) :
    ∃ (iteration : Iteration map) (rest : List (Key × Value)),
      iteration.entries = (key, value) :: rest := by
  obtain ⟨entries, nodup, mem_iff⟩ := Iteration.nonempty map
  obtain ⟨front, back, rfl⟩ := List.append_of_mem ((mem_iff (key, value)).mpr held)
  have same : (front ++ (key, value) :: back).Perm ((key, value) :: (front ++ back)) :=
    List.perm_middle
  refine ⟨⟨(key, value) :: (front ++ back), same.nodup_iff.mp nodup, fun entry => ?_⟩, _, rfl⟩
  rw [← same.mem_iff, mem_iff]

end HashMap

/-- A first entry which nothing falls below is the least. -/
theorem argmin_of_first {α : Type u} {rank : α → Nat} {first : α} {rest : List α}
    (least : ∀ item ∈ rest, rank first ≤ rank item) :
    (first :: rest).argmin rank = some first := by
  rw [List.argmin_cons]
  cases other : rest.argmin rank with
  | none => rfl
  | some item => simp [least item (List.argmin_mem other)]

end Polku.Data
