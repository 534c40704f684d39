import Mathlib.Data.Finset.Basic
import Mathlib.Data.List.Basic

/-!
# Recency

Of some tracked keys which all occur in a history, the least recent is the one
whose last occurrence is earliest: all the others occur after it.
-/

namespace Polku.Data

universe u

variable {Key : Type u} {history : List Key} {tracked : Finset Key}

/-- Every other tracked key occurs after the last occurrence of `key`. -/
def LeastRecent (history : List Key) (tracked : Finset Key) (key : Key) : Prop :=
  key ∈ tracked ∧ ∃ earlier later, history = earlier ++ key :: later ∧ key ∉ later ∧
    ∀ other ∈ tracked, other ≠ key → other ∈ later

/-- There is at most one least recent key. -/
theorem LeastRecent.unique {first second : Key} (isFirst : LeastRecent history tracked first)
    (isSecond : LeastRecent history tracked second) : first = second := by
  by_contra different
  obtain ⟨firstTracked, earlier, later, split, last, others⟩ := isFirst
  obtain ⟨secondTracked, earlier', later', split', last', others'⟩ := isSecond
  have secondLater := others second secondTracked (Ne.symm different)
  have firstLater := others' first firstTracked different
  -- Both ends of the history are suffixes of it, so one contains the other.
  have suffix : later <:+ history := ⟨earlier ++ [first], by simp [split]⟩
  have suffix' : later' <:+ history := ⟨earlier' ++ [second], by simp [split']⟩
  rcases List.suffix_or_suffix_of_suffix suffix suffix' with within | within
  · exact last' (within.subset secondLater)
  · exact last (within.subset firstLater)

/-- A further occurrence of another key keeps the least recent one. -/
theorem LeastRecent.snoc [DecidableEq Key] {key next : Key} (different : key ≠ next)
    (least : LeastRecent history (tracked.erase next) key) (isTracked : key ∈ tracked) :
    LeastRecent (history ++ [next]) tracked key := by
  obtain ⟨-, earlier, later, split, last, others⟩ := least
  refine ⟨isTracked, earlier, later ++ [next], by simp [split], ?_, fun other member distinct => ?_⟩
  · simp [last, different]
  · by_cases same : other = next
    · simp [same]
    · exact List.mem_append_left _ (others other (Finset.mem_erase.mpr ⟨same, member⟩) distinct)

/-- Among keys which have all occurred there is a least recent one. -/
theorem LeastRecent.exists [DecidableEq Key] (occurred : ∀ key ∈ tracked, key ∈ history)
    (some : tracked.Nonempty) : ∃ key, LeastRecent history tracked key := by
  induction history using List.reverseRecOn generalizing tracked with
  | nil =>
      obtain ⟨key, member⟩ := some
      exact absurd (occurred key member) List.not_mem_nil
  | append_singleton history next inductionHypothesis =>
      rcases (tracked.erase next).eq_empty_or_nonempty with alone | others
      · -- Only the last key can be tracked.
        obtain ⟨key, member⟩ := some
        have only : ∀ other ∈ tracked, other = next := fun other tracked => by
          by_contra different
          exact Finset.notMem_empty other (alone ▸ Finset.mem_erase.mpr ⟨different, tracked⟩)
        refine ⟨next, only key member ▸ member, history, [], rfl, List.not_mem_nil, ?_⟩
        intro other tracked different
        exact absurd (only other tracked) different
      · obtain ⟨key, least⟩ := inductionHypothesis (fun key member => by
          obtain ⟨different, tracked⟩ := Finset.mem_erase.mp member
          simpa [different] using occurred key tracked) others
        obtain ⟨different, isTracked⟩ := Finset.mem_erase.mp least.1
        exact ⟨key, least.snoc different isTracked⟩

end Polku.Data
