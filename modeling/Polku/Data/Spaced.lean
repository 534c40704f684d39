import Mathlib.Data.List.Basic

/-!
# Times which are spaced out

A list of times in which only so many in a row may lie closer together than some gap. How
many of them there are in a window of time is bounded by how many gaps fit into it.
-/

namespace Polku.Data

/-- Each time is a gap after the one which stands some number of places before it. -/
def Spaced (quota gap : Nat) (times : List Nat) : Prop :=
  ∀ place first last, times[place]? = some first → times[place + quota]? = some last →
    first + gap ≤ last

namespace Spaced

variable {quota gap : Nat} {times older recent : List Nat}

/-- No times are spaced out. -/
theorem nil (quota gap : Nat) : Spaced quota gap [] := by
  intro place first last isFirst
  cases isFirst

/-- One more time, if all but fewer than the quota are a gap before it. -/
theorem snoc (spaced : Spaced quota gap (older ++ recent)) (few : recent.length < quota)
    {time : Nat} (apart : ∀ early ∈ older, early + gap ≤ time) :
    Spaced quota gap (older ++ recent ++ [time]) := by
  intro place first last isFirst isLast
  have inList := (List.getElem?_eq_some_iff.mp isLast).choose
  rw [List.length_append, List.length_singleton] at inList
  rcases Nat.lt_or_ge (place + quota) (older ++ recent).length with before | atEnd
  · rw [List.getElem?_append_left before] at isLast
    rw [List.getElem?_append_left (by omega)] at isFirst
    exact spaced place first last isFirst isLast
  · have isTime : place + quota = (older ++ recent).length := by omega
    rw [isTime, List.getElem?_concat_length] at isLast
    obtain rfl := Option.some.inj isLast
    rw [List.length_append] at isTime
    have inOlder : place < older.length := by omega
    rw [List.append_assoc, List.getElem?_append_left inOlder] at isFirst
    exact apart first (List.mem_of_getElem? isFirst)

/-- After so many quotas, as many gaps have passed. -/
theorem le_getElem? (spaced : Spaced quota gap times) {start : Nat}
    (after : ∀ time ∈ times, start ≤ time) (rounds : Nat) {time : Nat}
    (isTime : times[rounds * quota]? = some time) : start + rounds * gap ≤ time := by
  induction rounds generalizing time with
  | zero =>
      rw [Nat.zero_mul, Nat.add_zero]
      exact after time (List.mem_of_getElem? isTime)
  | succ rounds inductionHypothesis =>
      rw [Nat.succ_mul] at isTime
      have inList := (List.getElem?_eq_some_iff.mp isTime).choose
      obtain ⟨earlier, isEarlier⟩ : ∃ earlier, times[rounds * quota]? = some earlier :=
        ⟨_, List.getElem?_eq_getElem (by omega)⟩
      have gapAfter := spaced _ _ _ isEarlier isTime
      have before := inductionHypothesis isEarlier
      rw [Nat.succ_mul]
      omega

/-- A window holds at most one quota more than gaps fit into it. -/
theorem length_le (spaced : Spaced quota gap times) (positive : 0 < gap) {start duration : Nat}
    (within : ∀ time ∈ times, start ≤ time ∧ time ≤ start + duration) :
    times.length ≤ quota * (duration / gap + 1) := by
  by_contra more
  have inList : (duration / gap + 1) * quota < times.length := by
    rw [Nat.mul_comm]
    omega
  have late := spaced.le_getElem? (fun time member => (within time member).1)
    (duration / gap + 1) (List.getElem?_eq_getElem inList)
  have limit := (within _ (List.getElem_mem inList)).2
  have whole := Nat.lt_mul_div_succ duration positive
  rw [Nat.mul_comm] at whole
  omega

end Spaced

end Polku.Data
