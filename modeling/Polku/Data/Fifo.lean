import Mathlib.Data.List.Basic
import Mathlib.Data.List.Perm.Basic
import Mathlib.Data.List.Nodup
import Mathlib.Data.List.Sort

/-!
# Queues whose items leave only at the front

A `Ledger` lists the items which left a queue, oldest first, each with the
reason it left for, and the items the queue still holds. Its arrivals are these
lists joined. When the arrivals are numbered in order, the positions of the two
lists say where each item is: the held numbers are the last ones, and the
departures of each reason are increasing.
-/

namespace Polku.Data

universe u v

/-- What a front-departure queue has done: who left, why, and who is left. -/
structure Ledger (Reason : Type u) (α : Type v) where
  departed : List (Reason × α)
  held : List α

namespace Ledger

variable {Reason : Type u} {α : Type v}

/-- Every item which ever joined the queue, in order of arrival. -/
def arrived (ledger : Ledger Reason α) : List α :=
  ledger.departed.map Prod.snd ++ ledger.held

/-- The items which left for one of the reasons selected by `selects`. -/
def departedFor (ledger : Ledger Reason α) (selects : Reason → Bool) : List α :=
  (ledger.departed.filter fun departure => selects departure.1).map Prod.snd

/-- Held items are the latest arrivals. -/
theorem held_eq_drop (ledger : Ledger Reason α) :
    ledger.held = ledger.arrived.drop ledger.departed.length := by
  simp [arrived]

/-- Departures for a reason keep the order of arrival. -/
theorem departedFor_sublist (ledger : Ledger Reason α) (selects : Reason → Bool) :
    (ledger.departedFor selects).Sublist ledger.arrived :=
  (List.filter_sublist.map Prod.snd).trans (List.sublist_append_left _ _)

/-- Every arrival is held, or left for a selected reason, or left for another
one, and the three lists together hold it as often as it arrived. -/
theorem departedFor_perm (ledger : Ledger Reason α) (selects : Reason → Bool) :
    (ledger.departedFor selects ++ ledger.departedFor (fun reason => !selects reason) ++
      ledger.held).Perm ledger.arrived := by
  unfold departedFor arrived
  rw [← List.map_append]
  exact ((List.filter_append_perm _ ledger.departed).map Prod.snd).append_right _

/-- In a list of distinct items, those selected are those not rejected. -/
private theorem selected_eq_filter [DecidableEq α] (selects : Reason → Bool)
    (departed : List (Reason × α)) (distinct : (departed.map Prod.snd).Nodup) :
    (departed.filter fun departure => selects departure.1).map Prod.snd =
      (departed.map Prod.snd).filter fun item =>
        item ∉ (departed.filter fun departure => !selects departure.1).map Prod.snd := by
  induction departed with
  | nil => rfl
  | cons departure rest inductionHypothesis =>
      obtain ⟨reason, item⟩ := departure
      simp only [List.map_cons, List.nodup_cons] at distinct
      obtain ⟨fresh, restDistinct⟩ := distinct
      have absent : item ∉ (rest.filter fun departure => !selects departure.1).map Prod.snd :=
        fun member => fresh ((List.filter_sublist.map Prod.snd).mem member)
      by_cases selected : selects reason
      · simp only [List.filter_cons, selected, if_true, List.map_cons, Bool.not_true,
          Bool.false_eq_true, if_false, absent, not_false_eq_true, decide_true]
        rw [inductionHypothesis restDistinct]
      · -- The head left for another reason, and no later arrival equals it.
        have others : ∀ other ∈ rest.map Prod.snd, other ≠ item := by
          rintro other member rfl
          exact fresh member
        simp only [List.filter_cons, selected, List.map_cons, Bool.not_false, if_true,
          Bool.false_eq_true, if_false, List.mem_cons, true_or, not_true, decide_false]
        rw [inductionHypothesis restDistinct]
        apply List.filter_congr
        intro other member
        simp only [others other member, false_or]

/-- With distinct arrivals and nothing held, the departures for the selected
reasons are exactly the arrivals which did not leave for another reason. -/
theorem departedFor_eq_filter [DecidableEq α] (ledger : Ledger Reason α)
    (selects : Reason → Bool) (distinct : ledger.arrived.Nodup) (empty : ledger.held = []) :
    ledger.departedFor selects = ledger.arrived.filter fun item =>
      item ∉ ledger.departedFor fun reason => !selects reason := by
  have arrivals : ledger.arrived = ledger.departed.map Prod.snd := by simp [arrived, empty]
  rw [arrivals] at distinct ⊢
  exact selected_eq_filter selects ledger.departed distinct

end Ledger

end Polku.Data
