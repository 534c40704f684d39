import Mathlib.Data.List.DropRight

/-!
# Lists

Histories are extended by appending one element, so functions of a history are
computed by their value on `trace ++ [label]`. Empty lists stand for nothing.
Erasing repetitions, `List.eraseReps`, keeps the members of a list.
-/

namespace Polku.Data

universe u v w

variable {α : Type u} {β : Type v}

/-- Selecting from an extended list selects from the list, then from the new
element. -/
theorem filterMap_snoc (f : α → Option β) (items : List α) (item : α) :
    (items ++ [item]).filterMap f = items.filterMap f ++ (f item).toList := by
  rw [List.filterMap_append]
  cases value : f item <;> simp [value]

/-- What stands at a place of an extended list stood there before, or is new. -/
theorem snoc_split {items before after : List α} {item middle : α}
    (split : items ++ [item] = before ++ middle :: after) :
    (before = items ∧ middle = item ∧ after = []) ∨
      ∃ rest, after = rest ++ [item] ∧ items = before ++ middle :: rest := by
  rcases List.eq_nil_or_concat after with rfl | ⟨rest, last, rfl⟩
  · obtain ⟨same, head⟩ := List.append_inj' split rfl
    exact .inl ⟨same.symm, (List.cons.inj head).1.symm, rfl⟩
  · have whole : items ++ [item] = (before ++ middle :: rest) ++ [last] := by simpa using split
    obtain ⟨same, head⟩ := List.append_inj' whole rfl
    obtain ⟨rfl, -⟩ := List.cons.inj head
    exact .inr ⟨rest, List.concat_eq_append, same⟩

/-- What holds of all members of a list, and is kept while one of them is replaced, holds of
the members after it if it holds of the replacement. -/
theorem forall_mem_replace {Before After : α → Prop} {front back : List α} {old new : α}
    (holds : ∀ item ∈ front ++ old :: back, Before item)
    (keeps : ∀ item, Before item → After item) (replaced : After new) :
    ∀ item ∈ front ++ new :: back, After item := by
  obtain ⟨inFront, fromOld⟩ := List.forall_mem_append.mp holds
  obtain ⟨-, inBack⟩ := List.forall_mem_cons.mp fromOld
  exact List.forall_mem_append.mpr ⟨fun item member => keeps item (inFront item member),
    List.forall_mem_cons.mpr ⟨replaced, fun item member => keeps item (inBack item member)⟩⟩

/-- What is collected from each place which an item may have is collected from the items. -/
theorem flatMap_filterMap {γ : Type w} (f : α → Option β) (g : β → List γ) (items : List α) :
    (items.filterMap f).flatMap g = items.flatMap fun item => (f item).elim [] g := by
  induction items with
  | nil => rfl
  | cons item items inductionHypothesis =>
      cases value : f item <;> simp [value, inductionHypothesis]

/-- If each item gives at most one thing of its own, these stand in the order of the items. -/
theorem flatMap_sublist_map {f : α → List β} {g : α → β} {items : List α}
    (each : ∀ item ∈ items, f item = [] ∨ f item = [g item]) :
    (items.flatMap f).Sublist (items.map g) := by
  induction items with
  | nil => exact .slnil
  | cons item items inductionHypothesis =>
      obtain ⟨first, others⟩ := List.forall_mem_cons.mp each
      have rest := inductionHypothesis others
      rw [List.flatMap_cons, List.map_cons]
      rcases first with none | one
      · rw [none]
        exact rest.cons _
      · rw [one]
        exact rest.cons_cons _

/-- If each item gives one thing of its own, these are all. -/
theorem flatMap_eq_map {f : α → List β} {g : α → β} {items : List α}
    (each : ∀ item ∈ items, f item = [g item]) : items.flatMap f = items.map g := by
  induction items with
  | nil => rfl
  | cons item items inductionHypothesis =>
      obtain ⟨first, others⟩ := List.forall_mem_cons.mp each
      rw [List.flatMap_cons, List.map_cons, first, inductionHypothesis others]
      rfl

/-- A list, unless it is empty. -/
def nonEmpty (items : List α) : Option (List α) :=
  if items.isEmpty then none else some items

@[simp] theorem nonEmpty_nil : nonEmpty ([] : List α) = none := rfl

@[simp] theorem nonEmpty_cons (item : α) (items : List α) :
    nonEmpty (item :: items) = some (item :: items) := rfl

/-- Nothing stands for the empty list. -/
@[simp] theorem getD_nonEmpty (items : List α) : (nonEmpty items).getD [] = items := by
  cases items <;> rfl

/-- A list is not lost by leaving out an empty one. -/
@[simp] theorem flatten_nonEmpty (items : List α) : (nonEmpty items).toList.flatten = items := by
  cases items <;> simp

/-- Mapping what some places of a list hold keeps the empty places. -/
theorem count_none_map [BEq α] [LawfulBEq α] [BEq β] [LawfulBEq β] (f : α → β)
    (items : List (Option α)) : (items.map (Option.map f)).count none = items.count none := by
  induction items with
  | nil => rfl
  | cons item items inductionHypothesis => cases item <;> simp [inductionHypothesis]

/-- What the loop of `List.eraseReps` has yet to return. -/
private theorem mem_eraseReps_loop [BEq α] [LawfulBEq α] {item : α} (first : α)
    (items found : List α) :
    item ∈ List.eraseRepsBy.loop (· == ·) first items found ↔
      item ∈ found ∨ item = first ∨ item ∈ items := by
  induction items generalizing first found with
  | nil => simp [List.eraseRepsBy.loop, or_comm]
  | cons next items inductionHypothesis =>
      unfold List.eraseRepsBy.loop
      cases same : first == next with
      | true =>
          obtain rfl := eq_of_beq same
          simp [inductionHypothesis]
      | false =>
          simp only [inductionHypothesis, List.mem_cons]
          tauto

/-- Erasing repetitions keeps the members of a list. -/
@[simp] theorem mem_eraseReps [BEq α] [LawfulBEq α] {item : α} (items : List α) :
    item ∈ items.eraseReps ↔ item ∈ items := by
  cases items with
  | nil => rfl
  | cons first items =>
      rw [List.eraseReps, List.eraseRepsBy, mem_eraseReps_loop]
      simp

end Polku.Data
