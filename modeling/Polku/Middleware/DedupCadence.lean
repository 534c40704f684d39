import Polku.Middleware.Dedup

/-!
# How often the deduplicator cleans up

A call compares the number of calls counted before it with the interval, and the call which
cleans up is not counted itself. So one call in every `cleanupInterval + 1` cleans up, the
first ones do not, and between two cleanups one more id than the interval may be recorded.
-/

namespace Polku

open Data

namespace Deduplicator

/-- The number of ids which are tracked. -/
def len (self : Deduplicator) : Nat := self.seen.keys.card

/-- The deduplicator after calls. -/
def after (self : Deduplicator) (calls : List (Nat × String)) : Deduplicator :=
  (self.checkEach calls).2

/-- Which of some calls clean up. -/
def cleanups (self : Deduplicator) : List (Nat × String) → List Bool
  | [] => []
  | (now, id) :: calls => self.countOp.1 :: (self.check now id).2.cleanups calls

/-- How many entries were unexpired at the last cleanup of some calls, or at the one before
if none of them cleans up. -/
def unexpired (self : Deduplicator) (before : Nat) : List (Nat × String) → Nat
  | [] => before
  | (now, id) :: calls =>
      (self.check now id).2.unexpired
        (if self.countOp.1 then (self.cleanup now).len else before) calls

/-- Among as many consecutive calls as the interval says there is a cleanup, and after each
call no more ids are tracked than were unexpired at the last cleanup and as many as the
interval says. -/
structure Cadenced (dedup : Deduplicator) (calls : List (Nat × String)) : Prop where
  regular : ∀ start, start + dedup.cleanupInterval.toNat ≤ calls.length →
    true ∈ ((dedup.cleanups calls).drop start).take dedup.cleanupInterval.toNat
  bounded : ∀ made ≤ calls.length, (dedup.after (calls.take made)).len ≤
    dedup.unexpired 0 (calls.take made) + dedup.cleanupInterval.toNat

variable {self : Deduplicator}

@[simp] theorem after_nil (self : Deduplicator) : self.after [] = self := rfl

@[simp] theorem after_cons (self : Deduplicator) (now : Nat) (id : String)
    (calls : List (Nat × String)) :
    self.after ((now, id) :: calls) = (self.check now id).2.after calls := rfl

/-! ### One call -/

theorem record_frame (self : Deduplicator) (now : Nat) (id : String) :
    (self.record now id).2.opsSinceCleanup = self.opsSinceCleanup ∧
      (self.record now id).2.cleanupInterval = self.cleanupInterval ∧
      (self.record now id).2.len ≤ self.len + 1 := by
  unfold record
  split
  · exact ⟨rfl, rfl, Nat.le_succ _⟩
  · refine ⟨rfl, rfl, ?_⟩
    have grows : (self.seen.insert id now).keys ⊆ insert id self.seen.keys := by
      intro key member
      simpa [Finmap.mem_keys, Finmap.mem_insert] using member
    exact (Finset.card_le_card grows).trans (Finset.card_insert_le _ _)

/-- A call which finds the interval reached cleans up and counts from zero; another one
counts itself. -/
theorem check_eq (self : Deduplicator) (now : Nat) (id : String) :
    self.check now id = if self.countOp.1 = true
      then { self.cleanup now with opsSinceCleanup := 0 }.record now id
      else { self with opsSinceCleanup := self.opsSinceCleanup + 1 }.record now id := by
  rcases due : decide (self.cleanupInterval ≤ self.opsSinceCleanup) with _ | _
  · simp only [check, countOp, due]
    rfl
  · simp only [check, countOp, due]
    rfl

/-- What a call does to the counter and to the number of ids. -/
theorem check_cadence (reached : self.opsSinceCleanup.toNat ≤ self.cleanupInterval.toNat)
    (now : Nat) (id : String) :
    (self.countOp.1 = true ↔ self.opsSinceCleanup.toNat = self.cleanupInterval.toNat) ∧
    (self.check now id).2.cleanupInterval = self.cleanupInterval ∧
    (self.check now id).2.opsSinceCleanup.toNat =
      (self.opsSinceCleanup.toNat + 1) % (self.cleanupInterval.toNat + 1) ∧
    (self.check now id).2.len ≤
      (if self.countOp.1 = true then (self.cleanup now).len else self.len) + 1 := by
  have due : self.countOp.1 = true ↔
      self.opsSinceCleanup.toNat = self.cleanupInterval.toNat := by
    rw [countOp, decide_eq_true_iff, UInt32.le_iff_toNat_le]
    omega
  refine ⟨due, ?_⟩
  rw [check_eq]
  split
  case isTrue cleans =>
      obtain ⟨counter, interval, length⟩ :=
        record_frame { self.cleanup now with opsSinceCleanup := 0 } now id
      refine ⟨interval, ?_, length⟩
      rw [counter, due.mp cleans, Nat.mod_self]
      rfl
  case isFalse counts =>
      obtain ⟨counter, interval, length⟩ :=
        record_frame { self with opsSinceCleanup := self.opsSinceCleanup + 1 } now id
      refine ⟨interval, ?_, length⟩
      have below : self.opsSinceCleanup.toNat < self.cleanupInterval.toNat :=
        lt_of_le_of_ne reached fun same => counts (due.mpr same)
      have width := self.cleanupInterval.toNat_lt
      rw [counter, UInt32.toNat_add, UInt32.toNat_one, Nat.mod_eq_of_lt (by omega),
        Nat.mod_eq_of_lt (by omega)]

/-- The counter does not pass the interval. -/
theorem check_reached (reached : self.opsSinceCleanup.toNat ≤ self.cleanupInterval.toNat)
    (now : Nat) (id : String) :
    (self.check now id).2.opsSinceCleanup.toNat ≤
      (self.check now id).2.cleanupInterval.toNat := by
  obtain ⟨-, interval, counter, -⟩ := check_cadence reached now id
  rw [counter, interval]
  exact Nat.le_of_lt_succ (Nat.mod_lt _ (Nat.succ_pos _))

/-! ### Any number of calls -/

/-- From any phase of the counter, one call in every `cleanupInterval + 1` cleans up. -/
theorem cleanups_eq (calls : List (Nat × String)) (self : Deduplicator)
    (reached : self.opsSinceCleanup.toNat ≤ self.cleanupInterval.toNat) :
    self.cleanups calls = (List.range calls.length).map fun place => decide
      ((self.opsSinceCleanup.toNat + place) % (self.cleanupInterval.toNat + 1) =
        self.cleanupInterval.toNat) := by
  induction calls generalizing self with
  | nil => rfl
  | cons call calls inductionHypothesis =>
      obtain ⟨now, id⟩ := call
      obtain ⟨due, interval, counter, -⟩ := check_cadence reached now id
      have still := check_reached reached now id
      rw [cleanups, inductionHypothesis _ still, interval, counter, List.length_cons,
        List.range_succ_eq_map, List.map_cons, List.map_map]
      congr 1
      · rw [Bool.eq_iff_iff, due, decide_eq_true_iff, Nat.add_zero,
          Nat.mod_eq_of_lt (Nat.lt_succ_of_le reached)]
      · refine List.map_congr_left fun place _ => ?_
        rw [Function.comp_apply, Nat.mod_add_mod, Nat.succ_eq_add_one]
        congr 3
        omega

/-- The counter after calls. -/
theorem after_counter (calls : List (Nat × String)) (self : Deduplicator)
    (reached : self.opsSinceCleanup.toNat ≤ self.cleanupInterval.toNat) :
    (self.after calls).opsSinceCleanup.toNat =
      (self.opsSinceCleanup.toNat + calls.length) % (self.cleanupInterval.toNat + 1) := by
  induction calls generalizing self with
  | nil => exact (Nat.mod_eq_of_lt (Nat.lt_succ_of_le reached)).symm
  | cons call calls inductionHypothesis =>
      obtain ⟨now, id⟩ := call
      obtain ⟨-, interval, counter, -⟩ := check_cadence reached now id
      have still := check_reached reached now id
      rw [after_cons, inductionHypothesis _ still, interval, counter, Nat.mod_add_mod,
        List.length_cons]
      congr 1
      omega

/-- Besides those which were unexpired at the last cleanup, no more ids are tracked than the
calls which have been counted since, and that which has cleaned up. -/
theorem len_after_le (calls : List (Nat × String)) (self : Deduplicator) {before first : Nat}
    (reached : self.opsSinceCleanup.toNat ≤ self.cleanupInterval.toNat)
    (bound : self.len ≤ before + self.opsSinceCleanup.toNat + first) :
    (self.after calls).len ≤ self.unexpired before calls +
      (self.after calls).opsSinceCleanup.toNat +
        if true ∈ self.cleanups calls then 1 else first := by
  induction calls generalizing self before first with
  | nil => simpa [cleanups, unexpired] using bound
  | cons call calls inductionHypothesis =>
      obtain ⟨now, id⟩ := call
      obtain ⟨due, -, counter, length⟩ := check_cadence reached now id
      have still := check_reached reached now id
      rw [after_cons, unexpired, cleanups]
      by_cases cleans : self.countOp.1 = true
      · -- The call which cleans up is not counted.
        rw [if_pos cleans] at length ⊢
        have zero : (self.check now id).2.opsSinceCleanup.toNat = 0 := by
          rw [counter, due.mp cleans, Nat.mod_self]
        have later := @inductionHypothesis _ (self.cleanup now).len 1 still (by omega)
        simpa [cleans] using later
      · rw [if_neg cleans] at length ⊢
        have below : self.opsSinceCleanup.toNat < self.cleanupInterval.toNat :=
          lt_of_le_of_ne reached fun same => cleans (due.mpr same)
        rw [Nat.mod_eq_of_lt (by omega)] at counter
        have later := @inductionHypothesis _ before first still (by omega)
        simpa [cleans] using later

/-! ### Which calls clean up -/

/-- Of as many consecutive numbers as the period less one, one is last in its period unless
the first of them begins a period. -/
private theorem exists_last_iff (start interval : Nat) :
    (∃ offset < interval, (start + offset) % (interval + 1) = interval) ↔
      start % (interval + 1) ≠ 0 := by
  have shift : ∀ offset, (start + offset) % (interval + 1) =
      (start % (interval + 1) + offset) % (interval + 1) := fun offset =>
    (Nat.mod_add_mod _ _ _).symm
  constructor
  · rintro ⟨offset, below, last⟩ begins
    rw [shift, begins, Nat.zero_add, Nat.mod_eq_of_lt (by omega)] at last
    omega
  · intro within
    have phase : start % (interval + 1) < interval + 1 := Nat.mod_lt start (Nat.succ_pos interval)
    refine ⟨interval - start % (interval + 1), by omega, ?_⟩
    rw [shift, Nat.add_sub_cancel' (by omega)]
    exact Nat.mod_eq_of_lt (Nat.lt_succ_self _)

/-- From any phase of the counter, among as many consecutive calls as the interval says there
is a cleanup unless the counter is at zero before them. -/
theorem mem_window_iff (reached : self.opsSinceCleanup.toNat ≤ self.cleanupInterval.toNat)
    (calls : List (Nat × String)) {start : Nat}
    (within : start + self.cleanupInterval.toNat ≤ calls.length) :
    true ∈ ((self.cleanups calls).drop start).take self.cleanupInterval.toNat ↔
      (self.opsSinceCleanup.toNat + start) % (self.cleanupInterval.toNat + 1) ≠ 0 := by
  have window : ((List.range calls.length).drop start).take self.cleanupInterval.toNat =
      List.range' start self.cleanupInterval.toNat := by
    rw [List.range_eq_range', List.drop_range', Nat.zero_add, Nat.mul_one,
      List.take_range'_of_length_ge (by omega)]
  rw [← exists_last_iff, cleanups_eq calls self reached, ← List.map_drop, ← List.map_take, window,
    List.mem_map]
  constructor
  · rintro ⟨place, member, last⟩
    obtain ⟨least, below⟩ := List.mem_range'_1.mp member
    refine ⟨place - start, by omega, ?_⟩
    rw [Nat.add_assoc, Nat.add_sub_cancel' least]
    exact of_decide_eq_true last
  · rintro ⟨offset, below, last⟩
    refine ⟨start + offset, List.mem_range'_1.mpr (by omega), decide_eq_true ?_⟩
    rwa [← Nat.add_assoc]

/-- As many first calls as the interval says do not clean up. -/
theorem not_mem_cleanups (fresh : self.opsSinceCleanup.toNat = 0) {calls : List (Nat × String)}
    (few : calls.length ≤ self.cleanupInterval.toNat) : true ∉ self.cleanups calls := by
  rw [cleanups_eq calls self (fresh ▸ Nat.zero_le _), fresh, List.mem_map]
  rintro ⟨place, member, last⟩
  have early := List.mem_range.mp member
  rw [decide_eq_true_iff, Nat.zero_add, Nat.mod_eq_of_lt (by omega)] at last
  omega

/-- Counted from a fresh counter and without ids, the ids which are tracked after some calls
beyond those which were unexpired at the last cleanup. -/
theorem len_after_fresh_le (fresh : self.opsSinceCleanup.toNat = 0) (empty : self.len = 0)
    (calls : List (Nat × String)) :
    (self.after calls).len ≤ self.unexpired 0 calls +
      calls.length % (self.cleanupInterval.toNat + 1) +
        if true ∈ self.cleanups calls then 1 else 0 := by
  have reached : self.opsSinceCleanup.toNat ≤ self.cleanupInterval.toNat :=
    fresh ▸ Nat.zero_le _
  have counter := after_counter calls self reached
  rw [fresh, Nat.zero_add] at counter
  rw [← counter]
  exact len_after_le calls self reached (by omega)

/-- Those are one more than the interval at most. -/
theorem len_after_fresh_le_succ (fresh : self.opsSinceCleanup.toNat = 0) (empty : self.len = 0)
    (calls : List (Nat × String)) :
    (self.after calls).len ≤ self.unexpired 0 calls + self.cleanupInterval.toNat + 1 := by
  have bound := len_after_fresh_le fresh empty calls
  have phase : calls.length % (self.cleanupInterval.toNat + 1) <
      self.cleanupInterval.toNat + 1 := Nat.mod_lt _ (Nat.succ_pos _)
  split at bound <;> omega

/-- They are as many as the interval says at most, unless there has been a cleanup and the
next call cleans up. -/
theorem len_after_fresh_le_interval (fresh : self.opsSinceCleanup.toNat = 0)
    (empty : self.len = 0) {calls : List (Nat × String)}
    (inside : calls.length ≤ self.cleanupInterval.toNat ∨
      ¬ self.cleanupInterval.toNat + 1 ∣ calls.length + 1) :
    (self.after calls).len ≤ self.unexpired 0 calls + self.cleanupInterval.toNat := by
  have bound := len_after_fresh_le fresh empty calls
  have phase : calls.length % (self.cleanupInterval.toNat + 1) <
      self.cleanupInterval.toNat + 1 := Nat.mod_lt _ (Nat.succ_pos _)
  rcases inside with few | within
  · rw [if_neg (not_mem_cleanups fresh few)] at bound
    omega
  · have notLast : calls.length % (self.cleanupInterval.toNat + 1) ≠
        self.cleanupInterval.toNat := by
      intro last
      apply within
      rw [Nat.dvd_iff_mod_eq_zero, ← Nat.mod_add_mod, last, Nat.mod_self]
    split at bound <;> omega

/-- The calls of a new deduplicator keep to the interval exactly if there are fewer of them
than it says. In general, as many consecutive calls include a cleanup unless the number of
calls before them is a multiple of `cleanupInterval + 1`, and the ids are within the bound but
for one more before a cleanup which is not the first. -/
theorem cadenced_iff (ttl : Nat) (cleanupInterval : UInt32) (calls : List (Nat × String)) :
    let self := withCleanupInterval ttl cleanupInterval
    let interval := self.cleanupInterval.toNat
    (self.Cadenced calls ↔ calls.length < interval) ∧
    (∀ start, start + interval ≤ calls.length →
      (true ∈ ((self.cleanups calls).drop start).take interval ↔ ¬ interval + 1 ∣ start)) ∧
    ∀ made ≤ calls.length,
      (self.after (calls.take made)).len ≤
        self.unexpired 0 (calls.take made) + interval + 1 ∧
      (made ≤ interval ∨ ¬ interval + 1 ∣ made + 1 →
        (self.after (calls.take made)).len ≤ self.unexpired 0 (calls.take made) + interval) := by
  intro self interval
  have fresh : self.opsSinceCleanup.toNat = 0 := rfl
  have empty : self.len = 0 := rfl
  have windows : ∀ start, start + interval ≤ calls.length →
      (true ∈ ((self.cleanups calls).drop start).take interval ↔ ¬ interval + 1 ∣ start) := by
    intro start within
    rw [mem_window_iff (fresh ▸ Nat.zero_le _) calls within, fresh, Nat.zero_add,
      Nat.dvd_iff_mod_eq_zero]
  have bounded : ∀ made ≤ calls.length, made ≤ interval ∨ ¬ interval + 1 ∣ made + 1 →
      (self.after (calls.take made)).len ≤ self.unexpired 0 (calls.take made) + interval := by
    intro made within inside
    apply len_after_fresh_le_interval fresh empty
    rwa [List.length_take_of_le within]
  refine ⟨⟨fun cadenced => ?_, fun few => ⟨fun start within => ?_, fun made within => ?_⟩⟩,
    windows, fun made within => ⟨len_after_fresh_le_succ fresh empty _, bounded made within⟩⟩
  · by_contra many
    have first := cadenced.regular 0 (by omega)
    exact (windows 0 (by omega)).mp first (Nat.dvd_zero _)
  · omega
  · exact bounded made within (.inl (by omega))

/-- With an interval of one, the second call cleans up and not the first or the third, and
three ids are tracked when one was unexpired at the cleanup. -/
theorem cleanup_late :
    let self := withCleanupInterval 5 1
    let calls := [(0, "a"), (0, "b"), (0, "c")]
    self.cleanups calls = [false, true, false] ∧ self.unexpired 0 calls = 1 ∧
      (self.after calls).len = 3 ∧ ¬ self.Cadenced calls := by
  intro self calls
  have length : (self.after calls).len = 3 := by decide
  refine ⟨by decide, by decide, length, fun cadenced => ?_⟩
  have bound := cadenced.bounded 3 le_rfl
  exact absurd (length ▸ bound) (by decide)

end Deduplicator

end Polku
