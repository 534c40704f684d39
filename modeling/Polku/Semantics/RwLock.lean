import Mathlib.Data.List.Count

/-!
# Readers-writer locks

A lock that many readers or one writer may hold. Each task holds it in one way or not at all;
the lock fits the tasks if it counts its readers and knows of its writer. Taking and
releasing it keeps it fitting, whatever else the tasks do.
-/

namespace Polku.Semantics

/-- A way to hold a lock. -/
inductive LockAccess where
  | read
  | write
deriving DecidableEq, Repr

/-- A readers-writer lock. -/
structure RwLock where
  readers : Nat
  writer : Bool
deriving DecidableEq, Repr

namespace RwLock

/-- A lock which nobody holds. -/
def new : RwLock := ⟨0, false⟩

/-- Take the lock, unless it has to be waited for. -/
def take (self : RwLock) : LockAccess → Option RwLock
  | .read => if self.writer then none else some { self with readers := self.readers + 1 }
  | .write => if self.writer || self.readers != 0 then none else some { self with writer := true }

/-- Release the lock. -/
def release (self : RwLock) : LockAccess → RwLock
  | .read => { self with readers := self.readers - 1 }
  | .write => { self with writer := false }

/-- The lock is what the tasks make of it. -/
structure Fits (lock : RwLock) (holds : List (Option LockAccess)) : Prop where
  readers : holds.count (some .read) = lock.readers
  writer : holds.count (some .write) = lock.writer.toNat
  exclusive : lock.writer = true → lock.readers = 0

variable {lock after : RwLock} {front back : List (Option LockAccess)}

/-- At first nobody holds it. -/
theorem Fits.new : Fits new [] := ⟨rfl, rfl, fun _ => rfl⟩

/-- A new task does not hold it. -/
theorem Fits.start {holds : List (Option LockAccess)} (fits : Fits lock holds) :
    Fits lock (holds ++ [none]) where
  readers := by simpa using fits.readers
  writer := by simpa using fits.writer
  exclusive := fits.exclusive

/-- A task which takes the lock holds it. -/
theorem Fits.take (fits : Fits lock (front ++ none :: back)) {access : LockAccess}
    (taken : lock.take access = some after) : Fits after (front ++ some access :: back) := by
  obtain ⟨readers, writer, exclusive⟩ := fits
  simp only [List.count_append, List.count_cons] at readers writer
  cases access with
  | read =>
      cases isWritten : lock.writer with
      | true => simp [RwLock.take, isWritten] at taken
      | false =>
          obtain rfl := Option.some.inj ((if_neg (by simp [isWritten])).symm.trans taken)
          refine ⟨?_, ?_, ?_⟩
          · simp only [List.count_append, List.count_cons]
            simp at readers ⊢
            omega
          · simpa [List.count_append, List.count_cons] using writer
          · simp [isWritten]
  | write =>
      cases isHeld : (lock.writer || lock.readers != 0) with
      | true => simp [RwLock.take, isHeld] at taken
      | false =>
          obtain rfl := Option.some.inj ((if_neg (by simp [isHeld])).symm.trans taken)
          obtain ⟨unwritten, unread⟩ := Bool.or_eq_false_iff.mp isHeld
          rw [bne_eq_false_iff_eq] at unread
          refine ⟨?_, ?_, fun _ => unread⟩
          · simpa [List.count_append, List.count_cons] using readers
          · simp only [List.count_append, List.count_cons]
            simp [unwritten] at writer ⊢
            omega

/-- A task which releases the lock does not hold it any more. -/
theorem Fits.release {access : LockAccess} (fits : Fits lock (front ++ some access :: back)) :
    Fits (lock.release access) (front ++ none :: back) := by
  obtain ⟨readers, writer, exclusive⟩ := fits
  simp only [List.count_append, List.count_cons] at readers writer
  cases access with
  | read =>
      refine ⟨?_, ?_, ?_⟩
      · simp only [List.count_append, List.count_cons, RwLock.release]
        simp at readers ⊢
        omega
      · simpa [List.count_append, List.count_cons, RwLock.release] using writer
      · intro isWritten
        have none := exclusive isWritten
        simp [none, RwLock.release]
  | write =>
      refine ⟨?_, ?_, ?_⟩
      · simpa [List.count_append, List.count_cons, RwLock.release] using readers
      · simp only [List.count_append, List.count_cons, RwLock.release]
        cases isWritten : lock.writer <;> simp [isWritten] at writer ⊢
        omega
      · simp [RwLock.release]

/-- Whoever takes the lock to write finds that nobody holds it. -/
theorem Fits.none_of_take_write {holds : List (Option LockAccess)} (fits : Fits lock holds)
    (taken : lock.take .write = some after) : ∀ hold ∈ holds, hold = none := by
  have isFree : (lock.writer || lock.readers != 0) = false := by
    cases isHeld : (lock.writer || lock.readers != 0) with
    | true => simp [RwLock.take, isHeld] at taken
    | false => rfl
  obtain ⟨unwritten, unread⟩ := Bool.or_eq_false_iff.mp isFree
  rw [bne_eq_false_iff_eq] at unread
  have noReader := fits.readers
  have noWriter := fits.writer
  rw [unread, List.count_eq_zero] at noReader
  rw [unwritten, Bool.toNat_false, List.count_eq_zero] at noWriter
  intro hold member
  match hold with
  | none => rfl
  | some .read => exact absurd member noReader
  | some .write => exact absurd member noWriter

/-- Besides a writer nobody holds the lock. -/
theorem Fits.alone (fits : Fits lock (front ++ some .write :: back)) :
    ∀ hold ∈ front ++ back, hold = none := by
  have writer := fits.writer
  have isWritten : lock.writer = true := by
    cases unwritten : lock.writer with
    | true => rfl
    | false => simp [unwritten, List.count_append] at writer
  have readers := fits.readers
  rw [fits.exclusive isWritten] at readers
  simp [isWritten, List.count_append] at writer readers
  have free : ∀ access : LockAccess, (front ++ back).count (some access) = 0 := by
    intro access
    rw [List.count_append]
    cases access with
    | read => omega
    | write => omega
  intro hold member
  cases hold with
  | none => rfl
  | some access => exact absurd member (List.count_eq_zero.mp (free access))

end RwLock

end Polku.Semantics
