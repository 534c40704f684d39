import Polku.Data.Window
import Polku.Message

/-!
# The deduplicator

`Deduplicator` admits a message unless one with its id has been admitted within the time
to live. It keeps the time at which each id was last admitted, and removes what has expired
every so many calls. Times are those which the calls read from the clock, and a duration
since a later time is zero.
-/

namespace Polku

open Data

/-- A deduplicator. Its counter and its interval are `u32`s. -/
structure Deduplicator where
  seen : HashMap String Nat
  ttl : Nat
  opsSinceCleanup : UInt32
  cleanupInterval : UInt32

namespace Deduplicator

/-- A deduplicator which cleans up every thousand operations. -/
def new (ttl : Nat) : Deduplicator := ⟨∅, ttl, 0, 1000⟩

/-- A deduplicator which cleans up at an interval of at least one operation. -/
def withCleanupInterval (ttl : Nat) (cleanupInterval : UInt32) : Deduplicator :=
  ⟨∅, ttl, 0, max cleanupInterval 1⟩

/-- Count an operation: whether a cleanup was due before it. -/
def countOp (self : Deduplicator) : Bool × Deduplicator :=
  (self.cleanupInterval ≤ self.opsSinceCleanup,
    { self with opsSinceCleanup := self.opsSinceCleanup + 1 })

/-- Count from zero again. -/
def resetOps (self : Deduplicator) : Deduplicator := { self with opsSinceCleanup := 0 }

/-- Remove expired entries. -/
def cleanup (self : Deduplicator) (now : Nat) : Deduplicator :=
  { self with seen := self.seen.retain fun _ lastSeen => now - lastSeen < self.ttl }

/-- Record an id, unless it is a duplicate within the time to live. -/
def record (self : Deduplicator) (now : Nat) (id : String) : Bool × Deduplicator :=
  if (self.seen.lookup id).any fun lastSeen => now - lastSeen < self.ttl then (false, self)
  else (true, { self with seen := self.seen.insert id now })

/-- Whether an id is new, or has expired. -/
def check (self : Deduplicator) (now : Nat) (id : String) : Bool × Deduplicator :=
  let (due, self) := self.countOp
  let self := if due then self.resetOps.cleanup now else self
  self.record now id

/-- Pass a message unless it is a duplicate. -/
def process (self : Deduplicator) (now : Nat) (msg : Message) : Option Message × Deduplicator :=
  let (passed, self) := self.check now msg.id
  (if passed then some msg else none, self)

/-- Check ids one after another, each at the time its call reads. -/
def checkEach (self : Deduplicator) : List (Nat × String) → List Bool × Deduplicator
  | [] => ([], self)
  | (now, id) :: calls =>
      let (answer, self) := self.check now id
      let (answers, self) := self.checkEach calls
      (answer :: answers, self)

variable {self : Deduplicator} {admitted : List (Nat × String)} {now : Nat}

/-- Without an expired entry or with it, a deduplicator remembers what it has admitted. -/
theorem cleaned_remembers (remembers : Window.Remembers self.ttl admitted now self.seen) :
    ∃ cleaned : Deduplicator, (self.check now = cleaned.record now) ∧ cleaned.ttl = self.ttl ∧
      Window.Remembers self.ttl admitted now cleaned.seen := by
  rcases due : decide (self.cleanupInterval ≤ self.opsSinceCleanup) with _ | _
  · refine ⟨self.countOp.2, ?_, rfl, remembers⟩
    funext id
    simp only [check, countOp, due]
    rfl
  · refine ⟨self.countOp.2.resetOps.cleanup now, ?_, rfl, remembers.retain⟩
    funext id
    simp only [check, countOp, due]
    rfl

/-- An id is recorded if it is fresh, and then remembered. -/
theorem record_spec (remembers : Window.Remembers self.ttl admitted now self.seen) (id : String) :
    (self.record now id).1 = Window.fresh self.ttl admitted now id ∧
      (self.record now id).2.ttl = self.ttl ∧
      Window.Remembers self.ttl (if Window.fresh self.ttl admitted now id
        then (now, id) :: admitted else admitted) now (self.record now id).2.seen := by
  have fresh := remembers.fresh_eq id
  have answer : (self.seen.lookup id).any (fun lastSeen => now - lastSeen < self.ttl) =
      !Window.fresh self.ttl admitted now id := by
    rw [fresh]
    cases self.seen.lookup id with
    | none => rfl
    | some lastSeen =>
        rw [Option.any_some, Option.all_some, Bool.eq_iff_iff]
        simp
  rw [record, answer]
  cases Window.fresh self.ttl admitted now id with
  | false => exact ⟨rfl, rfl, remembers⟩
  | true => exact ⟨rfl, rfl, remembers.insert id⟩

/-- A check admits what is fresh. -/
theorem check_spec (remembers : Window.Remembers self.ttl admitted now self.seen) (id : String) :
    (self.check now id).1 = Window.fresh self.ttl admitted now id ∧
      (self.check now id).2.ttl = self.ttl ∧
      Window.Remembers self.ttl (if Window.fresh self.ttl admitted now id
        then (now, id) :: admitted else admitted) now (self.check now id).2.seen := by
  obtain ⟨cleaned, same, ttl, still⟩ := cleaned_remembers remembers
  rw [same, ← ttl]
  exact record_spec (ttl ▸ still) id

/-- Calls in order of time are answered as the history of the admitted ones says. -/
theorem checkEach_eq_admits (calls : List (Nat × String))
    (remembers : Window.Remembers self.ttl admitted now self.seen)
    (ordered : (now :: calls.map Prod.fst).Pairwise (· ≤ ·)) :
    (self.checkEach calls).1 = Window.admits self.ttl admitted calls := by
  induction calls generalizing self admitted now with
  | nil => rfl
  | cons call calls inductionHypothesis =>
      obtain ⟨time, id⟩ := call
      obtain ⟨later, rest⟩ := List.pairwise_cons.mp ordered
      obtain ⟨answer, ttl, remembered⟩ :=
        check_spec (remembers.later (later time List.mem_cons_self)) id
      rw [← ttl] at remembered
      have others := inductionHypothesis remembered rest
      rw [ttl] at others
      simp only [checkEach, Window.admits, answer, others]

/-- A call is answered with true if and only if no earlier one for its id has been which is
within the time to live, whatever the interval of the cleanups. -/
theorem check_iff (ttl : Nat) (cleanupInterval : UInt32) (calls : List (Nat × String))
    (ordered : (calls.map Prod.fst).Pairwise (· ≤ ·)) :
    let answers := ((withCleanupInterval ttl cleanupInterval).checkEach calls).1
    answers.length = calls.length ∧
    (∀ (place time : Nat) (id : String), calls[place]? = some (time, id) →
      (answers[place]? = some true ↔
        ¬ ∃ before < place, ∃ earlier, calls[before]? = some (earlier, id) ∧
          answers[before]? = some true ∧ time - earlier < ttl)) ∧
    ∀ otherInterval, ((withCleanupInterval ttl otherInterval).checkEach calls).1 = answers := by
  have admits : ∀ interval, ((withCleanupInterval ttl interval).checkEach calls).1 =
      Window.admits ttl [] calls := fun interval =>
    checkEach_eq_admits calls (Window.remembers_empty ttl 0)
      (List.pairwise_cons.mpr ⟨fun _ _ => Nat.zero_le _, ordered⟩)
  simp only [admits]
  refine ⟨Window.length_admits ttl [] calls, fun place time id called => ?_, fun _ => trivial⟩
  rw [Window.getElem?_admits ttl calls [] called]
  simp

/-- An id passes again when it has expired, at any interval of the cleanups. -/
theorem check_iff_expired :
    let calls := [(0, "id"), (4, "id"), (5, "id")]
    ((withCleanupInterval 5 1).checkEach calls).1 = [true, false, true] ∧
      ∀ otherInterval, ((withCleanupInterval 5 otherInterval).checkEach calls).1 =
        [true, false, true] := by
  intro calls
  have answers : ((withCleanupInterval 5 1).checkEach calls).1 = [true, false, true] := by decide
  exact ⟨answers, fun other => ((check_iff 5 1 calls (by decide)).2.2 other).trans answers⟩

end Deduplicator

end Polku
