import Mathlib.Algebra.Order.Group.Nat
import Mathlib.Data.List.Basic
import Mathlib.Logic.Function.Iterate

/-!
# Buckets of tokens

A `Bucket` gains a token at every tick, holds no more than its size, and gives a token
to each call which finds one. A call catches up at once with the ticks which have
passed. An `EagerBucket` follows the clock moment by moment instead, and gains its
tokens when they are due: at the positive multiples of its period.
-/

namespace Polku.Data

/-- A bucket, with the number of ticks it has seen. -/
structure Bucket where
  size : Nat
  tokens : Nat
  ticks : Nat
deriving DecidableEq, Repr

namespace Bucket

/-- A full bucket before the first tick. -/
def full (size : Nat) : Bucket := ⟨size, size, 0⟩

/-- Gain the tokens of all ticks up to a number. -/
def catchUp (self : Bucket) (ticks : Nat) : Bucket :=
  { self with tokens := min (self.tokens + (ticks - self.ticks)) self.size, ticks := ticks }

/-- Give a token, if there is one. -/
def take (self : Bucket) : Bool × Bucket :=
  if self.tokens = 0 then (false, self) else (true, { self with tokens := self.tokens - 1 })

/-- A call after a number of ticks. -/
def call (self : Bucket) (ticks : Nat) : Bool × Bucket := (self.catchUp ticks).take

/-- Calls one after another, with the number of ticks before each. -/
def calls (self : Bucket) : List Nat → List Bool × Bucket
  | [] => ([], self)
  | ticks :: rest =>
      let (answer, self) := self.call ticks
      let (answers, self) := self.calls rest
      (answer :: answers, self)

end Bucket

/-- A bucket which gains a token at every positive multiple of its period, and the time
up to which it has done so. -/
structure EagerBucket where
  period : Nat
  size : Nat
  tokens : Nat
  time : Nat
deriving DecidableEq, Repr

namespace EagerBucket

/-- A full bucket at time zero. -/
def full (period size : Nat) : EagerBucket := ⟨period, size, size, 0⟩

/-- One moment passes. -/
def pass (self : EagerBucket) : EagerBucket :=
  { self with
    time := self.time + 1
    tokens := if self.period ∣ self.time + 1 then min (self.tokens + 1) self.size
      else self.tokens }

/-- Give a token, if there is one. -/
def take (self : EagerBucket) : Bool × EagerBucket :=
  if self.tokens = 0 then (false, self) else (true, { self with tokens := self.tokens - 1 })

/-- A call at a later time. -/
def call (self : EagerBucket) (time : Nat) : Bool × EagerBucket :=
  (pass^[time - self.time] self).take

/-- Calls one after another, at given times. -/
def calls (self : EagerBucket) : List Nat → List Bool × EagerBucket
  | [] => ([], self)
  | time :: rest =>
      let (answer, self) := self.call time
      let (answers, self) := self.calls rest
      (answer :: answers, self)

/-- The same bucket, which counts the ticks and not the time. -/
def toBucket (self : EagerBucket) : Bucket := ⟨self.size, self.tokens, self.time / self.period⟩

/-- After any number of moments a bucket has gained the tokens which were due. -/
theorem pass_iterate (self : EagerBucket) (within : self.tokens ≤ self.size) (moments : Nat) :
    pass^[moments] self = { self with
      time := self.time + moments
      tokens := min (self.tokens +
        ((self.time + moments) / self.period - self.time / self.period)) self.size } := by
  induction moments with
  | zero => simp [within]
  | succ moments inductionHypothesis =>
      rw [Function.iterate_succ_apply', inductionHypothesis, pass]
      have later : self.time / self.period ≤ (self.time + moments) / self.period :=
        Nat.div_le_div_right (Nat.le_add_right _ _)
      have next := Nat.succ_div (a := self.time + moments) (b := self.period)
      simp only [Nat.add_assoc] at next ⊢
      rw [next]
      congr 1
      split <;> omega

/-- A call of an eager bucket answers as one which catches up at once. -/
theorem call_toBucket (self : EagerBucket) (within : self.tokens ≤ self.size) {time : Nat}
    (later : self.time ≤ time) :
    (self.call time).1 = (self.toBucket.call (time / self.period)).1 ∧
      (self.call time).2.toBucket = (self.toBucket.call (time / self.period)).2 ∧
      (self.call time).2.tokens ≤ (self.call time).2.size ∧
      (self.call time).2.time = time ∧ (self.call time).2.period = self.period := by
  have reached : self.time + (time - self.time) = time := by omega
  rw [call, self.pass_iterate within, reached]
  unfold take Bucket.call Bucket.catchUp Bucket.take toBucket
  dsimp only
  split
  · refine ⟨rfl, rfl, by simp, rfl, rfl⟩
  · refine ⟨rfl, rfl, ?_, rfl, rfl⟩
    dsimp only
    omega

/-- Calls in order of time are answered alike by an eager bucket and by one which catches
up with the ticks at every call. -/
theorem calls_toBucket (self : EagerBucket) (within : self.tokens ≤ self.size)
    (times : List Nat) (ordered : (self.time :: times).Pairwise (· ≤ ·)) :
    (self.calls times).1 = (self.toBucket.calls (times.map (· / self.period))).1 := by
  induction times generalizing self with
  | nil => rfl
  | cons time times inductionHypothesis =>
      obtain ⟨later, rest⟩ := List.pairwise_cons.mp ordered
      obtain ⟨answer, same, still, reached, period⟩ :=
        self.call_toBucket within (later time List.mem_cons_self)
      have others := inductionHypothesis (self.call time).2 still (by rwa [reached])
      rw [same, period] at others
      simp [calls, Bucket.calls, answer, others]

end EagerBucket

namespace Bucket

/-- No window of time holds more calls than the size of a bucket and the ticks in it. -/
def Conforms (size period : Nat) (times : List Nat) : Prop :=
  ∀ first last, first ≤ last →
    times.countP (fun time => first ≤ time ∧ time ≤ last) ≤
      size + (last / period - first / period)

/-- Calls up to the end of a window are in it if none is before it. -/
private theorem countP_window {times : List Nat} {first : Nat}
    (later : ∀ time ∈ times, first ≤ time) (last : Nat) :
    times.countP (fun time => first ≤ time ∧ time ≤ last) = times.countP (· ≤ last) := by
  apply List.countP_congr
  intro time member
  simp [later time member]

/-- Since it was last full, at time `first`, a bucket has given `given` tokens; whatever
conforms in the windows from then on is granted. -/
private theorem calls_of_conforms (period : Nat) (times : List Nat) (self : Bucket)
    (now first given : Nat) (ordered : (now :: times).Pairwise (· ≤ ·)) (started : first ≤ now)
    (ticks : self.ticks = now / period)
    (balance : self.tokens + given = self.size + (self.ticks - first / period))
    (window : ∀ last, now ≤ last →
      given + times.countP (· ≤ last) ≤ self.size + (last / period - first / period))
    (conforms : Conforms self.size period times) :
    (self.calls (times.map (· / period))).1 = times.map fun _ => true := by
  induction times generalizing self now first given with
  | nil => rfl
  | cons time times inductionHypothesis =>
      obtain ⟨later, rest⟩ := List.pairwise_cons.mp ordered
      have fromNow := later time List.mem_cons_self
      have fromTime := (List.pairwise_cons.mp rest).1
      have ticksBefore : now / period ≤ time / period := Nat.div_le_div_right fromNow
      have firstBefore : first / period ≤ now / period := Nat.div_le_div_right started
      have conformsRest : Conforms self.size period times := fun begins ends order =>
        (List.sublist_cons_self time times).countP_le.trans (conforms begins ends order)
      have answered : ∀ tokens, min (self.tokens + (time / period - self.ticks)) self.size =
          tokens + 1 → self.call (time / period) = (true, ⟨self.size, tokens, time / period⟩) := by
        intro tokens caughtUp
        simp [call, catchUp, take, caughtUp]
      have head : ∀ first, first ≤ time → ∀ last, time ≤ last →
          (time :: times).countP (fun moment => first ≤ moment ∧ moment ≤ last) =
            times.countP (fun moment => first ≤ moment ∧ moment ≤ last) + 1 := by
        intro first before last after
        simp [before, after]
      rcases Nat.lt_or_ge self.size (self.tokens + (time / period - self.ticks)) with capped | fits
      · -- The bucket is full again: the window starts anew.
        have alone := conforms time time le_rfl
        rw [head time le_rfl time le_rfl, Nat.sub_self] at alone
        obtain ⟨tokens, size⟩ : ∃ tokens, self.size = tokens + 1 := ⟨self.size - 1, by omega⟩
        have granted := answered tokens (by omega)
        have others := inductionHypothesis ⟨self.size, tokens, time / period⟩ time time 1 rest
          le_rfl rfl (by dsimp only; omega) (fun last after => by
            have inWindow := conforms time last after
            rw [head time le_rfl last after, countP_window fromTime] at inWindow
            dsimp only
            omega) conformsRest
        simp [calls, granted, others]
      · have inWindow := window time fromNow
        have counted : ∀ last, time ≤ last →
            (time :: times).countP (· ≤ last) = times.countP (· ≤ last) + 1 := by
          intro last after
          simp [after]
        rw [counted time le_rfl] at inWindow
        obtain ⟨tokens, caughtUp⟩ : ∃ tokens,
            self.tokens + (time / period - self.ticks) = tokens + 1 :=
          ⟨self.tokens + (time / period - self.ticks) - 1, by omega⟩
        have granted := answered tokens (by omega)
        have others := inductionHypothesis ⟨self.size, tokens, time / period⟩ time first
          (given + 1) rest (started.trans fromNow) rfl (by dsimp only; omega)
          (fun last after => by
            have later := window last (fromNow.trans after)
            rw [counted last after] at later
            dsimp only
            omega) conformsRest
        simp [calls, granted, others]

/-- Calls which conform to a bucket are all granted. -/
theorem calls_eq_true (size period : Nat) (times : List Nat)
    (ordered : times.Pairwise (· ≤ ·)) (conforms : Conforms size period times) :
    ((full size).calls (times.map (· / period))).1 = times.map fun _ => true := by
  refine calls_of_conforms period times (full size) 0 0 0 ?_ le_rfl (by simp [full])
    (by simp [full]) (fun last _ => ?_) conforms
  · exact List.pairwise_cons.mpr ⟨fun time _ => Nat.zero_le time, ordered⟩
  · have window := conforms 0 last (Nat.zero_le last)
    rw [countP_window (fun time _ => Nat.zero_le time)] at window
    simpa [full] using window

/-- A call at every tick is always granted. -/
theorem calls_range' (self : Bucket) (roomy : 0 < self.size) (count : Nat) :
    (self.calls (List.range' (self.ticks + 1) count)).1 = List.replicate count true := by
  induction count generalizing self with
  | zero => rfl
  | succ count inductionHypothesis =>
      have granted : self.call (self.ticks + 1) =
          (true, ⟨self.size, min (self.tokens + 1) self.size - 1, self.ticks + 1⟩) := by
        rw [call, take, catchUp]
        dsimp only
        rw [Nat.add_sub_cancel_left, if_neg (by omega)]
      have others := inductionHypothesis ⟨self.size, min (self.tokens + 1) self.size - 1,
        self.ticks + 1⟩ roomy
      rw [List.range'_succ, calls, granted, List.replicate_succ]
      exact congrArg (true :: ·) others

end Bucket

end Polku.Data
