import Polku.Data.XorshiftPeriod
import Polku.Middleware.Sampler

/-!
# The rate of the sampler

Calls of `process` share one generator, and each draws the word after that of the call
before it. The generator runs through all the words but zero before it comes back, so
however the calls interleave, of any 2^64 - 1 answers in a row exactly as many keep their
message as there are positive words up to the threshold.
-/

namespace Polku

open Semantics Data

namespace Sampler

/-- The number of messages kept in some part of a run. -/
def kept (trace : List (UpdateLoop.Event Message UInt64 (Option Message))) : Nat :=
  trace.countP fun event => match event with
    | .returned _ _ answer => answer.isSome
    | _ => false

/-- The number of words up to a bound among the next ones, over whole periods. -/
theorem count_le_periods {state : UInt64} (nonzero : state ≠ 0) (bound : UInt64)
    (rounds : Nat) :
    (rounds * xorshiftPeriod).count (fun times => xorshift64^[times + 1] state ≤ bound) =
      rounds * bound.toNat := by
  induction rounds with
  | zero => simp
  | succ rounds inductionHypothesis =>
      have periodic : Function.IsPeriodicPt xorshift64 xorshiftPeriod (xorshift64 state) :=
        xorshift64_iterate_period _
      have back : xorshift64^[rounds * xorshiftPeriod] (xorshift64 state) = xorshift64 state :=
        periodic.const_mul rounds
      have round : xorshiftPeriod.count (fun times =>
          xorshift64^[rounds * xorshiftPeriod + times + 1] state ≤ bound) = bound.toNat := by
        rw [Nat.count_eq_card_filter_range, ← card_drawn_le (mt xorshift64_eq_zero.mp nonzero)]
        apply congrArg Finset.card
        apply Finset.filter_congr
        intro times _
        rw [Function.iterate_succ_apply, Nat.add_comm, Function.iterate_add_apply, back]
      rw [Nat.succ_mul, Nat.count_add, inductionHypothesis, round, Nat.succ_mul]

variable {self : Sampler} {state : UpdateLoop.Callers Message UInt64}
  {trace : List (UpdateLoop.Event Message UInt64 (Option Message))}

/-- The messages kept in a part of a run are those for which a word up to the threshold is
stored. -/
theorem kept_eq (run : self.shared.Runs trace state)
    {before middle after : List (UpdateLoop.Event Message UInt64 (Option Message))}
    (split : trace = before ++ (middle ++ after)) :
    kept middle = middle.countP (UpdateLoop.Event.stores (· ≤ self.threshold)) := by
  obtain ⟨_, answers⟩ := UpdateLoop.invariant (fun _ => True) trivial (fun _ _ => trivial) run
  apply List.countP_congr
  intro event member
  cases event with
  | called | loaded | retried => rfl
  | returned msg random answer =>
      have inTrace : .returned msg random answer ∈ trace := by
        rw [split]
        exact List.mem_append_right before (List.mem_append_left after member)
      obtain ⟨_, rfl⟩ := answers msg random answer inTrace
      simp [updates, UpdateLoop.Event.stores]

/-- The threshold of a rate from zero to one. -/
theorem toNat_thresholdOf {rate : ℚ} (atMost : rate ≤ 1) :
    (thresholdOf rate).toNat = min ⌊rate * 2 ^ 64⌋₊ (2 ^ 64 - 1) := by
  rw [thresholdOf]
  split_ifs with whole
  · obtain rfl : rate = 1 := le_antisymm atMost whole
    have floor : ⌊(1 : ℚ) * 2 ^ 64⌋₊ = 2 ^ 64 := by norm_num
    rw [floor]
    decide
  · rw [UInt64.toNat_ofNat', Nat.mod_eq_of_lt]
    exact Nat.lt_of_le_of_lt (Nat.min_le_right _ _) (by decide)

/-- A sampler which is built has the threshold of its rate, and not zero as its state. -/
theorem built_eq {rate : ℚ} {clock : Option Nat}
    (built : new rate clock = some self ∨ ∃ seed, withSeed rate clock seed = some self) :
    self.threshold = thresholdOf rate ∧ self.state ≠ 0 ∧ rate ≤ 1 := by
  rcases built with built | ⟨seed, built⟩
  · unfold new at built
    split at built
    case isTrue inRange =>
        obtain rfl := Option.some.inj built
        exact ⟨rfl, seed_ne_zero _, inRange.2⟩
    case isFalse => cases built
  · unfold withSeed new at built
    split at built
    case isTrue inRange =>
        obtain rfl := Option.some.inj built
        exact ⟨rfl, seed_ne_zero seed, inRange.2⟩
    case isFalse => cases built

/-- However the calls of a sampler interleave, of any whole periods of answers in a row each
keeps as many messages as its rate says: that part of 2^64, rounded down. And the answers
are those of `process`, called one after another. -/
theorem keeps_rate_exactly {rate : ℚ} {clock : Option Nat}
    (built : new rate clock = some self ∨ ∃ seed, withSeed rate clock seed = some self)
    (run : self.shared.Runs trace state)
    {before middle after : List (UpdateLoop.Event Message UInt64 (Option Message))}
    (split : trace = before ++ (middle ++ after)) {rounds : Nat}
    (periods : UpdateLoop.exchanges middle = rounds * (2 ^ 64 - 1)) :
    kept middle = rounds * min ⌊rate * 2 ^ 64⌋₊ (2 ^ 64 - 1) ∧
      (self.processEach ((UpdateLoop.answered trace).map Prod.fst)).1 =
        (UpdateLoop.answered trace).map Prod.snd := by
  obtain ⟨threshold, nonzero, atMost⟩ := built_eq built
  have reached := xorshift64_iterate_ne_zero nonzero (UpdateLoop.exchanges before)
  refine ⟨?_, congrArg Prod.fst (shared_processEach run)⟩
  rw [kept_eq run split, UpdateLoop.countP_stores _ run split, periods,
    ← toNat_thresholdOf atMost, ← threshold]
  exact count_le_periods reached self.threshold rounds

/-- A sampler of rate one half keeps 2^63 of the 2^64 - 1 messages of a period. -/
theorem keeps_rate_exactly_half :
    ∃ (self : Sampler) (trace : List (UpdateLoop.Event Message UInt64 (Option Message)))
      (state : UpdateLoop.Callers Message UInt64),
      withSeed (1 / 2) none 42 = some self ∧ self.shared.Runs trace state ∧
        UpdateLoop.exchanges trace = 2 ^ 64 - 1 ∧ kept trace = 2 ^ 63 := by
  have built : withSeed (1 / 2) none 42 = some ⟨thresholdOf (1 / 2), 42 ||| 1⟩ := by
    norm_num [withSeed, new]
  let self : Sampler := ⟨thresholdOf (1 / 2), 42 ||| 1⟩
  obtain ⟨trace, state, run, requests⟩ := self.updates.exists_answered self.state
    (List.replicate (1 * (2 ^ 64 - 1)) (Message.withId "id" 0 "source" "type" []))
  have exchanges : UpdateLoop.exchanges trace = 1 * (2 ^ 64 - 1) := by
    rw [← UpdateLoop.length_answered, ← List.length_map Prod.fst, requests, List.length_replicate]
  have split : trace = [] ++ (trace ++ []) := by simp
  have kept := (keeps_rate_exactly (.inr ⟨42, built⟩) run split exchanges).1
  have half : ⌊(1 / 2 : ℚ) * 2 ^ 64⌋₊ = 2 ^ 63 := by
    have exact : (1 / 2 : ℚ) * 2 ^ 64 = (2 ^ 63 : ℕ) := by norm_num
    rw [exact, Nat.floor_natCast]
  rw [half] at kept
  exact ⟨self, trace, state, built, run, by omega, by omega⟩

end Sampler

end Polku
