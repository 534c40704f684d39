import Mathlib.Data.Rat.Floor
import Polku.Emit.Resilience.Xorshift
import Polku.Middleware.Chain

/-!
# The sampler

A `Sampler` keeps a message when the word it draws for it is at most a threshold. Rates are
`f64`; here they are exact rationals. The threshold of a rate below one is that part of
2^64, which is what `u64::MAX` rounds to as an `f64`, truncated to whole words.

The word zero would pass every threshold, so a sampler which drops everything rests on its
generator never drawing it.
-/

namespace Polku

open Semantics Data

/-- The state of a sampler. -/
structure Sampler where
  threshold : UInt64
  state : UInt64
deriving DecidableEq, Repr

namespace Sampler

/-- The threshold of a rate. -/
def thresholdOf (rate : ℚ) : UInt64 :=
  if 1 ≤ rate then UInt64.ofNat (2 ^ 64 - 1)
  else UInt64.ofNat (min ⌊rate * 2 ^ 64⌋₊ (2 ^ 64 - 1))

/-- A sampler of a rate, seeded from the clock: the nanoseconds since the epoch, cut to 64
bits, if the clock does not stand before it. It panics unless the rate is from zero to one. -/
def new (rate : ℚ) (clock : Option Nat) : Option Sampler :=
  if 0 ≤ rate ∧ rate ≤ 1 then
    let threshold := thresholdOf rate
    let seed := match clock with
      | some nanos => UInt64.ofNat nanos
      | none => 0xDEADBEEF
    some ⟨threshold, seed ||| 1⟩
  else none

/-- A sampler of a rate with a given seed. -/
def withSeed (rate : ℚ) (clock : Option Nat) (seed : UInt64) : Option Sampler :=
  (new rate clock).map fun sampler => { sampler with state := seed ||| 1 }

/-- The next word, when no other call comes between. -/
def nextRandom (self : Sampler) : UInt64 × Sampler :=
  let x := xorshift64 self.state
  (x, { self with state := x })

/-- Whether to keep a message. -/
def shouldSample (self : Sampler) : Bool × Sampler :=
  let (random, self) := self.nextRandom
  (random ≤ self.threshold, self)

/-- Keep a message or drop it. -/
def process (self : Sampler) (msg : Message) : Option Message × Sampler :=
  let (sampled, self) := self.shouldSample
  (if sampled then some msg else none, self)

/-- Keep messages or drop them, one after another. -/
def processEach (self : Sampler) (msgs : List Message) : List (Option Message) × Sampler :=
  callAll process self msgs

/-- A sampler as a middleware. -/
def middleware (self : Sampler) : Middleware where
  name := "sampler"
  State := Sampler
  state := self
  process := process

/-! ### Calls at the same time -/

/-- The loop of `next_random`, and what `process` answers by the word it stores. -/
def updates (self : Sampler) : UpdateLoop Message UInt64 (Option Message) where
  update := xorshift64
  answer := fun msg random => if random ≤ self.threshold then some msg else none

/-- A sampler, which any number of calls of `process` share. -/
def shared (self : Sampler) : System (UpdateLoop.Event Message UInt64 (Option Message)) :=
  self.updates.system self.state

/-- The answer of `process` is that to the successor of the state, which it stores. -/
theorem process_eq (self : Sampler) (msg : Message) :
    process self msg = (self.updates.answer msg (xorshift64 self.state),
      { self with state := xorshift64 self.state }) := by
  by_cases kept : xorshift64 self.state ≤ self.threshold
  · simp [process, shouldSample, nextRandom, updates, kept]
  · simp [process, shouldSample, nextRandom, updates, kept]

/-- Calls of `process` made one after another go through the loop one after another. -/
theorem processEach_eq (self : Sampler) (msgs : List Message) :
    self.processEach msgs = ((callAll self.updates.serve self.state msgs).1,
      { self with state := (callAll self.updates.serve self.state msgs).2 }) := by
  have each := callAll_map self.updates.serve process (fun value => { self with state := value })
    id id (fun value => process_eq { self with state := value }) self.state msgs
  simpa [processEach] using each

variable {self : Sampler} {state : UpdateLoop.Callers Message UInt64}
  {trace : List (UpdateLoop.Event Message UInt64 (Option Message))}

/-- A call of `process` between others does what it does alone. -/
theorem shared_process (run : self.shared.Runs trace state)
    {before after : List (UpdateLoop.Event Message UInt64 (Option Message))} {msg : Message}
    {random : UInt64} {answer : Option Message}
    (split : trace = before ++ .returned msg random answer :: after) :
    process { self with state := xorshift64^[UpdateLoop.exchanges before] self.state } msg =
      (answer, { self with state := random }) := by
  obtain ⟨rfl, rfl⟩ := UpdateLoop.follows run split
  exact process_eq _ msg

/-- However calls of `process` interleave, they answer as they would one after another. -/
theorem shared_processEach (run : self.shared.Runs trace state) :
    self.processEach ((UpdateLoop.answered trace).map Prod.fst) =
      ((UpdateLoop.answered trace).map Prod.snd, { self with state := state.value }) := by
  rw [processEach_eq, UpdateLoop.callAll_answered run]

/-- A call of `process` with no other at the same time is a run too. -/
theorem shared_alone (run : self.shared.Runs trace state) {msg : Message}
    {answer : Option Message} {after : Sampler}
    (called : process { self with state := state.value } msg = (answer, after)) :
    self.shared.Runs
      (trace ++ [.called msg] ++ [.loaded] ++ [.returned msg after.state answer])
      ⟨after.state, state.calls⟩ := by
  rw [process_eq] at called
  obtain ⟨rfl, rfl⟩ := Prod.mk.inj called
  exact UpdateLoop.alone run msg

/-! ### What a run keeps and drops -/

/-- Rate zero has the threshold zero. -/
theorem thresholdOf_zero : thresholdOf 0 = 0 := by
  simp [thresholdOf]

/-- Every word passes the threshold of rate one. -/
theorem le_thresholdOf_one (random : UInt64) : random ≤ thresholdOf 1 := by
  have bound := random.toNat_lt
  have top : (thresholdOf 1).toNat = 2 ^ 64 - 1 := by simp [thresholdOf]
  rw [UInt64.le_iff_toNat_le, top]
  omega

/-- Setting the lowest bit of a seed makes it differ from zero. -/
theorem seed_ne_zero (seed : UInt64) : seed ||| 1 ≠ 0 := by
  simp

/-- A sampler can be built of the rates from zero to one, and of no other. -/
theorem new_eq_none_iff (rate : ℚ) (clock : Option Nat) :
    new rate clock = none ↔ ¬ (0 ≤ rate ∧ rate ≤ 1) := by
  simp [new]

/-- The state of a sampler of some rate is never zero, nor is a word which it draws; and
of rate zero it drops every message, and of rate one it keeps every message. -/
structure KeepsRate (self : Sampler) (rate : ℚ) : Prop where
  /-- However the calls of `process` interleave. -/
  shared : ∀ trace state, self.shared.Runs trace state →
    state.value ≠ 0 ∧
      ∀ msg random answer, .returned msg random answer ∈ trace →
        random ≠ 0 ∧ (rate = 0 → answer = none) ∧ (rate = 1 → answer = some msg)
  /-- Each of them does what `process` does at its turn, -/
  turns : ∀ trace state, self.shared.Runs trace state → ∀ before after msg random answer,
    trace = before ++ .returned msg random answer :: after →
      process { self with state := xorshift64^[UpdateLoop.exchanges before] self.state } msg =
        (answer, { self with state := random })
  /-- and together they answer as calls one after another do. -/
  sequential : ∀ trace state, self.shared.Runs trace state →
    self.processEach ((UpdateLoop.answered trace).map Prod.fst) =
      ((UpdateLoop.answered trace).map Prod.snd, { self with state := state.value })
  /-- Calls one after another never leave zero, and drop or keep every message. -/
  state : ∀ msgs, (self.processEach msgs).2.state ≠ 0
  drops : rate = 0 → ∀ msgs, (self.processEach msgs).1 = msgs.map fun _ => none
  keeps : rate = 1 → ∀ msgs, (self.processEach msgs).1 = msgs.map some

/-- In every run of the calls of a sampler with the threshold of its rate which does not
start at zero, its state is never zero, and each message is answered by that rate. -/
theorem shared_keepsRate {rate : ℚ} {seed : UInt64} (nonzero : seed ≠ 0)
    (run : (shared ⟨thresholdOf rate, seed⟩).Runs trace state) :
    state.value ≠ 0 ∧
      ∀ msg random answer, .returned msg random answer ∈ trace →
        random ≠ 0 ∧ (rate = 0 → answer = none) ∧ (rate = 1 → answer = some msg) := by
  obtain ⟨value, returned⟩ := UpdateLoop.invariant (· ≠ 0) nonzero
    (fun _ => mt xorshift64_eq_zero.mp) run
  refine ⟨value, fun msg random answer member => ?_⟩
  obtain ⟨drawn, rfl⟩ := returned msg random answer member
  refine ⟨drawn, ?_, ?_⟩
  · rintro rfl
    simpa [updates, thresholdOf_zero] using drawn
  · rintro rfl
    exact if_pos (le_thresholdOf_one random)

/-- What every run answers in one way, the calls one after another answer so too. -/
theorem processEach_map {self : Sampler} {wanted : Message → Option Message}
    (answers : ∀ trace state, self.shared.Runs trace state →
      ∀ msg random answer, .returned msg random answer ∈ trace → answer = wanted msg)
    (msgs : List Message) : (self.processEach msgs).1 = msgs.map wanted := by
  obtain ⟨trace, state, run, rfl⟩ := self.updates.exists_answered self.state msgs
  rw [shared_processEach run, List.map_map]
  apply List.map_congr_left
  intro (msg, answer) answered
  obtain ⟨random, returned⟩ := UpdateLoop.mem_answered.mp answered
  exact answers trace state run msg random answer returned

/-- A sampler with the threshold of its rate keeps that rate if its seed is not zero. -/
theorem keepsRate (rate : ℚ) {seed : UInt64} (nonzero : seed ≠ 0) :
    KeepsRate ⟨thresholdOf rate, seed⟩ rate where
  shared _ _ := shared_keepsRate nonzero
  turns _ _ run _ _ _ _ _ := shared_process run
  sequential _ _ := shared_processEach
  state msgs := by
    obtain ⟨trace, state, run, rfl⟩ :=
      (updates ⟨thresholdOf rate, seed⟩).exists_answered seed msgs
    rw [shared_processEach run]
    exact (shared_keepsRate nonzero run).1
  drops zero := processEach_map fun _ _ run msg random answer returned =>
    ((shared_keepsRate nonzero run).2 msg random answer returned).2.1 zero
  keeps one := processEach_map fun _ _ run msg random answer returned =>
    ((shared_keepsRate nonzero run).2 msg random answer returned).2.2 one

end Sampler

/-- The step of the generators is a bijection of the 64-bit words, and zero is the image of
nothing but zero. So neither the generator of the jitter nor a sampler ever holds or draws
zero, whatever its seed and however its calls interleave; and a sampler of rate zero drops
every message, one of rate one keeps every message. -/
theorem xorshift_never_degenerates :
    Function.Bijective xorshift64 ∧ (∀ x, x ≠ 0 → xorshift64 x ≠ 0) ∧
      (∀ clock, (Xorshift64.new clock).NeverZero) ∧
      ∀ rate clock seed, 0 ≤ rate → rate ≤ 1 →
        (∃ sampler, Sampler.new rate clock = some sampler ∧ sampler.KeepsRate rate) ∧
        ∃ sampler, Sampler.withSeed rate clock seed = some sampler ∧
          sampler.KeepsRate rate := by
  refine ⟨⟨xorshift64_injective, xorshift64_surjective⟩, fun _ => mt xorshift64_eq_zero.mp,
    fun clock => Xorshift64.neverZero (Xorshift64.new_state clock), ?_⟩
  intro rate clock seed nonneg atMost
  have inRange : 0 ≤ rate ∧ rate ≤ 1 := ⟨nonneg, atMost⟩
  refine ⟨⟨_, if_pos inRange, Sampler.keepsRate rate (Sampler.seed_ne_zero _)⟩,
    ⟨Sampler.thresholdOf rate, seed ||| 1⟩, ?_,
    Sampler.keepsRate rate (Sampler.seed_ne_zero seed)⟩
  simp [Sampler.withSeed, Sampler.new, inRange]

end Polku
