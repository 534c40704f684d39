import Polku.Data.Xorshift
import Polku.Semantics.CompareExchange

/-!
# The generator of the jitter

`Xorshift64` draws 64-bit words for the jitter of the backoff. One generator serves all
retry emitters of a process, so its calls run at the same time.
-/

namespace Polku

open Semantics Data

/-- The state of the generator. -/
structure Xorshift64 where
  state : UInt64
deriving DecidableEq, Repr

namespace Xorshift64

/-- A generator seeded from the clock: the nanoseconds since the epoch, cut to 64 bits.
There are none when the clock stands before it. -/
def new (clock : Option Nat) : Xorshift64 :=
  let seed := match clock with
    | some nanos => UInt64.ofNat nanos
    | none => 0x853c49e6748fea9b
  let seed := if seed = 0 then 0x853c49e6748fea9b else seed
  ⟨seed⟩

/-- The next word, when no other call comes between. -/
def next (self : Xorshift64) : UInt64 × Xorshift64 :=
  let x := xorshift64 self.state
  (x, ⟨x⟩)

/-- The words of some calls of `next` made one after another. -/
def nextEach (self : Xorshift64) (calls : Nat) : List UInt64 × Xorshift64 :=
  callAll (fun self _ => self.next) self (List.replicate calls ())

/-- The loop of `next`: it stores the successor of the state, and returns it. -/
def updates : UpdateLoop Unit UInt64 UInt64 where
  update := xorshift64
  answer := fun _ stored => stored

/-- A generator, which any number of calls of `next` share. -/
def shared (self : Xorshift64) : System (UpdateLoop.Event Unit UInt64 UInt64) :=
  updates.system self.state

/-- A call of `next` between two others does what it does alone. -/
theorem shared_next {self : Xorshift64}
    {trace before after : List (UpdateLoop.Event Unit UInt64 UInt64)}
    {state : UpdateLoop.Callers Unit UInt64} {stored answer : UInt64}
    (run : self.shared.Runs trace state)
    (split : trace = before ++ .returned () stored answer :: after) :
    next ⟨xorshift64^[UpdateLoop.exchanges before] self.state⟩ = (answer, ⟨stored⟩) := by
  obtain ⟨rfl, rfl⟩ := UpdateLoop.follows run split
  rfl

/-- Calls of `next` made one after another go through the loop one after another. -/
theorem nextEach_eq (self : Xorshift64) (calls : Nat) :
    self.nextEach calls = ((callAll updates.serve self.state (List.replicate calls ())).1,
      ⟨(callAll updates.serve self.state (List.replicate calls ())).2⟩) := by
  have each := callAll_map updates.serve (fun self _ => next self) Xorshift64.mk id id
    (fun _ _ => rfl) self.state (List.replicate calls ())
  simpa [nextEach] using each

/-- However calls of `next` interleave, they return the words which they would return one
after another. -/
theorem shared_nextEach {self : Xorshift64} {trace : List (UpdateLoop.Event Unit UInt64 UInt64)}
    {state : UpdateLoop.Callers Unit UInt64} (run : self.shared.Runs trace state) :
    self.nextEach (UpdateLoop.answered trace).length =
      ((UpdateLoop.answered trace).map Prod.snd, ⟨state.value⟩) := by
  have requests : (UpdateLoop.answered trace).map Prod.fst =
      List.replicate (UpdateLoop.answered trace).length () :=
    List.eq_replicate_iff.mpr ⟨List.length_map _, fun _ _ => rfl⟩
  rw [nextEach_eq, ← requests, UpdateLoop.callAll_answered run]

/-- A new generator does not start at zero. -/
theorem new_state (clock : Option Nat) : (new clock).state ≠ 0 := by
  simp only [new]
  split_ifs with zero
  · decide
  · exact zero

/-- The state of a generator is never zero, nor is a word which it returns. -/
structure NeverZero (self : Xorshift64) : Prop where
  /-- However the calls of `next` interleave. -/
  shared : ∀ trace state, self.shared.Runs trace state →
    state.value ≠ 0 ∧ ∀ stored answer, .returned () stored answer ∈ trace → answer ≠ 0
  /-- Each of them does what `next` does at its turn, -/
  turns : ∀ trace state, self.shared.Runs trace state → ∀ before after stored answer,
    trace = before ++ .returned () stored answer :: after →
      next ⟨xorshift64^[UpdateLoop.exchanges before] self.state⟩ = (answer, ⟨stored⟩)
  /-- and together they return what calls one after another do. -/
  sequential : ∀ trace state, self.shared.Runs trace state →
    self.nextEach (UpdateLoop.answered trace).length =
      ((UpdateLoop.answered trace).map Prod.snd, ⟨state.value⟩)
  /-- Calls one after another leave and return no zero. -/
  state : ∀ calls, (self.nextEach calls).2.state ≠ 0
  words : ∀ calls, ∀ word ∈ (self.nextEach calls).1, word ≠ 0

/-- In every run of the calls of a generator which does not start at zero its state is
never zero, and no call returns zero. -/
theorem shared_ne_zero {self : Xorshift64} (nonzero : self.state ≠ 0)
    {trace : List (UpdateLoop.Event Unit UInt64 UInt64)}
    {state : UpdateLoop.Callers Unit UInt64} (run : self.shared.Runs trace state) :
    state.value ≠ 0 ∧
      ∀ stored answer, .returned () stored answer ∈ trace → answer ≠ 0 := by
  obtain ⟨value, returned⟩ := UpdateLoop.invariant (· ≠ 0) nonzero
    (fun _ => mt xorshift64_eq_zero.mp) run
  refine ⟨value, fun stored answer member => ?_⟩
  obtain ⟨drawn, rfl⟩ := returned () stored answer member
  exact drawn

/-- The calls one after another are a run, so they are no exception. -/
theorem neverZero {self : Xorshift64} (nonzero : self.state ≠ 0) : NeverZero self := by
  have each : ∀ calls, (self.nextEach calls).2.state ≠ 0 ∧
      ∀ word ∈ (self.nextEach calls).1, word ≠ 0 := by
    intro calls
    obtain ⟨trace, state, run, requests⟩ := updates.exists_answered self.state
      (List.replicate calls ())
    obtain ⟨value, returned⟩ := shared_ne_zero nonzero run
    have length : (UpdateLoop.answered trace).length = calls := by
      simpa using congrArg List.length requests
    rw [← length, shared_nextEach run]
    refine ⟨value, fun word member => ?_⟩
    obtain ⟨⟨⟨⟩, answer⟩, answered, rfl⟩ := List.mem_map.mp member
    obtain ⟨stored, inTrace⟩ := UpdateLoop.mem_answered.mp answered
    exact returned stored answer inTrace
  exact ⟨fun _ _ => shared_ne_zero nonzero, fun _ _ run _ _ _ _ => shared_next run,
    fun _ _ => shared_nextEach, fun calls => (each calls).1, fun calls => (each calls).2⟩

end Xorshift64

end Polku
