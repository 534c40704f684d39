import Polku.Error
import Polku.Proto
import Mathlib.Data.Rat.Floor

/-!
# Emitters

An `Emitter` is a value of the trait object `dyn Emitter`: its name, its current
private state and what one sequential call of `emit` does. What emitters read
from outside, the clock and the jitter generator, is a `World` of readings;
readings are arbitrary, so time may pass between any two of them. Instants and
durations are numbers of nanoseconds.
-/

namespace Polku

/-- The clock and jitter readings still to come. -/
structure World where
  clock : Nat → Nat
  reads : Nat
  jitter : Nat → ℚ
  draws : Nat

/-- `Instant::now()`. -/
def World.now (self : World) : Nat × World :=
  (self.clock self.reads, { self with reads := self.reads + 1 })

/-- `rand_jitter()`. -/
def World.randJitter (self : World) : ℚ × World :=
  (self.jitter self.draws, { self with draws := self.draws + 1 })

/-- The result type of `emit`. -/
abbrev EmitResult := Except PluginError Unit

/-- A destination for events. -/
structure Emitter where
  name : String
  State : Type
  state : State
  emit : State → List Event → World → EmitResult × State × World
  health : State → Bool

/-- One call of `emit` and what it returned. -/
structure EmitCall where
  events : List Event
  result : EmitResult

/-- The same emitter, keeping a log of the calls made on it. -/
def Emitter.logged (self : Emitter) : Emitter where
  name := self.name
  State := self.State × List EmitCall
  state := (self.state, [])
  emit state events world :=
    let (result, next, world) := self.emit state.1 events world
    (result, (next, state.2 ++ [⟨events, result⟩]), world)
  health state := self.health state.1

/-- Each call is added to the log, with its result. -/
theorem Emitter.logged_calls (self : Emitter) {state next : self.logged.State}
    {events : List Event} {world later : World} {result : EmitResult}
    (called : self.logged.emit state events world = (result, next, later)) :
    next.2 = state.2 ++ [⟨events, result⟩] := by
  cases called
  rfl

/-- An emitter in use, with the slices passed to its `emit` so far, oldest first. -/
structure Registered where
  emitter : Emitter
  offered : List (List Event)

namespace Registered

/-- An emitter before its first call. -/
def fresh (emitter : Emitter) : Registered := ⟨emitter, []⟩

/-- Call `emit`. -/
def emit (self : Registered) (events : List Event) (world : World) :
    EmitResult × Registered × World :=
  let (result, state, world) := self.emitter.emit self.emitter.state events world
  (result, ⟨{ self.emitter with state := state }, self.offered ++ [events]⟩, world)

/-- Offer each emitter, one after another, what `select` picks for its name, and
count the successes. A failure does not stop the others. -/
def emitEach (select : String → Option (List Event)) :
    List Registered → World → Nat × List Registered × World
  | [], world => (0, [], world)
  | registered :: rest, world =>
      match select registered.emitter.name with
      | none =>
          let (count, rest, world) := emitEach select rest world
          (count, registered :: rest, world)
      | some events =>
          let (result, registered, world) := registered.emit events world
          let (count, rest, world) := emitEach select rest world
          ((if result = .ok () then 1 else 0) + count, registered :: rest, world)

variable {select : String → Option (List Event)}

/-- The name of an emitter and the slices it has been offered. -/
def view (self : Registered) : String × List (List Event) := (self.emitter.name, self.offered)

/-- Further slices, chosen by name. -/
def extend (more : String → List (List Event)) (view : String × List (List Event)) :
    String × List (List Event) :=
  (view.1, view.2 ++ more view.1)

/-- Two rounds of slices are one round of both. -/
theorem map_extend_extend (views : List (String × List (List Event)))
    (first second : String → List (List Event)) :
    (views.map (extend first)).map (extend second) =
      views.map (extend fun name => first name ++ second name) := by
  simp [extend, Function.comp_def]

/-- A round of offers keeps the emitters and their names, and adds to what each
was offered what was picked for it. -/
theorem emitEach_view (emitters : List Registered) (world : World) :
    (emitEach select emitters world).2.1.map view =
      (emitters.map view).map (extend fun name => (select name).toList) := by
  induction emitters generalizing world with
  | nil => rfl
  | cons registered rest inductionHypothesis =>
      cases picked : select registered.emitter.name with
      | none => simp [emitEach, picked, inductionHypothesis, view, extend]
      | some events => simp [emitEach, picked, inductionHypothesis, view, extend, emit]

end Registered

end Polku
