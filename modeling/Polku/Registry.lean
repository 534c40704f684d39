import Polku.Emit.Emitter
import Polku.Data.List

/-!
# The plugin registry

Ingestors are found by source name. Emitters receive events either all of them
or, with routing, by the names in `routeTo`.
-/

namespace Polku

open Data

/-- What an ingestor is told about the data it decodes. -/
structure IngestContext where
  source : String
  cluster : String
  format : String
deriving DecidableEq, Repr

/-- A decoder of raw bytes. -/
structure Ingestor where
  name : String
  ingest : IngestContext → Bytes → Except PluginError (List Event)

/-- Registered ingestors and emitters. -/
structure PluginRegistry where
  ingestors : HashMap String Ingestor
  emitters : List Registered

namespace PluginRegistry

/-- An empty registry. -/
def new : PluginRegistry := ⟨∅, []⟩

/-- Register an ingestor for a source. -/
def registerIngestor (self : PluginRegistry) (source : String) (ingestor : Ingestor) :
    PluginRegistry :=
  { self with ingestors := self.ingestors.insert source ingestor }

/-- Register an emitter. -/
def registerEmitter (self : PluginRegistry) (emitter : Emitter) : PluginRegistry :=
  { self with emitters := self.emitters ++ [.fresh emitter] }

/-- Decode raw bytes with the ingestor of their source. -/
def ingest (self : PluginRegistry) (ctx : IngestContext) (data : Bytes) :
    Except PluginError (List Event) :=
  match self.ingestors.lookup ctx.source with
  | none => .error (.transform s!"No ingestor registered for source '{ctx.source}'")
  | some ingestor => ingestor.ingest ctx data

/-- The old name of `ingest`. -/
def transform (self : PluginRegistry) (ctx : IngestContext) (data : Bytes) :
    Except PluginError (List Event) :=
  self.ingest ctx data

/-- Offer the events to every emitter and count the successes. -/
def emitToAll (self : PluginRegistry) (events : List Event) (world : World) :
    Nat × PluginRegistry × World :=
  let (count, emitters, world) :=
    Registered.emitEach (fun _ => some events) self.emitters world
  (count, { self with emitters := emitters }, world)

/-! ### Routing -/

/-- The events sorted by destination: those for all emitters, and for each name
those which name it, once for each time they do. -/
structure Routing where
  allEmitters : List Event
  routed : HashMap String (List Event)

/-- `routed.entry(route).or_default().push(event)`. -/
def Routing.pushRouted (event : Event) (routed : HashMap String (List Event))
    (route : String) : HashMap String (List Event) :=
  routed.insert route ((routed.lookup route).getD [] ++ [event])

/-- Sort one event. -/
def Routing.add (self : Routing) (event : Event) : Routing :=
  if event.routeTo.isEmpty then { self with allEmitters := self.allEmitters ++ [event] }
  else { self with routed := event.routeTo.foldl (pushRouted event) self.routed }

/-- Sort a batch of events. -/
def Routing.ofEvents (events : List Event) : Routing := events.foldl add ⟨[], ∅⟩

/-- Offer each event to the emitters its routes name, or to all if it has none.
Events for all emitters go first, in a call of their own. -/
def emitWithRouting (self : PluginRegistry) (events : List Event) (world : World) :
    Nat × PluginRegistry × World :=
  let routing := Routing.ofEvents events
  let (broadcast, self, world) :=
    if routing.allEmitters.isEmpty then (0, self, world)
    else self.emitToAll routing.allEmitters world
  let (count, emitters, world) :=
    Registered.emitEach (fun name => routing.routed.lookup name) self.emitters world
  (broadcast + count, { self with emitters := emitters }, world)

/-- The events which name an emitter, once for each time they do. -/
def naming (name : String) (events : List Event) : List Event :=
  events.flatMap fun event => List.replicate (event.routeTo.count name) event

/-- One push adds to what is looked up under its route only. -/
private theorem lookup_pushRouted {routed : HashMap String (List Event)} {name : String}
    {held : List Event} (event : Event) (route : String)
    (before : routed.lookup name = nonEmpty held) :
    (Routing.pushRouted event routed route).lookup name =
      nonEmpty (held ++ if route = name then [event] else []) := by
  unfold Routing.pushRouted
  by_cases same : route = name
  · subst same
    rw [Finmap.lookup_insert, before, getD_nonEmpty]
    simp [nonEmpty]
  · rw [Finmap.lookup_insert_of_ne _ (Ne.symm same), before]
    simp [same]

/-- The pushes for the routes of one event. -/
private theorem lookup_foldl_pushRouted {routed : HashMap String (List Event)} {name : String}
    {held : List Event} (event : Event) (routes : List String)
    (before : routed.lookup name = nonEmpty held) :
    (routes.foldl (Routing.pushRouted event) routed).lookup name =
      nonEmpty (held ++ List.replicate (routes.count name) event) := by
  induction routes generalizing routed held with
  | nil => simpa using before
  | cons route routes inductionHypothesis =>
      rw [List.foldl_cons, inductionHypothesis (lookup_pushRouted event route before)]
      by_cases same : route = name
      · simp [same, List.replicate_succ]
      · simp [same]

/-- Sorting a batch finds the events for all emitters and those for each name. -/
theorem ofEvents_eq (events : List Event) (name : String) :
    (Routing.ofEvents events).allEmitters = events.filter (·.routeTo.isEmpty) ∧
      (Routing.ofEvents events).routed.lookup name = nonEmpty (naming name events) := by
  induction events using List.reverseRecOn with
  | nil => exact ⟨rfl, Finmap.lookup_empty name⟩
  | append_singleton events event inductionHypothesis =>
      obtain ⟨broadcast, routed⟩ := inductionHypothesis
      have step : Routing.ofEvents (events ++ [event]) = (Routing.ofEvents events).add event := by
        simp [Routing.ofEvents]
      rw [step, Routing.add]
      by_cases empty : event.routeTo.isEmpty
      · simp [broadcast, routed, naming, List.isEmpty_iff.mp empty]
      · have pushed := lookup_foldl_pushRouted event event.routeTo routed
        simp [empty, broadcast, pushed, naming]

/-- Routing offers each emitter the events for all emitters, if there are any,
and then those which name it, if there are any. -/
theorem emitWithRouting_view (self : PluginRegistry) (events : List Event) (world : World) :
    (self.emitWithRouting events world).2.1.emitters.map Registered.view =
      (self.emitters.map Registered.view).map (Registered.extend fun name =>
        (nonEmpty (events.filter (·.routeTo.isEmpty))).toList ++
          (nonEmpty (naming name events)).toList) := by
  have sorted : ∀ name, (Routing.ofEvents events).routed.lookup name =
      nonEmpty (naming name events) := fun name => (ofEvents_eq events name).2
  unfold emitWithRouting emitToAll
  simp only [(ofEvents_eq events "").1, sorted]
  cases broadcast : events.filter (·.routeTo.isEmpty) with
  | nil => simp [Registered.emitEach_view]
  | cons event rest =>
      simp [Registered.emitEach_view, Registered.extend, Function.comp_def]

end PluginRegistry

end Polku
