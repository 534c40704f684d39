import Polku.Middleware.Dedup
import Polku.Semantics.Execution

/-!
# The deduplicator under contention

Any number of calls of `check` share a deduplicator. Each takes its steps in the order of
the code: it reads the clock, counts, cleans up if that is due, and records its id. The
clock goes forward, and the steps of different calls come in any order; so a call may
record its id at a time which lies before that of a cleanup.
-/

namespace Polku

open Semantics Data

namespace Deduplicator

/-- Where a call stands: the step it takes next, with the time it has read. -/
inductive Call where
  | readClock (id : String)
  | countOp (id : String) (now : Nat)
  | resetOps (id : String) (now : Nat)
  | cleanup (id : String) (now : Nat)
  | record (id : String) (now : Nat)
  | returned (passed : Bool)
deriving DecidableEq, Repr

/-- What can be seen of a step; of a cleanup, the entries which it removes. -/
inductive Event where
  | called (id : String)
  | read (id : String) (now : Nat)
  | counted
  | cleaned (removed : HashMap String Nat)
  | answered (id : String) (now : Nat) (passed : Bool)
deriving DecidableEq

/-- The next step of a call, with the time the clock shows. -/
def Call.step (dedup : Deduplicator) (clock : Nat) : Call → Option (Deduplicator × Call × Event)
  | .readClock id => some (dedup, .countOp id clock, .read id clock)
  | .countOp id now =>
      let (due, after) := dedup.countOp
      some (after, if due then .resetOps id now else .record id now, .counted)
  | .resetOps id now => some (dedup.resetOps, .cleanup id now, .counted)
  | .cleanup id now =>
      some (dedup.cleanup now, .record id now,
        .cleaned (dedup.seen.retain fun _ lastSeen => dedup.ttl ≤ now - lastSeen))
  | .record id now =>
      let (passed, after) := dedup.record now id
      some (after, .returned passed, .answered id now passed)
  | .returned _ => none

/-- A deduplicator, the clock and the calls. -/
structure Callers where
  dedup : Deduplicator
  clock : Nat
  calls : List Call

/-- A new call begins, or one of the calls takes its next step at a later time. -/
inductive Callers.Step : Callers → Event → Callers → Prop where
  | call (dedup : Deduplicator) (clock : Nat) (calls : List Call) (id : String) :
      Step ⟨dedup, clock, calls⟩ (.called id) ⟨dedup, clock, calls ++ [.readClock id]⟩
  | advance {dedup after : Deduplicator} {clock : Nat} {call next : Call} {event : Event}
      (front back : List Call) (now : Nat) (later : clock ≤ now)
      (moves : call.step dedup now = some (after, next, event)) :
      Step ⟨dedup, clock, front ++ call :: back⟩ event ⟨after, now, front ++ next :: back⟩

/-- A new deduplicator, which any number of calls share. -/
def contended (ttl : Nat) (cleanupInterval : UInt32) : System Event where
  State := Callers
  Initial := fun state => ∃ clock, state = ⟨withCleanupInterval ttl cleanupInterval, clock, []⟩
  Step := Callers.Step

/-- The time at which an event admits an id. -/
def Event.admits (id : String) : Event → Option Nat
  | .answered other now true => if other = id then some now else none
  | _ => none

/-- The times which the calls that admitted an id have read. -/
def admitted (trace : List Event) (id : String) : List Nat := trace.filterMap (Event.admits id)

/-- A cleanup has removed an entry. -/
def Removed (trace : List Event) (id : String) (lastSeen : Nat) : Prop :=
  ∃ removed, .cleaned removed ∈ trace ∧ removed.lookup id = some lastSeen

/-- Two times are no less than a time to live apart. -/
def Apart (ttl first second : Nat) : Prop := ttl ≤ first - second ∨ ttl ≤ second - first

instance (ttl first second : Nat) : Decidable (Apart ttl first second) :=
  inferInstanceAs (Decidable (_ ∨ _))

/-- A call which finds no entry for its id has read a time at which every entry for it that
a cleanup removed has expired. -/
def ReadsLate (ttl : Nat) (trace : List Event) (state : Callers) (event : Event) : Prop :=
  ∀ id now passed, event = .answered id now passed → state.dedup.seen.lookup id = none →
    ∀ lastSeen, Removed trace id lastSeen → ttl ≤ now - lastSeen

/-! ### A call alone -/

/-- The steps of a call with nothing between them. -/
def Call.alone (now : Nat) : Nat → Deduplicator × Call → Deduplicator × Call
  | 0, state => state
  | fuel + 1, (dedup, call) =>
      match call.step dedup now with
      | none => (dedup, call)
      | some (after, next, _) => alone now fuel (after, next)

/-- Alone, a call does what `check` does. -/
theorem Call.alone_eq (dedup : Deduplicator) (now : Nat) (id : String) :
    alone now 5 (dedup, .readClock id) =
      ((dedup.check now id).2, .returned (dedup.check now id).1) := by
  rcases due : decide (dedup.cleanupInterval ≤ dedup.opsSinceCleanup) with _ | _
  · simp [alone, step, check, Deduplicator.countOp, due]
  · simp [alone, step, check, Deduplicator.countOp, due]

/-! ### What every step keeps -/

theorem admitted_snoc (trace : List Event) (event : Event) (id : String) :
    admitted (trace ++ [event]) id = admitted trace id ++ (event.admits id).toList :=
  filterMap_snoc _ _ _

theorem removed_snoc {trace : List Event} {event : Event} {id : String} {lastSeen : Nat} :
    Removed (trace ++ [event]) id lastSeen ↔ Removed trace id lastSeen ∨
      ∃ removed, event = .cleaned removed ∧ removed.lookup id = some lastSeen := by
  simp only [Removed, List.mem_append, List.mem_singleton, or_and_right, exists_or,
    eq_comm (b := event)]

/-- What every step keeps: the times at which an id was admitted are apart, no time is after
that of its entry or of one which was removed, and an entry is the newest. -/
structure Spaced (ttl : Nat) (trace : List Event) (dedup : Deduplicator) : Prop where
  lives : dedup.ttl = ttl
  covered : ∀ id, ∀ time ∈ admitted trace id, ∃ lastSeen, time ≤ lastSeen ∧
    (dedup.seen.lookup id = some lastSeen ∨ Removed trace id lastSeen)
  newest : ∀ id lastSeen, dedup.seen.lookup id = some lastSeen →
    ∀ removed, Removed trace id removed → removed ≤ lastSeen
  apart : ∀ id, (admitted trace id).Pairwise fun earlier later => ttl ≤ later - earlier

namespace Spaced

variable {ttl : Nat} {trace : List Event} {dedup after : Deduplicator} {event : Event}

/-- A step which admits nothing, and changes no entry. -/
theorem unchanged (spaced : Spaced ttl trace dedup) (nothing : ∀ id, event.admits id = none)
    (keeps : ∀ removed, event ≠ .cleaned removed) (sameTtl : after.ttl = dedup.ttl)
    (sameSeen : after.seen = dedup.seen) : Spaced ttl (trace ++ [event]) after := by
  have removed : ∀ id lastSeen, Removed (trace ++ [event]) id lastSeen ↔
      Removed trace id lastSeen := by
    intro id lastSeen
    rw [removed_snoc, or_iff_left]
    rintro ⟨entries, same, -⟩
    exact keeps entries same
  have admits : ∀ id, admitted (trace ++ [event]) id = admitted trace id := by
    intro id
    rw [admitted_snoc, nothing]
    exact List.append_nil _
  refine ⟨sameTtl.trans spaced.lives, ?_, ?_, ?_⟩
  all_goals simp only [sameSeen, removed, admits]
  · exact spaced.covered
  · exact spaced.newest
  · exact spaced.apart

/-- A cleanup moves the entries which it removes into the history. -/
theorem cleanup (spaced : Spaced ttl trace dedup) (now : Nat) :
    Spaced ttl (trace ++ [.cleaned (dedup.seen.retain fun _ lastSeen =>
      dedup.ttl ≤ now - lastSeen)]) (dedup.cleanup now) := by
  have removed : ∀ id lastSeen, Removed (trace ++ [.cleaned (dedup.seen.retain
      fun _ lastSeen => dedup.ttl ≤ now - lastSeen)]) id lastSeen ↔ Removed trace id lastSeen ∨
        dedup.seen.lookup id = some lastSeen ∧ dedup.ttl ≤ now - lastSeen := by
    intro id lastSeen
    simp [removed_snoc, Option.filter_eq_some_iff]
  have admits : ∀ id, admitted (trace ++ [.cleaned (dedup.seen.retain
      fun _ lastSeen => dedup.ttl ≤ now - lastSeen)]) id = admitted trace id := by
    intro id
    rw [admitted_snoc]
    exact List.append_nil _
  have entry : ∀ id lastSeen, (dedup.cleanup now).seen.lookup id = some lastSeen ↔
      dedup.seen.lookup id = some lastSeen ∧ now - lastSeen < dedup.ttl := by
    intro id lastSeen
    simp [Deduplicator.cleanup, Option.filter_eq_some_iff]
  refine ⟨spaced.lives, ?_, ?_, ?_⟩
  all_goals simp only [removed, admits, entry]
  · intro id time member
    obtain ⟨lastSeen, order, held | gone⟩ := spaced.covered id time member
    · rcases Nat.lt_or_ge (now - lastSeen) dedup.ttl with within | expired
      · exact ⟨lastSeen, order, Or.inl ⟨held, within⟩⟩
      · exact ⟨lastSeen, order, Or.inr (Or.inr ⟨held, expired⟩)⟩
    · exact ⟨lastSeen, order, Or.inr (Or.inl gone)⟩
  · rintro id lastSeen ⟨held, -⟩ other (gone | ⟨removedNow, -⟩)
    · exact spaced.newest id lastSeen held other gone
    · exact (Option.some.inj (removedNow.symm.trans held)).le
  · exact spaced.apart

/-- A call which finds no entry has read a late time, and one which admits its id despite of
an entry has read a later one: whatever has been admitted or removed under the id lies a time
to live before. -/
private theorem expired (spaced : Spaced ttl trace dedup) {now : Nat} {id : String}
    (readsLate : dedup.seen.lookup id = none →
      ∀ lastSeen, Removed trace id lastSeen → ttl ≤ now - lastSeen)
    (admits : (dedup.record now id).1 = true) {lastSeen : Nat}
    (known : dedup.seen.lookup id = some lastSeen ∨ Removed trace id lastSeen) :
    ttl ≤ now - lastSeen := by
  cases held : dedup.seen.lookup id with
  | none =>
      rcases known with entry | gone
      · cases held.symm.trans entry
      · exact readsLate held lastSeen gone
  | some entry =>
      have old : ttl ≤ now - entry := by
        rw [← spaced.lives]
        by_contra young
        simp [Deduplicator.record, held, Nat.lt_of_not_le young] at admits
      rcases known with same | gone
      · obtain rfl := Option.some.inj (held.symm.trans same)
        exact old
      · have order := spaced.newest id entry held lastSeen gone
        omega

/-- An id which is admitted a time to live after all that is known of it gets a new entry. -/
private theorem record_new (spaced : Spaced ttl trace dedup) (positive : 0 < ttl) {now : Nat}
    {id : String} (expired : ∀ lastSeen, (dedup.seen.lookup id = some lastSeen ∨
      Removed trace id lastSeen) → ttl ≤ now - lastSeen) :
    Spaced ttl (trace ++ [.answered id now true])
      { dedup with seen := dedup.seen.insert id now } := by
  have removed : ∀ other lastSeen, Removed (trace ++ [.answered id now true]) other lastSeen ↔
      Removed trace other lastSeen := by
    intro other lastSeen
    simp [removed_snoc]
  have admits : ∀ other, admitted (trace ++ [.answered id now true]) other =
      admitted trace other ++ if id = other then [now] else [] := by
    intro other
    rw [admitted_snoc, Event.admits]
    split <;> rfl
  have before : ∀ time ∈ admitted trace id, ttl ≤ now - time := by
    intro time member
    obtain ⟨lastSeen, order, found⟩ := spaced.covered id time member
    have late := expired lastSeen found
    omega
  refine ⟨spaced.lives, ?_, ?_, ?_⟩
  all_goals simp only [removed, admits]
  · intro other time member
    by_cases same : id = other
    · subst same
      refine ⟨now, ?_, Or.inl (Finmap.lookup_insert _)⟩
      rw [if_pos rfl] at member
      rcases List.mem_append.mp member with old | new
      · have late := before time old
        omega
      · exact (List.mem_singleton.mp new).le
    · rw [if_neg same, List.append_nil] at member
      rw [Finmap.lookup_insert_of_ne _ (Ne.symm same)]
      exact spaced.covered other time member
  · intro other lastSeen held gone isRemoved
    by_cases same : id = other
    · subst same
      rw [Finmap.lookup_insert] at held
      cases held
      have late := expired gone (Or.inr isRemoved)
      omega
    · rw [Finmap.lookup_insert_of_ne _ (Ne.symm same)] at held
      exact spaced.newest other lastSeen held gone isRemoved
  · intro other
    rw [List.pairwise_append]
    refine ⟨spaced.apart other, by split <;> simp, fun earlier member later isLater => ?_⟩
    split at isLater
    case isTrue same =>
        subst same
        obtain rfl := List.mem_singleton.mp isLater
        exact before earlier member
    case isFalse => cases isLater

/-- A call which records its id keeps it, if it has not read too early a time. -/
theorem record (spaced : Spaced ttl trace dedup) (positive : 0 < ttl) (now : Nat) (id : String)
    (readsLate : dedup.seen.lookup id = none →
      ∀ lastSeen, Removed trace id lastSeen → ttl ≤ now - lastSeen) :
    Spaced ttl (trace ++ [.answered id now (dedup.record now id).1]) (dedup.record now id).2 := by
  have late : (dedup.record now id).1 = true → ∀ lastSeen, (dedup.seen.lookup id =
      some lastSeen ∨ Removed trace id lastSeen) → ttl ≤ now - lastSeen :=
    fun admits _ known => spaced.expired readsLate admits known
  unfold Deduplicator.record at late ⊢
  split
  case isTrue duplicate => exact spaced.unchanged (fun _ => rfl) nofun rfl rfl
  case isFalse new =>
      rw [if_neg new] at late
      exact spaced.record_new positive (late rfl)

/-- What every step keeps. -/
theorem step (spaced : Spaced ttl trace dedup) (positive : 0 < ttl) {clock : Nat}
    {call next : Call} (moves : call.step dedup clock = some (after, next, event))
    (readsLate : ∀ id now passed, event = .answered id now passed →
      dedup.seen.lookup id = none →
        ∀ lastSeen, Removed trace id lastSeen → ttl ≤ now - lastSeen) :
    Spaced ttl (trace ++ [event]) after := by
  cases call with
  | readClock id =>
      cases moves
      exact spaced.unchanged (fun _ => rfl) nofun rfl rfl
  | countOp id now =>
      cases moves
      exact spaced.unchanged (fun _ => rfl) nofun rfl rfl
  | resetOps id now =>
      cases moves
      exact spaced.unchanged (fun _ => rfl) nofun rfl rfl
  | cleanup id now =>
      cases moves
      exact spaced.cleanup now
  | record id now =>
      cases moves
      exact spaced.record positive now id (readsLate id now _ rfl)
  | returned passed => cases moves

end Spaced

/-- Every run keeps it, if no call reads early. -/
theorem spaced_of_runs {ttl : Nat} {cleanupInterval : UInt32} (positive : 0 < ttl)
    {trace : List Event} {state : Callers}
    (run : (contended ttl cleanupInterval).RunsWhere
      (fun trace state event _ => ReadsLate ttl trace state event) trace state) :
    Spaced ttl trace state.dedup := by
  refine System.RunsWhere.history (fun trace (state : Callers) => Spaced ttl trace state.dedup)
    ?_ ?_ run
  · rintro _ ⟨clock, rfl⟩
    refine ⟨rfl, nofun, fun id lastSeen held => ?_, fun _ => List.Pairwise.nil⟩
    cases (Finmap.lookup_empty id).symm.trans held
  · intro trace state event next _ spaced transition readsLate
    cases transition with
    | call dedup clock calls id => exact spaced.unchanged (fun _ => rfl) nofun rfl rfl
    | advance front back now later moves => exact spaced.step positive moves readsLate

/-- If no call reads a time at which it should have found an entry that a cleanup removed,
calls which admit the same id have read times which are a time to live apart. -/
theorem admitted_apart {ttl : Nat} (cleanupInterval : UInt32) (positive : 0 < ttl)
    {trace : List Event} {state : Callers}
    (run : (contended ttl cleanupInterval).RunsWhere
      (fun trace state event _ => ReadsLate ttl trace state event) trace state) (id : String) :
    (admitted trace id).Pairwise (Apart ttl) :=
  ((spaced_of_runs positive run).apart id).imp Or.inr

/-- A cleanup at time 10 removes the entry of an id, and then a call which has read time 2
admits the id again. -/
theorem duplicate_admitted :
    let trace : List Event := [.called "id", .read "id" 0, .counted, .answered "id" 0 true,
      .called "id", .read "id" 2, .counted, .called "other", .read "other" 10, .counted, .counted,
      .cleaned (Finmap.singleton "id" 0), .answered "id" 2 true]
    (∃ state, (contended 5 2).Runs trace state) ∧ ¬ (admitted trace "id").Pairwise (Apart 5) := by
  constructor
  · have initial : (contended 5 2).Runs [] ⟨withCleanupInterval 5 2, 0, []⟩ := .initial ⟨0, rfl⟩
    have first := (((initial.snoc (.call _ _ _ "id")).snoc
      (.advance [] [] 0 (by decide) rfl)).snoc (.advance [] [] 0 (by decide) rfl)).snoc
      (.advance [] [] 0 (by decide) rfl)
    have second := ((first.snoc (.call _ _ _ "id")).snoc
      (.advance [_] [] 2 (by decide) rfl)).snoc (.advance [_] [] 2 (by decide) rfl)
    have third := ((((second.snoc (.call _ _ _ "other")).snoc
      (.advance [_, _] [] 10 (by decide) rfl)).snoc (.advance [_, _] [] 10 (by decide) rfl)).snoc
      (.advance [_, _] [] 10 (by decide) rfl)).snoc (.advance [_, _] [] 10 (by decide) rfl)
    exact ⟨_, third.snoc (.advance [_] [_] 10 (by decide) rfl)⟩
  · decide

/-- Calls of one id which come one after another are admitted a time to live apart. -/
theorem admitted_apart_expired :
    let trace : List Event := [.called "id", .read "id" 0, .counted, .answered "id" 0 true,
      .called "id", .read "id" 5, .counted, .counted, .cleaned (Finmap.singleton "id" 0),
      .answered "id" 5 true]
    ∃ state, (contended 5 1).RunsWhere
        (fun trace state event _ => ReadsLate 5 trace state event) trace state ∧
      (admitted trace "id").Pairwise (Apart 5) := by
  intro trace
  have late : ∀ before state event, (∀ id now passed, event ≠ Event.answered id now passed) →
      ReadsLate 5 before state event := fun before state event other id now passed same =>
    absurd same (other id now passed)
  have initial : (contended 5 1).RunsWhere
      (fun trace state event _ => ReadsLate 5 trace state event) []
      ⟨withCleanupInterval 5 1, 0, []⟩ := .initial ⟨0, rfl⟩
  have first := (((initial.step (.call _ _ _ "id") (late _ _ _ nofun)).step
    (.advance [] [] 0 (by decide) rfl) (late _ _ _ nofun)).step
    (.advance [] [] 0 (by decide) rfl) (late _ _ _ nofun)).step
    (.advance [] [] 0 (by decide) rfl) (by
      rintro id now passed - - lastSeen ⟨removed, member, -⟩
      simp at member)
  have second := ((((first.step (.call _ _ _ "id") (late _ _ _ nofun)).step
    (.advance [_] [] 5 (by decide) rfl) (late _ _ _ nofun)).step
    (.advance [_] [] 5 (by decide) rfl) (late _ _ _ nofun)).step
    (.advance [_] [] 5 (by decide) rfl) (late _ _ _ nofun)).step
    (.advance [_] [] 5 (by decide) rfl) (late _ _ _ nofun)
  have third := second.step (.advance [_] [] 5 (by decide) rfl) (by
    rintro id now passed same - lastSeen ⟨removed, member, held⟩
    obtain ⟨rfl, rfl, -⟩ := Event.answered.inj same
    -- The only cleanup has removed the entry of time 0.
    obtain rfl : removed = _ := by simpa using member
    obtain rfl : 0 = lastSeen := Option.some.inj (Eq.trans rfl held)
    decide)
  exact ⟨_, third, admitted_apart 1 (by decide) third "id"⟩

end Deduplicator

end Polku
