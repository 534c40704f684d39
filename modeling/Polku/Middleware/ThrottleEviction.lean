import Polku.Data.Recency
import Polku.Middleware.Throttle
import Polku.Semantics.Execution
import Mathlib.Data.Finset.Max

/-!
# Which source a throttle evicts

`evict_lru` compares access times which each bucket counts from its own creation.
It removes the least recently used source exactly when that source also has the
shortest time from the creation of its bucket to its last call.
-/

namespace Polku

open Semantics Data

/-- One call: its source, its clock readings, and the sources tracked before and
after it. -/
structure ThrottleLabel where
  source : String
  times : ThrottleTimes
  before : Finset String
  after : Finset String
deriving DecidableEq

/-- A throttle and the clock. -/
structure ThrottleSystem where
  throttle : Throttle
  clock : Nat

namespace ThrottleSystem

/-- The sources tracked. -/
def tracked (self : ThrottleSystem) : Finset String := self.throttle.buckets.keys

/-- One call, at clock times later than those of all calls before, which sees the
buckets in any order. -/
inductive Step : ThrottleSystem → ThrottleLabel → ThrottleSystem → Prop where
  | processed {self times msg result throttle} {order : self.throttle.buckets.Iteration}
      (later : times.Follow self.clock)
      (done : self.throttle.process times order msg = some (result, throttle)) :
      Step self ⟨msg.source, times, self.tracked, throttle.buckets.keys⟩
        ⟨throttle, times.refilled⟩

/-- The runs of a throttle with a given configuration. -/
def system (rate burst maxSources : Nat) : System ThrottleLabel where
  State := ThrottleSystem
  Initial self := ∃ clock, self = ⟨(Throttle.new rate burst).withMaxSources maxSources, clock⟩
  Step := Step

end ThrottleSystem

/-! ## What a history tells -/

namespace ThrottleHistory

/-- The sources of the calls. -/
def sources (trace : List ThrottleLabel) : List String := trace.map (·.source)

/-- The time at which the bucket of a source was last accessed. -/
def lastAccess (trace : List ThrottleLabel) (source : String) : Nat :=
  ((trace.filter (·.source = source)).getLast?.map (·.times.accessed)).getD 0

/-- The time at which the bucket of a source was last created. -/
def createdAt (trace : List ThrottleLabel) (source : String) : Nat :=
  ((trace.filter fun label => label.source = source ∧ source ∉ label.before).getLast?.map
    (·.times.created)).getD 0

/-- The time from the creation of a source's bucket to its last call, as far as
64 bits can tell. -/
def span (trace : List ThrottleLabel) (source : String) : Nat :=
  elapsedNanos (createdAt trace source) (lastAccess trace source)

section Snoc

variable (trace : List ThrottleLabel) {label : ThrottleLabel} {source : String}

/-- A call leaves the times of other sources unchanged. -/
theorem snoc_other (other : label.source ≠ source) :
    lastAccess (trace ++ [label]) source = lastAccess trace source ∧
      createdAt (trace ++ [label]) source = createdAt trace source := by
  simp [lastAccess, createdAt, other]

/-- A call is the last access of its source. -/
theorem lastAccess_snoc (same : label.source = source) :
    lastAccess (trace ++ [label]) source = label.times.accessed := by
  simp [lastAccess, same]

/-- A call for a tracked source creates no bucket. -/
theorem createdAt_snoc_tracked (tracked : source ∈ label.before) :
    createdAt (trace ++ [label]) source = createdAt trace source := by
  simp [createdAt, tracked]

/-- A call for another source than the tracked ones creates its bucket. -/
theorem createdAt_snoc_created (same : label.source = source) (absent : source ∉ label.before) :
    createdAt (trace ++ [label]) source = label.times.created := by
  simp [createdAt, same, absent]

end Snoc

end ThrottleHistory

open ThrottleHistory

/-- A call for a source which is not tracked, when as many are tracked as may be,
removes the least recently used source and no other. -/
def EvictsLru (maxSources : Nat) (trace : List ThrottleLabel) (label : ThrottleLabel) : Prop :=
  label.source ∉ label.before → label.before.Nonempty → maxSources ≤ label.before.card →
    ∃ lru, LeastRecent (sources trace) label.before lru ∧ label.before \ label.after = {lru}

/-- A call which has to remove a source finds that the span of the least recently
used one is the shortest. -/
def SpanDecides (maxSources : Nat) (trace : List ThrottleLabel) (tracked : Finset String)
    (source : String) : Prop :=
  source ∉ tracked → tracked.Nonempty → maxSources ≤ tracked.card →
    ∀ lru, LeastRecent (sources trace) tracked lru →
      ∀ other ∈ tracked, other ≠ lru → span trace lru < span trace other

/-! ## The buckets and the history -/

/-- What the buckets remember of the history. -/
structure Remembers (rate maxSources : Nat) (trace : List ThrottleLabel)
    (machine : ThrottleSystem) : Prop where
  sameRate : machine.throttle.rate = rate
  sameMax : machine.throttle.maxSources = maxSources
  bucket : ∀ source tracked, machine.throttle.buckets.lookup source = some tracked →
    source ∈ sources trace ∧ tracked.created = createdAt trace source ∧
      tracked.lastAccess = span trace source ∧ TokenBucket.refillNanosOf rate ≠ 0

variable {rate burst maxSources : Nat} {trace : List ThrottleLabel} {machine : ThrottleSystem}

/-- Making room keeps some buckets and changes none. -/
private theorem lookup_makeRoom {self : Throttle} {order : self.buckets.Iteration}
    {source : String} {tracked : TrackedBucket}
    (held : (self.makeRoom order).lookup source = some tracked) :
    self.buckets.lookup source = some tracked := by
  unfold Throttle.makeRoom Throttle.evictLru at held
  split at held
  · split at held
    case h_1 entry least =>
      by_cases removed : source = entry.1
      · subst removed
        rw [Finmap.lookup_erase] at held
        cases held
      · rwa [Finmap.lookup_erase_ne removed] at held
    case h_2 => exact held
  · exact held

/-- A step is an access to the buckets. -/
private theorem accesses_of_step {label : ThrottleLabel} {next : ThrottleSystem}
    (transition : ThrottleSystem.Step machine label next) :
    next.throttle = { machine.throttle with buckets := next.throttle.buckets } ∧
    label.before = machine.tracked ∧ label.after = next.tracked ∧
    ∃ order, machine.throttle.Accesses label.times order label.source next.throttle.buckets := by
  cases transition with
  | @processed times msg result throttle order later done =>
      obtain ⟨⟨passed, after⟩, done, same⟩ := Option.map_eq_some_iff.mp done
      cases same
      obtain ⟨frame, accesses⟩ := Throttle.accesses_of_getOrCreateBucket done
      exact ⟨frame, rfl, rfl, order, accesses⟩

/-- A bucket which a call leaves alone is remembered as before. -/
private theorem remembered_other (holds : Remembers rate maxSources trace machine)
    {label : ThrottleLabel} {source : String} {tracked : TrackedBucket}
    (other : label.source ≠ source)
    (held : machine.throttle.buckets.lookup source = some tracked) :
    source ∈ sources (trace ++ [label]) ∧ tracked.created = createdAt (trace ++ [label]) source ∧
      tracked.lastAccess = span (trace ++ [label]) source ∧
      TokenBucket.refillNanosOf rate ≠ 0 := by
  obtain ⟨called, created, accessed, usable⟩ := holds.bucket source tracked held
  obtain ⟨sameAccess, sameCreated⟩ := snoc_other trace other
  refine ⟨?_, sameCreated ▸ created, ?_, usable⟩
  · simpa [sources] using Or.inl (by simpa [sources] using called)
  · rwa [span, sameAccess, sameCreated]

/-- Every call is remembered. -/
theorem Remembers.step (holds : Remembers rate maxSources trace machine) {label : ThrottleLabel}
    {next : ThrottleSystem} (transition : ThrottleSystem.Step machine label next) :
    Remembers rate maxSources (trace ++ [label]) next := by
  obtain ⟨frame, before, -, order, accesses⟩ := accesses_of_step transition
  have called : label.source ∈ sources (trace ++ [label]) := by simp [sources]
  refine ⟨by rw [frame]; exact holds.sameRate, by rw [frame]; exact holds.sameMax, ?_⟩
  intro source tracked held
  generalize next.throttle.buckets = buckets at accesses held
  cases accesses with
  | @existing present bucket isPresent =>
      obtain ⟨-, created, -, usable⟩ := holds.bucket label.source present isPresent
      by_cases same : label.source = source
      · subst same
        rw [Finmap.lookup_insert] at held
        cases held
        have wasTracked : label.source ∈ label.before :=
          before ▸ Finmap.mem_keys.mpr (Finmap.mem_of_lookup_eq_some isPresent)
        have unchanged := createdAt_snoc_tracked trace wasTracked
        refine ⟨called, created.trans unchanged.symm, ?_, usable⟩
        rw [span, unchanged, lastAccess_snoc trace rfl, ← created]
        rfl
      · rw [Finmap.lookup_insert_of_ne _ (Ne.symm same)] at held
        exact remembered_other holds same held
  | created bucket absent usable =>
      by_cases same : label.source = source
      · subst same
        rw [Finmap.lookup_insert] at held
        cases held
        have wasAbsent : label.source ∉ label.before := by
          rw [before]
          exact fun member => Finmap.lookup_eq_none.mp absent (Finmap.mem_keys.mp member)
        have created := createdAt_snoc_created trace rfl wasAbsent
        refine ⟨called, created.symm, ?_, holds.sameRate ▸ usable⟩
        rw [span, created, lastAccess_snoc trace rfl]
        rfl
      · rw [Finmap.lookup_insert_of_ne _ (Ne.symm same)] at held
        exact remembered_other holds same (lookup_makeRoom held)

/-- The buckets remember every history. -/
theorem remembers (runs : (ThrottleSystem.system rate burst maxSources).Runs trace machine) :
    Remembers rate maxSources trace machine := by
  refine System.Runs.history (Remembers rate maxSources) ?_ ?_ runs
  · rintro machine ⟨clock, rfl⟩
    refine ⟨rfl, rfl, fun source tracked held => ?_⟩
    cases (Finmap.lookup_empty source).symm.trans held
  · intro trace machine label next _ holds transition
    exact holds.step transition

/-! ## Eviction -/

/-- Each entry an iteration sees is a tracked source with its span. -/
private theorem entry_span (holds : Remembers rate maxSources trace machine)
    (order : machine.throttle.buckets.Iteration) {entry : String × TrackedBucket}
    (member : entry ∈ order.entries) :
    entry.1 ∈ machine.tracked ∧ entry.2.lastAccess = span trace entry.1 := by
  have held := (order.mem_iff entry).mp member
  exact ⟨Finmap.mem_keys.mpr (Finmap.mem_of_lookup_eq_some held),
    (holds.bucket entry.1 entry.2 held).2.2.1⟩

/-- Each tracked source is seen by an iteration. -/
private theorem exists_entry (order : machine.throttle.buckets.Iteration) {source : String}
    (tracked : source ∈ machine.tracked) : ∃ bucket, (source, bucket) ∈ order.entries := by
  obtain ⟨bucket, held⟩ := Finmap.mem_iff.mp (Finmap.mem_keys.mp tracked)
  exact ⟨bucket, (order.mem_iff _).mpr held⟩

/-- Eviction removes a source with the shortest span. -/
private theorem evictLru_removes (holds : Remembers rate maxSources trace machine)
    (order : machine.throttle.buckets.Iteration) (nonempty : machine.tracked.Nonempty) :
    ∃ removed ∈ machine.tracked,
      Throttle.evictLru machine.throttle.buckets order =
        machine.throttle.buckets.erase removed ∧
      ∀ other ∈ machine.tracked, span trace removed ≤ span trace other := by
  unfold Throttle.evictLru
  cases least : order.entries.argmin fun entry => entry.2.lastAccess with
  | none =>
      obtain ⟨source, tracked⟩ := nonempty
      obtain ⟨bucket, member⟩ := exists_entry order tracked
      simp [List.argmin_eq_none.mp least] at member
  | some entry =>
      obtain ⟨tracked, same⟩ := entry_span holds order (List.argmin_mem least)
      refine ⟨entry.1, tracked, rfl, fun other isTracked => ?_⟩
      obtain ⟨bucket, member⟩ := exists_entry order isTracked
      have below := List.le_of_mem_argmin
        (f := fun entry : String × TrackedBucket => entry.2.lastAccess) member least
      rwa [← same, ← (entry_span holds order member).2]

/-- Eviction removes the source it sees first, if that has the shortest span. -/
private theorem evictLru_first (holds : Remembers rate maxSources trace machine)
    {order : machine.throttle.buckets.Iteration} {first : String × TrackedBucket}
    {rest : List (String × TrackedBucket)} (isFirst : order.entries = first :: rest)
    (shortest : ∀ other ∈ machine.tracked, span trace first.1 ≤ span trace other) :
    Throttle.evictLru machine.throttle.buckets order =
      machine.throttle.buckets.erase first.1 := by
  have least : order.entries.argmin (fun entry => entry.2.lastAccess) = some first := by
    rw [isFirst]
    apply argmin_of_first
    intro item member
    obtain ⟨-, firstSpan⟩ := entry_span holds order (isFirst ▸ List.mem_cons_self)
    obtain ⟨tracked, itemSpan⟩ :=
      entry_span holds order (isFirst ▸ List.mem_cons_of_mem first member)
    rw [firstSpan, itemSpan]
    exact shortest item.1 tracked
  simp [Throttle.evictLru, least]

/-- What an eviction followed by the creation of a bucket removes. -/
private theorem keys_sdiff {buckets : HashMap String TrackedBucket} {source removed : String}
    {tracked : TrackedBucket} (absent : source ∉ buckets.keys) (held : removed ∈ buckets.keys) :
    buckets.keys \ ((buckets.erase removed).insert source tracked).keys = {removed} := by
  ext other
  simp only [Finset.mem_sdiff, Finmap.mem_keys, Finmap.mem_insert, Finmap.mem_erase,
    Finset.mem_singleton, not_or, not_and_or, not_not]
  constructor
  · rintro ⟨isHeld, different, same | gone⟩
    · exact same
    · exact absurd isHeld gone
  · rintro rfl
    refine ⟨Finmap.mem_keys.mp held, ?_, .inl rfl⟩
    rintro rfl
    exact absent held

/-- A call which has to remove a source removes what eviction picks. -/
private theorem accesses_remove (holds : Remembers rate maxSources trace machine)
    {times : ThrottleTimes} {order : machine.throttle.buckets.Iteration} {source removed : String}
    {buckets : HashMap String TrackedBucket}
    (accesses : machine.throttle.Accesses times order source buckets)
    (absent : source ∉ machine.tracked) (full : maxSources ≤ machine.tracked.card)
    (tracked : removed ∈ machine.tracked)
    (evicted : Throttle.evictLru machine.throttle.buckets order =
      machine.throttle.buckets.erase removed) :
    machine.tracked \ buckets.keys = {removed} := by
  have room : machine.throttle.makeRoom order = machine.throttle.buckets.erase removed := by
    rw [Throttle.makeRoom_full (holds.sameMax ▸ full), evicted]
  cases accesses with
  | existing bucket held =>
      exact absurd (Finmap.mem_keys.mpr (Finmap.mem_of_lookup_eq_some held)) absent
  | created bucket isAbsent usable =>
      rw [room]
      exact keys_sdiff absent tracked

/-- If the spans decide, the least recently used source is evicted. -/
private theorem evictsLru_of_spanDecides (holds : Remembers rate maxSources trace machine)
    {label : ThrottleLabel} {next : ThrottleSystem}
    (transition : ThrottleSystem.Step machine label next)
    (decides : SpanDecides maxSources trace machine.tracked label.source) :
    EvictsLru maxSources trace label := by
  intro absent nonempty full
  obtain ⟨-, before, after, order, accesses⟩ := accesses_of_step transition
  rw [before] at absent nonempty full ⊢
  rw [after]
  obtain ⟨removed, tracked, evicted, shortest⟩ := evictLru_removes holds order nonempty
  obtain ⟨lru, least⟩ := LeastRecent.exists (fun source member => by
    obtain ⟨bucket, held⟩ := Finmap.mem_iff.mp (Finmap.mem_keys.mp member)
    exact (holds.bucket source bucket held).1) nonempty
  refine ⟨lru, least, ?_⟩
  have gone := accesses_remove holds accesses absent full tracked evicted
  change machine.tracked \ next.throttle.buckets.keys = {lru}
  rw [gone]
  by_contra different
  have shorter := decides absent nonempty full lru least removed tracked fun same =>
    different (by rw [same])
  exact absurd (shortest lru least.1) (Nat.not_le.mpr shorter)

/-- If the least recently used source is evicted in whatever order the buckets are
seen, then the spans decide. -/
private theorem spanDecides_of_evictsLru (holds : Remembers rate maxSources trace machine)
    {source : String}
    (evicts : ∀ label next, ThrottleSystem.Step machine label next → label.source = source →
      EvictsLru maxSources trace label) :
    SpanDecides maxSources trace machine.tracked source := by
  intro absent nonempty full lru least other tracked different
  by_contra notShorter
  -- Another source with the shortest span may be seen first, and is then removed.
  obtain ⟨removed, member, shortestOther⟩ := (machine.tracked.erase lru).exists_min_image
    (span trace) ⟨other, Finset.mem_erase.mpr ⟨different, tracked⟩⟩
  obtain ⟨notLru, isTracked⟩ := Finset.mem_erase.mp member
  have belowLru : span trace removed ≤ span trace lru :=
    (shortestOther other (Finset.mem_erase.mpr ⟨different, tracked⟩)).trans
      (Nat.not_lt.mp notShorter)
  have shortest : ∀ source ∈ machine.tracked, span trace removed ≤ span trace source := by
    intro source sourceTracked
    by_cases same : source = lru
    · exact same ▸ belowLru
    · exact shortestOther source (Finset.mem_erase.mpr ⟨same, sourceTracked⟩)
  obtain ⟨bucket, held⟩ := Finmap.mem_iff.mp (Finmap.mem_keys.mp isTracked)
  obtain ⟨order, rest, isFirst⟩ := HashMap.Iteration.exists_first held
  have usable : TokenBucket.refillNanosOf machine.throttle.rate ≠ 0 :=
    holds.sameRate ▸ (holds.bucket removed bucket held).2.2.2
  have isAbsent : machine.throttle.buckets.lookup source = none :=
    Finmap.lookup_eq_none.mpr fun present => absent (Finmap.mem_keys.mpr present)
  obtain ⟨⟨passed, after⟩, done⟩ :=
    Throttle.exists_getOrCreateBucket (machine.clock + 1) order isAbsent usable
  obtain ⟨-, accesses⟩ := Throttle.accesses_of_getOrCreateBucket done
  have gone := accesses_remove holds accesses absent full isTracked
    (evictLru_first holds isFirst shortest)
  let msg := Message.withId "" 0 source "" []
  have processed : machine.throttle.process
      ⟨machine.clock + 1, machine.clock + 1, machine.clock + 1, machine.clock + 1⟩ order msg =
        some (if passed then some msg else none, after) := by
    simp [Throttle.process, msg, Message.withId, done]
  have later : ThrottleTimes.Follow ⟨machine.clock + 1, machine.clock + 1, machine.clock + 1,
      machine.clock + 1⟩ machine.clock := ⟨Nat.lt_succ_self _, le_rfl, le_rfl, le_rfl⟩
  obtain ⟨lru', least', gone'⟩ := evicts _ _ (.processed later processed) rfl absent nonempty full
  rw [gone, Finset.singleton_inj] at gone'
  exact notLru (gone'.trans (least'.unique least))

/-- In every state a throttle reaches, a call evicts the least recently used
source, in whatever order the buckets are seen, exactly when the spans decide;
so in every run whose calls all meet this condition every call evicts so. -/
theorem throttle_evicts_lru_iff (rate burst maxSources : Nat) :
    (∀ (execution : (ThrottleSystem.system rate burst maxSources).Execution) (source : String),
      (∀ label next, ThrottleSystem.Step execution.state label next → label.source = source →
        EvictsLru maxSources execution.trace label) ↔
      SpanDecides maxSources execution.trace (ThrottleSystem.tracked execution.state) source) ∧
    ∀ trace state, (ThrottleSystem.system rate burst maxSources).RunsWhere
        (fun trace _ label _ => SpanDecides maxSources trace label.before label.source)
        trace state →
      (ThrottleSystem.system rate burst maxSources).RunsWhere
        (fun trace _ label _ => EvictsLru maxSources trace label) trace state := by
  constructor
  · intro execution source
    have holds := remembers execution.runs
    constructor
    · exact spanDecides_of_evictsLru holds
    · rintro decides label next transition rfl
      exact evictsLru_of_spanDecides holds transition decides
  · intro trace state run
    apply run.strengthen
    intro _ _ _ _ runs transition decides
    have before := (accesses_of_step transition).2.1
    exact evictsLru_of_spanDecides (remembers runs) transition (before ▸ decides)

/-! ## Two runs -/

/-- A call whose clock readings are all the same. -/
def ThrottleTimes.at (time : Nat) : ThrottleTimes := ⟨time, time, time, time⟩

/-- A message of a source. -/
def messageOf (source : String) : Message := Message.withId "" 0 source "" []

/-- A throttle for two sources with one token each. -/
def twoSources (buckets : HashMap String TrackedBucket) : Throttle := ⟨1, 1, 2, buckets⟩

/-- A bucket which has given its token away. -/
def usedBucket (created last : Nat) : TrackedBucket :=
  ⟨⟨1000, 1000, 1000000000, 0, 0, created⟩, last, created⟩

/-- A new source gets its token. -/
private theorem twoSources_created {buckets : HashMap String TrackedBucket} (source : String)
    (time : Nat) (order : buckets.Iteration) (absent : buckets.lookup source = none) :
    (twoSources buckets).process (.at time) order (messageOf source) =
      some (some (messageOf source),
        twoSources (((twoSources buckets).makeRoom order).insert source (usedBucket time 0))) := by
  simp [Throttle.process, Throttle.getOrCreateBucket, twoSources, absent, messageOf,
    Message.withId, TrackedBucket.tryAcquire, TrackedBucket.new, TokenBucket.tryAcquire,
    TokenBucket.refill, usedBucket, ThrottleTimes.at, elapsedNanos, wrap64, TokenBucket.new,
    TokenBucket.refillNanosOf, saturate64]

/-- A source which has had its token gets none for a second. -/
private theorem twoSources_existing {buckets : HashMap String TrackedBucket} (source : String)
    {created last : Nat} (time : Nat) (order : buckets.Iteration)
    (held : buckets.lookup source = some (usedBucket created last))
    (soon : time - created < 1000000000) :
    (twoSources buckets).process (.at time) order (messageOf source) =
      some (none, twoSources (buckets.insert source (usedBucket created (time - created)))) := by
  have elapsed : elapsedNanos created time = time - created := Nat.mod_eq_of_lt (by omega)
  simp [Throttle.process, Throttle.getOrCreateBucket, twoSources, held, messageOf,
    Message.withId, TrackedBucket.tryAcquire, TokenBucket.tryAcquire, TokenBucket.refill,
    usedBucket, ThrottleTimes.at, elapsed, soon]

/-- The buckets after the calls for `a`. -/
def afterA (last : Nat) : HashMap String TrackedBucket :=
  Finmap.insert "a" (usedBucket 1 last) ∅

/-- The buckets after the call for `b`. -/
def afterB : HashMap String TrackedBucket := Finmap.insert "b" (usedBucket 21 0) (afterA 10)

/-- The calls at times 1, 11 and 21. -/
private theorem runs_afterB : (ThrottleSystem.system 1 1 2).Runs
    [⟨"a", .at 1, ∅, {"a"}⟩, ⟨"a", .at 11, {"a"}, {"a"}⟩, ⟨"b", .at 21, {"a"}, {"b", "a"}⟩]
    ⟨twoSources afterB, 21⟩ := by
  have start : (ThrottleSystem.system 1 1 2).Runs [] ⟨twoSources ∅, 0⟩ := .initial ⟨0, rfl⟩
  obtain ⟨order⟩ := HashMap.Iteration.nonempty (∅ : HashMap String TrackedBucket)
  have one := start.snoc (.processed ⟨Nat.zero_lt_one, le_rfl, le_rfl, le_rfl⟩
    (twoSources_created "a" 1 order (Finmap.lookup_empty "a")))
  have room : (twoSources ∅).makeRoom order = ∅ := rfl
  rw [room] at one
  obtain ⟨order⟩ := HashMap.Iteration.nonempty (afterA 0)
  have two := one.snoc (.processed ⟨by decide, le_rfl, le_rfl, le_rfl⟩
    (twoSources_existing "a" 11 order (Finmap.lookup_insert _) (by decide)))
  have renewed : (afterA 0).insert "a" (usedBucket 1 (11 - 1)) = afterA 10 :=
    Finmap.insert_insert _
  rw [renewed] at two
  obtain ⟨order⟩ := HashMap.Iteration.nonempty (afterA 10)
  have three := two.snoc (.processed ⟨by decide, le_rfl, le_rfl, le_rfl⟩
    (twoSources_created "b" 21 order rfl))
  have room : (twoSources (afterA 10)).makeRoom order = afterA 10 := rfl
  rw [room] at three
  exact three

/-- With room for two sources, `a` is called at times 1 and 11 and `b` at 21. A
call for `c` at 31 evicts `b`, which has just been called. -/
theorem throttle_evicts_recent :
    ∃ (execution : (ThrottleSystem.system 1 1 2).Execution) (label : ThrottleLabel)
        (next : ThrottleSystem),
      execution.trace = [⟨"a", .at 1, ∅, {"a"}⟩, ⟨"a", .at 11, {"a"}, {"a"}⟩,
        ⟨"b", .at 21, {"a"}, {"b", "a"}⟩] ∧
      ThrottleSystem.Step execution.state label next ∧
      label.source = "c" ∧ label.times = .at 31 ∧
      label.before \ label.after = {"b"} ∧ ¬ EvictsLru 2 execution.trace label := by
  obtain ⟨order⟩ := HashMap.Iteration.nonempty afterB
  have called := twoSources_created "c" 31 order rfl
  have step : ThrottleSystem.Step ⟨twoSources afterB, 21⟩ _ _ :=
    .processed ⟨by decide, le_rfl, le_rfl, le_rfl⟩ called
  have holds := remembers runs_afterB
  have keys : afterB.keys = {"b", "a"} := rfl
  have absent : "c" ∉ afterB.keys := by decide
  have nonempty : afterB.keys.Nonempty := ⟨"a", by decide⟩
  have full : 2 ≤ afterB.keys.card := by decide
  obtain ⟨-, -, -, seen, accesses⟩ := accesses_of_step step
  obtain ⟨removed, tracked, evicted, shortest⟩ := evictLru_removes holds seen nonempty
  have gone := accesses_remove holds accesses absent full tracked evicted
  have isB : removed = "b" := by
    have either : removed = "b" ∨ removed = "a" := by
      simpa [ThrottleSystem.tracked, twoSources, keys] using tracked
    rcases either with isB | rfl
    · exact isB
    · exact absurd (shortest "b" (by decide)) (by decide)
  subst isB
  refine ⟨⟨_, _, runs_afterB⟩, _, _, rfl, step, rfl, rfl, gone, fun evicts => ?_⟩
  obtain ⟨lru, least, removes⟩ := evicts absent nonempty full
  obtain rfl : "b" = lru := Finset.singleton_inj.mp (gone.symm.trans removes)
  have recent : LeastRecent ["a", "a", "b"] afterB.keys "a" :=
    ⟨by decide, ["a"], ["b"], rfl, by decide, by decide⟩
  exact absurd (least.unique recent) (by decide)

/-- The buckets after a call for `a` and calls for `b`. -/
def bAgain (last : Nat) : HashMap String TrackedBucket :=
  Finmap.insert "b" (usedBucket 11 last) (afterA 0)

/-- The calls at times 1, 11 and 21, when `b` is called again and not `a`. -/
private theorem runs_bAgain : (ThrottleSystem.system 1 1 2).RunsWhere
    (fun trace _ label _ => SpanDecides 2 trace label.before label.source)
    [⟨"a", .at 1, ∅, {"a"}⟩, ⟨"b", .at 11, {"a"}, {"b", "a"}⟩,
      ⟨"b", .at 21, {"b", "a"}, {"b", "a"}⟩] ⟨twoSources (bAgain 10), 21⟩ := by
  have start : (ThrottleSystem.system 1 1 2).RunsWhere
      (fun trace _ label _ => SpanDecides 2 trace label.before label.source)
      [] ⟨twoSources ∅, 0⟩ := .initial ⟨0, rfl⟩
  have nobody : ¬ (∅ : HashMap String TrackedBucket).keys.Nonempty := by decide
  obtain ⟨order⟩ := HashMap.Iteration.nonempty (∅ : HashMap String TrackedBucket)
  have one := start.step (.processed ⟨Nat.zero_lt_one, le_rfl, le_rfl, le_rfl⟩
    (twoSources_created "a" 1 order (Finmap.lookup_empty "a")))
    fun _ nonempty => absurd nonempty nobody
  have room : (twoSources ∅).makeRoom order = ∅ := rfl
  rw [room] at one
  have notFull : ¬ 2 ≤ (afterA 0).keys.card := by decide
  obtain ⟨order⟩ := HashMap.Iteration.nonempty (afterA 0)
  have two := one.step (.processed ⟨by decide, le_rfl, le_rfl, le_rfl⟩
    (twoSources_created "b" 11 order rfl)) fun _ _ full => absurd full notFull
  have room : (twoSources (afterA 0)).makeRoom order = afterA 0 := rfl
  rw [room] at two
  have tracked : "b" ∈ (bAgain 0).keys := by decide
  obtain ⟨order⟩ := HashMap.Iteration.nonempty (bAgain 0)
  have three := two.step (.processed ⟨by decide, le_rfl, le_rfl, le_rfl⟩
    (twoSources_existing "b" 21 order (Finmap.lookup_insert _) (by decide)))
    fun absent => absurd tracked absent
  have renewed : (bAgain 0).insert "b" (usedBucket 11 (21 - 11)) = bAgain 10 :=
    Finmap.insert_insert _
  rw [renewed] at three
  exact three

/-- If instead `b` is called again, a call for `c` evicts `a`. -/
theorem throttle_evicts_lru_iff_oldest :
    ∃ label state,
      (ThrottleSystem.system 1 1 2).RunsWhere
        (fun trace _ label _ => SpanDecides 2 trace label.before label.source)
        ([⟨"a", .at 1, ∅, {"a"}⟩, ⟨"b", .at 11, {"a"}, {"b", "a"}⟩,
          ⟨"b", .at 21, {"b", "a"}, {"b", "a"}⟩] ++ [label]) state ∧
      (ThrottleSystem.system 1 1 2).RunsWhere (fun trace _ label _ => EvictsLru 2 trace label)
        ([⟨"a", .at 1, ∅, {"a"}⟩, ⟨"b", .at 11, {"a"}, {"b", "a"}⟩,
          ⟨"b", .at 21, {"b", "a"}, {"b", "a"}⟩] ++ [label]) state ∧
      label.source = "c" ∧ label.times = .at 31 ∧ label.before \ label.after = {"a"} := by
  obtain ⟨order⟩ := HashMap.Iteration.nonempty (bAgain 10)
  have step : ThrottleSystem.Step ⟨twoSources (bAgain 10), 21⟩ _ _ :=
    .processed ⟨by decide, le_rfl, le_rfl, le_rfl⟩ (twoSources_created "c" 31 order rfl)
  have recent : LeastRecent ["a", "b", "b"] (bAgain 10).keys "a" :=
    ⟨by decide, [], ["b", "b"], rfl, by decide, by decide⟩
  have decides : SpanDecides 2 [⟨"a", .at 1, ∅, {"a"}⟩, ⟨"b", .at 11, {"a"}, {"b", "a"}⟩,
      ⟨"b", .at 21, {"b", "a"}, {"b", "a"}⟩] (bAgain 10).keys "c" := by
    intro _ _ _ lru least
    obtain rfl : "a" = lru := recent.unique least
    decide
  have absent : "c" ∉ (bAgain 10).keys := by decide
  have nonempty : (bAgain 10).keys.Nonempty := ⟨"a", by decide⟩
  have full : 2 ≤ (bAgain 10).keys.card := by decide
  obtain ⟨lru, least, gone⟩ := evictsLru_of_spanDecides (remembers runs_bAgain.runs) step decides
    absent nonempty full
  obtain rfl : "a" = lru := recent.unique least
  have run := runs_bAgain.step step decides
  exact ⟨_, _, run, (throttle_evicts_lru_iff 1 1 2).2 _ _ run, rfl, rfl, gone⟩

end Polku
