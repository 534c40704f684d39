import Polku.Middleware.Contention
import Polku.Middleware.Throttle
import Polku.Semantics.RwLock
import Polku.Semantics.Tasks

/-!
# The throttle under contention

Any number of calls of `Throttle::process` share the buckets behind a readers-writer lock. A
call looks for its bucket under the read lock, and keeps the lock while it takes its atomic
steps on the bucket. If there is none it comes back with the write lock, looks again, and if
need be evicts a bucket and makes a new one, which it puts into the map when it has an answer.

The buckets of a source are numbered in the order in which they are made.
-/

namespace Polku

open Semantics Data

namespace Throttle

/-- The source whose bucket a full throttle evicts. -/
def victim (self : Throttle) (order : self.buckets.Iteration) : Option String :=
  if self.maxSources ≤ self.sourceCount then
    (order.entries.argmin fun entry => entry.2.lastAccess).map Prod.fst
  else none

/-- Where a call of `process` stands. A call which holds the lock has not noted its access yet,
or is at some atomic step on its bucket; a new bucket is its own until it is in the map. -/
inductive Call where
  | arriving (source : String)
  | missing (source : String)
  | holding (access : LockAccess) (source : String) (progress : Option RateLimiter.Call)
  | creating (source : String) (tracked : TrackedBucket) (progress : Option RateLimiter.Call)
  | returned (passed : Bool)
  | panicked

/-- What the calls share, and how many buckets have been made for each source. -/
structure Shared where
  throttle : Throttle
  lock : RwLock
  made : String → Nat

/-- What a step did. -/
inductive Event where
  | found (source : String)
  | missed (source : String)
  | created (source : String) (evicted : Option String)
  | accessed (source : String) (bucket : Nat)
  | worked (source : String) (bucket : Nat) (event : RateLimiter.Event)
  | finished (source : String)
  | unwound (source : String)
deriving DecidableEq

/-- Note the access. -/
def noteAccess (tracked : TrackedBucket) (accessed : Nat) : TrackedBucket :=
  { tracked with lastAccessNanos := elapsedNanos tracked.created accessed }

/-- Put a bucket into the map, in the place of what was there. -/
def Shared.put (self : Shared) (source : String) (tracked : TrackedBucket) : Shared :=
  { self with
    throttle := { self.throttle with buckets := self.throttle.buckets.insert source tracked } }

/-- The next step of a call. A panic releases the lock. -/
inductive Call.Step (profile : Profile) : Shared → Call → Event → Shared → Call → Prop where
  | find {self source tracked lock} (held : self.throttle.buckets.lookup source = some tracked)
      (taken : self.lock.take .read = some lock) :
      Step profile self (.arriving source) (.found source) { self with lock := lock }
        (.holding .read source none)
  | miss {self source lock} (absent : self.throttle.buckets.lookup source = none)
      (taken : self.lock.take .read = some lock) :
      Step profile self (.arriving source) (.missed source) self (.missing source)
  | findAgain {self source tracked lock}
      (held : self.throttle.buckets.lookup source = some tracked)
      (taken : self.lock.take .write = some lock) :
      Step profile self (.missing source) (.found source) { self with lock := lock }
        (.holding .write source none)
  | create {self source lock} (absent : self.throttle.buckets.lookup source = none)
      (taken : self.lock.take .write = some lock) (order : self.throttle.buckets.Iteration)
      (times : ThrottleTimes) :
      Step profile self (.missing source) (.created source (self.throttle.victim order))
        { throttle := { self.throttle with buckets := self.throttle.makeRoom order }
          lock := lock
          made := Function.update self.made source (self.made source + 1) }
        (.creating source (.new self.throttle.rate self.throttle.burst times) none)
  | access {self access source tracked}
      (held : self.throttle.buckets.lookup source = some tracked) (accessed : Nat) :
      Step profile self (.holding access source none) (.accessed source (self.made source))
        (self.put source (noteAccess tracked accessed))
        (.holding access source (some .readClock))
  | work {self access source tracked call after next event}
      (held : self.throttle.buckets.lookup source = some tracked) (now : UInt64)
      (spurious : Bool)
      (moves : call.step profile tracked.bucket now spurious = some (after, next, event)) :
      Step profile self (.holding access source (some call))
        (.worked source (self.made source) event)
        (self.put source { tracked with bucket := after })
        (.holding access source (some next))
  | finish {self access source} (passed : Bool) :
      Step profile self (.holding access source (some (.returned passed))) (.finished source)
        { self with lock := self.lock.release access } (.returned passed)
  | unwind {self access source} :
      Step profile self (.holding access source (some .panicked)) (.finished source)
        { self with lock := self.lock.release access } .panicked
  | accessNew {self source tracked} (accessed : Nat) :
      Step profile self (.creating source tracked none) (.accessed source (self.made source))
        self (.creating source (noteAccess tracked accessed) (some .readClock))
  | workNew {self source tracked call after next event} (now : UInt64) (spurious : Bool)
      (moves : call.step profile tracked.bucket now spurious = some (after, next, event)) :
      Step profile self (.creating source tracked (some call))
        (.worked source (self.made source) event) self
        (.creating source { tracked with bucket := after } (some next))
  | insert {self source tracked} (passed : Bool) :
      Step profile self (.creating source tracked (some (.returned passed))) (.finished source)
        { self.put source tracked with lock := self.lock.release .write } (.returned passed)
  | unwindNew {self source tracked} :
      Step profile self (.creating source tracked (some .panicked)) (.unwound source)
        { self with lock := self.lock.release .write } .panicked

/-- Calls of `process`. -/
def calls (profile : Profile) : Tasks Shared Call Event where
  Start call := ∃ source, call = .arriving source
  Step := Call.Step profile

/-- A throttle which tracks nothing, and no call. -/
def Shared.new (rate burst maxSources : Nat) : Shared :=
  ⟨(Throttle.new rate burst).withMaxSources maxSources, .new, fun _ => 0⟩

/-- The runs of a throttle which any number of calls share. -/
def contended (profile : Profile) (rate burst maxSources : Nat) : System (Tasks.Label Event) :=
  (calls profile).system (Shared.new rate burst maxSources)

/-! ## Who holds the lock -/

/-- How a call holds the lock. -/
def Call.hold : Call → Option LockAccess
  | .holding access _ _ => some access
  | .creating _ _ _ => some .write
  | _ => none

variable {profile : Profile} {shared after : Shared} {call next : Call} {event : Event}
  {front back : List Call}

/-- A step keeps the lock fitting. -/
theorem Call.Step.fits (step : Call.Step profile shared call event after next)
    (fits : shared.lock.Fits ((front ++ call :: back).map Call.hold)) :
    after.lock.Fits ((front ++ next :: back).map Call.hold) := by
  simp only [List.map_append, List.map_cons] at fits ⊢
  cases step with
  | miss | access | work | accessNew | workNew => exact fits
  | find _ taken | findAgain _ taken | create _ taken => exact fits.take taken
  | finish | unwind | insert | unwindNew => exact fits.release

/-- Others do not hold the lock besides a call which holds it to write. -/
theorem alone (fits : shared.lock.Fits ((front ++ call :: back).map Call.hold))
    (writes : call.hold = some .write) : ∀ other ∈ front ++ back, other.hold = none := by
  rw [List.map_append, List.map_cons, writes] at fits
  intro _ member
  apply fits.alone
  rw [← List.map_append]
  exact List.mem_map_of_mem member

/-- Nobody holds the lock when a call takes it to write. -/
theorem unheld {tasks : List Call} (fits : shared.lock.Fits (tasks.map Call.hold))
    {lock : RwLock} (taken : shared.lock.take .write = some lock) :
    ∀ other ∈ tasks, other.hold = none :=
  fun _ member => fits.none_of_take_write taken _ (List.mem_map_of_mem member)

/-! ## Where the buckets are -/

/-- The source whose bucket a call uses. -/
def Call.uses : Call → Option String
  | .holding _ source _ => some source
  | _ => none

/-- The source for which a call has made a bucket that is not in the map yet. -/
def Call.makes : Call → Option String
  | .creating source _ _ => some source
  | _ => none

/-- A bucket is in the map while a call uses it, and is not while a call makes it; and there
are no more of them than there may be. -/
structure Placed (maxSources : Nat) (shared : Shared) (tasks : List Call) : Prop where
  settings : shared.throttle.maxSources = maxSources
  held : ∀ call ∈ tasks, ∀ source ∈ call.uses, source ∈ shared.throttle.buckets.keys
  absent : ∀ call ∈ tasks, ∀ source ∈ call.makes, source ∉ shared.throttle.buckets.keys
  bounded : shared.throttle.sourceCount + tasks.countP (·.makes.isSome) ≤ max 1 maxSources

/-- What is found is tracked. -/
theorem mem_keys {buckets : HashMap String TrackedBucket} {source : String}
    {tracked : TrackedBucket} (held : buckets.lookup source = some tracked) :
    source ∈ buckets.keys :=
  Finmap.mem_keys.mpr (Finmap.mem_of_lookup_eq_some held)

/-- What is not found is not tracked. -/
theorem notMem_keys {buckets : HashMap String TrackedBucket} {source : String}
    (absent : buckets.lookup source = none) : source ∉ buckets.keys :=
  fun member => Finmap.lookup_eq_none.mp absent (Finmap.mem_keys.mp member)

/-- The tracked sources with one more. -/
theorem keys_insert (buckets : HashMap String TrackedBucket) (source : String)
    (tracked : TrackedBucket) : (buckets.insert source tracked).keys = insert source buckets.keys := by
  ext other
  rw [Finmap.mem_keys, Finmap.mem_insert, Finset.mem_insert, Finmap.mem_keys]

/-- What room is made for: the victim's bucket is gone, if there is one. -/
theorem makeRoom_eq (self : Throttle) (order : self.buckets.Iteration) :
    self.makeRoom order = (self.victim order).elim self.buckets self.buckets.erase := by
  unfold makeRoom victim evictLru
  split
  case isTrue =>
      split
      case h_1 least => simp [least]
      case h_2 none => simp [none]
  case isFalse => rfl

/-- The victim is tracked. -/
theorem victim_tracked {self : Throttle} {order : self.buckets.Iteration} {evicted : String}
    (isVictim : self.victim order = some evicted) : evicted ∈ self.buckets.keys := by
  unfold victim at isVictim
  split at isVictim
  case isTrue =>
      obtain ⟨entry, least, rfl⟩ := Option.map_eq_some_iff.mp isVictim
      exact mem_keys ((order.mem_iff entry).mp (List.argmin_mem least))
  case isFalse => cases isVictim

/-- A full throttle has a victim, unless it tracks nothing. -/
theorem victim_isSome {self : Throttle} (order : self.buckets.Iteration)
    (full : self.maxSources ≤ self.sourceCount) (tracks : self.sourceCount ≠ 0) :
    ∃ evicted, self.victim order = some evicted := by
  rw [victim, if_pos full]
  cases least : order.entries.argmin fun entry => entry.2.lastAccess with
  | some entry => exact ⟨entry.1, rfl⟩
  | none =>
      obtain ⟨source, isTracked⟩ := Finset.card_ne_zero.mp tracks
      obtain ⟨bucket, held⟩ := Finmap.mem_iff.mp (Finmap.mem_keys.mp isTracked)
      have member := (order.mem_iff (source, bucket)).mpr held
      simp [List.argmin_eq_none.mp least] at member

/-- The room which is made is enough for one more bucket. -/
theorem makeRoom_room {self : Throttle} (order : self.buckets.Iteration)
    (bounded : self.sourceCount ≤ max 1 self.maxSources) :
    (self.makeRoom order).keys.card + 1 ≤ max 1 self.maxSources := by
  rw [makeRoom_eq]
  cases isVictim : self.victim order with
  | some evicted =>
      have isTracked := victim_tracked isVictim
      have some := Finset.card_pos.mpr ⟨evicted, isTracked⟩
      rw [Option.elim_some, Finmap.keys_erase, Finset.card_erase_of_mem isTracked]
      rw [sourceCount] at bounded
      omega
  | none =>
      rw [Option.elim_none]
      change self.sourceCount + 1 ≤ _
      by_cases full : self.maxSources ≤ self.sourceCount
      · by_cases tracks : self.sourceCount = 0
        · omega
        · obtain ⟨evicted, found⟩ := victim_isSome order full tracks
          rw [isVictim] at found
          cases found
      · omega

/-- After room was made, a source has the bucket it had, or none. -/
theorem lookup_makeRoom {self : Throttle} {order : self.buckets.Iteration} {source : String}
    {tracked : TrackedBucket} (held : (self.makeRoom order).lookup source = some tracked) :
    self.buckets.lookup source = some tracked := by
  rw [makeRoom_eq] at held
  cases isVictim : self.victim order with
  | none => rwa [isVictim] at held
  | some evicted =>
      rw [isVictim, Option.elim_some] at held
      by_cases same : source = evicted
      · subst same
        rw [Finmap.lookup_erase] at held
        cases held
      · rwa [Finmap.lookup_erase_ne same] at held

variable {maxSources : Nat}

/-- A step which tracks the same sources, and after which no more calls make a bucket. -/
private theorem Placed.same (placed : Placed maxSources shared (front ++ call :: back))
    (settings : after.throttle.maxSources = shared.throttle.maxSources)
    (keys : after.throttle.buckets.keys = shared.throttle.buckets.keys)
    (held : ∀ source ∈ next.uses, source ∈ shared.throttle.buckets.keys)
    (makes : next.makes = none ∨ next.makes = call.makes) :
    Placed maxSources after (front ++ next :: back) where
  settings := settings.trans placed.settings
  held := by
    rw [keys]
    exact forall_mem_replace placed.held (fun _ => id) held
  absent := by
    rw [keys]
    refine forall_mem_replace placed.absent (fun _ => id) ?_
    rcases makes with none | same
    · simp [none]
    · rw [same]
      exact placed.absent call (by simp)
  bounded := by
    have bounded := placed.bounded
    rw [sourceCount, keys, ← sourceCount]
    rcases makes with none | same
    · simp only [List.countP_append, List.countP_cons, none, Option.isSome_none,
        Bool.false_eq_true, if_false] at bounded ⊢
      omega
    · simpa only [List.countP_append, List.countP_cons, same] using bounded

/-- Nobody uses or makes a bucket without the lock. -/
theorem Call.none_of_unheld (unheld : call.hold = none) : call.uses = none ∧ call.makes = none := by
  cases call with
  | holding | creating => cases unheld
  | arriving | missing | returned | panicked => exact ⟨rfl, rfl⟩

/-- A bucket is made. -/
private theorem Placed.create {source : String} (placed : Placed maxSources shared
      (front ++ .missing source :: back))
    (absent : shared.throttle.buckets.lookup source = none)
    (unheld : ∀ other ∈ front ++ .missing source :: back, other.hold = none)
    (order : shared.throttle.buckets.Iteration) (lock : RwLock) (made : String → Nat)
    (tracked : TrackedBucket) (progress : Option RateLimiter.Call) :
    Placed maxSources
      ⟨{ shared.throttle with buckets := shared.throttle.makeRoom order }, lock, made⟩
      (front ++ .creating source tracked progress :: back) where
  settings := placed.settings
  held := by
    refine forall_mem_replace unheld (fun other none => ?_) ?_
    · simp [(Call.none_of_unheld none).1]
    · simp [Call.uses]
  absent := by
    refine forall_mem_replace unheld (fun other none => ?_) ?_
    · simp [(Call.none_of_unheld none).2]
    · rintro _ ⟨⟩ isTracked
      obtain ⟨bucket, held⟩ := Finmap.mem_iff.mp (Finmap.mem_keys.mp isTracked)
      rw [lookup_makeRoom held] at absent
      cases absent
  bounded := by
    have bounded := placed.bounded
    rw [← placed.settings] at bounded ⊢
    have noneMakes : ∀ calls : List Call, (∀ other ∈ calls, other.hold = none) →
        calls.countP (·.makes.isSome) = 0 := by
      intro calls free
      rw [List.countP_eq_zero]
      intro other member
      simp [(Call.none_of_unheld (free other member)).2]
    have inFront := noneMakes front fun other member => unheld other (by simp [member])
    have inBack := noneMakes back fun other member => unheld other (by simp [member])
    have room := makeRoom_room order (by omega)
    have isMade : (Call.creating source tracked progress).makes.isSome = true := rfl
    simp only [List.countP_append, List.countP_cons, inFront, inBack, isMade, if_true, sourceCount]
    omega

/-- A bucket which was made is put into the map. -/
private theorem Placed.insert {source : String} {tracked : TrackedBucket}
    {progress : Option RateLimiter.Call}
    (placed : Placed maxSources shared (front ++ .creating source tracked progress :: back))
    (unheld : ∀ other ∈ front ++ back, other.hold = none) (lock : RwLock)
    (nextUnheld : next.hold = none) :
    Placed maxSources { shared.put source tracked with lock := lock } (front ++ next :: back) := by
  have free : ∀ other ∈ front ++ next :: back, other.uses = none ∧ other.makes = none := by
    intro other member
    apply Call.none_of_unheld
    rcases List.mem_append.mp member with inFront | isRest
    · exact unheld other (List.mem_append_left _ inFront)
    · rcases List.mem_cons.mp isRest with rfl | inBack
      · exact nextUnheld
      · exact unheld other (List.mem_append_right _ inBack)
  refine ⟨placed.settings, ?_, ?_, ?_⟩
  · intro other member
    simp [(free other member).1]
  · intro other member
    simp [(free other member).2]
  · have bounded := placed.bounded
    have isNew := placed.absent (.creating source tracked progress) (by simp) source rfl
    have none := (Call.none_of_unheld nextUnheld).2
    have isMade : (Call.creating source tracked progress).makes.isSome = true := rfl
    simp only [List.countP_append, List.countP_cons, none, isMade, Option.isSome_none, if_true,
      Bool.false_eq_true, if_false, sourceCount] at bounded ⊢
    rw [Shared.put, keys_insert, Finset.card_insert_of_notMem isNew]
    omega

/-- Every step keeps the buckets in their places. -/
theorem Placed.step (placed : Placed maxSources shared (front ++ call :: back))
    (fits : shared.lock.Fits ((front ++ call :: back).map Call.hold))
    (step : Call.Step profile shared call event after next) :
    Placed maxSources after (front ++ next :: back) := by
  have keysPut : ∀ {source : String} {tracked : TrackedBucket} (other : TrackedBucket),
      shared.throttle.buckets.lookup source = some tracked →
        (shared.put source other).throttle.buckets.keys = shared.throttle.buckets.keys := by
    intro source tracked other held
    rw [Shared.put, keys_insert, Finset.insert_eq_of_mem (mem_keys held)]
  cases step with
  | find held | findAgain held =>
      refine placed.same rfl rfl ?_ (.inl rfl)
      rintro _ ⟨⟩
      exact mem_keys held
  | miss | finish | unwind | unwindNew => exact placed.same rfl rfl (by simp [Call.uses]) (.inl rfl)
  | create absent taken order times =>
      exact placed.create absent (unheld fits taken) order _ _ _ _
  | access held accessed =>
      refine placed.same rfl (keysPut _ held) ?_ (.inl rfl)
      rintro _ ⟨⟩
      exact mem_keys held
  | work held now spurious moves =>
      refine placed.same rfl (keysPut _ held) ?_ (.inl rfl)
      rintro _ ⟨⟩
      exact mem_keys held
  | accessNew | workNew => exact placed.same rfl rfl (by simp [Call.uses]) (.inr rfl)
  | insert passed => exact placed.insert (alone fits rfl) _ rfl

end Throttle

end Polku
