import Polku.Middleware.RateLimiter
import Polku.Semantics.Execution

/-!
# The rate limiter under contention

Any number of calls of `try_acquire` share a limiter. Each takes its atomic steps in the
order of the code: it reads the clock, loads `last_refill`, claims the intervals which have
passed, adds their tokens, and takes one. The steps of different calls come in any order.
A compare-exchange may fail although nothing has changed, and no two clock readings need
agree on an order.
-/

namespace Polku

open Semantics Data

namespace RateLimiter

/-- Where a call stands: the atomic step it takes next, and the values it holds. -/
inductive Call where
  | readClock
  | loadLast (now : Nat)
  | claim (now last intervals newLast : Nat)
  | loadTokens (tokensToAdd : Nat)
  | addTokens (tokensToAdd current newTokens : Nat)
  | loadCurrent
  | takeToken (current : Nat)
  | returned (acquired : Bool)
  | panicked
deriving DecidableEq, Repr

/-- What can be seen of a step. -/
inductive Event where
  | called
  | read (now : UInt64)
  | worked
  | answered (acquired : Bool)
deriving DecidableEq, Repr

/-- What a call does with the last refill it has loaded: claim the intervals which have
passed since, if any has. -/
def Call.afterLast (profile : Profile) (limiter : RateLimiter) (now last : Nat) : Call :=
  let elapsed := now - last
  if elapsed < limiter.refillNanos then .loadCurrent
  else if limiter.refillNanos = 0 then .panicked
  else
    let intervals := elapsed / limiter.refillNanos
    if intervals = 0 then .loadCurrent
    else
      match (profile.fit (intervals * limiter.refillNanos)).bind
          fun claimed => profile.fit (last + claimed) with
      | none => .panicked
      | some newLast => .claim now last intervals newLast

/-- What a call does with the intervals it has claimed: add their tokens, if there are any. -/
def Call.afterClaim (profile : Profile) (limiter : RateLimiter) (intervals : Nat) : Call :=
  match profile.fit (intervals * limiter.refillAmount) with
  | none => .panicked
  | some tokensToAdd => if tokensToAdd = 0 then .loadCurrent else .loadTokens tokensToAdd

/-- The next atomic step of a call, with the time the clock shows, and whether a
compare-exchange fails even if it finds what it expects. -/
def Call.step (profile : Profile) (limiter : RateLimiter) (now : UInt64) (spurious : Bool) :
    Call → Option (RateLimiter × Call × Event)
  | .readClock => some (limiter, .loadLast now.toNat, .read now)
  | .loadLast now => some (limiter, afterLast profile limiter now limiter.lastRefill, .worked)
  | .claim now last intervals newLast =>
      if limiter.lastRefill = last ∧ spurious = false then
        some ({ limiter with lastRefill := newLast }, afterClaim profile limiter intervals,
          .worked)
      else some (limiter, .loadLast now, .worked)
  | .loadTokens tokensToAdd =>
      let current := limiter.tokens
      let newTokens := min (saturate64 (current + tokensToAdd)) limiter.capacity
      if current = newTokens then some (limiter, .loadCurrent, .worked)
      else some (limiter, .addTokens tokensToAdd current newTokens, .worked)
  | .addTokens tokensToAdd current newTokens =>
      if limiter.tokens = current ∧ spurious = false then
        some ({ limiter with tokens := newTokens }, .loadCurrent, .worked)
      else some (limiter, .loadTokens tokensToAdd, .worked)
  | .loadCurrent =>
      let current := limiter.tokens
      if current < 1000 then some (limiter, .returned false, .answered false)
      else some (limiter, .takeToken current, .worked)
  | .takeToken current =>
      if limiter.tokens = current ∧ spurious = false then
        some ({ limiter with tokens := current - 1000 }, .returned true, .answered true)
      else some (limiter, .loadCurrent, .worked)
  | .returned _ | .panicked => none

/-- A limiter and its calls. -/
structure Callers where
  limiter : RateLimiter
  calls : List Call
deriving DecidableEq, Repr

/-- A new call begins, or one of the calls takes its next step. -/
inductive Callers.Step (profile : Profile) : Callers → Event → Callers → Prop where
  | call (limiter : RateLimiter) (calls : List Call) :
      Step profile ⟨limiter, calls⟩ .called ⟨limiter, calls ++ [.readClock]⟩
  | advance {limiter after : RateLimiter} {call next : Call} {event : Event} (front back : List Call)
      (now : UInt64) (spurious : Bool)
      (moves : call.step profile limiter now spurious = some (after, next, event)) :
      Step profile ⟨limiter, front ++ call :: back⟩ event ⟨after, front ++ next :: back⟩

/-- A new limiter, which any number of calls share. -/
def contended (profile : Profile) (rate burst start : Nat) : System Event where
  State := Callers
  Initial := fun state => state = ⟨new rate burst start, []⟩
  Step := Callers.Step profile

/-- The number of calls which have taken a token. -/
def grants (trace : List Event) : Nat := trace.count (.answered true)

/-- The time which an event has read. -/
def Event.clock : Event → Nat
  | .read now => now.toNat
  | _ => 0

/-- The largest time which any call has read. -/
def latest (trace : List Event) : Nat := (trace.map Event.clock).foldl max 0

theorem grants_snoc (trace : List Event) (event : Event) :
    grants (trace ++ [event]) = grants trace + if event = .answered true then 1 else 0 := by
  simp [grants, List.count_append, List.count_singleton]

theorem latest_snoc (trace : List Event) (event : Event) :
    latest (trace ++ [event]) = max (latest trace) event.clock := by
  simp [latest]

/-! ### A call alone -/

/-- The steps of a call with nothing between them and no spurious failure. -/
def Call.alone (profile : Profile) (now : UInt64) : Nat → RateLimiter × Call → RateLimiter × Call
  | 0, state => state
  | fuel + 1, (limiter, call) =>
      match call.step profile limiter now false with
      | none => (limiter, call)
      | some (after, next, _) => alone profile now fuel (after, next)

/-- A call which has an answer keeps it. -/
private theorem Call.alone_returned (profile : Profile) (now : UInt64) (fuel : Nat)
    (limiter : RateLimiter) (acquired : Bool) :
    alone profile now fuel (limiter, .returned acquired) = (limiter, .returned acquired) := by
  cases fuel with
  | zero => rfl
  | succ fuel => rfl

/-- After the refill a call takes a token if there is one. -/
private theorem Call.alone_loadCurrent (profile : Profile) (now : UInt64) (fuel : Nat)
    (limiter : RateLimiter) :
    alone profile now (fuel + 2) (limiter, .loadCurrent) =
      if limiter.tokens < 1000 then (limiter, .returned false)
      else ({ limiter with tokens := limiter.tokens - 1000 }, .returned true) := by
  by_cases few : limiter.tokens < 1000
  · simp [alone, step, few]
  · simp [alone, step, few, alone_returned]

/-- Alone, a call adds its tokens at the first attempt. -/
private theorem Call.alone_loadTokens (profile : Profile) (now : UInt64) (fuel : Nat)
    (limiter : RateLimiter) (tokensToAdd : Nat) {result : RateLimiter × Call}
    (finish : ∀ fuel, alone profile now (fuel + 2) ({ limiter with
      tokens := min (saturate64 (limiter.tokens + tokensToAdd)) limiter.capacity },
        .loadCurrent) = result) :
    alone profile now (fuel + 4) (limiter, .loadTokens tokensToAdd) = result := by
  by_cases same :
      limiter.tokens = min (saturate64 (limiter.tokens + tokensToAdd)) limiter.capacity
  · rw [← finish (fuel + 1), ← same, alone, step]
    simp only [if_pos same]
  · rw [← finish fuel, alone, step]
    simp only [if_neg same]
    rw [alone, step]
    simp

/-- Alone, a call does what `try_acquire` does without contention. -/
theorem Call.alone_eq {profile : Profile} {limiter after : RateLimiter} {now : UInt64}
    {acquired : Bool}
    (answer : limiter.tryAcquire profile (limiter.start + now.toNat) = some (acquired, after)) :
    alone profile now 7 (limiter, .readClock) = (after, .returned acquired) := by
  obtain ⟨refilled, refill, taken⟩ := Option.map_eq_some_iff.mp answer
  have finish : ∀ fuel,
      alone profile now (fuel + 2) (refilled, .loadCurrent) = (after, .returned acquired) := by
    intro fuel
    rw [alone_loadCurrent]
    split at taken <;> simp_all
  have elapsed : elapsedNanos limiter.start (limiter.start + now.toNat) = now.toNat := by
    rw [elapsedNanos, Nat.add_sub_cancel_left]
    exact Nat.mod_eq_of_lt now.toNat_lt
  have started : alone profile now 7 (limiter, .readClock) = alone profile now 5
      (limiter, afterLast profile limiter now.toNat limiter.lastRefill) := rfl
  rw [started, afterLast]
  simp only [TokenBucket.refillIn, elapsed, Option.bind_eq_bind] at refill
  split at refill
  case isTrue early =>
      obtain rfl := Option.some.inj refill
      rw [if_pos early, finish]
  case isFalse late =>
      rw [if_neg late]
      split at refill
      case isTrue => cases refill
      case isFalse usable =>
          rw [if_neg usable]
          split at refill
          case isTrue none =>
              obtain rfl := Option.some.inj refill
              simp only [if_pos none, finish]
          case isFalse some =>
              simp only [if_neg some]
              obtain ⟨claimed, fits, refill⟩ := Option.bind_eq_some_iff.mp refill
              obtain ⟨newLast, lastFits, refill⟩ := Option.bind_eq_some_iff.mp refill
              obtain ⟨tokensToAdd, addFits, refill⟩ := Option.bind_eq_some_iff.mp refill
              simp only [fits, Option.bind_some, lastFits]
              have claims : ∀ last, alone profile now 5 (limiter, .claim now.toNat
                  limiter.lastRefill ((now.toNat - limiter.lastRefill) / limiter.refillNanos)
                  last) = alone profile now 4 ({ limiter with lastRefill := last }, afterClaim
                    profile limiter
                    ((now.toNat - limiter.lastRefill) / limiter.refillNanos)) := by
                intro last
                simp [alone, step]
              rw [claims, afterClaim, addFits]
              dsimp only
              split at refill
              case isTrue zero =>
                  obtain rfl := Option.some.inj refill
                  rw [if_pos zero, finish]
              case isFalse more =>
                  obtain rfl := Option.some.inj refill
                  rw [if_neg more]
                  exact alone_loadTokens profile now 0 _ tokensToAdd finish

/-! ### What every step keeps -/

/-- The tokens which a call has claimed and not added yet. -/
def Call.pending : Call → Nat
  | .loadTokens tokensToAdd => tokensToAdd
  | .addTokens tokensToAdd _ _ => tokensToAdd
  | _ => 0

/-- What is true of the values which a call holds, if no call has read a time after
`latest`. -/
def Call.Valid (limiter : RateLimiter) (latest : Nat) : Call → Prop
  | .loadLast now => now ≤ latest ∧ now < 2 ^ 64
  | .claim now last intervals newLast =>
      (now ≤ latest ∧ now < 2 ^ 64) ∧ newLast = last + intervals * limiter.refillNanos ∧
        newLast ≤ latest
  | .addTokens tokensToAdd current newTokens =>
      newTokens ≤ current + tokensToAdd ∧ newTokens ≤ limiter.capacity
  | .takeToken current => 1000 ≤ current
  | _ => True

/-- A later reading keeps the values valid. -/
theorem Call.Valid.mono {limiter after : RateLimiter} {call : Call} {before later : Nat}
    (valid : call.Valid limiter before) (order : before ≤ later)
    (capacity : after.capacity = limiter.capacity)
    (nanos : after.refillNanos = limiter.refillNanos) : call.Valid after later := by
  cases call <;> simp only [Valid, capacity, nanos] at valid ⊢ <;> omega

/-- A call claims no interval which has not passed. -/
theorem Call.afterLast_valid (profile : Profile) {limiter : RateLimiter} {now latest : Nat}
    (positive : 0 < limiter.refillNanos) (read : now ≤ latest) (bounded : now < 2 ^ 64)
    (last : Nat) :
    (afterLast profile limiter now last).Valid limiter latest ∧
      (afterLast profile limiter now last).pending = 0 := by
  have floor := Nat.div_mul_le_self (now - last) limiter.refillNanos
  rw [afterLast]
  dsimp only
  split
  · exact ⟨trivial, rfl⟩
  · rw [if_neg positive.ne']
    split
    · exact ⟨trivial, rfl⟩
    · rw [profile.fit_of_lt (by omega), Option.bind_some, profile.fit_of_lt (by omega)]
      refine ⟨⟨⟨read, bounded⟩, rfl, ?_⟩, rfl⟩
      omega

/-- A call adds no more tokens than it has claimed. -/
theorem Call.afterClaim_valid (profile : Profile) {limiter : RateLimiter}
    (amount : limiter.refillAmount = 1000) (intervals latest : Nat) :
    (afterClaim profile limiter intervals).Valid limiter latest ∧
      (afterClaim profile limiter intervals).pending ≤ intervals * 1000 := by
  rw [afterClaim, amount]
  cases gained : profile.fit (intervals * 1000) with
  | none => exact ⟨trivial, Nat.zero_le _⟩
  | some tokensToAdd =>
      dsimp only
      split
      · exact ⟨trivial, Nat.zero_le _⟩
      · exact ⟨trivial, Profile.le_of_fit gained⟩

/-- What a step does: it passes a number of refill intervals, and what it grants, adds to the
bucket and keeps was there before or comes from them. -/
structure Call.Passes (limiter : RateLimiter) (call : Call) (event : Event)
    (after : RateLimiter) (next : Call) (latest intervals : Nat) : Prop where
  frame : after = { limiter with lastRefill := after.lastRefill, tokens := after.tokens }
  refilled : after.lastRefill = limiter.lastRefill + intervals * limiter.refillNanos
  past : after.lastRefill ≤ max latest event.clock
  within : after.tokens ≤ limiter.capacity
  balance : 1000 * (if event = .answered true then 1 else 0) + after.tokens + next.pending ≤
    limiter.tokens + call.pending + 1000 * intervals
  valid : next.Valid limiter (max latest event.clock)

/-- A step which leaves the limiter as it is passes no interval. -/
theorem Call.Passes.unchanged {limiter : RateLimiter} {call next : Call} {event : Event}
    {latest : Nat} (within : limiter.tokens ≤ limiter.capacity)
    (past : limiter.lastRefill ≤ latest) (nothing : event ≠ .answered true)
    (keeps : next.pending ≤ call.pending) (valid : next.Valid limiter (max latest event.clock)) :
    Passes limiter call event limiter next latest 0 where
  frame := rfl
  refilled := by rw [Nat.zero_mul, Nat.add_zero]
  past := past.trans (Nat.le_max_left ..)
  within := within
  balance := by
    rw [if_neg nothing]
    omega
  valid := valid

/-- What every step of a call does. -/
theorem Call.step_spec {profile : Profile} {limiter after : RateLimiter} {call next : Call}
    {event : Event} {now : UInt64} {spurious : Bool} {latest : Nat}
    (moves : call.step profile limiter now spurious = some (after, next, event))
    (amount : limiter.refillAmount = 1000) (positive : 0 < limiter.refillNanos)
    (within : limiter.tokens ≤ limiter.capacity) (past : limiter.lastRefill ≤ latest)
    (valid : call.Valid limiter latest) :
    ∃ intervals, Passes limiter call event after next latest intervals := by
  cases call with
  | readClock =>
      cases moves
      refine ⟨0, .unchanged within past nofun le_rfl ?_⟩
      exact ⟨Nat.le_max_right .., now.toNat_lt⟩
  | loadLast now =>
      cases moves
      obtain ⟨still, none⟩ := afterLast_valid profile positive valid.1 valid.2 limiter.lastRefill
      exact ⟨0, .unchanged within past nofun none.le (still.mono (Nat.le_max_left ..) rfl rfl)⟩
  | claim now last intervals newLast =>
      obtain ⟨⟨read, bounded⟩, rfl, reached⟩ := valid
      rw [step] at moves
      split at moves
      case isTrue won =>
          cases moves
          obtain ⟨still, claimed⟩ := afterClaim_valid profile amount intervals latest
          refine ⟨intervals, rfl, ?_, reached.trans (Nat.le_max_left ..), within, ?_, ?_⟩
          · rw [won.1]
          · simp only [reduceCtorEq, if_false]
            omega
          · exact still.mono (Nat.le_max_left ..) rfl rfl
      case isFalse lost =>
          cases moves
          exact ⟨0, .unchanged within past nofun le_rfl
            ⟨read.trans (Nat.le_max_left ..), bounded⟩⟩
  | loadTokens tokensToAdd =>
      rw [step] at moves
      split at moves
      case isTrue full =>
          cases moves
          exact ⟨0, .unchanged within past nofun (Nat.zero_le _) trivial⟩
      case isFalse room =>
          cases moves
          exact ⟨0, .unchanged within past nofun le_rfl
            ⟨(Nat.min_le_left ..).trans (Nat.min_le_left ..), Nat.min_le_right ..⟩⟩
  | addTokens tokensToAdd current newTokens =>
      obtain ⟨gains, fits⟩ := valid
      rw [step] at moves
      split at moves
      case isTrue won =>
          cases moves
          refine ⟨0, rfl, ?_, past.trans (Nat.le_max_left ..), fits, ?_, trivial⟩
          · rw [Nat.zero_mul, Nat.add_zero]
          · simp only [reduceCtorEq, if_false, pending]
            omega
      case isFalse lost =>
          cases moves
          exact ⟨0, .unchanged within past nofun le_rfl trivial⟩
  | loadCurrent =>
      rw [step] at moves
      split at moves
      case isTrue few =>
          cases moves
          exact ⟨0, .unchanged within past nofun le_rfl trivial⟩
      case isFalse enough =>
          cases moves
          exact ⟨0, .unchanged within past nofun le_rfl (Nat.le_of_not_lt enough)⟩
  | takeToken current =>
      rw [Valid] at valid
      rw [step] at moves
      split at moves
      case isTrue won =>
          cases moves
          refine ⟨0, rfl, ?_, past.trans (Nat.le_max_left ..), ?_, ?_, trivial⟩
          · rw [Nat.zero_mul, Nat.add_zero]
          · dsimp only
            omega
          · simp only [if_true, pending]
            omega
      case isFalse lost =>
          cases moves
          exact ⟨0, .unchanged within past nofun le_rfl trivial⟩
  | returned acquired => cases moves
  | panicked => cases moves

/-- What every run keeps. Tokens which are claimed and not added yet count as created. -/
structure Callers.Kept (rate burst : Nat) (trace : List Event) (state : Callers) : Prop where
  capacity : state.limiter.capacity = saturate64 (burst * 1000)
  nanos : state.limiter.refillNanos = TokenBucket.refillNanosOf rate
  amount : state.limiter.refillAmount = 1000
  within : state.limiter.tokens ≤ state.limiter.capacity
  multiple : state.limiter.refillNanos ∣ state.limiter.lastRefill
  past : state.limiter.lastRefill ≤ latest trace
  balance : 1000 * grants trace + state.limiter.tokens + (state.calls.map Call.pending).sum ≤
    state.limiter.capacity + 1000 * (state.limiter.lastRefill / state.limiter.refillNanos)
  valid : ∀ call ∈ state.calls, call.Valid state.limiter (latest trace)

/-- A new limiter without calls. -/
theorem Callers.kept_new (rate burst start : Nat) :
    Kept rate burst [] ⟨new rate burst start, []⟩ where
  capacity := rfl
  nanos := rfl
  amount := rfl
  within := le_rfl
  multiple := Nat.dvd_zero _
  past := le_rfl
  balance := by simp [grants, new, TokenBucket.new]
  valid := nofun

/-- Every step keeps it. -/
theorem Callers.Kept.step {profile : Profile} {rate burst : Nat} {trace : List Event}
    {state after : Callers} {event : Event} (kept : Kept rate burst trace state)
    (usable : rate ≤ 1000000000) (transition : Step profile state event after) :
    Kept rate burst (trace ++ [event]) after := by
  cases transition with
  | call limiter calls =>
      obtain ⟨capacity, nanos, amount, within, multiple, past, balance, valid⟩ := kept
      refine ⟨capacity, nanos, amount, within, multiple, ?_, ?_, ?_⟩
      · rw [latest_snoc]
        exact past.trans (Nat.le_max_left ..)
      · rw [grants_snoc, if_neg nofun]
        simpa [Call.pending] using balance
      · rw [latest_snoc]
        refine List.forall_mem_append.mpr ⟨fun call member => ?_, ?_⟩
        · exact (valid call member).mono (Nat.le_max_left ..) rfl rfl
        · exact List.forall_mem_singleton.mpr trivial
  | @advance limiter after call next event front back now spurious moves =>
      have positive : 0 < limiter.refillNanos := by
        rw [kept.nanos]
        exact TokenBucket.refillNanosOf_pos usable
      obtain ⟨intervals, passes⟩ := Call.step_spec moves kept.amount positive kept.within kept.past
        (kept.valid call (by simp))
      have capacity : after.capacity = limiter.capacity := by rw [passes.frame]
      have nanos : after.refillNanos = limiter.refillNanos := by rw [passes.frame]
      have amount : after.refillAmount = limiter.refillAmount := by rw [passes.frame]
      refine ⟨capacity.trans kept.capacity, nanos.trans kept.nanos, amount.trans kept.amount,
        capacity ▸ passes.within, ?_, ?_, ?_, ?_⟩
      · rw [nanos, passes.refilled]
        exact Nat.dvd_add kept.multiple (Nat.dvd_mul_left ..)
      · rw [latest_snoc]
        exact passes.past
      · have balance := kept.balance
        have step := passes.balance
        rw [grants_snoc, nanos, passes.refilled, Nat.add_mul_div_right _ _ positive, capacity]
        simp only [List.map_append, List.map_cons, List.sum_append, List.sum_cons] at balance ⊢
        omega
      · rw [latest_snoc]
        refine forall_mem_replace kept.valid (fun other valid => ?_) ?_
        · exact valid.mono (Nat.le_max_left ..) capacity nanos
        · exact passes.valid.mono le_rfl capacity nanos

/-- Every run keeps it. -/
theorem Callers.kept_of_runs {profile : Profile} {rate burst start : Nat} {trace : List Event}
    {state : Callers} (usable : rate ≤ 1000000000)
    (run : (contended profile rate burst start).Runs trace state) :
    Kept rate burst trace state := by
  refine System.Runs.history (Kept rate burst) ?_ ?_ run
  · rintro _ rfl
    exact kept_new rate burst start
  · intro _ _ _ _ _ kept transition
    exact kept.step usable transition

/-! ### With a rate which leaves no time between refills -/

/-- What a call is doing which has not refilled the bucket. -/
def Call.Unserved : Call → Prop
  | .readClock | .loadLast _ | .panicked => True
  | _ => False

/-- If there is no time between refills, a step changes nothing and gives nothing. -/
theorem Call.Unserved.step {profile : Profile} {limiter after : RateLimiter} {call next : Call}
    {event : Event} {now : UInt64} {spurious : Bool} (unserved : call.Unserved)
    (moves : call.step profile limiter now spurious = some (after, next, event))
    (nanos : limiter.refillNanos = 0) :
    after = limiter ∧ next.Unserved ∧ event ≠ .answered true := by
  cases call with
  | readClock =>
      cases moves
      exact ⟨rfl, trivial, nofun⟩
  | loadLast now =>
      cases moves
      -- No time is shorter than none, so the refill goes on to divide by it.
      have panics : afterLast profile limiter now limiter.lastRefill = .panicked := by
        simp [afterLast, nanos]
      rw [panics]
      exact ⟨rfl, trivial, nofun⟩
  | panicked => cases moves
  | claim | loadTokens | addTokens | loadCurrent | takeToken | returned => exact unserved.elim

/-- At more than one message a nanosecond no call gets a token. -/
theorem grants_eq_zero {profile : Profile} {rate burst start : Nat} {trace : List Event}
    {state : Callers} (fast : 1000000000 < rate)
    (run : (contended profile rate burst start).Runs trace state) : grants trace = 0 := by
  suffices kept : state.limiter.refillNanos = 0 ∧ (∀ call ∈ state.calls, call.Unserved) ∧
      grants trace = 0 from kept.2.2
  refine System.Runs.history (fun trace (state : Callers) => state.limiter.refillNanos = 0 ∧
    (∀ call ∈ state.calls, call.Unserved) ∧ grants trace = 0) ?_ ?_ run
  · rintro _ rfl
    exact ⟨TokenBucket.refillNanosOf_eq_zero fast, nofun, rfl⟩
  · rintro trace state event next - ⟨nanos, unserved, none⟩ transition
    cases transition with
    | call limiter calls =>
        refine ⟨nanos, ?_, ?_⟩
        · exact List.forall_mem_append.mpr ⟨unserved, List.forall_mem_singleton.mpr trivial⟩
        · rw [grants_snoc, none, if_neg nofun]
    | @advance limiter after call next event front back now spurious moves =>
        obtain ⟨rfl, still, nothing⟩ := (unserved call (by simp)).step moves nanos
        refine ⟨nanos, forall_mem_replace unserved (fun _ => id) still, ?_⟩
        rw [grants_snoc, none, if_neg nothing]

/-! ### Without a rate -/

/-- What is true of a call if no interval ever passes. -/
def Call.Idle : Call → Prop
  | .loadLast now => now < 2 ^ 64 - 1
  | .claim .. | .loadTokens _ | .addTokens .. => False
  | .takeToken current => 1000 ≤ current
  | _ => True

/-- If no interval passes, a step only takes tokens, and denies only if there is none. -/
theorem Call.Idle.step {profile : Profile} {limiter after : RateLimiter} {call next : Call}
    {event : Event} {now : UInt64} {spurious : Bool} (idle : call.Idle)
    (moves : call.step profile limiter now spurious = some (after, next, event))
    (nanos : limiter.refillNanos = 2 ^ 64 - 1) (last : limiter.lastRefill = 0)
    (early : event.clock < 2 ^ 64 - 1) :
    after = { limiter with tokens := after.tokens } ∧ next.Idle ∧
      after.tokens + 1000 * (if event = .answered true then 1 else 0) = limiter.tokens ∧
      (event = .answered false → limiter.tokens < 1000) := by
  cases call with
  | readClock =>
      cases moves
      exact ⟨rfl, early, rfl, nofun⟩
  | loadLast now =>
      cases moves
      have still : afterLast profile limiter now limiter.lastRefill = .loadCurrent := by
        rw [afterLast, last, nanos]
        exact if_pos idle
      rw [still]
      exact ⟨rfl, trivial, rfl, nofun⟩
  | claim now last intervals newLast => exact idle.elim
  | loadTokens tokensToAdd => exact idle.elim
  | addTokens tokensToAdd current newTokens => exact idle.elim
  | loadCurrent =>
      rw [Call.step] at moves
      split at moves
      case isTrue few =>
          cases moves
          exact ⟨rfl, trivial, rfl, fun _ => few⟩
      case isFalse enough =>
          cases moves
          exact ⟨rfl, Nat.le_of_not_lt enough, rfl, nofun⟩
  | takeToken current =>
      rw [Call.step] at moves
      split at moves
      case isTrue won =>
          cases moves
          refine ⟨rfl, trivial, ?_, nofun⟩
          rw [won.1]
          exact Nat.sub_add_cancel idle
      case isFalse lost =>
          cases moves
          exact ⟨rfl, trivial, rfl, nofun⟩
  | returned acquired => cases moves
  | panicked => cases moves

/-- What a run keeps in which no interval passes: a token is in the bucket, or a call has
taken it. -/
structure Callers.Draining (burst : Nat) (trace : List Event) (state : Callers) : Prop where
  nanos : state.limiter.refillNanos = 2 ^ 64 - 1
  last : state.limiter.lastRefill = 0
  balance : state.limiter.tokens + 1000 * grants trace = burst * 1000
  idle : ∀ call ∈ state.calls, call.Idle

/-- Every step which reads a time keeps it, unless that is the last time of all. -/
theorem Callers.Draining.step {profile : Profile} {burst : Nat} {trace : List Event}
    {state after : Callers} {event : Event} (draining : Draining burst trace state)
    (transition : Step profile state event after) (early : event.clock < 2 ^ 64 - 1) :
    Draining burst (trace ++ [event]) after ∧
      (event = .answered false → burst ≤ grants trace) := by
  obtain ⟨nanos, last, balance, idle⟩ := draining
  cases transition with
  | call limiter calls =>
      refine ⟨⟨nanos, last, ?_, ?_⟩, nofun⟩
      · rw [grants_snoc, if_neg nofun]
        exact balance
      · exact List.forall_mem_append.mpr ⟨idle, List.forall_mem_singleton.mpr trivial⟩
  | @advance limiter after call next event front back now spurious moves =>
      obtain ⟨frame, still, taken, denied⟩ := (idle call (by simp)).step moves nanos last early
      refine ⟨⟨?_, ?_, ?_, ?_⟩, ?_⟩
      · rw [frame]
        exact nanos
      · rw [frame]
        exact last
      · rw [grants_snoc]
        dsimp only at balance ⊢
        omega
      · exact forall_mem_replace idle (fun _ => id) still
      · intro answered
        have few := denied answered
        dsimp only at balance
        omega

/-- No call reads the last time of all. -/
def Early (trace : List Event) : Prop := ∀ event ∈ trace, event.clock < 2 ^ 64 - 1

instance (trace : List Event) : Decidable (Early trace) :=
  inferInstanceAs (Decidable (∀ event ∈ trace, _))

/-- Without a rate every run keeps it. -/
theorem Callers.draining_of_runs {profile : Profile} {burst start : Nat} {trace : List Event}
    {state : Callers} (burstFits : burst * 1000 < 2 ^ 64)
    (run : (contended profile 0 burst start).Runs trace state) (early : Early trace) :
    Draining burst trace state := by
  refine System.Runs.history (fun trace state => Early trace → Draining burst trace state) ?_ ?_
    run early
  · rintro _ rfl -
    exact ⟨rfl, rfl, Nat.min_eq_left (Nat.le_sub_one_of_lt burstFits), nofun⟩
  · intro trace state event next _ kept transition early
    have before : Early trace := fun event member => early event (List.mem_append_left _ member)
    exact ((kept before).step transition (early event (by simp))).1

/-- However the steps of its calls interleave, a limiter gives no more tokens than it held at
first and its refill intervals bring. Without a rate that is its burst, and no call is
denied before it is used up. -/
theorem no_token_created (profile : Profile) (burst start : Nat) :
    (∀ rate ≤ 1000000000, ∀ trace state,
      (contended profile rate burst start).Runs trace state →
        state.limiter.capacity = saturate64 (burst * 1000) ∧
        state.limiter.refillNanos = TokenBucket.refillNanosOf rate ∧
        state.limiter.tokens ≤ state.limiter.capacity ∧
        state.limiter.refillNanos ∣ state.limiter.lastRefill ∧
        state.limiter.lastRefill ≤ latest trace ∧
        1000 * grants trace + state.limiter.tokens ≤ state.limiter.capacity +
          1000 * (state.limiter.lastRefill / state.limiter.refillNanos)) ∧
    (burst * 1000 < 2 ^ 64 → ∀ trace state,
      (contended profile 0 burst start).Runs trace state → Early trace →
        grants trace ≤ burst ∧ ∀ before after, trace = before ++ .answered false :: after →
          burst ≤ grants before) := by
  constructor
  · intro rate usable trace state run
    obtain ⟨capacity, nanos, -, within, multiple, past, balance, -⟩ :=
      Callers.kept_of_runs usable run
    exact ⟨capacity, nanos, within, multiple, past, by omega⟩
  · intro burstFits trace state run early
    constructor
    · have balance := (Callers.draining_of_runs burstFits run early).balance
      omega
    · intro before after split
      have denials := System.Runs.each
        (fun before event => Early before → event = .answered false → burst ≤ grants before)
        (fun {trace state event next} prior transition early denied => by
          subst denied
          exact ((Callers.draining_of_runs burstFits prior early).step transition
            (by decide)).2 rfl) run split
      exact denials (fun event member => early event (by simp [split, member])) rfl

/-- One call takes the only token, and another is denied. -/
private theorem drained_run : (contended .release 0 1 0).Runs
    [.called, .read 5, .worked, .called, .worked, .answered true, .read 4, .worked,
      .answered false]
    ⟨{ new 0 1 0 with tokens := 0 }, [.returned true, .returned false]⟩ := by
  have initial : (contended .release 0 1 0).Runs [] ⟨new 0 1 0, []⟩ := .initial rfl
  have first : Call.step .release (new 0 1 0) 0 false (.loadLast 5) =
      some (new 0 1 0, .loadCurrent, .worked) := by decide +kernel
  have second : Call.step .release { new 0 1 0 with tokens := 0 } 0 false (.loadLast 4) =
      some ({ new 0 1 0 with tokens := 0 }, .loadCurrent, .worked) := by decide +kernel
  exact ((((((((initial.snoc (.call ..)).snoc (.advance [] [] 5 false rfl)).snoc
    (.advance [] [] 0 false first)).snoc (.call ..)).snoc (.advance [] [_] 0 false rfl)).snoc
    (.advance [] [_] 0 false rfl)).snoc (.advance [_] [] 4 false rfl)).snoc
    (.advance [_] [] 0 false second)).snoc (.advance [_] [] 0 false rfl)

/-- That run gives the token which was there. -/
theorem no_token_created_drained :
    1000 * grants [.called, .read 5, .worked, .called, .worked, .answered true, .read 4,
        .worked, .answered false] + 0 ≤ 1000 + 1000 * (0 / (2 ^ 64 - 1)) ∧
      1 ≤ grants [.called, .read 5, .worked, .called, .worked, .answered true, .read 4,
        .worked] := by
  obtain ⟨contended, drained⟩ := no_token_created .release 1 0
  obtain ⟨-, -, -, -, -, created⟩ := contended 0 (by decide) _ _ drained_run
  exact ⟨created, (drained (by decide) _ _ drained_run (by decide)).2 _ [] rfl⟩

end RateLimiter

end Polku
