import Polku.Middleware.Alike

/-!
# Duplicates

Stages which leave ids as they are do not bring back a duplicate which a deduplicator before
them has withheld. What passes a deduplicator is told by the times its calls read: of two
messages with one id the later one comes after the time to live, and what does not pass is a
duplicate.
-/

namespace Polku

open Data

/-- Whatever passes a middleware has the id it had before. -/
def Middleware.KeepsId (self : Middleware) : Prop :=
  ∀ state msg result, (self.process state msg).1 = some result → result.id = msg.id

/-- It still does so after a message. -/
theorem Middleware.KeepsId.step {self : Middleware} (keeps : self.KeepsId) (msg : Message) :
    (self.step msg).2.KeepsId := keeps

/-- A message which passes as it is has its id. -/
private theorem id_of_passed {passes : Prop} [Decidable passes] {msg result : Message}
    (passed : (if passes then some msg else none) = some result) : result.id = msg.id := by
  split at passed
  · obtain rfl := Option.some.inj passed
    rfl
  · cases passed

/-- Filters leave ids as they are. -/
theorem Stage.keepsId_filter (self : Filter) : (Stage.filter self).middleware.KeepsId :=
  fun _ _ _ passed => id_of_passed passed

/-- So do samplers. -/
theorem Sampler.keepsId (self : Sampler) : self.middleware.KeepsId :=
  fun _ _ _ passed => id_of_passed passed

/-- So do deduplicators. -/
theorem Deduplicator.keepsId (self : Deduplicator) (times : Nat → Nat) (calls : Nat) :
    (self.middleware times calls).KeepsId :=
  fun _ _ _ passed => id_of_passed passed

/-- So do routers, which change routes. -/
theorem Stage.keepsId_router (self : Router) : (Stage.router self).middleware.KeepsId := by
  intro state msg result passed
  simp only [middleware, Router.process] at passed
  split at passed <;> obtain rfl := Option.some.inj passed <;> rfl

/-- So do enrichers, which change metadata. -/
theorem Enricher.keepsId (self : Enricher) : self.middleware.KeepsId := by
  intro state msg result passed
  obtain rfl := Option.some.inj passed
  rfl

/-- So do validators, whether they drop or tag. -/
theorem Validator.keepsId (self : Validator) : self.middleware.KeepsId := by
  intro state msg result passed
  simp only [middleware, process] at passed
  split at passed
  · obtain rfl := Option.some.inj passed
    rfl
  · split at passed
    · cases passed
    · obtain rfl := Option.some.inj passed
      rfl

namespace MiddlewareChain

/-- What passes such stages has the id it had, and they are still such stages. -/
theorem processAll_keepsId {middlewares : List Middleware}
    (keep : ∀ mw ∈ middlewares, mw.KeepsId) (msg : Message) :
    (∀ result, (processAll middlewares msg).1 = some result → result.id = msg.id) ∧
      ∀ mw ∈ (processAll middlewares msg).2, mw.KeepsId := by
  induction middlewares generalizing msg with
  | nil => exact ⟨fun result passed => (Option.some.inj passed) ▸ rfl, keep⟩
  | cons mw middlewares inductionHypothesis =>
      obtain ⟨first, others⟩ := List.forall_mem_cons.mp keep
      have kept := first mw.state msg
      have next : (mw.step msg).2.KeepsId := first.step msg
      simp only [processAll]
      rcases answer : mw.step msg with ⟨_ | passed, after⟩
      · rw [answer] at next
        exact ⟨by simp, List.forall_mem_cons.mpr ⟨next, others⟩⟩
      · rw [answer] at next
        obtain ⟨sameId, still⟩ := inductionHypothesis others passed
        have same : passed.id = msg.id := kept passed (congrArg Prod.fst answer)
        exact ⟨fun result survived => (sameId result survived).trans same,
          List.forall_mem_cons.mpr ⟨next, still⟩⟩

/-- The ids of what survives such stages are among those of the messages, in order. -/
theorem survivors_ids_sublist {middlewares : List Middleware}
    (keep : ∀ mw ∈ middlewares, mw.KeepsId) (messages : List Message) :
    (((⟨middlewares⟩ : MiddlewareChain).survivors messages).map Message.id).Sublist
      (messages.map Message.id) := by
  induction messages generalizing middlewares with
  | nil => exact .slnil
  | cons msg messages inductionHypothesis =>
      obtain ⟨sameId, still⟩ := processAll_keepsId keep msg
      have rest := inductionHypothesis still
      rw [survivors_cons, List.map_append, List.map_cons]
      simp only [process]
      cases answer : (processAll middlewares msg).1 with
      | none => exact rest.cons _
      | some result =>
          rw [Option.toList_some, List.map_singleton, sameId result answer]
          exact rest.cons_cons _

end MiddlewareChain

namespace Deduplicator

/-- What the calls of a deduplicator read, one after another, starting with number `calls`. -/
def reads (times : Nat → Nat) (calls : Nat) : List Message → List (Nat × String)
  | [] => []
  | msg :: messages => (times calls, msg.id) :: reads times (calls + 1) messages

/-- If two calls have one id, the earlier one has expired when the later one comes. -/
def Expired (ttl : Nat) (earlier later : Nat × String) : Prop :=
  earlier.2 = later.2 → ttl ≤ later.1 - earlier.1

/-- The later of two calls is a duplicate of the earlier one. -/
def Duplicates (ttl : Nat) (earlier later : Nat × String) : Prop :=
  earlier.2 = later.2 ∧ earlier.1 ≤ later.1 ∧ later.1 - earlier.1 < ttl

/-- Which calls pass, when some have passed before. -/
structure Passes (ttl : Nat) (admitted calls passes : List (Nat × String)) : Prop where
  among : passes.Sublist calls
  expired : passes.Pairwise (Expired ttl)
  expiredBefore : ∀ earlier ∈ admitted, ∀ pass ∈ passes, Expired ttl earlier pass
  /-- A call which does not pass is a duplicate of one which has. -/
  others : ∀ call ∈ calls, call ∈ passes ∨
    ∃ earlier, (earlier ∈ admitted ∨ earlier ∈ passes) ∧ Duplicates ttl earlier call

variable {ttl : Nat} {admitted calls passes : List (Nat × String)} {call : Nat × String}

/-- A duplicate does not pass. -/
theorem Passes.withhold (later : Passes ttl admitted calls passes) {earlier : Nat × String}
    (before : earlier ∈ admitted) (duplicates : Duplicates ttl earlier call) :
    Passes ttl admitted (call :: calls) passes where
  among := later.among.cons call
  expired := later.expired
  expiredBefore := later.expiredBefore
  others := List.forall_mem_cons.mpr ⟨.inr ⟨earlier, .inl before, duplicates⟩, later.others⟩

/-- A call passes if those before it have expired. -/
theorem Passes.pass (later : Passes ttl (call :: admitted) calls passes)
    (expired : ∀ earlier ∈ admitted, Expired ttl earlier call) :
    Passes ttl admitted (call :: calls) (call :: passes) where
  among := later.among.cons_cons call
  expired := List.pairwise_cons.mpr
    ⟨later.expiredBefore call List.mem_cons_self, later.expired⟩
  expiredBefore earlier member := List.forall_mem_cons.mpr
    ⟨expired earlier member, later.expiredBefore earlier (List.mem_cons_of_mem call member)⟩
  others := by
    refine List.forall_mem_cons.mpr ⟨.inl List.mem_cons_self, fun other member => ?_⟩
    rcases later.others other member with passed | ⟨earlier, before | passed, duplicates⟩
    · exact .inl (List.mem_cons_of_mem call passed)
    · rcases List.mem_cons.mp before with rfl | old
      · exact .inr ⟨earlier, .inr List.mem_cons_self, duplicates⟩
      · exact .inr ⟨earlier, .inl old, duplicates⟩
    · exact .inr ⟨earlier, .inr (List.mem_cons_of_mem call passed), duplicates⟩

/-- What survives a deduplicator are the messages whose calls pass. -/
theorem survivors_passes {self : Deduplicator} {times : Nat → Nat} (clock : Monotone times)
    {number now : Nat} (remembers : Window.Remembers self.ttl admitted now self.seen)
    (past : now ≤ times number) (messages : List Message) :
    ∃ passes, Passes self.ttl admitted (reads times number messages) passes ∧
      passes.map Prod.snd =
        ((⟨[self.middleware times number]⟩ : MiddlewareChain).survivors messages).map
          Message.id := by
  induction messages generalizing self number now admitted with
  | nil => exact ⟨[], ⟨.slnil, .nil, by simp, by simp [reads]⟩, rfl⟩
  | cons msg messages inductionHypothesis =>
      have here := remembers.later past
      obtain ⟨answer, ttl, remembered⟩ := check_spec here msg.id
      rw [← ttl] at remembered
      obtain ⟨passes, later, ids⟩ :=
        inductionHypothesis remembered (clock (Nat.le_succ number))
      rw [ttl] at later
      have step : (self.middleware times number).step msg =
          (if Window.fresh self.ttl admitted (times number) msg.id then some msg else none,
            (self.check (times number) msg.id).2.middleware times (number + 1)) := by
        rw [← answer]
        rfl
      rw [MiddlewareChain.survivors_cons, MiddlewareChain.process_singleton, step]
      cases fresh : Window.fresh self.ttl admitted (times number) msg.id with
      | false =>
          have stale : ¬ ∀ earlier, (earlier, msg.id) ∈ admitted →
              self.ttl ≤ times number - earlier := by
            rw [← Window.fresh_iff, fresh]
            exact Bool.false_ne_true
          obtain ⟨earlier, member, within⟩ : ∃ earlier, (earlier, msg.id) ∈ admitted ∧
              times number - earlier < self.ttl := by
            simpa using stale
          rw [fresh] at later
          exact ⟨passes, later.withhold member ⟨rfl, here.past _ member, within⟩, ids⟩
      | true =>
          rw [fresh] at later
          refine ⟨(times number, msg.id) :: passes, later.pass ?_, congrArg (msg.id :: ·) ids⟩
          rintro ⟨time, id⟩ member rfl
          exact Window.fresh_iff.mp fresh time member

end Deduplicator

end Polku
