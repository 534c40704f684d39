import Polku.Data.HashMap

/-!
# Windows of time

Of the calls which come under a key, one is admitted, and then no other until a span of
time has passed. A map of the time at which each key was last admitted decides as the
whole history does, and it may forget what is older than the span.
-/

namespace Polku.Data.Window

universe u

variable {Key : Type u} [DecidableEq Key]

/-- Whether nothing has been admitted under a key for a span of time. -/
def fresh (span : Nat) (admitted : List (Nat × Key)) (time : Nat) (key : Key) : Bool :=
  admitted.all fun entry => entry.2 ≠ key ∨ span ≤ time - entry.1

/-- Which calls are admitted, after those which have been. -/
def admits (span : Nat) (admitted : List (Nat × Key)) : List (Nat × Key) → List Bool
  | [] => []
  | (time, key) :: calls =>
      let answer := fresh span admitted time key
      answer :: admits span (if answer then (time, key) :: admitted else admitted) calls

theorem fresh_iff {span : Nat} {admitted : List (Nat × Key)} {time : Nat} {key : Key} :
    fresh span admitted time key = true ↔
      ∀ earlier, (earlier, key) ∈ admitted → span ≤ time - earlier := by
  simp only [fresh, List.all_eq_true, decide_eq_true_eq]
  constructor
  · intro all earlier member
    exact (all _ member).resolve_left (not_not_intro rfl)
  · rintro all ⟨earlier, other⟩ member
    by_cases same : other = key
    · subst same
      exact Or.inr (all earlier member)
    · exact Or.inl same

/-- Every call has an answer. -/
theorem length_admits (span : Nat) (admitted calls : List (Nat × Key)) :
    (admits span admitted calls).length = calls.length := by
  induction calls generalizing admitted with
  | nil => rfl
  | cons call calls inductionHypothesis => exact congrArg (· + 1) (inductionHypothesis _)

/-- A call is admitted unless one under its key has been which is within the span. -/
theorem getElem?_admits (span : Nat) (calls admitted : List (Nat × Key)) {place time : Nat}
    {key : Key} (called : calls[place]? = some (time, key)) :
    (admits span admitted calls)[place]? = some true ↔
      (∀ earlier, (earlier, key) ∈ admitted → span ≤ time - earlier) ∧
      ∀ before < place, ∀ earlier, calls[before]? = some (earlier, key) →
        (admits span admitted calls)[before]? = some true → span ≤ time - earlier := by
  induction calls generalizing admitted place with
  | nil => cases called
  | cons call calls inductionHypothesis =>
      obtain ⟨first, firstKey⟩ := call
      cases place with
      | zero =>
          obtain ⟨rfl, rfl⟩ := Prod.mk.inj (Option.some.inj called)
          simp [admits, fresh_iff]
      | succ place =>
          have rest := @inductionHypothesis
            (if fresh span admitted first firstKey then (first, firstKey) :: admitted
              else admitted) place called
          rw [admits, List.getElem?_cons_succ, rest]
          constructor
          · rintro ⟨within, later⟩
            refine ⟨fun earlier member => within earlier ?_, fun before under earlier => ?_⟩
            · split
              · exact List.mem_cons_of_mem _ member
              · exact member
            · cases before with
              | zero =>
                  intro same admittedFirst
                  obtain ⟨rfl, rfl⟩ := Prod.mk.inj (Option.some.inj same)
                  refine within first ?_
                  rw [if_pos (Option.some.inj admittedFirst)]
                  exact List.mem_cons_self
              | succ before => exact later before (Nat.lt_of_succ_lt_succ under) earlier
          · rintro ⟨within, later⟩
            refine ⟨fun earlier member => ?_, fun before under earlier =>
              later (before + 1) (Nat.succ_lt_succ under) earlier⟩
            split at member
            case isTrue admittedFirst =>
                rcases List.mem_cons.mp member with same | old
                · obtain ⟨rfl, rfl⟩ := Prod.mk.inj same
                  exact later 0 (Nat.succ_pos _) earlier rfl (congrArg some admittedFirst)
                · exact within earlier old
            case isFalse => exact within earlier member

/-! ### A map which forgets -/

/-- The last admitted time of a key is what a map has for it, unless the map has forgotten
a time which is older than the span. -/
structure Remembers (span : Nat) (admitted : List (Nat × Key)) (now : Nat)
    (last : HashMap Key Nat) : Prop where
  past : ∀ entry ∈ admitted, entry.1 ≤ now
  held : ∀ key time, last.lookup key = some time → (time, key) ∈ admitted
  recent : ∀ key earlier, (earlier, key) ∈ admitted → now - earlier < span →
    ∃ time, last.lookup key = some time ∧ earlier ≤ time

variable {span now : Nat} {admitted : List (Nat × Key)} {last : HashMap Key Nat}

/-- An empty map remembers that nothing has been admitted. -/
theorem remembers_empty (span now : Nat) : Remembers span [] now (∅ : HashMap Key Nat) where
  past := nofun
  held key time held := by cases (Finmap.lookup_empty key).symm.trans held
  recent := nofun

/-- Time passes. -/
theorem Remembers.later (remembers : Remembers span admitted now last) {time : Nat}
    (later : now ≤ time) : Remembers span admitted time last where
  past entry member := (remembers.past entry member).trans later
  held := remembers.held
  recent key earlier member within := remembers.recent key earlier member (by omega)

/-- What is older than the span may be forgotten. -/
theorem Remembers.retain (remembers : Remembers span admitted now last) :
    Remembers span admitted now (last.retain fun _ time => now - time < span) where
  past := remembers.past
  held key time held := by
    rw [HashMap.lookup_retain, Option.filter_eq_some_iff] at held
    exact remembers.held key time held.1
  recent key earlier member within := by
    obtain ⟨time, held, order⟩ := remembers.recent key earlier member within
    have still : now - time < span := by omega
    exact ⟨time, by simp [held, still], order⟩

/-- The map tells whether a key is fresh. -/
theorem Remembers.fresh_eq (remembers : Remembers span admitted now last) (key : Key) :
    fresh span admitted now key = (last.lookup key).all fun time => span ≤ now - time := by
  rw [Bool.eq_iff_iff, fresh_iff, Option.all_eq_true]
  simp only [decide_eq_true_eq]
  constructor
  · exact fun old time held => old time (remembers.held key time held)
  · intro old earlier member
    by_contra within
    obtain ⟨time, held, order⟩ := remembers.recent key earlier member (by omega)
    have := old time held
    omega

/-- A key is admitted. -/
theorem Remembers.insert (remembers : Remembers span admitted now last) (key : Key) :
    Remembers span ((now, key) :: admitted) now (last.insert key now) where
  past entry member := by
    rcases List.mem_cons.mp member with rfl | old
    · exact le_rfl
    · exact remembers.past entry old
  held other time held := by
    by_cases same : other = key
    · subst same
      rw [Finmap.lookup_insert] at held
      cases held
      exact List.mem_cons_self
    · rw [Finmap.lookup_insert_of_ne _ same] at held
      exact List.mem_cons_of_mem _ (remembers.held other time held)
  recent other earlier member within := by
    by_cases same : other = key
    · subst same
      refine ⟨now, Finmap.lookup_insert _, ?_⟩
      rcases List.mem_cons.mp member with new | old
      · exact (Prod.mk.inj new).1.le
      · exact remembers.past _ old
    · rw [Finmap.lookup_insert_of_ne _ same]
      refine remembers.recent other earlier ((List.mem_cons.mp member).resolve_left ?_) within
      exact fun new => same (Prod.mk.inj new).2

end Polku.Data.Window
