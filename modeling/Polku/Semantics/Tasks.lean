import Mathlib.Algebra.Ring.Nat
import Polku.Semantics.Execution

/-!
# Tasks over a shared state

Any number of tasks start one after another, and any one of them may take the next step.
A task has a state of its own, which only its own steps change, and all of them share one.

So what the steps of one task keep holds of its own history, whatever the others do, and
what every step balances holds of the sums over all tasks.
-/

namespace Polku.Semantics

universe u v w

/-- Tasks of one kind: how they start, and what steps they take on the shared state. -/
structure Tasks (Shared : Type u) (Task : Type v) (Event : Type w) where
  Start : Task → Prop
  Step : Shared → Task → Event → Shared → Task → Prop

namespace Tasks

variable {Shared : Type u} {Task : Type v} {Event : Type w}

/-- The shared state, and the tasks in the order in which they have started. -/
structure Pool (Shared : Type u) (Task : Type v) where
  shared : Shared
  tasks : List Task

/-- A task starts, or the one at some place takes a step. -/
inductive Label (Event : Type w) where
  | started
  | did (place : Nat) (event : Event)

/-- The event of a step, if a task takes it. -/
def Label.event? : Label Event → Option Event
  | started => none
  | did _ event => some event

/-- The event of a step, if the task at some place takes it. -/
def Label.eventOf? (place : Nat) : Label Event → Option Event
  | started => none
  | did other event => if other = place then some event else none

/-- The events of a history. -/
def events (trace : List (Label Event)) : List Event := trace.filterMap Label.event?

/-- The events of the task at some place. -/
def own (place : Nat) (trace : List (Label Event)) : List Event :=
  trace.filterMap (Label.eventOf? place)

/-- Steps of the tasks together. -/
inductive PoolStep (kind : Tasks Shared Task Event) :
    Pool Shared Task → Label Event → Pool Shared Task → Prop where
  | start {shared tasks task} (starts : kind.Start task) :
      PoolStep kind ⟨shared, tasks⟩ .started ⟨shared, tasks ++ [task]⟩
  | did (place : Nat) {shared tasks task event shared' task'}
      (isTask : tasks[place]? = some task) (step : kind.Step shared task event shared' task') :
      PoolStep kind ⟨shared, tasks⟩ (.did place event) ⟨shared', tasks.set place task'⟩

/-- Tasks on a shared state, none of which has started. -/
def system (kind : Tasks Shared Task Event) (shared : Shared) : System (Label Event) where
  State := Pool Shared Task
  Initial := fun pool => pool = ⟨shared, []⟩
  Step := kind.PoolStep

/-- The events of one more step. -/
theorem own_snoc (place : Nat) (trace : List (Label Event)) (label : Label Event) :
    own place (trace ++ [label]) = own place trace ++ (label.eventOf? place).toList := by
  rw [own, List.filterMap_append]
  cases occurs : label.eventOf? place <;> simp [own, occurs]

/-- The events of all tasks after one more step. -/
theorem events_snoc (trace : List (Label Event)) (label : Label Event) :
    events (trace ++ [label]) = events trace ++ label.event?.toList := by
  rw [events, List.filterMap_append]
  cases occurs : label.event? <;> simp [events, occurs]

variable {kind : Tasks Shared Task Event} {initial : Shared} {trace : List (Label Event)}
  {pool : Pool Shared Task}

/-- The event of a step, if a task at one of some places takes it. -/
def Label.eventAmong? (places : List Nat) : Label Event → Option Event
  | started => none
  | did place event => if place ∈ places then some event else none

/-- The events of the tasks at some places, in the order in which they happen. -/
def among (places : List Nat) (trace : List (Label Event)) : List Event :=
  trace.filterMap (Label.eventAmong? places)

/-- The events of one task and of several others are those of each, in some order. -/
private theorem among_cons_perm {first : Nat} {rest : List Nat} (notInRest : first ∉ rest)
    (trace : List (Label Event)) :
    (among (first :: rest) trace).Perm (own first trace ++ among rest trace) := by
  induction trace with
  | nil => exact .nil
  | cons label trace apart =>
      rcases label with _ | ⟨place, event⟩
      · exact apart
      · rcases eq_or_ne place first with rfl | other
        · simpa [among, own, Label.eventAmong?, Label.eventOf?, notInRest] using apart
        · by_cases inRest : place ∈ rest
          · simpa [among, own, Label.eventAmong?, Label.eventOf?, other, inRest] using
              (apart.cons event).trans List.perm_middle.symm
          · simpa [among, own, Label.eventAmong?, Label.eventOf?, other, inRest] using apart

/-- The events of several tasks are those of each, in some order. -/
theorem among_perm {places : List Nat} (distinct : places.Nodup) (trace : List (Label Event)) :
    (among places trace).Perm (places.flatMap fun place => own place trace) := by
  induction places with
  | nil =>
      have none : among [] trace = [] := by
        rw [among, List.filterMap_eq_nil_iff]
        rintro (_ | ⟨place, event⟩) - <;> simp [Label.eventAmong?]
      rw [none]
      exact .nil
  | cons first rest inductionHypothesis =>
      obtain ⟨notInRest, restDistinct⟩ := List.nodup_cons.mp distinct
      rw [List.flatMap_cons]
      exact (among_cons_perm notInRest trace).trans
        ((inductionHypothesis restDistinct).append_left _)

/-- What holds of the shared state at first, and which each step of a task carries on with
its event. -/
theorem shared_history (property : List Event → Shared → Prop) (holds : property [] initial)
    (kept : ∀ history shared task event shared' task', property history shared →
      kind.Step shared task event shared' task' → property (history ++ [event]) shared')
    (run : (kind.system initial).Runs trace pool) : property (events trace) pool.shared := by
  apply run.history fun trace (pool : Pool Shared Task) => property (events trace) pool.shared
  case initial =>
      rintro _ rfl
      exact holds
  case preserved =>
      intro trace before label after _ invariant step
      rw [events_snoc]
      cases step with
      | start starts => simpa [Label.event?] using invariant
      | did _ isTask step => exact kept _ _ _ _ _ _ invariant step

/-- The task at some place stands between others, and so does whatever is put there. -/
theorem exists_split {tasks : List Task} {place : Nat} {task : Task}
    (isTask : tasks[place]? = some task) : ∃ front back, tasks = front ++ task :: back ∧
      ∀ task', tasks.set place task' = front ++ task' :: back := by
  obtain ⟨inList, rfl⟩ := List.getElem?_eq_some_iff.mp isTask
  refine ⟨tasks.take place, tasks.drop (place + 1), ?_, ?_⟩
  · rw [List.getElem_cons_drop, List.take_append_drop]
  · intro task'
    rw [List.set_eq_take_append_cons_drop, if_pos inList]

/-- What holds of the shared state and all tasks at first, and which each step of a task among
others carries on with its event. -/
theorem pool_history (property : List Event → Shared → List Task → Prop)
    (holds : property [] initial [])
    (starts : ∀ history shared tasks task, property history shared tasks → kind.Start task →
      property history shared (tasks ++ [task]))
    (steps : ∀ history shared front task back event shared' task',
      property history shared (front ++ task :: back) →
        kind.Step shared task event shared' task' →
          property (history ++ [event]) shared' (front ++ task' :: back))
    (run : (kind.system initial).Runs trace pool) :
    property (events trace) pool.shared pool.tasks := by
  apply run.history fun trace (pool : Pool Shared Task) =>
    property (events trace) pool.shared pool.tasks
  case initial =>
      rintro _ rfl
      exact holds
  case preserved =>
      intro trace before label after _ invariant step
      rw [events_snoc]
      cases step with
      | start new => simpa [Label.event?] using starts _ _ _ _ invariant new
      | did place isTask step =>
          obtain ⟨front, back, rfl, replaced⟩ := exists_split isTask
          rw [replaced]
          exact steps _ _ _ _ _ _ _ _ invariant step

/-- A task which has not started has done nothing. -/
theorem own_of_length_le (run : (kind.system initial).Runs trace pool) {place : Nat}
    (notStarted : pool.tasks.length ≤ place) : own place trace = [] := by
  revert notStarted
  apply run.history fun trace (pool : Pool Shared Task) =>
    pool.tasks.length ≤ place → own place trace = []
  case initial => exact fun _ _ _ => rfl
  case preserved =>
      intro trace before label after _ nothing step notStarted
      rw [own_snoc]
      cases step with
      | start starts =>
          rw [List.length_append] at notStarted
          rw [nothing (Nat.le_of_add_right_le notStarted)]
          rfl
      | @did other shared tasks task event _ _ isTask step =>
          rw [List.length_set] at notStarted
          have started := (List.getElem?_eq_some_iff.mp isTask).choose
          have different : other ≠ place := by omega
          rw [nothing notStarted, Label.eventOf?, if_neg different]
          rfl

/-- What each task has done, if a new one may have done nothing and its own steps keep it. The
steps may rest on what the shared state always is. -/
theorem each_task (always : Shared → Prop) (property : List Event → Task → Prop)
    (holds : always initial)
    (kept : ∀ shared task event shared' task', always shared →
      kind.Step shared task event shared' task' → always shared')
    (starts : ∀ task, kind.Start task → property [] task)
    (goesOn : ∀ history shared task event shared' task', always shared →
      property history task → kind.Step shared task event shared' task' →
        property (history ++ [event]) task')
    (run : (kind.system initial).Runs trace pool) {place : Nat} {task : Task}
    (isTask : pool.tasks[place]? = some task) : property (own place trace) task := by
  revert place task
  apply run.history fun trace (pool : Pool Shared Task) =>
    ∀ {place : Nat} {task : Task}, pool.tasks[place]? = some task →
      property (own place trace) task
  case initial =>
      rintro _ rfl place task isTask
      cases isTask
  case preserved =>
      intro trace before label after prior each step place task isTask
      rw [own_snoc]
      cases step with
      | @start shared tasks newTask new =>
          rcases Nat.lt_or_ge place tasks.length with old | notOld
          · rw [List.getElem?_append_left old] at isTask
            simpa [Label.eventOf?] using each isTask
          · have nothing := own_of_length_le prior notOld
            rw [List.getElem?_append_right notOld, List.getElem?_singleton] at isTask
            split at isTask
            case isTrue =>
                obtain rfl := Option.some.inj isTask
                simpa [Label.eventOf?, nothing] using starts newTask new
            case isFalse => cases isTask
      | @did other shared tasks stepped event shared' stepped' isStepped step =>
          have sharedNow : always shared := shared_history (fun _ => always) holds
            (fun _ => kept) prior
          by_cases same : other = place
          · subst same
            have inList := (List.getElem?_eq_some_iff.mp isStepped).choose
            rw [List.getElem?_set_self inList] at isTask
            obtain rfl := Option.some.inj isTask
            simpa [Label.eventOf?] using
              goesOn _ _ _ _ _ _ sharedNow (each isStepped) step
          · rw [List.getElem?_set_ne same] at isTask
            simpa [Label.eventOf?, same] using each isTask

/-- Put a task in the place of another. -/
private theorem sum_map_set (pending : Task → Nat) {tasks : List Task} {place : Nat}
    {task : Task} (isTask : tasks[place]? = some task) (task' : Task) :
    ((tasks.set place task').map pending).sum + pending task =
      (tasks.map pending).sum + pending task' := by
  induction tasks generalizing place with
  | nil => cases isTask
  | cons first rest inductionHypothesis =>
      cases place with
      | zero =>
          obtain rfl := Option.some.inj isTask
          simp only [List.set_cons_zero, List.map_cons, List.sum_cons]
          omega
      | succ place =>
          have inRest := @inductionHypothesis place isTask
          simp only [List.set_cons_succ, List.map_cons, List.sum_cons]
          omega

/-- What all tasks have put in is what all have taken out, and what each still has in
hand, if every step balances. -/
theorem balance (gain loss : Event → Nat) (pending : Task → Nat)
    (starts : ∀ task, kind.Start task → pending task = 0)
    (steps : ∀ shared task event shared' task', kind.Step shared task event shared' task' →
      pending task + gain event = pending task' + loss event)
    (run : (kind.system initial).Runs trace pool) :
    ((events trace).map gain).sum =
      ((events trace).map loss).sum + (pool.tasks.map pending).sum := by
  apply run.history fun trace (pool : Pool Shared Task) => ((events trace).map gain).sum =
    ((events trace).map loss).sum + (pool.tasks.map pending).sum
  case initial =>
      rintro _ rfl
      rfl
  case preserved =>
      intro trace before label after _ balanced step
      rw [events_snoc]
      cases step with
      | start new => simpa [Label.event?, starts _ new] using balanced
      | @did place shared tasks task event shared' task' isTask step =>
          have moved := steps _ _ _ _ _ step
          have sums := sum_map_set pending isTask task'
          simp only [Label.event?, Option.toList_some, List.map_append, List.sum_append,
            List.map_singleton, List.sum_singleton]
          simp only at balanced
          omega

/-- Events of some kind, counted one by one. -/
private theorem countP_eq_sum (kindOf : Event → Bool) (history : List Event) :
    history.countP kindOf = (history.map fun event => if kindOf event then 1 else 0).sum := by
  induction history with
  | nil => rfl
  | cons event history inductionHypothesis =>
      rw [List.countP_cons, inductionHypothesis, List.map_cons, List.sum_cons, Nat.add_comm]

/-- As many events of one kind as of another have happened, but for the tasks which have the
second still to come. -/
theorem balance_countP (opens closes : Event → Bool) (pending : Task → Nat)
    (starts : ∀ task, kind.Start task → pending task = 0)
    (steps : ∀ shared task event shared' task', kind.Step shared task event shared' task' →
      (pending task + if opens event then 1 else 0) =
        pending task' + if closes event then 1 else 0)
    (run : (kind.system initial).Runs trace pool) :
    (events trace).countP opens =
      (events trace).countP closes + (pool.tasks.map pending).sum := by
  rw [countP_eq_sum, countP_eq_sum]
  exact balance _ _ pending starts steps run

end Tasks

end Polku.Semantics
