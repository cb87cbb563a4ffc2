import Mathlib.Data.List.Perm.Basic
import Mathlib.Tactic.Common

/-!
Tasks that share a memory and act one atomic action at a time, in any order. A task's
action reads and writes the memory, moves the task to its next point and may start
further tasks; a call from outside adds a task. Nothing is ever removed: a task that is
done stays in the pool at a point from which it has no action.
-/

namespace A2aBridge.TaskPool

structure Outcome (Memory Task : Type) where
  memory : Memory
  task : Task
  started : List Task

structure Pool (Memory Task : Type) where
  memory : Memory
  tasks : List Task

structure Machine (Memory Task Choice Call : Type) where
  act : Memory → Task → Choice → Option (Outcome Memory Task)
  accept : Memory → Call → Task

inductive Event (Choice Call : Type) where
  | call (call : Call)
  | act (index : Nat) (choice : Choice)

variable {Memory Task Choice Call : Type}

def Pool.leave (pool : Pool Memory Task) (index : Nat) (out : Outcome Memory Task) :
    Pool Memory Task :=
  ⟨out.memory, pool.tasks.set index out.task ++ out.started⟩

def Pool.accept (pool : Pool Memory Task) (task : Task) : Pool Memory Task :=
  ⟨pool.memory, pool.tasks ++ [task]⟩

variable (machine : Machine Memory Task Choice Call)

/-- A task that is not at an action the choice allows does not move: no step. -/
def Pool.step (pool : Pool Memory Task) : Event Choice Call → Option (Pool Memory Task)
  | .call call => some (pool.accept (machine.accept pool.memory call))
  | .act index choice =>
    (pool.tasks[index]?).bind fun task =>
      (machine.act pool.memory task choice).map (pool.leave index)

def Pool.run (pool : Pool Memory Task) : List (Event Choice Call) → Option (Pool Memory Task)
  | [] => some pool
  | event :: rest => (pool.step machine event).bind fun next => next.run rest

/-- The pools reached from `start` by steps that each meet `guard` where they are taken. -/
inductive Path (guard : Pool Memory Task → Event Choice Call → Prop)
    (start : Pool Memory Task) : Pool Memory Task → Prop where
  | refl : Path guard start start
  | step {pool next : Pool Memory Task} {event : Event Choice Call} :
      Path guard start pool → guard pool event → pool.step machine event = some next →
        Path guard start next

abbrev Reaches (start pool : Pool Memory Task) : Prop := Path machine (fun _ _ => True) start pool

section Steps

variable {machine}
variable {guard : Pool Memory Task → Event Choice Call → Prop}
variable {start pool next : Pool Memory Task} {event : Event Choice Call}

theorem step_act {index : Nat} {choice : Choice}
    (stepped : pool.step machine (.act index choice) = some next) :
    ∃ task out, pool.tasks[index]? = some task ∧
      machine.act pool.memory task choice = some out ∧ next = pool.leave index out := by
  obtain ⟨task, found, acted⟩ := Option.bind_eq_some_iff.mp stepped
  obtain ⟨out, taken, left⟩ := Option.map_eq_some_iff.mp acted
  exact ⟨task, out, found, taken, left.symm⟩

/-- An invariant of every step that meets the guard holds all along a path. -/
theorem Path.invariant {inv : Pool Memory Task → Prop} (path : Path machine guard start pool)
    (initial : inv start) (kept : ∀ pool next event, inv pool → guard pool event →
      pool.step machine event = some next → inv next) : inv pool := by
  induction path with
  | refl => exact initial
  | step _ allowed stepped ih => exact kept _ _ _ ih allowed stepped

theorem Path.trans {middle : Pool Memory Task} (first : Path machine guard start middle)
    (second : Path machine guard middle pool) : Path machine guard start pool := by
  induction second with
  | refl => exact first
  | step _ allowed stepped ih => exact .step ih allowed stepped

theorem reaches_of_run {events : List (Event Choice Call)}
    (ran : start.run machine events = some pool) : Reaches machine start pool := by
  induction events generalizing start with
  | nil =>
    cases ran
    exact .refl
  | cons event rest ih =>
    obtain ⟨next, stepped, rested⟩ := Option.bind_eq_some_iff.mp ran
    exact Path.trans (.step .refl trivial stepped) (ih rested)

end Steps

section Tasks

variable {tasks started : List Task} {index : Nat} {task left : Task}

theorem count_left (kind : Task → Bool) (left : Task) (started : List Task)
    (found : tasks[index]? = some task) :
    (tasks.set index left ++ started).countP kind + (kind task).toNat =
      tasks.countP kind + (kind left).toNat + started.countP kind := by
  obtain ⟨bound, rfl⟩ := List.getElem?_eq_some_iff.mp found
  have before := (List.getElem_cons_eraseIdx_perm bound).countP_eq kind
  have after := (List.set_perm_cons_eraseIdx bound left).countP_eq kind
  rw [List.countP_cons] at before after
  rw [List.countP_append, after, ← before]
  cases kind tasks[index] <;> cases kind left <;> simp <;> omega

theorem each_left {good : Task → Prop}
    (others : ∀ other task, other ≠ index → tasks[other]? = some task → good task)
    (own : good left) (fresh : ∀ task ∈ started, good task) :
    ∀ task ∈ tasks.set index left ++ started, good task := by
  intro task member
  rcases List.mem_append.mp member with kept | new
  · obtain ⟨other, found⟩ := List.mem_iff_getElem?.mp kept
    by_cases same : other = index
    · subst other
      rw [List.getElem?_set_self'] at found
      obtain ⟨_, _, rfl⟩ := Option.map_eq_some_iff.mp found
      exact own
    · rw [List.getElem?_set_ne (Ne.symm same)] at found
      exact others other task same found
  · exact fresh task new

theorem mem_left_own (found : tasks[index]? = some task) :
    left ∈ tasks.set index left ++ started := by
  obtain ⟨bound, -⟩ := List.getElem?_eq_some_iff.mp found
  exact List.mem_append_left _ (List.mem_set bound left)

variable {other : Nat}

theorem mem_left_other (differ : other ≠ index)
    (found : tasks[other]? = some task) : task ∈ tasks.set index left ++ started := by
  refine List.mem_append_left _ (List.mem_of_getElem? (i := other) ?_)
  rw [List.getElem?_set_ne (Ne.symm differ)]
  exact found

theorem sole {kind : Task → Bool} {second : Task} (unique : tasks.countP kind ≤ 1)
    (found : tasks[index]? = some task) (is : kind task = true) (also : tasks[other]? = some second)
    (too : kind second = true) : other = index := by
  by_contra differ
  obtain ⟨bound, rfl⟩ := List.getElem?_eq_some_iff.mp found
  obtain ⟨within, rfl⟩ := List.getElem?_eq_some_iff.mp also
  -- Without the task at `index` there is still the other one.
  have split : tasks.countP kind = (tasks.eraseIdx index).countP kind + 1 := by
    rw [← (List.getElem_cons_eraseIdx_perm bound).countP_eq kind, List.countP_cons_of_pos is]
  have remains : 0 < (tasks.eraseIdx index).countP kind := by
    refine List.countP_pos_iff.mpr ⟨tasks[other], ?_, too⟩
    rw [List.mem_eraseIdx_iff_getElem]
    exact ⟨other, within, differ, rfl⟩
  omega

end Tasks

end A2aBridge.TaskPool
