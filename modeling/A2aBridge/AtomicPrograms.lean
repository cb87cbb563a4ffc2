import Mathlib.Tactic.Common

/-!
Programs that talk to a shared state through atomic calls, their interleavings, and the
rely and guarantee rule for them. A program is the tree of its calls. Parties run such
programs side by side: between any two calls of one the others may make theirs, and a party
may stop for good at any moment.
-/

namespace A2aBridge.AtomicPrograms

/-- A program makes a call and goes on with the reply to it. -/
inductive Program {Call : Type} (Reply : Call → Type) (α : Type) where
  | ret (answer : α)
  | call (request : Call) (next : Reply request → Program Reply α)

variable {Call : Type} {Reply : Call → Type} {α β : Type}

namespace Program

def bind (program : Program Reply α) (rest : α → Program Reply β) : Program Reply β :=
  match program with
  | ret answer => rest answer
  | call request next => call request fun reply => (next reply).bind rest

instance : Monad (Program Reply) where
  pure := ret
  bind := bind

def perform (request : Call) : Program Reply (Reply request) := call request ret

end Program

/-- How one party's call changes the shared state, where it is served at all, and what a
party that stops leaves. A choice settles what the shared state does not. -/
structure Service (Reply : Call → Type) (Shared Choice : Type) where
  serve : Nat → Shared → (request : Call) → Choice → Option (Shared × Reply request)
  stop : Nat → Shared → Shared

variable {Shared Choice Op Answer : Type}

/-- A party that stopped has no program. -/
structure Party (Reply : Call → Type) (Op Answer : Type) where
  op : Op
  program : Option (Program Reply Answer)

structure World (Reply : Call → Type) (Shared Op Answer : Type) where
  shared : Shared
  parties : List (Party Reply Op Answer)

inductive Event (Op Choice : Type) where
  | start (op : Op)
  | act (index : Nat) (choice : Choice)
  | stop (index : Nat)

section

variable (service : Service Reply Shared Choice) (body : Op → Program Reply Answer)

def World.step (world : World Reply Shared Op Answer) :
    Event Op Choice → Option (World Reply Shared Op Answer)
  | .start op => some { world with parties := world.parties ++ [⟨op, some (body op)⟩] }
  | .act index choice =>
    match world.parties[index]? with
    | some ⟨op, some (.call request next)⟩ =>
      match service.serve index world.shared request choice with
      | some (shared, reply) =>
        some ⟨shared, world.parties.set index ⟨op, some (next reply)⟩⟩
      | none => none
    | _ => none
  | .stop index =>
    match world.parties[index]? with
    | some party =>
      some ⟨service.stop index world.shared, world.parties.set index ⟨party.op, none⟩⟩
    | none => none

/-- Whether the call an event makes is one of those permitted in the state before it. -/
def World.Permits (permits : Nat → Shared → Call → Choice → Prop) (world : World Reply Shared Op Answer) :
    Event Op Choice → Prop
  | .act index choice =>
    match world.parties[index]? with
    | some ⟨_, some (.call request _)⟩ => permits index world.shared request choice
    | _ => True
  | _ => True

/-- The worlds that permitted events reach. -/
inductive Reaches (permits : Nat → Shared → Call → Choice → Prop)
    (start : World Reply Shared Op Answer) : World Reply Shared Op Answer → Prop where
  | refl : Reaches permits start start
  | step {world next : World Reply Shared Op Answer} {event : Event Op Choice} :
      Reaches permits start world → world.Permits permits event →
      world.step service body event = some next → Reaches permits start next

def World.run (world : World Reply Shared Op Answer) :
    List (Event Op Choice) → Option (World Reply Shared Op Answer)
  | [] => some world
  | event :: rest => (world.step service body event).bind fun next => next.run rest

end

/-! ### Rely and guarantee -/

/-- Which calls are permitted, the invariant of the shared state, and what each party may
rely on of the others' calls. -/
structure Discipline (Call Shared Choice : Type) where
  permits : Nat → Shared → Call → Choice → Prop
  inv : Shared → Prop
  rely : Nat → Shared → Shared → Prop

section

variable (service : Service Reply Shared Choice) (rules : Discipline Call Shared Choice)

/-- From this shared state on, whatever the other parties do within the rely of `party`, each
call of the program keeps the invariant and does to the others only what they rely on, and
the program ends in `post`. -/
def Meets (party : Nat) (post : α → Shared → Prop) : Program Reply α → Shared → Prop
  | .ret answer, shared => post answer shared
  | .call request next, shared =>
    ∀ later, rules.rely party shared later → rules.inv later →
      ∀ choice, rules.permits party later request choice →
      ∀ after reply, service.serve party later request choice = some (after, reply) →
        rules.inv after ∧ (∀ other, other ≠ party → rules.rely other later after) ∧
        Meets party post (next reply) after

variable {service rules} {party : Nat} {post weaker : α → Shared → Prop}

theorem meets_bind {post : β → Shared → Prop} (program : Program Reply α)
    (rest : α → Program Reply β) (shared : Shared) :
    Meets service rules party post (program >>= rest) shared ↔
      Meets service rules party
        (fun answer shared => Meets service rules party post (rest answer) shared)
        program shared := by
  change Meets _ _ _ _ (program.bind rest) _ ↔ _
  induction program generalizing shared with
  | ret answer => rfl
  | call request next ih =>
    simp [Program.bind, Meets, ih]

variable {program : Program Reply α} {shared : Shared}

theorem Meets.mono (met : Meets service rules party post program shared)
    (weakens : ∀ answer shared, post answer shared → weaker answer shared) :
    Meets service rules party weaker program shared := by
  induction program generalizing shared with
  | ret answer => exact weakens answer shared met
  | call request next ih =>
    intro later keeps sound choice permitted after reply served
    obtain ⟨kept, guaranteed, rest⟩ := met later keeps sound choice permitted after reply served
    exact ⟨kept, guaranteed, ih reply rest⟩

/-- What the others do within the rely does not undo a contract. -/
theorem Meets.later {later : Shared} (met : Meets service rules party post program shared)
    (trans : ∀ first second third, rules.rely party first second →
      rules.rely party second third → rules.rely party first third)
    (stable : ∀ answer shared later, post answer shared → rules.rely party shared later →
      rules.inv later → post answer later) (keeps : rules.rely party shared later)
    (sound : rules.inv later) : Meets service rules party post program later := by
  cases program with
  | ret answer => exact stable answer shared later met keeps sound
  | call request next =>
    intro last further
    exact met last (trans shared later last keeps further)

end

variable {permits : Nat → Shared → Call → Choice → Prop} {events : List (Event Op Choice)}

variable {service : Service Reply Shared Choice} {body : Op → Program Reply Answer}
  {start world : World Reply Shared Op Answer}

theorem Reaches.trans {middle : World Reply Shared Op Answer}
    (first : Reaches service body permits start middle)
    (second : Reaches service body permits middle world) :
    Reaches service body permits start world := by
  induction second with
  | refl => exact first
  | step _ permitted stepped ih => exact .step ih permitted stepped

/-- What a party may be told when it starts, and what it ends in. -/
structure Contract (service : Service Reply Shared Choice) (body : Op → Program Reply Answer)
    (rules : Discipline Call Shared Choice) where
  fresh : Nat → Shared → Prop
  post : Nat → Op → Answer → Shared → Prop
  rely_refl : ∀ party shared, rules.rely party shared shared
  rely_trans : ∀ party first second third, rules.rely party first second →
    rules.rely party second third → rules.rely party first third
  fresh_kept : ∀ party shared later, fresh party shared → rules.rely party shared later →
    rules.inv later → fresh party later
  post_kept : ∀ party op answer shared later, post party op answer shared →
    rules.rely party shared later → rules.inv later → post party op answer later
  stops : ∀ party shared, rules.inv shared → rules.inv (service.stop party shared) ∧
    ∀ other, other ≠ party → rules.rely other shared (service.stop party shared)
  starts : ∀ party op shared, rules.inv shared → fresh party shared →
    Meets service rules party (post party op) (body op) shared

namespace Contract

variable {service : Service Reply Shared Choice} {body : Op → Program Reply Answer}
  {rules : Discipline Call Shared Choice} (contract : Contract service body rules)

/-- The invariant holds, every party is still within its contract, and the parties to come
are fresh. -/
structure Kept (world : World Reply Shared Op Answer) : Prop where
  sound : rules.inv world.shared
  parties : ∀ index op program, world.parties[index]? = some ⟨op, some program⟩ →
    Meets service rules index (contract.post index op) program world.shared
  fresh : ∀ index, world.parties.length ≤ index → contract.fresh index world.shared

variable {contract} {world next : World Reply Shared Op Answer}

/-- What one party did to the shared state leaves the contracts of the others. -/
theorem Kept.changed {index : Nat} {party : Party Reply Op Answer} {shared : Shared}
    (kept : contract.Kept world) (inside : index < world.parties.length) (sound : rules.inv shared)
    (guaranteed : ∀ other, other ≠ index → rules.rely other world.shared shared)
    (own : ∀ program, party.program = some program →
      Meets service rules index (contract.post index party.op) program shared) :
    contract.Kept ⟨shared, world.parties.set index party⟩ where
  sound := sound
  parties := by
    intro other op program found
    by_cases same : other = index
    · subst same
      rw [List.getElem?_set_self inside] at found
      cases found
      exact own program rfl
    · rw [List.getElem?_set_ne (Ne.symm same)] at found
      exact (kept.parties other op program found).later (contract.rely_trans other)
        (contract.post_kept other op) (guaranteed other same) sound
  fresh := by
    intro other outside
    rw [List.length_set] at outside
    exact contract.fresh_kept other _ _ (kept.fresh other outside)
      (guaranteed other (by omega)) sound

theorem Kept.started (kept : contract.Kept world) (op : Op) :
    contract.Kept { world with parties := world.parties ++ [⟨op, some (body op)⟩] } where
  sound := kept.sound
  parties := by
    intro index other program found
    rcases Nat.lt_trichotomy index world.parties.length with inside | same | outside
    · rw [List.getElem?_append_left inside] at found
      exact kept.parties index other program found
    · rw [same, List.getElem?_concat_length] at found
      cases found
      rw [same]
      exact contract.starts _ op _ kept.sound (kept.fresh _ (Nat.le_refl _))
    · rw [List.getElem?_eq_none (by simp; omega)] at found
      cases found
  fresh := by
    intro index outside
    simp only [List.length_append, List.length_singleton] at outside
    exact kept.fresh index (by omega)

theorem kept_step {event : Event Op Choice} (kept : contract.Kept world)
    (permitted : world.Permits rules.permits event)
    (stepped : world.step service body event = some next) : contract.Kept next := by
  cases event with
  | start op =>
    cases stepped
    exact kept.started op
  | act index choice =>
    simp only [World.step] at stepped
    split at stepped
    · rename_i op request rest found
      have inside : index < world.parties.length := (List.getElem?_eq_some_iff.mp found).1
      simp only [World.Permits, found] at permitted
      split at stepped
      · rename_i shared reply served
        cases stepped
        obtain ⟨sound, guaranteed, met⟩ := kept.parties index op _ found world.shared
          (contract.rely_refl index _) kept.sound choice permitted shared reply served
        refine kept.changed inside sound guaranteed fun program here => ?_
        cases here
        exact met
      · cases stepped
    · cases stepped
  | stop index =>
    simp only [World.step] at stepped
    split at stepped
    · rename_i party found
      have inside : index < world.parties.length := (List.getElem?_eq_some_iff.mp found).1
      cases stepped
      obtain ⟨sound, guaranteed⟩ := contract.stops index world.shared kept.sound
      exact kept.changed inside sound guaranteed nofun
    · cases stepped

section

variable {start : World Reply Shared Op Answer} (contract)
  (reached : Reaches service body rules.permits start world) (idle : start.parties = [])
  (sound : rules.inv start.shared) (fresh : ∀ index, contract.fresh index start.shared)

include reached idle sound fresh

theorem kept_of_reached : contract.Kept world := by
  induction reached with
  | refl =>
    refine ⟨sound, fun index op program found => ?_, fun index _ => fresh index⟩
    rw [idle] at found
    cases found
  | step _ permitted stepped ih => exact kept_step ih permitted stepped

/-- In every world that is reached, the invariant holds and every party that has answered
has met its contract. -/
theorem holds : rules.inv world.shared ∧
    ∀ index op answer, world.parties[index]? = some ⟨op, some (.ret answer)⟩ →
      contract.post index op answer world.shared := by
  have kept := contract.kept_of_reached reached idle sound fresh
  exact ⟨kept.sound, fun index op answer found => kept.parties index op _ found⟩

end

end Contract

/-! ### Runs -/

def World.PermitsAll (service : Service Reply Shared Choice) (body : Op → Program Reply Answer)
    (permits : Nat → Shared → Call → Choice → Prop) (world : World Reply Shared Op Answer) :
    List (Event Op Choice) → Prop
  | [] => True
  | event :: rest => world.Permits permits event ∧
    match world.step service body event with
    | some next => next.PermitsAll service body permits rest
    | none => True

theorem reaches_of_permitted_run (permitted : start.PermitsAll service body permits events)
    (ran : start.run service body events = some world) :
    Reaches service body permits start world := by
  induction events generalizing start with
  | nil =>
    cases ran
    exact .refl
  | cons event rest ih =>
    obtain ⟨next, stepped, rested⟩ := Option.bind_eq_some_iff.mp ran
    obtain ⟨first, others⟩ := permitted
    rw [stepped] at others
    exact Reaches.trans (.step .refl first stepped) (ih others rested)

theorem reaches_of_run (ran : start.run service body events = some world) :
    Reaches service body (fun _ _ _ _ => True) start world := by
  refine reaches_of_permitted_run ?_ ran
  clear ran
  induction events generalizing start with
  | nil => trivial
  | cons event rest ih =>
    constructor
    · cases event with
      | act index choice =>
        simp only [World.Permits]
        split <;> trivial
      | start | stop => trivial
    · split
      · exact ih
      · trivial

end A2aBridge.AtomicPrograms
