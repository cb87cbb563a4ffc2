import A2aBridge.StatefulRefusal
import A2aBridge.TaskStore

/-!
The attempts of the tasks in the in-memory store, over the separate maps that the calls of
bridge-core/task_store.rs lock and write one after the other. A refusal keeps what was written
before it. Of a creation with a reservation, `admissible` says whether the record, the locator
and the reservation pass their validation, and `occupied` whether the reservation, its marker
or one of its rows is already there; the rows themselves are left out.
-/

namespace A2aBridge.Lineage

open Runs StatefulRefusal Tasks
open Workflow (BridgeError)

/-- A row of `attempt_identities`. No call replaces one, so the map is a list of them. -/
structure Registration where
  attemptId : AttemptId
  executionId : String
  ordinal : Nat
  task : TaskId

structure Attempts where
  locators : TaskId → Option TaskAttemptLocator
  identities : List Registration

structure AttemptStore where
  inner : AList fun _ : TaskId => TaskRecord
  birth : List TaskId
  attempts : Attempts

def Registration.of (task : TaskId) (identity : AttemptIdentity) : Registration :=
  ⟨identity.attemptId, identity.executionId, identity.ordinal, task⟩

/-- Two rows that the store must not hold both: the attempt is one, or its place is. -/
def Registration.clashes (row other : Registration) : Bool :=
  row.attemptId == other.attemptId ||
    (row.executionId == other.executionId && row.ordinal == other.ordinal)

theorem clashes_comm (row other : Registration) : row.clashes other = other.clashes row := by
  simp only [Registration.clashes, Bool.beq_comm]

namespace AttemptStore

def empty : AttemptStore := ⟨∅, [], fun _ => none, []⟩

variable (store : AttemptStore)

def knows (locator : TaskAttemptLocator) (task : TaskId) : Bool :=
  store.attempts.identities.any (Registration.of task locator.identity).clashes

def withTask (id : TaskId) (record : TaskRecord) : AttemptStore :=
  { store with inner := store.inner.insert id record }

def withBirth (id : TaskId) : AttemptStore := { store with birth := store.birth.insert id }

def withLocator (task : TaskId) (locator : TaskAttemptLocator) : AttemptStore :=
  { store with attempts := { store.attempts with
    locators := Function.update store.attempts.locators task (some locator) } }

def withIdentity (task : TaskId) (identity : AttemptIdentity) : AttemptStore :=
  { store with attempts := { store.attempts with
    identities := store.attempts.identities ++ [.of task identity] } }

def existingChild (batch : BatchId) (item : String) : Option ChildClaim :=
  (store.inner.entries.find? fun known => known.2.isChild batch item).map (·.2.childClaim)

def reads (task : TaskId) (locator : TaskAttemptLocator) : AttemptReads :=
  ⟨store.inner.lookup task, store.attempts.locators task, store.knows locator task⟩

end AttemptStore

/-! ### The calls -/

abbrev StoreM := EStateM BridgeError AttemptStore

inductive LineageCall where
  | create (record : TaskRecord)
  | createWithAttemptLocator (record : TaskRecord) (locator : TaskAttemptLocator)
  | createWithAttemptLocatorAndV3Reservation (record : TaskRecord) (locator : TaskAttemptLocator)
      (admissible occupied : Bool) (nodes : List NodeId)
  | putAttemptLocator (task : TaskId) (locator : TaskAttemptLocator)
  | markAttemptTelemetryUnavailable (task : TaskId) (attempt : AttemptId)
      (reason : LedgerUnavailableReason)
  | claimResumeAttempt (task : TaskId) (cap : Nat)
  | claimResumeAttemptWithLocator (task : TaskId) (cap : Nat) (expected next : TaskAttemptLocator)
  | claimBatchChild (batch : BatchId) (item : String) (record : TaskRecord)
  | claimBatchChildWithLocator (batch : BatchId) (item : String) (record : TaskRecord)
      (locator : TaskAttemptLocator)

inductive Answer where
  | done
  | child (claim : ChildClaim)
  | resume (claim : ResumeClaim)
  deriving DecidableEq

variable (record : TaskRecord)

/-- `create`, and what a claim of a new child does without a locator. -/
def createTask (answer : Answer) : StoreM Answer := do
  if ((← get).inner.lookup record.id).isSome then throw .storeFailure
  else
    modify (·.withTask record.id record)
    modify (·.withBirth record.id)
    pure answer

/-- The rows a reservation adds: each node is parsed back and looked up among the nodes. -/
def reserveRows (nodes : List NodeId) : List NodeId → StoreM Unit
  | [] => pure ()
  | node :: rest =>
    match NodeId.parse node.text with
    | .error _ => throw .storeFailure
    | .ok parsed => if parsed ∈ nodes then reserveRows nodes rest else throw .storeFailure

/-- What the creations with a locator share once the locator was found to belong to the task. -/
def admitTask (locator : TaskAttemptLocator) (occupied : Bool) (nodes : List NodeId)
    (answer : Answer) : StoreM Answer := do
  answering ((← get).reads record.id locator).enroll
  if occupied then throw .storeFailure
  else
    modify (·.withTask record.id record)
    modify (·.withLocator record.id locator)
    modify (·.withIdentity record.id locator.identity)
    reserveRows nodes nodes
    modify (·.withBirth record.id)
    pure answer

def LineageCall.perform : LineageCall → StoreM Answer
  | .create record => createTask record .done
  | .createWithAttemptLocator record locator =>
    if !locator.belongsTo record.id then throw .storeFailure
    else admitTask record locator false [] .done
  | .createWithAttemptLocatorAndV3Reservation record locator admissible occupied nodes =>
    if !admissible || !locator.belongsTo record.id then throw .storeFailure
    else admitTask record locator occupied nodes .done
  | .putAttemptLocator task locator => do
    answering (((← get).reads task locator).put task locator)
    modify (·.withLocator task locator)
    modify (·.withIdentity task locator.identity)
    pure .done
  | .markAttemptTelemetryUnavailable task attempt reason => do
    let store ← get
    let marked ← answering
      ((⟨store.inner.lookup task, store.attempts.locators task, false⟩ : AttemptReads).mark
        attempt reason)
    modify (·.withLocator task marked)
    pure .done
  | .claimResumeAttempt task cap => do
    match (← get).inner.lookup task with
    | none => throw .storeFailure
    | some row =>
      if cap ≤ row.resumeAttempts then pure (.resume .exhausted)
      else
        modify (·.withTask task { row with resumeAttempts := row.resumeAttempts + 1 })
        pure (.resume (.resumable (row.resumeAttempts + 1)))
  | .claimResumeAttemptWithLocator task cap expected next => do
    match ← answering (((← get).reads task next).resume task cap expected next) with
    | none => pure (.resume .exhausted)
    | some row =>
      modify (·.withTask task row)
      modify (·.withLocator task next)
      modify (·.withIdentity task next.identity)
      pure (.resume (.resumable row.resumeAttempts))
  | .claimBatchChild batch item record => do
    match (← get).existingChild batch item with
    | some existing => pure (.child existing)
    | none => createTask (record.asChild batch item) (.child .created)
  | .claimBatchChildWithLocator batch item record locator => do
    if !locator.belongsTo record.id then throw .storeFailure
    else
      match (← get).existingChild batch item with
      | some existing => pure (.child existing)
      | none => admitTask (record.asChild batch item) locator false [] (.child .created)

open LineageCall (perform)

def LineageCall.resumes : LineageCall → Option (TaskId × Nat)
  | .claimResumeAttempt task cap | .claimResumeAttemptWithLocator task cap _ _ => some (task, cap)
  | _ => none

def Answer.grants : Answer → Bool
  | .resume (.resumable _) => true
  | _ => false

variable (store : AttemptStore) {task : TaskId}

def step (call : LineageCall) : Option AttemptStore :=
  match call.perform store with
  | .ok _ after | .error _ after => some after

/-! ### What a call can do to the attempts -/

/-- Every locator is registered under its task, and no two rows clash. -/
structure Registered (attempts : Attempts) : Prop where
  located : ∀ task locator, attempts.locators task = some locator →
    Registration.of task locator.identity ∈ attempts.identities
  single : ∀ row ∈ attempts.identities, ∀ other ∈ attempts.identities,
    row.clashes other = true → row = other

/-- A locator is kept, set for the first time, marked, or replaced by a direct successor. -/
def Follows (before after : Option TaskAttemptLocator) : Prop :=
  after = before ∨ before = none ∨ ∃ prior locator, before = some prior ∧ after = some locator ∧
    ((∃ reason, locator = { prior with telemetryUnavailable := some reason }) ∨
      locator.isDirectSuccessorOf prior = true)

/-- A locator names the attempt it named before, or one that was not registered. -/
def Renewed (before : Attempts) (task : TaskId) (locator : TaskAttemptLocator) : Prop :=
  (∃ prior, before.locators task = some prior ∧ prior.identity = locator.identity) ∨
    ∀ row ∈ before.identities, (Registration.of task locator.identity).clashes row = false

structure Lineal (before after : Attempts) : Prop where
  registered : Registered before → Registered after
  kept : before.identities ⊆ after.identities
  follows : ∀ task, Follows (before.locators task) (after.locators task)
  renewed : ∀ task locator, after.locators task = some locator → Renewed before task locator

theorem Lineal.refl (attempts : Attempts) : Lineal attempts attempts :=
  ⟨id, List.Subset.refl _, fun _ => .inl rfl, fun _ locator found => .inl ⟨locator, found, rfl⟩⟩

section

variable {store : AttemptStore} {locator : TaskAttemptLocator}

theorem follows_update (follows : Follows (store.attempts.locators task) (some locator))
    (other : TaskId) : Follows (store.attempts.locators other)
      (Function.update store.attempts.locators task (some locator) other) := by
  by_cases same : other = task
  · rw [same, Function.update_self]
    exact follows
  · exact .inl (Function.update_of_ne same _ _)

theorem renewed_update (renewed : Renewed store.attempts task locator) (other : TaskId)
    (current : TaskAttemptLocator) (found :
      Function.update store.attempts.locators task (some locator) other = some current) :
    Renewed store.attempts other current := by
  by_cases same : other = task
  · subst same
    cases (Function.update_self other _ _).symm.trans found
    exact renewed
  · exact .inl ⟨current, (Function.update_of_ne same _ _).symm.trans found, rfl⟩

theorem lineal_register (unknown : store.knows locator task = false)
    (follows : Follows (store.attempts.locators task) (some locator)) :
    Lineal store.attempts
      ((store.withLocator task locator).withIdentity task locator.identity).attempts := by
  have free := List.any_eq_false.mp unknown
  refine ⟨fun registered => ⟨?_, ?_⟩, List.subset_append_left _ _, follows_update follows,
    renewed_update (.inr fun row member => Bool.not_eq_true _ ▸ free row member)⟩
  · intro other current found
    by_cases same : other = task
    · subst same
      cases (Function.update_self other _ _).symm.trans found
      exact List.mem_append_right _ (List.mem_singleton_self _)
    · exact List.mem_append_left _
        (registered.located other current ((Function.update_of_ne same _ _).symm.trans found))
  · -- The row that is added clashes with none of the earlier ones.
    intro row member other also clash
    rcases List.mem_append.mp member with earlier | last <;>
      rcases List.mem_append.mp also with before | this
    · exact registered.single row earlier other before clash
    · rw [List.mem_singleton.mp this] at clash
      exact absurd (clashes_comm row _ ▸ clash) (free row earlier)
    · rw [List.mem_singleton.mp last] at clash
      exact absurd clash (free other before)
    · rw [List.mem_singleton.mp last, List.mem_singleton.mp this]

end

/-! ### What a call can do to the slots -/

/-- The resumes a task has been granted. -/
def AttemptStore.slots (task : TaskId) : Option Nat :=
  (store.inner.lookup task).map TaskRecord.resumeAttempts

variable (claim : Option (TaskId × Nat))

/-- A granted claim takes one slot of its task below the cap, and nothing else takes one. -/
def Counts (answer : Answer) (after : AttemptStore) : Prop :=
  ∀ task, (answer.grants = true ∧ ∃ cap, claim = some (task, cap) ∧ ∃ used < cap,
      store.slots task = some used ∧ after.slots task = some (used + 1)) ∨
    ((answer.grants && claim.any (·.1 == task)) = false ∧
      (store.slots task = none ∨ after.slots task = store.slots task))

section

variable {store after : AttemptStore} {claim : Option (TaskId × Nat)} {answer : Answer}
  {record : TaskRecord}

theorem slots_insert (inner : after.inner = store.inner.insert task record) (other : TaskId) :
    after.slots other = if other = task then some record.resumeAttempts else store.slots other := by
  unfold AttemptStore.slots
  rw [inner]
  split
  · next same => rw [same, AList.lookup_insert, Option.map_some]
  · next same => rw [AList.lookup_insert_ne same]

theorem slots_of_found (found : store.inner.lookup task = some record) :
    store.slots task = some record.resumeAttempts := by
  rw [AttemptStore.slots, found, Option.map_some]

theorem counts_same (inner : after.inner = store.inner) (plain : answer.grants = false) :
    Counts store claim answer after := fun _ =>
  .inr ⟨by rw [plain, Bool.false_and], .inr (by rw [AttemptStore.slots, inner]; rfl)⟩

theorem counts_create (fresh : store.inner.lookup task = none)
    (inner : after.inner = store.inner.insert task record) (plain : answer.grants = false) :
    Counts store claim answer after := by
  intro other
  refine .inr ⟨by rw [plain, Bool.false_and], ?_⟩
  rw [slots_insert inner]
  split
  · next same => exact .inl (by rw [same, AttemptStore.slots, fresh, Option.map_none])
  · exact .inr rfl

theorem counts_grant {cap attempts : Nat} (found : store.inner.lookup task = some record)
    (below : record.resumeAttempts < cap) (inner : after.inner =
      store.inner.insert task { record with resumeAttempts := record.resumeAttempts + 1 }) :
    Counts store (some (task, cap)) (.resume (.resumable attempts)) after := by
  intro other
  rw [slots_insert inner]
  by_cases same : other = task
  · subst same
    exact .inl ⟨rfl, cap, rfl, record.resumeAttempts, below, slots_of_found found, if_pos rfl⟩
  · exact .inr ⟨by simpa [Answer.grants] using Ne.symm same, .inr (if_neg same)⟩

end

/-- A call keeps the lineages and counts the slots, or is refused and leaves the store as it was. -/
def Acts (program : StoreM Answer) : Prop :=
  ∀ store, Ensured (fun answer after =>
    Lineal store.attempts after.attempts ∧ Counts store claim answer after)
    (fun _ after => after = store) (program store)

theorem create_acts {answer : Answer} (plain : answer.grants = false)
    (claim : Option (TaskId × Nat)) : Acts claim (createTask record answer) := by
  intro store
  simp only [createTask, get_bind]
  split
  · rfl
  · next fresh => exact ⟨.refl _, counts_create (by simpa using fresh) rfl plain⟩

theorem reserve_rows_run (nodes rest : List NodeId) (within : ∀ node ∈ rest, node ∈ nodes)
    (store : AttemptStore) : reserveRows nodes rest store = .ok () store := by
  induction rest with
  | nil => rfl
  | cons node rest ih =>
    -- A node identifier parses back to itself, so no row is refused halfway.
    simp only [reserveRows, NodeId.parse_text, within node List.mem_cons_self, if_true]
    exact ih fun other member => within other (List.mem_cons_of_mem node member)

theorem admit_acts (locator : TaskAttemptLocator) (occupied : Bool) (nodes : List NodeId)
    {answer : Answer} (plain : answer.grants = false) (claim : Option (TaskId × Nat)) :
    Acts claim (admitTask record locator occupied nodes answer) := by
  intro store
  unfold admitTask
  rw [get_bind]
  refine .answering (fun _ _ => rfl) fun _ free => ?_
  unfold AttemptReads.enroll at free
  split_ifs at free with taken
  simp only [AttemptStore.reads, Bool.or_eq_true, not_or, Bool.not_eq_true,
    Option.isSome_eq_false_iff, Option.isNone_iff_eq_none] at taken
  split
  · rfl
  · simp only [modify_bind]
    rw [bind_of_ok (reserve_rows_run nodes nodes (fun _ => id) _)]
    exact ⟨lineal_register taken.2 (.inr (.inl taken.1.2)), counts_create taken.1.1 rfl plain⟩

theorem resume_run (task : TaskId) (cap : Nat) (store : AttemptStore) :
    Ensured (fun answer after => (answer = .resume .exhausted ∧ after = store) ∨
      ∃ row, store.inner.lookup task = some row ∧ row.resumeAttempts < cap ∧
        answer = .resume (.resumable (row.resumeAttempts + 1)) ∧
        after = store.withTask task { row with resumeAttempts := row.resumeAttempts + 1 })
      (fun _ after => after = store) ((LineageCall.claimResumeAttempt task cap).perform store) := by
  simp only [perform, get_bind]
  cases found : store.inner.lookup task with
  | none => rfl
  | some row =>
    dsimp only
    split
    · exact .inl ⟨rfl, rfl⟩
    · next below => exact .inr ⟨row, rfl, Nat.lt_of_not_le below, rfl, rfl⟩

theorem resume_with_locator_run (task : TaskId) (cap : Nat) (expected next : TaskAttemptLocator)
    (store : AttemptStore) :
    Ensured (fun answer after => (answer = .resume .exhausted ∧ after = store) ∨
      ∃ row, store.inner.lookup task = some row ∧ row.resumeAttempts < cap ∧
        store.attempts.locators task = some expected ∧
        next.isDirectSuccessorOf expected = true ∧ store.knows next task = false ∧
        answer = .resume (.resumable (row.resumeAttempts + 1)) ∧
        after = ((store.withTask task { row with resumeAttempts := row.resumeAttempts + 1
          }).withLocator task next).withIdentity task next.identity)
      (fun _ after => after = store)
      ((LineageCall.claimResumeAttemptWithLocator task cap expected next).perform store) := by
  simp only [perform, get_bind]
  refine .answering (fun _ _ => rfl) fun resumed decided => ?_
  obtain ⟨row, found, current, successor, rfl | ⟨below, unknown, rfl⟩⟩ :=
    AttemptReads.resume_ok decided
  · exact .inl ⟨rfl, rfl⟩
  · exact .inr ⟨row, found, below, current, successor, unknown, rfl, rfl⟩

theorem perform_acts (call : LineageCall) : Acts call.resumes call.perform := by
  intro store
  cases call with
  | create record => exact create_acts record rfl none store
  | createWithAttemptLocator record locator =>
    simp only [perform]
    split
    · rfl
    · exact admit_acts record locator false [] rfl none store
  | createWithAttemptLocatorAndV3Reservation record locator admissible occupied nodes =>
    simp only [perform]
    split
    · rfl
    · exact admit_acts record locator occupied nodes rfl none store
  | putAttemptLocator task locator =>
    simp only [perform, get_bind]
    refine .answering (fun _ _ => rfl) fun _ free => ?_
    unfold AttemptReads.put AttemptStore.reads at free
    split_ifs at free with _ _ unlocated
    simp only [Bool.or_eq_true, not_or, Bool.not_eq_true, Option.isSome_eq_false_iff,
      Option.isNone_iff_eq_none] at unlocated
    exact ⟨lineal_register unlocated.2 (.inr (.inl unlocated.1)), counts_same rfl rfl⟩
  | markAttemptTelemetryUnavailable task attempt reason =>
    simp only [perform, get_bind]
    refine .answering (fun _ _ => rfl) fun marked made => ⟨?_, counts_same rfl rfl⟩
    unfold AttemptReads.mark at made
    split at made
    · cases made
    next locator found =>
      split at made <;> cases made
      refine ⟨fun registered => ⟨?_, registered.single⟩, List.Subset.refl _, follows_update ?_,
        renewed_update (.inl ⟨locator, found, rfl⟩)⟩
      · intro other current located
        by_cases same : other = task
        · subst same
          cases (Function.update_self other _ _).symm.trans located
          exact registered.located other locator found
        · exact registered.located other current
            ((Function.update_of_ne same _ _).symm.trans located)
      · exact .inr (.inr ⟨locator, _, found, rfl, .inl ⟨reason, rfl⟩⟩)
  | claimResumeAttempt task cap =>
    refine (resume_run task cap store).weaken ?_ (fun _ _ => id)
    rintro answer after (⟨rfl, rfl⟩ | ⟨row, found, below, rfl, rfl⟩)
    · exact ⟨.refl _, counts_same rfl rfl⟩
    · exact ⟨.refl _, counts_grant found below rfl⟩
  | claimResumeAttemptWithLocator task cap expected next =>
    refine (resume_with_locator_run task cap expected next store).weaken ?_ (fun _ _ => id)
    rintro answer after (⟨rfl, rfl⟩ | ⟨row, found, below, current, successor, unknown, rfl, rfl⟩)
    · exact ⟨.refl _, counts_same rfl rfl⟩
    · exact ⟨lineal_register unknown (.inr (.inr ⟨expected, next, current, rfl, .inr successor⟩)),
        counts_grant found below rfl⟩
  | claimBatchChild batch item record =>
    simp only [perform, get_bind]
    cases store.existingChild batch item with
    | some existing => exact ⟨.refl _, counts_same rfl rfl⟩
    | none => exact create_acts _ rfl none store
  | claimBatchChildWithLocator batch item record locator =>
    simp only [perform]
    split
    · rfl
    simp only [get_bind]
    cases store.existingChild batch item with
    | some existing => exact ⟨.refl _, counts_same rfl rfl⟩
    | none => exact admit_acts _ locator false [] rfl none store

/-! ### Lineages over whole runs -/

theorem step_lineal {store after : AttemptStore} {call : LineageCall}
    (stepped : step store call = some after) : Lineal store.attempts after.attempts := by
  have acts := perform_acts call store
  unfold step at stepped
  cases performed : call.perform store with
  | ok answer left =>
    rw [performed] at acts stepped
    cases stepped
    exact acts.1
  | error error left =>
    rw [performed] at acts stepped
    cases stepped
    rw [show after = store from acts]
    exact .refl _

theorem registered_of_reaches {store : AttemptStore} (reached : Reaches step .empty store) :
    Registered store.attempts :=
  reached.invariant ⟨nofun, nofun⟩ fun _ _ _ registered stepped =>
    (step_lineal stepped).registered registered

theorem kept_of_reaches {earlier later : AttemptStore} (reached : Reaches step earlier later) :
    earlier.attempts.identities ⊆ later.attempts.identities := by
  induction reached with
  | refl => exact List.Subset.refl _
  | step _ stepped ih => exact List.Subset.trans ih (step_lineal stepped).kept

/-- An attempt that is registered once keeps its identity in every locator that names it. -/
theorem identity_of_reaches {earlier later : AttemptStore} (reached : Reaches step earlier later)
    {first : TaskAttemptLocator} (located : earlier.attempts.locators task = some first)
    (registered : Registration.of task first.identity ∈ earlier.attempts.identities)
    {second : TaskAttemptLocator} (found : later.attempts.locators task = some second)
    (same : Registration.of task second.identity = .of task first.identity) :
    second.identity = first.identity := by
  induction reached generalizing second with
  | refl => rw [Option.some.inj (found.symm.trans located)]
  | step onward stepped ih =>
    rcases (step_lineal stepped).renewed task second found with ⟨prior, known, kept⟩ | free
    · rw [← kept]
      exact ih known (kept ▸ same)
    · -- Its row would clash with itself.
      have clash := free _ (kept_of_reaches onward registered)
      rw [same] at clash
      simp [Registration.clashes] at clash

/-- How many of the calls grant the task a resume. -/
def granted (task : TaskId) : AttemptStore → List LineageCall → Nat
  | _, [] => 0
  | store, call :: rest =>
    match call.perform store with
    | .ok answer after =>
      (if answer.grants && call.resumes.any (·.1 == task) then 1 else 0) + granted task after rest
    | .error _ after => granted task after rest

theorem granted_le {cap : Nat} {calls : List LineageCall}
    (capped : ∀ call ∈ calls, ∀ own, call.resumes = some (task, own) → own ≤ cap)
    (store : AttemptStore) : granted task store calls ≤ cap - (store.slots task).getD 0 := by
  induction calls generalizing store with
  | nil => exact Nat.zero_le _
  | cons call rest ih =>
    have ih := ih fun other member => capped other (List.mem_cons_of_mem call member)
    have acts := perform_acts call store
    unfold granted
    cases performed : call.perform store with
    | error error left =>
      rw [performed] at acts
      rw [show left = store from acts]
      exact ih store
    | ok answer left =>
      rw [performed] at acts
      have later := ih left
      dsimp only
      rcases acts.2 task with ⟨grants, own, claim, used, below, before, after⟩ | ⟨quiet, kept⟩
      · have within := capped call List.mem_cons_self own claim
        rw [after, Option.getD_some] at later
        rw [grants, claim, before, Option.any_some, beq_self_eq_true, Bool.and_self, if_pos rfl,
          Option.getD_some]
        omega
      · rw [quiet, if_neg nofun, Nat.zero_add]
        rcases kept with absent | same
        · rw [absent]
          exact Nat.le_trans later (Nat.sub_le _ _)
        · rw [← same]
          exact later

/-- Over all sequences of these calls: attempts and their places are used once, locators follow
one another, slots are taken up to the cap, and a refused call leaves everything unchanged. -/
theorem attempt_lineage :
    (∀ earlier later, Reaches step .empty earlier → Reaches step earlier later →
      ∀ task other first second, earlier.attempts.locators task = some first →
        later.attempts.locators other = some second →
        (Registration.of task first.identity).clashes (.of other second.identity) = true →
        task = other ∧ first.identity = second.identity) ∧
    (∀ store call after, step store call = some after →
      ∀ task, Follows (store.attempts.locators task) (after.attempts.locators task)) ∧
    (∀ store task cap expected next answer after,
      (LineageCall.claimResumeAttemptWithLocator task cap expected next).perform store =
        .ok answer after →
      after = store ∨ (∃ used, store.slots task = some used ∧ after.slots task = some (used + 1)) ∧
        store.attempts.locators task = some expected ∧ after.attempts.locators task = some next) ∧
    (∀ store task cap answer after,
      (LineageCall.claimResumeAttempt task cap).perform store = .ok answer after →
      after = store ∨ (∃ used, store.slots task = some used ∧ after.slots task = some (used + 1)) ∧
        after.attempts = store.attempts) ∧
    (∀ task cap calls,
      (∀ call ∈ calls, ∀ own, LineageCall.resumes call = some (task, own) → own ≤ cap) →
      granted task .empty calls ≤ cap) ∧
    ∀ store call error after, LineageCall.perform call store = .error error after →
      after = store := by
  refine ⟨?_, ?_, ?_, ?_, ?_, ?_⟩
  · intro earlier later reached onward task other first second left right clash
    have registered := registered_of_reaches (reached.trans onward)
    have here := (registered_of_reaches reached).located task first left
    have row := registered.single _ (kept_of_reaches onward here) _
      (registered.located other second right) clash
    obtain rfl : task = other := congrArg Registration.task row
    exact ⟨rfl, (identity_of_reaches onward left here right row.symm).symm⟩
  · exact fun store call after stepped => (step_lineal stepped).follows
  · intro store task cap expected next answer after claimed
    have run := (resume_with_locator_run task cap expected next store).of_ok claimed
    rcases run with ⟨-, same⟩ | ⟨row, found, -, current, -, -, -, rfl⟩
    · exact .inl same
    · exact .inr ⟨⟨row.resumeAttempts, slots_of_found found, (slots_insert rfl task).trans
        (if_pos rfl)⟩, current, Function.update_self _ _ _⟩
  · intro store task cap answer after claimed
    have run := (resume_run task cap store).of_ok claimed
    rcases run with ⟨-, same⟩ | ⟨row, found, -, -, rfl⟩
    · exact .inl same
    · exact .inr ⟨⟨row.resumeAttempts, slots_of_found found, (slots_insert rfl task).trans
        (if_pos rfl)⟩, rfl⟩
  · exact fun task cap calls capped => granted_le capped .empty
  · intro store call error after refused
    exact (perform_acts call store).of_error refused

/-- A claim without a locator takes a slot and leaves the locator where it is. -/
theorem plain_claim_takes_slot :
    ∃ store after : AttemptStore, Reaches step .empty store ∧
      step store (.claimResumeAttempt "task" 1) = some after ∧
      store.slots "task" = some 0 ∧ after.slots "task" = some 1 ∧
      (store.attempts.locators "task").isSome = true ∧
      after.attempts.locators "task" = store.attempts.locators "task" := by
  have created : step .empty (.createWithAttemptLocator
      ⟨"task", .working, none, none, 0, none, none⟩ ⟨⟨"task", "first", 0, none⟩, none⟩) = some _ := rfl
  exact ⟨_, _, .step .refl created, rfl, by decide, by decide, rfl, rfl⟩

end A2aBridge.Lineage
