import A2aBridge.Runs
import A2aBridge.SessionTable
import A2aBridge.WorkflowErrors
import Mathlib.Data.List.Sort

/-!
The in-memory task store of bridge-core/task_store.rs. The source keeps one map for each kind
of row, all of them keyed by the task; here the rows of one task stand together in a
`TaskEntry`. Every call holds the fold guard for its whole length and is one step.

Times, the retention clock, the turn log, harvest bundles and the reserved node rows of the
third schema are left out, and so is the attempt evidence beyond the policy trigger. A journal
row is its event, whose `seq` is the sequence the row is stored under. A map key holds the text
of a `NodeId`, so the parse of a key on its way out, which cannot fail, is left out too.
-/

namespace A2aBridge.Tasks

open Workflow (BridgeError)
open Sessions (UsageSnapshot)

abbrev TaskId := String
abbrev BatchId := String
abbrev AttemptId := String

/-! ### Node identifiers -/

def nodeIdChar (c : Char) : Bool := c.isLower || c.isDigit || c == '_' || c == '-'

def isNodeId (text : String) : Bool := !text.isEmpty && text.toList.all nodeIdChar

structure NodeId where
  text : String
  valid : isNodeId text = true
  deriving DecidableEq

def NodeId.parse (text : String) : Except BridgeError NodeId :=
  if valid : isNodeId text = true then .ok ⟨text, valid⟩
  else .error (.invalidRequest "NodeId")

@[simp] theorem NodeId.parse_text (node : NodeId) : NodeId.parse node.text = .ok node := by
  simp [NodeId.parse, node.valid]

/-! ### Rows -/

inductive TaskRecordStatus where
  | working
  | completed
  | failed
  | canceled
  | interrupted
  deriving DecidableEq

def TaskRecordStatus.asStr : TaskRecordStatus → String
  | working => "working"
  | completed => "completed"
  | failed => "failed"
  | canceled => "canceled"
  | interrupted => "interrupted"

def TaskRecordStatus.isTerminal (status : TaskRecordStatus) : Bool := status ≠ working

inductive LedgerUnavailableReason where
  | «open»
  | permission
  | readOnlyDatabase
  | readOnlyLock
  | readOnlyParent
  | advisoryLockUnsupported
  | advisoryLockIo
  | locked
  | migration
  | unsupportedConfiguration
  | schema
  | corruption
  | io
  | capacityProtected
  | collision
  deriving DecidableEq

structure AttemptIdentity where
  executionId : String
  attemptId : AttemptId
  ordinal : Nat
  parentAttemptId : Option AttemptId
  deriving DecidableEq

structure TaskAttemptLocator where
  identity : AttemptIdentity
  telemetryUnavailable : Option LedgerUnavailableReason
  deriving DecidableEq

def TaskAttemptLocator.belongsTo (locator : TaskAttemptLocator) (task : TaskId) : Bool :=
  locator.identity.executionId == task

/-- The successor of a `u32`, where it has one. -/
def checkedSucc (n : Nat) : Option Nat :=
  if n + 1 < 2 ^ 32 then some (n + 1) else none

def TaskAttemptLocator.isDirectSuccessorOf (locator prior : TaskAttemptLocator) : Bool :=
  locator.telemetryUnavailable.isNone &&
    locator.identity.executionId == prior.identity.executionId &&
    checkedSucc prior.identity.ordinal == some locator.identity.ordinal &&
    locator.identity.parentAttemptId == some prior.identity.attemptId &&
    locator.identity.attemptId != prior.identity.attemptId

structure TaskRecord where
  id : TaskId
  status : TaskRecordStatus
  result : Option String
  error : Option String
  resumeAttempts : Nat
  batchId : Option BatchId
  itemId : Option String
  deriving DecidableEq

inductive ChildClaim where
  | created
  | existingWorking
  | existingTerminal
  deriving DecidableEq

inductive ResumeClaim where
  | resumable (attempt : Nat)
  | exhausted
  deriving DecidableEq

namespace TaskRecord

variable (row : TaskRecord) (batch : BatchId) (item : String)

def isChild : Bool := row.batchId == some batch && row.itemId == some item

def childClaim : ChildClaim := if row.status = .working then .existingWorking else .existingTerminal

def asChild : TaskRecord := { row with batchId := some batch, itemId := some item }

end TaskRecord

/-- What a call on the attempts of a task reads under its locks: the row of the task, its locator,
and whether the attempt of a new locator, or its place, has been admitted before. -/
structure AttemptReads where
  row : Option TaskRecord
  locator : Option TaskAttemptLocator
  known : Bool

namespace AttemptReads

variable (reads : AttemptReads) (task : TaskId)

/-- The checks of the calls that create a task with its locator, after `belongs_to`. -/
def enroll : Except BridgeError Unit :=
  if reads.row.isSome || reads.locator.isSome || reads.known then .error .storeFailure else .ok ()

def put (locator : TaskAttemptLocator) : Except BridgeError Unit :=
  if !locator.belongsTo task then .error .storeFailure
  else if reads.row.isNone then .error .taskNotFound
  else if reads.locator.isSome || reads.known then .error .storeFailure
  else .ok ()

def mark (attempt : AttemptId) (reason : LedgerUnavailableReason) :
    Except BridgeError TaskAttemptLocator :=
  match reads.locator with
  | none => .error .storeFailure
  | some locator =>
    if locator.identity.attemptId ≠ attempt then .error .storeFailure
    else .ok { locator with telemetryUnavailable := some reason }

/-- The row that a resume claim with a locator writes; nothing where the attempts are exhausted. -/
def resume (cap : Nat) (expected next : TaskAttemptLocator) :
    Except BridgeError (Option TaskRecord) :=
  if !expected.belongsTo task || !next.isDirectSuccessorOf expected then .error .storeFailure
  else
    match reads.row with
    | none => .error .storeFailure
    | some row =>
      if row.status ≠ .working ∨ reads.locator ≠ some expected then .error .storeFailure
      else if cap ≤ row.resumeAttempts then .ok none
      else if reads.known then .error .storeFailure
      else
        match checkedSucc row.resumeAttempts with
        | none => .error .storeFailure
        | some attempts => .ok (some { row with resumeAttempts := attempts })

variable {reads task}

theorem resume_ok {cap : Nat} {expected next : TaskAttemptLocator} {resumed : Option TaskRecord}
    (decided : reads.resume task cap expected next = .ok resumed) :
    ∃ row, reads.row = some row ∧ reads.locator = some expected ∧
      next.isDirectSuccessorOf expected = true ∧ (resumed = none ∨ row.resumeAttempts < cap ∧
        reads.known = false ∧
        resumed = some { row with resumeAttempts := row.resumeAttempts + 1 }) := by
  unfold resume at decided
  split at decided
  · cases decided
  rename_i successor
  simp only [Bool.or_eq_true, Bool.not_eq_true', not_or, Bool.not_eq_false] at successor
  cases found : reads.row with
  | none =>
    rw [found] at decided
    cases decided
  | some row =>
    rw [found] at decided
    dsimp only at decided
    split at decided
    · cases decided
    rename_i current
    rw [not_or, not_not, not_not] at current
    refine ⟨row, rfl, current.2, successor.2, ?_⟩
    split at decided
    · cases decided
      exact .inl rfl
    rename_i below
    split at decided
    · cases decided
    rename_i unknown
    unfold checkedSucc at decided
    split_ifs at decided
    cases decided
    exact .inr ⟨Nat.lt_of_not_le below, Bool.not_eq_true _ ▸ unknown, rfl⟩

end AttemptReads

/-- What a terminal of an attempt says, read here only for its outcome; the other fields are
kept as one text. -/
structure AttemptTerminal where
  outcome : String
  evidence : String
  deriving DecidableEq

structure PendingTerminalProjection where
  task : TaskRecord
  attemptId : AttemptId
  terminalSeq : Int
  terminal : AttemptTerminal
  deriving DecidableEq

inductive TerminalStatus where
  | completed
  | failed (reason : String)
  | canceled
  deriving DecidableEq

def terminalStatusFromRecord : TaskRecordStatus → TerminalStatus
  | .completed => .completed
  | .canceled => .canceled
  | other => .failed other.asStr

/-- The kinds of orchestration event. The payloads of the last six are read by nothing here. -/
inductive OrchEventKind where
  | nodeStarted (node : String)
  | nodeFinished (node : String) (ok : Bool) (output : String) (usage : Option UsageSnapshot)
      (terminalJson policyTriggerJson : Option String)
  | terminal (status : TerminalStatus) (output : String)
  | progress
  | usage
  | plan
  | toolCall
  | toolCallUpdate
  | harvestSanitizationDecision
  deriving DecidableEq

/-- The kinds that report on the work of a node and leave its state alone. -/
def OrchEventKind.isRich : OrchEventKind → Bool
  | nodeStarted .. | nodeFinished .. | terminal .. => false
  | _ => true

abbrev RichEventKind := { kind : OrchEventKind // kind.isRich = true }

structure OrchEvent where
  seq : Int
  kind : OrchEventKind
  deriving DecidableEq

structure CheckpointValue where
  output : String
  ok : Bool
  seq : Int
  usage : Option UsageSnapshot
  deriving DecidableEq

structure TaskEntry where
  row : TaskRecord
  locator : Option TaskAttemptLocator
  birth : Bool
  checkpoints : AList fun _ : NodeId => CheckpointValue
  nodeTerminals : AList fun _ : NodeId => String
  nodePolicyTriggers : AList fun _ : NodeId => String
  policyTriggerJson : Option String
  seqCounter : Int
  terminalSeq : Option Int
  starts : AList fun _ : NodeId => Int
  pendingTerminal : Option PendingTerminalProjection
  journal : List OrchEvent

/-- A task as it is inserted: no row of another map names it yet. -/
def TaskEntry.created (row : TaskRecord) (locator : Option TaskAttemptLocator) : TaskEntry where
  row
  locator
  birth := true
  checkpoints := ∅
  nodeTerminals := ∅
  nodePolicyTriggers := ∅
  policyTriggerJson := none
  seqCounter := 0
  terminalSeq := none
  starts := ∅
  pendingTerminal := none
  journal := []

/-- The canonical decoders and `AttemptTerminal::validate`, of which the store reads only
whether they accept. -/
structure EvidenceChecks where
  nodeTerminal : String → Bool
  policyTrigger : String → Bool
  attemptTerminal : AttemptTerminal → Bool

/-! ### Sequenced writes of one task -/

namespace TaskEntry

variable (entry : TaskEntry)

/-- `next_seq`. -/
def nextSeq : TaskEntry :=
  { entry with seqCounter := entry.seqCounter + 1 }

/-- Push an event under the sequence that was allocated last. -/
def push (kind : OrchEventKind) : TaskEntry :=
  { entry with journal := entry.journal ++ [⟨entry.seqCounter, kind⟩] }

def recordNodeStarted (node : NodeId) : Int × TaskEntry :=
  let numbered := entry.nextSeq
  let started := { numbered with starts := numbered.starts.insert node numbered.seqCounter }
  (numbered.seqCounter, started.push (.nodeStarted node.text))

def putNodeCheckpointSequenced (node : NodeId) (output : String) (ok : Bool)
    (usage : Option UsageSnapshot) : Except BridgeError (Int × TaskEntry) :=
  if (entry.checkpoints.lookup node).isSome then .error .storeFailure
  else
    let numbered := entry.nextSeq
    let finished := { numbered with
      starts := numbered.starts.erase node
      checkpoints := numbered.checkpoints.insert node ⟨output, ok, numbered.seqCounter, usage⟩ }
    .ok (numbered.seqCounter, finished.push (.nodeFinished node.text ok output usage none none))

def putNodeCheckpointSequencedV2 (checks : EvidenceChecks) (node : NodeId) (output : String)
    (ok : Bool) (usage : Option UsageSnapshot) (terminalJson : String)
    (policyTriggerJson : Option String) : Except BridgeError (Int × TaskEntry) :=
  if !checks.nodeTerminal terminalJson then .error .storeFailure
  else if !policyTriggerJson.all checks.policyTrigger then .error .storeFailure
  else
    match entry.checkpoints.lookup node with
    | some stored =>
      -- The same evidence again is a replay and answers with the stored sequence.
      if stored.output = output ∧ stored.ok = ok ∧ stored.usage = usage ∧
          entry.nodeTerminals.lookup node = some terminalJson ∧
          entry.nodePolicyTriggers.lookup node = policyTriggerJson then
        .ok (stored.seq, entry)
      else .error .storeFailure
    | none =>
      if policyTriggerJson.isSome && entry.policyTriggerJson.isSome &&
          entry.policyTriggerJson != policyTriggerJson then
        .error .storeFailure
      else
        let numbered := entry.nextSeq
        let finished := { numbered with
          starts := numbered.starts.erase node
          checkpoints := numbered.checkpoints.insert node ⟨output, ok, numbered.seqCounter, usage⟩
          nodeTerminals := numbered.nodeTerminals.insert node terminalJson
          nodePolicyTriggers := match policyTriggerJson with
            | some trigger => numbered.nodePolicyTriggers.insert node trigger
            | none => numbered.nodePolicyTriggers
          policyTriggerJson := policyTriggerJson.or numbered.policyTriggerJson }
        .ok (numbered.seqCounter, finished.push
          (.nodeFinished node.text ok output usage (some terminalJson) policyTriggerJson))

def recordEventSequenced (kind : OrchEventKind) : Int × TaskEntry :=
  let numbered := entry.nextSeq
  (numbered.seqCounter, numbered.push kind)

variable (status : TaskRecordStatus)

/-- The terminal event of a row that ends with `status`. -/
def terminalEvent (result error : Option String) : OrchEventKind :=
  .terminal (terminalStatusFromRecord status) ((result.or error).getD "")

/-- Write the terminal row, remember its sequence and forget the nodes in progress. -/
def settled (result error : Option String) : TaskEntry :=
  { entry with
    row := { entry.row with status, result, error }
    terminalSeq := some entry.seqCounter
    starts := ∅ }

def setTerminalSequenced (result error : Option String) :
    Except BridgeError (Int × TaskEntry) :=
  if status = .working then .error .storeFailure
  else if entry.pendingTerminal.isSome then .error .storeFailure
  else if status = .interrupted ∧ entry.row.status ≠ .working then .error .storeFailure
  else
    let numbered := entry.nextSeq
    .ok (numbered.seqCounter,
      (numbered.settled status result error).push (terminalEvent status result error))

/-- The row status that goes with an outcome of `WorkflowDurableOutcomeV1::parse_closed`. -/
def expectedStatus (outcome : String) : Option TaskRecordStatus :=
  if outcome = "completed" then some .completed
  else if outcome = "completed_degraded" then some .completed
  else if outcome = "failed" then some .failed
  else if outcome = "canceled" then some .canceled
  else if outcome = "interrupted" then some .interrupted
  else none

def setTerminalSequencedPending (checks : EvidenceChecks) (task : TaskId)
    (status : TaskRecordStatus) (result error : Option String) (attemptId : AttemptId)
    (terminal : AttemptTerminal) : Except BridgeError (Int × TaskEntry) :=
  if !status.isTerminal || !checks.attemptTerminal terminal then .error .storeFailure
  else if expectedStatus terminal.outcome ≠ some status then .error .storeFailure
  else
    match entry.pendingTerminal with
    | some pending =>
      if pending.attemptId = attemptId ∧ pending.terminal = terminal ∧
          pending.task.status = status ∧ pending.task.result = result ∧
          pending.task.error = error then
        .ok (pending.terminalSeq, entry)
      else .error .storeFailure
    | none =>
      if !entry.locator.any fun locator =>
          locator.belongsTo task && locator.identity.attemptId == attemptId then
        .error .storeFailure
      else if entry.row.status ≠ .working then .error .storeFailure
      else
        -- The first of the two sequences is reserved for the marker of the attempt.
        let numbered := entry.nextSeq.nextSeq
        let settled := numbered.settled status result error
        let pushed := settled.push (terminalEvent status result error)
        .ok (numbered.seqCounter, { pushed with
          pendingTerminal := some ⟨settled.row, attemptId, numbered.seqCounter, terminal⟩ })

def markTerminalProjectionReady (attemptId : AttemptId) : Except BridgeError TaskEntry :=
  match entry.pendingTerminal with
  | some pending =>
    if pending.attemptId = attemptId then .ok { entry with pendingTerminal := none }
    else .error .storeFailure
  | none => .error .storeFailure

/-- `project_pending_as_working`. -/
def projectPendingAsWorking : TaskRecord :=
  if entry.pendingTerminal.isSome then
    { entry.row with status := .working, result := none, error := none }
  else entry.row

end TaskEntry

/-! ### Reads of one task -/

structure TaskProgressSnapshot where
  status : TaskRecordStatus
  result : Option String
  error : Option String
  checkpoints : List (NodeId × String × Bool × Int)
  starts : List (NodeId × Int)
  terminalSeq : Option Int
  cutSeq : Int
  deriving DecidableEq

structure JournalScalars where
  status : TaskRecordStatus
  result : Option String
  error : Option String
  terminalSeq : Option Int
  cutSeq : Int
  deriving DecidableEq

structure JournalFoldInputs where
  completeFromBirth : Bool
  scalars : JournalScalars
  events : List OrchEvent
  deriving DecidableEq

namespace TaskEntry

variable (entry : TaskEntry)

def pendingSeq : Option Int := entry.pendingTerminal.map PendingTerminalProjection.terminalSeq

/-- Whether a row of the journal is below a terminal that is still withheld. -/
def visible (event : OrchEvent) : Bool := entry.pendingSeq.all fun terminal => event.seq < terminal

def journalFrom (afterSeq : Int) : List OrchEvent :=
  (entry.journal.filter fun event => decide (afterSeq < event.seq) && entry.visible event).insertionSort
    fun left right => left.seq ≤ right.seq

/-- The row and the numbers both projections start from. -/
def scalars : JournalScalars where
  status := entry.projectPendingAsWorking.status
  result := entry.projectPendingAsWorking.result
  error := entry.projectPendingAsWorking.error
  terminalSeq := if entry.pendingSeq.isSome then none else entry.terminalSeq
  cutSeq := (entry.pendingSeq.map fun seq => seq - 1).getD entry.seqCounter

def journalFoldInputs : JournalFoldInputs where
  completeFromBirth := entry.birth
  scalars := entry.scalars
  events := (entry.journal.filter entry.visible).insertionSort fun left right => left.seq ≤ right.seq

def progressSnapshot : TaskProgressSnapshot :=
  let scalars := entry.scalars
  let checkpoints := (entry.checkpoints.entries.map fun checkpoint =>
      (checkpoint.1, checkpoint.2.output, checkpoint.2.ok, checkpoint.2.seq)).insertionSort
    fun left right => left.2.2.2 ≤ right.2.2.2
  let starts := entry.starts.entries.map fun start => (start.1, start.2)
  let maxIncluded := ((checkpoints.map fun checkpoint => checkpoint.2.2.2) ++
    starts.map Prod.snd ++ scalars.terminalSeq.toList).max?.getD 0
  { status := scalars.status
    result := scalars.result
    error := scalars.error
    checkpoints
    starts
    terminalSeq := scalars.terminalSeq
    cutSeq := max scalars.cutSeq maxIncluded }

end TaskEntry

/-- The finished nodes and the nodes in progress that a fold has gathered. -/
structure FoldMarks where
  checkpoints : List (NodeId × String × Bool × Int) := []
  starts : List (NodeId × Int) := []
  deriving DecidableEq

def foldEvent (marks : FoldMarks) (event : OrchEvent) : Except BridgeError FoldMarks :=
  match event.kind with
  | .nodeStarted text => do
      let node ← NodeId.parse text
      pure { marks with
        starts := (marks.starts.filter fun started => started.1 ≠ node) ++ [(node, event.seq)] }
  | .nodeFinished text ok output _ _ _ => do
      let node ← NodeId.parse text
      pure {
        starts := marks.starts.filter fun started => started.1 ≠ node
        checkpoints := marks.checkpoints ++ [(node, output, ok, event.seq)] }
  | .terminal .. => pure { marks with starts := [] }
  | _ => pure marks

def foldJournalToSnapshot (events : List OrchEvent) (scalars : JournalScalars) :
    Except BridgeError TaskProgressSnapshot := do
  let marks ← events.foldlM foldEvent {}
  pure {
    status := scalars.status
    result := scalars.result
    error := scalars.error
    checkpoints := marks.checkpoints
    starts := marks.starts
    terminalSeq := scalars.terminalSeq
    cutSeq := scalars.cutSeq }

/-! ### The store -/

structure MemoryTaskStore where
  tasks : AList fun _ : TaskId => TaskEntry
  /-- Execution, ordinal and task of every attempt that was ever admitted. -/
  attemptIdentities : AList fun _ : AttemptId => String × Nat × TaskId

def MemoryTaskStore.empty : MemoryTaskStore := ⟨∅, ∅⟩

namespace MemoryTaskStore

variable (store : MemoryTaskStore) (task : TaskId)

/-- Run a call on the rows of one task. -/
def onTask {α : Type} (act : TaskEntry → Except BridgeError (α × TaskEntry)) :
    Except BridgeError (α × MemoryTaskStore) :=
  match store.tasks.lookup task with
  | none => .error .storeFailure
  | some entry => do
      let answer ← act entry
      pure (answer.1, { store with tasks := store.tasks.insert task answer.2 })

def admitted (identity : AttemptIdentity) : Bool :=
  (store.attemptIdentities.lookup identity.attemptId).isSome ||
    store.attemptIdentities.entries.any fun known =>
      known.2.1 == identity.executionId && known.2.2.1 == identity.ordinal

def admitting (identity : AttemptIdentity) : MemoryTaskStore :=
  { store with
    attemptIdentities := store.attemptIdentities.insert identity.attemptId
      (identity.executionId, identity.ordinal, task) }

def create (record : TaskRecord) : Except BridgeError MemoryTaskStore :=
  if (store.tasks.lookup record.id).isSome then .error .storeFailure
  else .ok { store with tasks := store.tasks.insert record.id (.created record none) }

def reads (locator : TaskAttemptLocator) : AttemptReads where
  row := (store.tasks.lookup task).map TaskEntry.row
  locator := (store.tasks.lookup task).bind TaskEntry.locator
  known := store.admitted locator.identity

/-- A task that is inserted with its locator. -/
def enroll (record : TaskRecord) (locator : TaskAttemptLocator) :
    Except BridgeError MemoryTaskStore := do
  (store.reads record.id locator).enroll
  pure { store.admitting record.id locator.identity with
    tasks := store.tasks.insert record.id (.created record (some locator)) }

def createWithAttemptLocator (record : TaskRecord) (locator : TaskAttemptLocator) :
    Except BridgeError MemoryTaskStore :=
  if !locator.belongsTo record.id then .error .storeFailure else store.enroll record locator

def claimBatchChildWithLocator (batch : BatchId) (item : String) (record : TaskRecord)
    (locator : TaskAttemptLocator) : Except BridgeError (ChildClaim × MemoryTaskStore) :=
  if !locator.belongsTo record.id then .error .storeFailure
  else
    match store.tasks.entries.find? fun known => known.2.row.isChild batch item with
    | some known => .ok (known.2.row.childClaim, store)
    | none => do
      let admitted ← store.enroll (record.asChild batch item) locator
      pure (.created, admitted)

def putAttemptLocator (locator : TaskAttemptLocator) : Except BridgeError MemoryTaskStore := do
  (store.reads task locator).put task locator
  let put ← store.onTask task fun entry => .ok ((), { entry with locator := some locator })
  pure (put.2.admitting task locator.identity)

def markAttemptTelemetryUnavailable (attempt : AttemptId) (reason : LedgerUnavailableReason) :
    Except BridgeError MemoryTaskStore := do
  let marked ← store.onTask task fun entry => do
    let locator ← (⟨entry.row, entry.locator, false⟩ : AttemptReads).mark attempt reason
    pure ((), { entry with locator := some locator })
  pure marked.2

def claimResumeAttemptWithLocator (cap : Nat) (expected next : TaskAttemptLocator) :
    Except BridgeError (ResumeClaim × MemoryTaskStore) := do
  match ← (store.reads task next).resume task cap expected next with
  | none => pure (.exhausted, store)
  | some row =>
    let resumed ← store.onTask task fun entry =>
      .ok ((), { entry with row, locator := some next })
    pure (.resumable row.resumeAttempts, resumed.2.admitting task next.identity)

end MemoryTaskStore

/-! ### Histories of a store -/

inductive StoreCall where
  | create (record : TaskRecord)
  | createWithAttemptLocator (record : TaskRecord) (locator : TaskAttemptLocator)
  | claimBatchChildWithLocator (batch : BatchId) (item : String) (record : TaskRecord)
      (locator : TaskAttemptLocator)
  | putAttemptLocator (task : TaskId) (locator : TaskAttemptLocator)
  | markAttemptTelemetryUnavailable (task : TaskId) (attempt : AttemptId)
      (reason : LedgerUnavailableReason)
  | claimResumeAttemptWithLocator (task : TaskId) (cap : Nat) (expected next : TaskAttemptLocator)
  | recordNodeStarted (task : TaskId) (node : NodeId)
  | putNodeCheckpointSequenced (task : TaskId) (node : NodeId) (output : String) (ok : Bool)
      (usage : Option UsageSnapshot)
  | putNodeCheckpointSequencedV2 (task : TaskId) (node : NodeId) (output : String) (ok : Bool)
      (usage : Option UsageSnapshot) (terminalJson : String) (policyTriggerJson : Option String)
  | recordEventSequenced (task : TaskId) (kind : RichEventKind)
  | setTerminalSequenced (task : TaskId) (status : TaskRecordStatus) (result error : Option String)
  | setTerminalSequencedPending (task : TaskId) (status : TaskRecordStatus)
      (result error : Option String) (attemptId : AttemptId) (terminal : AttemptTerminal)
  | markTerminalProjectionReady (task : TaskId) (attemptId : AttemptId)

def MemoryTaskStore.answer (checks : EvidenceChecks) (store : MemoryTaskStore) :
    StoreCall → Except BridgeError MemoryTaskStore
  | .create record => store.create record
  | .createWithAttemptLocator record locator => store.createWithAttemptLocator record locator
  | .claimBatchChildWithLocator batch item record locator =>
    Prod.snd <$> store.claimBatchChildWithLocator batch item record locator
  | .putAttemptLocator task locator => store.putAttemptLocator task locator
  | .markAttemptTelemetryUnavailable task attempt reason =>
    store.markAttemptTelemetryUnavailable task attempt reason
  | .claimResumeAttemptWithLocator task cap expected next =>
    Prod.snd <$> store.claimResumeAttemptWithLocator task cap expected next
  | .recordNodeStarted task node =>
    Prod.snd <$> store.onTask task fun entry => .ok (entry.recordNodeStarted node)
  | .putNodeCheckpointSequenced task node output ok usage =>
    Prod.snd <$> store.onTask task fun entry =>
      entry.putNodeCheckpointSequenced node output ok usage
  | .putNodeCheckpointSequencedV2 task node output ok usage terminalJson policyTriggerJson =>
    Prod.snd <$> store.onTask task fun entry =>
      entry.putNodeCheckpointSequencedV2 checks node output ok usage terminalJson policyTriggerJson
  | .recordEventSequenced task kind =>
    Prod.snd <$> store.onTask task fun entry => .ok (entry.recordEventSequenced kind.1)
  | .setTerminalSequenced task status result error =>
    Prod.snd <$> store.onTask task fun entry => entry.setTerminalSequenced status result error
  | .setTerminalSequencedPending task status result error attemptId terminal =>
    Prod.snd <$> store.onTask task fun entry =>
      entry.setTerminalSequencedPending checks task status result error attemptId terminal
  | .markTerminalProjectionReady task attemptId =>
    Prod.snd <$> store.onTask task fun entry =>
      (fun ready => ((), ready)) <$> entry.markTerminalProjectionReady attemptId

/-- One call of a history; a call that fails leaves the store as it was and is no step. -/
def MemoryTaskStore.step (checks : EvidenceChecks) (store : MemoryTaskStore) (call : StoreCall) :
    Option MemoryTaskStore :=
  (store.answer checks call).toOption

end A2aBridge.Tasks
