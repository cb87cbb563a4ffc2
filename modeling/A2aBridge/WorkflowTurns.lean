import A2aBridge.StatefulRefusal
import A2aBridge.WorkflowRuns

/-!
One pass of the scheduling loop up to the completions it takes: the cancellation macros,
the wait of `scheduler_select_v1!`, the drain with its arbitration, and the action of the
selected arm. What a pass gets from outside is a `Turn`: the arm that woke it with the
completions that were ready, every clock reading, and for every read of the cancellation
token whether an external cancellation came before it. The cadence of no-progress warnings
is left out; its arm only writes a log line.
-/

namespace A2aBridge.Workflow

open Harvest

abbrev Exec := EStateM AccountingFailure Run

structure NodeHarvestMeta where
  turnId : String
  mode : HarvestSanitizationMode
  capability : PrefixAttestationCapability
  producerId : String
  status : PrefixAttestationStatus
  origin : CompletionBodyOrigin
  deriving DecidableEq

structure NodeRunOutput where
  output : NodeOutput
  disposition : NodeDisposition
  primaryError : Option BridgeError
  harvest : NodeHarvestMeta
  candidateCompletion : Bool
  deriving DecidableEq

/-- `node_run_output`: the output of a bridge-made exit, which needs a fresh turn id. -/
def syntheticOutput (node : WorkflowNode) (turnId : Except BridgeError String) (text : String)
    (disposition : NodeDisposition) (origin : CompletionBodyOrigin) :
    Except AccountingFailure NodeRunOutput :=
  match turnId with
  | .error error => .error (.of error)
  | .ok turnId =>
    .ok {
      output := ⟨text, false, none⟩
      disposition := disposition
      primaryError := none
      harvest :=
        { turnId := turnId
          mode := node.harvestSanitization.getD .off
          capability := .unsupported .backendDeclaredIncapable
          producerId := node.agent
          status := .unavailableV1 ⟨"", "", .backendDeclaredIncapable⟩
          origin := origin }
      candidateCompletion := false }

/-- One completion as it arrives: the answer of a running node, the turn id minted for a
bridge-made output, what the cleanup tracker holds for the node, the failure of its audit
commit, and whether an external cancellation precedes the token read made for it. -/
structure Completion where
  node : NodeId
  readyAtMs : Nat
  result : Except AccountingFailure NodeRunOutput
  turnId : Except BridgeError String
  cleanup : NodeCleanup
  cleanupError : Option BridgeError
  auditError : Option BridgeError
  cancelSeen : Bool

inductive Signal where
  | completions (first : Completion) (rest : List Completion)
  | barrierAcknowledgement (answer : PolicyTriggerBarrierResult)
  | control (arm : SchedulerArm)

structure Closing where
  cancelAtExit : Bool
  cancelAtOutcome : Bool
  cleanupDisposition : WorkflowCleanupDisposition
  cleanupMs : Nat

structure Turn where
  cancelAtHead : Bool
  cancelBeforeWait : Bool
  cancelDuringWait : Bool
  signal : Signal
  barrierPoll : Option PolicyTriggerBarrierResult
  cancelAtArbitration : Bool
  graceClockMs : Nat
  cutoffClockMs : Nat
  noProgressDue : Bool
  armClockMs : Nat
  cancelAtAcknowledgement : Bool
  transfers : List (NodeId × Except BridgeError Bool)
  cancelAfterTransfer : Bool
  barrierAnswer : PolicyTriggerBarrierResult
  publishFailure : NodeId → Option BridgeError
  cancelAfterPublish : Bool
  cancelBeforeAdmission : Bool
  /-- The clock when nodes are admitted; the loop does not read it. -/
  admissionClockMs : Nat
  closing : Closing

namespace Invocation

variable (inv : Invocation)

/-- `AttemptScheduleV1::observe(...).elapsed_ms`. -/
def elapsedMs (clockMs : Nat) : Nat := clockMs - inv.startedMs

def isDue (boundMs clockMs : Nat) : Bool := decide (boundMs ≤ inv.elapsedMs clockMs)

def barrierResult (answer : PolicyTriggerBarrierResult) : PolicyTriggerBarrierResult :=
  match inv.authority with
  | none => .primaryFailed
  | some authority =>
    reachPolicyTriggerBarrier authority.ledgerAdmission
      (if inv.barrierConfigured then some answer else none)

/-- `cleanup_deadline_after_cancellation_ms_v1` for a cancellation at `anchorMs`. -/
def cleanupDeadlineMs (anchorMs : Nat) : Nat :=
  let anchor := inv.elapsedMs anchorMs
  min (saturatingAdd anchor CLEANUP_TAIL_MS) (saturatingAdd inv.schedulerWorkCutoffMs CLEANUP_TAIL_MS)
    - anchor

end Invocation

def orInsert {α : Type} (map : NodeMap α) (node : NodeId) (value : α) : NodeMap α :=
  if (map.lookup node).isSome then map else map.insert node value

namespace Control

variable (control : Control)

/-- A read of the token, before which an external cancellation may arrive. -/
def sample (external : Bool) : Control :=
  { control with cancelled := control.cancelled || external }

/-- `observe_external_root_cancellation!`. -/
def observe (seen : Bool) : Control :=
  if seen && control.rootCancellationPrimary.isNone then
    { control with
      rootCancellationPrimary := some .canceledWorkflow
      cancellationPrimaries := control.nodeCancels.keys.foldl
        (fun primaries node => orInsert primaries node .canceledWorkflow)
        control.cancellationPrimaries }
  else control

def sampleObserve (external : Bool) : Control :=
  (control.sample external).observe (control.sample external).cancelled

variable (primary : NodePrimaryDisposition)

/-- `record_cancellation_primary!`. -/
def record (control : Control) (node : NodeId) : Control :=
  { control with
    rootCancellationPrimary :=
      if primary = .canceledWorkflow then control.rootCancellationPrimary.or (some primary)
      else control.rootCancellationPrimary
    cancellationPrimaries := orInsert control.cancellationPrimaries node primary }

/-- The primary is recorded and the node's token is cancelled. -/
def cancelNode (control : Control) (node : NodeId) : Control :=
  if (control.nodeCancels.lookup node).isSome then
    { control.record primary node with nodeCancels := control.nodeCancels.insert node true }
  else control

def cancelAll : Control := control.nodeCancels.keys.foldl (cancelNode primary) control

/-- `GlobalCancelAndDrain`: running nodes are attributed to the policy, then the root token
is cancelled. -/
def globalCancel : Control :=
  let recorded := control.nodeCancels.keys.foldl (record .canceledPolicy) control
  { recorded with
    rootCancellationPrimary := recorded.rootCancellationPrimary.or (some .canceledPolicy)
    cancelled := true }

/-- `arm_scheduler_cleanup!`. -/
def armCleanup (inv : Invocation) (anchorMs : Nat) (control : Control) : Control :=
  if control.schedulerCleanup.isNone then
    { control with schedulerCleanup := some (anchorMs, inv.cleanupDeadlineMs anchorMs) }
  else control

def stop : Control := { control with stopScheduling := true }

def observeArm (arm : SchedulerArm) : Control :=
  { control with observedArms := insert arm control.observedArms }

/-- The head of the loop. -/
def head (external : Bool) : Control :=
  let observed := control.sampleObserve external
  if observed.nodeCancels.keys.isEmpty then
    { observed with schedulerCleanup := none, fixedGraceDueMs := none }
  else observed

end Control

variable (inv : Invocation)

/-- `scheduler_impossibility_proof_v1`: every route is closed and the terminal node can no
longer answer. -/
def routesClosed (progress : Progress) (control : Control) : Bool :=
  let abandoned := fun id => control.stopScheduling && (control.nodeCancels.lookup id).isNone
  let closed := fun id => decide (id ∈ progress.done) || abandoned id
  match inv.graph.terminal with
  | none => false
  | some terminal =>
    !inv.graph.nodes.isEmpty && (inv.graph.nodes.all fun node => closed node.id) &&
      closed terminal.id && decide (terminal.id ∉ progress.done) && abandoned terminal.id

def impossibilityProved (run : Run) : Bool :=
  inv.schedulerActive && run.control.budgetFailure.isNone &&
    routesClosed inv run.progress run.control &&
    decide (SchedulerArm.mechanicallyProvedImpossibility ∉ run.control.observedArms)

/-- The loop is left when nothing is running and nothing is held back. -/
def Run.isIdle (run : Run) : Bool :=
  run.progress.inflight.isEmpty && run.policy.durableTriggerBarrier.isNone &&
    run.policy.durableTriggerAcknowledgement.isNone && run.retained.completed.isEmpty

structure Ready where
  flight : Flight
  completion : Completion

def Ready.observed (ready : Ready) : ReadyNodeCompletion :=
  ⟨ready.flight.node.id, ready.completion.readyAtMs⟩

def takeFlight (node : NodeId) : List Flight → Option (Flight × List Flight)
  | [] => none
  | flight :: rest =>
    if flight.node.id = node then some (flight, rest)
    else (takeFlight node rest).map fun taken => (taken.1, flight :: taken.2)

/-- Every completion belongs to a node in flight, which it removes. -/
def takeReady : List Completion → List Flight → Option (List Ready × List Flight)
  | [], inflight => some ([], inflight)
  | completion :: rest, inflight =>
    match takeFlight completion.node inflight with
    | none => none
    | some (flight, left) =>
      (takeReady rest left).map fun taken => (⟨flight, completion⟩ :: taken.1, taken.2)

/-- The run after the wait, with the arm it acts on and the completions it drained. -/
structure Received where
  run : Run
  arm : SchedulerArm
  ready : List Ready
  postCutoff : List NodeId

/-- A drained batch polls an unanswered barrier once. -/
def Policy.poll (answer : Option PolicyTriggerBarrierResult) (policy : Policy) :
    Policy :=
  if policy.durableTriggerAcknowledgement.isNone && policy.durableTriggerBarrier.isSome then
    match answer with
    | none => policy
    | some answer =>
      { policy with
        durableTriggerBarrier := none
        durableTriggerAcknowledgement := some (inv.barrierResult answer) }
  else policy

variable (turn : Turn) (run : Run) (proved : Bool)

def readinessOf :
    SchedulerArbitrationReadiness where
  readyNodeCompletions := []
  durableTriggerBarrierAcknowledgements := run.policy.durableTriggerAcknowledgement.isSome
  workflowOrExternalCancellation := run.control.cancelled &&
    decide (SchedulerArm.workflowOrExternalCancellation ∉ run.control.observedArms)
  fixedGraceExpired := run.control.fixedGraceDueMs.any fun bound => inv.isDue bound turn.graceClockMs
  absoluteCutoffReached :=
    decide (SchedulerArm.absoluteCutoff ∉ run.control.observedArms) &&
      inv.isDue inv.schedulerWorkCutoffMs turn.cutoffClockMs
  mechanicalImpossibilityProved := proved
  noProgressSnapshotDue := turn.noProgressDue

def tieFactsOf : SchedulerTieFacts where
  absoluteCutoffAtMs := saturatingAdd inv.startedMs inv.schedulerWorkCutoffMs
  inflightNodes := run.control.nodeCancels.keys

def arbitrationOf (ready : List Ready) :
    ArbitratedReadyBatch Ready :=
  arbitrateReadyBatch Ready.observed ready (readinessOf inv turn run proved) (tieFactsOf inv run)

/-- A cutoff that ties with the batch cancels the nodes still running. -/
def Control.applyArbitration (anchorMs : Nat) (batch : ArbitratedReadyBatch Ready)
    (control : Control) : Control :=
  let armed := if batch.cutoffApplied then control.armCleanup inv anchorMs else control
  let cancelled := batch.nodesToCancel.foldl (Control.cancelNode .canceledPolicy) armed
  if batch.cutoffApplied then (cancelled.observeArm .absoluteCutoff).stop else cancelled

/-- A drained batch in node order, arbitrated when the scheduler is active. -/
def drain (ready : List Ready) :
    Received :=
  let polled := { run with policy := run.policy.poll inv turn.barrierPoll }
  if inv.schedulerActive then
    let sampled := { polled with control := polled.control.sample turn.cancelAtArbitration }
    let batch := arbitrationOf inv turn sampled proved ready
    { run := { sampled with
        control := sampled.control.applyArbitration inv turn.armClockMs batch }
      arm := batch.winner
      ready := batch.ready
      postCutoff := batch.postCutoffNodes }
  else
    { run := polled
      arm := .drainReadyNodeCompletions
      ready := ready.insertionSort (beforeBy Ready.observed)
      postCutoff := [] }

/-- The guards of the control arms of `scheduler_select_v1!`. -/
def controlEnabled :
    SchedulerArm → Bool
  | .drainReadyNodeCompletions => false
  | .durableTriggerBarrierAcknowledgements => run.policy.durableTriggerAcknowledgement.isSome
  | .workflowOrExternalCancellation => run.control.cancelled &&
      decide (SchedulerArm.workflowOrExternalCancellation ∉ run.control.observedArms)
  | .fixedGraceExpiry =>
    run.control.fixedGraceDueMs.any fun bound => inv.isDue bound turn.graceClockMs
  | .absoluteCutoff => decide (SchedulerArm.absoluteCutoff ∉ run.control.observedArms) &&
      inv.isDue inv.schedulerWorkCutoffMs turn.cutoffClockMs
  | .mechanicallyProvedImpossibility => proved
  | .dueNoProgressSnapshots | .waitForNodeActivityControlOrClock => true

/-- The wait of one pass. A signal the state does not allow is not received. -/
def receive : Option Received :=
  let proved := impossibilityProved inv run
  let woken := { run with control := run.control.sample turn.cancelDuringWait }
  match turn.signal with
  | .completions first rest =>
    match takeReady (first :: rest) woken.progress.inflight with
    | none => none
    | some (ready, inflight) =>
      let observed := { woken with
        progress := { woken.progress with inflight := inflight }
        control := woken.control.observe woken.control.cancelled }
      some (drain inv turn observed proved ready)
  | .barrierAcknowledgement answer =>
    if inv.schedulerActive && woken.policy.durableTriggerBarrier.isSome then
      some {
        run := { woken with
          policy := { woken.policy with
            durableTriggerBarrier := none
            durableTriggerAcknowledgement := some (inv.barrierResult answer) } }
        arm := .durableTriggerBarrierAcknowledgements
        ready := []
        postCutoff := [] }
    else none
  | .control arm =>
    if inv.schedulerActive && controlEnabled inv turn woken proved arm then
      some { run := woken, arm := arm, ready := [], postCutoff := [] }
    else none

def modifyControl (change : Control → Control) : Exec Unit :=
  modify fun run => { run with control := change run.control }

def refuse {α : Type} (error : BridgeError) : Exec α := throw (.of error)

/-- `ArmManualGrace` of the acknowledgement arm. -/
def armManualGrace (graceMs : Nat) : Exec Unit := do
  let run ← get
  let now := inv.elapsedMs turn.armClockMs
  match run.policy.controller.bind FanOutController.trigger with
  | none => refuse .invalidStateTransition
  | some trigger =>
    match run.control.fixedGraceTimer.arm trigger.node trigger.id graceMs now
        inv.schedulerWorkCutoffMs with
    | .error _ => refuse .invalidStateTransition
    | .ok timer =>
      modifyControl fun control =>
        { control with
          fixedGraceTimer := timer
          fixedGraceDueMs := some (saturatingAdd now graceMs) }

/-- The result is handed to the controller, and its selected completion gets the result as
evidence. -/
def Run.acknowledge (result : PolicyTriggerBarrierResult) (cancelled : Bool) :
    PolicyAction × Run :=
  let evidence :=
    match run.policy.barrierSelectedEvidence with
    | none => run.retained.evidence
    | some (node, selected) =>
      run.retained.evidence.insert node { selected with barrierResult := some result }
  let parked := { run with
    policy := { run.policy with
      durableTriggerAcknowledgement := none
      barrierSelectedEvidence := none }
    retained := { run.retained with evidence := evidence } }
  match run.policy.controller with
  | none => (.none, parked)
  | some controller =>
    let answered := controller.acknowledgeBarrier result cancelled
    (answered.1, { parked with
      policy := { parked.policy with controller := some answered.2 }
      trace := parked.trace ++ [.acknowledged result] })

def acknowledgeArm : Exec Unit := do
  modifyControl fun control => control.sampleObserve turn.cancelAtAcknowledgement
  let run ← get
  match run.policy.durableTriggerAcknowledgement with
  | none => pure ()
  | some result =>
    let answered := run.acknowledge result run.control.cancelled
    set answered.2
    match answered.1 with
    | .cancelRunningSiblings =>
      modifyControl fun control =>
        (control.armCleanup inv turn.armClockMs).cancelAll .canceledPolicy
    | .globalCancelAndDrain =>
      modifyControl fun control => (control.armCleanup inv turn.armClockMs).globalCancel
    | .armManualGrace graceMs => armManualGrace inv turn graceMs
    | .none => pure ()

/-- The arms that stop the run: cancellation, the cutoff and a proved impossibility. -/
def Control.stopArm (anchorMs : Nat) (arm : SchedulerArm) (control : Control) :
    Control :=
  (((control.observeArm arm).stop).armCleanup inv anchorMs).cancelAll
    (if arm = .workflowOrExternalCancellation then .canceledWorkflow else .canceledPolicy)

def graceArm : Exec Unit := do
  modifyControl fun control => { control with fixedGraceDueMs := none }
  let run ← get
  match run.control.fixedGraceTimer.observeElapsed (inv.elapsedMs turn.armClockMs),
      run.policy.controller with
  | .ok timer, some controller =>
    match controller.expireManualGrace with
    | (.cancelRunningSiblings, expired) =>
      set { run with
        control := ({ run.control with fixedGraceTimer := timer }.armCleanup inv
          turn.armClockMs).cancelAll .canceledPolicy
        policy := { run.policy with controller := some expired } }
    | _ => refuse .invalidStateTransition
  | _, _ => refuse .invalidStateTransition

/-- The outcome of one cleanup transfer: an error ends the run, and a node whose transfers
were all recorded is terminalized. -/
def transferFailure (control : Control) (transfers : List (NodeId × Except BridgeError Bool)) :
    Option BridgeError :=
  (transfers.filter fun transfer => (control.nodeCancels.lookup transfer.1).isSome).findSome?
    fun transfer =>
      match transfer.2 with
      | .error error => some error
      | .ok _ => none

def isRecorded : Except BridgeError Bool → Bool
  | .ok recorded => recorded
  | .error _ => false

def Control.terminalize (control : Control) (transfers : List (NodeId × Except BridgeError Bool)) :
    Control :=
  let moved := control.nodeCancels.keys.filter fun node =>
    (transfers.any fun transfer => transfer.1 == node) &&
      transfers.all fun transfer => transfer.1 != node || isRecorded transfer.2
  { control with
    schedulerCleanup := none
    postTransferTerminalizers := moved.foldl (fun tokens node => tokens.insert node true)
      control.postTransferTerminalizers }

def waitArm : Exec Unit := do
  let run ← get
  if run.control.schedulerCleanup.isSome then
    match transferFailure run.control turn.transfers with
    | some error => refuse error
    | none => modifyControl fun control => control.terminalize turn.transfers
  modifyControl fun control => control.sampleObserve turn.cancelAfterTransfer

def act : SchedulerArm → Exec Unit
  | .drainReadyNodeCompletions => pure ()
  | .durableTriggerBarrierAcknowledgements => acknowledgeArm inv turn
  | .workflowOrExternalCancellation =>
    modifyControl (Control.stopArm inv turn.armClockMs .workflowOrExternalCancellation)
  | .absoluteCutoff => modifyControl (Control.stopArm inv turn.armClockMs .absoluteCutoff)
  | .mechanicallyProvedImpossibility =>
    modifyControl (Control.stopArm inv turn.armClockMs .mechanicallyProvedImpossibility)
  | .fixedGraceExpiry => graceArm inv turn
  | .dueNoProgressSnapshots => pure ()
  | .waitForNodeActivityControlOrClock => waitArm turn

end A2aBridge.Workflow
