import A2aBridge.WorkflowTurns

/-!
The rest of the scheduling loop in bridge-workflow/executor.rs: a drained completion is
settled into an output and a terminal record, the batch goes through the fan-out
controller, held completions are published once no barrier is out, and newly ready nodes
are admitted. When the loop is idle the sweep gives every node without a record one, and
the run ends with its cleanup and terminal events. Settling the materialized checkouts is
left out.
-/

namespace A2aBridge.Workflow

open Harvest

def Flight.raw (flight : Flight) (completion : Completion) :
    Except AccountingFailure NodeRunOutput :=
  match flight.course with
  | .unprepared error => .error (.of error)
  | .skipped _ =>
    syntheticOutput flight.node completion.turnId
      ("[node " ++ flight.node.id ++ " skipped: dependency failure]") .skippedDependency
      .bridgeSyntheticStreamError
  | .running .. => completion.result

def Flight.degradedAncestry (flight : Flight) : Bool :=
  match flight.course with
  | .running _ degradedAncestry => degradedAncestry
  | .unprepared _ | .skipped _ => false

def Flight.dependencySet (flight : Flight) : Option DependencySetRef :=
  match flight.course with
  | .skipped dependencySet => some dependencySet
  | .unprepared _ | .running .. => none

namespace Control

variable (control : Control)

/-- The node no longer runs: its token and its terminalizer are removed. -/
def release (node : NodeId) : Control :=
  { control with
    nodeCancels := control.nodeCancels.erase node
    postTransferTerminalizers := control.postTransferTerminalizers.erase node }

/-- `budget_failure.get_or_insert`. -/
def noteBudget (failure : AccountingFailure) : Control :=
  { control with budgetFailure := control.budgetFailure.or (some failure) }

def stopOnBudget : Control :=
  { control with stopScheduling := control.stopScheduling || control.budgetFailure.isSome }

end Control

/-- The node's answer, where a refused budget becomes a failed output of its own. -/
def takeOutput (ready : Ready) : Exec NodeRunOutput :=
  match ready.flight.raw ready.completion with
  | .ok raw => pure raw
  | .error failure =>
    if failure.original.isBudgetRefused then
      match syntheticOutput ready.flight.node ready.completion.turnId
          ("[node " ++ ready.flight.node.id ++ " failed: " ++ failure.original.clientMessage ++ "]")
          .failed .bridgeSyntheticStreamError with
      | .error fault => throw fault
      | .ok synthetic => do
          modifyControl fun control => control.noteBudget failure
          pure { synthetic with primaryError := some failure.original }
    else
      throw failure

def Control.noteRefusal (control : Control) (primaryError : Option BridgeError) : Control :=
  match primaryError with
  | some error => if error.isBudgetRefused then control.noteBudget (.of error) else control
  | none => control

/-- The disposition after the cutoff and degraded-ancestry rules. -/
def settledDisposition (postCutoff degradedAncestry : Bool) (disposition : NodeDisposition) :
    NodeDisposition :=
  let late := if postCutoff then .canceled else disposition
  if late = .completed ∧ degradedAncestry = true then .completedDegraded else late

variable (inv : Invocation)

/-- The body released downstream: sanitized when any node that can still run asks for it. -/
def effectiveBody (raw : NodeRunOutput) : String :=
  if inv.auditRequired then
    (sanitizeHarvest inv.sha raw.harvest.mode raw.harvest.origin raw.harvest.capability
      raw.harvest.producerId raw.harvest.turnId raw.output.text raw.harvest.status).effectiveBody
  else raw.output.text

def primaryOf (control : Control) (node : NodeId) (terminalError : Option BridgeError) :
    NodeDisposition → NodePrimaryDisposition
  | .completed | .completedDegraded => .completed
  | .failed => if terminalError.any BridgeError.isTimeoutError then .timedOut else .failed
  | .canceled =>
    (control.cancellationPrimaries.lookup node).getD
      (if control.rootCancellationPrimary = some .canceledWorkflow then .canceledWorkflow
       else .canceledNode)
  | .skippedDependency => .skippedDependency
  | .notStartedPolicy => .notStartedPolicy

def terminalOf (control : Control) (ready : Ready) (raw : NodeRunOutput)
    (disposition : NodeDisposition) : NodeTerminal :=
  let terminalError := raw.primaryError.or ready.completion.cleanupError
  { schemaVersion := EXECUTION_POLICY_SCHEMA_V1
    primary := primaryOf control ready.flight.node.id terminalError disposition
    cleanup := ready.completion.cleanup
    cause := (ready.flight.dependencySet.map NodeCause.skippedDependency).or
      (terminalError.map NodeCause.fromBridgeError)
    promptMayHaveBeenAccepted := promptAcceptanceForTerminal raw.primaryError
    degradedAncestry := ready.flight.degradedAncestry
    policyTriggerId := none }

structure Settled where
  completed : CompletedNode
  terminal : NodeTerminal

def Settled.ready (settled : Settled) : ReadyNodeTerminal :=
  ⟨settled.completed.node, settled.terminal⟩

/-- One completion of the batch. A canceled node looks at the root token again before its
cause is read. -/
def settleCompletion (postCutoffNodes : List NodeId) (ready : Ready) :
    Exec Settled := do
  let node := ready.flight.node.id
  modifyControl fun control => control.release node
  let raw ← takeOutput ready
  modifyControl fun control => (control.noteRefusal raw.primaryError).stopOnBudget
  let postCutoff := decide (node ∈ postCutoffNodes)
  let disposition := settledDisposition postCutoff ready.flight.degradedAncestry raw.disposition
  if inv.auditRequired then
    match ready.completion.auditError with
    | some error => refuse error
    | none => pure ()
  if disposition = .canceled then
    modifyControl fun control => control.sampleObserve ready.completion.cancelSeen
  let run ← get
  return {
    completed :=
      { node := node
        output := ⟨effectiveBody inv raw, raw.output.ok && !postCutoff, raw.output.usage⟩
        disposition := disposition
        candidateCompletion := raw.candidateCompletion }
    terminal := terminalOf run.control ready raw disposition }

def settleReady (inv : Invocation) (postCutoffNodes : List NodeId) :
    List Ready → Exec (List Settled)
  | [] => pure []
  | ready :: rest => do
      let first ← settleCompletion inv postCutoffNodes ready
      let others ← settleReady inv postCutoffNodes rest
      return first :: others

/-! The batch at the fan-out controller. -/

def ofExcept {α : Type} : Except BridgeError α → Exec α
  | .ok value => pure value
  | .error error => refuse error

/-- The evidence of every record of a batch. Only the record that carries the trigger's id
gets the trigger text. -/
def encodeEvidence (codec : EvidenceCodec) (trigger : Option PolicyTrigger)
    (triggerJson : Option String) : List ReadyNodeTerminal → Except BridgeError (NodeMap NodeEvidence)
  | [] => .ok ∅
  | ready :: rest =>
    match canonicalTerminalJson codec ready.terminal with
    | .error error => .error error
    | .ok terminalJson =>
      let selected := trigger.any fun trigger =>
        ready.terminal.policyTriggerId == some trigger.id
      (encodeEvidence codec trigger triggerJson rest).map fun evidence =>
        evidence.insert ready.node ⟨terminalJson, if selected then triggerJson else none, none⟩

def selectedNode (selection : ReadyBatchSelection) : Option NodeId :=
  (selection.terminals.reverse.find? fun ready =>
    selection.trigger.any fun trigger => ready.terminal.policyTriggerId == some trigger.id).map
      ReadyNodeTerminal.node

def Progress.record (progress : Progress) (terminals : List ReadyNodeTerminal) : Progress :=
  { progress with
    nodeTerminals := terminals.foldl (fun map ready => map.insert ready.node ready.terminal)
      progress.nodeTerminals }

/-- With an active scheduler the trigger's barrier goes out, and the evidence of the
selected node is parked until its acknowledgement. -/
def sendBarrier (node : NodeId) (checkpoint : PolicyTriggerCheckpoint) (evidence : NodeEvidence) :
    Exec Unit := do
  let run ← get
  if run.policy.durableTriggerBarrier.isSome then
    refuse .invalidStateTransition
  else
    set { run with
      policy := { run.policy with
        durableTriggerBarrier := some checkpoint
        barrierSelectedEvidence := some (node, evidence) } }

variable (turn : Turn)

/-- Without an active scheduler the barrier is awaited in place. -/
def awaitBarrier (controller : FanOutController) :
    Exec (PolicyTriggerBarrierResult × PolicyAction) := do
  let result := inv.barrierResult turn.barrierAnswer
  modifyControl fun control => control.sampleObserve turn.cancelAtAcknowledgement
  let run ← get
  let answered := controller.acknowledgeBarrier result run.control.cancelled
  set { run with
    policy := { run.policy with controller := some answered.2 }
    trace := run.trace ++ [Moment.acknowledged result] }
  return (result, answered.1)

def checkpointOf (settled : List Settled) (evidence : NodeMap NodeEvidence) (triggerJson : String)
    (node : NodeId) : Option (PolicyTriggerCheckpoint × NodeEvidence) :=
  match settled.find? fun entry => entry.completed.node == node, evidence.lookup node with
  | some entry, some found =>
    some (⟨node, entry.completed.output, found.terminalJson, triggerJson⟩, found)
  | _, _ => none

/-- The trigger of a batch meets its barrier. -/
def reachBarrier (controller : FanOutController) (settled : List Settled)
    (evidence : NodeMap NodeEvidence) (triggerJson : String) (node : NodeId) :
    Exec (NodeMap NodeEvidence × PolicyAction) :=
  match checkpointOf settled evidence triggerJson node with
  | none => refuse .invalidStateTransition
  | some (checkpoint, found) =>
    if inv.schedulerActive then do
      sendBarrier node checkpoint found
      return (evidence.erase node, .none)
    else do
      let (result, action) ← awaitBarrier inv turn controller
      return (evidence.insert node { found with barrierResult := some result }, action)

/-- A batch under the fan-out controller. -/
def finalizeGoverned (beforeWait : Bool) (authority : FrozenAuthority)
    (controller : FanOutController) (settled : List Settled) :
    Exec (NodeMap NodeEvidence × PolicyAction) := do
  match controller.finalizeReadyBatch authority.attemptId (settled.map Settled.ready) inv.nodeRefs
      beforeWait with
  | .error _ => refuse .invalidStateTransition
  | .ok (selection, finalized) =>
    modify fun run => { run with policy := { run.policy with controller := some finalized } }
    let triggerJson ← ofExcept (selection.trigger.mapM (canonicalTriggerJson inv.codec))
    let evidence ← ofExcept
      (encodeEvidence inv.codec selection.trigger triggerJson selection.terminals)
    let outcome ←
      match triggerJson, selectedNode selection with
      | some triggerJson, some node =>
        reachBarrier inv turn finalized settled evidence triggerJson node
      | _, _ => pure (evidence, .none)
    modify fun run =>
      { run with
        progress := run.progress.record selection.terminals
        control := { run.control with
          stopScheduling := run.control.stopScheduling || finalized.admissionStopped } }
    return outcome

/-- A batch without a controller, or after a refused budget: records are only encoded when
the run is frozen. -/
def finalizeUngoverned (settled : List Settled) :
    Exec (NodeMap NodeEvidence × PolicyAction) := do
  let terminals := settled.map Settled.ready
  let evidence ←
    if inv.authority.isSome then ofExcept (encodeEvidence inv.codec none none terminals)
    else pure ∅
  modify fun run => { run with progress := run.progress.record terminals }
  return (evidence, .none)

def finalizeReady (beforeWait : Bool) (settled : List Settled) :
    Exec (NodeMap NodeEvidence × PolicyAction) := do
  let run ← get
  if settled.isEmpty then
    return (∅, .none)
  else
    match run.policy.controller, inv.authority with
    | some controller, some authority =>
      if run.control.budgetFailure.isNone then
        finalizeGoverned inv turn beforeWait authority controller settled
      else
        finalizeUngoverned inv settled
    | _, _ => finalizeUngoverned inv settled

def Control.applyAction (control : Control) : PolicyAction → Control
  | .cancelRunningSiblings => control.cancelAll .canceledPolicy
  | .globalCancelAndDrain => control.globalCancel
  | .none | .armManualGrace _ => control

variable (run : Run)

def Run.retain (completed : List CompletedNode) (evidence : NodeMap NodeEvidence) :
    Run :=
  { run with
    retained :=
      { completed := run.retained.completed ++ completed
        evidence := evidence.entries.foldl (fun map entry => map.insert entry.1 entry.2)
          run.retained.evidence } }

/-! Publication. -/

def CompletedNode.before (left right : CompletedNode) : Prop := left.node ≤ right.node

instance : DecidableRel CompletedNode.before := fun left right =>
  inferInstanceAs (Decidable (left.node ≤ right.node))

def Progress.publish (progress : Progress) (completed : CompletedNode) : Progress :=
  { progress with
    done := insert completed.node progress.done
    dispositions := progress.dispositions.insert completed.node completed.disposition
    outputs := progress.outputs.insert completed.node completed.output }

def finishedEvent (completed : CompletedNode) (evidence : Option NodeEvidence) : WorkflowEvent :=
  .nodeFinished completed.node completed.output.ok completed.output.text completed.output.usage
    (evidence.map NodeEvidence.terminalJson) (evidence.bind NodeEvidence.policyTriggerJson)
    (evidence.bind NodeEvidence.barrierResult)

/-- A successful candidate is published first, which needs its settled evidence. -/
def publishCandidate (completed : CompletedNode) (evidence : Option NodeEvidence) :
    Exec Unit :=
  if completed.candidateCompletion && completed.output.ok then
    if evidence.isNone || (evidence.bind NodeEvidence.barrierResult) == some .primaryFailed then
      refuse .storeFailure
    else
      match turn.publishFailure completed.node with
      | some error => refuse error
      | none => pure ()
  else pure ()

def publishNode (evidence : NodeMap NodeEvidence) (completed : CompletedNode) :
    Exec Unit := do
  publishCandidate turn completed (evidence.lookup completed.node)
  modify fun run =>
    { run.emit [finishedEvent completed (evidence.lookup completed.node)] with
      progress := run.progress.publish completed }

def publishAll (turn : Turn) (evidence : NodeMap NodeEvidence) : List CompletedNode → Exec Unit
  | [] => pure ()
  | completed :: rest => do
      publishNode turn evidence completed
      publishAll turn evidence rest

/-- Everything held back is published in node order. -/
def publishRetained : Exec Unit := do
  let run ← get
  set { run with retained := { completed := [], evidence := ∅ } }
  publishAll turn run.retained.evidence (run.retained.completed.insertionSort CompletedNode.before)

/-- After a publication: the token is observed, a cancelled run stops admitting, and ready
nodes are scheduled. -/
def Run.readmit : Run :=
  let observed := run.control.sampleObserve turn.cancelAfterPublish
  let sampled := observed.sample turn.cancelBeforeAdmission
  let control := if sampled.cancelled then sampled.stop else sampled
  Run.schedule inv { run with control := control }

/-- What a pass does once it has received its signal. -/
def process (beforeWait : Bool) (arm : SchedulerArm) (ready : List Ready)
    (postCutoff : List NodeId) : Exec Unit := do
  act inv turn arm
  let acted ← get
  if ready.isEmpty && acted.retained.completed.isEmpty then
    pure ()
  else
    let settled ← settleReady inv postCutoff ready
    let (evidence, action) ← finalizeReady inv turn beforeWait settled
    modifyControl fun control => control.applyAction action
    modify fun run => run.retain (settled.map Settled.completed) evidence
    let held ← get
    if held.policy.durableTriggerBarrier.isSome then
      pure ()
    else
      publishRetained turn
      modify fun run => run.readmit inv turn

/-! The end of a run. -/

/-- Why a node without a record never ran, as the sweep decides it. -/
def sweepCause : Option NodePrimaryDisposition :=
  if run.control.rootCancellationPrimary = some .canceledWorkflow then
    some .canceledWorkflow
  else if run.control.budgetFailure.isSome
      || decide (SchedulerArm.absoluteCutoff ∈ run.control.observedArms)
      || decide (SchedulerArm.mechanicallyProvedImpossibility ∈ run.control.observedArms)
      || run.policy.controller.any fun controller =>
          controller.admissionStopped && controller.trigger.isSome then
    some .notStartedPolicy
  else none

variable (primary : NodePrimaryDisposition)

def sweepTerminal : NodeTerminal where
  schemaVersion := EXECUTION_POLICY_SCHEMA_V1
  primary := primary
  cleanup := ⟨.notNeeded, 0⟩
  cause := none
  promptMayHaveBeenAccepted := false
  degradedAncestry := false
  policyTriggerId := none

def sweepText (node : NodeId) (primary : NodePrimaryDisposition) : String :=
  if primary = .canceledWorkflow then "[node " ++ node ++ " canceled: workflow]"
  else "[node " ++ node ++ " not started: policy]"

def sweepDisposition : NodeDisposition :=
  if primary = .canceledWorkflow then .canceled else .notStartedPolicy

def sweepNode (node : NodeId) : Exec Unit := do
  let run ← get
  match sweepCause run with
  | none => refuse .invalidStateTransition
  | some primary =>
    let terminalJson ← ofExcept (canonicalTerminalJson inv.codec (sweepTerminal primary))
    let output : NodeOutput := ⟨sweepText node primary, false, none⟩
    set { run.emit [.nodeFinished node false output.text none (some terminalJson) none none] with
      progress := { run.progress with
        nodeTerminals := run.progress.nodeTerminals.insert node (sweepTerminal primary)
        done := insert node run.progress.done
        dispositions := run.progress.dispositions.insert node (sweepDisposition primary)
        outputs := run.progress.outputs.insert node output } }

def sweepAll (inv : Invocation) : List NodeId → Exec Unit
  | [] => pure ()
  | node :: rest => do
      sweepNode inv node
      sweepAll inv rest

def missingNodes : List NodeId :=
  (inv.graph.ids.filter fun node => (run.progress.nodeTerminals.lookup node).isNone).insertionSort
    (· ≤ ·)

/-- The final sweep, and the count that closes it. -/
def sweep : Exec Unit := do
  let run ← get
  if inv.authority.isSome || run.control.budgetFailure.isSome then
    sweepAll inv (missingNodes inv run)
    let swept ← get
    if swept.progress.nodeTerminals.keys.length ≠ inv.graph.nodes.length then
      refuse .invalidStateTransition

def outcomeOf : WorkflowOutcome :=
  if run.control.budgetFailure.isSome then .failed
  else
    match run.progress.dispositions.lookup inv.terminalId with
    | some disposition => disposition.workflowOutcome
    | none =>
      if run.progress.dispositions.entries.any fun entry =>
          entry.2 == .failed || entry.2 == .skippedDependency || entry.2 == .notStartedPolicy then
        .failed
      else if run.control.cancelled then .canceled
      else .failed

def finalOutput : String :=
  ((run.progress.outputs.lookup inv.terminalId).map NodeOutput.text).getD ""

def Run.conclude (closing : Closing) (run : Run) : Run :=
  let sampled := { run with control := run.control.sample closing.cancelAtOutcome }
  sampled.emit [.cleanupObserved closing.cleanupDisposition closing.cleanupMs,
    .terminal (outcomeOf inv sampled) (finalOutput inv sampled)]

def finish (closing : Closing) : Exec Unit := do
  modifyControl fun control => control.sampleObserve closing.cancelAtExit
  sweep inv
  modify fun run => run.conclude inv closing

/-- A run with whether its stream has ended. -/
structure Machine where
  run : Run
  ended : Bool

/-- `settle_error_before_yield!`: a refused budget is yielded before the error. -/
def Run.fail (failure : AccountingFailure) : Run :=
  { run with trace := run.trace ++ run.control.budgetFailure.toList.map Moment.failed ++
      [.failed failure] }

def Run.refuseBudget : Run :=
  { run with trace := run.trace ++ run.control.budgetFailure.toList.map Moment.failed }

def Run.beforeWait (turn : Turn) : Run :=
  { run with control := run.control.sample turn.cancelBeforeWait }

/-- One pass of the loop, or its exit and the end of the stream. -/
def step (machine : Machine) (turn : Turn) : Machine :=
  if machine.ended then machine
  else
    let run := { machine.run with control := machine.run.control.head turn.cancelAtHead }
    if run.isIdle then
      match finish inv turn.closing run with
      | .ok _ after => ⟨after.refuseBudget, true⟩
      | .error failure after => ⟨after.fail failure, true⟩
    else
      let waiting := run.beforeWait turn
      match receive inv turn waiting with
      | none => machine
      | some received =>
        match process inv turn waiting.control.cancelled received.arm received.ready
            received.postCutoff received.run with
        | .ok _ after => ⟨after, false⟩
        | .error failure after => ⟨after.fail failure, true⟩

def Run.ended (trace : List Moment) (run : Run) : Machine := ⟨{ run with trace := trace }, true⟩

/-- The run before its first pass, or its whole stream when a check refuses it. -/
def start : Machine :=
  match inv.prepare with
  | .ok run => ⟨run.schedule inv, false⟩
  | .error (.error error) => (inv.openRun none).ended [.failed (.of error)]
  | .error (.invalidInput message) =>
    (inv.openRun none).ended
      [.yielded (.cleanupObserved .notNeeded 0), .yielded (.terminal .failed message)]

def runTurns (turns : List Turn) : Machine := turns.foldl (step inv) (start inv)

end A2aBridge.Workflow
