import A2aBridge.FanOut
import A2aBridge.PromptTemplates
import A2aBridge.SchedulerArms
import A2aBridge.TaskSpecs
import A2aBridge.WorkflowGraphs
import Mathlib.Data.Finset.Basic

/-!
The state of one workflow run in bridge-workflow/executor.rs, its opening checks and the
admission of ready nodes (`schedule_ready!`). A node future in `inflight` is a `Flight`:
the node with what its scheduling prepared, and its answer arrives later from outside. The
degraded ancestry and the dependency set that the source keeps in two maps from the
admission to the completion of a node are held by its flight. The fallback routing of
locally restored candidates and the agent selection shown with a started node are left
out.
-/

namespace A2aBridge.Workflow

open ByteText Harvest

structure NodeOutput where
  text : String
  ok : Bool
  usage : Option UsageSnapshot
  deriving DecidableEq

structure StructuredNodeSeed where
  output : NodeOutput
  terminal : NodeTerminal
  deriving DecidableEq

abbrev NodeMap (α : Type) := AList fun _ : NodeId => α

structure StructuredSeed where
  nodes : NodeMap StructuredNodeSeed
  policyTrigger : Option PolicyTrigger

inductive DeadlineActivation where
  | manualOnlyR2f1a
  | automaticR2f1b
  deriving DecidableEq

structure NodeIdentity where
  node : PolicyNodeRef
  agent : String
  deriving DecidableEq

/-- `FrozenWorkflowAuthority`: the parts of the frozen run specification the scheduler
reads. -/
structure FrozenAuthority where
  graph : WorkflowGraph
  attemptId : String
  fanOut : FanOutPolicy
  synthesis : SynthesisMode
  deadlineActivation : DeadlineActivation
  effectiveWorkCutoffMs : Nat
  ledgerAdmission : LedgerAdmission
  nodeExecutionIdentities : List NodeIdentity
  deriving DecidableEq

/-- The arguments of one run with what it takes from its surroundings: encoders, the
printing of floats, SHA-256, whether the audit store retains records, whether a barrier
callback is configured, and the clock reading and the token state at its start. -/
structure Invocation where
  graph : WorkflowGraph
  input : String
  seed : NodeMap NodeOutput
  structuredSeed : Option StructuredSeed
  authority : Option FrozenAuthority
  codec : EvidenceCodec
  floats : FloatText
  sha : Sha256
  retainsAuditRecords : Bool
  barrierConfigured : Bool
  startedMs : Nat
  cancelledAtStart : Bool
  /-- The clock when the first nodes are admitted; the loop does not read it. -/
  admissionClockMs : Nat

inductive WorkflowCleanupDisposition where
  | complete
  | retained
  | preserved
  | unknown
  | failed
  | notNeeded
  deriving DecidableEq

inductive WorkflowEvent where
  | nodeStarted (node : NodeId)
  | nodeFinished (node : NodeId) (ok : Bool) (output : String) (usage : Option UsageSnapshot)
      (terminalJson policyTriggerJson : Option String)
      (policyTriggerBarrierResult : Option PolicyTriggerBarrierResult)
  | cleanupObserved (disposition : WorkflowCleanupDisposition) (durationMs : Nat)
  | terminal (outcome : WorkflowOutcome) (output : String)
  deriving DecidableEq

/-- What a run does in order: the items its stream yields, and between them the barrier
results it hands to the fan-out controller. -/
inductive Moment where
  | yielded (event : WorkflowEvent)
  | failed (failure : AccountingFailure)
  | acknowledged (result : PolicyTriggerBarrierResult)
  deriving DecidableEq

inductive Course where
  | unprepared (error : BridgeError)
  | skipped (dependencySet : DependencySetRef)
  | running (prompt : String) (degradedAncestry : Bool)
  deriving DecidableEq

def Course.isRunning : Course → Bool
  | .running .. => true
  | .unprepared _ | .skipped _ => false

structure Flight where
  node : WorkflowNode
  course : Course
  deriving DecidableEq

structure NodeEvidence where
  terminalJson : String
  policyTriggerJson : Option String
  barrierResult : Option PolicyTriggerBarrierResult
  deriving DecidableEq

structure CompletedNode where
  node : NodeId
  output : NodeOutput
  disposition : NodeDisposition
  candidateCompletion : Bool
  deriving DecidableEq

structure PolicyTriggerCheckpoint where
  node : NodeId
  output : NodeOutput
  terminalJson : String
  policyTriggerJson : String
  deriving DecidableEq

structure Progress where
  done : Finset NodeId
  scheduled : Finset NodeId
  outputs : NodeMap NodeOutput
  dispositions : NodeMap NodeDisposition
  nodeTerminals : TerminalMap
  inflight : List Flight

/-- Cancellation and the scheduler's clock arms. A token is `true` once cancelled. -/
structure Control where
  cancelled : Bool
  rootCancellationPrimary : Option NodePrimaryDisposition
  cancellationPrimaries : NodeMap NodePrimaryDisposition
  nodeCancels : NodeMap Bool
  postTransferTerminalizers : NodeMap Bool
  stopScheduling : Bool
  budgetFailure : Option AccountingFailure
  observedArms : Finset SchedulerArm
  fixedGraceTimer : FixedGraceTimer
  fixedGraceDueMs : Option Nat
  schedulerCleanup : Option (Nat × Nat)

/-- The fan-out controller with the durable barrier of its trigger. -/
structure Policy where
  controller : Option FanOutController
  durableTriggerBarrier : Option PolicyTriggerCheckpoint
  durableTriggerAcknowledgement : Option PolicyTriggerBarrierResult
  barrierSelectedEvidence : Option (NodeId × NodeEvidence)

structure Retained where
  completed : List CompletedNode
  evidence : NodeMap NodeEvidence

structure Run where
  progress : Progress
  control : Control
  policy : Policy
  retained : Retained
  trace : List Moment

namespace FrozenAuthority

def nodeIdentity (authority : FrozenAuthority) (codec : EvidenceCodec) (node : WorkflowNode) :
    Except BridgeError PolicyNodeRef :=
  match authority.nodeExecutionIdentities.find? fun identity =>
      identity.node.idSha256 == codec.sha256Hex (asBytes node.id) with
  | none => .error (.configMismatch "node_execution_identity")
  | some identity =>
    if identity.agent = node.agent then .ok identity.node
    else .error (.configMismatch "provider_selection")

end FrozenAuthority

namespace Invocation

variable (inv : Invocation)

def synthesisMode : Option SynthesisMode := inv.authority.map FrozenAuthority.synthesis

/-- The scheduler is armed, so activation decides alone. -/
def schedulerActive : Bool :=
  inv.authority.any fun authority => authority.deadlineActivation == .automaticR2f1b

def schedulerWorkCutoffMs : Nat :=
  (inv.authority.map FrozenAuthority.effectiveWorkCutoffMs).getD U64_MAX

/-- `node_refs`, in node order, or the first identity error in graph order. -/
def identify : Except BridgeError NodeRefs :=
  match inv.authority with
  | none => .ok []
  | some authority =>
    (inv.graph.nodes.mapM fun node =>
      (authority.nodeIdentity inv.codec node).map fun nodeRef => (node.id, nodeRef)).map
        fun refs => refs.insertionSort fun left right => left.1 ≤ right.1

def nodeRefs : NodeRefs :=
  match inv.identify with
  | .ok refs => refs
  | .error _ => []

def baseRenderVars : RenderVars :=
  match renderVarsForInput inv.input with
  | .ok vars => vars
  | .error _ => []

def enablesHarvest (node : WorkflowNode) : Bool :=
  node.harvestSanitization == some .attestedPrefixV1 && (inv.seed.lookup node.id).isNone

def auditRequired : Bool := inv.graph.nodes.any inv.enablesHarvest

def terminalId : NodeId := (inv.graph.terminal.map WorkflowNode.id).getD ""

end Invocation

/-! Opening a run: the checks before anything is scheduled. -/

inductive Refusal where
  | error (error : BridgeError)
  | invalidInput (message : String)
  deriving DecidableEq

namespace Invocation

variable (inv : Invocation)

/-- The checks of a resume seed against the frozen authority. -/
def checkResume : Except BridgeError Unit :=
  if inv.authority.any fun authority => inv.graph != authority.graph then
    .error (.configMismatch "workflow_graph")
  else
    match inv.authority, inv.structuredSeed with
    | some _, none =>
      if inv.seed.keys.isEmpty then .ok ()
      else .error (.configInvalid "V2 resume requires structured node terminal evidence")
    | none, some _ =>
      .error (.configInvalid "structured node terminal evidence requires a frozen V2 run")
    | none, none => .ok ()
    | some _, some structured =>
      if structured.nodes.keys.length != inv.seed.keys.length
          || structured.nodes.keys.any fun node => (inv.seed.lookup node).isNone then
        .error (.configInvalid "V2 resume checkpoint and terminal sets differ")
      else if structured.nodes.entries.any fun entry =>
          (entry.2.terminal.encodeCanonical inv.codec).isNone
            || entry.2.output.ok != entry.2.terminal.completedV1 then
        .error (.configInvalid "V2 resume checkpoint terminal is invalid")
      else .ok ()

def checkAudit : Except BridgeError Unit :=
  if inv.auditRequired && !inv.retainsAuditRecords then
    match inv.graph.nodes.find? inv.enablesHarvest with
    | some node => .error (.configInvalid ("workflow node " ++ node.id ++
        " enables harvest_sanitization=attested_prefix_v1 but this workflow context has no " ++
        "retaining harvest audit store"))
    | none => .ok ()
  else .ok ()

/-- The seed names nodes of the graph and is closed under inputs. -/
def checkSeed : Except BridgeError Unit :=
  if inv.seed.keys.any fun node => node ∉ inv.graph.ids then
    .error (.configInvalid "resume seed references unknown node")
  else if inv.graph.nodes.any fun node =>
      (inv.seed.lookup node.id).isSome && node.inputs.any fun input => (inv.seed.lookup input).isNone
    then
    .error (.configInvalid "resume seed is not closed under inputs")
  else .ok ()

def seedTerminals : TerminalMap :=
  match inv.structuredSeed with
  | none => ∅
  | some structured =>
    (structured.nodes.entries.map fun entry => (⟨entry.1, entry.2.terminal⟩ : Sigma _)).toAList

def seedDispositions : NodeMap NodeDisposition :=
  match inv.structuredSeed with
  | none =>
    (inv.seed.entries.map fun entry =>
      (⟨entry.1, if entry.2.ok then .completed else .failed⟩ : Sigma _)).toAList
  | some structured =>
    (structured.nodes.entries.map fun entry =>
      (⟨entry.1, dispositionFromTerminal entry.2.terminal⟩ : Sigma _)).toAList

/-- The controller of a resumed run, with its committed trigger restored. -/
def openController : Except BridgeError (Option FanOutController) :=
  match inv.authority with
  | none => .ok none
  | some authority =>
    let controller := FanOutController.new authority.fanOut
    match inv.structuredSeed with
    | none => .ok (some controller)
    | some structured =>
      let records := inv.seedTerminals.entries.map fun entry => entry.2
      match structured.policyTrigger with
      | some trigger =>
        match controller.restoreCommittedTrigger authority.attemptId trigger
            inv.seedTerminals inv.nodeRefs with
        | .ok restored => .ok (some restored)
        | .error _ => .error .invalidStateTransition
      | none =>
        if (records.any fun terminal => terminal.policyTriggerId.isSome)
            || (records.any isQualifyingFailure && !records.any isBudgetStopTerminal
                && authority.fanOut != .boundedIndependent) then
          .error .invalidStateTransition
        else
          .ok (some controller)

variable (controller : Option FanOutController)

/-- `stop_scheduling` before the first admission: a resumed run keeps its controller's
decision. -/
def stoppedAtOpening : Bool :=
  inv.structuredSeed.isSome && controller.any FanOutController.admissionStopped

def openRun : Run where
  progress :=
    { done := inv.seed.keys.toFinset
      scheduled := ∅
      outputs := inv.seed
      dispositions := inv.seedDispositions
      nodeTerminals := inv.seedTerminals
      inflight := [] }
  control :=
    { cancelled := inv.cancelledAtStart
      rootCancellationPrimary := if inv.cancelledAtStart then some .canceledWorkflow else none
      cancellationPrimaries := ∅
      nodeCancels := ∅
      postTransferTerminalizers := ∅
      stopScheduling := inv.stoppedAtOpening controller
      budgetFailure := none
      observedArms := ∅
      fixedGraceTimer := .unarmed
      fixedGraceDueMs := none
      schedulerCleanup := none }
  policy :=
    { controller := controller
      durableTriggerBarrier := none
      durableTriggerAcknowledgement := none
      barrierSelectedEvidence := none }
  retained := { completed := [], evidence := ∅ }
  trace := []

/-- The checks in the order of the source, up to the first admission. -/
def prepare : Except Refusal Run := do
  inv.checkResume.mapError .error
  inv.checkAudit.mapError .error
  let _ ← (renderVarsForInput inv.input).mapError .invalidInput
  inv.checkSeed.mapError .error
  let _ ← inv.identify.mapError .error
  let controller ← inv.openController.mapError .error
  return inv.openRun controller

end Invocation

/-! `schedule_ready!`. -/

/-- One input of a node as its prompt will see it, with whether it degrades the node and,
in strict mode, its reference when it did not complete. -/
structure PreparedInput where
  text : String
  degraded : Bool
  noncompleted : Option PolicyNodeRef

variable (inv : Invocation) (progress : Progress)

def prepareInput (input : NodeId) :
    Except BridgeError PreparedInput :=
  match progress.outputs.lookup input with
  | none => .error .invalidStateTransition
  | some output =>
    match inv.synthesisMode with
    | none => .ok ⟨output.text, false, none⟩
    | some .strict =>
      match progress.nodeTerminals.lookup input with
      | none => .error .invalidStateTransition
      | some terminal =>
        if terminal.completedV1 then .ok ⟨output.text, false, none⟩
        else
          match inv.nodeRefs.lookup input with
          | none => .error .invalidStateTransition
          | some nodeRef => .ok ⟨output.text, false, some nodeRef⟩
    | some .degraded =>
      match progress.nodeTerminals.lookup input with
      | none => .error .invalidStateTransition
      | some terminal =>
        (degradedInputText inv.codec output.text terminal).map fun rendered =>
          ⟨rendered.1, rendered.2, none⟩

variable (node : WorkflowNode)

/-- The variables of a node's prompt: the run's own, one for each input, the alias of a
single input, and the usage texts of a node that has inputs. -/
def promptVars (texts : List String) : RenderVars :=
  let named := node.inputs.zip texts
  let draft :=
    match named with
    | [only] => [("draft", only.2)]
    | _ => []
  let usage :=
    if node.inputs.isEmpty then []
    else
      [("workflow.costs", renderCostsTable inv.floats (node.inputs.map fun input =>
          (input, (progress.outputs.lookup input).bind NodeOutput.usage))),
        ("workflow.weights", renderWeights inv.floats inv.graph.weights)]
  inv.baseRenderVars ++ named ++ draft ++ usage

def courseOf : Course :=
  match node.inputs.mapM (prepareInput inv progress) with
  | .error error => .unprepared error
  | .ok prepared =>
    let noncompleted := prepared.filterMap PreparedInput.noncompleted
    if noncompleted.isEmpty then
      .running (render node.promptTemplate
        (promptVars inv progress node (prepared.map PreparedInput.text)))
        (prepared.any PreparedInput.degraded)
    else
      match DependencySetRef.fromNodeRefs inv.codec noncompleted with
      | some dependencySet => .skipped dependencySet
      | none => .unprepared .invalidStateTransition

def Progress.isReady : Bool :=
  node.id ∉ progress.done && node.id ∉ progress.scheduled &&
    node.inputs.all fun input => input ∈ progress.done

def Progress.launch (flight : Flight) : Progress :=
  { progress with
    scheduled := insert flight.node.id progress.scheduled
    inflight := progress.inflight ++ [flight] }

/-- A running node gets its cancellation token and its terminalizer. -/
def Control.launch (control : Control) (flight : Flight) : Control :=
  if flight.course.isRunning then
    { control with
      nodeCancels := control.nodeCancels.insert flight.node.id false
      postTransferTerminalizers := control.postTransferTerminalizers.insert flight.node.id false }
  else control

variable (run : Run)

def Run.launch (flight : Flight) : Run :=
  { run with progress := run.progress.launch flight, control := run.control.launch flight }

/-- The pass over the graph's nodes, with the nodes it started. -/
def admitReady (inv : Invocation) : List WorkflowNode → Run → Run × List NodeId
  | [], run => (run, [])
  | node :: rest, run =>
    if run.progress.isReady node then
      let flight : Flight := ⟨node, courseOf inv run.progress node⟩
      let later := admitReady inv rest (run.launch flight)
      (later.1, if flight.course.isRunning then node.id :: later.2 else later.2)
    else
      admitReady inv rest run

def scheduleReady : Run × List NodeId :=
  if run.control.stopScheduling then (run, []) else admitReady inv inv.graph.nodes run

def Run.emit (events : List WorkflowEvent) : Run :=
  { run with trace := run.trace ++ events.map Moment.yielded }

/-- Admission followed by the announcement of every node it started. -/
def Run.schedule : Run :=
  let admitted := scheduleReady inv run
  admitted.1.emit (admitted.2.map WorkflowEvent.nodeStarted)

end A2aBridge.Workflow
