import A2aBridge.NodeTerminals
import Mathlib.Data.List.AList

/-!
The fan-out controller of bridge-workflow/fanout.rs and the fixed-grace timer of
bridge-core/fixed_grace_timer.rs. A `&mut self` method returns the controller it leaves.
A map keyed by node that the controller walks in key order is a list sorted by node.
-/

namespace A2aBridge.Workflow

inductive LedgerUnavailableReason where
  | opened
  | permission
  | readOnlyDatabase
  | readOnlyLock
  | readOnlyParent
  | advisoryLockUnsupported
  | advisoryLockIo
  | locked
  | migration
  | unsupportedConfiguration
  | schema
  | corruption
  | io
  | capacityProtected
  | collision
  deriving DecidableEq

inductive PolicyTriggerBarrierResult where
  | servedPrimaryCommitted
  | offlineHistoryCommitted
  | offlineTelemetryUnavailable (reason : LedgerUnavailableReason)
  | primaryFailed
  deriving DecidableEq

/-- `classify_offline_barrier_error_v1`: only a collision or an unsupported configuration
fails closed. -/
def classifyOfflineBarrierError (reason : LedgerUnavailableReason) : PolicyTriggerBarrierResult :=
  match reason with
  | .collision | .unsupportedConfiguration => .primaryFailed
  | _ => .offlineTelemetryUnavailable reason

inductive LedgerAdmission where
  | durablePrimaryTaskStore
  | historyLedgerAdmitted
  | historyLedgerUnavailable (reason : LedgerUnavailableReason)
  deriving DecidableEq

/-- `reach_policy_trigger_barrier_v1`: `answer` is what the configured barrier callback
returns, `none` where no callback is configured. -/
def reachPolicyTriggerBarrier (admission : LedgerAdmission)
    (answer : Option PolicyTriggerBarrierResult) : PolicyTriggerBarrierResult :=
  match admission with
  | .historyLedgerUnavailable reason => classifyOfflineBarrierError reason
  | .durablePrimaryTaskStore =>
    match answer with
    | some .servedPrimaryCommitted => .servedPrimaryCommitted
    | _ => .primaryFailed
  | .historyLedgerAdmitted =>
    match answer with
    | some .offlineHistoryCommitted => .offlineHistoryCommitted
    | some (.offlineTelemetryUnavailable reason) =>
      if reason = .collision then .primaryFailed else .offlineTelemetryUnavailable reason
    | _ => .primaryFailed

inductive PolicyAction where
  | none
  | cancelRunningSiblings
  | armManualGrace (graceMs : Nat)
  | globalCancelAndDrain
  deriving DecidableEq

inductive FanOutControllerError where
  | missingNodeReference
  | duplicateReadyNode
  | invalidRestoredTrigger
  deriving DecidableEq

structure ReadyNodeTerminal where
  node : NodeId
  terminal : NodeTerminal
  deriving DecidableEq

structure ReadyBatchSelection where
  terminals : List ReadyNodeTerminal
  trigger : Option PolicyTrigger
  deriving DecidableEq

structure FanOutController where
  policy : FanOutPolicy
  trigger : Option PolicyTrigger
  barrierPending : Bool
  admissionStopped : Bool
  manualGraceArmed : Bool
  manualGraceExpired : Bool
  deriving DecidableEq

abbrev TerminalMap := AList fun _ : NodeId => NodeTerminal
abbrev NodeRefs := List (NodeId × PolicyNodeRef)

/-- The terminals a failure of which selects a trigger. -/
def isQualifyingFailure (terminal : NodeTerminal) : Bool :=
  terminal.primary == .failed || terminal.primary == .timedOut

def ReadyNodeTerminal.before (left right : ReadyNodeTerminal) : Prop := left.node ≤ right.node

instance : DecidableRel ReadyNodeTerminal.before := fun left right =>
  inferInstanceAs (Decidable (left.node ≤ right.node))

/-- The first qualifying failure of a batch is given the trigger's id. -/
def markSelected (id : String) : List ReadyNodeTerminal → Option (NodeId × List ReadyNodeTerminal)
  | [] => none
  | ready :: rest =>
    if isQualifyingFailure ready.terminal then
      some (ready.node,
        { ready with terminal := { ready.terminal with policyTriggerId := some id } } :: rest)
    else
      (markSelected id rest).map fun selected => (selected.1, ready :: selected.2)

theorem mark_selected_split {id : String} {batch marked : List ReadyNodeTerminal}
    {selected : NodeId} (chosen : markSelected id batch = some (selected, marked)) :
    ∃ early ready late, batch = early ++ ready :: late ∧ ready.node = selected ∧
      isQualifyingFailure ready.terminal = true ∧
      (∀ other ∈ early, isQualifyingFailure other.terminal ≠ true) ∧
      marked = early ++
        { ready with terminal := { ready.terminal with policyTriggerId := some id } } :: late := by
  induction batch generalizing marked with
  | nil => cases chosen
  | cons ready rest ih =>
    unfold markSelected at chosen
    split at chosen
    · rename_i qualifies
      cases chosen
      exact ⟨[], ready, rest, rfl, rfl, qualifies, by simp, rfl⟩
    · rename_i harmless
      obtain ⟨_, found, ⟨⟩⟩ := Option.map_eq_some_iff.mp chosen
      obtain ⟨early, first, late, rfl, named, qualifies, others, same⟩ := ih found
      refine ⟨ready :: early, first, late, rfl, named, qualifies, ?_, by rw [same]; rfl⟩
      exact List.forall_mem_cons.mpr ⟨harmless, others⟩

namespace FanOutController

def new (policy : FanOutPolicy) : FanOutController where
  policy := policy
  trigger := none
  barrierPending := false
  admissionStopped := false
  manualGraceArmed := false
  manualGraceExpired := false

variable (controller : FanOutController) (attemptId : String)

/-- The facts a restored trigger must agree with. -/
def refusesRestore (trigger : PolicyTrigger) (terminals : TerminalMap) (nodeRefs : NodeRefs) :
    Bool :=
  let selectedNode := (nodeRefs.find? fun entry => entry.2 == trigger.node).map Prod.fst
  let validSelectedTerminal := (selectedNode.bind terminals.lookup).any fun terminal =>
    isQualifyingFailure terminal && terminal.policyTriggerId == some trigger.id
  let records := terminals.entries.map fun entry => entry.2
  let triggerMentions := records.countP fun terminal => terminal.policyTriggerId == some trigger.id
  controller.trigger.isSome
    || controller.barrierPending
    || controller.policy == .boundedIndependent
    || trigger.schemaVersion != EXECUTION_POLICY_SCHEMA_V1
    || trigger.id != controlEventIdForAttempt attemptId 0
    || trigger.policy != controller.policy.name
    || trigger.graceMs != controller.policy.graceMs
    || !validSelectedTerminal
    || triggerMentions != 1
    || records.any fun terminal => terminal.policyTriggerId.any fun id => id != trigger.id

def restoreCommittedTrigger (trigger : PolicyTrigger) (terminals : TerminalMap)
    (nodeRefs : NodeRefs) : Except FanOutControllerError FanOutController :=
  if controller.refusesRestore attemptId trigger terminals nodeRefs then
    .error .invalidRestoredTrigger
  else
    .ok { controller with
      trigger := some trigger
      admissionStopped := true
      manualGraceArmed := controller.policy.graceMs.isSome }

/-- The trigger a selected node gives, before it is recorded. -/
def triggerFor (node : PolicyNodeRef) :
    PolicyTrigger where
  schemaVersion := EXECUTION_POLICY_SCHEMA_V1
  id := controlEventIdForAttempt attemptId 0
  node := node
  policy := controller.policy.name
  graceMs := controller.policy.graceMs

def finalizeReadyBatch (terminals : List ReadyNodeTerminal) (nodeRefs : NodeRefs)
    (workflowCancelObservableBeforeWait : Bool) :
    Except FanOutControllerError (ReadyBatchSelection × FanOutController) :=
  let sorted := terminals.insertionSort ReadyNodeTerminal.before
  if anyAdjacent (fun left right => left.node == right.node) sorted then
    .error .duplicateReadyNode
  else if workflowCancelObservableBeforeWait then
    .ok ({ terminals := sorted, trigger := none }, { controller with admissionStopped := true })
  else if controller.trigger.isSome || controller.policy == .boundedIndependent then
    .ok ({ terminals := sorted, trigger := none }, controller)
  else
    match markSelected (controlEventIdForAttempt attemptId 0) sorted with
    | none => .ok ({ terminals := sorted, trigger := none }, controller)
    | some (selected, marked) =>
      match nodeRefs.lookup selected with
      | none => .error .missingNodeReference
      | some node =>
        let trigger := controller.triggerFor attemptId node
        .ok ({ terminals := marked, trigger := some trigger },
          { controller with
            trigger := some trigger
            barrierPending := true
            admissionStopped := true })

def authorized : PolicyTriggerBarrierResult → Bool
  | .servedPrimaryCommitted | .offlineHistoryCommitted => true
  | .offlineTelemetryUnavailable reason =>
    reason != .collision && reason != .unsupportedConfiguration
  | .primaryFailed => false

def acknowledgeBarrier (result : PolicyTriggerBarrierResult)
    (workflowCancelObservableAfterAck : Bool) : PolicyAction × FanOutController :=
  if !controller.barrierPending then
    (.none, controller)
  else
    let settled := { controller with barrierPending := false }
    if workflowCancelObservableAfterAck then
      (.globalCancelAndDrain, settled)
    else if !authorized result then
      (.globalCancelAndDrain, settled)
    else
      match controller.policy with
      | .boundedIndependent => (.none, settled)
      | .failFast => (.cancelRunningSiblings, settled)
      | .fixedGrace graceMs => (.armManualGrace graceMs, { settled with manualGraceArmed := true })

def expireManualGrace : PolicyAction × FanOutController :=
  if !controller.manualGraceArmed || controller.manualGraceExpired then
    (.none, controller)
  else
    (.cancelRunningSiblings, { controller with manualGraceExpired := true })

end FanOutController

inductive FixedGraceTimer where
  | unarmed
  | armed (triggerId : String) (node : PolicyNodeRef) (graceMs armedAtElapsedMs : Nat)
      (recordedNodeDeadlineElapsedMs : Nat)
  | fired (trigger : PolicyTrigger) (armedAtElapsedMs firedAtElapsedMs : Nat)
      (recordedNodeDeadlineElapsedMs : Nat)
  deriving DecidableEq

inductive FixedGraceTimerError where
  | alreadyArmedOrFired
  | notArmed
  | alreadyFired
  | invalidGrace
  | arithmeticOverflow
  | elapsedBeforeArm
  deriving DecidableEq

namespace FixedGraceTimer

def arm (timer : FixedGraceTimer) (node : PolicyNodeRef) (triggerId : String)
    (graceMs armedAtElapsedMs recordedNodeDeadlineElapsedMs : Nat) :
    Except FixedGraceTimerError FixedGraceTimer :=
  if timer != .unarmed then
    .error .alreadyArmedOrFired
  else if graceMs = 0 then
    .error .invalidGrace
  else if U64_MAX < armedAtElapsedMs + graceMs then
    .error .arithmeticOverflow
  else
    .ok (.armed triggerId node graceMs armedAtElapsedMs recordedNodeDeadlineElapsedMs)

/-- `observe_elapsed`: an armed timer whose grace has passed fires. -/
def observeElapsed (timer : FixedGraceTimer) (elapsedMs : Nat) :
    Except FixedGraceTimerError FixedGraceTimer :=
  match timer with
  | .unarmed => .error .notArmed
  | .fired .. => .error .alreadyFired
  | .armed triggerId node graceMs armedAtElapsedMs recordedNodeDeadlineElapsedMs =>
    if elapsedMs < armedAtElapsedMs then
      .error .elapsedBeforeArm
    else if elapsedMs - armedAtElapsedMs < graceMs then
      .ok timer
    else
      let trigger : PolicyTrigger :=
        { schemaVersion := EXECUTION_POLICY_SCHEMA_V1
          id := triggerId
          node := node
          policy := .fixedGrace
          graceMs := some graceMs }
      .ok (.fired trigger armedAtElapsedMs elapsedMs recordedNodeDeadlineElapsedMs)

end FixedGraceTimer

end A2aBridge.Workflow
