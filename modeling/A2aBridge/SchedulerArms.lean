import A2aBridge.NodeTerminals

/-!
Scheduler arbitration of bridge-workflow/scheduler_arbitration.rs and
`arbitrate_ready_batch_v1` of the executor. Clock readings are supplied by the caller.
-/

namespace A2aBridge.Workflow

inductive SchedulerArm where
  | drainReadyNodeCompletions
  | durableTriggerBarrierAcknowledgements
  | workflowOrExternalCancellation
  | fixedGraceExpiry
  | absoluteCutoff
  | mechanicallyProvedImpossibility
  | dueNoProgressSnapshots
  | waitForNodeActivityControlOrClock
  deriving DecidableEq

/-- `SCHEDULER_ARM_PRIORITY_V1`. -/
def SCHEDULER_ARM_PRIORITY_V1 : List SchedulerArm :=
  [.drainReadyNodeCompletions, .durableTriggerBarrierAcknowledgements,
    .workflowOrExternalCancellation, .fixedGraceExpiry, .absoluteCutoff,
    .mechanicallyProvedImpossibility, .dueNoProgressSnapshots, .waitForNodeActivityControlOrClock]

structure ReadyNodeCompletion where
  nodeId : NodeId
  readyAtMs : Nat
  deriving DecidableEq

structure SchedulerArbitrationReadiness where
  readyNodeCompletions : List ReadyNodeCompletion
  durableTriggerBarrierAcknowledgements : Bool
  workflowOrExternalCancellation : Bool
  fixedGraceExpired : Bool
  absoluteCutoffReached : Bool
  mechanicalImpossibilityProved : Bool
  noProgressSnapshotDue : Bool
  deriving DecidableEq

structure SchedulerTieFacts where
  absoluteCutoffAtMs : Nat
  inflightNodes : List NodeId
  deriving DecidableEq

structure SchedulerArbitration where
  winner : SchedulerArm
  readyNodeCompletions : List ReadyNodeCompletion
  postCutoffCompletions : List ReadyNodeCompletion
  nodesToCancelAfterWinner : List NodeId
  deriving DecidableEq

variable (readiness : SchedulerArbitrationReadiness)

def SchedulerArm.isReady (hasReadyCompletions : Bool) :
    SchedulerArm → Bool
  | .drainReadyNodeCompletions => hasReadyCompletions
  | .durableTriggerBarrierAcknowledgements => readiness.durableTriggerBarrierAcknowledgements
  | .workflowOrExternalCancellation => readiness.workflowOrExternalCancellation
  | .fixedGraceExpiry => readiness.fixedGraceExpired
  | .absoluteCutoff => readiness.absoluteCutoffReached
  | .mechanicallyProvedImpossibility => readiness.mechanicalImpossibilityProved
  | .dueNoProgressSnapshots => readiness.noProgressSnapshotDue
  | .waitForNodeActivityControlOrClock => true

def ReadyNodeCompletion.before (left right : ReadyNodeCompletion) : Prop :=
  left.nodeId ≤ right.nodeId

open ReadyNodeCompletion (before nodeId)

instance : DecidableRel before := fun left right =>
  inferInstanceAs (Decidable (left.nodeId ≤ right.nodeId))

variable (facts : SchedulerTieFacts)

/-- The completions observed no later than the cutoff; all of them before it is reached. -/
def withinCutoff (completion : ReadyNodeCompletion) : Bool :=
  !readiness.absoluteCutoffReached || decide (completion.readyAtMs ≤ facts.absoluteCutoffAtMs)

def arbitrateScheduler : SchedulerArbitration :=
  let ready := (readiness.readyNodeCompletions.filter (withinCutoff readiness facts)).insertionSort
    before
  let postCutoff := (readiness.readyNodeCompletions.filter fun completion =>
    !withinCutoff readiness facts completion).insertionSort before
  let winner := (SCHEDULER_ARM_PRIORITY_V1.find? (SchedulerArm.isReady readiness !ready.isEmpty)).getD
    .waitForNodeActivityControlOrClock
  let cutoffRequiresCancellation := readiness.absoluteCutoffReached &&
    (winner == .drainReadyNodeCompletions || winner == .absoluteCutoff)
  { winner := winner
    readyNodeCompletions := ready
    postCutoffCompletions := postCutoff
    nodesToCancelAfterWinner :=
      if cutoffRequiresCancellation then
        (facts.inflightNodes.filter fun node =>
          !ready.any fun completion => completion.nodeId == node).insertionSort (· ≤ ·)
      else [] }

instance : Std.Total before := ⟨fun left right => le_total left.nodeId right.nodeId⟩

instance : IsTrans ReadyNodeCompletion before :=
  ⟨fun first second third => @le_trans _ _ first.nodeId second.nodeId third.nodeId⟩

/-- Where the order is strict it is the only one, whatever is kept. -/
theorem sorted_alike {α : Type} {order : α → α → Prop} [DecidableRel order] [Std.Total order]
    [IsTrans α order] {given other : List α} (same : other.Perm given)
    (strict : ∀ left ∈ given, ∀ right ∈ given, order left right → order right left → left = right)
    (keep : α → Bool) :
    (other.filter keep).insertionSort order = (given.filter keep).insertionSort order := by
  have permuted := (List.perm_insertionSort order _).trans (same.filter keep)
  apply List.Perm.eq_of_pairwise _ (List.pairwise_insertionSort _ _)
    (List.pairwise_insertionSort _ _) (permuted.trans (List.perm_insertionSort order _).symm)
  intro left right first second
  exact strict left (List.mem_of_mem_filter (permuted.mem_iff.mp first)) right
    (List.mem_of_mem_filter ((List.mem_insertionSort _).mp second))

theorem arbitration_partitions (facts : SchedulerTieFacts)
    (distinct : (readiness.readyNodeCompletions.map nodeId).Nodup) :
    let decision := arbitrateScheduler readiness facts
    let drained := decision.readyNodeCompletions
    let late := decision.postCutoffCompletions
    (drained ++ late).Perm readiness.readyNodeCompletions ∧
    drained.Pairwise before ∧ late.Pairwise before ∧
    (readiness.absoluteCutoffReached →
      (∀ completion ∈ drained, completion.readyAtMs ≤ facts.absoluteCutoffAtMs) ∧
      (decision.winner = .drainReadyNodeCompletions ∨ decision.winner = .absoluteCutoff →
        ∀ node ∈ facts.inflightNodes, node ∈ decision.nodesToCancelAfterWinner ↔
          node ∉ drained.map nodeId) ∧
      ∀ completion ∈ readiness.readyNodeCompletions, completion ∈ drained ∨ completion ∈ late) ∧
    ∀ completions inflight, completions.Perm readiness.readyNodeCompletions →
      inflight.Perm facts.inflightNodes →
      arbitrateScheduler { readiness with readyNodeCompletions := completions }
        { facts with inflightNodes := inflight } = decision := by
  intro decision drained late
  have whole : (drained ++ late).Perm readiness.readyNodeCompletions :=
    ((List.perm_insertionSort _ _).append (List.perm_insertionSort _ _)).trans
      (List.filter_append_perm _ _)
  refine ⟨whole, List.pairwise_insertionSort _ _, List.pairwise_insertionSort _ _, ?_, ?_⟩
  · intro reached
    refine ⟨?_, ?_, fun completion member => List.mem_append.mp (whole.mem_iff.mpr member)⟩
    · intro completion member
      have kept := (List.mem_filter.mp ((List.mem_insertionSort _).mp member)).2
      simpa [withinCutoff, reached] using kept
    · intro won node inflight
      have applied : (decision.winner == .drainReadyNodeCompletions ||
          decision.winner == .absoluteCutoff) = true := by simpa using won
      have cancel : decision.nodesToCancelAfterWinner = (facts.inflightNodes.filter fun node =>
          !drained.any fun completion => completion.nodeId == node).insertionSort (· ≤ ·) :=
        if_pos (Bool.and_eq_true_iff.mpr ⟨reached, applied⟩)
      simp [cancel, inflight]
  · intro completions inflight same nodes
    have arms : SchedulerArm.isReady { readiness with readyNodeCompletions := completions } =
        SchedulerArm.isReady readiness := rfl
    have cutoff : withinCutoff { readiness with readyNodeCompletions := completions }
        { facts with inflightNodes := inflight } = withinCutoff readiness facts := rfl
    have completed := @sorted_alike _ before _ _ _ _ _ same
      fun _ first _ second below above =>
        List.inj_on_of_nodup_map distinct first second (le_antisymm below above)
    have cancelled := sorted_alike nodes fun _ _ _ _ => le_antisymm
    simp only [decision, arbitrateScheduler, arms, cutoff, completed, cancelled]

theorem late_completion_partitioned :
    let decision := arbitrateScheduler
      ⟨[⟨"b", 1⟩, ⟨"a", 9⟩], false, false, false, true, false, false⟩ ⟨5, ["a", "b"]⟩
    (decision.readyNodeCompletions ++ decision.postCutoffCompletions).Perm [⟨"b", 1⟩, ⟨"a", 9⟩] :=
  (arbitration_partitions ⟨[⟨"b", 1⟩, ⟨"a", 9⟩], _, _, _, _, _, _⟩ _ (by decide)).1

structure ArbitratedReadyBatch (α : Type) where
  winner : SchedulerArm
  ready : List α
  nodesToCancel : List NodeId
  postCutoffNodes : List NodeId
  cutoffApplied : Bool

section Batch

variable {α : Type} (observed : α → ReadyNodeCompletion)

def beforeBy (left right : α) : Prop := (observed left).nodeId ≤ (observed right).nodeId

instance : DecidableRel (beforeBy observed) := fun left right =>
  inferInstanceAs (Decidable ((observed left).nodeId ≤ (observed right).nodeId))

/-- `arbitrate_ready_batch_v1`: the whole batch is kept, in node order; completions after the
cutoff are only named. -/
def arbitrateReadyBatch (ready : List α) (readiness : SchedulerArbitrationReadiness)
    (facts : SchedulerTieFacts) : ArbitratedReadyBatch α :=
  let decision := arbitrateScheduler
    { readiness with
      readyNodeCompletions := readiness.readyNodeCompletions ++ ready.map observed } facts
  { winner := decision.winner
    ready := ready.insertionSort (beforeBy observed)
    nodesToCancel := decision.nodesToCancelAfterWinner
    postCutoffNodes := decision.postCutoffCompletions.map nodeId
    cutoffApplied := readiness.absoluteCutoffReached &&
      (decision.winner == .drainReadyNodeCompletions || decision.winner == .absoluteCutoff) }

end Batch

end A2aBridge.Workflow
