import A2aBridge.WorkflowLoop

/-!
What the control state of a run remembers. Cancellation, a budget failure and an observed
arm are never forgotten, and admission only stops for a recorded cause: cancellation of the
run, a refused budget, the absolute cutoff, or a policy trigger. Every operation of the loop
on the control state is `Later`, and every phase of a pass keeps a run `Governed`.
-/

namespace A2aBridge.Workflow

open StatefulRefusal

variable {stronger : Prop}

namespace Control

def HasCause (control : Control) (triggered : Prop) : Prop :=
  control.cancelled = true ∨ control.budgetFailure.isSome = true ∨
    SchedulerArm.absoluteCutoff ∈ control.observedArms ∨ triggered

structure Later (triggered : Prop) (before after : Control) : Prop where
  cancelled : before.cancelled = true → after.cancelled = true
  budget : before.budgetFailure.isSome = true → after.budgetFailure.isSome = true
  arms : before.observedArms ⊆ after.observedArms
  kept : before.stopScheduling = true → after.stopScheduling = true
  stopped : after.stopScheduling = true → before.stopScheduling = true ∨ after.HasCause triggered
  root : ∀ primary, after.rootCancellationPrimary = some primary →
    before.rootCancellationPrimary = some primary ∨ primary = .canceledWorkflow ∨
      primary = .canceledPolicy ∧ triggered
  attributed : after.cancellationPrimaries ≠ ∅ →
    before.cancellationPrimaries ≠ ∅ ∨ after.stopScheduling = true ∨ after.HasCause triggered
  grace : after.fixedGraceDueMs.isSome = true → before.fixedGraceDueMs.isSome = true ∨ triggered

variable {triggered : Prop} {before middle after : Control}

theorem HasCause.later (cause : before.HasCause triggered) (later : Later triggered before after) :
    after.HasCause triggered := by
  rcases cause with cancelled | budget | cutoff | trigger
  · exact .inl (later.cancelled cancelled)
  · exact .inr (.inl (later.budget budget))
  · exact .inr (.inr (.inl (later.arms cutoff)))
  · exact .inr (.inr (.inr trigger))

theorem HasCause.weaken (cause : before.HasCause stronger) (kept : stronger → triggered) :
    before.HasCause triggered := by
  rcases cause with cancelled | budget | cutoff | trigger
  · exact .inl cancelled
  · exact .inr (.inl budget)
  · exact .inr (.inr (.inl cutoff))
  · exact .inr (.inr (.inr (kept trigger)))

namespace Later

theorem trans (first : Later triggered before middle) (second : Later triggered middle after) :
    Later triggered before after where
  cancelled := fun holds => second.cancelled (first.cancelled holds)
  budget := fun holds => second.budget (first.budget holds)
  arms := first.arms.trans second.arms
  kept := fun holds => second.kept (first.kept holds)
  stopped := by
    intro holds
    rcases second.stopped holds with earlier | cause
    · rcases first.stopped earlier with old | cause
      · exact .inl old
      · exact .inr (cause.later second)
    · exact .inr cause
  root := by
    intro primary holds
    rcases second.root primary holds with earlier | other
    · exact first.root primary earlier
    · exact .inr other
  attributed := by
    intro holds
    rcases second.attributed holds with earlier | cause
    · rcases first.attributed earlier with old | stopped | cause
      · exact .inl old
      · exact .inr (.inl (second.kept stopped))
      · exact .inr (.inr (cause.later second))
    · exact .inr cause
  grace := by
    intro holds
    rcases second.grace holds with earlier | trigger
    · exact first.grace earlier
    · exact .inr trigger

theorem of_same (cancelled : after.cancelled = before.cancelled)
    (budget : after.budgetFailure = before.budgetFailure)
    (arms : after.observedArms = before.observedArms)
    (stop : after.stopScheduling = before.stopScheduling)
    (root : after.rootCancellationPrimary = before.rootCancellationPrimary)
    (attributed : after.cancellationPrimaries = before.cancellationPrimaries)
    (grace : after.fixedGraceDueMs = before.fixedGraceDueMs ∨ after.fixedGraceDueMs = none) :
    Later triggered before after where
  cancelled := by rw [cancelled]; exact id
  budget := by rw [budget]; exact id
  arms := by rw [arms]
  kept := by rw [stop]; exact id
  stopped := by rw [stop]; exact .inl
  root := by rw [root]; exact fun _ => .inl
  attributed := by rw [attributed]; exact .inl
  grace := by
    rcases grace with same | cleared
    · rw [same]; exact .inl
    · simp [cleared]

variable (primary : NodePrimaryDisposition) (inv : Invocation) (control : Control) (node : NodeId)
  (external : Bool) (anchorMs : Nat)

theorem refl : Later triggered control control := of_same rfl rfl rfl rfl rfl rfl (.inl rfl)

/-- A cause, or admission that has already stopped. -/
def Justified (triggered : Prop) (control : Control) : Prop :=
  control.stopScheduling = true ∨ control.HasCause triggered

theorem justified (later : Later triggered before after) (start : Justified triggered before) :
    Justified triggered after :=
  start.imp later.kept fun cause => cause.later later

theorem foldl {change : Control → NodeId → Control}
    (each : ∀ control node, Justified triggered control → Later triggered control (change control node))
    (nodes : List NodeId) (control : Control) (start : Justified triggered control) :
    Later triggered control (nodes.foldl change control) := by
  induction nodes generalizing control with
  | nil => exact refl control
  | cons node rest ih =>
    have first := each control node start
    exact first.trans (ih (change control node) (first.justified start))

theorem sample : Later triggered control (control.sample external) where
  cancelled := by
    intro holds
    simp [Control.sample, holds]
  budget := id
  arms := Finset.Subset.refl _
  kept := id
  stopped := .inl
  root := fun _ => .inl
  attributed := .inl
  grace := .inl

theorem observe : Later triggered control (control.observe control.cancelled) := by
  unfold Control.observe
  split
  · rename_i seen
    have cancelled : control.cancelled = true := (Bool.and_eq_true_iff.mp seen).1
    refine ⟨id, id, Finset.Subset.refl _, id, .inl, ?_, fun _ => .inr (.inr (.inl cancelled)), .inl⟩
    intro primary holds
    exact .inr (.inl (Option.some.inj holds).symm)
  · exact refl control

theorem sample_observe : Later triggered control (control.sampleObserve external) :=
  (sample control external).trans (observe _)

theorem record (start : Justified triggered control) :
    Later triggered control (control.record primary node) := by
  refine ⟨id, id, Finset.Subset.refl _, id, .inl, ?_, fun _ => .inr start, .inl⟩
  intro other holds
  by_cases workflow : primary = .canceledWorkflow
  · cases root : control.rootCancellationPrimary with
    | none =>
      have same : other = .canceledWorkflow := by
        simpa [Control.record, workflow, root] using holds.symm
      exact .inr (.inl same)
    | some earlier =>
      left
      simpa [Control.record, workflow, root] using holds
  · left
    simpa [Control.record, workflow] using holds

theorem cancel_node (start : Justified triggered control) :
    Later triggered control (control.cancelNode primary node) := by
  unfold Control.cancelNode
  split
  · exact (record primary control node start).trans (of_same rfl rfl rfl rfl rfl rfl (.inl rfl))
  · exact refl control

theorem cancel_all (primary : NodePrimaryDisposition) (start : Justified triggered control) :
    Later triggered control (control.cancelAll primary) :=
  foldl (cancel_node primary) _ control start

theorem global_cancel (trigger : triggered) : Later triggered control control.globalCancel := by
  refine (foldl (record .canceledPolicy) control.nodeCancels.keys control
    (.inr (.inr (.inr (.inr trigger))))).trans ?_
  unfold Control.globalCancel
  generalize control.nodeCancels.keys.foldl (Control.record .canceledPolicy) control = recorded
  refine ⟨fun _ => rfl, id, Finset.Subset.refl _, id, .inl, ?_, .inl, .inl⟩
  intro primary holds
  cases root : recorded.rootCancellationPrimary with
  | none =>
    have same : primary = .canceledPolicy := by simpa [root] using holds.symm
    exact .inr (.inr ⟨same, trigger⟩)
  | some earlier =>
    left
    simpa [root] using holds

theorem arm_cleanup (control : Control) :
    Later triggered control (control.armCleanup inv anchorMs) := by
  unfold Control.armCleanup
  split
  · exact of_same rfl rfl rfl rfl rfl rfl (.inl rfl)
  · exact refl control

variable (arm : SchedulerArm)

theorem observe_arm : Later triggered control (control.observeArm arm) where
  cancelled := id
  budget := id
  arms := Finset.subset_insert arm control.observedArms
  kept := id
  stopped := .inl
  root := fun _ => .inl
  attributed := .inl
  grace := .inl

theorem stop (cause : control.stopScheduling = true ∨ control.HasCause triggered) :
    Later triggered control control.stop where
  cancelled := id
  budget := id
  arms := Finset.Subset.refl _
  kept := fun _ => rfl
  stopped := fun _ => cause
  root := fun _ => .inl
  attributed := .inl
  grace := .inl

theorem stop_or (flag : Bool) (cause : flag = true → control.HasCause triggered) :
    Later triggered control
      { control with stopScheduling := control.stopScheduling || flag } := by
  cases flag with
  | false => exact of_same rfl rfl rfl (Bool.or_false _) rfl rfl (.inl rfl)
  | true =>
    rw [Bool.or_true]
    exact stop control (.inr (cause rfl))

theorem head : Later triggered control (control.head external) := by
  refine (sample_observe control external).trans ?_
  simp only [Control.head]
  split
  · exact of_same rfl rfl rfl rfl rfl rfl (.inr rfl)
  · exact refl _

theorem launch (flight : Flight) : Later triggered control (control.launch flight) := by
  unfold Control.launch
  split
  · exact of_same rfl rfl rfl rfl rfl rfl (.inl rfl)
  · exact refl control

theorem release : Later triggered control (control.release node) :=
  of_same rfl rfl rfl rfl rfl rfl (.inl rfl)

theorem terminalize (transfers : List (NodeId × Except BridgeError Bool)) :
    Later triggered control (control.terminalize transfers) :=
  of_same rfl rfl rfl rfl rfl rfl (.inl rfl)

theorem arm_grace (timer : FixedGraceTimer) (dueMs : Nat) (trigger : triggered) :
    Later triggered control
      { control with fixedGraceTimer := timer, fixedGraceDueMs := some dueMs } :=
  ⟨id, id, Finset.Subset.refl _, id, .inl, fun _ => .inl, .inl, fun _ => .inr trigger⟩

theorem note_budget (failure : AccountingFailure) :
    Later triggered control (control.noteBudget failure) where
  cancelled := id
  budget := by
    intro holds
    cases noted : control.budgetFailure with
    | none => simp [noted] at holds
    | some earlier => simp [Control.noteBudget, noted]
  arms := Finset.Subset.refl _
  kept := id
  stopped := .inl
  root := fun _ => .inl
  attributed := .inl
  grace := .inl

theorem note_refusal (primaryError : Option BridgeError) :
    Later triggered control (control.noteRefusal primaryError) := by
  cases primaryError with
  | none => exact refl control
  | some error =>
    simp only [Control.noteRefusal]
    split
    · exact note_budget control _
    · exact refl control

theorem stop_on_budget : Later triggered control control.stopOnBudget :=
  stop_or control _ fun budget => .inr (.inl budget)

theorem stop_cancel_node (control : Control) (node : NodeId) :
    ((control.cancelNode primary node).observeArm arm).stop =
      ((control.observeArm arm).stop).cancelNode primary node := by
  unfold Control.cancelNode
  split
  · rename_i running
    rw [if_pos (by exact running)]
    rfl
  · rename_i absent
    rw [if_neg (by exact absent)]

/-- The cutoff may be observed before the nodes it cancels: their tokens do not depend on it. -/
theorem stop_cancel_nodes (nodes : List NodeId) (control : Control) :
    ((nodes.foldl (Control.cancelNode primary) control).observeArm arm).stop =
      nodes.foldl (Control.cancelNode primary) ((control.observeArm arm).stop) := by
  induction nodes generalizing control with
  | nil => rfl
  | cons node rest ih =>
    rw [List.foldl_cons, List.foldl_cons, ih (control.cancelNode primary node),
      stop_cancel_node primary arm control node]

theorem cutoff_stop : Later triggered control (control.observeArm .absoluteCutoff).stop := by
  refine (observe_arm control .absoluteCutoff).trans (stop _ (.inr ?_))
  exact .inr (.inr (.inl (Finset.mem_insert_self _ _)))

/-- Only a cutoff that was applied cancels nodes of a drained batch. -/
theorem apply_arbitration (batch : ArbitratedReadyBatch Ready)
    (control : Control) (calm : batch.cutoffApplied = false → batch.nodesToCancel = []) :
    Later triggered control (control.applyArbitration inv anchorMs batch) := by
  simp only [Control.applyArbitration]
  by_cases applied : batch.cutoffApplied = true
  · simp only [applied, if_true]
    refine (arm_cleanup inv anchorMs control).trans ?_
    rw [stop_cancel_nodes]
    exact (cutoff_stop _).trans (foldl (cancel_node .canceledPolicy) _ _ (.inl rfl))
  · have untouched := calm (Bool.not_eq_true _ ▸ applied)
    simp only [applied, untouched, List.foldl_nil]
    exact refl control

theorem stop_arm (control : Control)
    (cause : arm = .absoluteCutoff ∨ control.cancelled = true ∨ control.stopScheduling = true) :
    Later triggered control (control.stopArm inv anchorMs arm) := by
  have stopping : Later triggered control (control.observeArm arm).stop := by
    refine (observe_arm control arm).trans (stop _ ?_)
    rcases cause with rfl | cancelled | stopped
    · exact .inr (.inr (.inr (.inl (Finset.mem_insert_self _ _))))
    · exact .inr (.inl cancelled)
    · exact .inl stopped
  have arming : Later triggered (control.observeArm arm).stop
      ((control.observeArm arm).stop.armCleanup inv anchorMs) := arm_cleanup inv anchorMs _
  exact stopping.trans (arming.trans (cancel_all _ _ (arming.justified (.inl rfl))))

theorem apply_action (action : PolicyAction) (trigger : action ≠ .none → triggered) :
    Later triggered control (control.applyAction action) := by
  cases action with
  | none | armManualGrace => exact refl control
  | cancelRunningSiblings =>
    exact cancel_all control .canceledPolicy (.inr (.inr (.inr (.inr (trigger (by simp))))))
  | globalCancelAndDrain => exact global_cancel control (trigger (by simp))

end Later

end Control

/-! The fan-out controller. -/

namespace FanOutController

/-- The controller's own account: a pending barrier belongs to a trigger, a trigger stops
admission, and only a trigger or a cancellation does. -/
structure Sound (cancelled : Prop) (controller : FanOutController) : Prop where
  pending : controller.barrierPending = true → controller.trigger.isSome = true
  triggered : controller.trigger.isSome = true → controller.admissionStopped = true
  stopped : controller.admissionStopped = true → controller.trigger.isSome = true ∨ cancelled
  armed : controller.manualGraceArmed = true → controller.trigger.isSome = true
  independent : controller.policy = .boundedIndependent → controller.trigger = none

variable {controller after : FanOutController} {cancelled : Prop}

theorem Sound.weaken (sound : Sound stronger controller) (kept : stronger → cancelled) :
    Sound cancelled controller where
  pending := sound.pending
  triggered := sound.triggered
  stopped := fun holds => (sound.stopped holds).imp_right kept
  armed := sound.armed
  independent := sound.independent

theorem new_sound (policy : FanOutPolicy) : Sound cancelled (new policy) where
  pending := by simp [new]
  triggered := by simp [new]
  stopped := by simp [new]
  armed := by simp [new]
  independent := fun _ => rfl

variable {attemptId : String} {nodeRefs : NodeRefs} {selection : ReadyBatchSelection}
  {terminals : List ReadyNodeTerminal}

variable {trigger : PolicyTrigger} {beforeWait : Bool}

theorem restore_cases {terminals : TerminalMap}
    (restored : controller.restoreCommittedTrigger attemptId trigger terminals nodeRefs = .ok after) :
    controller.policy ≠ .boundedIndependent ∧
      after = { controller with
        trigger := some trigger
        admissionStopped := true
        manualGraceArmed := controller.policy.graceMs.isSome } := by
  simp only [restoreCommittedTrigger] at restored
  split_ifs at restored with accepted
  refine ⟨?_, (Except.ok.inj restored).symm⟩
  intro independent
  simp [refusesRestore, independent] at accepted

section

variable (finalized : controller.finalizeReadyBatch attemptId terminals nodeRefs beforeWait =
  .ok (selection, after))

include finalized

/-- What a batch does to the controller: nothing is selected, or its first qualifying failure
becomes the trigger. -/
theorem finalize_cases :
    (selection = ⟨terminals.insertionSort ReadyNodeTerminal.before, none⟩ ∧
      (after = controller ∨
        beforeWait = true ∧ after = { controller with admissionStopped := true })) ∨
    (controller.trigger = none ∧ controller.policy ≠ .boundedIndependent ∧
      ∃ selected marked node,
        markSelected (controlEventIdForAttempt attemptId 0)
          (terminals.insertionSort ReadyNodeTerminal.before) = some (selected, marked) ∧
        selection = ⟨marked, some (controller.triggerFor attemptId node)⟩ ∧
        after = { controller with
          trigger := some (controller.triggerFor attemptId node)
          barrierPending := true
          admissionStopped := true }) := by
  simp only [finalizeReadyBatch] at finalized
  split at finalized
  · cases finalized
  split at finalized
  · rename_i early
    cases finalized
    exact .inl ⟨rfl, .inr ⟨early, rfl⟩⟩
  split at finalized
  · cases finalized
    exact .inl ⟨rfl, .inl rfl⟩
  rename_i selectable
  split at finalized
  · cases finalized
    exact .inl ⟨rfl, .inl rfl⟩
  · rename_i selected marked chosen
    split at finalized
    · cases finalized
    · rename_i node found
      cases finalized
      simp only [Bool.or_eq_true, not_or, beq_iff_eq, Option.isSome_iff_ne_none, ne_eq,
        not_not] at selectable
      exact .inr ⟨selectable.1, selectable.2, selected, marked, node, chosen, rfl, rfl⟩

theorem finalize_sound (sound : Sound cancelled controller)
    (observed : beforeWait = true → cancelled) :
    Sound cancelled after ∧ after.policy = controller.policy ∧
      (controller.trigger.isSome = true → after.trigger.isSome = true) := by
  rcases finalize_cases finalized with ⟨_, rfl | ⟨early, rfl⟩⟩ | selecting
  · exact ⟨sound, rfl, id⟩
  · exact ⟨⟨sound.pending, fun _ => rfl, fun _ => .inr (observed early), sound.armed,
      sound.independent⟩, rfl, id⟩
  · obtain ⟨_, dependent, _, _, _, _, _, rfl⟩ := selecting
    exact ⟨⟨fun _ => rfl, fun _ => rfl, fun _ => .inl rfl, fun _ => rfl,
      fun same => absurd same dependent⟩, rfl, fun _ => rfl⟩

end

theorem acknowledge_cases (controller : FanOutController) (result : PolicyTriggerBarrierResult)
    (observed : Bool) :
    (controller.acknowledgeBarrier result observed).2.policy = controller.policy ∧
      (controller.acknowledgeBarrier result observed).2.trigger = controller.trigger ∧
      (controller.acknowledgeBarrier result observed).2.admissionStopped =
        controller.admissionStopped ∧
      ((controller.acknowledgeBarrier result observed).2.barrierPending = true →
        controller.barrierPending = true) ∧
      ((controller.acknowledgeBarrier result observed).2.manualGraceArmed = true →
        controller.manualGraceArmed = true ∨ controller.barrierPending = true) ∧
      ((controller.acknowledgeBarrier result observed).1 ≠ .none →
        controller.barrierPending = true) := by
  by_cases pending : controller.barrierPending = true
  · simp only [acknowledgeBarrier, pending, Bool.not_true, Bool.false_eq_true, if_false]
    split
    · simp
    · split
      · simp
      · cases controller.policy <;> simp
  · simp only [acknowledgeBarrier, pending, Bool.not_false, if_true]
    simp

theorem acknowledge_sound (sound : Sound cancelled controller) (result : PolicyTriggerBarrierResult)
    (observed : Bool) : Sound cancelled (controller.acknowledgeBarrier result observed).2 := by
  obtain ⟨policy, trigger, stopped, pending, armed, _⟩ := acknowledge_cases controller result observed
  constructor
  · rw [trigger]; exact fun holds => sound.pending (pending holds)
  · rw [trigger, stopped]; exact sound.triggered
  · rw [trigger, stopped]; exact sound.stopped
  · rw [trigger]; exact fun holds => (armed holds).elim sound.armed sound.pending
  · rw [policy, trigger]; exact sound.independent

theorem expire_cases (controller : FanOutController) :
    controller.expireManualGrace.2.policy = controller.policy ∧
      controller.expireManualGrace.2.trigger = controller.trigger ∧
      controller.expireManualGrace.2.admissionStopped = controller.admissionStopped ∧
      controller.expireManualGrace.2.barrierPending = controller.barrierPending ∧
      controller.expireManualGrace.2.manualGraceArmed = controller.manualGraceArmed ∧
      (controller.expireManualGrace.1 ≠ .none → controller.manualGraceArmed = true) := by
  unfold expireManualGrace
  split
  · simp
  · rename_i live
    cases armed : controller.manualGraceArmed with
    | false => simp [armed] at live
    | true => simp

theorem expire_sound (sound : Sound cancelled controller) :
    Sound cancelled controller.expireManualGrace.2 := by
  obtain ⟨policy, trigger, stopped, pending, armed, _⟩ := expire_cases controller
  constructor
  · rw [trigger, pending]; exact sound.pending
  · rw [trigger, stopped]; exact sound.triggered
  · rw [trigger, stopped]; exact sound.stopped
  · rw [trigger, armed]; exact sound.armed
  · rw [policy, trigger]; exact sound.independent

end FanOutController

/-! Runs. -/

def Policy.Triggered (policy : Policy) : Prop :=
  ∃ controller, policy.controller = some controller ∧ controller.trigger.isSome = true

/-- A barrier has been sent and its result has not reached the controller. -/
def Policy.isOut (policy : Policy) : Bool :=
  policy.durableTriggerBarrier.isSome || policy.durableTriggerAcknowledgement.isSome

/-- What a phase never undoes. -/
structure Advance (before after : Run) : Prop where
  control : Control.Later after.policy.Triggered before.control after.control
  triggered : before.policy.Triggered → after.policy.Triggered
  controller : ∀ controller, after.policy.controller = some controller →
    ∃ earlier, before.policy.controller = some earlier ∧ controller.policy = earlier.policy

/-- Every stop and every root cancellation of a run has its cause on record. -/
structure Governed (run : Run) : Prop where
  controller : ∀ controller, run.policy.controller = some controller →
    controller.Sound (run.control.cancelled = true)
  stopped : run.control.stopScheduling = true → run.control.HasCause run.policy.Triggered
  root : ∀ primary, run.control.rootCancellationPrimary = some primary →
    primary = .canceledWorkflow ∨ primary = .canceledPolicy ∧ run.policy.Triggered
  attributed : run.control.cancellationPrimaries ≠ ∅ → run.control.HasCause run.policy.Triggered
  grace : run.control.fixedGraceDueMs.isSome = true → run.policy.Triggered
  barrier : run.policy.isOut = true → run.policy.Triggered

section Phases

variable {before middle after : Run}

theorem Control.Later.weaken {weaker : Prop} {before after : Control}
    (later : Control.Later stronger before after) (kept : stronger → weaker) :
    Control.Later weaker before after where
  cancelled := later.cancelled
  budget := later.budget
  arms := later.arms
  kept := later.kept
  stopped := fun holds => (later.stopped holds).imp_right fun cause => cause.weaken kept
  root := fun primary holds =>
    (later.root primary holds).imp_right fun other => other.imp_right fun policy =>
      ⟨policy.1, kept policy.2⟩
  attributed := fun holds =>
    (later.attributed holds).imp_right fun other => other.imp_right fun cause => cause.weaken kept
  grace := fun holds => (later.grace holds).imp_right kept

theorem Advance.trans (first : Advance before middle) (second : Advance middle after) :
    Advance before after where
  control := (first.control.weaken second.triggered).trans second.control
  triggered := fun holds => second.triggered (first.triggered holds)
  controller := by
    intro controller holds
    obtain ⟨between, found, same⟩ := second.controller controller holds
    obtain ⟨earlier, start, kept⟩ := first.controller between found
    exact ⟨earlier, start, same.trans kept⟩

theorem Advance.of_control (policy : after.policy.controller = before.policy.controller)
    (later : Control.Later before.policy.Triggered before.control after.control) :
    Advance before after := by
  have same : before.policy.Triggered = after.policy.Triggered := by
    unfold Policy.Triggered
    rw [policy]
  refine ⟨same ▸ later, fun holds => same ▸ holds, ?_⟩
  intro controller holds
  exact ⟨controller, policy ▸ holds, rfl⟩

theorem Advance.refl (run : Run) : Advance run run :=
  .of_control rfl (Control.Later.refl run.control)

theorem Governed.advance (governed : Governed before) (advance : Advance before after)
    (sound : ∀ controller, after.policy.controller = some controller →
      controller.Sound (after.control.cancelled = true))
    (out : after.policy.isOut = true → after.policy.Triggered) : Governed after := by
  have stopped : after.control.stopScheduling = true →
      after.control.HasCause after.policy.Triggered := by
    intro holds
    rcases advance.control.stopped holds with earlier | cause
    · exact ((governed.stopped earlier).weaken advance.triggered).later advance.control
    · exact cause
  refine ⟨sound, stopped, ?_, ?_, ?_, out⟩
  · intro primary holds
    rcases advance.control.root primary holds with earlier | other
    · rcases governed.root primary earlier with workflow | ⟨policy, triggered⟩
      · exact .inl workflow
      · exact .inr ⟨policy, advance.triggered triggered⟩
    · exact other
  · intro holds
    rcases advance.control.attributed holds with earlier | stop | cause
    · exact ((governed.attributed earlier).weaken advance.triggered).later advance.control
    · exact stopped stop
    · exact cause
  · intro holds
    rcases advance.control.grace holds with earlier | triggered
    · exact advance.triggered (governed.grace earlier)
    · exact triggered

theorem Governed.of_control (governed : Governed before)
    (policy : after.policy.controller = before.policy.controller)
    (out : after.policy.isOut = true → before.policy.isOut = true)
    (later : Control.Later before.policy.Triggered before.control after.control) :
    Governed after ∧ Advance before after := by
  have advance := Advance.of_control policy later
  refine ⟨governed.advance advance ?_ ?_, advance⟩
  · intro controller holds
    exact (governed.controller controller (policy ▸ holds)).weaken advance.control.cancelled
  · intro holds
    exact advance.triggered (governed.barrier (out holds))

end Phases

end A2aBridge.Workflow
