import A2aBridge.WorkflowCauses
import A2aBridge.WorkflowPublication

/-!
The phases of a pass and the causes of cancellation. Every phase is causal and keeps admission
stopped where the fan-out controller stopped it; a node is settled with the cause that stands
at its completion, and that cause stays. A batch at the controller records every completion
under the primary it was settled with.
-/

namespace A2aBridge.Workflow

open StatefulRefusal JobLedger Control FanOutController

/-- Where the controller stopped admission, the scheduler has stopped. -/
def Run.Barred (run : Run) : Prop :=
  ∀ controller, run.policy.controller = some controller → controller.admissionStopped = true →
    run.control.stopScheduling = true

/-- A result that waits for the controller authorizes its policy. -/
def Run.Answered (grounds : Grounds) (run : Run) : Prop :=
  ∀ result, run.policy.durableTriggerAcknowledgement = some result →
    FanOutController.authorized result = true ∨ grounds.forced

structure Follows (grounds : Grounds) (before after : Run) : Prop where
  control : Causal grounds before.control after.control
  barred : before.Barred → after.Barred
  answered : before.Answered grounds → after.Answered grounds

/-- What a turn brings after its wait rests on the grounds. -/
structure Backed (grounds : Grounds) (inv : Invocation) (turn : Turn) : Prop where
  announced : turn.Announced grounds.arrived
  timed : inv.schedulerActive = true → grounds.active
  awaited : inv.authority.isSome = true → inv.schedulerActive = false →
    FanOutController.authorized (inv.barrierResult turn.barrierAnswer) = true ∨ grounds.forced

/-- So does what it brings to a run that waits. -/
structure Rests (grounds : Grounds) (inv : Invocation) (run : Run) (turn : Turn) : Prop
    extends Backed grounds inv turn where
  polled : run.policy.durableTriggerBarrier.isSome = true → ∀ answer, turn.barrierPoll = some answer →
    FanOutController.authorized (inv.barrierResult answer) = true ∨ grounds.forced
  signalled : run.policy.durableTriggerBarrier.isSome = true → ∀ answer,
    turn.signal = .barrierAcknowledgement answer →
    FanOutController.authorized (inv.barrierResult answer) = true ∨ grounds.forced

variable {run : Run} {turn : Turn}

theorem Rests.of_barrier {grounds : Grounds} {inv : Invocation} {after : Run}
    (rests : Rests grounds inv run turn)
    (same : after.policy.durableTriggerBarrier = run.policy.durableTriggerBarrier) :
    Rests grounds inv after turn :=
  ⟨rests.toBacked, same ▸ rests.polled, same ▸ rests.signalled⟩

theorem rests_of_announced {arrived : Prop} (inv : Invocation)
    (announced : turn.Announced arrived) : Rests ⟨True, arrived, True⟩ inv run turn :=
  ⟨⟨announced, fun _ => trivial, fun _ _ => .inr trivial⟩, fun _ _ _ => .inr trivial,
    fun _ _ _ => .inr trivial⟩

variable {control : Control} {grounds : Grounds}

section Follows

variable {before middle after run : Run}

theorem Follows.trans (first : Follows grounds before middle) (second : Follows grounds middle after) :
    Follows grounds before after :=
  ⟨first.control.trans second.control, fun start => second.barred (first.barred start),
    fun start => second.answered (first.answered start)⟩

theorem Follows.of_controller (control : Causal grounds before.control after.control)
    (admission : ∀ controller, after.policy.controller = some controller →
      ∃ earlier, before.policy.controller = some earlier ∧
        earlier.admissionStopped = controller.admissionStopped)
    (answered : before.Answered grounds → after.Answered grounds) : Follows grounds before after := by
  refine ⟨control, ?_, answered⟩
  intro barred controller found stopped
  obtain ⟨earlier, present, same⟩ := admission controller found
  apply control.stopped
  apply barred earlier present
  rw [same]
  exact stopped

theorem Follows.of_control (causal : Causal grounds run.control control) :
    Follows grounds run { run with control := control } :=
  Follows.of_controller causal (fun controller found => ⟨controller, found, rfl⟩) id

theorem Follows.refl : Follows grounds run run := Follows.of_control (Causal.refl _)

end Follows

/-! The wait. -/

section Wait

variable {inv : Invocation} {run : Run}

theorem waiting_follows (announced : turn.Announced grounds.arrived) :
    Follows grounds run (run.waiting turn) :=
  Follows.of_control ((Causal.head _ announced.head).trans (Causal.sample _ announced.beforeWait))

theorem drain_follows (rests : Rests grounds inv run turn) (proved : Bool) (ready : List Ready) :
    Follows grounds run (drain inv turn run proved ready).run := by
  have polled : ∀ controller, (run.policy.poll inv turn.barrierPoll).controller = some controller →
      ∃ earlier, run.policy.controller = some earlier ∧
        earlier.admissionStopped = controller.admissionStopped := by
    intro controller found
    rw [poll_controller] at found
    exact ⟨controller, found, rfl⟩
  have answered : ∀ control : Control, run.Answered grounds →
      Run.Answered grounds { run with
        policy := run.policy.poll inv turn.barrierPoll, control := control } := by
    intro control waiting result found
    simp only [Policy.poll] at found
    split at found
    · rename_i pending
      cases poll : turn.barrierPoll with
      | none =>
        rw [poll] at found
        exact waiting result found
      | some answer =>
        rw [poll] at found
        cases found
        exact rests.polled (Bool.and_eq_true_iff.mp pending).2 answer poll
    · exact waiting result found
  by_cases active : inv.schedulerActive = true
  · rw [drain_active active]
    apply Follows.of_controller
    · exact (Causal.sample run.control rests.announced.arbitration).trans
        (Causal.apply_arbitration _ _ _ _ (rests.timed active))
    · exact polled
    · exact answered _
  · rw [drain_inactive active]
    exact Follows.of_controller (Causal.refl _) polled (answered _)

theorem receive_follows {received : Received} (rests : Rests grounds inv run turn)
    (heard : receive inv turn run = some received) : Follows grounds run received.run := by
  have waking : Causal grounds run.control (run.control.sample turn.cancelDuringWait) :=
    Causal.sample run.control rests.announced.duringWait
  cases receive_heard heard with
  | batch signal taken =>
    refine Follows.trans ?_ (drain_follows ?_ _ _)
    · exact Follows.of_controller (waking.trans (Causal.observe _))
        (fun controller found => ⟨controller, found, rfl⟩) id
    · exact rests.of_barrier rfl
  | @result answer signal sent =>
    refine Follows.of_controller waking (fun controller found => ⟨controller, found, rfl⟩) ?_
    intro _ result found
    cases found
    exact rests.signalled sent answer signal
  | control signal active enabled => exact Follows.of_control waking

end Wait

/-! The arms. -/

section Arms

variable (inv : Invocation) (run : Run)

/-- The controller cancels the root on a seen cancellation or a result that does not authorize
its policy. -/
theorem acknowledge_forces {controller : FanOutController} {result : PolicyTriggerBarrierResult}
    {observed : Bool}
    (drains : (controller.acknowledgeBarrier result observed).1 = .globalCancelAndDrain) :
    observed = true ∨ authorized result = false := by
  unfold acknowledgeBarrier at drains
  split at drains
  · cases drains
  · split at drains
    · rename_i seen
      exact .inl seen
    · split at drains
      · rename_i refused
        right
        simpa using refused
      · split at drains <;> cases drains

theorem acknowledge_follows (result : PolicyTriggerBarrierResult) (cancelled : Bool) :
    Follows grounds run (run.acknowledge result cancelled).2 ∧
      ((run.acknowledge result cancelled).1 = .globalCancelAndDrain →
        cancelled = true ∨ authorized result = false) := by
  cases present : run.policy.controller with
  | none =>
    simp only [Run.acknowledge, present]
    refine ⟨Follows.of_controller (Causal.refl run.control) ?_ ?_, fun drains => by cases drains⟩
    · intro answered found
      cases found
    · intro _ _ found
      cases found
  | some controller =>
    simp only [Run.acknowledge, present]
    refine ⟨Follows.of_controller (Causal.refl run.control) ?_ ?_, acknowledge_forces⟩
    · intro answered found
      cases found
      have kept := (acknowledge_cases controller result cancelled).2.2.1
      exact ⟨controller, present, kept.symm⟩
    · intro _ _ found
      cases found

theorem acknowledge_arm_follows (announced : turn.Announced grounds.arrived)
    (answered : run.Answered grounds) :
    Ensured (fun _ after => Follows grounds run after) (fun _ after => Follows grounds run after)
      (acknowledgeArm inv turn run) := by
  simp only [acknowledgeArm, modify_control_bind, get_bind]
  have observing : Follows grounds run
      { run with control := run.control.sampleObserve turn.cancelAtAcknowledgement } :=
    Follows.of_control (Causal.sample_observe _ announced.acknowledgement)
  cases pending : run.policy.durableTriggerAcknowledgement with
  | none => exact observing
  | some result =>
    simp only [set_bind]
    obtain ⟨acknowledging, drains⟩ := @acknowledge_follows grounds
      { run with control := run.control.sampleObserve turn.cancelAtAcknowledgement } result
      (run.control.sampleObserve turn.cancelAtAcknowledgement).cancelled
    have control : (Run.acknowledge
        { run with control := run.control.sampleObserve turn.cancelAtAcknowledgement } result
        (run.control.sampleObserve turn.cancelAtAcknowledgement).cancelled).2.control =
          run.control.sampleObserve turn.cancelAtAcknowledgement := by
      simp only [Run.acknowledge]
      split <;> rfl
    have answering := observing.trans acknowledging
    generalize Run.acknowledge _ _ _ = reply at answering drains control ⊢
    obtain ⟨action, after⟩ := reply
    cases action with
    | none => exact answering
    | cancelRunningSiblings =>
      apply answering.trans
      apply Follows.of_control
      exact (Causal.arm_cleanup _ _ _).trans
        (Causal.cancel_nodes .canceledPolicy _ _ (by intro same; cases same))
    | globalCancelAndDrain =>
      apply answering.trans
      apply Follows.of_control
      refine (Causal.arm_cleanup _ _ _).trans (Causal.global_cancel _ ?_)
      -- A seen cancellation has its root cause by now, so the result was not authorized.
      intro unrooted
      rcases drains rfl with cancelled | refused
      · have root := sampled_root _ _ cancelled
        rw [← control] at root
        unfold Control.armCleanup at unrooted
        split at unrooted
        all_goals
          rw [unrooted] at root
          cases root
      · rcases answered result pending with authorized | forced
        · rw [refused] at authorized
          cases authorized
        · exact forced
    | armManualGrace graceMs =>
      refine (arm_manual_grace_arms inv turn graceMs after).weaken ?_ ?_
      · rintro _ _ ⟨timer, dueMs, rfl⟩
        apply answering.trans
        apply Follows.of_control
        exact Causal.of_same rfl rfl (fun _ => id) id .inl id .inl
      · rintro _ _ rfl
        exact answering

theorem act_follows (arm : SchedulerArm) (announced : turn.Announced grounds.arrived)
    (timed : arm = .absoluteCutoff → grounds.active) (answered : run.Answered grounds)
    (allowed : arm.Allowed run.control) :
    Ensured (fun _ after => Follows grounds run after) (fun _ after => Follows grounds run after)
      (act inv turn arm run) := by
  have stopping : ∀ arm, (arm = .workflowOrExternalCancellation → run.control.cancelled = true) →
      (arm = .absoluteCutoff → grounds.active) →
      Follows grounds run { run with control := run.control.stopArm inv turn.armClockMs arm } :=
    fun arm seen timed => Follows.of_control (Causal.stop_arm _ _ _ _ seen timed)
  cases arm with
  | drainReadyNodeCompletions | dueNoProgressSnapshots => exact Follows.refl
  | durableTriggerBarrierAcknowledgements => exact acknowledge_arm_follows inv run announced answered
  | workflowOrExternalCancellation => exact stopping _ (fun _ => allowed) timed
  | fixedGraceExpiry =>
    have disarming : ∀ timer, Causal grounds run.control
        { run.control with fixedGraceDueMs := none, fixedGraceTimer := timer } :=
      fun timer => Causal.of_same rfl rfl (fun _ => id) id .inl id .inl
    refine (grace_arm_expires inv turn run).weaken ?_ ?_
    · rintro _ _ ⟨timer, controller, present, _, rfl⟩
      refine Follows.of_controller (((disarming timer).trans (Causal.arm_cleanup _ _ _)).trans
        (Causal.cancel_nodes .canceledPolicy _ _ (by intro same; cases same))) ?_ id
      rintro answered ⟨⟩
      exact ⟨controller, present, (expire_cases controller).2.2.1.symm⟩
    · rintro _ _ rfl
      exact Follows.of_control (disarming run.control.fixedGraceTimer)
  | absoluteCutoff | mechanicallyProvedImpossibility =>
    exact stopping _ (fun same => by cases same) timed
  | waitForNodeActivityControlOrClock =>
    simp only [act, waitArm, get_bind]
    split
    · cases transferFailure run.control turn.transfers with
      | some error => exact Follows.refl
      | none =>
        exact Follows.of_control ((Causal.terminalize _ _).trans
          (Causal.sample_observe _ announced.afterTransfer))
    · exact Follows.of_control (Causal.sample_observe _ announced.afterTransfer)

end Arms

/-! Settling. -/

/-- The node no longer runs, and a record that names the workflow has its cause: the root was
cancelled from outside, and no policy cancelled the node before. -/
def Control.Certifies (arrived : Prop) (control : Control) (node : NodeId)
    (primary : NodePrimaryDisposition) : Prop :=
  node ∉ control.nodeCancels ∧ (primary = .canceledWorkflow → arrived ∧
    control.rootCancellationPrimary = some .canceledWorkflow ∧
      control.cancellationPrimaries.lookup node ≠ some .canceledPolicy)

section Settling

variable {node : NodeId} {before : Control}

theorem certifies_later {after : Control} {primary : NodePrimaryDisposition}
    (certified : before.Certifies grounds.arrived node primary)
    (causal : Causal grounds before after) : after.Certifies grounds.arrived node primary := by
  refine ⟨fun member => certified.1 (causal.running node member), ?_⟩
  intro workflow
  obtain ⟨external, root, unmarked⟩ := certified.2 workflow
  refine ⟨external, causal.root _ root, ?_⟩
  intro marked
  -- A node that no longer runs gets no new cause.
  have member : node ∈ after.cancellationPrimaries := AList.lookup_isSome.mp (by rw [marked]; rfl)
  rcases causal.fresh node member with earlier | running
  · obtain ⟨cause, held⟩ := Option.isSome_iff_exists.mp (AList.lookup_isSome.mpr earlier)
    have kept := causal.kept node cause held
    rw [marked] at kept
    cases kept
    exact unmarked held
  · exact certified.1 running

theorem primary_certified (attributed : control.Attributed grounds)
    (released : node ∉ control.nodeCancels) (error : Option BridgeError)
    (disposition : NodeDisposition) :
    control.Certifies grounds.arrived node (primaryOf control node error disposition) := by
  refine ⟨released, ?_⟩
  intro workflow
  cases disposition with
  | completed | completedDegraded | skippedDependency | notStartedPolicy => cases workflow
  | failed =>
    simp only [primaryOf] at workflow
    split at workflow <;> cases workflow
  | canceled =>
    simp only [primaryOf] at workflow
    cases held : control.cancellationPrimaries.lookup node with
    | some cause =>
      rw [held] at workflow
      cases workflow
      have root := attributed.workflow node held
      exact ⟨attributed.outside root, root, by simp⟩
    | none =>
      rw [held, Option.getD_none] at workflow
      split at workflow
      · rename_i root
        exact ⟨attributed.outside root, root, by simp⟩
      · cases workflow

theorem Takes.causal {taken : Control} (takes : Takes before taken) (raw : NodeRunOutput) :
    Causal grounds before (taken.noted raw) := by
  have noting : Causal grounds taken (taken.noted raw) :=
    (Causal.note_refusal _ _).trans (Causal.stop_on_budget _)
  cases takes with
  | own => exact noting
  | refused failure => exact (Causal.note_budget _ _).trans noting

structure Settles (grounds : Grounds) (before after : Control) (node : NodeId) (settled : Settled) : Prop where
  causal : Causal grounds before after
  released : node ∉ after.nodeCancels
  same : settled.completed.node = node
  certified : before.Attributed grounds → after.Certifies grounds.arrived node settled.terminal.primary

theorem settle_completion_settles (inv : Invocation) (late : List NodeId) (ready : Ready)
    (seen : ready.completion.cancelSeen = true → grounds.arrived) :
    Ensured
      (fun settled after => Settles grounds run.control after.control ready.flight.node.id settled)
      (fun _ after => Causal grounds run.control after.control)
      (settleCompletion inv late ready run) := by
  have releasing : Causal grounds run.control (run.control.release ready.flight.node.id) :=
    Causal.release _ _
  refine (settle_completion_runs inv late ready run).weaken ?_ ?_
  · rintro settled _ ⟨control, rfl, raw, taken, takes, rfl, last⟩
    have whole : Causal grounds (run.control.release ready.flight.node.id) control := by
      rcases last with rfl | rfl
      · exact takes.causal raw
      · exact (takes.causal raw).trans (Causal.sample_observe _ seen)
    have released : ready.flight.node.id ∉ control.nodeCancels :=
      fun member => (AList.mem_erase.mp (whole.running _ member)).1 rfl
    refine ⟨releasing.trans whole, released, rfl, fun attributed => ?_⟩
    exact primary_certified ((releasing.trans whole).attributed attributed) released _ _
  · rintro _ _ (rfl | ⟨raw, taken, takes, rfl⟩)
    · exact releasing
    · exact releasing.trans (takes.causal raw)

theorem settle_ready_settles (inv : Invocation) (late : List NodeId) (batch : List Ready) (run : Run)
    (seen : ∀ ready ∈ batch, ready.completion.cancelSeen = true → grounds.arrived) :
    Ensured
      (fun settled after => Causal grounds run.control after.control ∧
        (∀ ready ∈ batch, ready.flight.node.id ∉ after.control.nodeCancels) ∧
        (run.control.Attributed grounds → ∀ entry ∈ settled,
          after.control.Certifies grounds.arrived entry.completed.node entry.terminal.primary))
      (fun _ after => Causal grounds run.control after.control) (settleReady inv late batch run) := by
  induction batch generalizing run with
  | nil =>
    exact ⟨Causal.refl _, List.forall_mem_nil _, fun _ => List.forall_mem_nil _⟩
  | cons ready rest ih =>
    refine (settle_completion_settles inv late ready (seen ready List.mem_cons_self)).bind ?_
    intro first middle settles
    refine ((ih middle fun other member => seen other (List.mem_cons_of_mem _ member)).weaken
      (fun _ _ others => others) (fun _ _ later => settles.causal.trans later)).bind ?_
    rintro others after ⟨later, released, certified⟩
    refine ⟨settles.causal.trans later, ?_, ?_⟩
    · exact List.forall_mem_cons.mpr
        ⟨fun still => settles.released (later.running _ still), released⟩
    · intro attributed
      refine List.forall_mem_cons.mpr ⟨?_, certified (settles.causal.attributed attributed)⟩
      rw [settles.same]
      exact certifies_later (settles.certified attributed) later

end Settling

/-! The batch at the controller. -/

/-- Every record of a batch has the node and the primary of one of its completions. -/
def Restates (settled : List Settled) (terminals : List ReadyNodeTerminal) : Prop :=
  ∀ entry ∈ terminals, ∃ source ∈ settled, source.completed.node = entry.node ∧
    source.terminal.primary = entry.terminal.primary ∧
    source.terminal.degradedAncestry = entry.terminal.degradedAncestry

section Batch

variable {id : String} {marked : List ReadyNodeTerminal} {selected : NodeId}
  {settled : List Settled}

theorem mark_selected_restates {batch : List ReadyNodeTerminal}
    (chosen : markSelected id batch = some (selected, marked)) :
    ∀ entry ∈ marked, ∃ source ∈ batch, source.node = entry.node ∧
      source.terminal.primary = entry.terminal.primary ∧
      source.terminal.degradedAncestry = entry.terminal.degradedAncestry := by
  obtain ⟨early, ready, late, rfl, -, -, -, rfl⟩ := mark_selected_split chosen
  refine List.forall_mem_append.mpr ⟨?_, List.forall_mem_cons.mpr ⟨?_, ?_⟩⟩
  · exact fun entry among => ⟨entry, by simp [among], rfl, rfl, rfl⟩
  · exact ⟨ready, by simp, rfl, rfl, rfl⟩
  · exact fun entry among => ⟨entry, by simp [among], rfl, rfl, rfl⟩

theorem sorted_restates :
    Restates settled ((settled.map Settled.ready).insertionSort ReadyNodeTerminal.before) := by
  intro entry member
  rw [List.mem_insertionSort] at member
  obtain ⟨source, inside, rfl⟩ := List.mem_map.mp member
  exact ⟨source, inside, rfl, rfl, rfl⟩

theorem marked_restates
    (chosen : markSelected id ((settled.map Settled.ready).insertionSort ReadyNodeTerminal.before) =
      some (selected, marked)) : Restates settled marked := by
  intro entry member
  obtain ⟨middle, inside, node, primary, degraded⟩ := mark_selected_restates chosen entry member
  obtain ⟨source, among, sameNode, samePrimary, sameDegraded⟩ :=
    sorted_restates middle inside
  exact ⟨source, among, sameNode.trans node, samePrimary.trans primary, sameDegraded.trans degraded⟩

theorem reach_barrier_causal (inv : Invocation) (controller : FanOutController)
    (evidence : NodeMap NodeEvidence) (triggerJson : String)
    (node : NodeId) (backed : Backed grounds inv turn)
    (frozen : inv.authority.isSome = true) (holds : run.policy.controller = some controller) :
    Ensured
      (fun answer after => Causal grounds run.control after.control ∧
        after.progress = run.progress ∧
        after.policy.durableTriggerAcknowledgement = run.policy.durableTriggerAcknowledgement ∧
        (answer.2 = .globalCancelAndDrain → after.control.rootCancellationPrimary = none →
          grounds.forced) ∧
        ∃ held, after.policy.controller = some held ∧
          held.admissionStopped = controller.admissionStopped)
      (fun _ after => Causal grounds run.control after.control)
      (reachBarrier inv turn controller settled evidence triggerJson node run) := by
  unfold reachBarrier
  cases checkpointOf settled evidence triggerJson node with
  | none => exact Causal.refl _
  | some pair =>
    by_cases active : inv.schedulerActive = true
    · simp only [active, if_true]
      refine ((send_barrier_sends node pair.1 pair.2 run).weaken
        (fun _ _ sent => sent) (fun _ _ same => same ▸ Causal.refl _)).bind ?_
      rintro _ _ ⟨_, rfl⟩
      exact ⟨Causal.refl _, rfl, rfl, (fun drains => by cases drains), controller, holds, rfl⟩
    · simp only [active, awaitBarrier]
      have kept := (acknowledge_cases controller
        (inv.barrierResult turn.barrierAnswer)
        (run.control.sampleObserve turn.cancelAtAcknowledgement).cancelled).2.2.1
      refine ⟨Causal.sample_observe _ backed.announced.acknowledgement, rfl, rfl, ?_, _, rfl, kept⟩
      intro drains unrooted
      rcases acknowledge_forces drains with cancelled | refused
      · have root := sampled_root _ _ cancelled
        rw [unrooted] at root
        cases root
      · rcases backed.awaited frozen ((Bool.not_eq_true _).mp active) with authorized | forced
        · rw [refused] at authorized
          cases authorized
        · exact forced

/-- What a batch at the controller does to the causes and the records. -/
structure Records (grounds : Grounds) (settled : List Settled) (action : PolicyAction)
    (run after : Run) : Prop where
  follows : Follows grounds run after
  forces : action = .globalCancelAndDrain → after.control.rootCancellationPrimary = none →
    grounds.forced
  records : ∃ terminals, after.progress = run.progress.record terminals ∧ Restates settled terminals

theorem decided_records {terminals : List ReadyNodeTerminal} {met : Run}
    {finalized held : FanOutController} {action : PolicyAction}
    (causal : Causal grounds run.control met.control) (progress : met.progress = run.progress)
    (acknowledgement : met.policy.durableTriggerAcknowledgement =
      run.policy.durableTriggerAcknowledgement)
    (forces : action = .globalCancelAndDrain → met.control.rootCancellationPrimary = none →
      grounds.forced) (holds : met.policy.controller = some held)
    (admission : held.admissionStopped = finalized.admissionStopped)
    (restates : Restates settled terminals) :
    Records grounds settled action run (met.decided terminals finalized.admissionStopped) := by
  refine ⟨⟨causal.trans (Causal.stop_or _ _), ?_, ?_⟩, forces, terminals, ?_, restates⟩
  · intro _ controller found stopped
    rw [show (met.decided terminals finalized.admissionStopped).policy.controller = some held
      from holds] at found
    cases found
    simp [Run.decided, ← admission, stopped]
  · intro answered result found
    exact answered result (acknowledgement.symm.trans found)
  · change met.progress.record terminals = _
    rw [progress]

theorem finalize_ready_records (inv : Invocation) (beforeWait : Bool) (settled : List Settled)
    (run : Run) (backed : Backed grounds inv turn) :
    Ensured (fun answer after => Records grounds settled answer.2 run after)
      (fun _ after => Causal grounds run.control after.control)
      (finalizeReady inv turn beforeWait settled run) := by
  refine finalize_ready_ensured ?_ (Causal.refl _) ?_ ?_
  · rintro rfl
    exact ⟨Follows.refl, nofun, [], rfl, by simp [Restates]⟩
  · intro evidence _
    refine ⟨⟨Causal.refl _, id, id⟩, nofun, _, rfl, ?_⟩
    intro entry member
    obtain ⟨source, inside, rfl⟩ := List.mem_map.mp member
    exact ⟨source, inside, rfl, rfl, rfl⟩
  · intro authority controller selection finalized granted _ batch
    have unmet : ∀ terminals, Restates settled terminals → Records grounds settled .none run
        ((run.steered finalized).decided terminals finalized.admissionStopped) :=
      fun terminals restates => decided_records (Causal.refl run.control) rfl rfl nofun rfl rfl
        restates
    rcases finalize_cases batch with ⟨rfl, _⟩ | selecting
    · exact ⟨Causal.refl _, fun _ _ _ _ _ => unmet _ sorted_restates, nofun⟩
    · obtain ⟨_, _, selected, marked, node, chosen, rfl, _⟩ := selecting
      have restates := marked_restates chosen
      refine ⟨Causal.refl _, fun _ _ _ _ _ => unmet _ restates, fun text evidence node _ _ _ => ?_⟩
      refine (reach_barrier_causal inv finalized evidence text node backed
        (by rw [granted]; rfl) rfl).weaken ?_ fun _ _ => id
      rintro answer met ⟨causal, progress, acknowledgement, forces, held, holds, admission⟩
      exact decided_records causal progress acknowledgement forces holds admission restates

end Batch

end A2aBridge.Workflow
