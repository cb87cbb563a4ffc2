import A2aBridge.WorkflowControl

/-!
One lemma per phase of a pass: which parts of the run it changes, that it keeps the run
governed, and what its answer is. Later modules take a pass apart with these lemmas and do
not unfold the phases again.
-/

namespace A2aBridge.Workflow

open Control.Later (arm_cleanup arm_grace cancel_all note_budget note_refusal sample_observe stop_arm stop_on_budget terminalize)

open StatefulRefusal FanOutController

/-- The items of the stream that are events. -/
def eventsOf : List Moment → List WorkflowEvent :=
  List.filterMap fun
    | .yielded event => some event
    | .failed _ | .acknowledged _ => none

@[simp] theorem events_of_append (left right : List Moment) :
    eventsOf (left ++ right) = eventsOf left ++ eventsOf right := List.filterMap_append

@[simp] theorem events_of_yielded (events : List WorkflowEvent) :
    eventsOf (events.map Moment.yielded) = events := by
  simp [eventsOf]

@[simp] theorem events_of_acknowledged (result : PolicyTriggerBarrierResult) :
    eventsOf [.acknowledged result] = [] := rfl

@[simp] theorem events_of_failed (failures : List AccountingFailure) :
    eventsOf (failures.map Moment.failed) = [] := by
  simp [eventsOf]

@[simp] theorem events_of_emit (run : Run) (events : List WorkflowEvent) :
    eventsOf (run.emit events).trace = eventsOf run.trace ++ events := by
  simp [Run.emit]

/-- A phase that neither completes nor announces anything. -/
structure Frame (before after : Run) : Prop where
  progress : after.progress = before.progress
  completed : after.retained.completed = before.retained.completed
  events : eventsOf after.trace = eventsOf before.trace

/-- A framed phase that keeps the run governed. -/
structure Phase (before after : Run) : Prop extends Frame before after where
  governed : Governed before → Governed after ∧ Advance before after

section Rules

variable {before middle after : Run}

theorem Frame.refl (run : Run) : Frame run run := ⟨rfl, rfl, rfl⟩

theorem Frame.trans (first : Frame before middle) (second : Frame middle after) :
    Frame before after :=
  ⟨second.progress.trans first.progress, second.completed.trans first.completed,
    second.events.trans first.events⟩

theorem Phase.trans (first : Phase before middle) (second : Phase middle after) :
    Phase before after := by
  refine ⟨first.toFrame.trans second.toFrame, ?_⟩
  intro start
  obtain ⟨between, early⟩ := first.governed start
  obtain ⟨finish, late⟩ := second.governed between
  exact ⟨finish, early.trans late⟩

theorem Phase.refl (run : Run) : Phase run run :=
  ⟨Frame.refl run, fun start => ⟨start, Advance.refl run⟩⟩

theorem Phase.of_control {run : Run} {control : Control}
    (later : Control.Later run.policy.Triggered run.control control) :
    Phase run { run with control := control } :=
  ⟨⟨rfl, rfl, rfl⟩, fun start => start.of_control rfl id later⟩

end Rules

variable (inv : Invocation) (answer : Option PolicyTriggerBarrierResult)
  (change : Control → Control)

variable {α : Type} {flight : Flight} {inflight left : List Flight} {taken : Control}

@[simp] theorem modify_control_bind (next : Unit → Exec α) (run : Run) :
    (modifyControl change >>= next) run = next () { run with control := change run.control } := rfl

/-! Arbitration. -/

theorem winner_is_ready (readiness : SchedulerArbitrationReadiness) (facts : SchedulerTieFacts) :
    SchedulerArm.isReady readiness
      (!((readiness.readyNodeCompletions.filter (withinCutoff readiness facts)).insertionSort
        ReadyNodeCompletion.before).isEmpty)
      (arbitrateScheduler readiness facts).winner = true := by
  simp only [arbitrateScheduler]
  generalize (!((readiness.readyNodeCompletions.filter (withinCutoff readiness facts)).insertionSort
    ReadyNodeCompletion.before).isEmpty) = batched
  cases found : SCHEDULER_ARM_PRIORITY_V1.find? (SchedulerArm.isReady readiness batched) with
  | none => rfl
  | some arm => exact List.find?_some found

/-! The wait. -/

/-- An arm that stops the run has its cause. -/
def SchedulerArm.Allowed (control : Control) : SchedulerArm → Prop
  | .workflowOrExternalCancellation => control.cancelled = true
  | .mechanicallyProvedImpossibility => control.stopScheduling = true
  | _ => True

theorem take_flight_perm {node : NodeId} (taken : takeFlight node inflight = some (flight, left)) :
    (flight :: left).Perm inflight ∧ flight.node.id = node := by
  induction inflight generalizing left with
  | nil => cases taken
  | cons first rest ih =>
    unfold takeFlight at taken
    split at taken
    · rename_i same
      cases taken
      exact ⟨List.Perm.refl _, same⟩
    · cases found : takeFlight node rest with
      | none => simp [found] at taken
      | some pair =>
        simp only [found, Option.map_some, Option.some.injEq, Prod.mk.injEq] at taken
        obtain ⟨rfl, rfl⟩ := taken
        obtain ⟨perm, same⟩ := ih found
        exact ⟨(List.Perm.swap _ _ _).trans (perm.cons first), same⟩

theorem take_ready_perm {completions : List Completion} {ready : List Ready}
    (taken : takeReady completions inflight = some (ready, left)) :
    (left ++ ready.map Ready.flight).Perm inflight ∧
      ready.map Ready.completion = completions ∧
      ∀ entry ∈ ready, entry.flight.node.id = entry.completion.node := by
  induction completions generalizing inflight left ready with
  | nil =>
    cases taken
    simp
  | cons completion rest ih =>
    unfold takeReady at taken
    cases first : takeFlight completion.node inflight with
    | none => simp [first] at taken
    | some pair =>
      obtain ⟨flight, others⟩ := pair
      simp only [first] at taken
      cases tail : takeReady rest others with
      | none => simp [tail] at taken
      | some pair =>
        simp only [tail, Option.map_some, Option.some.injEq, Prod.mk.injEq] at taken
        obtain ⟨rfl, rfl⟩ := taken
        obtain ⟨perm, answers, nodes⟩ := ih tail
        obtain ⟨picked, same⟩ := take_flight_perm first
        refine ⟨?_, by simp [answers], ?_⟩
        · exact List.perm_middle.trans ((perm.cons flight).trans picked)
        · exact List.forall_mem_cons.mpr ⟨same, nodes⟩

theorem impossibility_stopped {inv : Invocation} {run : Run}
    (proved : impossibilityProved inv run = true) : run.control.stopScheduling = true := by
  simp only [impossibilityProved, routesClosed, Bool.and_eq_true] at proved
  cases terminal : inv.graph.terminal with
  | none => simp [terminal] at proved
  | some node =>
    simp only [terminal, Bool.and_eq_true] at proved
    exact proved.1.2.2.1

/-- A signal that was received: the batch has left the running nodes, the rest of the
progress and everything held back are as before, and the arm is allowed. -/
structure Receives (run : Run) (received : Received) : Prop where
  progress : ∃ left, received.run.progress = { run.progress with inflight := left } ∧
    (left ++ received.ready.map Ready.flight).Perm run.progress.inflight
  undrained : received.ready = [] → received.run.progress = run.progress
  retained : received.run.retained = run.retained
  trace : received.run.trace = run.trace
  governed : Governed run → Governed received.run ∧ Advance run received.run
  allowed : received.arm.Allowed received.run.control

theorem poll_controller
    (policy : Policy) : (policy.poll inv answer).controller = policy.controller := by
  unfold Policy.poll
  split
  · cases answer <;> rfl
  · rfl

theorem poll_out (policy : Policy) : (policy.poll inv answer).isOut = policy.isOut := by
  unfold Policy.poll
  split
  · rename_i pending
    simp only [Bool.and_eq_true] at pending
    cases answer with
    | none => rfl
    | some result => simp [Policy.isOut, pending.2]
  · rfl

/-- The run as the arbitration of a drained batch sees it. -/
def Run.polled (inv : Invocation) (turn : Turn) (run : Run) : Run :=
  { run with
    policy := run.policy.poll inv turn.barrierPoll
    control := run.control.sample turn.cancelAtArbitration }

theorem drain_active {inv : Invocation} (active : inv.schedulerActive = true) (turn : Turn)
    (run : Run) (proved : Bool) (ready : List Ready) :
    drain inv turn run proved ready =
      { run := { run.polled inv turn with
          control := (run.polled inv turn).control.applyArbitration inv turn.armClockMs
            (arbitrationOf inv turn (run.polled inv turn) proved ready) }
        arm := (arbitrationOf inv turn (run.polled inv turn) proved ready).winner
        ready := ready.insertionSort (beforeBy Ready.observed)
        postCutoff := (arbitrationOf inv turn (run.polled inv turn) proved ready).postCutoffNodes } := by
  simp only [drain, active, if_true]
  rfl

theorem drain_inactive {inv : Invocation} (inactive : ¬ inv.schedulerActive = true) (turn : Turn)
    (run : Run) (proved : Bool) (ready : List Ready) :
    drain inv turn run proved ready =
      { run := { run with policy := run.policy.poll inv turn.barrierPoll }
        arm := .drainReadyNodeCompletions
        ready := ready.insertionSort (beforeBy Ready.observed)
        postCutoff := [] } := by
  simp only [drain, if_neg inactive]

variable (turn : Turn) (run : Run)

theorem arbitration_later (proved : Bool) (ready : List Ready) (triggered : Prop) :
    Control.Later triggered run.control (run.control.applyArbitration inv turn.armClockMs
      (arbitrationOf inv turn run proved ready)) := by
  apply Control.Later.apply_arbitration
  intro calm
  simp only [arbitrationOf, arbitrateReadyBatch, arbitrateScheduler] at calm ⊢
  rw [if_neg (by rw [calm]; exact Bool.false_ne_true)]

section

variable (proved : Bool) (ready : List Ready)
  (stopped : proved = true → run.control.stopScheduling = true)

include stopped

theorem drain_allowed :
    (drain inv turn run proved ready).arm.Allowed (drain inv turn run proved ready).run.control := by
  by_cases active : inv.schedulerActive = true
  · rw [drain_active active]
    have later := arbitration_later inv turn (run.polled inv turn) proved ready False
    have winner := winner_is_ready
      { readinessOf inv turn (run.polled inv turn) proved with
        readyNodeCompletions := [] ++ ready.map Ready.observed }
      (tieFactsOf inv (run.polled inv turn))
    change SchedulerArm.isReady _ _
      (arbitrationOf inv turn (run.polled inv turn) proved ready).winner = true at winner
    cases arm : (arbitrationOf inv turn (run.polled inv turn) proved ready).winner with
    | workflowOrExternalCancellation =>
      rw [arm] at winner
      exact later.cancelled (Bool.and_eq_true_iff.mp winner).1
    | mechanicallyProvedImpossibility =>
      rw [arm] at winner
      exact later.kept (stopped winner)
    | _ => trivial
  · rw [drain_inactive active]
    trivial

theorem drain_receives :
    (drain inv turn run proved ready).run.progress = run.progress ∧
      (drain inv turn run proved ready).ready.Perm ready ∧
      (drain inv turn run proved ready).run.retained = run.retained ∧
      (drain inv turn run proved ready).run.trace = run.trace ∧
      (Governed run → Governed (drain inv turn run proved ready).run ∧
        Advance run (drain inv turn run proved ready).run) ∧
      (drain inv turn run proved ready).arm.Allowed (drain inv turn run proved ready).run.control := by
  have allowed := drain_allowed inv turn run proved ready stopped
  by_cases active : inv.schedulerActive = true
  · rw [drain_active active] at allowed ⊢
    refine ⟨rfl, List.perm_insertionSort _ _, rfl, rfl, ?_, allowed⟩
    intro start
    refine start.of_control (poll_controller inv _ _) (fun out => (poll_out inv _ _) ▸ out) ?_
    exact (Control.Later.sample run.control _).trans
      (arbitration_later inv turn (run.polled inv turn) proved ready _)
  · rw [drain_inactive active] at allowed ⊢
    refine ⟨rfl, List.perm_insertionSort _ _, rfl, rfl, ?_, allowed⟩
    intro start
    exact start.of_control (poll_controller inv _ _) (fun out => (poll_out inv _ _) ▸ out)
      (Control.Later.refl run.control)

end

/-- The run that a wake-up finds, and the one a batch leaves with these nodes in flight. -/
def Run.woken : Run :=
  { run with control := run.control.sample turn.cancelDuringWait }

def Run.drawn (left : List Flight) (run : Run) : Run :=
  { run with
    progress := { run.progress with inflight := left }
    control := run.control.sampleObserve turn.cancelDuringWait }

inductive Heard (inv : Invocation) (turn : Turn) (run : Run) : Received → Prop where
  | batch {first rest ready left} : turn.signal = .completions first rest →
      takeReady (first :: rest) run.progress.inflight = some (ready, left) →
      Heard inv turn run (drain inv turn (run.drawn turn left) (impossibilityProved inv run) ready)
  | result {answer : PolicyTriggerBarrierResult} : turn.signal = .barrierAcknowledgement answer →
      run.policy.durableTriggerBarrier.isSome = true →
      Heard inv turn run
        ⟨{ run.woken turn with
          policy := { run.policy with
            durableTriggerBarrier := none
            durableTriggerAcknowledgement := some (inv.barrierResult answer) } },
          .durableTriggerBarrierAcknowledgements, [], []⟩
  | control {arm : SchedulerArm} : turn.signal = .control arm → inv.schedulerActive = true →
      controlEnabled inv turn (run.woken turn) (impossibilityProved inv run) arm = true →
      Heard inv turn run ⟨run.woken turn, arm, [], []⟩

section

variable {inv : Invocation} {turn : Turn} {run : Run} {received : Received}

theorem receive_heard (holds : receive inv turn run = some received) :
    Heard inv turn run received := by
  simp only [receive] at holds
  cases signal : turn.signal with
  | completions first rest =>
    simp only [signal] at holds
    cases taken : takeReady (first :: rest) run.progress.inflight with
    | none => simp [taken] at holds
    | some pair =>
      simp only [taken, Option.some.injEq] at holds
      subst holds
      exact .batch signal taken
  | barrierAcknowledgement answer =>
    simp only [signal] at holds
    split at holds
    · rename_i sent
      cases holds
      exact .result signal (Bool.and_eq_true_iff.mp sent).2
    · cases holds
  | control arm =>
    simp only [signal] at holds
    split at holds
    · rename_i enabled
      cases holds
      rw [Bool.and_eq_true] at enabled
      exact .control signal enabled.1 enabled.2
    · cases holds

theorem drawn_governed (left : List Flight) (governed : Governed run) :
    Governed (run.drawn turn left) ∧ Advance run (run.drawn turn left) :=
  governed.of_control rfl id (sample_observe run.control _)

theorem receive_receives (holds : receive inv turn run = some received) : Receives run received := by
  have waking : ∀ triggered, Control.Later triggered run.control
      (run.control.sample turn.cancelDuringWait) := fun _ => Control.Later.sample _ _
  cases receive_heard holds with
  | @batch first rest ready left signal taken =>
    obtain ⟨progress, batch, retained, trace, governed, allowed⟩ := drain_receives inv turn
      (run.drawn turn left) (impossibilityProved inv run) ready
      (fun holds => (@sample_observe False run.control _).kept (impossibility_stopped holds))
    obtain ⟨perm, answered, _⟩ := take_ready_perm taken
    refine ⟨⟨left, progress, ?_⟩, ?_, retained, trace, ?_, allowed⟩
    · exact ((batch.map Ready.flight).append_left left).trans perm
    · intro empty
      rw [empty] at batch
      rw [List.nil_perm.mp batch] at answered
      cases answered
    · intro start
      obtain ⟨between, early⟩ := drawn_governed left start
      obtain ⟨finish, late⟩ := governed between
      exact ⟨finish, early.trans late⟩
  | result signal sent =>
    refine ⟨⟨run.progress.inflight, rfl, by simp⟩, fun _ => rfl, rfl, rfl, ?_, trivial⟩
    intro start
    refine start.of_control rfl (fun _ => ?_) (waking _)
    simp only [Policy.isOut, Bool.or_eq_true]
    exact .inl sent
  | @control arm signal active enabled =>
    refine ⟨⟨run.progress.inflight, rfl, by simp⟩, fun _ => rfl, rfl, rfl,
      fun start => start.of_control rfl id (waking _), ?_⟩
    cases arm with
    | workflowOrExternalCancellation => exact (Bool.and_eq_true_iff.mp enabled).1
    | mechanicallyProvedImpossibility => exact (waking False).kept (impossibility_stopped enabled)
    | _ => trivial

end

/-! The arms. -/

variable {raw : NodeRunOutput} (inv : Invocation) (turn : Turn) (late : List NodeId) (ready : Ready)
  (run : Run)

theorem acknowledge_phase (result : PolicyTriggerBarrierResult) (cancelled : Bool) :
    Phase run (run.acknowledge result cancelled).2 ∧
      (run.acknowledge result cancelled).2.policy.durableTriggerBarrier =
        run.policy.durableTriggerBarrier ∧
      ((run.acknowledge result cancelled).1 ≠ .none → Governed run →
        (run.acknowledge result cancelled).2.policy.Triggered) := by
  cases present : run.policy.controller with
  | none =>
    simp only [Run.acknowledge, present]
    refine ⟨⟨⟨rfl, rfl, rfl⟩, ?_⟩, trivial, fun acts => absurd rfl acts⟩
    intro start
    refine start.of_control present.symm ?_ (Control.Later.refl _)
    simp only [Policy.isOut, Option.isSome_none, Bool.or_false, Bool.or_eq_true]
    exact .inl
  | some controller =>
    simp only [Run.acknowledge, present]
    obtain ⟨policy, trigger, _, _, _, acts⟩ := acknowledge_cases controller result cancelled
    have triggered : run.policy.Triggered →
        ∃ answered, some (controller.acknowledgeBarrier result cancelled).2 = some answered ∧
          answered.trigger.isSome = true := by
      rintro ⟨holder, holds, set⟩
      rw [present] at holds
      cases holds
      exact ⟨_, rfl, trigger ▸ set⟩
    refine ⟨⟨⟨rfl, rfl, by simp⟩, ?_⟩, trivial, ?_⟩
    · intro start
      have advance : Advance run { run with
          policy := { run.policy with
            controller := some (controller.acknowledgeBarrier result cancelled).2
            durableTriggerAcknowledgement := none
            barrierSelectedEvidence := none } } := by
        refine ⟨Control.Later.refl _, triggered, ?_⟩
        intro other holds
        cases holds
        exact ⟨controller, present, policy⟩
      refine ⟨start.advance ⟨advance.control, advance.triggered, advance.controller⟩ ?_ ?_,
        ⟨advance.control, advance.triggered, advance.controller⟩⟩
      · intro other holds
        cases holds
        exact acknowledge_sound (start.controller controller present) _ _
      · intro out
        apply triggered
        apply start.barrier
        simp only [Policy.isOut, Option.isSome_none, Bool.or_false, Bool.or_eq_true] at out ⊢
        exact .inl out
    · intro acting start
      exact triggered ⟨controller, present,
        (start.controller controller present).pending (acts acting)⟩

theorem arm_manual_grace_arms (graceMs : Nat) (run : Run) :
    Ensured
      (fun _ after => ∃ timer dueMs, after = { run with
        control := { run.control with fixedGraceTimer := timer, fixedGraceDueMs := some dueMs } })
      (fun _ after => after = run) (armManualGrace inv turn graceMs run) := by
  simp only [armManualGrace, get_bind]
  cases run.policy.controller.bind trigger with
  | none => rfl
  | some trigger =>
    cases armed : run.control.fixedGraceTimer.arm trigger.node trigger.id graceMs
        (inv.elapsedMs turn.armClockMs) inv.schedulerWorkCutoffMs with
    | error failure => simp only [armed]; rfl
    | ok timer => simp only [armed]; exact ⟨timer, _, rfl⟩

/-- What an arm leaves: it is framed, and it neither sends nor drops a barrier. -/
abbrev ArmFramed (run : Run) : EStateM.Result AccountingFailure Run Unit → Prop :=
  Ensured
    (fun _ after => Phase run after ∧
      after.policy.durableTriggerBarrier = run.policy.durableTriggerBarrier)
    (fun _ after => Frame run after)

theorem acknowledge_arm_phase : ArmFramed run (acknowledgeArm inv turn run) := by
  simp only [acknowledgeArm, modify_control_bind, get_bind]
  have observing : Phase run { run with
      control := run.control.sampleObserve turn.cancelAtAcknowledgement } :=
    Phase.of_control (sample_observe _ _)
  cases pending : run.policy.durableTriggerAcknowledgement with
  | none => exact ⟨observing, rfl⟩
  | some result =>
    simp only [set_bind]
    obtain ⟨answering, barrier, triggered⟩ := acknowledge_phase
      { run with control := run.control.sampleObserve turn.cancelAtAcknowledgement } result
      (run.control.sampleObserve turn.cancelAtAcknowledgement).cancelled
    generalize Run.acknowledge _ _ _ = answered at answering barrier triggered ⊢
    obtain ⟨action, after⟩ := answered
    -- The action changes the control state, and only a controller with a trigger acts.
    have acting : action ≠ .none → ∀ control : Control,
        (after.policy.Triggered → Control.Later after.policy.Triggered after.control control) →
        Phase run { after with control := control } := by
      intro acts control later
      have whole := observing.trans answering
      refine ⟨⟨whole.progress, whole.completed, whole.events⟩, ?_⟩
      intro start
      obtain ⟨between, early⟩ := whole.governed start
      obtain ⟨finish, late⟩ := @Governed.of_control after { after with control := control } between
        rfl id (later (triggered acts (observing.governed start).1))
      exact ⟨finish, early.trans late⟩
    cases action with
    | none => exact ⟨observing.trans answering, barrier⟩
    | cancelRunningSiblings =>
      refine ⟨acting (by simp) _ fun trigger => ?_, barrier⟩
      have arming : Control.Later after.policy.Triggered after.control
        (after.control.armCleanup inv turn.armClockMs) := arm_cleanup _ _ _
      exact arming.trans (cancel_all _ _ (.inr (.inr (.inr (.inr trigger)))))
    | globalCancelAndDrain =>
      refine ⟨acting (by simp) _ fun trigger => ?_, barrier⟩
      exact (arm_cleanup _ _ _).trans (Control.Later.global_cancel _ trigger)
    | armManualGrace graceMs =>
      refine (arm_manual_grace_arms inv turn graceMs after).weaken ?_ ?_
      · rintro _ _ ⟨timer, dueMs, rfl⟩
        exact ⟨acting (by simp) _ fun trigger => arm_grace _ _ _ trigger, barrier⟩
      · rintro _ _ rfl
        exact (observing.trans answering).toFrame

theorem grace_arm_expires :
    Ensured
      (fun _ after => ∃ timer controller, run.policy.controller = some controller ∧
        controller.expireManualGrace.1 = .cancelRunningSiblings ∧
        after = { run with
          control := ({ run.control with
            fixedGraceDueMs := none, fixedGraceTimer := timer }.armCleanup inv
              turn.armClockMs).cancelAll .canceledPolicy
          policy := { run.policy with controller := some controller.expireManualGrace.2 } })
      (fun _ after => after = { run with control := { run.control with fixedGraceDueMs := none } })
      (graceArm inv turn run) := by
  simp only [graceArm, modify_control_bind, get_bind]
  cases run.control.fixedGraceTimer.observeElapsed (inv.elapsedMs turn.armClockMs) with
  | error failure => rfl
  | ok timer =>
    cases present : run.policy.controller with
    | none => rfl
    | some controller =>
      dsimp only
      rcases answer : controller.expireManualGrace with ⟨action, expired⟩
      cases action with
      | cancelRunningSiblings => exact ⟨timer, controller, rfl, by rw [answer], by rw [answer]⟩
      | _ => rfl

theorem grace_arm_phase : ArmFramed run (graceArm inv turn run) := by
  refine (grace_arm_expires inv turn run).weaken ?_ ?_
  · rintro _ _ ⟨timer, controller, present, acts, rfl⟩
    obtain ⟨policy, trigger, _, _, _, armed⟩ := expire_cases controller
    refine ⟨⟨⟨rfl, rfl, rfl⟩, ?_⟩, rfl⟩
    intro start
    have sound := start.controller controller present
    have set : controller.expireManualGrace.2.trigger.isSome = true :=
      trigger ▸ sound.armed (armed (by simp [acts]))
    have disarming : Control.Later
        (∃ holder, some controller.expireManualGrace.2 = some holder ∧ holder.trigger.isSome = true)
        run.control { run.control with fixedGraceDueMs := none, fixedGraceTimer := timer } :=
      Control.Later.of_same rfl rfl rfl rfl rfl rfl (.inr rfl)
    have later := (disarming.trans (arm_cleanup inv turn.armClockMs _)).trans
      (cancel_all _ .canceledPolicy (.inr (.inr (.inr (.inr ⟨_, rfl, set⟩)))))
    have advance : Advance run { run with
        control := ({ run.control with
          fixedGraceDueMs := none, fixedGraceTimer := timer }.armCleanup inv
            turn.armClockMs).cancelAll .canceledPolicy
        policy := { run.policy with controller := some controller.expireManualGrace.2 } } := by
      refine ⟨later, fun _ => ⟨_, rfl, set⟩, ?_⟩
      rintro other ⟨⟩
      exact ⟨controller, present, policy⟩
    refine ⟨start.advance advance ?_ (fun _ => ⟨_, rfl, set⟩), advance⟩
    rintro other ⟨⟩
    exact (expire_sound sound).weaken later.cancelled
  · rintro _ _ rfl
    exact ⟨rfl, rfl, rfl⟩

theorem wait_arm_phase : ArmFramed run (waitArm turn run) := by
  simp only [waitArm, get_bind]
  split
  · cases transferFailure run.control turn.transfers with
    | some error => exact ⟨rfl, rfl, rfl⟩
    | none =>
      exact ⟨Phase.of_control ((terminalize _ _).trans (sample_observe _ _)), rfl⟩
  · exact ⟨Phase.of_control (sample_observe _ _), rfl⟩

theorem act_phase (arm : SchedulerArm) (run : Run) (allowed : arm.Allowed run.control) :
    ArmFramed run (act inv turn arm run) := by
  cases arm with
  | drainReadyNodeCompletions | dueNoProgressSnapshots => exact ⟨Phase.refl run, rfl⟩
  | durableTriggerBarrierAcknowledgements => exact acknowledge_arm_phase inv turn run
  | workflowOrExternalCancellation =>
    exact ⟨Phase.of_control (stop_arm inv _ _ _ (.inr (.inl allowed))), rfl⟩
  | fixedGraceExpiry => exact grace_arm_phase inv turn run
  | absoluteCutoff =>
    exact ⟨Phase.of_control (stop_arm inv _ _ _ (.inl rfl)), rfl⟩
  | mechanicallyProvedImpossibility =>
    exact ⟨Phase.of_control (stop_arm inv _ _ _ (.inr (.inr allowed))), rfl⟩
  | waitForNodeActivityControlOrClock => exact wait_arm_phase turn run

/-! Settling a batch. -/

/-- What a node's answer becomes under the control state that its completion finds. -/
def settledAs (inv : Invocation) (postCutoffNodes : List NodeId) (control : Control)
    (ready : Ready) (raw : NodeRunOutput) : Settled :=
  let postCutoff := decide (ready.flight.node.id ∈ postCutoffNodes)
  let disposition := settledDisposition postCutoff ready.flight.degradedAncestry raw.disposition
  { completed :=
      { node := ready.flight.node.id
        output := ⟨effectiveBody inv raw, raw.output.ok && !postCutoff, raw.output.usage⟩
        disposition := disposition
        candidateCompletion := raw.candidateCompletion }
    terminal := terminalOf control ready raw disposition }

/-- Only the control state of a run has changed, and it is later. -/
structure Onward (run after : Run) : Prop where
  only : after = { run with control := after.control }
  later : ∀ triggered, Control.Later triggered run.control after.control

theorem Onward.trans {before middle after : Run} (first : Onward before middle)
    (second : Onward middle after) : Onward before after := by
  refine ⟨?_, fun triggered => (first.later triggered).trans (second.later triggered)⟩
  have between := first.only
  have finish := second.only
  rw [between] at finish
  exact finish

theorem Onward.phase {run after : Run} (onward : Onward run after) : Phase run after := by
  rw [onward.only]
  exact Phase.of_control (onward.later _)

theorem Onward.frame {run after : Run} (onward : Onward run after) : Frame run after :=
  onward.phase.toFrame

/-- The node's completion is settled as an answer, under some control state. -/
def Answers (inv : Invocation) (late : List NodeId) (ready : Ready) (settled : Settled) : Prop :=
  ∃ raw control, settled = settledAs inv late control ready raw

/-- Taking an answer leaves the control state, but for the budget that refused it. -/
inductive Takes (control : Control) : Control → Prop where
  | own : Takes control control
  | refused (failure : AccountingFailure) : Takes control (control.noteBudget failure)

theorem take_output_takes :
    Ensured
      (fun _ after => ∃ control, after = { run with control := control } ∧
        Takes run.control control)
      (fun _ after => after = run) (takeOutput ready run) := by
  unfold takeOutput
  cases ready.flight.raw ready.completion with
  | ok raw => exact ⟨run.control, rfl, .own⟩
  | error failure =>
    simp only
    split
    · cases made : syntheticOutput ready.flight.node ready.completion.turnId
          ("[node " ++ ready.flight.node.id ++ " failed: " ++ failure.original.clientMessage ++ "]")
          .failed .bridgeSyntheticStreamError with
      | error fault => rfl
      | ok synthetic => exact ⟨_, rfl, .refused failure⟩
    · rfl

/-- The control state once an answer's refusal is noted. -/
def Control.noted (raw : NodeRunOutput) (control : Control) : Control :=
  (control.noteRefusal raw.primaryError).stopOnBudget

/-- How one completion is settled: its token is released, its answer is taken and noted, and a
canceled node looks at the root token. -/
def Settling (inv : Invocation) (late : List NodeId) (ready : Ready) (before : Control)
    (settled : Settled) (after : Control) : Prop :=
  ∃ raw taken, Takes (before.release ready.flight.node.id) taken ∧
    settled = settledAs inv late after ready raw ∧
    (after = taken.noted raw ∨ after = (taken.noted raw).sampleObserve ready.completion.cancelSeen)

/-- A refused answer or audit leaves the states before the last look. -/
theorem settle_completion_runs :
    Ensured
      (fun settled after => ∃ control, after = { run with control := control } ∧
        Settling inv late ready run.control settled control)
      (fun _ after => after = { run with control := run.control.release ready.flight.node.id } ∨
        ∃ raw taken, Takes (run.control.release ready.flight.node.id) taken ∧
          after = { run with control := taken.noted raw })
      (settleCompletion inv late ready run) := by
  refine ((take_output_takes ready _).weaken (fun _ _ => id)
    fun _ _ => .inl).bind ?_
  rintro raw _ ⟨taken, rfl, takes⟩
  simp only [modify_control_bind]
  split
  · cases ready.completion.auditError with
    | some error => exact .inr ⟨raw, taken, takes, rfl⟩
    | none =>
      split
      · exact ⟨_, rfl, raw, taken, takes, rfl, .inr rfl⟩
      · exact ⟨_, rfl, raw, taken, takes, rfl, .inl rfl⟩
  · split
    · exact ⟨_, rfl, raw, taken, takes, rfl, .inr rfl⟩
    · exact ⟨_, rfl, raw, taken, takes, rfl, .inl rfl⟩

theorem Takes.later {before taken : Control} (takes : Takes before taken) (raw : NodeRunOutput)
    (triggered : Prop) : Control.Later triggered before (taken.noted raw) := by
  have noting : Control.Later triggered taken (taken.noted raw) :=
    (note_refusal _ _).trans (stop_on_budget _)
  cases takes with
  | own => exact noting
  | refused failure => exact (note_budget _ _).trans noting

theorem answers_source {batch : List Ready} {settled : List Settled} {entry : Settled}
    (answers : List.Forall₂ (Answers inv late) batch settled) (member : entry ∈ settled) :
    ∃ ready ∈ batch, Answers inv late ready entry := by
  induction answers with
  | nil => cases member
  | @cons ready settled rest others answer answers ih =>
    rcases List.mem_cons.mp member with rfl | later
    · exact ⟨ready, List.mem_cons_self, answer⟩
    · obtain ⟨source, inside, answered⟩ := ih later
      exact ⟨source, List.mem_cons_of_mem _ inside, answered⟩

theorem settle_completion_answers :
    Ensured (fun settled after => Onward run after ∧ Answers inv late ready settled)
      (fun _ after => Onward run after) (settleCompletion inv late ready run) := by
  have releasing : ∀ triggered, Control.Later triggered run.control
      (run.control.release ready.flight.node.id) := fun _ => Control.Later.release _ _
  refine (settle_completion_runs inv late ready run).weaken ?_ ?_
  · rintro settled _ ⟨control, rfl, raw, taken, takes, rfl, last⟩
    refine ⟨⟨rfl, fun triggered => ?_⟩, raw, control, rfl⟩
    refine ((releasing triggered).trans (takes.later raw triggered)).trans ?_
    rcases last with rfl | rfl
    · exact Control.Later.refl _
    · exact sample_observe _ _
  · rintro _ _ (rfl | ⟨raw, taken, takes, rfl⟩)
    · exact ⟨rfl, releasing⟩
    · exact ⟨rfl, fun triggered => (releasing triggered).trans (takes.later raw triggered)⟩

theorem settle_ready_answers (batch : List Ready) (run : Run) :
    Ensured
      (fun settled after => Onward run after ∧ List.Forall₂ (Answers inv late) batch settled)
      (fun _ after => Onward run after) (settleReady inv late batch run) := by
  induction batch generalizing run with
  | nil => exact ⟨⟨rfl, fun _ => Control.Later.refl _⟩, .nil⟩
  | cons ready rest ih =>
    refine (settle_completion_answers inv late ready run).bind ?_
    rintro first middle ⟨onward, answer⟩
    refine ((ih middle).weaken (fun _ _ others => others)
      (fun _ _ later => onward.trans later)).bind ?_
    rintro others after ⟨later, answers⟩
    exact ⟨onward.trans later, .cons answer answers⟩

end A2aBridge.Workflow
