import A2aBridge.WorkflowHalting

/-!
Completions that are observed after the absolute cutoff, and the law of cancellation causes over
whole runs. Three runs at the end show what the loop does not keep: once the cutoff has been
observed a later completion counts again, a run that opens with a cancelled token starts its
roots, and admission does not look at the clock.
-/

namespace A2aBridge.Workflow

open StatefulRefusal JobLedger Control

/-! Completions after the cutoff. -/

variable (inv : Invocation)

def Invocation.cutoffAtMs : Nat :=
  saturatingAdd inv.startedMs inv.schedulerWorkCutoffMs

variable (node : NodeId)

/-- Every completion of the node is observed strictly after the cutoff. -/
def Turn.ObservesLate (turn : Turn) : Prop :=
  ∀ completion ∈ turn.completions, completion.node = node → inv.cutoffAtMs < completion.readyAtMs

/-- A pass reads the clock once its completions are there, and after it has observed the cutoff
none comes that was not ready by then; and if admission comes after the cutoff, the pass has read
the clock at it. -/
structure Timely (inv : Invocation) (run : Run) (turn : Turn) : Prop where
  clock : ∀ completion ∈ turn.completions, completion.readyAtMs ≤ turn.cutoffClockMs
  bounded : turn.cutoffClockMs ≤ U64_MAX ∧ turn.admissionClockMs ≤ U64_MAX
  drained : SchedulerArm.absoluteCutoff ∈ run.control.observedArms →
    ∀ completion ∈ turn.completions, completion.readyAtMs ≤ inv.cutoffAtMs
  prompt : inv.cutoffAtMs < turn.admissionClockMs → inv.cutoffAtMs ≤ turn.cutoffClockMs

def WorkflowEvent.reportsOk : WorkflowEvent → Bool
  | .nodeFinished finished ok .. => finished == node && ok
  | .nodeStarted _ | .cleanupObserved .. | .terminal .. => false

/-- No completion of the node was reported ok. -/
def Run.Silent (run : Run) : Prop :=
  ∀ event ∈ eventsOf run.trace, event.reportsOk node = false

/-- Nor is one held that would be. -/
def Run.Excludes (run : Run) : Prop :=
  run.Silent node ∧ ∀ completed ∈ run.retained.completed, completed.node = node →
    completed.output.ok = false

section Late

variable {inv : Invocation} {turn : Turn} {node : NodeId} {run : Run}

theorem Timely.due (timely : Timely inv run turn) (late : inv.cutoffAtMs < turn.admissionClockMs) :
    inv.isDue inv.schedulerWorkCutoffMs turn.cutoffClockMs = true := by
  have reached := timely.prompt late
  have bounded := timely.bounded.2
  simp only [Invocation.cutoffAtMs, saturatingAdd] at late reached
  rw [Invocation.isDue, Invocation.elapsedMs, decide_eq_true_eq]
  omega

theorem observe_arms (control : Control) (seen : Bool) :
    (control.observe seen).observedArms = control.observedArms := by
  unfold Control.observe
  split <;> rfl

theorem waiting_arms : (run.waiting turn).control.observedArms = run.control.observedArms := by
  have observed : (run.control.sampleObserve turn.cancelAtHead).observedArms =
      run.control.observedArms := observe_arms _ _
  simp only [Run.waiting, Run.beforeWait, Run.headed, Control.head, Control.sample]
  split <;> exact observed

variable {entry : Ready} {ready : List Ready} {received : Received}

section

variable (active : inv.schedulerActive = true)
  (unobserved : SchedulerArm.absoluteCutoff ∉ run.control.observedArms)
  (late : inv.cutoffAtMs < entry.completion.readyAtMs)

include active unobserved late

/-- A late completion of a pass before the cutoff was observed is named by the arbitration. -/
theorem drain_excludes {proved : Bool}
    (due : inv.isDue inv.schedulerWorkCutoffMs turn.cutoffClockMs = true) (member : entry ∈ ready) :
    entry.flight.node.id ∈ (drain inv turn run proved ready).postCutoff := by
  rw [drain_active active]
  simp only [arbitrationOf, arbitrateReadyBatch, arbitrateScheduler]
  have reached : (readinessOf inv turn (run.polled inv turn) proved).absoluteCutoffReached = true := by
    simp only [readinessOf, Bool.and_eq_true, decide_eq_true_eq]
    exact ⟨unobserved, due⟩
  apply List.mem_map.mpr
  refine ⟨entry.observed, ?_, rfl⟩
  rw [List.mem_insertionSort, List.mem_filter]
  constructor
  · exact List.mem_map.mpr ⟨entry, member, rfl⟩
  · have after : ¬ entry.completion.readyAtMs ≤ inv.cutoffAtMs := by omega
    simp only [withinCutoff, reached, Bool.not_true, Bool.false_or, Bool.not_eq_true',
      decide_eq_false_iff_not]
    exact after

theorem receive_excludes (bounded : turn.cutoffClockMs ≤ U64_MAX)
    (heard : receive inv turn run = some received) (member : entry ∈ received.ready)
    (clock : entry.completion.readyAtMs ≤ turn.cutoffClockMs) :
    entry.flight.node.id ∈ received.postCutoff := by
  cases receive_heard heard with
  | batch signal taken =>
    have due : inv.isDue inv.schedulerWorkCutoffMs turn.cutoffClockMs = true := by
      simp only [Invocation.cutoffAtMs, saturatingAdd] at late
      rw [Invocation.isDue, Invocation.elapsedMs, decide_eq_true_eq]
      omega
    refine drain_excludes active ?_ late due ?_
    · change _ ∉ ((run.control.sample _).observe _).observedArms
      rw [observe_arms]
      exact unobserved
    · rw [drain_active active] at member
      exact (List.mem_insertionSort _).mp member
  | result | control => cases member

end

theorem published_silent (evidence : NodeMap NodeEvidence) {batch : List CompletedNode}
    (silent : run.Silent node)
    (held : ∀ completed ∈ batch, completed.node = node → completed.output.ok = false) :
    (run.published evidence batch).Silent node := by
  rw [Run.Silent, published_events]
  refine List.forall_mem_append.mpr ⟨silent, ?_⟩
  intro event member
  obtain ⟨completed, among, rfl⟩ := List.mem_map.mp member
  by_cases same : completed.node = node
  · simp [finishedEvent, WorkflowEvent.reportsOk, held completed among same]
  · simp [finishedEvent, WorkflowEvent.reportsOk, same]

section

variable (unique : inv.graph.ids.Nodup)

include unique

theorem schedule_silent (silent : run.Silent node) :
    (run.schedule inv).Silent node := by
  obtain ⟨_, _, _, _, nodes, started, _, trace, _⟩ := schedule_schedules inv run unique
  rw [Run.Silent, trace, events_of_append]
  refine List.forall_mem_append.mpr ⟨silent, ?_⟩
  simp [eventsOf, WorkflowEvent.reportsOk]

variable (excludes : run.Excludes node)

include excludes

theorem Run.Excludes.releases (turn : Turn) :
    Releases inv turn (Run.Excludes node) (Run.Silent node) run := by
  have emptied : run.emptied.Silent node := excludes.1
  refine ⟨fun _ => excludes, ?_, fun _ => ?_⟩
  · intro _ early rest sorted
    apply published_silent _ emptied
    intro completed member
    apply excludes.2
    apply run.retained.sorted_perm.mem_iff.mp
    rw [sorted]
    exact List.mem_append_left rest member
  · have flushed : run.flushed.Silent node := by
      apply published_silent _ emptied
      intro completed member
      exact excludes.2 completed (run.retained.sorted_perm.mem_iff.mp member)
    refine ⟨@schedule_silent inv node (run.reopened turn) unique flushed, ?_⟩
    intro completed member
    have retained : ((run.reopened turn).schedule inv).retained = run.emptied.retained :=
      (schedule_schedules inv (run.reopened turn) unique).retained.trans (flushed_parts run).2.2.1
    change completed ∈ ((run.reopened turn).schedule inv).retained.completed at member
    rw [retained] at member
    cases member

theorem process_excludes {beforeWait : Bool} {arm : SchedulerArm} {late : List NodeId}
    (allowed : arm.Allowed run.control)
    (after : ∀ entry ∈ ready, entry.flight.node.id = node → node ∈ late) :
    Ensured (fun _ after => after.Excludes node) (fun _ after => after.Silent node)
      (process inv turn beforeWait arm ready late run) := by
  have framed : ∀ {middle : Run}, Frame run middle → middle.Excludes node := by
    intro middle frame
    rw [Run.Excludes, Run.Silent, frame.events, frame.completed]
    exact excludes
  refine process_ensured ((act_phase inv turn arm run allowed).weaken ?_
    fun _ _ frame => (framed frame).1)
  rintro _ acted ⟨phase, _⟩
  refine ⟨fun _ _ => framed phase.toFrame, (settle_ready_answers inv late ready acted).weaken ?_
    fun _ _ onward => (framed (phase.toFrame.trans onward.frame)).1⟩
  rintro settled resting ⟨onward, answers⟩
  obtain ⟨silent, held⟩ := framed (phase.toFrame.trans onward.frame)
  have failed : ∀ entry ∈ settled, entry.completed.node = node →
      entry.completed.output.ok = false := by
    intro entry member same
    obtain ⟨source, inside, raw, control, rfl⟩ := answers_source inv _ answers member
    -- The node is late, so that its answer is settled as failed.
    have named : source.flight.node.id = node := same
    have late : source.flight.node.id ∈ late := named ▸ after source inside named
    simp [settledAs, late]
  refine (finalize_ready_finalizes inv turn beforeWait settled resting).weaken ?_ ?_
  · rintro ⟨evidence, action⟩ final finalizing
    refine Run.Excludes.releases unique ⟨?_, ?_⟩ turn
    · rw [Run.Silent, show eventsOf (final.holding action settled evidence).trace =
        eventsOf resting.trace from finalizing.events]
      exact silent
    · change ∀ completed ∈ final.retained.completed ++ settled.map Settled.completed, _
      rw [finalizing.retained]
      exact List.forall_mem_append.mpr ⟨held, List.forall_mem_map.mpr failed⟩
  · intro _ after frame
    rw [Run.Silent, frame.events]
    exact silent

theorem pass_excludes (active : inv.schedulerActive = true)
    (timely : Timely inv run turn) (late : turn.ObservesLate inv node)
    (heard : receive inv turn (run.waiting turn) = some received) :
    Ensured (fun _ after => after.Excludes node) (fun _ after => after.Silent node)
      (received.pass inv turn run) := by
  have hears := receive_receives heard
  obtain ⟨answered, nodes⟩ := receive_completions heard
  have standing : received.run.Excludes node := by
    rw [Run.Excludes, Run.Silent, hears.trace, hears.retained]
    exact excludes
  apply process_excludes unique standing hears.allowed
  intro entry member same
  have among : entry.completion ∈ turn.completions :=
    answered.mem_iff.mp (List.mem_map.mpr ⟨entry, member, rfl⟩)
  have strictly := late entry.completion among ((nodes entry member).symm.trans same)
  rw [← same]
  apply receive_excludes active _ strictly timely.bounded.1 heard member (timely.clock _ among)
  rw [waiting_arms]
  intro observed
  exact Nat.not_lt.mpr (timely.drained observed entry.completion among) strictly

end

theorem finish_silent (silent : run.Silent node) (closing : Closing) :
    Ensured (fun _ after => after.Silent node) (fun _ after => after.Silent node)
      (finish inv closing run) := by
  refine finish_ensured silent fun swept sweeps => ?_
  have kept : swept.Silent node := by
    cases sweeps with
    | spared | complete => exact silent
    | swept primary terminalJson _ _ _ _ =>
      obtain ⟨_, _, _, _, _, _, trace⟩ := swept_parts primary terminalJson (run.exiting closing)
        (missingNodes inv (run.exiting closing))
      rw [Run.Silent, trace, events_of_append]
      refine List.forall_mem_append.mpr ⟨silent, ?_⟩
      simp [eventsOf, WorkflowEvent.reportsOk]
  refine ⟨kept, ?_⟩
  rw [Run.Silent, Run.conclude, events_of_emit]
  refine List.forall_mem_append.mpr ⟨kept, ?_⟩
  intro event member
  rcases List.mem_pair.mp member with rfl | rfl <;> rfl

theorem failed_silent (silent : run.Silent node) (failures : List AccountingFailure) :
    ({ run with trace := run.trace ++ failures.map Moment.failed } : Run).Silent node := by
  rw [Run.Silent, events_of_append, events_of_failed, List.append_nil]
  exact silent

theorem fail_silent (silent : run.Silent node) (failure : AccountingFailure) :
    (run.fail failure).Silent node := by
  have joined : (run.fail failure).trace =
      run.trace ++ (run.control.budgetFailure.toList ++ [failure]).map Moment.failed := by
    simp [Run.fail]
  rw [Run.Silent, joined]
  exact failed_silent silent _

theorem late_rule (node : NodeId) (unique : inv.graph.ids.Nodup)
    (active : inv.schedulerActive = true) :
    LoopRule inv (fun run turn => Timely inv run turn ∧ turn.ObservesLate inv node)
      (Run.Excludes node) (Run.Silent node) where
  opens := by
    intro run prepared
    obtain ⟨controller, _, _, _, rfl⟩ := prepare_ok prepared
    constructor
    · apply schedule_silent unique
      intro event member
      cases member
    · rw [(schedule_schedules inv (inv.openRun controller) unique).retained]
      nofun
  refuses := by
    intro error _ event member
    cases member
  rejects := by
    intro message _ event member
    rcases List.mem_pair.mp member with rfl | rfl <;> rfl
  passes := by
    rintro turn run received after excludes ⟨timely, late⟩ _ heard passed
    exact (pass_excludes unique excludes active timely late heard).of_ok passed
  fails := by
    rintro turn run received failure after excludes ⟨timely, late⟩ _ heard failed
    have processing := (pass_excludes unique excludes active timely late heard).of_error failed
    exact fail_silent processing failure
  closes := by
    rintro turn run after excludes _ _ finished
    have ending :=
      (@finish_silent inv node (run.headed turn) excludes.1 turn.closing).of_ok finished
    exact failed_silent ending _
  breaks := by
    rintro turn run failure after excludes _ _ broken
    have ending :=
      (@finish_silent inv node (run.headed turn) excludes.1 turn.closing).of_error broken
    exact fail_silent ending failure

end Late

/-! The law of cancellation causes. -/

/-- What holds in the state that a run has reached, and of the step after it. -/
structure CausesLaw (inv : Invocation) (turns : List Turn) : Prop where
  kept : ∀ turn node primary,
    (runTurns inv turns).run.control.cancellationPrimaries.lookup node = some primary →
    (runTurns inv (turns ++ [turn])).run.control.cancellationPrimaries.lookup node = some primary
  workflow : ∀ node record,
    (runTurns inv turns).run.progress.nodeTerminals.lookup node = some record →
    record.primary = .canceledWorkflow → node ∈ inv.seedTerminals ∨
      (∃ turn ∈ turns, turn.isExternal = true) ∧
      (runTurns inv turns).run.control.rootCancellationPrimary = some .canceledWorkflow ∧
      (runTurns inv turns).run.control.cancellationPrimaries.lookup node ≠ some .canceledPolicy
  late : inv.schedulerActive = true → ∀ node, (∀ turn ∈ turns, turn.ObservesLate inv node) →
    (runTurns inv turns).run.Silent node ∧ ((runTurns inv turns).ended = false →
      ∀ completed ∈ (runTurns inv turns).run.retained.completed, completed.node = node →
        completed.output.ok = false)
  candidates : ∀ turn completed evidence,
    (finishedEvent completed evidence).reportsOk completed.node = false →
      publishCandidate turn completed evidence = pure ()
  opening : (start inv).run.Halted ∨
      inv.schedulerActive = true ∧ inv.cutoffAtMs < inv.admissionClockMs →
    (start inv).run.started = []
  halted : ∀ turn, (runTurns inv (turns ++ [turn])).run.Halted ∨ turn.ReadsCutoff inv →
    (runTurns inv (turns ++ [turn])).run.started = (runTurns inv turns).run.started
  punctual : inv.schedulerActive = true → ∀ turn, Timely inv (runTurns inv turns).run turn →
    inv.cutoffAtMs < turn.admissionClockMs →
    (runTurns inv (turns ++ [turn])).run.started = (runTurns inv turns).run.started

theorem run_turns_append (turns : List Turn) (turn : Turn) :
    runTurns inv (turns ++ [turn]) = step inv (runTurns inv turns) turn := by
  simp [runTurns, List.foldl_append]

/-- The causes of cancellation over every run whose token is not cancelled when it opens, before
the cutoff, and whose turns are timely: a cause that is recorded stays; a record names the
workflow only after an external cancellation that no policy cancellation of the node precedes; a
completion after the cutoff is never reported ok; and no node is started after the cutoff, a seen
cancellation or a stop of the controller. -/
theorem cancellation_causes_hold (inv : Invocation) (valid : inv.graph.validate = .ok ())
    (untouched : inv.cancelledAtStart = false) (early : inv.admissionClockMs ≤ inv.cutoffAtMs)
    (turns : List Turn)
    (timely : Guarded inv (Timely inv) (start inv) turns) : CausesLaw inv turns := by
  have unique := (validate_well_formed valid).unique
  have opening : ∀ arrived : Prop, inv.cancelledAtStart = true → arrived := by
    intro arrived cancelled
    rw [untouched] at cancelled
    cases cancelled
  -- With `arrived` fixed, every turn that brings a cancellation announces it.
  have reached : ∀ arrived : Prop, (∀ turn ∈ turns, turn.isExternal = true → arrived) →
      (runTurns inv turns).Holds
        (fun run => Supplied inv run ∧ Caused ⟨True, arrived, True⟩ inv run.progress.running run)
        (fun run => Closed ⟨True, arrived, True⟩ inv run) := by
    intro arrived announces
    apply (caused_rule unique (opening arrived)).run turns
    apply guarded_of_forall
    intro turn member _
    exact rests_of_announced inv (announced_of_external (announces turn member))
  have moved : ∀ turn, Remembers (runTurns inv turns).run.control
      (runTurns inv (turns ++ [turn])).run.control ∧
      ((runTurns inv (turns ++ [turn])).run.Halted ∨ turn.ReadsCutoff inv ∨
          turn.completions = [] ∧ (runTurns inv turns).run.Parked →
        (runTurns inv (turns ++ [turn])).run.started = (runTurns inv turns).run.started) := by
    intro turn
    rw [run_turns_append]
    exact step_moved unique (rests_of_announced inv (announced_of_external fun _ => trivial))
      (reached True fun _ _ _ => trivial)
  constructor
  · intro turn node primary found
    exact (moved turn).1.kept node primary found
  · intro node record found workflow
    have holds := reached (∃ turn ∈ turns, turn.isExternal = true)
      fun turn member external => ⟨turn, member, external⟩
    have certified : (runTurns inv turns).run.Certified
        (∃ turn ∈ turns, turn.isExternal = true) inv := by
      unfold Machine.Holds at holds
      split at holds
      · exact holds.certified
      · exact holds.2.certified
    rcases certified node record found with seed | settled
    · exact .inl seed
    · exact .inr (settled.2 workflow)
  · intro active node late
    have holds := (late_rule node unique active).run turns
      (guarded_and timely (guarded_of_forall (fun turn member _ => late turn member) _))
    unfold Machine.Holds at holds
    split at holds
    · rename_i ended
      refine ⟨holds, ?_⟩
      intro live
      rw [ended] at live
      cases live
    · exact ⟨holds.1, fun _ => holds.2⟩
  · intro turn completed evidence reported
    have failed : completed.output.ok = false := by
      simpa [finishedEvent, WorkflowEvent.reportsOk] using reported
    simp [publishCandidate, failed]
  · -- A run that opens with an untouched token and is halted was restored by its controller.
    intro quiet
    have halted := quiet.resolve_right fun late => Nat.not_lt.mpr early late.2
    unfold Workflow.start at halted ⊢
    cases prepared : inv.prepare with
    | error refusal =>
      cases refusal with
      | error | invalidInput => rfl
    | ok run =>
      rw [prepared] at halted
      obtain ⟨controller, _, _, opened, rfl⟩ := prepare_ok prepared
      have caused := @open_caused ⟨True, False, True⟩ inv
        (by rw [untouched]; exact Bool.false_ne_true) controller opened
      apply scheduled_started
      obtain ⟨⟨tokens, terminalizers, launched⟩, _⟩ := schedule_launches inv (inv.openRun controller)
      rw [Run.Halted, launched,
        (schedule_schedules inv (inv.openRun controller) unique).policy] at halted
      rcases halted with cutoff | root | ⟨holder, found, stopped⟩
      · cases cutoff
      · simp only [Invocation.openRun, untouched] at root
        cases root
      · exact caused.barred holder found stopped
  · intro turn quiet
    exact (moved turn).2 (quiet.imp_right .inl)
  · intro active turn within late
    by_cases none : turn.completions = []
    · have parked := (parked_rule unique).run turns (guarded_of_forall (fun _ _ _ => trivial) _)
      unfold Machine.Holds at parked
      split at parked
      · rename_i ended
        rw [run_turns_append, Workflow.step, if_pos ended]
      · exact (moved turn).2 (.inr (.inr ⟨none, parked⟩))
    · exact (moved turn).2 (.inr (.inl ⟨none, active, within.due late⟩))

abbrev cutoffInvocation : Invocation := sampleInvocation .boundedIndependent 3 "task"

/-- One root completes in time, the other after the cutoff, in the pass that observes it. -/
def tiedTurn : Turn :=
  sampleTurn (.completions (sampleCompletion "a" true 2) [sampleCompletion "b" true 5]) none 5

theorem sample_causes_hold :
    Moment.yielded (.nodeFinished "b" false "out" none (some (jsonTerminal
      (sampleRecord .canceledPolicy none))) none none) ∈
      (runTurns cutoffInvocation [tiedTurn]).run.trace ∧
    CausesLaw cutoffInvocation [tiedTurn] := by
  refine ⟨by decide +kernel, cancellation_causes_hold _ rfl rfl (by decide) [tiedTurn]
    ⟨?_, trivial⟩⟩
  intro _
  refine ⟨by decide, by decide, ?_, by decide⟩
  intro observed
  exact absurd observed (by decide +kernel)

/-- The cutoff is observed in a pass of its own, and a root completes after it. -/
def lateTurns : List Turn :=
  [sampleTurn (.control .absoluteCutoff) none 5,
    sampleTurn (.completions (sampleCompletion "a" true 6) []) none 6]

/-- Both roots complete in time, and publishing them takes until after the cutoff. -/
def slowTurn : Turn :=
  { sampleTurn (.completions (sampleCompletion "a" true 1) [sampleCompletion "b" true 1])
      none 2 with
    admissionClockMs := 5 }

/-- The late completion is reported ok, because the cutoff only excludes completions in the pass
that observes it; a run that opens with a cancelled token starts its roots; and a node is
started after the cutoff if the pass read the clock before it. -/
theorem observed_cutoff_readmits_completions :
    (∀ turn ∈ lateTurns, turn.ObservesLate cutoffInvocation "a") ∧
    Moment.yielded (.nodeFinished "a" true "out" none (some (jsonTerminal
      (sampleRecord .completed none))) none none) ∈
      (runTurns cutoffInvocation lateTurns).run.trace ∧
    ¬ CausesLaw cutoffInvocation lateTurns ∧
    ¬ CausesLaw { cutoffInvocation with cancelledAtStart := true } [] ∧
    cutoffInvocation.cutoffAtMs < slowTurn.admissionClockMs ∧
    (start cutoffInvocation).run.started = ["a", "b"] ∧
    (runTurns cutoffInvocation [slowTurn]).run.started =
      ["a", "b", "c"] := by
  have late : ∀ turn ∈ lateTurns,
      turn.ObservesLate cutoffInvocation "a" := by
    unfold Turn.ObservesLate
    decide
  have reported : WorkflowEvent.nodeFinished "a" true "out" none (some (jsonTerminal
      (sampleRecord .completed none))) none none ∈
      eventsOf (runTurns cutoffInvocation lateTurns).run.trace := by
    decide +kernel
  refine ⟨late, by decide +kernel, ?_, ?_, by decide, by decide +kernel, by decide +kernel⟩
  · intro law
    have silent := (law.late rfl "a" late).1 _ reported
    cases silent
  · intro law
    have idle := law.opening (.inl (.inr (.inl (by decide +kernel))))
    revert idle
    decide +kernel

end A2aBridge.Workflow
