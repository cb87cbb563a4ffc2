import A2aBridge.WorkflowAttribution

/-!
Whole runs and their causes of cancellation: the ends of a run, the invariant carried to every
state, and what one step does to it.
-/

namespace A2aBridge.Workflow

open StatefulRefusal JobLedger Control

/-! The ends of a run. -/

variable {grounds : Grounds} {inv : Invocation} (unique : inv.graph.ids.Nodup)

/-- What a closing pass leaves, finished or failed. -/
abbrev ClosesFrom (grounds : Grounds) (inv : Invocation) (run after : Run) : Prop :=
  Closed grounds inv after ∧ Remembers run.control after.control ∧ after.started = run.started

section Ends

variable {run : Run}

include unique

/-- The swept nodes were never admitted, so no cause was recorded for them. -/
theorem Sweeps.caused {after : Run} (tracked : Tracked inv run)
    (idle : run.isIdle = true) (caused : Caused grounds inv run.progress.running run)
    (sweeps : Sweeps inv run after) :
    after.Certified grounds.arrived inv ∧ after.control = run.control ∧ after.started = run.started := by
  cases sweeps with
  | spared | complete => exact ⟨caused.certified, rfl, rfl⟩
  | swept primary terminalJson _ _ cause _ =>
    obtain ⟨inflight, completed⟩ := idle_parts idle
    obtain ⟨control, _, _, _, others, swept, trace⟩ :=
      swept_parts primary terminalJson run (missingNodes inv run)
    obtain ⟨_, missing⟩ := missing_nodes_spec run unique
    refine ⟨?_, control, ?_⟩
    · intro node record found
      rw [control]
      by_cases gap : node ∈ missingNodes inv run
      · rw [swept node gap] at found
        cases found
        right
        constructor
        · intro member
          have running := caused.tokens node member
          simp [Progress.running, inflight] at running
        · intro workflow
          have root : run.control.rootCancellationPrimary = some .canceledWorkflow := by
            change primary = .canceledWorkflow at workflow
            unfold sweepCause at cause
            rw [workflow] at cause
            split at cause
            · assumption
            · split_ifs at cause
              cases cause
          refine ⟨caused.attributed.outside root, root, ?_⟩
          intro marked
          -- An admitted node of an idle run has finished, so it has a record.
          have admitted := caused.launched node (AList.lookup_isSome.mp (by rw [marked]; rfl))
          apply ((missing node).mp gap).2
          rw [tracked.recorded]
          rcases (tracked.lawful.admitted_iff node).mp admitted with running | held | finished
          · simp [Run.ledger, Progress.running, inflight] at running
          · simp [Run.ledger, Retained.nodes, completed] at held
          · exact .inr (.inr finished)
      · rw [others node gap] at found
        exact caused.certified node record found
    · simp [Run.started, startedNodes, eventsOf, marksOf, markOf, trace, List.filterMap_append,
        startedIn]

variable {turn : Turn}

variable (announced : turn.Announced grounds.arrived)
  (caused : Caused grounds inv run.progress.running run)

include announced caused

theorem exit_caused (tracked : Tracked inv run) (idle : run.isIdle = true) :
    Ensured (fun _ => ClosesFrom grounds inv run) (fun _ => ClosesFrom grounds inv run)
      (finish inv turn.closing run) := by
  have exiting : Causal grounds run.control (run.exiting turn.closing).control :=
    Causal.sample_observe _ announced.exit
  have phase : Phase run (run.exiting turn.closing) :=
    Phase.of_control (Control.Later.sample_observe _ _)
  have leaving := tracked.of_frame phase.toFrame (phase.governed tracked.governed).1
  have standing : Caused grounds inv (run.exiting turn.closing).progress.running
      (run.exiting turn.closing) := caused.frame (Follows.of_control exiting) phase.toFrame
  refine finish_ensured ⟨⟨exiting.attributed caused.attributed, standing.certified⟩,
    exiting.toRemembers, rfl⟩ fun swept sweeps => ?_
  obtain ⟨certified, control, started⟩ := sweeps.caused unique leaving idle standing
  have closing : Causal grounds swept.control (swept.conclude inv turn.closing).control :=
    Causal.sample _ announced.outcome
  rw [← control] at exiting
  have silent : (swept.conclude inv turn.closing).started = swept.started := by
    simp only [Run.started, Run.conclude, events_of_emit, startedNodes, marks_of_append,
      started_in_append]
    exact List.append_nil _
  have whole := exiting.trans closing
  exact ⟨⟨⟨exiting.attributed caused.attributed, certified⟩, exiting.toRemembers, started⟩,
    ⟨whole.attributed caused.attributed, certified.causal closing rfl⟩, whole.toRemembers,
    silent.trans started⟩

theorem finish_caused (supplied : Supplied inv run) (idle : (run.headed turn).isIdle = true) :
    Ensured (fun _ => ClosesFrom grounds inv run) (fun _ => ClosesFrom grounds inv run)
      (finish inv turn.closing (run.headed turn)) := by
  have heading : Causal grounds run.control (run.headed turn).control :=
    Causal.head _ announced.head
  have phase : Phase run (run.headed turn) := Phase.of_control (Control.Later.head _ _)
  have tracked := supplied.tracked.of_frame phase.toFrame
    (phase.governed supplied.tracked.governed).1
  have standing : Caused grounds inv (run.headed turn).progress.running (run.headed turn) :=
    caused.frame (Follows.of_control heading) phase.toFrame
  exact (exit_caused unique announced standing tracked idle).weaken
    (fun _ _ done => ⟨done.1, heading.toRemembers.trans done.2.1, done.2.2⟩)
    (fun _ _ failed => ⟨failed.1, heading.toRemembers.trans failed.2.1, failed.2.2⟩)

end Ends

/-! Runs. -/

section Runs

theorem certified_of_seed {run : Run} (seed : run.progress.nodeTerminals = inv.seedTerminals) :
    run.Certified grounds.arrived inv := by
  intro node record found
  left
  rw [← AList.lookup_isSome, ← seed, found]
  rfl

section

variable (opening : inv.cancelledAtStart = true → grounds.arrived)

include opening

theorem open_attributed (controller : Option FanOutController) :
    (inv.openRun controller).control.Attributed grounds := by
  constructor
  · intro node held
    cases held
  · intro root
    simp only [Invocation.openRun] at root
    split at root
    · rename_i cancelled
      exact opening cancelled
    · cases root
  · exact fun cancelled => .inr (opening cancelled)
  · intro _ _ _ node running
    cases running
  · intro root
    simp only [Invocation.openRun] at root
    split at root
    · assumption
    · cases root
  · intro cut
    cases cut
  · intro timed
    cases timed
  · intro root
    simp only [Invocation.openRun] at root
    split at root <;> cases root

theorem blank_closed {trace : List Moment} :
    Closed grounds inv { inv.openRun none with trace := trace } :=
  ⟨open_attributed opening none, certified_of_seed rfl⟩

theorem open_caused {controller : Option FanOutController}
    (opened : inv.openController = .ok controller) :
    Caused grounds inv (inv.openRun controller).progress.running (inv.openRun controller) := by
  constructor
  · exact open_attributed opening controller
  · intro holder found stopped
    subst found
    -- A fresh controller admits nodes, so this one was restored from a seed.
    change inv.stoppedAtOpening (some holder) = true
    unfold Invocation.stoppedAtOpening
    rw [Option.any_some, stopped, Bool.and_true]
    cases seeded : inv.structuredSeed with
    | some structured => rfl
    | none =>
      unfold Invocation.openController at opened
      cases frozen : inv.authority with
      | none =>
        rw [frozen] at opened
        cases opened
      | some authority =>
        rw [frozen, seeded] at opened
        cases opened
        cases stopped
  · nofun
  · nofun
  · nofun
  · nofun
  · exact fun node member => .inl member
  · exact certified_of_seed rfl

include unique

theorem caused_rule :
    LoopRule inv (Rests grounds inv)
      (fun run => Supplied inv run ∧ Caused grounds inv run.progress.running run)
      (fun run => Closed grounds inv run) where
  opens := by
    intro run prepared
    refine ⟨(supplied_rule unique).opens run prepared, ?_⟩
    obtain ⟨controller, _, _, opened, rfl⟩ := prepare_ok prepared
    apply (open_caused opening opened).schedule unique
    intro _ primary root
    simp only [Invocation.openRun] at root
    split at root
    · exact (Option.some.inj root).symm
    · cases root
  refuses := fun _ _ => blank_closed opening
  rejects := fun _ _ => blank_closed opening
  passes := by
    rintro turn run received after ⟨supplied, caused⟩ rests _ heard passed
    have processing := (pass_caused unique rests caused heard).of_ok passed
    exact ⟨supplied.pass unique heard passed, processing.1⟩
  fails := by
    rintro turn run received failure after ⟨_, caused⟩ rests _ heard failed
    have processing := (pass_caused unique rests caused heard).of_error failed
    exact ⟨processing.1.attributed, processing.1.certified⟩
  closes := by
    rintro turn run after ⟨supplied, caused⟩ rests idle finished
    have ending := (finish_caused unique rests.announced caused supplied idle).of_ok finished
    exact ⟨ending.1.attributed, ending.1.certified⟩
  breaks := by
    rintro turn run failure after ⟨supplied, caused⟩ rests idle broken
    have ending := (finish_caused unique rests.announced caused supplied idle).of_error broken
    exact ⟨ending.1.attributed, ending.1.certified⟩

end

/-- Completions are held back only while a trigger's barrier is out. -/
def Run.Parked (run : Run) : Prop :=
  run.retained.completed = [] ∨ run.policy.durableTriggerBarrier.isSome = true

theorem Run.Parked.stopped {run : Run} (parked : run.Parked) (governed : Governed run)
    (barred : run.Barred) (held : run.retained.completed ≠ []) :
    run.control.stopScheduling = true := by
  have out : run.policy.isOut = true := by
    rw [Policy.isOut, parked.resolve_left held, Bool.true_or]
  exact stopped_of_triggered governed barred (governed.barrier out)

theorem process_quiet {turn : Turn} {beforeWait : Bool} {arm : SchedulerArm} {late : List NodeId}
    {run : Run} (allowed : arm.Allowed run.control) (empty : run.retained.completed = []) :
    Ensured (fun _ => Frame run) (fun _ => Frame run)
      (process inv turn beforeWait arm [] late run) := by
  refine (act_phase inv turn arm run allowed).bind ?_
  rintro _ acted ⟨phase, _⟩
  rw [get_bind, phase.completed, empty]
  exact phase.toFrame

include unique

theorem parked_rule : LoopRule inv (fun _ _ => True) Run.Parked (fun _ => True) where
  opens := by
    intro run prepared
    obtain ⟨controller, _, _, _, rfl⟩ := prepare_ok prepared
    left
    rw [(schedule_schedules inv (inv.openRun controller) unique).retained]
    rfl
  refuses := fun _ _ => trivial
  rejects := fun _ _ => trivial
  passes := by
    intro turn run received after _ _ _ heard passed
    obtain ⟨acted, _, processed⟩ := process_ok passed
    cases processed with
    | quiet _ empty => exact .inl empty
    | held _ _ _ out => exact .inr out
    | @published _ final settled evidence action _ _ _ _ =>
      left
      let holding := final.holding action settled evidence
      exact congrArg Retained.completed ((schedule_schedules inv (holding.reopened turn)
        unique).retained.trans (flushed_parts holding).2.2.1)
  fails := fun _ _ _ _ _ _ _ _ _ _ => trivial
  closes := fun _ _ _ _ _ _ _ => trivial
  breaks := fun _ _ _ _ _ _ _ _ => trivial

/-- One step of a live or an ended run: causes stay, and a step that leaves the run halted, that
drains completions with the clock at the cutoff, or that drains none, starts nothing. -/
theorem step_moved {machine : Machine} {turn : Turn}
    (rests : Rests grounds inv machine.run turn) (holds : machine.Holds
      (fun run => Supplied inv run ∧ Caused grounds inv run.progress.running run)
      (fun run => Closed grounds inv run)) :
    Remembers machine.run.control (step inv machine turn).run.control ∧
      ((step inv machine turn).run.Halted ∨ turn.ReadsCutoff inv ∨
          turn.completions = [] ∧ machine.run.Parked →
        (step inv machine turn).run.started = machine.run.started) := by
  obtain ⟨run, ended⟩ := machine
  have stay : Remembers run.control run.control := (@Causal.refl grounds run.control).toRemembers
  cases ended with
  | true => exact ⟨stay, fun _ => rfl⟩
  | false =>
    obtain ⟨supplied, caused⟩ := holds
    have stepped := step_stepped inv turn run
    generalize Workflow.step inv ⟨run, false⟩ turn = machine at stepped ⊢
    have waiting : Rests grounds inv (run.waiting turn) turn := rests.of_barrier rfl
    have passing : ∀ {received : Received} {after : Run},
        receive inv turn (run.waiting turn) = some received → Moved received.run after →
        (received.ready = [] → received.run.retained.completed = [] →
          Frame received.run after) →
        Remembers run.control after.control ∧
          (after.Halted ∨ turn.ReadsCutoff inv ∨ turn.completions = [] ∧ run.Parked →
            after.started = run.started) := by
      intro received after heard moved quietly
      have follows := (waiting_follows rests.announced).trans (receive_follows waiting heard)
      refine ⟨follows.control.toRemembers.trans moved.remembers, ?_⟩
      intro quiet
      have same : received.run.started = run.started :=
        congrArg (fun trace => startedNodes (eventsOf trace)) (receive_receives heard).trace
      rw [← same]
      rcases quiet with halted | reads | ⟨none, parked⟩
      · exact moved.idle (.inl halted)
      · apply moved.idle
        right
        exact receive_reads_cutoff ((waiting_phase turn run).governed supplied.tracked.governed).1
          ((waiting_follows rests.announced).barred caused.barred) reads waiting
          ((waiting_follows rests.announced).control.attributed caused.attributed) heard
      · have empty : received.ready = [] := by
          have drained := (receive_completions heard).1
          rw [none] at drained
          exact List.map_eq_nil_iff.mp drained.eq_nil
        by_cases held : run.retained.completed = []
        · have kept : received.run.retained.completed = [] :=
            (congrArg Retained.completed (receive_receives heard).retained).trans held
          exact congrArg startedNodes (quietly empty kept).events
        · have stopped := parked.stopped supplied.tracked.governed caused.barred held
          exact moved.idle (.inr (.inl (follows.control.stopped stopped)))
    cases stepped with
    | waits => exact ⟨stay, fun _ => rfl⟩
    | passes _ heard passed =>
      have processing := (pass_caused unique rests caused heard).of_ok passed
      refine passing heard processing.2 fun empty kept => ?_
      rw [empty] at passed
      exact (process_quiet (receive_receives heard).allowed kept).of_ok passed
    | fails _ heard failed =>
      have processing := (pass_caused unique rests caused heard).of_error failed
      obtain ⟨remembers, idle⟩ := passing heard processing.2 fun empty kept => by
        rw [empty] at failed
        exact (process_quiet (receive_receives heard).allowed kept).of_error failed
      refine ⟨remembers, fun quiet => Eq.trans ?_ (idle quiet)⟩
      simp [Run.started, Run.fail, eventsOf]
    | closes idle finished =>
      obtain ⟨_, remembers, started⟩ :=
        (finish_caused unique rests.announced caused supplied idle).of_ok finished
      refine ⟨remembers, fun _ => Eq.trans ?_ started⟩
      simp [Run.started, Run.refuseBudget, eventsOf]
    | breaks idle broken =>
      obtain ⟨_, remembers, started⟩ :=
        (finish_caused unique rests.announced caused supplied idle).of_error broken
      refine ⟨remembers, fun _ => Eq.trans ?_ started⟩
      simp [Run.started, Run.fail, eventsOf]

end Runs

end A2aBridge.Workflow
