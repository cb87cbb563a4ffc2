import A2aBridge.WorkflowLedger

/-!
The final sweep never meets a node it cannot account for. While admission is open, every
node of the graph is done, admitted, or waits for an input; so a loop that is left with
admission open has finished the whole graph, and one that was stopped has its cause on
record. The sweep then gives every remaining node one record.
-/

namespace A2aBridge.Workflow

open StatefulRefusal JobLedger

/-- A node that is neither done nor admitted waits for an input. -/
def Progress.Saturated (graph : WorkflowGraph) (progress : Progress) : Prop :=
  ∀ node ∈ graph.nodes, node.id ∈ progress.done ∨ node.id ∈ progress.scheduled ∨
    ∃ input ∈ node.inputs, input ∉ progress.done

/-- The invariant of the loop: the ledger, the seed's checks, and saturation while admission
is open. -/
structure Supplied (inv : Invocation) (run : Run) : Prop where
  tracked : Tracked inv run
  resumed : inv.checkResume = .ok ()
  seeded : inv.checkSeed = .ok ()
  saturated : run.control.stopScheduling = false → run.progress.Saturated inv.graph

theorem schedule_saturates (inv : Invocation) (run : Run) (unique : inv.graph.ids.Nodup)
    (running : (run.schedule inv).control.stopScheduling = false) :
    (run.schedule inv).progress.Saturated inv.graph := by
  obtain ⟨_, _, _, unstopped, nodes, _, progress, _, _, chosen⟩ := schedule_schedules inv run unique
  rw [unstopped.1] at running
  rw [running, if_neg Bool.false_ne_true] at chosen
  intro node member
  rw [progress]
  simp
  -- A node that the pass skipped was not ready, for one of three reasons.
  by_cases ready : run.progress.isReady node = true
  · right
    left
    right
    refine ⟨node, ?_, rfl⟩
    rw [chosen]
    exact List.mem_filter.mpr ⟨member, ready⟩
  · simp only [Progress.isReady, Bool.and_eq_true, decide_eq_true_eq, List.all_eq_true, not_and,
      not_forall] at ready
    by_cases done : node.id ∈ run.progress.done
    · exact .inl done
    · by_cases scheduled : node.id ∈ run.progress.scheduled
      · exact .inr (.inl (.inl scheduled))
      · obtain ⟨input, among, missing⟩ := ready ⟨done, scheduled⟩
        exact .inr (.inr ⟨input, among, missing⟩)

variable {inv : Invocation} {run : Run} {closing : Closing} {after : Run} {node : NodeId}

theorem Supplied.pass {turn : Turn} {received : Received} (unique : inv.graph.ids.Nodup)
    (supplied : Supplied inv run) (heard : receive inv turn (run.waiting turn) = some received)
    (passed : received.pass inv turn run = .ok () after) : Supplied inv after := by
  refine ⟨supplied.tracked.pass unique heard passed, supplied.resumed, supplied.seeded, ?_⟩
  obtain ⟨acted, acting, processed⟩ := process_ok passed
  have acts := acts_of_heard supplied.tracked.governed heard acting
  have waited := ((waiting_phase turn run).governed supplied.tracked.governed).2
  have before : acted.control.stopScheduling = false → run.progress.Saturated inv.graph := by
    intro running
    apply supplied.saturated
    by_contra stopped
    have kept := acts.advance.control.kept (waited.control.kept (Bool.not_eq_false _ ▸ stopped))
    rw [running] at kept
    cases kept
  cases processed with
  | quiet empty _ =>
    intro running
    rw [(acts.undrained empty).progress]
    exact before running
  | held onward answers finalized _ =>
    intro running
    have holds := holds_of_finalized acts onward finalized
    obtain ⟨left, terminals, progress, _⟩ := holds.records
    rw [progress]
    apply before
    by_contra stopped
    have kept := holds.advance.control.kept (Bool.not_eq_false _ ▸ stopped)
    rw [running] at kept
    cases kept
  | published onward answers finalized _ =>
    intro running
    exact schedule_saturates inv _ unique running

/-- A phase that is only control keeps the supply: admission is never opened again. -/
theorem Supplied.of_phase (supplied : Supplied inv run)
    (phase : Phase run after) : Supplied inv after := by
  obtain ⟨governed, advance⟩ := phase.governed supplied.tracked.governed
  refine ⟨supplied.tracked.of_frame phase.toFrame governed, supplied.resumed, supplied.seeded, ?_⟩
  intro running
  rw [phase.progress]
  apply supplied.saturated
  by_contra stopped
  have kept := advance.control.kept (Bool.not_eq_false _ ▸ stopped)
  rw [running] at kept
  cases kept

/-- A saturated ledger at rest has settled the whole graph: the rank of a valid graph leaves
no node to wait for. -/
theorem settled_of_saturated (formed : WellFormed inv.graph) (tracked : Tracked inv run)
    (idle : run.isIdle = true) (saturated : run.progress.Saturated inv.graph) :
    ∀ node ∈ inv.graph.ids, node ∈ run.progress.done := by
  obtain ⟨inflight, completed⟩ := idle_parts idle
  obtain ⟨rank, lower⟩ := formed.ranked
  have settled : ∀ bound, ∀ node ∈ inv.graph.nodes, rank node.id < bound →
      node.id ∈ run.progress.done := by
    intro bound
    induction bound with
    | zero =>
      nofun
    | succ bound ih =>
      intro node member low
      rcases saturated node member with done | scheduled | ⟨input, among, missing⟩
      · exact done
      · -- An admitted node is running, held or finished, and the first two are empty.
        rcases (tracked.lawful.admitted_iff node.id).mp scheduled with running | held | finished
        · simp [Run.ledger, Progress.running, inflight] at running
        · simp [Run.ledger, Retained.nodes, completed] at held
        · exact (tracked.lawful.settled_iff node.id).mpr (.inr finished)
      · obtain ⟨entry, present, same⟩ := List.mem_map.mp (formed.known node member input among)
        have below := lower node member input among
        have done := ih entry present (by rw [same]; omega)
        rw [same] at done
        exact absurd done missing
  intro node member
  obtain ⟨entry, present, rfl⟩ := List.mem_map.mp member
  exact settled (rank entry.id + 1) entry present (Nat.lt_succ_self _)

/-- The facts one of which is on record when the loop is left with nodes to sweep. -/
def Accounted (run : Run) : Prop :=
  run.control.rootCancellationPrimary = some .canceledWorkflow ∨
    run.control.budgetFailure.isSome = true ∨
    SchedulerArm.absoluteCutoff ∈ run.control.observedArms ∨
    SchedulerArm.mechanicallyProvedImpossibility ∈ run.control.observedArms ∨
    ∃ controller, run.policy.controller = some controller ∧
      controller.admissionStopped = true ∧ controller.trigger.isSome = true

theorem sampled_root (control : Control) (external : Bool)
    (cancelled : (control.sampleObserve external).cancelled = true) :
    (control.sampleObserve external).rootCancellationPrimary.isSome = true := by
  unfold Control.sampleObserve Control.observe at cancelled ⊢
  split
  · rfl
  · rename_i unseen
    rw [if_neg unseen] at cancelled
    rw [Bool.and_eq_true, not_and, Bool.not_eq_true, Option.isNone_eq_false_iff] at unseen
    exact unseen cancelled

theorem accounted_of_stopped (governed : Governed (run.exiting closing))
    (stopped : (run.exiting closing).control.stopScheduling = true) :
    Accounted (run.exiting closing) := by
  have committed : (run.exiting closing).policy.Triggered → Accounted (run.exiting closing) := by
    rintro ⟨controller, found, trigger⟩
    have sound := governed.controller controller found
    exact .inr (.inr (.inr (.inr ⟨controller, found, sound.triggered trigger, trigger⟩)))
  rcases governed.stopped stopped with cancelled | budget | cutoff | triggered
  · obtain ⟨primary, root⟩ := Option.isSome_iff_exists.mp (sampled_root _ _ cancelled)
    rcases governed.root primary root with rfl | ⟨_, triggered⟩
    · exact .inl root
    · exact committed triggered
  · exact .inr (.inl budget)
  · exact .inr (.inr (.inl cutoff))
  · exact committed triggered

theorem sweep_cause_of_accounted (accounted : Accounted run) :
    sweepCause run = some .canceledWorkflow ∨ sweepCause run = some .notStartedPolicy := by
  unfold sweepCause
  by_cases workflow : run.control.rootCancellationPrimary = some .canceledWorkflow
  · left
    rw [if_pos workflow]
  · right
    rw [if_neg workflow, if_pos]
    rcases accounted with root | budget | cutoff | impossible | ⟨controller, found, stopped, trigger⟩
    · exact absurd root workflow
    · simp [budget]
    · simp [cutoff]
    · simp [impossible]
    · simp [found, stopped, trigger]

/-- The writer gives the two records of the sweep a text that fits. -/
def EvidenceCodec.WritesSweep (codec : EvidenceCodec) : Prop :=
  ∀ primary, primary = .canceledWorkflow ∨ primary = .notStartedPolicy →
    ∃ text, codec.terminalText (sweepTerminal primary) = some text ∧ NodeTerminal.fits text = true

theorem sweep_record_encodes {codec : EvidenceCodec} (writes : codec.WritesSweep)
    {primary : NodePrimaryDisposition}
    (kind : primary = .canceledWorkflow ∨ primary = .notStartedPolicy) :
    ∃ text, canonicalTerminalJson codec (sweepTerminal primary) = .ok text := by
  obtain ⟨text, written, fits⟩ := writes primary kind
  refine ⟨text, ?_⟩
  have normal : (sweepTerminal primary).normalize codec = some (sweepTerminal primary) := rfl
  have encoded : (sweepTerminal primary).encodeCanonical codec = some text := by
    simp [NodeTerminal.encodeCanonical, normal, written, fits]
  simp only [canonicalTerminalJson, encoded]

theorem missing_accounted (formed : WellFormed inv.graph) (frozen : inv.authority.isSome = true)
    (supplied : Supplied inv (run.exiting closing)) (idle : (run.exiting closing).isIdle = true)
    (missing : missingNodes inv (run.exiting closing) ≠ []) : Accounted (run.exiting closing) := by
  apply accounted_of_stopped supplied.tracked.governed
  by_contra running
  rw [Bool.not_eq_true] at running
  apply missing
  apply List.eq_nil_iff_forall_not_mem.mpr
  intro node member
  obtain ⟨present, unrecorded⟩ := ((missing_nodes_spec _ formed.unique).2 node).mp member
  apply unrecorded
  rw [supplied.tracked.recorded]
  -- With admission open the whole graph is settled, so the node was seeded or has finished.
  have done := settled_of_saturated formed supplied.tracked idle (supplied.saturated running)
    node present
  rcases (supplied.tracked.lawful.settled_iff node).mp done with seed | finished
  · exact .inl ((seed_recorded supplied.resumed frozen node).mpr seed)
  · exact .inr (.inr finished)

theorem swept_records (unique : inv.graph.ids.Nodup)
    (known : ∀ node ∈ run.progress.nodeTerminals, node ∈ inv.graph.ids)
    (primary : NodePrimaryDisposition) (terminalJson : String) :
    (run.swept primary terminalJson (missingNodes inv run)).progress.nodeTerminals.keys.Perm
      inv.graph.ids := by
  obtain ⟨_, _, _, members, _⟩ := swept_parts primary terminalJson run (missingNodes inv run)
  obtain ⟨_, missing⟩ := missing_nodes_spec run unique
  rw [List.perm_ext_iff_of_nodup (AList.keys_nodup _) unique]
  intro node
  rw [← AList.mem_keys, members node, missing node]
  constructor
  · rintro (⟨present, _⟩ | recorded)
    · exact present
    · exact known node recorded
  · intro present
    by_cases recorded : node ∈ run.progress.nodeTerminals
    · exact .inr recorded
    · exact .inl ⟨present, recorded⟩

theorem sweep_succeeds (formed : WellFormed inv.graph) (frozen : inv.authority.isSome = true)
    (writes : inv.codec.WritesSweep) (supplied : Supplied inv (run.exiting closing))
    (idle : (run.exiting closing).isIdle = true) :
    ∃ swept, sweep inv (run.exiting closing) = .ok () swept ∧
      swept.progress.nodeTerminals.keys.Perm inv.graph.ids := by
  generalize exiting : run.exiting closing = start at supplied idle ⊢
  have known : ∀ node ∈ start.progress.nodeTerminals, node ∈ inv.graph.ids := by
    intro node recorded
    rcases (supplied.tracked.recorded node).mp recorded with seed | held | finished
    · have seeded := (seed_recorded supplied.resumed frozen node).mp seed
      have checked := supplied.seeded
      unfold Invocation.checkSeed at checked
      split_ifs at checked with known
      by_contra unknown
      apply known
      rw [List.any_eq_true]
      exact ⟨node, List.mem_toFinset.mp seeded, by simpa using unknown⟩
    · simp [Retained.nodes, (idle_parts idle).2] at held
    · apply supplied.tracked.known
      exact (supplied.tracked.lawful.admitted_iff node).mpr (.inr (.inr finished))
  -- The count that closes the sweep is the number of the graph's nodes.
  have counted : ∀ swept : Run, sweepAll inv (missingNodes inv start) start = .ok () swept →
      swept.progress.nodeTerminals.keys.Perm inv.graph.ids → sweep inv start = .ok () swept := by
    intro swept sweeping records
    have length : swept.progress.nodeTerminals.keys.length = inv.graph.nodes.length := by
      rw [records.length_eq, WorkflowGraph.ids, List.length_map]
    simp only [sweep, get_bind, frozen, Bool.true_or, if_true]
    rw [bind_of_ok sweeping]
    simp only [get_bind, length, ne_eq, not_true_eq_false, if_false]
    rfl
  by_cases none : missingNodes inv start = []
  · have records := swept_records formed.unique known .notStartedPolicy ""
    rw [none] at records
    exact ⟨start, counted start (by rw [none]; rfl) records, records⟩
  · have accounted : Accounted start := by
      subst exiting
      exact missing_accounted formed frozen supplied idle none
    obtain ⟨primary, cause, kind⟩ : ∃ primary, sweepCause start = some primary ∧
        (primary = .canceledWorkflow ∨ primary = .notStartedPolicy) := by
      rcases sweep_cause_of_accounted accounted with workflow | policy
      · exact ⟨_, workflow, .inl rfl⟩
      · exact ⟨_, policy, .inr rfl⟩
    obtain ⟨text, encoded⟩ := sweep_record_encodes writes kind
    have records := swept_records formed.unique known primary text
    refine ⟨_, counted _ ?_ records, records⟩
    rw [sweep_all_run inv _ start none, cause]
    simp only [encoded]

theorem supplied_rule (unique : inv.graph.ids.Nodup) :
    LoopRule inv (fun _ _ => True) (Supplied inv) (fun _ => True) where
  opens := by
    intro run prepared
    obtain ⟨controller, resumed, seeded, _⟩ := prepare_ok prepared
    exact ⟨Tracked.opened unique prepared, resumed, seeded, schedule_saturates inv run unique⟩
  refuses := fun _ _ => trivial
  rejects := fun _ _ => trivial
  passes := fun turn run received after supplied _ _ heard passed =>
    supplied.pass unique heard passed
  fails := fun _ _ _ _ _ _ _ _ _ _ => trivial
  closes := fun _ _ _ _ _ _ _ => trivial
  breaks := fun _ _ _ _ _ _ _ _ => trivial

/-- A run of a valid graph never starves: while admission is open and nothing runs or is held,
every node was seeded or has finished once. -/
theorem open_run_never_starves (inv : Invocation) (valid : inv.graph.validate = .ok ())
    (turns : List Turn) (live : (runTurns inv turns).ended = false)
    (admitting : (runTurns inv turns).run.control.stopScheduling = false)
    (idle : (runTurns inv turns).run.isIdle = true) :
    ∀ node ∈ inv.graph.ids, node ∈ inv.seed.keys ∨
      (finishedNodes (eventsOf (runTurns inv turns).run.trace)).count node = 1 := by
  have formed := validate_well_formed valid
  have holds := (supplied_rule formed.unique).run turns guarded_true
  unfold Machine.Holds at holds
  rw [live, if_neg Bool.false_ne_true] at holds
  intro node member
  have tracked := holds.tracked
  have done := settled_of_saturated formed tracked idle (holds.saturated admitting) node member
  rcases (tracked.lawful.settled_iff node).mp done with seed | finished
  · exact .inl (List.mem_toFinset.mp seed)
  · exact .inr (List.count_eq_one_of_mem tracked.safe.finished_once finished)

theorem sample_never_starves : (finishedNodes (eventsOf
    (runTurns (sampleInvocation .failFast 1000 "task") (sampleTurns.take 2)).run.trace)).count
    "c" = 1 :=
  (open_run_never_starves (sampleInvocation .failFast 1000 "task") rfl _ (by decide +kernel)
    (by decide +kernel) (by decide +kernel) "c" (by decide +kernel)).resolve_left
    (by decide +kernel)

/-- A frozen run that leaves its loop always closes its stream: nodes without a record have
one of the five causes, and after the sweep every node of the graph has exactly one record. -/
theorem sweep_accounts_for_every_node (inv : Invocation) (valid : inv.graph.validate = .ok ())
    (frozen : inv.authority.isSome = true) (writes : inv.codec.WritesSweep) (turns : List Turn)
    (live : (runTurns inv turns).ended = false) (turn : Turn)
    (idle : ((runTurns inv turns).run.headed turn).isIdle = true) :
    (missingNodes inv (((runTurns inv turns).run.headed turn).exiting turn.closing) ≠ [] →
      Accounted (((runTurns inv turns).run.headed turn).exiting turn.closing)) ∧
    ∃ after, finish inv turn.closing ((runTurns inv turns).run.headed turn) = .ok () after ∧
      runTurns inv (turns ++ [turn]) = ⟨after.refuseBudget, true⟩ ∧
      after.progress.nodeTerminals.keys.Perm inv.graph.ids := by
  have formed := validate_well_formed valid
  have holds := (supplied_rule formed.unique).run turns guarded_true
  unfold Machine.Holds at holds
  rw [live, if_neg Bool.false_ne_true] at holds
  have exiting : Supplied inv (((runTurns inv turns).run.headed turn).exiting turn.closing) :=
    holds.of_phase (Phase.of_control
      ((Control.Later.head _ _).trans (Control.Later.sample_observe _ _)))
  refine ⟨missing_accounted formed frozen exiting idle, ?_⟩
  obtain ⟨swept, sweeping, records⟩ := sweep_succeeds formed frozen writes exiting idle
  have finished : finish inv turn.closing ((runTurns inv turns).run.headed turn) =
      .ok () (swept.conclude inv turn.closing) := by
    exact bind_of_ok sweeping
  refine ⟨_, finished, ?_, records⟩
  have stepping : step inv (runTurns inv turns) turn =
      ⟨(swept.conclude inv turn.closing).refuseBudget, true⟩ := by
    rw [step, if_neg (by rw [live]; exact Bool.false_ne_true)]
    simp only [Run.headed] at idle finished
    rw [if_pos idle, finished]
  unfold runTurns at stepping ⊢
  rw [List.foldl_append]
  exact stepping

/-- The sample run stopped by its cutoff after its roots: the third node is swept. -/
theorem sample_cutoff_accounted :
    (runTurns (sampleInvocation .boundedIndependent 1 "task")
      [sampleTurn (.completions (sampleCompletion "a" true 1) [sampleCompletion "b" true 1]) none 5]).ended
        = false ∧
    ∃ after, runTurns (sampleInvocation .boundedIndependent 1 "task")
        ([sampleTurn (.completions (sampleCompletion "a" true 1) [sampleCompletion "b" true 1]) none 5]
          ++ [sampleTurn (.control .dueNoProgressSnapshots) none 6]) = ⟨after, true⟩ ∧
      after.progress.nodeTerminals.keys.Perm sampleGraph.ids := by
  have live : (runTurns (sampleInvocation .boundedIndependent 1 "task")
      [sampleTurn (.completions (sampleCompletion "a" true 1) [sampleCompletion "b" true 1])
        none 5]).ended = false := by decide +kernel
  refine ⟨live, ?_⟩
  obtain ⟨_, after, _, ended, records⟩ := sweep_accounts_for_every_node
    (sampleInvocation .boundedIndependent 1 "task") rfl rfl
    (by rintro primary (rfl | rfl) <;> exact ⟨_, rfl, by decide +kernel⟩) _ live
    (sampleTurn (.control .dueNoProgressSnapshots) none 6) (by decide +kernel)
  exact ⟨_, ended, records⟩

end A2aBridge.Workflow
