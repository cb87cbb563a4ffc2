import A2aBridge.WorkflowCancellation

/-!
The causes of cancellation over whole runs. The invariant of the loop says that tokens are held
for running nodes only, that a cause is only recorded for a node that was admitted, and that
every record was settled with a cause that still stands. From it, for every step of a run:
causes are immutable, and nothing is started once the run is halted.
-/

namespace A2aBridge.Workflow

open StatefulRefusal JobLedger Control

/-- Every record that was made by the run itself has its cause. -/
def Run.Certified (arrived : Prop) (inv : Invocation) (run : Run) : Prop :=
  ∀ node record, run.progress.nodeTerminals.lookup node = some record →
    node ∈ inv.seedTerminals ∨ run.control.Certifies arrived node record.primary

/-- The invariant of a pass, where `jobs` are the nodes that may still hold a token. -/
structure Caused (grounds : Grounds) (inv : Invocation) (jobs : List NodeId) (run : Run) : Prop where
  attributed : run.control.Attributed grounds
  barred : run.Barred
  answered : run.Answered grounds
  tokens : ∀ node ∈ run.control.nodeCancels, node ∈ jobs
  admitted : ∀ node ∈ jobs, node ∈ run.progress.scheduled
  launched : ∀ node ∈ run.control.cancellationPrimaries, node ∈ run.progress.scheduled
  recorded : ∀ node ∈ run.progress.nodeTerminals,
    node ∈ inv.seedTerminals ∨ node ∈ run.progress.scheduled
  certified : run.Certified grounds.arrived inv

/-- What is left of it when the run has ended. -/
structure Closed (grounds : Grounds) (inv : Invocation) (run : Run) : Prop where
  attributed : run.control.Attributed grounds
  certified : run.Certified grounds.arrived inv

variable {settled : List Settled} {grounds : Grounds} {jobs : List NodeId}

section Phases

variable {inv : Invocation} {run after : Run}

theorem Run.Certified.causal (certified : run.Certified grounds.arrived inv)
    (causal : Causal grounds run.control after.control)
    (records : after.progress.nodeTerminals = run.progress.nodeTerminals) :
    after.Certified grounds.arrived inv := by
  intro node record found
  rw [records] at found
  exact (certified node record found).imp_right fun settled => certifies_later settled causal

section

variable (caused : Caused grounds inv jobs run)

include caused

theorem Caused.closed (causal : Causal grounds run.control after.control)
    (records : after.progress.nodeTerminals = run.progress.nodeTerminals) :
    Closed grounds inv after :=
  ⟨causal.attributed caused.attributed, caused.certified.causal causal records⟩

theorem Caused.follows (follows : Follows grounds run after)
    (scheduled : after.progress.scheduled = run.progress.scheduled)
    (records : after.progress.nodeTerminals = run.progress.nodeTerminals) :
    Caused grounds inv jobs after := by
  constructor
  · exact follows.control.attributed caused.attributed
  · exact follows.barred caused.barred
  · exact follows.answered caused.answered
  · exact fun node member => caused.tokens node (follows.control.running node member)
  · rw [scheduled]
    exact caused.admitted
  · rw [scheduled]
    intro node member
    rcases follows.control.fresh node member with earlier | running
    · exact caused.launched node earlier
    · exact caused.admitted node (caused.tokens node running)
  · rw [records, scheduled]
    exact caused.recorded
  · exact caused.certified.causal follows.control records

theorem Caused.frame (follows : Follows grounds run after)
    (frame : Frame run after) : Caused grounds inv jobs after :=
  caused.follows follows (congrArg Progress.scheduled frame.progress)
    (congrArg Progress.nodeTerminals frame.progress)

theorem Caused.shrink {left : List NodeId} (tokens : ∀ node ∈ run.control.nodeCancels, node ∈ left)
    (within : ∀ node ∈ left, node ∈ jobs) : Caused grounds inv left run :=
  { caused with
    tokens := tokens
    admitted := fun node member => caused.admitted node (within node member) }

omit caused in
theorem record_found {progress : Progress} {terminals : List ReadyNodeTerminal} {node : NodeId}
    {record : NodeTerminal}
    (found : (progress.record terminals).nodeTerminals.lookup node = some record) :
    (∃ entry ∈ terminals, entry.node = node ∧ entry.terminal = record) ∨
      progress.nodeTerminals.lookup node = some record := by
  unfold Progress.record at found
  generalize progress.nodeTerminals = map at found ⊢
  induction terminals generalizing map with
  | nil => exact .inr found
  | cons first rest ih =>
    rcases ih _ found with ⟨entry, member, same⟩ | earlier
    · exact .inl ⟨entry, List.mem_cons_of_mem _ member, same⟩
    · by_cases same : node = first.node
      · subst same
        rw [AList.lookup_insert] at earlier
        cases earlier
        exact .inl ⟨first, List.mem_cons_self, rfl, rfl⟩
      · rw [AList.lookup_insert_ne same] at earlier
        exact .inr earlier

theorem Caused.records {action : PolicyAction} (records : Records grounds settled action run after)
    (certified : ∀ entry ∈ settled,
      run.control.Certifies grounds.arrived entry.completed.node entry.terminal.primary)
    (known : ∀ entry ∈ settled, entry.completed.node ∈ run.progress.scheduled) :
    Caused grounds inv jobs after := by
  obtain ⟨follows, _, terminals, progress, restates⟩ := records
  have middle : Caused grounds inv jobs { after with progress := run.progress } :=
    caused.follows ⟨follows.control, follows.barred, follows.answered⟩ rfl rfl
  refine ⟨middle.attributed, middle.barred, middle.answered, middle.tokens, ?_, ?_, ?_, ?_⟩
  · rw [progress]
    exact caused.admitted
  · rw [progress]
    exact middle.launched
  · rw [progress]
    intro node member
    rcases (mem_record _ _ _).mp member with among | earlier
    · obtain ⟨entry, inside, rfl⟩ := List.mem_map.mp among
      obtain ⟨source, present, same, _⟩ := restates entry inside
      exact .inr (same ▸ known source present)
    · exact caused.recorded node earlier
  · rw [Run.Certified, progress]
    intro node record found
    rcases record_found found with ⟨entry, inside, rfl, rfl⟩ | earlier
    · obtain ⟨source, present, same, primary, _⟩ := restates entry inside
      rw [← same, ← primary]
      exact .inr (certifies_later (certified source present) follows.control)
    · exact middle.certified node record earlier

end

end Phases

/-! Admission. -/

/-- A scheduling pass only hands out tokens, to nodes that were not admitted before. -/
structure Launches (run after : Run) : Prop where
  control : ∃ tokens terminalizers, after.control = { run.control with
    nodeCancels := tokens, postTransferTerminalizers := terminalizers }
  flights : ∃ more, after.progress.inflight = run.progress.inflight ++ more
  fresh : ∀ node ∈ after.control.nodeCancels, node ∈ run.control.nodeCancels ∨
    node ∉ run.progress.scheduled ∧ node ∈ after.progress.running

theorem Launches.refl (run : Run) : Launches run run := ⟨⟨_, _, rfl⟩, ⟨[], by simp⟩, fun _ => .inl⟩

theorem launch_launches (run : Run) (flight : Flight) (new : flight.node.id ∉ run.progress.scheduled) :
    Launches run (run.launch flight) := by
  refine ⟨?_, ⟨[flight], rfl⟩, ?_⟩
  · simp only [Run.launch, Control.launch]
    split <;> exact ⟨_, _, rfl⟩
  · intro node member
    simp only [Run.launch, Control.launch] at member
    split at member
    · rcases (AList.mem_insert _).mp member with same | earlier
      · right
        rw [same]
        refine ⟨new, ?_⟩
        simp [Run.launch, Progress.launch, Progress.running]
      · exact .inl earlier
    · exact .inl member

variable {before : Run} {middle : Run}

theorem Launches.trans {after : Run} (first : Launches before middle)
    (second : Launches middle after)
    (grows : before.progress.scheduled ⊆ middle.progress.scheduled) : Launches before after := by
  obtain ⟨tokens, terminalizers, control⟩ := first.control
  obtain ⟨laterTokens, laterTerminalizers, laterControl⟩ := second.control
  obtain ⟨more, flights⟩ := first.flights
  obtain ⟨rest, laterFlights⟩ := second.flights
  refine ⟨⟨laterTokens, laterTerminalizers, ?_⟩, ⟨more ++ rest, ?_⟩, ?_⟩
  · rw [laterControl, control]
  · rw [laterFlights, flights, List.append_assoc]
  · intro node member
    rcases second.fresh node member with held | ⟨new, running⟩
    · rcases first.fresh node held with earlier | ⟨new, running⟩
      · exact .inl earlier
      · right
        refine ⟨new, ?_⟩
        simp only [Progress.running, laterFlights, List.map_append, List.mem_append]
        exact .inl running
    · exact .inr ⟨fun earlier => new (grows earlier), running⟩

variable (inv : Invocation)

theorem admit_ready_launches (nodes : List WorkflowNode) (run : Run) :
    Launches run (admitReady inv nodes run).1 := by
  induction nodes generalizing run with
  | nil => exact Launches.refl run
  | cons node rest ih =>
    by_cases ready : run.progress.isReady node = true
    · rw [admitReady, if_pos ready]
      have new : node.id ∉ run.progress.scheduled := by
        simp only [Progress.isReady, Bool.and_eq_true, decide_eq_true_eq] at ready
        exact ready.1.2
      refine (launch_launches run ⟨node, courseOf inv run.progress node⟩ new).trans (ih _) ?_
      exact Finset.subset_insert _ _
    · rw [admitReady, if_neg ready]
      exact ih run

theorem Launches.emit {run after : Run} (launches : Launches run after) (events : List WorkflowEvent) :
    Launches run (after.emit events) :=
  ⟨launches.control, launches.flights, launches.fresh⟩

variable (run : Run)

theorem schedule_launches : Launches run (run.schedule inv) := by
  simp only [Run.schedule, scheduleReady]
  split
  · exact (Launches.refl run).emit _
  · exact (admit_ready_launches inv inv.graph.nodes run).emit _

section Admission

variable {inv : Invocation} {run : Run}

/-- A pass that admits nodes has no root cause but possibly the workflow's at its opening. -/
theorem Caused.schedule (unique : inv.graph.ids.Nodup)
    (caused : Caused grounds inv run.progress.running run)
    (unrooted : run.control.stopScheduling = false → ∀ primary,
      run.control.rootCancellationPrimary = some primary → primary = .canceledWorkflow) :
    Caused grounds inv (run.schedule inv).progress.running (run.schedule inv) := by
  by_cases stopped : run.control.stopScheduling = true
  · have stay : run.schedule inv = run := by
      simp [Run.schedule, scheduleReady, stopped, Run.emit]
    rw [stay]
    exact caused
  · have unstopped := unrooted ((Bool.not_eq_true _).mp stopped)
    obtain ⟨⟨tokens, terminalizers, control⟩, _, fresh⟩ := schedule_launches inv run
    obtain ⟨policy, _, _, _, nodes, _, progress, _⟩ := schedule_schedules inv run unique
    constructor
    · rw [control]
      refine ⟨caused.attributed.workflow, caused.attributed.outside, caused.attributed.inside, ?_,
        caused.attributed.rooted, caused.attributed.cut, caused.attributed.timed,
        caused.attributed.fired⟩
      intro primary root other
      exact absurd (unstopped primary root) other
    · intro controller found halted
      rw [policy] at found
      rw [control]
      exact caused.barred controller found halted
    · intro result found
      rw [policy] at found
      exact caused.answered result found
    · intro node member
      rcases fresh node member with earlier | ⟨_, running⟩
      · have before := caused.tokens node earlier
        rw [progress]
        simp only [Progress.running, List.map_append, List.mem_append]
        exact .inl before
      · exact running
    · rw [progress]
      intro node member
      simp only [Progress.running, List.map_append, List.mem_append, List.map_map] at member
      rw [Finset.mem_union, List.mem_toFinset]
      rcases member with before | now
      · exact .inl (caused.admitted node before)
      · exact .inr now
    · rw [control, progress]
      intro node member
      exact Finset.mem_union_left _ (caused.launched node member)
    · rw [progress]
      intro node member
      exact (caused.recorded node member).imp_right fun known => Finset.mem_union_left _ known
    · intro node record found
      rw [progress] at found
      rcases caused.certified node record found with seed | ⟨released, cause⟩
      · exact .inl seed
      · -- A recorded node was admitted before, so it is not among the launched.
        rcases caused.recorded node (AList.lookup_isSome.mp (by rw [found]; rfl)) with seed | known
        · exact .inl seed
        · right
          refine ⟨?_, by rw [control]; exact cause⟩
          intro member
          rcases fresh node member with earlier | ⟨new, _⟩
          · exact released earlier
          · exact new known

end Admission

/-! Passes. -/

/-- The cutoff was observed, the token was seen cancelled, or the controller stopped admission. -/
def Run.Halted : Prop :=
  SchedulerArm.absoluteCutoff ∈ run.control.observedArms ∨
    run.control.rootCancellationPrimary.isSome = true ∨
    ∃ controller, run.policy.controller = some controller ∧ controller.admissionStopped = true

def Run.started : List NodeId := startedNodes (eventsOf run.trace)

/-- Causes stay, and a halted pass starts nothing; neither does one that was stopped or
cancelled when it began to act. -/
structure Moved (before after : Run) : Prop where
  remembers : Remembers before.control after.control
  idle : after.Halted ∨ before.control.stopScheduling = true ∨ before.control.cancelled = true →
    after.started = before.started

theorem Moved.of_events {after : Run} (remembers : Remembers before.control after.control)
    (events : eventsOf after.trace = eventsOf before.trace) : Moved before after :=
  ⟨remembers, fun _ => congrArg startedNodes events⟩

theorem Moved.after {after : Run} (moved : Moved middle after)
    (causal : Causal grounds before.control middle.control)
    (events : eventsOf middle.trace = eventsOf before.trace) : Moved before after := by
  refine ⟨causal.toRemembers.trans moved.remembers, ?_⟩
  intro quiet
  have started : middle.started = before.started := congrArg startedNodes events
  rw [← started]
  apply moved.idle
  rcases quiet with halted | stopped | cancelled
  · exact .inl halted
  · exact .inr (.inl (causal.stopped stopped))
  · exact .inr (.inr (causal.seen cancelled))

theorem published_started (evidence : NodeMap NodeEvidence) (run : Run) (batch : List CompletedNode) :
    (run.published evidence batch).started = run.started := by
  simp only [Run.started, startedNodes, published_events, marks_of_append, started_in_append,
    marks_of_finishes, started_in_finishes, List.append_nil]

theorem scheduled_started (stopped : run.control.stopScheduling = true) :
    (run.schedule inv).started = run.started := by
  have stay : run.schedule inv = run := by
    simp [Run.schedule, scheduleReady, stopped, Run.emit]
  rw [stay]

theorem reopened_stopped (turn : Turn) (control : Control)
    (cancelled : (control.reopened turn).cancelled = true) :
    (control.reopened turn).stopScheduling = true := by
  simp only [Control.reopened] at cancelled ⊢
  split
  · rfl
  · rename_i running
    rw [if_neg running] at cancelled
    exact absurd cancelled running

section Passes

variable {inv : Invocation} {turn : Turn} {run : Run}

variable {start : Run} {ready : List Ready}

/-- A run that has gone on from `start` with its causes. -/
abbrev GoesFrom (grounds : Grounds) (inv : Invocation) (start after : Run) : Prop :=
  Caused grounds inv after.progress.running after ∧ Moved start after

abbrev StopsFrom (grounds : Grounds) (inv : Invocation) (start after : Run) : Prop :=
  Closed grounds inv after ∧ Moved start after

section

variable (unique : inv.graph.ids.Nodup) (causal : Causal grounds start.control run.control)
  (events : eventsOf run.trace = eventsOf start.trace)
  (caused : Caused grounds inv run.progress.running run)

include unique causal events caused

theorem Caused.releases (announced : turn.Announced grounds.arrived) :
    Releases inv turn (GoesFrom grounds inv start) (StopsFrom grounds inv start) run := by
  refine ⟨fun _ => ⟨caused, Moved.of_events causal.toRemembers events⟩, ?_, fun _ => ?_⟩
  · intro _ early _ _
    obtain ⟨control, _, _, _, _, terminals, _⟩ :=
      published_parts run.retained.evidence run.emptied early
    have stays : Causal grounds run.control
        (run.emptied.published run.retained.evidence early).control := by
      rw [control]
      exact Causal.refl _
    have moved : Moved run (run.emptied.published run.retained.evidence early) :=
      ⟨stays.toRemembers, fun _ => published_started run.retained.evidence run.emptied early⟩
    exact ⟨caused.closed stays terminals, moved.after causal events⟩
  · obtain ⟨control, policy, _, scheduled, inflight, terminals, _⟩ := flushed_parts run
    have follows : Follows grounds run (run.reopened turn) := by
      apply Follows.of_controller
      · simp only [Run.reopened]
        rw [control]
        exact Causal.reopened _ announced
      · simp only [Run.reopened]
        rw [policy]
        exact fun controller found => ⟨controller, found, rfl⟩
      · simp only [Run.Answered, Run.reopened]
        rw [policy]
        exact id
    have running : (run.reopened turn).progress.running = run.progress.running :=
      congrArg (List.map fun flight : Flight => flight.node.id) inflight
    have reopened : Caused grounds inv (run.reopened turn).progress.running (run.reopened turn) := by
      rw [running]
      exact caused.follows follows scheduled terminals
    have closed : (run.reopened turn).control.cancelled = true →
        (run.reopened turn).control.stopScheduling = true := reopened_stopped turn _
    have started : (run.reopened turn).started = run.started :=
      published_started run.retained.evidence run.emptied run.retained.sorted
    change GoesFrom grounds inv start ((run.reopened turn).schedule inv)
    obtain ⟨⟨tokens, terminalizers, launched⟩, _⟩ := schedule_launches inv (run.reopened turn)
    refine ⟨reopened.schedule unique ?_, Moved.after ⟨?_, ?_⟩ causal events⟩
    · -- A root cause comes with a cancelled token, which stops admission.
      intro unstopped primary root
      have cancelled := reopened.attributed.rooted (by rw [root]; rfl)
      rw [closed cancelled] at unstopped
      cases unstopped
    · rw [launched]
      exact ⟨follows.control.kept, follows.control.root, follows.control.seen⟩
    · intro quiet
      rw [← started]
      apply scheduled_started
      rcases quiet with halted | stopped | cancelled
      · rw [Run.Halted, launched, (schedule_schedules inv (run.reopened turn) unique).policy] at halted
        rcases halted with cutoff | root | ⟨controller, found, stopped⟩
        · exact reopened.attributed.cut cutoff
        · exact closed (reopened.attributed.rooted root)
        · exact reopened.barred controller found stopped
      · exact follows.control.stopped stopped
      · exact closed (follows.control.seen cancelled)

theorem finalize_caused (beforeWait : Bool) (backed : Backed grounds inv turn)
    (certified : ∀ entry ∈ settled,
      run.control.Certifies grounds.arrived entry.completed.node entry.terminal.primary)
    (known : ∀ entry ∈ settled, entry.completed.node ∈ run.progress.scheduled) :
    Ensured
      (fun answer final => Releases inv turn (GoesFrom grounds inv start)
        (StopsFrom grounds inv start) (final.holding answer.2 settled answer.1))
      (fun _ => StopsFrom grounds inv start)
      (finalizeReady inv turn beforeWait settled run) := by
  refine (ensured_and (finalize_ready_records inv beforeWait settled run backed)
    (finalize_ready_finalizes inv turn beforeWait settled run)).weaken ?_ ?_
  · rintro ⟨evidence, action⟩ final ⟨recording, finalizing⟩
    have acting : Follows grounds final (final.holding action settled evidence) :=
      Follows.of_controller (Causal.apply_action _ _ recording.forces)
        (fun controller found => ⟨controller, found, rfl⟩) id
    have held := (caused.records recording certified known).follows acting rfl rfl
    have running : run.progress.running =
        (final.holding action settled evidence).progress.running := by
      obtain ⟨terminals, progress, _⟩ := recording.records
      change _ = final.progress.running
      rw [progress]
      rfl
    rw [running] at held
    exact held.releases unique (causal.trans (recording.follows.trans acting).control)
      (finalizing.events.trans events) backed.announced
  · rintro _ after ⟨recording, frame⟩
    exact ⟨caused.closed recording (congrArg Progress.nodeTerminals frame.progress),
      (Moved.of_events recording.toRemembers frame.events).after causal events⟩

end

/-- The nodes that were running before a drained batch: those that still run, and the batch. -/
structure Drained (jobs : List NodeId) (run : Run) (ready : List Ready) : Prop where
  split : ∀ node ∈ jobs, node ∈ run.progress.running ∨ ∃ entry ∈ ready, entry.flight.node.id = node
  running : ∀ node ∈ run.progress.running, node ∈ jobs
  batch : ∀ entry ∈ ready, entry.flight.node.id ∈ jobs

theorem process_caused {beforeWait : Bool} {arm : SchedulerArm} {late : List NodeId}
    (unique : inv.graph.ids.Nodup) (backed : Backed grounds inv turn)
    (timed : arm = .absoluteCutoff → grounds.active)
    (seen : ∀ entry ∈ ready, entry.completion.cancelSeen = true → grounds.arrived)
    (allowed : arm.Allowed run.control) (caused : Caused grounds inv jobs run)
    (drained : Drained jobs run ready) :
    Ensured (fun _ => GoesFrom grounds inv run) (fun _ => StopsFrom grounds inv run)
      (process inv turn beforeWait arm ready late run) := by
  have frames : Ensured (fun _ after => Frame run after) (fun _ after => Frame run after)
      (act inv turn arm run) :=
    (act_phase inv turn arm run allowed).weaken (fun _ _ phase => phase.1.toFrame)
      (fun _ _ frame => frame)
  refine process_ensured ((ensured_and
    (act_follows inv run arm backed.announced timed caused.answered allowed) frames).weaken ?_ ?_)
  · rintro _ acted ⟨acting, frames⟩
    have standing := caused.frame acting frames
    have running : acted.progress.running = run.progress.running := by
      rw [frames.progress]
    refine ⟨fun empty _ => ⟨standing.shrink ?_ ?_,
      Moved.of_events acting.control.toRemembers frames.events⟩, ?_⟩
    · -- Nothing was drained, so the jobs are the running nodes.
      intro node member
      rw [running]
      rcases drained.split node (standing.tokens node member) with runs | ⟨entry, among, _⟩
      · exact runs
      · rw [empty] at among
        cases among
    · rw [running]
      exact drained.running
    · refine (ensured_and (settle_ready_settles inv late ready acted seen)
        (settle_ready_answers inv late ready acted)).weaken ?_ ?_
      · rintro settled resting ⟨⟨causal, released, certified⟩, onward, answers⟩
        have frame := onward.frame
        have follows : Follows grounds acted resting := by
          rw [onward.only]
          exact Follows.of_control causal
        have still : resting.progress.running = run.progress.running := by
          rw [frame.progress, running]
        have settled_caused : Caused grounds inv resting.progress.running resting := by
          apply (standing.frame follows frame).shrink
          · intro node member
            rw [still]
            -- A token outside the running nodes would be one of the batch, which is released.
            rcases drained.split node (standing.tokens node (causal.running node member)) with
              runs | ⟨entry, among, rfl⟩
            · exact runs
            · exact absurd member (released entry among)
          · rw [still]
            exact drained.running
        have known : ∀ entry ∈ settled, entry.completed.node ∈ resting.progress.scheduled := by
          intro entry member
          have among : entry.completed.node ∈ ready.map fun entry => entry.flight.node.id :=
            answers_nodes answers ▸ List.mem_map.mpr ⟨entry, member, rfl⟩
          obtain ⟨source, inside, same⟩ := List.mem_map.mp among
          rw [frame.progress, frames.progress, ← same]
          exact caused.admitted _ (drained.batch source inside)
        exact finalize_caused unique (acting.control.trans causal)
          (frame.events.trans frames.events) settled_caused beforeWait backed
          (certified standing.attributed) known
      · rintro _ after ⟨settling, onward⟩
        have frame := onward.frame
        exact ⟨standing.closed settling (congrArg Progress.nodeTerminals frame.progress),
          (Moved.of_events settling.toRemembers frame.events).after acting.control frames.events⟩
  · rintro _ after ⟨acting, frames⟩
    exact ⟨caused.closed acting.control (congrArg Progress.nodeTerminals frames.progress),
      Moved.of_events acting.control.toRemembers frames.events⟩

/-! The wait of a pass. -/

variable {received : Received}

theorem receive_completions (heard : receive inv turn run = some received) :
    (received.ready.map Ready.completion).Perm turn.completions ∧
      ∀ entry ∈ received.ready, entry.flight.node.id = entry.completion.node := by
  cases receive_heard heard with
  | @batch first rest ready left signal taken =>
    obtain ⟨_, answered, nodes⟩ := take_ready_perm taken
    have sorted : (drain inv turn (run.drawn turn left) (impossibilityProved inv run)
        ready).ready.Perm ready := by
      by_cases active : inv.schedulerActive = true
      · rw [drain_active active]
        exact List.perm_insertionSort _ _
      · rw [drain_inactive active]
        exact List.perm_insertionSort _ _
    refine ⟨?_, fun entry member => nodes entry (sorted.mem_iff.mp member)⟩
    simp only [Turn.completions, signal]
    rw [← answered]
    exact sorted.map Ready.completion
  | result signal sent | control signal active enabled => simp [Turn.completions, signal]

/-- A pass that drains completions reads the clock at or after the cutoff. -/
def Turn.ReadsCutoff (inv : Invocation) (turn : Turn) : Prop :=
  turn.completions ≠ [] ∧ inv.schedulerActive = true ∧
    inv.isDue inv.schedulerWorkCutoffMs turn.cutoffClockMs = true

theorem winner_with_cutoff (readiness : SchedulerArbitrationReadiness) (facts : SchedulerTieFacts)
    (reached : readiness.absoluteCutoffReached = true) :
    (arbitrateScheduler readiness facts).winner ∈
      [SchedulerArm.drainReadyNodeCompletions, .durableTriggerBarrierAcknowledgements,
        .workflowOrExternalCancellation, .fixedGraceExpiry, .absoluteCutoff] := by
  simp only [arbitrateScheduler, SCHEDULER_ARM_PRIORITY_V1, List.find?]
  repeat' split
  all_goals simp_all [SchedulerArm.isReady]

section

variable (governed : Governed run) (barred : run.Barred)

include governed barred

theorem stopped_of_triggered
    (triggered : run.policy.Triggered) : run.control.stopScheduling = true := by
  obtain ⟨controller, found, trigger⟩ := triggered
  exact barred controller found ((governed.controller controller found).triggered trigger)

/-- Whatever arm such a pass acts on, it is stopped or cancelled. -/
theorem drain_reads_cutoff {proved : Bool} (active : inv.schedulerActive = true)
    (due : inv.isDue inv.schedulerWorkCutoffMs turn.cutoffClockMs = true)
    (attributed : (drain inv turn run proved ready).run.control.Attributed grounds) :
    (drain inv turn run proved ready).run.control.stopScheduling = true ∨
      (drain inv turn run proved ready).run.control.cancelled = true := by
  rw [drain_active active] at attributed ⊢
  have later := arbitration_later inv turn (run.polled inv turn) proved ready False
  set decision := arbitrationOf inv turn (run.polled inv turn) proved ready
  have polling : Governed (run.polled inv turn) :=
    (governed.of_control (poll_controller inv _ _) (fun out => (poll_out inv _ _) ▸ out)
      (Control.Later.sample run.control _)).1
  have polled : (run.polled inv turn).Barred := by
    intro controller found stopped
    rw [show (run.polled inv turn).policy.controller = run.policy.controller from
      poll_controller inv _ _] at found
    exact barred controller found stopped
  by_cases observed : SchedulerArm.absoluteCutoff ∈ run.control.observedArms
  · exact .inl (attributed.cut (later.arms observed))
  · obtain ⟨readiness, known⟩ : ∃ readiness : SchedulerArbitrationReadiness, readiness =
      { readinessOf inv turn (run.polled inv turn) proved with
        readyNodeCompletions := [] ++ ready.map Ready.observed } := ⟨_, rfl⟩
    have reached : readiness.absoluteCutoffReached = true := by
      rw [known]
      simp only [readinessOf, Bool.and_eq_true, decide_eq_true_eq]
      exact ⟨observed, due⟩
    have winner := winner_with_cutoff readiness (tieFactsOf inv (run.polled inv turn)) reached
    have eligible := winner_is_ready readiness (tieFactsOf inv (run.polled inv turn))
    have same : decision.winner =
        (arbitrateScheduler readiness (tieFactsOf inv (run.polled inv turn))).winner := by
      rw [known]
      rfl
    have applied : decision.winner = .drainReadyNodeCompletions ∨
        decision.winner = .absoluteCutoff → ((run.polled inv turn).control.applyArbitration inv
          turn.armClockMs decision).stopScheduling = true := by
      intro ties
      have cut : decision.cutoffApplied = true := by
        change ((readinessOf inv turn (run.polled inv turn) proved).absoluteCutoffReached &&
          (decision.winner == .drainReadyNodeCompletions ||
            decision.winner == .absoluteCutoff)) = true
        rw [known] at reached
        rw [Bool.and_eq_true]
        refine ⟨reached, ?_⟩
        rcases ties with drains | cuts
        · rw [drains]
          rfl
        · rw [cuts]
          rfl
      simp only [Control.applyArbitration, cut, if_true]
      rfl
    rw [← same] at winner eligible
    simp only [List.mem_cons, List.not_mem_nil, or_false] at winner
    rcases winner with drains | acknowledges | cancels | expires | cuts
    · exact .inl (applied (.inl drains))
    · left
      apply later.kept
      apply stopped_of_triggered polling polled
      apply polling.barrier
      rw [acknowledges, known] at eligible
      simp only [SchedulerArm.isReady, readinessOf] at eligible
      simp [Policy.isOut, eligible]
    · right
      apply later.cancelled
      rw [cancels, known] at eligible
      exact (Bool.and_eq_true_iff.mp eligible).1
    · left
      apply later.kept
      apply stopped_of_triggered polling polled
      apply polling.grace
      rw [expires, known] at eligible
      simp only [SchedulerArm.isReady, readinessOf] at eligible
      cases armed : (run.polled inv turn).control.fixedGraceDueMs with
      | none =>
        rw [armed] at eligible
        cases eligible
      | some bound => rfl
    · exact .inl (applied (.inr cuts))

theorem receive_reads_cutoff (reads : turn.ReadsCutoff inv) (rests : Rests grounds inv run turn)
    (attributed : run.control.Attributed grounds)
    (heard : receive inv turn run = some received) :
    received.run.control.stopScheduling = true ∨ received.run.control.cancelled = true := by
  obtain ⟨drains, active, due⟩ := reads
  have standing := (receive_follows rests heard).control.attributed attributed
  cases receive_heard heard with
  | @batch _ _ _ left signal taken =>
    refine drain_reads_cutoff (drawn_governed left governed).1 ?_ active due standing
    intro controller found stopped
    exact ((Causal.sample run.control rests.announced.duringWait).trans
      (Causal.observe _)).stopped (barred controller found stopped)
  | result signal sent | control signal active enabled => simp [Turn.completions, signal] at drains

end

theorem receive_timed (timed : inv.schedulerActive = true → grounds.active)
    (heard : receive inv turn run = some received) (cuts : received.arm = .absoluteCutoff) :
    grounds.active := by
  apply timed
  cases receive_heard heard with
  | batch signal taken =>
    by_cases active : inv.schedulerActive = true
    · exact active
    · rw [drain_inactive active] at cuts
      cases cuts
  | result signal sent => cases cuts
  | control signal active enabled => exact active

theorem pass_caused (unique : inv.graph.ids.Nodup) (rests : Rests grounds inv run turn)
    (caused : Caused grounds inv run.progress.running run)
    (heard : receive inv turn (run.waiting turn) = some received) :
    Ensured (fun _ => GoesFrom grounds inv received.run)
      (fun _ => StopsFrom grounds inv received.run) (received.pass inv turn run) := by
  have hears := receive_receives heard
  obtain ⟨left, progress, taken⟩ := hears.progress
  have moved := taken.map fun flight => flight.node.id
  rw [List.map_append, List.map_map] at moved
  have running : received.run.progress.running = left.map fun flight => flight.node.id := by
    rw [progress]
    rfl
  have standing : Caused grounds inv run.progress.running received.run := by
    apply caused.follows ((waiting_follows rests.announced).trans
      (receive_follows (rests.of_barrier rfl) heard))
    · rw [progress]
      rfl
    · rw [progress]
      rfl
  apply process_caused unique rests.toBacked (receive_timed rests.timed heard) ?_ hears.allowed
    standing
  · constructor
    · intro node member
      rw [running]
      rcases List.mem_append.mp (moved.mem_iff.mpr member) with still | batch
      · exact .inl still
      · obtain ⟨entry, inside, same⟩ := List.mem_map.mp batch
        exact .inr ⟨entry, inside, same⟩
    · rw [running]
      intro node member
      exact moved.mem_iff.mp (List.mem_append_left _ member)
    · intro entry member
      exact moved.mem_iff.mp (List.mem_append_right _ (List.mem_map.mpr ⟨entry, member, rfl⟩))
  · intro entry member
    apply rests.announced.completion
    exact (receive_completions heard).1.mem_iff.mp (List.mem_map.mpr ⟨entry, member, rfl⟩)

end Passes

end A2aBridge.Workflow
