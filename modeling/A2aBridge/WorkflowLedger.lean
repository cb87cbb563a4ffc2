import A2aBridge.JobLedger
import A2aBridge.WorkflowPasses

/-!
The scheduler refines a ledger of jobs: the nodes in flight are its running jobs, the
completions held back its held ones, the nodes done its settled ones, and the events of the
stream its log. Receiving a batch is a completion, publication publishes everything held, and
a scheduling pass enrolls the ready nodes; so every run keeps a lawful ledger, and the final
sweep closes it.
-/

namespace A2aBridge.Workflow

open StatefulRefusal JobLedger Invocation WorkflowEvent

def markOf : WorkflowEvent → Option (Mark NodeId)
  | .nodeStarted node => some (.started node)
  | .nodeFinished node .. => some (.finished node)
  | .cleanupObserved .. | .terminal .. => none

def marksOf : List WorkflowEvent → List (Mark NodeId) := List.filterMap markOf

@[simp] theorem marks_of_append (left right : List WorkflowEvent) :
    marksOf (left ++ right) = marksOf left ++ marksOf right := List.filterMap_append

@[simp] theorem marks_of_starts (nodes : List NodeId) :
    marksOf (nodes.map nodeStarted) = nodes.map Mark.started := by
  simp [marksOf, markOf, Function.comp_def]

@[simp] theorem marks_of_finishes (evidence : NodeMap NodeEvidence) (batch : List CompletedNode) :
    marksOf (batch.map fun completed => finishedEvent completed (evidence.lookup completed.node)) =
      (batch.map CompletedNode.node).map Mark.finished := by
  simp [marksOf, markOf, finishedEvent, Function.comp_def]

def Run.log (run : Run) : List (Mark NodeId) := marksOf (eventsOf run.trace)

def Retained.nodes (retained : Retained) : List NodeId := retained.completed.map CompletedNode.node

def Progress.running (progress : Progress) : List NodeId :=
  progress.inflight.map fun flight => flight.node.id

def Run.ledger (run : Run) : Ledger NodeId where
  admitted := run.progress.scheduled
  running := run.progress.running
  held := run.retained.nodes
  settled := run.progress.done
  log := run.log

namespace Invocation

variable (inv : Invocation)

def Needs (node input : NodeId) : Prop :=
  ∃ entry ∈ inv.graph.nodes, entry.id = node ∧ input ∈ entry.inputs

def Seeded (node : NodeId) : Prop := node ∈ inv.seed.keys.toFinset

end Invocation

/-- Only nodes are announced before the end of the stream. -/
def WorkflowEvent.isNodeEvent : WorkflowEvent → Bool
  | .nodeStarted _ | .nodeFinished .. => true
  | .cleanupObserved .. | .terminal .. => false

structure Tracked (inv : Invocation) (run : Run) : Prop where
  lawful : Lawful inv.Needs inv.Seeded run.ledger
  plain : (eventsOf run.trace).all WorkflowEvent.isNodeEvent = true
  known : ∀ node ∈ run.progress.scheduled, node ∈ inv.graph.ids
  recorded : ∀ node, node ∈ run.progress.nodeTerminals ↔
    node ∈ inv.seedTerminals ∨ node ∈ run.retained.nodes ∨ node ∈ finishedIn run.log
  governed : Governed run

/-! Moves. -/

variable {inv : Invocation} {run after : Run} {closing : Closing}
  {controller : Option FanOutController}

theorem Tracked.of_frame (tracked : Tracked inv run)
    (frame : Frame run after) (governed : Governed after) : Tracked inv after := by
  have log : after.log = run.log := congrArg marksOf frame.events
  have held : after.retained.nodes = run.retained.nodes :=
    congrArg (List.map CompletedNode.node) frame.completed
  have ledger : after.ledger = run.ledger := by
    unfold Run.ledger
    rw [frame.progress, log, held]
  refine ⟨ledger ▸ tracked.lawful, frame.events ▸ tracked.plain, ?_, ?_, governed⟩
  · rw [frame.progress]
    exact tracked.known
  · rw [frame.progress, log, held]
    exact tracked.recorded

theorem mem_record (progress : Progress) (terminals : List ReadyNodeTerminal) (node : NodeId) :
    node ∈ (progress.record terminals).nodeTerminals ↔
      node ∈ terminals.map ReadyNodeTerminal.node ∨ node ∈ progress.nodeTerminals := by
  unfold Progress.record
  generalize progress.nodeTerminals = map
  induction terminals generalizing map with
  | nil => simp
  | cons first rest ih =>
    rw [List.foldl_cons, ih, AList.mem_insert, List.map_cons, List.mem_cons]
    tauto

variable {settled : List Settled}

theorem answers_nodes {late : List NodeId} {batch : List Ready}
    (answers : List.Forall₂ (Answers inv late) batch settled) :
    settled.map (fun entry => entry.completed.node) = batch.map fun ready => ready.flight.node.id := by
  induction answers with
  | nil => rfl
  | cons first rest ih =>
    obtain ⟨raw, control, rfl⟩ := first
    rw [List.map_cons, List.map_cons, ih]
    rfl

variable {turn : Turn} {received : Received}

section

variable (tracked : Tracked inv run)

include tracked

theorem Tracked.holding {acted holding : Run}
    (holds : Holds turn run received acted settled holding)
    (nodes : settled.map (fun entry => entry.completed.node) = received.ready.map fun ready =>
      ready.flight.node.id) : Tracked inv holding := by
  obtain ⟨left, terminals, progress, taken, records, _⟩ := holds.records
  have log : holding.log = run.log := congrArg marksOf holds.events
  have held : holding.retained.nodes =
      run.retained.nodes ++ settled.map fun entry => entry.completed.node := by
    simp only [Retained.nodes, holds.completed, List.map_append, List.map_map]
    rfl
  have ledger : holding.ledger =
      { run.ledger with
        running := left.map fun flight => flight.node.id
        held := run.retained.nodes ++ settled.map fun entry => entry.completed.node } := by
    unfold Run.ledger
    rw [progress, log, held]
    rfl
  refine ⟨?_, ?_, ?_, ?_, holds.governed⟩
  · rw [ledger]
    apply tracked.lawful.complete
    have moved := taken.map fun flight => flight.node.id
    rw [List.map_append, List.map_map] at moved
    rw [nodes]
    refine List.Perm.trans ?_ (moved.append_right run.retained.nodes)
    rw [List.append_assoc]
    exact (List.perm_append_comm).append_left _
  · exact holds.events ▸ tracked.plain
  · rw [progress]
    exact tracked.known
  · intro node
    rw [progress, mem_record, records.mem_iff, log, held, List.mem_append]
    have before := tracked.recorded node
    tauto

theorem Tracked.flushed :
    Lawful inv.Needs inv.Seeded run.flushed.ledger ∧
      (eventsOf run.flushed.trace).all isNodeEvent = true ∧
      (∀ node ∈ run.flushed.progress.scheduled, node ∈ inv.graph.ids) ∧
      (∀ node, node ∈ run.flushed.progress.nodeTerminals ↔ node ∈ inv.seedTerminals ∨
        node ∈ run.flushed.retained.nodes ∨ node ∈ finishedIn run.flushed.log) := by
  obtain ⟨_, _, retained, scheduled, inflight, terminals, done⟩ := flushed_parts run
  have events := published_events run.retained.evidence run.emptied run.retained.sorted
  change eventsOf run.flushed.trace = _ at events
  have log : run.flushed.log = run.log ++ (run.retained.sorted.map CompletedNode.node).map
      Mark.finished := by
    unfold Run.log
    rw [events, marks_of_append, marks_of_finishes]
    rfl
  have order : (run.retained.sorted.map CompletedNode.node).Perm run.retained.nodes :=
    run.retained.sorted_perm.map _
  have ledger : run.flushed.ledger =
      publish run.ledger (run.retained.sorted.map CompletedNode.node) := by
    unfold Run.ledger JobLedger.publish Progress.running
    rw [scheduled, inflight, done, log, retained]
    rfl
  refine ⟨ledger ▸ tracked.lawful.publish order, ?_, ?_, ?_⟩
  · rw [events, List.all_append, Bool.and_eq_true]
    refine ⟨tracked.plain, ?_⟩
    simp [finishedEvent, isNodeEvent]
  · rw [scheduled]
    exact tracked.known
  · intro node
    rw [terminals, log, retained, finished_in_append, finished_in_finishes, List.mem_append,
      order.mem_iff]
    have before := tracked.recorded node
    tauto

theorem Tracked.schedule (unique : inv.graph.ids.Nodup) : Tracked inv (run.schedule inv) := by
  obtain ⟨lawful, plain, known, recorded, governed⟩ := tracked
  obtain ⟨policy, retained, later, _, nodes, started, progress, trace, announced, chosen⟩ :=
    schedule_schedules inv run unique
  have ready : ∀ node ∈ nodes, node ∈ inv.graph.nodes ∧ run.progress.isReady node = true := by
    intro node member
    rw [chosen] at member
    split at member
    · cases member
    · exact List.mem_filter.mp member
  have events : eventsOf (run.schedule inv).trace =
      eventsOf run.trace ++ started.map nodeStarted := by
    rw [trace, events_of_append]
    congr 1
    simp [eventsOf]
  have log : (run.schedule inv).log = run.log ++ started.map Mark.started := by
    unfold Run.log
    rw [events, marks_of_append, marks_of_starts]
  have ledger : (run.schedule inv).ledger =
      enroll run.ledger (nodes.map WorkflowNode.id) started := by
    unfold Run.ledger enroll Progress.running
    rw [progress, log, retained]
    simp only [List.map_append, List.map_map]
    rfl
  refine ⟨?_, ?_, ?_, ?_, ?_⟩
  · rw [ledger]
    apply lawful.enroll
    · refine List.Nodup.sublist ?_ unique
      rw [chosen]
      split
      · exact List.nil_sublist _
      · exact List.filter_sublist.map WorkflowNode.id
    · intro job member
      obtain ⟨node, among, rfl⟩ := List.mem_map.mp member
      have facts := (ready node among).2
      simp only [Progress.isReady, Bool.and_eq_true, decide_eq_true_eq] at facts
      exact ⟨facts.1.2, facts.1.1⟩
    · rw [announced]
      exact List.filter_sublist.map WorkflowNode.id
    · rintro job member other ⟨entry, present, rfl, input⟩
      rw [announced] at member
      obtain ⟨node, among, same⟩ := List.mem_map.mp member
      have admitted := ready node (List.mem_filter.mp among).1
      have identical := List.inj_on_of_nodup_map unique admitted.1 present same
      subst identical
      have facts := admitted.2
      simp only [Progress.isReady, Bool.and_eq_true, List.all_eq_true, decide_eq_true_eq] at facts
      exact facts.2 other input
  · rw [events, List.all_append, Bool.and_eq_true]
    refine ⟨plain, ?_⟩
    simp [isNodeEvent]
  · rw [progress]
    intro node member
    rcases Finset.mem_union.mp member with old | new
    · exact known node old
    · obtain ⟨entry, among, rfl⟩ := List.mem_map.mp (List.mem_toFinset.mp new)
      exact List.mem_map.mpr ⟨entry, (ready entry among).1, rfl⟩
  · intro node
    rw [progress, retained, log, finished_in_append, finished_in_starts, List.append_nil]
    exact recorded node
  · exact (governed.of_control (by rw [policy]) (by rw [policy]; exact id) (later _)).1

theorem Tracked.pass (unique : inv.graph.ids.Nodup)
    (heard : receive inv turn (run.waiting turn) = some received)
    (passed : received.pass inv turn run = .ok () after) : Tracked inv after := by
  obtain ⟨acted, acting, processed⟩ := process_ok passed
  have acts := acts_of_heard tracked.governed heard acting
  cases processed with
  | quiet empty _ => exact tracked.of_frame (acts.undrained empty) acts.governed
  | held onward answers finalized _ =>
    exact tracked.holding (holds_of_finalized acts onward finalized) (answers_nodes answers)
  | published onward answers finalized _ =>
    have holding := tracked.holding (holds_of_finalized acts onward finalized)
      (answers_nodes answers)
    obtain ⟨lawful, plain, known, recorded⟩ := holding.flushed
    exact Tracked.schedule
      ⟨lawful, plain, known, recorded, (reopened_governed turn holding.governed).1⟩ unique

end

/-! Opening a run. -/

theorem map_error_bind_ok {ε δ α β : Type} {answer : Except ε α} {wrap : ε → δ}
    {next : α → Except δ β} {value : β} (holds : (answer.mapError wrap >>= next) = .ok value) :
    ∃ middle, answer = .ok middle ∧ next middle = .ok value := by
  cases answer with
  | error failure => cases holds
  | ok middle => exact ⟨middle, rfl, holds⟩

theorem prepare_ok (prepared : inv.prepare = .ok run) :
    ∃ controller, inv.checkResume = .ok () ∧ inv.checkSeed = .ok () ∧
      inv.openController = .ok controller ∧ run = inv.openRun controller := by
  obtain ⟨_, resume, prepared⟩ := map_error_bind_ok prepared
  obtain ⟨_, _, prepared⟩ := map_error_bind_ok prepared
  obtain ⟨_, _, prepared⟩ := map_error_bind_ok prepared
  obtain ⟨_, seed, prepared⟩ := map_error_bind_ok prepared
  obtain ⟨_, _, prepared⟩ := map_error_bind_ok prepared
  obtain ⟨controller, opened, prepared⟩ := map_error_bind_ok prepared
  cases prepared
  exact ⟨controller, resume, seed, opened, rfl⟩

theorem open_controller_sound (opened : inv.openController = .ok controller) (cancelled : Prop) :
    ∀ holder, controller = some holder → holder.Sound cancelled ∧
      (inv.stoppedAtOpening controller = true → holder.trigger.isSome = true) ∧
      ∃ authority, inv.authority = some authority ∧ holder.policy = authority.fanOut := by
  unfold openController at opened
  cases frozen : inv.authority with
  | none =>
    rw [frozen] at opened
    cases opened
    simp
  | some authority =>
    rw [frozen] at opened
    have fresh : ∀ holder, some (FanOutController.new authority.fanOut) = some holder →
        holder.Sound cancelled ∧
        (inv.stoppedAtOpening (some (FanOutController.new authority.fanOut)) = true →
          holder.trigger.isSome = true) ∧
        ∃ other, some authority = some other ∧ holder.policy = other.fanOut := by
      intro holder same
      cases same
      refine ⟨FanOutController.new_sound _, ?_, authority, rfl, rfl⟩
      simp [stoppedAtOpening, FanOutController.new]
    cases structured : inv.structuredSeed with
    | none =>
      rw [structured] at opened
      cases opened
      exact fresh
    | some seed =>
      cases committed : seed.policyTrigger with
      | none =>
        simp only [structured, committed] at opened
        split at opened <;> cases opened
        exact fresh
      | some trigger =>
        simp only [structured, committed] at opened
        cases restored : (FanOutController.new authority.fanOut).restoreCommittedTrigger
            authority.attemptId trigger inv.seedTerminals inv.nodeRefs with
        | error failure => rw [restored] at opened; cases opened
        | ok after =>
          rw [restored] at opened
          cases opened
          intro holder same
          cases same
          obtain ⟨dependent, rfl⟩ := FanOutController.restore_cases restored
          exact ⟨⟨fun _ => rfl, fun _ => rfl, fun _ => .inl rfl, fun _ => rfl,
            fun same => absurd same dependent⟩, fun _ => rfl, authority, rfl, rfl⟩

theorem open_governed
    (opened : inv.openController = .ok controller) : Governed (inv.openRun controller) := by
  have sound := open_controller_sound opened (inv.cancelledAtStart = true)
  refine ⟨fun holder found => (sound holder found).1, ?_, ?_, ?_, ?_, ?_⟩
  · intro stopped
    have present : ∃ holder, controller = some holder := by
      cases controller with
      | none => simp [openRun, stoppedAtOpening] at stopped
      | some holder => exact ⟨holder, rfl⟩
    obtain ⟨holder, found⟩ := present
    exact .inr (.inr (.inr ⟨holder, found, (sound holder found).2.1 stopped⟩))
  · intro primary holds
    simp only [openRun] at holds
    split at holds
    · exact .inl (Option.some.inj holds).symm
    · cases holds
  · intro attributed
    exact absurd rfl attributed
  · nofun
  · nofun

theorem mem_seed_terminals (node : NodeId) :
    node ∈ inv.seedTerminals ↔
      ∃ structured, inv.structuredSeed = some structured ∧ node ∈ structured.nodes.keys := by
  unfold seedTerminals
  cases inv.structuredSeed with
  | none => simp
  | some structured =>
    rw [← AList.lookup_isSome, AList.lookup_to_alist, List.dlookup_isSome]
    simp [List.keys, AList.keys]

theorem seed_recorded (checked : inv.checkResume = .ok ()) (frozen : inv.authority.isSome = true)
    (node : NodeId) : node ∈ inv.seedTerminals ↔ inv.Seeded node := by
  obtain ⟨authority, present⟩ := Option.isSome_iff_exists.mp frozen
  unfold checkResume at checked
  split at checked
  · cases checked
  · rw [mem_seed_terminals, Invocation.Seeded, List.mem_toFinset]
    cases structured : inv.structuredSeed with
    | none =>
      simp only [present, structured] at checked
      split at checked
      · rename_i empty
        rw [List.isEmpty_iff.mp empty]
        simp
      · cases checked
    | some seed =>
      simp only [present, structured] at checked
      split_ifs at checked with differs
      simp only [Bool.or_eq_true, not_or, bne_iff_ne, ne_eq, not_not, List.any_eq_true, not_exists,
        not_and, Bool.not_eq_true] at differs
      have within : seed.nodes.keys ⊆ inv.seed.keys := by
        intro other member
        have known := differs.2 other member
        rw [Option.isNone_eq_false_iff] at known
        exact AList.mem_keys.mp (AList.lookup_isSome.mp known)
      have same : seed.nodes.keys.Perm inv.seed.keys :=
        (seed.nodes.keys_nodup.subperm within).perm_of_length_le (le_of_eq differs.1.symm)
      simp only [Option.some.injEq, exists_eq_left']
      exact same.mem_iff

variable {node : NodeId}

theorem seed_terminal_seeded (checked : inv.checkResume = .ok ())
    (recorded : node ∈ inv.seedTerminals) : inv.Seeded node := by
  by_cases frozen : inv.authority.isSome = true
  · exact (seed_recorded checked frozen node).mp recorded
  · -- Without a frozen authority a structured seed is refused.
    obtain ⟨structured, present, _⟩ := (mem_seed_terminals node).mp recorded
    have absent : inv.authority = none := by simpa using frozen
    unfold checkResume at checked
    rw [absent, present] at checked
    cases checked

theorem Tracked.opened (unique : inv.graph.ids.Nodup)
    (prepared : inv.prepare = .ok run) : Tracked inv (run.schedule inv) := by
  obtain ⟨controller, _, _, opened, rfl⟩ := prepare_ok prepared
  refine Tracked.schedule
    ⟨Lawful.initial inv.seed.keys.toFinset, rfl, nofun, ?_, open_governed opened⟩ unique
  simp [openRun, Retained.nodes, Run.log, eventsOf, marksOf, finishedIn]

/-! The end of a run. -/

inductive Sweeps (inv : Invocation) (run : Run) : Run → Prop where
  | spared : inv.authority = none → run.control.budgetFailure = none → Sweeps inv run run
  | complete : missingNodes inv run = [] → Sweeps inv run run
  | swept (primary : NodePrimaryDisposition) (terminalJson : String) :
      inv.authority.isSome = true ∨ run.control.budgetFailure.isSome = true →
      missingNodes inv run ≠ [] → sweepCause run = some primary →
      canonicalTerminalJson inv.codec (sweepTerminal primary) = .ok terminalJson →
      Sweeps inv run (run.swept primary terminalJson (missingNodes inv run))

/-- A refused sweep has done nothing, or has swept the nodes and miscounted them. -/
theorem sweep_sweeps :
    Ensured (fun _ after => Sweeps inv run after) (fun _ after => after = run ∨ Sweeps inv run after)
      (sweep inv run) := by
  simp only [sweep, get_bind]
  split
  · rename_i owed
    have sweeping : Ensured (fun _ after => Sweeps inv run after) (fun _ after => after = run)
        (sweepAll inv (missingNodes inv run) run) := by
      by_cases none : missingNodes inv run = []
      · rw [none]
        exact .complete none
      · rw [sweep_all_run inv _ run none]
        cases cause : sweepCause run with
        | none => rfl
        | some primary =>
          simp only
          cases encoded : canonicalTerminalJson inv.codec (sweepTerminal primary) with
          | error error => rfl
          | ok terminalJson =>
            exact .swept primary terminalJson (Bool.or_eq_true_iff.mp owed) none cause encoded
    refine (sweeping.weaken (fun _ _ => id) fun _ _ => .inl).bind ?_
    intro _ swept sweeps
    simp only [get_bind]
    split
    · exact .inr sweeps
    · exact sweeps
  · rename_i spared
    simp only [Bool.or_eq_true, not_or, Bool.not_eq_true, Option.isSome_eq_false_iff,
      Option.isNone_iff_eq_none] at spared
    exact .spared spared.1 spared.2

def Run.exiting (closing : Closing) (run : Run) : Run :=
  { run with control := run.control.sampleObserve closing.cancelAtExit }

theorem finish_ensured {post refused : Run → Prop} (stopped : refused (run.exiting closing))
    (ends : ∀ swept, Sweeps inv (run.exiting closing) swept →
      refused swept ∧ post (swept.conclude inv closing)) :
    Ensured (fun _ => post) (fun _ => refused) (finish inv closing run) := by
  refine (sweep_sweeps.weaken (fun _ _ => id) ?_).bind
    fun _ swept sweeps => (ends swept sweeps).2
  rintro _ after (rfl | sweeps)
  · exact stopped
  · exact (ends after sweeps).1

theorem finish_ok (finished : finish inv closing run = .ok () after) :
    ∃ swept, Sweeps inv (run.exiting closing) swept ∧ after = swept.conclude inv closing := by
  have whole : Ensured
      (fun _ after => ∃ swept, Sweeps inv (run.exiting closing) swept ∧
        after = swept.conclude inv closing) (fun _ _ => True) (finish inv closing run) :=
    finish_ensured trivial fun swept sweeps => ⟨trivial, swept, sweeps, rfl⟩
  rw [finished] at whole
  exact whole

theorem Sweeps.events (sweeps : Sweeps inv run after) :
    ∃ nodes, eventsOf after.trace = eventsOf run.trace ++ nodes ∧
      nodes.all isNodeEvent = true ∧
      after.control = run.control ∧
      ((nodes = [] ∧ (missingNodes inv run = [] ∨ inv.authority = none)) ∨
        marksOf nodes = (missingNodes inv run).map Mark.finished) := by
  cases sweeps with
  | spared legacy _ => exact ⟨[], by simp, rfl, rfl, .inl ⟨rfl, .inr legacy⟩⟩
  | complete none => exact ⟨[], by simp, rfl, rfl, .inl ⟨rfl, .inl none⟩⟩
  | swept primary terminalJson owed gaps cause encoded =>
    obtain ⟨control, _, _, _, _, _, trace⟩ :=
      swept_parts primary terminalJson run (missingNodes inv run)
    refine ⟨(missingNodes inv run).map fun node => .nodeFinished node false
      (sweepText node primary) none (some terminalJson) none none, ?_, ?_, control, .inr ?_⟩
    · rw [trace, events_of_append]
      simp [eventsOf]
    · simp [isNodeEvent]
    · simp [marksOf, markOf, Function.comp_def]

theorem missing_nodes_spec (run : Run) (unique : inv.graph.ids.Nodup) :
    (missingNodes inv run).Nodup ∧ ∀ node, node ∈ missingNodes inv run ↔
      node ∈ inv.graph.ids ∧ node ∉ run.progress.nodeTerminals := by
  have order : (missingNodes inv run).Perm (inv.graph.ids.filter fun node =>
      (run.progress.nodeTerminals.lookup node).isNone) := List.perm_insertionSort _ _
  refine ⟨order.nodup_iff.mpr (unique.filter _), ?_⟩
  intro node
  rw [order.mem_iff, List.mem_filter, Option.isNone_iff_eq_none, AList.lookup_eq_none]

/-! The law of the stream. -/

def startedNodes (events : List WorkflowEvent) : List NodeId := startedIn (marksOf events)

def finishedNodes (events : List WorkflowEvent) : List NodeId := finishedIn (marksOf events)

/-- What holds of the events of a run at any moment. -/
structure ScheduleSafe (inv : Invocation) (events : List WorkflowEvent) : Prop where
  started_once : (startedNodes events).Nodup
  finished_once : (finishedNodes events).Nodup
  seeded_silent : ∀ node ∈ inv.seed.keys, node ∉ startedNodes events ∧ node ∉ finishedNodes events
  started_after_inputs : ∀ earlier node later, events = earlier ++ .nodeStarted node :: later →
    node ∉ finishedNodes earlier ∧ ∃ entry ∈ inv.graph.nodes, entry.id = node ∧
      ∀ input ∈ entry.inputs, input ∈ inv.seed.keys ∨ input ∈ finishedNodes earlier

structure ScheduleClosed (inv : Invocation) (events : List WorkflowEvent) : Prop where
  finished_after_start : ∀ earlier node later, events = earlier ++ .nodeStarted node :: later →
    (finishedNodes later).count node = 1 ∧ (finishedNodes events).count node = 1
  frozen_finished : inv.authority.isSome = true → (renderVarsForInput inv.input).isOk = true →
    ∀ node ∈ inv.graph.ids, node ∉ inv.seed.keys → (finishedNodes events).count node = 1
  closing : ∃ body disposition durationMs outcome output,
    events = body ++ [.cleanupObserved disposition durationMs, .terminal outcome output] ∧
      body.all WorkflowEvent.isNodeEvent = true

variable {events : List WorkflowEvent}

theorem started_node_mark {earlier later : List WorkflowEvent}
    (split : events = earlier ++ .nodeStarted node :: later) :
    marksOf events = marksOf earlier ++ .started node :: marksOf later := by
  rw [split, marks_of_append]
  rfl

theorem safe_of_log (started_once : (startedNodes events).Nodup)
    (finished_once : (finishedNodes events).Nodup)
    (silent : ∀ node, inv.Seeded node → node ∉ startedNodes events ∧ node ∉ finishedNodes events)
    (ordered : Ordered inv.Needs inv.Seeded [] (marksOf events))
    (known : ∀ node ∈ startedNodes events, node ∈ inv.graph.ids) : ScheduleSafe inv events := by
  refine ⟨started_once, finished_once, ?_, ?_⟩
  · intro node member
    exact silent node (List.mem_toFinset.mpr member)
  · intro earlier node later split
    have marks := started_node_mark split
    rw [marks, ordered_append] at ordered
    have due := ordered.2.1
    have started : node ∈ startedNodes events := by
      unfold startedNodes
      rw [marks, started_in_append]
      simp [startedIn]
    obtain ⟨entry, present, same⟩ := List.mem_map.mp (known node started)
    refine ⟨due.1, entry, present, same, ?_⟩
    intro input member
    have placed := due.2 input ⟨entry, present, same, member⟩
    exact placed.imp_left List.mem_toFinset.mp

theorem Tracked.safe (tracked : Tracked inv run) : ScheduleSafe inv (eventsOf run.trace) := by
  have lawful := tracked.lawful
  refine safe_of_log lawful.started_once ?_ ?_ lawful.ordered ?_
  · exact (List.nodup_append.mp lawful.distinct).2.1
  · intro node seeded
    constructor
    · intro started
      exact lawful.unseeded node (lawful.started_admitted node started) seeded
    · intro finished
      exact lawful.unseeded node ((lawful.admitted_iff node).mpr (.inr (.inr finished))) seeded
  · intro node started
    exact tracked.known node (lawful.started_admitted node started)

theorem idle_parts (idle : run.isIdle = true) :
    run.progress.inflight = [] ∧ run.retained.completed = [] := by
  simp only [Run.isIdle, Bool.and_eq_true, List.isEmpty_iff] at idle
  exact ⟨idle.1.1.1, idle.2⟩

theorem Tracked.closed {swept : Run} (unique : inv.graph.ids.Nodup)
    (seeds : inv.authority.isSome = true → ∀ node, node ∈ inv.seedTerminals ↔ inv.Seeded node)
    (tracked : Tracked inv run) (idle : run.isIdle = true) (sweeps : Sweeps inv run swept)
    (budget : swept.control.budgetFailure = none) :
    ScheduleSafe inv (eventsOf (swept.conclude inv closing).trace) ∧
      ScheduleClosed inv (eventsOf (swept.conclude inv closing).trace) := by
  obtain ⟨nodes, events, plain, control, marks⟩ := sweeps.events
  obtain ⟨inflight, completed⟩ := idle_parts idle
  have lawful := tracked.lawful
  have resting : run.ledger.running = [] := by
    simp [Run.ledger, Progress.running, inflight]
  have free : run.ledger.held = [] := by
    simp [Run.ledger, Retained.nodes, completed]
  obtain ⟨once, missing⟩ := missing_nodes_spec run unique
  -- The swept nodes: the missing ones of a frozen run, none otherwise.
  obtain ⟨gone, sweeping, within, whole, owed⟩ : ∃ gone : List NodeId,
      marksOf nodes = gone.map Mark.finished ∧ gone.Sublist (missingNodes inv run) ∧
        (inv.authority.isSome = true → gone = missingNodes inv run) ∧
        (gone ≠ [] → inv.authority.isSome = true) := by
    cases frozen : inv.authority with
    | some authority =>
      rcases marks with ⟨rfl, none | legacy⟩ | marks
      · exact ⟨[], rfl, List.nil_sublist _, fun _ => none.symm, fun _ => rfl⟩
      · rw [legacy] at frozen
        cases frozen
      · exact ⟨_, marks, List.Sublist.refl _, fun _ => rfl, fun _ => rfl⟩
    | none =>
      have silent : marksOf nodes = [] := by
        cases sweeps with
        | spared | complete =>
          rw [show nodes = [] by simpa using events]
          rfl
        | swept primary terminalJson owed gaps cause encoded =>
          rw [← control, budget, frozen] at owed
          simp at owed
      exact ⟨[], silent, List.nil_sublist _, by simp, fun some => absurd rfl some⟩
  have unsettled : ∀ node ∈ gone, node ∉ run.ledger.settled := by
    intro node member settled
    have absent := ((missing node).mp (within.subset member)).2
    apply absent
    rw [tracked.recorded]
    rcases (lawful.settled_iff node).mp settled with seeded | finished
    · exact .inl ((seeds (owed (List.ne_nil_of_mem member)) node).mpr seeded)
    · exact .inr (.inr finished)
  have log : marksOf (eventsOf (swept.conclude inv closing).trace) =
      run.ledger.log ++ gone.map Mark.finished := by
    simp only [Run.conclude, events_of_emit]
    rw [events, marks_of_append, marks_of_append, sweeping]
    simp [marksOf, markOf, Run.ledger, Run.log]
  have done := lawful.close resting free (once.sublist within) unsettled
  rw [← log] at done
  have safe : ScheduleSafe inv (eventsOf (swept.conclude inv closing).trace) := by
    refine safe_of_log done.started_once done.finished_once done.seeded_silent done.ordered ?_
    intro node started
    unfold startedNodes at started
    rw [log, started_in_append, started_in_finishes, List.append_nil] at started
    exact tracked.known node (lawful.started_admitted node started)
  refine ⟨safe, ?_, ?_, ?_⟩
  · intro earlier node later split
    have notBefore := (safe.started_after_inputs earlier node later split).1
    have marks := started_node_mark split
    have started : node ∈ startedIn (marksOf (eventsOf (swept.conclude inv closing).trace)) := by
      rw [marks, started_in_append]
      simp [startedIn]
    have finished := done.started_finished node started
    have parts : finishedNodes (eventsOf (swept.conclude inv closing).trace) =
        finishedNodes earlier ++ finishedNodes later := by
      unfold finishedNodes
      rw [marks, finished_in_append]
      rfl
    have whole : (finishedNodes (eventsOf (swept.conclude inv closing).trace)).count node = 1 :=
      List.count_eq_one_of_mem done.finished_once finished
    refine ⟨?_, whole⟩
    rw [parts, List.count_append, List.count_eq_zero.mpr notBefore, Nat.zero_add] at whole
    exact whole
  · intro frozen _ node member unseeded
    apply List.count_eq_one_of_mem done.finished_once
    rw [log, finished_in_append, finished_in_finishes, List.mem_append]
    by_cases recorded : node ∈ run.progress.nodeTerminals
    · rcases (tracked.recorded node).mp recorded with seed | held | finished
      · exact absurd (List.mem_toFinset.mp ((seeds frozen node).mp seed)) unseeded
      · rw [show run.retained.nodes = [] from free] at held
        cases held
      · exact .inl finished
    · right
      rw [whole frozen]
      exact (missing node).mpr ⟨member, recorded⟩
  · refine ⟨eventsOf swept.trace, closing.cleanupDisposition, closing.cleanupMs, _, _,
      events_of_emit _ _, ?_⟩
    rw [events, List.all_append, tracked.plain, plain]
    rfl

def Moment.isFailure : Moment → Bool
  | .failed _ => true
  | .yielded _ | .acknowledged _ => false

theorem fail_unclean {failure : AccountingFailure}
    (clean : (run.fail failure).trace.any Moment.isFailure = false) : False := by
  simp [Run.fail, Moment.isFailure] at clean

theorem budget_of_clean (clean : run.refuseBudget.trace.any Moment.isFailure = false) :
    run.control.budgetFailure = none ∧ run.refuseBudget.trace = run.trace := by
  cases noted : run.control.budgetFailure with
  | none => exact ⟨rfl, by simp [Run.refuseBudget, noted]⟩
  | some failure => simp [Run.refuseBudget, noted, Moment.isFailure] at clean

variable {message : String}

theorem prepare_invalid (rejected : inv.prepare = .error (.invalidInput message)) :
    (renderVarsForInput inv.input).isOk = false := by
  unfold prepare at rejected
  cases resume : inv.checkResume with
  | error error => rw [resume] at rejected; cases rejected
  | ok _ =>
    rw [resume] at rejected
    cases audit : inv.checkAudit with
    | error error => rw [audit] at rejected; cases rejected
    | ok _ =>
      rw [audit] at rejected
      cases rendered : renderVarsForInput inv.input with
      | error text => rfl
      | ok vars =>
        rw [rendered] at rejected
        cases seed : inv.checkSeed with
        | error error => rw [seed] at rejected; cases rejected
        | ok _ =>
          rw [seed] at rejected
          cases identified : inv.identify with
          | error error => rw [identified] at rejected; cases rejected
          | ok refs =>
            rw [identified] at rejected
            cases opened : inv.openController with
            | error | ok => rw [opened] at rejected; cases rejected

theorem tracked_rule (unique : inv.graph.ids.Nodup) :
    LoopRule inv (fun _ _ => True)
      (fun run => (inv.checkResume = .ok ()) ∧ Tracked inv run)
      (fun run => run.trace.any Moment.isFailure = false →
        ScheduleSafe inv (eventsOf run.trace) ∧ ScheduleClosed inv (eventsOf run.trace)) where
  opens := by
    intro run prepared
    obtain ⟨controller, resume, _⟩ := prepare_ok prepared
    exact ⟨resume, Tracked.opened unique prepared⟩
  refuses := by
    nofun
  rejects := by
    intro message rejected _
    have silent : ∀ earlier node later, [cleanupObserved .notNeeded 0,
        .terminal .failed message] ≠ earlier ++ .nodeStarted node :: later := by
      intro earlier node later split
      have marks : [] = marksOf earlier ++ .started node :: marksOf later := started_node_mark split
      simp at marks
    refine ⟨⟨List.nodup_nil, List.nodup_nil, ?_, ?_⟩, ?_, ?_, ?_⟩
    · intro node _
      exact ⟨List.not_mem_nil, List.not_mem_nil⟩
    · intro earlier node later split
      exact absurd split (silent earlier node later)
    · intro earlier node later split
      exact absurd split (silent earlier node later)
    · intro _ renders
      rw [prepare_invalid rejected] at renders
      cases renders
    · exact ⟨[], _, _, _, _, rfl, rfl⟩
  passes := fun turn run received after live _ _ heard passed =>
    ⟨live.1, live.2.pass unique heard passed⟩
  fails := fun _ _ _ _ _ _ _ _ _ _ clean => (fail_unclean clean).elim
  closes := by
    rintro turn run after ⟨resume, tracked⟩ _ idle finished clean
    obtain ⟨swept, sweeps, rfl⟩ := finish_ok finished
    obtain ⟨budget, trace⟩ := budget_of_clean clean
    have phase : Phase run ((run.headed turn).exiting turn.closing) :=
      Phase.of_control ((Control.Later.head _ _).trans (Control.Later.sample_observe _ _))
    have exiting := tracked.of_frame phase.toFrame (phase.governed tracked.governed).1
    rw [trace]
    exact exiting.closed unique (fun frozen => seed_recorded resume frozen) idle sweeps budget
  breaks := fun _ _ _ _ _ _ _ _ clean => (fail_unclean clean).elim

/-- The scheduling law: at every moment of a run without an error item nodes start once and
after their inputs, and finish at most once; and the whole stream finishes every started
node, in a frozen run every node outside the seed, and ends with its cleanup and its terminal
event. A frozen run whose input does not render ends before anything is scheduled. -/
theorem scheduling_law (inv : Invocation) (valid : inv.graph.validate = .ok ()) (turns : List Turn)
    (clean : (runTurns inv turns).run.trace.any Moment.isFailure = false) :
    ScheduleSafe inv (eventsOf (runTurns inv turns).run.trace) ∧
      ((runTurns inv turns).ended = true →
        ScheduleClosed inv (eventsOf (runTurns inv turns).run.trace)) := by
  have holds := (tracked_rule (validate_well_formed valid).unique).run turns
    guarded_true
  unfold Machine.Holds at holds
  cases ended : (runTurns inv turns).ended with
  | true =>
    rw [ended, if_pos rfl] at holds
    exact ⟨(holds clean).1, fun _ => (holds clean).2⟩
  | false =>
    rw [ended, if_neg Bool.false_ne_true] at holds
    exact ⟨holds.2.safe, fun alive => by cases alive⟩

/-! A run of two roots that feed one node, under frozen authority. -/

def sampleNode (id : NodeId) (inputs : List NodeId) : WorkflowNode where
  id := id
  agent := "agent"
  promptTemplate := "go"
  inputs := inputs
  harvestSanitization := none

def sampleGraph : WorkflowGraph where
  id := "sample"
  nodes := [sampleNode "a" [], sampleNode "b" [], sampleNode "c" ["a", "b"]]
  weights := none

/-- A character as `serde_json` writes it in a string. -/
def jsonChar (c : Char) : String :=
  match c.toNat with
  | 8 => "\\b"
  | 9 => "\\t"
  | 10 => "\\n"
  | 12 => "\\f"
  | 13 => "\\r"
  | 34 => "\\\""
  | 92 => "\\\\"
  | code =>
    if code < 32 then
      "\\u00" ++ String.ofList [Nat.digitChar (code / 16), Nat.digitChar (code % 16)]
    else c.toString

def jsonQuote (text : String) : String := "\"" ++ text ++ "\""

def jsonString (text : String) : String := jsonQuote (String.join (text.toList.map jsonChar))

def jsonOption {α : Type} (write : α → String) (value : Option α) : String :=
  (value.map write).getD "null"

def jsonObject (fields : List (String × String)) : String :=
  "\x7b" ++ ",".intercalate (fields.map fun field => jsonQuote field.1 ++ ":" ++ field.2) ++ "\x7d"

/-- A constructor by its name in snake case. -/
def jsonName (names : List String) (index : Nat) : String := jsonQuote (names.getD index "")

def jsonCause (cause : NodeCause) : String :=
  jsonObject [("failure_class", jsonName ["config", "authentication", "model", "protocol",
      "transport", "agent_process", "container_runtime", "container_image", "container_network",
      "container_mount", "container_credentials", "timeout", "overloaded", "quota_exhausted",
      "region_restricted", "billing_failure", "rate_limited", "provider_limit", "persistence",
      "canceled", "unknown"] cause.failureClass.ctorIdx),
    ("code", jsonString cause.code), ("deepest_cause", jsonOption jsonString cause.deepestCause),
    ("cause_truncated", toString cause.causeTruncated),
    ("evidence_overflow", toString cause.evidenceOverflow),
    ("dependency_set", jsonOption (fun set => jsonObject [("count", toString set.count),
      ("sorted_node_refs_sha256", jsonString set.sortedNodeRefsSha256)]) cause.dependencySet)]

def jsonTerminal (terminal : NodeTerminal) : String :=
  jsonObject [("schema_version", toString terminal.schemaVersion),
    ("primary", jsonName ["completed", "failed", "timed_out", "canceled_workflow",
      "canceled_policy", "canceled_node", "skipped_dependency", "not_started_policy",
      "interrupted_legacy", "deadline"] terminal.primary.ctorIdx),
    ("cleanup", jsonObject [("disposition", jsonName ["complete", "failed", "not_needed",
        "unknown_legacy"] terminal.cleanup.disposition.ctorIdx),
      ("duration_ms", toString terminal.cleanup.durationMs)]),
    ("cause", jsonOption jsonCause terminal.cause),
    ("prompt_may_have_been_accepted", toString terminal.promptMayHaveBeenAccepted),
    ("degraded_ancestry", toString terminal.degradedAncestry),
    ("policy_trigger_id", jsonOption jsonString terminal.policyTriggerId)]

def jsonTrigger (trigger : PolicyTrigger) : String :=
  jsonObject [("schema_version", toString trigger.schemaVersion), ("id", jsonString trigger.id),
    ("node", jsonObject [("sorted_ordinal", toString trigger.node.sortedOrdinal),
      ("id_sha256", jsonString trigger.node.idSha256)]),
    ("policy", jsonName ["bounded_independent", "fail_fast", "fixed_grace"] trigger.policy.ctorIdx),
    ("grace_ms", jsonOption toString trigger.graceMs)]

def sampleCodec : EvidenceCodec where
  terminalText terminal := some (jsonTerminal terminal)
  triggerText trigger := some (jsonTrigger trigger)
  sanitizeLine line := line
  sha256Hex bytes := String.ofList (bytes.map fun byte => Char.ofNat byte.toNat)

def sampleAuthority (fanOut : FanOutPolicy) (cutoffMs : Nat) : FrozenAuthority where
  graph := sampleGraph
  attemptId := "attempt"
  fanOut := fanOut
  synthesis := .strict
  deadlineActivation := .automaticR2f1b
  effectiveWorkCutoffMs := cutoffMs
  ledgerAdmission := .durablePrimaryTaskStore
  nodeExecutionIdentities := [⟨⟨0, "a"⟩, "agent"⟩, ⟨⟨1, "b"⟩, "agent"⟩, ⟨⟨2, "c"⟩, "agent"⟩]

def sampleInvocation (fanOut : FanOutPolicy) (cutoffMs : Nat) (input : String) : Invocation where
  graph := sampleGraph
  input := input
  seed := ∅
  structuredSeed := none
  authority := some (sampleAuthority fanOut cutoffMs)
  codec := sampleCodec
  floats := ⟨fun _ => "", fun _ _ => ""⟩
  sha := ⟨fun _ => List.replicate 32 0, by simp⟩
  retainsAuditRecords := false
  barrierConfigured := true
  startedMs := 0
  cancelledAtStart := false
  admissionClockMs := 0

def sampleOutput (ok : Bool) : NodeRunOutput where
  output := ⟨"out", ok, none⟩
  disposition := if ok then .completed else .failed
  primaryError := none
  harvest :=
    { turnId := "turn"
      mode := .off
      capability := .unsupported .backendDeclaredIncapable
      producerId := "agent"
      status := .unavailableV1 ⟨"", "", .backendDeclaredIncapable⟩
      origin := .modelText }
  candidateCompletion := false

def sampleCompletion (node : NodeId) (ok : Bool) (readyAtMs : Nat) : Completion where
  node := node
  readyAtMs := readyAtMs
  result := .ok (sampleOutput ok)
  turnId := .ok "turn"
  cleanup := ⟨.notNeeded, 0⟩
  cleanupError := none
  auditError := none
  cancelSeen := false

/-- A turn without cancellation at a clock reading. -/
def sampleTurn (signal : Signal) (poll : Option PolicyTriggerBarrierResult) (clockMs : Nat) : Turn where
  cancelAtHead := false
  cancelBeforeWait := false
  cancelDuringWait := false
  signal := signal
  barrierPoll := poll
  cancelAtArbitration := false
  graceClockMs := clockMs
  cutoffClockMs := clockMs
  noProgressDue := false
  armClockMs := clockMs
  cancelAtAcknowledgement := false
  transfers := []
  cancelAfterTransfer := false
  barrierAnswer := .servedPrimaryCommitted
  publishFailure := fun _ => none
  cancelAfterPublish := false
  cancelBeforeAdmission := false
  admissionClockMs := clockMs
  closing := ⟨false, false, .notNeeded, 0⟩

/-- The record of a node without a cause. -/
def sampleRecord (primary : NodePrimaryDisposition) (triggerId : Option String) : NodeTerminal :=
  ⟨1, primary, ⟨.notNeeded, 0⟩, none, false, false, triggerId⟩

def sampleRun (turns : List Turn) : Machine :=
  runTurns (sampleInvocation .failFast 1000 "task") turns

/-- Both roots complete together, then the node they feed, then the loop is left. -/
def sampleTurns : List Turn :=
  [sampleTurn (.completions (sampleCompletion "a" true 1) [sampleCompletion "b" true 1]) none 1,
    sampleTurn (.completions (sampleCompletion "c" true 2) []) none 2,
    sampleTurn (.control .dueNoProgressSnapshots) none 3]

theorem sample_scheduling_law : (sampleRun sampleTurns).ended = true ∧
    ScheduleClosed (sampleInvocation .failFast 1000 "task")
      (eventsOf (sampleRun sampleTurns).run.trace) := by
  unfold sampleRun
  have ended : (runTurns (sampleInvocation .failFast 1000 "task") sampleTurns).ended = true := by
    decide +kernel
  refine ⟨ended, (scheduling_law (sampleInvocation .failFast 1000 "task") rfl sampleTurns ?_).2 ended⟩
  decide +kernel

/-- An input that is not a well-formed task specification ends a frozen run before any node
is scheduled, without an error item. -/
theorem unrendered_run_finishes_no_node :
    ¬ ∀ (inv : Invocation), inv.graph.validate = .ok () → ∀ turns : List Turn,
      (runTurns inv turns).run.trace.any Moment.isFailure = false →
      (runTurns inv turns).ended = true → inv.authority.isSome = true →
      ∀ node ∈ inv.graph.ids, node ∉ inv.seed.keys →
        (finishedNodes (eventsOf (runTurns inv turns).run.trace)).count node = 1 := by
  intro law
  have counted := law (sampleInvocation .failFast 1000 "---\n") rfl [] (by decide +kernel)
    (by decide +kernel) rfl "a" (by decide +kernel) (by decide +kernel)
  revert counted
  decide +kernel

end A2aBridge.Workflow
