import A2aBridge.WorkflowPhases
import Mathlib.Data.Finset.Lattice.Lemmas

/-!
The phases that move completions: a batch at the fan-out controller, publication, the
admission of ready nodes and the final sweep. As in the module before it, each phase has one
lemma that says what it changes.
-/

namespace A2aBridge.Workflow

open StatefulRefusal

/-! The batch at the fan-out controller. -/

theorem mark_selected_nodes {id : String} {batch marked : List ReadyNodeTerminal} {selected : NodeId}
    (chosen : markSelected id batch = some (selected, marked)) :
    marked.map ReadyNodeTerminal.node = batch.map ReadyNodeTerminal.node := by
  obtain ⟨early, ready, late, rfl, -, -, -, rfl⟩ := mark_selected_split chosen
  simp

/-- What meeting the barrier changes: the control state moves on, and a barrier awaited in
place is answered by the controller. -/
structure Meets (controller : FanOutController) (run after : Run) : Prop extends Frame run after where
  retained : after.retained = run.retained
  later : ∀ triggered, Control.Later triggered run.control after.control
  controller : ∃ held, after.policy.controller = some held ∧ held.policy = controller.policy ∧
    held.trigger = controller.trigger ∧ ∀ cancelled, controller.Sound cancelled → held.Sound cancelled

theorem send_barrier_sends (node : NodeId) (checkpoint : PolicyTriggerCheckpoint)
    (evidence : NodeEvidence) (run : Run) :
    Ensured
      (fun _ after => run.policy.durableTriggerBarrier = none ∧ after = { run with
        policy := { run.policy with
          durableTriggerBarrier := some checkpoint
          barrierSelectedEvidence := some (node, evidence) } })
      (fun _ after => after = run) (sendBarrier node checkpoint evidence run) := by
  simp only [sendBarrier, get_bind]
  cases sent : run.policy.durableTriggerBarrier with
  | some earlier => exact rfl
  | none => exact ⟨rfl, rfl⟩

variable (inv : Invocation) (turn : Turn)

theorem reach_barrier_meets (controller : FanOutController) (settled : List Settled)
    (evidence : NodeMap NodeEvidence) (triggerJson : String) (node : NodeId) (run : Run)
    (holds : run.policy.controller = some controller) :
    Ensured (fun _ after => Meets controller run after) (fun _ after => Frame run after)
      (reachBarrier inv turn controller settled evidence triggerJson node run) := by
  unfold reachBarrier
  cases checkpointOf settled evidence triggerJson node with
  | none => exact Frame.refl run
  | some pair =>
    by_cases active : inv.schedulerActive = true
    · simp only [active, if_true]
      refine ((send_barrier_sends node pair.1 pair.2 run).weaken
        (fun _ _ sent => sent) (fun _ _ same => same ▸ Frame.refl run)).bind ?_
      rintro _ _ ⟨_, rfl⟩
      exact ⟨⟨rfl, rfl, rfl⟩, rfl, fun _ => Control.Later.refl _,
        controller, holds, rfl, rfl, fun _ => id⟩
    · simp only [active, awaitBarrier]
      obtain ⟨policy, trigger, _⟩ := FanOutController.acknowledge_cases controller
        (inv.barrierResult turn.barrierAnswer)
        (run.control.sampleObserve turn.cancelAtAcknowledgement).cancelled
      exact ⟨⟨rfl, rfl, by simp⟩, rfl, fun _ => Control.Later.sample_observe _ _,
        _, rfl, policy, trigger, fun _ sound => FanOutController.acknowledge_sound sound _ _⟩

/-- A batch that went through the controller: its records are in the progress, nothing was
completed or announced, and the controller only acts on a trigger. -/
structure Finalizes (beforeWait : Bool) (run : Run) (settled : List Settled)
    (action : PolicyAction) (after : Run) : Prop where
  progress : ∃ terminals, after.progress = run.progress.record terminals ∧
    (terminals.map ReadyNodeTerminal.node).Perm (settled.map fun entry => entry.completed.node) ∧
    (terminals.Perm (settled.map Settled.ready) ∨ after.policy.Triggered)
  retained : after.retained = run.retained
  events : eventsOf after.trace = eventsOf run.trace
  governed : Governed run → (beforeWait = true → run.control.cancelled = true) →
    Governed after ∧ Advance run after
  action : action ≠ .none → after.policy.Triggered

theorem ready_nodes (settled : List Settled) :
    (settled.map Settled.ready).map ReadyNodeTerminal.node =
      settled.map fun entry => entry.completed.node := by
  simp [Settled.ready, Function.comp_def]

theorem sorted_nodes (settled : List Settled) :
    (((settled.map Settled.ready).insertionSort ReadyNodeTerminal.before).map
      ReadyNodeTerminal.node).Perm (settled.map fun entry => entry.completed.node) := by
  rw [← ready_nodes]
  exact (List.perm_insertionSort _ _).map _

/-- The last step of a governed batch: records and the controller's decision on admission. -/
def Run.decided (terminals : List ReadyNodeTerminal) (stopped : Bool) (run : Run) : Run :=
  { run with
    progress := run.progress.record terminals
    control := { run.control with stopScheduling := run.control.stopScheduling || stopped } }

variable {beforeWait : Bool} {settled : List Settled}

theorem decided_finalizes {run met : Run} {controller finalized : FanOutController}
    {terminals : List ReadyNodeTerminal} {action : PolicyAction}
    (holds : run.policy.controller = some controller)
    (meets : Meets finalized
      { run with policy := { run.policy with controller := some finalized } } met)
    (nodes : (terminals.map ReadyNodeTerminal.node).Perm
      (settled.map fun entry => entry.completed.node))
    (records : terminals.Perm (settled.map Settled.ready) ∨ finalized.trigger.isSome = true)
    (out : met.policy.isOut = true → run.policy.isOut = true ∨ finalized.trigger.isSome = true)
    (acts : action ≠ .none → finalized.trigger.isSome = true)
    (sound : ∀ cancelled : Prop, controller.Sound cancelled → (beforeWait = true → cancelled) →
      finalized.Sound cancelled ∧ finalized.policy = controller.policy ∧
        (controller.trigger.isSome = true → finalized.trigger.isSome = true)) :
    Finalizes beforeWait run settled action (met.decided terminals finalized.admissionStopped) := by
  obtain ⟨held, kept, policy, trigger, keeps⟩ := meets.controller
  set made := met.decided terminals finalized.admissionStopped
  have triggered : finalized.trigger.isSome = true → made.policy.Triggered :=
    fun set => ⟨held, kept, trigger ▸ set⟩
  refine ⟨⟨terminals, ?_, nodes, records.imp_right triggered⟩, meets.retained, meets.events, ?_,
    fun acting => triggered (acts acting)⟩
  · change met.progress.record terminals = _
    rw [meets.progress]
  · intro start observed
    have later := meets.later made.policy.Triggered
    obtain ⟨soundly, same, mono⟩ := sound (met.control.cancelled = true)
      ((start.controller controller holds).weaken later.cancelled)
      (fun early => later.cancelled (observed early))
    have stopping : Control.Later made.policy.Triggered met.control made.control := by
      apply Control.Later.stop_or
      intro stopped
      rcases soundly.stopped stopped with set | cancelled
      · exact .inr (.inr (.inr (triggered set)))
      · exact .inl cancelled
    have earlier : run.policy.Triggered → made.policy.Triggered := by
      rintro ⟨holder, found, set⟩
      rw [holds] at found
      cases found
      exact triggered (mono set)
    have advance : Advance run made := by
      refine ⟨later.trans stopping, earlier, ?_⟩
      intro other found
      rw [show made.policy.controller = some held from kept] at found
      cases found
      exact ⟨controller, holds, policy.trans same⟩
    refine ⟨start.advance advance ?_ ?_, advance⟩
    · intro other found
      rw [show made.policy.controller = some held from kept] at found
      cases found
      exact keeps _ soundly
    · intro isOut
      rcases out isOut with before | set
      · exact earlier (start.barrier before)
      · exact triggered set

theorem of_except_bind {α β : Type} (answer : Except BridgeError α) (next : α → Exec β) (run : Run)
    {post : β → Run → Prop} {refused : AccountingFailure → Run → Prop}
    (failure : ∀ error, refused (.of error) run)
    (success : ∀ value, answer = .ok value → Ensured post refused (next value run)) :
    Ensured post refused ((ofExcept answer >>= next) run) := by
  cases answer with
  | error error => exact failure error
  | ok value => exact success value rfl

def Run.steered (finalized : FanOutController) (run : Run) : Run :=
  { run with policy := { run.policy with controller := some finalized } }

/-- What remains of a batch that the controller has finalized: its texts may be refused, and
the trigger, if it selects a node, meets its barrier. -/
structure Decides (inv : Invocation) (turn : Turn) (settled : List Settled) (run : Run)
    (post : NodeMap NodeEvidence × PolicyAction → Run → Prop) (refused : Run → Prop)
    (selection : ReadyBatchSelection) (finalized : FanOutController) : Prop where
  stopped : refused (run.steered finalized)
  unmet : ∀ text evidence, selection.trigger.mapM (canonicalTriggerJson inv.codec) = .ok text →
    encodeEvidence inv.codec selection.trigger text selection.terminals = .ok evidence →
    text = none ∨ selectedNode selection = none →
    post (evidence, .none)
      ((run.steered finalized).decided selection.terminals finalized.admissionStopped)
  met : ∀ text evidence node,
    selection.trigger.mapM (canonicalTriggerJson inv.codec) = .ok (some text) →
    encodeEvidence inv.codec selection.trigger (some text) selection.terminals = .ok evidence →
    selectedNode selection = some node →
    Ensured
      (fun answer met => post answer (met.decided selection.terminals finalized.admissionStopped))
      (fun _ => refused)
      (reachBarrier inv turn finalized settled evidence text node (run.steered finalized))

theorem finalize_ready_ensured {inv : Invocation} {turn : Turn} {run : Run}
    {post : NodeMap NodeEvidence × PolicyAction → Run → Prop} {refused : Run → Prop}
    (empty : settled = [] → post (∅, .none) run) (failed : refused run)
    (recorded : ∀ evidence, (inv.authority.isSome = true →
        encodeEvidence inv.codec none none (settled.map Settled.ready) = .ok evidence) →
      post (evidence, .none)
        { run with progress := run.progress.record (settled.map Settled.ready) })
    (governed : ∀ authority controller selection finalized, inv.authority = some authority →
      run.policy.controller = some controller →
      controller.finalizeReadyBatch authority.attemptId (settled.map Settled.ready) inv.nodeRefs
        beforeWait = .ok (selection, finalized) →
      Decides inv turn settled run post refused selection finalized) :
    Ensured post (fun _ => refused) (finalizeReady inv turn beforeWait settled run) := by
  have ungoverned : Ensured post (fun _ => refused) (finalizeUngoverned inv settled run) := by
    unfold finalizeUngoverned
    by_cases frozen : inv.authority.isSome = true
    · simp only [frozen, if_true]
      exact of_except_bind _ _ _ (fun _ => failed) fun evidence encoded =>
        recorded evidence fun _ => encoded
    · simp only [frozen]
      exact recorded ∅ fun present => absurd present frozen
  simp only [finalizeReady, get_bind]
  by_cases none_settled : settled.isEmpty = true
  · simp only [none_settled, if_true]
    exact empty (List.isEmpty_iff.mp none_settled)
  · simp only [none_settled]
    cases holds : run.policy.controller with
    | none => exact ungoverned
    | some controller =>
      cases granted : inv.authority with
      | none => exact ungoverned
      | some authority =>
        by_cases budget : run.control.budgetFailure.isNone = true
        · simp only [budget, if_true, finalizeGoverned]
          cases batch : controller.finalizeReadyBatch authority.attemptId
              (settled.map Settled.ready) inv.nodeRefs beforeWait with
          | error failure => exact failed
          | ok pair =>
            obtain ⟨stopped, unmet, met⟩ := governed authority controller pair.1 pair.2 granted holds
              batch
            apply of_except_bind _ _ _ (fun _ => stopped)
            intro text encoded
            apply of_except_bind _ _ _ (fun _ => stopped)
            intro evidence written
            cases text with
            | none => exact unmet none evidence encoded written (.inl rfl)
            | some text =>
              cases found : selectedNode pair.1 with
              | none => exact unmet _ evidence encoded written (.inr found)
              | some node =>
                exact (met text evidence node encoded written found).bind fun _ _ => id
        · simp only [budget]
          exact ungoverned

theorem finalize_ready_finalizes (beforeWait : Bool) (settled : List Settled) (run : Run) :
    Ensured (fun answer after => Finalizes beforeWait run settled answer.2 after)
      (fun _ after => Frame run after) (finalizeReady inv turn beforeWait settled run) := by
  refine finalize_ready_ensured ?_ (Frame.refl run) ?_ ?_
  · rintro rfl
    exact ⟨⟨[], rfl, List.Perm.refl _, .inl (List.Perm.refl _)⟩, rfl, rfl,
      fun start _ => ⟨start, Advance.refl run⟩, fun acting => absurd rfl acting⟩
  · intro evidence _
    exact ⟨⟨_, rfl, by rw [ready_nodes], .inl (List.Perm.refl _)⟩, rfl, rfl,
      fun start _ => start.of_control rfl id (Control.Later.refl _), fun acting => absurd rfl acting⟩
  · intro authority controller selection finalized _ holds batch
    have sound : ∀ cancelled : Prop, controller.Sound cancelled →
        (beforeWait = true → cancelled) →
        finalized.Sound cancelled ∧ finalized.policy = controller.policy ∧
          (controller.trigger.isSome = true → finalized.trigger.isSome = true) :=
      fun _ => FanOutController.finalize_sound batch
    -- A run that sends no barrier only has the new controller.
    have unmet : Meets finalized (run.steered finalized) (run.steered finalized) :=
      ⟨Frame.refl _, rfl, fun _ => Control.Later.refl _, finalized, rfl, rfl, rfl, fun _ => id⟩
    rcases FanOutController.finalize_cases batch with ⟨rfl, _⟩ | selecting
    · refine ⟨⟨rfl, rfl, rfl⟩, fun _ _ _ _ _ => ?_, nofun⟩
      exact decided_finalizes holds unmet (sorted_nodes settled)
        (.inl (List.perm_insertionSort _ _)) .inl (fun acting => absurd rfl acting) sound
    · obtain ⟨_, _, selected, marked, node, chosen, rfl, rfl⟩ := selecting
      have nodes : (marked.map ReadyNodeTerminal.node).Perm
          (settled.map fun entry => entry.completed.node) :=
        (mark_selected_nodes chosen) ▸ sorted_nodes settled
      refine ⟨⟨rfl, rfl, rfl⟩, fun _ _ _ _ _ => ?_, fun text evidence node _ _ _ => ?_⟩
      · exact decided_finalizes holds unmet nodes (.inr rfl) (fun _ => .inr rfl)
          (fun _ => rfl) sound
      · refine (reach_barrier_meets inv turn _ settled evidence text node _ rfl).weaken
          (fun answer met meets => ?_) fun _ _ framed =>
            ⟨framed.progress, framed.completed, framed.events⟩
        exact decided_finalizes holds meets nodes (.inr rfl) (fun _ => .inr rfl)
          (fun _ => rfl) sound

/-! Publication. -/

variable (evidence : NodeMap NodeEvidence) (run : Run)

def Run.publish (completed : CompletedNode) : Run :=
  { run.emit [finishedEvent completed (evidence.lookup completed.node)] with
    progress := run.progress.publish completed }

def Run.published (batch : List CompletedNode) : Run :=
  batch.foldl (Run.publish evidence) run

section Published

variable (evidence : NodeMap NodeEvidence)

theorem published_parts (run : Run) (batch : List CompletedNode) :
    (run.published evidence batch).control = run.control ∧
      (run.published evidence batch).policy = run.policy ∧
      (run.published evidence batch).retained = run.retained ∧
      (run.published evidence batch).progress.scheduled = run.progress.scheduled ∧
      (run.published evidence batch).progress.inflight = run.progress.inflight ∧
      (run.published evidence batch).progress.nodeTerminals = run.progress.nodeTerminals ∧
      (run.published evidence batch).progress.done =
        run.progress.done ∪ (batch.map CompletedNode.node).toFinset ∧
      (run.published evidence batch).trace = run.trace ++ batch.map fun completed =>
        .yielded (finishedEvent completed (evidence.lookup completed.node)) := by
  induction batch generalizing run with
  | nil => simp [Run.published]
  | cons completed rest ih =>
    obtain ⟨control, policy, retained, scheduled, inflight, terminals, done, trace⟩ :=
      ih (run.publish evidence completed)
    refine ⟨control, policy, retained, scheduled, inflight, terminals, ?_, ?_⟩
    · refine done.trans ?_
      ext node
      simp [Run.publish, Progress.publish]
    · refine trace.trans ?_
      simp [Run.publish, Run.emit]

theorem published_events (run : Run) (batch : List CompletedNode) :
    eventsOf (run.published evidence batch).trace = eventsOf run.trace ++
      batch.map fun completed => finishedEvent completed (evidence.lookup completed.node) := by
  obtain ⟨_, _, _, _, _, _, _, trace⟩ := published_parts evidence run batch
  rw [trace, events_of_append]
  congr 1
  simp [eventsOf]

theorem publish_node_publishes (turn : Turn) (completed : CompletedNode) (run : Run) :
    Ensured (fun _ after => after = run.publish evidence completed) (fun _ after => after = run)
      (publishNode turn evidence completed run) := by
  have gate : Ensured (fun _ after => after = run) (fun _ after => after = run)
      (publishCandidate turn completed (evidence.lookup completed.node) run) := by
    unfold publishCandidate
    split
    · split
      · rfl
      · cases turn.publishFailure completed.node with
        | none | some => rfl
    · rfl
  refine gate.bind ?_
  rintro _ _ rfl
  rfl

theorem publish_all_publishes (turn : Turn) (batch : List CompletedNode) (run : Run) :
    Ensured (fun _ after => after = run.published evidence batch)
      (fun _ after => ∃ early late, batch = early ++ late ∧ after = run.published evidence early)
      (publishAll turn evidence batch run) := by
  induction batch generalizing run with
  | nil => rfl
  | cons completed rest ih =>
    refine ((publish_node_publishes evidence turn completed run).weaken
      (fun _ _ same => same) (fun _ _ same => ⟨[], completed :: rest, rfl, same⟩)).bind ?_
    rintro _ _ rfl
    refine (ih (run.publish evidence completed)).weaken (fun _ _ same => same) ?_
    rintro _ _ ⟨early, late, rfl, same⟩
    exact ⟨completed :: early, late, rfl, same⟩

end Published

/-- The held completions in the order of their publication. -/
def Retained.sorted (retained : Retained) : List CompletedNode :=
  retained.completed.insertionSort CompletedNode.before

theorem Retained.sorted_perm (retained : Retained) : retained.sorted.Perm retained.completed :=
  List.perm_insertionSort _ _

def Run.emptied : Run := { run with retained := { completed := [], evidence := ∅ } }

/-! Admission. -/

structure Admits (inv : Invocation) (nodes : List WorkflowNode) (run after : Run)
    (started : List NodeId) : Prop where
  policy : after.policy = run.policy
  retained : after.retained = run.retained
  trace : after.trace = run.trace
  later : ∀ triggered, Control.Later triggered run.control after.control
  unstopped : after.control.stopScheduling = run.control.stopScheduling ∧
    after.control.cancelled = run.control.cancelled
  progress : after.progress =
    { run.progress with
      scheduled := run.progress.scheduled ∪
        ((nodes.filter run.progress.isReady).map WorkflowNode.id).toFinset
      inflight := run.progress.inflight ++ (nodes.filter run.progress.isReady).map fun node =>
        ⟨node, courseOf inv run.progress node⟩ }
  started : started = ((nodes.filter run.progress.isReady).filter fun node =>
    (courseOf inv run.progress node).isRunning).map WorkflowNode.id

theorem admit_ready_admits (nodes : List WorkflowNode) (run : Run)
    (once : (nodes.map WorkflowNode.id).Nodup) :
    Admits inv nodes run (admitReady inv nodes run).1 (admitReady inv nodes run).2 := by
  induction nodes generalizing run with
  | nil =>
    refine ⟨rfl, rfl, rfl, fun _ => Control.Later.refl _, ⟨rfl, rfl⟩, ?_, rfl⟩
    simp only [admitReady, List.filter_nil, List.map_nil, List.toFinset_nil, List.append_nil]
    rw [Finset.union_empty]
  | cons node rest ih =>
    rw [List.map_cons, List.nodup_cons] at once
    by_cases ready : run.progress.isReady node = true
    · let flight : Flight := ⟨node, courseOf inv run.progress node⟩
      have rest_ready : rest.filter (run.launch flight).progress.isReady =
          rest.filter run.progress.isReady := by
        apply List.filter_congr
        intro other member
        have differs : other.id ≠ flight.node.id := by
          rintro same
          exact once.1 (List.mem_map.mpr ⟨other, member, same⟩)
        have scheduled : other.id ∉ (run.launch flight).progress.scheduled ↔
            other.id ∉ run.progress.scheduled := by
          simp [Run.launch, Progress.launch, differs]
        unfold Progress.isReady
        rw [decide_eq_decide.mpr scheduled]
        rfl
      have later := ih (run.launch flight) once.2
      have step : admitReady inv (node :: rest) run =
          ((admitReady inv rest (run.launch flight)).1,
            if flight.course.isRunning then node.id :: (admitReady inv rest (run.launch flight)).2
            else (admitReady inv rest (run.launch flight)).2) := by
        rw [admitReady, if_pos ready]
      have unstopped : (run.launch flight).control.stopScheduling = run.control.stopScheduling ∧
          (run.launch flight).control.cancelled = run.control.cancelled := by
        simp only [Run.launch, Control.launch]
        split <;> exact ⟨rfl, rfl⟩
      rw [step]
      refine ⟨later.policy, later.retained, later.trace,
        fun triggered => (Control.Later.launch _ _).trans (later.later triggered),
        ⟨later.unstopped.1.trans unstopped.1, later.unstopped.2.trans unstopped.2⟩, ?_, ?_⟩
      · rw [later.progress, rest_ready]
        simp only [Run.launch, Progress.launch, List.filter_cons_of_pos ready, List.map_cons,
          List.toFinset_cons, List.append_assoc, List.singleton_append, Progress.mk.injEq,
          true_and]
        refine ⟨?_, rfl⟩
        ext other
        simp
        tauto
      · rw [later.started, rest_ready, List.filter_cons_of_pos ready]
        by_cases running : flight.course.isRunning = true
        · rw [if_pos running, List.filter_cons_of_pos (by exact running)]
          rfl
        · rw [if_neg running, List.filter_cons_of_neg (by exact running)]
          rfl
    · have step : admitReady inv (node :: rest) run = admitReady inv rest run := by
        rw [admitReady, if_neg ready]
      have later := ih run once.2
      rw [step]
      exact ⟨later.policy, later.retained, later.trace, later.later, later.unstopped,
        by rw [later.progress, List.filter_cons_of_neg ready],
        by rw [later.started, List.filter_cons_of_neg ready]⟩

/-- A scheduling pass: nothing is admitted once admission has stopped, and every node it
starts is announced. -/
structure Schedules (inv : Invocation) (run after : Run) : Prop where
  policy : after.policy = run.policy
  retained : after.retained = run.retained
  later : ∀ triggered, Control.Later triggered run.control after.control
  unstopped : after.control.stopScheduling = run.control.stopScheduling ∧
    after.control.cancelled = run.control.cancelled
  admitted : ∃ nodes started, after.progress =
      { run.progress with
        scheduled := run.progress.scheduled ∪ (nodes.map WorkflowNode.id).toFinset
        inflight := run.progress.inflight ++ nodes.map fun node =>
          ⟨node, courseOf inv run.progress node⟩ } ∧
    after.trace = run.trace ++ started.map (fun node => .yielded (.nodeStarted node)) ∧
    started = (nodes.filter fun node =>
      (courseOf inv run.progress node).isRunning).map WorkflowNode.id ∧
    nodes = if run.control.stopScheduling then []
      else inv.graph.nodes.filter run.progress.isReady

theorem schedule_schedules (once : (inv.graph.nodes.map WorkflowNode.id).Nodup) :
    Schedules inv run (run.schedule inv) := by
  by_cases stopped : run.control.stopScheduling = true
  · have stay : run.schedule inv = run := by
      simp [Run.schedule, scheduleReady, stopped, Run.emit]
    rw [stay]
    refine ⟨rfl, rfl, fun _ => Control.Later.refl _, ⟨rfl, rfl⟩, [], [], ?_, by simp, rfl,
      by rw [if_pos stopped]⟩
    simp only [List.map_nil, List.toFinset_nil, List.append_nil]
    rw [Finset.union_empty]
  · have admits := admit_ready_admits inv inv.graph.nodes run once
    have step : run.schedule inv = (admitReady inv inv.graph.nodes run).1.emit
        ((admitReady inv inv.graph.nodes run).2.map WorkflowEvent.nodeStarted) := by
      simp only [Run.schedule, scheduleReady, if_neg stopped]
    rw [step]
    refine ⟨admits.policy, admits.retained, admits.later, admits.unstopped,
      inv.graph.nodes.filter run.progress.isReady, _, admits.progress, ?_, admits.started,
      by rw [if_neg stopped]⟩
    simp only [Run.emit, admits.trace, List.map_map]
    rfl

/-- The control state from which a pass admits nodes after a publication. -/
def Control.reopened (control : Control) : Control :=
  let sampled := (control.sampleObserve turn.cancelAfterPublish).sample turn.cancelBeforeAdmission
  if sampled.cancelled then sampled.stop else sampled

/-! The sweep. -/

variable (primary : NodePrimaryDisposition) (terminalJson : String)

def Run.sweepOne (run : Run) (node : NodeId) : Run :=
  { run.emit [.nodeFinished node false (sweepText node primary) none (some terminalJson) none none] with
    progress := { run.progress with
      nodeTerminals := run.progress.nodeTerminals.insert node (sweepTerminal primary)
      done := insert node run.progress.done
      dispositions := run.progress.dispositions.insert node (sweepDisposition primary)
      outputs := run.progress.outputs.insert node ⟨sweepText node primary, false, none⟩ } }

def Run.swept (run : Run) (nodes : List NodeId) : Run :=
  nodes.foldl (Run.sweepOne primary terminalJson) run

theorem swept_parts (run : Run) (nodes : List NodeId) :
    (run.swept primary terminalJson nodes).control = run.control ∧
      (run.swept primary terminalJson nodes).policy = run.policy ∧
      (run.swept primary terminalJson nodes).progress.done = run.progress.done ∪ nodes.toFinset ∧
      (∀ node, node ∈ (run.swept primary terminalJson nodes).progress.nodeTerminals ↔
        node ∈ nodes ∨ node ∈ run.progress.nodeTerminals) ∧
      (∀ node, node ∉ nodes →
        (run.swept primary terminalJson nodes).progress.nodeTerminals.lookup node =
          run.progress.nodeTerminals.lookup node) ∧
      (∀ node ∈ nodes, (run.swept primary terminalJson nodes).progress.nodeTerminals.lookup node =
        some (sweepTerminal primary)) ∧
      (run.swept primary terminalJson nodes).trace = run.trace ++ nodes.map fun node =>
        .yielded (.nodeFinished node false (sweepText node primary) none (some terminalJson)
          none none) := by
  induction nodes generalizing run with
  | nil => simp [Run.swept]
  | cons first rest ih =>
    obtain ⟨control, policy, done, members, others, swept, trace⟩ :=
      ih (run.sweepOne primary terminalJson first)
    refine ⟨control, policy, ?_, ?_, ?_, ?_, ?_⟩
    · refine done.trans ?_
      ext node
      simp [Run.sweepOne]
    · intro node
      refine (members node).trans ?_
      simp [Run.sweepOne]
      tauto
    · intro node absent
      rw [List.mem_cons, not_or] at absent
      refine (others node absent.2).trans ?_
      simp [Run.sweepOne, AList.lookup_insert_ne absent.1]
    · intro node member
      by_cases later : node ∈ rest
      · exact swept node later
      · have same : node = first := (List.mem_cons.mp member).resolve_right later
        refine (others node later).trans ?_
        rw [same]
        exact AList.lookup_insert _
    · refine trace.trans ?_
      simp [Run.sweepOne, Run.emit]

theorem sweep_node_run (node : NodeId) (run : Run) :
    sweepNode inv node run =
      match sweepCause run with
      | none => .error (.of .invalidStateTransition) run
      | some primary =>
        match canonicalTerminalJson inv.codec (sweepTerminal primary) with
        | .error error => .error (.of error) run
        | .ok terminalJson => .ok () (run.sweepOne primary terminalJson node) := by
  simp only [sweepNode, get_bind]
  cases sweepCause run with
  | none => rfl
  | some primary =>
    simp only
    cases canonicalTerminalJson inv.codec (sweepTerminal primary) with
    | error | ok => rfl

/-- The cause and its record are the same for every node, so the sweep fails at its first
node or not at all. -/
theorem sweep_all_run (nodes : List NodeId) (run : Run) (some : nodes ≠ []) :
    sweepAll inv nodes run =
      match sweepCause run with
      | none => .error (.of .invalidStateTransition) run
      | .some primary =>
        match canonicalTerminalJson inv.codec (sweepTerminal primary) with
        | .error error => .error (.of error) run
        | .ok terminalJson => .ok () (run.swept primary terminalJson nodes) := by
  induction nodes generalizing run with
  | nil => exact absurd rfl some
  | cons node rest ih =>
    have first := sweep_node_run inv node run
    rw [sweepAll]
    cases cause : sweepCause run with
    | none =>
      rw [cause] at first
      exact bind_of_error first
    | some primary =>
      rw [cause] at first
      simp only at first ⊢
      cases encoded : canonicalTerminalJson inv.codec (sweepTerminal primary) with
      | error error =>
        rw [encoded] at first
        exact bind_of_error first
      | ok terminalJson =>
        rw [encoded] at first
        rw [bind_of_ok first]
        by_cases last : rest = []
        · subst last
          rfl
        · rw [ih (run.sweepOne primary terminalJson node) last]
          have same : sweepCause (run.sweepOne primary terminalJson node) = sweepCause run := rfl
          rw [same, cause]
          simp only [encoded]
          rfl

end A2aBridge.Workflow
