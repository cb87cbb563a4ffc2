import A2aBridge.WorkflowSweep

/-!
The causes of cancellation. The first cause recorded for a node stays, causes are recorded for
running nodes only, and one that names the workflow is recorded only after the root token was
seen cancelled from outside: when the policy cancels the root token itself, every running node
already has its cause. Each operation on the control state is shown to be `Causal`, and each
phase of a pass after it.
-/

namespace A2aBridge.Workflow

open StatefulRefusal JobLedger

variable {α : Type}

theorem or_insert_lookup (map : NodeMap α) (node other : NodeId) (value : α) :
    (orInsert map node value).lookup other =
      if other = node then (map.lookup node).or (some value) else map.lookup other := by
  unfold orInsert
  by_cases same : other = node
  · subst same
    cases found : map.lookup other with
    | none => simp
    | some present => simp [found]
  · split
    · rfl
    · exact AList.lookup_insert_ne same

theorem or_insert_kept {map : NodeMap α} {node other : NodeId} {value held : α}
    (found : map.lookup other = some held) : (orInsert map node value).lookup other = some held := by
  rw [or_insert_lookup]
  split
  · rename_i same
    rw [← same, found]
    rfl
  · exact found

theorem mem_or_insert {map : NodeMap α} {node other : NodeId} {value : α} :
    other ∈ orInsert map node value ↔ other = node ∨ other ∈ map := by
  rw [← AList.lookup_isSome, or_insert_lookup, ← AList.lookup_isSome]
  split
  · rename_i same
    subst same
    simp
  · rename_i differs
    simp [differs]

def Turn.completions (turn : Turn) : List Completion :=
  match turn.signal with
  | .completions first rest => first :: rest
  | .barrierAcknowledgement _ | .control _ => []

/-- The token is cancelled from outside before one of its reads. -/
def Turn.isExternal (turn : Turn) : Bool :=
  turn.cancelAtHead || turn.cancelBeforeWait || turn.cancelDuringWait || turn.cancelAtArbitration ||
    turn.cancelAtAcknowledgement || turn.cancelAfterTransfer || turn.cancelAfterPublish ||
    turn.cancelBeforeAdmission || turn.completions.any Completion.cancelSeen ||
    turn.closing.cancelAtExit || turn.closing.cancelAtOutcome

/-- What every read of the token finds was announced by `arrived`. -/
structure Turn.Announced (arrived : Prop) (turn : Turn) : Prop where
  head : turn.cancelAtHead = true → arrived
  beforeWait : turn.cancelBeforeWait = true → arrived
  duringWait : turn.cancelDuringWait = true → arrived
  arbitration : turn.cancelAtArbitration = true → arrived
  acknowledgement : turn.cancelAtAcknowledgement = true → arrived
  afterTransfer : turn.cancelAfterTransfer = true → arrived
  afterPublish : turn.cancelAfterPublish = true → arrived
  beforeAdmission : turn.cancelBeforeAdmission = true → arrived
  completion : ∀ completion ∈ turn.completions, completion.cancelSeen = true → arrived
  exit : turn.closing.cancelAtExit = true → arrived
  outcome : turn.closing.cancelAtOutcome = true → arrived

theorem announced_of_external {arrived : Prop} {turn : Turn} (arrives : turn.isExternal = true → arrived) :
    turn.Announced arrived := by
  constructor
  case completion =>
    intro completion member seen
    apply arrives
    have among : turn.completions.any Completion.cancelSeen = true :=
      List.any_eq_true.mpr ⟨completion, member, seen⟩
    simp [Turn.isExternal, among]
  all_goals
    intro flag
    apply arrives
    simp [Turn.isExternal, flag]

/-- What a run may rest on: deadlines are active, the token may have been cancelled from
outside, and the policy may have fired it. -/
structure Grounds where
  active : Prop
  arrived : Prop
  forced : Prop

namespace Control

/-- How the recorded causes fit together. -/
structure Attributed (grounds : Grounds) (control : Control) : Prop where
  workflow : ∀ node, control.cancellationPrimaries.lookup node = some .canceledWorkflow →
    control.rootCancellationPrimary = some .canceledWorkflow
  outside : control.rootCancellationPrimary = some .canceledWorkflow → grounds.arrived
  inside : control.cancelled = true →
    control.rootCancellationPrimary = some .canceledPolicy ∨ grounds.arrived
  policy : ∀ primary, control.rootCancellationPrimary = some primary → primary ≠ .canceledWorkflow →
    ∀ node ∈ control.nodeCancels, node ∈ control.cancellationPrimaries
  rooted : control.rootCancellationPrimary.isSome = true → control.cancelled = true
  cut : SchedulerArm.absoluteCutoff ∈ control.observedArms → control.stopScheduling = true
  timed : SchedulerArm.absoluteCutoff ∈ control.observedArms → grounds.active
  fired : control.rootCancellationPrimary = some .canceledPolicy → grounds.forced

/-- Causes are kept, and so is a cancelled token. -/
structure Remembers (before after : Control) : Prop where
  kept : ∀ node primary, before.cancellationPrimaries.lookup node = some primary →
    after.cancellationPrimaries.lookup node = some primary
  root : ∀ primary, before.rootCancellationPrimary = some primary →
    after.rootCancellationPrimary = some primary
  seen : before.cancelled = true → after.cancelled = true

/-- Causes are kept, and new ones are recorded for running nodes only. -/
structure Causal (grounds : Grounds) (before after : Control) : Prop extends Remembers before after where
  stopped : before.stopScheduling = true → after.stopScheduling = true
  fresh : ∀ node ∈ after.cancellationPrimaries,
    node ∈ before.cancellationPrimaries ∨ node ∈ before.nodeCancels
  running : ∀ node ∈ after.nodeCancels, node ∈ before.nodeCancels
  attributed : before.Attributed grounds → after.Attributed grounds

variable {grounds : Grounds} {before middle after control : Control}

theorem Remembers.trans (first : Remembers before middle) (second : Remembers middle after) :
    Remembers before after :=
  ⟨fun node primary found => second.kept node primary (first.kept node primary found),
    fun primary held => second.root primary (first.root primary held),
    fun held => second.seen (first.seen held)⟩

namespace Causal

theorem trans (first : Causal grounds before middle) (second : Causal grounds middle after) :
    Causal grounds before after := by
  refine ⟨first.toRemembers.trans second.toRemembers,
    fun held => second.stopped (first.stopped held), ?_, ?_, ?_⟩
  · intro node member
    rcases second.fresh node member with earlier | running
    · exact first.fresh node earlier
    · exact .inr (first.running node running)
  · exact fun node member => first.running node (second.running node member)
  · exact fun start => second.attributed (first.attributed start)

theorem of_same (primaries : after.cancellationPrimaries = before.cancellationPrimaries)
    (root : after.rootCancellationPrimary = before.rootCancellationPrimary)
    (running : ∀ node ∈ after.nodeCancels, node ∈ before.nodeCancels)
    (cancelled : before.cancelled = true → after.cancelled = true)
    (arrives : after.cancelled = true → before.cancelled = true ∨ grounds.arrived)
    (stopped : before.stopScheduling = true → after.stopScheduling = true)
    (arms : SchedulerArm.absoluteCutoff ∈ after.observedArms →
      SchedulerArm.absoluteCutoff ∈ before.observedArms ∨
        after.stopScheduling = true ∧ grounds.active) : Causal grounds before after := by
  refine ⟨⟨?_, ?_, cancelled⟩, stopped, ?_, running, ?_⟩
  · intro node primary found
    rw [primaries]
    exact found
  · intro primary held
    rw [root]
    exact held
  · intro node member
    rw [primaries] at member
    exact .inl member
  · intro start
    constructor
    · rw [primaries, root]
      exact start.workflow
    · rw [root]
      exact start.outside
    · rw [root]
      intro seen
      rcases arrives seen with earlier | external
      · exact start.inside earlier
      · exact .inr external
    · rw [primaries, root]
      exact fun primary held other node member => start.policy primary held other node
        (running node member)
    · rw [root]
      exact fun held => cancelled (start.rooted held)
    · intro observed
      rcases arms observed with earlier | ⟨halted, _⟩
      · exact stopped (start.cut earlier)
      · exact halted
    · intro observed
      rcases arms observed with earlier | ⟨_, active⟩
      · exact start.timed earlier
      · exact active
    · rw [root]
      exact start.fired

variable (control)

theorem refl : Causal grounds control control := of_same rfl rfl (fun _ => id) id .inl id .inl

variable {external : Bool} {cause : NodePrimaryDisposition} (inv : Invocation) (anchorMs : Nat)
  (primary : NodePrimaryDisposition)

theorem sample (arrives : external = true → grounds.arrived) :
    Causal grounds control (control.sample external) := by
  refine of_same rfl rfl (fun _ => id) ?_ ?_ id .inl
  · intro seen
    simp [Control.sample, seen]
  · intro seen
    rcases Bool.or_eq_true_iff.mp seen with earlier | now
    · exact .inl earlier
    · exact .inr (arrives now)

theorem foldl_or_insert (nodes : List NodeId) (primary : NodePrimaryDisposition)
    (map : NodeMap NodePrimaryDisposition) :
    (∀ node held, map.lookup node = some held →
      (nodes.foldl (fun primaries node => orInsert primaries node primary) map).lookup node =
        some held) ∧
    (∀ node, node ∈ nodes.foldl (fun primaries node => orInsert primaries node primary) map ↔
      node ∈ map ∨ node ∈ nodes) ∧
    ∀ node, node ∉ map → ∀ cause,
      (nodes.foldl (fun primaries node => orInsert primaries node primary) map).lookup node =
        some cause → cause = primary := by
  induction nodes generalizing map with
  | nil =>
    refine ⟨fun _ _ => id, by simp, ?_⟩
    intro node absent cause found
    exact absurd (AList.lookup_isSome.mp (by rw [List.foldl_nil] at found; rw [found]; rfl)) absent
  | cons first rest ih =>
    obtain ⟨kept, members, fresh⟩ := ih (orInsert map first primary)
    refine ⟨?_, ?_, ?_⟩
    · intro node held found
      exact kept node held (or_insert_kept found)
    · intro node
      rw [List.foldl_cons, members, mem_or_insert, List.mem_cons]
      tauto
    · intro node absent cause found
      by_cases same : node = first
      · have own : (orInsert map first primary).lookup node = some primary := by
          rw [or_insert_lookup, if_pos same, ← same, AList.lookup_eq_none.mpr absent]
          rfl
        have held := kept node primary own
        rw [List.foldl_cons, held] at found
        cases found
        rfl
      · apply fresh node _ cause found
        rw [mem_or_insert]
        rintro (own | earlier)
        · exact same own
        · exact absent earlier

theorem observe : Causal grounds control (control.observe control.cancelled) := by
  unfold Control.observe
  split
  · rename_i seen
    rw [Bool.and_eq_true, Option.isNone_iff_eq_none] at seen
    obtain ⟨kept, members, _⟩ := foldl_or_insert control.nodeCancels.keys .canceledWorkflow
      control.cancellationPrimaries
    refine ⟨⟨kept, ?_, id⟩, id, ?_, fun _ => id, ?_⟩
    · intro primary held
      rw [seen.2] at held
      cases held
    · intro node member
      rcases (members node).mp member with earlier | running
      · exact .inl earlier
      · exact .inr (AList.mem_keys.mpr running)
    · intro start
      have external : grounds.arrived := by
        rcases start.inside seen.1 with policy | external
        · rw [seen.2] at policy
          cases policy
        · exact external
      refine ⟨fun _ _ => rfl, fun _ => external, fun _ => .inr external, ?_, fun _ => seen.1,
        start.cut, start.timed, ?_⟩
      · intro primary held other
        cases held
        exact absurd rfl other
      · nofun
  · exact refl control

theorem sample_observe (arrives : external = true → grounds.arrived) :
    Causal grounds control (control.sampleObserve external) :=
  (sample control arrives).trans (observe (control.sample external))

variable (node : NodeId)

theorem record_root_kept {control : Control} {primary : NodePrimaryDisposition}
    (held : control.rootCancellationPrimary = some cause) :
    (control.record primary node).rootCancellationPrimary = some cause := by
  simp [Control.record, held]

theorem record_root {control : Control} {primary : NodePrimaryDisposition}
    (root : (control.record primary node).rootCancellationPrimary = some cause) :
    control.rootCancellationPrimary = some cause ∨ control.rootCancellationPrimary = none ∧
      primary = .canceledWorkflow ∧ cause = .canceledWorkflow := by
  simp only [Control.record] at root
  split at root
  · rename_i workflow
    rcases Option.or_eq_some_iff.mp root with earlier | ⟨free, named⟩
    · exact .inl earlier
    · cases named
      exact .inr ⟨free, workflow, workflow⟩
  · exact .inl root

/-- A running node is cancelled; the workflow is named only when its token was seen cancelled. -/
theorem cancel_node (seen : primary = .canceledWorkflow → control.cancelled = true) :
    Causal grounds control (control.cancelNode primary node) := by
  unfold Control.cancelNode
  split
  · rename_i present
    have running : node ∈ control.nodeCancels := AList.lookup_isSome.mp present
    have keys : ∀ other, other ∈ control.nodeCancels.insert node true → other ∈ control.nodeCancels := by
      intro other member
      rcases (AList.mem_insert _).mp member with same | earlier
      · exact same ▸ running
      · exact earlier
    refine ⟨⟨fun _ _ => or_insert_kept, fun _ => record_root_kept node, id⟩, id, ?_, keys, ?_⟩
    · intro other member
      rcases mem_or_insert.mp member with same | earlier
      · exact .inr (same ▸ running)
      · exact .inl earlier
    · intro start
      refine ⟨?_, ?_, ?_, ?_, ?_, start.cut, start.timed, ?_⟩
      · intro other found
        simp only [Control.record] at found
        rw [or_insert_lookup] at found
        by_cases same : other = node
        · subst same
          rw [if_pos rfl] at found
          cases held : control.cancellationPrimaries.lookup other with
          | some cause =>
            rw [held] at found
            cases found
            exact record_root_kept other (start.workflow other held)
          | none =>
            -- The node's first cause is the workflow's, so the root cause is not the policy's.
            rw [held] at found
            cases found
            cases root : control.rootCancellationPrimary with
            | none => simp [Control.record, root]
            | some cause =>
              by_cases workflow : cause = .canceledWorkflow
              · simp [Control.record, root, workflow]
              · have attributed := start.policy cause root workflow other running
                rw [← AList.lookup_isSome, held] at attributed
                cases attributed
        · rw [if_neg same] at found
          exact record_root_kept node (start.workflow other found)
      · intro workflow
        rcases record_root node workflow with earlier | ⟨free, named, _⟩
        · exact start.outside earlier
        · rcases start.inside (seen named) with policy | external
          · rw [free] at policy
            cases policy
          · exact external
      · exact fun cancelled => (start.inside cancelled).imp_left (record_root_kept node)
      · intro held root other name member
        refine mem_or_insert.mpr (.inr ?_)
        rcases record_root node root with earlier | ⟨_, _, workflow⟩
        · exact start.policy held earlier other name (keys name member)
        · exact absurd workflow other
      · intro rooted
        obtain ⟨cause, root⟩ := Option.isSome_iff_exists.mp rooted
        rcases record_root node root with earlier | ⟨_, named, _⟩
        · exact start.rooted (Option.isSome_of_eq_some earlier)
        · exact seen named
      · intro policy
        rcases record_root node policy with earlier | ⟨_, _, workflow⟩
        · exact start.fired earlier
        · cases workflow
  · exact refl control

theorem cancel_nodes (nodes : List NodeId) (control : Control)
    (seen : primary = .canceledWorkflow → control.cancelled = true) :
    Causal grounds control (nodes.foldl (Control.cancelNode primary) control) := by
  induction nodes generalizing control with
  | nil => exact refl control
  | cons node rest ih =>
    have first : Causal grounds control _ := cancel_node control primary node seen
    have still : primary = .canceledWorkflow →
        (control.cancelNode primary node).cancelled = true := by
      intro workflow
      unfold Control.cancelNode
      split <;> exact seen workflow
    exact first.trans (ih (control.cancelNode primary node) still)

/-- The policy fires the root token, where no cause was recorded for it only on its grounds. -/
theorem global_cancel
    (forces : control.rootCancellationPrimary = none → grounds.forced) :
    Causal grounds control control.globalCancel := by
  unfold Control.globalCancel
  have folded : ∀ (nodes : List NodeId) (start : Control),
      nodes.foldl (Control.record .canceledPolicy) start =
        { start with
          cancellationPrimaries := nodes.foldl
            (fun primaries node => orInsert primaries node .canceledPolicy)
            start.cancellationPrimaries } := by
    intro nodes
    induction nodes with
    | nil => exact fun _ => rfl
    | cons node rest ih =>
      intro start
      rw [List.foldl_cons, ih]
      rfl
  simp only [folded]
  obtain ⟨kept, members, fresh⟩ := foldl_or_insert control.nodeCancels.keys .canceledPolicy
    control.cancellationPrimaries
  refine ⟨⟨kept, ?_, fun _ => rfl⟩, id, ?_, fun _ => id, ?_⟩
  · intro primary held
    rw [held]
    rfl
  · intro node member
    rcases (members node).mp member with earlier | running
    · exact .inl earlier
    · exact .inr (AList.mem_keys.mpr running)
  · intro start
    refine ⟨?_, ?_, ?_, ?_, fun _ => rfl, start.cut, start.timed, ?_⟩
    · intro node found
      by_cases earlier : node ∈ control.cancellationPrimaries
      · obtain ⟨cause, held⟩ := Option.isSome_iff_exists.mp (AList.lookup_isSome.mpr earlier)
        have same := kept node cause held
        rw [found] at same
        cases same
        rw [start.workflow node held]
        rfl
      · have cause := fresh node earlier _ found
        cases cause
    · intro workflow
      rcases Option.or_eq_some_iff.mp workflow with earlier | ⟨_, policy⟩
      · exact start.outside earlier
      · cases policy
    · intro _
      cases recorded : control.rootCancellationPrimary with
      | none => exact .inl rfl
      | some cause =>
        by_cases policy : cause = .canceledPolicy
        · left
          rw [policy]
          rfl
        · rcases start.inside (start.rooted (by rw [recorded]; rfl)) with same | external
          · rw [recorded] at same
            cases same
            exact absurd rfl policy
          · exact .inr external
    · intro primary _ _ node member
      exact (members node).mpr (.inr (AList.mem_keys.mp member))
    · intro policy
      rcases Option.or_eq_some_iff.mp policy with earlier | ⟨recorded, _⟩
      · exact start.fired earlier
      · exact forces recorded

theorem arm_cleanup : Causal grounds control (control.armCleanup inv anchorMs) := by
  unfold Control.armCleanup
  split
  · exact of_same rfl rfl (fun _ => id) id .inl id .inl
  · exact refl control

theorem observe_stop (arm : SchedulerArm)
    (timed : arm = .absoluteCutoff → grounds.active) :
    Causal grounds control (control.observeArm arm).stop := by
  refine of_same rfl rfl (fun _ => id) id .inl (fun _ => rfl) ?_
  intro observed
  rcases Finset.mem_insert.mp observed with same | earlier
  · exact .inr ⟨rfl, timed same.symm⟩
  · exact .inl earlier

theorem stop_or (flag : Bool) :
    Causal grounds control { control with stopScheduling := control.stopScheduling || flag } :=
  of_same rfl rfl (fun _ => id) id .inl (by intro held; simp [held]) .inl

theorem head (arrives : external = true → grounds.arrived) :
    Causal grounds control (control.head external) := by
  refine (sample_observe control arrives).trans ?_
  unfold Control.head
  simp only
  split
  · exact of_same rfl rfl (fun _ => id) id .inl id .inl
  · exact refl _

theorem release : Causal grounds control (control.release node) :=
  of_same rfl rfl (fun _ member => (AList.mem_erase.mp member).2) id .inl id .inl

theorem terminalize (transfers : List (NodeId × Except BridgeError Bool)) :
    Causal grounds control (control.terminalize transfers) :=
  of_same rfl rfl (fun _ => id) id .inl id .inl

theorem note_budget (failure : AccountingFailure) :
    Causal grounds control (control.noteBudget failure) :=
  of_same rfl rfl (fun _ => id) id .inl id .inl

theorem note_refusal (primaryError : Option BridgeError) :
    Causal grounds control (control.noteRefusal primaryError) := by
  unfold Control.noteRefusal
  cases primaryError with
  | none => exact refl control
  | some error =>
    simp only
    split
    · exact note_budget control _
    · exact refl control

theorem stop_on_budget : Causal grounds control control.stopOnBudget :=
  stop_or control control.budgetFailure.isSome

theorem apply_arbitration (batch : ArbitratedReadyBatch Ready)
    (control : Control) (timed : grounds.active) :
    Causal grounds control (control.applyArbitration inv anchorMs batch) := by
  simp only [Control.applyArbitration]
  have named : NodePrimaryDisposition.canceledPolicy = .canceledWorkflow → False := by
    intro same
    cases same
  by_cases applied : batch.cutoffApplied = true
  · simp only [applied, if_true]
    refine ((arm_cleanup control inv anchorMs).trans (cancel_nodes .canceledPolicy _ _ ?_)).trans
      (observe_stop _ _ fun _ => timed)
    exact fun same => absurd same named
  · simp only [applied]
    exact cancel_nodes .canceledPolicy _ _ fun same => absurd same named

theorem stop_arm (arm : SchedulerArm) (control : Control)
    (seen : arm = .workflowOrExternalCancellation → control.cancelled = true)
    (timed : arm = .absoluteCutoff → grounds.active) :
    Causal grounds control (control.stopArm inv anchorMs arm) := by
  refine ((observe_stop control arm timed).trans (arm_cleanup _ inv anchorMs)).trans
    (cancel_nodes _ _ _ ?_)
  intro named
  have cancellation : arm = .workflowOrExternalCancellation := by
    by_contra other
    rw [if_neg other] at named
    cases named
  unfold Control.armCleanup
  split <;> exact seen cancellation

theorem apply_action (action : PolicyAction)
    (forces : action = .globalCancelAndDrain → control.rootCancellationPrimary = none →
      grounds.forced) : Causal grounds control (control.applyAction action) := by
  cases action with
  | none | armManualGrace => exact refl control
  | cancelRunningSiblings =>
    exact cancel_nodes .canceledPolicy _ _ (by intro same; cases same)
  | globalCancelAndDrain => exact global_cancel control (forces rfl)

theorem reopened {turn : Turn} (control : Control) (announced : turn.Announced grounds.arrived) :
    Causal grounds control (control.reopened turn) := by
  simp only [Control.reopened]
  refine ((sample_observe control announced.afterPublish).trans
    (sample _ announced.beforeAdmission)).trans ?_
  split
  · exact of_same rfl rfl (fun _ => id) id .inl (fun _ => rfl) .inl
  · exact refl _

end Causal

end Control

end A2aBridge.Workflow
