import A2aBridge.FanOutCalls

/-!
The law of the fan-out controller. Every entry of a history is judged by the entries before
it; the controller's four flags summarise that past, and one invariant says how.
-/

namespace A2aBridge.Workflow.FanOutCalls

open Histories

namespace Entry

variable (entry : Entry)

def selection : Option PolicyTrigger :=
  match entry.answer with
  | .selected selection => selection.trigger
  | .acts _ | .restored | .refused _ => none

def selects : Bool := entry.selection.isSome

def restores : Bool := entry.answer == .restored

def cancels : Bool := entry.answer == .acts .cancelRunningSiblings

/-- The acknowledgement that the controller was waiting for, by its verdict. -/
def Acknowledges (verdict observable : Bool) : Prop :=
  ∃ result, entry.call = .acknowledge result observable ∧ entry.before.barrierPending = true ∧
    FanOutController.authorized result = verdict

/-- An accepted batch with a failure, finalized with no cancellation observable. -/
def Offers : Prop :=
  ∃ attemptId terminals nodeRefs selection,
    entry.call = .finalize attemptId terminals nodeRefs false ∧ entry.answer = .selected selection ∧
    ∃ ready ∈ terminals, isQualifyingFailure ready.terminal = true

end Entry

/-- What the entries before it say about an entry. -/
structure Rightful (policy : FanOutPolicy) (past : List Entry) (entry : Entry) : Prop where
  single : (entry.selects || entry.restores) = true →
    ∀ earlier ∈ past, (earlier.selects || earlier.restores) = false
  least : ∀ trigger, entry.selection = some trigger →
    policy ≠ .boundedIndependent ∧ ∃ attemptId terminals nodeRefs node,
      entry.call = .finalize attemptId terminals nodeRefs false ∧ IsLeastFailure terminals node ∧
      nodeRefs.lookup node = some trigger.node ∧
      trigger = (FanOutController.new policy).triggerFor attemptId trigger.node
  first : entry.Offers → policy ≠ .boundedIndependent →
    (entry.selects = true ↔ ∀ earlier ∈ past, ¬ earlier.Offers ∧ earlier.restores = false)
  cancel : entry.cancels = true →
    (∀ earlier ∈ past, earlier.cancels = false) ∧
    (∀ earlier ∈ past, ∀ observable, ¬ earlier.Acknowledges false observable) ∧
    (entry.Acknowledges true false ∨
      entry.call = .expire ∧ ∃ earlier ∈ past, earlier.Acknowledges true false ∨
        earlier.restores = true)
  closed : entry.before.admissionStopped = true ∨
      (∃ earlier ∈ past, earlier.after.admissionStopped = true) →
    entry.after.admissionStopped = true
  unchanged : ∀ error, entry.answer = .refused error → entry.after = entry.before

/-- How the controller summarises its past. -/
structure Standing (policy : FanOutPolicy) (past : List Entry) (controller : FanOutController) :
    Prop where
  kept : controller.policy = policy
  offering : ∀ entry ∈ past, entry.selects = true → entry.Offers
  held : controller.trigger.isSome = true ↔
    ∃ entry ∈ past, (entry.selects || entry.restores) = true
  offered : controller.trigger = none → policy ≠ .boundedIndependent →
    ∀ entry ∈ past, ¬ entry.Offers
  untriggered : controller.trigger = none → ∀ entry ∈ past, entry.cancels = false ∧
    ∀ observable, ¬ entry.Acknowledges false observable
  pending : controller.barrierPending = true → controller.trigger.isSome = true ∧
    controller.manualGraceArmed = false ∧
    ∀ entry ∈ past, entry.cancels = false ∧ ∀ observable, ¬ entry.Acknowledges false observable
  armed : controller.manualGraceArmed = true → controller.trigger.isSome = true ∧
    (∃ entry ∈ past, entry.Acknowledges true false ∨ entry.restores = true) ∧
    (∀ entry ∈ past, ∀ observable, ¬ entry.Acknowledges false observable) ∧
    (controller.manualGraceExpired = false → ∀ entry ∈ past, entry.cancels = false)
  closed : (∃ entry ∈ past, entry.after.admissionStopped = true) → controller.admissionStopped = true

section Steps

variable {policy : FanOutPolicy} {past : List Entry} {before after : FanOutController}
  {entry : Entry}

/-- An entry that neither sets a trigger nor cancels nor rejects, and leaves the flags that
authorise a cancellation. -/
structure Plain (before after : FanOutController) (entry : Entry) : Prop where
  quiet : entry.selects = false ∧ entry.restores = false ∧ entry.cancels = false
  accepting : ∀ observable, ¬ entry.Acknowledges false observable
  offers : entry.Offers → before.trigger.isSome = true ∨ before.policy = .boundedIndependent
  policy : after.policy = before.policy
  trigger : after.trigger = before.trigger
  pending : after.barrierPending = true → before.barrierPending = true
  grace : after.manualGraceArmed = before.manualGraceArmed ∧
    after.manualGraceExpired = before.manualGraceExpired
  stopped : before.admissionStopped = true → after.admissionStopped = true
  result : entry.before = before ∧ entry.after = after

variable (standing : Standing policy past before)

include standing

theorem Standing.plain (plain : Plain before after entry) :
    Standing policy (past ++ [entry]) after := by
  obtain ⟨⟨unselected, unrestored, uncancelled⟩, accepting, offers, samePolicy, sameTrigger, pending,
    ⟨armed, expired⟩, stopped, _, result⟩ := plain
  have kept := standing.kept
  constructor
  · rw [samePolicy, kept]
  · grind [standing.offering]
  · rw [sameTrigger, standing.held]
    grind
  · grind [standing.offered]
  · grind [standing.untriggered]
  · grind [standing.pending]
  · grind [standing.armed]
  · grind [standing.closed]

theorem Rightful.plain (plain : Plain before after entry)
    (unchanged : ∀ error, entry.answer = .refused error → entry.after = entry.before) :
    Rightful policy past entry := by
  obtain ⟨⟨unselected, unrestored, uncancelled⟩, _, offers, samePolicy, sameTrigger, pending,
    _, stopped, origin, result⟩ := plain
  have kept := standing.kept
  constructor
  · simp [unselected, unrestored]
  · intro trigger chosen
    simp [Entry.selects, chosen] at unselected
  · intro offering dependent
    -- The batch was passed over because a trigger is held, which an earlier entry set.
    rcases offers offering with set | independent
    · obtain ⟨earlier, member, sets⟩ := standing.held.mp set
      have offered := standing.offering earlier member
      grind
    · exact absurd (kept ▸ independent) dependent
  · simp [uncancelled]
  · have closed := standing.closed
    grind
  · exact unchanged

theorem Standing.unset (untriggered : before.trigger = none) :
    ∀ earlier ∈ past, (earlier.selects || earlier.restores) = false := by
  intro earlier member
  by_contra sets
  have holds := standing.held.mpr ⟨earlier, member, Bool.not_eq_false _ ▸ sets⟩
  rw [untriggered] at holds
  cases holds

variable {attemptId : String} {nodeRefs : NodeRefs}

theorem step_selects (untriggered : before.trigger = none)
    (dependent : before.policy ≠ .boundedIndependent) {terminals marked : List ReadyNodeTerminal}
    {node : NodeId} {reference : PolicyNodeRef} (least : IsLeastFailure terminals node)
    (known : nodeRefs.lookup node = some reference)
    (same : entry = ⟨before, .finalize attemptId terminals nodeRefs false,
      .selected ⟨marked, some (before.triggerFor attemptId reference)⟩,
      { before with
        trigger := some (before.triggerFor attemptId reference)
        barrierPending := true
        admissionStopped := true }⟩) :
    Rightful policy past entry ∧ Standing policy (past ++ [entry]) entry.after := by
  have kept := standing.kept
  have unset := standing.unset untriggered
  have selected : entry.selects = true := by
    rw [same]
    rfl
  have offers : entry.Offers := by
    obtain ⟨ready, member, _, qualifies⟩ := least.1
    exact ⟨attemptId, terminals, nodeRefs, _, by rw [same], by rw [same], ready, member, qualifies⟩
  constructor
  · have first := standing.offered untriggered (kept ▸ dependent)
    refine ⟨fun _ => unset, ?_, by grind, ?_, ?_, ?_⟩ <;> subst same
    · intro trigger chosen
      cases chosen
      refine ⟨kept ▸ dependent, attemptId, terminals, nodeRefs, node, rfl, least, known, ?_⟩
      rw [← kept]
      rfl
    · exact nofun
    · exact fun _ => rfl
    · exact nofun
  · have quiet := standing.untriggered untriggered
    have unarmed : before.manualGraceArmed = false := by
      by_contra armed
      have holds := (standing.armed (Bool.not_eq_false _ ▸ armed)).1
      rw [untriggered] at holds
      cases holds
    have still : entry.cancels = false ∧ ∀ observable, ¬ entry.Acknowledges false observable := by
      rw [same]
      exact ⟨rfl, by simp [Entry.Acknowledges]⟩
    have after : entry.after.policy = policy ∧ entry.after.trigger.isSome = true ∧
        entry.after.manualGraceArmed = false ∧ entry.after.admissionStopped = true := by
      rw [same]
      exact ⟨kept, rfl, unarmed, rfl⟩
    constructor
    · exact after.1
    all_goals grind [standing.offering]

theorem step_restores (untriggered : before.trigger = none) (unsent : before.barrierPending = false)
    {trigger : PolicyTrigger} {terminals : TerminalMap}
    (same : entry = ⟨before, .restore attemptId trigger terminals nodeRefs, .restored,
      { before with
        trigger := some trigger
        admissionStopped := true
        manualGraceArmed := before.policy.graceMs.isSome }⟩) :
    Rightful policy past entry ∧ Standing policy (past ++ [entry]) entry.after := by
  have kept := standing.kept
  have unset := standing.unset untriggered
  have still : entry.selects = false ∧ entry.restores = true ∧ entry.cancels = false ∧
      (∀ observable, ¬ entry.Acknowledges false observable) ∧ ¬ entry.Offers := by
    rw [same]
    exact ⟨rfl, rfl, rfl, by simp [Entry.Acknowledges], by simp [Entry.Offers]⟩
  constructor
  · refine ⟨fun _ => unset, ?_, fun offers => absurd offers still.2.2.2.2, ?_, ?_, ?_⟩ <;> subst same
    · exact nofun
    · exact nofun
    · exact fun _ => rfl
    · exact nofun
  · have quiet := standing.untriggered untriggered
    have after : entry.after.policy = policy ∧ entry.after.trigger.isSome = true ∧
        entry.after.barrierPending = false ∧ entry.after.admissionStopped = true := by
      rw [same]
      exact ⟨kept, rfl, unsent, rfl⟩
    constructor
    · exact after.1
    all_goals grind [standing.offering]

theorem step_acknowledges (pending : before.barrierPending = true)
    {result : PolicyTriggerBarrierResult} {observable armed : Bool} {action : PolicyAction}
    (cancelling : action = .cancelRunningSiblings →
      FanOutController.authorized result = true ∧ observable = false ∧ armed = false)
    (arming : armed = true → FanOutController.authorized result = true ∧ observable = false)
    (same : entry = ⟨before, .acknowledge result observable, .acts action,
      { before with barrierPending := false, manualGraceArmed := armed }⟩) :
    Rightful policy past entry ∧ Standing policy (past ++ [entry]) entry.after := by
  have kept := standing.kept
  obtain ⟨triggered, unarmed, quiet⟩ := standing.pending pending
  have acknowledges : ∀ verdict seen, entry.Acknowledges verdict seen ↔
      seen = observable ∧ FanOutController.authorized result = verdict := by
    intro verdict seen
    rw [same]
    constructor
    · rintro ⟨other, called, _, judged⟩
      cases called
      exact ⟨rfl, judged⟩
    · rintro ⟨rfl, judged⟩
      exact ⟨result, rfl, pending, judged⟩
  have still : entry.selects = false ∧ entry.restores = false ∧ ¬ entry.Offers := by
    rw [same]
    exact ⟨rfl, rfl, by simp [Entry.Offers]⟩
  have cancels : entry.cancels = true → action = .cancelRunningSiblings := by
    rw [same]
    simp [Entry.cancels]
  constructor
  · refine ⟨by simp [still], ?_, fun offers => absurd offers still.2.2, ?_, ?_, ?_⟩
    · subst same
      exact nofun
    · intro holds
      obtain ⟨authorized, unobserved, _⟩ := cancelling (cancels holds)
      refine ⟨fun earlier member => (quiet earlier member).1,
        fun earlier member => (quiet earlier member).2, .inl ?_⟩
      exact (acknowledges true false).mpr ⟨unobserved.symm, authorized⟩
    · subst same
      exact fun stopped => stopped.elim id standing.closed
    · subst same
      exact nofun
  · rw [show entry.after = { before with barrierPending := false, manualGraceArmed := armed } by
      rw [same]]
    constructor
    · exact kept
    all_goals grind [standing.offering, standing.held, standing.closed]

theorem step_expires
    (armed : before.manualGraceArmed = true) (running : before.manualGraceExpired = false)
    (same : entry = ⟨before, .expire, .acts .cancelRunningSiblings,
      { before with manualGraceExpired := true }⟩) :
    Rightful policy past entry ∧ Standing policy (past ++ [entry]) entry.after := by
  have kept := standing.kept
  obtain ⟨triggered, cause, accepted, uncancelled⟩ := standing.armed armed
  have unsent : before.barrierPending = false := by
    by_contra pending
    have unarmed := (standing.pending (Bool.not_eq_false _ ▸ pending)).2.1
    rw [armed] at unarmed
    cases unarmed
  have still : entry.selects = false ∧ entry.restores = false ∧ ¬ entry.Offers ∧
      ∀ verdict observable, ¬ entry.Acknowledges verdict observable := by
    rw [same]
    exact ⟨rfl, rfl, by simp [Entry.Offers], by simp [Entry.Acknowledges]⟩
  constructor
  · refine ⟨by simp [still], ?_, fun offers => absurd offers still.2.2.1, fun _ =>
      ⟨uncancelled running, accepted, .inr ⟨by rw [same], cause⟩⟩, ?_, ?_⟩ <;> subst same
    · exact nofun
    · exact fun stopped => stopped.elim id standing.closed
    · exact nofun
  · rw [show entry.after = { before with manualGraceExpired := true } by rw [same]]
    constructor
    · exact kept
    all_goals grind [standing.offering, standing.held, standing.closed]

theorem move_step {call : Call} {answer : Answer} (move : Move before call answer after) :
    Rightful policy past ⟨before, call, answer, after⟩ ∧
      Standing policy (past ++ [⟨before, call, answer, after⟩]) after := by
  have passing : Plain before after ⟨before, call, answer, after⟩ →
      (∀ error, answer = .refused error → after = before) →
      Rightful policy past ⟨before, call, answer, after⟩ ∧
        Standing policy (past ++ [⟨before, call, answer, after⟩]) after :=
    fun plain unchanged => ⟨Rightful.plain standing plain unchanged, standing.plain plain⟩
  -- An acknowledgement the controller waits for leaves the grace unarmed unless it arms it.
  have unarmed : before.barrierPending = true → before.manualGraceArmed = true → False := by
    intro pending armed
    have not := (standing.pending pending).2.1
    rw [armed] at not
    cases not
  cases move with
  | refuses _ error unacknowledged =>
    refine passing ⟨⟨rfl, rfl, rfl⟩, ?_, by simp [Entry.Offers], rfl, rfl, id, ⟨rfl, rfl⟩, id, rfl,
      rfl⟩ fun _ _ => rfl
    rintro observable ⟨result, called, _⟩
    exact unacknowledged result observable called
  | closes attemptId terminals nodeRefs =>
    exact passing ⟨⟨rfl, rfl, rfl⟩, by simp [Entry.Acknowledges], by simp [Entry.Offers], rfl, rfl, id,
      ⟨rfl, rfl⟩, fun _ => rfl, rfl, rfl⟩ nofun
  | passes attemptId terminals nodeRefs held =>
    refine passing ⟨⟨rfl, rfl, rfl⟩, by simp [Entry.Acknowledges], ?_, rfl, rfl, id, ⟨rfl, rfl⟩, id,
      rfl, rfl⟩ nofun
    rintro ⟨_, _, _, _, called, _, ready, member, qualifies⟩
    cases called
    rcases held with set | independent | harmless
    · exact .inl set
    · exact .inr independent
    · rw [harmless ready member] at qualifies
      cases qualifies
  | selects attemptId terminals nodeRefs node reference marked untriggered dependent least known =>
    exact step_selects standing untriggered dependent least known rfl
  | ignores result observable unsent =>
    exact passing ⟨⟨rfl, rfl, rfl⟩, by simp [Entry.Acknowledges, unsent], by simp [Entry.Offers], rfl,
      rfl, id, ⟨rfl, rfl⟩, id, rfl, rfl⟩ nofun
  | drains result observable pending rejected | settles result pending authorized independent =>
    exact step_acknowledges standing pending (by nofun) (fun armed => absurd armed (unarmed pending)) rfl
  | cancels result pending authorized failFast =>
    exact step_acknowledges standing pending
      (fun _ => ⟨authorized, rfl, Bool.not_eq_true _ ▸ unarmed pending⟩)
      (fun armed => absurd armed (unarmed pending)) rfl
  | arms result graceMs pending authorized grace =>
    exact step_acknowledges standing pending (by nofun) (fun _ => ⟨authorized, rfl⟩) rfl
  | rests resting =>
    exact passing ⟨⟨rfl, rfl, rfl⟩, by simp [Entry.Acknowledges], by simp [Entry.Offers], rfl, rfl, id,
      ⟨rfl, rfl⟩, id, rfl, rfl⟩ nofun
  | expires armed running => exact step_expires standing armed running rfl
  | restores attemptId trigger terminals nodeRefs untriggered unsent dependent =>
    exact step_restores standing untriggered unsent rfl

end Steps

theorem history_rightful (policy : FanOutPolicy) (calls : List Call) (past : List Entry)
    (controller : FanOutController) (standing : Standing policy past controller) :
    Along (Rightful policy) past (history controller calls) := by
  induction calls generalizing past controller with
  | nil => trivial
  | cons call rest ih =>
    obtain ⟨origin, called, move⟩ := entry_moves call controller
    have same : call.entry controller =
        ⟨controller, call, (call.entry controller).answer, (call.entry controller).after⟩ := by
      cases entry : call.entry controller with
      | mk before made answer after =>
        rw [entry] at origin called
        cases origin
        cases called
        rfl
    obtain ⟨rightful, stands⟩ := move_step standing move
    rw [← same] at rightful stands
    exact ⟨rightful, ih _ _ stands⟩

/-- The law of the controller: of all calls at most one sets a trigger and at most one
authorises the cancellation of siblings, and every call is rightful after those before it. -/
theorem fan_out_controller_law (policy : FanOutPolicy) (calls : List Call) :
    ((history (.new policy) calls).filter fun entry => entry.selects || entry.restores).length ≤ 1 ∧
    ((history (.new policy) calls).filter Entry.cancels).length ≤ 1 ∧
    Along (Rightful policy) [] (history (.new policy) calls) := by
  have rightful := history_rightful policy calls [] (.new policy)
    (by constructor <;> simp [FanOutController.new])
  refine ⟨?_, ?_, rightful⟩
  · apply along_at_most_once _ rightful
    intro past entry holds sets
    exact holds.single sets
  · apply along_at_most_once _ rightful
    intro past entry holds cancels
    exact (holds.cancel cancels).1

/-! Calls no executor makes: a batch after a cancelled one, and results nobody waits for. -/

def failedTerminal : NodeTerminal where
  schemaVersion := EXECUTION_POLICY_SCHEMA_V1
  primary := .failed
  cleanup := ⟨.notNeeded, 0⟩
  cause := none
  promptMayHaveBeenAccepted := true
  degradedAncestry := false
  policyTriggerId := none

def failedBatch (observable : Bool) : Call :=
  .finalize "attempt" [⟨"a", failedTerminal⟩] [("a", ⟨0, "a"⟩)] observable

/-- A trigger is selected although admission was stopped by an earlier batch, and siblings are
cancelled after an acknowledgement of primary failure that the controller did not wait for. -/
theorem unawaited_calls_break_the_law :
    ((history (.new .failFast) [.finalize "attempt" [] [] true, failedBatch false]).any fun entry =>
      entry.before.admissionStopped && entry.selects) = true ∧
    ((history (.new .failFast) [.acknowledge .primaryFailed false, failedBatch false,
      .acknowledge .servedPrimaryCommitted false]).map Entry.answer).getLast? =
        some (.acts .cancelRunningSiblings) := by
  decide +kernel

end A2aBridge.Workflow.FanOutCalls
