import A2aBridge.FanOut
import A2aBridge.Histories
import A2aBridge.StatefulRefusal

/-!
The fan-out controller over every sequence of calls. Its methods are written here as they
mutate the controller, so that a refused call leaves what it had written; they are shown to
compute what the functions of the model say. What one call can do is one relation, and the law
of a whole history is read off it with an invariant of the controller and its past.
-/

namespace A2aBridge.Workflow

open StatefulRefusal Histories

namespace FanOutCalls

/-! The methods in place. -/

abbrev InPlace := EStateM FanOutControllerError FanOutController

def restoreCommittedTrigger (attemptId : String) (trigger : PolicyTrigger)
    (terminals : TerminalMap) (nodeRefs : NodeRefs) : InPlace Unit := do
  let controller ← get
  if controller.refusesRestore attemptId trigger terminals nodeRefs then
    throw .invalidRestoredTrigger
  else
    modify fun controller => { controller with trigger := some trigger }
    modify fun controller => { controller with admissionStopped := true }
    modify fun controller =>
      { controller with manualGraceArmed := controller.policy.graceMs.isSome }

def finalizeReadyBatch (attemptId : String) (terminals : List ReadyNodeTerminal)
    (nodeRefs : NodeRefs) (workflowCancelObservableBeforeWait : Bool) :
    InPlace ReadyBatchSelection := do
  let sorted := terminals.insertionSort ReadyNodeTerminal.before
  if anyAdjacent (fun left right => left.node == right.node) sorted then
    throw .duplicateReadyNode
  else if workflowCancelObservableBeforeWait then
    modify fun controller => { controller with admissionStopped := true }
    return { terminals := sorted, trigger := none }
  else
    let controller ← get
    if controller.trigger.isSome || controller.policy == .boundedIndependent then
      return { terminals := sorted, trigger := none }
    else
      match markSelected (controlEventIdForAttempt attemptId 0) sorted with
      | none => return { terminals := sorted, trigger := none }
      | some (selected, marked) =>
        match nodeRefs.lookup selected with
        | none => throw .missingNodeReference
        | some node =>
          let trigger := controller.triggerFor attemptId node
          modify fun controller => { controller with trigger := some trigger }
          modify fun controller => { controller with barrierPending := true }
          modify fun controller => { controller with admissionStopped := true }
          return { terminals := marked, trigger := some trigger }

def acknowledgeBarrier (result : PolicyTriggerBarrierResult)
    (workflowCancelObservableAfterAck : Bool) : InPlace PolicyAction := do
  let controller ← get
  if !controller.barrierPending then
    return .none
  else
    modify fun controller => { controller with barrierPending := false }
    if workflowCancelObservableAfterAck then
      return .globalCancelAndDrain
    else if !FanOutController.authorized result then
      return .globalCancelAndDrain
    else
      match controller.policy with
      | .boundedIndependent => return .none
      | .failFast => return .cancelRunningSiblings
      | .fixedGrace graceMs =>
        modify fun controller => { controller with manualGraceArmed := true }
        return .armManualGrace graceMs

def expireManualGrace : InPlace PolicyAction := do
  let controller ← get
  if !controller.manualGraceArmed || controller.manualGraceExpired then
    return .none
  else
    modify fun controller => { controller with manualGraceExpired := true }
    return .cancelRunningSiblings

/-! The methods compute the functions of the model, and a refusal has written nothing. -/

variable {batch : List ReadyNodeTerminal} (controller : FanOutController)

theorem restore_in_place (attemptId : String)
    (trigger : PolicyTrigger) (terminals : TerminalMap) (nodeRefs : NodeRefs) :
    restoreCommittedTrigger attemptId trigger terminals nodeRefs controller =
      match controller.restoreCommittedTrigger attemptId trigger terminals nodeRefs with
      | .ok after => .ok () after
      | .error error => .error error controller := by
  simp only [restoreCommittedTrigger, get_bind, FanOutController.restoreCommittedTrigger]
  split <;> rfl

theorem finalize_in_place (attemptId : String)
    (terminals : List ReadyNodeTerminal) (nodeRefs : NodeRefs) (observable : Bool) :
    finalizeReadyBatch attemptId terminals nodeRefs observable controller =
      match controller.finalizeReadyBatch attemptId terminals nodeRefs observable with
      | .ok (selection, after) => .ok selection after
      | .error error => .error error controller := by
  simp only [finalizeReadyBatch, FanOutController.finalizeReadyBatch]
  split
  · rfl
  split
  · rfl
  simp only [get_bind]
  split
  · rfl
  cases markSelected (controlEventIdForAttempt attemptId 0)
      (terminals.insertionSort ReadyNodeTerminal.before) with
  | none => rfl
  | some pair =>
    simp only
    cases nodeRefs.lookup pair.1 with
    | none | some => rfl

theorem acknowledge_in_place (result : PolicyTriggerBarrierResult) (observable : Bool) :
    acknowledgeBarrier result observable controller =
      .ok (controller.acknowledgeBarrier result observable).1
        (controller.acknowledgeBarrier result observable).2 := by
  simp only [acknowledgeBarrier, FanOutController.acknowledgeBarrier, get_bind]
  split
  · rfl
  simp only [modify_bind]
  split
  · rfl
  split
  · rfl
  cases controller.policy with
  | boundedIndependent | failFast | fixedGrace => rfl

theorem expire_in_place :
    expireManualGrace controller =
      .ok controller.expireManualGrace.1 controller.expireManualGrace.2 := by
  simp only [expireManualGrace, FanOutController.expireManualGrace, get_bind]
  split <;> rfl

/-! Calls and their histories. -/

inductive Call where
  | finalize (attemptId : String) (terminals : List ReadyNodeTerminal) (nodeRefs : NodeRefs)
      (cancelObservable : Bool)
  | acknowledge (result : PolicyTriggerBarrierResult) (cancelObservable : Bool)
  | expire
  | restore (attemptId : String) (trigger : PolicyTrigger) (terminals : TerminalMap)
      (nodeRefs : NodeRefs)

inductive Answer where
  | selected (selection : ReadyBatchSelection)
  | acts (action : PolicyAction)
  | restored
  | refused (error : FanOutControllerError)
  deriving DecidableEq

def Call.method : Call → InPlace Answer
  | .finalize attemptId terminals nodeRefs cancelObservable =>
    Answer.selected <$> finalizeReadyBatch attemptId terminals nodeRefs cancelObservable
  | .acknowledge result cancelObservable => Answer.acts <$> acknowledgeBarrier result cancelObservable
  | .expire => Answer.acts <$> expireManualGrace
  | .restore attemptId trigger terminals nodeRefs =>
    (fun _ => Answer.restored) <$> restoreCommittedTrigger attemptId trigger terminals nodeRefs

/-- One call of a history, with the controller it found and the one it left. -/
structure Entry where
  before : FanOutController
  call : Call
  answer : Answer
  after : FanOutController

def Call.entry (call : Call) (controller : FanOutController) : Entry :=
  match call.method controller with
  | .ok answer after => ⟨controller, call, answer, after⟩
  | .error error after => ⟨controller, call, .refused error, after⟩

def history (controller : FanOutController) : List Call → List Entry
  | [] => []
  | call :: rest => call.entry controller :: history (call.entry controller).after rest

/-- The node ids of a batch's failures, and the least of them. -/
def IsLeastFailure (terminals : List ReadyNodeTerminal) (node : NodeId) : Prop :=
  (∃ ready ∈ terminals, ready.node = node ∧ isQualifyingFailure ready.terminal = true) ∧
    ∀ ready ∈ terminals, isQualifyingFailure ready.terminal = true → node ≤ ready.node

/-- Everything one call can do. -/
inductive Move (before : FanOutController) : Call → Answer → FanOutController → Prop where
  | refuses (call error) :
      (∀ result observable, call ≠ .acknowledge result observable) →
      Move before call (.refused error) before
  | closes (attemptId terminals nodeRefs) :
      Move before (.finalize attemptId terminals nodeRefs true)
        (.selected ⟨terminals.insertionSort ReadyNodeTerminal.before, none⟩)
        { before with admissionStopped := true }
  | passes (attemptId terminals nodeRefs) :
      (before.trigger.isSome = true ∨ before.policy = .boundedIndependent ∨
        ∀ ready ∈ terminals, isQualifyingFailure ready.terminal = false) →
      Move before (.finalize attemptId terminals nodeRefs false)
        (.selected ⟨terminals.insertionSort ReadyNodeTerminal.before, none⟩) before
  | selects (attemptId terminals nodeRefs node reference marked) :
      before.trigger = none → before.policy ≠ .boundedIndependent →
      IsLeastFailure terminals node → nodeRefs.lookup node = some reference →
      markSelected (controlEventIdForAttempt attemptId 0)
        (terminals.insertionSort ReadyNodeTerminal.before) = some (node, marked) →
      Move before (.finalize attemptId terminals nodeRefs false)
        (.selected ⟨marked, some (before.triggerFor attemptId reference)⟩)
        { before with
          trigger := some (before.triggerFor attemptId reference)
          barrierPending := true
          admissionStopped := true }
  | ignores (result observable) :
      before.barrierPending = false →
      Move before (.acknowledge result observable) (.acts .none) before
  | drains (result observable) :
      before.barrierPending = true →
      (observable = true ∨ FanOutController.authorized result = false) →
      Move before (.acknowledge result observable) (.acts .globalCancelAndDrain)
        { before with barrierPending := false }
  | settles (result : PolicyTriggerBarrierResult) :
      before.barrierPending = true → FanOutController.authorized result = true →
      before.policy = .boundedIndependent →
      Move before (.acknowledge result false) (.acts .none) { before with barrierPending := false }
  | cancels (result : PolicyTriggerBarrierResult) :
      before.barrierPending = true → FanOutController.authorized result = true →
      before.policy = .failFast →
      Move before (.acknowledge result false) (.acts .cancelRunningSiblings)
        { before with barrierPending := false }
  | arms (result graceMs) :
      before.barrierPending = true → FanOutController.authorized result = true →
      before.policy = .fixedGrace graceMs →
      Move before (.acknowledge result false) (.acts (.armManualGrace graceMs))
        { before with barrierPending := false, manualGraceArmed := true }
  | rests : (before.manualGraceArmed = true → before.manualGraceExpired = true) →
      Move before .expire (.acts .none) before
  | expires : before.manualGraceArmed = true → before.manualGraceExpired = false →
      Move before .expire (.acts .cancelRunningSiblings) { before with manualGraceExpired := true }
  | restores (attemptId trigger terminals nodeRefs) :
      before.trigger = none → before.barrierPending = false →
      before.policy ≠ .boundedIndependent →
      Move before (.restore attemptId trigger terminals nodeRefs) .restored
        { before with
          trigger := some trigger
          admissionStopped := true
          manualGraceArmed := before.policy.graceMs.isSome }

variable {id : String} {node : NodeId}

theorem mark_selected_none (unmarked : markSelected id batch = none) :
    ∀ ready ∈ batch, isQualifyingFailure ready.terminal = false := by
  induction batch with
  | nil =>
    intro ready member
    cases member
  | cons first rest ih =>
    unfold markSelected at unmarked
    split_ifs at unmarked with qualifies
    exact List.forall_mem_cons.mpr
      ⟨Bool.not_eq_true _ ▸ qualifies, ih (Option.map_eq_none_iff.mp unmarked)⟩

theorem mark_selected_least {marked : List ReadyNodeTerminal}
    (sorted : batch.Pairwise ReadyNodeTerminal.before)
    (chosen : markSelected id batch = some (node, marked)) : IsLeastFailure batch node := by
  obtain ⟨early, first, late, rfl, rfl, qualifies, harmless, -⟩ := mark_selected_split chosen
  refine ⟨⟨first, by simp, rfl, qualifies⟩, List.forall_mem_append.mpr ⟨?_, ?_⟩⟩
  · exact fun ready member failing => absurd failing (harmless ready member)
  · obtain ⟨least, -⟩ := List.pairwise_cons.mp (List.pairwise_append.mp sorted).2.1
    exact List.forall_mem_cons.mpr ⟨fun _ => le_refl _, fun ready later _ => least ready later⟩

instance : Std.Total ReadyNodeTerminal.before where
  total left right := le_total left.node right.node

instance : IsTrans ReadyNodeTerminal ReadyNodeTerminal.before where
  trans _ _ _ := le_trans

theorem least_of_sorted {terminals : List ReadyNodeTerminal}
    (least : IsLeastFailure (terminals.insertionSort ReadyNodeTerminal.before) node) :
    IsLeastFailure terminals node := by
  obtain ⟨⟨ready, member, named, qualifies⟩, smallest⟩ := least
  constructor
  · exact ⟨ready, (List.mem_insertionSort _).mp member, named, qualifies⟩
  · intro other among
    exact smallest other ((List.mem_insertionSort _).mpr among)

variable (before : FanOutController)

theorem finalize_moves (attemptId : String) (terminals : List ReadyNodeTerminal)
    (nodeRefs : NodeRefs) (observable : Bool) :
    match before.finalizeReadyBatch attemptId terminals nodeRefs observable with
    | .ok (selection, after) =>
      Move before (.finalize attemptId terminals nodeRefs observable) (.selected selection) after
    | .error _ => True := by
  simp only [FanOutController.finalizeReadyBatch]
  by_cases duplicate : anyAdjacent (fun left right => left.node == right.node)
      (terminals.insertionSort ReadyNodeTerminal.before) = true
  · simp [duplicate]
  simp only [duplicate]
  cases observable with
  | true => exact .closes attemptId terminals nodeRefs
  | false =>
    by_cases held : (before.trigger.isSome || before.policy == .boundedIndependent) = true
    · simp only [held]
      refine .passes attemptId terminals nodeRefs ?_
      rw [Bool.or_eq_true, beq_iff_eq] at held
      exact held.imp_right .inl
    · simp only [held]
      cases chosen : markSelected (controlEventIdForAttempt attemptId 0)
          (terminals.insertionSort ReadyNodeTerminal.before) with
      | none =>
        refine .passes attemptId terminals nodeRefs (.inr (.inr ?_))
        intro ready member
        exact mark_selected_none chosen ready ((List.mem_insertionSort _).mpr member)
      | some pair =>
        obtain ⟨node, marked⟩ := pair
        simp only
        cases known : nodeRefs.lookup node with
        | none => trivial
        | some reference =>
          simp only [Bool.or_eq_true, not_or, beq_iff_eq, Option.isSome_iff_ne_none, ne_eq,
            not_not] at held
          exact .selects attemptId terminals nodeRefs node reference marked held.1 held.2
            (least_of_sorted (mark_selected_least (List.pairwise_insertionSort _ _) chosen))
            known chosen

theorem acknowledge_moves (result : PolicyTriggerBarrierResult) (observable : Bool) :
    Move before (.acknowledge result observable)
      (.acts (before.acknowledgeBarrier result observable).1)
      (before.acknowledgeBarrier result observable).2 := by
  unfold FanOutController.acknowledgeBarrier
  by_cases pending : before.barrierPending = true
  · rw [if_neg (by simp [pending])]
    by_cases observed : observable = true
    · rw [if_pos observed]
      exact .drains result observable pending (.inl observed)
    · rw [if_neg observed]
      rw [Bool.not_eq_true] at observed
      subst observed
      by_cases authorized : FanOutController.authorized result = true
      · rw [if_neg (by simp [authorized])]
        obtain ⟨policy, trigger, barrier, stopped, armed, expired⟩ := before
        cases policy with
        | boundedIndependent => exact .settles result pending authorized rfl
        | failFast => exact .cancels result pending authorized rfl
        | fixedGrace graceMs => exact .arms result graceMs pending authorized rfl
      · rw [if_pos (by simp [authorized])]
        exact .drains result false pending (.inr (Bool.not_eq_true _ ▸ authorized))
  · rw [if_pos (by simp [pending])]
    exact .ignores result observable (Bool.not_eq_true _ ▸ pending)

theorem expire_moves :
    Move before .expire (.acts before.expireManualGrace.1) before.expireManualGrace.2 := by
  unfold FanOutController.expireManualGrace
  by_cases armed : before.manualGraceArmed = true
  · by_cases expired : before.manualGraceExpired = true
    · rw [if_pos (by simp [expired])]
      exact .rests fun _ => expired
    · rw [if_neg (by simp [armed, expired])]
      exact .expires armed (Bool.not_eq_true _ ▸ expired)
  · rw [if_pos (by simp [armed])]
    exact .rests fun holds => absurd holds armed

theorem restore_moves {before after : FanOutController} {attemptId : String}
    {trigger : PolicyTrigger} {terminals : TerminalMap} {nodeRefs : NodeRefs}
    (restored : before.restoreCommittedTrigger attemptId trigger terminals nodeRefs = .ok after) :
    Move before (.restore attemptId trigger terminals nodeRefs) .restored after := by
  simp only [FanOutController.restoreCommittedTrigger] at restored
  split_ifs at restored with accepted
  cases restored
  simp only [FanOutController.refusesRestore, Bool.or_eq_true, not_or, beq_iff_eq] at accepted
  obtain ⟨⟨⟨⟨⟨⟨⟨⟨⟨untriggered, unsent⟩, dependent⟩, _⟩, _⟩, _⟩, _⟩, _⟩, _⟩, _⟩ := accepted
  exact .restores attemptId trigger terminals nodeRefs
    (Option.not_isSome_iff_eq_none.mp untriggered) (Bool.not_eq_true _ ▸ unsent) dependent

/-- The entry of a call is about it, and says what it did. -/
abbrev Call.Recorded (call : Call) (before : FanOutController) : Prop :=
  (call.entry before).before = before ∧ (call.entry before).call = call ∧
    Move before call (call.entry before).answer (call.entry before).after

section Entries

variable {call : Call} {before after : FanOutController} {α : Type} {method : InPlace α}
  {error : FanOutControllerError}

theorem map_of_ok {value : α} (wrap : α → Answer) (ran : method before = .ok value after) :
    (wrap <$> method) before = .ok (wrap value) after := by
  exact bind_of_ok ran

theorem map_of_error (wrap : α → Answer) (ran : method before = .error error before) :
    (wrap <$> method) before = .error error before := by
  exact bind_of_error ran

theorem entry_of_ok {answer : Answer} (ran : call.method before = .ok answer after)
    (moves : Move before call answer after) : call.Recorded before := by
  simp only [Call.Recorded, Call.entry, ran]
  exact ⟨trivial, trivial, moves⟩

theorem entry_of_error (ran : call.method before = .error error before)
    (unacknowledged : ∀ result observable, call ≠ .acknowledge result observable) :
    call.Recorded before := by
  simp only [Call.Recorded, Call.entry, ran]
  exact ⟨trivial, trivial, .refuses _ error unacknowledged⟩

end Entries

theorem entry_moves (call : Call) (before : FanOutController) : call.Recorded before := by
  cases call with
  | finalize attemptId terminals nodeRefs observable =>
    have moves := finalize_moves before attemptId terminals nodeRefs observable
    have computes := finalize_in_place before attemptId terminals nodeRefs observable
    generalize before.finalizeReadyBatch attemptId terminals nodeRefs observable = outcome
      at moves computes
    cases outcome with
    | ok pair => exact entry_of_ok (map_of_ok Answer.selected computes) moves
    | error error => exact entry_of_error (map_of_error _ computes) nofun
  | acknowledge result observable =>
    exact entry_of_ok (map_of_ok Answer.acts (acknowledge_in_place before result observable))
      (acknowledge_moves before result observable)
  | expire =>
    exact entry_of_ok (map_of_ok Answer.acts (expire_in_place before)) (expire_moves before)
  | restore attemptId trigger terminals nodeRefs =>
    have computes := restore_in_place before attemptId trigger terminals nodeRefs
    cases outcome : before.restoreCommittedTrigger attemptId trigger terminals nodeRefs with
    | ok after =>
      rw [outcome] at computes
      exact entry_of_ok (map_of_ok (fun _ => .restored) computes) (restore_moves outcome)
    | error error =>
      rw [outcome] at computes
      exact entry_of_error (map_of_error _ computes) nofun

end FanOutCalls

end A2aBridge.Workflow
