import A2aBridge.FanOutLaw

/-!
A controller restored after a crash. The live controller selects its trigger from a batch; a
restored one is given the trigger and the persisted records, and checks by another route that
they belong together. Both routes accept the same triggers, and after a committed
acknowledgement the two controllers are one state.
-/

namespace A2aBridge.Workflow.FanOutCalls

open StatefulRefusal

/-! What restoring accepts. -/

section Records

variable {terminals : TerminalMap} {node : NodeId} {record : NodeTerminal} {holds : NodeTerminal → Bool}

section

variable (found : terminals.lookup node = some record) (counted : holds record = true)

include found counted

theorem counted_once_unique (once : (terminals.entries.map fun entry => entry.2).countP holds = 1) :
    ∀ other known, terminals.lookup other = some known → holds known = true → other = node := by
  intro other known located also
  rw [List.countP_map, List.countP_eq_length_filter, List.length_eq_one_iff] at once
  obtain ⟨only, same⟩ := once
  have first : (⟨node, record⟩ : Sigma fun _ : NodeId => NodeTerminal) ∈
      terminals.entries.filter (holds ∘ fun entry => entry.2) :=
    List.mem_filter.mpr ⟨AList.mem_lookup_iff.mp found, counted⟩
  have second : (⟨other, known⟩ : Sigma fun _ : NodeId => NodeTerminal) ∈
      terminals.entries.filter (holds ∘ fun entry => entry.2) :=
    List.mem_filter.mpr ⟨AList.mem_lookup_iff.mp located, also⟩
  rw [same, List.mem_singleton] at first second
  have equal := second.trans first.symm
  cases equal
  rfl

theorem counted_once
    (others : ∀ other known, terminals.lookup other = some known → other ≠ node →
      holds known = false) : (terminals.entries.map fun entry => entry.2).countP holds = 1 := by
  rw [List.countP_map, List.countP_eq_length_filter, List.length_eq_one_iff]
  refine ⟨⟨node, record⟩, List.perm_singleton.mp ?_⟩
  have distinct := terminals.nodupKeys.nodup.filter (holds ∘ fun entry => entry.2)
  rw [List.perm_ext_iff_of_nodup distinct (List.nodup_singleton _)]
  rintro ⟨other, known⟩
  rw [List.mem_filter, List.mem_singleton]
  constructor
  · rintro ⟨member, also⟩
    have located := AList.mem_lookup_iff.mpr member
    by_cases same : other = node
    · subst same
      rw [Option.mem_def, found] at located
      cases located
      rfl
    · rw [Function.comp_apply, others other known located same] at also
      cases also
  · rintro ⟨rfl, rfl⟩
    exact ⟨AList.mem_lookup_iff.mp found, counted⟩

end

end Records

/-- A map from nodes to references: every node once, every reference once. -/
structure Identified (nodeRefs : NodeRefs) : Prop where
  names : (nodeRefs.map Prod.fst).Nodup
  references : (nodeRefs.map Prod.snd).Nodup

variable {nodeRefs : NodeRefs}

theorem lookup_mem {node : NodeId} {reference : PolicyNodeRef}
    (found : nodeRefs.lookup node = some reference) : (node, reference) ∈ nodeRefs := by
  obtain ⟨early, late, same, _⟩ := List.lookup_eq_some_iff.mp found
  rw [same]
  exact List.mem_append_right early List.mem_cons_self

theorem Identified.lookup_iff (identified : Identified nodeRefs) (node : NodeId)
    (reference : PolicyNodeRef) :
    nodeRefs.lookup node = some reference ↔
      (nodeRefs.find? fun entry => entry.2 == reference) = some (node, reference) := by
  obtain ⟨names, references⟩ := identified
  induction nodeRefs with
  | nil => simp
  | cons first rest ih =>
    obtain ⟨name, known⟩ := first
    rw [List.map_cons, List.nodup_cons] at names references
    have later := ih names.2 references.2
    by_cases sameName : node = name
    · subst sameName
      by_cases sameRef : known = reference
      · simp [sameRef]
      · have absent : (node, reference) ∉ rest :=
          fun member => names.1 (List.mem_map.mpr ⟨_, member, rfl⟩)
        have missed : (rest.find? fun entry => entry.2 == reference) ≠ some (node, reference) :=
          fun found => absent (List.mem_of_find?_eq_some found)
        simp [sameRef, missed]
    · have differs : (node == name) = false := beq_eq_false_iff_ne.mpr sameName
      by_cases sameRef : known = reference
      · subst sameRef
        have absent : (node, known) ∉ rest :=
          fun member => references.1 (List.mem_map.mpr ⟨_, member, rfl⟩)
        have missed : rest.lookup node ≠ some known := fun found => absent (lookup_mem found)
        simp [List.lookup_cons, differs, missed, Ne.symm sameName]
      · simp [List.lookup_cons, differs, sameRef, later]

/-- The one record that carries the trigger's id. -/
structure Selects (terminals : TerminalMap) (node : NodeId) (id : String) : Prop where
  marked : ∃ record, terminals.lookup node = some record ∧ isQualifyingFailure record = true ∧
    record.policyTriggerId = some id
  others : ∀ other record, terminals.lookup other = some record → other ≠ node →
    record.policyTriggerId = none

/-- Restoring a new controller accepts the trigger that the live controller makes for the node
that the records mark, and no other. -/
theorem restore_accepts_iff (identified : Identified nodeRefs) (policy : FanOutPolicy)
    (attemptId : String) (trigger : PolicyTrigger) (terminals : TerminalMap) :
    (FanOutController.new policy).refusesRestore attemptId trigger terminals nodeRefs = false ↔
      policy ≠ .boundedIndependent ∧ ∃ node reference, nodeRefs.lookup node = some reference ∧
        Selects terminals node trigger.id ∧
        trigger = (FanOutController.new policy).triggerFor attemptId reference := by
  have chosen : ∀ node, (nodeRefs.find? fun entry => entry.2 == trigger.node).map Prod.fst =
      some node ↔ nodeRefs.lookup node = some trigger.node := by
    intro node
    rw [identified.lookup_iff]
    constructor
    · intro found
      obtain ⟨entry, located, rfl⟩ := Option.map_eq_some_iff.mp found
      have same := List.find?_some located
      rw [located]
      simp only [beq_iff_eq] at same
      rw [← same]
    · intro found
      rw [found]
      rfl
  simp only [FanOutController.refusesRestore, Bool.or_eq_false_iff]
  constructor
  · rintro ⟨⟨⟨⟨⟨⟨⟨⟨⟨_, _⟩, dependent⟩, version⟩, event⟩, named⟩, graced⟩, valid⟩, once⟩, foreign⟩
    simp only [bne_eq_false_iff_eq, beq_eq_false_iff_ne] at dependent version event named graced once
    rw [Bool.not_eq_false', Option.any_eq_true] at valid
    obtain ⟨record, located, judged⟩ := valid
    obtain ⟨node, selected, found⟩ := Option.bind_eq_some_iff.mp located
    rw [Bool.and_eq_true, beq_iff_eq] at judged
    refine ⟨dependent, node, trigger.node, (chosen node).mp selected,
      ⟨⟨record, found, judged.1, judged.2⟩, ?_⟩, ?_⟩
    · intro other known at_ differs
      -- Every id that occurs is the trigger's, and that one occurs once.
      by_contra some
      obtain ⟨id, carries⟩ := Option.ne_none_iff_exists'.mp some
      rw [List.any_eq_false] at foreign
      have member : known ∈ terminals.entries.map fun entry => entry.2 :=
        List.mem_map.mpr ⟨⟨other, known⟩, AList.mem_lookup_iff.mp at_, rfl⟩
      have native := foreign known member
      simp only [carries, Option.any_some, bne_iff_ne, ne_eq, not_not] at native
      exact differs (counted_once_unique found (by simp [judged.2]) once other known at_
        (by simp [carries, native]))
    · cases trigger
      simp_all [FanOutController.triggerFor, FanOutController.new]
  · rintro ⟨dependent, node, reference, known, ⟨⟨record, found, qualifies, marked⟩, others⟩, same⟩
    have version : trigger.schemaVersion = EXECUTION_POLICY_SCHEMA_V1 := by rw [same]; rfl
    have event : trigger.id = controlEventIdForAttempt attemptId 0 := by rw [same]; rfl
    have named : trigger.policy = policy.name := by rw [same]; rfl
    have graced : trigger.graceMs = policy.graceMs := by rw [same]; rfl
    have noted : trigger.node = reference := by rw [same]; rfl
    have selected := (chosen node).mpr (noted ▸ known)
    have once : (terminals.entries.map fun entry => entry.2).countP
        (fun terminal => terminal.policyTriggerId == some trigger.id) = 1 := by
      apply counted_once found
      · simp [marked]
      · intro other known at_ differs
        simp [others other known at_ differs]
    refine ⟨⟨⟨⟨⟨⟨⟨⟨⟨rfl, rfl⟩, ?_⟩, ?_⟩, ?_⟩, ?_⟩, ?_⟩, ?_⟩, ?_⟩, ?_⟩
    · exact beq_eq_false_iff_ne.mpr dependent
    · simp [version]
    · simp [event]
    · simp [named, FanOutController.new]
    · simp [graced, FanOutController.new]
    · rw [selected]
      simp [found, qualifies, marked]
    · simp only [once]
      rfl
    · rw [List.any_eq_false]
      intro held member
      obtain ⟨entry, inside, rfl⟩ := List.mem_map.mp member
      have located : terminals.lookup entry.1 = some entry.2 := AList.mem_lookup_iff.mpr inside
      by_cases own : entry.1 = node
      · rw [own, found] at located
        cases located
        simp [marked]
      · simp [others entry.1 entry.2 located own]

/-! The live controller. -/

def leaves (controller : FanOutController) : List Call → FanOutController
  | [] => controller
  | call :: rest => leaves (call.entry controller).after rest

def batchCalls (attemptId : String) (nodeRefs : NodeRefs)
    (batches : List (List ReadyNodeTerminal × Bool)) : List Call :=
  batches.map fun batch => .finalize attemptId batch.1 nodeRefs batch.2

/-- The records a batch hands out to be persisted. -/
def Entry.emitted (entry : Entry) : List ReadyNodeTerminal :=
  match entry.answer with
  | .selected selection => selection.terminals
  | .acts _ | .restored | .refused _ => []

/-- A controller that has selected nothing, and one that waits for its barrier. -/
def idle (policy : FanOutPolicy) (stopped : Bool) : FanOutController :=
  { FanOutController.new policy with admissionStopped := stopped }

def sent (policy : FanOutPolicy) (trigger : PolicyTrigger) : FanOutController :=
  { FanOutController.new policy with
    trigger := some trigger
    barrierPending := true
    admissionStopped := true }

/-- The batch that selects: its records with the one it marks. -/
structure Marks (policy : FanOutPolicy) (attemptId : String) (nodeRefs : NodeRefs) (entry : Entry)
    (trigger : PolicyTrigger) (chosen : ReadyNodeTerminal) : Prop where
  dependent : policy ≠ .boundedIndependent
  selection : entry.selection = some trigger
  made : ∃ reference, nodeRefs.lookup chosen.node = some reference ∧
    trigger = (FanOutController.new policy).triggerFor attemptId reference
  qualifies : isQualifyingFailure chosen.terminal = true
  marked : chosen.terminal.policyTriggerId = some trigger.id
  present : chosen ∈ entry.emitted
  others : ∀ ready ∈ entry.emitted, ready = chosen ∨ ready.terminal.policyTriggerId = none

section Live

variable (policy : FanOutPolicy) (attemptId : String) (nodeRefs : NodeRefs)
  {terminals : List ReadyNodeTerminal}

section

variable (plain : ∀ ready ∈ terminals, ready.terminal.policyTriggerId = none)

include plain

theorem sorted_unmarked :
    ∀ ready ∈ terminals.insertionSort ReadyNodeTerminal.before,
      ready.terminal.policyTriggerId = none := by
  intro ready member
  exact plain ready ((List.mem_insertionSort _).mp member)

variable {entry : Entry}

theorem idle_batch (stopped observable : Bool)
    (same : entry = (Call.finalize attemptId terminals nodeRefs observable).entry (idle policy stopped)) :
    (entry.selection = none ∧ (∀ ready ∈ entry.emitted, ready.terminal.policyTriggerId = none) ∧
      ∃ closed, entry.after = idle policy closed) ∨
    ∃ trigger chosen, Marks policy attemptId nodeRefs entry trigger chosen ∧
      entry.after = sent policy trigger := by
  obtain ⟨_, _, move⟩ := entry_moves (.finalize attemptId terminals nodeRefs observable)
    (idle policy stopped)
  rw [← same] at move
  obtain ⟨before, call, answer, after⟩ := entry
  cases move with
  | refuses _ error _ =>
    left
    exact ⟨rfl, by simp [Entry.emitted], stopped, rfl⟩
  | closes =>
    left
    exact ⟨rfl, sorted_unmarked plain, true, rfl⟩
  | passes =>
    left
    exact ⟨rfl, sorted_unmarked plain, stopped, rfl⟩
  | selects _ _ _ node reference marked _ dependent _ known marking =>
    right
    obtain ⟨early, chosen, late, split, rfl, qualifies, -, rfl⟩ := mark_selected_split marking
    have others := split ▸ sorted_unmarked plain
    refine ⟨_, { chosen with terminal := { chosen.terminal with
        policyTriggerId := some (controlEventIdForAttempt attemptId 0) } },
      ⟨dependent, rfl, ⟨reference, known, rfl⟩, qualifies, rfl, ?_, ?_⟩, rfl⟩
    · simp [Entry.emitted]
    · intro ready member
      simp only [Entry.emitted, List.mem_append, List.mem_cons] at member
      rcases member with first | own | last
      · exact .inr (others ready (by simp [first]))
      · exact .inl own
      · exact .inr (others ready (by simp [last]))

theorem sent_batch (trigger : PolicyTrigger) (observable : Bool)
    (same : entry = (Call.finalize attemptId terminals nodeRefs observable).entry (sent policy trigger)) :
    entry.selection = none ∧ (∀ ready ∈ entry.emitted, ready.terminal.policyTriggerId = none) ∧
      entry.after = sent policy trigger := by
  obtain ⟨_, _, move⟩ := entry_moves (.finalize attemptId terminals nodeRefs observable)
    (sent policy trigger)
  rw [← same] at move
  obtain ⟨before, call, answer, after⟩ := entry
  cases move with
  | refuses _ error _ => exact ⟨rfl, by simp [Entry.emitted], rfl⟩
  | closes | passes => exact ⟨rfl, sorted_unmarked plain, rfl⟩
  | selects _ _ _ _ _ _ untriggered => cases untriggered

end

variable {batches : List (List ReadyNodeTerminal × Bool)}

section

variable (plain : ∀ batch ∈ batches, ∀ ready ∈ batch.1, ready.terminal.policyTriggerId = none)

include plain

theorem sent_batches (trigger : PolicyTrigger) :
    leaves (sent policy trigger) (batchCalls attemptId nodeRefs batches) = sent policy trigger ∧
      ∀ entry ∈ history (sent policy trigger) (batchCalls attemptId nodeRefs batches),
        entry.selection = none ∧ ∀ ready ∈ entry.emitted, ready.terminal.policyTriggerId = none := by
  induction batches with
  | nil => exact ⟨rfl, by simp [batchCalls, history]⟩
  | cons batch rest ih =>
    obtain ⟨unselected, unmarked, after⟩ := sent_batch policy attemptId nodeRefs
      (plain batch List.mem_cons_self) trigger batch.2 rfl
    obtain ⟨stays, quiet⟩ := ih fun other member => plain other (List.mem_cons_of_mem batch member)
    simp only [batchCalls, List.map_cons, leaves, history]
    rw [after]
    refine ⟨stays, ?_⟩
    exact List.forall_mem_cons.mpr ⟨⟨unselected, unmarked⟩, quiet⟩

/-- When some batch selects, the controller ends waiting for that trigger's barrier, and the
record it marked is the only one of the run that carries an id. -/
theorem idle_batches (stopped : Bool) {entry : Entry} {trigger : PolicyTrigger}
    (member : entry ∈ history (idle policy stopped) (batchCalls attemptId nodeRefs batches))
    (selected : entry.selection = some trigger) :
    leaves (idle policy stopped) (batchCalls attemptId nodeRefs batches) = sent policy trigger ∧
      ∃ chosen, Marks policy attemptId nodeRefs entry trigger chosen ∧
        ∀ other ∈ history (idle policy stopped) (batchCalls attemptId nodeRefs batches),
          ∀ ready ∈ other.emitted, ready = chosen ∨ ready.terminal.policyTriggerId = none := by
  induction batches generalizing stopped with
  | nil => simp [batchCalls, history] at member
  | cons batch rest ih =>
    have others := fun other member => plain other (List.mem_cons_of_mem batch member)
    simp only [batchCalls, List.map_cons, leaves, history] at member ⊢
    rcases idle_batch policy attemptId nodeRefs (plain batch List.mem_cons_self) stopped batch.2
        rfl with
      ⟨unselected, unmarked, closed, after⟩ | ⟨first, chosen, marks, after⟩
    · rw [after] at member ⊢
      rcases List.mem_cons.mp member with rfl | later
      · rw [selected] at unselected
        cases unselected
      · obtain ⟨ends, chosen, marks, only⟩ := ih others closed later
        refine ⟨ends, chosen, marks, ?_⟩
        exact List.forall_mem_cons.mpr ⟨fun ready emitted => .inr (unmarked ready emitted), only⟩
    · -- After the selecting batch no other batch selects.
      obtain ⟨stays, quiet⟩ := sent_batches policy attemptId nodeRefs others first
      rw [after] at member ⊢
      rcases List.mem_cons.mp member with rfl | later
      · rw [marks.selection] at selected
        cases selected
        refine ⟨stays, chosen, marks, ?_⟩
        exact List.forall_mem_cons.mpr ⟨marks.others,
          fun other among ready emitted => .inr ((quiet other among).2 ready emitted)⟩
      · rw [(quiet entry later).1] at selected
        cases selected

end

end Live

/-- The results that say the trigger is durable. -/
def Committed : PolicyTriggerBarrierResult → Prop
  | .servedPrimaryCommitted | .offlineHistoryCommitted => True
  | .offlineTelemetryUnavailable _ | .primaryFailed => False

theorem leaves_append (controller : FanOutController) (first second : List Call) :
    leaves controller (first ++ second) = leaves (leaves controller first) second := by
  induction first generalizing controller with
  | nil => rfl
  | cons call rest ih => exact ih (call.entry controller).after

/-- Restoring a new controller from what a live run persisted gives the live controller after
its committed acknowledgement, and restoring accepts no other trigger for those records. -/
theorem restored_controller_is_live {nodeRefs : NodeRefs} (identified : Identified nodeRefs)
    (policy : FanOutPolicy) (attemptId : String) (batches : List (List ReadyNodeTerminal × Bool))
    (plain : ∀ batch ∈ batches, ∀ ready ∈ batch.1, ready.terminal.policyTriggerId = none)
    {entry : Entry} {trigger : PolicyTrigger} {chosen : ReadyNodeTerminal}
    (member : entry ∈ history (.new policy) (batchCalls attemptId nodeRefs batches))
    (selected : entry.selection = some trigger) (emitted : chosen ∈ entry.emitted)
    (marked : chosen.terminal.policyTriggerId = some trigger.id)
    {result : PolicyTriggerBarrierResult} (committed : Committed result) (terminals : TerminalMap)
    (persisted : terminals.lookup chosen.node = some chosen.terminal)
    (others : ∀ node record, terminals.lookup node = some record → node ≠ chosen.node →
      record.policyTriggerId = none ∨
        ∃ other ∈ history (.new policy) (batchCalls attemptId nodeRefs batches),
          ⟨node, record⟩ ∈ other.emitted) :
    (∃ restored, restoreCommittedTrigger attemptId trigger terminals nodeRefs (.new policy) =
        .ok () restored ∧
      restored.trigger = (leaves (.new policy) (batchCalls attemptId nodeRefs batches ++
        [.acknowledge result false])).trigger ∧
      restored.admissionStopped = (leaves (.new policy) (batchCalls attemptId nodeRefs batches ++
        [.acknowledge result false])).admissionStopped ∧
      ∀ calls, (history restored calls).map Entry.answer =
        (history (leaves (.new policy) (batchCalls attemptId nodeRefs batches ++
          [.acknowledge result false])) calls).map Entry.answer) ∧
    (∀ forged, forged ≠ trigger →
      restoreCommittedTrigger attemptId forged terminals nodeRefs (.new policy) =
        .error .invalidRestoredTrigger (.new policy)) := by
  obtain ⟨sends, found, marks, only⟩ := idle_batches policy attemptId nodeRefs plain false member
    selected
  have own : chosen = found := by
    rcases marks.others chosen emitted with same | unmarked
    · exact same
    · rw [marked] at unmarked
      cases unmarked
  subst own
  have selects : Selects terminals chosen.node trigger.id := by
    refine ⟨⟨chosen.terminal, persisted, marks.qualifies, marked⟩, ?_⟩
    intro node record located differs
    rcases others node record located differs with unmarked | ⟨other, inside, emits⟩
    · exact unmarked
    · rcases only other inside _ emits with same | unmarked
      · exact absurd (congrArg ReadyNodeTerminal.node same) differs
      · exact unmarked
  have live : leaves (.new policy) (batchCalls attemptId nodeRefs batches ++
      [.acknowledge result false]) = { FanOutController.new policy with
        trigger := some trigger
        admissionStopped := true
        manualGraceArmed := policy.graceMs.isSome } := by
    rw [leaves_append]
    change leaves (leaves (idle policy false) _) _ = _
    rw [sends]
    change ((Call.acknowledge result false).entry (sent policy trigger)).after = _
    have authorized : FanOutController.authorized result = true := by
      cases result with
      | servedPrimaryCommitted | offlineHistoryCommitted => rfl
      | offlineTelemetryUnavailable | primaryFailed => exact committed.elim
    obtain ⟨_, _, move⟩ := entry_moves (.acknowledge result false) (sent policy trigger)
    generalize (Call.acknowledge result false).entry (sent policy trigger) = entry at move ⊢
    obtain ⟨before, call, answer, after⟩ := entry
    cases move with
    | refuses _ _ unacknowledged => exact absurd rfl (unacknowledged result false)
    | ignores _ _ unsent => cases unsent
    | drains _ _ _ rejected =>
      rw [authorized] at rejected
      rcases rejected with observed | rejected
      · cases observed
      · cases rejected
    | settles _ _ _ independent => exact absurd independent marks.dependent
    | cancels _ _ _ failFast =>
      have same : policy = .failFast := failFast
      subst same
      rfl
    | arms _ graceMs _ _ grace =>
      have same : policy = .fixedGrace graceMs := grace
      subst same
      rfl
  rw [live]
  constructor
  · obtain ⟨reference, known, made⟩ := marks.made
    have accepted := (restore_accepts_iff identified policy attemptId trigger terminals).mpr
      ⟨marks.dependent, chosen.node, reference, known, selects, made⟩
    refine ⟨_, ?_, rfl, rfl, fun _ => rfl⟩
    simp only [restoreCommittedTrigger, get_bind, accepted]
    rfl
  · intro forged differs
    have refused :
        (FanOutController.new policy).refusesRestore attemptId forged terminals nodeRefs =
          true := by
      by_contra accepts
      obtain ⟨_, node, reference, known, claims, made⟩ :=
        (restore_accepts_iff identified policy attemptId forged terminals).mp
          (Bool.not_eq_true _ ▸ accepts)
      obtain ⟨record, located, _, carries⟩ := claims.marked
      -- The records mark one node, so both triggers are made from its reference.
      have same : node = chosen.node := by
        by_contra other
        rw [selects.others node record located other] at carries
        cases carries
      obtain ⟨own, recorded, original⟩ := marks.made
      rw [same, recorded, Option.some.injEq] at known
      apply differs
      rw [made, original, known]
    simp only [restoreCommittedTrigger, get_bind, refused, if_true]
    rfl

/-! One failed node under a fixed grace. -/

def sampleRefs : NodeRefs := [("a", ⟨0, "a"⟩)]

def sampleTrigger : PolicyTrigger :=
  (FanOutController.new (.fixedGrace 5)).triggerFor "attempt" ⟨0, "a"⟩

def persistedTerminals : TerminalMap :=
  (∅ : TerminalMap).insert "a" { failedTerminal with policyTriggerId := some "attempt:policy:0" }

theorem sample_restored_controller_is_live :
    ∃ restored, restoreCommittedTrigger "attempt" sampleTrigger persistedTerminals sampleRefs
        (.new (.fixedGrace 5)) = .ok () restored ∧
      restored.trigger = some sampleTrigger ∧
      ∀ calls, (history restored calls).map Entry.answer =
        (history (leaves (.new (.fixedGrace 5)) (batchCalls "attempt" sampleRefs
          [([⟨"a", failedTerminal⟩], false)] ++ [.acknowledge .servedPrimaryCommitted false]))
            calls).map Entry.answer := by
  have identified : Identified sampleRefs := ⟨by decide, by decide⟩
  obtain ⟨⟨restored, restoring, trigger, _, answers⟩, _⟩ := restored_controller_is_live identified
    (.fixedGrace 5) "attempt" [([⟨"a", failedTerminal⟩], false)] (by simp [failedTerminal])
    (List.mem_singleton.mpr rfl) (by rfl) (List.mem_singleton.mpr rfl) (by rfl)
    (show Committed .servedPrimaryCommitted from trivial) persistedTerminals
    (AList.lookup_insert _) (by
      intro node record located differs
      rw [persistedTerminals, AList.lookup_insert_ne differs] at located
      cases located)
  exact ⟨restored, restoring, trigger, answers⟩

/-- A workflow cancellation that is observable at the acknowledgement leaves the live grace
unarmed, while the restored controller arms it. -/
theorem cancelled_acknowledgement_is_not_restored :
    ((history (leaves (.new (.fixedGrace 5)) (batchCalls "attempt" sampleRefs
      [([⟨"a", failedTerminal⟩], false)] ++ [.acknowledge .servedPrimaryCommitted true]))
        [.expire]).map Entry.answer) = [.acts .none] ∧
    ((history (leaves (.new (.fixedGrace 5))
      [.restore "attempt" sampleTrigger persistedTerminals sampleRefs]) [.expire]).map Entry.answer) =
        [.acts .cancelRunningSiblings] := by
  decide +kernel

end A2aBridge.Workflow.FanOutCalls
