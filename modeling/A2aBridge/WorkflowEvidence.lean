import A2aBridge.FanOutCalls
import A2aBridge.WorkflowSweep

/-!
The evidence of published completions. A completion is published with the text of its
terminal record; the node that became the policy trigger also carries the trigger's text and
the result of its barrier, once the controller has been given that result. The evidence of
that node is parked while its barrier is out, so the invariant has to follow it from the
batch that selects the trigger to the acknowledgement.
-/

namespace A2aBridge.Workflow

open StatefulRefusal JobLedger Histories

def Policy.trigger (policy : Policy) : Option PolicyTrigger :=
  policy.controller.bind FanOutController.trigger

/-- Evidence that backs a record when it is published after `past`. -/
structure Backs (codec : EvidenceCodec) (trigger : Option PolicyTrigger) (past : List Moment)
    (record : NodeTerminal) (evidence : NodeEvidence) : Prop where
  terminal : canonicalTerminalJson codec record = .ok evidence.terminalJson
  selected : record.policyTriggerId.isSome = true → ∃ held text result, trigger = some held ∧
    canonicalTriggerJson codec held = .ok text ∧ evidence.policyTriggerJson = some text ∧
    evidence.barrierResult = some result ∧ Moment.acknowledged result ∈ past

/-- A published completion carries evidence that backs its node's record. -/
def Carries (codec : EvidenceCodec) (terminals : TerminalMap) (trigger : Option PolicyTrigger)
    (past : List Moment) (moment : Moment) : Prop :=
  ∀ node ok output usage terminalJson triggerJson barrierResult,
    moment = .yielded (.nodeFinished node ok output usage terminalJson triggerJson barrierResult) →
    ∃ record evidence, terminals.lookup node = some record ∧
      terminalJson = some evidence.terminalJson ∧ triggerJson = evidence.policyTriggerJson ∧
      barrierResult = evidence.barrierResult ∧ Backs codec trigger past record evidence

def Traced (inv : Invocation) (run : Run) : Prop :=
  Along (Carries inv.codec run.progress.nodeTerminals run.policy.trigger) [] run.trace

/-- Records and the trigger are only added. -/
structure Keeps (before after : Run) : Prop where
  records : ∀ node record, before.progress.nodeTerminals.lookup node = some record →
    after.progress.nodeTerminals.lookup node = some record
  trigger : ∀ trigger, before.policy.trigger = some trigger → after.policy.trigger = some trigger

variable {codec : EvidenceCodec} {trigger : Option PolicyTrigger} {inv : Invocation} {after : Run}

section Monotone

variable {later : Option PolicyTrigger} {past : List Moment} {record : NodeTerminal}
  {evidence : NodeEvidence}

theorem Backs.mono (backs : Backs codec trigger past record evidence)
    (kept : ∀ held, trigger = some held → later = some held) (more : List Moment) :
    Backs codec later (past ++ more) record evidence := by
  refine ⟨backs.terminal, ?_⟩
  intro chosen
  obtain ⟨held, text, result, present, encoded, carried, answered, known⟩ := backs.selected chosen
  exact ⟨held, text, result, kept held present, encoded, carried, answered,
    List.mem_append_left more known⟩

theorem Backs.plain (encoded : canonicalTerminalJson codec record = .ok evidence.terminalJson)
    (unselected : record.policyTriggerId = none) : Backs codec trigger past record evidence := by
  refine ⟨encoded, ?_⟩
  intro chosen
  rw [unselected] at chosen
  cases chosen

variable {before : Run}

theorem Keeps.carries (keeps : Keeps before after) (past : List Moment) (moment : Moment)
    (carries : Carries inv.codec before.progress.nodeTerminals before.policy.trigger past moment) :
    Carries inv.codec after.progress.nodeTerminals after.policy.trigger past moment := by
  intro node ok output usage terminalJson triggerJson barrierResult same
  obtain ⟨record, evidence, found, text, trigger, result, backs⟩ :=
    carries node ok output usage terminalJson triggerJson barrierResult same
  refine ⟨record, evidence, keeps.records node record found, text, trigger, result, ?_⟩
  have longer := backs.mono keeps.trigger []
  rwa [List.append_nil] at longer

/-- Moments that are not completions carry nothing. -/
def Moment.isFinish : Moment → Bool
  | .yielded (.nodeFinished ..) => true
  | _ => false

theorem carries_silent {terminals : TerminalMap} {moment : Moment}
    (silent : moment.isFinish = false) : Carries codec terminals trigger past moment := by
  intro node ok output usage terminalJson triggerJson barrierResult same
  rw [same] at silent
  cases silent

variable {more : List Moment}

section

variable (traced : Traced inv before) (keeps : Keeps before after)
  (trace : after.trace = before.trace ++ more)

include traced keeps trace

theorem Traced.append
    (carried : Along (Carries inv.codec after.progress.nodeTerminals after.policy.trigger)
      before.trace more) :
    Traced inv after := by
  unfold Traced
  rw [trace, along_append, List.nil_append]
  exact ⟨along_mono keeps.carries traced, carried⟩

theorem Traced.silent (silent : ∀ moment ∈ more, moment.isFinish = false) : Traced inv after := by
  apply traced.append keeps trace
  apply along_of_forall
  intro moment member _
  exact carries_silent (silent moment member)

end

theorem Keeps.of_same (terminals : after.progress.nodeTerminals = before.progress.nodeTerminals)
    (trigger : after.policy.trigger = before.policy.trigger) : Keeps before after :=
  ⟨fun _ _ found => terminals ▸ found, fun _ found => trigger ▸ found⟩

end Monotone

/-! The invariant. -/

structure Evidential (inv : Invocation) (run : Run) : Prop where
  traced : Traced inv run
  controlled : run.policy.controller.isSome = true
  single : run.policy.durableTriggerAcknowledgement.isSome = true →
    run.policy.durableTriggerBarrier = none
  parked : run.policy.barrierSelectedEvidence.isSome = run.policy.isOut
  closed : ∀ node evidence, run.policy.barrierSelectedEvidence = some (node, evidence) →
    ∃ record text held, run.progress.nodeTerminals.lookup node = some record ∧
      canonicalTerminalJson inv.codec record = .ok evidence.terminalJson ∧
      run.policy.trigger = some held ∧ canonicalTriggerJson inv.codec held = .ok text ∧
      evidence.policyTriggerJson = some text
  held : ∀ completed ∈ run.retained.completed,
    (∃ evidence, run.policy.barrierSelectedEvidence = some (completed.node, evidence)) ∨
    ∃ record evidence, run.progress.nodeTerminals.lookup completed.node = some record ∧
      run.retained.evidence.lookup completed.node = some evidence ∧
      Backs inv.codec run.policy.trigger run.trace record evidence

/-- A phase that touches neither the barrier nor what is held, and announces no completion. -/
structure Steady (before after : Run) : Prop where
  keeps : Keeps before after
  controlled : after.policy.controller.isSome = before.policy.controller.isSome
  barrier : after.policy.durableTriggerBarrier = before.policy.durableTriggerBarrier
  acknowledgement : after.policy.durableTriggerAcknowledgement =
    before.policy.durableTriggerAcknowledgement
  parked : after.policy.barrierSelectedEvidence = before.policy.barrierSelectedEvidence
  retained : after.retained = before.retained
  trace : ∃ more, after.trace = before.trace ++ more ∧ ∀ moment ∈ more, moment.isFinish = false

theorem Steady.of_control (run : Run) (control : Control) :
    Steady run { run with control := control } :=
  ⟨Keeps.of_same rfl rfl, rfl, rfl, rfl, rfl, rfl, [], by simp, by simp⟩

theorem Steady.refl (run : Run) : Steady run run := Steady.of_control run run.control

variable {terminals : List ReadyNodeTerminal}

theorem Evidential.steady {before : Run} (evidential : Evidential inv before)
    (steady : Steady before after) : Evidential inv after := by
  obtain ⟨more, trace, silent⟩ := steady.trace
  have keeps := steady.keeps
  have out : after.policy.isOut = before.policy.isOut := by
    unfold Policy.isOut
    rw [steady.barrier, steady.acknowledgement]
  refine ⟨evidential.traced.silent keeps trace silent, ?_, ?_, ?_, ?_, ?_⟩
  · rw [steady.controlled]
    exact evidential.controlled
  · rw [steady.acknowledgement, steady.barrier]
    exact evidential.single
  · rw [steady.parked, out]
    exact evidential.parked
  · rw [steady.parked]
    intro node evidence parked
    obtain ⟨record, text, trigger, found, encoded, triggered, spelled, carried⟩ :=
      evidential.closed node evidence parked
    exact ⟨record, text, trigger, keeps.records node record found, encoded,
      keeps.trigger trigger triggered, spelled, carried⟩
  · rw [steady.retained, steady.parked, trace]
    intro completed member
    rcases evidential.held completed member with parked | ⟨record, evidence, found, kept, backs⟩
    · exact .inl parked
    · exact .inr ⟨record, evidence, keeps.records _ record found, kept,
        backs.mono keeps.trigger more⟩

/-! The wait and the arms. -/

/-- A pass that is woken by completions while the trigger's barrier is out does not find the
barrier resolved. -/
def PollsQuietly (run : Run) (turn : Turn) : Prop :=
  (∃ first rest, turn.signal = .completions first rest) →
    run.policy.durableTriggerBarrier.isSome = true → turn.barrierPoll = none

variable {received : Received} {turn : Turn} {text : Option String} {run : Run}

/-- Under a quiet poll only the acknowledgement itself moves the barrier, and its arm acts on
it in the same pass. -/
theorem receive_policy (quiet : PollsQuietly run turn)
    (heard : receive inv turn run = some received) :
    received.run.policy = run.policy ∨
      received.arm = .durableTriggerBarrierAcknowledgements ∧
        run.policy.durableTriggerBarrier.isSome = true ∧
        ∃ result, received.run.policy = { run.policy with
          durableTriggerBarrier := none
          durableTriggerAcknowledgement := some result } := by
  cases receive_heard heard with
  | @batch first rest ready _ signal taken =>
    left
    have polled : run.policy.poll inv turn.barrierPoll = run.policy := by
      unfold Policy.poll
      split
      · rename_i pending
        rw [quiet ⟨first, rest, signal⟩ (Bool.and_eq_true_iff.mp pending).2]
      · rfl
    by_cases active : inv.schedulerActive = true
    · rw [drain_active active]
      exact polled
    · rw [drain_inactive active]
      exact polled
  | result signal sent => exact .inr ⟨rfl, sent, _, rfl⟩
  | control signal active enabled => exact .inl rfl

theorem Evidential.receive (evidential : Evidential inv run)
    (answered : run.policy.durableTriggerAcknowledgement = none) (quiet : PollsQuietly run turn)
    (heard : Workflow.receive inv turn run = some received) :
    Evidential inv received.run ∧
      (received.run.policy.durableTriggerAcknowledgement.isSome = true →
        received.arm = .durableTriggerBarrierAcknowledgements) := by
  have receives := receive_receives heard
  obtain ⟨left, progress, _⟩ := receives.progress
  have terminals : received.run.progress.nodeTerminals = run.progress.nodeTerminals := by
    rw [progress]
  rcases receive_policy quiet heard with same | ⟨arm, sent, result, moved⟩
  · constructor
    · apply evidential.steady
      constructor
      · exact Keeps.of_same terminals (by rw [same])
      · rw [same]
      · rw [same]
      · rw [same]
      · rw [same]
      · exact receives.retained
      · exact ⟨[], by rw [receives.trace, List.append_nil], by simp⟩
    · rw [same, answered]
      nofun
  · have trigger : received.run.policy.trigger = run.policy.trigger := by
      rw [moved]
      rfl
    have parked : received.run.policy.barrierSelectedEvidence =
        run.policy.barrierSelectedEvidence := by
      rw [moved]
    refine ⟨⟨?_, ?_, ?_, ?_, ?_, ?_⟩, fun _ => arm⟩
    · exact evidential.traced.silent (Keeps.of_same terminals trigger)
        (by rw [receives.trace, List.append_nil]) (by simp)
    · rw [moved]
      exact evidential.controlled
    · intro _
      rw [moved]
    · rw [parked, evidential.parked, moved]
      simp [Policy.isOut, sent]
    · rw [parked, terminals, trigger]
      exact evidential.closed
    · rw [receives.retained, parked, terminals, trigger, receives.trace]
      exact evidential.held

theorem Evidential.acknowledge {result : PolicyTriggerBarrierResult}
    (evidential : Evidential inv run) (cancelled : Bool)
    (answered : run.policy.durableTriggerAcknowledgement = some result) :
    Evidential inv (run.acknowledge result cancelled).2 ∧
      (run.acknowledge result cancelled).2.policy.durableTriggerAcknowledgement = none := by
  obtain ⟨controller, present⟩ := Option.isSome_iff_exists.mp evidential.controlled
  have unsent : run.policy.durableTriggerBarrier = none := evidential.single (by rw [answered]; rfl)
  have out : run.policy.barrierSelectedEvidence.isSome = true := by
    rw [evidential.parked]
    simp [Policy.isOut, answered]
  obtain ⟨⟨node, selected⟩, parked⟩ := Option.isSome_iff_exists.mp out
  obtain ⟨record, text, trigger, found, encoded, triggered, spelled, carried⟩ :=
    evidential.closed node selected parked
  obtain ⟨_, same, _⟩ := FanOutController.acknowledge_cases controller result cancelled
  have held : ((some (controller.acknowledgeBarrier result cancelled).2).bind
      FanOutController.trigger) = some trigger := by
    have earlier : controller.trigger = some trigger := by
      simpa [Policy.trigger, present] using triggered
    simpa [same] using earlier
  simp only [Run.acknowledge, present, parked]
  constructor
  · constructor
    · refine evidential.traced.silent ?_ rfl (by simp [Moment.isFinish])
      exact Keeps.of_same rfl (by rw [triggered]; exact held)
    · rfl
    · intro waiting
      cases waiting
    · simp [Policy.isOut, unsent]
    · intro _ _ still
      cases still
    · intro completed member
      right
      by_cases chosen : completed.node = node
      · refine ⟨record, { selected with barrierResult := some result }, by rw [chosen]; exact found,
          by rw [chosen]; exact AList.lookup_insert _, encoded, ?_⟩
        intro _
        exact ⟨trigger, text, result, held, spelled, carried, rfl, by simp⟩
      · rcases evidential.held completed member with ⟨evidence, other⟩ | ⟨known, evidence, at_, kept, backs⟩
        · rw [parked] at other
          cases other
          exact absurd rfl chosen
        · refine ⟨known, evidence, at_, (AList.lookup_insert_ne chosen).trans kept, ?_⟩
          apply backs.mono
          intro other was
          rw [triggered] at was
          cases was
          exact held
  · trivial

theorem grace_arm_steady :
    Ensured (fun _ after => Steady run after) (fun _ after => Steady run after)
      (graceArm inv turn run) := by
  refine (grace_arm_expires inv turn run).weaken ?_ ?_
  · rintro _ _ ⟨timer, controller, present, _, rfl⟩
    obtain ⟨_, trigger, _⟩ := FanOutController.expire_cases controller
    refine ⟨Keeps.of_same rfl ?_, ?_, rfl, rfl, rfl, rfl, [], by simp, by simp⟩
    · simpa [Policy.trigger, present] using trigger
    · simp [present]
  · rintro _ _ rfl
    exact Steady.of_control run _

theorem wait_arm_steady :
    Ensured (fun _ after => Steady run after) (fun _ after => Steady run after)
      (waitArm turn run) := by
  simp only [waitArm, get_bind]
  split
  · cases transferFailure run.control turn.transfers with
    | some error => exact Steady.refl run
    | none => exact Steady.of_control run _
  · exact Steady.of_control run _

theorem act_evidential (arm : SchedulerArm) (evidential : Evidential inv run)
    (pending : run.policy.durableTriggerAcknowledgement.isSome = true →
      arm = .durableTriggerBarrierAcknowledgements) :
    Ensured
      (fun _ after => Evidential inv after ∧ after.policy.durableTriggerAcknowledgement = none)
      (fun _ after => Traced inv after) (act inv turn arm run) := by
  by_cases acknowledging : arm = .durableTriggerBarrierAcknowledgements
  · subst acknowledging
    simp only [act, acknowledgeArm, modify_control_bind, get_bind]
    have observed := evidential.steady (Steady.of_control run
      (run.control.sampleObserve turn.cancelAtAcknowledgement))
    cases pending : run.policy.durableTriggerAcknowledgement with
    | none => exact ⟨observed, pending⟩
    | some result =>
      simp only [set_bind]
      obtain ⟨kept, answered⟩ := observed.acknowledge
        (run.control.sampleObserve turn.cancelAtAcknowledgement).cancelled pending
      generalize Run.acknowledge _ _ _ = outcome at kept answered ⊢
      obtain ⟨action, after⟩ := outcome
      cases action with
      | none => exact ⟨kept, answered⟩
      | cancelRunningSiblings | globalCancelAndDrain =>
        exact ⟨kept.steady (Steady.of_control after _), answered⟩
      | armManualGrace graceMs =>
        refine (arm_manual_grace_arms inv turn graceMs after).weaken ?_ ?_
        · rintro _ _ ⟨timer, dueMs, rfl⟩
          exact ⟨kept.steady (Steady.of_control after _), answered⟩
        · rintro _ _ rfl
          exact kept.traced
  · have answered : run.policy.durableTriggerAcknowledgement = none := by
      cases waiting : run.policy.durableTriggerAcknowledgement with
      | none => rfl
      | some result => exact absurd (pending (by rw [waiting]; rfl)) acknowledging
    have keep : ∀ after, Steady run after →
        Evidential inv after ∧ after.policy.durableTriggerAcknowledgement = none :=
      fun after steady => ⟨evidential.steady steady, steady.acknowledgement.trans answered⟩
    cases arm with
    | durableTriggerBarrierAcknowledgements => exact absurd rfl acknowledging
    | fixedGraceExpiry =>
      exact grace_arm_steady.weaken (fun _ => keep)
        (fun _ _ steady => (evidential.steady steady).traced)
    | waitForNodeActivityControlOrClock =>
      exact wait_arm_steady.weaken (fun _ => keep)
        (fun _ _ steady => (evidential.steady steady).traced)
    | drainReadyNodeCompletions | dueNoProgressSnapshots => exact keep run (Steady.refl run)
    | workflowOrExternalCancellation | absoluteCutoff | mechanicallyProvedImpossibility =>
      exact keep _ (Steady.of_control run _)

/-! The batch at the controller. -/

theorem record_lookup (progress : Progress)
    (distinct : (terminals.map ReadyNodeTerminal.node).Nodup) :
    (∀ entry ∈ terminals,
      (progress.record terminals).nodeTerminals.lookup entry.node = some entry.terminal) ∧
    ∀ node, node ∉ terminals.map ReadyNodeTerminal.node →
      (progress.record terminals).nodeTerminals.lookup node = progress.nodeTerminals.lookup node := by
  unfold Progress.record
  generalize progress.nodeTerminals = map
  induction terminals generalizing map with
  | nil => simp
  | cons first rest ih =>
    rw [List.map_cons, List.nodup_cons] at distinct
    obtain ⟨inside, outside⟩ := ih distinct.2 (map.insert first.node first.terminal)
    rw [List.foldl_cons]
    constructor
    · refine List.forall_mem_cons.mpr ⟨?_, inside⟩
      rw [outside first.node distinct.1]
      exact AList.lookup_insert _
    · intro node absent
      rw [List.map_cons, List.mem_cons, not_or] at absent
      rw [outside node absent.2]
      exact AList.lookup_insert_ne absent.1

variable {evidence : NodeMap NodeEvidence}

theorem encode_evidence_spec (encoded : encodeEvidence codec trigger text terminals = .ok evidence)
    (distinct : (terminals.map ReadyNodeTerminal.node).Nodup) :
    (∀ entry ∈ terminals, ∃ json, canonicalTerminalJson codec entry.terminal = .ok json ∧
      evidence.lookup entry.node = some
        ⟨json, if trigger.any fun held => entry.terminal.policyTriggerId == some held.id then text
          else none, none⟩) ∧
    ∀ node ∈ evidence, node ∈ terminals.map ReadyNodeTerminal.node := by
  induction terminals generalizing evidence with
  | nil =>
    cases encoded
    simp
  | cons first rest ih =>
    rw [List.map_cons, List.nodup_cons] at distinct
    unfold encodeEvidence at encoded
    cases written : canonicalTerminalJson codec first.terminal with
    | error error => simp [written] at encoded
    | ok json =>
      simp only [written] at encoded
      cases others : encodeEvidence codec trigger text rest with
      | error error =>
        rw [others] at encoded
        cases encoded
      | ok later =>
        rw [others] at encoded
        cases encoded
        obtain ⟨inside, within⟩ := ih others distinct.2
        constructor
        · refine List.forall_mem_cons.mpr ⟨⟨json, written, AList.lookup_insert _⟩, ?_⟩
          intro entry among
          obtain ⟨other, wrote, found⟩ := inside entry among
          refine ⟨other, wrote, ?_⟩
          rw [AList.lookup_insert_ne, found]
          intro same
          exact distinct.1 (same ▸ List.mem_map.mpr ⟨entry, among, rfl⟩)
        · intro node member
          rw [List.map_cons, List.mem_cons]
          rcases (AList.mem_insert _).mp member with same | among
          · exact .inl same
          · exact .inr (within node among)

variable {entry : ReadyNodeTerminal} {early late : List ReadyNodeTerminal}

theorem selected_node_split {trigger : PolicyTrigger}
    (marked : entry.terminal.policyTriggerId = some trigger.id)
    (plain : ∀ other ∈ early ++ late, other.terminal.policyTriggerId = none) :
    selectedNode ⟨early ++ entry :: late, some trigger⟩ = some entry.node := by
  unfold selectedNode
  rw [List.reverse_append, List.reverse_cons, List.append_assoc, List.find?_append]
  have skipped : late.reverse.find? (fun ready => (some trigger).any fun held =>
      ready.terminal.policyTriggerId == some held.id) = none := by
    rw [List.find?_eq_none]
    intro other member
    have unmarked := plain other (List.mem_append_right early (List.mem_reverse.mp member))
    simp [unmarked]
  rw [skipped]
  simp [marked]

/-- A batch as the controller gets it: nodes that have no record yet, none selected. -/
structure Fresh (run : Run) (settled : List Settled) : Prop where
  distinct : (settled.map fun entry => entry.completed.node).Nodup
  unrecorded : ∀ entry ∈ settled, run.progress.nodeTerminals.lookup entry.completed.node = none
  unselected : ∀ entry ∈ settled, entry.terminal.policyTriggerId = none

/-- What the evidence of a finalized batch says about each of its completions. -/
structure Evidences (inv : Invocation) (settled : List Settled) (evidence : NodeMap NodeEvidence)
    (after : Run) : Prop where
  evidential : Evidential inv after
  answered : after.policy.durableTriggerAcknowledgement = none
  entries : ∀ entry ∈ settled,
    (∃ parked, after.policy.barrierSelectedEvidence = some (entry.completed.node, parked)) ∨
    ∃ record found, after.progress.nodeTerminals.lookup entry.completed.node = some record ∧
      evidence.lookup entry.completed.node = some found ∧
      Backs inv.codec after.policy.trigger after.trace record found
  within : ∀ node ∈ evidence, node ∈ settled.map fun entry => entry.completed.node

theorem trigger_text {trigger : PolicyTrigger}
    (encoded : (some trigger).mapM (canonicalTriggerJson codec) = .ok text) :
    ∃ written, text = some written ∧ canonicalTriggerJson codec trigger = .ok written := by
  cases written : canonicalTriggerJson codec trigger with
  | error error =>
    simp [written] at encoded
  | ok json =>
    simp [written] at encoded
    exact ⟨json, encoded.symm, rfl⟩

theorem reach_barrier_parks (active : inv.schedulerActive = true)
    (controller : FanOutController) (settled : List Settled)
    (text : String) (node : NodeId) :
    Ensured
      (fun answer after => ∃ checkpoint found, evidence.lookup node = some found ∧
        run.policy.durableTriggerBarrier = none ∧ answer.1 = evidence.erase node ∧
        after = { run with
          policy := { run.policy with
            durableTriggerBarrier := some checkpoint
            barrierSelectedEvidence := some (node, found) } })
      (fun _ after => after = run)
      (reachBarrier inv turn controller settled evidence text node run) := by
  unfold reachBarrier checkpointOf
  cases settled.find? fun entry => entry.completed.node == node with
  | none => rfl
  | some entry =>
    cases located : evidence.lookup node with
    | none => rfl
    | some found =>
      simp only [active, if_true]
      refine (send_barrier_sends node _ found run).bind ?_
      rintro _ _ ⟨unsent, rfl⟩
      exact ⟨_, found, rfl, unsent, rfl, rfl⟩

section Finalize

variable {settled : List Settled}

variable (nodes : (terminals.map ReadyNodeTerminal.node).Perm
  (settled.map fun entry => entry.completed.node))

include nodes

theorem Fresh.keeps (fresh : Fresh run settled)
    (records : after.progress.nodeTerminals = (run.progress.record terminals).nodeTerminals)
    (trigger : ∀ held, run.policy.trigger = some held → after.policy.trigger = some held) :
    Keeps run after := by
  refine ⟨?_, trigger⟩
  intro node record found
  rw [records, (record_lookup run.progress (nodes.nodup_iff.mpr fresh.distinct)).2 node, found]
  intro member
  obtain ⟨entry, among, same⟩ := List.mem_map.mp (nodes.mem_iff.mp member)
  have absent := fresh.unrecorded entry among
  rw [same, found] at absent
  cases absent

theorem entry_of_settled {entry : Settled} (member : entry ∈ settled) :
    ∃ ready ∈ terminals, ready.node = entry.completed.node :=
  List.mem_map.mp (nodes.mem_iff.mpr (List.mem_map.mpr ⟨entry, member, rfl⟩))

variable (evidential : Evidential inv run)
  (answered : run.policy.durableTriggerAcknowledgement = none) (fresh : Fresh run settled)

include evidential answered fresh

theorem evidences_of_plain
    (plain : ∀ entry ∈ terminals, entry.terminal.policyTriggerId = none)
    (encoded : encodeEvidence inv.codec trigger text terminals = .ok evidence)
    (steady : Steady run after)
    (records : after.progress.nodeTerminals = (run.progress.record terminals).nodeTerminals) :
    Evidences inv settled evidence after := by
  have distinct := nodes.nodup_iff.mpr fresh.distinct
  obtain ⟨written, within⟩ := encode_evidence_spec encoded distinct
  refine ⟨evidential.steady steady, steady.acknowledgement.trans answered, ?_, ?_⟩
  · intro entry member
    right
    obtain ⟨ready, among, same⟩ := entry_of_settled nodes member
    obtain ⟨json, canonical, found⟩ := written ready among
    refine ⟨ready.terminal, _, ?_, same ▸ found, Backs.plain canonical (plain ready among)⟩
    rw [records, ← same]
    exact (record_lookup run.progress distinct).1 ready among
  · intro node member
    exact nodes.mem_iff.mp (within node member)

omit nodes

theorem evidences_of_selected {held : PolicyTrigger} {text : String} {found : NodeEvidence}
    {checkpoint : PolicyTriggerCheckpoint}
    (unsent : run.policy.durableTriggerBarrier = none)
    (nodes : ((early ++ entry :: late).map ReadyNodeTerminal.node).Perm
      (settled.map fun other => other.completed.node))
    (marked : entry.terminal.policyTriggerId = some held.id)
    (plain : ∀ other ∈ early ++ late, other.terminal.policyTriggerId = none)
    (spelled : canonicalTriggerJson inv.codec held = .ok text)
    (encoded : encodeEvidence inv.codec (some held) (some text) (early ++ entry :: late) =
      .ok evidence) (located : evidence.lookup entry.node = some found)
    (kept : ∀ earlier, run.policy.trigger = some earlier → earlier = held)
    (controlled : after.policy.controller.isSome = true)
    (triggered : after.policy.trigger = some held)
    (policy : after.policy.durableTriggerBarrier = some checkpoint ∧
      after.policy.durableTriggerAcknowledgement = none ∧
      after.policy.barrierSelectedEvidence = some (entry.node, found))
    (retained : after.retained = run.retained) (trace : after.trace = run.trace)
    (records : after.progress.nodeTerminals =
      (run.progress.record (early ++ entry :: late)).nodeTerminals) :
    Evidences inv settled (evidence.erase entry.node) after := by
  have distinct := nodes.nodup_iff.mpr fresh.distinct
  obtain ⟨written, within⟩ := encode_evidence_spec encoded distinct
  have keeps : Keeps run after := fresh.keeps nodes records (by
    intro earlier was
    rw [triggered, kept earlier was])
  have recorded := (record_lookup run.progress distinct).1
  have unparked : run.policy.barrierSelectedEvidence = none := by
    have empty := evidential.parked
    simp only [Policy.isOut, unsent, answered] at empty
    exact Option.isNone_iff_eq_none.mp (by simpa using empty)
  obtain ⟨json, canonical, carried⟩ := written entry (by simp)
  rw [located, Option.some.injEq] at carried
  refine ⟨⟨?_, controlled, ?_, ?_, ?_, ?_⟩, policy.2.1, ?_, ?_⟩
  · exact evidential.traced.silent keeps (by rw [trace, List.append_nil]) (by simp)
  · rw [policy.2.1]
    intro waiting
    cases waiting
  · simp [policy.2.2, Policy.isOut, policy.1]
  · rw [policy.2.2]
    intro node parked same
    cases same
    refine ⟨entry.terminal, text, held, ?_, ?_, triggered, spelled, ?_⟩
    · rw [records]
      exact recorded entry (by simp)
    · rw [carried]
      exact canonical
    · rw [carried]
      simp [marked]
  · rw [retained, trace]
    intro completed member
    rcases evidential.held completed member with ⟨parked, other⟩ | ⟨record, other, at_, holding, backs⟩
    · rw [unparked] at other
      cases other
    · right
      refine ⟨record, other, keeps.records _ record at_, holding, ?_⟩
      have longer := backs.mono keeps.trigger []
      rwa [List.append_nil] at longer
  · intro completion member
    obtain ⟨ready, among, same⟩ := entry_of_settled nodes member
    by_cases chosen : completion.completed.node = entry.node
    · left
      rw [policy.2.2, chosen]
      exact ⟨found, rfl⟩
    · right
      obtain ⟨other, wrote, placed⟩ := written ready among
      have unmarked : ready.terminal.policyTriggerId = none := by
        apply plain
        rcases List.mem_append.mp among with first | rest
        · exact List.mem_append_left late first
        · rcases List.mem_cons.mp rest with rfl | last
          · exact absurd same.symm chosen
          · exact List.mem_append_right early last
      rw [same, ← AList.lookup_erase_ne chosen] at placed
      refine ⟨ready.terminal, _, ?_, placed, Backs.plain wrote unmarked⟩
      rw [records, ← same]
      exact recorded ready among
  · intro node member
    rw [AList.mem_erase] at member
    exact nodes.mem_iff.mp (within node member.2)

theorem finalize_ready_evidences (beforeWait : Bool)
    (frozen : inv.authority.isSome = true) (active : inv.schedulerActive = true) :
    Ensured (fun answer after => Evidences inv settled answer.1 after)
      (fun _ after => Traced inv after) (finalizeReady inv turn beforeWait settled run) := by
  refine finalize_ready_ensured ?_ evidential.traced ?_ ?_
  · rintro rfl
    exact ⟨evidential, answered, by simp, by simp⟩
  · intro evidence encoded
    have nodes : ((settled.map Settled.ready).map ReadyNodeTerminal.node).Perm
        (settled.map fun entry => entry.completed.node) := by rw [ready_nodes]
    refine evidences_of_plain nodes evidential answered fresh ?_ (encoded frozen)
      ⟨fresh.keeps nodes rfl (fun _ => id), rfl, rfl, rfl, rfl, rfl, [], by simp, by simp⟩ rfl
    intro entry member
    obtain ⟨source, among, rfl⟩ := List.mem_map.mp member
    exact fresh.unselected source among
  · intro authority controller selection finalized _ holds batch
    have cases := FanOutController.finalize_cases batch
    have trigger : ∀ held, run.policy.trigger = some held →
        (run.steered finalized).policy.trigger = some held := by
      intro held was
      simp only [Policy.trigger, holds, Run.steered, Option.bind_some] at was ⊢
      rcases cases with ⟨_, rfl | ⟨_, rfl⟩⟩ | ⟨unset, _⟩
      · exact was
      · exact was
      · rw [unset] at was
        cases was
    have traced : Traced inv (run.steered finalized) :=
      evidential.traced.silent ⟨fun _ _ => id, trigger⟩ (List.append_nil run.trace).symm (by simp)
    have ordered := sorted_nodes settled
    have plain : ∀ entry ∈ (settled.map Settled.ready).insertionSort ReadyNodeTerminal.before,
        entry.terminal.policyTriggerId = none := by
      intro entry member
      obtain ⟨source, among, rfl⟩ := List.mem_map.mp ((List.mem_insertionSort _).mp member)
      exact fresh.unselected source among
    rcases cases with ⟨rfl, _⟩ | ⟨unset, _, selected, marked, node, chosen, rfl, rfl⟩
    · refine ⟨traced, fun text evidence encoded written _ => ?_, nofun⟩
      refine evidences_of_plain ordered evidential answered fresh plain written ?_ rfl
      exact ⟨fresh.keeps ordered rfl trigger, by simp [holds, Run.steered, Run.decided], rfl, rfl,
        rfl, rfl, [], by simp [Run.steered, Run.decided], by simp⟩
    · obtain ⟨early, _, late, split, -, -, -, same⟩ := mark_selected_split chosen
      obtain ⟨entry, rfl, carries⟩ : ∃ entry, marked = early ++ entry :: late ∧
          entry.terminal.policyTriggerId =
            some (controller.triggerFor authority.attemptId node).id := ⟨_, same, rfl⟩
      have others : ∀ other ∈ early ++ late, other.terminal.policyTriggerId = none :=
        fun other member => plain other (by simp_all; tauto)
      have nodes := (mark_selected_nodes chosen) ▸ ordered
      have selects := selected_node_split carries others
      refine ⟨traced, fun text evidence encoded _ unmet => ?_,
        fun text evidence node encoded written found => ?_⟩
      · obtain ⟨_, rfl, _⟩ := trigger_text encoded
        rw [selects] at unmet
        rcases unmet with unwritten | unselected
        · cases unwritten
        · cases unselected
      · obtain ⟨_, same, spelled⟩ := trigger_text encoded
        cases same
        cases selects.symm.trans found
        refine (reach_barrier_parks active _ settled text entry.node).weaken
          ?_ fun _ _ same => same ▸ traced
        rintro ⟨_, _⟩ _ ⟨checkpoint, found, located, unsent, rfl, rfl⟩
        refine evidences_of_selected evidential answered fresh unsent nodes carries others spelled
          written located ?_ rfl rfl ⟨rfl, answered, rfl⟩ rfl rfl rfl
        intro earlier was
        simp [Policy.trigger, holds, unset] at was

end Finalize

end A2aBridge.Workflow
