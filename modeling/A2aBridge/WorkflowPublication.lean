import A2aBridge.WorkflowEvidence

/-!
Publication of the held completions, and the law of the evidence over whole runs: as long as
no pass that is woken by completions finds the trigger's barrier resolved, every completion is
published with its evidence. The run at the end is the overlap that loses it.
-/

namespace A2aBridge.Workflow

open StatefulRefusal JobLedger Histories

/-! Held completions. -/

theorem retained_lookup (entries : List (Sigma fun _ : NodeId => NodeEvidence))
    (distinct : entries.NodupKeys) (held : NodeMap NodeEvidence) (node : NodeId) :
    AList.lookup node (entries.foldl (fun map entry => map.insert entry.1 entry.2) held) =
      (entries.dlookup node).or (held.lookup node) := by
  induction entries generalizing held with
  | nil => simp
  | cons entry rest ih =>
    rw [List.nodupKeys_cons] at distinct
    rw [List.foldl_cons, ih distinct.2]
    by_cases same : node = entry.1
    · subst same
      have absent : rest.dlookup entry.1 = none := List.dlookup_eq_none.mpr distinct.1
      rw [absent, List.dlookup_cons_eq, AList.lookup_insert]
      rfl
    · rw [List.dlookup_cons_ne rest entry same, AList.lookup_insert_ne same]

variable {inv : Invocation} {run : Run} {settled : List Settled}

section Held

variable {final : Run} {evidence : NodeMap NodeEvidence}

theorem Evidential.recorded (evidential : Evidential inv run) {completed : CompletedNode}
    (member : completed ∈ run.retained.completed) :
    ∃ record, run.progress.nodeTerminals.lookup completed.node = some record := by
  rcases evidential.held completed member with ⟨parked, selected⟩ | ⟨record, _, found, _⟩
  · obtain ⟨record, _, _, found, _⟩ := evidential.closed completed.node parked selected
    exact ⟨record, found⟩
  · exact ⟨record, found⟩

theorem Evidences.holding (evidences : Evidences inv settled evidence final) (action : PolicyAction)
    (apart : ∀ entry ∈ settled, ∀ completed ∈ final.retained.completed,
      entry.completed.node ≠ completed.node) :
    Evidential inv (final.holding action settled evidence) := by
  obtain ⟨traced, controlled, single, parked, closed, held⟩ := evidences.evidential
  refine ⟨traced, controlled, single, parked, closed, ?_⟩
  intro completed member
  have looked : (final.holding action settled evidence).retained.evidence.lookup completed.node =
      (evidence.lookup completed.node).or (final.retained.evidence.lookup completed.node) :=
    retained_lookup evidence.entries evidence.nodupKeys final.retained.evidence completed.node
  rcases List.mem_append.mp member with before | among
  · rcases held completed before with waiting | ⟨record, found, recorded, kept, backs⟩
    · exact .inl waiting
    · right
      -- The batch has no evidence under a node that was held before it.
      have absent : evidence.lookup completed.node = none := by
        rw [AList.lookup_eq_none]
        intro present
        obtain ⟨entry, inside, same⟩ := List.mem_map.mp (evidences.within _ present)
        exact apart entry inside completed before same
      refine ⟨record, found, recorded, ?_, backs⟩
      rw [looked, absent, kept]
      rfl
  · obtain ⟨entry, inside, rfl⟩ := List.mem_map.mp among
    rcases evidences.entries entry inside with waiting | ⟨record, found, recorded, kept, backs⟩
    · exact .inl waiting
    · right
      refine ⟨record, found, recorded, ?_, backs⟩
      rw [looked, kept]
      rfl

theorem Evidential.published (evidential : Evidential inv run) (settled : run.policy.isOut = false)
    {batch : List CompletedNode} (among : ∀ completed ∈ batch, completed ∈ run.retained.completed) :
    Traced inv (run.emptied.published run.retained.evidence batch) := by
  obtain ⟨_, policy, _, _, _, terminals, _, trace⟩ :=
    published_parts run.retained.evidence run.emptied batch
  have unparked : run.policy.barrierSelectedEvidence = none := by
    have empty := evidential.parked
    rw [settled] at empty
    exact Option.not_isSome_iff_eq_none.mp (by rw [empty]; exact Bool.false_ne_true)
  apply evidential.traced.append (Keeps.of_same terminals (congrArg Policy.trigger policy)) trace
  apply along_of_forall
  intro moment member more
  obtain ⟨completed, inside, rfl⟩ := List.mem_map.mp member
  intro node ok output usage terminalJson triggerJson barrierResult same
  rcases evidential.held completed (among completed inside) with
    ⟨parked, selected⟩ | ⟨record, found, recorded, kept, backs⟩
  · rw [unparked] at selected
    cases selected
  · rw [terminals, policy]
    simp only [finishedEvent, kept, Moment.yielded.injEq, WorkflowEvent.nodeFinished.injEq,
      Option.map_some, Option.bind_some] at same
    obtain ⟨rfl, _, _, _, rfl, rfl, rfl⟩ := same
    exact ⟨record, found, recorded, rfl, rfl, rfl, backs.mono (fun _ => id) more⟩

theorem Evidential.flushed (evidential : Evidential inv run) (settled : run.policy.isOut = false) :
    Evidential inv run.flushed := by
  obtain ⟨_, policy, retained, _, _, terminals, _⟩ := flushed_parts run
  constructor
  · apply evidential.published settled
    intro completed member
    exact run.retained.sorted_perm.mem_iff.mp member
  · rw [policy]
    exact evidential.controlled
  · rw [policy]
    exact evidential.single
  · rw [policy]
    exact evidential.parked
  · rw [policy, terminals]
    exact evidential.closed
  · rw [retained]
    intro completed member
    cases member

theorem schedule_steady (unique : inv.graph.ids.Nodup) : Steady run (run.schedule inv) := by
  obtain ⟨policy, retained, _, _, nodes, started, progress, trace, _⟩ :=
    schedule_schedules inv run unique
  constructor
  · exact Keeps.of_same (by rw [progress]) (by rw [policy])
  · rw [policy]
  · rw [policy]
  · rw [policy]
  · rw [policy]
  · exact retained
  · refine ⟨_, trace, ?_⟩
    intro moment member
    obtain ⟨node, _, rfl⟩ := List.mem_map.mp member
    rfl

theorem Evidential.readmit (evidential : Evidential inv run) (turn : Turn)
    (unique : inv.graph.ids.Nodup) : Evidential inv (run.readmit inv turn) :=
  (evidential.steady (Steady.of_control run (run.control.reopened turn))).steady
    (schedule_steady unique)

end Held

/-! Passes. -/

/-- The nodes of a drained batch are distinct and have no record. -/
structure Unrecorded (run : Run) (ready : List Ready) : Prop where
  distinct : (ready.map fun entry => entry.flight.node.id).Nodup
  absent : ∀ entry ∈ ready, run.progress.nodeTerminals.lookup entry.flight.node.id = none

variable {late : List NodeId} {ready : List Ready}

theorem Unrecorded.fresh (unrecorded : Unrecorded run ready)
    (answers : List.Forall₂ (Answers inv late) ready settled) : Fresh run settled := by
  have nodes := answers_nodes answers
  constructor
  · rw [nodes]
    exact unrecorded.distinct
  · intro entry member
    have among : entry.completed.node ∈ ready.map fun entry => entry.flight.node.id :=
      nodes ▸ List.mem_map.mpr ⟨entry, member, rfl⟩
    obtain ⟨source, inside, same⟩ := List.mem_map.mp among
    rw [← same]
    exact unrecorded.absent source inside
  · intro entry member
    obtain ⟨source, _, raw, control, rfl⟩ := answers_source inv _ answers member
    rfl

section Passes

theorem Onward.steady {after : Run} (onward : Onward run after) : Steady run after := by
  rw [onward.only]
  exact Steady.of_control run _

theorem Evidences.apart {settling final : Run} (evidential : Evidential inv settling)
    (fresh : Fresh settling settled) (retained : final.retained = settling.retained) :
    ∀ entry ∈ settled, ∀ completed ∈ final.retained.completed,
      entry.completed.node ≠ completed.node := by
  rw [retained]
  intro entry member completed held same
  obtain ⟨record, found⟩ := evidential.recorded held
  have absent := fresh.unrecorded entry member
  rw [same, found] at absent
  cases absent

theorem Evidential.releases (turn : Turn) (unique : inv.graph.ids.Nodup)
    (evidential : Evidential inv run) (answered : run.policy.durableTriggerAcknowledgement = none) :
    Releases inv turn
      (fun after => Evidential inv after ∧ after.policy.durableTriggerAcknowledgement = none)
      (Traced inv) run := by
  have quiet : run.policy.durableTriggerBarrier = none → run.policy.isOut = false := by
    intro unsent
    simp [Policy.isOut, unsent, answered]
  refine ⟨fun _ => ⟨evidential, answered⟩, ?_, ?_⟩
  · intro unsent early rest sorted
    apply evidential.published (quiet unsent)
    intro completed member
    apply run.retained.sorted_perm.mem_iff.mp
    rw [sorted]
    exact List.mem_append_left rest member
  · intro unsent
    refine ⟨Evidential.readmit (evidential.flushed (quiet unsent)) turn unique, ?_⟩
    have same := (schedule_schedules inv { run.flushed with
      control := run.flushed.control.reopened turn } unique).policy
    exact (congrArg Policy.durableTriggerAcknowledgement
      (same.trans (flushed_parts run).2.1)).trans answered

variable {turn : Turn} {received : Received}

/-- A drained batch was running, so none of its nodes has a record. -/
theorem Supplied.unrecorded (supplied : Supplied inv run)
    (heard : receive inv turn (run.waiting turn) = some received) :
    Unrecorded received.run received.ready := by
  obtain ⟨left, progress, taken⟩ := (receive_receives heard).progress
  have moved := taken.map fun flight => flight.node.id
  rw [List.map_append, List.map_map] at moved
  have lawful := supplied.tracked.lawful
  have running : run.progress.running.Nodup :=
    (List.nodup_append.mp (List.nodup_append.mp lawful.distinct).1).1
  have inside : ∀ entry ∈ received.ready, entry.flight.node.id ∈ run.progress.running := by
    intro entry member
    exact moved.mem_iff.mp (List.mem_append_right _ (List.mem_map.mpr ⟨entry, member, rfl⟩))
  constructor
  · exact (List.nodup_append.mp (moved.nodup_iff.mpr running)).2.1
  · intro entry member
    have runs := inside entry member
    rw [progress, AList.lookup_eq_none]
    intro recorded
    obtain ⟨early, _, others⟩ := List.nodup_append.mp lawful.distinct
    rcases (supplied.tracked.recorded _).mp recorded with seed | held | finished
    · have admitted := (lawful.admitted_iff entry.flight.node.id).mpr (.inl runs)
      exact lawful.unseeded _ admitted (seed_terminal_seeded supplied.resumed seed)
    · exact (List.nodup_append.mp early).2.2 _ runs _ held rfl
    · exact others _ (List.mem_append_left _ runs) _ finished rfl

/-! The ends of a run. -/

theorem Traced.fail (traced : Traced inv run) (failure : AccountingFailure) :
    Traced inv (run.fail failure) := by
  refine traced.silent (Keeps.of_same rfl rfl) (List.append_assoc _ _ _) ?_
  refine List.forall_mem_append.mpr ⟨fun moment budget => ?_, List.forall_mem_singleton.mpr rfl⟩
  obtain ⟨earlier, _, rfl⟩ := List.mem_map.mp budget
  rfl

theorem finish_traced (traced : Traced inv run) (closing : Closing) (unique : inv.graph.ids.Nodup) :
    Ensured (fun _ after => Traced inv after) (fun _ after => Traced inv after)
      (finish inv closing run) := by
  have exiting : Traced inv (run.exiting closing) := traced
  refine finish_ensured exiting fun swept sweeps => ?_
  have kept : Traced inv swept := by
    cases sweeps with
    | spared | complete => exact exiting
    | swept primary terminalJson _ _ _ encoded =>
      -- The sweep publishes each record it makes, and makes none that exists.
      obtain ⟨_, policy, _, _, others, swept, trace⟩ :=
        swept_parts primary terminalJson _ (missingNodes inv (run.exiting closing))
      obtain ⟨_, missing⟩ := missing_nodes_spec (run.exiting closing) unique
      refine exiting.append ⟨?_, fun _ held => by rw [policy]; exact held⟩ trace ?_
      · intro node record found
        rw [others node, found]
        intro gap
        exact ((missing node).mp gap).2 (AList.lookup_isSome.mp (by rw [found]; rfl))
      · apply along_of_forall
        intro moment member more node ok output usage json triggerJson barrierResult same
        obtain ⟨gap, inside, rfl⟩ := List.mem_map.mp member
        cases same
        exact ⟨sweepTerminal primary, ⟨terminalJson, none, none⟩, swept _ inside, rfl, rfl, rfl,
          Backs.plain encoded rfl⟩
  refine ⟨kept, kept.silent (Keeps.of_same rfl rfl) rfl ?_⟩
  simp [Moment.isFinish]

theorem pass_evidential (unique : inv.graph.ids.Nodup) (frozen : inv.authority.isSome = true)
    (active : inv.schedulerActive = true) (supplied : Supplied inv run)
    (evidential : Evidential inv run) (answered : run.policy.durableTriggerAcknowledgement = none)
    (quiet : PollsQuietly run turn) (heard : receive inv turn (run.waiting turn) = some received) :
    Ensured
      (fun _ after => Evidential inv after ∧ after.policy.durableTriggerAcknowledgement = none)
      (fun _ after => Traced inv after) (received.pass inv turn run) := by
  have waiting := evidential.steady (Steady.of_control run (run.waiting turn).control)
  obtain ⟨kept, pending⟩ := waiting.receive answered quiet heard
  have unrecorded := supplied.unrecorded heard
  refine process_ensured ((ensured_and (act_evidential _ kept pending)
    (act_phase inv turn _ _ (receive_receives heard).allowed)).weaken ?_ fun _ _ stopped => stopped.1)
  rintro _ acted ⟨⟨kept, answered⟩, phase, _⟩
  refine ⟨fun _ _ => ⟨kept, answered⟩, (settle_ready_answers inv received.postCutoff received.ready acted).weaken ?_
    fun _ _ onward => (kept.steady onward.steady).traced⟩
  rintro settled settling ⟨onward, answers⟩
  have resting := kept.steady onward.steady
  have fresh : Fresh settling settled := by
    apply Unrecorded.fresh _ answers
    refine ⟨unrecorded.distinct, ?_⟩
    rw [onward.frame.progress, phase.progress]
    exact unrecorded.absent
  refine (ensured_and
    (finalize_ready_evidences resting (onward.steady.acknowledgement.trans answered) fresh _
      frozen active)
    (finalize_ready_finalizes inv turn _ settled settling)).weaken ?_ fun _ _ stopped => stopped.1
  rintro ⟨evidence, action⟩ final ⟨evidences, finalizes⟩
  exact Evidential.releases turn unique
    (evidences.holding action (Evidences.apart resting fresh finalizes.retained)) evidences.answered

end Passes

/-! Runs. -/

theorem evidence_rule (unique : inv.graph.ids.Nodup)
    (frozen : inv.authority.isSome = true) (active : inv.schedulerActive = true) :
    LoopRule inv PollsQuietly
      (fun run => Supplied inv run ∧ Evidential inv run ∧
        run.policy.durableTriggerAcknowledgement = none) (Traced inv) where
  opens := by
    intro run prepared
    obtain ⟨controller, resumed, seeded, opened, rfl⟩ := prepare_ok prepared
    refine ⟨(supplied_rule unique).opens _ prepared, ?_, ?_⟩
    · apply Evidential.steady _ (schedule_steady unique)
      have present : controller.isSome = true := by
        obtain ⟨authority, granted⟩ := Option.isSome_iff_exists.mp frozen
        unfold Invocation.openController at opened
        rw [granted] at opened
        simp only at opened
        repeat' split at opened
        all_goals
          cases opened
        all_goals rfl
      refine ⟨trivial, present, ?_, rfl, ?_, ?_⟩ <;> nofun
    · have same := (schedule_schedules inv (inv.openRun controller) unique).policy
      rw [same]
      rfl
  refuses := by
    intro error _
    apply along_of_forall
    intro moment member _
    rw [List.mem_singleton.mp member]
    exact carries_silent rfl
  rejects := by
    intro message _
    apply along_of_forall
    intro moment member _
    apply carries_silent
    rcases List.mem_pair.mp member with rfl | rfl <;> rfl
  passes := by
    rintro turn run received after ⟨supplied, evidential, answered⟩ quiet _ heard passed
    have processing :=
      (pass_evidential unique frozen active supplied evidential answered quiet heard).of_ok passed
    exact ⟨supplied.pass unique heard passed, processing⟩
  fails := by
    rintro turn run received failure after ⟨supplied, evidential, answered⟩ quiet _ heard failed
    have processing :=
      (pass_evidential unique frozen active supplied evidential answered quiet heard).of_error failed
    exact processing.fail failure
  closes := by
    rintro turn run after ⟨_, evidential, _⟩ _ _ finished
    have ending :=
      (@finish_traced inv (run.headed turn) evidential.traced turn.closing unique).of_ok finished
    refine ending.silent (Keeps.of_same rfl rfl) rfl ?_
    intro moment member
    obtain ⟨earlier, _, rfl⟩ := List.mem_map.mp member
    rfl
  breaks := by
    rintro turn run failure after ⟨_, evidential, _⟩ _ _ broken
    have ending :=
      (@finish_traced inv (run.headed turn) evidential.traced turn.closing unique).of_error broken
    exact ending.fail failure

/-- In a frozen run with an active scheduler every published completion carries the text of
its record, and the trigger's node also the trigger's text and the result of its barrier, after
the controller was given that result; provided no pass that is woken by completions finds the
barrier resolved. -/
theorem published_completions_carry_evidence (inv : Invocation)
    (valid : inv.graph.validate = .ok ()) (frozen : inv.authority.isSome = true)
    (active : inv.schedulerActive = true) (turns : List Turn)
    (quiet : Guarded inv PollsQuietly (start inv) turns) :
    Along (Carries inv.codec (runTurns inv turns).run.progress.nodeTerminals
      (runTurns inv turns).run.policy.trigger) [] (runTurns inv turns).run.trace := by
  have unique := (validate_well_formed valid).unique
  have holds := (evidence_rule unique frozen active).run turns quiet
  unfold Machine.Holds at holds
  split at holds
  · exact holds
  · exact holds.2.1.traced

/-- The barrier is resolved in a pass of its own, after both roots have completed. -/
def separateTurns : List Turn :=
  [sampleTurn (.completions (sampleCompletion "a" false 1) []) none 1,
    sampleTurn (.completions (sampleCompletion "b" true 2) []) none 2,
    sampleTurn (.barrierAcknowledgement .servedPrimaryCommitted) none 3]

set_option maxRecDepth 2048 in
theorem sample_completions_carry_evidence :
    Moment.yielded (.nodeFinished "a" false "out" none
        (some (jsonTerminal (sampleRecord .failed (some "attempt:policy:0"))))
        (some (jsonTrigger ⟨1, "attempt:policy:0", ⟨0, "a"⟩, .failFast, none⟩))
        (some .servedPrimaryCommitted)) ∈ (sampleRun separateTurns).run.trace ∧
    Along (Carries sampleCodec (sampleRun separateTurns).run.progress.nodeTerminals
      (sampleRun separateTurns).run.policy.trigger) [] (sampleRun separateTurns).run.trace := by
  have quiet : ∀ turn ∈ separateTurns, turn.barrierPoll = none := by decide
  unfold sampleRun
  exact ⟨by decide +kernel,
    published_completions_carry_evidence (sampleInvocation .failFast 1000 "task") rfl rfl
      (by decide +kernel) separateTurns
      (guarded_of_forall (fun turn member _ _ _ => quiet turn member) _)⟩

/-- The pass of the second root finds the barrier of the first resolved: the batch is drained
before the result is acted on, and what is held is published without it. -/
def overlappingTurns : List Turn :=
  [sampleTurn (.completions (sampleCompletion "a" false 1) []) none 1,
    sampleTurn (.completions (sampleCompletion "b" true 2) []) (some .servedPrimaryCommitted) 2]

theorem overlapping_trace :
    (sampleRun overlappingTurns).run.trace =
      [.yielded (.nodeStarted "a"), .yielded (.nodeStarted "b")] ++
        .yielded (.nodeFinished "a" false "out" none none none none) ::
          [.yielded (.nodeFinished "b" true "out" none
            (some (jsonTerminal (sampleRecord .completed none))) none none)] := by
  decide +kernel

set_option maxRecDepth 2048 in
theorem overlapping_acknowledgement_loses_evidence :
    sampleGraph.validate = .ok () ∧
    (sampleInvocation .failFast 1000 "task").authority.isSome = true ∧
    (sampleInvocation .failFast 1000 "task").schedulerActive = true ∧
    ((sampleRun overlappingTurns).run.progress.nodeTerminals.lookup "a").any
      (fun record => record.policyTriggerId == some "attempt:policy:0") = true ∧
    ¬ Along (Carries sampleCodec (sampleRun overlappingTurns).run.progress.nodeTerminals
      (sampleRun overlappingTurns).run.policy.trigger) []
      (sampleRun overlappingTurns).run.trace := by
  refine ⟨rfl, rfl, by decide +kernel, by decide +kernel, ?_⟩
  intro along
  -- The trigger's node has no terminal text, although its record has the trigger's id.
  rw [overlapping_trace, along_append] at along
  obtain ⟨_, _, _, text, _⟩ := along.2.1 "a" false "out" none none none none rfl
  cases text

end A2aBridge.Workflow
