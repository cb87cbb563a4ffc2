import A2aBridge.WorkflowBatches

/-!
A pass of the loop taken apart, and induction over the passes of a run. An invariant of the
loop is proved for the opened run, for one pass and for the two ways a stream ends; the rule
below carries it to every run.
-/

namespace A2aBridge.Workflow

open StatefulRefusal

variable (turn : Turn) {inv : Invocation}

/-- The run at the head of a pass, and as it goes into the wait. -/
def Run.headed (run : Run) : Run :=
  { run with control := run.control.head turn.cancelAtHead }

def Run.waiting (run : Run) : Run := (run.headed turn).beforeWait turn

/-- A finalized batch with its action applied and its completions held back. -/
def Run.holding (final : Run) (action : PolicyAction) (settled : List Settled)
    (evidence : NodeMap NodeEvidence) : Run :=
  ({ final with control := final.control.applyAction action } : Run).retain
    (settled.map Settled.completed) evidence

def Run.flushed (run : Run) : Run := run.emptied.published run.retained.evidence run.retained.sorted

/-- What a pass does after its arm has acted. -/
inductive Processed (inv : Invocation) (turn : Turn) (beforeWait : Bool) (ready : List Ready)
    (late : List NodeId) (acted : Run) : Run → Prop where
  | quiet : ready = [] → acted.retained.completed = [] →
      Processed inv turn beforeWait ready late acted acted
  | held {settling final settled evidence action} : Onward acted settling →
      List.Forall₂ (Answers inv late) ready settled →
      finalizeReady inv turn beforeWait settled settling = .ok (evidence, action) final →
      (final.holding action settled evidence).policy.durableTriggerBarrier.isSome = true →
      Processed inv turn beforeWait ready late acted (final.holding action settled evidence)
  | published {settling final settled evidence action} : Onward acted settling →
      List.Forall₂ (Answers inv late) ready settled →
      finalizeReady inv turn beforeWait settled settling = .ok (evidence, action) final →
      (final.holding action settled evidence).policy.durableTriggerBarrier = none →
      Processed inv turn beforeWait ready late acted
        ((final.holding action settled evidence).flushed.readmit inv turn)

/-- What is held once a batch is finalized may stay held, and may be published. -/
structure Releases (inv : Invocation) (turn : Turn) (post refused : Run → Prop) (run : Run) :
    Prop where
  held : run.policy.durableTriggerBarrier.isSome = true → post run
  cut : run.policy.durableTriggerBarrier = none → ∀ early rest, run.retained.sorted = early ++ rest →
    refused (run.emptied.published run.retained.evidence early)
  published : run.policy.durableTriggerBarrier = none → post (run.flushed.readmit inv turn)

section

variable {turn : Turn} {beforeWait : Bool} {arm : SchedulerArm} {ready : List Ready}
  {late : List NodeId} {run : Run}

theorem process_ensured {post refused : Run → Prop} (acts : Ensured
      (fun _ acted => (ready = [] → acted.retained.completed = [] → post acted) ∧
        Ensured
          (fun settled settling => Ensured
            (fun answer final =>
              Releases inv turn post refused (final.holding answer.2 settled answer.1))
            (fun _ => refused) (finalizeReady inv turn beforeWait settled settling))
          (fun _ => refused) (settleReady inv late ready acted))
      (fun _ => refused) (act inv turn arm run)) :
    Ensured (fun _ => post) (fun _ => refused)
      (process inv turn beforeWait arm ready late run) := by
  refine acts.bind ?_
  rintro _ acted ⟨quiet, settles⟩
  simp only [get_bind]
  split
  · rename_i idle
    rw [Bool.and_eq_true, List.isEmpty_iff, List.isEmpty_iff] at idle
    exact quiet idle.1 idle.2
  · refine settles.bind fun settled settling finalizes => finalizes.bind ?_
    rintro ⟨evidence, action⟩ final releases
    change Ensured _ _ ((ite ((final.holding action settled
      evidence).policy.durableTriggerBarrier.isSome = true) (pure () : Exec Unit) _)
        (final.holding action settled evidence))
    generalize final.holding action settled evidence = holding at releases ⊢
    cases barrier : holding.policy.durableTriggerBarrier with
    | some checkpoint => exact releases.held (by rw [barrier]; rfl)
    | none =>
      have publishes := publish_all_publishes holding.retained.evidence turn holding.retained.sorted
        holding.emptied
      refine (publishes.weaken (fun _ _ same => same) ?_).bind ?_
      · rintro _ _ ⟨early, rest, sorted, rfl⟩
        exact releases.cut barrier early rest sorted
      · rintro _ _ rfl
        exact releases.published barrier

theorem process_ok {after : Run}
    (passed : process inv turn beforeWait arm ready late run = .ok () after) :
    ∃ acted, act inv turn arm run = .ok () acted ∧
      Processed inv turn beforeWait ready late acted after := by
  have whole : Ensured
      (fun _ after => ∃ acted, act inv turn arm run = .ok () acted ∧
        Processed inv turn beforeWait ready late acted after) (fun _ _ => True)
      (process inv turn beforeWait arm ready late run) := by
    refine process_ensured (ensured_run.weaken (fun _ acted acting => ?_) fun _ _ => id)
    refine ⟨fun none empty => ⟨acted, acting, .quiet none empty⟩, ?_⟩
    refine (settle_ready_answers inv late ready acted).weaken ?_ fun _ _ _ => trivial
    rintro settled settling ⟨onward, answers⟩
    refine ensured_run.weaken (fun answer final finalizes => ?_) fun _ _ => id
    exact ⟨fun out => ⟨acted, acting, .held onward answers finalizes out⟩, fun _ _ _ _ => trivial,
      fun none => ⟨acted, acting, .published onward answers finalizes none⟩⟩
  rw [passed] at whole
  exact whole

end

theorem flushed_parts (run : Run) :
    run.flushed.control = run.control ∧ run.flushed.policy = run.policy ∧
      run.flushed.retained = run.emptied.retained ∧
      run.flushed.progress.scheduled = run.progress.scheduled ∧
      run.flushed.progress.inflight = run.progress.inflight ∧
      run.flushed.progress.nodeTerminals = run.progress.nodeTerminals ∧
      run.flushed.progress.done =
        run.progress.done ∪ (run.retained.sorted.map CompletedNode.node).toFinset :=
  have ⟨control, policy, retained, scheduled, inflight, terminals, done, _⟩ :=
    published_parts run.retained.evidence run.emptied run.retained.sorted
  ⟨control, policy, retained, scheduled, inflight, terminals, done⟩

/-- The run that admits nodes after a publication. -/
def Run.reopened (run : Run) : Run :=
  { run.flushed with control := run.flushed.control.reopened turn }

theorem reopened_governed {run : Run} (governed : Governed run) :
    Governed (run.reopened turn) ∧ Advance run (run.reopened turn) := by
  obtain ⟨control, policy, _⟩ := flushed_parts run
  refine governed.of_control (congrArg Policy.controller policy)
    (fun out => congrArg Policy.isOut policy ▸ out) ?_
  change Control.Later _ run.control (run.flushed.control.reopened turn)
  rw [control]
  simp only [Control.reopened]
  refine ((Control.Later.sample_observe run.control turn.cancelAfterPublish).trans
    (Control.Later.sample _ turn.cancelBeforeAdmission)).trans ?_
  split
  · rename_i cancelled
    exact Control.Later.stop _ (.inr (.inl cancelled))
  · exact Control.Later.refl _

/-- The first half of a pass: the signal was received and its arm acted on a governed run. -/
structure Acts (turn : Turn) (run : Run) (received : Received) (acted : Run) : Prop where
  hears : Receives (run.waiting turn) received
  phase : Phase received.run acted
  barrier : acted.policy.durableTriggerBarrier = received.run.policy.durableTriggerBarrier
  governed : Governed acted
  advance : Advance (run.waiting turn) acted

theorem waiting_phase (run : Run) : Phase run (run.waiting turn) :=
  Phase.of_control ((Control.Later.head _ _).trans (Control.Later.sample _ _))

variable {turn : Turn} {received : Received} {acted : Run}

theorem acts_of_heard {run : Run} (governed : Governed run)
    (heard : receive inv turn (run.waiting turn) = some received)
    (acting : act inv turn received.arm received.run = .ok () acted) :
    Acts turn run received acted := by
  have receives := receive_receives heard
  have phase := (act_phase inv turn received.arm received.run receives.allowed).of_ok acting
  obtain ⟨before, early⟩ := receives.governed ((waiting_phase turn run).governed governed).1
  obtain ⟨finish, late⟩ := phase.1.governed before
  exact ⟨receives, phase.1, phase.2, finish, early.trans late⟩

namespace Acts

variable {run : Run} (acts : Acts turn run received acted)

include acts

theorem events : eventsOf acted.trace = eventsOf run.trace :=
  acts.phase.events.trans (congrArg eventsOf acts.hears.trace)

theorem completed :
    acted.retained.completed = run.retained.completed :=
  acts.phase.completed.trans (congrArg Retained.completed acts.hears.retained)

theorem undrained (empty : received.ready = []) :
    Frame run acted :=
  ⟨acts.phase.progress.trans (acts.hears.undrained empty), acts.completed, acts.events⟩

theorem progress :
    ∃ left, acted.progress = { run.progress with inflight := left } ∧
      (left ++ received.ready.map Ready.flight).Perm run.progress.inflight := by
  obtain ⟨left, same, taken⟩ := acts.hears.progress
  exact ⟨left, acts.phase.progress.trans same, taken⟩

end Acts

/-- The second half: a batch that was settled and finalized, on its way to the held
completions. -/
structure Holds (turn : Turn) (run : Run) (received : Received) (acted : Run)
    (settled : List Settled) (holding : Run) : Prop where
  records : ∃ left terminals, holding.progress =
      ({ run.progress with inflight := left } : Progress).record terminals ∧
    (left ++ received.ready.map Ready.flight).Perm run.progress.inflight ∧
    (terminals.map ReadyNodeTerminal.node).Perm (settled.map fun entry => entry.completed.node) ∧
    (terminals.Perm (settled.map Settled.ready) ∨ holding.policy.Triggered)
  completed : holding.retained.completed = run.retained.completed ++ settled.map Settled.completed
  events : eventsOf holding.trace = eventsOf run.trace
  governed : Governed holding
  advance : Advance acted holding

theorem holds_of_finalized {run : Run} {settling final : Run} {settled : List Settled}
    {evidence : NodeMap NodeEvidence} {action : PolicyAction} (acts : Acts turn run received acted)
    (onward : Onward acted settling)
    (finalized : finalizeReady inv turn (run.waiting turn).control.cancelled settled settling =
      .ok (evidence, action) final) :
    Holds turn run received acted settled (final.holding action settled evidence) := by
  have finalizes := (finalize_ready_finalizes inv turn (run.waiting turn).control.cancelled settled
    settling).of_ok finalized
  obtain ⟨terminals, recorded, records, exactly⟩ := finalizes.progress
  obtain ⟨left, progress, taken⟩ := acts.progress
  obtain ⟨settlingGoverned, early⟩ := onward.phase.governed acts.governed
  obtain ⟨finalGoverned, middle⟩ := finalizes.governed settlingGoverned fun cancelled =>
    early.control.cancelled (acts.advance.control.cancelled cancelled)
  obtain ⟨governed, late⟩ := @Governed.of_control final (final.holding action settled evidence)
    finalGoverned rfl id (Control.Later.apply_action _ _ finalizes.action)
  refine ⟨⟨left, terminals, ?_, taken, records, exactly⟩, ?_, ?_, governed,
    (early.trans middle).trans late⟩
  · change final.progress = _
    rw [recorded, onward.phase.progress, progress]
  · change final.retained.completed ++ _ = _
    rw [finalizes.retained, onward.phase.completed, acts.completed]
  · exact finalizes.events.trans (onward.phase.events.trans acts.events)

/-! Induction over runs. -/

/-- The rest of a pass, after the wait. -/
abbrev Received.pass (received : Received) (inv : Invocation) (turn : Turn) (run : Run) :=
  process inv turn (run.waiting turn).control.cancelled received.arm received.ready
    received.postCutoff received.run

/-- What an invariant of the loop has to satisfy. `guard` is what is known about the turn a
live run is given. -/
structure LoopRule (inv : Invocation) (guard : Run → Turn → Prop) (live ended : Run → Prop) :
    Prop where
  opens : ∀ run, inv.prepare = .ok run → live (run.schedule inv)
  refuses : ∀ error, inv.prepare = .error (.error error) →
    ended { inv.openRun none with trace := [.failed (.of error)] }
  rejects : ∀ message, inv.prepare = .error (.invalidInput message) →
    ended { inv.openRun none with
      trace := [.yielded (.cleanupObserved .notNeeded 0), .yielded (.terminal .failed message)] }
  passes : ∀ turn run received after, live run → guard run turn →
    (run.headed turn).isIdle = false → receive inv turn (run.waiting turn) = some received →
    process inv turn (run.waiting turn).control.cancelled received.arm received.ready
      received.postCutoff received.run = .ok () after → live after
  fails : ∀ turn run received failure after, live run → guard run turn →
    (run.headed turn).isIdle = false → receive inv turn (run.waiting turn) = some received →
    process inv turn (run.waiting turn).control.cancelled received.arm received.ready
      received.postCutoff received.run = .error failure after → ended (after.fail failure)
  closes : ∀ turn run after, live run → guard run turn → (run.headed turn).isIdle = true →
    finish inv turn.closing (run.headed turn) = .ok () after → ended after.refuseBudget
  breaks : ∀ turn run failure after, live run → guard run turn → (run.headed turn).isIdle = true →
    finish inv turn.closing (run.headed turn) = .error failure after → ended (after.fail failure)

/-- Everything one step of a live run can do. -/
inductive Stepped (inv : Invocation) (turn : Turn) (run : Run) : Machine → Prop where
  | waits : Stepped inv turn run ⟨run, false⟩
  | passes {received after} : (run.headed turn).isIdle = false →
      receive inv turn (run.waiting turn) = some received →
      process inv turn (run.waiting turn).control.cancelled received.arm received.ready
        received.postCutoff received.run = .ok () after → Stepped inv turn run ⟨after, false⟩
  | fails {received failure after} : (run.headed turn).isIdle = false →
      receive inv turn (run.waiting turn) = some received →
      process inv turn (run.waiting turn).control.cancelled received.arm received.ready
        received.postCutoff received.run = .error failure after →
      Stepped inv turn run ⟨after.fail failure, true⟩
  | closes {after : Run} : (run.headed turn).isIdle = true →
      finish inv turn.closing (run.headed turn) = .ok () after →
      Stepped inv turn run ⟨after.refuseBudget, true⟩
  | breaks {failure after} : (run.headed turn).isIdle = true →
      finish inv turn.closing (run.headed turn) = .error failure after →
      Stepped inv turn run ⟨after.fail failure, true⟩

theorem step_stepped (inv : Invocation) (turn : Turn) (run : Run) :
    Stepped inv turn run (step inv ⟨run, false⟩ turn) := by
  have headed : { run with control := run.control.head turn.cancelAtHead } = run.headed turn := rfl
  have waiting : (run.headed turn).beforeWait turn = run.waiting turn := rfl
  simp only [step, Bool.false_eq_true, if_false, headed, waiting]
  cases idle : (run.headed turn).isIdle with
  | true =>
    rw [if_pos rfl]
    cases finished : finish inv turn.closing (run.headed turn) with
    | ok _ after => exact .closes idle finished
    | error failure after => exact .breaks idle finished
  | false =>
    rw [if_neg Bool.false_ne_true]
    cases heard : receive inv turn (run.waiting turn) with
    | none => exact .waits
    | some received =>
      simp only
      cases passed : process inv turn (run.waiting turn).control.cancelled received.arm
          received.ready received.postCutoff received.run with
      | ok _ after => exact .passes idle heard passed
      | error failure after => exact .fails idle heard passed

/-- Every turn of a run meets the guard in the state it finds. -/
def Guarded (inv : Invocation) (guard : Run → Turn → Prop) : Machine → List Turn → Prop
  | _, [] => True
  | machine, turn :: rest =>
    (machine.ended = false → guard machine.run turn) ∧ Guarded inv guard (step inv machine turn) rest

variable {turns : List Turn}

theorem guarded_of_forall {guard : Run → Turn → Prop}
    (meets : ∀ turn ∈ turns, ∀ run, guard run turn) (machine : Machine) :
    Guarded inv guard machine turns := by
  induction turns generalizing machine with
  | nil => trivial
  | cons turn rest ih =>
    refine ⟨fun _ => meets turn List.mem_cons_self _, ?_⟩
    exact ih (fun other member => meets other (List.mem_cons_of_mem _ member)) _

theorem guarded_true : Guarded inv (fun _ _ => True) machine turns :=
  guarded_of_forall (fun _ _ _ => trivial) machine

variable {machine : Machine}

theorem guarded_and {first second : Run → Turn → Prop} (left : Guarded inv first machine turns)
    (right : Guarded inv second machine turns) :
    Guarded inv (fun run turn => first run turn ∧ second run turn) machine turns := by
  induction turns generalizing machine with
  | nil => trivial
  | cons turn rest ih =>
    exact ⟨fun live => ⟨left.1 live, right.1 live⟩, ih left.2 right.2⟩

/-- The invariant of a machine: `live` while the stream goes on, `ended` after it. -/
def Machine.Holds (live ended : Run → Prop) (machine : Machine) : Prop :=
  if machine.ended then ended machine.run else live machine.run

section Rule

variable {guard : Run → Turn → Prop} {live ended : Run → Prop}

variable (rule : LoopRule inv guard live ended)

include rule

theorem LoopRule.start : (start inv).Holds live ended := by
  unfold Workflow.start
  cases prepared : inv.prepare with
  | ok run => exact rule.opens run prepared
  | error refusal =>
    cases refusal with
    | error error => exact rule.refuses error prepared
    | invalidInput message => exact rule.rejects message prepared

theorem LoopRule.step (holds : machine.Holds live ended)
    (guarded : machine.ended = false → guard machine.run turn) :
    (step inv machine turn).Holds live ended := by
  obtain ⟨run, finished⟩ := machine
  cases finished with
  | true => simpa [Workflow.step, Machine.Holds] using holds
  | false =>
    have alive : live run := by simpa [Machine.Holds] using holds
    have guarding := guarded rfl
    have stepped := step_stepped inv turn run
    generalize Workflow.step inv ⟨run, false⟩ turn = machine at stepped ⊢
    cases stepped with
    | waits => exact alive
    | passes idle heard passed => exact rule.passes turn run _ _ alive guarding idle heard passed
    | fails idle heard failed => exact rule.fails turn run _ _ _ alive guarding idle heard failed
    | closes idle finished => exact rule.closes turn run _ alive guarding idle finished
    | breaks idle broken => exact rule.breaks turn run _ _ alive guarding idle broken

theorem LoopRule.fold (holds : machine.Holds live ended)
    (guarded : Guarded inv guard machine turns) :
    (turns.foldl (Workflow.step inv) machine).Holds live ended := by
  induction turns generalizing machine with
  | nil => exact holds
  | cons turn rest ih => exact ih (rule.step holds guarded.1) guarded.2

theorem LoopRule.run (turns : List Turn) (guarded : Guarded inv guard (Workflow.start inv) turns) :
    (runTurns inv turns).Holds live ended :=
  rule.fold rule.start guarded

end Rule

end A2aBridge.Workflow
