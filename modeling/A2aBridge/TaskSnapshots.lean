import A2aBridge.StatefulRefusal
import A2aBridge.TaskProgress

/-!
The two projections a client reattaches by: the progress snapshot, kept in maps, and the fold of
the journal. Every task of the store follows the progress machine, so that facts about its
histories hold for the store's.
-/

namespace A2aBridge.Tasks

open Runs
open StatefulRefusal (except_bind_ok)
open Workflow (BridgeError)
open Sessions (UsageSnapshot)

/-! ### Tasks of the store follow the progress machine -/

variable (entry : TaskEntry) {seq terminal : Int} {checks : EvidenceChecks} {node : NodeId}
  {store : MemoryTaskStore} {task : TaskId}

def TaskEntry.progress : Progress where
  seqCounter := entry.seqCounter
  terminalSeq := entry.terminalSeq
  pendingSeq := entry.pendingSeq
  starts := entry.starts
  checkpoints := entry.checkpoints
  journal := entry.journal

/-- A task with a terminal sequence is no longer working. -/
def TaskEntry.Ended : Prop :=
  entry.terminalSeq.isSome = true → entry.row.status ≠ .working

/-- What a write of one task is to its progress. -/
def Follows (before after : TaskEntry) (action : Option Act) : Prop :=
  after.Ended ∧
    (after.progress = before.progress ∨
      ∃ done, action = some done ∧ before.progress.act done = some after.progress)

namespace TaskEntry

variable {entry after : TaskEntry}

variable {ok : Bool} {output : String} {usage : Option UsageSnapshot} {result error : Option String}
  {status : TaskRecordStatus} {attemptId : AttemptId}

theorem put_node_checkpoint_sequenced_follows (ended : entry.Ended)
    (written : entry.putNodeCheckpointSequenced node output ok usage = .ok (seq, after)) :
    Follows entry after (some (.finish node output ok usage none none)) := by
  unfold putNodeCheckpointSequenced at written
  split_ifs at written with fresh
  cases written
  exact ⟨ended, .inr ⟨_, rfl, if_neg fresh⟩⟩

theorem put_node_checkpoint_sequenced_v2_follows (ended : entry.Ended) {terminalJson : String}
    {policyTriggerJson : Option String}
    (written : entry.putNodeCheckpointSequencedV2 checks node output ok usage terminalJson
      policyTriggerJson = .ok (seq, after)) :
    Follows entry after
      (some (.finish node output ok usage (some terminalJson) policyTriggerJson)) := by
  unfold putNodeCheckpointSequencedV2 at written
  split at written
  · cases written
  split at written
  · cases written
  split at written
  · split at written
    · cases written
      exact ⟨ended, .inl rfl⟩
    · cases written
  · rename_i fresh
    split at written <;> cases written
    refine ⟨ended, .inr ⟨_, rfl, if_neg ?_⟩⟩
    change ¬ (entry.checkpoints.lookup node).isSome = true
    rw [fresh]
    exact Bool.false_ne_true

theorem set_terminal_sequenced_follows
    (written : entry.setTerminalSequenced status result error = .ok (seq, after)) :
    Follows entry after (some (.settle (terminalStatusFromRecord status)
      ((result.or error).getD ""))) := by
  unfold setTerminalSequenced at written
  split at written
  · cases written
  rename_i ending
  split at written
  · cases written
  rename_i free
  split at written <;> cases written
  refine ⟨fun _ => ending, .inr ⟨_, rfl, if_neg ?_⟩⟩
  change ¬ (entry.pendingTerminal.map _).isSome = true
  rw [Option.isSome_map]
  exact free

theorem set_terminal_sequenced_pending_follows (ended : entry.Ended)
    {terminal : AttemptTerminal}
    (written : entry.setTerminalSequencedPending checks task status result error attemptId terminal =
      .ok (seq, after)) :
    Follows entry after (some (.withhold (terminalStatusFromRecord status)
      ((result.or error).getD ""))) := by
  unfold setTerminalSequencedPending at written
  split at written
  · cases written
  rename_i checked
  split at written
  · cases written
  split at written
  · split at written
    · cases written
      exact ⟨ended, .inl rfl⟩
    · cases written
  split at written
  · cases written
  split_ifs at written with working
  cases written
  have terminal : status ≠ .working := by
    intro same
    subst same
    exact checked rfl
  refine ⟨fun _ => terminal, .inr ⟨_, rfl, (if_neg ?_).trans ?_⟩⟩
  · exact fun settled => working (ended settled)
  · have twice : entry.seqCounter + 2 = entry.seqCounter + 1 + 1 := by omega
    simp only [progress, twice]
    rfl

theorem mark_terminal_projection_ready_follows (ended : entry.Ended)
    (written : entry.markTerminalProjectionReady attemptId = .ok after) :
    Follows entry after (some .publish) := by
  unfold markTerminalProjectionReady at written
  split at written
  · rename_i pending held
    split at written <;> cases written
    refine ⟨ended, .inr ⟨_, rfl, if_pos ?_⟩⟩
    change (entry.pendingTerminal.map _).isSome = true
    rw [held]
    rfl
  · cases written

end TaskEntry

/-- What a call is to the progress of a task. -/
def StoreCall.actionOn (task : TaskId) : StoreCall → Option Act
  | .recordNodeStarted target node => if target = task then some (.start node) else none
  | .putNodeCheckpointSequenced target node output ok usage =>
    if target = task then some (.finish node output ok usage none none) else none
  | .putNodeCheckpointSequencedV2 target node output ok usage terminalJson policyTriggerJson =>
    if target = task then
      some (.finish node output ok usage (some terminalJson) policyTriggerJson)
    else none
  | .recordEventSequenced target kind => if target = task then some (.report kind) else none
  | .setTerminalSequenced target status result error =>
    if target = task then
      some (.settle (terminalStatusFromRecord status) ((result.or error).getD ""))
    else none
  | .setTerminalSequencedPending target status result error _ _ =>
    if target = task then
      some (.withhold (terminalStatusFromRecord status) ((result.or error).getD ""))
    else none
  | .markTerminalProjectionReady target _ => if target = task then some .publish else none
  | _ => none

namespace MemoryTaskStore

variable {next : MemoryTaskStore} {call : StoreCall}

def AllEnded (store : MemoryTaskStore) : Prop :=
  ∀ task entry, store.tasks.lookup task = some entry → entry.Ended

/-- How a call leaves the tasks: as they were, with a new one, or with one that moved on. -/
inductive Moves (store next : MemoryTaskStore) (call : StoreCall) : Prop where
  | same : next.tasks = store.tasks → Moves store next call
  | born (task : TaskId) (record : TaskRecord) (locator : Option TaskAttemptLocator) :
      store.tasks.lookup task = none →
      next.tasks = store.tasks.insert task (.created record locator) → Moves store next call
  | moved (task : TaskId) (before after : TaskEntry) :
      store.tasks.lookup task = some before → next.tasks = store.tasks.insert task after →
      Follows before after (call.actionOn task) → Moves store next call

variable {α : Type} {write : TaskEntry → Except BridgeError (α × TaskEntry)}

theorem on_task_ok {answer : α}
    (written : store.onTask task write = .ok (answer, next)) :
    ∃ before after, store.tasks.lookup task = some before ∧
      write before = .ok (answer, after) ∧ next.tasks = store.tasks.insert task after := by
  unfold onTask at written
  split at written
  · cases written
  · rename_i before known
    obtain ⟨pair, wrote, same⟩ := except_bind_ok written
    cases same
    exact ⟨before, pair.2, known, wrote, rfl⟩

theorem admit_moves {record : TaskRecord} {locator : TaskAttemptLocator}
    (admitted : store.enroll record locator = .ok next) : Moves store next call := by
  obtain ⟨_, free, same⟩ := except_bind_ok admitted
  cases same
  unfold AttemptReads.enroll at free
  split_ifs at free with present
  refine .born record.id record (some locator) ?_ rfl
  rw [Bool.or_eq_true, Bool.or_eq_true, not_or, not_or] at present
  exact Option.map_eq_none_iff.mp (Option.not_isSome_iff_eq_none.mp present.1.1)

theorem moves_of_rewrite (ended : store.AllEnded) {rewrite : TaskEntry → TaskEntry}
    {written : Unit × MemoryTaskStore}
    (rewritten : store.onTask task (fun entry => .ok ((), rewrite entry)) = .ok written)
    (tasks : next.tasks = written.2.tasks) (quiet : call.actionOn task = none)
    (keeps : ∀ entry, store.tasks.lookup task = some entry → entry.Ended →
      Follows entry (rewrite entry) none) : Moves store next call := by
  obtain ⟨before, after, known, wrote, inserted⟩ := on_task_ok rewritten
  cases wrote
  exact .moved task before _ known (tasks.trans inserted)
    (quiet ▸ keeps before known (ended task before known))

theorem map_snd_ok {β : Type} {result : Except BridgeError (α × β)} {value : β}
    (mapped : Prod.snd <$> result = .ok value) : ∃ answer, result = .ok (answer, value) := by
  cases result with
  | error reason => cases mapped
  | ok pair =>
    cases mapped
    exact ⟨pair.1, rfl⟩

section

variable (ended : store.AllEnded)

include ended

theorem moves_of_on_task (written : Prod.snd <$> store.onTask task write = .ok next)
    {action : Option Act} (named : call.actionOn task = action)
    (follows : ∀ before after answer, before.Ended → write before = .ok (answer, after) →
      Follows before after action) : Moves store next call := by
  obtain ⟨answer, written⟩ := map_snd_ok written
  obtain ⟨before, after, known, wrote, tasks⟩ := on_task_ok written
  exact .moved task before after known tasks
    (named ▸ follows before after answer (ended task before known) wrote)

theorem answer_moves (answered : store.answer checks call = .ok next) : Moves store next call := by
  cases call with
  | create record =>
    simp only [answer, create] at answered
    split_ifs at answered with fresh
    cases answered
    exact .born record.id record none (Option.not_isSome_iff_eq_none.mp fresh) rfl
  | createWithAttemptLocator record locator =>
    simp only [answer, createWithAttemptLocator] at answered
    split at answered
    · cases answered
    · exact admit_moves answered
  | claimBatchChildWithLocator batch item record locator =>
    obtain ⟨claim, claimed⟩ := map_snd_ok answered
    simp only [claimBatchChildWithLocator] at claimed
    split at claimed
    · cases claimed
    split at claimed
    · cases claimed
      exact .same rfl
    · obtain ⟨admitted, made, same⟩ := except_bind_ok claimed
      cases same
      exact admit_moves made
  | putAttemptLocator task locator =>
    obtain ⟨_, _, put⟩ := except_bind_ok answered
    obtain ⟨written, rewritten, same⟩ := except_bind_ok put
    cases same
    exact moves_of_rewrite ended rewritten rfl rfl fun _ _ stillEnded => ⟨stillEnded, .inl rfl⟩
  | markAttemptTelemetryUnavailable task attempt reason =>
    refine @moves_of_on_task _ task _ _ _ _ ended answered _ rfl ?_
    intro before after _ stillEnded wrote
    obtain ⟨marked, _, same⟩ := except_bind_ok wrote
    cases same
    exact ⟨stillEnded, .inl rfl⟩
  | claimResumeAttemptWithLocator task cap expected next =>
    obtain ⟨claim, claimed⟩ := map_snd_ok answered
    obtain ⟨resumed, decided, claimed⟩ := except_bind_ok claimed
    cases resumed with
    | none =>
      cases claimed
      exact .same rfl
    | some row =>
      obtain ⟨written, rewritten, same⟩ := except_bind_ok claimed
      cases same
      refine moves_of_rewrite ended rewritten rfl rfl fun entry known stillEnded => ⟨?_, .inl rfl⟩
      obtain ⟨before, found, _, _, none | ⟨_, _, same⟩⟩ := AttemptReads.resume_ok decided
      · cases none
      · cases same
        rw [reads, known, Option.map_some] at found
        cases found
        exact stillEnded
  | recordNodeStarted task node =>
    refine moves_of_on_task ended answered (if_pos rfl) ?_
    rintro before after _ stillEnded ⟨⟩
    exact ⟨stillEnded, .inr ⟨_, rfl, rfl⟩⟩
  | putNodeCheckpointSequenced task node output ok usage =>
    exact moves_of_on_task ended answered (if_pos rfl) fun _ _ _ stillEnded =>
      TaskEntry.put_node_checkpoint_sequenced_follows stillEnded
  | putNodeCheckpointSequencedV2 task node output ok usage terminalJson policyTriggerJson =>
    exact moves_of_on_task ended answered (if_pos rfl) fun _ _ _ stillEnded =>
      TaskEntry.put_node_checkpoint_sequenced_v2_follows stillEnded
  | recordEventSequenced task kind =>
    refine moves_of_on_task ended answered (if_pos rfl) ?_
    rintro before after _ stillEnded ⟨⟩
    exact ⟨stillEnded, .inr ⟨_, rfl, rfl⟩⟩
  | setTerminalSequenced task status result error =>
    exact moves_of_on_task ended answered (if_pos rfl) fun _ _ _ _ =>
      TaskEntry.set_terminal_sequenced_follows
  | setTerminalSequencedPending task status result error attemptId terminal =>
    exact moves_of_on_task ended answered (if_pos rfl) fun _ _ _ stillEnded =>
      TaskEntry.set_terminal_sequenced_pending_follows stillEnded
  | markTerminalProjectionReady task attemptId =>
    refine moves_of_on_task ended answered (if_pos rfl) ?_
    intro before after _ stillEnded wrote
    cases ready : before.markTerminalProjectionReady attemptId with
    | error reason =>
      rw [ready] at wrote
      cases wrote
    | ok published =>
      rw [ready] at wrote
      cases wrote
      exact TaskEntry.mark_terminal_projection_ready_follows stillEnded ready

theorem step_moves (stepped : store.step checks call = some next) : Moves store next call := by
  unfold step at stepped
  cases answered : store.answer checks call with
  | error reason =>
    rw [answered] at stepped
    cases stepped
  | ok after =>
    rw [answered] at stepped
    cases stepped
    exact answer_moves ended answered

theorem Moves.each {after : TaskEntry} (moves : Moves store next call)
    (known : next.tasks.lookup task = some after) :
    (store.tasks.lookup task = none ∧ ∃ record locator, after = .created record locator) ∨
      ∃ before, store.tasks.lookup task = some before ∧
        Follows before after (call.actionOn task) := by
  have unmoved : store.tasks.lookup task = some after → Follows after after (call.actionOn task) :=
    fun earlier => ⟨ended task after earlier, .inl rfl⟩
  cases moves with
  | same tasks =>
    rw [tasks] at known
    exact .inr ⟨after, known, unmoved known⟩
  | born target record locator fresh tasks =>
    rw [tasks] at known
    by_cases here : task = target
    · subst here
      rw [AList.lookup_insert] at known
      exact .inl ⟨fresh, record, locator, (Option.some.inj known).symm⟩
    · rw [AList.lookup_insert_ne here] at known
      exact .inr ⟨after, known, unmoved known⟩
  | moved target before moved earlier tasks follows =>
    rw [tasks] at known
    by_cases here : task = target
    · subst here
      rw [AList.lookup_insert] at known
      cases known
      exact .inr ⟨before, earlier, follows⟩
    · rw [AList.lookup_insert_ne here] at known
      exact .inr ⟨after, known, unmoved known⟩

theorem Moves.all_ended (moves : Moves store next call) : next.AllEnded := by
  intro task after known
  rcases moves.each ended known with ⟨_, record, locator, rfl⟩ | ⟨before, _, follows⟩
  · nofun
  · exact follows.1

end

variable {before : TaskEntry} {done : Act}

theorem Moves.keeps (moves : Moves store next call)
    (known : store.tasks.lookup task = some before) :
    ∃ after, next.tasks.lookup task = some after := by
  cases moves with
  | same tasks => exact ⟨before, by rw [tasks, known]⟩
  | born target record locator fresh tasks =>
    have differs : task ≠ target := by
      rintro rfl
      rw [fresh] at known
      cases known
    exact ⟨before, by rw [tasks, AList.lookup_insert_ne differs, known]⟩
  | moved target earlier moved found tasks follows =>
    by_cases here : task = target
    · subst here
      exact ⟨moved, by rw [tasks, AList.lookup_insert]⟩
    · exact ⟨before, by rw [tasks, AList.lookup_insert_ne here, known]⟩

section Histories

variable {permits : MemoryTaskStore → StoreCall → Bool} {allows : Progress → Act → Bool}

/-- In every history whose calls meet `permits`, each task goes through a history of the
progress machine whose acts meet `allows`. -/
theorem progress_reaches (carried : ∀ store call task before done, permits store call = true →
      call.actionOn task = some done → store.tasks.lookup task = some before →
      allows before.progress done = true)
    (reached : Reaches (guarded permits (step checks)) empty store) :
    store.AllEnded ∧ ∀ task entry, store.tasks.lookup task = some entry →
      Reaches (guarded allows Progress.act) .initial entry.progress := by
  induction reached with
  | refl =>
    constructor
    all_goals
      intro task entry known
      cases (AList.lookup_empty task).symm.trans known
  | step _ stepped ih =>
    obtain ⟨ended, followed⟩ := ih
    obtain ⟨permitted, stepped⟩ := guarded_eq_some.mp stepped
    have moves := step_moves ended stepped
    refine ⟨moves.all_ended ended, ?_⟩
    intro task after known
    rcases moves.each ended known with ⟨_, record, locator, rfl⟩ | ⟨before, earlier, follows⟩
    · exact .refl
    · have past := followed task before earlier
      rcases follows.2 with same | ⟨done, action, acted⟩
      · rw [same]
        exact past
      · exact .step past (guarded_eq_some.mpr
          ⟨carried _ _ task before done permitted action earlier, acted⟩)

theorem later_progress_reaches {later : MemoryTaskStore} {entry : TaskEntry}
    (ended : store.AllEnded) (known : store.tasks.lookup task = some entry)
    (reached : Reaches (step checks) store later) :
    later.AllEnded ∧ ∃ moved, later.tasks.lookup task = some moved ∧
      Reaches Progress.act entry.progress moved.progress := by
  induction reached with
  | refl => exact ⟨ended, entry, known, .refl⟩
  | step _ stepped ih =>
    obtain ⟨ended, before, earlier, past⟩ := ih
    have moves := step_moves ended stepped
    obtain ⟨after, found⟩ := moves.keeps earlier
    refine ⟨moves.all_ended ended, after, found, ?_⟩
    rcases moves.each ended found with ⟨unknown, _⟩ | ⟨same, recalled, follows⟩
    · rw [unknown] at earlier
      cases earlier
    · rw [recalled] at earlier
      cases earlier
      rcases follows.2 with unmoved | ⟨done, _, acted⟩
      · rw [unmoved]
        exact past
      · exact .step past acted

end Histories

/-! ### Histories without late rows -/

/-- Whether a task of the store meets a condition, if the store knows it. -/
def taskMeets (store : MemoryTaskStore) (task : TaskId) (condition : TaskEntry → Bool) : Bool :=
  (store.tasks.lookup task).all condition

/-- No start and no checkpoint is written while the task's terminal is withheld. -/
def lateRowFree (store : MemoryTaskStore) : StoreCall → Bool
  | .recordNodeStarted task _ | .putNodeCheckpointSequenced task .. |
      .putNodeCheckpointSequencedV2 task .. =>
      store.taskMeets task fun entry => entry.pendingTerminal.isNone
  | _ => true

/-- Nor is a terminal withheld while a node of the task is in progress. -/
def calm (store : MemoryTaskStore) (call : StoreCall) : Bool :=
  store.lateRowFree call &&
    match call with
    | .setTerminalSequencedPending task .. =>
      store.taskMeets task fun entry => entry.starts.entries.isEmpty
    | _ => true

theorem action_on_here {target : TaskId} {action : Act}
    (known : (if target = task then some action else none) = some done) :
    target = task ∧ done = action := by
  obtain ⟨here, same⟩ := Option.ite_none_right_eq_some.mp known
  exact ⟨here, (Option.some.inj same).symm⟩

section

variable (known : store.tasks.lookup task = some before) (action : call.actionOn task = some done)

include known action

theorem late_row_free_carried (prompt : store.lateRowFree call = true) :
    before.progress.lateRowFree done = true := by
  have free : ∀ target, store.taskMeets target (fun entry => entry.pendingTerminal.isNone) = true →
      target = task → before.progress.pendingSeq.isNone = true := by
    rintro target meets rfl
    rw [taskMeets, known] at meets
    exact Option.isNone_map.trans meets
  cases call with
  | recordNodeStarted target node | putNodeCheckpointSequenced target node output ok usage
  | putNodeCheckpointSequencedV2 target node output ok usage terminalJson policyTriggerJson =>
    obtain ⟨here, rfl⟩ := action_on_here action
    exact free target prompt here
  | recordEventSequenced | setTerminalSequenced | setTerminalSequencedPending
  | markTerminalProjectionReady =>
    obtain ⟨_, rfl⟩ := action_on_here action
    rfl
  | _ => cases action

theorem calm_carried (calmed : store.calm call = true) : before.progress.calm done = true := by
  obtain ⟨prompt, idle⟩ := Bool.and_eq_true_iff.mp calmed
  refine Bool.and_eq_true_iff.mpr ⟨late_row_free_carried known action prompt, ?_⟩
  by_cases pends : ∃ status output, done = .withhold status output
  · obtain ⟨status, output, rfl⟩ := pends
    cases call with
    | setTerminalSequencedPending target status result error attemptId terminal =>
      obtain ⟨rfl, _⟩ := action_on_here action
      simp only [taskMeets, known] at idle
      exact idle
    | recordNodeStarted | putNodeCheckpointSequenced | recordEventSequenced
    | setTerminalSequenced | markTerminalProjectionReady => cases (action_on_here action).2
    | putNodeCheckpointSequencedV2 target node output ok usage terminalJson policyTriggerJson =>
      cases (action_on_here action).2
    | _ => cases action
  · cases done with
    | withhold status output => exact absurd ⟨status, output, rfl⟩ pends
    | _ => rfl

end

end MemoryTaskStore

/-! ### The two projections -/

/-- Two snapshots say the same; the nodes in progress come in no order. -/
structure Agrees (folded direct : TaskProgressSnapshot) : Prop where
  status : folded.status = direct.status
  result : folded.result = direct.result
  error : folded.error = direct.error
  checkpoints : folded.checkpoints = direct.checkpoints
  starts : ∀ start, start ∈ folded.starts ↔ start ∈ direct.starts
  terminalSeq : folded.terminalSeq = direct.terminalSeq
  cutSeq : folded.cutSeq = direct.cutSeq

def TaskEntry.ProjectionsAgree : Prop :=
  ∃ folded,
    foldJournalToSnapshot entry.journalFoldInputs.events entry.journalFoldInputs.scalars =
      .ok folded ∧ Agrees folded entry.progressSnapshot

namespace TaskEntry

variable {entry : TaskEntry}

theorem fold_inputs_events (sound : entry.progress.Sound) :
    entry.journalFoldInputs.events = entry.journal.filter entry.visible := by
  apply List.Pairwise.insertionSort_eq
  exact (sound.ordered.filter entry.visible).imp Int.le_of_lt

variable {marks : FoldMarks}

theorem mem_snapshot_checkpoints {output : String} {ok : Bool} :
    (node, output, ok, seq) ∈ entry.progressSnapshot.checkpoints ↔
      ∃ usage, entry.checkpoints.lookup node = some ⟨output, ok, seq, usage⟩ := by
  simp only [progressSnapshot, List.mem_insertionSort, List.mem_map, Prod.mk.injEq]
  constructor
  · rintro ⟨⟨other, value⟩, member, rfl, rfl, rfl, rfl⟩
    exact ⟨value.usage, AList.mem_lookup_iff.mpr member⟩
  · rintro ⟨usage, known⟩
    exact ⟨⟨node, _⟩, AList.mem_lookup_iff.mp known, rfl, rfl, rfl, rfl⟩

theorem mem_snapshot_starts :
    (node, seq) ∈ entry.progressSnapshot.starts ↔ entry.starts.lookup node = some seq := by
  simp only [progressSnapshot, List.mem_map, Prod.mk.injEq]
  constructor
  · rintro ⟨⟨other, opened⟩, member, rfl, rfl⟩
    exact AList.mem_lookup_iff.mpr member
  · intro known
    exact ⟨⟨node, seq⟩, AList.mem_lookup_iff.mp known, rfl, rfl⟩

theorem snapshot_checkpoints_nodup : entry.progressSnapshot.checkpoints.Nodup := by
  have keys := entry.checkpoints.nodupKeys
  refine (List.perm_insertionSort _ _).nodup_iff.mpr (List.Nodup.map_on ?_ keys.nodup)
  rintro ⟨left, first⟩ member ⟨right, second⟩ other same
  obtain ⟨rfl, _⟩ := Prod.mk.injEq .. ▸ same
  exact List.NodupKeys.eq_of_fst_eq keys member other rfl

theorem snapshot_checkpoints (mirrors : Progress.Mirrors marks entry.progress) :
    entry.progressSnapshot.checkpoints = marks.checkpoints := by
  have distinct : marks.checkpoints.Nodup :=
    mirrors.ascending.imp fun before same => absurd (same ▸ before) (Int.lt_irrefl _)
  have permuted : entry.progressSnapshot.checkpoints.Perm marks.checkpoints := by
    rw [List.perm_ext_iff_of_nodup snapshot_checkpoints_nodup distinct]
    rintro ⟨node, output, ok, seq⟩
    exact mem_snapshot_checkpoints.trans (mirrors.finished node output ok seq).symm
  have sequences : (marks.checkpoints.map fun checkpoint => checkpoint.2.2.2).Nodup :=
    List.pairwise_map.mpr (mirrors.ascending.imp Int.ne_of_lt)
  refine List.Perm.eq_of_pairwise ?_ (List.pairwise_insertionSort _ _)
    (mirrors.ascending.imp Int.le_of_lt) permuted
  -- No two checkpoints share a sequence, so the order by sequence is the only one.
  intro left right first second below above
  exact List.inj_on_of_nodup_map sequences (permuted.mem_iff.mp first) second
    (Int.le_antisymm below above)

theorem max_included_le {sequences : List Int} {bound : Int} (nonneg : 0 ≤ bound)
    (within : ∀ seq ∈ sequences, seq ≤ bound) : sequences.max?.getD 0 ≤ bound := by
  cases found : sequences.max? with
  | none => exact nonneg
  | some largest => exact (List.max?_le_iff found).mpr within

theorem snapshot_cut (nonneg : 0 ≤ entry.scalars.cutSeq)
    (finished : ∀ node value, entry.checkpoints.lookup node = some value →
      value.seq ≤ entry.scalars.cutSeq)
    (begun : ∀ node seq, entry.starts.lookup node = some seq → seq ≤ entry.scalars.cutSeq)
    (ended : ∀ seq, entry.scalars.terminalSeq = some seq → seq ≤ entry.scalars.cutSeq) :
    entry.progressSnapshot.cutSeq = entry.scalars.cutSeq := by
  apply Int.max_eq_left
  apply max_included_le nonneg
  intro seq member
  rw [List.mem_append, List.mem_append] at member
  rcases member with (checkpoint | start) | terminal
  · obtain ⟨⟨node, output, ok, stored⟩, inside, rfl⟩ := List.mem_map.mp checkpoint
    obtain ⟨usage, known⟩ := mem_snapshot_checkpoints.mp inside
    exact finished node _ known
  · obtain ⟨⟨node, opened⟩, inside, rfl⟩ := List.mem_map.mp start
    exact begun node opened (mem_snapshot_starts.mp inside)
  · exact ended seq (Option.mem_toList.mp terminal)

theorem agree_of_fold (sound : entry.progress.Sound)
    (mirrors : Progress.Mirrors marks entry.progress)
    (folds : (entry.journal.filter entry.visible).foldlM foldEvent {} = .ok marks)
    (cut : entry.progressSnapshot.cutSeq = entry.scalars.cutSeq) : entry.ProjectionsAgree := by
  refine ⟨_, by rw [foldJournalToSnapshot, fold_inputs_events sound, folds]; rfl, ?_⟩
  constructor
  case checkpoints => exact (snapshot_checkpoints mirrors).symm
  case starts =>
    rintro ⟨node, seq⟩
    exact (mirrors.begun node seq).trans mem_snapshot_starts.symm
  case cutSeq => exact cut.symm
  all_goals rfl

theorem pending_seq_none (free : entry.pendingTerminal = none) : entry.pendingSeq = none := by
  rw [pendingSeq, free]
  rfl

theorem cut_of_free (free : entry.pendingTerminal = none) :
    entry.scalars.cutSeq = entry.seqCounter := by
  simp only [scalars, pending_seq_none free]
  rfl

theorem cut_of_held (held : entry.pendingSeq = some terminal) :
    entry.scalars.cutSeq = terminal - 1 := by
  simp only [scalars, held]
  rfl

variable (sound : entry.progress.Sound)

include sound

theorem snapshot_cut_free (free : entry.pendingTerminal = none) :
    entry.progressSnapshot.cutSeq = entry.scalars.cutSeq := by
  apply snapshot_cut <;> rw [cut_of_free free]
  · exact sound.nonneg
  · exact sound.finished_bounded
  · exact sound.begun_bounded
  · intro seq known
    simp only [scalars, pending_seq_none free] at known
    exact sound.terminal_bounded seq known

theorem snapshot_cut_held (held : entry.pendingSeq = some terminal)
    (prompt : entry.progress.Prompt terminal) :
    entry.progressSnapshot.cutSeq = entry.scalars.cutSeq := by
  have positive := (sound.withheld terminal held).2
  apply snapshot_cut <;> rw [cut_of_held held]
  · omega
  · intro node value known
    have below := prompt.finished node value known
    omega
  · intro node seq known
    have none : entry.starts = ∅ := prompt.starts
    rw [none] at known
    cases known
  · intro seq known
    simp only [scalars, held] at known
    cases known

theorem agree_of_free (free : entry.pendingTerminal = none) :
    entry.ProjectionsAgree := by
  obtain ⟨marks, mirrors⟩ := sound.mirrored
  have everything : entry.journal.filter entry.visible = entry.journal :=
    List.filter_eq_self.mpr fun event _ => by rw [visible, pending_seq_none free]; rfl
  apply agree_of_fold sound mirrors _ (snapshot_cut_free sound free)
  rw [everything]
  exact mirrors.folds

end TaskEntry

namespace MemoryTaskStore

variable {entry : TaskEntry}

section

variable (known : store.tasks.lookup task = some entry)

include known

theorem sound_of_reaches (reached : Reaches (step checks) empty store) : entry.progress.Sound := by
  have followed := @progress_reaches _ _ _ (fun _ _ => true) (fun _ _ _ _ _ _ _ _ => rfl)
    reached.permitted
  exact Progress.sound_of_reaches (followed.2 task entry known).unguarded

theorem prompt_of_reaches (reached : Reaches (guarded lateRowFree (step checks)) empty store)
    (held : entry.pendingSeq = some terminal) : entry.progress.Prompt terminal := by
  have followed := progress_reaches
    (fun _ _ _ _ _ permitted action known => late_row_free_carried known action permitted) reached
  exact Progress.held_of_reaches .step (followed.2 task entry known) held

theorem calm_of_reaches (reached : Reaches (guarded calm (step checks)) empty store)
    (held : entry.pendingSeq = some terminal) : entry.progress.Calm terminal := by
  have followed := progress_reaches
    (fun _ _ _ _ _ permitted action known => calm_carried known action permitted) reached
  exact Progress.held_of_reaches .step (followed.2 task entry known) held

end

theorem late_row_free_of_calm (reached : Reaches (guarded calm (step checks)) empty store) :
    Reaches (guarded lateRowFree (step checks)) empty store :=
  reached.weaken fun _ _ calmed => (Bool.and_eq_true_iff.mp calmed).1

/-- The folded journal and the progress snapshot agree on a task whose terminal is not withheld.
They agree on every task of a history that withholds no terminal while a node is in progress
and writes no node row while a terminal is withheld. -/
theorem projections_agree (known : store.tasks.lookup task = some entry) :
    (Reaches (step checks) empty store → entry.pendingTerminal = none → entry.ProjectionsAgree) ∧
      (Reaches (guarded calm (step checks)) empty store → entry.ProjectionsAgree) := by
  constructor
  · intro reached free
    exact TaskEntry.agree_of_free (sound_of_reaches known reached) free
  · intro reached
    have sound := sound_of_reaches known reached.unguarded
    cases pending : entry.pendingTerminal with
    | none => exact TaskEntry.agree_of_free sound pending
    | some projection =>
      have held : entry.pendingSeq = some projection.terminalSeq := by
        rw [TaskEntry.pendingSeq, pending]
        rfl
      have prompt := prompt_of_reaches known (late_row_free_of_calm reached) held
      obtain ⟨marks, _, mirrors, folds⟩ := (calm_of_reaches known reached held).folded
      have below : entry.visible = fun event => decide (event.seq < projection.terminalSeq) := by
        funext event
        rw [TaskEntry.visible, held]
        rfl
      rw [← below] at folds
      exact TaskEntry.agree_of_fold sound mirrors folds
        (TaskEntry.snapshot_cut_held sound held prompt)

end MemoryTaskStore

def sampleNode : NodeId := ⟨"draft", by decide⟩

def sampleChecks : EvidenceChecks := ⟨fun _ => true, fun _ => true, fun _ => true⟩

def sampleCreated : StoreCall :=
  .createWithAttemptLocator ⟨"task", .working, none, none, 0, none, none⟩
    ⟨⟨"task", "attempt", 0, none⟩, none⟩

def sampleWithheld : StoreCall :=
  .setTerminalSequencedPending "task" .canceled none (some "stopped") "attempt" ⟨"canceled", ""⟩

/-- A terminal is withheld while a node is in progress: the fold still shows the node, and the
snapshot does not. -/
theorem withheld_terminal_drops_start : ∃ store entry,
    Reaches (MemoryTaskStore.step sampleChecks) .empty store ∧
      store.tasks.lookup "task" = some entry ∧ ¬ entry.ProjectionsAgree := by
  obtain ⟨store, entry, ran, known, folds, direct⟩ : ∃ store entry,
      run (MemoryTaskStore.step sampleChecks) .empty
        [sampleCreated, .recordNodeStarted "task" sampleNode, sampleWithheld] = some store ∧
      store.tasks.lookup "task" = some entry ∧
      foldJournalToSnapshot entry.journalFoldInputs.events entry.journalFoldInputs.scalars =
        .ok ⟨.working, none, none, [], [(sampleNode, 1)], none, 2⟩ ∧
      entry.progressSnapshot = ⟨.working, none, none, [], [], none, 2⟩ :=
    ⟨_, _, rfl, rfl, rfl, rfl⟩
  refine ⟨store, entry, reaches_of_run ran, known, ?_⟩
  rintro ⟨folded, same, agrees⟩
  rw [folds] at same
  cases same
  have shown := (agrees.starts (sampleNode, 1)).mp List.mem_cons_self
  rw [direct] at shown
  cases shown

theorem sample_projections_agree : ∃ (store : MemoryTaskStore) (entry : TaskEntry),
    store.tasks.lookup "task" = some entry ∧ entry.pendingTerminal.isSome = true ∧
      entry.progressSnapshot.checkpoints = [(sampleNode, "text", true, 2)] ∧
      entry.ProjectionsAgree := by
  obtain ⟨store, entry, ran, known, pending, finished⟩ : ∃ store entry,
      run (guarded MemoryTaskStore.calm (MemoryTaskStore.step sampleChecks)) .empty
        [sampleCreated, .recordNodeStarted "task" sampleNode,
          .putNodeCheckpointSequenced "task" sampleNode "text" true none, sampleWithheld,
          .recordEventSequenced "task" ⟨.plan, rfl⟩] = some store ∧
      store.tasks.lookup "task" = some entry ∧ entry.pendingTerminal.isSome = true ∧
      entry.progressSnapshot.checkpoints = [(sampleNode, "text", true, 2)] :=
    ⟨_, _, rfl, rfl, rfl, rfl⟩
  exact ⟨store, entry, known, pending, finished,
    (MemoryTaskStore.projections_agree known).2 (reaches_of_run ran)⟩

end A2aBridge.Tasks
