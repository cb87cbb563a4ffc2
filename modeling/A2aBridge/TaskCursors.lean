import A2aBridge.TaskSnapshots

/-!
A client that reattaches takes a snapshot and reads the journal from the snapshot's cut. What
the journal holds up to the cut has to be in the snapshot.
-/

namespace A2aBridge.Tasks

open Runs

/-- An event has its place in a snapshot: a finished node with its output, a terminal by a
terminal row at its sequence or later, a start by itself or by what came after it for its node.
Rich events have no place in a snapshot. -/
def TaskProgressSnapshot.Represents (snapshot : TaskProgressSnapshot) (event : OrchEvent) : Prop :=
  match event.kind with
  | .nodeStarted text => ∃ node : NodeId, node.text = text ∧
      ((∃ seq, (node, seq) ∈ snapshot.starts ∧ event.seq ≤ seq) ∨
        (∃ output ok seq, (node, output, ok, seq) ∈ snapshot.checkpoints ∧ event.seq < seq) ∨
        ∃ seq, snapshot.terminalSeq = some seq ∧ event.seq < seq)
  | .nodeFinished text ok output _ _ _ => ∃ node : NodeId, node.text = text ∧
      (node, output, ok, event.seq) ∈ snapshot.checkpoints
  | .terminal .. => snapshot.status.isTerminal = true ∧
      ∃ seq, snapshot.terminalSeq = some seq ∧ event.seq ≤ seq
  | _ => True

def OrchEventKind.isStart : OrchEventKind → Bool
  | nodeStarted _ => true
  | _ => false

variable {entry : TaskEntry} {event : OrchEvent}

namespace TaskEntry

theorem checkpoint_shown {node : NodeId} {value : CheckpointValue}
    (known : entry.checkpoints.lookup node = some value) :
    (node, value.output, value.ok, value.seq) ∈ entry.progressSnapshot.checkpoints :=
  mem_snapshot_checkpoints.mpr ⟨value.usage, known⟩

theorem represents_of_free (sound : entry.progress.Sound) (ended : entry.Ended)
    (free : entry.pendingTerminal = none) (member : event ∈ entry.journal) :
    entry.progressSnapshot.Represents event := by
  have terminal : entry.progressSnapshot.terminalSeq = entry.terminalSeq := by
    simp only [progressSnapshot, scalars, pending_seq_none free]
    rfl
  have status : entry.progressSnapshot.status = entry.row.status := by
    simp only [progressSnapshot, scalars, projectPendingAsWorking, free]
    rfl
  have recorded := sound.recorded event member
  obtain ⟨seq, kind⟩ := event
  cases kind with
  | nodeStarted text =>
    obtain ⟨node, named, ⟨opened, known, later⟩ | ⟨value, known, later⟩ | ⟨last, known, later⟩⟩ :=
      recorded
    · exact ⟨node, named, .inl ⟨opened, mem_snapshot_starts.mpr known, later⟩⟩
    · exact ⟨node, named, .inr (.inl ⟨_, _, _, checkpoint_shown known, later⟩)⟩
    · exact ⟨node, named, .inr (.inr ⟨last, terminal.trans known, later⟩)⟩
  | nodeFinished text ok output usage terminalJson policyTriggerJson =>
    obtain ⟨node, named, known⟩ := recorded
    exact ⟨node, named, checkpoint_shown known⟩
  | terminal reason output =>
    obtain ⟨last, known, later⟩ := recorded
    have stopped : entry.row.status ≠ .working := ended (by
      rw [show entry.terminalSeq = some last from known]
      rfl)
    refine ⟨?_, last, terminal.trans known, later⟩
    rw [status]
    exact decide_eq_true stopped
  | _ => trivial

end TaskEntry

namespace MemoryTaskStore

variable {store later : MemoryTaskStore} {checks : EvidenceChecks} {task : TaskId}
  {moved : TaskEntry}

theorem all_ended_of_reaches (reached : Reaches (step checks) empty store) : store.AllEnded :=
  (@progress_reaches _ _ _ (fun _ _ => true) (fun _ _ _ _ _ _ _ _ => rfl) reached.permitted).1

section

variable (reached : Reaches (guarded lateRowFree (step checks)) empty store)
  (known : store.tasks.lookup task = some entry)

include reached known

theorem cut_le_counter : entry.progressSnapshot.cutSeq ≤ entry.seqCounter := by
  have sound := sound_of_reaches known reached.unguarded
  cases pending : entry.pendingTerminal with
  | none =>
    rw [TaskEntry.snapshot_cut_free sound pending, TaskEntry.cut_of_free pending]
  | some projection =>
    have held : entry.pendingSeq = some projection.terminalSeq := by
      rw [TaskEntry.pendingSeq, pending]
      rfl
    have bounded := sound.terminal_bounded _ (sound.withheld _ held).1
    rw [TaskEntry.snapshot_cut_held sound held (prompt_of_reaches known reached held),
      TaskEntry.cut_of_held held]
    change projection.terminalSeq ≤ entry.seqCounter at bounded
    omega

theorem mem_journal_of_later (went : Reaches (step checks) store later)
    (found : later.tasks.lookup task = some moved) (member : event ∈ moved.journal)
    (within : event.seq ≤ entry.progressSnapshot.cutSeq) : event ∈ entry.journal := by
  obtain ⟨_, same, recalled, progressed⟩ :=
    later_progress_reaches (all_ended_of_reaches reached.unguarded) known went
  rw [found] at recalled
  cases recalled
  obtain ⟨more, extended, above⟩ := (Progress.grows_of_reaches progressed).journal
  change moved.journal = entry.journal ++ more at extended
  rw [extended] at member
  rcases List.mem_append.mp member with inside | added
  · exact inside
  · have beyond := above event added
    have bounded := cut_le_counter reached known
    change entry.seqCounter < event.seq at beyond
    omega

end

/-- A client that reads the journal and comes back with its cut, whatever was written or
withheld in between, has read each event that one read at the end shows, and none twice. -/
theorem journal_read_resumes (reached : Reaches (step checks) empty store)
    (known : store.tasks.lookup task = some entry) (went : Reaches (step checks) store later)
    (found : later.tasks.lookup task = some moved) (event : OrchEvent) :
    let read := entry.journalFoldInputs
    (event ∈ moved.journalFoldInputs.events ↔
      event ∈ read.events ∨ event ∈ moved.journalFrom read.scalars.cutSeq) ∧
    (event ∈ read.events → event ∉ moved.journalFrom read.scalars.cutSeq) := by
  have sound := sound_of_reaches known reached
  obtain ⟨_, same, recalled, progressed⟩ :=
    later_progress_reaches (all_ended_of_reaches reached) known went
  cases found.symm.trans recalled
  obtain ⟨more, extended, above⟩ := (Progress.grows_of_reaches progressed).journal
  have since := fun seq => @Progress.withheld_since _ _ seq progressed
  have bounded := sound.bounded
  have ended := fun seq held => sound.terminal_bounded seq (sound.withheld seq held).1
  simp only [TaskEntry.progress] at extended above since bounded ended
  simp only [TaskEntry.journalFoldInputs, TaskEntry.journalFrom, TaskEntry.visible,
    TaskEntry.scalars, List.mem_insertionSort, List.mem_filter, extended, List.mem_append]
  -- A terminal may be withheld at either read; the cut lies below the first one's.
  rcases Option.eq_none_or_eq_some entry.pendingSeq with first | ⟨_, first⟩ <;>
    rcases Option.eq_none_or_eq_some moved.pendingSeq with last | ⟨_, last⟩ <;>
    simp only [first, last] at since ended ⊢ <;> grind

/-- In a history without late rows no finished node and no terminal up to the cut of a snapshot
is missing from it, and a client that reads on from the cut at any later time finds every
finished node and every terminal in the snapshot or in what it reads, unless a withheld
terminal still hides it. Where no terminal is withheld while a node is in progress, the same
holds for the starts. -/
theorem cut_misses_nothing (reached : Reaches (guarded lateRowFree (step checks)) empty store)
    (known : store.tasks.lookup task = some entry) {event : OrchEvent}
    (begun : event.kind.isStart = true → Reaches (guarded calm (step checks)) empty store) :
    (event ∈ entry.journal → event.seq ≤ entry.progressSnapshot.cutSeq →
      entry.progressSnapshot.Represents event) ∧
    ∀ later moved, Reaches (step checks) store later → later.tasks.lookup task = some moved →
      event ∈ moved.journal →
        entry.progressSnapshot.Represents event ∨
          event ∈ moved.journalFrom entry.progressSnapshot.cutSeq ∨
          ∃ terminal, moved.pendingSeq = some terminal ∧ terminal ≤ event.seq := by
  have shown : event ∈ entry.journal → event.seq ≤ entry.progressSnapshot.cutSeq →
      entry.progressSnapshot.Represents event := by
    intro member within
    have sound := sound_of_reaches known reached.unguarded
    cases pending : entry.pendingTerminal with
    | none =>
      have ended := all_ended_of_reaches reached.unguarded task entry known
      exact TaskEntry.represents_of_free sound ended pending member
    | some projection =>
      have held : entry.pendingSeq = some projection.terminalSeq := by
        rw [TaskEntry.pendingSeq, pending]
        rfl
      have prompt := prompt_of_reaches known reached held
      rw [TaskEntry.snapshot_cut_held sound held prompt, TaskEntry.cut_of_held held] at within
      have below : event.seq < projection.terminalSeq := by omega
      have recorded := sound.recorded event member
      obtain ⟨seq, kind⟩ := event
      cases kind with
      | nodeStarted text =>
        have calm := calm_of_reaches known (begun rfl) held
        obtain ⟨node, named, value, known, later⟩ := calm.begun _ member text rfl below
        exact ⟨node, named, .inr (.inl ⟨_, _, _, TaskEntry.checkpoint_shown known, later⟩)⟩
      | nodeFinished text ok output usage terminalJson policyTriggerJson =>
        obtain ⟨node, named, known⟩ := recorded
        exact ⟨node, named, TaskEntry.checkpoint_shown known⟩
      | terminal reason output =>
        -- The withheld terminal is the first one, and it lies above the cut.
        exact absurd below (Int.not_lt.mpr (prompt.first _ member reason output rfl))
      | _ => trivial
  refine ⟨shown, ?_⟩
  intro later moved went found member
  by_cases within : event.seq ≤ entry.progressSnapshot.cutSeq
  · exact .inl (shown (mem_journal_of_later reached known went found member within) within)
  · rw [Int.not_le] at within
    by_cases seen : moved.visible event = true
    · exact .inr (.inl (by simp [TaskEntry.journalFrom, *]))
    · cases held : moved.pendingSeq with
      | none =>
        rw [TaskEntry.visible, held] at seen
        exact absurd rfl seen
      | some terminal =>
        rw [TaskEntry.visible, held] at seen
        exact .inr (.inr ⟨terminal, rfl, by simpa using seen⟩)

end MemoryTaskStore

/-- A checkpoint is written while a terminal is withheld: the cut moves past the terminal, and a
client that reads on from it after the terminal is published never sees it. -/
theorem late_checkpoint_hides_terminal : ∃ (store later : MemoryTaskStore) (entry moved : TaskEntry)
    (event : OrchEvent), Reaches (MemoryTaskStore.step sampleChecks) .empty store ∧
      store.tasks.lookup "task" = some entry ∧ event ∈ entry.journal ∧
      event.seq ≤ entry.progressSnapshot.cutSeq ∧ ¬ entry.progressSnapshot.Represents event ∧
      Reaches (MemoryTaskStore.step sampleChecks) store later ∧
      later.tasks.lookup "task" = some moved ∧ moved.pendingSeq = none ∧ event ∈ moved.journal ∧
      event ∉ moved.journalFrom entry.progressSnapshot.cutSeq := by
  obtain ⟨store, later, entry, moved, ran, known, snapshot, stepped, found, published, journal, past,
      unread⟩ : ∃ (store later : MemoryTaskStore) (entry moved : TaskEntry),
      run (MemoryTaskStore.step sampleChecks) .empty [sampleCreated, sampleWithheld,
        .putNodeCheckpointSequenced "task" sampleNode "text" true none] = some store ∧
      store.tasks.lookup "task" = some entry ∧
      entry.progressSnapshot =
        ⟨.working, none, none, [(sampleNode, "text", true, 3)], [], none, 3⟩ ∧
      store.step sampleChecks (.markTerminalProjectionReady "task" "attempt") = some later ∧
      later.tasks.lookup "task" = some moved ∧ moved.pendingSeq = none ∧
      moved.journal = entry.journal ∧
      (⟨2, .terminal .canceled "stopped"⟩ : OrchEvent) ∈ entry.journal ∧
      moved.journalFrom 3 = [] :=
    ⟨_, _, _, _, rfl, rfl, rfl, rfl, rfl, rfl, rfl, List.mem_cons_self, rfl⟩
  refine ⟨store, later, entry, moved, ⟨2, .terminal .canceled "stopped"⟩, reaches_of_run ran, known,
    past, ?_, ?_, .step .refl stepped, found, published, journal ▸ past, ?_⟩
  · rw [snapshot]
    decide
  · rw [snapshot]
    exact fun shown => nomatch shown.1
  · rw [snapshot, unread]
    exact List.not_mem_nil

theorem sample_read_resumes : ∃ entry moved : TaskEntry,
    ⟨2, .terminal .canceled "stopped"⟩ ∈ moved.journalFrom entry.journalFoldInputs.scalars.cutSeq :=
  have ran : run (MemoryTaskStore.step sampleChecks) .empty [sampleCreated, sampleWithheld] =
    some _ := rfl
  ⟨_, _, ((@MemoryTaskStore.journal_read_resumes _ _ _ _ "task" _ (reaches_of_run ran) rfl
    (@Reaches.step _ _ _ _ _ _ (.markTerminalProjectionReady "task" "attempt") .refl rfl) rfl
    _).1.mp List.mem_cons_self).resolve_left List.not_mem_nil⟩

theorem sample_cut_misses_nothing : ∃ (store : MemoryTaskStore) (entry : TaskEntry),
    store.tasks.lookup "task" = some entry ∧ entry.progressSnapshot.cutSeq = 3 ∧
      entry.progressSnapshot.Represents ⟨2, .nodeFinished "draft" true "text" none none none⟩ := by
  obtain ⟨store, entry, ran, known, cut, member⟩ : ∃ (store : MemoryTaskStore) (entry : TaskEntry),
      run (guarded MemoryTaskStore.lateRowFree (MemoryTaskStore.step sampleChecks)) .empty
        [sampleCreated, .recordNodeStarted "task" sampleNode,
          .putNodeCheckpointSequenced "task" sampleNode "text" true none, sampleWithheld] =
        some store ∧
      store.tasks.lookup "task" = some entry ∧ entry.progressSnapshot.cutSeq = 3 ∧
      (⟨2, .nodeFinished "draft" true "text" none none none⟩ : OrchEvent) ∈ entry.journal :=
    ⟨_, _, rfl, rfl, rfl, List.mem_cons_of_mem _ List.mem_cons_self⟩
  refine ⟨store, entry, known, cut, ?_⟩
  apply (@MemoryTaskStore.cut_misses_nothing _ _ _ _ (reaches_of_run ran) known
    ⟨2, .nodeFinished "draft" true "text" none none none⟩ nofun).1 member
  rw [cut]
  decide

end A2aBridge.Tasks
