import A2aBridge.TaskStore

/-!
What the sequenced writes of one task add up to: a counter, the nodes in progress, the finished
nodes and the journal, with a terminal that may be withheld for a while. The maps and the
journal record the same history twice, and every write keeps the two in step.
-/

namespace A2aBridge.Tasks

open Runs
open Workflow (BridgeError)
open Sessions (UsageSnapshot)

structure Progress where
  seqCounter : Int
  terminalSeq : Option Int
  pendingSeq : Option Int
  starts : AList fun _ : NodeId => Int
  checkpoints : AList fun _ : NodeId => CheckpointValue
  journal : List OrchEvent

inductive Act where
  | start (node : NodeId)
  | finish (node : NodeId) (output : String) (ok : Bool) (usage : Option UsageSnapshot)
      (terminalJson policyTriggerJson : Option String)
  | report (kind : RichEventKind)
  | settle (status : TerminalStatus) (output : String)
  | withhold (status : TerminalStatus) (output : String)
  | publish

namespace Progress

def initial : Progress := ⟨0, none, none, ∅, ∅, []⟩

variable (progress : Progress)

def act : Act → Option Progress
  | .start node =>
    let seq := progress.seqCounter + 1
    some { progress with
      seqCounter := seq
      starts := progress.starts.insert node seq
      journal := progress.journal ++ [⟨seq, .nodeStarted node.text⟩] }
  | .finish node output ok usage terminalJson policyTriggerJson =>
    let seq := progress.seqCounter + 1
    if (progress.checkpoints.lookup node).isSome then none
    else some { progress with
      seqCounter := seq
      starts := progress.starts.erase node
      checkpoints := progress.checkpoints.insert node ⟨output, ok, seq, usage⟩
      journal := progress.journal ++
        [⟨seq, .nodeFinished node.text ok output usage terminalJson policyTriggerJson⟩] }
  | .report kind =>
    let seq := progress.seqCounter + 1
    some { progress with
      seqCounter := seq
      journal := progress.journal ++ [⟨seq, kind.1⟩] }
  | .settle status output =>
    let seq := progress.seqCounter + 1
    if progress.pendingSeq.isSome then none
    else some { progress with
      seqCounter := seq
      terminalSeq := some seq
      starts := ∅
      journal := progress.journal ++ [⟨seq, .terminal status output⟩] }
  | .withhold status output =>
    let seq := progress.seqCounter + 2
    if progress.terminalSeq.isSome then none
    else some { progress with
      seqCounter := seq
      terminalSeq := some seq
      pendingSeq := some seq
      starts := ∅
      journal := progress.journal ++ [⟨seq, .terminal status output⟩] }
  | .publish =>
    if progress.pendingSeq.isSome then some { progress with pendingSeq := none } else none

/-! ### The journal says what the maps say -/

variable {marks : FoldMarks}

theorem fold_snoc {journal : List OrchEvent} (folded : journal.foldlM foldEvent {} = .ok marks)
    (event : OrchEvent) :
    (journal ++ [event]).foldlM foldEvent {} = foldEvent marks event := by
  rw [List.foldlM_append, folded]
  exact bind_pure (foldEvent marks event)

variable {event : OrchEvent}

theorem fold_event_rich (rich : event.kind.isRich = true) : foldEvent marks event = .ok marks := by
  obtain ⟨seq, kind⟩ := event
  cases kind <;> first | rfl | cases rich

/-- The folded journal holds the finished nodes in their order and the nodes in progress. -/
structure Mirrors (marks : FoldMarks) (progress : Progress) : Prop where
  folds : progress.journal.foldlM foldEvent {} = .ok marks
  ascending : marks.checkpoints.Pairwise fun left right => left.2.2.2 < right.2.2.2
  finished : ∀ node output ok seq, (node, output, ok, seq) ∈ marks.checkpoints ↔
    ∃ usage, progress.checkpoints.lookup node = some ⟨output, ok, seq, usage⟩
  begun : ∀ node seq, (node, seq) ∈ marks.starts ↔ progress.starts.lookup node = some seq

/-- An event is on record: a finished node with its output, a terminal by the latest terminal
sequence, and a start by itself or by what came after it for its node. -/
def Recorded (event : OrchEvent) : Prop :=
  match event.kind with
  | .nodeStarted text => ∃ node : NodeId, node.text = text ∧
      ((∃ seq, progress.starts.lookup node = some seq ∧ event.seq ≤ seq) ∨
        (∃ value, progress.checkpoints.lookup node = some value ∧ event.seq < value.seq) ∨
        ∃ seq, progress.terminalSeq = some seq ∧ event.seq < seq)
  | .nodeFinished text ok output usage _ _ => ∃ node : NodeId, node.text = text ∧
      progress.checkpoints.lookup node = some ⟨output, ok, event.seq, usage⟩
  | .terminal .. => ∃ seq, progress.terminalSeq = some seq ∧ event.seq ≤ seq
  | _ => True

structure Sound (progress : Progress) : Prop where
  nonneg : 0 ≤ progress.seqCounter
  ordered : progress.journal.Pairwise fun left right => left.seq < right.seq
  bounded : ∀ event ∈ progress.journal, event.seq ≤ progress.seqCounter
  mirrored : ∃ marks, Mirrors marks progress
  finished_bounded : ∀ node value, progress.checkpoints.lookup node = some value →
    value.seq ≤ progress.seqCounter
  begun_bounded : ∀ node seq, progress.starts.lookup node = some seq → seq ≤ progress.seqCounter
  terminal_bounded : ∀ seq, progress.terminalSeq = some seq → seq ≤ progress.seqCounter
  withheld : ∀ seq, progress.pendingSeq = some seq → progress.terminalSeq = some seq ∧ 0 < seq
  recorded : ∀ event ∈ progress.journal, progress.Recorded event

theorem initial_sound : initial.Sound where
  nonneg := Int.le_refl 0
  ordered := List.Pairwise.nil
  bounded := by simp [initial]
  mirrored := ⟨{}, rfl, List.Pairwise.nil, by simp [initial], by simp [initial]⟩
  finished_bounded := by simp [initial]
  begun_bounded := by simp [initial]
  terminal_bounded := nofun
  withheld := nofun
  recorded := by simp [initial]

variable {action : Act} {next : Progress}

section Step

variable {progress : Progress} {node : NodeId} {output : String} {status : TerminalStatus}

structure Writes (progress next : Progress) (event : OrchEvent) : Prop where
  later : progress.seqCounter < event.seq
  counter : next.seqCounter = event.seq
  journal : next.journal = progress.journal ++ [event]

/-- A write keeps the rows and the journal in step when every row is an earlier one or has
the sequence of the event. -/
theorem Sound.write (sound : progress.Sound) (writes : Writes progress next event)
    (mirrored : ∃ marks, Mirrors marks next)
    (finished : ∀ node value, next.checkpoints.lookup node = some value →
      progress.checkpoints.lookup node = some value ∨ value.seq = event.seq)
    (begun : ∀ node seq, next.starts.lookup node = some seq →
      progress.starts.lookup node = some seq ∨ seq = event.seq)
    (ended : ∀ seq, next.terminalSeq = some seq → progress.terminalSeq = some seq ∨ seq = event.seq)
    (withheld : ∀ seq, next.pendingSeq = some seq → next.terminalSeq = some seq ∧ 0 < seq)
    (kept : ∀ earlier, progress.Recorded earlier → next.Recorded earlier)
    (fresh : next.Recorded event) : next.Sound := by
  obtain ⟨later, counter, journal⟩ := writes
  have within : ∀ {seq}, seq ≤ progress.seqCounter ∨ seq = event.seq → seq ≤ event.seq := by
    omega
  have nonneg := sound.nonneg
  constructor
  case nonneg => omega
  case ordered =>
    rw [journal, List.pairwise_append]
    refine ⟨sound.ordered, List.pairwise_singleton _ _, ?_⟩
    intro earlier member other last
    rw [List.mem_singleton.mp last]
    exact Int.lt_of_le_of_lt (sound.bounded earlier member) later
  case bounded =>
    intro earlier member
    rw [journal, List.mem_append, List.mem_singleton] at member
    rw [counter]
    exact within (member.imp (sound.bounded earlier) (congrArg OrchEvent.seq))
  case mirrored => exact mirrored
  case finished_bounded =>
    intro node value known
    rw [counter]
    exact within ((finished node value known).imp_left (sound.finished_bounded node value))
  case begun_bounded =>
    intro node seq known
    rw [counter]
    exact within ((begun node seq known).imp_left (sound.begun_bounded node seq))
  case terminal_bounded =>
    intro seq known
    rw [counter]
    exact within ((ended seq known).imp_left (sound.terminal_bounded seq))
  case withheld => exact withheld
  case recorded =>
    intro earlier member
    rw [journal, List.mem_append, List.mem_singleton] at member
    rcases member with inside | rfl
    · exact kept earlier (sound.recorded earlier inside)
    · exact fresh

/-- Events stay on record when the finished nodes and the terminal sequence do, and every
start that is dropped has something later in its place. -/
theorem Recorded.mono (recorded : progress.Recorded event)
    (finished : ∀ node value, progress.checkpoints.lookup node = some value →
      next.checkpoints.lookup node = some value) (ended : ∀ seq, progress.terminalSeq = some seq →
      ∃ last, next.terminalSeq = some last ∧ seq ≤ last)
    (begun : ∀ node seq, progress.starts.lookup node = some seq →
      (∃ last, next.starts.lookup node = some last ∧ seq ≤ last) ∨
        (∃ value, next.checkpoints.lookup node = some value ∧ seq < value.seq) ∨
        ∃ last, next.terminalSeq = some last ∧ seq < last) : next.Recorded event := by
  obtain ⟨seq, kind⟩ := event
  cases kind with
  | nodeStarted text =>
    obtain ⟨node, named, started | ⟨value, known, later⟩ | ⟨last, known, later⟩⟩ := recorded
    · obtain ⟨opened, known, within⟩ := started
      refine ⟨node, named, ?_⟩
      rcases begun node opened known with ⟨last, found, later⟩ | ⟨value, found, later⟩ |
        ⟨last, found, later⟩
      · exact .inl ⟨last, found, Int.le_trans within later⟩
      · exact .inr (.inl ⟨value, found, Int.lt_of_le_of_lt within later⟩)
      · exact .inr (.inr ⟨last, found, Int.lt_of_le_of_lt within later⟩)
    · exact ⟨node, named, .inr (.inl ⟨value, finished node value known, later⟩)⟩
    · obtain ⟨latest, found, within⟩ := ended last known
      exact ⟨node, named, .inr (.inr ⟨latest, found, Int.lt_of_lt_of_le later within⟩)⟩
  | nodeFinished text ok output usage terminalJson policyTriggerJson =>
    obtain ⟨node, named, known⟩ := recorded
    exact ⟨node, named, finished node _ known⟩
  | terminal status output =>
    obtain ⟨last, known, later⟩ := recorded
    obtain ⟨latest, found, within⟩ := ended last known
    exact ⟨latest, found, Int.le_trans later within⟩
  | _ => trivial

variable (mirrors : Mirrors marks progress)

include mirrors

theorem Mirrors.start (acted : progress.act (.start node) = some next) :
    ∃ after, Mirrors after next := by
  cases acted
  refine ⟨_, (fold_snoc mirrors.folds _).trans (by simp only [foldEvent, NodeId.parse_text]; rfl),
    ?_, ?_, ?_⟩
  · exact mirrors.ascending
  · exact mirrors.finished
  · intro other seq
    by_cases same : other = node
    · subst same
      simp [eq_comm]
    · simp [same, mirrors.begun]

variable {ok : Bool} {usage : Option UsageSnapshot} {terminalJson policyTriggerJson : Option String}

theorem Mirrors.finish (bounded : ∀ node value, progress.checkpoints.lookup node = some value →
      value.seq ≤ progress.seqCounter)
    (acted : progress.act (.finish node output ok usage terminalJson policyTriggerJson) =
      some next) : ∃ after, Mirrors after next := by
  simp only [act] at acted
  split_ifs at acted with fresh
  rw [Bool.not_eq_true, Option.isSome_eq_false_iff, Option.isNone_iff_eq_none] at fresh
  cases acted
  refine ⟨_, (fold_snoc mirrors.folds _).trans (by simp only [foldEvent, NodeId.parse_text]; rfl),
    ?_, ?_, ?_⟩
  · rw [List.pairwise_append]
    refine ⟨mirrors.ascending, List.pairwise_singleton _ _, ?_⟩
    rintro ⟨other, text, fine, seq⟩ member last inside
    obtain ⟨known, found⟩ := (mirrors.finished other text fine seq).mp member
    rw [List.mem_singleton.mp inside]
    exact Int.lt_add_one_of_le (bounded other _ found)
  · intro other text fine seq
    by_cases same : other = node
    · -- The node had no checkpoint before, so the new row is its only one.
      subst same
      have absent : (other, text, fine, seq) ∉ marks.checkpoints := by
        rw [mirrors.finished, fresh]
        exact fun ⟨_, found⟩ => nomatch found
      simp [absent, eq_comm]
    · simp [same, mirrors.finished]
  · intro other seq
    by_cases same : other = node
    · subst same
      simp
    · simp [same, mirrors.begun]

variable {seq : Int}

theorem Mirrors.terminate
    (journal : next.journal = progress.journal ++ [⟨seq, .terminal status output⟩])
    (starts : next.starts = ∅) (checkpoints : next.checkpoints = progress.checkpoints) :
    ∃ after, Mirrors after next := by
  refine ⟨{ marks with starts := [] }, ?_, mirrors.ascending, ?_, ?_⟩
  · rw [journal]
    exact fold_snoc mirrors.folds _
  · rw [checkpoints]
    exact mirrors.finished
  · simp [starts]

variable {kind : RichEventKind}

theorem Mirrors.report (checkpoints : next.checkpoints = progress.checkpoints)
    (starts : next.starts = progress.starts)
    (journal : next.journal = progress.journal ++ [⟨seq, kind.1⟩]) : Mirrors marks next := by
  have rich : foldEvent marks ⟨seq, kind.1⟩ = .ok marks := fold_event_rich kind.2
  refine ⟨?_, mirrors.ascending, checkpoints ▸ mirrors.finished, starts ▸ mirrors.begun⟩
  rw [journal, fold_snoc mirrors.folds, rich]

omit mirrors

section

variable (sound : progress.Sound)

include sound

theorem Sound.start (acted : progress.act (.start node) = some next) : next.Sound := by
  obtain ⟨marks, mirrors⟩ := sound.mirrored
  have mirrored := mirrors.start acted
  cases acted
  have later : progress.seqCounter < progress.seqCounter + 1 := Int.lt_succ _
  refine sound.write ⟨later, rfl, rfl⟩ mirrored (fun _ _ => .inl) ?_ (fun _ => .inl)
    sound.withheld ?_ ⟨node, rfl, .inl ⟨_, AList.lookup_insert _, Int.le_refl _⟩⟩
  · intro other seq known
    by_cases same : other = node
    · subst same
      rw [AList.lookup_insert] at known
      exact .inr (Option.some.inj known).symm
    · exact .inl ((AList.lookup_insert_ne same).symm.trans known)
  · intro event recorded
    refine recorded.mono (fun _ _ => id) (fun seq known => ⟨seq, known, Int.le_refl seq⟩) ?_
    intro other seq known
    by_cases same : other = node
    · subst same
      exact .inl ⟨_, AList.lookup_insert _,
        Int.le_of_lt (Int.lt_of_le_of_lt (sound.begun_bounded _ _ known) later)⟩
    · exact .inl ⟨seq, (AList.lookup_insert_ne same).trans known, Int.le_refl seq⟩

theorem Sound.finish
    (acted : progress.act (.finish node output ok usage terminalJson policyTriggerJson) =
      some next) : next.Sound := by
  obtain ⟨marks, mirrors⟩ := sound.mirrored
  have mirrored := mirrors.finish sound.finished_bounded acted
  simp only [act] at acted
  split_ifs at acted with fresh
  rw [Bool.not_eq_true, Option.isSome_eq_false_iff, Option.isNone_iff_eq_none] at fresh
  cases acted
  have later : progress.seqCounter < progress.seqCounter + 1 := Int.lt_succ _
  refine sound.write ⟨later, rfl, rfl⟩ mirrored ?_ ?_ (fun _ => .inl) sound.withheld ?_
    ⟨node, rfl, AList.lookup_insert _⟩
  · intro other value known
    by_cases same : other = node
    · subst same
      rw [AList.lookup_insert] at known
      cases known
      exact .inr rfl
    · exact .inl ((AList.lookup_insert_ne same).symm.trans known)
  · intro other seq known
    by_cases same : other = node
    · subst same
      rw [AList.lookup_erase] at known
      cases known
    · exact .inl ((AList.lookup_erase_ne same).symm.trans known)
  · intro event recorded
    refine recorded.mono ?_ (fun seq known => ⟨seq, known, Int.le_refl seq⟩) ?_
    · intro other value known
      have differs : other ≠ node := by
        rintro rfl
        rw [fresh] at known
        cases known
      exact (AList.lookup_insert_ne differs).trans known
    · intro other seq known
      by_cases same : other = node
      · -- The start that goes away belongs to the node that finishes.
        subst same
        exact .inr (.inl ⟨_, AList.lookup_insert _,
          Int.lt_of_le_of_lt (sound.begun_bounded _ _ known) later⟩)
      · exact .inl ⟨seq, (AList.lookup_erase_ne same).trans known, Int.le_refl seq⟩

theorem Sound.report (acted : progress.act (.report kind) = some next) : next.Sound := by
  obtain ⟨marks, mirrors⟩ := sound.mirrored
  have writes : Writes progress next ⟨progress.seqCounter + 1, kind.1⟩ := by
    cases acted
    exact ⟨Int.lt_succ _, rfl, rfl⟩
  cases acted
  refine sound.write writes ⟨marks, mirrors.report rfl rfl writes.journal⟩ (fun _ _ => .inl)
    (fun _ _ => .inl) (fun _ => .inl) sound.withheld ?_ ?_
  · intro event recorded
    exact recorded.mono (fun _ _ => id) (fun seq known => ⟨seq, known, Int.le_refl seq⟩)
      (fun _ seq known => .inl ⟨seq, known, Int.le_refl seq⟩)
  · obtain ⟨kind, rich⟩ := kind
    cases kind <;> trivial

theorem Sound.terminate (writes : Writes progress next ⟨seq, .terminal status output⟩)
    (terminal : next.terminalSeq = some seq)
    (pending : next.pendingSeq = none ∨ next.pendingSeq = some seq) (starts : next.starts = ∅)
    (checkpoints : next.checkpoints = progress.checkpoints) : next.Sound := by
  obtain ⟨marks, mirrors⟩ := sound.mirrored
  have later : progress.seqCounter < seq := writes.later
  have positive : 0 < seq := Int.lt_of_le_of_lt sound.nonneg later
  refine sound.write writes (mirrors.terminate writes.journal starts checkpoints) ?_ ?_ ?_ ?_ ?_
    ⟨seq, terminal, Int.le_refl seq⟩
  · rw [checkpoints]
    exact fun _ _ => .inl
  · simp [starts]
  · rw [terminal]
    exact fun _ known => .inr (Option.some.inj known).symm
  · intro last known
    rcases pending with absent | held
    · rw [absent] at known
      cases known
    · rw [held] at known
      cases known
      exact ⟨terminal, positive⟩
  · intro event recorded
    refine recorded.mono ?_ ?_ ?_
    · rw [checkpoints]
      exact fun _ _ => id
    · intro last known
      exact ⟨seq, terminal,
        Int.le_of_lt (Int.lt_of_le_of_lt (sound.terminal_bounded last known) later)⟩
    · -- Every start that is dropped lies below the new terminal.
      intro other opened known
      exact .inr (.inr ⟨seq, terminal,
        Int.lt_of_le_of_lt (sound.begun_bounded other opened known) later⟩)

theorem Sound.settle (acted : progress.act (.settle status output) = some next) : next.Sound := by
  simp only [act] at acted
  split_ifs at acted with free
  rw [Bool.not_eq_true, Option.isSome_eq_false_iff, Option.isNone_iff_eq_none] at free
  cases acted
  exact sound.terminate ⟨Int.lt_succ _, rfl, rfl⟩ rfl (.inl free) rfl rfl

theorem Sound.withhold
    (acted : progress.act (.withhold status output) = some next) : next.Sound := by
  simp only [act] at acted
  split_ifs at acted
  cases acted
  have later : progress.seqCounter < progress.seqCounter + 2 := by omega
  exact sound.terminate ⟨later, rfl, rfl⟩ rfl (.inr rfl) rfl rfl

theorem Sound.publish (acted : progress.act .publish = some next) : next.Sound := by
  obtain ⟨marks, mirrors⟩ := sound.mirrored
  simp only [act] at acted
  split at acted <;> cases acted
  exact { sound with
    mirrored := ⟨marks, mirrors.folds, mirrors.ascending, mirrors.finished, mirrors.begun⟩
    withheld := nofun }

theorem Sound.step (acted : progress.act action = some next) : next.Sound := by
  cases action with
  | start node => exact sound.start acted
  | finish node output ok usage terminalJson policyTriggerJson => exact sound.finish acted
  | report kind => exact sound.report acted
  | settle status output => exact sound.settle acted
  | withhold status output => exact sound.withhold acted
  | publish => exact sound.publish acted

end

theorem sound_of_reaches (reached : Reaches act initial progress) : progress.Sound :=
  reached.invariant initial_sound fun _ _ _ sound acted => sound.step acted

end Step

/-! ### While a terminal is withheld -/

/-- No node row is written while a terminal is withheld. -/
def lateRowFree : Act → Bool
  | .start _ | .finish .. => progress.pendingSeq.isNone
  | _ => true

/-- Nor is a terminal withheld while a node is in progress. -/
def calm (action : Act) : Bool :=
  progress.lateRowFree action &&
    match action with
    | .withhold .. => progress.starts.entries.isEmpty
    | _ => true

theorem late_row_free_of_calm {progress : Progress} (calmed : progress.calm action = true) :
    progress.lateRowFree action = true :=
  (Bool.and_eq_true_iff.mp calmed).1

section Withheld

variable {progress : Progress} {terminal : Int}

/-- A terminal is withheld after a step because the step withholds it, or because it was
before and the step reports a rich event. -/
theorem withheld_step (acted : guarded lateRowFree act progress action = some next)
    (held : next.pendingSeq = some terminal) :
    (∃ kind, action = .report kind ∧ progress.pendingSeq = some terminal) ∨
      ∃ status output, action = .withhold status output ∧ progress.terminalSeq = none ∧
        terminal = progress.seqCounter + 2 := by
  obtain ⟨prompt, acted⟩ := guarded_eq_some.mp acted
  cases action with
  | start node =>
    cases acted
    rw [lateRowFree, Option.isNone_iff_eq_none] at prompt
    rw [prompt] at held
    cases held
  | finish node output ok usage terminalJson policyTriggerJson =>
    simp only [act] at acted
    split at acted <;> cases acted
    rw [lateRowFree, Option.isNone_iff_eq_none] at prompt
    rw [prompt] at held
    cases held
  | report kind =>
    cases acted
    exact .inl ⟨kind, rfl, held⟩
  | settle status output =>
    simp only [act] at acted
    split_ifs at acted with free
    cases acted
    rw [held] at free
    exact absurd rfl free
  | withhold status output =>
    simp only [act] at acted
    split_ifs at acted with first
    rw [Bool.not_eq_true, Option.isSome_eq_false_iff, Option.isNone_iff_eq_none] at first
    cases acted
    exact .inr ⟨status, output, rfl, first, (Option.some.inj held).symm⟩
  | publish =>
    simp only [act] at acted
    split at acted <;> cases acted
    cases held

/-- The rows of a task whose terminal is withheld: no node is in progress, the finished nodes
lie below the terminal, and no other terminal came before it. -/
structure Prompt (progress : Progress) (terminal : Int) : Prop where
  starts : progress.starts = ∅
  finished : ∀ node value, progress.checkpoints.lookup node = some value → value.seq < terminal
  first : ∀ event ∈ progress.journal, ∀ status output, event.kind = .terminal status output →
    terminal ≤ event.seq

theorem Prompt.step (sound : progress.Sound)
    (before : ∀ seq, progress.pendingSeq = some seq → progress.Prompt seq)
    (acted : guarded lateRowFree act progress action = some next)
    (held : next.pendingSeq = some terminal) : next.Prompt terminal := by
  rcases withheld_step acted held with ⟨kind, rfl, earlier⟩ | ⟨status, output, rfl, first, rfl⟩
  · have prompt := before terminal earlier
    cases (guarded_eq_some.mp acted).2
    refine ⟨prompt.starts, prompt.finished, ?_⟩
    refine List.forall_mem_append.mpr ⟨prompt.first, List.forall_mem_singleton.mpr ?_⟩
    intro status output ends
    have rich := kind.2
    rw [show kind.1 = .terminal status output from ends] at rich
    cases rich
  · have acted := (guarded_eq_some.mp acted).2
    simp only [act, first, Option.isSome_none, Bool.false_eq_true, if_false] at acted
    cases acted
    refine ⟨rfl, ?_, ?_⟩
    · intro node value known
      have within := sound.finished_bounded node value known
      omega
    · refine List.forall_mem_append.mpr ⟨?_, List.forall_mem_singleton.mpr fun _ _ _ => Int.le_refl _⟩
      intro event inside status output ends
      have recorded := sound.recorded event inside
      unfold Recorded at recorded
      rw [ends] at recorded
      obtain ⟨seq, known, _⟩ := recorded
      rw [first] at known
      cases known

/-- What a calm history adds: the events below the terminal fold to the rows as they are, and
every node that started below it has finished. -/
structure Calm (progress : Progress) (terminal : Int) : Prop where
  folded : ∃ marks, marks.starts = [] ∧ Mirrors marks progress ∧
    (progress.journal.filter fun event => decide (event.seq < terminal)).foldlM foldEvent {} =
      .ok marks
  begun : ∀ event ∈ progress.journal, ∀ text, event.kind = .nodeStarted text →
    event.seq < terminal → ∃ node : NodeId, node.text = text ∧
      ∃ value, progress.checkpoints.lookup node = some value ∧ event.seq < value.seq

theorem Calm.step (sound : progress.Sound)
    (before : ∀ seq, progress.pendingSeq = some seq → progress.Calm seq)
    (acted : guarded calm act progress action = some next)
    (held : next.pendingSeq = some terminal) : next.Calm terminal := by
  obtain ⟨calmed, stepped⟩ := guarded_eq_some.mp acted
  have prompt := guarded_eq_some.mpr ⟨late_row_free_of_calm calmed, stepped⟩
  rcases withheld_step prompt held with ⟨kind, rfl, earlier⟩ | ⟨status, output, rfl, first, rfl⟩
  · obtain ⟨⟨marks, empty, mirrors, folded⟩, begun⟩ := before terminal earlier
    have within : terminal ≤ progress.seqCounter :=
      sound.terminal_bounded terminal (sound.withheld terminal earlier).1
    cases stepped
    have hidden : ¬ progress.seqCounter + 1 < terminal := by omega
    refine ⟨⟨marks, empty, ?_, ?_⟩, ?_⟩
    · exact mirrors.report rfl rfl rfl
    · rw [List.filter_append, List.filter_cons_of_neg (by simpa using hidden), List.filter_nil,
        List.append_nil]
      exact folded
    · exact List.forall_mem_append.mpr ⟨begun,
        List.forall_mem_singleton.mpr fun _ _ below => absurd below hidden⟩
  · obtain ⟨marks, mirrors⟩ := sound.mirrored
    have idle : progress.starts.entries = [] :=
      List.isEmpty_iff.mp (Bool.and_eq_true_iff.mp calmed).2
    have unstarted : ∀ node, progress.starts.lookup node = none := by
      intro node
      rw [AList.lookup, idle]
      rfl
    have empty : marks.starts = [] := by
      rw [List.eq_nil_iff_forall_not_mem]
      rintro ⟨node, seq⟩ member
      rw [mirrors.begun, unstarted node] at member
      cases member
    simp only [act, first, Option.isSome_none, Bool.false_eq_true, if_false] at stepped
    cases stepped
    have below : ∀ event ∈ progress.journal, event.seq < progress.seqCounter + 2 := by
      intro event member
      have within := sound.bounded event member
      omega
    refine ⟨⟨marks, empty, ?_, ?_⟩, ?_⟩
    · refine ⟨?_, mirrors.ascending, mirrors.finished, ?_⟩
      · refine (fold_snoc mirrors.folds _).trans ?_
        change Except.ok { marks with starts := [] } = _
        rw [← empty]
      · simp [empty]
    · rw [List.filter_append, List.filter_cons_of_neg (by simp), List.filter_nil,
        List.append_nil, List.filter_eq_self.mpr fun event member => by simpa using below event member]
      exact mirrors.folds
    · intro event member text starts within
      rcases List.mem_append.mp member with inside | last
      · -- No node was in progress and no terminal was set, so the node had finished.
        have recorded := sound.recorded event inside
        unfold Recorded at recorded
        rw [starts] at recorded
        obtain ⟨node, named, ⟨seq, known, _⟩ | finished | ⟨seq, known, _⟩⟩ := recorded
        · rw [unstarted node] at known
          cases known
        · exact ⟨node, named, finished⟩
        · rw [first] at known
          cases known
      · rw [List.mem_singleton.mp last] at within
        exact absurd within (Int.lt_irrefl _)

theorem held_of_reaches {permits : Progress → Act → Bool} {judged : Progress → Int → Prop}
    (kept : ∀ {state action after seq}, Sound state →
      (∀ seq, state.pendingSeq = some seq → judged state seq) →
      guarded permits act state action = some after → after.pendingSeq = some seq →
      judged after seq)
    (reached : Reaches (guarded permits act) initial progress)
    (held : progress.pendingSeq = some terminal) : judged progress terminal := by
  have all : progress.Sound ∧ ∀ seq, progress.pendingSeq = some seq → judged progress seq := by
    apply reached.invariant
    · exact ⟨initial_sound, nofun⟩
    · intro state op after inv acted
      exact ⟨inv.1.step (guarded_eq_some.mp acted).2, fun _ => kept inv.1 inv.2 acted⟩
  exact all.2 terminal held

end Withheld

/-! ### What later writes add -/

/-- Later events stand after the earlier ones, under later sequences. -/
structure Grows (before after : Progress) : Prop where
  counter : before.seqCounter ≤ after.seqCounter
  journal : ∃ more, after.journal = before.journal ++ more ∧
    ∀ event ∈ more, before.seqCounter < event.seq

variable {before after : Progress} {middle : Progress}

theorem Grows.write (grows : Grows before middle) (writes : Writes middle after event) :
    Grows before after := by
  obtain ⟨more, extended, above⟩ := grows.journal
  obtain ⟨later, counter, journal⟩ := writes
  have within := grows.counter
  refine ⟨by omega, more ++ [event], ?_, ?_⟩
  · rw [journal, extended, List.append_assoc]
  · intro other member
    rw [List.mem_append, List.mem_singleton] at member
    rcases member with inside | rfl
    · exact above other inside
    · omega

theorem Grows.step (grows : Grows before middle) (acted : middle.act action = some after) :
    Grows before after := by
  have one : middle.seqCounter < middle.seqCounter + 1 := Int.lt_succ _
  have two : middle.seqCounter < middle.seqCounter + 2 := by omega
  cases action with
  | start | report =>
    cases acted
    exact grows.write ⟨one, rfl, rfl⟩
  | finish | settle =>
    simp only [act] at acted
    split at acted <;> cases acted
    exact grows.write ⟨one, rfl, rfl⟩
  | withhold status output =>
    simp only [act] at acted
    split at acted <;> cases acted
    exact grows.write ⟨two, rfl, rfl⟩
  | publish =>
    simp only [act] at acted
    split at acted <;> cases acted
    exact ⟨grows.counter, grows.journal⟩

theorem grows_of_reaches (reached : Reaches act before after) : Grows before after := by
  apply reached.invariant
  · exact ⟨Int.le_refl _, [], (List.append_nil _).symm, by simp⟩
  · exact fun _ _ _ grows acted => grows.step acted

theorem withheld_since {seq : Int} (reached : Reaches act before after)
    (held : after.pendingSeq = some seq) :
    before.pendingSeq = some seq ∨ before.seqCounter < seq := by
  induction reached with
  | refl => exact .inl held
  | @step middle next action past acted ih =>
    have counter := (grows_of_reaches past).counter
    cases action <;> simp only [act] at acted <;> grind

end Progress

end A2aBridge.Tasks
