import Mathlib.Data.Finset.Basic
import Mathlib.Data.List.Nodup
import Mathlib.Data.List.Perm.Basic

/-!
A ledger of jobs with dependencies. A job is admitted once, runs, is held when it has
completed, and is settled when its completion is published; some jobs are settled from the
start. Starts and completions are announced by marks in one log. The ledger is lawful when
every admitted job is in exactly one of these places and every start in the log comes after
the completions it needs. Admission, completion and publication keep it lawful.
-/

namespace A2aBridge.JobLedger

inductive Mark (ι : Type) where
  | started (job : ι)
  | finished (job : ι)
  deriving DecidableEq

variable {ι : Type}

def startedIn : List (Mark ι) → List ι :=
  List.filterMap fun
    | .started job => some job
    | .finished _ => none

def finishedIn : List (Mark ι) → List ι :=
  List.filterMap fun
    | .started _ => none
    | .finished job => some job

@[simp] theorem started_in_append (left right : List (Mark ι)) :
    startedIn (left ++ right) = startedIn left ++ startedIn right := List.filterMap_append

@[simp] theorem finished_in_append (left right : List (Mark ι)) :
    finishedIn (left ++ right) = finishedIn left ++ finishedIn right := List.filterMap_append

variable (jobs : List ι)

@[simp] theorem started_in_starts : startedIn (jobs.map .started) = jobs := by
  simp [startedIn]

@[simp] theorem started_in_finishes : startedIn (jobs.map .finished) = [] := by
  simp [startedIn]

@[simp] theorem finished_in_starts : finishedIn (jobs.map .started) = [] := by
  simp [finishedIn]

@[simp] theorem finished_in_finishes : finishedIn (jobs.map .finished) = jobs := by
  simp [finishedIn]

section Order

variable (needs : ι → ι → Prop) (seeded : ι → Prop) (past : List (Mark ι))

/-- A start is due once the job has not finished and everything it needs has. -/
def Due : Mark ι → Prop
  | .started job => job ∉ finishedIn past ∧
      ∀ other, needs job other → seeded other ∨ other ∈ finishedIn past
  | .finished _ => True

/-- Every mark of the log is due after the marks before it. -/
def Ordered (past : List (Mark ι)) : List (Mark ι) → Prop
  | [] => True
  | mark :: rest => Due needs seeded past mark ∧ Ordered (past ++ [mark]) rest

theorem ordered_append (left right : List (Mark ι)) :
    Ordered needs seeded past (left ++ right) ↔
      Ordered needs seeded past left ∧ Ordered needs seeded (past ++ left) right := by
  induction left generalizing past with
  | nil => simp [Ordered]
  | cons mark rest ih =>
    simp only [List.cons_append, Ordered, ih, List.append_assoc, List.nil_append, and_assoc]

theorem ordered_finishes (jobs : List ι) : Ordered needs seeded past (jobs.map .finished) := by
  induction jobs generalizing past with
  | nil => trivial
  | cons job rest ih => exact ⟨trivial, ih (past ++ [.finished job])⟩

theorem ordered_starts (jobs : List ι) (due : ∀ job ∈ jobs, Due needs seeded past (.started job)) :
    Ordered needs seeded past (jobs.map .started) := by
  induction jobs generalizing past with
  | nil => trivial
  | cons job rest ih =>
    refine ⟨due job (by simp), ih (past ++ [.started job]) ?_⟩
    intro other member
    have early := due other (List.mem_cons_of_mem job member)
    simpa [Due, finishedIn] using early

end Order

structure Ledger (ι : Type) where
  admitted : Finset ι
  running : List ι
  held : List ι
  settled : Finset ι
  log : List (Mark ι)

structure Lawful (needs : ι → ι → Prop) (seeded : ι → Prop) (ledger : Ledger ι) : Prop where
  distinct : (ledger.running ++ ledger.held ++ finishedIn ledger.log).Nodup
  admitted_iff : ∀ job, job ∈ ledger.admitted ↔
    job ∈ ledger.running ∨ job ∈ ledger.held ∨ job ∈ finishedIn ledger.log
  settled_iff : ∀ job, job ∈ ledger.settled ↔ seeded job ∨ job ∈ finishedIn ledger.log
  unseeded : ∀ job ∈ ledger.admitted, ¬ seeded job
  started_once : (startedIn ledger.log).Nodup
  started_admitted : ∀ job ∈ startedIn ledger.log, job ∈ ledger.admitted
  ordered : Ordered needs seeded [] ledger.log

section Moves

variable {needs : ι → ι → Prop} {seeded : ι → Prop} {ledger : Ledger ι}

theorem Lawful.initial (settled : Finset ι) :
    Lawful needs (· ∈ settled) ⟨∅, [], [], settled, []⟩ where
  distinct := by simp [finishedIn]
  admitted_iff := by simp [finishedIn]
  settled_iff := by simp [finishedIn]
  unseeded := by simp
  started_once := by simp [startedIn]
  started_admitted := by simp [startedIn]
  ordered := trivial

theorem Lawful.complete (lawful : Lawful needs seeded ledger) {running held : List ι}
    (moved : (running ++ held).Perm (ledger.running ++ ledger.held)) :
    Lawful needs seeded { ledger with running := running, held := held } where
  distinct := ((moved.append_right _).nodup_iff).mpr lawful.distinct
  admitted_iff := by
    intro job
    have places := moved.mem_iff (a := job)
    simp only [List.mem_append] at places
    rw [lawful.admitted_iff job, ← or_assoc, ← or_assoc, places]
  settled_iff := lawful.settled_iff
  unseeded := lawful.unseeded
  started_once := lawful.started_once
  started_admitted := lawful.started_admitted
  ordered := lawful.ordered

variable [DecidableEq ι]

def enroll (ledger : Ledger ι) (jobs announced : List ι) : Ledger ι :=
  { ledger with
    admitted := ledger.admitted ∪ jobs.toFinset
    running := ledger.running ++ jobs
    log := ledger.log ++ announced.map .started }

theorem Lawful.enroll (lawful : Lawful needs seeded ledger) {jobs announced : List ι}
    (once : jobs.Nodup) (fresh : ∀ job ∈ jobs, job ∉ ledger.admitted ∧ job ∉ ledger.settled)
    (part : announced.Sublist jobs)
    (due : ∀ job ∈ announced, ∀ other, needs job other → other ∈ ledger.settled) :
    Lawful needs seeded (enroll ledger jobs announced) where
  distinct := by
    have apart : ∀ job ∈ jobs,
        job ∉ ledger.running ∧ job ∉ ledger.held ∧ job ∉ finishedIn ledger.log := by
      intro job member
      have outside := (fresh job member).1
      rw [lawful.admitted_iff, not_or, not_or] at outside
      exact outside
    have before := lawful.distinct
    simp only [JobLedger.enroll, finished_in_append, finished_in_starts, List.append_nil]
    have swapped : (ledger.running ++ jobs ++ ledger.held ++ finishedIn ledger.log).Perm
        (jobs ++ (ledger.running ++ ledger.held ++ finishedIn ledger.log)) := by
      simp only [List.append_assoc]
      exact List.perm_append_comm_assoc _ _ _
    rw [swapped.nodup_iff, List.nodup_append]
    refine ⟨once, before, ?_⟩
    intro job member other inside same
    subst same
    rcases apart job member with ⟨notRunning, notHeld, notFinished⟩
    simp only [List.mem_append] at inside
    rcases inside with (running | held) | finished
    · exact notRunning running
    · exact notHeld held
    · exact notFinished finished
  admitted_iff := by
    intro job
    simp only [JobLedger.enroll, Finset.mem_union, List.mem_toFinset, lawful.admitted_iff job,
      List.mem_append, finished_in_append, finished_in_starts, List.append_nil]
    tauto
  settled_iff := by
    intro job
    simpa [JobLedger.enroll] using lawful.settled_iff job
  unseeded := by
    intro job member
    simp only [JobLedger.enroll, Finset.mem_union, List.mem_toFinset] at member
    rcases member with old | new
    · exact lawful.unseeded job old
    · intro seed
      exact (fresh job new).2 ((lawful.settled_iff job).mpr (.inl seed))
  started_once := by
    simp only [JobLedger.enroll, started_in_append, started_in_starts]
    rw [List.nodup_append]
    refine ⟨lawful.started_once, once.sublist part, ?_⟩
    intro job old other new same
    subst same
    exact (fresh job (part.subset new)).1 (lawful.started_admitted job old)
  started_admitted := by
    intro job member
    simp only [JobLedger.enroll, started_in_append, started_in_starts, List.mem_append] at member
    simp only [JobLedger.enroll, Finset.mem_union, List.mem_toFinset]
    rcases member with old | new
    · exact .inl (lawful.started_admitted job old)
    · exact .inr (part.subset new)
  ordered := by
    simp only [JobLedger.enroll]
    rw [ordered_append]
    refine ⟨lawful.ordered, ordered_starts needs seeded _ _ ?_⟩
    intro job member
    constructor
    · intro finished
      exact (fresh job (part.subset member)).2 ((lawful.settled_iff job).mpr (.inr finished))
    · intro other need
      exact (lawful.settled_iff other).mp (due job member other need)

def publish (ledger : Ledger ι) (jobs : List ι) : Ledger ι :=
  { ledger with
    held := []
    settled := ledger.settled ∪ jobs.toFinset
    log := ledger.log ++ jobs.map .finished }

theorem Lawful.publish (lawful : Lawful needs seeded ledger) {jobs : List ι}
    (all : jobs.Perm ledger.held) : Lawful needs seeded (publish ledger jobs) where
  distinct := by
    simp only [JobLedger.publish, List.append_nil, finished_in_append, finished_in_finishes]
    have swapped : (ledger.running ++ (finishedIn ledger.log ++ jobs)).Perm
        (ledger.running ++ ledger.held ++ finishedIn ledger.log) := by
      rw [List.append_assoc]
      exact (List.perm_append_comm.trans (all.append_right _)).append_left _
    exact swapped.nodup_iff.mpr lawful.distinct
  admitted_iff := by
    intro job
    simp only [JobLedger.publish, lawful.admitted_iff job, finished_in_append,
      finished_in_finishes, List.mem_append, List.not_mem_nil, false_or, all.mem_iff]
    tauto
  settled_iff := by
    intro job
    simp only [JobLedger.publish, Finset.mem_union, List.mem_toFinset, lawful.settled_iff job,
      finished_in_append, finished_in_finishes, List.mem_append, or_assoc]
  unseeded := lawful.unseeded
  started_once := by
    simpa [JobLedger.publish] using lawful.started_once
  started_admitted := by
    intro job member
    simp only [JobLedger.publish, started_in_append, started_in_finishes, List.append_nil] at member
    exact lawful.started_admitted job member
  ordered := by
    simp only [JobLedger.publish]
    rw [ordered_append]
    exact ⟨lawful.ordered, ordered_finishes needs seeded _ _⟩

end Moves

/-- The log of a ledger that has come to rest, and of the jobs swept into it afterwards. -/
structure Closed (needs : ι → ι → Prop) (seeded : ι → Prop) (log : List (Mark ι)) : Prop where
  started_once : (startedIn log).Nodup
  finished_once : (finishedIn log).Nodup
  seeded_silent : ∀ job, seeded job → job ∉ startedIn log ∧ job ∉ finishedIn log
  started_finished : ∀ job ∈ startedIn log, job ∈ finishedIn log
  ordered : Ordered needs seeded [] log

theorem Lawful.close {needs : ι → ι → Prop} {seeded : ι → Prop} {ledger : Ledger ι}
    (lawful : Lawful needs seeded ledger) (rest : ledger.running = []) (free : ledger.held = [])
    {swept : List ι} (once : swept.Nodup) (open_ : ∀ job ∈ swept, job ∉ ledger.settled) :
    Closed needs seeded (ledger.log ++ swept.map .finished) where
  started_once := by
    simpa using lawful.started_once
  finished_once := by
    have before := lawful.distinct
    rw [rest, free] at before
    simp only [finished_in_append, finished_in_finishes]
    rw [List.nodup_append]
    refine ⟨by simpa using before, once, ?_⟩
    intro job old other new same
    subst same
    exact open_ job new ((lawful.settled_iff job).mpr (.inr old))
  seeded_silent := by
    intro job seed
    constructor
    · intro started
      simp only [started_in_append, started_in_finishes, List.append_nil] at started
      exact lawful.unseeded job (lawful.started_admitted job started) seed
    · intro finished
      simp only [finished_in_append, finished_in_finishes, List.mem_append] at finished
      rcases finished with old | new
      · exact lawful.unseeded job ((lawful.admitted_iff job).mpr (.inr (.inr old))) seed
      · exact open_ job new ((lawful.settled_iff job).mpr (.inl seed))
  started_finished := by
    intro job started
    simp only [started_in_append, started_in_finishes, List.append_nil] at started
    have place := (lawful.admitted_iff job).mp (lawful.started_admitted job started)
    rw [rest, free] at place
    simp only [finished_in_append, List.mem_append]
    left
    simpa using place
  ordered := by
    rw [ordered_append]
    exact ⟨lawful.ordered, ordered_finishes needs seeded _ _⟩

end A2aBridge.JobLedger
