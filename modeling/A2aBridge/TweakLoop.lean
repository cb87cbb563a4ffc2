import A2aBridge.StatefulRefusal
import Mathlib.Logic.Function.Basic
import Mathlib.Tactic.SplitIfs

/-!
The bounded review loop `run_tweak_loop`. Verification, review and the fix turns answer as a
`Turn` has it, one for each attempt, and so does the host's git: the commands that move refs
(amend, checkout, reset to a commit) may leave any refs behind, as a fix turn may; those that
read, and the reset to `HEAD`, leave the refs alone. A commit id determines its parents. The input
of a fix turn and the texts that no caller reads are left out.
-/

namespace A2aBridge.TweakLoop

open StatefulRefusal

inductive VerifyFailureClass where
  | command | runner | lockSync
  deriving DecidableEq

structure VerifyResult where
  gate : Bool
  ok : Bool
  failureClass : Option VerifyFailureClass

structure VerifyVerdict where
  results : List VerifyResult
  passed : Bool

inductive VerifyOutcome where
  | ran (verdict : VerifyVerdict)
  | notConfigured
  | configError
  | incomplete
  | skipped (reason : String)

inductive Verdict where
  | approve | reject | inconclusive
  deriving DecidableEq

inductive ReviewOutcome where
  | refused (reason : String)
  | ran (verdict : Verdict) (summary : String) (reviewersFailed : Nat)
  | notConfigured
  | configError
  | notLoaded
  | incomplete

inductive StopReason where
  | success
  | boundReached
  | notActionable
  | noProgress
  | headMutated
  | restoreFailed (error : String)
  | fixIncomplete
  | amendFailed
  | stepError (error : String)
  | fixUnavailable
  deriving DecidableEq

inductive LoopStep where
  | continue
  | stop (reason : StopReason)

/-- A step that was not configured, or skipped, counts as passed. -/
def VerifyOutcome.ok : VerifyOutcome → Bool
  | ran verdict => verdict.passed
  | notConfigured | skipped _ => true
  | configError | incomplete => false

def ReviewOutcome.ok : ReviewOutcome → Bool
  | ran verdict _ _ => verdict == .approve
  | notConfigured => true
  | configError | notLoaded | incomplete | refused _ => false

def VerifyOutcome.actionable : VerifyOutcome → Bool
  | ran verdict => verdict.results.any fun result =>
      result.gate && !result.ok && result.failureClass != some .runner
  | _ => false

def ReviewOutcome.actionable : ReviewOutcome → Bool
  | ran .reject _ _ => true
  | _ => false

def classify (attempt maxAttempts : Nat) (verify : VerifyOutcome) : ReviewOutcome → LoopStep
  | .refused reason => .stop (.stepError reason)
  | review =>
    if verify.ok && review.ok then .stop .success
    else if !(verify.actionable || review.actionable) then .stop .notActionable
    else if attempt ≥ maxAttempts then .stop .boundReached
    else .continue

/-! ### The clone -/

abbrev Sha := String

inductive Head where
  | branch (name : String)
  | detached (commit : Sha)
  deriving DecidableEq

structure Clone where
  branches : String → Option Sha
  head : Head

inductive StageState where
  | staged | dirtyUnstaged | clean

inductive Action where
  | commit | noCommitDirty | noCommitClean | abort

inductive FixDisposition where
  | amend | diverged | noProgress

namespace Clone

variable (clone : Clone)

def headCommit : Option Sha :=
  match clone.head with
  | .branch name => clone.branches name
  | .detached commit => some commit

/-- The ref that `HEAD` stands for moves to the commit. -/
def advance (commit : Sha) : Clone :=
  match clone.head with
  | .branch name => { clone with branches := Function.update clone.branches name (some commit) }
  | .detached _ => { clone with head := .detached commit }

/-- A read of `HEAD`: the fault of the command, if any, and what git writes when nothing is
there to read. -/
def headSha (fault : Option String) (stderr : String) : Except String Sha :=
  match fault, clone.headCommit with
  | some error, _ => .error error
  | none, none => .error s!"git rev-parse HEAD failed: {stderr}"
  | none, some commit => .ok commit

/-- Whether `HEAD` is still the branch, at the commit it had before. -/
def headGuard (reads : Bool) (branch : String) (preSha : Sha) : Bool :=
  reads && clone.head == .branch branch && clone.headCommit == some preSha

end Clone

def Action.decide (completed guard : Bool) (stage : StageState) : Action :=
  if !completed then .abort
  else if !guard then .abort
  else match stage with
    | .clean => .noCommitClean
    | .dirtyUnstaged => .noCommitDirty
    | .staged => .commit

def fixStep : Action → FixDisposition
  | .commit => .amend
  | .abort => .diverged
  | .noCommitClean | .noCommitDirty => .noProgress

/-- A command of the host's git: success or failure, and the refs it leaves. -/
abbrev Command := EStateM String Clone Unit

/-- What the workflows and the host's git answer during one attempt. Host custody is granted
where the clone's policy does not ask for it. -/
structure Turn where
  custody : Except String Unit
  reset : Except String Unit
  verify : VerifyOutcome
  guardClone : Except String Unit
  review : ReviewOutcome
  headFault : Option String
  stderr : String
  fix : Clone → Clone
  completed : Bool
  custodyAfter : Except String Unit
  /-- The commands of `head_guard` succeed. -/
  guardReads : Bool
  stage : Except String StageState
  /-- The amend with its bounded retries. -/
  commitAmend : Command
  amendFault : Option String
  /-- `checkout -q -f` of the run branch's name. -/
  checkout : Command
  resetHard : Sha → Command

/-- The loop's variables, the clone, what the sink recorded last, and three facts the source does
not keep: the number of fix turns, and on what the last verification and review ran. -/
structure LoopState where
  sha : Sha
  attempt : Nat
  lastVerify : VerifyOutcome
  lastReview : ReviewOutcome
  clone : Clone
  recorded : Nat × Sha
  fixTurns : Nat
  verifiedOn : Option Clone
  reviewedOn : Option (Sha × Clone)

structure Settings where
  branch : String
  maxAttempts : Nat
  fixAvailable : Bool

abbrev LoopM := EStateM StopReason LoopState

def orStep (answer : Except String α) : LoopM α := answering (answer.mapError .stepError)

section

variable (settings : Settings) (turn : Turn)

def hostAmendCommit (clone : Clone) : Option Sha × Clone :=
  match turn.commitAmend clone with
  | .error _ left => (none, left)
  | .ok _ left => ((left.headSha turn.amendFault turn.stderr).toOption, left)

def restoreBranch (sha : Sha) : Command := do
  turn.checkout
  turn.resetHard sha

def examine : LoopM LoopStep := do
  orStep turn.custody
  orStep turn.reset
  modify fun state => { state with
    lastVerify := turn.verify
    verifiedOn := some state.clone }
  orStep turn.guardClone
  modify fun state => { state with
    lastReview := turn.review
    reviewedOn := some (state.sha, state.clone) }
  let state ← get
  pure (classify state.attempt settings.maxAttempts turn.verify turn.review)

def fold (disposition : FixDisposition) : LoopM Unit := fun state =>
  match disposition with
  | .noProgress => .error .noProgress state
  | .diverged =>
    match restoreBranch turn state.sha state.clone with
    | .error error clone => .error (.restoreFailed error) { state with clone }
    | .ok _ clone => .error .headMutated { state with clone }
  | .amend =>
    match hostAmendCommit turn state.clone with
    | (none, clone) => .error .amendFailed { state with clone }
    | (some sha, clone) => .ok () { state with
        sha, clone
        attempt := state.attempt + 1
        recorded := (state.attempt + 1, sha) }

def fixTurn : LoopM Unit := do
  let state ← get
  let preI ← orStep (state.clone.headSha turn.headFault turn.stderr)
  set { state with clone := turn.fix state.clone, fixTurns := state.fixTurns + 1 }
  if !turn.completed then throw .fixIncomplete
  else
    orStep turn.custodyAfter
    let guard := (turn.fix state.clone).headGuard turn.guardReads settings.branch preI
    let stage ← orStep turn.stage
    fold turn (fixStep (.decide true guard stage))

def pass : LoopM Unit := do
  match ← examine settings turn with
  | .stop reason => throw reason
  | .continue => if !settings.fixAvailable then throw .fixUnavailable else fixTurn settings turn

/-- The loop; the fuel is one pass more than there are attempts left. -/
def loop (turns : Nat → Turn) : Nat → LoopState → Option (StopReason × LoopState)
  | 0, _ => none
  | fuel + 1, state =>
    match pass settings (turns state.attempt) state with
    | .error reason after => some (reason, after)
    | .ok _ after => loop turns fuel after

def runTweakLoop (turns : Nat → Turn) (clone : Clone) (sha : Sha) (startAttempt : Nat) :
    Option (StopReason × LoopState) :=
  loop settings turns (settings.maxAttempts - startAttempt + 1)
    ⟨sha, startAttempt, .incomplete, .incomplete, clone, (startAttempt, sha), 0, none, none⟩

end

/-! ### What a pass leaves -/

section

variable (parents : Sha → List Sha) (settings : Settings) (base : Sha) (start : Nat)

/-- The run branch is checked out at the returned commit, whose only parent is the base, and
each fix turn so far has used up an attempt. -/
structure Tracks (state : LoopState) : Prop where
  head : state.clone.head = .branch settings.branch
  tip : state.clone.branches settings.branch = some state.sha
  parent : parents state.sha = [base]
  counted : start + state.fixTurns = state.attempt
  bounded : state.fixTurns ≤ settings.maxAttempts - start

/-- The fix turn moves the run branch only if it completes, and never deletes it; a checkout of a
branch that is there goes to it; a reset moves what `HEAD` stands for, and so does an amend, to a
commit with the parents of the one it replaces, which is then read. -/
structure Turn.Steady (turn : Turn) : Prop where
  incomplete : turn.completed = false →
    ∀ clone, (turn.fix clone).branches settings.branch = clone.branches settings.branch
  present : ∀ clone, clone.branches settings.branch ≠ none →
    (turn.fix clone).branches settings.branch ≠ none
  checkout : ∀ clone left, clone.branches settings.branch ≠ none →
    turn.checkout clone = .ok () left → left.head = .branch settings.branch
  reset : ∀ clone sha left, turn.resetHard sha clone = .ok () left → left = clone.advance sha
  amended : ∀ clone left head, clone.headCommit = some head → turn.commitAmend clone = .ok () left →
    ∃ commit, left = clone.advance commit ∧ parents commit = parents head
  refused : ∀ clone error left, turn.commitAmend clone = .error error left → left = clone
  read : turn.amendFault = none

def StopReason.trusted : StopReason → Bool
  | restoreFailed _ | stepError _ => false
  | _ => true

/-- What the loop hands off when it stops for this reason. -/
structure Stopped (reason : StopReason) (final : LoopState) : Prop where
  bounded : final.fixTurns ≤ settings.maxAttempts - start
  passed : reason = .success → final.lastVerify.ok = true ∧ final.lastReview.ok = true ∧
    final.clone.head = .branch settings.branch ∧
    final.verifiedOn = some final.clone ∧ final.reviewedOn = some (final.sha, final.clone)
  tip : reason.trusted = true →
    final.clone.branches settings.branch = some final.sha ∧ parents final.sha = [base]

/-- A fix turn entered in this state stops so, or has used up the attempt. -/
abbrev Lands (state : LoopState) : EStateM.Result StopReason LoopState Unit → Prop :=
  Ensured (fun _ after => Tracks parents settings base start after ∧
    after.attempt = state.attempt + 1) (Stopped parents settings base start)

end

section

variable {parents : Sha → List Sha} {settings : Settings} {turn : Turn} {base : Sha}
  {start attempt maxAttempts : Nat} {state : LoopState} {verify : VerifyOutcome}
  {review : ReviewOutcome}

theorem classify_success (stops : classify attempt maxAttempts verify review = .stop .success) :
    verify.ok = true ∧ review.ok = true := by
  unfold classify at stops
  split at stops
  · cases stops
  · split_ifs at stops with passed <;> cases stops
    exact Bool.and_eq_true_iff.mp passed

theorem classify_continue (goes : classify attempt maxAttempts verify review = .continue) :
    attempt < maxAttempts := by
  unfold classify at goes
  split at goes
  · cases goes
  · split_ifs at goes with _ _ reached
    exact Nat.lt_of_not_le reached

theorem or_step_bind {answer : Except String α} {next : α → LoopM β}
    {post : β → LoopState → Prop} {refused : StopReason → LoopState → Prop}
    (failed : ∀ error, refused (.stepError error) state)
    (goes : ∀ value, answer = .ok value → Ensured post refused (next value state)) :
    Ensured post refused ((orStep answer >>= next) state) := by
  cases answer with
  | error error => exact failed error
  | ok value => exact goes value rfl

/-- The state once verification and review have answered. -/
def examined (turn : Turn) (state : LoopState) : LoopState :=
  { state with
    lastVerify := turn.verify
    lastReview := turn.review
    verifiedOn := some state.clone
    reviewedOn := some (state.sha, state.clone) }

theorem examine_ensures (bounded : state.fixTurns ≤ settings.maxAttempts - start) :
    Ensured (fun step after => step = classify state.attempt settings.maxAttempts turn.verify
        turn.review ∧ after = examined turn state)
      (Stopped parents settings base start) (examine settings turn state) := by
  refine or_step_bind (fun _ => ⟨bounded, nofun, nofun⟩) fun _ _ => ?_
  refine or_step_bind (fun _ => ⟨bounded, nofun, nofun⟩) fun _ _ => ?_
  refine or_step_bind (fun _ => ⟨bounded, nofun, nofun⟩) fun _ _ => ?_
  exact ⟨rfl, rfl⟩

variable (steady : turn.Steady parents settings)

include steady

theorem amend_cases {clone : Clone} {sha : Sha} (head : clone.head = .branch settings.branch)
    (tip : clone.branches settings.branch = some sha) :
    hostAmendCommit turn clone = (none, clone) ∨ ∃ commit, parents commit = parents sha ∧
      hostAmendCommit turn clone = (some commit, clone.advance commit) := by
  have at_tip : clone.headCommit = some sha := by simp only [Clone.headCommit, head, tip]
  unfold hostAmendCommit
  cases amends : turn.commitAmend clone with
  | error error left => exact .inl (by rw [steady.refused clone error left amends])
  | ok _ left =>
    obtain ⟨commit, rfl, same⟩ := steady.amended clone left sha at_tip amends
    refine .inr ⟨commit, same, ?_⟩
    simp [Clone.headSha, Clone.headCommit, Clone.advance, head, steady.read, Except.toOption]

theorem restore_ensures {clone : Clone} {sha : Sha}
    (present : clone.branches settings.branch ≠ none) :
    Ensured (fun _ left => left.branches settings.branch = some sha) (fun _ _ => True)
      (restoreBranch turn sha clone) := by
  unfold restoreBranch
  refine ensured_run.bind fun _ left goes => ensured_run.weaken ?_ fun _ _ _ => trivial
  intro _ final resets
  rw [steady.reset left sha final resets, Clone.advance, steady.checkout clone left present goes]
  exact Function.update_self ..

/-- Once a fix turn has completed: unless `HEAD` diverged, the branch is where it was. -/
theorem fold_ensures {disposition : FixDisposition}
    (present : state.clone.branches settings.branch ≠ none)
    (guarded : disposition ≠ .diverged → state.clone.head = .branch settings.branch ∧
      state.clone.branches settings.branch = some state.sha)
    (parent : parents state.sha = [base])
    (counted : start + state.fixTurns = state.attempt + 1)
    (bounded : state.fixTurns ≤ settings.maxAttempts - start) :
    Lands parents settings base start state (fold turn disposition state) := by
  unfold fold
  cases disposition with
  | noProgress => exact ⟨bounded, nofun, fun _ => ⟨(guarded nofun).2, parent⟩⟩
  | diverged =>
    cases restored : restoreBranch turn state.sha state.clone with
    | error error clone => exact ⟨bounded, nofun, nofun⟩
    | ok _ clone =>
      have restores := (restore_ensures steady present).of_ok restored
      exact ⟨bounded, nofun, fun _ => ⟨restores, parent⟩⟩
  | amend =>
    obtain ⟨head, tip⟩ := guarded nofun
    rcases amend_cases steady head tip with same | ⟨commit, kept, same⟩
    · rw [same]
      exact ⟨bounded, nofun, fun _ => ⟨tip, parent⟩⟩
    · rw [same, Clone.advance, head]
      exact ⟨⟨rfl, Function.update_self .., kept.trans parent, counted, bounded⟩, rfl⟩

theorem fix_turn_ensures (tracks : Tracks parents settings base start state)
    (left : state.attempt < settings.maxAttempts) :
    Lands parents settings base start state (fixTurn settings turn state) := by
  have counted := tracks.counted
  have bounded : state.fixTurns + 1 ≤ settings.maxAttempts - start := by omega
  unfold fixTurn
  refine or_step_bind (fun _ => ⟨tracks.bounded, nofun, nofun⟩) fun preI read => ?_
  have same : preI = state.sha := by
    simp only [Clone.headSha, Clone.headCommit, tracks.head, tracks.tip] at read
    split at read <;> cases read
    rename_i same
    exact (Option.some.inj same).symm
  subst same
  split
  · rename_i incomplete
    refine ⟨bounded, nofun, fun _ => ⟨?_, tracks.parent⟩⟩
    exact (steady.incomplete (by simpa using incomplete) state.clone).trans tracks.tip
  · refine or_step_bind (fun _ => ⟨bounded, nofun, nofun⟩) fun _ _ => ?_
    refine or_step_bind (fun _ => ⟨bounded, nofun, nofun⟩) fun stage _ => ?_
    have present := steady.present state.clone (by rw [tracks.tip]; exact Option.some_ne_none _)
    refine fold_ensures steady present (fun kept => ?_) tracks.parent (congrArg (· + 1) counted)
      bounded
    cases guarded : (turn.fix state.clone).headGuard turn.guardReads settings.branch state.sha with
    | true =>
      simp only [Clone.headGuard, Bool.and_eq_true, beq_iff_eq] at guarded
      obtain ⟨⟨_, head⟩, commit⟩ := guarded
      rw [Clone.headCommit, head] at commit
      exact ⟨head, commit⟩
    | false =>
      rw [guarded] at kept
      exact absurd rfl kept

theorem pass_ensures (tracks : Tracks parents settings base start state) :
    Ensured (fun _ after => Tracks parents settings base start after ∧
        after.attempt = state.attempt + 1 ∧ state.attempt < settings.maxAttempts)
      (Stopped parents settings base start) (pass settings turn state) := by
  refine Ensured.bind (examine_ensures tracks.bounded) ?_
  rintro step after ⟨rfl, rfl⟩
  have still : Tracks parents settings base start (examined turn state) :=
    ⟨tracks.head, tracks.tip, tracks.parent, tracks.counted, tracks.bounded⟩
  cases step : classify state.attempt settings.maxAttempts turn.verify turn.review with
  | stop reason =>
    refine ⟨still.bounded, ?_, fun _ => ⟨still.tip, still.parent⟩⟩
    rintro rfl
    obtain ⟨verified, reviewed⟩ := classify_success step
    exact ⟨verified, reviewed, still.head, rfl, rfl⟩
  | «continue» =>
    have left := classify_continue step
    split
    · exact ⟨still.bounded, nofun, fun _ => ⟨still.tip, still.parent⟩⟩
    · refine (fix_turn_ensures steady still left).weaken ?_ (fun _ _ failed => failed)
      rintro _ after ⟨tracks, counted⟩
      exact ⟨tracks, counted, left⟩

omit steady

/-- Every pass that does not stop uses up an attempt, so the fuel is enough. -/
theorem loop_stops {turns : Nat → Turn}
    (steady : ∀ attempt, (turns attempt).Steady parents settings) {fuel : Nat}
    (enough : settings.maxAttempts - state.attempt < fuel)
    (tracks : Tracks parents settings base start state) :
    ∃ reason final, loop settings turns fuel state = some (reason, final) ∧
      Stopped parents settings base start reason final := by
  induction fuel generalizing state with
  | zero => omega
  | succ fuel ih =>
    have ended := pass_ensures (steady state.attempt) tracks
    unfold loop
    cases run : pass settings (turns state.attempt) state with
    | error reason final =>
      rw [run] at ended
      exact ⟨reason, final, rfl, ended⟩
    | ok _ after =>
      rw [run] at ended
      obtain ⟨still, counted, left⟩ := ended
      exact ih (by omega) still

def runParents (commit : Sha) : List Sha :=
  if commit = "rogue" then ["tip"] else ["base"]

def runClone : Clone := ⟨fun name => if name = "run" then some "tip" else none, .branch "run"⟩

/-- A rejected review, and a fix turn that leaves these refs. -/
def fixing (fix : Clone → Clone) (completed : Bool) (checkout : Command) : Turn where
  custody := .ok ()
  reset := .ok ()
  verify := .notConfigured
  guardClone := .ok ()
  review := .ran .reject "" 0
  headFault := none
  stderr := ""
  fix := fix
  completed := completed
  custodyAfter := .ok ()
  guardReads := true
  stage := .ok .clean
  commitAmend := throw "nothing to commit"
  amendFault := none
  checkout := checkout
  resetHard := fun sha clone => .ok () (clone.advance sha)

/-- The agent commits on the run branch. -/
def committing (completed : Bool) : Turn :=
  fixing (fun clone => clone.advance "rogue") completed
    fun clone => .ok () { clone with head := .branch "run" }

/-- The agent deletes the run branch and leaves a tracked file of its name, which `checkout -f`
then restores. -/
def deleting : Turn :=
  fixing
    (fun _ => ⟨fun name => if name = "other" then some "rogue" else none, .branch "other"⟩)
    true (pure ())

end
end A2aBridge.TweakLoop
