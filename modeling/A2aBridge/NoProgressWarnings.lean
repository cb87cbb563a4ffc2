import Mathlib.Algebra.Ring.Nat
import Mathlib.Data.List.Induction

/-!
The no-progress cadence of bridge-core/no_progress_warning.rs, with the classification of
activity in bridge-core/attempt_activity.rs.
-/

namespace A2aBridge.NoProgress

inductive ActivityReason where
  | phaseTransition | messageDelta | thoughtDelta | usageHighWater | toolTransition
  | ownedChildTransition | ownedChildOutput | repositoryOrdinal | gateStarted | gateExited
  | completedSetGrowth | producerTerminal | heartbeat

def ActivityReason.supportsMeaningfulProgress : ActivityReason → Bool
  | .usageHighWater | .ownedChildOutput | .heartbeat => false
  | _ => true

inductive ActivityKind where
  | activity
  | meaningfulProgress
  deriving DecidableEq

/-- The fields of a record that the cadence reads. -/
structure AttemptActivity where
  reason : ActivityReason
  kind : ActivityKind
  elapsedMs : Nat

def AttemptActivity.progresses (activity : AttemptActivity) : Bool :=
  activity.kind = .meaningfulProgress && activity.reason.supportsMeaningfulProgress

def NO_PROGRESS_WARNING_INTERVAL_MS : Nat := 1800000

def noProgressWarningOrdinal (now lastMeaningfulProgress : Nat) : Nat :=
  (now - lastMeaningfulProgress) / NO_PROGRESS_WARNING_INTERVAL_MS

structure NoProgressWarning where
  ordinal : Nat
  supersededOrdinalCount : Nat
  observedAt : Nat
  lastActivity : Nat
  lastMeaningfulProgress : Nat

structure NoProgressWarningEpoch where
  lastActivity : Nat
  lastMeaningfulProgress : Nat
  lastEmittedOrdinal : Nat

namespace NoProgressWarningEpoch

variable (epoch : NoProgressWarningEpoch)

def resets (activity : AttemptActivity) : Bool :=
  activity.progresses && epoch.lastMeaningfulProgress < activity.elapsedMs

def observeActivity (activity : AttemptActivity) : NoProgressWarningEpoch :=
  let lastActivity := max epoch.lastActivity activity.elapsedMs
  if epoch.resets activity then
    ⟨lastActivity, max epoch.lastMeaningfulProgress activity.elapsedMs, 0⟩
  else { epoch with lastActivity }

def pollElapsed (now : Nat) : Option NoProgressWarning × NoProgressWarningEpoch :=
  let ordinal := noProgressWarningOrdinal now epoch.lastMeaningfulProgress
  if epoch.lastEmittedOrdinal < ordinal then
    (some ⟨ordinal, ordinal - epoch.lastEmittedOrdinal - 1, now, epoch.lastActivity,
      epoch.lastMeaningfulProgress⟩, { epoch with lastEmittedOrdinal := ordinal })
  else (none, epoch)

end NoProgressWarningEpoch

inductive Event where
  | record (activity : AttemptActivity)
  | poll (now : Nat)

def Event.matters : Event → Bool
  | .record activity => activity.progresses
  | .poll _ => true

/-- An epoch with the warnings emitted since its last reset, the latest first. -/
structure Cadence where
  epoch : NoProgressWarningEpoch
  emitted : List NoProgressWarning

namespace Cadence

open NoProgressWarningEpoch

variable (cadence : Cadence)

def step : Event → Cadence
  | .record activity => ⟨cadence.epoch.observeActivity activity,
      if cadence.epoch.resets activity then [] else cadence.emitted⟩
  | .poll now => ⟨(cadence.epoch.pollElapsed now).2,
      (cadence.epoch.pollElapsed now).1.toList ++ cadence.emitted⟩

def run (start : Nat) (events : List Event) : Cadence :=
  events.foldl step ⟨⟨start, start, 0⟩, []⟩

/-- Everything but the times of activity. -/
def view : Cadence :=
  ⟨{ cadence.epoch with lastActivity := 0 },
    cadence.emitted.map fun warning => { warning with lastActivity := 0 }⟩

structure Sound (events : List Event) : Prop where
  rising : (cadence.emitted.map NoProgressWarning.ordinal).Pairwise (· > ·)
  last : (cadence.emitted.head?.map NoProgressWarning.ordinal).getD 0 =
    cadence.epoch.lastEmittedOrdinal
  counted : (cadence.emitted.map (1 + ·.supersededOrdinalCount)).sum =
    cadence.epoch.lastEmittedOrdinal
  due : ∀ now, (∀ earlier, .poll earlier ∈ events → earlier ≤ now) →
    cadence.epoch.lastEmittedOrdinal ≤
      noProgressWarningOrdinal now cadence.epoch.lastMeaningfulProgress

variable {cadence} {events : List Event} {event : Event}

theorem Sound.step (sound : cadence.Sound events) :
    (cadence.step event).Sound (events ++ [event]) := by
  have due now (late : ∀ earlier, .poll earlier ∈ events ++ [event] → earlier ≤ now) :=
    sound.due now fun earlier member => late earlier (List.mem_append_left _ member)
  cases event with
  | record activity =>
    by_cases reset : cadence.epoch.resets activity = true
    · simp only [Cadence.step, observeActivity, reset, if_true]
      exact ⟨.nil, rfl, rfl, fun _ _ => Nat.zero_le _⟩
    · simp only [Cadence.step, observeActivity, reset]
      exact ⟨sound.rising, sound.last, sound.counted, due⟩
  | poll now =>
    by_cases fresh : cadence.epoch.lastEmittedOrdinal <
        noProgressWarningOrdinal now cadence.epoch.lastMeaningfulProgress
    · simp only [Cadence.step, pollElapsed, fresh, if_true, Option.toList_some, List.singleton_append]
      obtain ⟨rising, last, counted, -⟩ := sound
      refine ⟨List.pairwise_cons.mpr ⟨?_, rising⟩, rfl, ?_, fun later late => ?_⟩
      · dsimp only
        cases earlier : cadence.emitted with
        | nil => nofun
        | cons first rest =>
          simp only [earlier, List.map_cons, List.pairwise_cons, List.head?_cons, Option.map_some,
            Option.getD_some] at rising last
          refine List.forall_mem_cons.mpr ⟨by omega, fun ordinal member => ?_⟩
          have := rising.1 ordinal member
          omega
      · simp only [List.map_cons, List.sum_cons]
        omega
      · exact Nat.div_le_div_right (Nat.sub_le_sub_right (late now (by simp)) _)
    · simp only [Cadence.step, pollElapsed, fresh, if_false, Option.toList_none, List.nil_append]
      exact ⟨sound.rising, sound.last, sound.counted, due⟩

theorem run_append (start : Nat) : run start (events ++ [event]) = (run start events).step event :=
  List.foldl_append ..

theorem run_sound (start : Nat) (events : List Event) : (run start events).Sound events := by
  induction events using List.reverseRecOn with
  | nil => exact ⟨.nil, rfl, rfl, fun _ _ => Nat.zero_le _⟩
  | append_singleton events event sound => exact run_append start ▸ sound.step

theorem view_step : (cadence.step event).view = (cadence.view.step event).view := by
  cases event with
  | record activity =>
    have same : cadence.view.epoch.resets activity = cadence.epoch.resets activity := rfl
    simp only [step, observeActivity, same]
    cases cadence.epoch.resets activity <;> simp [view]
  | poll now =>
    simp only [step, view, pollElapsed]
    split <;> simp [*, Function.comp_def]

theorem view_idle (idle : event.matters = false) : (cadence.step event).view = cadence.view := by
  cases event with
  | record activity => simp_all [view, step, observeActivity, resets, Event.matters]
  | poll now => cases idle

theorem view_run (start : Nat) (events : List Event) :
    (run start events).view = (run start (events.filter Event.matters)).view := by
  induction events using List.reverseRecOn with
  | nil => rfl
  | append_singleton events event same =>
    rw [run_append, List.filter_append]
    cases matters : event.matters with
    | true =>
      rw [List.filter_cons_of_pos matters, List.filter_nil, run_append, view_step, same, ← view_step]
    | false => simpa [matters, view_idle matters] using same

end Cadence

open Cadence

/-- Since the last reset the ordinals rise and every ordinal up to the last is emitted or counted
as superseded; a poll that is not before another leaves the largest due ordinal; and records that
are no meaningful progress change none of this. -/
theorem cadence_exact (start : Nat) (events : List Event) :
    ((run start events).emitted.map NoProgressWarning.ordinal).Pairwise (· > ·) ∧
    ((run start events).emitted.head?.map NoProgressWarning.ordinal).getD 0 =
      (run start events).epoch.lastEmittedOrdinal ∧
    ((run start events).emitted.map (1 + ·.supersededOrdinalCount)).sum =
      (run start events).epoch.lastEmittedOrdinal ∧
    (∀ now, (∀ earlier, .poll earlier ∈ events → earlier ≤ now) → ∀ ordinal, 0 < ordinal →
      (ordinal ≤ ((run start events).step (.poll now)).epoch.lastEmittedOrdinal ↔
        (run start events).epoch.lastMeaningfulProgress +
          ordinal * NO_PROGRESS_WARNING_INTERVAL_MS ≤ now)) ∧
    (run start events).view = (run start (events.filter Event.matters)).view := by
  obtain ⟨rising, last, counted, due⟩ := run_sound start events
  refine ⟨rising, last, counted, fun now late ordinal positive => ?_, view_run start events⟩
  have emitted : ((run start events).step (.poll now)).epoch.lastEmittedOrdinal =
      noProgressWarningOrdinal now (run start events).epoch.lastMeaningfulProgress := by
    simp only [step, NoProgressWarningEpoch.pollElapsed]
    split
    · rfl
    · exact Nat.le_antisymm (due now late) (Nat.le_of_not_lt ‹_›)
  rw [emitted, noProgressWarningOrdinal, Nat.le_div_iff_mul_le (by decide)]
  simp only [NO_PROGRESS_WARNING_INTERVAL_MS]
  omega

end A2aBridge.NoProgress
