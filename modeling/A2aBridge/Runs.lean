import Mathlib.Algebra.Ring.Nat
import Mathlib.Tactic.Common

/-!
Runs of a machine that answers each operation with the state it leaves, or refuses it.
-/

namespace A2aBridge.Runs

variable {State Op : Type}

def run (step : State → Op → Option State) (state : State) : List Op → Option State
  | [] => some state
  | op :: rest => (step state op).bind fun next => run step next rest

/-- The states some run reaches from `start`. -/
inductive Reaches (step : State → Op → Option State) (start : State) : State → Prop where
  | refl : Reaches step start start
  | step {state next : State} {op : Op} :
      Reaches step start state → step state op = some next → Reaches step start next

variable {step : State → Op → Option State} {start state : State}

/-- What holds at the start and is kept by every operation holds in every state reached. -/
theorem Reaches.invariant {inv : State → Prop} (reached : Reaches step start state)
    (initial : inv start)
    (kept : ∀ state op next, inv state → step state op = some next → inv next) : inv state := by
  induction reached with
  | refl => exact initial
  | step _ stepped ih => exact kept _ _ _ ih stepped

theorem Reaches.trans {middle : State} (first : Reaches step start middle)
    (second : Reaches step middle state) : Reaches step start state := by
  induction second with
  | refl => exact first
  | step _ stepped ih => exact .step ih stepped

theorem reaches_of_run {ops : List Op} (ran : run step start ops = some state) :
    Reaches step start state := by
  induction ops generalizing start with
  | nil =>
    cases ran
    exact .refl
  | cons op rest ih =>
    obtain ⟨next, stepped, rested⟩ := Option.bind_eq_some_iff.mp ran
    exact Reaches.trans (.step .refl stepped) (ih rested)

/-- The machine that also refuses what `permits` does not allow. -/
def guarded (permits : State → Op → Bool) (step : State → Op → Option State) (state : State)
    (op : Op) : Option State :=
  if permits state op then step state op else none

variable {permits : State → Op → Bool}

theorem guarded_eq_some {op : Op} {next : State} :
    guarded permits step state op = some next ↔
      permits state op = true ∧ step state op = some next := by
  unfold guarded
  split <;> simp [*]

theorem Reaches.weaken {looser : State → Op → Bool}
    (reached : Reaches (guarded permits step) start state)
    (looser_of : ∀ state op, permits state op = true → looser state op = true) :
    Reaches (guarded looser step) start state := by
  induction reached with
  | refl => exact .refl
  | step _ stepped ih =>
    obtain ⟨permitted, stepped⟩ := guarded_eq_some.mp stepped
    exact .step ih (guarded_eq_some.mpr ⟨looser_of _ _ permitted, stepped⟩)

theorem Reaches.permitted (reached : Reaches step start state) :
    Reaches (guarded (fun _ _ => true) step) start state := by
  induction reached with
  | refl => exact .refl
  | step _ stepped ih => exact .step ih (guarded_eq_some.mpr ⟨rfl, stepped⟩)

theorem Reaches.unguarded
    (reached : Reaches (guarded permits step) start state) : Reaches step start state := by
  induction reached with
  | refl => exact .refl
  | step _ stepped ih => exact .step ih (guarded_eq_some.mp stepped).2

end A2aBridge.Runs
