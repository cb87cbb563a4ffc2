import Mathlib.Algebra.Order.Ring.Nat
import Mathlib.Tactic.Common

/-!
Arithmetic of 64-bit counters over the naturals: additions that stop at the largest value and
additions that refuse to pass it.
-/

namespace A2aBridge

def U64_MAX : Nat := 2 ^ 64 - 1

variable {left right total : Nat}

/-- `u64::saturating_add`. -/
def saturatingAdd (left right : Nat) : Nat := min (left + right) U64_MAX

/-- `u64::checked_add`. -/
def checkedAdd (left right : Nat) : Option Nat :=
  if left + right < 2 ^ 64 then some (left + right) else none

theorem checked_add_some :
    checkedAdd left right = some total ↔ left + right < 2 ^ 64 ∧ total = left + right := by
  unfold checkedAdd
  split <;> simp_all [eq_comm]

end A2aBridge
