import A2aBridge.MachineWords
import Mathlib.Data.Finset.Card
import Mathlib.Data.List.Sort

/-!
The time that the cleanups of a workflow run took: the union of the measured intervals, in
bridge-workflow/executor.rs.
-/

namespace A2aBridge.Workflow

/-- What `sort_unstable_by_key` may answer for a list of intervals. -/
def ByStart (intervals : List (Nat × Nat)) : Type :=
  { sorted : List (Nat × Nat) //
    sorted.Perm intervals ∧ sorted.Pairwise fun left right => left.1 ≤ right.1 }

def byStart (intervals : List (Nat × Nat)) : ByStart intervals :=
  ⟨intervals.insertionSort (Order.Preimage Prod.fst (· ≤ ·)), List.perm_insertionSort ..,
    List.pairwise_insertionSort ..⟩

def unionFrom (currentStart currentEnd total : Nat) : List (Nat × Nat) → Nat
  | [] => saturatingAdd total (currentEnd - currentStart)
  | (started, finished) :: rest =>
    if started ≤ currentEnd then unionFrom currentStart (max currentEnd finished) total rest
    else unionFrom started finished (saturatingAdd total (currentEnd - currentStart)) rest

def intervalUnionMs {intervals : List (Nat × Nat)} (sorted : ByStart intervals) : Nat :=
  match sorted.val with
  | [] => 0
  | (currentStart, currentEnd) :: rest => unionFrom currentStart currentEnd 0 rest

def times (start stop : Nat) : Finset Nat := (List.range' start (stop - start)).toFinset

theorem mem_times {start stop time : Nat} :
    time ∈ times start stop ↔ start ≤ time ∧ time < stop := by
  rw [times, List.mem_toFinset, List.mem_range'_1]
  omega

theorem times_card (start stop : Nat) : (times start stop).card = stop - start := by
  rw [times, List.toFinset_card_of_nodup List.nodup_range', List.length_range']

def covered : List (Nat × Nat) → Finset Nat
  | [] => ∅
  | (started, finished) :: rest => times started finished ∪ covered rest

theorem mem_covered {intervals : List (Nat × Nat)} {time : Nat} : time ∈ covered intervals ↔
    ∃ interval ∈ intervals, interval.1 ≤ time ∧ time < interval.2 := by
  induction intervals with
  | nil => simp [covered]
  | cons interval rest ih => simp [covered, mem_times, ih]

theorem union_from_covered {start stop total : Nat} {rest : List (Nat × Nat)}
    (first : ∀ later ∈ rest, start ≤ later.1)
    (sorted : rest.Pairwise fun left right => left.1 ≤ right.1) :
    unionFrom start stop total rest =
      min (total + (times start stop ∪ covered rest).card) U64_MAX := by
  induction rest generalizing start stop total with
  | nil => simp [unionFrom, covered, saturatingAdd, times_card]
  | cons interval rest ih =>
    obtain ⟨started, finished⟩ := interval
    obtain ⟨next, others⟩ := List.pairwise_cons.mp sorted
    obtain ⟨begins, first⟩ := List.forall_mem_cons.mp first
    dsimp only at next
    rw [unionFrom, covered]
    split
    · have joined : times start stop ∪ times started finished =
          times start (max stop finished) := by
        ext time
        simp only [Finset.mem_union, mem_times]
        omega
      rw [ih first others, ← Finset.union_assoc, joined]
    · -- No later interval starts before `started`, so none meets the current one.
      have apart : Disjoint (times start stop) (times started finished ∪ covered rest) := by
        simp only [Finset.disjoint_left, Finset.mem_union, mem_covered, mem_times]
        rintro time inside (reached | ⟨later, member, reached⟩)
        · omega
        · have := next later member
          omega
      rw [ih next others, Finset.card_union_of_disjoint apart, times_card, saturatingAdd]
      omega

/-- The sweep counts the milliseconds that some interval covers, however the sort breaks ties. -/
theorem interval_union_counts (intervals : List (Nat × Nat)) (sorted : ByStart intervals) :
    ∃ times : Finset Nat, (∀ time, time ∈ times ↔
        ∃ interval ∈ intervals, interval.1 ≤ time ∧ time < interval.2) ∧
      intervalUnionMs sorted = min U64_MAX times.card := by
  obtain ⟨order, same, ascending⟩ := sorted
  refine ⟨covered order, fun time => ?_, ?_⟩
  · simp only [mem_covered, same.mem_iff]
  rw [Nat.min_comm]
  cases order with
  | nil => rfl
  | cons interval rest =>
    obtain ⟨first, others⟩ := List.pairwise_cons.mp ascending
    rw [covered, ← Nat.zero_add (Finset.card _)]
    exact union_from_covered first others

theorem sample_union_counts :
    intervalUnionMs (byStart [(7, 9), (0, 3), (2, 5)]) = 7 ∧
    ∃ times : Finset Nat, (∀ time, time ∈ times ↔
        ∃ interval ∈ [(7, 9), (0, 3), (2, 5)], interval.1 ≤ time ∧ time < interval.2) ∧
      intervalUnionMs (byStart [(7, 9), (0, 3), (2, 5)]) = min U64_MAX times.card :=
  ⟨by decide +kernel, interval_union_counts _ (byStart _)⟩

end A2aBridge.Workflow
