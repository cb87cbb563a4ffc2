import Mathlib.Data.List.Basic
import Mathlib.Tactic.Common

/-!
Texts whose lines each end in a delimiter. A reader takes what stands before the last
delimiter and drops an unterminated tail, so it recovers the lines that were written out
completely from every prefix of such a text.
-/

namespace A2aBridge.DelimitedLines

variable {α : Type} [DecidableEq α] (stop : α)

/-- The index of the last delimiter. -/
def rposition : List α → Option Nat
  | [] => none
  | item :: rest =>
    match rposition rest with
    | some index => some (index + 1)
    | none => if item = stop then some 0 else none

def completeLen (text : List α) : Nat :=
  match rposition stop text with
  | none => 0
  | some index => index + 1

def completeLines (text : List α) : List (List α) :=
  if completeLen stop text = 0 then []
  else (text.take (completeLen stop text - 1)).splitOn stop

def frame (lines : List (List α)) : List α := lines.flatMap (· ++ [stop])

variable {stop}

theorem rposition_none {text : List α} (unstopped : stop ∉ text) : rposition stop text = none := by
  induction text with
  | nil => rfl
  | cons item rest ih =>
    rw [List.mem_cons, not_or] at unstopped
    simp only [rposition, ih unstopped.2]
    rw [if_neg (Ne.symm unstopped.1)]

variable {tail : List α}

theorem rposition_stop (text : List α) (unstopped : stop ∉ tail) :
    rposition stop (text ++ stop :: tail) = some text.length := by
  induction text with
  | nil => simp [rposition, rposition_none unstopped]
  | cons item rest ih => simp [rposition, ih]

omit [DecidableEq α] in
theorem frame_append_one (lines : List (List α)) (line : List α) :
    frame stop (lines ++ [line]) = frame stop lines ++ line ++ [stop] := by
  simp [frame]

variable {lines : List (List α)}

omit [DecidableEq α] in
theorem frame_intercalate (some_line : lines ≠ []) :
    frame stop lines = [stop].intercalate lines ++ [stop] := by
  induction lines with
  | nil => exact absurd rfl some_line
  | cons line rest ih =>
    cases rest with
    | nil => simp [frame, List.intercalate]
    | cons next others =>
      have tail := ih (by simp)
      simp only [frame, List.intercalate, List.flatMap_cons, List.intersperse_cons_cons,
        List.flatten_cons] at tail ⊢
      rw [tail]
      simp

theorem complete_len_frame (lines : List (List α)) (unstopped : stop ∉ tail) :
    completeLen stop (frame stop lines ++ tail) = (frame stop lines).length := by
  rcases List.eq_nil_or_concat lines with rfl | ⟨others, last, rfl⟩
  · simp [completeLen, frame, rposition_none unstopped]
  · rw [List.concat_eq_append, frame_append_one]
    have stopped := rposition_stop (frame stop others ++ last) unstopped
    simp only [List.append_assoc, List.singleton_append] at stopped ⊢
    simp only [completeLen, stopped]
    simp [Nat.add_assoc]

/-- The lines written out completely are read back, and an unterminated tail is not. -/
theorem complete_lines_frame (plain : ∀ line ∈ lines, stop ∉ line)
    (unstopped : stop ∉ tail) : completeLines stop (frame stop lines ++ tail) = lines := by
  unfold completeLines
  rw [complete_len_frame lines unstopped]
  by_cases none : lines = []
  · simp [none, frame]
  · have framed : frame stop lines = [stop].intercalate lines ++ [stop] := frame_intercalate none
    have nonempty : (frame stop lines).length ≠ 0 := by simp [framed]
    rw [if_neg nonempty, List.take_append_of_le_length (by omega), framed]
    simp only [List.length_append, List.length_singleton, Nat.add_sub_cancel]
    rw [List.take_left', List.splitOn_intercalate stop plain none]
    rfl

omit [DecidableEq α] in
theorem frame_torn (lines : List (List α)) {line : List α} (plain : stop ∉ line) (count : Nat) :
    (count ≤ line.length ∧ stop ∉ (line ++ [stop]).take count) ∨
    (line.length < count ∧
      frame stop lines ++ (line ++ [stop]).take count = frame stop (lines ++ [line])) := by
  rcases Nat.lt_or_ge line.length count with complete | torn
  · refine .inr ⟨complete, ?_⟩
    rw [List.take_of_length_le (by simp; omega), frame_append_one, List.append_assoc]
  · refine .inl ⟨torn, fun inside => plain ?_⟩
    rw [List.take_append_of_le_length torn] at inside
    exact List.mem_of_mem_take inside

end A2aBridge.DelimitedLines
