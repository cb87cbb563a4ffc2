import Mathlib.Logic.Basic

/-!
Histories that justify themselves. A history is a list of items in the order they happened,
and every item is judged by the items before it.
-/

namespace A2aBridge.Histories

variable {α : Type} {ok looser : List α → α → Prop}

/-- Every item is justified by `past` and the items before it. -/
def Along (ok : List α → α → Prop) (past : List α) : List α → Prop
  | [] => True
  | item :: rest => ok past item ∧ Along ok (past ++ [item]) rest

theorem along_append (past left right : List α) :
    Along ok past (left ++ right) ↔ Along ok past left ∧ Along ok (past ++ left) right := by
  induction left generalizing past with
  | nil => simp [Along]
  | cons item rest ih =>
    simp [Along, ih, and_assoc]

theorem along_mono (weaker : ∀ past item, ok past item → looser past item) {past items : List α}
    (along : Along ok past items) : Along looser past items := by
  induction items generalizing past with
  | nil => trivial
  | cons item rest ih => exact ⟨weaker past item along.1, ih along.2⟩

/-- Items that are justified by every longer past are justified together. -/
theorem along_of_forall {past items : List α}
    (each : ∀ item ∈ items, ∀ more, ok (past ++ more) item) : Along ok past items := by
  induction items generalizing past with
  | nil => trivial
  | cons item rest ih =>
    constructor
    · have first := each item List.mem_cons_self []
      rwa [List.append_nil] at first
    · apply ih
      intro other member more
      rw [List.append_assoc]
      exact each other (List.mem_cons_of_mem item member) ([item] ++ more)

section Kinds

variable {kind : α → Bool} {past items : List α}

section

variable
  (first : ∀ before item, ok before item → kind item = true → ∀ earlier ∈ before, kind earlier = false)
  (along : Along ok past items)

include first along

theorem along_excludes {earlier : α} (member : earlier ∈ past) (known : kind earlier = true) :
    ∀ item ∈ items, kind item = false := by
  induction items generalizing past with
  | nil =>
    nofun
  | cons head rest ih =>
    intro item inside
    rcases List.mem_cons.mp inside with rfl | later
    · cases same : kind item with
      | false => rfl
      | true =>
        have absent := first past item along.1 same earlier member
        rw [known] at absent
        cases absent
    · exact ih along.2 (List.mem_append_left [head] member) item later

theorem along_at_most_once : (items.filter kind).length ≤ 1 := by
  induction items generalizing past with
  | nil => simp
  | cons head rest ih =>
    by_cases known : kind head = true
    · have others := along_excludes first along.2
        (List.mem_append_right past List.mem_cons_self) known
      have none : rest.filter kind = [] := by
        rw [List.filter_eq_nil_iff]
        intro item inside
        rw [others item inside]
        exact Bool.false_ne_true
      rw [List.filter_cons_of_pos known, none]
      exact Nat.le_refl 1
    · rw [List.filter_cons_of_neg known]
      exact ih along.2

end

end Kinds

end A2aBridge.Histories
