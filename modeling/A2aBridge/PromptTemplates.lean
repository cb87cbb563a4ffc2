import Mathlib.Data.List.Basic

/-!
Prompt rendering of bridge-workflow/template.rs and the two usage texts the executor
offers to a prompt. A substituted value is never scanned again. How an `f64` is printed is
left to `FloatText`; an amount is the bit pattern of its `f64`.
-/

namespace A2aBridge.Workflow

abbrev RenderVars := List (String × String)

variable (vars : RenderVars)

/-- The value a map collected from `vars` holds: a later pair replaces an earlier one. -/
def renderVar (token : String) : Option String :=
  (vars.reverse.find? fun entry => entry.1 == token).map Prod.snd

/-- The text before the first doubled `mark` and the text after it. -/
def splitPair (mark : Char) : List Char → Option (List Char × List Char)
  | first :: second :: rest =>
    if first = mark ∧ second = mark then some ([], rest)
    else (splitPair mark (second :: rest)).map fun parts => (first :: parts.1, parts.2)
  | _ => none

def LEFT_BRACES : List Char := [Char.ofNat 0x7b, Char.ofNat 0x7b]
def RIGHT_BRACES : List Char := [Char.ofNat 0x7d, Char.ofNat 0x7d]

/-- The loop of `render`, one opening pair a round; every round shortens the rest. -/
def renderFrom (vars : RenderVars) : Nat → List Char → List Char
  | 0, rest => rest
  | fuel + 1, rest =>
    match splitPair (Char.ofNat 0x7b) rest with
    | none => rest
    | some (before, after) =>
      match splitPair (Char.ofNat 0x7d) after with
      | some (token, tail) =>
        let value :=
          match renderVar vars (String.ofList token) with
          | some value => value.toList
          | none => LEFT_BRACES ++ token ++ RIGHT_BRACES
        before ++ value ++ renderFrom vars fuel tail
      | none => before ++ LEFT_BRACES ++ renderFrom vars fuel after

variable (template : String)

def render (vars : RenderVars) : String :=
  String.ofList (renderFrom vars template.length template.toList)

/-- What a template is made of, whatever values it is rendered with. -/
inductive Piece
  | literal (text : List Char)
  | token (name : String)

def Piece.fill : Piece → List Char
  | .literal text => text
  | .token name =>
    match renderVar vars name with
    | some value => value.toList
    | none => LEFT_BRACES ++ name.toList ++ RIGHT_BRACES

def piecesFrom : Nat → List Char → List Piece
  | 0, rest => [.literal rest]
  | fuel + 1, rest =>
    match splitPair (Char.ofNat 0x7b) rest with
    | none => [.literal rest]
    | some (before, after) =>
      match splitPair (Char.ofNat 0x7d) after with
      | some (token, tail) => .literal before :: .token (String.ofList token) :: piecesFrom fuel tail
      | none => .literal (before ++ LEFT_BRACES) :: piecesFrom fuel after

def pieces : List Piece := piecesFrom template.length template.toList

theorem render_from_pieces (fuel : Nat) (rest : List Char) :
    renderFrom vars fuel rest = (piecesFrom fuel rest).flatMap (Piece.fill vars) := by
  fun_induction piecesFrom fuel rest with
  | case1 rest => simp [renderFrom, Piece.fill]
  | case2 fuel rest found => simp [renderFrom, found, Piece.fill]
  | case3 fuel rest before after found token tail closed ih =>
    simp [renderFrom, found, closed, Piece.fill, ih]
  | case4 fuel rest before after found closed ih =>
    simp [renderFrom, found, closed, Piece.fill, ih]

theorem split_pair_joins {mark : Char} {text before after : List Char}
    (found : splitPair mark text = some (before, after)) :
    text = before ++ [mark, mark] ++ after := by
  fun_induction splitPair mark text generalizing before after with
  | case1 rest => simp_all
  | case2 first second rest other ih =>
    simp only [Option.map_eq_some_iff, Prod.mk.injEq] at found
    obtain ⟨parts, split, rfl, rfl⟩ := found
    simp [ih split]
  | case3 => simp at found

/-- The pair that is found is the first one: before it no pair is complete. -/
theorem split_pair_first {mark : Char} {before after : List Char}
    (first : ¬ [mark, mark] <:+: before ++ [mark]) :
    splitPair mark (before ++ [mark, mark] ++ after) = some (before, after) := by
  induction before with
  | nil => simp [splitPair]
  | cons c before ih =>
    rw [List.cons_append, List.infix_cons_iff, not_or] at first
    have onward := ih first.2
    cases before with
    | nil =>
      have other : c ≠ mark := by
        rintro rfl
        exact first.1 (List.prefix_refl _)
      simp [splitPair, other]
    | cons d before =>
      have apart : ¬ (c = mark ∧ d = mark) := by
        rintro ⟨here, there⟩
        rw [here, there] at first
        exact first.1 (List.prefix_append [mark, mark] _)
      simp only [List.cons_append] at onward ⊢
      rw [splitPair, if_neg apart, onward]
      rfl

theorem pieces_from_more {fuel : Nat} {rest : List Char} (enough : rest.length ≤ fuel)
    (more : Nat) : piecesFrom (fuel + more) rest = piecesFrom fuel rest := by
  fun_induction piecesFrom fuel rest with
  | case1 rest =>
    rw [List.eq_nil_of_length_eq_zero (Nat.le_zero.mp enough)]
    cases more <;> simp [piecesFrom, splitPair]
  | case2 fuel rest absent => rw [Nat.succ_add, piecesFrom, absent]
  | case3 fuel rest before after opened token tail closed ih =>
    rw [split_pair_joins opened, split_pair_joins closed] at enough
    simp only [List.length_append, List.length_cons] at enough
    simp only [Nat.succ_add, piecesFrom, opened, closed, ih (by omega)]
  | case4 fuel rest before after opened closed ih =>
    rw [split_pair_joins opened] at enough
    simp only [List.length_append, List.length_cons] at enough
    simp only [Nat.succ_add, piecesFrom, opened, closed, ih (by omega)]

/-- A token is what stands between an opening pair and the first closing pair after it. -/
theorem pieces_token {before name tail : List Char}
    (opens : ¬ LEFT_BRACES <:+: before ++ [Char.ofNat 0x7b])
    (closes : ¬ RIGHT_BRACES <:+: name ++ [Char.ofNat 0x7d])
    (text : template.toList = before ++ LEFT_BRACES ++ (name ++ RIGHT_BRACES ++ tail)) :
    pieces template =
      .literal before :: .token (String.ofList name) :: pieces (String.ofList tail) := by
  have length : template.length = tail.length + (before.length + name.length + 3) + 1 := by
    rw [← String.length_toList, text]
    simp [LEFT_BRACES, RIGHT_BRACES]
    omega
  have onward := @pieces_from_more tail.length tail (Nat.le_refl _)
    (before.length + name.length + 3)
  rw [pieces, length, text, piecesFrom, LEFT_BRACES, split_pair_first opens]
  simp only [RIGHT_BRACES, split_pair_first closes, onward]
  simp [pieces]

/-- A token without a value keeps its braces, so the scan copies what it consumed. -/
theorem render_from_nothing (fuel : Nat) (rest : List Char) : renderFrom [] fuel rest = rest := by
  induction fuel generalizing rest with
  | zero => rfl
  | succ fuel ih =>
    simp only [renderFrom]
    split
    · rfl
    · rename_i found
      split <;> simp_all [renderVar, LEFT_BRACES, RIGHT_BRACES, split_pair_joins found]
      rename_i closed
      simp [split_pair_joins closed]

theorem render_fills_pieces :
    (∀ vars, render template vars = String.ofList ((pieces template).flatMap (Piece.fill vars))) ∧
      render template [] = template ∧
      ∀ vars changed, (∀ name, .token name ∈ pieces template →
        renderVar changed name = renderVar vars name) →
        render template changed = render template vars := by
  have filled (vars) : render template vars =
      String.ofList ((pieces template).flatMap (Piece.fill vars)) :=
    congrArg String.ofList (render_from_pieces vars _ _)
  refine ⟨filled, ?_, ?_⟩
  · simp [render, render_from_nothing]
  · intro vars changed same
    rw [filled, filled]
    congr 1
    apply List.flatMap_congr
    intro piece member
    cases piece with
    | literal text => rfl
    | token name => simp only [Piece.fill, same name member]

structure UsageCost where
  amountBits : Nat
  currency : String
  deriving DecidableEq

/-- The fields of `UsageSnapshot` that reach a prompt. -/
structure UsageSnapshot where
  used : Option Nat
  size : Option Nat
  cost : Option UsageCost
  deriving DecidableEq

structure FloatText where
  display : Nat → String
  ratio : Nat → Nat → String

variable (floats : FloatText)

def costRow (source : String) (usage : Option UsageSnapshot) : String :=
  let used := ((usage.bind UsageSnapshot.used).map toString).getD "n/a"
  let size := ((usage.bind UsageSnapshot.size).map toString).getD "n/a"
  let windowFraction :=
    match usage.bind UsageSnapshot.used, usage.bind UsageSnapshot.size with
    | some used, some size => if 0 < size then floats.ratio used size else "n/a"
    | _, _ => "n/a"
  let cost := ((usage.bind UsageSnapshot.cost).map fun cost =>
    floats.display cost.amountBits ++ " " ++ cost.currency).getD "n/a"
  "| " ++ source ++ " | " ++ used ++ " | " ++ size ++ " | " ++ windowFraction ++ " | " ++ cost ++ " |\n"

/-- `render_costs_table`. -/
def renderCostsTable (rows : List (String × Option UsageSnapshot)) : String :=
  "| source | used | size | windowFraction | cost |\n| --- | --- | --- | --- | --- |\n" ++
    String.join (rows.map fun row => costRow floats row.1 row.2)

/-- `render_weights`. -/
def renderWeights (weights : Option (List (String × Nat))) : String :=
  match weights with
  | some (entry :: rest) =>
    String.join ((entry :: rest).map fun weight =>
      "- " ++ weight.1 ++ ": " ++ floats.display weight.2 ++ "\n")
  | _ => "(no weights configured)"

end A2aBridge.Workflow
