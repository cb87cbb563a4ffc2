import Mathlib.Logic.Basic

/-!
Stateful computations that may refuse. `EStateM` keeps the state that a failing
call leaves behind, which is what a `&mut self` method with `?` does: a refusal
returns early, and every mutation made before it stays. The rules below take such
a computation apart at its binds, compare two of them on related states, and
carry a contract with one postcondition for success and one for refusal.
-/

namespace A2aBridge.StatefulRefusal

variable {ε σ τ α β γ δ : Type}

theorem bind_ok_iff (first : EStateM ε σ α) (next : α → EStateM ε σ β)
    (before after : σ) (value : β) :
    (first >>= next) before = .ok value after ↔
      ∃ middle state, first before = .ok middle state ∧ next middle state = .ok value after := by
  change EStateM.bind first next before = _ ↔ _
  unfold EStateM.bind
  cases run : first before with
  | ok middle state =>
    constructor
    · intro rest
      exact ⟨middle, state, rfl, rest⟩
    · rintro ⟨_, _, same, rest⟩
      cases same
      exact rest
  | error refusal state => simp

variable {first : EStateM ε σ α} {next : α → EStateM ε σ β} {state : σ} {refusal : ε}
  {related : σ → τ → Prop} {refused : ε → σ → Prop} {post : α → σ → Prop} {pre : σ → Prop}

variable {before : σ} {left : EStateM ε σ α} {leftNext : α → EStateM ε σ γ} {value : α}
  {between stronger : α → σ → Prop} {refusedStronger : ε → σ → Prop} {result : EStateM.Result ε σ α}

theorem bind_of_ok {middle : α} (run : first before = .ok middle state) :
    (first >>= next) before = next middle state := by
  change EStateM.bind first next before = _
  simp [EStateM.bind, run]

theorem bind_of_error (run : first before = .error refusal state) :
    (first >>= next) before = .error refusal state := by
  change EStateM.bind first next before = _
  simp [EStateM.bind, run]

theorem except_bind_ok {answer : Except ε α} {next : α → Except ε β} {value : β}
    (run : (answer >>= next) = .ok value) :
    ∃ middle, answer = .ok middle ∧ next middle = .ok value := by
  cases answer with
  | error refusal => cases run
  | ok middle => exact ⟨middle, rfl, run⟩

@[simp] theorem get_bind (next : σ → EStateM ε σ β) :
    ((get : EStateM ε σ σ) >>= next) state = next state state := rfl

@[simp] theorem set_bind (new : σ) (next : PUnit → EStateM ε σ β) :
    ((set new : EStateM ε σ PUnit) >>= next) state = next ⟨⟩ new := rfl

@[simp] theorem modify_bind (change : σ → σ) (next : PUnit → EStateM ε σ β) :
    ((modify change : EStateM ε σ PUnit) >>= next) state = next ⟨⟩ (change state) := rfl

/-! Two computations run side by side. Related starts must both succeed, with
values and states related by `post`, or both refuse for the same reason. -/

def Matched (post : α → β → σ → τ → Prop) :
    EStateM.Result ε σ α → EStateM.Result ε τ β → Prop
  | .ok value state, .ok other mirror => post value other state mirror
  | .error refusal _, .error reason _ => refusal = reason
  | _, _ => False

def Agree (related : σ → τ → Prop) (left : EStateM ε σ α) (right : EStateM ε τ β)
    (post : α → β → σ → τ → Prop) : Prop :=
  ∀ state mirror, related state mirror → Matched post (left state) (right mirror)

theorem matched_cases {post : α → β → σ → τ → Prop} {left : EStateM.Result ε σ α}
    {right : EStateM.Result ε τ β} (matched : Matched post left right) :
    (∃ refusal state mirror, left = .error refusal state ∧ right = .error refusal mirror) ∨
      ∃ value other state mirror, left = .ok value state ∧ right = .ok other mirror ∧
        post value other state mirror := by
  cases left with
  | ok value state =>
    cases right with
    | ok other mirror => exact .inr ⟨value, other, state, mirror, rfl, rfl, matched⟩
    | error reason mirror => exact matched.elim
  | error refusal state =>
    cases right with
    | ok other mirror => exact matched.elim
    | error reason mirror =>
      cases matched
      exact .inl ⟨refusal, state, mirror, rfl, rfl⟩

/-- A value computed by both sides alike, on states that stay related. -/
def Alike (related : σ → τ → Prop) (value other : α) (state : σ) (mirror : τ) : Prop :=
  value = other ∧ related state mirror

/-! Contracts of one computation. A refusal has a postcondition of its own,
because its state is the one the next call sees. -/

def Ensured (post : α → σ → Prop) (refused : ε → σ → Prop) : EStateM.Result ε σ α → Prop
  | .ok value state => post value state
  | .error refusal state => refused refusal state

def Ensures (pre : σ → Prop) (program : EStateM ε σ α)
    (post : α → σ → Prop) (refused : ε → σ → Prop) : Prop :=
  ∀ state, pre state → Ensured post refused (program state)

theorem Ensured.of_ok (contract : Ensured post refused result) (run : result = .ok value state) :
    post value state := by
  rw [run] at contract
  exact contract

theorem Ensured.of_error (contract : Ensured post refused result)
    (run : result = .error refusal state) : refused refusal state := by
  rw [run] at contract
  exact contract

theorem Ensured.bind {post : β → σ → Prop} (head : Ensured between refused (first state))
    (rest : ∀ value after, between value after → Ensured post refused (next value after)) :
    Ensured post refused ((first >>= next) state) := by
  cases run : first state with
  | ok value after =>
    rw [run] at head
    rw [bind_of_ok run]
    exact rest value after head
  | error refusal after =>
    rw [run] at head
    rw [bind_of_error run]
    exact head

/-- The answer of a call that does not touch the state. -/
def answering (answer : Except ε α) : EStateM ε σ α := fun state =>
  match answer with
  | .ok value => .ok value state
  | .error refusal => .error refusal state

theorem Ensured.answering {answer : Except ε α} {post : β → σ → Prop}
    (failed : ∀ refusal, answer = .error refusal → refused refusal state)
    (goes : ∀ value, answer = .ok value → Ensured post refused (next value state)) :
    Ensured post refused ((answering answer >>= next) state) := by
  cases answer with
  | ok value => exact goes value rfl
  | error refusal => exact failed refusal rfl

theorem Ensured.weaken (contract : Ensured stronger refusedStronger result)
    (finish : ∀ value state, stronger value state → post value state)
    (failure : ∀ refusal state, refusedStronger refusal state → refused refusal state) :
    Ensured post refused result := by
  cases result with
  | ok value after => exact finish value after contract
  | error refusal after => exact failure refusal after contract

theorem ensured_and {also : α → σ → Prop} {alsoRefused : ε → σ → Prop}
    (left : Ensured post refused result) (right : Ensured also alsoRefused result) :
    Ensured (fun value state => post value state ∧ also value state)
      (fun refusal state => refused refusal state ∧ alsoRefused refusal state) result := by
  cases result with
  | ok | error => exact ⟨left, right⟩

theorem ensured_run :
    Ensured (fun value state => result = .ok value state) (fun _ _ => True) result := by
  cases result with
  | ok value after => rfl
  | error refusal after => trivial

theorem ensures_bind {post : β → σ → Prop} (head : Ensures pre first between refused)
    (rest : ∀ value, Ensures (between value) (next value) post refused) :
    Ensures pre (first >>= next) post refused :=
  fun state start => (head state start).bind rest

theorem ensures_pure (kept : ∀ state, pre state → post value state) :
    Ensures pre (pure value) post refused :=
  fun state start => kept state start

theorem Ensures.mono {program : EStateM ε σ α} (contract : Ensures pre program stronger refused)
    (finish : ∀ value state, stronger value state → post value state) :
    Ensures pre program post refused :=
  fun state holds => (contract state holds).weaken finish (fun _ _ failed => failed)

end A2aBridge.StatefulRefusal
