import A2aBridge.FlightPrograms

/-!
Rules for reasoning about the operations of a flight: what a section under the mutex may
end in, step by step, and what one journal call can do to the rows of the flight.
-/

namespace A2aBridge.Flights

open AtomicPrograms

abbrev FlightShared := Shared Unit FlightMemory

abbrev FlightRules := Discipline (Call Unit FlightMemory) FlightShared Choice

/-! ### Sections under the mutex -/

/-- The section, entered with this memory, ends in `post`, with the memory it leaves. -/
def Within {α : Type} (rules : FlightRules) (party : Nat)
    (post : Except FlightError α → FlightMemory → FlightShared → Prop) (work : Locked α)
    (memory : FlightMemory) (shared : FlightShared) : Prop :=
  Meets flightService rules party (fun answer shared => post answer.1 answer.2 shared)
    (StateT.run (ExceptT.run work) memory) shared

section

variable {α β : Type} {rules : FlightRules} {party : Nat} {memory : FlightMemory}
  {shared : FlightShared} {post : Except FlightError β → FlightMemory → FlightShared → Prop}

@[simp] theorem within_pure (value : β) :
    Within rules party post (pure value) memory shared ↔ post (.ok value) memory shared :=
  Iff.rfl

@[simp] theorem within_throw (error : FlightError) :
    Within rules party post (throw error) memory shared ↔ post (.error error) memory shared :=
  Iff.rfl

@[simp] theorem within_get (rest : FlightMemory → Locked β) :
    Within rules party post (get >>= rest) memory shared ↔
      Within rules party post (rest memory) memory shared :=
  Iff.rfl

variable {told : Except FlightError PUnit → FlightMemory → FlightShared → Prop}

@[simp] theorem within_set (left : FlightMemory) :
    Within rules party told (set left) memory shared ↔ told (.ok ()) left shared :=
  Iff.rfl

@[simp] theorem within_modify (change : FlightMemory → FlightMemory) :
    Within rules party told (modify change) memory shared ↔ told (.ok ()) (change memory) shared :=
  Iff.rfl

@[simp] theorem within_bind (first : Locked α) (rest : α → Locked β) :
    Within rules party post (first >>= rest) memory shared ↔
      Within rules party (fun answer memory shared =>
        match answer with
        | .ok value => Within rules party post (rest value) memory shared
        | .error error => post (.error error) memory shared) first memory shared := by
  refine (meets_bind (StateT.run (ExceptT.run first) memory) _ shared).trans ?_
  apply iff_of_eq
  congr 1
  funext answer shared
  obtain ⟨reply, left⟩ := answer
  cases reply <;> rfl

@[simp] theorem within_catch (first : Locked β) (handler : FlightError → Locked β) :
    Within rules party post (tryCatch first handler) memory shared ↔
      Within rules party (fun answer memory shared =>
        match answer with
        | .ok value => post (.ok value) memory shared
        | .error error => Within rules party post (handler error) memory shared)
        first memory shared := by
  refine (meets_bind (StateT.run (ExceptT.run first) memory) _ shared).trans ?_
  apply iff_of_eq
  congr 1
  funext answer shared
  obtain ⟨reply, left⟩ := answer
  cases reply <;> rfl

@[simp] theorem within_refuse :
    Within rules party post Flight.refuseTransition memory shared ↔
      post (.error (.transitionRefused memory.state)) memory shared :=
  Iff.rfl

theorem within_when {state : ResourceFlightState} {refusal : Locked β}
    {rest : FlightMemory → Locked β} (refused : Within rules party post refusal memory shared)
    (goes : memory.state = state → Within rules party post (rest memory) memory shared) :
    Within rules party post
      (get >>= fun memory => if memory.state ≠ state then refusal else rest memory)
      memory shared := by
  rw [within_get]
  by_cases there : memory.state = state
  · rw [if_neg (not_not.mpr there)]
    exact goes there
  · rw [if_pos there]
    exact refused

theorem within_call (request : Call Unit FlightMemory) (rest : request.Reply → Locked β) :
    Within rules party post (Locked.call request >>= rest) memory shared ↔
      ∀ later, rules.rely party shared later → rules.inv later →
        ∀ choice, rules.permits party later request choice →
        ∀ after reply, serve party later request choice = some (after, reply) →
          rules.inv after ∧ (∀ other, other ≠ party → rules.rely other later after) ∧
          Within rules party post (rest reply) memory after :=
  Iff.rfl

theorem Within.mono {weaker : Except FlightError β → FlightMemory → FlightShared → Prop}
    {work : Locked β} (ends : Within rules party post work memory shared)
    (weakens : ∀ answer memory shared, post answer memory shared → weaker answer memory shared) :
    Within rules party weaker work memory shared :=
  Meets.mono ends fun answer shared => weakens answer.1 answer.2 shared

end

/-! ### One call -/

section

variable {party : Nat} {shared after : FlightShared} (choice : Choice)

def Flight.rows (flight : Flight) (shared : FlightShared) : List JournalRecord :=
  shared.journal.records flight.id

def Shared.takenBy (shared : FlightShared) (party : Nat) : FlightShared :=
  { shared with holder := Function.update shared.holder () (some party) }

def Shared.givenBack (shared : FlightShared) (memory : FlightMemory) : FlightShared :=
  { shared with
    memory := Function.update shared.memory () memory
    holder := Function.update shared.holder () none }

@[simp] theorem taken_by_holder (party : Nat) :
    (shared.takenBy party).holder () = some party := by
  simp [Shared.takenBy]

@[simp] theorem given_back_holder (memory : FlightMemory) :
    (shared.givenBack memory).holder () = none := by simp [Shared.givenBack]

@[simp] theorem given_back_memory (memory : FlightMemory) :
    (shared.givenBack memory).memory () = memory := by simp [Shared.givenBack]

@[simp] theorem given_back_rows (flight : Flight)
    (memory : FlightMemory) : flight.rows (shared.givenBack memory) = flight.rows shared := rfl

/-- The shared states differ in the journal only, and there in these rows of the flight. -/
structure Wrote (flight : Flight) (shared after : FlightShared) (rows : List JournalRecord) :
    Prop where
  rows : flight.rows after = rows
  memory : after.memory = shared.memory
  holder : after.holder = shared.holder
  published : after.published = shared.published

variable {reply : FlightMemory}

theorem served_lock (served : serve party shared (.lock ()) choice = some (after, reply)) :
    shared.holder () = none ∧ reply = shared.memory () ∧ after = shared.takenBy party := by
  simp only [serve] at served
  split at served
  · rename_i free
    cases served
    exact ⟨free, rfl, rfl⟩
  · cases served

theorem served_unlock {memory : FlightMemory}
    (served : serve party shared (.unlock () memory) choice = some (after, ())) :
    shared.holder () = some party ∧ after = shared.givenBack memory := by
  simp only [serve] at served
  split at served
  · rename_i held
    cases served
    exact ⟨held, rfl⟩
  · cases served

theorem served_await (party : Nat) {ready : FlightMemory → Bool}
    (served : serve party shared (.await () ready) choice = some (after, reply)) :
    shared.holder () = none ∧ reply = shared.memory () ∧ after = shared := by
  simp only [serve] at served
  split at served
  · rename_i free
    cases served
    exact ⟨free.1, rfl, rfl⟩
  · cases served

theorem served_records {flight : Flight} {reply : Except JournalError (List JournalRecord)}
    (served : serve party shared (.records flight.id) choice = some (after, reply)) :
    after = shared ∧ (∀ rows, reply = .ok rows → rows = flight.rows shared) := by
  simp only [serve] at served
  split at served
  · cases served
    exact ⟨rfl, fun rows read => by cases read⟩
  · cases served
    refine ⟨rfl, fun rows read => ?_⟩
    unfold InMemoryJournal.readRecords at read
    split at read <;> cases read
    rfl

theorem Wrote.pushed {flight : Flight} {record : JournalRecord}
    {settledBy : ResourceFlightId → Option Nat} {creating : Nat → Option ReservationRecord}
    (left : after = { shared with
      journal := shared.journal.push flight.id record
      settledBy := settledBy
      creating := creating }) : Wrote flight shared after (flight.rows shared ++ [record]) := by
  subst left
  exact ⟨by simp [Flight.rows, InMemoryJournal.push_records], rfl, rfl, rfl⟩

end

end A2aBridge.Flights
