import A2aBridge.FlightKeeping

/-!
The slots that the reservation of a process lifecycle sets aside are drawn by the rows of
that lifecycle and by the detachment of the owner that spawned the process, which is known
by the name of its node. What a flight still owes to its lifecycle is bounded by the slots
outstanding as long as such a detachment is journaled once. Any node of that name draws, so
further ones leave the settlement without a slot.
-/

namespace A2aBridge.Flights

open AtomicPrograms InMemoryJournal JournalEvent

/-! ### Rows that draw -/

variable {event : JournalEvent}

namespace JournalEvent

def transfers : JournalEvent → Bool
  | guardTransferred _ _ => true
  | _ => false

def detachesSpawner : JournalEvent → Bool
  | ownerDetached owner => owner.nodeId == "process-spawn"
  | _ => false

theorem consumed_draws {before : Nat} (draws : event.draws = true) (left : 0 < before) :
    event.consumed before = 1 := by
  unfold JournalEvent.draws at draws
  have present : (before != 0) = true := by simpa using Nat.ne_of_gt left
  simp [consumed, present, draws]

theorem consumed_plain (before : Nat) (plain : event.draws = false) :
    event.consumed before = 0 := by
  unfold JournalEvent.draws at plain
  rw [Bool.or_eq_false_iff] at plain
  simp [consumed, plain.1, plain.2]

end JournalEvent

variable {slots : Nat} {row : JournalRecord} {left : FlightMemory} {state : ResourceFlightState}
  {α : Type}

variable {cap : UInt64} {rows : List JournalRecord}

theorem Accounted.drawn (accounted : Accounted cap.toNat rows slots) (record : JournalRecord)
    (unsettled : settledResult rows = none)
    (schema : record.schemaVersion = RESOURCE_FLIGHT_JOURNAL_SCHEMA_V1)
    (sequence : record.sequence = sequenceOf (rows.length + 1)) (draws : record.event.draws = true)
    (reserves : record.event.reserved = 0) (left : 0 < slots) :
    admissionCheck rows cap record = .ok () ∧
      Accounted cap.toNat (rows ++ [record]) (slots - 1) := by
  have capFits : cap.toNat < 2 ^ 64 := cap.toNat_lt
  have room := accounted.room
  have after : slotsAfter slots record.event = some (slots - 1) := by
    rw [slots_after_some, reserves, consumed_draws draws left]
    simp only [UInt8.toNat_zero]
    omega
  have checked : admissionCheck rows cap record = .ok () := by
    refine (accounted.admits_iff record).mpr ⟨schema, ?_, fun _ => left, slots - 1, after, ?_⟩
    · rw [sequence]
      unfold sequenceOf U64_MAX
      omega
    · omega
  obtain ⟨other, found, next⟩ := accounted.push unsettled checked
  rw [after] at found
  cases found
  exact ⟨checked, next⟩

/-! ### What a lifecycle still owes -/

section

variable (kind : JournalEvent → Bool) (recent : List JournalRecord)

/-- The rows of a kind that are still to come, where one may. -/
def remaining : Nat :=
  if recent.any fun row => kind row.event then 0 else 1

/-- The draws that may follow these rows, in this state, as long as each kind comes once. -/
def owed : ResourceFlightState → Nat
  | .opened | .admissionClosed =>
    remaining JournalEvent.captures recent + remaining JournalEvent.detachesSpawner recent + 2 +
      (remaining JournalEvent.observes recent + remaining JournalEvent.transfers recent + 1)
  | .intentJournaled =>
    1 + (remaining JournalEvent.observes recent + remaining JournalEvent.transfers recent + 1)
  | .signaling =>
    remaining JournalEvent.observes recent + remaining JournalEvent.transfers recent + 1
  | .settled _ => 0

def Once (event : JournalEvent) : Prop :=
  kind event = true → ∀ row ∈ recent, kind row.event = false

theorem remaining_append :
    remaining kind (recent ++ [row]) =
      if kind row.event = true then 0 else remaining kind recent := by
  unfold remaining
  by_cases here : kind row.event = true <;> simp [here]

theorem remaining_append_le (row : JournalRecord) :
    remaining kind (recent ++ [row]) ≤ remaining kind recent := by
  rw [remaining_append]
  split
  · exact Nat.zero_le _
  · exact Nat.le_refl _

theorem Once.remaining {kind : JournalEvent → Bool} {recent : List JournalRecord}
    (once : Once kind recent row.event) (here : kind row.event = true) :
    remaining kind (recent ++ [row]) + 1 = remaining kind recent := by
  have none_yet : (recent.any fun row => kind row.event) = false := by
    rw [List.any_eq_false]
    intro other member
    rw [once here other member]
    exact nofun
  rw [remaining_append, if_pos here, Flights.remaining, none_yet]
  rfl

theorem owed_append_le : owed (recent ++ [row]) state ≤ owed recent state := by
  have captures := remaining_append_le captures recent row
  have detaches := remaining_append_le detachesSpawner recent row
  have observes := remaining_append_le observes recent row
  have transfers := remaining_append_le transfers recent row
  cases state <;> simp only [owed] <;> omega

/-! ### The discipline -/

def JournalError.starves : JournalError → Bool
  | .full | .accounting => true
  | _ => false

/-- A refusal for want of room or of a slot. -/
def FlightError.starves : FlightError → Bool
  | .journal error => error.starves
  | .terminalRefusal cause => cause.starves
  | _ => false

end

variable (flight : Flight) (base : Nat)

/-- The rows since the lifecycle was reserved. -/
def Flight.recent (shared : FlightShared) : List JournalRecord := (flight.rows shared).drop base

/-- Captures, observations and transfers come at most once each, the terminal row is written
by the live flight, and what goes wrong with the journal is neither its room nor its
accounts. -/
def Orderly (party : Nat) (shared : FlightShared) (request : Call Unit FlightMemory)
    (choice : Choice) : Prop :=
  (∀ error, choice.fault = some error → error.starves = false) ∧
  match request with
  | .append _ record =>
    Once JournalEvent.captures (flight.recent base shared) record.event ∧
    Once JournalEvent.observes (flight.recent base shared) record.event ∧
    Once JournalEvent.transfers (flight.recent base shared) record.event
  | .appendTerminal _ _ => shared.holder () = some party
  | _ => True

/-- An owner on a node of the name "process-spawn" is detached at most once. -/
def DetachesSpawnerOnce (shared : FlightShared) (request : Call Unit FlightMemory) : Prop :=
  match request with
  | .append _ record => Once JournalEvent.detachesSpawner (flight.recent base shared) record.event
  | _ => True

/-- The slots outstanding cover what the lifecycle owes. -/
structure Provided (memory : FlightMemory) (shared : FlightShared) : Prop where
  slots : ∃ slots, Accounted shared.journal.cap.toNat (flight.rows shared) slots ∧
    owed (flight.recent base shared) memory.state ≤ slots
  sequence : memory.sequence = sequenceOf ((flight.rows shared).length + 1)
  reserved : memory.processLifecycleReserved = true
  refusal : ∀ cause, memory.refusal = some cause → cause.starves = false
  since : base ≤ (flight.rows shared).length
  unsettled : (∀ result, memory.state ≠ .settled result) → settledResult (flight.rows shared) = none

/-- Others neither give a party the mutex nor take it, and while it has the mutex they leave
the journal alone. -/
structure Sheltered (party : Nat) (shared later : FlightShared) : Prop where
  holder : later.holder () = some party ↔ shared.holder () = some party
  journal : shared.holder () = some party → later.journal = shared.journal

def lifecycleRules : FlightRules where
  permits party shared request choice :=
    Orderly flight base party shared request choice ∧
    DetachesSpawnerOnce flight base shared request
  inv shared := shared.holder () = none → Provided flight base (shared.memory ()) shared
  rely := Sheltered

variable {flight base} {party other : Nat} {shared later after : FlightShared}
  {memory : FlightMemory}

theorem Sheltered.refl : Sheltered party shared shared :=
  ⟨Iff.rfl, fun _ => rfl⟩

theorem Sheltered.trans {middle : FlightShared} (first : Sheltered party shared middle)
    (second : Sheltered party middle later) : Sheltered party shared later :=
  ⟨second.holder.trans first.holder, fun held =>
    (second.journal (first.holder.mpr held)).trans (first.journal held)⟩

theorem Sheltered.held (held : shared.holder () = some party) (still : after.holder () = some party)
    (different : other ≠ party) : Sheltered other shared after := by
  have apart : some party ≠ some other := fun same => different (Option.some.inj same).symm
  refine ⟨?_, fun holds => absurd (held.symm.trans holds) apart⟩
  rw [held, still]

section

variable (provided : Provided flight base memory shared)

include provided

theorem Provided.same (journal : later.journal = shared.journal) :
    Provided flight base memory later := by
  have rows : flight.rows later = flight.rows shared := by rw [Flight.rows, journal, Flight.rows]
  have recent : flight.recent base later = flight.recent base shared := by
    rw [Flight.recent, rows, Flight.recent]
  refine ⟨?_, ?_, provided.reserved, provided.refusal, ?_, ?_⟩
  · rw [journal, rows, recent]
    exact provided.slots
  · rw [rows]
    exact provided.sequence
  · rw [rows]
    exact provided.since
  · rw [rows]
    exact provided.unsettled

variable (sequence : left.sequence = memory.sequence)
  (reserved : left.processLifecycleReserved = memory.processLifecycleReserved)
  (refusal : left.refusal = memory.refusal)

include sequence reserved refusal

theorem Provided.update (state : left.state = memory.state) : Provided flight base left shared := by
  refine ⟨?_, sequence.trans provided.sequence, reserved.trans provided.reserved, ?_,
    provided.since, ?_⟩
  · rw [state]
    exact provided.slots
  · rw [refusal]
    exact provided.refusal
  · rw [state]
    exact provided.unsettled

theorem Provided.enter
    (less : owed (flight.recent base shared) left.state ≤
      owed (flight.recent base shared) memory.state)
    (open_ : ∀ result, memory.state ≠ .settled result) : Provided flight base left shared := by
  obtain ⟨slots, accounted, enough⟩ := provided.slots
  refine ⟨⟨slots, accounted, Nat.le_trans less enough⟩, sequence.trans provided.sequence,
    reserved.trans provided.reserved, ?_, provided.since, fun _ => provided.unsettled open_⟩
  rw [refusal]
  exact provided.refusal

end

/-! ### Sections under the mutex -/

/-- The party holds the mutex, and the memory it has in hand is provided for. -/
structure Entered (flight : Flight) (base party : Nat) (memory : FlightMemory)
    (shared : FlightShared) : Prop where
  held : shared.holder () = some party
  provided : Provided flight base memory shared

theorem Entered.kept (entered : Entered flight base party memory shared)
    (keeps : Sheltered party shared later) : Entered flight base party memory later :=
  ⟨keeps.holder.mpr entered.held, entered.provided.same (keeps.journal entered.held)⟩

theorem Entered.inv (entered : Entered flight base party memory shared)
    (holder : after.holder = shared.holder) : (lifecycleRules flight base).inv after := by
  intro free
  rw [holder, entered.held] at free
  cases free

/-- A row of this event is the first of its kind since the lifecycle was reserved. -/
structure First (recent : List JournalRecord) (event : JournalEvent) : Prop where
  captures : Once JournalEvent.captures recent event
  observes : Once JournalEvent.observes recent event
  transfers : Once JournalEvent.transfers recent event
  detaches : Once JournalEvent.detachesSpawner recent event

/-- One row was written; the slots it left, and the one it drew, cover what was owed. -/
structure Written (flight : Flight) (base : Nat) (row : JournalRecord)
    (state : ResourceFlightState) (shared after : FlightShared) : Prop where
  rows : flight.rows after = flight.rows shared ++ [row]
  slots : ∃ slots, Accounted after.journal.cap.toNat (flight.rows after) slots ∧
    owed (flight.recent base shared) state ≤ slots + row.event.draws.toNat
  first : First (flight.recent base shared) row.event

theorem Written.earlier (same : flight.rows later = flight.rows shared)
    (written : Written flight base row state later after) :
    Written flight base row state shared after := by
  have recent : flight.recent base later = flight.recent base shared := by
    rw [Flight.recent, same, Flight.recent]
  exact ⟨same ▸ written.rows, recent ▸ written.slots, recent ▸ written.first⟩

theorem sequence_of_succ (count : Nat) :
    saturatingAdd (sequenceOf count) 1 = sequenceOf (count + 1) := by
  unfold saturatingAdd sequenceOf U64_MAX
  omega

theorem Written.recent (written : Written flight base row state shared after)
    (since : base ≤ (flight.rows shared).length) :
    flight.recent base after = flight.recent base shared ++ [row] := by
  rw [Flight.recent, written.rows, List.drop_append_of_le_length since, Flight.recent]

theorem Written.provided (written : Written flight base row memory.state shared after)
    (provided : Provided flight base memory shared)
    (open_ : ∀ result, memory.state ≠ .settled result) (other : row.settledResult = none)
    (paid : owed (flight.recent base shared ++ [row]) left.state + row.event.draws.toNat ≤
      owed (flight.recent base shared) memory.state)
    (sequence : left.sequence = saturatingAdd memory.sequence 1)
    (reserved : left.processLifecycleReserved = memory.processLifecycleReserved)
    (refusal : left.refusal = memory.refusal) : Provided flight base left after := by
  obtain ⟨slots, accounted, enough⟩ := written.slots
  refine ⟨⟨slots, accounted, ?_⟩, ?_, reserved.trans provided.reserved, ?_, ?_, ?_⟩
  · rw [written.recent provided.since]
    omega
  · rw [sequence, provided.sequence, sequence_of_succ, written.rows]
    simp
  · rw [refusal]
    exact provided.refusal
  · rw [written.rows, List.length_append]
    exact Nat.le_add_right_of_le provided.since
  · intro _
    rw [written.rows, settled_result_append_one, other, provided.unsettled open_]
    rfl

/-- The row a flight with this memory writes next. -/
abbrev FlightMemory.rowOf (memory : FlightMemory) (event : JournalEvent) : JournalRecord :=
  ⟨RESOURCE_FLIGHT_JOURNAL_SCHEMA_V1, memory.sequence, event⟩

section

variable (open_ : ∀ result, memory.state ≠ .settled result) (reserves : event.reserved = 0)

include open_ reserves

theorem Provided.wrote (provided : Provided flight base memory shared)
    (owes : event.draws = true → 0 < owed (flight.recent base shared) memory.state)
    (first : First (flight.recent base shared) event)
    (pushed : after.journal = shared.journal.push flight.id (memory.rowOf event))
    (checked : admissionCheck (flight.rows shared) shared.journal.cap (memory.rowOf event) = .ok ()) :
    Written flight base (memory.rowOf event) memory.state shared after := by
  have rows : flight.rows after = flight.rows shared ++ [memory.rowOf event] := by
    rw [Flight.rows, pushed, push_records, if_pos rfl, Flight.rows]
  obtain ⟨slots, accounted, enough⟩ := provided.slots
  refine ⟨rows, ?_, first⟩
  rw [rows, pushed]
  cases draws : event.draws with
  | true =>
    have some_left : 0 < slots := Nat.lt_of_lt_of_le (owes draws) enough
    refine ⟨slots - 1, (accounted.drawn _ (provided.unsettled open_) rfl provided.sequence draws
      reserves some_left).2, ?_⟩
    simp only [Bool.toNat_true]
    omega
  | false =>
    obtain ⟨other, found, next⟩ := accounted.push (provided.unsettled open_) checked
    obtain ⟨-, -, rfl⟩ := slots_after_some.mp found
    rw [reserves, consumed_plain slots draws] at next
    exact ⟨slots, next, enough⟩

theorem Provided.admits (provided : Provided flight base memory shared)
    (draws : event.draws = true) (owes : 0 < owed (flight.recent base shared) memory.state) :
    (shared.journal.append flight.id (memory.rowOf event)).1 = .ok () := by
  obtain ⟨slots, accounted, enough⟩ := provided.slots
  have checked := (accounted.drawn (memory.rowOf event) (provided.unsettled open_) rfl
    provided.sequence draws reserves (Nat.lt_of_lt_of_le owes enough)).1
  have unsettled := provided.unsettled open_
  unfold Flight.rows at checked unsettled
  simp [InMemoryJournal.append, checked, unsettled]

theorem within_write (entered : Entered flight base party memory shared)
    (owes : event.draws = true → 0 < owed (flight.recent base shared) memory.state) :
    Within (lifecycleRules flight base) party
      (fun answer left after => after.holder () = some party ∧
        match answer with
        | .ok _ => left = { memory with sequence := saturatingAdd memory.sequence 1 } ∧
          Written flight base (memory.rowOf event) memory.state shared after
        | .error error => left = memory ∧ after.journal = shared.journal ∧
          (event.draws = true → error.starves = false))
      (flight.append event) memory shared := by
  unfold Flight.append
  rw [within_get]
  refine (within_call _ _).mpr ?_
  intro later keeps _ choice permitted after reply served
  have same := keeps.journal entered.held
  have still := entered.kept keeps
  have rows : flight.rows later = flight.rows shared := by rw [Flight.rows, same, Flight.rows]
  have recent : flight.recent base later = flight.recent base shared := by
    rw [Flight.recent, rows, Flight.recent]
  rw [← recent] at owes
  obtain ⟨⟨faults, captures, observes, transfers⟩, detaches⟩ := permitted
  simp only [serve] at served
  split at served
  · rename_i error fault
    cases served
    refine ⟨still.inv rfl, fun _ _ => Sheltered.refl, ?_⟩
    exact (within_throw _).mpr ⟨still.held, rfl, same, fun _ => faults error fault⟩
  · obtain ⟨taken, -, checked⟩ | ⟨error, refused⟩ := append_effect later.journal flight.id
      (memory.rowOf event)
    · rw [Shared.append, taken] at served
      cases served
      refine ⟨still.inv rfl, fun other different => .held still.held still.held different, ?_⟩
      refine (within_set _).mpr ⟨still.held, rfl, ?_⟩
      exact Written.earlier rows (still.provided.wrote open_ reserves owes
        ⟨captures, observes, transfers, detaches⟩ rfl checked)
    · rw [Shared.append, refused] at served
      cases served
      refine ⟨still.inv rfl, fun _ _ => Sheltered.refl, ?_⟩
      refine (within_throw _).mpr ⟨still.held, rfl, same, fun draws => ?_⟩
      -- the journal takes every row that is owed
      have taken := still.provided.admits open_ reserves draws (owes draws)
      rw [refused] at taken
      cases taken

end

theorem First.paid {recent : List JournalRecord} (first : First recent row.event)
    (kind : row.event.draws = true →
      (state = .opened ∧ (row.event.captures = true ∨ row.event.detachesSpawner = true)) ∨
      (state = .signaling ∧ (row.event.observes = true ∨ row.event.transfers = true))) :
    owed (recent ++ [row]) state + row.event.draws.toNat ≤ owed recent state := by
  have captures := remaining_append_le JournalEvent.captures recent row
  have detaches := remaining_append_le detachesSpawner recent row
  have observes := remaining_append_le JournalEvent.observes recent row
  have transfers := remaining_append_le JournalEvent.transfers recent row
  cases draws : row.event.draws with
  | false => exact owed_append_le recent
  | true =>
    simp only [Bool.toNat_true]
    rcases kind draws with ⟨rfl, here | here⟩ | ⟨rfl, here | here⟩
    · have paid := first.captures.remaining here
      simp only [owed]
      omega
    · have paid := first.detaches.remaining here
      simp only [owed]
      omega
    · have paid := first.observes.remaining here
      simp only [owed]
      omega
    · have paid := first.transfers.remaining here
      simp only [owed]
      omega

theorem Fits.reserves (fits : Fits memory event) (reserved : memory.processLifecycleReserved = true) :
    event.reserved = 0 := by
  cases fits with
  | reservation _ unreserved => exact absurd reserved unreserved
  | intent closed intent =>
    rw [reserved, Bool.true_or, if_pos rfl]
    rfl
  | @capture event _ captures => cases event <;> first | rfl | cases captures
  | @observation event _ observes => cases event <;> first | rfl | cases observes
  | _ => rfl

theorem Fits.owes {recent : List JournalRecord} (fits : Fits memory event)
    (draws : event.draws = true) : 0 < owed recent memory.state := by
  cases fits with
  | attachment | discovery | reservation => cases draws
  | detachment state | capture state | intent state | dispatch state | observation state
  | transfer state =>
    rw [state]
    exact Nat.succ_pos _

theorem Provided.applied (provided : Provided flight base memory shared) (fits : Fits memory event)
    (written : Written flight base (memory.rowOf event) memory.state shared after) :
    Provided flight base (event.applied { memory with
      sequence := saturatingAdd memory.sequence 1 }) after := by
  have observes := remaining_append_le observes (flight.recent base shared) (memory.rowOf event)
  have transfers := remaining_append_le transfers (flight.recent base shared) (memory.rowOf event)
  cases fits with
  | attachment opened owner =>
    exact written.provided provided (by simp [opened]) rfl (owed_append_le _) rfl rfl rfl
  | detachment opened owner =>
    exact written.provided provided (by simp [opened]) rfl
      (written.first.paid fun draws => .inl ⟨opened, .inr draws⟩) rfl rfl rfl
  | reservation _ unreserved => exact absurd provided.reserved unreserved
  | @capture event opened captures =>
    have paid := written.first.paid fun _ => .inl ⟨opened, .inl captures⟩
    cases event with
    | processTreeCaptured | containerIdentityCaptured | remoteRequestIdentityCaptured
    | processBindingFailed =>
      exact written.provided provided (by simp [opened]) rfl paid rfl rfl rfl
    | _ => cases captures
  | intent closed intent =>
    refine written.provided provided (by simp [closed]) rfl ?_ rfl rfl rfl
    -- the intent's own slot is paid, and what may precede it is owed no more
    rw [closed]
    change owed _ .intentJournaled + 1 ≤ owed _ .admissionClosed
    simp only [owed]
    omega
  | discovery open_ owner =>
    exact written.provided provided open_ rfl (owed_append_le _) rfl rfl rfl
  | dispatch intended =>
    refine written.provided provided (by simp [intended]) rfl ?_ rfl rfl rfl
    rw [intended]
    change owed _ .signaling + 1 ≤ owed _ .intentJournaled
    simp only [owed]
    omega
  | @observation event signaling observes =>
    have paid := written.first.paid fun _ => .inr ⟨signaling, .inl observes⟩
    cases event with
    | processSignalsObserved | containerRemovalObserved =>
      exact written.provided provided (by simp [signaling]) rfl paid rfl rfl rfl
    | _ => cases observes
  | transfer signaling owner deadlineMs =>
    exact written.provided provided (by simp [signaling]) rfl
      (written.first.paid fun _ => .inr ⟨signaling, .inr rfl⟩) rfl rfl rfl

section

variable (entered : Entered flight base party memory shared)

include entered

theorem Entered.refuse {cause : JournalError} (starves : cause.starves = false) :
    Entered flight base party { memory with refusal := some cause } shared := by
  have provided := entered.provided
  refine ⟨entered.held, provided.slots, provided.sequence, provided.reserved, ?_, provided.since,
    provided.unsettled⟩
  rintro _ ⟨⟩
  exact starves

end

/-! ### Every operation -/

/-- A party stands outside the mutex or is provided for inside. -/
def lifecycleStanding (flight : Flight) (base party : Nat) : Standing where
  left _ := Entered flight base party
  leaves _ shared := shared.holder () ≠ some party
  ends _ shared := shared.holder () ≠ some party
  won _ _ := True
  fair error := error.starves = false

theorem meets_aside {rest : Call.Reply request → FlightFlow α} {post : α → FlightShared → Prop}
    (outside : shared.holder () ≠ some party) (quiet : ∀ (shared : FlightShared) choice after reply,
      serve party shared request choice = some (after, reply) →
      after.journal = shared.journal ∧ after.holder = shared.holder ∧
        after.memory = shared.memory) (goes : ∀ reply after, after.holder () ≠ some party →
      Meets flightService (lifecycleRules flight base) party post (rest reply) after) :
    Meets flightService (lifecycleRules flight base) party post (Routine.call request >>= rest)
      shared := by
  intro later keeps inv choice _ after reply served
  obtain ⟨journal, holder, memory⟩ := quiet later choice after reply served
  refine ⟨?_, fun other _ => ⟨by rw [holder], fun _ => journal⟩, goes reply after ?_⟩
  · intro free
    rw [holder] at free
    rw [memory]
    exact (inv free).same journal
  · rw [holder]
    exact fun held => outside (keeps.holder.mp held)

theorem meets_aside_publish_each (id : ResourceFlightId) (result : ResourceActionResult)
    (collateral : CollateralDisposition) (count : Nat) (recipients : List ResourceFlightOwner)
    (outside : shared.holder () ≠ some party) :
    Meets flightService (lifecycleRules flight base) party
      (fun _ after => after.holder () ≠ some party)
      (publishEach id result collateral count recipients) shared := by
  induction recipients generalizing shared with
  | nil => exact outside
  | cons owner rest ih =>
    refine meets_aside outside ?_ fun _ _ outside => ih outside
    rintro shared choice after reply ⟨⟩
    exact ⟨rfl, rfl, rfl⟩

theorem lifecycle_unlocks : (lifecycleStanding flight base party).Unlocks
    (lifecycleRules flight base) party := by
  intro α post rest _ memory shared entered goes later keeps inv choice _ after _ served
  have still := entered.kept keeps
  obtain ⟨held, rfl⟩ := served_unlock choice served
  refine ⟨fun _ => ?_, ?_, goes _ (by simp [lifecycleStanding])⟩
  · exact still.provided.same rfl
  · intro other different
    have apart : some party ≠ some other := fun same => different (Option.some.inj same).symm
    refine ⟨?_, fun holds => absurd (held.symm.trans holds) apart⟩
    rw [held, given_back_holder]
    exact ⟨nofun, fun same => absurd same apart⟩

theorem lifecycle_recovers :
    (lifecycleStanding flight base party).Recovers flight (lifecycleRules flight base)
      party := by
  -- Without the mutex nobody is permitted to write the terminal row.
  intro durationMs shared outside
  refine meets_aside outside ?_ fun reply after outside => ?_
  · intro shared choice after reply served
    obtain ⟨rfl, -⟩ := @served_records party _ _ choice flight _ served
    exact ⟨rfl, rfl, rfl⟩
  · cases reply with
    | error error => exact outside
    | ok rows =>
      dsimp only
      split
      · exact outside
      · split
        · intro later keeps _ choice permitted
          exact absurd (keeps.holder.mp permitted.1.2) outside
        · exact outside

theorem lifecycle_appends :
    (lifecycleStanding flight base party).Appends flight (lifecycleRules flight base)
      party := by
  intro event memory shared entered fits _
  refine (within_write fits.unsettled (fits.reserves entered.provided.reserved) entered
    fits.owes).mono ?_
  rintro (error | _) left after ⟨held, rest⟩
  · obtain ⟨rfl, same, fed⟩ := rest
    exact ⟨⟨held, entered.provided.same same⟩, fed, rfl⟩
  · obtain ⟨rfl, written⟩ := rest
    exact ⟨held, entered.provided.applied fits written⟩

theorem lifecycle_adopts :
    (lifecycleStanding flight base party).Adopts flight (lifecycleRules flight base)
      party := by
  intro memory shared entered
  refine (within_call _ _).mpr ?_
  intro later keeps inv choice permitted after reply served
  have still := entered.kept keeps
  simp only [serve] at served
  split at served
  · rename_i error fault
    cases served
    have starves := permitted.1.1 error fault
    exact ⟨inv, fun _ _ => Sheltered.refl, still.refuse starves, starves⟩
  · obtain ⟨slots, accounted, -⟩ := still.provided.slots
    have read : later.journal.readRecords flight.id = .ok (flight.rows later) := by
      have replayed := accounted.replayed
      unfold Flight.rows at replayed
      simp [InMemoryJournal.readRecords, replayed, Flight.rows]
    rw [read] at served
    cases served
    refine ⟨inv, fun _ _ => Sheltered.refl, ?_⟩
    dsimp only
    split
    · exact ⟨rfl, still⟩
    · exact ⟨still.held, ⟨slots, accounted, Nat.zero_le _⟩, rfl, still.provided.reserved,
        still.provided.refusal, still.provided.since, fun unsettled => absurd rfl (unsettled _)⟩

theorem lifecycle_terminates :
    (lifecycleStanding flight base party).Terminates flight (lifecycleRules flight base)
      party := by
  -- The slot of the terminal row is there, so it is written unless the journal fails.
  intro post rest proposed memory shared entered signaling appended _ failed
  refine (within_call _ _).mpr ?_
  intro later keeps inv choice permitted after reply served
  have still := entered.kept keeps
  simp only [serve] at served
  split at served
  · rename_i error fault
    cases served
    have starves := permitted.1.1 error fault
    exact ⟨inv, fun _ _ => Sheltered.refl,
      failed error _ (still.refuse starves) starves⟩
  · have provided := still.provided
    have unsettled := provided.unsettled (by simp [signaling])
    obtain ⟨slots, accounted, enough⟩ := provided.slots
    have left : 0 < slots := by
      rw [signaling] at enough
      exact Nat.lt_of_lt_of_le (Nat.succ_pos _) enough
    obtain ⟨checked, next⟩ := accounted.drawn (terminalRecord (flight.rows later) proposed)
      unsettled rfl rfl rfl rfl left
    have taken : later.journal.appendTerminal flight.id proposed =
        (.ok (.appended (flight.rows later ++ [terminalRecord (flight.rows later) proposed])),
          later.journal.push flight.id (terminalRecord (flight.rows later) proposed)) := by
      unfold Flight.rows at unsettled checked ⊢
      simp [InMemoryJournal.appendTerminal, unsettled, checked]
    rw [Shared.appendTerminal, taken] at served
    cases served
    refine ⟨still.inv rfl, fun other different => .held still.held still.held different,
      appended _ _ ?_⟩
    have rows : flight.rows { later with
        journal := later.journal.push flight.id (terminalRecord (flight.rows later) proposed)
        settledBy := Function.update later.settledBy flight.id (some party)
        creating := later.wroteRow party flight.id } =
        flight.rows later ++ [terminalRecord (flight.rows later) proposed] := by
      rw [Flight.rows, push_records, if_pos rfl, Flight.rows]
    refine ⟨still.held, ⟨slots - 1, ?_, Nat.zero_le _⟩, ?_, provided.reserved, provided.refusal, ?_,
      fun open_ => absurd rfl (open_ proposed)⟩
    · rw [rows]
      exact next
    · rw [provided.sequence, sequence_of_succ, rows, List.length_append]
      rfl
    · rw [rows, List.length_append]
      exact Nat.le_add_right_of_le provided.since

theorem lifecycle_keeping (flight : Flight) (base party : Nat) :
    Keeping flight (lifecycleRules flight base) party (lifecycleStanding flight base party) where
  lock := by
    intro α post rest shared _ goes later keeps inv choice _ after reply served
    obtain ⟨free, rfl, rfl⟩ := served_lock choice served
    refine ⟨by simp [lifecycleRules], ?_, goes later ⟨by simp, (inv free).same rfl⟩⟩
    intro other different
    refine ⟨by simp [free, Ne.symm different], fun held => ?_⟩
    rw [free] at held
    cases held
  unlock := lifecycle_unlocks
  elapsed := by
    intro α post rest shared outside goes
    refine meets_aside outside ?_ goes
    rintro shared choice after reply ⟨⟩
    exact ⟨rfl, rfl, rfl⟩
  await := by
    intro α post ready rest shared outside goes
    refine meets_aside outside ?_ fun memory after outside => goes memory after outside fun _ _ => outside
    intro shared choice after reply served
    obtain ⟨-, -, rfl⟩ := served_await choice party served
    exact ⟨rfl, rfl, rfl⟩
  recover := lifecycle_recovers
  tell := fun outside =>
    (meets_aside_publish_each _ _ _ _ _ outside).mono fun _ _ outside => ⟨outside, fun _ => trivial⟩
  append := lifecycle_appends
  adopt := lifecycle_adopts
  terminal := lifecycle_terminates
  update := fun entered _ _ => ⟨entered.held, entered.provided.update rfl rfl rfl rfl⟩
  close := by
    rintro memory shared state entered opened (rfl | rfl)
    · refine ⟨entered.held, entered.provided.enter rfl rfl rfl ?_ (by simp [opened])⟩
      rw [opened]
      exact Nat.le_refl _
    · refine ⟨entered.held, entered.provided.enter rfl rfl rfl ?_ (by simp [opened])⟩
      rw [opened]
      simp only [owed]
      omega
  signal := by
    rintro memory shared entered (closed | intended)
    · refine ⟨entered.held, entered.provided.enter rfl rfl rfl ?_ (by simp [closed])⟩
      rw [closed]
      simp only [owed]
      omega
    · refine ⟨entered.held, entered.provided.enter rfl rfl rfl ?_ (by simp [intended])⟩
      rw [intended]
      simp only [owed]
      omega
  settled := fun entered _ => entered
  forget := id
  found := id
  left_durable := id
  silent := id
  endured := id
  ended := id
  refused := fun entered refused => entered.provided.refusal _ refused
  unjournaled := by
    intro error unjournaled
    cases error with
    | journal | terminalRefusal => cases unjournaled
    | _ => rfl

def FlightAnswer.starved : FlightAnswer → Bool
  | refused error => error.starves
  | _ => false

theorem Report.fed {op : FlightOp} {answer : FlightAnswer}
    (report : Report flight (lifecycleStanding flight base party) op answer shared)
    (lifecycle : op.lifecycle = true) : answer.starved = false := by
  cases answer with
  | refused error => exact report.fair lifecycle error rfl
  | _ => rfl

def lifecycleContract (flight : Flight) (base : Nat) :
    Contract flightService flight.body (lifecycleRules flight base) where
  fresh party shared := shared.holder () ≠ some party
  post party op answer shared :=
    shared.holder () ≠ some party ∧ (op.lifecycle = true → answer.starved = false)
  rely_refl := fun _ _ => Sheltered.refl
  rely_trans := fun _ _ _ _ first second => first.trans second
  fresh_kept := fun _ _ _ outside keeps _ held => outside (keeps.holder.mp held)
  post_kept := fun _ _ _ _ _ there keeps _ =>
    ⟨fun held => there.1 (keeps.holder.mp held), there.2⟩
  stops := fun _ _ inv => ⟨inv, fun _ _ => Sheltered.refl⟩
  starts := fun party op _ _ outside =>
    ((lifecycle_keeping flight base party).body op outside).mono fun _ _ report =>
      ⟨report.ended, report.fed⟩

/-! ### Whole runs -/

/-- The flight's lifecycle has just been reserved: that is its last row, and the memory of
the flight, which nobody is at, agrees with its rows. -/
structure Reserved (flight : Flight) (shared : FlightShared) : Prop where
  free : shared.holder () = none
  opened : (shared.memory ()).state = .opened
  reserved : (shared.memory ()).processLifecycleReserved = true
  unrefused : (shared.memory ()).refusal = none
  sequence : (shared.memory ()).sequence = sequenceOf ((flight.rows shared).length + 1)
  last : ∃ earlier row, flight.rows shared = earlier ++ [row] ∧
    row.event = .processLifecycleReserved PROCESS_LIFECYCLE_SLOTS
  accounted : ∃ slots, Accounted shared.journal.cap.toNat (flight.rows shared) slots
  unsettled : settledResult (flight.rows shared) = none

theorem outstanding_last {earlier : List JournalRecord}
    (replayed : outstanding (earlier ++ [row]) = .ok slots) :
    ∃ before, slotsAfter before row.event = some slots := by
  rw [outstanding, replay_rows_append] at replayed
  split at replayed
  · cases replayed
  · rename_i before _
    simp only [replayRows] at replayed
    split at replayed
    · cases replayed
    · rename_i after read
      cases replayed
      exact ⟨before, (replay_row_ok.mp read).slots⟩

theorem Reserved.provided (reserved : Reserved flight shared) :
    Provided flight (flight.rows shared).length (shared.memory ()) shared := by
  obtain ⟨slots, accounted⟩ := reserved.accounted
  obtain ⟨earlier, row, rows, event⟩ := reserved.last
  obtain ⟨before, left⟩ := outstanding_last (rows ▸ accounted.replayed)
  obtain ⟨-, -, enough⟩ := slots_after_some.mp left
  have seven : 7 ≤ slots := by
    rw [event, consumed_plain before rfl] at enough
    have reserves : (processLifecycleReserved PROCESS_LIFECYCLE_SLOTS).reserved.toNat = 7 := rfl
    omega
  refine ⟨⟨slots, accounted, ?_⟩, reserved.sequence, reserved.reserved, ?_, Nat.le_refl _,
    fun _ => reserved.unsettled⟩
  · rw [reserved.opened, Flight.recent, List.drop_length]
    exact seven
  · rw [reserved.unrefused]
    exact nofun

/-- Once the lifecycle is reserved, and as long as an owner on a node of the spawner's name
is detached at most once, no operation of the lifecycle is refused for want of room or of a
slot. -/
theorem reserved_lifecycle_fed (flight : Flight) (start world : FlightWorld)
    (reserved : Reserved flight start.shared) (idle : start.parties = [])
    (reached : Reaches flightService flight.body
      (fun party shared request choice =>
        Orderly flight (flight.rows start.shared).length party shared request choice ∧
        DetachesSpawnerOnce flight (flight.rows start.shared).length shared request)
      start world) (index : Nat) (op : FlightOp) (answer : FlightAnswer)
    (answered : world.parties[index]? = some ⟨op, some (.ret answer)⟩)
    (lifecycle : op.lifecycle = true) : answer.starved = false := by
  obtain ⟨-, reports⟩ := (lifecycleContract flight (flight.rows start.shared).length).holds
    reached idle (fun _ => reserved.provided) (fun party held => by
      rw [reserved.free] at held
      cases held)
  exact (reports index op answer answered).2 lifecycle

def spawner (ownerKey : String) : ResourceFlightOwner := ⟨"process-spawn", ownerKey⟩

/-- A flight with two owners on nodes of the spawner's name, its lifecycle just reserved. -/
def sampleReserved : FlightWorld :=
  { (sampleCreated.run flightService sampleRetained.body
      (turns 0 (.attachOwner (spawner "first")) 3 ++ turns 1 (.attachOwner (spawner "second")) 3 ++
        turns 2 (.attachOwner sampleOwner) 3 ++ turns 3 .reserveProcessLifecycle 3)).get rfl with
    parties := [] }

theorem sample_reserved_reserved : Reserved sampleRetained sampleReserved.shared where
  free := rfl
  opened := rfl
  reserved := rfl
  unrefused := rfl
  sequence := rfl
  last := ⟨(sampleRetained.rows sampleReserved.shared).dropLast, _, rfl, rfl⟩
  accounted := ⟨7, rfl, by decide,
    @settled_last_append_one _ (sampleRetained.rows sampleReserved.shared).dropLast rfl⟩
  unsettled := rfl

def sampleIdentity : ResourceIdentity := .acpProcess "generation-1" "nonce" 7 none ⟨7, 11, none⟩

/-- Both are detached; then the lifecycle goes its way, each row once. -/
def starvingRun : List (Event FlightOp Choice) :=
  turns 0 (.detachOwner (spawner "first")) 3 ++ turns 1 (.detachOwner (spawner "second")) 3 ++
    turns 2 (.journalProcessTree sampleIdentity) 3 ++ turns 3 .closeAdmission 2 ++
    turns 4 (.journalIntent ⟨sampleOwner, "digest", none⟩) 3 ++
    turns 5 .beginJournaledDispatch 4 ++ turns 6 (.journalProcessSignals []) 3 ++
    turns 7 (.transferCleanupDeadlineNow "deadline") 13

theorem detachments_starve_settlement :
    ∃ world : FlightWorld,
      Reserved sampleRetained sampleReserved.shared ∧ sampleReserved.parties = [] ∧
      Reaches flightService sampleRetained.body (fun _ _ _ _ => True) sampleReserved world ∧
      (sampleRetained.recent (sampleRetained.rows sampleReserved.shared).length
        world.shared).map (·.event) =
        [.ownerDetached (spawner "first"), .ownerDetached (spawner "second"),
          .processTreeCaptured sampleIdentity,
          .intentJournaled ⟨sampleOwner, "digest", none⟩ [sampleOwner] 0, .dispatchStarted,
          .processSignalsObserved [],
          .guardTransferred (sampleRetained.recoveryOwner "deadline") 5] ∧
      world.parties[7]? = some ⟨.transferCleanupDeadlineNow "deadline",
        some (.ret (.refused (.terminalRefusal .accounting)))⟩ := by
  have reached := reaches_of_run (show sampleReserved.run flightService sampleRetained.body
    starvingRun = some _ from rfl)
  exact ⟨_, sample_reserved_reserved, rfl, reached, rfl, rfl⟩

/-- One of them is detached, the process cannot be bound and the flight settles as failed. -/
def failingRun : List (Event FlightOp Choice) :=
  turns 0 (.detachOwner (spawner "first")) 3 ++
    turns 1 (.journalProcessBindingFailure .spawn none) 3 ++
    turns 2 (.settleFailedBeforeDispatch ⟨.failed, 5, none, none⟩) 9

theorem failing_run_permitted :
    sampleReserved.PermitsAll flightService sampleRetained.body
      (fun party shared request choice =>
        Orderly sampleRetained (sampleRetained.rows sampleReserved.shared).length party shared
          request choice ∧
        DetachesSpawnerOnce sampleRetained (sampleRetained.rows sampleReserved.shared).length
          shared request) failingRun := by
  have sound : ∀ error, (none : Option JournalError) = some error → error.starves = false := nofun
  have still := And.intro (And.intro sound trivial) trivial
  refine ⟨trivial, still, ⟨⟨sound, nofun, nofun, nofun⟩, fun _ => nofun⟩, still, trivial, still,
    ⟨⟨sound, fun _ => ?_, nofun, nofun⟩, nofun⟩, still, trivial, still, still, still, still, still,
    ⟨⟨sound, rfl⟩, trivial⟩, still, still, still, trivial⟩
  intro row member
  rw [List.mem_singleton.mp member]
  rfl

theorem sample_lifecycle_fed :
    ∃ world : FlightWorld,
      world.parties[2]? = some ⟨.settleFailedBeforeDispatch ⟨.failed, 5, none, none⟩,
        some (.ret (.settlement ⟨.failed, 5, none, none⟩))⟩ ∧
      (FlightAnswer.settlement ⟨.failed, 5, none, none⟩).starved = false := by
  have reached := reaches_of_permitted_run failing_run_permitted (rfl : _ = some _)
  refine ⟨_, ?answered, reserved_lifecycle_fed sampleRetained sampleReserved _
    sample_reserved_reserved rfl reached 2 _ _ ?answered rfl⟩
  rfl

end A2aBridge.Flights
