import A2aBridge.FlightPrograms

/-!
Registries that share one journal reserve resource keys for their flights, roll empty
reservations back and recover what dead registries left. Rows of a flight follow the
reservation of its key, so a key would be minted twice only if a reservation went while the
party it was created for had yet to write its first row. A recovery takes no registry's
mutex, and that is what it can do.
-/

namespace A2aBridge.Flights

open AtomicPrograms InMemoryJournal Shared

/-! ### Registries -/

/-- The flights a registry holds, by their keys. -/
abbrev RegistryMemory := AList (fun _ : ResourceFlightKey => ResourceFlightId)

abbrev RegistryFlow := Routine Nat RegistryMemory

abbrev RegistryShared := Shared Nat RegistryMemory

structure FlightConfig where
  flightId : ResourceFlightId
  attemptId : String
  key : ResourceFlightKey
  deriving DecidableEq

inductive FlightReservation where
  | created (flight : ResourceFlightId)
  | joined (flight : ResourceFlightId)
  | recovered (flight : ResourceFlightId) (result : ResourceActionResult)
  deriving DecidableEq

open Routine (call)

variable (registry : Nat)

def leave {α : Type} (flights : RegistryMemory) (answer : α) :
    RegistryFlow α := do
  call (.unlock registry flights)
  pure answer

/-- The reservation is created: the flight's first row is written, or it is rolled back. -/
def createFlight (flights : RegistryMemory) (reservation : ReservationRecord) :
    RegistryFlow (Except FlightError FlightReservation) := do
  match ← call (.append reservation.resourceFlightId
      ⟨RESOURCE_FLIGHT_JOURNAL_SCHEMA_V1, FlightMemory.new.sequence,
        .flightReserved reservation.key reservation.attemptId⟩) with
  | .ok () =>
    leave registry (flights.insert reservation.key reservation.resourceFlightId)
      (.ok (.created reservation.resourceFlightId))
  | .error error =>
    match ← call (.rollbackEmptyReservation reservation) with
    | .error failure => leave registry flights (.error (.journal failure))
    | .ok _ => leave registry flights (.error (.journal error))

/-- `attempt` is the registry's own. -/
def reserve (attempt : String) (config : FlightConfig) :
    RegistryFlow (Except FlightError FlightReservation) := do
  if attempt ≠ config.attemptId then pure (.error .reservationAttemptMismatch)
  else
    let flights ← call (.lock registry)
    match AList.lookup config.key flights with
    | some flight => leave registry flights (.ok (.joined flight))
    | none =>
      let reservation : ReservationRecord :=
        ⟨RESOURCE_FLIGHT_JOURNAL_SCHEMA_V1, config.key, config.attemptId, config.flightId⟩
      match ← call (.reserveFlight reservation) with
      | .error error => leave registry flights (.error (.journal error))
      | .ok .created => createFlight registry flights reservation
      | .ok (.existing stored) =>
        match ← recoveredReservation config.attemptId stored with
        | .error error => leave registry flights (.error error)
        | .ok (result, deferred) =>
          call (.unlock registry flights)
          publishDeferred stored.resourceFlightId result deferred
          pure (.ok (.recovered stored.resourceFlightId result))

/-- Whether an empty reservation was rolled back; a reservation with rows stays. -/
def rollbackEmpty (reservation : ReservationRecord) : RegistryFlow (Except FlightError Bool) := do
  match ← call (.records reservation.resourceFlightId) with
  | .error error => pure (.error (.journal error))
  | .ok (_ :: _) => pure (.ok false)
  | .ok [] =>
    match ← call (.rollbackEmptyReservation reservation) with
    | .error error => pure (.error (.journal error))
    | .ok true => pure (.ok true)
    | .ok false =>
      match ← call (.records reservation.resourceFlightId) with
      | .error error => pure (.error (.journal error))
      | .ok [] => pure (.error (.reservationUnavailable reservation.resourceFlightId))
      | .ok (_ :: _) => pure (.ok false)

def recoverEach (durationMs : Nat) :
    List ReservationRecord → RegistryFlow (Except FlightError Unit)
  | [] => pure (.ok ())
  | reservation :: rest =>
    match reservation.key with
    | .dedicatedRemoteRequest _ => do
      match ← rollbackEmpty reservation with
      | .error error => pure (.error error)
      | .ok true => recoverEach durationMs rest
      | .ok false =>
        match ← recoverDeadJournaledIntentAsUnknown reservation.resourceFlightId durationMs with
        | .error error => pure (.error error)
        | .ok _ => recoverEach durationMs rest
    | _ => recoverEach durationMs rest

def recoverRemoteRequestReservations (attempt : String) (durationMs : Nat) :
    RegistryFlow (Except FlightError Unit) := do
  match ← call .listReservations with
  | .error error => pure (.error (.journal error))
  | .ok reservations =>
    if reservations.any fun reservation => reservation.attemptId ≠ attempt then
      pure (.error .reservationAttemptMismatch)
    else recoverEach durationMs reservations

def JournalEvent.reservedKey : JournalEvent → Option ResourceFlightKey
  | .flightReserved key _ => some key
  | _ => none

/-- A row of a live flight. Its first row was written when it was created. -/
structure LiveRow where
  sequence : Nat
  event : JournalEvent
  later : 1 < sequence
  other : event.reservedKey = none

/-- What is done by registries, and by the flights they created. -/
inductive RegistryOp where
  | reserve (registry : Nat) (config : FlightConfig)
  | recoverRemoteRequests (registry : Nat) (durationMs : Nat)
  | recoverDead (id : ResourceFlightId) (durationMs : Nat)
  | journalRow (id : ResourceFlightId) (row : LiveRow)
  | settle (id : ResourceFlightId) (result : ResourceActionResult)

inductive RegistryAnswer where
  | refused (error : FlightError)
  | done
  | reservation (reservation : FlightReservation)

def replying {α : Type} (wrap : α → RegistryAnswer)
    (program : RegistryFlow (Except FlightError α)) : RegistryFlow RegistryAnswer := do
  match ← program with
  | .error error => pure (.refused error)
  | .ok value => pure (wrap value)

def journaled {α : Type} (request : RegistryFlow (Except JournalError α)) :
    RegistryFlow RegistryAnswer := do
  match ← request with
  | .error error => pure (.refused (.journal error))
  | .ok _ => pure .done

def registryBody (attempts : Nat → String) : RegistryOp → RegistryFlow RegistryAnswer
  | .reserve registry config =>
    replying .reservation (reserve registry (attempts registry) config)
  | .recoverRemoteRequests registry durationMs =>
    replying (fun _ => .done) (recoverRemoteRequestReservations (attempts registry) durationMs)
  | .recoverDead id durationMs =>
    replying (fun _ => .done) (recoverDeadJournaledIntentAsUnknown id durationMs)
  | .journalRow id row =>
    journaled (call (.append id ⟨RESOURCE_FLIGHT_JOURNAL_SCHEMA_V1, row.sequence, row.event⟩))
  | .settle id result => journaled (call (.appendTerminal id result))

open Function (update update_of_ne update_self)

/-- A party that stops is gone with what it held. -/
def Shared.stopped (party : Nat) (shared : RegistryShared) : RegistryShared :=
  { shared with
    holder := fun cell => if shared.holder cell = some party then none else shared.holder cell
    creating := update shared.creating party none }

def registryService :
    Service (@Call.Reply Nat RegistryMemory) (Shared Nat RegistryMemory) Choice :=
  ⟨serve, Shared.stopped⟩

/-- Reservations are rolled back by a party inside `reserve`, or while no party is there. -/
def Undisturbed (party : Nat) (shared : RegistryShared) :
    Call Nat RegistryMemory → Choice → Prop
  | .rollbackEmptyReservation _, _ =>
    (∃ registry, shared.holder registry = some party) ∨ ∀ registry, shared.holder registry = none
  | _, _ => True

/-! ### Rows follow reservations -/

/-- The flight has rows, and one reserves it for the key. -/
def Minted (journal : InMemoryJournal) (key : ResourceFlightKey) (id : ResourceFlightId) : Prop :=
  ∃ row ∈ journal.records id, row.event.reservedKey = some key

structure RegistryInv (shared : RegistryShared) : Prop where
  headed : ∀ id, shared.journal.records id ≠ [] → ∃ key, Minted shared.journal key id
  bound : ∀ key id, Minted shared.journal key id →
    ∃ reservation, shared.journal.reservations.lookup key = some reservation ∧
      reservation.resourceFlightId = id
  created : ∀ party reservation, shared.creating party = some reservation →
    shared.journal.reservations.lookup reservation.key = some reservation ∧
    ∃ registry, shared.holder registry = some party
  sole : ∀ party other mine theirs, shared.creating party = some mine →
    shared.creating other = some theirs → mine.key = theirs.key → party = other

/-- The others leave a party what it holds and what it was given as created. -/
structure Foreign (party : Nat) (shared later : RegistryShared) : Prop where
  creating : later.creating party = shared.creating party
  holder : ∀ registry, later.holder registry = some party ↔ shared.holder registry = some party

def registryRules : Discipline (Call Nat RegistryMemory) RegistryShared Choice :=
  ⟨Undisturbed, RegistryInv, Foreign⟩

variable {party other : Nat} {shared later after : RegistryShared}

theorem Foreign.refl : Foreign party shared shared :=
  ⟨rfl, fun _ => Iff.rfl⟩

theorem Foreign.trans {middle : RegistryShared} (first : Foreign party shared middle)
    (second : Foreign party middle later) : Foreign party shared later :=
  ⟨second.creating.trans first.creating,
    fun registry => (second.holder registry).trans (first.holder registry)⟩

/-- The reservation a party was given as created, and the registry whose mutex it holds. -/
structure At (party : Nat) (own : Option ReservationRecord) (lock : Option Nat)
    (shared : RegistryShared) : Prop where
  creating : shared.creating party = own
  holder : ∀ registry, shared.holder registry = some party ↔ lock = some registry

variable {own : Option ReservationRecord} {lock : Option Nat}

theorem At.kept (here : At party own lock shared) (keeps : Foreign party shared later) :
    At party own lock later :=
  ⟨keeps.creating.trans here.creating,
    fun registry => (keeps.holder registry).trans (here.holder registry)⟩

theorem RegistryInv.pushed {creating : Nat → Option ReservationRecord} (inv : RegistryInv shared)
    (party : Nat) (id : ResourceFlightId) (record : JournalRecord)
    (follows : (record.event.reservedKey = none ∧ shared.journal.records id ≠ []) ∨
      ∃ reservation, shared.creating party = some reservation ∧
        reservation.resourceFlightId = id ∧
        record.event.reservedKey = some reservation.key)
    (fewer : ∀ other reservation, creating other = some reservation →
      shared.creating other = some reservation) :
    RegistryInv { shared with journal := shared.journal.push id record, creating := creating } where
  headed := by
    intro other rows
    by_cases same : other = id
    · subst same
      rcases follows with ⟨-, present⟩ | ⟨reservation, -, -, reserves⟩
      · obtain ⟨key, row, member, reserves⟩ := inv.headed other present
        exact ⟨key, row, by rw [push_records, if_pos rfl]; exact List.mem_append_left _ member,
          reserves⟩
      · exact ⟨reservation.key, record, by rw [push_records, if_pos rfl]; simp, reserves⟩
    · rw [push_records, if_neg same] at rows
      obtain ⟨key, row, member, reserves⟩ := inv.headed other rows
      exact ⟨key, row, by rw [push_records, if_neg same]; exact member, reserves⟩
  bound := by
    rintro key other ⟨row, member, reserves⟩
    rw [push_records] at member
    split at member
    · rename_i same
      subst same
      rcases List.mem_append.mp member with earlier | last
      · exact inv.bound key other ⟨row, earlier, reserves⟩
      · rw [List.mem_singleton] at last
        subst last
        rcases follows with ⟨plain, -⟩ | ⟨reservation, own, same, reserved⟩
        · rw [plain] at reserves
          cases reserves
        · -- the creator's reservation is still there
          rw [reserved] at reserves
          cases reserves
          exact ⟨reservation, (inv.created party reservation own).1, same⟩
    · exact inv.bound key other ⟨row, member, reserves⟩
  created := fun other reservation own => inv.created other reservation (fewer other _ own)
  sole := fun first second mine theirs own owned =>
    inv.sole first second mine theirs (fewer first _ own) (fewer second _ owned)

theorem RegistryInv.same (inv : RegistryInv shared) (journal : after.journal = shared.journal)
    (holder : after.holder = shared.holder) (creating : after.creating = shared.creating) :
    RegistryInv after := by
  constructor
  · rw [journal]
    exact inv.headed
  · rw [journal]
    exact inv.bound
  · rw [journal, holder, creating]
    exact inv.created
  · rw [creating]
    exact inv.sole

theorem wrote_row_fewer (party : Nat) (id : ResourceFlightId) (other : Nat)
    (reservation : ReservationRecord) (stays : shared.wroteRow party id other = some reservation) :
    shared.creating other = some reservation := by
  unfold wroteRow at stays
  by_cases same : other = party
  · subst same
    rw [update_self, Option.filter_eq_some_iff] at stays
    exact stays.1
  · rwa [update_of_ne same] at stays

variable {journal : InMemoryJournal} {settledBy : ResourceFlightId → Option Nat} {cap : UInt64}
  {rows : List JournalRecord}

theorem foreign_wrote_row {id : ResourceFlightId} (different : other ≠ party) :
    Foreign other shared { shared with
      journal := journal, settledBy := settledBy, creating := shared.wroteRow party id } :=
  ⟨update_of_ne different _ _, fun _ => Iff.rfl⟩

/-! ### Programs that create nothing -/

/-- Wherever the party has nothing it created, the program leaves it so, with the mutex it
holds. -/
def Keeps {α : Type} (party : Nat) (lock : Option Nat) (program : RegistryFlow α) : Prop :=
  ∀ shared, At party none lock shared →
    Meets registryService registryRules party (fun _ after => At party none lock after)
      program shared

theorem keeps_pure {α : Type} (answer : α) : Keeps party lock (pure answer) :=
  fun _ here => here

theorem Keeps.bind {α β : Type} {program : RegistryFlow α} {rest : α → RegistryFlow β}
    (first : Keeps party lock program) (next : ∀ answer, Keeps party lock (rest answer)) :
    Keeps party lock (program >>= rest) := by
  intro shared here
  rw [meets_bind]
  exact (first shared here).mono fun answer after there => next answer after there

theorem keeps_quiet (request : Call Nat RegistryMemory)
    (quiet : ∀ (shared : RegistryShared) choice after reply,
      serve party shared request choice = some (after, reply) →
      after.journal = shared.journal ∧ after.holder = shared.holder ∧
        after.creating = shared.creating) : Keeps party lock (call request) := by
  intro shared here later keeps inv choice _ after reply served
  obtain ⟨journal, holder, creating⟩ := quiet later choice after reply served
  have there := here.kept keeps
  refine ⟨inv.same journal holder creating, ?_, ?_⟩
  · intro other _
    exact ⟨by rw [creating], fun registry => by rw [holder]⟩
  · exact ⟨by rw [creating]; exact there.creating, fun registry => by
      rw [holder]; exact there.holder registry⟩

variable (id : ResourceFlightId) (result : ResourceActionResult)

theorem keeps_records : Keeps party lock (call (.records id) : RegistryFlow _) := by
  apply keeps_quiet
  intro shared choice after reply served
  simp only [serve] at served
  split at served
  all_goals
    cases served
    exact ⟨rfl, rfl, rfl⟩

theorem keeps_list_reservations : Keeps party lock (call .listReservations : RegistryFlow _) := by
  apply keeps_quiet
  intro shared choice after reply served
  simp only [serve] at served
  split at served
  all_goals
    cases served
    exact ⟨rfl, rfl, rfl⟩

theorem keeps_elapsed : Keeps party lock (call .elapsedMs : RegistryFlow _) := by
  apply keeps_quiet
  rintro shared choice after reply ⟨⟩
  exact ⟨rfl, rfl, rfl⟩

theorem keeps_publish (aggregation : NodeCleanupAggregation) :
    Keeps party lock (call (.publish aggregation) : RegistryFlow _) := by
  apply keeps_quiet
  rintro shared choice after reply ⟨⟩
  exact ⟨rfl, rfl, rfl⟩

theorem At.wrote_row {id : ResourceFlightId} (here : At party none lock shared) :
    At party none lock { shared with
      journal := journal, settledBy := settledBy, creating := shared.wroteRow party id } := by
  refine ⟨?_, here.holder⟩
  change shared.wroteRow party id party = none
  rw [Shared.wroteRow, update_self, here.creating]
  rfl

theorem keeps_append (row : LiveRow) :
    Keeps party lock (call (.append id
      ⟨RESOURCE_FLIGHT_JOURNAL_SCHEMA_V1, row.sequence, row.event⟩) : RegistryFlow _) := by
  intro shared here later keeps inv choice _ after reply served
  have there := here.kept keeps
  obtain ⟨-, -, checked, rfl⟩ | ⟨-, rfl⟩ := serve_append served
  · refine ⟨inv.pushed party id _ (.inl ⟨row.other, fun empty => ?_⟩) (wrote_row_fewer party id),
      fun other different => foreign_wrote_row different, there.wrote_row⟩
    rw [empty] at checked
    have sequence : row.sequence = sequenceOf 1 := admission_check_sequence checked
    have later := row.later
    unfold sequenceOf U64_MAX at sequence
    omega
  · exact ⟨inv, fun _ _ => Foreign.refl, there⟩

theorem keeps_append_terminal :
    Keeps party lock (call (.appendTerminal id result) : RegistryFlow _) := by
  intro shared here later keeps inv choice _ after reply served
  have there := here.kept keeps
  obtain ⟨-, -, checked, rfl⟩ | ⟨-, -, -, rfl⟩ | ⟨-, rfl⟩ := serve_append_terminal rfl served
  · refine ⟨?_, fun other different => foreign_wrote_row different, there.wrote_row⟩
    -- A terminal row draws a reserved slot, so it is never the first.
    have follows : later.journal.records id ≠ [] := by
      intro empty
      rw [empty] at checked
      obtain ⟨after, -, drawable, -⟩ := (admission_check_ok rfl).mp checked
      exact drawable ⟨rfl, rfl⟩
    have pushed := inv.pushed party id (terminalRecord (later.journal.records id) result)
      (.inl ⟨rfl, follows⟩) (wrote_row_fewer party id)
    exact pushed.same rfl rfl rfl
  all_goals exact ⟨inv, fun _ _ => Foreign.refl, there⟩

theorem keeps_publish_each
    (collateral : CollateralDisposition) (count : Nat) (recipients : List ResourceFlightOwner) :
    Keeps party lock (publishEach id result collateral count recipients : RegistryFlow Unit) := by
  induction recipients with
  | nil => exact keeps_pure ()
  | cons owner rest ih => exact (keeps_publish _).bind fun _ => ih

variable (durationMs : Nat)

theorem keeps_recover_journaled_intent :
    Keeps party lock (recoverJournaledIntentAsUnknown id durationMs : RegistryFlow _) := by
  apply (keeps_records id).bind
  intro read
  cases read with
  | error error => exact keeps_pure _
  | ok rows =>
    dsimp only
    split
    · exact keeps_pure _
    · split
      · apply (keeps_append_terminal id _).bind
        rintro (error | records | existing) <;> exact keeps_pure _
      · exact keeps_pure _

theorem keeps_recover_dead :
    Keeps party lock (recoverDeadJournaledIntentAsUnknown id durationMs : RegistryFlow _) := by
  apply (keeps_recover_journaled_intent id durationMs).bind
  rintro (error | _ | existing | ⟨result, recipients⟩)
  · exact keeps_pure _
  · exact keeps_pure _
  · exact keeps_pure _
  · exact (keeps_publish_each id result _ _ recipients).bind fun _ => keeps_pure _

theorem keeps_recovered_reservation (attemptId : String) (reservation : ReservationRecord) :
    Keeps party lock (recoveredReservation attemptId reservation : RegistryFlow _) := by
  unfold recoveredReservation
  split
  · exact keeps_pure _
  · apply keeps_elapsed.bind
    intro now
    apply (keeps_recover_journaled_intent _ now).bind
    rintro (error | _ | existing | ⟨result, recipients⟩) <;> exact keeps_pure _

/-! ### Rolling back -/

variable {reservation : ReservationRecord} {flights : RegistryMemory}

theorem registry_rollback {choice : Choice} {reply : Except JournalError Bool}
    (served : serve party shared (.rollbackEmptyReservation reservation) choice =
      some (after, reply)) :
    after.holder = shared.holder ∧ after.creating = shared.gaveUp party reservation ∧
    (after.journal = shared.journal ∨
      shared.journal.reservations.lookup reservation.key = some reservation ∧
      shared.journal.records reservation.resourceFlightId = [] ∧
      after.journal = { shared.journal with
        reservations := shared.journal.reservations.erase reservation.key }) := by
  simp only [serve] at served
  split at served
  · cases served
    exact ⟨rfl, rfl, .inl rfl⟩
  · cases served
    refine ⟨rfl, rfl, ?_⟩
    simp only [InMemoryJournal.rollbackEmptyReservation]
    split
    · exact .inl rfl
    · rename_i present
      rw [not_or, not_not, not_not] at present
      exact .inr ⟨present.1, present.2, rfl⟩

section

variable (holder : after.holder = shared.holder)
  (creating : after.creating = shared.gaveUp party reservation)

include holder creating

/-- An empty reservation may go where nobody else is about to write the first row for its
key. -/
theorem RegistryInv.rolled_back (inv : RegistryInv shared)
    (alone : ∀ other created, shared.creating other = some created →
      created.key = reservation.key → other = party) (journal : after.journal = shared.journal ∨
      shared.journal.reservations.lookup reservation.key = some reservation ∧
      shared.journal.records reservation.resourceFlightId = [] ∧
      after.journal = { shared.journal with
        reservations := shared.journal.reservations.erase reservation.key }) :
    RegistryInv after := by
  have fewer : ∀ other created, after.creating other = some created →
      shared.creating other = some created ∧ (other = party → created ≠ reservation) := by
    rw [creating]
    intro other created stays
    unfold gaveUp at stays
    by_cases same : other = party
    · subst same
      rw [update_self, Option.filter_eq_some_iff] at stays
      exact ⟨stays.1, fun _ => by simpa using stays.2⟩
    · rw [update_of_ne same] at stays
      exact ⟨stays, fun here => absurd here same⟩
  have sole : ∀ first second mine theirs, after.creating first = some mine →
      after.creating second = some theirs → mine.key = theirs.key → first = second :=
    fun first second mine theirs own owned =>
      inv.sole first second mine theirs (fewer first mine own).1 (fewer second theirs owned).1
  rcases journal with same | ⟨found, empty, erased⟩
  · refine ⟨same ▸ inv.headed, same ▸ inv.bound, fun other created own => ?_, sole⟩
    rw [same, holder]
    exact inv.created other created (fewer other created own).1
  · refine ⟨?_, ?_, ?_, sole⟩
    · rw [erased]
      exact inv.headed
    · intro key id minted
      rw [erased] at minted ⊢
      have bound := inv.bound key id minted
      by_cases same : key = reservation.key
      · -- the key's flight has no rows
        obtain ⟨stored, there, own⟩ := bound
        rw [same, found] at there
        cases there
        obtain ⟨row, member, -⟩ := minted
        rw [← own] at member
        rw [empty] at member
        cases member
      · rw [AList.lookup_erase_ne same]
        exact bound
    · intro other created own
      obtain ⟨owned, given⟩ := fewer other created own
      obtain ⟨stored, held⟩ := inv.created other created owned
      rw [erased, holder]
      refine ⟨?_, held⟩
      by_cases same : created.key = reservation.key
      · rw [same, found] at stored
        exact absurd (Option.some.inj stored).symm (given (alone other created owned same))
      · rw [AList.lookup_erase_ne same]
        exact stored

theorem foreign_gave_up (different : other ≠ party) : Foreign other shared after := by
  refine ⟨?_, fun registry => by rw [holder]⟩
  rw [creating]
  exact update_of_ne different _ _

end

theorem keeps_rollback :
    Keeps party none (call (.rollbackEmptyReservation reservation) : RegistryFlow _) := by
  intro shared here later keeps inv choice permitted after reply served
  have there := here.kept keeps
  obtain ⟨holder, creating, journal⟩ := registry_rollback served
  have free : ∀ registry, later.holder registry = none := by
    rcases permitted with ⟨registry, held⟩ | free
    · exact absurd ((there.holder registry).mp held) nofun
    · exact free
  refine ⟨inv.rolled_back holder creating ?_ journal,
    fun other different => foreign_gave_up holder creating different, ?_, ?_⟩
  · intro other created own _
    obtain ⟨-, registry, held⟩ := inv.created other created own
    rw [free registry] at held
    cases held
  · rw [creating, gaveUp, update_self, there.creating]
    rfl
  · rw [holder]
    exact there.holder

theorem keeps_rollback_empty : Keeps party none (rollbackEmpty reservation) := by
  apply (keeps_records _).bind
  rintro (error | _ | ⟨row, rows⟩)
  · exact keeps_pure _
  · apply keeps_rollback.bind
    rintro (error | _ | _)
    · exact keeps_pure _
    · apply (keeps_records _).bind
      rintro (error | _ | ⟨row, rows⟩) <;> exact keeps_pure _
    · exact keeps_pure _
  · exact keeps_pure _

theorem keeps_recover_each (reservations : List ReservationRecord) :
    Keeps party none (recoverEach durationMs reservations) := by
  induction reservations with
  | nil => exact keeps_pure _
  | cons reservation rest ih =>
    unfold recoverEach
    split
    · apply keeps_rollback_empty.bind
      rintro (error | _ | _)
      · exact keeps_pure _
      · apply (keeps_recover_dead _ durationMs).bind
        rintro (error | result)
        · exact keeps_pure _
        · exact ih
      · exact ih
    · exact ih

theorem keeps_recover_remote_requests (attempt : String) (durationMs : Nat) :
    Keeps party none (recoverRemoteRequestReservations attempt durationMs) := by
  apply keeps_list_reservations.bind
  rintro (error | reservations)
  · exact keeps_pure _
  · dsimp only
    split
    · exact keeps_pure _
    · exact keeps_recover_each durationMs reservations

/-! ### Reserving -/

variable {registry : Nat} {α : Type} {post : α → RegistryShared → Prop}

theorem meets_lock_registry {rest : RegistryMemory → RegistryFlow α}
    (here : At party none none shared)
    (goes : ∀ flights after, At party none (some registry) after →
      Meets registryService registryRules party post (rest flights) after) :
    Meets registryService registryRules party post (call (.lock registry) >>= rest) shared := by
  intro later keeps inv choice _ after reply served
  have there := here.kept keeps
  simp only [registryService, serve] at served
  split at served
  · rename_i free
    cases served
    refine ⟨⟨inv.headed, inv.bound, ?_, inv.sole⟩, ?_, goes _ _ ⟨there.creating, ?_⟩⟩
    · intro other created own
      obtain ⟨stored, place, held⟩ := inv.created other created own
      refine ⟨stored, place, ?_⟩
      have elsewhere : place ≠ registry := by
        rintro rfl
        rw [free] at held
        cases held
      exact (update_of_ne elsewhere _ _).trans held
    · intro other different
      refine ⟨rfl, fun place => ?_⟩
      by_cases same : place = registry
      · subst same
        simp [free, Ne.symm different]
      · simp [update_of_ne same]
    · intro place
      by_cases same : place = registry
      · subst same
        simp
      · have outside := there.holder place
        simp [update_of_ne same, outside, Ne.symm same]
  · cases served

theorem meets_unlock_registry {rest : Unit → RegistryFlow α}
    (here : At party none (some registry) shared) (goes : ∀ after, At party none none after →
      Meets registryService registryRules party post (rest ()) after) :
    Meets registryService registryRules party post
      (call (.unlock registry flights) >>= rest) shared := by
  intro later keeps inv choice _ after reply served
  have there := here.kept keeps
  simp only [registryService, serve] at served
  split at served
  · rename_i held
    cases served
    refine ⟨⟨inv.headed, inv.bound, ?_, inv.sole⟩, ?_, goes _ ⟨there.creating, ?_⟩⟩
    · intro other created own
      obtain ⟨stored, place, holds⟩ := inv.created other created own
      refine ⟨stored, place, ?_⟩
      have elsewhere : place ≠ registry := by
        rintro rfl
        -- the one inside this registry is the party, and it has nothing created
        rw [held] at holds
        cases holds
        have nothing : later.creating party = none := there.creating
        rw [show later.creating party = some created from own] at nothing
        cases nothing
      exact (update_of_ne elsewhere _ _).trans holds
    · intro other different
      refine ⟨rfl, fun place => ?_⟩
      by_cases same : place = registry
      · subst same
        simp [held, Ne.symm different]
      · simp [update_of_ne same]
    · intro place
      by_cases same : place = registry
      · subst same
        simp
      · have outside := there.holder place
        simp only [Option.some.injEq, Ne.symm same, iff_false] at outside
        simp [update_of_ne same, outside]
  · cases served

/-- The program ends with nothing created and no mutex held. -/
abbrev Leaves (party : Nat) (program : RegistryFlow α) (shared : RegistryShared) : Prop :=
  Meets registryService registryRules party (fun _ after => At party none none after) program shared

theorem meets_leave (answer : α) (here : At party none (some registry) shared) :
    Leaves party (leave registry flights answer) shared :=
  meets_unlock_registry here fun _ there => there

theorem RegistryInv.reserved (inv : RegistryInv shared) (held : shared.holder registry = some party)
    (absent : shared.journal.reservations.lookup reservation.key = none) :
    RegistryInv { shared with
      journal := { shared.journal with
        reservations := shared.journal.reservations.insert reservation.key reservation }
      creating := update shared.creating party (some reservation) } := by
  have elsewhere : ∀ key stored, shared.journal.reservations.lookup key = some stored →
      key ≠ reservation.key := by
    rintro key stored found rfl
    rw [absent] at found
    cases found
  have given : ∀ other created,
      update shared.creating party (some reservation) other = some created →
      (other = party ∧ created = reservation) ∨
        (shared.creating other = some created ∧ created.key ≠ reservation.key) := by
    intro other created own
    by_cases same : other = party
    · subst same
      rw [update_self] at own
      cases own
      exact .inl ⟨rfl, rfl⟩
    · rw [update_of_ne same] at own
      exact .inr ⟨own, elsewhere _ _ (inv.created other created own).1⟩
  refine ⟨inv.headed, ?_, ?_, ?_⟩
  · intro key id minted
    obtain ⟨stored, bound, own⟩ := inv.bound key id minted
    exact ⟨stored, (AList.lookup_insert_ne (elsewhere key stored bound)).trans bound, own⟩
  · intro other created own
    rcases given other created own with ⟨rfl, rfl⟩ | ⟨owned, different⟩
    · exact ⟨AList.lookup_insert _, registry, held⟩
    · obtain ⟨stored, holds⟩ := inv.created other created owned
      exact ⟨(AList.lookup_insert_ne different).trans stored, holds⟩
  · intro first second mine theirs own owned same
    rcases given first mine own with ⟨rfl, rfl⟩ | ⟨own, different⟩
    · rcases given second theirs owned with ⟨rfl, -⟩ | ⟨-, different⟩
      · rfl
      · exact absurd same.symm different
    · rcases given second theirs owned with ⟨rfl, rfl⟩ | ⟨owned, -⟩
      · exact absurd same different
      · exact inv.sole first second mine theirs own owned same

theorem meets_reserve_flight {rest : Except JournalError ReservationOutcome → RegistryFlow α}
    (here : At party none (some registry) shared)
    (created : ∀ after, At party (some reservation) (some registry) after →
      Meets registryService registryRules party post (rest (.ok .created)) after)
    (otherwise : ∀ reply after, reply ≠ .ok .created → At party none (some registry) after →
      Meets registryService registryRules party post (rest reply) after) :
    Meets registryService registryRules party post
      (call (.reserveFlight reservation) >>= rest) shared := by
  intro later keeps inv choice _ after reply served
  have there := here.kept keeps
  simp only [registryService, serve] at served
  split at served
  · cases served
    exact ⟨inv, fun _ _ => Foreign.refl, otherwise _ _ (by simp) there⟩
  · simp only [Shared.reserveFlight, InMemoryJournal.reserveFlight] at served
    by_cases schema : reservation.schemaVersion ≠ RESOURCE_FLIGHT_JOURNAL_SCHEMA_V1
    · rw [if_pos schema] at served
      cases served
      exact ⟨inv, fun _ _ => Foreign.refl, otherwise _ _ (by simp) there⟩
    · rw [if_neg schema] at served
      cases found : later.journal.reservations.lookup reservation.key with
      | some stored =>
        rw [found] at served
        cases served
        exact ⟨inv, fun _ _ => Foreign.refl, otherwise _ _ (by simp) there⟩
      | none =>
        rw [found] at served
        cases served
        exact ⟨inv.reserved ((there.holder registry).mpr rfl) found,
          fun other different => ⟨update_of_ne different _ _, fun _ => Iff.rfl⟩,
          created _ ⟨update_self _ _ _, there.holder⟩⟩

theorem meets_create_flight (here : At party (some reservation) (some registry) shared) :
    Leaves party (createFlight registry flights reservation) shared := by
  intro later keeps inv choice _ after reply served
  have there := here.kept keeps
  obtain ⟨rfl, -, -, rfl⟩ | ⟨⟨error, rfl⟩, rfl⟩ := serve_append served
  · refine ⟨inv.pushed party reservation.resourceFlightId _
      (.inr ⟨reservation, there.creating, rfl, rfl⟩) (wrote_row_fewer party _),
      fun other different => foreign_wrote_row different, ?_⟩
    refine meets_leave _ ⟨?_, there.holder⟩
    change later.wroteRow party reservation.resourceFlightId party = none
    rw [wroteRow, update_self, there.creating]
    simp
  · refine ⟨inv, fun _ _ => Foreign.refl, ?_⟩
    intro last keeps inv choice _ end_ reply served
    have there := there.kept keeps
    obtain ⟨holder, creating, journal⟩ := registry_rollback served
    refine ⟨inv.rolled_back holder creating ?_ journal,
      fun other different => foreign_gave_up holder creating different, ?_⟩
    · intro other created own same
      exact inv.sole other party created reservation own there.creating same
    · have empty : At party none (some registry) end_ := by
        refine ⟨?_, holder ▸ there.holder⟩
        rw [creating, gaveUp, update_self, there.creating]
        simp
      cases reply with
      | error | ok => exact meets_leave _ empty

theorem meets_reserve (attempt : String) (config : FlightConfig)
    (here : At party none none shared) : Leaves party (reserve registry attempt config) shared := by
  unfold reserve
  split
  · exact here
  · apply meets_lock_registry here
    intro flights after here
    split
    · exact meets_leave _ here
    · apply meets_reserve_flight here
      · exact fun after here => meets_create_flight here
      · rintro (error | _ | stored) after refused here
        · exact meets_leave _ here
        · exact absurd rfl refused
        · rw [meets_bind]
          refine (keeps_recovered_reservation config.attemptId stored after here).mono ?_
          rintro (error | ⟨result, deferred⟩) after here
          · exact meets_leave _ here
          · apply meets_unlock_registry here
            intro after here
            rw [meets_bind]
            cases deferred with
            | none => exact keeps_pure () after here
            | some recipients => exact keeps_publish_each _ result _ _ recipients after here

/-! ### Every operation -/

theorem keeps_replying {wrap : α → RegistryAnswer} {program : RegistryFlow (Except FlightError α)}
    (met : Leaves party program shared) : Leaves party (replying wrap program) shared := by
  unfold Leaves replying
  rw [meets_bind]
  refine met.mono ?_
  rintro (error | value) after there <;> exact there

theorem keeps_journaled {request : RegistryFlow (Except JournalError α)}
    (kept : Keeps party none request) : Keeps party none (journaled request) := by
  apply kept.bind
  rintro (error | value) <;> exact keeps_pure _

theorem meets_registry_body (attempts : Nat → String) (op : RegistryOp)
    (here : At party none none shared) : Leaves party (registryBody attempts op) shared := by
  cases op with
  | reserve registry config => exact keeps_replying (meets_reserve _ config here)
  | recoverRemoteRequests registry durationMs =>
    exact keeps_replying (keeps_recover_remote_requests _ durationMs shared here)
  | recoverDead id durationMs =>
    exact keeps_replying (keeps_recover_dead id durationMs shared here)
  | journalRow id row => exact keeps_journaled (keeps_append id row) shared here
  | settle id result => exact keeps_journaled (keeps_append_terminal id result) shared here

theorem stopped_inv (inv : RegistryInv shared) : RegistryInv (shared.stopped party) := by
  have fewer : ∀ other created, (shared.stopped party).creating other = some created →
      other ≠ party ∧ shared.creating other = some created := by
    intro other created own
    simp only [stopped] at own
    by_cases same : other = party
    · rw [same, update_self] at own
      cases own
    · rw [update_of_ne same] at own
      exact ⟨same, own⟩
  refine ⟨inv.headed, inv.bound, ?_, ?_⟩
  · intro other created own
    obtain ⟨different, owned⟩ := fewer other created own
    obtain ⟨stored, registry, held⟩ := inv.created other created owned
    refine ⟨stored, registry, ?_⟩
    simp [stopped, held, different]
  · intro first second mine theirs own owned
    exact inv.sole first second mine theirs (fewer first mine own).2 (fewer second theirs owned).2

theorem foreign_stopped (different : other ≠ party) :
    Foreign other shared (shared.stopped party) := by
  refine ⟨update_of_ne different _ _, fun registry => ?_⟩
  simp only [stopped]
  split
  · rename_i held
    simp [held, Ne.symm different]
  · rfl

def registryContract (attempts : Nat → String) :
    Contract registryService (registryBody attempts) registryRules where
  fresh party shared := At party none none shared
  post party _ _ shared := At party none none shared
  rely_refl := fun _ _ => Foreign.refl
  rely_trans := fun _ _ _ _ first second => first.trans second
  fresh_kept := fun _ _ _ here keeps _ => here.kept keeps
  post_kept := fun _ _ _ _ _ here keeps _ => here.kept keeps
  stops := fun _ _ inv =>
    ⟨stopped_inv inv, fun _ different => foreign_stopped different⟩
  starts := fun _ op _ _ here => meets_registry_body attempts op here

abbrev RegistryWorld :=
  World (@Call.Reply Nat RegistryMemory) RegistryShared RegistryOp RegistryAnswer

def RegistryWorld.new (cap : UInt64) : RegistryWorld where
  shared :=
    { journal := InMemoryJournal.new cap
      memory := fun _ => ∅
      holder := fun _ => none
      published := []
      settledBy := fun _ => none
      creating := fun _ => none }
  parties := []

/-- While reservations are rolled back only by a party inside `reserve` or while nobody is
inside, every flight with rows has the key of its reservation, no key has two of them, and
what a party was given as created stays reserved for it. -/
theorem key_never_reminted (cap : UInt64) (attempts : Nat → String) (world : RegistryWorld)
    (reached : Reaches registryService (registryBody attempts) Undisturbed
      (RegistryWorld.new cap) world) :
    (∀ id, world.shared.journal.records id ≠ [] → ∃ key, Minted world.shared.journal key id) ∧
    (∀ key first second, Minted world.shared.journal key first →
      Minted world.shared.journal key second → first = second) ∧
    (∀ party reservation, world.shared.creating party = some reservation →
      world.shared.journal.reservations.lookup reservation.key = some reservation) := by
  have start : RegistryInv (RegistryWorld.new cap).shared := by
    refine ⟨fun id rows => absurd rfl rows, ?_, nofun, nofun⟩
    rintro key id ⟨row, member, -⟩
    cases member
  obtain ⟨inv, -⟩ := (registryContract attempts).holds reached rfl start
    fun party => ⟨rfl, fun registry => by simp [RegistryWorld.new]⟩
  refine ⟨inv.headed, ?_, fun party reservation own => (inv.created party reservation own).1⟩
  intro key first second minted again
  obtain ⟨stored, found, rfl⟩ := inv.bound key first minted
  obtain ⟨other, there, rfl⟩ := inv.bound key second again
  rw [found] at there
  cases there
  rfl

def requestKey : ResourceFlightKey := .dedicatedRemoteRequest "request-1"

def calls (party count : Nat) : List (Event RegistryOp Choice) :=
  List.replicate count (.act party ⟨none, 5⟩)

/-- A recovery finds the reservation of a party that has yet to write its first row. -/
def disturbed : RegistryWorld :=
  ((RegistryWorld.new 32).run registryService (registryBody fun _ => "attempt-1")
    (.start (.reserve 0 ⟨⟨"flight-1"⟩, "attempt-1", requestKey⟩) :: calls 0 2 ++
      .start (.recoverRemoteRequests 1 5) :: calls 1 3)).get rfl

/-- Another registry reserves the key, and both write their first rows. -/
def reminted : RegistryWorld :=
  (disturbed.run registryService (registryBody fun _ => "attempt-1")
    (.start (.reserve 1 ⟨⟨"flight-2"⟩, "attempt-1", requestKey⟩) :: calls 2 4 ++ calls 0 2)).get rfl

theorem recovery_remints_key :
    Reaches registryService (registryBody fun _ => "attempt-1") (fun _ _ _ _ => True)
      (RegistryWorld.new 32) disturbed ∧
    disturbed.shared.creating 0 = some ⟨1, requestKey, "attempt-1", ⟨"flight-1"⟩⟩ ∧
    disturbed.shared.journal.reservations.lookup requestKey = none ∧
    Reaches registryService (registryBody fun _ => "attempt-1") (fun _ _ _ _ => True)
      (RegistryWorld.new 32) reminted ∧
    Minted reminted.shared.journal requestKey ⟨"flight-1"⟩ ∧
    Minted reminted.shared.journal requestKey ⟨"flight-2"⟩ := by
  have first : Reaches registryService (registryBody fun _ => "attempt-1") (fun _ _ _ _ => True)
      (RegistryWorld.new 32) disturbed := reaches_of_run (Option.some_get _).symm
  have second : Reaches registryService (registryBody fun _ => "attempt-1") (fun _ _ _ _ => True)
      disturbed reminted := reaches_of_run (Option.some_get _).symm
  exact ⟨first, rfl, rfl, first.trans second, ⟨_, List.mem_singleton_self _, rfl⟩,
    ⟨_, List.mem_singleton_self _, rfl⟩⟩

/-- The party that was about to write the first row stops; then a recovery rolls its
reservation back, and the key is reserved again. -/
def recoveredEvents : List (Event RegistryOp Choice) :=
  .start (.reserve 0 ⟨⟨"flight-1"⟩, "attempt-1", requestKey⟩) :: calls 0 2 ++ .stop 0 ::
    .start (.recoverRemoteRequests 1 5) :: calls 1 3 ++
    .start (.reserve 1 ⟨⟨"flight-2"⟩, "attempt-1", requestKey⟩) :: calls 2 4

theorem recovered_events_permitted :
    (RegistryWorld.new 32).PermitsAll registryService (registryBody fun _ => "attempt-1")
      Undisturbed recoveredEvents := by
  refine ⟨trivial, trivial, trivial, trivial, trivial, trivial, trivial, .inr ?_, trivial,
    trivial, trivial, trivial, trivial, trivial⟩
  intro registry
  change (if (update (fun _ => none) 0 (some 0) : Nat → Option Nat) registry = some 0
    then none else _) = none
  by_cases same : registry = 0
  · rw [same]
    rfl
  · rw [update_of_ne same]
    exact update_of_ne same _ _

theorem sample_key_not_reminted :
    ∃ world : RegistryWorld, Minted world.shared.journal requestKey ⟨"flight-2"⟩ ∧
      ∀ other, Minted world.shared.journal requestKey other → other = ⟨"flight-2"⟩ := by
  obtain ⟨-, once, -⟩ := key_never_reminted 32 (fun _ => "attempt-1") _
    (reaches_of_permitted_run recovered_events_permitted (rfl : _ = some _))
  refine ⟨_, ?minted, fun other again => once requestKey other _ again ?minted⟩
  exact ⟨_, List.mem_singleton_self _, rfl⟩

end A2aBridge.Flights
