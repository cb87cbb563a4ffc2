import A2aBridge.AtomicPrograms
import A2aBridge.FlightJournal

/-!
The operations of retained resource flights and of their registries in
bridge-core/retained_resource_flight.rs, as programs of atomic calls: a mutex is taken and
given back with the memory it guards, a journal call is served under the journal's own
lock, and a result is published to one owner at a time. A journal call may fail without an
effect. The clock reads what it likes, panics and poisoned mutexes are left out.
-/

namespace A2aBridge.Flights

open AtomicPrograms

inductive CollateralDisposition where
  | none
  | complete
  | partially
  | unknown
  deriving DecidableEq

structure NodeCleanupAggregation where
  owner : ResourceFlightOwner
  resourceFlightId : ResourceFlightId
  result : ResourceActionResult
  collateral : CollateralDisposition
  affectedOwnerCount : Nat
  deriving DecidableEq

/-- The calls of a party that shares mutexes, a journal and publishers with others. `await`
is a wait on a condition variable: it reads the memory once it is ready. -/
inductive Call (Cell Memory : Type) where
  | lock (cell : Cell)
  | unlock (cell : Cell) (memory : Memory)
  | await (cell : Cell) (ready : Memory → Bool)
  | records (id : ResourceFlightId)
  | append (id : ResourceFlightId) (record : JournalRecord)
  | appendTerminal (id : ResourceFlightId) (result : ResourceActionResult)
  | reserveFlight (reservation : ReservationRecord)
  | listReservations
  | rollbackEmptyReservation (reservation : ReservationRecord)
  | publish (aggregation : NodeCleanupAggregation)
  | elapsedMs

variable {Cell Memory : Type}

@[reducible] def Call.Reply : Call Cell Memory → Type
  | .lock _ => Memory
  | .unlock _ _ => Unit
  | .await _ _ => Memory
  | .records _ => Except JournalError (List JournalRecord)
  | .append _ _ => Except JournalError Unit
  | .appendTerminal _ _ => Except JournalError TerminalAppendOutcome
  | .reserveFlight _ => Except JournalError ReservationOutcome
  | .listReservations => Except JournalError (List ReservationRecord)
  | .rollbackEmptyReservation _ => Except JournalError Bool
  | .publish _ => Unit
  | .elapsedMs => Nat

/-- The calls' shared state. `settledBy` and `creating` are bookkeeping: the party that wrote
the terminal row of a flight, and the reservation a party was given as created, until it
writes a row for it or asks for its rollback. -/
structure Shared (Cell Memory : Type) where
  journal : InMemoryJournal
  memory : Cell → Memory
  holder : Cell → Option Nat
  published : List (Nat × NodeCleanupAggregation)
  settledBy : ResourceFlightId → Option Nat
  creating : Nat → Option ReservationRecord

/-- The failure of a journal call, if it fails, and what the clock reads. -/
structure Choice where
  fault : Option JournalError
  now : Nat

namespace Shared

variable (shared : Shared Cell Memory) (party : Nat)

def wroteRow (id : ResourceFlightId) : Nat → Option ReservationRecord :=
  Function.update shared.creating party
    ((shared.creating party).filter fun reservation => reservation.resourceFlightId ≠ id)

variable (reservation : ReservationRecord)

def gaveUp : Nat → Option ReservationRecord :=
  Function.update shared.creating party
    ((shared.creating party).filter fun created => created ≠ reservation)

def append (id : ResourceFlightId) (record : JournalRecord) :
    Shared Cell Memory × Except JournalError Unit :=
  match shared.journal.append id record with
  | (.ok (), journal) =>
    ({ shared with journal := journal, creating := shared.wroteRow party id }, .ok ())
  | (.error error, journal) => ({ shared with journal := journal }, .error error)

def appendTerminal (id : ResourceFlightId) (result : ResourceActionResult) :
    Shared Cell Memory × Except JournalError TerminalAppendOutcome :=
  match shared.journal.appendTerminal id result with
  | (.ok (.appended records), journal) =>
    ({ shared with
      journal := journal
      settledBy := Function.update shared.settledBy id (some party)
      creating := shared.wroteRow party id }, .ok (.appended records))
  | (.ok (.alreadySettled existing), journal) =>
    ({ shared with journal := journal }, .ok (.alreadySettled existing))
  | (.error error, journal) => ({ shared with journal := journal }, .error error)

def reserveFlight :
    Shared Cell Memory × Except JournalError ReservationOutcome :=
  match shared.journal.reserveFlight reservation with
  | (.ok .created, journal) =>
    ({ shared with
      journal := journal
      creating := Function.update shared.creating party (some reservation) }, .ok .created)
  | (.ok (.existing stored), journal) =>
    ({ shared with journal := journal }, .ok (.existing stored))
  | (.error error, journal) => ({ shared with journal := journal }, .error error)

def rollbackEmptyReservation :
    Shared Cell Memory × Except JournalError Bool :=
  ({ shared with
    journal := (shared.journal.rollbackEmptyReservation reservation).2
    creating := shared.gaveUp party reservation },
    (shared.journal.rollbackEmptyReservation reservation).1)

end Shared

section

variable [DecidableEq Cell]

def serve (party : Nat) (shared : Shared Cell Memory) :
    (request : Call Cell Memory) → Choice → Option (Shared Cell Memory × request.Reply)
  | .lock cell, _ =>
    if shared.holder cell = none then
      some ({ shared with holder := Function.update shared.holder cell (some party) },
        shared.memory cell)
    else none
  | .unlock cell memory, _ =>
    if shared.holder cell = some party then
      some ({ shared with
        memory := Function.update shared.memory cell memory
        holder := Function.update shared.holder cell none }, ())
    else none
  | .await cell ready, _ =>
    if shared.holder cell = none ∧ ready (shared.memory cell) then
      some (shared, shared.memory cell)
    else none
  | .records id, choice =>
    match choice.fault with
    | some error => some (shared, .error error)
    | none => some (shared, shared.journal.readRecords id)
  | .append id record, choice =>
    match choice.fault with
    | some error => some (shared, .error error)
    | none => some (shared.append party id record)
  | .appendTerminal id result, choice =>
    match choice.fault with
    | some error => some (shared, .error error)
    | none => some (shared.appendTerminal party id result)
  | .reserveFlight reservation, choice =>
    match choice.fault with
    | some error => some (shared, .error error)
    | none => some (shared.reserveFlight party reservation)
  | .listReservations, choice =>
    match choice.fault with
    | some error => some (shared, .error error)
    | none => some (shared, shared.journal.listReservations)
  | .rollbackEmptyReservation reservation, choice =>
    match choice.fault with
    | some error =>
      some ({ shared with creating := shared.gaveUp party reservation }, .error error)
    | none => some (shared.rollbackEmptyReservation party reservation)
  | .publish aggregation, _ =>
    some ({ shared with published := shared.published ++ [(party, aggregation)] }, ())
  | .elapsedMs, choice => some (shared, choice.now)

variable {party : Nat} {shared after : Shared Cell Memory} {choice : Choice} {id : ResourceFlightId}

theorem serve_append {record : JournalRecord} {reply : Except JournalError Unit}
    (served : serve party shared (.append id record) choice = some (after, reply)) :
    (reply = .ok () ∧ settledResult (shared.journal.records id) = none ∧
      admissionCheck (shared.journal.records id) shared.journal.cap record = .ok () ∧
      after = { shared with
        journal := shared.journal.push id record, creating := shared.wroteRow party id }) ∨
    ((∃ error, reply = .error error) ∧ after = shared) := by
  simp only [serve] at served
  split at served
  · rename_i error _
    cases served
    exact .inr ⟨⟨error, rfl⟩, rfl⟩
  · simp only [Shared.append] at served
    obtain ⟨taken, unsettled, checked⟩ | ⟨error, refused⟩ :=
      InMemoryJournal.append_effect shared.journal id record
    · rw [taken] at served
      cases served
      exact .inl ⟨rfl, unsettled, checked, rfl⟩
    · rw [refused] at served
      cases served
      exact .inr ⟨⟨error, rfl⟩, rfl⟩

theorem serve_append_terminal {result : ResourceActionResult}
    {reply : Except JournalError TerminalAppendOutcome} {row : JournalRecord}
    (terminal : row = InMemoryJournal.terminalRecord (shared.journal.records id) result)
    (served : serve party shared (.appendTerminal id result) choice = some (after, reply)) :
    (reply = .ok (.appended (shared.journal.records id ++ [row])) ∧
      settledResult (shared.journal.records id) = none ∧
      admissionCheck (shared.journal.records id) shared.journal.cap row = .ok () ∧
      after = { shared with
        journal := shared.journal.push id row
        settledBy := Function.update shared.settledBy id (some party)
        creating := shared.wroteRow party id }) ∨
    (∃ existing, settledResult (shared.journal.records id) = some existing ∧
      reply = .ok (.alreadySettled existing) ∧ after = shared) ∨
    ((∃ error, reply = .error error) ∧ after = shared) := by
  subst terminal
  simp only [serve] at served
  split at served
  · rename_i error _
    cases served
    exact .inr (.inr ⟨⟨error, rfl⟩, rfl⟩)
  · simp only [Shared.appendTerminal] at served
    obtain ⟨taken, unsettled, checked⟩ | ⟨existing, settled, same⟩ | ⟨error, refused⟩ :=
      InMemoryJournal.append_terminal_effect shared.journal id result
    · rw [taken] at served
      cases served
      exact .inl ⟨rfl, unsettled, checked, rfl⟩
    · rw [same] at served
      cases served
      exact .inr (.inl ⟨existing, settled, rfl, rfl⟩)
    · rw [refused] at served
      cases served
      exact .inr (.inr ⟨⟨error, rfl⟩, rfl⟩)

end

/-! ### Publication and recovery -/

inductive ResourceFlightState where
  | opened
  | admissionClosed
  | intentJournaled
  | signaling
  | settled (result : ResourceActionResult)
  deriving DecidableEq

inductive FlightError where
  | journal (error : JournalError)
  | admissionClosed
  | ownerNotAttached
  | transitionRefused (state : ResourceFlightState)
  | processTreeKeyMismatch
  | reservationAttemptMismatch
  | reservationUnavailable (resourceFlightId : ResourceFlightId)
  | containerIdentityKeyMismatch
  | terminalRefusal (cause : JournalError)
  deriving DecidableEq

/-- A set of owners in the order of a `BTreeSet`. -/
abbrev OwnerSet := List ResourceFlightOwner

namespace OwnerSet

def insert (owners : OwnerSet) (owner : ResourceFlightOwner) : OwnerSet :=
  if owner ∈ owners then owners
  else List.orderedInsert (fun left right => compare left right ≠ .gt) owner owners

def extend (owners : OwnerSet) (others : List ResourceFlightOwner) : OwnerSet :=
  others.foldl insert owners

variable {owners : OwnerSet} {owner : ResourceFlightOwner}

theorem mem_insert {other : ResourceFlightOwner} :
    other ∈ owners.insert owner ↔ other = owner ∨ other ∈ owners := by
  unfold insert
  split
  · rename_i present
    constructor
    · exact .inr
    · rintro (rfl | inside)
      · exact present
      · exact inside
  · exact List.mem_orderedInsert _

theorem nodup_insert (distinct : owners.Nodup) : (owners.insert owner).Nodup := by
  unfold insert
  split
  · exact distinct
  · rename_i absent
    exact (List.perm_orderedInsert _ owner owners).nodup_iff.mpr
      (List.nodup_cons.mpr ⟨absent, distinct⟩)

theorem mem_extend {others : List ResourceFlightOwner} :
    owner ∈ owners.extend others ↔ owner ∈ owners ∨ owner ∈ others := by
  unfold extend
  induction others generalizing owners with
  | nil => simp
  | cons first rest ih =>
    rw [List.foldl_cons, ih, mem_insert, List.mem_cons]
    tauto

theorem nodup_extend (distinct : owners.Nodup)
    (others : List ResourceFlightOwner) : (owners.extend others).Nodup := by
  induction others generalizing owners with
  | nil => exact distinct
  | cons first rest ih => exact ih (nodup_insert distinct)

end OwnerSet

def collateralDisposition (recipientCount : Nat) (result : ResourceActionResult) :
    CollateralDisposition :=
  if recipientCount < 2 then .none
  else
    match result.disposition with
    | .complete => .complete
    | .partially | .failed => .partially
    | .unknown => .unknown
    | .notNeeded => .none

abbrev Routine (Cell Memory α : Type) := Program (@Call.Reply Cell Memory) α

def Routine.call (request : Call Cell Memory) : Routine Cell Memory request.Reply :=
  Program.perform request

def publishEach (resourceFlightId : ResourceFlightId) (result : ResourceActionResult)
    (collateral : CollateralDisposition) (count : Nat) :
    List ResourceFlightOwner → Routine Cell Memory Unit
  | [] => pure ()
  | owner :: rest => do
    Routine.call (.publish ⟨owner, resourceFlightId, result, collateral, count⟩)
    publishEach resourceFlightId result collateral count rest

def publishResult (resourceFlightId : ResourceFlightId) (recipients : List ResourceFlightOwner)
    (result : ResourceActionResult) : Routine Cell Memory Unit :=
  publishEach resourceFlightId result (collateralDisposition recipients.length result)
    recipients.length recipients

inductive JournaledRecovery where
  | existing (result : ResourceActionResult)
  | won (result : ResourceActionResult) (recipients : OwnerSet)

def JournalEvent.isIntent : JournalEvent → Bool
  | .intentJournaled _ _ _ => true
  | _ => false

/-- The owners a row of the journal adds to those told of the result. -/
def JournalEvent.recipients : JournalEvent → List ResourceFlightOwner
  | .intentJournaled _ ownerSnapshot _ => ownerSnapshot
  | .collateralDiscovered owner => [owner]
  | _ => []

def recordedRecipients (records : List JournalRecord) : OwnerSet :=
  records.foldl (fun recipients row => recipients.extend row.event.recipients) []

variable (id : ResourceFlightId)

def recoverJournaledIntentAsUnknown (durationMs : Nat) :
    Routine Cell Memory (Except FlightError (Option JournaledRecovery)) := do
  match ← Routine.call (.records id) with
  | .error error => pure (.error (.journal error))
  | .ok rows =>
    match settledResult rows with
    | some existing => pure (.ok (some (.existing existing)))
    | none =>
      if rows.any fun row => row.event.isIntent then
        let result : ResourceActionResult := ⟨.unknown, durationMs, none, none⟩
        match ← Routine.call (.appendTerminal id result) with
        | .error error => pure (.error (.journal error))
        | .ok (.appended records) =>
          pure (.ok (some (.won result (recordedRecipients records))))
        | .ok (.alreadySettled existing) => pure (.ok (some (.existing existing)))
      else pure (.ok none)

def recoverDeadJournaledIntentAsUnknown (durationMs : Nat) :
    Routine Cell Memory (Except FlightError (Option ResourceActionResult)) := do
  match ← recoverJournaledIntentAsUnknown id durationMs with
  | .error error => pure (.error error)
  | .ok (some (.won result recipients)) =>
    publishResult id recipients result
    pure (.ok (some result))
  | .ok (some (.existing _)) | .ok none => pure (.ok none)

/-- What a registry makes of a reservation that another party holds: the terminal result, and
the owners to tell of it where this party has just written it. -/
def recoveredReservation (attemptId : String) (reservation : ReservationRecord) :
    Routine Cell Memory (Except FlightError (ResourceActionResult × Option OwnerSet)) := do
  if reservation.attemptId ≠ attemptId then pure (.error .reservationAttemptMismatch)
  else
    let now ← Routine.call .elapsedMs
    match ← recoverJournaledIntentAsUnknown reservation.resourceFlightId now with
    | .error error => pure (.error error)
    | .ok (some (.existing result)) => pure (.ok (result, none))
    | .ok (some (.won result recipients)) => pure (.ok (result, some recipients))
    | .ok none => pure (.error (.reservationUnavailable reservation.resourceFlightId))

def publishDeferred (result : ResourceActionResult) :
    Option OwnerSet → Routine Cell Memory Unit
  | some recipients => publishResult id recipients result
  | none => pure ()

/-! ### A live flight -/

structure Flight where
  id : ResourceFlightId
  attemptId : String
  key : ResourceFlightKey
  deriving DecidableEq

structure FlightMemory where
  state : ResourceFlightState
  owners : OwnerSet
  snapshot : OwnerSet
  collateral : OwnerSet
  delivered : OwnerSet
  processLifecycleReserved : Bool
  requestLifecycleReserved : Bool
  sequence : Nat
  nextGuard : Nat
  guards : List Nat
  refusal : Option JournalError
  deriving DecidableEq

def FlightMemory.new : FlightMemory := ⟨.opened, [], [], [], [], false, false, 1, 1, [], none⟩

def FlightMemory.joinable (memory : FlightMemory) : Bool :=
  memory.refusal.isSome || match memory.state with | .settled _ => true | _ => false

structure Settlement where
  result : ResourceActionResult
  recipients : List ResourceFlightOwner
  appended : Bool

/-- A guard of this flight or of another one, with its token. -/
structure RetainedGuard where
  ofThisFlight : Bool
  token : Nat
  deriving DecidableEq

inductive CleanupDeadlineTransfer where
  | notDue (guard : RetainedGuard)
  | transferred (recoveryOwner : RecoveryOwner) (guard : RetainedGuard)
  | unknown (result : ResourceActionResult) (guard : RetainedGuard)
      (proof : Option ResourceFlightId)
  deriving DecidableEq

/-- The calls of a flight, whose one mutex guards its memory. -/
abbrev FlightFlow := Routine Unit FlightMemory

/-- What is done while the mutex is held. The memory changes even where it fails. -/
abbrev Locked := ExceptT FlightError (StateT FlightMemory FlightFlow)

def Locked.call (request : Call Unit FlightMemory) : Locked request.Reply :=
  ExceptT.lift (StateT.lift (Routine.call request))

def locked {α : Type} (section_ : Locked α) : FlightFlow (Except FlightError α) := do
  let memory ← Routine.call (.lock ())
  let (result, memory) ← StateT.run (ExceptT.run section_) memory
  Routine.call (.unlock () memory)
  pure result

namespace Flight

variable (flight : Flight)

def append (event : JournalEvent) : Locked Unit := do
  let memory ← get
  match ← Locked.call
      (.append flight.id ⟨RESOURCE_FLIGHT_JOURNAL_SCHEMA_V1, memory.sequence, event⟩) with
  | .error error => throw (.journal error)
  | .ok () => set { memory with sequence := saturatingAdd memory.sequence 1 }

def adoptDurableTerminalLocked : Locked (Option ResourceActionResult) := do
  match ← Locked.call (.records flight.id) with
  | .error cause =>
    modify fun memory => { memory with refusal := some cause }
    throw (.terminalRefusal cause)
  | .ok rows =>
    match settledResult rows with
    | none => pure none
    | some result =>
      modify fun memory =>
        { memory with sequence := sequenceOf (rows.length + 1), state := .settled result }
      pure (some result)

def refuseTransition {α : Type} : Locked α := do
  let memory ← get
  throw (.transitionRefused memory.state)

variable (owner : ResourceFlightOwner)

def attachOwner : Locked Bool := do
  let memory ← get
  if memory.state ≠ .opened then throw .admissionClosed
  else if owner ∈ memory.owners then pure false
  else
    flight.append (.ownerAttached owner)
    modify fun memory => { memory with owners := memory.owners.insert owner }
    pure true

def attachOwnerLegacyV2 : Locked Bool := do
  let memory ← get
  if memory.state ≠ .opened then throw .admissionClosed
  else
    set { memory with owners := memory.owners.insert owner }
    pure (decide (owner ∉ memory.owners))

def detachOwner : Locked Bool := do
  let memory ← get
  if memory.state ≠ .opened then throw .admissionClosed
  else if owner ∉ memory.owners then pure false
  else
    set { memory with owners := memory.owners.erase owner }
    try flight.append (.ownerDetached owner)
    catch error =>
      modify fun memory => { memory with owners := memory.owners.insert owner }
      throw error
    pure true

def detachOwnerLegacyV2 : Locked Bool := do
  let memory ← get
  if memory.state ≠ .opened then throw .admissionClosed
  else
    set { memory with owners := memory.owners.erase owner }
    pure (decide (owner ∈ memory.owners))

def reserveProcessLifecycle : Locked Unit := do
  let memory ← get
  if memory.state ≠ .opened then throw .admissionClosed
  else if memory.processLifecycleReserved then pure ()
  else
    flight.append (.processLifecycleReserved PROCESS_LIFECYCLE_SLOTS)
    modify fun memory => { memory with processLifecycleReserved := true }

def closeAdmission : Locked OwnerSet := do
  let memory ← get
  if memory.state ≠ .opened then refuseTransition
  else
    set { memory with snapshot := memory.owners, state := .admissionClosed }
    pure memory.owners

def journalIntent (intent : ResourceActionIntent) : Locked Unit := do
  let memory ← get
  if memory.state ≠ .admissionClosed then refuseTransition
  else if intent.initiator ∉ memory.snapshot then throw .ownerNotAttached
  else
    flight.append (.intentJournaled intent memory.snapshot
      (if memory.processLifecycleReserved || memory.requestLifecycleReserved then 0
        else LIFECYCLE_SLOTS))
    modify fun memory => { memory with state := .intentJournaled }

def discoverCollateralOwner : Locked Bool := do
  let memory ← get
  if memory.state ≠ .admissionClosed ∧ memory.state ≠ .intentJournaled ∧
      memory.state ≠ .signaling then refuseTransition
  else if owner ∈ memory.snapshot ∨ owner ∈ memory.collateral then pure false
  else
    flight.append (.collateralDiscovered owner)
    modify fun memory => { memory with collateral := memory.collateral.insert owner }
    pure true

def beginJournaledDispatch : Locked Unit := do
  if (← flight.adoptDurableTerminalLocked).isSome then refuseTransition
  else
    let memory ← get
    if memory.state ≠ .intentJournaled then refuseTransition
    else
      try flight.append .dispatchStarted
      catch error =>
        if (← flight.adoptDurableTerminalLocked).isSome then refuseTransition
        else throw error
      modify fun memory => { memory with state := .signaling }

/-- Evidence is written in the one state that takes it. -/
def journalEvidence (state : ResourceFlightState) (event : JournalEvent) : Locked Unit := do
  let memory ← get
  if memory.state ≠ state then refuseTransition
  else flight.append event

def journalProcessSignals (observations : List ProcessSignalObservation) : Locked Unit :=
  flight.journalEvidence .signaling (.processSignalsObserved observations)

def journalContainerRemoval (observation : ContainerRemovalObservation) : Locked Unit :=
  flight.journalEvidence .signaling (.containerRemovalObserved observation)

def journalProcessBindingFailure (stage : ProcessBindingStage) (pid : Option UInt32) :
    Locked Unit :=
  flight.journalEvidence .opened (.processBindingFailed stage pid)

/-- The key is compared before the mutex is taken. -/
def journalProcessTree (identity : ResourceIdentity) : FlightFlow (Except FlightError Unit) :=
  if ResourceFlightKey.fromIdentity identity ≠ flight.key then
    pure (.error .processTreeKeyMismatch)
  else locked (flight.journalEvidence .opened (.processTreeCaptured identity))

def journalContainerIdentity (identity : ResourceIdentity) :
    FlightFlow (Except FlightError Unit) :=
  match identity with
  | .managedContainer _ _ _ _ =>
    if ResourceFlightKey.fromIdentity identity ≠ flight.key then
      pure (.error .containerIdentityKeyMismatch)
    else locked (flight.journalEvidence .opened (.containerIdentityCaptured identity))
  | _ => pure (.error .containerIdentityKeyMismatch)

def settleLocked (proposed : ResourceActionResult) : Locked Settlement := do
  let memory ← get
  match memory.refusal with
  | some cause => throw (.terminalRefusal cause)
  | none =>
    if memory.state ≠ .signaling then refuseTransition
    else
      match ← flight.adoptDurableTerminalLocked with
      | some existing => pure ⟨existing, [], false⟩
      | none =>
        match ← Locked.call (.appendTerminal flight.id proposed) with
        | .ok (.appended _) =>
          let memory ← get
          let targets := memory.snapshot.extend memory.collateral
          set { memory with
            sequence := saturatingAdd memory.sequence 1
            state := .settled proposed
            delivered := memory.delivered.extend targets }
          pure ⟨proposed, targets.filter fun owner => owner ∉ memory.delivered, true⟩
        | .ok (.alreadySettled existing) =>
          modify fun memory => { memory with state := .settled existing }
          pure ⟨existing, [], false⟩
        | .error cause =>
          modify fun memory => { memory with refusal := some cause }
          throw (.terminalRefusal cause)

def settle (result : ResourceActionResult) :
    FlightFlow (Except FlightError ResourceActionResult) := do
  match ← locked (flight.settleLocked result) with
  | .error error => pure (.error error)
  | .ok settlement =>
    publishResult flight.id settlement.recipients settlement.result
    pure (.ok settlement.result)

def readState : Locked ResourceFlightState := do
  let memory ← get
  match memory.refusal with
  | some cause => throw (.terminalRefusal cause)
  | none => pure memory.state

/-- The result already durable, or none once the flight is made ready to settle. -/
def beginFailedSettlement : Locked (Option ResourceActionResult) := do
  match ← flight.adoptDurableTerminalLocked with
  | some existing => pure (some existing)
  | none =>
    let memory ← get
    if memory.state ≠ .opened ∧ memory.state ≠ .admissionClosed ∧
        memory.state ≠ .intentJournaled then refuseTransition
    else
      set { memory with
        snapshot :=
          if memory.state = ResourceFlightState.opened then memory.owners else memory.snapshot
        state := .signaling }
      pure none

def settleFailedBeforeDispatch (result : ResourceActionResult) :
    FlightFlow (Except FlightError ResourceActionResult) := do
  if result.disposition ≠ .failed then
    match ← locked readState with
    | .error error => pure (.error error)
    | .ok state => pure (.error (.transitionRefused state))
  else
    match ← locked flight.beginFailedSettlement with
    | .error error => pure (.error error)
    | .ok (some existing) => pure (.ok existing)
    | .ok none => flight.settle result

def joinBlocking : FlightFlow (Except FlightError ResourceActionResult) := do
  let memory ← Routine.call (.await () FlightMemory.joinable)
  match memory.refusal, memory.state with
  | some cause, _ => pure (.error (.terminalRefusal cause))
  | none, .settled result => pure (.ok result)
  | none, state => pure (.error (.transitionRefused state))

def retain : Locked RetainedGuard := do
  let memory ← get
  set { memory with
    nextGuard := saturatingAdd memory.nextGuard 1
    guards := if memory.nextGuard ∈ memory.guards then memory.guards
      else memory.guards ++ [memory.nextGuard] }
  pure ⟨true, memory.nextGuard⟩

variable (guard : RetainedGuard)

/-- The drop of a guard touches the flight it belongs to. -/
def dropGuard : FlightFlow Unit := do
  if guard.ofThisFlight then
    let _ ← locked (modify fun memory =>
      { memory with guards := memory.guards.erase guard.token } : Locked Unit)
    pure ()
  else pure ()

def settleUnknown : FlightFlow (Except FlightError ResourceActionResult) := do
  let now ← Routine.call .elapsedMs
  flight.settle ⟨.unknown, now, none, none⟩

inductive TransferStep where
  | ownerless
  | settled (existing : ResourceActionResult)
  | settlement (settlement : Settlement)

def transferLocked (deadlineMs : Nat) (guard : RetainedGuard) (recoveryOwner : RecoveryOwner)
    (result : ResourceActionResult) : Locked TransferStep := do
  let memory ← get
  if guard.token ∉ memory.guards then pure .ownerless
  else
    match ← flight.adoptDurableTerminalLocked with
    | some existing => pure (.settled existing)
    | none =>
      let memory ← get
      if memory.state ≠ .signaling then refuseTransition
      else
        let refused ← (try
            flight.append (.guardTransferred recoveryOwner deadlineMs)
            pure none
          catch error => pure (some error) : Locked (Option FlightError))
        match refused with
        | some error =>
          match ← flight.adoptDurableTerminalLocked with
          | some existing => pure (.settled existing)
          | none => throw error
        | none =>
          let settlement ← flight.settleLocked result
          pure (.settlement settlement)

/-- A refused transfer drops the guard it was given. -/
def transferRefused (error : FlightError) :
    FlightFlow (Except FlightError CleanupDeadlineTransfer) := do
  dropGuard guard
  pure (.error error)

def transferUnknown (proof : Option ResourceFlightId) :
    FlightFlow (Except FlightError CleanupDeadlineTransfer) := do
  match ← flight.settleUnknown with
  | .error error => transferRefused guard error
  | .ok result => pure (.ok (.unknown result guard proof))

def recoveryOwner (reason : String) : RecoveryOwner := ⟨flight.attemptId, flight.id, reason⟩

def transferCleanupDeadline (deadlineMs : Nat) (guard : RetainedGuard) (reason : String) :
    FlightFlow (Except FlightError CleanupDeadlineTransfer) := do
  let now ← Routine.call .elapsedMs
  if now < deadlineMs then pure (.ok (.notDue guard))
  else if guard.ofThisFlight = false then flight.transferUnknown guard none
  else
    let now ← Routine.call .elapsedMs
    let result : ResourceActionResult := ⟨.partially, now, some (flight.recoveryOwner reason), none⟩
    match ← locked
        (flight.transferLocked deadlineMs guard (flight.recoveryOwner reason) result) with
    | .error error => transferRefused guard error
    | .ok .ownerless => flight.transferUnknown guard (some flight.id)
    | .ok (.settled existing) => pure (.ok (.unknown existing guard none))
    | .ok (.settlement settlement) =>
      publishResult flight.id settlement.recipients settlement.result
      if settlement.appended then
        pure (.ok (.transferred (flight.recoveryOwner reason) guard))
      else pure (.ok (.unknown settlement.result guard none))

def transferCleanupDeadlineNow (reason : String) :
    FlightFlow (Except FlightError CleanupDeadlineTransfer) := do
  match ← locked retain with
  | .error error => pure (.error error)
  | .ok guard =>
    let deadlineMs ← Routine.call .elapsedMs
    flight.transferCleanupDeadline deadlineMs guard reason

end Flight

/-! ### The parties of a flight -/

/-- An operation on the live flight, or a recovery from its journal. -/
inductive FlightOp where
  | attachOwner (owner : ResourceFlightOwner)
  | attachOwnerLegacyV2 (owner : ResourceFlightOwner)
  | detachOwner (owner : ResourceFlightOwner)
  | detachOwnerLegacyV2 (owner : ResourceFlightOwner)
  | reserveProcessLifecycle
  | closeAdmission
  | journalIntent (intent : ResourceActionIntent)
  | discoverCollateralOwner (owner : ResourceFlightOwner)
  | beginJournaledDispatch
  | journalProcessSignals (observations : List ProcessSignalObservation)
  | journalContainerRemoval (observation : ContainerRemovalObservation)
  | journalProcessBindingFailure (stage : ProcessBindingStage) (pid : Option UInt32)
  | journalProcessTree (identity : ResourceIdentity)
  | journalContainerIdentity (identity : ResourceIdentity)
  | settle (result : ResourceActionResult)
  | settleFailedBeforeDispatch (result : ResourceActionResult)
  | joinBlocking
  | readState
  | retain
  | dropGuard (guard : RetainedGuard)
  | transferCleanupDeadline (deadlineMs : Nat) (guard : RetainedGuard) (reason : String)
  | transferCleanupDeadlineNow (reason : String)
  | recoverDead (durationMs : Nat)
  | recoverReservation (attemptId : String)
  deriving DecidableEq

inductive FlightAnswer where
  | refused (error : FlightError)
  | done
  | changed (flag : Bool)
  | owners (snapshot : OwnerSet)
  | settlement (result : ResourceActionResult)
  | state (state : ResourceFlightState)
  | guard (guard : RetainedGuard)
  | transfer (transfer : CleanupDeadlineTransfer)
  | recovered (result : Option ResourceActionResult)
  deriving DecidableEq

/-- The result an answer reports as the flight's settlement. -/
def FlightAnswer.settled : FlightAnswer → Option ResourceActionResult
  | settlement result => some result
  | state (.settled result) => some result
  | transfer (.unknown result _ _) => some result
  | recovered result => result
  | _ => none

def answering {α : Type} (wrap : α → FlightAnswer) (program : FlightFlow (Except FlightError α)) :
    FlightFlow FlightAnswer := do
  match ← program with
  | .error error => pure (.refused error)
  | .ok value => pure (wrap value)

variable (flight : Flight)

def Flight.recoverReservation (attemptId : String) :
    FlightFlow (Except FlightError ResourceActionResult) := do
  match ← recoveredReservation attemptId
      ⟨RESOURCE_FLIGHT_JOURNAL_SCHEMA_V1, flight.key, flight.attemptId, flight.id⟩ with
  | .error error => pure (.error error)
  | .ok (result, deferred) =>
    publishDeferred flight.id result deferred
    pure (.ok result)

def Flight.body : FlightOp → FlightFlow FlightAnswer
  | .attachOwner owner => answering .changed (locked (flight.attachOwner owner))
  | .attachOwnerLegacyV2 owner => answering .changed (locked (attachOwnerLegacyV2 owner))
  | .detachOwner owner => answering .changed (locked (flight.detachOwner owner))
  | .detachOwnerLegacyV2 owner => answering .changed (locked (detachOwnerLegacyV2 owner))
  | .reserveProcessLifecycle => answering (fun _ => .done) (locked flight.reserveProcessLifecycle)
  | .closeAdmission => answering .owners (locked closeAdmission)
  | .journalIntent intent => answering (fun _ => .done) (locked (flight.journalIntent intent))
  | .discoverCollateralOwner owner =>
    answering .changed (locked (flight.discoverCollateralOwner owner))
  | .beginJournaledDispatch => answering (fun _ => .done) (locked flight.beginJournaledDispatch)
  | .journalProcessSignals observations =>
    answering (fun _ => .done) (locked (flight.journalProcessSignals observations))
  | .journalContainerRemoval observation =>
    answering (fun _ => .done) (locked (flight.journalContainerRemoval observation))
  | .journalProcessBindingFailure stage pid =>
    answering (fun _ => .done) (locked (flight.journalProcessBindingFailure stage pid))
  | .journalProcessTree identity => answering (fun _ => .done) (flight.journalProcessTree identity)
  | .journalContainerIdentity identity =>
    answering (fun _ => .done) (flight.journalContainerIdentity identity)
  | .settle result => answering .settlement (flight.settle result)
  | .settleFailedBeforeDispatch result =>
    answering .settlement (flight.settleFailedBeforeDispatch result)
  | .joinBlocking => answering .settlement joinBlocking
  | .readState => answering .state (locked readState)
  | .retain => answering .guard (locked retain)
  | .dropGuard guard => do
    dropGuard guard
    pure .done
  | .transferCleanupDeadline deadlineMs guard reason =>
    answering .transfer (flight.transferCleanupDeadline deadlineMs guard reason)
  | .transferCleanupDeadlineNow reason =>
    answering .transfer (flight.transferCleanupDeadlineNow reason)
  | .recoverDead durationMs =>
    answering .recovered (recoverDeadJournaledIntentAsUnknown flight.id durationMs)
  | .recoverReservation attemptId =>
    answering .settlement (flight.recoverReservation attemptId)

/-- A party that stops in the middle of an operation leaves the flight's mutex as it is. -/
def flightService : Service (@Call.Reply Unit FlightMemory) (Shared Unit FlightMemory) Choice :=
  ⟨serve, fun _ shared => shared⟩

abbrev FlightWorld := World (@Call.Reply Unit FlightMemory) (Shared Unit FlightMemory) FlightOp FlightAnswer

/-- The flight as its creation leaves it once the first row is written: nobody is at it yet. -/
def Flight.create (journal : InMemoryJournal) : Except JournalError FlightWorld :=
  match journal.append flight.id ⟨RESOURCE_FLIGHT_JOURNAL_SCHEMA_V1, FlightMemory.new.sequence,
      .flightReserved flight.key flight.attemptId⟩ with
  | (.error error, _) => .error error
  | (.ok (), journal) =>
    .ok
      { shared :=
          { journal := journal
            memory := fun _ => { FlightMemory.new with
              sequence := saturatingAdd FlightMemory.new.sequence 1
              requestLifecycleReserved := match flight.key with
                | .dedicatedRemoteRequest _ => true
                | _ => false }
            holder := fun _ => none
            published := []
            settledBy := fun _ => none
            creating := fun _ => none }
        parties := [] }

/-- An operation is started as this party and makes so many calls, at the fifth millisecond. -/
def turns (party : Nat) (op : FlightOp) (calls : Nat) : List (Event FlightOp Choice) :=
  .start op :: List.replicate calls (.act party ⟨none, 5⟩)

def sampleRetained : Flight := ⟨sampleFlight, "attempt-1", .acpGeneration "generation-1"⟩

def sampleCreated : FlightWorld := (sampleRetained.create (InMemoryJournal.new 32)).toOption.get rfl

end A2aBridge.Flights
