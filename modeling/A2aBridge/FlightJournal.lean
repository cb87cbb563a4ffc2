import A2aBridge.MachineWords
import A2aBridge.Runs
import Mathlib.Data.List.AList
import Mathlib.Data.List.Range
import Mathlib.Data.List.Sort

/-!
The journal of retained resource flights in bridge-core/retained_resource_flight.rs: its
rows, the lifecycle slots that rows reserve and draw, the admission of one row, and the
journal kept in memory. Bounded texts and digests are plain strings here: no function of
the journal looks into them. A `usize` has 64 bits.
-/

namespace A2aBridge.Flights

def RESOURCE_FLIGHT_JOURNAL_SCHEMA_V1 : UInt16 := 1
def MAX_DISCOVERED_RESOURCE_FLIGHT_RESERVATIONS : Nat := 4096
def LIFECYCLE_SLOTS : UInt8 := 4
def PROCESS_LIFECYCLE_SLOTS : UInt8 := 7

structure ResourceFlightOwner where
  nodeId : String
  ownerKey : String
  deriving DecidableEq, Ord

structure ResourceFlightId where
  value : String
  deriving DecidableEq

inductive ResourceFlightKey where
  | acpGeneration (generation : String)
  | containerGeneration (generation : String)
  | dedicatedRemoteRequest (requestId : String)
  deriving DecidableEq, Ord

structure ProcessStartIdentity where
  pid : UInt32
  startTimeTicks : UInt64
  executableSha256 : Option String
  deriving DecidableEq

inductive ResourceIdentity where
  | acpProcess (generation spawnNonceSha256 : String) (pid : UInt32) (pgid : Option UInt32)
      (immutableStart : ProcessStartIdentity)
  | managedContainer (generation runtime immutableContainerId ownershipLabelsDigest : String)
  | dedicatedRemoteRequest (requestId : String)
  deriving DecidableEq

def ResourceFlightKey.fromIdentity : ResourceIdentity → ResourceFlightKey
  | .acpProcess generation _ _ _ _ => .acpGeneration generation
  | .managedContainer generation _ _ _ => .containerGeneration generation
  | .dedicatedRemoteRequest requestId => .dedicatedRemoteRequest requestId

structure ResourceActionIntent where
  initiator : ResourceFlightOwner
  capabilityDigest : String
  cause : Option String
  deriving DecidableEq

structure ContainerRemovalObservation where
  immutableContainerId : String
  observedNoncanonicalA2aLabels : List (String × String)
  removed : Bool
  failureCode : Option String
  deriving DecidableEq

structure ProcessSignalObservation where
  pid : UInt32
  expectedStartTimeTicks : UInt64
  signal : Int
  returnCode : Int
  errno : Option Int
  deriving DecidableEq

inductive ProcessBindingStage where
  | spawn
  | immutableStart
  | journalBinding
  deriving DecidableEq

inductive ResourceActionDisposition where
  | complete
  | partially
  | failed
  | unknown
  | notNeeded
  deriving DecidableEq

structure RecoveryOwner where
  attemptId : String
  resourceFlightId : ResourceFlightId
  reason : String
  deriving DecidableEq

structure ResourceActionResult where
  disposition : ResourceActionDisposition
  durationMs : Nat
  recoveryOwner : Option RecoveryOwner
  cause : Option String
  deriving DecidableEq

inductive JournalEvent where
  | flightReserved (key : ResourceFlightKey) (attemptId : String)
  | ownerAttached (owner : ResourceFlightOwner)
  | ownerDetached (owner : ResourceFlightOwner)
  | processLifecycleReserved (reservedLifecycleSlots : UInt8)
  | processTreeCaptured (identity : ResourceIdentity)
  | containerIdentityCaptured (identity : ResourceIdentity)
  | remoteRequestIdentityCaptured (identity : ResourceIdentity) (owner : ResourceFlightOwner)
  | processBindingFailed (stage : ProcessBindingStage) (pid : Option UInt32)
  | intentJournaled (intent : ResourceActionIntent) (ownerSnapshot : List ResourceFlightOwner)
      (reservedLifecycleSlots : UInt8)
  | collateralDiscovered (owner : ResourceFlightOwner)
  | dispatchStarted
  | processSignalsObserved (observations : List ProcessSignalObservation)
  | guardTransferred (recoveryOwner : RecoveryOwner) (deadlineMs : Nat)
  | containerRemovalObserved (observation : ContainerRemovalObservation)
  | settled (result : ResourceActionResult)
  deriving DecidableEq

variable {event : JournalEvent}

namespace JournalEvent

def reserved : JournalEvent → UInt8
  | flightReserved (.dedicatedRemoteRequest _) _ => LIFECYCLE_SLOTS
  | processLifecycleReserved slots => slots
  | intentJournaled _ _ slots => slots
  | _ => 0

def requiresReservedSlot : JournalEvent → Bool
  | dispatchStarted | processSignalsObserved _ | containerRemovalObserved _
  | guardTransferred _ _ | settled _ => true
  | _ => false

def consumesProcessReservationWhenPresent : JournalEvent → Bool
  | processTreeCaptured _ | containerIdentityCaptured _ | remoteRequestIdentityCaptured _ _
  | processBindingFailed _ _ | intentJournaled _ _ _ => true
  | ownerDetached owner => owner.nodeId == "process-spawn"
  | _ => false

/-- The slots a row draws where `before` are outstanding: a reserved row always draws one,
a row that may draw one does so only while there is one. -/
def consumed (event : JournalEvent) (before : Nat) : Nat :=
  if event.requiresReservedSlot ||
      (before != 0 && event.consumesProcessReservationWhenPresent) then 1 else 0

theorem consumed_zero : event.consumed 0 = 1 ↔ event.requiresReservedSlot = true := by
  simp [consumed]

end JournalEvent

structure JournalRecord where
  schemaVersion : UInt16
  sequence : Nat
  event : JournalEvent
  deriving DecidableEq

/-- The durable binding of a key to its flight. -/
structure ReservationRecord where
  schemaVersion : UInt16
  key : ResourceFlightKey
  attemptId : String
  resourceFlightId : ResourceFlightId
  deriving DecidableEq

inductive ReservationOutcome where
  | created
  | existing (reservation : ReservationRecord)
  deriving DecidableEq

inductive TerminalAppendOutcome where
  | appended (records : List JournalRecord)
  | alreadySettled (existing : ResourceActionResult)
  deriving DecidableEq

inductive JournalError where
  | full
  | sequence
  | accounting
  | schema
  | io
  | decode
  | encode
  deriving DecidableEq

/-- `u64::try_from(count).unwrap_or(u64::MAX)`, the number the row after `count - 1` others
must carry. -/
def sequenceOf (count : Nat) : Nat := min count U64_MAX

def checkedSub (left right : Nat) : Option Nat :=
  if right ≤ left then some (left - right) else none

variable {left before after slots : Nat} {record : JournalRecord} {rows : List JournalRecord}
  {cap : UInt64}

variable {right total index : Nat}

theorem checked_sub_some :
    checkedSub left right = some total ↔ right ≤ left ∧ total = left - right := by
  unfold checkedSub
  split <;> simp_all [eq_comm]

/-- The slots outstanding after a row, where `before` were outstanding ahead of it. -/
def slotsAfter (before : Nat) (event : JournalEvent) : Option Nat :=
  (checkedAdd before event.reserved.toNat).bind (checkedSub · (event.consumed before))

theorem slots_after_some :
    slotsAfter before event = some after ↔
      before + event.reserved.toNat < 2 ^ 64 ∧
      event.consumed before ≤ before + event.reserved.toNat ∧
      after = before + event.reserved.toNat - event.consumed before := by
  simp only [slotsAfter, Option.bind_eq_some_iff, checked_add_some, checked_sub_some]
  constructor
  · rintro ⟨total, ⟨fits, rfl⟩, drawn, rfl⟩
    exact ⟨fits, drawn, rfl⟩
  · rintro ⟨fits, drawn, rfl⟩
    exact ⟨_, ⟨fits, rfl⟩, drawn, rfl⟩

def replayRow (index slots : Nat) (record : JournalRecord) : Except JournalError Nat :=
  if record.schemaVersion ≠ RESOURCE_FLIGHT_JOURNAL_SCHEMA_V1 then .error .schema
  else if record.sequence ≠ sequenceOf (index + 1) then .error .sequence
  else
    match checkedAdd slots record.event.reserved.toNat with
    | none => .error .accounting
    | some total =>
      if record.event.consumed slots ≠ 0 then
        match checkedSub total (record.event.consumed slots) with
        | none => .error .accounting
        | some left => .ok left
      else .ok total

def replayRows (index slots : Nat) : List JournalRecord → Except JournalError Nat
  | [] => .ok slots
  | record :: rest =>
    match replayRow index slots record with
    | .error error => .error error
    | .ok left => replayRows (index + 1) left rest

variable (records : List JournalRecord)

def outstanding : Except JournalError Nat := replayRows 0 0 records

def JournalRecord.settledResult (record : JournalRecord) : Option ResourceActionResult :=
  match record.event with
  | .settled result => some result
  | _ => none

def settledResult : Option ResourceActionResult :=
  records.reverse.findSome? JournalRecord.settledResult

def admissionCheck (cap : UInt64) (record : JournalRecord) :
    Except JournalError Unit :=
  match outstanding records with
  | .error error => .error error
  | .ok slots =>
    if record.schemaVersion ≠ RESOURCE_FLIGHT_JOURNAL_SCHEMA_V1 then .error .schema
    else if record.sequence ≠ sequenceOf (records.length + 1) then .error .sequence
    else if record.event.consumed slots = 1 ∧ slots = 0 then .error .accounting
    else
      match slotsAfter slots record.event with
      | none => .error .accounting
      | some after =>
        match (checkedAdd records.length 1).bind (checkedAdd · after) with
        | none => .error .full
        | some needed => if needed > cap.toNat then .error .full else .ok ()

/-! ### Replay -/

/-- The row that may follow `index` rows which leave `before` slots outstanding, and the
slots it leaves. -/
structure Follows (index before after : Nat) (record : JournalRecord) : Prop where
  schema : record.schemaVersion = RESOURCE_FLIGHT_JOURNAL_SCHEMA_V1
  sequence : record.sequence = sequenceOf (index + 1)
  slots : slotsAfter before record.event = some after

theorem replay_row_ok :
    replayRow index before record = .ok after ↔ Follows index before after record := by
  constructor
  · intro replayed
    unfold replayRow at replayed
    split at replayed
    · cases replayed
    · rename_i schema
      split at replayed
      · cases replayed
      · rename_i sequence
        refine ⟨not_not.mp schema, not_not.mp sequence, ?_⟩
        unfold slotsAfter
        split at replayed
        · cases replayed
        · rename_i total added
          rw [added]
          split at replayed
          · split at replayed
            · cases replayed
            · rename_i drawn
              cases replayed
              exact drawn
          · rename_i none_drawn
            cases replayed
            simp [not_not.mp none_drawn, checkedSub]
  · intro follows
    obtain ⟨fits, drawn, rfl⟩ := slots_after_some.mp follows.slots
    have added : checkedAdd before record.event.reserved.toNat =
        some (before + record.event.reserved.toNat) := checked_add_some.mpr ⟨fits, rfl⟩
    have left : checkedSub (before + record.event.reserved.toNat)
        (record.event.consumed before) = some (before + record.event.reserved.toNat -
          record.event.consumed before) := checked_sub_some.mpr ⟨drawn, rfl⟩
    by_cases draws : record.event.consumed before = 0
    · simp [replayRow, follows.schema, follows.sequence, added, draws]
    · simp [replayRow, follows.schema, follows.sequence, added, left, draws]

theorem replay_rows_append (rows more : List JournalRecord) :
    replayRows index slots (rows ++ more) =
      match replayRows index slots rows with
      | .error error => .error error
      | .ok left => replayRows (index + rows.length) left more := by
  induction rows generalizing index slots with
  | nil => rfl
  | cons row rest ih =>
    simp only [List.cons_append, replayRows]
    cases replayRow index slots row with
    | error error => rfl
    | ok left =>
      simp only [ih, List.length_cons]
      rw [show index + 1 + rest.length = index + (rest.length + 1) by omega]

theorem replay_rows_sequences (replayed : replayRows index slots rows = .ok left) :
    rows.map JournalRecord.sequence = (List.range' (index + 1) rows.length).map sequenceOf := by
  induction rows generalizing index slots with
  | nil => rfl
  | cons row rest ih =>
    simp only [replayRows] at replayed
    cases read : replayRow index slots row with
    | error error => simp [read] at replayed
    | ok middle =>
      simp only [read] at replayed
      simp only [List.map_cons, List.length_cons, List.range'_succ]
      rw [(replay_row_ok.mp read).sequence, ih replayed]

/-! ### Admission -/

theorem admission_check_ok (replayed : outstanding rows = .ok slots) :
    admissionCheck rows cap record = .ok () ↔
      ∃ after, Follows rows.length slots after record ∧
        ¬ (record.event.consumed slots = 1 ∧ slots = 0) ∧
        rows.length + 1 + after ≤ cap.toNat := by
  constructor
  · intro checked
    simp only [admissionCheck, replayed] at checked
    split at checked
    · cases checked
    · rename_i schema
      split at checked
      · cases checked
      · rename_i sequence
        split_ifs at checked with drawable
        split at checked
        · cases checked
        · rename_i after left
          refine ⟨after, ⟨not_not.mp schema, not_not.mp sequence, left⟩, drawable, ?_⟩
          split at checked
          · cases checked
          · rename_i needed summed
            obtain ⟨first, firstIs, second⟩ := Option.bind_eq_some_iff.mp summed
            rw [checked_add_some] at firstIs second
            split_ifs at checked
            omega
  · rintro ⟨after, follows, drawable, room⟩
    have capFits : cap.toNat < 2 ^ 64 := cap.toNat_lt
    have first : checkedAdd rows.length 1 = some (rows.length + 1) :=
      checked_add_some.mpr ⟨by omega, rfl⟩
    have second : checkedAdd (rows.length + 1) after = some (rows.length + 1 + after) :=
      checked_add_some.mpr ⟨by omega, rfl⟩
    simp only [admissionCheck, replayed, follows.schema, follows.sequence, drawable,
      follows.slots, first, Option.bind_some, second]
    simp [room]

theorem admission_check_sequence (checked : admissionCheck rows cap record = .ok ()) :
    record.sequence = sequenceOf (rows.length + 1) := by
  cases replayed : outstanding rows with
  | error error =>
    rw [admissionCheck, replayed] at checked
    cases checked
  | ok slots =>
    obtain ⟨after, follows, -⟩ := (admission_check_ok replayed).mp checked
    exact follows.sequence

/-! ### The journal in memory -/

/-- A flight without a list of rows has none. -/
structure InMemoryJournal where
  cap : UInt64
  records : ResourceFlightId → List JournalRecord
  reservations : AList (fun _ : ResourceFlightKey => ReservationRecord)

namespace InMemoryJournal

def new (cap : UInt64) : InMemoryJournal := ⟨cap, fun _ => [], ∅⟩

def push (journal : InMemoryJournal) (id : ResourceFlightId) (record : JournalRecord) :
    InMemoryJournal :=
  { journal with records := Function.update journal.records id (journal.records id ++ [record]) }

variable (journal : InMemoryJournal) (reservation : ReservationRecord)

def reserveFlight :
    Except JournalError ReservationOutcome × InMemoryJournal :=
  if reservation.schemaVersion ≠ RESOURCE_FLIGHT_JOURNAL_SCHEMA_V1 then (.error .schema, journal)
  else
    match journal.reservations.lookup reservation.key with
    | some existing => (.ok (.existing existing), journal)
    | none =>
      (.ok .created, { journal with
        reservations := journal.reservations.insert reservation.key reservation })

/-- Every reservation, in the order of the keys. -/
def listReservations : Except JournalError (List ReservationRecord) :=
  if journal.reservations.entries.length > MAX_DISCOVERED_RESOURCE_FLIGHT_RESERVATIONS then
    .error .full
  else
    .ok ((journal.reservations.entries.map (·.2)).insertionSort
      fun left right => compare left.key right.key ≠ .gt)

def rollbackEmptyReservation :
    Except JournalError Bool × InMemoryJournal :=
  if journal.reservations.lookup reservation.key ≠ some reservation ∨
      journal.records reservation.resourceFlightId ≠ [] then (.ok false, journal)
  else
    (.ok true, { journal with reservations := journal.reservations.erase reservation.key })

variable (id : ResourceFlightId)

def append (record : JournalRecord) :
    Except JournalError Unit × InMemoryJournal :=
  if (settledResult (journal.records id)).isSome then (.error .accounting, journal)
  else
    match admissionCheck (journal.records id) journal.cap record with
    | .error error => (.error error, journal)
    | .ok () => (.ok (), journal.push id record)

def terminalRecord (rows : List JournalRecord) (result : ResourceActionResult) : JournalRecord :=
  ⟨RESOURCE_FLIGHT_JOURNAL_SCHEMA_V1, sequenceOf (rows.length + 1), .settled result⟩

def appendTerminal (result : ResourceActionResult) :
    Except JournalError TerminalAppendOutcome × InMemoryJournal :=
  let rows := journal.records id
  match settledResult rows with
  | some existing => (.ok (.alreadySettled existing), journal)
  | none =>
    match admissionCheck rows journal.cap (terminalRecord rows result) with
    | .error error => (.error error, journal)
    | .ok () =>
      (.ok (.appended (rows ++ [terminalRecord rows result])),
        journal.push id (terminalRecord rows result))

def readRecords : Except JournalError (List JournalRecord) :=
  match outstanding (journal.records id) with
  | .error error => .error error
  | .ok _ => .ok (journal.records id)

end InMemoryJournal

inductive JournalCall where
  | reserveFlight (reservation : ReservationRecord)
  | rollbackEmptyReservation (reservation : ReservationRecord)
  | append (id : ResourceFlightId) (record : JournalRecord)
  | appendTerminal (id : ResourceFlightId) (result : ResourceActionResult)

def InMemoryJournal.step (journal : InMemoryJournal) : JournalCall → Option InMemoryJournal
  | .reserveFlight reservation => some (journal.reserveFlight reservation).2
  | .rollbackEmptyReservation reservation =>
    some (journal.rollbackEmptyReservation reservation).2
  | .append id record => some (journal.append id record).2
  | .appendTerminal id result => some (journal.appendTerminal id result).2

/-! ### Accounting -/

/-- No row stands after a settled one, so there is at most one. -/
def SettledLast (rows : List JournalRecord) : Prop :=
  ∀ before record after, rows = before ++ record :: after → record.settledResult.isSome → after = []

structure Accounted (cap : Nat) (rows : List JournalRecord) (slots : Nat) : Prop where
  replayed : outstanding rows = .ok slots
  room : rows.length + slots ≤ cap
  settledLast : SettledLast rows

theorem settled_result_append_one :
    settledResult (rows ++ [record]) = record.settledResult.or (settledResult rows) := by
  simp only [settledResult, List.reverse_append, List.reverse_cons, List.reverse_nil,
    List.nil_append, List.singleton_append, List.findSome?_cons]
  cases record.settledResult <;> rfl

theorem settled_last_append_one (unsettled : settledResult rows = none) :
    SettledLast (rows ++ [record]) := by
  intro before row after split settled
  rcases List.eq_nil_or_concat after with rfl | ⟨others, last, rfl⟩
  · rfl
  · -- the settled row would stand among the earlier ones
    rw [List.concat_eq_append, ← List.cons_append, ← List.append_assoc] at split
    have earlier := (List.append_inj' split rfl).1
    have inside : row ∈ rows := by rw [earlier]; simp
    rw [List.findSome?_eq_none_iff.mp unsettled row (List.mem_reverse.mpr inside)] at settled
    cases settled

theorem Accounted.nil (cap : Nat) : Accounted cap [] 0 where
  replayed := rfl
  room := by simp
  settledLast := by
    intro before record after split
    simp at split

variable (accounted : Accounted cap.toNat rows slots)

include accounted

theorem Accounted.push (unsettled : settledResult rows = none)
    (checked : admissionCheck rows cap record = .ok ()) :
    ∃ after, slotsAfter slots record.event = some after ∧
      Accounted cap.toNat (rows ++ [record]) after := by
  obtain ⟨after, follows, -, room⟩ := (admission_check_ok accounted.replayed).mp checked
  refine ⟨after, follows.slots, ?_, by simpa using room, settled_last_append_one unsettled⟩
  have replayed := accounted.replayed
  rw [outstanding] at replayed
  rw [outstanding, replay_rows_append]
  simp [replayed, replayRows, replay_row_ok.mpr follows]

theorem Accounted.admits_iff (record : JournalRecord) :
    admissionCheck rows cap record = .ok () ↔
      record.schemaVersion = RESOURCE_FLIGHT_JOURNAL_SCHEMA_V1 ∧
      record.sequence = rows.length + 1 ∧
      (record.event.requiresReservedSlot → 0 < slots) ∧
      ∃ after, slotsAfter slots record.event = some after ∧
        rows.length + 1 + after ≤ cap.toNat := by
  have capFits : cap.toNat < 2 ^ 64 := cap.toNat_lt
  rw [admission_check_ok accounted.replayed]
  constructor
  · rintro ⟨after, follows, drawable, room⟩
    refine ⟨follows.schema, ?_, ?_, after, follows.slots, room⟩
    · rw [follows.sequence]
      unfold sequenceOf U64_MAX
      omega
    · intro requires
      rcases Nat.eq_zero_or_pos slots with rfl | some_left
      · exact absurd ⟨JournalEvent.consumed_zero.mpr requires, rfl⟩ drawable
      · exact some_left
  · rintro ⟨schema, sequence, drawable, after, left, room⟩
    refine ⟨after, ⟨schema, ?_, left⟩, ?_, room⟩
    · unfold sequenceOf U64_MAX
      omega
    · rintro ⟨draws, rfl⟩
      exact absurd (drawable (JournalEvent.consumed_zero.mp draws)) (Nat.lt_irrefl 0)

theorem Accounted.sequences :
    rows.map JournalRecord.sequence = List.range' 1 rows.length := by
  rw [replay_rows_sequences accounted.replayed]
  -- no number of a row comes near the largest `u64`
  have below : ∀ number ∈ List.range' (0 + 1) rows.length, sequenceOf number = number := by
    intro number member
    have room := accounted.room
    have capFits : cap.toNat < 2 ^ 64 := cap.toNat_lt
    obtain ⟨position, inside, rfl⟩ := List.mem_range'.mp member
    unfold sequenceOf U64_MAX
    omega
  exact (List.map_congr_left below).trans (List.map_id _)

omit accounted

namespace InMemoryJournal

variable (journal : InMemoryJournal) (id : ResourceFlightId)

theorem append_effect (record : JournalRecord) :
    (journal.append id record = (.ok (), journal.push id record) ∧
      settledResult (journal.records id) = none ∧
      admissionCheck (journal.records id) journal.cap record = .ok ()) ∨
    ∃ error, journal.append id record = (.error error, journal) := by
  unfold append
  split
  · exact .inr ⟨_, rfl⟩
  · rename_i unsettled
    split
    · exact .inr ⟨_, rfl⟩
    · rename_i checked
      exact .inl ⟨rfl, by simpa using unsettled, checked⟩

theorem append_terminal_effect (result : ResourceActionResult) :
    (journal.appendTerminal id result =
        (.ok (.appended (journal.records id ++ [terminalRecord (journal.records id) result])),
          journal.push id (terminalRecord (journal.records id) result)) ∧
      settledResult (journal.records id) = none ∧
      admissionCheck (journal.records id) journal.cap
        (terminalRecord (journal.records id) result) = .ok ()) ∨
    (∃ existing, settledResult (journal.records id) = some existing ∧
      journal.appendTerminal id result = (.ok (.alreadySettled existing), journal)) ∨
    ∃ error, journal.appendTerminal id result = (.error error, journal) := by
  unfold appendTerminal
  dsimp only
  split
  · rename_i existing settled
    exact .inr (.inl ⟨existing, settled, rfl⟩)
  · rename_i unsettled
    split
    · exact .inr (.inr ⟨_, rfl⟩)
    · rename_i checked
      exact .inl ⟨rfl, unsettled, checked⟩

theorem push_records (record : JournalRecord) (other : ResourceFlightId) :
    (journal.push id record).records other =
      if other = id then journal.records id ++ [record] else journal.records other := by
  simp [push, Function.update_apply]

variable {journal id}

/-- Every flight's rows are accounted for within the capacity. -/
def Sound (cap : UInt64) (journal : InMemoryJournal) : Prop :=
  journal.cap = cap ∧ ∀ id, ∃ slots, Accounted cap.toNat (journal.records id) slots

theorem Sound.push (sound : Sound cap journal)
    (unsettled : settledResult (journal.records id) = none)
    (checked : admissionCheck (journal.records id) journal.cap record = .ok ()) :
    Sound cap (journal.push id record) := by
  refine ⟨sound.1, fun other => ?_⟩
  rw [push_records]
  split
  · obtain ⟨slots, accounted⟩ := sound.2 id
    rw [sound.1] at checked
    obtain ⟨after, -, next⟩ := accounted.push unsettled checked
    exact ⟨after, next⟩
  · exact sound.2 other

theorem sound_step {next : InMemoryJournal} (call : JournalCall) (sound : Sound cap journal)
    (stepped : journal.step call = some next) : Sound cap next := by
  cases call with
  | reserveFlight reservation =>
    cases stepped
    unfold reserveFlight
    repeat' split
    all_goals exact sound
  | rollbackEmptyReservation reservation =>
    cases stepped
    unfold rollbackEmptyReservation
    split <;> exact sound
  | append flight record =>
    cases stepped
    obtain ⟨taken, unsettled, checked⟩ | ⟨error, refused⟩ := append_effect journal flight record
    · rw [taken]
      exact sound.push unsettled checked
    · rw [refused]
      exact sound
  | appendTerminal flight result =>
    cases stepped
    obtain ⟨taken, unsettled, checked⟩ | ⟨existing, -, same⟩ | ⟨error, refused⟩ :=
      append_terminal_effect journal flight result
    · rw [taken]
      exact sound.push unsettled checked
    · rw [same]
      exact sound
    · rw [refused]
      exact sound

theorem sound_of_reaches (reached : Runs.Reaches step (new cap) journal) : Sound cap journal :=
  reached.invariant ⟨rfl, fun _ => ⟨0, Accounted.nil _⟩⟩
    fun _ call _ sound stepped => sound_step call sound stepped

end InMemoryJournal

open InMemoryJournal in
/-- In every journal that writes reach, the rows of each flight and their outstanding slots
fit the capacity, the rows are numbered from one without a gap, and nothing follows a
settled row. The replay of the rows gives the slots with which the next row is admitted,
before and after it, so no accepted row makes the journal unreadable or closes it: an
unsettled flight takes every row with the right schema and number for which it has the
slot and the room. -/
theorem journal_rows_accounted (cap : UInt64) (journal : InMemoryJournal)
    (reached : Runs.Reaches step (new cap) journal) (id : ResourceFlightId) :
    ∃ slots, outstanding (journal.records id) = .ok slots ∧
      (journal.records id).length + slots ≤ cap.toNat ∧
      (journal.records id).map JournalRecord.sequence = List.range' 1 (journal.records id).length ∧
      SettledLast (journal.records id) ∧
      journal.readRecords id = .ok (journal.records id) ∧
      (∀ record, (journal.append id record).1 = .ok () →
        ∃ after, slotsAfter slots record.event = some after ∧
          (journal.append id record).2.records id = journal.records id ++ [record] ∧
          outstanding ((journal.append id record).2.records id) = .ok after) ∧
      (∀ result records, (journal.appendTerminal id result).1 = .ok (.appended records) →
        ∃ after, slotsAfter slots (.settled result) = some after ∧
          (journal.appendTerminal id result).2.records id = records ∧
          outstanding records = .ok after) ∧
      (settledResult (journal.records id) = none → ∀ record,
        ((journal.append id record).1 = .ok () ↔
          record.schemaVersion = RESOURCE_FLIGHT_JOURNAL_SCHEMA_V1 ∧
          record.sequence = (journal.records id).length + 1 ∧
          (record.event.requiresReservedSlot → 0 < slots) ∧
          ∃ after, slotsAfter slots record.event = some after ∧
            (journal.records id).length + 1 + after ≤ cap.toNat)) := by
  obtain ⟨capIs, accounts⟩ := sound_of_reaches reached
  obtain ⟨slots, accounted⟩ := accounts id
  refine ⟨slots, accounted.replayed, accounted.room, accounted.sequences,
    accounted.settledLast, ?_, ?_, ?_, ?_⟩
  · simp [readRecords, accounted.replayed]
  · intro record accepted
    obtain ⟨taken, unsettled, checked⟩ | ⟨error, refused⟩ := append_effect journal id record
    · obtain ⟨after, slotsIs, next⟩ := accounted.push unsettled (capIs ▸ checked)
      rw [taken, push_records, if_pos rfl]
      exact ⟨after, slotsIs, rfl, next.replayed⟩
    · rw [refused] at accepted
      cases accepted
  · intro result records accepted
    obtain ⟨taken, unsettled, checked⟩ | ⟨existing, -, same⟩ | ⟨error, refused⟩ :=
      append_terminal_effect journal id result
    · obtain ⟨after, slotsIs, next⟩ := accounted.push unsettled (capIs ▸ checked)
      rw [taken] at accepted ⊢
      cases accepted
      exact ⟨after, slotsIs, by rw [push_records, if_pos rfl], next.replayed⟩
    · rw [same] at accepted
      cases accepted
    · rw [refused] at accepted
      cases accepted
  · intro unsettled record
    rw [← accounted.admits_iff record, ← capIs]
    obtain ⟨taken, -, checked⟩ | ⟨error, refused⟩ := append_effect journal id record
    · exact ⟨fun _ => checked, fun _ => congrArg Prod.fst taken⟩
    · constructor
      · intro accepted
        rw [refused] at accepted
        cases accepted
      · intro checked
        simp [append, unsettled, checked]

def sampleFlight : ResourceFlightId := ⟨"resource-flight-1"⟩

def sampleOwner : ResourceFlightOwner := ⟨"review", "attempt-1"⟩

def sampleCalls : List JournalCall :=
  [.append sampleFlight ⟨1, 1, .flightReserved (.acpGeneration "generation-1") "attempt-1"⟩,
    .append sampleFlight ⟨1, 2, .ownerAttached sampleOwner⟩,
    .append sampleFlight ⟨1, 3, .processLifecycleReserved PROCESS_LIFECYCLE_SLOTS⟩,
    .append sampleFlight ⟨1, 4, .processBindingFailed .spawn none⟩,
    .appendTerminal sampleFlight ⟨.failed, 5, none, none⟩,
    .append sampleFlight ⟨1, 6, .ownerDetached sampleOwner⟩]

/-- A flight whose process could not be spawned; its last call is refused. -/
def sampleJournal : InMemoryJournal :=
  (Runs.run InMemoryJournal.step (InMemoryJournal.new 16) sampleCalls).get rfl

theorem sample_rows_accounted :
    (sampleJournal.records sampleFlight).length = 5 ∧
    ∃ slots, outstanding (sampleJournal.records sampleFlight) = .ok slots ∧
      (sampleJournal.records sampleFlight).length + slots ≤ 16 := by
  obtain ⟨slots, replayed, room, -⟩ :=
    journal_rows_accounted 16 sampleJournal (Runs.reaches_of_run (Option.some_get _).symm)
      sampleFlight
  exact ⟨rfl, slots, replayed, room⟩

end A2aBridge.Flights
