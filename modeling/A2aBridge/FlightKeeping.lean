import A2aBridge.FlightLogic

/-!
The operations of a flight, walked once. What a discipline has to say of each call and of
each change of the memory is collected as rules; every discipline with such rules knows how
each operation leaves the terminal row, and which refusals it may answer with.
-/

namespace A2aBridge.Flights

open AtomicPrograms InMemoryJournal Flight

/-! ### Rows and who writes them -/

namespace JournalEvent

/-- The process or container was bound to the flight, or could not be. -/
def captures : JournalEvent → Bool
  | processTreeCaptured _ | containerIdentityCaptured _ | remoteRequestIdentityCaptured _ _
  | processBindingFailed _ _ => true
  | _ => false

def observes : JournalEvent → Bool
  | processSignalsObserved _ | containerRemovalObserved _ => true
  | _ => false

/-- The row takes a slot while there is one. -/
def draws (event : JournalEvent) : Bool :=
  event.requiresReservedSlot || event.consumesProcessReservationWhenPresent

/-- What the writer of a row makes of its memory once the row is there. -/
def applied : JournalEvent → FlightMemory → FlightMemory
  | ownerAttached owner, memory => { memory with owners := memory.owners.insert owner }
  | processLifecycleReserved _, memory => { memory with processLifecycleReserved := true }
  | intentJournaled _ _ _, memory => { memory with state := .intentJournaled }
  | collateralDiscovered owner, memory =>
    { memory with collateral := memory.collateral.insert owner }
  | dispatchStarted, memory => { memory with state := .signaling }
  | _, memory => memory

end JournalEvent

/-- The rows other than the terminal one that a flight with this memory may write. -/
inductive Fits (memory : FlightMemory) : JournalEvent → Prop where
  | attachment (opened : memory.state = .opened) (owner : ResourceFlightOwner) :
      Fits memory (.ownerAttached owner)
  | detachment (opened : memory.state = .opened) (owner : ResourceFlightOwner) :
      Fits memory (.ownerDetached owner)
  | reservation (opened : memory.state = .opened)
      (unreserved : ¬memory.processLifecycleReserved = true) :
      Fits memory (.processLifecycleReserved PROCESS_LIFECYCLE_SLOTS)
  | capture {event : JournalEvent} (opened : memory.state = .opened)
      (captures : event.captures = true) : Fits memory event
  | intent (closed : memory.state = .admissionClosed) (intent : ResourceActionIntent) :
      Fits memory (.intentJournaled intent memory.snapshot
        (if memory.processLifecycleReserved || memory.requestLifecycleReserved then 0
          else LIFECYCLE_SLOTS))
  | discovery (open_ : ∀ result, memory.state ≠ .settled result) (owner : ResourceFlightOwner) :
      Fits memory (.collateralDiscovered owner)
  | dispatch (intended : memory.state = .intentJournaled) : Fits memory .dispatchStarted
  | observation {event : JournalEvent} (signaling : memory.state = .signaling)
      (observes : event.observes = true) : Fits memory event
  | transfer (signaling : memory.state = .signaling) (owner : RecoveryOwner) (deadlineMs : Nat) :
      Fits memory (.guardTransferred owner deadlineMs)

variable {event : JournalEvent} {memory : FlightMemory} {α : Type} {flight : Flight}
  {rules : FlightRules} {party : Nat} {shared : FlightShared}

theorem Fits.unsettled (fits : Fits memory event) : ∀ result, memory.state ≠ .settled result := by
  cases fits with
  | discovery open_ => exact open_
  | attachment state | detachment state | reservation state | capture state | intent state
  | dispatch state | observation state | transfer state =>
    rw [state]
    exact nofun

theorem Fits.plainly {schema : UInt16} {number : Nat} (fits : Fits memory event) :
    JournalRecord.settledResult ⟨schema, number, event⟩ = none := by
  cases fits with
  | capture _ captures => cases event <;> first | rfl | cases captures
  | observation _ observes => cases event <;> first | rfl | cases observes
  | _ => rfl

/-! ### Rules -/

/-- What an answer reads of the terminal row: nothing, that its result is durable, or that
this settlement of the proposed result was made. -/
inductive Verdict where
  | nothing
  | durable (result : ResourceActionResult)
  | settlement (proposed : ResourceActionResult) (settlement : Settlement)

namespace Verdict

def ofState : ResourceFlightState → Verdict
  | .settled result => durable result
  | _ => nothing

def ofAdopted : Option ResourceActionResult → Verdict
  | some result => durable result
  | none => nothing

def ofTransfer (proposed : ResourceActionResult) : Flight.TransferStep → Verdict
  | .ownerless => nothing
  | .settled existing => durable existing
  | .settlement made => settlement proposed made

end Verdict

/-- How a party stands: with the mutex and a memory in hand, once it has given the mutex
back, once it has told the owners, as the writer of the terminal row; and the refusals it may
meet. -/
structure Standing where
  left : Verdict → FlightMemory → FlightShared → Prop
  leaves : Verdict → FlightShared → Prop
  ends : Option ResourceActionResult → FlightShared → Prop
  won : ResourceActionResult → FlightShared → Prop
  fair : FlightError → Prop

/-- A refusal for which no journal call failed. -/
def FlightError.unjournaled : FlightError → Bool
  | .journal _ | .terminalRefusal _ => false
  | _ => true

namespace Standing

variable (standing : Standing)

def After (reads : α → Verdict) (fed : Prop) :
    Except FlightError α → FlightMemory → FlightShared → Prop
  | .ok value, memory, shared => standing.left (reads value) memory shared
  | .error error, memory, shared =>
    standing.left .nothing memory shared ∧ (fed → standing.fair error)

def Leave (reads : α → Verdict) (fed : Prop) : Except FlightError α → FlightShared → Prop
  | .ok value, shared => standing.leaves (reads value) shared
  | .error error, shared => standing.leaves .nothing shared ∧ (fed → standing.fair error)

def Settled (fed : Prop) : Except FlightError ResourceActionResult → FlightShared → Prop
  | .ok result, shared => standing.ends (some result) shared
  | .error error, shared => standing.leaves .nothing shared ∧ (fed → standing.fair error)

def Recovered : Except FlightError (Option JournaledRecovery) → FlightShared → Prop
  | .ok (some (.existing result)), shared => standing.leaves (.durable result) shared
  | .ok (some (.won result recipients)), shared =>
    standing.leaves (.settlement result ⟨result, recipients, true⟩) shared
  | _, shared => standing.leaves .nothing shared

def Transferred (flight : Flight) (reason : String) :
    Except FlightError CleanupDeadlineTransfer → FlightShared → Prop
  | .ok (.notDue _), shared => standing.ends none shared
  | .ok (.unknown result _ _), shared => standing.ends (some result) shared
  | .ok (.transferred owner _), shared =>
    owner = flight.recoveryOwner reason ∧ standing.ends none shared ∧
      ∃ now, standing.won ⟨.partially, now, some owner, none⟩ shared
  | .error error, shared => standing.leaves .nothing shared ∧ standing.fair error

section Calls

variable (flight : Flight) (rules : FlightRules) (party : Nat)

/-- What the party leaves stands once the mutex is given back. -/
def Unlocks : Prop :=
  ∀ {α : Type} {post : α → FlightShared → Prop} {rest : Unit → FlightFlow α}
    {verdict memory shared}, standing.left verdict memory shared →
    (∀ later, standing.leaves verdict later →
      Meets flightService rules party post (rest ()) later) →
    Meets flightService rules party post (Routine.call (.unlock () memory) >>= rest) shared

def Recovers : Prop :=
  ∀ (durationMs : Nat) {shared}, standing.leaves .nothing shared →
    Meets flightService rules party standing.Recovered
      (recoverJournaledIntentAsUnknown flight.id durationMs) shared

def Tells : Prop :=
  ∀ {proposed settlement shared}, standing.leaves (.settlement proposed settlement) shared →
    Meets flightService rules party
      (fun _ after => standing.ends (some settlement.result) after ∧
        (settlement.appended = true → standing.won proposed after))
      (publishResult flight.id settlement.recipients settlement.result) shared

def Appends : Prop :=
  ∀ {event memory shared}, standing.left .nothing memory shared → Fits memory event →
    (event.isIntent = true → memory = shared.memory ()) →
    Within rules party
      (fun answer left after => match answer with
        | .ok _ => standing.left .nothing (event.applied left) after
        | .error error => standing.left .nothing left after ∧
          (event.draws = true → standing.fair error) ∧ left.state = memory.state)
      (flight.append event) memory shared

def Adopts : Prop :=
  ∀ {memory shared}, standing.left .nothing memory shared →
    Within rules party
      (fun answer left after => match answer with
        | .ok none => left = memory ∧ standing.left .nothing left after
        | .ok (some result) => standing.left (.durable result) left after
        | .error error => standing.left .nothing left after ∧ standing.fair error)
      flight.adoptDurableTerminalLocked memory shared

/-- The terminal row is written, or was there before, or is refused. -/
def Terminates : Prop :=
  ∀ {post : Except FlightError Settlement → FlightMemory → FlightShared → Prop}
    {rest : Except JournalError TerminalAppendOutcome → Locked Settlement}
    {proposed memory shared}, standing.left .nothing memory shared → memory.state = .signaling →
    (∀ records after, standing.left
        (.settlement proposed ⟨proposed, (memory.snapshot.extend memory.collateral).filter
          fun owner => owner ∉ memory.delivered, true⟩)
        { memory with
          sequence := saturatingAdd memory.sequence 1
          state := .settled proposed
          delivered := memory.delivered.extend (memory.snapshot.extend memory.collateral) }
        after → Within rules party post (rest (.ok (.appended records))) memory after) →
    (∀ existing after,
      standing.left (.durable existing) { memory with state := .settled existing } after →
      Within rules party post (rest (.ok (.alreadySettled existing))) memory after) →
    (∀ error after, standing.left .nothing { memory with refusal := some error } after →
      standing.fair (.terminalRefusal error) →
      Within rules party post (rest (.error error)) memory after) →
    Within rules party post (Locked.call (.appendTerminal flight.id proposed) >>= rest) memory
      shared

end Calls

end Standing

/-- What a discipline reads of the calls of a flight and of the changes of its memory. -/
structure Keeping (flight : Flight) (rules : FlightRules) (party : Nat) (standing : Standing) :
    Prop where
  lock : ∀ {α : Type} {post : α → FlightShared → Prop} {rest : FlightMemory → FlightFlow α}
    {shared}, standing.leaves .nothing shared →
    (∀ later : FlightShared, standing.left .nothing (later.memory ()) (later.takenBy party) →
      Meets flightService rules party post (rest (later.memory ())) (later.takenBy party)) →
    Meets flightService rules party post (Routine.call (.lock ()) >>= rest) shared
  unlock : standing.Unlocks rules party
  elapsed : ∀ {α : Type} {post : α → FlightShared → Prop} {rest : Nat → FlightFlow α}
    {shared}, standing.leaves .nothing shared →
    (∀ now later, standing.leaves .nothing later →
      Meets flightService rules party post (rest now) later) →
    Meets flightService rules party post (Routine.call .elapsedMs >>= rest) shared
  await : ∀ {α : Type} {post : α → FlightShared → Prop} {ready : FlightMemory → Bool}
    {rest : FlightMemory → FlightFlow α} {shared}, standing.leaves .nothing shared →
    (∀ (memory : FlightMemory) later, standing.leaves .nothing later →
      (∀ result, memory.state = .settled result → standing.leaves (.durable result) later) →
      Meets flightService rules party post (rest memory) later) →
    Meets flightService rules party post (Routine.call (.await () ready) >>= rest) shared
  recover : standing.Recovers flight rules party
  tell : standing.Tells flight rules party
  append : standing.Appends flight rules party
  adopt : standing.Adopts flight rules party
  terminal : standing.Terminates flight rules party
  update : ∀ {memory shared next guards} {owners : OwnerSet}, standing.left .nothing memory shared →
    (memory.owners.Nodup → owners.Nodup) → (memory.state ≠ .opened → owners = memory.owners) →
    standing.left .nothing { memory with owners := owners, nextGuard := next, guards := guards }
      shared
  close : ∀ {memory shared} {state : ResourceFlightState}, standing.left .nothing memory shared →
    memory.state = .opened → state = .admissionClosed ∨ state = .signaling →
    standing.left .nothing { memory with snapshot := memory.owners, state := state } shared
  signal : ∀ {memory shared}, standing.left .nothing memory shared →
    memory.state = .admissionClosed ∨ memory.state = .intentJournaled →
    standing.left .nothing { memory with state := .signaling } shared
  settled : ∀ {memory shared result}, standing.left .nothing memory shared →
    memory.state = .settled result →
    standing.left (.durable result) memory shared
  forget : ∀ {memory shared result}, standing.left (.durable result) memory shared →
    standing.left .nothing memory shared
  found : ∀ {memory shared proposed result}, standing.left (.durable result) memory shared →
    standing.left (.settlement proposed ⟨result, [], false⟩) memory shared
  left_durable : ∀ {shared result}, standing.leaves (.durable result) shared →
    standing.leaves .nothing shared
  silent : ∀ {shared}, standing.leaves .nothing shared → standing.ends none shared
  endured : ∀ {shared result}, standing.leaves (.durable result) shared →
    standing.ends (some result) shared
  ended : ∀ {shared result}, standing.ends (some result) shared → standing.ends none shared
  refused : ∀ {memory shared cause}, standing.left .nothing memory shared →
    memory.refusal = some cause → standing.fair (.terminalRefusal cause)
  unjournaled : ∀ {error : FlightError}, error.unjournaled = true → standing.fair error

/-! ### Sections under the mutex -/

namespace Keeping

variable {standing : Standing} (keeping : Keeping flight rules party standing)

/-- The section, entered with the memory as the mutex guards it, ends as its answer reads. -/
def Abides (_ : Keeping flight rules party standing) (reads : α → Verdict) (fed : Prop)
    (work : Locked α) : Prop :=
  ∀ memory shared, memory = shared.memory () → standing.left .nothing memory shared →
    Within rules party (standing.After reads fed) work memory shared

include keeping

theorem evidence {state : ResourceFlightState}
    (fits : ∀ memory : FlightMemory, memory.state = state → Fits memory event)
    (draws : event.draws = true) (stays : ∀ memory, event.applied memory = memory) :
    keeping.Abides (fun _ => .nothing) True (flight.journalEvidence state event) := by
  intro memory shared same inside
  refine within_when (within_refuse.mpr ⟨inside, fun _ => keeping.unjournaled rfl⟩) fun there => ?_
  refine (keeping.append inside (fits memory there) fun _ => same).mono ?_
  rintro (error | _) left after here
  · exact ⟨here.1, fun _ => here.2.1 draws⟩
  · exact stays left ▸ here

variable (owner : ResourceFlightOwner) (guard : RetainedGuard) (result : ResourceActionResult)

theorem attach_owner : keeping.Abides (fun _ => .nothing) False (flight.attachOwner owner) := by
  intro memory shared same inside
  refine within_when ⟨inside, False.elim⟩ fun opened => ?_
  split
  · exact inside
  · rw [within_bind]
    refine (keeping.append inside (.attachment opened owner) nofun).mono ?_
    rintro (error | _) left after here
    · exact ⟨here.1, False.elim⟩
    · exact here

theorem attach_owner_legacy_v2 :
    keeping.Abides (fun _ => .nothing) False (attachOwnerLegacyV2 owner) := by
  intro memory shared _ inside
  unfold Flight.attachOwnerLegacyV2
  rw [within_get]
  split
  · exact ⟨inside, False.elim⟩
  · next opened =>
    exact keeping.update inside (fun distinct => OwnerSet.nodup_insert distinct)
      fun closed => absurd closed opened

theorem detach_owner : keeping.Abides (fun _ => .nothing) False (flight.detachOwner owner) := by
  intro memory shared _ inside
  refine within_when ⟨inside, False.elim⟩ fun opened => ?_
  split
  · exact inside
  · simp only [within_bind, within_set, within_catch, within_modify, within_throw, within_pure]
    have erased : standing.left .nothing
        { memory with owners := memory.owners.erase owner } shared :=
      keeping.update inside (fun distinct => distinct.erase owner)
        fun closed => absurd opened closed
    refine (keeping.append erased (.detachment (by exact opened) owner)
      (fun same => by cases same)).mono ?_
    rintro (error | _) left after here
    · exact ⟨keeping.update here.1 (fun distinct => OwnerSet.nodup_insert distinct)
        fun closed => absurd (here.2.2.trans opened) closed, False.elim⟩
    · exact here

theorem detach_owner_legacy_v2 :
    keeping.Abides (fun _ => .nothing) False (detachOwnerLegacyV2 owner) := by
  intro memory shared _ inside
  unfold Flight.detachOwnerLegacyV2
  rw [within_get]
  split
  · exact ⟨inside, False.elim⟩
  · next opened =>
    exact keeping.update inside (fun distinct => distinct.erase owner)
      fun closed => absurd closed opened

theorem reserve_process_lifecycle :
    keeping.Abides (fun _ => .nothing) False flight.reserveProcessLifecycle := by
  intro memory shared _ inside
  refine within_when ⟨inside, False.elim⟩ fun opened => ?_
  split
  · exact inside
  · rename_i unreserved
    rw [within_bind]
    refine (keeping.append inside (.reservation opened unreserved) nofun).mono ?_
    rintro (error | _) left after here
    · exact ⟨here.1, False.elim⟩
    · exact here

theorem close_admission : keeping.Abides (fun _ => .nothing) False closeAdmission := by
  intro memory shared _ inside
  refine within_when (within_refuse.mpr ⟨inside, False.elim⟩) fun opened => ?_
  exact keeping.close inside opened (.inl rfl)

theorem journal_intent (intent : ResourceActionIntent) :
    keeping.Abides (fun _ => .nothing) True (flight.journalIntent intent) := by
  intro memory shared same inside
  refine within_when (within_refuse.mpr ⟨inside, fun _ => keeping.unjournaled rfl⟩) fun closed => ?_
  split
  · exact ⟨inside, fun _ => keeping.unjournaled rfl⟩
  · rw [within_bind]
    refine (keeping.append inside (.intent closed intent) fun _ => same).mono ?_
    rintro (error | _) left after here
    · exact ⟨here.1, fun _ => here.2.1 rfl⟩
    · exact here

theorem discover_collateral_owner :
    keeping.Abides (fun _ => .nothing) False (flight.discoverCollateralOwner owner) := by
  intro memory shared _ inside
  unfold Flight.discoverCollateralOwner
  rw [within_get]
  split
  · exact within_refuse.mpr ⟨inside, False.elim⟩
  · rename_i late
    split
    · exact inside
    · rw [within_bind]
      refine (keeping.append inside (.discovery ?_ owner) nofun).mono ?_
      · intro result settled
        rw [settled] at late
        exact late ⟨nofun, nofun, nofun⟩
      · rintro (error | _) left after here
        · exact ⟨here.1, False.elim⟩
        · exact here

theorem begin_journaled_dispatch :
    keeping.Abides (fun _ => .nothing) True flight.beginJournaledDispatch := by
  intro memory shared _ inside
  unfold Flight.beginJournaledDispatch
  rw [within_bind]
  refine (keeping.adopt inside).mono ?_
  rintro (error | _ | existing) left after here
  · exact ⟨here.1, fun _ => here.2⟩
  · dsimp only
    refine within_when (within_refuse.mpr ⟨here.2, fun _ => keeping.unjournaled rfl⟩)
      fun intended => ?_
    rw [within_bind, within_catch]
    refine (keeping.append here.2 (.dispatch intended) nofun).mono ?_
    rintro (error | _) left after here
    · obtain ⟨inside, fair, -⟩ := here
      dsimp only
      rw [within_bind]
      refine (keeping.adopt inside).mono ?_
      rintro (failure | _ | existing) left after here
      · exact ⟨here.1, fun _ => here.2⟩
      · exact ⟨here.2, fun _ => fair rfl⟩
      · exact within_refuse.mpr ⟨keeping.forget here, fun _ => keeping.unjournaled rfl⟩
    · exact here
  · exact within_refuse.mpr ⟨keeping.forget here, fun _ => keeping.unjournaled rfl⟩

theorem retain : keeping.Abides (fun _ => .nothing) True retain :=
  fun _ _ _ inside => keeping.update inside id fun _ => rfl

theorem dropped (token : Nat) :
    keeping.Abides (fun _ => .nothing) False (modify fun memory =>
      { memory with guards := memory.guards.erase token } : Locked Unit) :=
  fun _ _ _ inside => keeping.update inside id fun _ => rfl

theorem read_state : keeping.Abides Verdict.ofState True readState := by
  intro memory shared _ inside
  unfold Flight.readState
  rw [within_get]
  split
  · rename_i cause refused
    exact ⟨inside, fun _ => keeping.refused inside refused⟩
  · change standing.left (Verdict.ofState memory.state) memory shared
    unfold Verdict.ofState
    split
    · rename_i result settled
      exact keeping.settled inside settled
    · exact inside

theorem begin_failed_settlement :
    keeping.Abides Verdict.ofAdopted True flight.beginFailedSettlement := by
  intro memory shared _ inside
  unfold Flight.beginFailedSettlement
  rw [within_bind]
  refine (keeping.adopt inside).mono ?_
  rintro (error | _ | existing) left after here
  · exact ⟨here.1, fun _ => here.2⟩
  · dsimp only
    rw [within_get]
    split
    · exact within_refuse.mpr ⟨here.2, fun _ => keeping.unjournaled rfl⟩
    · by_cases opened : left.state = .opened
      · rw [if_pos opened]
        exact keeping.close here.2 opened (.inr rfl)
      · rw [if_neg opened]
        exact keeping.signal here.2 (by tauto)
  · exact here

theorem settle_locked (proposed : ResourceActionResult)
    (inside : standing.left .nothing memory shared) :
    Within rules party (standing.After (.settlement proposed) True)
      (flight.settleLocked proposed) memory shared := by
  unfold Flight.settleLocked
  rw [within_get]
  split
  · rename_i cause refused
    exact ⟨inside, fun _ => keeping.refused inside refused⟩
  · split
    · exact within_refuse.mpr ⟨inside, fun _ => keeping.unjournaled rfl⟩
    · rename_i signaling
      rw [not_not] at signaling
      rw [within_bind]
      refine (keeping.adopt inside).mono ?_
      rintro (error | _ | existing) left between here
      · exact ⟨here.1, fun _ => here.2⟩
      · obtain ⟨rfl, still⟩ := here
        apply keeping.terminal still signaling
        · intro records after wins
          exact wins
        · intro existing after durable
          exact keeping.found durable
        · intro error after inside fair
          exact ⟨inside, fun _ => fair⟩
      · exact keeping.found here

theorem transfer_locked (deadlineMs : Nat) (guard : RetainedGuard) (owner : RecoveryOwner)
    (result : ResourceActionResult) :
    keeping.Abides (Verdict.ofTransfer result) True
      (flight.transferLocked deadlineMs guard owner result) := by
  intro memory shared _ inside
  unfold Flight.transferLocked
  rw [within_get]
  split
  · exact inside
  · rw [within_bind]
    refine (keeping.adopt inside).mono ?_
    rintro (error | _ | existing) left between here
    · exact ⟨here.1, fun _ => here.2⟩
    · refine within_when (within_refuse.mpr ⟨here.2, fun _ => keeping.unjournaled rfl⟩)
        fun signaling => ?_
      rw [within_bind, within_catch, within_bind]
      refine (keeping.append here.2 (.transfer signaling owner deadlineMs) nofun).mono ?_
      rintro (error | _) last after here
      · obtain ⟨inside, fair, -⟩ := here
        dsimp only
        rw [within_pure]
        dsimp only
        rw [within_bind]
        refine (keeping.adopt inside).mono ?_
        rintro (failure | _ | existing) left after here
        · exact ⟨here.1, fun _ => here.2⟩
        · exact ⟨here.2, fun _ => fair rfl⟩
        · exact here
      · -- the transfer is journaled, and the settlement follows in the same section
        rw [within_pure]
        dsimp only
        rw [within_bind]
        refine (keeping.settle_locked result here).mono ?_
        rintro (error | settlement) left after here <;> exact here
    · exact here

/-! ### Flows -/

theorem locked {reads : α → Verdict} {fed : Prop} {work : Locked α}
    (abides : keeping.Abides reads fed work) (outside : standing.leaves .nothing shared) :
    Meets flightService rules party (standing.Leave reads fed) (locked work) shared := by
  apply keeping.lock outside
  intro later inside
  refine (meets_bind _ _ _).mpr (Meets.mono (abides _ _ rfl inside) ?_)
  rintro ⟨answer, memory⟩ between here
  cases answer with
  | ok value => exact keeping.unlock here fun later gone => gone
  | error error => exact keeping.unlock here.1 fun later gone => ⟨gone, here.2⟩

variable (outside : standing.leaves .nothing shared)

include outside

theorem settle :
    Meets flightService rules party (standing.Settled True) (flight.settle result) shared := by
  unfold Flight.settle
  rw [meets_bind]
  refine (keeping.locked (fun _ _ _ => keeping.settle_locked result) outside).mono ?_
  rintro (error | settlement) after here
  · exact here
  · rw [meets_bind]
    exact (keeping.tell here).mono fun _ _ told => told.1

theorem settle_failed_before_dispatch :
    Meets flightService rules party (standing.Settled True)
      (flight.settleFailedBeforeDispatch result) shared := by
  unfold Flight.settleFailedBeforeDispatch
  split
  · rw [meets_bind]
    refine (keeping.locked keeping.read_state outside).mono ?_
    rintro (error | state) after here
    · exact here
    · refine ⟨?_, fun _ => keeping.unjournaled rfl⟩
      cases state with
      | settled result => exact keeping.left_durable here
      | _ => exact here
  · rw [meets_bind]
    refine (keeping.locked keeping.begin_failed_settlement outside).mono ?_
    rintro (error | _ | existing) after here
    · exact here
    · exact keeping.settle result here
    · exact keeping.endured here

theorem join_blocking :
    Meets flightService rules party (standing.Settled False) joinBlocking shared := by
  refine keeping.await outside fun memory later outside durable => ?_
  split
  · exact ⟨outside, False.elim⟩
  · rename_i result _ settled
    exact keeping.endured (durable result settled)
  · exact ⟨outside, False.elim⟩

theorem drop_guard :
    Meets flightService rules party (fun _ after => standing.leaves .nothing after)
      (dropGuard guard) shared := by
  unfold Flight.dropGuard
  split
  · rw [meets_bind]
    refine (keeping.locked (keeping.dropped guard.token) outside).mono ?_
    rintro (error | _) after here
    · exact here.1
    · exact here
  · exact outside

theorem transfer_refused {reason : String} {error : FlightError}
    (fair : standing.fair error) :
    Meets flightService rules party (standing.Transferred flight reason)
      (transferRefused guard error) shared := by
  unfold Flight.transferRefused
  rw [meets_bind]
  exact (keeping.drop_guard guard outside).mono fun _ _ outside => ⟨outside, fair⟩

theorem transfer_unknown {reason : String}
    (proof : Option ResourceFlightId) :
    Meets flightService rules party (standing.Transferred flight reason)
      (flight.transferUnknown guard proof) shared := by
  unfold Flight.transferUnknown Flight.settleUnknown
  rw [meets_bind]
  refine keeping.elapsed outside fun now later outside => ?_
  refine (keeping.settle _ outside).mono ?_
  rintro (error | result) after here
  · exact keeping.transfer_refused guard here.1 (here.2 trivial)
  · exact here

theorem transfer_cleanup_deadline (deadlineMs : Nat) (guard : RetainedGuard)
    (reason : String) : Meets flightService rules party (standing.Transferred flight reason)
      (flight.transferCleanupDeadline deadlineMs guard reason) shared := by
  refine keeping.elapsed outside fun now later outside => ?_
  split
  · exact keeping.silent outside
  · split
    · exact keeping.transfer_unknown guard outside none
    · refine keeping.elapsed outside fun now later outside => ?_
      rw [meets_bind]
      refine (keeping.locked (keeping.transfer_locked deadlineMs guard _ _) outside).mono ?_
      rintro (error | _ | existing | settlement) after here
      · exact keeping.transfer_refused guard here.1 (here.2 trivial)
      · exact keeping.transfer_unknown guard here (some flight.id)
      · exact keeping.endured here
      · rw [meets_bind]
        refine (keeping.tell here).mono ?_
        rintro _ last ⟨ended, wins⟩
        split
        · rename_i appended
          exact ⟨rfl, keeping.ended ended, now, wins appended⟩
        · exact ended

theorem transfer_cleanup_deadline_now (reason : String) :
    Meets flightService rules party (standing.Transferred flight reason)
      (flight.transferCleanupDeadlineNow reason) shared := by
  unfold Flight.transferCleanupDeadlineNow
  rw [meets_bind]
  refine (keeping.locked keeping.retain outside).mono ?_
  rintro (error | guard) after here
  · exact ⟨here.1, here.2 trivial⟩
  · exact keeping.elapsed here fun now later outside =>
      keeping.transfer_cleanup_deadline outside now guard reason

theorem recover_dead (durationMs : Nat) :
    Meets flightService rules party
      (fun answer after => match answer with
        | .ok result => standing.ends result after
        | .error _ => standing.leaves .nothing after)
      (recoverDeadJournaledIntentAsUnknown flight.id durationMs) shared := by
  unfold recoverDeadJournaledIntentAsUnknown
  rw [meets_bind]
  refine (keeping.recover durationMs outside).mono ?_
  rintro (error | _ | existing | ⟨result, recipients⟩) after here
  · exact here
  · exact keeping.silent here
  · exact keeping.ended (keeping.endured here)
  · rw [meets_bind]
    exact (keeping.tell here).mono fun _ _ told => told.1

theorem recover_reservation (attemptId : String) :
    Meets flightService rules party (standing.Settled False) (flight.recoverReservation attemptId)
      shared := by
  unfold Flight.recoverReservation recoveredReservation
  rw [meets_bind]
  split
  · exact ⟨outside, False.elim⟩
  · refine keeping.elapsed outside fun now later outside => ?_
    rw [meets_bind]
    refine (keeping.recover now outside).mono ?_
    rintro (error | _ | existing | ⟨result, recipients⟩) after here
    · exact ⟨here, False.elim⟩
    · exact ⟨here, False.elim⟩
    · exact keeping.endured here
    · change Meets flightService rules party _ (publishResult _ recipients result >>= _) after
      rw [meets_bind]
      exact (keeping.tell here).mono fun _ _ told => told.1

end Keeping

/-! ### Every operation -/

def FlightOp.reason : FlightOp → Option String
  | transferCleanupDeadline _ _ reason => some reason
  | transferCleanupDeadlineNow reason => some reason
  | _ => none

/-- An operation that writes rows of the lifecycle. -/
def FlightOp.lifecycle : FlightOp → Bool
  | journalProcessTree _ | journalContainerIdentity _ | journalProcessBindingFailure _ _
  | journalIntent _ | beginJournaledDispatch | journalProcessSignals _
  | journalContainerRemoval _ | transferCleanupDeadline _ _ _ | transferCleanupDeadlineNow _
  | settle _ | settleFailedBeforeDispatch _ => true
  | _ => false

def FlightAnswer.silent : FlightAnswer → Bool
  | done | changed _ | owners _ | guard _ => true
  | _ => false

/-- What the answer of an operation means. -/
structure Report (flight : Flight) (standing : Standing) (op : FlightOp) (answer : FlightAnswer)
    (shared : FlightShared) : Prop where
  ended : standing.ends answer.settled shared
  transferred : ∀ owner guard, answer = .transfer (.transferred owner guard) →
    ∃ reason, op.reason = some reason ∧ owner = flight.recoveryOwner reason ∧
      ∃ now, standing.won ⟨.partially, now, some owner, none⟩ shared
  fair : op.lifecycle = true → ∀ error, answer = .refused error → standing.fair error

namespace Keeping

variable {standing : Standing} {op : FlightOp} {wrap : α → FlightAnswer}
  {program : FlightFlow (Except FlightError α)} (keeping : Keeping flight rules party standing)

include keeping

theorem answers {post : Except FlightError α → FlightShared → Prop}
    (met : Meets flightService rules party post program shared)
    (refused : ∀ error shared, post (.error error) shared →
      standing.leaves .nothing shared ∧ (op.lifecycle = true → standing.fair error))
    (wrapped : ∀ value shared, post (.ok value) shared →
      Report flight standing op (wrap value) shared) :
    Meets flightService rules party (Report flight standing op) (answering wrap program)
      shared := by
  unfold answering
  rw [meets_bind]
  refine met.mono ?_
  rintro (error | value) after here
  · obtain ⟨outside, fair⟩ := refused error after here
    refine ⟨keeping.silent outside, nofun, fun lifecycle => ?_⟩
    rintro _ ⟨⟩
    exact fair lifecycle
  · exact wrapped value after here

variable {fed : Prop}

theorem silently
    (met : Meets flightService rules party (standing.Leave (fun _ => .nothing) fed) program shared)
    (lifecycle : op.lifecycle = true → fed) (silent : ∀ value, (wrap value).silent = true) :
    Meets flightService rules party (Report flight standing op) (answering wrap program)
      shared := by
  refine keeping.answers met (fun _ _ here => ⟨here.1, fun busy => here.2 (lifecycle busy)⟩) ?_
  intro value after outside
  have quiet := silent value
  generalize wrap value = answer at quiet
  cases answer with
  | done | changed | owners | guard =>
    exact ⟨keeping.silent outside, nofun, fun _ => nofun⟩
  | _ => cases quiet

theorem settling {program : FlightFlow (Except FlightError ResourceActionResult)}
    (met : Meets flightService rules party (standing.Settled fed) program shared)
    (lifecycle : op.lifecycle = true → fed) :
    Meets flightService rules party (Report flight standing op)
      (answering .settlement program) shared :=
  keeping.answers met (fun _ _ here => ⟨here.1, fun busy => here.2 (lifecycle busy)⟩)
    fun _ _ ended => ⟨ended, nofun, fun _ => nofun⟩

theorem transferring {reason : String}
    {program : FlightFlow (Except FlightError CleanupDeadlineTransfer)}
    (asked : op.reason = some reason)
    (met : Meets flightService rules party (standing.Transferred flight reason) program shared) :
    Meets flightService rules party (Report flight standing op)
      (answering .transfer program) shared := by
  refine keeping.answers met (fun _ _ here => ⟨here.1, fun _ => here.2⟩) ?_
  rintro transfer after here
  cases transfer with
  | notDue | unknown => exact ⟨here, nofun, fun _ => nofun⟩
  | transferred owner guard =>
    obtain ⟨own, ended, now, won⟩ := here
    refine ⟨ended, ?_, fun _ => nofun⟩
    rintro _ _ ⟨⟩
    exact ⟨reason, asked, own, now, won⟩

theorem body (op : FlightOp) (outside : standing.leaves .nothing shared) :
    Meets flightService rules party (Report flight standing op) (flight.body op) shared := by
  cases op with
  | attachOwner owner =>
    exact keeping.silently (keeping.locked (keeping.attach_owner owner) outside) nofun
      fun _ => rfl
  | attachOwnerLegacyV2 owner =>
    exact keeping.silently (keeping.locked (keeping.attach_owner_legacy_v2 owner) outside) nofun
      fun _ => rfl
  | detachOwner owner =>
    exact keeping.silently (keeping.locked (keeping.detach_owner owner) outside) nofun
      fun _ => rfl
  | detachOwnerLegacyV2 owner =>
    exact keeping.silently (keeping.locked (keeping.detach_owner_legacy_v2 owner) outside) nofun
      fun _ => rfl
  | reserveProcessLifecycle =>
    exact keeping.silently (keeping.locked keeping.reserve_process_lifecycle outside) nofun
      fun _ => rfl
  | closeAdmission =>
    exact keeping.silently (keeping.locked keeping.close_admission outside) nofun
      fun _ => rfl
  | journalIntent intent =>
    exact keeping.silently (keeping.locked (keeping.journal_intent intent) outside)
      (fun _ => trivial) fun _ => rfl
  | discoverCollateralOwner owner =>
    exact keeping.silently (keeping.locked (keeping.discover_collateral_owner owner) outside) nofun
      fun _ => rfl
  | beginJournaledDispatch =>
    exact keeping.silently (keeping.locked keeping.begin_journaled_dispatch outside)
      (fun _ => trivial) fun _ => rfl
  | journalProcessSignals | journalContainerRemoval =>
    exact keeping.silently (keeping.locked (keeping.evidence
      (fun _ signaling => .observation signaling rfl) rfl fun _ => rfl) outside)
      (fun _ => trivial) fun _ => rfl
  | journalProcessBindingFailure stage pid =>
    exact keeping.silently (keeping.locked (keeping.evidence
      (fun _ opened => .capture opened rfl) rfl fun _ => rfl) outside)
      (fun _ => trivial) fun _ => rfl
  | journalProcessTree identity =>
    refine keeping.silently ?_ (fun _ => trivial) fun _ => rfl
    unfold journalProcessTree
    split
    · exact ⟨outside, fun _ => keeping.unjournaled rfl⟩
    · exact keeping.locked (keeping.evidence
        (fun _ opened => .capture opened rfl) rfl fun _ => rfl) outside
  | journalContainerIdentity identity =>
    refine keeping.silently ?_ (fun _ => trivial) fun _ => rfl
    unfold journalContainerIdentity
    split
    · split
      · exact ⟨outside, fun _ => keeping.unjournaled rfl⟩
      · exact keeping.locked (keeping.evidence
          (fun _ opened => .capture opened rfl) rfl fun _ => rfl) outside
    · exact ⟨outside, fun _ => keeping.unjournaled rfl⟩
  | settle result => exact keeping.settling (keeping.settle result outside) fun _ => trivial
  | settleFailedBeforeDispatch result =>
    exact keeping.settling (keeping.settle_failed_before_dispatch result outside) fun _ => trivial
  | joinBlocking => exact keeping.settling (keeping.join_blocking outside) nofun
  | readState =>
    refine keeping.answers (keeping.locked keeping.read_state outside)
      (fun _ _ here => ⟨here.1, nofun⟩) ?_
    intro state after here
    refine ⟨?_, nofun, fun _ => nofun⟩
    cases state with
    | settled result => exact keeping.endured here
    | _ => exact keeping.silent here
  | retain =>
    exact keeping.silently (keeping.locked keeping.retain outside) nofun fun _ => rfl
  | dropGuard guard =>
    refine (meets_bind _ _ _).mpr ((keeping.drop_guard guard outside).mono ?_)
    exact fun _ _ outside => ⟨keeping.silent outside, nofun, fun _ => nofun⟩
  | transferCleanupDeadline deadlineMs guard reason =>
    exact keeping.transferring rfl
      (keeping.transfer_cleanup_deadline outside deadlineMs guard reason)
  | transferCleanupDeadlineNow reason =>
    exact keeping.transferring rfl (keeping.transfer_cleanup_deadline_now outside reason)
  | recoverDead durationMs =>
    exact keeping.answers (keeping.recover_dead outside durationMs)
      (fun _ _ here => ⟨here, nofun⟩) fun _ _ ended => ⟨ended, nofun, fun _ => nofun⟩
  | recoverReservation attemptId =>
    exact keeping.settling (keeping.recover_reservation outside attemptId) nofun

end Keeping

end A2aBridge.Flights
