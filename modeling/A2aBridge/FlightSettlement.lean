import A2aBridge.FlightKeeping

/-!
Live operations on a flight and recoveries from its journal race for the one terminal row.
What a party may rely on while it holds the flight's mutex is that the others write nothing
but that row, and otherwise that rows are only added and that a settled flight stays as it
is. From this every operation that returns a settlement returns the durable one, and the
party that wrote it is the one that publishes it.
-/

namespace A2aBridge.Flights

open AtomicPrograms InMemoryJournal

/-! ### The memory of a flight and its rows -/

/-- A row that names no owner to be told of the result. -/
def JournalEvent.plain : JournalEvent → Bool
  | .intentJournaled _ _ _ => false
  | .collateralDiscovered _ => false
  | _ => true

/-- What the memory says of the owners to be told is what the rows say; without an intent they are
the attached ones. -/
structure Agrees (memory : FlightMemory) (rows : List JournalRecord) : Prop where
  collateral : ∀ owner, owner ∈ memory.collateral ↔
    ∃ row ∈ rows, row.event = .collateralDiscovered owner
  intents : ∀ row ∈ rows, ∀ intent snapshot slots,
    row.event = .intentJournaled intent snapshot slots →
      snapshot = memory.snapshot ∧ memory.state ≠ .opened ∧ memory.state ≠ .admissionClosed
  settled : ∀ result, memory.state = .settled result → settledResult rows = some result
  undelivered : (∀ result, memory.state ≠ .settled result) → memory.delivered = []
  closed : memory.state = .opened ∧ settledResult rows = none ∨
    memory.state ≠ .opened ∧ memory.snapshot = memory.owners
  distinct : memory.owners.Nodup ∧ memory.snapshot.Nodup

variable {record : JournalRecord} {rows : List JournalRecord} {left : FlightMemory} {sequence : Nat}
  {result proposed : ResourceActionResult} {α : Type} {snapshot : OwnerSet}
  {told : List NodeCleanupAggregation}

variable {memory : FlightMemory}

variable (agrees : Agrees memory rows)

include agrees

theorem Agrees.plain (unsettled : settledResult rows = none) (plain : record.event.plain = true)
    (open_ : record.settledResult = none ∨ memory.state ≠ .opened) :
    Agrees memory (rows ++ [record]) where
  collateral := by
    intro owner
    have other : record.event ≠ .collateralDiscovered owner := by
      intro same
      rw [same] at plain
      cases plain
    rw [agrees.collateral owner]
    simp [other]
  intents := by
    refine List.forall_mem_append.mpr ⟨agrees.intents, List.forall_mem_singleton.mpr ?_⟩
    intro intent snapshot slots same
    rw [same] at plain
    cases plain
  settled := by
    intro result settled
    rw [agrees.settled result settled] at unsettled
    cases unsettled
  undelivered := agrees.undelivered
  closed := by
    refine agrees.closed.imp_left fun ⟨opened, _⟩ => ⟨opened, ?_⟩
    rw [settled_result_append_one, open_.resolve_right (not_not.mpr opened), unsettled]
    rfl
  distinct := agrees.distinct

theorem Agrees.intent {intent : ResourceActionIntent} {slots : UInt8}
    (closed : memory.state = .admissionClosed)
    (leaves : left = { memory with sequence := sequence, state := .intentJournaled })
    (number : Nat) : Agrees left (rows ++ [⟨RESOURCE_FLIGHT_JOURNAL_SCHEMA_V1, number,
      .intentJournaled intent memory.snapshot slots⟩]) := by
  subst leaves
  constructor
  · intro owner
    rw [agrees.collateral owner]
    simp
  · refine List.forall_mem_append.mpr ⟨?_, List.forall_mem_singleton.mpr ?_⟩
    · -- an earlier intent would have left the state that takes one
      intro row earlier other snapshot reserved same
      exact absurd closed (agrees.intents row earlier other snapshot reserved same).2.2
    · rintro _ _ _ ⟨⟩
      exact ⟨rfl, nofun, nofun⟩
  · exact nofun
  · intro _
    exact agrees.undelivered (by simp [closed])
  · exact .inr ⟨nofun, (agrees.closed.resolve_left (by simp [closed])).2⟩
  · exact agrees.distinct

variable {owner : ResourceFlightOwner} {event : JournalEvent} {other : Nat}

theorem Agrees.discovery (unsettled : settledResult rows = none) (leaves : left = { memory with
      sequence := sequence, collateral := memory.collateral.insert owner }) (number : Nat) :
    Agrees left (rows ++ [⟨RESOURCE_FLIGHT_JOURNAL_SCHEMA_V1, number,
      .collateralDiscovered owner⟩]) := by
  subst leaves
  constructor
  · intro other
    rw [OwnerSet.mem_insert, agrees.collateral other]
    simp only [List.mem_append, List.mem_singleton, or_and_right, exists_or, exists_eq_left,
      JournalEvent.collateralDiscovered.injEq]
    rw [or_comm, eq_comm]
  · exact List.forall_mem_append.mpr ⟨agrees.intents, List.forall_mem_singleton.mpr nofun⟩
  · intro result settled
    rw [agrees.settled result settled] at unsettled
    cases unsettled
  · exact agrees.undelivered
  · refine agrees.closed.imp_left fun ⟨opened, _⟩ => ⟨opened, ?_⟩
    rw [settled_result_append_one, unsettled]
    rfl
  · exact agrees.distinct

theorem Agrees.update (state : left.state = memory.state)
    (snapshot : left.snapshot = memory.snapshot) (collateral : left.collateral = memory.collateral)
    (delivered : left.delivered = memory.delivered) (distinct : left.owners.Nodup)
    (owners : memory.state ≠ .opened → left.owners = memory.owners) : Agrees left rows := by
  refine ⟨?_, ?_, ?_, ?_, ?_, distinct, ?_⟩
  · rw [collateral]
    exact agrees.collateral
  · rw [snapshot, state]
    exact agrees.intents
  · rw [state]
    exact agrees.settled
  · rw [state, delivered]
    exact agrees.undelivered
  · rw [state, snapshot]
    exact agrees.closed.imp_right fun ⟨closed, same⟩ => ⟨closed, same.trans (owners closed).symm⟩
  · rw [snapshot]
    exact agrees.distinct.2

theorem Agrees.signal
    (past : memory.state = .admissionClosed ∨ memory.state = .intentJournaled) :
    Agrees { memory with state := .signaling } rows where
  collateral := agrees.collateral
  intents := fun row member intent snapshot slots found =>
    ⟨(agrees.intents row member intent snapshot slots found).1, nofun, nofun⟩
  settled := nofun
  undelivered := fun _ => agrees.undelivered (by rcases past with state | state <;> simp [state])
  closed := .inr ⟨nofun,
    (agrees.closed.resolve_left (by rcases past with state | state <;> simp [state])).2⟩
  distinct := agrees.distinct

theorem Agrees.applied (unsettled : settledResult rows = none) (fits : Fits memory event)
    (sequence number : Nat) :
    Agrees (event.applied { memory with sequence := sequence })
      (rows ++ [⟨RESOURCE_FLIGHT_JOURNAL_SCHEMA_V1, number, event⟩]) := by
  have plain := fun plain => @Agrees.plain ⟨RESOURCE_FLIGHT_JOURNAL_SCHEMA_V1, number, event⟩ _ _
    agrees unsettled plain (.inl fits.plainly)
  cases fits with
  | attachment opened owner =>
    exact (plain rfl).update rfl rfl rfl rfl (OwnerSet.nodup_insert agrees.distinct.1)
      fun closed => absurd opened closed
  | detachment | reservation | transfer =>
    exact (plain rfl).update rfl rfl rfl rfl agrees.distinct.1 fun _ => rfl
  | capture _ captures =>
    cases event with
    | processTreeCaptured | containerIdentityCaptured | remoteRequestIdentityCaptured
    | processBindingFailed =>
      exact (plain rfl).update rfl rfl rfl rfl agrees.distinct.1 fun _ => rfl
    | _ => cases captures
  | observation _ observes =>
    cases event with
    | processSignalsObserved | containerRemovalObserved =>
      exact (plain rfl).update rfl rfl rfl rfl agrees.distinct.1 fun _ => rfl
    | _ => cases observes
  | intent closed intent => exact agrees.intent closed rfl number
  | discovery _ owner => exact agrees.discovery unsettled rfl number
  | dispatch intended =>
    exact ((plain rfl).signal (.inr intended)).update rfl rfl rfl rfl agrees.distinct.1 fun _ => rfl

omit agrees

theorem settled_result_terminal :
    settledResult (rows ++ [terminalRecord rows result]) = some result := by
  rw [settled_result_append_one]
  rfl

/-! ### What the parties keep and rely on -/

variable (flight : Flight)

/-- The owners to be told of the result: the frozen snapshot and the collateral owners. -/
def Recipient (snapshot : OwnerSet) (rows : List JournalRecord) (owner : ResourceFlightOwner) :
    Prop :=
  owner ∈ snapshot ∨ ∃ row ∈ rows, row.event = .collateralDiscovered owner

structure FlightInv (shared : FlightShared) : Prop where
  settledLast : SettledLast (flight.rows shared)
  free : shared.holder () = none → Agrees (shared.memory ()) (flight.rows shared)
  frozen : ∀ row ∈ flight.rows shared, ∀ intent snapshot slots,
    row.event = .intentJournaled intent snapshot slots →
      snapshot = (shared.memory ()).snapshot ∧ (shared.memory ()).state ≠ .opened
  attached : (shared.memory ()).state ≠ .opened →
    (shared.memory ()).snapshot = (shared.memory ()).owners
  winner : (shared.settledBy flight.id).isSome ↔ (settledResult (flight.rows shared)).isSome
  told : ∀ entry ∈ shared.published, shared.settledBy flight.id = some entry.1 ∧
    settledResult (flight.rows shared) = some entry.2.result ∧
    entry.2.resourceFlightId = flight.id ∧ (shared.memory ()).state ≠ .opened ∧
    Recipient (shared.memory ()).snapshot (flight.rows shared) entry.2.owner
  once : (shared.published.map (·.2.owner)).Nodup

def publishedBy (party : Nat) (shared : FlightShared) : List NodeCleanupAggregation :=
  (shared.published.filter fun entry => entry.1 = party).map (·.2)

structure Rely (party : Nat) (shared later : FlightShared) : Prop where
  grows : flight.rows shared <+: flight.rows later
  closed : settledResult (flight.rows shared) ≠ none → flight.rows later = flight.rows shared
  held : shared.holder () = some party →
    later.holder () = some party ∧ later.memory () = shared.memory () ∧
    (flight.rows later = flight.rows shared ∨
      (settledResult (flight.rows shared) = none ∧ (shared.memory ()).state ≠ .opened) ∧
      ∃ result, flight.rows later =
        flight.rows shared ++ [terminalRecord (flight.rows shared) result])
  own : publishedBy party later = publishedBy party shared
  winner : ∀ other, shared.settledBy flight.id = some other → later.settledBy flight.id = some other
  loser : shared.settledBy flight.id ≠ some party → later.settledBy flight.id ≠ some party
  frozen : (shared.memory ()).state ≠ .opened →
    (later.memory ()).snapshot = (shared.memory ()).snapshot ∧
    (later.memory ()).state ≠ .opened

def flightRules : FlightRules := ⟨fun _ _ _ _ => True, FlightInv flight, Rely flight⟩

variable {flight} {party : Nat} {shared middle later after : FlightShared}

theorem Rely.refl : Rely flight party shared shared where
  grows := List.prefix_refl _
  closed _ := rfl
  held := fun held => ⟨held, rfl, .inl rfl⟩
  own := rfl
  winner := fun _ found => found
  loser := id
  frozen := fun closed => ⟨rfl, closed⟩

theorem Rely.trans (first : Rely flight party shared middle)
    (second : Rely flight party middle later) : Rely flight party shared later where
  grows := first.grows.trans second.grows
  closed := by
    intro settled
    have same := first.closed settled
    rw [← same] at settled
    rw [second.closed settled, same]
  held := by
    intro held
    obtain ⟨held', memory, rows⟩ := first.held held
    obtain ⟨held'', memory', rows'⟩ := second.held held'
    refine ⟨held'', memory'.trans memory, ?_⟩
    rcases rows with same | ⟨unsettled, result, terminal⟩
    · rwa [same, memory] at rows'
    · -- nothing is written after the terminal row
      have stays := second.closed (by rw [terminal, settled_result_terminal]; exact nofun)
      exact .inr ⟨unsettled, result, stays.trans terminal⟩
  own := second.own.trans first.own
  winner := fun other found => second.winner other (first.winner other found)
  loser := fun lost => second.loser (first.loser lost)
  frozen := by
    intro closed
    obtain ⟨same, closed'⟩ := first.frozen closed
    obtain ⟨same', closed''⟩ := second.frozen closed'
    exact ⟨same'.trans same, closed''⟩

section

variable (unsettled : settledResult (flight.rows shared) = none)

include unsettled

theorem Rely.wrote (held : shared.holder () = some party) (different : other ≠ party)
    (wrote : Wrote flight shared after (flight.rows shared ++ [record]))
    (winner : after.settledBy = shared.settledBy) : Rely flight other shared after where
  grows := wrote.rows ▸ List.prefix_append _ _
  closed := fun settled => absurd unsettled settled
  held := by
    intro holds
    rw [held] at holds
    exact absurd (Option.some.inj holds).symm different
  own := by rw [publishedBy, wrote.published, publishedBy]
  winner := fun _ found => winner ▸ found
  loser := fun lost => winner ▸ lost
  frozen := fun closed => by rw [wrote.memory]; exact ⟨rfl, closed⟩

variable (inv : FlightInv flight shared)

include inv

theorem Rely.terminal (different : other ≠ party)
    (closed : shared.holder () ≠ some party → (shared.memory ()).state ≠ .opened)
    (wrote : Wrote flight shared after
      (flight.rows shared ++ [terminalRecord (flight.rows shared) result]))
    (winner : after.settledBy flight.id = some party) : Rely flight other shared after where
  grows := wrote.rows ▸ List.prefix_append _ _
  closed := fun settled => absurd unsettled settled
  held := by
    intro holds
    have apart : shared.holder () ≠ some party := by simpa [holds] using different
    rw [wrote.holder, wrote.memory]
    exact ⟨holds, rfl, .inr ⟨⟨unsettled, closed apart⟩, result, wrote.rows⟩⟩
  own := by rw [publishedBy, wrote.published, publishedBy]
  winner := by
    intro earlier found
    have settled := inv.winner.mp (by rw [found]; rfl)
    rw [unsettled] at settled
    cases settled
  loser := by
    intro _ won
    rw [winner] at won
    exact different (Option.some.inj won).symm
  frozen := fun closed => by rw [wrote.memory]; exact ⟨rfl, closed⟩

theorem FlightInv.unpublished : shared.published = [] := by
  cases listed : shared.published with
  | nil => rfl
  | cons entry rest =>
    have settled := (inv.told entry (by rw [listed]; exact List.mem_cons_self)).2.1
    rw [unsettled] at settled
    cases settled

theorem FlightInv.extended (wrote : Wrote flight shared after (flight.rows shared ++ [record]))
    (free : after.holder () = none → Agrees (after.memory ()) (flight.rows after))
    (snapshot : ∀ intent snapshot slots, record.event = .intentJournaled intent snapshot slots →
      snapshot = (shared.memory ()).snapshot ∧ (shared.memory ()).state ≠ .opened)
    (winner : (after.settledBy flight.id).isSome ↔ (settledResult (flight.rows after)).isSome) :
    FlightInv flight after where
  settledLast := wrote.rows ▸ settled_last_append_one unsettled
  free := free
  frozen := by
    rw [wrote.rows, wrote.memory]
    exact List.forall_mem_append.mpr ⟨inv.frozen, List.forall_mem_singleton.mpr snapshot⟩
  attached := wrote.memory ▸ inv.attached
  winner := winner
  told := by
    rw [wrote.published, inv.unpublished unsettled]
    exact nofun
  once := by
    rw [wrote.published, inv.unpublished unsettled]
    exact List.nodup_nil

theorem FlightInv.terminal
    (closed : shared.holder () ≠ some party → (shared.memory ()).state ≠ .opened)
    (wrote : Wrote flight shared after
      (flight.rows shared ++ [terminalRecord (flight.rows shared) result]))
    (winner : after.settledBy flight.id = some party) : FlightInv flight after := by
  refine inv.extended unsettled wrote ?_ nofun ?_
  · rw [wrote.rows, wrote.memory, wrote.holder]
    exact fun free => (inv.free free).plain unsettled rfl
      (.inr (closed (by rw [free]; exact nofun)))
  · rw [winner, wrote.rows, settled_result_terminal]
    exact ⟨fun _ => rfl, fun _ => rfl⟩

theorem FlightInv.wrote (held : shared.holder () = some party)
    (open_ : record.settledResult = none)
    (snapshot : ∀ intent snapshot slots, record.event = .intentJournaled intent snapshot slots →
      snapshot = (shared.memory ()).snapshot ∧ (shared.memory ()).state ≠ .opened)
    (wrote : Wrote flight shared after (flight.rows shared ++ [record]))
    (winner : after.settledBy = shared.settledBy) : FlightInv flight after := by
  refine inv.extended unsettled wrote ?_ snapshot ?_
  · rw [wrote.holder, held]
    exact nofun
  · rw [winner, wrote.rows, settled_result_append_one, open_, inv.winner]
    rfl

end

/-! ### Inside the mutex -/

/-- The party holds the mutex, and this is the memory it has in hand. -/
structure Inside (flight : Flight) (party : Nat) (memory : FlightMemory)
    (shared : FlightShared) : Prop where
  held : shared.holder () = some party
  agrees : Agrees memory (flight.rows shared)
  frozen : (shared.memory ()).state ≠ .opened →
    memory.snapshot = (shared.memory ()).snapshot ∧ memory.state ≠ .opened

section

variable (inside : Inside flight party memory shared)

include inside

theorem Inside.kept
    (keeps : Rely flight party shared later) : Inside flight party memory later := by
  obtain ⟨held, same, rows⟩ := keeps.held inside.held
  refine ⟨held, ?_, same ▸ inside.frozen⟩
  rcases rows with kept | ⟨unsettled, result, terminal⟩
  · rw [kept]
    exact inside.agrees
  · rw [terminal]
    exact inside.agrees.plain unsettled.1 rfl (.inr (inside.frozen unsettled.2).2)

variable {post : α → FlightShared → Prop}

omit inside in
/-- The terminal row, if there is one, is another party's. -/
def Loses (flight : Flight) (party : Nat) (shared : FlightShared) : Prop :=
  shared.settledBy flight.id ≠ some party

theorem Inside.settle (durable : settledResult (flight.rows shared) = some result)
    (state : left.state = .settled result) (owners : left.owners = memory.owners)
    (snapshot : left.snapshot = memory.snapshot)
    (collateral : left.collateral = memory.collateral) : Inside flight party left shared where
  held := inside.held
  agrees := by
    have agrees := inside.agrees
    refine ⟨?_, ?_, ?_, ?_, ?_, owners ▸ agrees.distinct.1, snapshot ▸ agrees.distinct.2⟩
    · rw [collateral]
      exact agrees.collateral
    · intro row member intent others slots found
      rw [snapshot, state]
      exact ⟨(agrees.intents row member intent others slots found).1, nofun, nofun⟩
    · intro other settled
      rw [state] at settled
      cases settled
      exact durable
    · intro unsettled
      exact absurd state (unsettled result)
    · refine .inr ⟨by simp [state], ?_⟩
      rw [snapshot, owners]
      exact (agrees.closed.resolve_left (by simp [durable])).2
  frozen := by
    intro closed
    rw [snapshot, state]
    exact ⟨(inside.frozen closed).1, nofun⟩

theorem Inside.update (state : left.state = memory.state)
    (snapshot : left.snapshot = memory.snapshot) (collateral : left.collateral = memory.collateral)
    (delivered : left.delivered = memory.delivered) (distinct : left.owners.Nodup)
    (owners : memory.state ≠ .opened → left.owners = memory.owners) :
    Inside flight party left shared :=
  ⟨inside.held, inside.agrees.update state snapshot collateral delivered distinct owners, by
    rw [snapshot, state]
    exact inside.frozen⟩

/-- No intent is journaled while the flight is open, so the snapshot may be taken. -/
theorem Inside.close (opened : memory.state = .opened) (owners : left.owners = memory.owners)
    (snapshot : left.snapshot = memory.owners) (collateral : left.collateral = memory.collateral)
    (delivered : left.delivered = memory.delivered)
    (state : left.state = .admissionClosed ∨ left.state = .signaling) :
    Inside flight party left shared where
  held := inside.held
  agrees := by
    have agrees := inside.agrees
    refine ⟨?_, ?_, ?_, ?_, ?_, owners ▸ agrees.distinct.1, snapshot ▸ agrees.distinct.1⟩
    · rw [collateral]
      exact agrees.collateral
    · intro row member intent others slots found
      exact absurd opened (agrees.intents row member intent others slots found).2.1
    · intro result settled
      rw [settled] at state
      rcases state with same | same <;> cases same
    · intro _
      rw [delivered]
      exact agrees.undelivered (by simp [opened])
    · exact .inr ⟨by rcases state with same | same <;> simp [same], snapshot.trans owners.symm⟩
  frozen := fun closed => absurd opened (inside.frozen closed).2

end

/-! ### The terminal row -/

/-- The party wrote the terminal row, with this result after these rows, to be told to the
snapshot and the collateral owners; so far it has told these. -/
structure Won (flight : Flight) (party : Nat) (result : ResourceActionResult)
    (rows : List JournalRecord) (snapshot : OwnerSet) (told : List NodeCleanupAggregation)
    (shared : FlightShared) : Prop where
  winner : shared.settledBy flight.id = some party
  written : flight.rows shared = rows
  settled : settledResult rows = some result
  snapshot : (shared.memory ()).snapshot = snapshot
  closed : (shared.memory ()).state ≠ .opened
  told : publishedBy party shared = told

theorem Won.kept (won : Won flight party result rows snapshot told shared)
    (keeps : Rely flight party shared later) :
    Won flight party result rows snapshot told later where
  winner := keeps.winner party won.winner
  written := by
    rw [keeps.closed (by rw [won.written, won.settled]; exact nofun), won.written]
  settled := won.settled
  snapshot := (keeps.frozen won.closed).1.trans won.snapshot
  closed := (keeps.frozen won.closed).2
  told := keeps.own.trans won.told

theorem published_by_append (published : List (Nat × NodeCleanupAggregation))
    (aggregation : NodeCleanupAggregation) :
    ((published ++ [(party, aggregation)]).filter fun entry => entry.1 = other).map (·.2) =
      (published.filter fun entry => entry.1 = other).map (·.2) ++
        if party = other then [aggregation] else [] := by
  by_cases same : party = other <;> simp [same]

theorem Won.published (won : Won flight party result rows snapshot told shared)
    (inv : FlightInv flight shared) : shared.published.map (·.2) = told := by
  rw [← won.told, publishedBy, List.filter_eq_self.mpr]
  intro entry member
  have winner := (inv.told entry member).1
  rw [won.winner] at winner
  exact decide_eq_true (Option.some.inj winner).symm

theorem meets_publish_each (collateral : CollateralDisposition) (count : Nat)
    (recipients : List ResourceFlightOwner)
    (won : Won flight party result rows snapshot told shared)
    (distinct : (told.map (·.owner) ++ recipients).Nodup)
    (named : ∀ owner ∈ recipients, Recipient snapshot rows owner) :
    Meets flightService (flightRules flight) party
      (fun _ after => Won flight party result rows snapshot
        (told ++ recipients.map fun owner => ⟨owner, flight.id, result, collateral, count⟩) after)
      (publishEach flight.id result collateral count recipients) shared := by
  induction recipients generalizing shared told with
  | nil =>
    rw [List.map_nil, List.append_nil]
    exact won
  | cons owner rest ih =>
    intro later keeps inv choice _ after reply served
    have still := won.kept keeps
    rw [← List.singleton_append, ← List.append_assoc] at distinct
    cases served
    refine ⟨⟨inv.settledLast, inv.free, inv.frozen, inv.attached, inv.winner, ?_, ?_⟩, ?_, ?_⟩
    · refine List.forall_mem_append.mpr ⟨inv.told, List.forall_mem_singleton.mpr ⟨still.winner,
        (congrArg settledResult still.written).trans still.settled, rfl, still.closed, ?_⟩⟩
      have here := named owner List.mem_cons_self
      rw [← still.snapshot, ← still.written] at here
      exact here
    · have owners : later.published.map (·.2.owner) = told.map (·.owner) := by
        rw [← still.published inv, List.map_map]
        rfl
      rw [List.map_append, owners]
      exact distinct.of_append_left
    · intro other different
      refine ⟨List.prefix_refl _, fun _ => rfl, fun held => ⟨held, rfl, .inl rfl⟩, ?_,
        fun _ found => found, id, fun closed => ⟨rfl, closed⟩⟩
      rw [publishedBy, published_by_append, if_neg (Ne.symm different), List.append_nil]
      rfl
    · have next := @ih (told ++ [⟨owner, flight.id, result, collateral, count⟩])
        { later with published := later.published ++
          [(party, ⟨owner, flight.id, result, collateral, count⟩)] }
        ⟨still.winner, still.written, still.settled, still.snapshot, still.closed, by
          rw [publishedBy, published_by_append, if_pos rfl]
          exact congrArg (· ++ _) still.told⟩
        (by rw [List.map_append]; exact distinct)
        (fun other member => named other (List.mem_cons_of_mem owner member))
      rw [List.append_assoc] at next
      exact next

/-- The party has just written the terminal row, and these are the owners to be told. -/
structure Wins (flight : Flight) (party : Nat) (settlement : Settlement) (memory : FlightMemory)
    (shared : FlightShared) : Prop where
  appended : settlement.appended = true
  winner : shared.settledBy flight.id = some party
  settled : settledResult (flight.rows shared) = some settlement.result
  closed : memory.state ≠ .opened
  untold : publishedBy party shared = []
  distinct : settlement.recipients.Nodup
  exactly : ∀ owner, owner ∈ settlement.recipients ↔
    Recipient memory.snapshot (flight.rows shared) owner

structure Finds (flight : Flight) (party : Nat) (settlement : Settlement)
    (shared : FlightShared) : Prop where
  unappended : settlement.appended = false
  silent : settlement.recipients = []
  lost : Loses flight party shared
  settled : settledResult (flight.rows shared) = some settlement.result

theorem Rely.durable (keeps : Rely flight party shared later)
    (settled : settledResult (flight.rows shared) = some result) :
    settledResult (flight.rows later) = some result := by
  rw [keeps.closed (by rw [settled]; exact nofun), settled]

variable {settlement : Settlement}

theorem Wins.kept (wins : Wins flight party settlement memory shared)
    (keeps : Rely flight party shared later) : Wins flight party settlement memory later where
  appended := wins.appended
  winner := keeps.winner party wins.winner
  settled := keeps.durable wins.settled
  closed := wins.closed
  untold := keeps.own.trans wins.untold
  distinct := wins.distinct
  exactly := by
    rw [keeps.closed (by rw [wins.settled]; exact nofun)]
    exact wins.exactly

theorem Finds.kept (finds : Finds flight party settlement shared)
    (keeps : Rely flight party shared later) : Finds flight party settlement later :=
  ⟨finds.unappended, finds.silent, keeps.loser finds.lost, keeps.durable finds.settled⟩

def Settles (flight : Flight) (party : Nat) (proposed : ResourceActionResult)
    (settlement : Settlement) (memory : FlightMemory) (shared : FlightShared) : Prop :=
  (Wins flight party settlement memory shared ∧ settlement.result = proposed) ∨
    Finds flight party settlement shared

theorem Settles.kept (settles : Settles flight party proposed settlement memory shared)
    (keeps : Rely flight party shared later) :
    Settles flight party proposed settlement memory later :=
  settles.imp (fun wins => ⟨wins.1.kept keeps, wins.2⟩) fun finds => finds.kept keeps

theorem Inside.win (inside : Inside flight party memory shared) (inv : FlightInv flight shared)
    (signaling : memory.state = .signaling) (unsettled : settledResult (flight.rows shared) = none)
    (wrote : Wrote flight shared after
      (flight.rows shared ++ [terminalRecord (flight.rows shared) proposed]))
    (winner : after.settledBy flight.id = some party) :
    Inside flight party { memory with
      sequence := sequence, state := .settled proposed
      delivered := memory.delivered.extend (memory.snapshot.extend memory.collateral) } after ∧
    Wins flight party
      ⟨proposed, (memory.snapshot.extend memory.collateral).filter
        fun owner => owner ∉ memory.delivered, true⟩
      { memory with
        sequence := sequence, state := .settled proposed
        delivered := memory.delivered.extend (memory.snapshot.extend memory.collateral) }
      after := by
  have durable : settledResult (flight.rows after) = some proposed := by
    rw [wrote.rows, settled_result_terminal]
  have agrees : Agrees memory (flight.rows after) := by
    rw [wrote.rows]
    exact inside.agrees.plain unsettled rfl (.inr (by simp [signaling]))
  have here : Inside flight party memory after :=
    ⟨wrote.holder ▸ inside.held, agrees, wrote.memory ▸ inside.frozen⟩
  have undelivered : memory.delivered = [] := agrees.undelivered (by simp [signaling])
  have everyone : (memory.snapshot.extend memory.collateral).filter
      (fun owner => owner ∉ memory.delivered) = memory.snapshot.extend memory.collateral := by
    simp [undelivered]
  refine ⟨here.settle durable rfl rfl rfl rfl, ⟨rfl, winner, durable, nofun, ?_, ?_, ?_⟩⟩
  · rw [publishedBy, wrote.published, inv.unpublished unsettled]
    rfl
  · rw [everyone]
    exact OwnerSet.nodup_extend inside.agrees.distinct.2 _
  · intro owner
    rw [everyone, OwnerSet.mem_extend, agrees.collateral owner]
    rfl

/-! ### Telling the owners -/

/-- The party wrote the terminal row and has told every owner of it once. -/
structure Told (flight : Flight) (party : Nat) (shared : FlightShared) : Prop where
  winner : shared.settledBy flight.id = some party
  settled : settledResult (flight.rows shared) ≠ none
  closed : (shared.memory ()).state ≠ .opened
  distinct : ((publishedBy party shared).map (·.owner)).Nodup
  exactly : ∀ owner, owner ∈ (publishedBy party shared).map (·.owner) ↔
    Recipient (shared.memory ()).snapshot (flight.rows shared) owner

/-- How an operation leaves the terminal row. -/
def Ended (flight : Flight) (party : Nat) (shared : FlightShared) : Prop :=
  Loses flight party shared ∨ Told flight party shared

theorem Ended.kept (ended : Ended flight party shared) (keeps : Rely flight party shared later) :
    Ended flight party later := by
  rcases ended with lost | told
  · exact .inl (keeps.loser lost)
  · have rows := keeps.closed told.settled
    obtain ⟨snapshot, closed⟩ := keeps.frozen told.closed
    refine .inr ⟨keeps.winner party told.winner, rows ▸ told.settled, closed, ?_, ?_⟩
    · rw [keeps.own]
      exact told.distinct
    · rw [keeps.own, snapshot, rows]
      exact told.exactly

/-- A settlement as it is returned once the mutex is given back. -/
def Returns (flight : Flight) (party : Nat) (settlement : Settlement) (shared : FlightShared) :
    Prop :=
  (settlement.appended = true ∧ settlement.recipients.Nodup ∧
    ∃ rows, Won flight party settlement.result rows (shared.memory ()).snapshot [] shared ∧
      ∀ owner, owner ∈ settlement.recipients ↔ Recipient (shared.memory ()).snapshot rows owner) ∨
  Finds flight party settlement shared

theorem Settles.returns (settles : Settles flight party proposed settlement memory shared) :
    Returns flight party settlement (shared.givenBack memory) := by
  rcases settles with ⟨wins, -⟩ | finds
  · refine .inl ⟨wins.appended, wins.distinct, flight.rows shared,
      ⟨wins.winner, rfl, wins.settled, rfl, by simpa using wins.closed, wins.untold⟩, ?_⟩
    simpa using wins.exactly
  · exact .inr ⟨finds.unappended, finds.silent, finds.lost, finds.settled⟩

/-! ### How a party stands -/

def settlementStanding (flight : Flight) (party : Nat) : Standing where
  left verdict memory shared := Inside flight party memory shared ∧ match verdict with
    | .nothing => Loses flight party shared
    | .durable result =>
      Loses flight party shared ∧ settledResult (flight.rows shared) = some result
    | .settlement proposed settlement => Settles flight party proposed settlement memory shared
  leaves
    | .nothing, shared => Loses flight party shared
    | .durable result, shared =>
      Loses flight party shared ∧ settledResult (flight.rows shared) = some result
    | .settlement proposed settlement, shared => Returns flight party settlement shared ∧
      (settlement.appended = true → settlement.result = proposed)
  ends result shared := Ended flight party shared ∧
    ∀ durable, result = some durable → settledResult (flight.rows shared) = some durable
  won result shared := shared.settledBy flight.id = some party ∧
    settledResult (flight.rows shared) = some result
  fair _ := True

variable {verdict : Verdict}

section

variable (here : (settlementStanding flight party).left verdict memory shared)

include here

theorem left_kept (keeps : Rely flight party shared later) :
    (settlementStanding flight party).left verdict memory later := by
  obtain ⟨inside, here⟩ := here
  refine ⟨inside.kept keeps, ?_⟩
  cases verdict with
  | nothing => exact keeps.loser here
  | durable result => exact ⟨keeps.loser here.1, keeps.durable here.2⟩
  | settlement proposed settlement => exact Settles.kept here keeps

theorem left_leaves :
    (settlementStanding flight party).leaves verdict (shared.givenBack memory) := by
  obtain ⟨-, here⟩ := here
  cases verdict with
  | nothing | durable => exact here
  | settlement proposed settlement =>
    refine ⟨Settles.returns here, fun appended => ?_⟩
    rcases here with ⟨-, same⟩ | finds
    · exact same
    · rw [finds.unappended] at appended
      cases appended

end

/-! ### Recoveries -/

theorem mem_recorded_recipients :
    owner ∈ recordedRecipients rows ↔ ∃ row ∈ rows, owner ∈ row.event.recipients := by
  suffices general : ∀ start : OwnerSet,
      owner ∈ rows.foldl (fun recipients row => recipients.extend row.event.recipients) start ↔
        owner ∈ start ∨ ∃ row ∈ rows, owner ∈ row.event.recipients by
    rw [recordedRecipients, general]
    simp
  induction rows with
  | nil => simp
  | cons row rest ih =>
    intro start
    rw [List.foldl_cons, ih, OwnerSet.mem_extend]
    simp [or_assoc]

theorem nodup_recorded_recipients : (recordedRecipients rows).Nodup := by
  suffices general : ∀ start : OwnerSet, start.Nodup →
      (rows.foldl (fun recipients row => recipients.extend row.event.recipients) start).Nodup by
    exact general [] List.nodup_nil
  induction rows with
  | nil => exact fun _ distinct => distinct
  | cons row rest ih => exact fun start distinct => ih _ (OwnerSet.nodup_extend distinct _)

theorem FlightInv.recorded (inv : FlightInv flight shared)
    (intended : ∃ row ∈ flight.rows shared, row.event.isIntent = true)
    (owner : ResourceFlightOwner) :
    owner ∈ recordedRecipients (flight.rows shared) ↔
      Recipient (shared.memory ()).snapshot (flight.rows shared) owner := by
  rw [mem_recorded_recipients]
  constructor
  · rintro ⟨row, member, named⟩
    unfold JournalEvent.recipients at named
    split at named
    · rename_i intent snapshot slots event
      exact .inl ((inv.frozen row member intent snapshot slots event).1 ▸ named)
    · rename_i discovered event
      rw [List.mem_singleton] at named
      exact .inr ⟨row, member, named ▸ event⟩
    · cases named
  · rintro (snapped | ⟨row, member, event⟩)
    · obtain ⟨row, member, isIntent⟩ := intended
      unfold JournalEvent.isIntent at isIntent
      split at isIntent
      · rename_i intent snapshot slots event
        refine ⟨row, member, ?_⟩
        rw [event]
        exact (inv.frozen row member intent snapshot slots event).1 ▸ snapped
      · cases isIntent
    · exact ⟨row, member, by rw [event]; exact List.mem_singleton_self owner⟩

theorem settlement_recovers :
    (settlementStanding flight party).Recovers flight (flightRules flight) party := by
  intro durationMs shared lost later keeps inv choice _ after reply served
  obtain ⟨rfl, read⟩ := @served_records party _ _ choice flight _ served
  have lost := keeps.loser lost
  refine ⟨inv, fun _ _ => Rely.refl, ?_⟩
  cases reply with
  | error error => exact lost
  | ok rows =>
    cases read rows rfl
    cases settled : settledResult (flight.rows after) with
    | some existing =>
      simp only [Program.bind, settled]
      exact ⟨lost, settled⟩
    | none =>
      simp only [Program.bind, settled]
      split
      · rename_i intended
        rw [List.any_eq_true] at intended
        intro last keeps inv choice _ end_ reply served
        have lost := keeps.loser lost
        obtain ⟨rfl, unsettled, -, left⟩ | ⟨existing, settled, rfl, rfl⟩ |
            ⟨⟨error, rfl⟩, rfl⟩ := serve_append_terminal rfl served
        · have wrote := Wrote.pushed left
          have winner : end_.settledBy flight.id = some party := by simp [left]
          -- the intent that was read is still there, so the recorded owners are the snapshot
          have closed : (last.memory ()).state ≠ .opened := by
            obtain ⟨row, member, isIntent⟩ := intended
            unfold JournalEvent.isIntent at isIntent
            split at isIntent
            · next event => exact (inv.frozen row (keeps.grows.subset member) _ _ _ event).2
            · cases isIntent
          have wins := inv.terminal unsettled (fun _ => closed) wrote winner
          have still : ∃ row ∈ flight.rows end_, row.event.isIntent = true := by
            obtain ⟨row, member, isIntent⟩ := intended
            exact ⟨row, wrote.rows ▸ List.mem_append_left _ (keeps.grows.subset member), isIntent⟩
          refine ⟨wins, fun other different => .terminal unsettled inv different
            (fun _ => closed) wrote winner,
            .inl ⟨rfl, nodup_recorded_recipients, flight.rows end_,
              ⟨winner, rfl, ?_, rfl, ?_, ?_⟩, ?_⟩, fun _ => rfl⟩
          · rw [wrote.rows]
            exact settled_result_terminal
          · rw [wrote.memory]
            exact closed
          · rw [publishedBy, wrote.published, inv.unpublished unsettled]
            rfl
          · exact wrote.rows ▸ wins.recorded still
        · exact ⟨inv, fun _ _ => Rely.refl, lost, settled⟩
        · exact ⟨inv, fun _ _ => Rely.refl, lost⟩
      · exact lost

/-! ### Every operation -/

theorem settlement_unlocks :
    (settlementStanding flight party).Unlocks (flightRules flight) party := by
  intro α post rest verdict memory shared here goes later keeps inv choice _ after reply served
  obtain ⟨held, rfl⟩ := served_unlock choice served
  have still := here.1.kept keeps
  refine ⟨⟨inv.settledLast, by simpa using still.agrees, ?_, ?_, inv.winner, ?_, inv.once⟩, ?_,
    goes _ (left_leaves (left_kept here keeps))⟩
  · intro row member intent snapshot slots same
    have here := still.agrees.intents row member intent snapshot slots same
    simpa using ⟨here.1, here.2.1⟩
  · intro closed
    rw [given_back_memory] at closed ⊢
    exact (still.agrees.closed.resolve_left fun opened => closed opened.1).2
  · intro entry member
    obtain ⟨winner, settled, same, closed, named⟩ := inv.told entry member
    obtain ⟨snapshot, stays⟩ := still.frozen closed
    rw [given_back_memory, given_back_rows, snapshot]
    exact ⟨winner, settled, same, stays, named⟩
  · intro other different
    refine ⟨List.prefix_refl _, fun _ => rfl, ?_, rfl, fun _ found => found, id, ?_⟩
    · intro holds
      rw [held] at holds
      exact absurd (Option.some.inj holds).symm different
    · intro closed
      simpa using still.frozen closed

theorem settlement_tells : (settlementStanding flight party).Tells flight
    (flightRules flight) party := by
  rintro proposed settlement shared ⟨returns, same⟩
  -- Once the owners are told, the settlement that is returned is the durable one.
  rcases returns with ⟨-, distinct, rows, won, exactly⟩ | finds
  · refine (meets_publish_each _ _ settlement.recipients won distinct
      fun owner => (exactly owner).mp).mono ?_
    intro _ after won
    have owners : (publishedBy party after).map (·.owner) = settlement.recipients := by
      rw [won.told, List.nil_append, List.map_map]
      exact List.map_id _
    have settled : settledResult (flight.rows after) = some settlement.result :=
      (congrArg settledResult won.written).trans won.settled
    refine ⟨⟨.inr ⟨won.winner, by rw [settled]; simp, won.closed, ?_, ?_⟩, ?_⟩,
      fun appended => ⟨won.winner, same appended ▸ settled⟩⟩
    · rw [owners]
      exact distinct
    · rw [owners, won.snapshot, won.written]
      exact exactly
    · rintro _ ⟨⟩
      exact settled
  · rw [finds.silent]
    refine ⟨⟨.inl finds.lost, ?_⟩, ?_⟩
    · rintro _ ⟨⟩
      exact finds.settled
    · rw [finds.unappended]
      intro appended
      cases appended

theorem settlement_appends : (settlementStanding flight party).Appends flight
    (flightRules flight) party := by
  rintro event memory shared ⟨inside, lost⟩ fits same
  unfold Flight.append
  rw [within_get]
  refine (within_call _ _).mpr ?_
  intro later keeps inv choice _ after reply served
  have still := inside.kept keeps
  have kept : later.memory () = shared.memory () := (keeps.held inside.held).2.1
  have lost := keeps.loser lost
  obtain ⟨rfl, unsettled, -, left⟩ | ⟨⟨error, rfl⟩, rfl⟩ := serve_append served
  · have wrote := Wrote.pushed left
    have winner := congrArg Shared.settledBy left
    refine ⟨inv.wrote unsettled still.held ?_ ?_ wrote winner,
      fun other different => .wrote unsettled still.held different wrote winner, ?_⟩
    · exact fits.plainly
    · rintro intent snapshot slots found
      cases fits with
      | intent closed =>
        cases found
        rw [kept, ← same rfl]
        exact ⟨rfl, by simp [closed]⟩
      | capture _ captures =>
        cases found
        cases captures
      | observation _ observes =>
        cases found
        cases observes
      | _ => cases found
    · refine (within_set _).mpr ⟨⟨wrote.holder ▸ still.held, ?_, ?_⟩, ?_⟩
      · rw [wrote.rows]
        exact still.agrees.applied unsettled fits _ _
      · rw [wrote.memory]
        intro frozen
        obtain ⟨kept, open_⟩ := still.frozen frozen
        cases event with
        | intentJournaled | dispatchStarted => exact ⟨kept, fun same => by cases same⟩
        | _ => exact ⟨kept, open_⟩
      · change Loses flight party after
        rw [Loses, winner]
        exact lost
  · exact ⟨inv, fun _ _ => Rely.refl, ⟨still, lost⟩, fun _ => trivial, rfl⟩

theorem settlement_adopts : (settlementStanding flight party).Adopts flight
    (flightRules flight) party := by
  rintro memory shared ⟨inside, lost⟩
  refine (within_call _ _).mpr ?_
  intro later keeps inv choice _ after reply served
  obtain ⟨rfl, read⟩ := served_records choice served
  have still := inside.kept keeps
  refine ⟨inv, fun _ _ => Rely.refl, ?_⟩
  cases reply with
  | error cause =>
    exact ⟨⟨still.update rfl rfl rfl rfl still.agrees.distinct.1 fun _ => rfl, keeps.loser lost⟩,
      trivial⟩
  | ok rows =>
    cases read rows rfl
    cases settled : settledResult (flight.rows after) with
    | none =>
      simp only [settled, within_pure]
      exact ⟨trivial, still, keeps.loser lost⟩
    | some result =>
      simp only [settled, within_bind, within_modify, within_pure]
      exact ⟨still.settle settled rfl rfl rfl rfl, keeps.loser lost, settled⟩

theorem settlement_terminates : (settlementStanding flight party).Terminates flight
    (flightRules flight) party := by
  rintro post rest proposed memory shared ⟨inside, lost⟩ signaling appended already failed
  refine (within_call _ _).mpr ?_
  intro later keeps inv choice _ after reply served
  have still := inside.kept keeps
  have lost := keeps.loser lost
  obtain ⟨rfl, unsettled, -, left⟩ | ⟨existing, settled, rfl, rfl⟩ | ⟨⟨error, rfl⟩, rfl⟩ :=
    serve_append_terminal rfl served
  · have wrote := Wrote.pushed left
    have winner : after.settledBy flight.id = some party := by simp [left]
    obtain ⟨stays, wins⟩ := still.win inv signaling unsettled wrote winner
    have closed : later.holder () ≠ some party → (later.memory ()).state ≠ .opened :=
      fun apart => absurd still.held apart
    exact ⟨inv.terminal unsettled closed wrote winner,
      fun other different => .terminal unsettled inv different closed wrote winner,
      appended _ after ⟨stays, .inl ⟨wins, rfl⟩⟩⟩
  · exact ⟨inv, fun _ _ => Rely.refl,
      already existing after ⟨still.settle settled rfl rfl rfl rfl, lost, settled⟩⟩
  · exact ⟨inv, fun _ _ => Rely.refl,
      failed error after
        ⟨still.update rfl rfl rfl rfl still.agrees.distinct.1 fun _ => rfl, lost⟩ trivial⟩

theorem settlement_keeping (flight : Flight) (party : Nat) :
    Keeping flight (flightRules flight) party (settlementStanding flight party) where
  lock := by
    intro α post rest shared lost goes later keeps inv choice _ after reply served
    obtain ⟨free, rfl, rfl⟩ := served_lock choice served
    have agrees := inv.free free
    refine ⟨⟨inv.settledLast, by simp, inv.frozen, inv.attached, inv.winner, inv.told,
      inv.once⟩, ?_,
      goes later ⟨⟨by simp, agrees, fun closed => ⟨rfl, closed⟩⟩, keeps.loser lost⟩⟩
    intro other _
    refine ⟨List.prefix_refl _, fun _ => rfl, ?_, rfl, fun _ found => found, id,
      fun closed => ⟨rfl, closed⟩⟩
    intro held
    rw [free] at held
    cases held
  unlock := settlement_unlocks
  elapsed := by
    intro α post rest shared lost goes later keeps inv choice _ after reply served
    cases served
    exact ⟨inv, fun _ _ => Rely.refl, goes choice.now later (keeps.loser lost)⟩
  await := by
    intro α post ready rest shared lost goes later keeps inv choice _ after reply served
    have lost := keeps.loser lost
    obtain ⟨free, rfl, rfl⟩ := served_await choice party served
    exact ⟨inv, fun _ _ => Rely.refl, goes _ after lost fun result settled =>
      ⟨lost, (inv.free free).settled result settled⟩⟩
  recover := settlement_recovers
  tell := settlement_tells
  append := settlement_appends
  adopt := settlement_adopts
  terminal := settlement_terminates
  update := fun here distinct owners =>
    ⟨here.1.update rfl rfl rfl rfl (distinct here.1.agrees.distinct.1) owners, here.2⟩
  close := by
    rintro memory shared state ⟨inside, lost⟩ opened (rfl | rfl) <;>
      exact ⟨inside.close opened rfl rfl rfl rfl (by simp), lost⟩
  signal := by
    rintro memory shared ⟨inside, lost⟩ past
    exact ⟨⟨inside.held, inside.agrees.signal past,
      fun closed => ⟨(inside.frozen closed).1, by simp⟩⟩, lost⟩
  settled := fun here settled => ⟨here.1, here.2, here.1.agrees.settled _ settled⟩
  forget := fun here => ⟨here.1, here.2.1⟩
  found := fun here => ⟨here.1, .inr ⟨rfl, rfl, here.2.1, here.2.2⟩⟩
  left_durable := fun here => here.1
  silent := fun lost => ⟨.inl lost, fun _ same => by cases same⟩
  endured := by
    rintro shared result ⟨lost, settled⟩
    refine ⟨.inl lost, ?_⟩
    rintro _ ⟨⟩
    exact settled
  ended := fun here => ⟨here.1, fun _ same => by cases same⟩
  refused := fun _ _ => trivial
  unjournaled := fun _ => trivial

theorem Report.kept {op : FlightOp} {answer : FlightAnswer}
    (report : Report flight (settlementStanding flight party) op answer shared)
    (keeps : Rely flight party shared later) :
    Report flight (settlementStanding flight party) op answer later := by
  obtain ⟨ended, settled⟩ := report.ended
  refine ⟨⟨ended.kept keeps, fun durable same => keeps.durable (settled durable same)⟩, ?_,
    report.fair⟩
  intro owner guard same
  obtain ⟨reason, asked, own, now, winner, settled⟩ := report.transferred owner guard same
  exact ⟨reason, asked, own, now, keeps.winner party winner, keeps.durable settled⟩

/-- Every operation and every recovery keeps to the rules of the flight. -/
def flightContract (flight : Flight) :
    Contract flightService flight.body (flightRules flight) where
  fresh := Loses flight
  post party := Report flight (settlementStanding flight party)
  rely_refl := fun _ _ => Rely.refl
  rely_trans := fun _ _ _ _ first second => first.trans second
  fresh_kept := fun _ _ _ lost keeps _ => keeps.loser lost
  post_kept := fun _ _ _ _ _ report keeps _ => report.kept keeps
  stops := fun _ _ inv => ⟨inv, fun _ _ => Rely.refl⟩
  starts := fun party op _ _ lost => (settlement_keeping flight party).body op lost

/-! ### Whole runs -/

theorem admission_check_first {cap : UInt64}
    (checked : admissionCheck rows cap ⟨RESOURCE_FLIGHT_JOURNAL_SCHEMA_V1, 1, event⟩ = .ok ()) :
    rows = [] := by
  have sequence : 1 = sequenceOf (rows.length + 1) := admission_check_sequence checked
  unfold sequenceOf U64_MAX at sequence
  exact List.length_eq_zero_iff.mp (by omega)

theorem create_ok {journal : InMemoryJournal} {start : FlightWorld}
    (created : flight.create journal = .ok start) :
    start.parties = [] ∧ FlightInv flight start.shared ∧
      ∀ party, Loses flight party start.shared := by
  unfold Flight.create at created
  split at created
  · cases created
  · rename_i left appended
    cases created
    obtain ⟨taken, -, checked⟩ | ⟨error, refused⟩ := append_effect journal flight.id
      ⟨RESOURCE_FLIGHT_JOURNAL_SCHEMA_V1, FlightMemory.new.sequence,
        .flightReserved flight.key flight.attemptId⟩
    · have rows : left.records flight.id = [⟨RESOURCE_FLIGHT_JOURNAL_SCHEMA_V1, 1,
          .flightReserved flight.key flight.attemptId⟩] := by
        cases appended.symm.trans taken
        rw [push_records, if_pos rfl, admission_check_first checked]
        rfl
      refine ⟨rfl, ⟨?_, fun _ => ?_, ?_, fun closed => absurd rfl closed, ?_, by simp,
        List.nodup_nil⟩, fun _ => by simp [Loses]⟩
      · rw [Flight.rows, rows]
        exact @settled_last_append_one _ [] rfl
      · rw [Flight.rows, rows]
        exact ⟨by simp [FlightMemory.new], by simp, by simp [FlightMemory.new], fun _ => rfl,
          .inl ⟨rfl, rfl⟩, List.nodup_nil, List.nodup_nil⟩
      · rw [Flight.rows, rows]
        simp
      · rw [Flight.rows, rows]
        constructor
        · intro won
          cases won
        · intro settled
          cases settled
    · cases appended.symm.trans refused

/-- A flight that fails before any intent is journaled. -/
def failedRun : List (Event FlightOp Choice) :=
  turns 0 (.attachOwner sampleOwner) 3 ++ turns 1 .reserveProcessLifecycle 3 ++
    turns 2 (.settleFailedBeforeDispatch ⟨.failed, 5, none, none⟩) 8

/-- A transfer at the deadline, while a recovery has already read the rows. -/
def transferRun : List (Event FlightOp Choice) :=
  turns 0 (.attachOwner sampleOwner) 3 ++ turns 1 .reserveProcessLifecycle 3 ++
    turns 2 .closeAdmission 2 ++ turns 3 (.journalIntent ⟨sampleOwner, "digest", none⟩) 3 ++
    turns 4 .beginJournaledDispatch 4 ++ turns 5 (.recoverDead 9) 1 ++
    turns 6 (.transferCleanupDeadlineNow "deadline") 12 ++ [.act 5 ⟨none, 9⟩]

end A2aBridge.Flights
