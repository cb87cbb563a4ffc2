import A2aBridge.RegistrySlots
import A2aBridge.TaskPool

/-!
The calls of the registry and its detached tasks, one point for each atomic access they
make to shared memory. Reads that only a writer under the lock could disturb are taken
together by a task that holds the lock, and a guard's wake-up of waiters is left out: a
waiting task may look again at any time. The order in which a hash map is walked is a
choice of the environment, as are the answers of observers, spawns and backends and the
passing of time.
-/

namespace A2aBridge.Registry

open TaskPool

inductive BoundMcpDelivery where
  | acp (servers : List McpServerSpec)
  | codexNative (args : List String)
  | kiroNative (agentName json : String)
  deriving DecidableEq

/-- What `resolve_bound` reads of a `BoundProviderEffectV1`. -/
structure BoundProviderEffect where
  agent : AgentId
  effectiveSessionCwd : String
  checkoutEffectiveCwd : String
  mcpDeliveryDigest : String
  deliveryDigest : String
  effectDigest : String
  payload : BoundMcpDelivery
  deriving DecidableEq

inductive BoundBackendScope where
  | sharedSessionScoped
  | effectKeyedProcess
  deriving DecidableEq

def channelMatches : McpDelivery → BoundMcpDelivery → Bool
  | .acp, .acp _ => true
  | .codexNative, .codexNative _ => true
  | .kiroNative, .kiroNative _ _ => true
  | _, _ => false

/-- Whether a bound use of the entry has a process of its own for each effect. -/
def effectKeyed (entry : AgentEntry) : Bool :=
  match entry.kind, entry.mcpDelivery with
  | .acp, .codexNative => true
  | .acp, .kiroNative => true
  | _, _ => false

def boundBackendScope (entry : AgentEntry) (payload : BoundMcpDelivery) :
    Except RegistryError BoundBackendScope :=
  if channelMatches entry.mcpDelivery payload then
    .ok (if effectKeyed entry then .effectKeyedProcess else .sharedSessionScoped)
  else .error (.configMismatch "bound_mcp_delivery")

/-- The slot a call took from the published state, and that state's edition. -/
structure Route where
  edition : Nat
  slot : SlotId
  deriving DecidableEq

/-- `since` is bookkeeping: the published edition when the call began. -/
structure ResolveCall where
  id : AgentId
  admitted : Option EntryRef
  since : Nat
  deriving DecidableEq

/-- What a resolve has in hand once its slot has a backend: the entry it would have spawned
from, the backend and whether this very call spawned it. -/
structure Gain where
  route : Route
  entryForSpawn : EntryRef
  backend : BackendId
  initializedHere : Bool
  deriving DecidableEq

inductive ResolvePoint where
  | started
  | load
  | unknown
  | entry (route : Route)
  | init (route : Route) (entry : EntryRef)
  | spawn (route : Route) (entry : EntryRef)
  | failed
  | lease (gain : Gain)
  | epoch (gain : Gain)
  | claim (gain : Gain)
  | yield (gain : Gain)
  | wait (gain : Gain)
  | verdict (gain : Gain)
  | check (gain : Gain)
  | lose (gain : Gain)
  | discard (gain : Gain)
  | watch (gain : Gain)
  | launch (gain : Gain)
  | completed (gain : Gain)
  | abandon (gain : Gain)
  | answer (gain : Gain)
  deriving DecidableEq

/-- A `Resolved` in the hands of its caller. -/
structure Resolved where
  gain : Gain
  entry : EntryRef
  deriving DecidableEq

structure BindCall where
  id : AgentId
  since : Nat
  deriving DecidableEq

inductive BindPoint where
  | load
  | lease (route : Route)
  | epoch (route : Route)
  | claim (route : Route)
  | check (route : Route)
  | giveUp (route : Route)
  | entry (route : Route)
  | mapped (route : Route) (entry : EntryRef)
  | live (route : Route) (entry : EntryRef)
  | serial (route : Route) (entry : EntryRef)
  deriving DecidableEq

/-- A `BoundEntryUseV1`; `token` is the entry its token was made for. -/
structure BoundUse where
  route : Route
  entry : EntryRef
  token : EntryRef
  serial : Nat
  deriving DecidableEq

inductive ResolveBoundPoint where
  | verify
  | started
  | scope
  | unsupported
  | init (cell : CellRef)
  | spawn (cell : CellRef)
  | failed
  | watch (backend : BackendId)
  | launch (backend : BackendId)
  | completed (backend : BackendId)
  | leave (answer : Except RegistryError BackendId)

inductive InvalidateBoundPoint where
  | lock
  | exact
  | detach
  | publish
  | mark
  | unlock
  | leave
  deriving DecidableEq

inductive InvalidatePoint where
  | lock
  | find
  | publish (slot : SlotId)
  | mark (slot : SlotId)
  | unlock
  deriving DecidableEq

inductive ApplyPoint where
  | lock
  | validate
  | reconcile (old : RoutingState) (edition : Nat) (todo : List AgentEntry) (next : SlotMap)
  | retire (edition : Nat) (todo : List SlotId)
  | unlock (answer : Except RegistryError Nat)

inductive WatchPoint where
  | top
  | epoch
  | leases (epoch : Nat)
  | parked
  | window (epoch : Nat)
  | recheck (epoch : Nat)
  | recheckEpoch (epoch : Nat)
  | lock (epoch : Nat)
  | mapped (epoch : Nat)
  | claim (epoch : Nat) (entry : EntryRef)
  | claimLeases (epoch : Nat) (entry : EntryRef)
  | claimEpoch (epoch : Nat) (entry : EntryRef)
  | withdraw
  | publish (entry : EntryRef)
  | mark
  | unlock (ended : Bool)
  deriving DecidableEq

/-- `plan` is the removed cell of a keyed retirement, or nothing for a whole slot. -/
inductive RetirePoint where
  | drain (plan : Option CellRef)
  | inspectShared
  | sendShared (backend : BackendId)
  | collect
  | inspect (cells : List CellRef)
  | send (backend : BackendId) (cells : List CellRef)
  deriving DecidableEq

inductive Lookup where
  | defaultId
  | list
  | configuredEffective (id : AgentId)
  | entrySnapshot (id : AgentId)
  | mcpAdvertisement
  deriving DecidableEq

structure LookupCall where
  lookup : Lookup
  since : Nat
  deriving DecidableEq

/-- What a lookup answers from: the state it loaded and the entries it read through it. -/
structure Sighting where
  state : RoutingState
  entries : List (AgentId × EntryRef)

inductive LookupPoint where
  | load
  | entry (state : RoutingState) (id : AgentId) (slot : SlotId)
  | gather (sighting : Sighting) (todo : List (AgentId × SlotId))

inductive Answer where
  | refused (error : RegistryError)
  | unbound
  | dropped
  | boundBackend (answer : Except RegistryError BackendId)
  | invalidated
  | applied (answer : Except RegistryError Nat)
  | sighted (call : LookupCall) (sighting : Sighting)
  | ended

inductive Task where
  | resolve (call : ResolveCall) (point : ResolvePoint)
  | resolved (call : ResolveCall) (held : Resolved)
  | bind (call : BindCall) (point : BindPoint)
  | bound (call : BindCall) (use : BoundUse)
  | resolveBound (use : BoundUse) (effect : BoundProviderEffect) (point : ResolveBoundPoint)
  | invalidateBound (use : BoundUse) (digest : String) (point : InvalidateBoundPoint)
  | invalidate (agent : AgentId) (point : InvalidatePoint)
  | apply (desired : RegistrySnapshot) (point : ApplyPoint)
  | watch (slot : SlotId) (point : WatchPoint)
  | retire (slot : SlotId) (point : RetirePoint)
  | lookup (call : LookupCall) (point : LookupPoint)
  | finished (answer : Answer)

/-- `proceed` takes the action a point is at, an awaited call succeeding; `refuse` is that
call failing; `expire` is a deadline passing; `pick` names an item of a hash map walk. The
rest is what the holder of a guard does with it. -/
inductive Choice where
  | proceed
  | refuse
  | expire
  | pick (index : Nat)
  | drop
  | lend (effect : BoundProviderEffect)
  | invalidate (digest : String)
  deriving DecidableEq

abbrev Out := Option (Outcome Memory Task)

def go (m : Memory) (task : Task) : Out := some ⟨m, task, []⟩

section Acts

variable (settings : Settings) (m : Memory)

/-- `resolve_with_observer`. -/
def actResolve (call : ResolveCall) : ResolvePoint → Choice → Out
  | .started, .proceed => go m (.resolve call .load)
  | .started, .refuse => go m (.finished (.refused .observer))
  | .load, .proceed =>
    match m.lookup call.id with
    | some slot => go m (.resolve call (.entry ⟨m.published.edition, slot⟩))
    | none =>
      if call.admitted.isSome then
        go m (.finished (.refused (.configMismatch "fallback entry")))
      else go m (.resolve call .unknown)
  | .unknown, .proceed => go m (.finished (.refused (.unknownAgent call.id)))
  | .unknown, .refuse => go m (.finished (.refused .observer))
  | .entry route, .proceed =>
    let entryForSpawn := (m.slots route.slot).entry
    if call.admitted.any (fun admitted => admitted != entryForSpawn) then
      go m (.finished (.refused (.configMismatch "fallback entry")))
    else go m (.resolve call (.init route entryForSpawn))
  | .init route entry, .proceed =>
    match m.cells (.shared route.slot) with
    | .full backend => go m (.resolve call (.lease ⟨route, entry, backend, false⟩))
    | .empty => go (m.setCell (.shared route.slot) .initializing) (.resolve call (.spawn route entry))
    -- Another initializer runs: wait for its outcome.
    | .initializing => none
  | .spawn route entry, .proceed =>
    go (m.fill (.shared route.slot)) (.resolve call (.lease ⟨route, entry, m.nextBackend, true⟩))
  | .spawn route _, .refuse => go (m.setCell (.shared route.slot) .empty) (.resolve call .failed)
  | .failed, .proceed => go m (.finished (.refused .spawn))
  | .failed, .refuse => go m (.finished (.refused .observer))
  | .lease gain, .proceed => go (m.addLease gain.route.slot) (.resolve call (.epoch gain))
  | .epoch gain, .proceed => go (m.bumpEpoch gain.route.slot) (.resolve call (.claim gain))
  | .claim gain, .proceed =>
    if (m.slots gain.route.slot).idleRetiring then go m (.resolve call (.yield gain))
    else go m (.resolve call (.check gain))
  | .yield gain, .proceed => go (m.dropLease gain.route.slot) (.resolve call (.wait gain))
  -- The lock is taken and given back at once, so this only waits until it is free.
  | .wait gain, .proceed => if m.writeLock then none else go m (.resolve call (.verdict gain))
  | .verdict gain, .proceed =>
    if (m.slots gain.route.slot).retired && gain.initializedHere then
      go m (.resolve call (.discard gain))
    else go m (.resolve call .load)
  | .check gain, .proceed =>
    if (m.slots gain.route.slot).retired then go m (.resolve call (.lose gain))
    else go m (.resolve call (.watch gain))
  | .lose gain, .proceed => go (m.dropLease gain.route.slot) (.resolve call (.discard gain))
  | .discard gain, .proceed => go (m.sendRetire gain.backend) (.resolve call .load)
  | .discard _, .refuse => go m (.resolve call .load)
  | .watch gain, .proceed =>
    if settings.idleTtl = 0 ∨ (m.slots gain.route.slot).idleWatch ∨ (m.slots gain.route.slot).retired
    then go m (.resolve call (.completed gain))
    else go m (.resolve call (.launch gain))
  | .launch gain, .proceed =>
    if (m.slots gain.route.slot).idleWatch then go m (.resolve call (.completed gain))
    else
      some ⟨m.setIdleWatch gain.route.slot, .resolve call (.completed gain),
        [.watch gain.route.slot .top]⟩
  | .completed gain, .proceed => go m (.resolve call (.answer gain))
  | .completed gain, .refuse => go m (.resolve call (.abandon gain))
  | .abandon gain, .proceed =>
    go (m.dropLease gain.route.slot) (.finished (.refused .observer))
  | .answer gain, .proceed =>
    go m (.resolved call ⟨gain, call.admitted.getD (m.slots gain.route.slot).entry⟩)
  | _, _ => none

/-- `bind_entry_use`. -/
def actBind (call : BindCall) : BindPoint → Choice → Out
  | .load, .proceed =>
    match m.lookup call.id with
    | some slot => go m (.bind call (.lease ⟨m.published.edition, slot⟩))
    | none => go m (.finished .unbound)
  | .lease route, .proceed => go (m.addLease route.slot) (.bind call (.epoch route))
  | .epoch route, .proceed => go (m.bumpEpoch route.slot) (.bind call (.claim route))
  | .claim route, .proceed =>
    if (m.slots route.slot).idleRetiring then go m (.bind call (.giveUp route))
    else go m (.bind call (.check route))
  | .check route, .proceed =>
    if (m.slots route.slot).retired then go m (.bind call (.giveUp route))
    else go m (.bind call (.entry route))
  | .giveUp route, .proceed => go (m.dropLease route.slot) (.bind call .load)
  | .entry route, .proceed => go m (.bind call (.mapped route (m.slots route.slot).entry))
  | .mapped route entry, .proceed =>
    if m.lookup call.id = some route.slot then go m (.bind call (.live route entry))
    else go m (.bind call (.giveUp route))
  | .live route entry, .proceed =>
    if (m.slots route.slot).retired then go m (.bind call (.giveUp route))
    else go m (.bind call (.serial route entry))
  | .serial route entry, .proceed =>
    go { m with nextBoundUse := m.nextBoundUse + 1 }
      (.bound call ⟨route, entry, entry, m.nextBoundUse⟩)
  | _, _ => none

/-- The holder of a bound use may drop it once no call borrows it. -/
def actBound (call : BindCall) (use : BoundUse) : Choice → Out
  | .lend effect =>
    some ⟨m.borrow use.serial, .bound call use, [.resolveBound use effect .verify]⟩
  | .invalidate digest =>
    some ⟨m.borrow use.serial, .bound call use,
      [.invalidateBound use digest (if use.token = use.entry then .lock else .leave)]⟩
  | .drop =>
    if m.borrows use.serial = 0 then go (m.dropLease use.route.slot) (.finished .dropped)
    else none
  | _ => none

/-- `resolve_bound`. -/
def actResolveBound (use : BoundUse) (effect : BoundProviderEffect) :
    ResolveBoundPoint → Choice → Out
  | .verify, .proceed =>
    if use.token ≠ use.entry ∨ effect.agent ≠ use.entry.value.id
      ∨ effect.mcpDeliveryDigest ≠ effect.deliveryDigest
      ∨ effect.effectiveSessionCwd ≠ effect.checkoutEffectiveCwd then
      go m (.resolveBound use effect (.leave (.error (.configMismatch "bound_provider_effect"))))
    else go m (.resolveBound use effect .started)
  | .started, .proceed => go m (.resolveBound use effect .scope)
  | .started, .refuse => go m (.resolveBound use effect (.leave (.error .observer)))
  | .scope, .proceed =>
    match boundBackendScope use.entry.value effect.payload with
    | .error error => go m (.resolveBound use effect (.leave (.error error)))
    | .ok .sharedSessionScoped =>
      go m (.resolveBound use effect (.init (.shared use.route.slot)))
    | .ok .effectKeyedProcess =>
      if settings.boundAwareSpawn then
        match (m.slots use.route.slot).boundBackends.lookup effect.effectDigest with
        | some cell => go m (.resolveBound use effect (.init cell))
        | none =>
          go (m.insertBound use.route.slot effect.effectDigest)
            (.resolveBound use effect (.init (.keyed use.route.slot m.nextCell)))
      else go m (.resolveBound use effect .unsupported)
  | .unsupported, .proceed => go m (.resolveBound use effect (.leave (.error .bindUnsupported)))
  | .unsupported, .refuse => go m (.resolveBound use effect (.leave (.error .observer)))
  | .init cell, .proceed =>
    match m.cells cell with
    | .full backend => go m (.resolveBound use effect (.watch backend))
    | .empty => go (m.setCell cell .initializing) (.resolveBound use effect (.spawn cell))
    | .initializing => none
  | .spawn cell, .proceed => go (m.fill cell) (.resolveBound use effect (.watch m.nextBackend))
  | .spawn cell, .refuse => go (m.setCell cell .empty) (.resolveBound use effect .failed)
  | .failed, .proceed => go m (.resolveBound use effect (.leave (.error .spawn)))
  | .failed, .refuse => go m (.resolveBound use effect (.leave (.error .observer)))
  | .watch backend, .proceed =>
    if settings.idleTtl = 0 ∨ (m.slots use.route.slot).idleWatch ∨ (m.slots use.route.slot).retired
    then go m (.resolveBound use effect (.completed backend))
    else go m (.resolveBound use effect (.launch backend))
  | .launch backend, .proceed =>
    if (m.slots use.route.slot).idleWatch then go m (.resolveBound use effect (.completed backend))
    else
      some ⟨m.setIdleWatch use.route.slot, .resolveBound use effect (.completed backend),
        [.watch use.route.slot .top]⟩
  | .completed backend, .proceed => go m (.resolveBound use effect (.leave (.ok backend)))
  | .completed _, .refuse => go m (.resolveBound use effect (.leave (.error .observer)))
  | .leave answer, .proceed => go (m.giveBack use.serial) (.finished (.boundBackend answer))
  | _, _ => none

/-- Taking the writer lock, which waits while another task has it. -/
def lock (task : Task) : Out :=
  if m.writeLock then none else go { m with writeLock := true } task

def unlock (task : Task) : Out := go { m with writeLock := false } task

/-- `retired.store(true)` and the start of the slot's retirement. -/
def markRetired (slot : SlotId) (task : Task) : Out :=
  some ⟨m.setRetired slot, task, [.retire slot (.drain none)]⟩

/-- `invalidate_bound`, whose token check came before the lock. -/
def actInvalidateBound (use : BoundUse) (digest : String) : InvalidateBoundPoint → Choice → Out
  | .lock, .proceed => lock m (.invalidateBound use digest .exact)
  | .exact, .proceed =>
    if m.lookup use.entry.value.id = some use.route.slot
      ∧ (m.slots use.route.slot).entry = use.entry ∧ (m.slots use.route.slot).retired = false then
      if effectKeyed use.entry.value then go m (.invalidateBound use digest .detach)
      else go m (.invalidateBound use digest .publish)
    else go m (.invalidateBound use digest .unlock)
  | .detach, .proceed =>
    match (m.slots use.route.slot).boundBackends.lookup digest with
    | some cell =>
      some ⟨m.removeBound use.route.slot digest, .invalidateBound use digest .unlock,
        [.retire use.route.slot (.drain (some cell))]⟩
    | none => go m (.invalidateBound use digest .unlock)
  | .publish, .proceed => go (m.replace use.entry) (.invalidateBound use digest .mark)
  | .mark, .proceed => markRetired m use.route.slot (.invalidateBound use digest .unlock)
  | .unlock, .proceed => unlock m (.invalidateBound use digest .leave)
  | .leave, .proceed => go (m.giveBack use.serial) (.finished .invalidated)
  | _, _ => none

/-- `invalidate`. -/
def actInvalidate (agent : AgentId) : InvalidatePoint → Choice → Out
  | .lock, .proceed => lock m (.invalidate agent .find)
  | .find, .proceed =>
    match m.lookup agent with
    | some slot => go m (.invalidate agent (.publish slot))
    | none => go m (.invalidate agent .unlock)
  | .publish slot, .proceed =>
    go (m.replace (m.slots slot).entry) (.invalidate agent (.mark slot))
  | .mark slot, .proceed => markRetired m slot (.invalidate agent .unlock)
  | .unlock, .proceed => unlock m (.finished .invalidated)
  | _, _ => none

/-- The live slot an entry keeps: that of its id, if nothing it was spawned with changes. -/
def reusable (old : RoutingState) (e : AgentEntry) : Option SlotId :=
  (old.slots.lookup e.id).filter fun cur => sameSpawn (m.slots cur).entry.value e

def dropped (old next : SlotMap) : List SlotId :=
  (old.entries.filter fun entry => next.lookup entry.1 ≠ some entry.2).map (·.2)

/-- `apply`. -/
def actApply (desired : RegistrySnapshot) : ApplyPoint → Choice → Out
  | .lock, .proceed => lock m (.apply desired .validate)
  | .validate, .proceed =>
    match validate settings desired with
    | .error error => go m (.apply desired (.unlock (.error error)))
    | .ok () =>
      go { m with history := m.history ++ [desired] }
        (.apply desired (.reconcile m.published m.history.length desired.entries ∅))
  | .reconcile old edition (e :: todo) next, .proceed =>
    match reusable m old e with
    | some cur =>
      go (m.storeEntry cur edition e)
        (.apply desired (.reconcile old edition todo (next.insert e.id cur)))
    | none =>
      go (m.newSlot edition e)
        (.apply desired (.reconcile old edition todo (next.insert e.id m.nextSlot)))
  | .reconcile old edition [] next, .proceed =>
    go { m with published := ⟨next, desired.default, edition⟩ }
      (.apply desired (.retire edition (dropped old.slots next)))
  | .retire edition todo, .pick index =>
    match todo[index]? with
    | some slot => markRetired m slot (.apply desired (.retire edition (todo.eraseIdx index)))
    | none => none
  | .retire edition [], .proceed => go m (.apply desired (.unlock (.ok edition)))
  | .unlock answer, .proceed => unlock m (.finished (.applied answer))
  | _, _ => none

/-- `watch_idle` with `retire_idle_slot` and `claim_idle`. -/
def actWatch (slot : SlotId) : WatchPoint → Choice → Out
  | .top, .proceed =>
    if (m.slots slot).retired then go m (.finished .ended) else go m (.watch slot .epoch)
  | .epoch, .proceed => go m (.watch slot (.leases (m.slots slot).leaseAcquisitions))
  | .leases epoch, .proceed =>
    if 0 < (m.slots slot).leases then go m (.watch slot .parked)
    else go m (.watch slot (.window epoch))
  | .parked, .proceed => go m (.watch slot .top)
  | .window _, .proceed => go m (.watch slot .top)
  | .window epoch, .expire => go m (.watch slot (.recheck epoch))
  | .recheck epoch, .proceed =>
    if 0 < (m.slots slot).leases then go m (.watch slot .top)
    else go m (.watch slot (.recheckEpoch epoch))
  | .recheckEpoch epoch, .proceed =>
    if (m.slots slot).leaseAcquisitions ≠ epoch then go m (.watch slot .top)
    else go m (.watch slot (.lock epoch))
  | .lock epoch, .proceed => lock m (.watch slot (.mapped epoch))
  -- A weak handle no longer upgrades: the slot or the registry is gone.
  | .lock _, .refuse => go m (.finished .ended)
  | .mapped epoch, .proceed =>
    let entry := (m.slots slot).entry
    if m.lookup entry.value.id ≠ some slot ∨ (m.slots slot).retired then
      go m (.watch slot (.unlock true))
    else go m (.watch slot (.claim epoch entry))
  | .claim epoch entry, .proceed =>
    go (m.setIdleRetiring slot true) (.watch slot (.claimLeases epoch entry))
  | .claimLeases epoch entry, .proceed =>
    if (m.slots slot).leases = 0 then go m (.watch slot (.claimEpoch epoch entry))
    else go m (.watch slot .withdraw)
  | .claimEpoch epoch entry, .proceed =>
    if (m.slots slot).leaseAcquisitions = epoch then
      go (m.claim slot) (.watch slot (.publish entry))
    else go m (.watch slot .withdraw)
  | .withdraw, .proceed => go (m.setIdleRetiring slot false) (.watch slot (.unlock false))
  | .publish entry, .proceed => go (m.replace entry) (.watch slot .mark)
  | .mark, .proceed => markRetired m slot (.watch slot (.unlock true))
  | .unlock true, .proceed => unlock m (.finished .ended)
  | .unlock false, .proceed => unlock m (.watch slot .top)
  | _, _ => none

/-- `spawn_retirement` and `spawn_keyed_retirement`. A send is refused where the backend's
resource flight is. -/
def actRetire (slot : SlotId) : RetirePoint → Choice → Out
  | .drain plan, .proceed =>
    if (m.slots slot).leases = 0 then go m (.retire slot (afterDrain plan)) else none
  | .drain plan, .expire => go m (.retire slot (afterDrain plan))
  | .inspectShared, .proceed =>
    match m.cells (.shared slot) with
    | .full backend => go m (.retire slot (.sendShared backend))
    | _ => go m (.retire slot .collect)
  | .sendShared backend, .proceed => go (m.sendRetire backend) (.retire slot .collect)
  | .sendShared _, .refuse => go m (.retire slot .collect)
  | .collect, .proceed =>
    go m (.retire slot (.inspect ((m.slots slot).boundBackends.entries.map (·.2))))
  | .inspect [], .proceed => go m (.finished .ended)
  | .inspect cells, .pick index =>
    match cells[index]? with
    | some cell =>
      match m.cells cell with
      | .full backend => go m (.retire slot (.send backend (cells.eraseIdx index)))
      | _ => go m (.retire slot (.inspect (cells.eraseIdx index)))
    | none => none
  | .send backend cells, .proceed => go (m.sendRetire backend) (.retire slot (.inspect cells))
  | .send _ cells, .refuse => go m (.retire slot (.inspect cells))
  | _, _ => none
where
  afterDrain : Option CellRef → RetirePoint
    | none => .inspectShared
    | some cell => .inspect [cell]

/-- The read-only calls. -/
def actLookup (call : LookupCall) : LookupPoint → Choice → Out
  | .load, .proceed =>
    match call.lookup with
    | .defaultId => go m (.finished (.sighted call ⟨m.published, []⟩))
    | .list => go m (.finished (.sighted call ⟨m.published, []⟩))
    | .configuredEffective id => find id
    | .entrySnapshot id => find id
    | .mcpAdvertisement =>
      go m (.lookup call (.gather ⟨m.published, []⟩
        (m.published.slots.entries.map fun entry => (entry.1, entry.2))))
  | .entry state id slot, .proceed =>
    go m (.finished (.sighted call ⟨state, [(id, (m.slots slot).entry)]⟩))
  | .gather sighting todo, .pick index =>
    match todo[index]? with
    | some item =>
      go m (.lookup call (.gather
        ⟨sighting.state, sighting.entries ++ [(item.1, (m.slots item.2).entry)]⟩
        (todo.eraseIdx index)))
    | none => none
  | .gather sighting [], .proceed => go m (.finished (.sighted call sighting))
  | _, _ => none
where
  find (id : AgentId) : Out :=
    match m.lookup id with
    | some slot => go m (.lookup call (.entry m.published id slot))
    | none => go m (.finished (.sighted call ⟨m.published, []⟩))

def act : Task → Choice → Out
  | .resolve call point, choice => actResolve settings m call point choice
  | .resolved _ held, .drop => go (m.dropLease held.gain.route.slot) (.finished .dropped)
  | .bind call point, choice => actBind m call point choice
  | .bound call use, choice => actBound m call use choice
  | .resolveBound use effect point, choice => actResolveBound settings m use effect point choice
  | .invalidateBound use digest point, choice => actInvalidateBound m use digest point choice
  | .invalidate agent point, choice => actInvalidate m agent point choice
  | .apply desired point, choice => actApply settings m desired point choice
  | .watch slot point, choice => actWatch m slot point choice
  | .retire slot point, choice => actRetire m slot point choice
  | .lookup call point, choice => actLookup m call point choice
  | _, _ => none

end Acts

inductive Call where
  | resolve (id : AgentId)
  | resolveAdmitted (entry : EntryRef)
  | bind (id : AgentId)
  | apply (desired : RegistrySnapshot)
  | invalidate (agent : AgentId)
  | lookup (lookup : Lookup)

def accept (m : Memory) : Call → Task
  | .resolve id => .resolve ⟨id, none, m.published.edition⟩ .started
  | .resolveAdmitted entry => .resolve ⟨entry.value.id, some entry, m.published.edition⟩ .started
  | .bind id => .bind ⟨id, m.published.edition⟩ .load
  | .apply desired => .apply desired .lock
  | .invalidate agent => .invalidate agent .lock
  | .lookup lookup => .lookup ⟨lookup, m.published.edition⟩ .load

def machine (settings : Settings) : Machine Memory Task Choice Call := ⟨act settings, accept⟩

abbrev RegistryPool := Pool Memory Task

/-- A registry that was just built: its memory and no task. -/
def Boots (settings : Settings) (snap : RegistrySnapshot) (pool : RegistryPool) : Prop :=
  build settings snap = .ok pool.memory ∧ pool.tasks = []

end A2aBridge.Registry
