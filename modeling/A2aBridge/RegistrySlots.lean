import A2aBridge.AgentConfig
import Mathlib.Data.List.AList
import Mathlib.Tactic.Common

/-!
What the agent registry of bridge-registry/registry.rs keeps in memory: the published
routing state, the slots it names, the cells of their lazily spawned backends and the
writer lock. An `Arc` is the number of its allocation. The entry fields no registry
function reads (names, tags, fallback models, extensions, …) are left out, and the
structural checks of a sandbox declaration, which bridge-core/sandbox.rs makes, are a
parameter.
-/

namespace A2aBridge.Registry

abbrev AgentId := String
abbrev SlotId := Nat
abbrev BackendId := Nat

inductive McpEnvValueSource where
  | publicLiteral (value : String)
  | secretFromEnv (variableName resolved : String)
  deriving DecidableEq

structure McpServerSpec where
  name : String
  command : String
  args : List String
  env : List (String × McpEnvValueSource)
  deriving DecidableEq

inductive EgressPolicy where
  | locked (network proxy : String) (noProxy : Option String)
  | unlocked
  deriving DecidableEq

structure SandboxConfig where
  runtime : Option String
  image : String
  mount : String
  access : MountAccess
  egress : EgressPolicy
  volumes : List String
  deriving DecidableEq

structure WatchdogConfig where
  idleTimeout : Nat
  hardWallClock : Nat
  deriving DecidableEq

inductive LivenessOverride where
  | off
  | ms (value : Nat)
  deriving DecidableEq

structure AgentLivenessConfig where
  silenceCutoff : Option LivenessOverride
  workCutoff : Option LivenessOverride
  deriving DecidableEq

structure AgentEntry where
  id : AgentId
  cmd : Option String := none
  baseUrl : Option String := none
  apiKeyEnv : Option String := none
  args : List String := []
  kind : AgentKind := .acp
  model : Option String := none
  effort : Option Effort := none
  mode : Option String := none
  cwd : Option String := none
  sessionCwd : Option String := none
  sandbox : Option SandboxConfig := none
  watchdog : Option WatchdogConfig := none
  liveness : Option AgentLivenessConfig := none
  mcp : List McpServerSpec := []
  mcpDelivery : McpDelivery := .acp
  authMethod : Option String := none
  preAuthenticated : Bool := false
  renameNewSessions : Bool := false
  deriving DecidableEq, Inhabited

/-- The fields a backend is spawned with and never refreshed: a slot is kept for an edited
entry only where they all agree. -/
def sameSpawn (c e : AgentEntry) : Bool :=
  c.cmd == e.cmd
    && c.baseUrl == e.baseUrl
    && c.args == e.args
    && c.cwd == e.cwd
    && c.authMethod == e.authMethod
    && c.preAuthenticated == e.preAuthenticated
    && c.kind == e.kind
    && c.sandbox == e.sandbox
    && c.sessionCwd == e.sessionCwd
    && c.apiKeyEnv == e.apiKeyEnv
    && c.watchdog == e.watchdog
    && c.liveness == e.liveness
    && c.mcp == e.mcp
    && c.mcpDelivery == e.mcpDelivery
    && c.renameNewSessions == e.renameNewSessions

structure RegistrySnapshot where
  default : AgentId
  entries : List AgentEntry
  allowedCmds : List String
  deriving DecidableEq

inductive RegistryError where
  | configInvalid (reason : String)
  | configMismatch (field : String)
  | unknownAgent (id : AgentId)
  | bindUnsupported
  | observer
  | spawn
  deriving DecidableEq

/-- `idleTtl` of zero turns idle retirement off. `declarationFault` is the reason
`validate_sandbox_declarations` gives, `placementFault` that of the mount and volume paths. -/
structure Settings where
  idleTtl : Nat
  boundAwareSpawn : Bool
  declarationFault : SandboxConfig → Option String
  placementFault : SandboxConfig → Option String

section Validation

variable (settings : Settings) (allowed : List String)

def SandboxConfig.runtimeName (sandbox : SandboxConfig) : String := sandbox.runtime.getD "docker"

def validateSandbox (sandbox : SandboxConfig) : Except RegistryError Unit :=
  match settings.declarationFault sandbox with
  | some reason => .error (.configInvalid ("invalid sandbox declaration: " ++ reason))
  | none =>
    if sandbox.runtimeName ∈ allowed then
      match settings.placementFault sandbox with
      | some reason => .error (.configInvalid reason)
      | none => .ok ()
    else .error (.configInvalid ("sandbox runtime not allowed: " ++ sandbox.runtimeName))

variable (e : AgentEntry)

def validateAcp : Except RegistryError Unit :=
  match e.cmd, e.sandbox with
  | none, _ => .error (.configInvalid ("acp agent " ++ e.id ++ " requires cmd"))
  | some _, some sandbox =>
    if sandbox.access = .rw then
      .error (.configInvalid ("sandbox agent " ++ e.id ++
        " access=rw requires the container_rw kind (Slice B2)"))
    else validateSandbox settings allowed sandbox
  | some cmd, none =>
    if cmd ∈ allowed then .ok () else .error (.configInvalid ("cmd not allowed: " ++ cmd))

def validateApi : Except RegistryError Unit :=
  if e.baseUrl.isNone then .error (.configInvalid ("api agent " ++ e.id ++ " requires base_url"))
  else if e.cmd.isSome then .error (.configInvalid ("api agent " ++ e.id ++ " must not set cmd"))
  else if e.sandbox.isSome then
    .error (.configInvalid ("api agent " ++ e.id ++ " must not set sandbox"))
  else .ok ()

def validateContainerRw : Except RegistryError Unit :=
  if e.cmd.isNone then
    .error (.configInvalid ("container_rw agent " ++ e.id ++ " requires cmd"))
  else if e.baseUrl.isSome then
    .error (.configInvalid ("container_rw agent " ++ e.id ++ " forbids base_url"))
  else
    match e.sandbox with
    | none => .error (.configInvalid ("container_rw agent " ++ e.id ++ " requires sandbox"))
    | some sandbox => validateSandbox settings allowed sandbox

def validateEntry : Except RegistryError Unit :=
  match e.kind with
  | .acp => validateAcp settings allowed e
  | .api => validateApi e
  | .containerRw => validateContainerRw settings allowed e

def validateEntries (seen : List AgentId) : List AgentEntry → Except RegistryError Unit
  | [] => .ok ()
  | e :: rest =>
    if e.id ∈ seen then .error (.configInvalid ("duplicate agent id: " ++ e.id))
    else do
      validateEntry settings allowed e
      validateEntries (e.id :: seen) rest

end Validation

def validate (settings : Settings) (snap : RegistrySnapshot) : Except RegistryError Unit := do
  validateEntries settings snap.allowedCmds [] snap.entries
  if snap.entries.any (fun e => e.id = snap.default) then .ok ()
  else .error (.configInvalid ("default " ++ snap.default ++ " not in entries"))

/-- An `Arc<AgentEntry>`. `edition` is bookkeeping: which snapshot the value came with, the
boot snapshot being the first. -/
structure EntryRef where
  serial : Nat
  edition : Nat
  value : AgentEntry
  deriving DecidableEq, Inhabited

/-- A `tokio::sync::OnceCell` of a backend. -/
inductive Cell where
  | empty
  | initializing
  | full (backend : BackendId)
  deriving DecidableEq

/-- The slot's own cell, or one of its cells for a frozen provider effect. -/
inductive CellRef where
  | shared (slot : SlotId)
  | keyed (slot : SlotId) (serial : Nat)
  deriving DecidableEq

structure Slot where
  entry : EntryRef
  boundBackends : AList (fun _ : String => CellRef)
  retired : Bool
  leases : Nat
  leaseAcquisitions : Nat
  idleRetiring : Bool
  idleWatch : Bool

def Slot.new (entry : EntryRef) : Slot := ⟨entry, ∅, false, 0, 0, false, false⟩

abbrev SlotMap := AList (fun _ : AgentId => SlotId)

/-- `State`; `edition` is bookkeeping, as in `EntryRef`. -/
structure RoutingState where
  slots : SlotMap
  default : AgentId
  edition : Nat

/-- `borrows` counts the calls that still borrow a bound use. The last three fields are
bookkeeping: the snapshots applied so far, the slots `claim_idle` answered `true` for, and
the backends that were sent `retire`. -/
structure Memory where
  slots : SlotId → Slot
  cells : CellRef → Cell
  published : RoutingState
  writeLock : Bool
  nextSlot : Nat
  nextCell : Nat
  nextBackend : Nat
  nextEntry : Nat
  nextBoundUse : Nat
  borrows : Nat → Nat
  history : List RegistrySnapshot
  claims : List SlotId
  retires : List BackendId

namespace Memory

variable (m : Memory) (s : SlotId)

def modifySlot (change : Slot → Slot) : Memory :=
  { m with slots := Function.update m.slots s (change (m.slots s)) }

/-- `leases.fetch_add(1)`. -/
def addLease : Memory := m.modifySlot s fun slot => { slot with leases := slot.leases + 1 }

/-- `leases.fetch_sub(1)`, the drop of a guard. -/
def dropLease : Memory := m.modifySlot s fun slot => { slot with leases := slot.leases - 1 }

def bumpEpoch : Memory :=
  m.modifySlot s fun slot => { slot with leaseAcquisitions := slot.leaseAcquisitions + 1 }

def setIdleRetiring (flag : Bool) : Memory :=
  m.modifySlot s fun slot => { slot with idleRetiring := flag }

def setRetired : Memory := m.modifySlot s fun slot => { slot with retired := true }

def setIdleWatch : Memory := m.modifySlot s fun slot => { slot with idleWatch := true }

/-- `cur.entry.store(Arc::new(e))`. -/
def storeEntry (edition : Nat) (e : AgentEntry) : Memory :=
  { m.modifySlot s fun slot => { slot with entry := ⟨m.nextEntry, edition, e⟩ } with
    nextEntry := m.nextEntry + 1 }

/-- `Slot::new(e)`, at `m.nextSlot`. -/
def newSlot (edition : Nat) (e : AgentEntry) : Memory :=
  { m with
    slots := Function.update m.slots m.nextSlot (Slot.new ⟨m.nextEntry, edition, e⟩)
    nextSlot := m.nextSlot + 1
    nextEntry := m.nextEntry + 1 }

def setCell (c : CellRef) (cell : Cell) : Memory :=
  { m with cells := Function.update m.cells c cell }

/-- A spawn that succeeded: the cell holds a new backend, `m.nextBackend`. -/
def fill (c : CellRef) : Memory :=
  { m.setCell c (.full m.nextBackend) with nextBackend := m.nextBackend + 1 }

/-- `bound_backends.entry(key).or_insert_with(OnceCell::new)` where the key is new. -/
def insertBound (key : String) : Memory :=
  { m.modifySlot s fun slot =>
      { slot with boundBackends := slot.boundBackends.insert key (.keyed s m.nextCell) } with
    nextCell := m.nextCell + 1 }

def removeBound (key : String) : Memory :=
  m.modifySlot s fun slot => { slot with boundBackends := slot.boundBackends.erase key }

/-- `state.store` of the map with a fresh slot for the same entry under its id. -/
def replace (entry : EntryRef) : Memory :=
  { m.newSlot entry.edition entry.value with
    published :=
      { m.published with slots := m.published.slots.insert entry.value.id m.nextSlot } }

def sendRetire (b : BackendId) : Memory := { m with retires := m.retires ++ [b] }

def claim : Memory := { m with claims := m.claims ++ [s] }

def borrow (serial : Nat) : Memory :=
  { m with borrows := Function.update m.borrows serial (m.borrows serial + 1) }

def giveBack (serial : Nat) : Memory :=
  { m with borrows := Function.update m.borrows serial (m.borrows serial - 1) }

def lookup (id : AgentId) : Option SlotId := m.published.slots.lookup id

end Memory

/-- The slots a registry boots with: one cold slot for each entry. -/
def bootSlots (m : Memory) : List AgentEntry → Memory
  | [] => m
  | e :: rest =>
    let booted := m.newSlot 0 e
    bootSlots
      { booted with
        published :=
          { booted.published with slots := booted.published.slots.insert e.id m.nextSlot } }
      rest

def Memory.blank (snap : RegistrySnapshot) : Memory where
  slots := fun _ => Slot.new default
  cells := fun _ => .empty
  published := ⟨∅, snap.default, 0⟩
  writeLock := false
  nextSlot := 0
  nextCell := 0
  nextBackend := 0
  nextEntry := 0
  nextBoundUse := 1
  borrows := fun _ => 0
  history := [snap]
  claims := []
  retires := []

/-- `Registry::build`. -/
def build (settings : Settings) (snap : RegistrySnapshot) : Except RegistryError Memory := do
  validate settings snap
  .ok (bootSlots (Memory.blank snap) snap.entries)

end A2aBridge.Registry
