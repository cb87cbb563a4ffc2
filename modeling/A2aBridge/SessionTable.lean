import A2aBridge.AgentConfig
import Mathlib.Algebra.Ring.Nat
import Mathlib.Data.List.AList
import Mathlib.Tactic.Common

/-!
The table of warm sessions in bridge-coordinator/session_manager.rs: live handles,
tombstones of handles under cleanup and the retry owners of failed cleanups. An
operation id `turn-n`, a handle id `h-n` and the identities of backends, leases,
registry entries and cancellation tokens are numbers; the backend session
`ctx-{context}-g{generation}` is the pair it is formatted from. The capabilities of a
handle, which only status reports read, are left out.
-/

namespace A2aBridge.Sessions

abbrev ContextId := String
abbrev AgentId := String
abbrev OperationId := Nat
abbrev HandleId := Nat
abbrev BackendId := Nat
abbrev LeaseId := Nat
abbrev EntryId := Nat
abbrev TokenId := Nat

structure SessionId where
  context : ContextId
  generation : Nat
  deriving DecidableEq

inductive BridgeError where
  | sessionExpired
  | sessionNotFound
  | handleBusy
  | configMismatch (field : String)
  | configReseedRequired (field : String)
  | configInvalid (reason : String)
  | agentCrashed (reason : String)
  | canceledBeforePrompt
  | backend (code : Nat)
  deriving DecidableEq

inductive SessionState where
  | idle
  | running
  | reconciling
  | expiring
  | resetting
  | compacting
  | cancelling
  | configuring
  deriving DecidableEq

def isClaimed : SessionState → Bool
  | .reconciling | .expiring | .resetting | .compacting | .cancelling | .configuring => true
  | .idle | .running => false

/-- `WarmExpiryIntent`. -/
inductive ExpiryIntent where
  | opened
  | armed
  | successorReserved
  deriving DecidableEq

namespace ExpiryIntent

/-- A failure observed after a successor was reserved no longer arms. -/
def arm : ExpiryIntent → ExpiryIntent
  | .opened => .armed
  | .armed => .armed
  | .successorReserved => .successorReserved

def isArmed (intent : ExpiryIntent) : Bool := intent == .armed

/-- The intent after `reserve_successor`, which fails on an armed one. -/
def reserved : ExpiryIntent → ExpiryIntent
  | .opened => .successorReserved
  | .armed => .armed
  | .successorReserved => .successorReserved

end ExpiryIntent

structure TurnAbort where
  op : OperationId
  token : TokenId
  expiryIntent : ExpiryIntent
  deriving DecidableEq

structure GovernedOperation where
  abort : TokenId
  ready : Bool
  deriving DecidableEq

structure SessionSpecFingerprint where
  agent : AgentId
  config : EffectiveConfig
  cwd : Option String
  deriving DecidableEq

def SessionSpecFingerprint.diff (mine other : SessionSpecFingerprint) : List String :=
  (if mine.agent ≠ other.agent then ["agent"] else []) ++
  (if mine.config.model ≠ other.config.model then ["model"] else []) ++
  (if mine.config.effort ≠ other.config.effort then ["effort"] else []) ++
  (if mine.config.mode ≠ other.config.mode then ["mode"] else []) ++
  (if mine.cwd ≠ other.cwd then ["cwd"] else [])

/-- The amount of a cost is an `f64`, kept by its bits. -/
structure UsageCost where
  amount : UInt64
  currency : String
  deriving DecidableEq

structure TerminalUsage where
  totalTokens : Nat
  inputTokens : Nat
  outputTokens : Nat
  thoughtTokens : Option Nat
  cachedReadTokens : Option Nat
  cachedWriteTokens : Option Nat
  deriving DecidableEq

structure UsageSnapshot where
  used : Option Nat := none
  size : Option Nat := none
  cost : Option UsageCost := none
  terminal : Option TerminalUsage := none
  atMs : Nat := 0
  deriving DecidableEq

def UsageSnapshot.mergeMissingFrom (snap previous : UsageSnapshot) : UsageSnapshot :=
  { snap with
    used := snap.used.or previous.used
    size := snap.size.or previous.size
    cost := snap.cost.or previous.cost
    terminal := snap.terminal.or previous.terminal }

inductive InjectMode where
  | prependNextTurn
  | appendNextTurn
  deriving DecidableEq

structure QueuedInject where
  text : String
  mode : InjectMode
  dedupeKey : Option String
  deriving DecidableEq

structure WarmHandle where
  id : HandleId
  agent : AgentId
  backend : BackendId
  backendSession : SessionId
  generation : Nat
  fingerprint : SessionSpecFingerprint
  lease : LeaseId
  state : SessionState
  usage : UsageSnapshot := {}
  expireAfterReconcile : Bool := false
  op : Option OperationId
  turnAborts : List TurnAbort := []
  governed : Option GovernedOperation := none
  pendingSeed : Option String := none
  pendingInjects : List QueuedInject := []
  lastUsed : Nat
  deriving DecidableEq

namespace WarmHandle

variable (h : WarmHandle)

def hasArmedExpiryIntent (op : OperationId) : Bool :=
  h.turnAborts.any (fun turn => turn.op == op && turn.expiryIntent.isArmed)

def anyArmed : Bool := h.turnAborts.any (fun turn => turn.expiryIntent.isArmed)

def firstArmed : Option OperationId :=
  (h.turnAborts.find? (fun turn => turn.expiryIntent.isArmed)).map TurnAbort.op

def firstArmedIdleExpiry : Option OperationId :=
  if h.state ≠ .idle || h.op.isSome then none else h.firstArmed

end WarmHandle

/-- Reserves a successor on each retained turn, up to the first armed one. -/
def reserveSuccessors : List TurnAbort → Option OperationId × List TurnAbort
  | [] => (none, [])
  | turn :: turns =>
    if turn.expiryIntent.isArmed then (some turn.op, turn :: turns)
    else
      let (armed, rest) := reserveSuccessors turns
      (armed, { turn with expiryIntent := turn.expiryIntent.reserved } :: rest)

inductive ExpiringTombstoneState where
  | expiring
  | cleanupFailed (code : String)
  deriving DecidableEq

structure ExpiringTombstone where
  generation : Nat
  op : OperationId
  cleanupClaimId : Nat
  state : ExpiringTombstoneState
  deriving DecidableEq

structure CleanupRetryOwner where
  backend : BackendId
  backendSession : SessionId
  deriving DecidableEq

structure SessionTable where
  live : AList (fun _ : ContextId => WarmHandle)
  tombstones : AList (fun _ : ContextId => ExpiringTombstone)
  cleanupRetries : AList (fun _ : ContextId => CleanupRetryOwner)

inductive BackendCleanupDisposition where
  | complete
  | retained
  | preserved
  | unknown
  deriving DecidableEq

structure CleanupClaimSettlement where
  context : ContextId
  generation : Nat
  op : OperationId
  cleanupClaimId : Nat
  retry : CleanupRetryOwner
  deriving DecidableEq

namespace SessionTable

def empty : SessionTable := ⟨∅, ∅, ∅⟩

variable (table : SessionTable) (ctx : ContextId)

def get : Option WarmHandle := table.live.lookup ctx

def tombstone : Option ExpiringTombstone := table.tombstones.lookup ctx

def retry : Option CleanupRetryOwner := table.cleanupRetries.lookup ctx

def containsKey : Bool := (table.get ctx).isSome || (table.tombstone ctx).isSome

/-- `insert`, and every write through `get_mut`. -/
def put (handle : WarmHandle) : SessionTable :=
  { table with live := table.live.insert ctx handle }

def remove : SessionTable :=
  { table with live := table.live.erase ctx }

/-- Replaces the live handle by a tombstone under cleanup. -/
def entomb (generation : Nat) (op : OperationId) (cleanupClaimId : Nat) :
    SessionTable :=
  { table with
    live := table.live.erase ctx
    tombstones := table.tombstones.insert ctx ⟨generation, op, cleanupClaimId, .expiring⟩ }

/-- Takes a failed cleanup up again, under a new claim. -/
def reclaim (tombstone : ExpiringTombstone) (cleanupClaimId : Nat) :
    SessionTable :=
  { table with
    tombstones := table.tombstones.insert ctx
      { tombstone with cleanupClaimId := cleanupClaimId, state := .expiring }
    cleanupRetries := table.cleanupRetries.erase ctx }

/-- A completed cleanup. -/
def forget : SessionTable :=
  { table with
    tombstones := table.tombstones.erase ctx
    cleanupRetries := table.cleanupRetries.erase ctx }

/-- A failed cleanup, which leaves an owner for the retry. -/
def markFailed (tombstone : ExpiringTombstone) (owner : CleanupRetryOwner) :
    SessionTable :=
  { table with
    tombstones := table.tombstones.insert ctx
      { tombstone with state := .cleanupFailed "warm.cleanup.release_failed" }
    cleanupRetries := table.cleanupRetries.insert ctx owner }

end SessionTable

namespace CleanupClaimSettlement

variable (settlement : CleanupClaimSettlement)

def claims (tombstone : ExpiringTombstone) : Bool :=
  tombstone.generation == settlement.generation && tombstone.op == settlement.op &&
    tombstone.cleanupClaimId == settlement.cleanupClaimId

/-- `CleanupClaimSettlement::settle`. -/
def settle (table : SessionTable) (result : Except BridgeError BackendCleanupDisposition) :
    SessionTable :=
  match table.tombstone settlement.context with
  | none => table
  | some tombstone =>
    if settlement.claims tombstone then
      match result with
      | .ok _ => table.forget settlement.context
      | .error _ => table.markFailed settlement.context tombstone settlement.retry
    else table

end CleanupClaimSettlement

/-- What a handle's state says of its operation and of a governed claim. -/
structure WarmHandle.Sound (h : WarmHandle) : Prop where
  idle : h.state = .idle → h.op = none
  busy : h.state = .running ∨ h.state = .cancelling → h.op.isSome = true
  governed : h.governed.isSome = true → h.state = .running

structure SessionTable.Sound (table : SessionTable) : Prop where
  apart : ∀ ctx, table.get ctx = none ∨ table.tombstone ctx = none
  retries : ∀ ctx, (table.retry ctx).isSome = true ↔
    ∃ tombstone code, table.tombstone ctx = some tombstone ∧ tombstone.state = .cleanupFailed code
  handles : ∀ ctx h, table.get ctx = some h → h.Sound

namespace WarmHandle

variable {h : WarmHandle}

theorem sound_of_claimed (claimed : isClaimed h.state = true) (other : h.state ≠ .cancelling)
    (ungoverned : h.governed = none) : h.Sound where
  idle := by
    intro state
    rw [state] at claimed
    cases claimed
  busy := by
    rintro (state | state)
    · rw [state] at claimed
      cases claimed
    · exact absurd state other
  governed := by
    intro some
    rw [ungoverned] at some
    cases some

theorem sound_of_running (state : h.state = .running) (op : h.op.isSome = true) : h.Sound where
  idle := by
    intro other
    rw [state] at other
    cases other
  busy := fun _ => op
  governed := fun _ => state

theorem sound_of_idle (state : h.state = .idle) (op : h.op = none)
    (ungoverned : h.governed = none) : h.Sound where
  idle := fun _ => op
  busy := by
    rintro (other | other) <;> rw [state] at other <;> cases other
  governed := by
    intro some
    rw [ungoverned] at some
    cases some

theorem Sound.of_same {other : WarmHandle} (sound : h.Sound) (state : other.state = h.state)
    (op : other.op = h.op)
    (governed : other.governed.isSome = h.governed.isSome) : other.Sound where
  idle := by
    rw [state, op]
    exact sound.idle
  busy := by
    rw [state, op]
    exact sound.busy
  governed := by
    rw [state, governed]
    exact sound.governed

theorem Sound.ungoverned (sound : h.Sound) (other : h.state ≠ .running) : h.governed = none := by
  cases governed : h.governed with
  | none => rfl
  | some operation => exact absurd (sound.governed (by rw [governed]; rfl)) other

end WarmHandle

namespace SessionTable

section Lookups

variable (table : SessionTable) (ctx other : ContextId)

theorem get_put (h : WarmHandle) :
    (table.put ctx h).get other = if other = ctx then some h else table.get other := by
  by_cases same : other = ctx
  · rw [if_pos same, same]
    exact AList.lookup_insert _
  · rw [if_neg same]
    exact AList.lookup_insert_ne same

theorem get_remove :
    (table.remove ctx).get other = if other = ctx then none else table.get other := by
  by_cases same : other = ctx
  · rw [if_pos same, same]
    exact AList.lookup_erase ..
  · rw [if_neg same]
    exact AList.lookup_erase_ne same

theorem tombstone_entomb (generation : Nat) (op : OperationId) (claimId : Nat) :
    (table.entomb ctx generation op claimId).tombstone other =
      if other = ctx then some ⟨generation, op, claimId, .expiring⟩ else table.tombstone other := by
  by_cases same : other = ctx
  · rw [if_pos same, same]
    exact AList.lookup_insert _
  · rw [if_neg same]
    exact AList.lookup_insert_ne same

end Lookups

variable {table : SessionTable} {ctx : ContextId}

theorem empty_sound : empty.Sound where
  apart := fun _ => .inl rfl
  retries := by
    intro ctx
    constructor
    · nofun
    · rintro ⟨_, _, none, _⟩
      cases none
  handles := by
    intro ctx h none
    cases none

section

variable (sound : table.Sound)

include sound

theorem Sound.no_retry (free : table.tombstone ctx = none) : table.retry ctx = none := by
  cases owner : table.retry ctx with
  | none => rfl
  | some retry =>
    obtain ⟨_, _, present, _⟩ := (sound.retries ctx).mp (by rw [owner]; rfl)
    rw [free] at present
    cases present

theorem Sound.no_tombstone {h : WarmHandle} (found : table.get ctx = some h) :
    table.tombstone ctx = none := by
  rcases sound.apart ctx with absent | free
  · rw [found] at absent
    cases absent
  · exact free

theorem Sound.put (free : table.tombstone ctx = none) {h : WarmHandle}
    (good : h.Sound) : (table.put ctx h).Sound where
  apart := by
    intro other
    rw [get_put]
    by_cases same : other = ctx
    · right
      rw [same]
      exact free
    · rw [if_neg same]
      exact sound.apart other
  retries := sound.retries
  handles := by
    intro other handle found
    rw [get_put] at found
    by_cases same : other = ctx
    · rw [if_pos same] at found
      cases found
      exact good
    · rw [if_neg same] at found
      exact sound.handles other handle found

theorem Sound.remove (ctx : ContextId) : (table.remove ctx).Sound where
  apart := by
    intro other
    rw [get_remove]
    by_cases same : other = ctx
    · exact .inl (if_pos same)
    · rw [if_neg same]
      exact sound.apart other
  retries := sound.retries
  handles := by
    intro other handle found
    rw [get_remove] at found
    by_cases same : other = ctx
    · rw [if_pos same] at found
      cases found
    · rw [if_neg same] at found
      exact sound.handles other handle found

theorem Sound.entomb (free : table.tombstone ctx = none) (generation : Nat)
    (op : OperationId) (claimId : Nat) : (table.entomb ctx generation op claimId).Sound where
  apart := by
    intro other
    rw [tombstone_entomb]
    by_cases same : other = ctx
    · left
      exact (get_remove table ctx other).trans (if_pos same)
    · rw [if_neg same]
      exact (sound.remove ctx).apart other
  retries := by
    intro other
    rw [tombstone_entomb]
    by_cases same : other = ctx
    · rw [if_pos same, same]
      have none : (table.entomb ctx generation op claimId).retry ctx = none := sound.no_retry free
      rw [none]
      constructor
      · nofun
      · rintro ⟨_, _, mine, failed⟩
        cases mine
        cases failed
    · rw [if_neg same]
      exact sound.retries other
  handles := fun other handle found => (sound.remove ctx).handles other handle found

theorem Sound.at_context {changed : SessionTable} (live : changed.live = table.live)
    (absent : table.get ctx = none)
    (others : ∀ other, other ≠ ctx → changed.tombstone other = table.tombstone other ∧
      changed.retry other = table.retry other)
    (here : (changed.retry ctx).isSome = true ↔
      ∃ tombstone code, changed.tombstone ctx = some tombstone ∧ tombstone.state = .cleanupFailed code) :
    changed.Sound where
  apart := by
    intro other
    have same : changed.get other = table.get other := congrArg (AList.lookup other) live
    rw [same]
    by_cases mine : other = ctx
    · left
      rw [mine]
      exact absent
    · rw [(others other mine).1]
      exact sound.apart other
  retries := by
    intro other
    by_cases mine : other = ctx
    · rw [mine]
      exact here
    · rw [(others other mine).1, (others other mine).2]
      exact sound.retries other
  handles := by
    intro other h found
    have same : changed.get other = table.get other := congrArg (AList.lookup other) live
    rw [same] at found
    exact sound.handles other h found

variable {tombstone : ExpiringTombstone} (found : table.tombstone ctx = some tombstone)

include found

theorem Sound.absent : table.get ctx = none := by
  rcases sound.apart ctx with absent | free
  · exact absent
  · rw [found] at free
    cases free

theorem Sound.reclaim (claimId : Nat) : (table.reclaim ctx tombstone claimId).Sound := by
  have live : (table.reclaim ctx tombstone claimId).live = table.live := rfl
  apply sound.at_context live (sound.absent found)
  · intro other different
    exact ⟨AList.lookup_insert_ne different, AList.lookup_erase_ne different⟩
  · simp [SessionTable.retry, SessionTable.tombstone, SessionTable.reclaim]

theorem Sound.forget : (table.forget ctx).Sound := by
  have live : (table.forget ctx).live = table.live := rfl
  apply sound.at_context live (sound.absent found)
  · intro other different
    exact ⟨AList.lookup_erase_ne different, AList.lookup_erase_ne different⟩
  · simp [SessionTable.retry, SessionTable.tombstone, SessionTable.forget]

theorem Sound.mark_failed
    (owner : CleanupRetryOwner) : (table.markFailed ctx tombstone owner).Sound := by
  have live : (table.markFailed ctx tombstone owner).live = table.live := rfl
  apply sound.at_context live (sound.absent found)
  · intro other different
    exact ⟨AList.lookup_insert_ne different, AList.lookup_insert_ne different⟩
  · simp [SessionTable.retry, SessionTable.tombstone, SessionTable.markFailed]

end

end SessionTable

namespace CleanupClaimSettlement

variable (settlement : CleanupClaimSettlement) {table : SessionTable}

theorem settle_sound (sound : table.Sound) (result : Except BridgeError BackendCleanupDisposition) :
    (settlement.settle table result).Sound := by
  unfold settle
  cases found : table.tombstone settlement.context with
  | none => exact sound
  | some tombstone =>
    by_cases mine : settlement.claims tombstone = true
    · simp only [if_pos mine]
      cases result with
      | ok _ => exact sound.forget found
      | error _ => exact sound.mark_failed found settlement.retry
    · simp only [if_neg mine]
      exact sound

end CleanupClaimSettlement

end A2aBridge.Sessions
