import A2aBridge.SessionTable

/-!
The operations of the session manager in bridge-coordinator/session_manager.rs as a
transition system. A section that runs under the table lock is one step; an operation
that awaits between two sections leaves a task with the locals it keeps. Answers of the
registry, of backends and of the accounting store come with the step that uses them.
Registration of child contexts is left out: a sweep over children is the same section for
each context. Permission prompts and usage warnings are left out, no section reads them.
-/

namespace A2aBridge.Sessions

structure Resolved where
  backend : BackendId
  entry : EntryId
  config : EffectiveConfig
  lease : LeaseId
  deriving DecidableEq

inductive ReconcileOutcome where
  | applied
  | notAdvertised
  | rejected
  deriving DecidableEq

inductive BackendCall where
  | configure (backend : BackendId) (session : SessionId)
  | reconcile (backend : BackendId) (session : SessionId)
  | cancel (backend : BackendId) (session : SessionId)
  | release (backend : BackendId) (session : SessionId)
  deriving DecidableEq

structure WarmTurn where
  backend : BackendId
  session : SessionId
  generation : Nat
  op : OperationId
  abort : TokenId
  seed : Option String
  injects : List QueuedInject
  agent : AgentId
  config : EffectiveConfig
  deriving DecidableEq

structure GovernedTurnClaim where
  context : ContextId
  handle : HandleId
  generation : Nat
  op : OperationId
  backend : BackendId
  before : SessionSpecFingerprint
  intended : SessionSpecFingerprint
  fresh : Bool
  applying : Bool
  attempt : Option String
  entry : Option EntryId
  abort : TokenId
  deriving DecidableEq

structure CompactionSnapshot where
  handle : HandleId
  generation : Nat
  agent : AgentId
  config : EffectiveConfig
  deriving DecidableEq

def CompactionSnapshot.of (h : WarmHandle) : CompactionSnapshot :=
  ⟨h.id, h.generation, h.agent, h.fingerprint.config⟩

/-- An operation between two sections. -/
inductive Task where
  | checkoutResolving (ctx : ContextId) (agent : AgentId) (overrides : Option AgentOverride)
      (cwd : Option String) (sawHandle : Bool)
  | reconciling (ctx : ContextId) (claimedId : HandleId) (fingerprint : SessionSpecFingerprint)
      (backend : BackendId) (session : SessionId) (reseedField : String)
  | configuring (ctx : ContextId) (handleId : HandleId) (claim : OperationId) (backend : BackendId)
      (session : SessionId)
  | removing (ctx : ContextId) (refusal : BridgeError)
  | claimResolving (ctx : ContextId) (agent : AgentId) (overrides : Option AgentOverride)
      (cwd : Option String)
  | claimHeld (claim : GovernedTurnClaim)
  | claimApplying (claim : GovernedTurnClaim) (resolved : Resolved)
  | claimSettling (claim : GovernedTurnClaim)
  | promptGate (claim : GovernedTurnClaim)
  | cancelling (ctx : ContextId) (claimedId : HandleId) (cleanupClaimId : Nat)
      (fallbackOp : OperationId)
  | resetStarting (ctx : ContextId) (force : Bool)
  | resetting (ctx : ContextId) (claimedId : HandleId) (backend : BackendId) (newId : SessionId)
  | summarizing (ctx : ContextId) (claimedId : HandleId) (backend : BackendId) (oldId newId : SessionId)
  | compacting (ctx : ContextId) (claimedId : HandleId) (backend : BackendId) (newId : SessionId)
      (summary : String)
  | reaping (now : Nat) (expired : List ContextId)
  deriving DecidableEq

inductive Reply where
  | none
  | pending
  | accepted
  | refused (error : BridgeError)
  | turn (turn : WarmTurn)
  | claimed
  | queued (count : Nat)
  | cleared (generation : Nat)
  | notFound
  deriving DecidableEq

/-- The shared state: the table, the counters, the fired tokens, the retired leases, the
clock, the cleanup capabilities handed to flights, the suspended operations and the backend
calls so far. -/
structure Manager where
  table : SessionTable
  idleTtl : Nat
  seq : Nat
  turnOpSeq : Nat
  cleanupClaimSeq : Nat
  tokenSeq : Nat
  clock : Nat
  fired : List TokenId
  retired : List LeaseId
  settlements : List CleanupClaimSettlement
  tasks : List Task
  calls : List BackendCall

namespace Manager

def start (idleTtl : Nat) : Manager where
  table := .empty
  idleTtl := idleTtl
  seq := 0
  turnOpSeq := 1
  cleanupClaimSeq := 1
  tokenSeq := 0
  clock := 0
  fired := []
  retired := []
  settlements := []
  tasks := []
  calls := []

variable (m : Manager)

def withTable (table : SessionTable) : Manager := { m with table := table }

def spawn (task : Task) : Manager := { m with tasks := m.tasks ++ [task] }

def call (call : BackendCall) : Manager := { m with calls := m.calls ++ [call] }

def fire (tokens : List TokenId) : Manager := { m with fired := m.fired ++ tokens }

def isRetired (h : WarmHandle) : Bool := m.retired.contains h.lease

def isCancelled (token : TokenId) : Bool := m.fired.contains token

variable (ctx : ContextId) (h : WarmHandle)

/-- A tombstone in place of a handle: its tokens are fired and a cleanup flight owns it. -/
def expireHandle (generation : Nat) (op : OperationId) (cleanupClaimId : Nat) :
    Manager :=
  { m with
    table := m.table.entomb ctx generation op cleanupClaimId
    fired := m.fired ++ h.turnAborts.map TurnAbort.token
    settlements := m.settlements ++
      [⟨ctx, generation, op, cleanupClaimId, ⟨h.backend, h.backendSession⟩⟩]
    calls := m.calls ++ [.release h.backend h.backendSession] }

def takeExpiryClaimLocked (generation : Nat) (op : OperationId) :
    Manager :=
  { m with cleanupClaimSeq := m.cleanupClaimSeq + 1 }.expireHandle ctx h generation op
    m.cleanupClaimSeq

/-- Mints a turn on a handle and takes its seed and its injects. -/
def beginTurn : Manager × Reply :=
  let op := m.turnOpSeq
  let abort := m.tokenSeq
  let running :=
    { h with
      state := .running
      op := some op
      turnAborts := h.turnAborts ++ [⟨op, abort, .opened⟩]
      pendingSeed := none
      pendingInjects := []
      lastUsed := m.clock }
  ({ m with
      table := m.table.put ctx running
      turnOpSeq := op + 1
      tokenSeq := abort + 1 },
    .turn ⟨h.backend, h.backendSession, h.generation, op, abort, h.pendingSeed, h.pendingInjects,
      h.agent, h.fingerprint.config⟩)

/-- `claim_or_reserve_idle_successor_locked`: an armed turn expires the handle, otherwise the
next turn is admitted. -/
def reserveOrExpire (next : WarmHandle → Manager × Reply) :
    Manager × Reply :=
  match reserveSuccessors h.turnAborts with
  | (some op, turnAborts) =>
    (m.takeExpiryClaimLocked ctx { h with turnAborts := turnAborts } h.generation op,
      .refused .sessionExpired)
  | (none, turnAborts) => next { h with turnAborts := turnAborts }

/-! ### Injects and turns -/

def MAX_INJECTS : Nat := 32
def MAX_INJECT_BYTES : Nat := 64 * 1024

/-- The queue after an inject: an entry with the same dedupe key is replaced. -/
def queueInject (queue : List QueuedInject) (queued : QueuedInject) : List QueuedInject :=
  let replacement := queued.dedupeKey.bind (fun key =>
    queue.findIdx? (fun entry => entry.dedupeKey == some key))
  match replacement with
  | some index => queue.set index queued
  | none => queue ++ [queued]

def inject (queued : QueuedInject) : Manager × Reply :=
  match m.table.get ctx with
  | none => (m, .refused .sessionNotFound)
  | some h =>
    if h.state ≠ .idle ∧ h.state ≠ .running then (m, .refused .handleBusy)
    else
      let candidate := queueInject h.pendingInjects queued
      let totalBytes := (candidate.map (fun entry => entry.text.utf8ByteSize)).sum
      if MAX_INJECTS < candidate.length ∨ MAX_INJECT_BYTES < totalBytes then
        (m, .refused .handleBusy)
      else
        (m.withTable (m.table.put ctx { h with pendingInjects := candidate }),
          .queued candidate.length)

def checkoutExistingTurn : Manager × Reply :=
  if (m.table.tombstone ctx).isSome then (m, .refused .sessionExpired)
  else
    match m.table.get ctx with
    | none => (m, .refused .sessionNotFound)
    | some h =>
      if m.isRetired h then (m, .refused .sessionExpired)
      else if h.state ≠ .idle then (m, .refused .handleBusy)
      else m.reserveOrExpire ctx h (m.beginTurn ctx)

/-- `checkout_turn_inner`, lock #1. -/
def checkoutFirst (agent : AgentId) (overrides : Option AgentOverride) (cwd : Option String) :
    Manager × Reply :=
  if (m.table.tombstone ctx).isSome then (m, .refused .sessionExpired)
  else
    match m.table.get ctx with
    | none => (m.spawn (.checkoutResolving ctx agent overrides cwd false), .pending)
    | some h =>
      if m.isRetired h then (m, .refused .sessionExpired)
      else if h.state ≠ .idle then (m, .refused .handleBusy)
      else
        match h.firstArmedIdleExpiry with
        | some op => (m.takeExpiryClaimLocked ctx h h.generation op, .refused .sessionExpired)
        | none => (m.spawn (.checkoutResolving ctx agent overrides cwd true), .pending)

/-- The refusal of a fingerprint that no reconcile can reach, in the order of the source. -/
def unreconcilable (diff : List String) (fingerprint : SessionSpecFingerprint) : Option BridgeError :=
  if diff.contains "agent" then some (.configMismatch "agent")
  else if diff.contains "cwd" then some (.configMismatch "cwd")
  else if diff.contains "mode" then some (.configReseedRequired "mode")
  else if diff.contains "model" && fingerprint.config.model.isNone then
    some (.configReseedRequired "model")
  else if diff.contains "effort" && fingerprint.config.effort.isNone then
    some (.configReseedRequired "effort")
  else none

variable (fingerprint : SessionSpecFingerprint)

/-- Claims an idle handle as reconciling. -/
def beginReconcile (reseedField : String) (h : WarmHandle) :
    Manager × Reply :=
  let claimed :=
    { h with
      state := .reconciling
      expireAfterReconcile := false
      lastUsed := m.clock }
  (((m.withTable (m.table.put ctx claimed)).call (.reconcile h.backend h.backendSession)).spawn
      (.reconciling ctx h.id fingerprint h.backend h.backendSession reseedField),
    .pending)

def newHandle (resolved : Resolved) (state : SessionState) (op : Option OperationId) : WarmHandle :=
  { id := m.seq
    agent := fingerprint.agent
    backend := resolved.backend
    backendSession := ⟨ctx, 0⟩
    generation := 0
    fingerprint := fingerprint
    lease := resolved.lease
    state := state
    op := op
    lastUsed := m.clock }

/-- Claims an absent context as configuring; the claim id stands in `op`. -/
def beginConfigure (resolved : Resolved) :
    Manager × Reply :=
  let handle := m.newHandle ctx fingerprint resolved .configuring (some m.turnOpSeq)
  ((({ m with
        table := m.table.put ctx handle
        seq := m.seq + 1
        turnOpSeq := m.turnOpSeq + 1 }).call (.configure resolved.backend ⟨ctx, 0⟩)).spawn
      (.configuring ctx m.seq m.turnOpSeq resolved.backend ⟨ctx, 0⟩),
    .pending)

/-- `checkout_turn_inner`, lock #2 on a live handle: a turn, a refusal or a reconcile. -/
def resumeHandle (h : WarmHandle) :
    Manager × Reply :=
  let diff := h.fingerprint.diff fingerprint
  if m.isRetired h then (m, .refused .sessionExpired)
  else if h.state ≠ .idle then (m, .refused .handleBusy)
  else if diff.isEmpty then m.reserveOrExpire ctx h (m.beginTurn ctx)
  else
    match unreconcilable diff fingerprint with
    | some refusal => (m, .refused refusal)
    | none =>
      m.reserveOrExpire ctx h
        (m.beginReconcile ctx fingerprint (if diff.contains "model" then "model" else "effort"))

variable (agent : AgentId) (overrides : Option AgentOverride) (cwd : Option String)

/-- `checkout_turn_inner`, lock #2. A handle that lock #1 saw and that is gone may still be
under release, so its context is not minted anew. -/
def checkoutSecond (sawHandle : Bool) (resolved : Resolved) :
    Manager × Reply :=
  let fingerprint : SessionSpecFingerprint := ⟨agent, effectiveConfig resolved.config overrides, cwd⟩
  if (m.table.tombstone ctx).isSome then (m, .refused .sessionExpired)
  else
    match m.table.get ctx with
    | some h => m.resumeHandle ctx fingerprint h
    | none =>
      if sawHandle then (m, .refused .sessionExpired)
      else m.beginConfigure ctx fingerprint resolved

/-- The claim as the reconcile left it, or nothing when it is no longer this one. -/
def reconciled (claimedId : HandleId) (fingerprint : SessionSpecFingerprint) (backend : BackendId)
    (session : SessionId) (reseedField : String) (outcome : Except BridgeError ReconcileOutcome) :
    Manager × Reply :=
  match m.table.get ctx with
  | none => (m, .refused .sessionExpired)
  | some h =>
    if h.id = claimedId ∧ h.state = .reconciling then
      match outcome, h.expireAfterReconcile with
      | .ok .applied, false => m.beginTurn ctx { h with fingerprint := fingerprint }
      | _, cancelledOrReleased =>
        let expiring := { h with turnAborts := [], state := .expiring }
        let refusal :=
          if cancelledOrReleased then .sessionExpired else .configReseedRequired reseedField
        ((((m.fire (h.turnAborts.map TurnAbort.token)).withTable (m.table.put ctx expiring)).call
            (.release backend session)).spawn (.removing ctx refusal),
          .pending)
    else (m, .refused .sessionExpired)

/-- `checkout_turn_inner`, lock #3. -/
def configured (handleId : HandleId) (claim : OperationId) (backend : BackendId)
    (session : SessionId) (result : Except BridgeError Unit) : Manager × Reply :=
  let stale : Manager × Reply :=
    match result with
    | .ok () => (m.call (.release backend session), .refused .sessionExpired)
    | .error error => (m, .refused error)
  match m.table.get ctx with
  | none => stale
  | some h =>
    if h.id = handleId ∧ h.state = .configuring ∧ h.op = some claim then
      if h.expireAfterReconcile then
        let expiring := m.withTable (m.table.put ctx { h with state := .expiring })
        match result with
        | .ok () =>
          ((expiring.call (.release backend session)).spawn (.removing ctx .sessionExpired),
            .pending)
        | .error error => (expiring.spawn (.removing ctx error), .pending)
      else
        match result with
        | .ok () => m.beginTurn ctx h
        | .error error => (m.withTable (m.table.remove ctx), .refused error)
    else stale

def removed (refusal : BridgeError) : Manager × Reply :=
  (m.withTable (m.table.remove ctx), .refused refusal)

def expireRetiredIdleChild : Manager × Reply :=
  match m.table.get ctx with
  | none => (m, .none)
  | some h =>
    if h.state ≠ .idle ∨ m.isRetired h = false then (m, .none)
    else
      (((m.fire (h.turnAborts.map TurnAbort.token)).withTable (m.table.remove ctx)).call
          (.release h.backend h.backendSession),
        .accepted)

/-- A handle after one of its turns is finished: the turn's token leaves the handle, and the
handle is idle if the turn was its current one. -/
def finishedHandle (h : WarmHandle) (generation : Nat) (op : OperationId) (now : Nat) : WarmHandle :=
  let current := h.generation = generation ∧ h.op = some op
  let governed :=
    if current ∧ h.governed.any GovernedOperation.ready = true then none else h.governed
  let turnAborts :=
    if h.generation = generation then h.turnAborts.filter (fun turn => turn.op ≠ op)
    else h.turnAborts
  let kept := { h with governed := governed, turnAborts := turnAborts }
  if governed = none ∧ current ∧ h.state = .running then
    { kept with state := .idle, op := none, lastUsed := now }
  else kept

def finishOwnedTurn (generation : Nat) (op : OperationId) : Manager × Reply :=
  match m.table.get ctx with
  | none => (m, .accepted)
  | some h =>
    if h.generation = generation ∧ h.op = some op ∧
        h.governed.any GovernedOperation.ready = true ∧ h.expireAfterReconcile = true then
      (m.takeExpiryClaimLocked ctx h generation op, .accepted)
    else (m.withTable (m.table.put ctx (finishedHandle h generation op m.clock)), .accepted)

def recordUsage (generation : Nat) (op : OperationId) (snap : UsageSnapshot) :
    Manager × Reply :=
  match m.table.get ctx with
  | none => (m, .none)
  | some h =>
    if h.generation = generation ∧ h.op = some op ∧ h.state = .running then
      let usage := { snap with atMs := m.clock }.mergeMissingFrom h.usage
      (m.withTable (m.table.put ctx { h with usage := usage }), .none)
    else (m, .none)

/-! ### Governed claims -/

/-- The selection a claim intends: overrides on top of the retained one, the mode fixed. -/
def intendedFingerprint (retained : SessionSpecFingerprint) (overrides : Option AgentOverride) :
    Except BridgeError SessionSpecFingerprint :=
  match overrides with
  | none => .ok retained
  | some given =>
    if given.mode.isSome ∧ given.mode ≠ retained.config.mode then
      .error (.configReseedRequired "mode")
    else
      .ok { retained with
        config :=
          { retained.config with
            model := given.model.or retained.config.model
            effort := given.effort.or retained.config.effort } }

/-- `claim_governed_locked`; `entry` is the registry's snapshot of the handle's agent. -/
def claimGovernedLocked (agent : Option AgentId) (overrides : Option AgentOverride)
    (cwd : Option String) (fresh : Bool) (entry : Option EntryId) : Manager × Reply :=
  if (m.table.tombstone ctx).isSome then (m, .refused .sessionExpired)
  else
    match m.table.get ctx with
    | none => (m, .refused .sessionNotFound)
    | some h =>
      if m.isRetired h then (m, .refused .sessionExpired)
      else if h.state ≠ .idle then (m, .refused .handleBusy)
      else
        match h.firstArmed with
        | some op => (m.takeExpiryClaimLocked ctx h h.generation op, .refused .sessionExpired)
        | none =>
          if agent.isSome ∧ agent ≠ some h.agent then (m, .refused (.configMismatch "agent"))
          else if cwd.isSome ∧ cwd ≠ h.fingerprint.cwd then
            (m, .refused (.configMismatch "cwd"))
          else
            match intendedFingerprint h.fingerprint overrides with
            | .error refusal => (m, .refused refusal)
            | .ok intended =>
              let op := m.turnOpSeq
              let abort := m.tokenSeq
              let governed : GovernedOperation := ⟨abort, false⟩
              let claim : GovernedTurnClaim :=
                { context := ctx
                  handle := h.id
                  generation := h.generation
                  op := op
                  backend := h.backend
                  before := h.fingerprint
                  intended := intended
                  fresh := fresh
                  applying := false
                  attempt := none
                  entry := entry
                  abort := abort }
              let running := { h with state := .running, op := some op, governed := some governed }
              ({ m with
                  table := m.table.put ctx running
                  turnOpSeq := op + 1
                  tokenSeq := abort + 1 }.spawn (.claimHeld claim),
                .claimed)

/-- `claim_turn_observed`, first lock. -/
def claimTurnFirst (entry : Option EntryId) : Manager × Reply :=
  if m.table.containsKey ctx then m.claimGovernedLocked ctx (some agent) overrides cwd false entry
  else (m.spawn (.claimResolving ctx agent overrides cwd), .pending)

/-- `claim_turn_observed`, second lock: a fresh handle is inserted and claimed at once. -/
def claimTurnSecond (resolved : Resolved) (entry : Option EntryId) :
    Manager × Reply :=
  if m.table.containsKey ctx then (m, .refused .handleBusy)
  else
    let fingerprint : SessionSpecFingerprint :=
      ⟨agent, effectiveConfig resolved.config overrides, cwd⟩
    let handle := m.newHandle ctx fingerprint resolved .idle none
    let inserted := { m with table := m.table.put ctx handle, seq := m.seq + 1 }
    match inserted.claimGovernedLocked ctx none none none true entry with
    | (refusing, .refused error) =>
      (refusing.withTable (refusing.table.remove ctx), .refused error)
    | claimed => claimed

variable (claim : GovernedTurnClaim)

def owns (h : WarmHandle) : Bool :=
  h.id == claim.handle && h.generation == claim.generation && h.op == some claim.op &&
    h.governed.isSome

def ownedHandle : Option WarmHandle := (m.table.get claim.context).filter (owns claim)

/-- `registry_is_current`; `snapshot` is the registry's entry at that moment. -/
def registryIsCurrent (h : WarmHandle) (snapshot : Option EntryId) : Bool :=
  !m.isRetired h && h.backend == claim.backend && (claim.entry.isNone || claim.entry == snapshot)

/-- What the accounting store says of the usage a claim is applied with. -/
structure PreparedUsage where
  admitted : Bool
  selected : Bool
  turn : Option String
  deriving DecidableEq

/-- `admit`: a claim that is admitted remembers its attempt, any other one is settled. -/
def admitClaim (selected : Bool) (admission : Except BridgeError (Option String)) :
    Manager × Reply :=
  let reject (error : BridgeError) : Manager × Reply := (m.spawn (.claimSettling claim), .refused error)
  match admission with
  | .error error => reject error
  | .ok attempt =>
    if m.isCancelled claim.abort then reject .canceledBeforePrompt
    else if !selected then reject (.configMismatch "claim selection")
    else (m.spawn (.claimHeld { claim with attempt := attempt }), .claimed)

/-- `apply_session`, first lock. `late` arms between the check of the intents and the
reservation, which the lock does not exclude. -/
def applyFirst (usage : PreparedUsage) (resolved : Except BridgeError Resolved)
    (snapshot : Option EntryId) (cwdParses : Bool) (late : Option OperationId) : Manager × Reply :=
  let reject (claim : GovernedTurnClaim) (error : BridgeError) : Manager × Reply :=
    (m.spawn (.claimSettling claim), .refused error)
  if !usage.admitted || !usage.selected || claim.attempt.isNone || claim.attempt != usage.turn then
    reject claim (.configMismatch "admitted selection")
  else
    match resolved with
    | .error error => reject claim error
    | .ok resolved =>
      match m.ownedHandle claim with
      | none => reject claim .sessionExpired
      | some h =>
        if m.isCancelled claim.abort then reject claim .canceledBeforePrompt
        else if h.expireAfterReconcile then reject claim .sessionExpired
        else if !m.registryIsCurrent claim h snapshot || m.retired.contains resolved.lease ||
            resolved.backend != claim.backend ||
            (claim.entry.isSome && claim.entry != some resolved.entry) ||
            h.fingerprint != claim.before then
          reject claim (.configMismatch "claim identity")
        else if !cwdParses then reject claim (.configInvalid "session cwd")
        else if h.anyArmed then reject claim .sessionExpired
        else
          let applying := { claim with applying := true }
          let turnAborts := h.turnAborts.map (fun turn =>
            if some turn.op = late then { turn with expiryIntent := turn.expiryIntent.arm } else turn)
          let (armed, turnAborts) := reserveSuccessors turnAborts
          let reserved := m.withTable (m.table.put claim.context { h with turnAborts := turnAborts })
          match armed with
          | some _ => (reserved.spawn (.claimSettling applying), .refused .sessionExpired)
          | none =>
            let called :=
              if claim.fresh then reserved.call (.configure claim.backend h.backendSession)
              else if claim.before ≠ claim.intended then
                reserved.call (.reconcile claim.backend h.backendSession)
              else reserved
            (called.spawn (.claimApplying applying resolved), .pending)

/-- `apply_session`, second lock; `outcome` is the answer to configure or reconcile. -/
def applySecond (resolved : Resolved) (outcome : Except BridgeError ReconcileOutcome)
    (snapshot : Option EntryId) : Manager × Reply :=
  let reject (error : BridgeError) : Manager × Reply := (m.spawn (.claimSettling claim), .refused error)
  match outcome with
  | .error error => reject error
  | .ok outcome =>
    if !claim.fresh && claim.before != claim.intended && outcome != .applied then
      reject (.configReseedRequired "model/effort")
    else
      match m.ownedHandle claim with
      | none => reject .sessionExpired
      | some h =>
        if m.isCancelled claim.abort then reject .canceledBeforePrompt
        else if h.expireAfterReconcile then reject .sessionExpired
        else if !m.registryIsCurrent claim h snapshot || m.retired.contains resolved.lease ||
            h.fingerprint != claim.before then
          reject (.configMismatch "claim identity")
        else
          let applied :=
            { h with
              fingerprint := claim.intended
              governed := h.governed.map (fun operation => { operation with ready := true })
              turnAborts := h.turnAborts ++ [⟨claim.op, claim.abort, .opened⟩]
              pendingSeed := none
              pendingInjects := []
              lastUsed := m.clock }
          ((m.withTable (m.table.put claim.context applied)).spawn (.promptGate claim),
            .turn ⟨h.backend, h.backendSession, h.generation, claim.op, claim.abort, h.pendingSeed,
              h.pendingInjects, h.agent, claim.intended.config⟩)

/-- `GovernedTurnClaim::settle`. -/
def settleClaim : Manager × Reply :=
  match m.ownedHandle claim with
  | none => (m, .accepted)
  | some h =>
    let released := { h with governed := none }
    if claim.fresh && !claim.applying then
      (m.withTable (m.table.remove claim.context), .accepted)
    else if claim.applying || h.expireAfterReconcile || h.anyArmed then
      (m.takeExpiryClaimLocked claim.context released claim.generation claim.op, .accepted)
    else
      (m.withTable (m.table.put claim.context { released with state := .idle, op := none }), .accepted)

/-- `first_poll` of the prompt gate. -/
def firstPoll (session : SessionId) (backend : BackendId) (snapshot : Option EntryId) :
    Manager × Reply :=
  match m.ownedHandle claim with
  | none => (m, .refused .sessionExpired)
  | some h =>
    if !h.governed.any GovernedOperation.ready || h.backendSession != session then
      (m, .refused .sessionExpired)
    else if m.isCancelled claim.abort then (m, .refused .canceledBeforePrompt)
    else if h.expireAfterReconcile || backend != claim.backend ||
        !m.registryIsCurrent claim h snapshot || h.fingerprint != claim.intended then
      (m.withTable (m.table.put claim.context { h with expireAfterReconcile := true }),
        .refused (.configMismatch "prompt identity"))
    else (m.withTable (m.table.put claim.context { h with governed := none }), .accepted)

end Manager

end A2aBridge.Sessions
