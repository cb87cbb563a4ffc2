import A2aBridge.ByteText
import A2aBridge.SessionManager

/-!
The sections of the session manager that end a turn or a session (expiry, release, cancel,
reset, compaction, idle reaping), and the step of the whole system: an event starts an
operation, resumes a suspended one with the answer it waited for, settles a cleanup
flight, or is a move of the environment. A caller may be dropped at any await, except
that a cancel flight runs on and that a dropped claim is settled.
-/

namespace A2aBridge.Sessions

namespace Manager

variable (m : Manager) (ctx : ContextId)

/-- Defers the teardown to the owner of the claim. -/
def deferExpiry (h : WarmHandle) : Manager :=
  m.withTable (m.table.put ctx { h with expireAfterReconcile := true })

def beginExpireCurrent (generation : Nat) (op : OperationId) : Manager × Reply :=
  if (m.table.tombstone ctx).isSome then (m, .none)
  else
    match m.table.get ctx with
    | none => (m, .none)
    | some h =>
      if h.generation ≠ generation then (m, .none)
      else
        match h.governed with
        | some operation =>
          if h.op ≠ some op ∧ h.hasArmedExpiryIntent op = true then
            ((m.fire [operation.abort]).deferExpiry ctx h, .none)
          else expireMatching h
        | none => expireMatching h
where
  expireMatching (h : WarmHandle) : Manager × Reply :=
    if h.op = some op ∧ h.state = .cancelling then (m.deferExpiry ctx h, .none)
    else if (h.op = some op ∧ h.state = .running) ∨
        (h.op = none ∧ h.state = .idle ∧ h.hasArmedExpiryIntent op = true) then
      (m.takeExpiryClaimLocked ctx h generation op, .accepted)
    else (m, .none)

/-- `claim_release_locked`. -/
def claimReleaseLocked : Manager :=
  match m.table.tombstone ctx with
  | some tombstone =>
    match tombstone.state, m.table.retry ctx with
    | .cleanupFailed _, some owner =>
      { m with
        table := m.table.reclaim ctx tombstone m.cleanupClaimSeq
        cleanupClaimSeq := m.cleanupClaimSeq + 1
        settlements := m.settlements ++
          [⟨ctx, tombstone.generation, tombstone.op, m.cleanupClaimSeq, owner⟩]
        calls := m.calls ++ [.release owner.backend owner.backendSession] }
    | _, _ => m
  | none =>
    match m.table.get ctx with
    | none => m
    | some h =>
      match h.governed with
      | some operation => (m.fire [operation.abort]).deferExpiry ctx h
      | none =>
        if isClaimed h.state then m.deferExpiry ctx h
        else
          match h.op with
          | some op => m.takeExpiryClaimLocked ctx h h.generation op
          | none =>
            { m with turnOpSeq := m.turnOpSeq + 1 }.takeExpiryClaimLocked ctx h h.generation
              m.turnOpSeq

/-- `release_inner`, and the sweep of `release_with_children` under one lock. -/
def releaseAll (contexts : List ContextId) : Manager × Reply :=
  (contexts.foldl claimReleaseLocked m, .accepted)

/-- `cancel_inner_expected`, the claim. -/
def cancelFirst (expected : Option (Nat × OperationId)) : Manager × Reply :=
  if (m.table.tombstone ctx).isSome then (m, .refused .sessionExpired)
  else
    match m.table.get ctx with
    | none => (m, .refused .sessionNotFound)
    | some h =>
      if expected.any (fun (generation, op) =>
          h.generation != generation || h.op != some op || h.state != .running) then (m, .accepted)
      else
        match h.governed with
        | some operation => (m.fire [operation.abort], .accepted)
        | none =>
          if h.state = .cancelling then (m, .accepted)
          else if isClaimed h.state then (m.deferExpiry ctx h, .accepted)
          else if h.state ≠ .running then
            (m.withTable (m.table.put ctx { h with state := .idle, op := none }), .accepted)
          else
            let cancelling := { h with state := .cancelling, lastUsed := m.clock }
            (({ m with
                  table := m.table.put ctx cancelling
                  cleanupClaimSeq := m.cleanupClaimSeq + 1
                  turnOpSeq := m.turnOpSeq + 1 }.call (.cancel h.backend h.backendSession)).spawn
                (.cancelling ctx h.id m.cleanupClaimSeq m.turnOpSeq),
              .pending)

variable (claimedId : HandleId)

/-- The cancel flight after the backend has answered. -/
def cancelled (cleanupClaimId : Nat) (fallbackOp : OperationId) (result : Except BridgeError Unit) :
    Manager × Reply :=
  let answer : Reply :=
    match result with
    | .ok () => .accepted
    | .error error => .refused error
  match m.table.get ctx with
  | none => (m, if (m.table.tombstone ctx).isSome then .accepted else answer)
  | some h =>
    if h.id = claimedId ∧ h.state = .cancelling then
      let deferred := h.expireAfterReconcile || h.op.any h.hasArmedExpiryIntent
      match result, deferred with
      | .ok (), false =>
        (m.withTable (m.table.put ctx { h with state := .idle, op := none }), .accepted)
      | _, _ =>
        (m.expireHandle ctx h h.generation (h.op.getD fallbackOp) cleanupClaimId, answer)
    else (m, .accepted)

/-- `reset_session_inner`, the retry of a failed cleanup. -/
def resetFirst (force : Bool) : Manager × Reply :=
  match m.table.tombstone ctx, m.table.retry ctx with
  | some ⟨generation, _, _, .cleanupFailed _⟩, some _ =>
    (m.claimReleaseLocked ctx, .cleared generation)
  | _, _ => (m.spawn (.resetStarting ctx force), .pending)

/-- `reset_session_inner`, the claim. -/
def resetClaim (force : Bool) (cwdParses : Bool) : Manager × Reply :=
  match m.table.get ctx with
  | none => (m, .notFound)
  | some h =>
    match h.governed with
    | some operation =>
      if force then ((m.fire [operation.abort]).deferExpiry ctx h, .cleared h.generation)
      else (m, .refused .handleBusy)
    | none =>
      if h.state = .configuring ∧ force = true then (m.deferExpiry ctx h, .cleared h.generation)
      else if h.state = .idle ∨ (h.state = .running ∧ force = true) then
        if !cwdParses then (m, .refused (.configInvalid "session cwd"))
        else
          let newId : SessionId := ⟨ctx, h.generation + 1⟩
          let resetting :=
            { h with turnAborts := [], state := .resetting, expireAfterReconcile := false }
          let claimed := (m.fire (h.turnAborts.map TurnAbort.token)).withTable
            (m.table.put ctx resetting)
          let stopped :=
            if force then claimed.call (.cancel h.backend h.backendSession) else claimed
          (((stopped.call (.release h.backend h.backendSession)).call
              (.configure h.backend newId)).spawn (.resetting ctx h.id h.backend newId),
            .pending)
      else (m, .refused .handleBusy)

def renewed (h : WarmHandle) (newId : SessionId) (seed : Option String) : WarmHandle :=
  { h with
    backendSession := newId
    generation := newId.generation
    usage := {}
    op := none
    turnAborts := []
    pendingSeed := seed
    state := .idle
    lastUsed := m.clock }

/-- The commit of a reset or of a compaction that holds `claimState`. A failed configure or a
deferred expiry removes the handle after the new session is released. -/
def renew (claimState : SessionState) (backend : BackendId) (newId : SessionId)
    (result : Except BridgeError Unit) (commit : WarmHandle → WarmHandle) :
    Manager × Reply :=
  let unstashed :=
    match result with
    | .ok () => m.call (.release backend newId)
    | .error _ => m
  let refusal :=
    match result with
    | .ok () => BridgeError.sessionExpired
    | .error error => error
  match m.table.get ctx with
  | none => (unstashed, .refused .sessionExpired)
  | some h =>
    if h.id = claimedId ∧ h.state = claimState then
      match result, h.expireAfterReconcile with
      | .ok (), false => (m.withTable (m.table.put ctx (commit h)), .cleared newId.generation)
      | _, _ => (unstashed.spawn (.removing ctx refusal), .pending)
    else (unstashed, .refused .sessionExpired)

variable (backend : BackendId)

/-- `reset_session_inner`, the commit: the queue of injects is dropped as well. -/
def resetSettled (newId : SessionId) (result : Except BridgeError Unit) :
    Manager × Reply :=
  m.renew ctx claimedId .resetting backend newId result
    (fun h => { m.renewed h newId none with pendingInjects := [] })

/-- `compact_session_prepared`, the claim. -/
def compactFirst (expected : Option CompactionSnapshot) (cwdParses : Bool) :
    Manager × Reply :=
  if expected ≠ (m.table.get ctx).map CompactionSnapshot.of then
    (m, .refused (.configMismatch "accounting selection"))
  else
    match m.table.get ctx with
    | none => (m, .notFound)
    | some h =>
      if h.state ≠ .idle then (m, .refused .handleBusy)
      else if h.pendingSeed.isSome || !h.pendingInjects.isEmpty then (m, .refused .handleBusy)
      else if !cwdParses then (m, .refused (.configInvalid "session cwd"))
      else
        let compacting := { h with state := .compacting, expireAfterReconcile := false }
        ((m.withTable (m.table.put ctx compacting)).spawn
            (.summarizing ctx h.id h.backend h.backendSession ⟨ctx, h.generation + 1⟩),
          .pending)

/-- The summary: a bad one expires the handle, a good one leads to the next session. -/
def summarized (oldId newId : SessionId) (summary : Except BridgeError String) : Manager × Reply :=
  match summary with
  | .ok summary =>
    if summary.toList.all ByteText.isWhitespace then
      expireAfterSummarize (.agentCrashed "compact summary was empty")
    else
      (((m.call (.release backend oldId)).call (.configure backend newId)).spawn
          (.compacting ctx claimedId backend newId summary),
        .pending)
  | .error error => expireAfterSummarize error
where
  expireAfterSummarize (error : BridgeError) : Manager × Reply :=
    match m.table.get ctx with
    | none => (m, .refused error)
    | some h =>
      if h.id = claimedId ∧ h.state = .compacting then
        (((m.withTable (m.table.put ctx { h with state := .expiring })).call
            (.release backend oldId)).spawn (.removing ctx error),
          .pending)
      else (m, .refused error)

/-- `compact_session_prepared`, the commit: the summary seeds the next turn. -/
def compactSettled (newId : SessionId) (summary : String) (result : Except BridgeError Unit) :
    Manager × Reply :=
  m.renew ctx claimedId .compacting backend newId result (fun h => m.renewed h newId (some summary))

def idleExpired (now : Nat) (h : WarmHandle) : Bool :=
  h.state == .idle && decide (m.idleTtl ≤ now - h.lastUsed)

/-- `reap_idle`, the snapshot. -/
def reapFirst : Manager × Reply :=
  let expired := m.table.live.keys.filter (fun ctx =>
    (m.table.get ctx).any (m.idleExpired m.clock))
  (m.spawn (.reaping m.clock expired), .pending)

def reapOne (now : Nat) (m : Manager) (ctx : ContextId) : Manager :=
  match m.table.get ctx with
  | none => m
  | some h =>
    if m.idleExpired now h then
      match h.op with
      | some op => m.takeExpiryClaimLocked ctx h h.generation op
      | none =>
        { m with turnOpSeq := m.turnOpSeq + 1 }.takeExpiryClaimLocked ctx h h.generation m.turnOpSeq
    else m

def reapExpired (now : Nat) (expired : List ContextId) : Manager × Reply :=
  (expired.foldl (reapOne now) m, .accepted)

end Manager

/-- What a suspended operation waited for. -/
inductive Answer where
  | resolved (result : Except BridgeError Resolved) (entry : Option EntryId)
  | reconciled (outcome : Except BridgeError ReconcileOutcome)
  | answered (result : Except BridgeError Unit)
  | summarized (summary : Except BridgeError String)
  | admission (selected : Bool) (admission : Except BridgeError (Option String))
  | apply (usage : Manager.PreparedUsage) (resolved : Except BridgeError Resolved)
      (snapshot : Option EntryId) (cwdParses : Bool) (late : Option OperationId)
  | applied (outcome : Except BridgeError ReconcileOutcome) (snapshot : Option EntryId)
  | polled (session : SessionId) (backend : BackendId) (snapshot : Option EntryId)
  | scheduled (cwdParses : Bool)

inductive Event where
  | tick (elapsed : Nat)
  | retire (lease : LeaseId)
  | arm (ctx : ContextId) (op : OperationId)
  | interrupt (token : TokenId)
  | abandon (index : Nat)
  | inject (ctx : ContextId) (queued : QueuedInject)
  | checkoutExisting (ctx : ContextId)
  | checkout (ctx : ContextId) (agent : AgentId) (overrides : Option AgentOverride)
      (cwd : Option String)
  | claimExisting (ctx : ContextId) (entry : Option EntryId)
  | claimTurn (ctx : ContextId) (agent : AgentId) (overrides : Option AgentOverride)
      (cwd : Option String) (entry : Option EntryId)
  | expireRetiredIdleChild (ctx : ContextId)
  | finishTurn (ctx : ContextId) (generation : Nat) (op : OperationId)
  | recordUsage (ctx : ContextId) (generation : Nat) (op : OperationId) (snap : UsageSnapshot)
  | expireCurrent (ctx : ContextId) (generation : Nat) (op : OperationId)
  | release (contexts : List ContextId)
  | cancel (ctx : ContextId) (expected : Option (Nat × OperationId))
  | reset (ctx : ContextId) (force : Bool)
  | compact (ctx : ContextId) (expected : Option CompactionSnapshot) (cwdParses : Bool)
  | reapIdle
  | settle (index : Nat) (result : Except BridgeError BackendCleanupDisposition)
  | resume (index : Nat) (answer : Answer)

namespace Manager

variable (m : Manager)

/-- `WarmExpiryIntent::arm` on the retained turn of an operation; it does not take the lock. -/
def armIntent (ctx : ContextId) (op : OperationId) : Manager :=
  match m.table.get ctx with
  | none => m
  | some h =>
    let turnAborts := h.turnAborts.map (fun turn =>
      if turn.op = op then { turn with expiryIntent := turn.expiryIntent.arm } else turn)
    m.withTable (m.table.put ctx { h with turnAborts := turnAborts })

/-- What is left of a task whose caller is dropped. -/
def abandoned : Task → List Task
  | .claimHeld claim => [.claimSettling claim]
  | .claimApplying claim resolved => [.claimApplying claim resolved]
  | .claimSettling claim => [.claimSettling claim]
  | .cancelling ctx claimedId cleanupClaimId fallbackOp =>
    [.cancelling ctx claimedId cleanupClaimId fallbackOp]
  | _ => []

/-- The next section of a task, which is no longer among the tasks of `m`. An answer that the
task does not wait for leaves it suspended. -/
def proceed (task : Task) (answer : Answer) : Manager × Reply :=
  match task, answer with
  | .checkoutResolving ctx agent overrides cwd sawHandle, .resolved (.ok resolved) _ =>
    m.checkoutSecond ctx agent overrides cwd sawHandle resolved
  | .checkoutResolving .., .resolved (.error error) _ => (m, .refused error)
  | .reconciling ctx claimedId fingerprint backend session reseedField, .reconciled outcome =>
    m.reconciled ctx claimedId fingerprint backend session reseedField outcome
  | .configuring ctx handleId claim backend session, .answered result =>
    m.configured ctx handleId claim backend session result
  | .removing ctx refusal, .scheduled _ => m.removed ctx refusal
  | .claimResolving ctx agent overrides cwd, .resolved (.ok resolved) entry =>
    m.claimTurnSecond ctx agent overrides cwd resolved entry
  | .claimResolving .., .resolved (.error error) _ => (m, .refused error)
  | .claimHeld claim, .scheduled _ => m.settleClaim claim
  | .claimHeld claim, .admission selected admission => m.admitClaim claim selected admission
  | .claimHeld claim, .apply usage resolved snapshot cwdParses late =>
    m.applyFirst claim usage resolved snapshot cwdParses late
  | .claimApplying claim resolved, .applied outcome snapshot =>
    m.applySecond claim resolved outcome snapshot
  | .claimSettling claim, .scheduled _ => m.settleClaim claim
  | .promptGate claim, .polled session backend snapshot =>
    let (polled, reply) := m.firstPoll claim session backend snapshot
    (polled.spawn (.promptGate claim), reply)
  | .cancelling ctx claimedId cleanupClaimId fallbackOp, .answered result =>
    m.cancelled ctx claimedId cleanupClaimId fallbackOp result
  | .resetStarting ctx force, .scheduled cwdParses => m.resetClaim ctx force cwdParses
  | .resetting ctx claimedId backend newId, .answered result =>
    m.resetSettled ctx claimedId backend newId result
  | .summarizing ctx claimedId backend oldId newId, .summarized summary =>
    m.summarized ctx claimedId backend oldId newId summary
  | .compacting ctx claimedId backend newId summary, .answered result =>
    m.compactSettled ctx claimedId backend newId summary result
  | .reaping now expired, .scheduled _ => m.reapExpired now expired
  | task, _ => (m.spawn task, .none)

def step (event : Event) : Manager × Reply :=
  match event with
  | .tick elapsed => ({ m with clock := m.clock + elapsed }, .none)
  | .retire lease => ({ m with retired := lease :: m.retired }, .none)
  | .arm ctx op => (m.armIntent ctx op, .none)
  | .interrupt token => (m.fire [token], .none)
  | .abandon index =>
    match m.tasks[index]? with
    | none => (m, .none)
    | some task =>
      ({ m with tasks := m.tasks.eraseIdx index ++ abandoned task }, .none)
  | .inject ctx queued => m.inject ctx queued
  | .checkoutExisting ctx => m.checkoutExistingTurn ctx
  | .checkout ctx agent overrides cwd => m.checkoutFirst ctx agent overrides cwd
  | .claimExisting ctx entry => m.claimGovernedLocked ctx none none none false entry
  | .claimTurn ctx agent overrides cwd entry => m.claimTurnFirst ctx agent overrides cwd entry
  | .expireRetiredIdleChild ctx => m.expireRetiredIdleChild ctx
  | .finishTurn ctx generation op => m.finishOwnedTurn ctx generation op
  | .recordUsage ctx generation op snap => m.recordUsage ctx generation op snap
  | .expireCurrent ctx generation op => m.beginExpireCurrent ctx generation op
  | .release contexts => m.releaseAll contexts
  | .cancel ctx expected => m.cancelFirst ctx expected
  | .reset ctx force => m.resetFirst ctx force
  | .compact ctx expected cwdParses => m.compactFirst ctx expected cwdParses
  | .reapIdle => m.reapFirst
  | .settle index result =>
    match m.settlements[index]? with
    | none => (m, .none)
    | some settlement => (m.withTable (settlement.settle m.table result), .none)
  | .resume index answer =>
    match m.tasks[index]? with
    | none => (m, .none)
    | some task => { m with tasks := m.tasks.eraseIdx index }.proceed task answer

def run (events : List Event) : Manager := events.foldl (fun m event => (m.step event).1) m

end Manager

end A2aBridge.Sessions
