import A2aBridge.SessionSteps
import Mathlib.Tactic.SplitIfs

/-!
The table invariant along every run of the session manager. Each section is shown to keep
it whatever the locals of a suspended operation say, so stale views need no argument of
their own: what a section writes is guarded by what it reads under the same lock.
-/

namespace A2aBridge.Sessions

open WarmHandle (sound_of_claimed sound_of_idle sound_of_running)

namespace SessionTable

variable {table : SessionTable} {ctx : ContextId} {h : WarmHandle}

theorem Sound.update (sound : table.Sound) (found : table.get ctx = some h) {changed : WarmHandle}
    (good : changed.Sound) : (table.put ctx changed).Sound :=
  sound.put (sound.no_tombstone found) good

end SessionTable

namespace Manager

variable {m : Manager} {ctx : ContextId} {h : WarmHandle}

theorem sound_of_get {α : Type} {absent : Manager × α} {present : WarmHandle → Manager × α}
    {known : Option WarmHandle} (without : absent.1.table.Sound)
    (given : ∀ h, known = some h → (present h).1.table.Sound) :
    (match known with
      | none => absent
      | some h => present h).1.table.Sound := by
  cases known with
  | none => exact without
  | some h => exact given h rfl

theorem sound_of_guard {α : Type} {refused : Prop} [Decidable refused] {early late : Manager × α}
    (without : early.1.table.Sound) (given : late.1.table.Sound) :
    (if refused then early else late).1.table.Sound := by
  split
  · exact without
  · exact given

section

variable {agent : AgentId} {overrides : Option AgentOverride} {cwd : Option String} {generation : Nat}
  {op : OperationId} {claimedId : HandleId} {backend : BackendId} {session newId : SessionId}
  {claim : GovernedTurnClaim} {result : Except BridgeError Unit} {resolved : Resolved}
  {fingerprint : SessionSpecFingerprint} {reseedField : String} {cwdParses : Bool}
  {entry snapshot : Option EntryId} (sound : m.table.Sound)

include sound

section

variable (free : m.table.tombstone ctx = none)

include free

theorem begin_turn_sound : (m.beginTurn ctx h).1.table.Sound :=
  sound.put free (sound_of_running rfl rfl)

theorem take_expiry_claim_sound : (m.takeExpiryClaimLocked ctx h generation op).table.Sound :=
  sound.entomb free generation op m.cleanupClaimSeq

theorem reserve_or_expire_sound {next : WarmHandle → Manager × Reply}
    (goes : ∀ turnAborts, (next { h with turnAborts := turnAborts }).1.table.Sound) :
    (m.reserveOrExpire ctx h next).1.table.Sound := by
  unfold reserveOrExpire
  split
  · exact take_expiry_claim_sound sound free ..
  · exact goes _

end

theorem defer_expiry_sound (found : m.table.get ctx = some h) : (m.deferExpiry ctx h).table.Sound :=
  sound.update found ((sound.handles ctx h found).of_same rfl rfl rfl)

theorem inject_sound (queued : QueuedInject) : (m.inject ctx queued).1.table.Sound := by
  refine sound_of_get sound fun h found => ?_
  refine sound_of_guard sound (sound_of_guard sound ?_)
  exact sound.update found ((sound.handles ctx h found).of_same rfl rfl rfl)

theorem checkout_existing_turn_sound : (m.checkoutExistingTurn ctx).1.table.Sound := by
  refine sound_of_guard sound (sound_of_get sound fun h found => ?_)
  have free := sound.no_tombstone found
  refine sound_of_guard sound (sound_of_guard sound ?_)
  exact reserve_or_expire_sound sound free (fun _ => begin_turn_sound sound free)

theorem checkout_first_sound : (m.checkoutFirst ctx agent overrides cwd).1.table.Sound := by
  refine sound_of_guard sound (sound_of_get sound fun h found => ?_)
  refine sound_of_guard sound (sound_of_guard sound ?_)
  split
  · exact take_expiry_claim_sound sound (sound.no_tombstone found) ..
  · exact sound

theorem begin_configure_sound (free : m.table.tombstone ctx = none) :
    (m.beginConfigure ctx fingerprint resolved).1.table.Sound :=
  sound.put free (sound_of_claimed rfl (by simp [newHandle]) rfl)

theorem resume_handle_sound (found : m.table.get ctx = some h) :
    (m.resumeHandle ctx fingerprint h).1.table.Sound := by
  have free := sound.no_tombstone found
  unfold resumeHandle
  simp only
  refine sound_of_guard sound ?_
  split
  · exact sound
  split
  · exact reserve_or_expire_sound sound free (fun _ => begin_turn_sound sound free)
  split
  · exact sound
  · rename_i busy _ _ _
    have idle : h.state ≠ .running := by
      rw [not_not.mp busy]
      simp
    have ungoverned := (sound.handles ctx h found).ungoverned idle
    exact reserve_or_expire_sound sound free fun _ =>
      sound.put free (sound_of_claimed rfl (by simp) ungoverned)

theorem checkout_second_sound (sawHandle : Bool) :
    (m.checkoutSecond ctx agent overrides cwd sawHandle resolved).1.table.Sound := by
  unfold checkoutSecond
  by_cases gone : (m.table.tombstone ctx).isSome = true
  · simp only [if_pos gone]
    exact sound
  · simp only [if_neg gone]
    cases found : m.table.get ctx with
    | some h => exact resume_handle_sound sound found
    | none =>
      have free : m.table.tombstone ctx = none := by simpa using gone
      cases sawHandle with
      | true => exact sound
      | false => exact begin_configure_sound sound free ..

variable (outcome : Except BridgeError ReconcileOutcome)

theorem reconciled_sound :
    (m.reconciled ctx claimedId fingerprint backend session reseedField outcome).1.table.Sound := by
  refine sound_of_get sound fun h found => ?_
  split_ifs with ours
  · split
    · exact begin_turn_sound sound (sound.no_tombstone found)
    · have ungoverned := (sound.handles ctx h found).ungoverned (by rw [ours.2]; simp)
      exact sound.update found (sound_of_claimed rfl (by simp) ungoverned)
  · exact sound

theorem configured_sound (handleId : HandleId) (claim : OperationId) :
    (m.configured ctx handleId claim backend session result).1.table.Sound := by
  unfold configured
  cases found : m.table.get ctx with
  | none => cases result <;> exact sound
  | some h =>
    simp only
    split_ifs with ours deferred
    · have ungoverned := (sound.handles ctx h found).ungoverned (by rw [ours.2.1]; simp)
      have expiring : (m.table.put ctx { h with state := .expiring }).Sound :=
        sound.update found (sound_of_claimed rfl (by simp) ungoverned)
      cases result <;> exact expiring
    · cases result with
      | ok _ => exact begin_turn_sound sound (sound.no_tombstone found)
      | error _ => exact sound.remove ctx
    · cases result <;> exact sound

theorem expire_retired_idle_child_sound : (m.expireRetiredIdleChild ctx).1.table.Sound := by
  refine sound_of_get sound fun h found => ?_
  exact sound_of_guard sound (sound.remove ctx)

omit sound in
theorem finished_handle_sound (good : h.Sound) (now : Nat) :
    (finishedHandle h generation op now).Sound := by
  unfold finishedHandle
  by_cases idles : (if (h.generation = generation ∧ h.op = some op) ∧
      h.governed.any GovernedOperation.ready = true then none else h.governed) = none ∧
      (h.generation = generation ∧ h.op = some op) ∧ h.state = .running
  · rw [if_pos idles]
    exact sound_of_idle rfl rfl idles.1
  · rw [if_neg idles]
    -- a claim may be dropped, and a handle that keeps its claim keeps its state
    refine ⟨good.idle, good.busy, fun some => good.governed ?_⟩
    by_cases dropped : (h.generation = generation ∧ h.op = Option.some op) ∧
        h.governed.any GovernedOperation.ready = true
    · simp only [if_pos dropped] at some
      cases some
    · simp only [if_neg dropped] at some
      exact some

theorem finish_owned_turn_sound : (m.finishOwnedTurn ctx generation op).1.table.Sound := by
  refine sound_of_get sound fun h found => ?_
  split
  · exact take_expiry_claim_sound sound (sound.no_tombstone found) ..
  · exact sound.update found (finished_handle_sound (sound.handles ctx h found) ..)

theorem record_usage_sound
    (snap : UsageSnapshot) : (m.recordUsage ctx generation op snap).1.table.Sound := by
  refine sound_of_get sound fun h found => ?_
  split_ifs
  · exact sound.update found ((sound.handles ctx h found).of_same rfl rfl rfl)
  · exact sound

theorem claim_governed_sound (agent : Option AgentId) (fresh : Bool) :
    (m.claimGovernedLocked ctx agent overrides cwd fresh entry).1.table.Sound := by
  refine sound_of_guard sound (sound_of_get sound fun h found => ?_)
  refine sound_of_guard sound (sound_of_guard sound ?_)
  split
  · exact take_expiry_claim_sound sound (sound.no_tombstone found) ..
  refine sound_of_guard sound (sound_of_guard sound ?_)
  split
  · exact sound
  · exact sound.update found (sound_of_running rfl rfl)

theorem claim_turn_first_sound :
    (m.claimTurnFirst ctx agent overrides cwd entry).1.table.Sound := by
  unfold claimTurnFirst
  split
  · exact claim_governed_sound sound ..
  · exact sound

theorem claim_turn_second_sound :
    (m.claimTurnSecond ctx agent overrides cwd resolved entry).1.table.Sound := by
  unfold claimTurnSecond
  by_cases taken : m.table.containsKey ctx = true
  · rw [if_pos taken]
    exact sound
  · rw [if_neg taken]
    have free : m.table.tombstone ctx = none := by
      simp only [SessionTable.containsKey, Bool.or_eq_true, not_or] at taken
      simpa using taken.2
    simp only
    generalize fresh : m.newHandle ctx _ resolved .idle none = handle
    have good : handle.Sound := by
      rw [← fresh]
      exact sound_of_idle rfl rfl rfl
    have claimed : ({ m with table := m.table.put ctx handle, seq := m.seq + 1 }.claimGovernedLocked
        ctx none none none true entry).1.table.Sound := claim_governed_sound (sound.put free good) ..
    split
    · rename_i refusing error refused
      rw [refused] at claimed
      exact claimed.remove ctx
    · exact claimed

omit sound in
theorem owned_handle_found (owned : m.ownedHandle claim = some h) :
    m.table.get claim.context = some h := by
  exact (Option.filter_eq_some_iff.mp owned).1

theorem admit_claim_sound (selected : Bool) (admission : Except BridgeError (Option String)) :
    (m.admitClaim claim selected admission).1.table.Sound := by
  unfold admitClaim
  split
  · exact sound
  · split_ifs <;> exact sound

theorem apply_first_sound (usage : PreparedUsage) (resolved : Except BridgeError Resolved)
    (late : Option OperationId) :
    (m.applyFirst claim usage resolved snapshot cwdParses late).1.table.Sound := by
  refine sound_of_guard sound ?_
  cases resolved with
  | error error => exact sound
  | ok resolved =>
  refine sound_of_get sound fun h owned => ?_
  have found := owned_handle_found owned
  have good := sound.handles _ h found
  iterate 5 refine sound_of_guard sound ?_
  simp only
  split
  · exact sound.update found (good.of_same rfl rfl rfl)
  · split_ifs <;> exact sound.update found (good.of_same rfl rfl rfl)

theorem apply_second_sound :
    (m.applySecond claim resolved outcome snapshot).1.table.Sound := by
  unfold applySecond
  split
  · exact sound
  refine sound_of_guard sound (sound_of_get sound fun h owned => ?_)
  have found := owned_handle_found owned
  iterate 3 refine sound_of_guard sound ?_
  exact sound.update found ((sound.handles _ h found).of_same rfl rfl Option.isSome_map)

theorem settle_claim_sound : (m.settleClaim claim).1.table.Sound := by
  refine sound_of_get sound fun h owned => ?_
  have found := owned_handle_found owned
  split_ifs
  · exact sound.remove _
  · exact take_expiry_claim_sound sound (sound.no_tombstone found) ..
  · exact sound.update found (sound_of_idle rfl rfl rfl)

theorem first_poll_sound : (m.firstPoll claim session backend snapshot).1.table.Sound := by
  refine sound_of_get sound fun h owned => ?_
  have found := owned_handle_found owned
  have good := sound.handles _ h found
  split_ifs
  · exact sound
  · exact sound
  · exact sound.update found (good.of_same rfl rfl rfl)
  · refine sound.update found ⟨good.idle, good.busy, ?_⟩
    nofun

theorem begin_expire_current_sound : (m.beginExpireCurrent ctx generation op).1.table.Sound := by
  refine sound_of_guard sound (sound_of_get sound fun h found => ?_)
  have matching : (beginExpireCurrent.expireMatching m ctx generation op h).1.table.Sound := by
    unfold beginExpireCurrent.expireMatching
    split_ifs
    · exact defer_expiry_sound sound found
    · exact take_expiry_claim_sound sound (sound.no_tombstone found) ..
    · exact sound
  split
  · exact sound
  split
  · split
    · exact @defer_expiry_sound (m.fire _) ctx h sound found
    · exact matching
  · exact matching

theorem claim_release_sound (ctx : ContextId) : (m.claimReleaseLocked ctx).table.Sound := by
  unfold claimReleaseLocked
  cases dead : m.table.tombstone ctx with
  | some tombstone =>
    simp only
    split
    · exact sound.reclaim dead _
    · exact sound
  | none =>
    cases found : m.table.get ctx with
    | none => exact sound
    | some h =>
      simp only
      split
      · exact @defer_expiry_sound (m.fire _) ctx h sound found
      · split
        · exact defer_expiry_sound sound found
        · split
          · exact take_expiry_claim_sound sound dead ..
          · exact sound.entomb dead _ _ _

omit sound in
theorem fold_sound {visit : Manager → ContextId → Manager}
    (keeps : ∀ m ctx, m.table.Sound → (visit m ctx).table.Sound) (contexts : List ContextId)
    (sound : m.table.Sound) : (contexts.foldl visit m).table.Sound := by
  induction contexts generalizing m with
  | nil => exact sound
  | cons ctx contexts ih => exact ih (keeps m ctx sound)

theorem cancel_first_sound (expected : Option (Nat × OperationId)) :
    (m.cancelFirst ctx expected).1.table.Sound := by
  refine sound_of_guard sound (sound_of_get sound fun h found => ?_)
  have good := sound.handles ctx h found
  split
  · exact sound
  split
  · exact sound
  · rename_i ungoverned
    split_ifs with already claimed idle
    · exact sound
    · exact defer_expiry_sound sound found
    · exact sound.update found (sound_of_idle rfl rfl ungoverned)
    · -- only a running handle is left, and it has an operation
      refine sound.update found ⟨fun state => ?_, fun _ => ?_, fun some => ?_⟩
      · cases state
      · exact good.busy (.inl (not_not.mp idle))
      · rw [ungoverned] at some
        cases some

theorem cancelled_sound (cleanupClaimId : Nat) (fallbackOp : OperationId) :
    (m.cancelled ctx claimedId cleanupClaimId fallbackOp result).1.table.Sound := by
  unfold cancelled
  cases found : m.table.get ctx with
  | none => exact sound
  | some h =>
    simp only
    split
    · rename_i ours
      have ungoverned := (sound.handles ctx h found).ungoverned (by rw [ours.2]; simp)
      split
      · exact sound.update found (sound_of_idle rfl rfl ungoverned)
      · exact sound.entomb (sound.no_tombstone found) ..
    · exact sound

theorem reset_first_sound (force : Bool) : (m.resetFirst ctx force).1.table.Sound := by
  unfold resetFirst
  split
  · exact claim_release_sound sound ctx
  · exact sound

theorem reset_claim_sound (force : Bool) : (m.resetClaim ctx force cwdParses).1.table.Sound := by
  refine sound_of_get sound fun h found => ?_
  split
  · split
    · exact @defer_expiry_sound (m.fire _) ctx h sound found
    · exact sound
  · rename_i ungoverned
    have resetting : (m.table.put ctx
        { h with turnAborts := [], state := .resetting, expireAfterReconcile := false }).Sound :=
      sound.update found (sound_of_claimed rfl (by simp) ungoverned)
    split_ifs
    · exact defer_expiry_sound sound found
    · exact sound
    · exact resetting
    · exact resetting
    · exact sound

theorem renew_sound {claimState : SessionState} {commit : WarmHandle → WarmHandle}
    (good : ∀ h, h.Sound → h.state = claimState → (commit h).Sound) :
    (m.renew ctx claimedId claimState backend newId result commit).1.table.Sound := by
  unfold renew
  cases found : m.table.get ctx with
  | none => cases result <;> exact sound
  | some h =>
    simp only
    split
    · rename_i ours
      cases result with
      | error _ => exact sound
      | ok _ =>
        split
        · exact sound.update found (good h (sound.handles ctx h found) ours.2)
        · exact sound
    · cases result <;> exact sound

omit sound in
theorem renewed_sound (good : h.Sound) (other : h.state ≠ .running)
    (seed : Option String) : (m.renewed h newId seed).Sound :=
  sound_of_idle rfl rfl (good.ungoverned other)

theorem reset_settled_sound :
    (m.resetSettled ctx claimedId backend newId result).1.table.Sound := by
  refine renew_sound sound (fun h good state => ?_)
  exact (@renewed_sound m h newId good (by rw [state]; simp) none).of_same rfl rfl rfl

theorem compact_first_sound (expected : Option CompactionSnapshot) :
    (m.compactFirst ctx expected cwdParses).1.table.Sound := by
  refine sound_of_guard sound (sound_of_get sound fun h found => ?_)
  split_ifs with busy
  · exact sound
  · exact sound
  · exact sound
  · have ungoverned := (sound.handles ctx h found).ungoverned (by rw [not_not.mp busy]; simp)
    exact sound.update found (sound_of_claimed rfl (by simp) ungoverned)

theorem summarized_sound (oldId : SessionId) (summary : Except BridgeError String) :
    (m.summarized ctx claimedId backend oldId newId summary).1.table.Sound := by
  have expired (error : BridgeError) :
      (summarized.expireAfterSummarize m ctx claimedId backend oldId error).1.table.Sound := by
    refine sound_of_get sound fun h found => ?_
    split
    · rename_i ours
      have ungoverned := (sound.handles ctx h found).ungoverned (by rw [ours.2]; simp)
      exact sound.update found (sound_of_claimed rfl (by simp) ungoverned)
    · exact sound
  unfold summarized
  split
  · split
    · exact expired _
    · exact sound
  · exact expired _

theorem compact_settled_sound (summary : String) :
    (m.compactSettled ctx claimedId backend newId summary result).1.table.Sound := by
  refine renew_sound sound (fun h good state => ?_)
  exact renewed_sound good (by rw [state]; simp) (some summary)

omit sound in
theorem reap_one_sound (now : Nat) (sound : m.table.Sound) : (reapOne now m ctx).table.Sound := by
  unfold reapOne
  cases found : m.table.get ctx with
  | none => exact sound
  | some h =>
    have free := sound.no_tombstone found
    simp only
    split
    · split
      · exact take_expiry_claim_sound sound free ..
      · exact sound.entomb free _ _ _
    · exact sound

theorem arm_intent_sound : (m.armIntent ctx op).table.Sound := by
  unfold armIntent
  cases found : m.table.get ctx with
  | none => exact sound
  | some h => exact sound.update found ((sound.handles ctx h found).of_same rfl rfl rfl)

theorem proceed_sound (task : Task) (answer : Answer) : (m.proceed task answer).1.table.Sound := by
  unfold proceed
  split
  · exact checkout_second_sound sound ..
  · exact sound
  · exact reconciled_sound sound ..
  · exact configured_sound sound ..
  · exact sound.remove _
  · exact claim_turn_second_sound sound ..
  · exact sound
  · exact settle_claim_sound sound
  · exact admit_claim_sound sound ..
  · exact apply_first_sound sound ..
  · exact apply_second_sound sound ..
  · exact settle_claim_sound sound
  · exact first_poll_sound sound ..
  · exact cancelled_sound sound ..
  · exact reset_claim_sound sound ..
  · exact reset_settled_sound sound ..
  · exact summarized_sound sound ..
  · exact compact_settled_sound sound ..
  · exact fold_sound (fun _ _ => reap_one_sound _) _ sound
  · exact sound

theorem step_sound (event : Event) : (m.step event).1.table.Sound := by
  cases event with
  | tick | retire | interrupt | reapIdle => exact sound
  | arm ctx op => exact arm_intent_sound sound
  | abandon index =>
    simp only [step]
    split <;> exact sound
  | inject ctx queued => exact inject_sound sound queued
  | checkoutExisting ctx => exact checkout_existing_turn_sound sound
  | checkout ctx agent overrides cwd => exact checkout_first_sound sound
  | claimExisting ctx entry => exact claim_governed_sound sound ..
  | claimTurn ctx agent overrides cwd entry => exact claim_turn_first_sound sound ..
  | expireRetiredIdleChild ctx => exact expire_retired_idle_child_sound sound
  | finishTurn ctx generation op => exact finish_owned_turn_sound sound
  | recordUsage ctx generation op snap => exact record_usage_sound sound snap
  | expireCurrent ctx generation op => exact begin_expire_current_sound sound
  | release contexts => exact fold_sound (fun _ ctx sound => claim_release_sound sound ctx) contexts sound
  | cancel ctx expected => exact cancel_first_sound sound expected
  | reset ctx force => exact reset_first_sound sound force
  | compact ctx expected cwdParses => exact compact_first_sound sound expected
  | settle index result =>
    simp only [step]
    split
    · exact sound
    · exact CleanupClaimSettlement.settle_sound _ sound result
  | resume index answer =>
    simp only [step]
    split
    · exact sound
    · exact @proceed_sound { m with tasks := m.tasks.eraseIdx index } sound _ answer

end

theorem run_sound (events : List Event) (sound : m.table.Sound) : (m.run events).table.Sound := by
  induction events generalizing m with
  | nil => exact sound
  | cons event events ih => exact ih (step_sound sound event)

end Manager

/-- The session table in every reachable state: a context is live or a tombstone but never
both, exactly the failed cleanups have a retry owner, an idle handle has no operation, a
running or cancelling one has one, only a running handle has a governed claim, and a cleanup
settlement that no longer names the tombstone's generation, operation and claim changes
nothing. -/
theorem session_table_invariants (idleTtl : Nat) (events : List Event) :
    let table := ((Manager.start idleTtl).run events).table
    (∀ ctx, ¬ ((table.get ctx).isSome = true ∧ (table.tombstone ctx).isSome = true)) ∧
    (∀ ctx, (table.retry ctx).isSome = true ↔
      ∃ tombstone code, table.tombstone ctx = some tombstone ∧
        tombstone.state = .cleanupFailed code) ∧
    (∀ ctx h, table.get ctx = some h →
      (h.state = .idle → h.op = none) ∧
      (h.state = .running ∨ h.state = .cancelling → h.op.isSome = true) ∧
      (h.governed.isSome = true → h.state = .running)) ∧
    (∀ (settlement : CleanupClaimSettlement) (result : Except BridgeError BackendCleanupDisposition),
      (∀ tombstone, table.tombstone settlement.context = some tombstone →
        tombstone.generation ≠ settlement.generation ∨ tombstone.op ≠ settlement.op ∨
          tombstone.cleanupClaimId ≠ settlement.cleanupClaimId) →
      settlement.settle table result = table) := by
  intro table
  have sound : table.Sound := Manager.run_sound events SessionTable.empty_sound
  refine ⟨fun ctx both => ?_, sound.retries, fun ctx h found => ?_, fun settlement result stale => ?_⟩
  · rcases sound.apart ctx with absent | free
    · rw [absent] at both
      cases both.1
    · rw [free] at both
      cases both.2
  · have good := sound.handles ctx h found
    exact ⟨good.idle, good.busy, good.governed⟩
  · -- A settlement whose claim is no longer the tombstone's changes nothing.
    unfold CleanupClaimSettlement.settle
    cases found : table.tombstone settlement.context with
    | none => rfl
    | some tombstone =>
      have other : ¬ settlement.claims tombstone = true := by
        intro mine
        simp only [CleanupClaimSettlement.claims, Bool.and_eq_true, beq_iff_eq] at mine
        rcases stale tombstone found with generation | op | claim
        · exact generation mine.1.1
        · exact op mine.1.2
        · exact claim mine.2
      simp only [if_neg other]

/-- A fresh checkout, a reported failure and a failed release leave a tombstone with its
retry owner. -/
example :
    let resolved : Resolved := ⟨0, 0, ⟨some "model", none, none⟩, 0⟩
    let final := (Manager.start 60).run
      [.checkout "ctx" "codex" none none, .resume 0 (.resolved (.ok resolved) none),
        .resume 0 (.answered (.ok ())), .expireCurrent "ctx" 0 2,
        .settle 0 (.error (.backend 7))]
    final.table.get "ctx" = none ∧
      final.table.tombstone "ctx" = some ⟨0, 2, 1, .cleanupFailed "warm.cleanup.release_failed"⟩ ∧
      final.table.retry "ctx" = some ⟨0, ⟨"ctx", 0⟩⟩ := by
  decide +kernel

end A2aBridge.Sessions
