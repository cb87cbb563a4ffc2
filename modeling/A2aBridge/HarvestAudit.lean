import A2aBridge.Harvest
import A2aBridge.PrefixCodes

/-!
Committing a harvested completion, with its audit records, of bridge-core/harvest.rs. The
JSON text that the provenance digest covers is a parameter, and so are the answers of the
audit store; what the store was asked to commit is part of the result.
-/

namespace A2aBridge.Harvest

open ByteText PrefixCodes

def HARVEST_SCHEMA_VERSION : Nat := 1

def SUSPICIOUS_THRESHOLD_PERCENT : Nat := 90

/-- The fields of a turn context that a harvest reads. -/
structure TurnContext where
  turnId : String
  sessionId : String
  taskId : Option String
  node : Option String
  attempt : Nat
  agent : String
  model : Option String
  effort : Option String
  promptId : Option String

inductive HarvestAuditStoreError where
  | persistence (cause : String)
  | integrityConflict (auditId : String)
  | encoding (detail : String)
  | lookup (cause : String)

inductive CompletionCommitError where
  | harvestAuditPersistFailed (auditId : String) (source : HarvestAuditStoreError)

structure HarvestRawRecordV1 where
  schemaVersion : Nat
  auditId : String
  taskId : String
  runId : String
  nodeId : String
  attemptId : Nat
  turnId : String
  backendId : String
  producerId : String
  declaredCapability : PrefixAttestationCapability
  rawBody : String
  rawLenBytes : Nat
  rawBodySha256 : List UInt8
  prefixAttestation : PrefixAttestationStatus
  provenanceSha256 : List UInt8

structure HarvestSanitizationDecisionV1 where
  schemaVersion : Nat
  auditId : String
  mode : HarvestSanitizationMode
  decision : HarvestDecision
  reason : Option String
  nodeId : String
  producerId : String
  issuerId : Option String
  rawBodySha256 : List UInt8
  effectiveBodySha256 : List UInt8
  rawLenBytes : Nat
  effectiveLenBytes : Nat
  cutByteOffset : Option Nat
  provenanceSha256 : List UInt8
  suspiciousThresholdPercent : Nat

structure CommittedHarvest where
  auditId : String
  effectiveBody : String
  decision : HarvestSanitizationDecisionV1

structure HarvestAuditStore where
  retainsAuditRecords : Bool
  commitBundle : HarvestRawRecordV1 → HarvestSanitizationDecisionV1 → Except HarvestAuditStoreError Unit

def hexLower (bytes : List UInt8) : String :=
  String.join (bytes.map fun byte =>
    (if byte < 16 then "0" else "") ++ String.ofList (Nat.toDigits 16 byte.toNat))

def lp (bytes : List UInt8) : Except HarvestAuditStoreError (List UInt8) :=
  if bytes.length < 2 ^ 32 then .ok (beBytes 4 bytes.length ++ bytes)
  else .error (.encoding "audit id component exceeds u32 length")

variable (sha : Sha256)

def auditIdFor (runId nodeId : String) (attemptId : Nat) (turnId : String) :
    Except HarvestAuditStoreError String := do
  let run ← lp (asBytes runId)
  let node ← lp (asBytes nodeId)
  let turn ← lp (asBytes turnId)
  return "apc1_" ++ hexLower (sha.digest
    (asBytes "APC-AUDIT-ID-V1" ++ run ++ node ++ beBytes 4 attemptId ++ turn))

variable (toVec : TurnContext → HarvestSanitizationMode → PrefixAttestationCapability → String →
    Except String (List UInt8))
  (context : TurnContext) (mode : HarvestSanitizationMode)
  (capability : PrefixAttestationCapability) (producerId : String)

def provenanceSha256 : Except HarvestAuditStoreError (List UInt8) :=
  match toVec context mode capability producerId with
  | .error detail => .error (.encoding detail)
  | .ok bytes => .ok (sha.digest bytes)

variable (origin : CompletionBodyOrigin) (rawBody : String) (status : PrefixAttestationStatus)

def commitHarvestedCompletion (store : HarvestAuditStore) :
    Except CompletionCommitError CommittedHarvest ×
      Option (HarvestRawRecordV1 × HarvestSanitizationDecisionV1) :=
  let nodeId := context.node.getD "direct"
  match auditIdFor sha context.sessionId nodeId context.attempt context.turnId with
  | .error source => (.error (.harvestAuditPersistFailed "apc1_encoding_failed" source), none)
  | .ok auditId =>
    let outcome := sanitizeHarvest sha mode origin capability producerId context.turnId rawBody status
    match provenanceSha256 sha toVec context mode capability producerId with
    | .error source => (.error (.harvestAuditPersistFailed auditId source), none)
    | .ok provenanceSha256 =>
      let decision : HarvestSanitizationDecisionV1 :=
        { schemaVersion := HARVEST_SCHEMA_VERSION
          auditId, mode, nodeId, producerId, provenanceSha256
          decision := outcome.decision
          reason := outcome.reason
          issuerId := outcome.issuerId
          rawBodySha256 := sha.digest (asBytes rawBody)
          effectiveBodySha256 := sha.digest (asBytes outcome.effectiveBody)
          rawLenBytes := (asBytes rawBody).length
          effectiveLenBytes := (asBytes outcome.effectiveBody).length
          cutByteOffset := outcome.cutByteOffset
          suspiciousThresholdPercent := SUSPICIOUS_THRESHOLD_PERCENT }
      if mode = .off ∧ store.retainsAuditRecords = false then
        (.ok ⟨auditId, outcome.effectiveBody, decision⟩, none)
      else
        let raw : HarvestRawRecordV1 :=
          { schemaVersion := HARVEST_SCHEMA_VERSION
            auditId, nodeId, producerId, rawBody, provenanceSha256
            taskId := context.taskId.getD context.sessionId
            runId := context.sessionId
            attemptId := context.attempt
            turnId := context.turnId
            backendId := context.agent
            declaredCapability := capability
            rawLenBytes := (asBytes rawBody).length
            rawBodySha256 := sha.digest (asBytes rawBody)
            prefixAttestation := outcome.status }
        match store.commitBundle raw decision with
        | .error source =>
          (.error (.harvestAuditPersistFailed auditId source), some (raw, decision))
        | .ok () => (.ok ⟨auditId, outcome.effectiveBody, decision⟩, some (raw, decision))

/-- The turns whose text may be cut, with the offset of the cut. -/
def CutsAt (turnId : String) (offset : Nat) : Prop :=
  mode = .attestedPrefixV1 ∧ origin = .modelText ∧ ∃ attested, status = .attestedV1 attested ∧
    Admitted sha capability producerId turnId rawBody attested offset ∧ 0 < offset ∧
    offset * 100 ≤ 90 * (asBytes rawBody).length

theorem sanitize_cut_or_kept (turnId : String) :
    let outcome := sanitizeHarvest sha mode origin capability producerId turnId rawBody status
    let Cuts := CutsAt sha mode capability producerId origin rawBody status turnId
    (∃ offset, Cuts offset ∧ outcome.effectiveBody = sliceFrom rawBody offset ∧
      outcome.decision = .cutAttested ∧ outcome.cutByteOffset = some offset) ∨
    ((¬ ∃ offset, Cuts offset) ∧ outcome.effectiveBody = rawBody ∧ outcome.decision ≠ .cutAttested) := by
  simp only [sanitizeHarvest, CutsAt]
  cases mode with
  | off => exact .inr ⟨nofun, rfl, nofun⟩
  | attestedPrefixV1 =>
    cases origin with
    | modelText =>
      cases status with
      | attestedV1 attested =>
        rw [if_neg nofun]
        dsimp only [CompletionBodyOrigin.syntheticReason, validateAttested]
        cases checked : validateOffset sha capability producerId turnId rawBody attested with
        | error reason =>
          refine .inr ⟨?_, rfl, nofun⟩
          rintro ⟨offset, _, _, _, ⟨⟩, admitted, _⟩
          rw [(validate_offset_iff ..).mpr admitted] at checked
          cases checked
        | ok offset =>
          have admitted := (validate_offset_iff ..).mp checked
          dsimp only
          split_ifs with suspicious zero
          · refine .inr ⟨?_, rfl, nofun⟩
            rintro ⟨other, _, _, _, ⟨⟩, again, _, bounded⟩
            have same := again.read.symm.trans admitted.read
            omega
          · refine .inr ⟨?_, rfl, nofun⟩
            rintro ⟨other, _, _, _, ⟨⟩, again, positive, _⟩
            have same := again.read.symm.trans admitted.read
            omega
          · exact .inl ⟨offset, ⟨rfl, rfl, attested, rfl, admitted, by omega, by omega⟩, rfl, rfl,
              congrArg some admitted.read⟩
      | _ => exact .inr ⟨nofun, rfl, nofun⟩
    | _ => exact .inr ⟨nofun, rfl, nofun⟩

/-- A harvest removes text exactly from the turns that may be cut: there the effective body is
what follows the attested prefix, and everywhere else the raw body. What is committed names
that decision and that body, and a commit without a record has the mode off and a store that
retains none. -/
theorem harvest_cut_exact (store : HarvestAuditStore) :
    let outcome := sanitizeHarvest sha mode origin capability producerId context.turnId rawBody status
    let Cuts := CutsAt sha mode capability producerId origin rawBody status context.turnId
    ((∃ offset, Cuts offset ∧ offset < (asBytes rawBody).length ∧
        isCharBoundary (asBytes rawBody) offset = true ∧
        asBytes outcome.effectiveBody = (asBytes rawBody).drop offset ∧
        outcome.effectiveBody ≠ rawBody ∧
        outcome.decision = .cutAttested ∧ outcome.cutByteOffset = some offset) ∨
      ((¬ ∃ offset, Cuts offset) ∧ outcome.effectiveBody = rawBody ∧ outcome.decision ≠ .cutAttested)) ∧
    ∀ committed bundle,
      commitHarvestedCompletion sha toVec context mode capability producerId origin rawBody status store =
        (.ok committed, bundle) →
      committed.effectiveBody = outcome.effectiveBody ∧
      committed.decision.decision = outcome.decision ∧
      committed.decision.cutByteOffset = outcome.cutByteOffset ∧
      committed.decision.effectiveBodySha256 = sha.digest (asBytes outcome.effectiveBody) ∧
      committed.decision.effectiveLenBytes = (asBytes outcome.effectiveBody).length ∧
      (bundle = none ∧ mode = .off ∧ store.retainsAuditRecords = false ∨
        ∃ raw, bundle = some (raw, committed.decision) ∧ raw.rawBody = rawBody ∧
          store.commitBundle raw committed.decision = .ok ()) := by
  intro outcome Cuts
  constructor
  · rcases sanitize_cut_or_kept sha mode capability producerId origin rawBody status context.turnId with
      ⟨offset, cuts, body, named⟩ | kept
    · have ⟨_, _, attested, _, admitted, positive, _⟩ := cuts
      have dropped : asBytes outcome.effectiveBody = (asBytes rawBody).drop offset := by
        rw [body, slice_from_boundary rawBody (Nat.le_of_lt admitted.inside) admitted.boundary]
      have shorter : outcome.effectiveBody ≠ rawBody := by
        intro same
        have lengths := congrArg List.length dropped
        rw [same, List.length_drop] at lengths
        have inside := admitted.inside
        omega
      exact .inl ⟨offset, cuts, admitted.inside, admitted.boundary, dropped, shorter, named⟩
    · exact .inr kept
  · intro committed bundle done
    unfold commitHarvestedCompletion at done
    simp only at done
    split at done
    · cases done
    split at done
    · cases done
    split_ifs at done with unkept
    · cases done
      exact ⟨rfl, rfl, rfl, rfl, rfl, .inl ⟨rfl, unkept⟩⟩
    · split at done
      · cases done
      · rename_i accepted
        cases done
        exact ⟨rfl, rfl, rfl, rfl, rfl, .inr ⟨_, rfl, rfl, accepted⟩⟩

/-- An attestation that matches in every field is not followed when its offset is inside a
character. -/
theorem split_character_kept :
    let sha : Sha256 := ⟨fun _ => List.replicate 32 0, fun _ => rfl⟩
    let attested : AttestedPrefixV1 :=
      ⟨ATTESTED_PREFIX_ISSUER_V1, "codex", "turn", 3, sha.digest (asBytes "éa"), 1⟩
    (asBytes "éa").length = 3 ∧ 1 * 100 ≤ 90 * 3 ∧
      PrefixAttestationCapability.codexCommitMarkerV1.isSupportedV1 = true ∧
      (sanitizeHarvest sha .attestedPrefixV1 .modelText .codexCommitMarkerV1 "codex" "turn" "éa"
        (.attestedV1 attested)).effectiveBody = "éa" := by
  decide +kernel

end A2aBridge.Harvest
