import A2aBridge.ByteText
import Mathlib.Logic.Basic

/-!
Harvest sanitisation of bridge-core/harvest.rs over the attestation types of
bridge-core/attestation.rs. Lengths and offsets are `u64` values on the wire and naturals
here; `usize` has 64 bits. Persisting the audit record is not part of this module.
-/

namespace A2aBridge.Harvest

open ByteText

def ATTESTED_PREFIX_ISSUER_V1 : String := "bridge.acp.codex.commit-wrapper.v1"

inductive PrefixBoundaryScheme where
  | codexCommitMarkerV1
  deriving DecidableEq

inductive CapabilityUnavailableReason where
  | backendDeclaredIncapable
  | protocolDowngrade
  deriving DecidableEq

inductive PrefixAttestationCapability where
  | supportedV1 (issuerId : String) (boundaryScheme : PrefixBoundaryScheme)
  | unsupported (reason : CapabilityUnavailableReason)
  deriving DecidableEq

namespace PrefixAttestationCapability

def codexCommitMarkerV1 : PrefixAttestationCapability :=
  .supportedV1 ATTESTED_PREFIX_ISSUER_V1 .codexCommitMarkerV1

def isSupportedV1 : PrefixAttestationCapability → Bool
  | .supportedV1 issuerId .codexCommitMarkerV1 => issuerId == ATTESTED_PREFIX_ISSUER_V1
  | .unsupported _ => false

end PrefixAttestationCapability

inductive HarvestSanitizationMode where
  | off
  | attestedPrefixV1
  deriving DecidableEq

inductive NoAttestationReason where
  | backendDeclaredIncapable
  | protocolDowngrade
  | sanitizationNotRequested
  | turnMissingDeliverableBoundary
  | turnEndedWithoutDeliverable
  | multipleCommitMarkers
  | backendProtocolViolation
  | controlDrainTimeout
  | bridgeSyntheticStreamError
  | bridgeSyntheticMissingDone
  | bridgeSyntheticCancellation
  | bridgeSyntheticEmptyFinal
  | bridgeSyntheticTwinDeath
  | bridgeStopReasonWithoutText
  deriving DecidableEq

inductive InvalidAttestationReason where
  | unsupportedVersion
  | malformedMetadata
  | duplicateControlMetadata
  | backendCapabilityMismatch
  | untrustedIssuer
  | producerMismatch
  | turnMismatch
  | nonceMismatch
  | lengthMismatch
  | digestMismatch
  | offsetOverflow
  | offsetOutOfBounds
  | emptyDeliverable
  | offsetNotUtf8Boundary
  deriving DecidableEq

structure AttestedPrefixV1 where
  issuerId : String
  producerId : String
  turnId : String
  bodyLenBytes : Nat
  bodySha256 : List UInt8
  processPrefixBytes : Nat
  deriving DecidableEq

structure NoAttestationV1 where
  producerId : String
  turnId : String
  reason : NoAttestationReason
  deriving DecidableEq

structure RejectedAttestation where
  producerId : String
  turnId : String
  reason : InvalidAttestationReason
  deriving DecidableEq

inductive PrefixAttestationStatus where
  | attestedV1 (attested : AttestedPrefixV1)
  | unavailableV1 (no : NoAttestationV1)
  | rejected (rejected : RejectedAttestation)
  deriving DecidableEq

inductive CompletionBodyOrigin where
  | modelText
  | bridgeSyntheticStreamError
  | bridgeSyntheticMissingDone
  | bridgeSyntheticCancellation
  | bridgeSyntheticEmptyFinal
  | bridgeSyntheticTwinDeath
  | bridgeStopReasonWithoutText
  deriving DecidableEq

def CompletionBodyOrigin.syntheticReason : CompletionBodyOrigin → Option NoAttestationReason
  | .modelText => none
  | .bridgeSyntheticStreamError => some .bridgeSyntheticStreamError
  | .bridgeSyntheticMissingDone => some .bridgeSyntheticMissingDone
  | .bridgeSyntheticCancellation => some .bridgeSyntheticCancellation
  | .bridgeSyntheticEmptyFinal => some .bridgeSyntheticEmptyFinal
  | .bridgeSyntheticTwinDeath => some .bridgeSyntheticTwinDeath
  | .bridgeStopReasonWithoutText => some .bridgeStopReasonWithoutText

inductive HarvestDecision where
  | keptOff
  | keptNoAttestation
  | keptInvalidAttestation
  | keptSuspiciousAttestation
  | keptZeroPrefix
  | cutAttested
  deriving DecidableEq

structure SanitizationOutcome where
  effectiveBody : String
  status : PrefixAttestationStatus
  decision : HarvestDecision
  reason : Option String
  cutByteOffset : Option Nat
  issuerId : Option String
  deriving DecidableEq

def reasonForNoAttestation : NoAttestationReason → String
  | .backendDeclaredIncapable => "backend_declared_incapable"
  | .protocolDowngrade => "protocol_downgrade"
  | .sanitizationNotRequested => "sanitization_not_requested"
  | .turnMissingDeliverableBoundary => "turn_missing_deliverable_boundary"
  | .turnEndedWithoutDeliverable => "turn_ended_without_deliverable"
  | .multipleCommitMarkers => "multiple_commit_markers"
  | .backendProtocolViolation => "backend_protocol_violation"
  | .controlDrainTimeout => "control_drain_timeout"
  | .bridgeSyntheticStreamError => "bridge_synthetic_stream_error"
  | .bridgeSyntheticMissingDone => "bridge_synthetic_missing_done"
  | .bridgeSyntheticCancellation => "bridge_synthetic_cancellation"
  | .bridgeSyntheticEmptyFinal => "bridge_synthetic_empty_final"
  | .bridgeSyntheticTwinDeath => "bridge_synthetic_twin_death"
  | .bridgeStopReasonWithoutText => "bridge_stop_reason_without_text"

def reasonForInvalid : InvalidAttestationReason → String
  | .unsupportedVersion => "unsupported_version"
  | .malformedMetadata => "malformed_metadata"
  | .duplicateControlMetadata => "duplicate_control_metadata"
  | .backendCapabilityMismatch => "backend_capability_mismatch"
  | .untrustedIssuer => "untrusted_issuer"
  | .producerMismatch => "producer_mismatch"
  | .turnMismatch => "turn_mismatch"
  | .nonceMismatch => "nonce_mismatch"
  | .lengthMismatch => "length_mismatch"
  | .digestMismatch => "digest_mismatch"
  | .offsetOverflow => "offset_overflow"
  | .offsetOutOfBounds => "offset_out_of_bounds"
  | .emptyDeliverable => "empty_deliverable"
  | .offsetNotUtf8Boundary => "offset_not_utf8_boundary"

def invalidStatus (rawBody producerId turnId : String) (reason : InvalidAttestationReason) :
    SanitizationOutcome where
  effectiveBody := rawBody
  status := .rejected ⟨producerId, turnId, reason⟩
  decision := .keptInvalidAttestation
  reason := some (reasonForInvalid reason)
  cutByteOffset := none
  issuerId := none

/-- `usize::try_from` of a `u64`. -/
def usizeTryFrom (value : Nat) : Option Nat := if value < 2 ^ 64 then some value else none

variable (sha : Sha256) (capability : PrefixAttestationCapability) (expectedProducerId : String)

/-- The checks of `validate_attested` in order, up to the cut offset they admit. -/
def validateOffset (expectedTurnId rawBody : String) (attested : AttestedPrefixV1) :
    Except InvalidAttestationReason Nat :=
  if !capability.isSupportedV1 then .error .backendCapabilityMismatch
  else if attested.issuerId ≠ ATTESTED_PREFIX_ISSUER_V1 then .error .untrustedIssuer
  else if attested.producerId ≠ expectedProducerId then .error .producerMismatch
  else if attested.turnId ≠ expectedTurnId then .error .turnMismatch
  else if usizeTryFrom attested.bodyLenBytes ≠ some (asBytes rawBody).length then
    .error .lengthMismatch
  else if attested.bodySha256 ≠ sha.digest (asBytes rawBody) then .error .digestMismatch
  else
    match usizeTryFrom attested.processPrefixBytes with
    | none => .error .offsetOverflow
    | some offset =>
      if (asBytes rawBody).length < offset then .error .offsetOutOfBounds
      else if offset = (asBytes rawBody).length then .error .emptyDeliverable
      else if !isCharBoundary (asBytes rawBody) offset then .error .offsetNotUtf8Boundary
      else .ok offset

def validateAttested (expectedTurnId rawBody : String) (attested : AttestedPrefixV1) :
    SanitizationOutcome :=
  match validateOffset sha capability expectedProducerId expectedTurnId rawBody attested with
  | .error reason => invalidStatus rawBody expectedProducerId expectedTurnId reason
  | .ok offset =>
    if offset * 100 > (asBytes rawBody).length * 90 then
      { effectiveBody := rawBody
        status := .attestedV1 attested
        decision := .keptSuspiciousAttestation
        reason := some "process_prefix_exceeds_90_percent"
        cutByteOffset := none
        issuerId := some attested.issuerId }
    else if offset = 0 then
      { effectiveBody := rawBody
        status := .attestedV1 attested
        decision := .keptZeroPrefix
        reason := none
        cutByteOffset := some 0
        issuerId := some attested.issuerId }
    else
      { effectiveBody := sliceFrom rawBody offset
        status := .attestedV1 attested
        decision := .cutAttested
        reason := none
        cutByteOffset := some attested.processPrefixBytes
        issuerId := some attested.issuerId }

def sanitizeHarvest (mode : HarvestSanitizationMode) (origin : CompletionBodyOrigin)
    (capability : PrefixAttestationCapability) (expectedProducerId expectedTurnId rawBody : String)
    (status : PrefixAttestationStatus) : SanitizationOutcome :=
  if mode = .off then
    { effectiveBody := rawBody
      status := status
      decision := .keptOff
      reason := none
      cutByteOffset := none
      issuerId := none }
  else
    match origin.syntheticReason with
    | some reason =>
      { effectiveBody := rawBody
        status := .unavailableV1 ⟨expectedProducerId, expectedTurnId, reason⟩
        decision := .keptNoAttestation
        reason := some (reasonForNoAttestation reason)
        cutByteOffset := none
        issuerId := none }
    | none =>
      match status with
      | .unavailableV1 no =>
        { effectiveBody := rawBody
          status := .unavailableV1 no
          decision := .keptNoAttestation
          reason := some (reasonForNoAttestation no.reason)
          cutByteOffset := none
          issuerId := none }
      | .rejected rejected =>
        { effectiveBody := rawBody
          status := .rejected rejected
          decision := .keptInvalidAttestation
          reason := some (reasonForInvalid rejected.reason)
          cutByteOffset := none
          issuerId := none }
      | .attestedV1 attested =>
        validateAttested sha capability expectedProducerId expectedTurnId rawBody attested

/-- The attestations that `validate_attested` lets through, with the offset it reads. -/
structure Admitted (sha : Sha256) (capability : PrefixAttestationCapability)
    (expectedProducerId expectedTurnId rawBody : String) (attested : AttestedPrefixV1) (offset : Nat) :
    Prop where
  supported : capability.isSupportedV1 = true
  issuer : attested.issuerId = ATTESTED_PREFIX_ISSUER_V1
  producer : attested.producerId = expectedProducerId
  turn : attested.turnId = expectedTurnId
  length : attested.bodyLenBytes = (asBytes rawBody).length
  addressable : (asBytes rawBody).length < 2 ^ 64
  digest : attested.bodySha256 = sha.digest (asBytes rawBody)
  read : attested.processPrefixBytes = offset
  inside : offset < (asBytes rawBody).length
  boundary : isCharBoundary (asBytes rawBody) offset = true

theorem usize_try_from_iff {value size : Nat} :
    usizeTryFrom value = some size ↔ value = size ∧ size < 2 ^ 64 := by
  unfold usizeTryFrom
  by_cases fits : value < 2 ^ 64
  · rw [if_pos fits]
    constructor
    · intro same
      cases same
      exact ⟨rfl, fits⟩
    · intro same
      exact congrArg some same.1
  · rw [if_neg fits]
    constructor
    · nofun
    · intro same
      exact absurd (same.1 ▸ same.2) fits

theorem validate_offset_iff (expectedTurnId rawBody : String) (attested : AttestedPrefixV1)
    (offset : Nat) :
    validateOffset sha capability expectedProducerId expectedTurnId rawBody attested = .ok offset ↔
      Admitted sha capability expectedProducerId expectedTurnId rawBody attested offset := by
  constructor
  · intro accepted
    unfold validateOffset at accepted
    split_ifs at accepted with incapable issuer producer turn length digest
    obtain ⟨length, addressable⟩ := usize_try_from_iff.mp (not_not.mp length)
    cases reading : usizeTryFrom attested.processPrefixBytes with
    | none =>
      rw [reading] at accepted
      cases accepted
    | some value =>
      rw [reading] at accepted
      simp only at accepted
      split_ifs at accepted with beyond whole inner
      cases accepted
      exact ⟨by simpa using incapable, not_not.mp issuer, not_not.mp producer, not_not.mp turn,
        length, addressable, not_not.mp digest, (usize_try_from_iff.mp reading).1, by omega,
        by simpa using inner⟩
  · intro admitted
    have length : usizeTryFrom attested.bodyLenBytes = some (asBytes rawBody).length :=
      usize_try_from_iff.mpr ⟨admitted.length, admitted.addressable⟩
    have reading : usizeTryFrom attested.processPrefixBytes = some offset :=
      usize_try_from_iff.mpr ⟨admitted.read, Nat.lt_trans admitted.inside admitted.addressable⟩
    unfold validateOffset
    rw [if_neg (by simp [admitted.supported]), if_neg (not_not.mpr admitted.issuer),
      if_neg (not_not.mpr admitted.producer), if_neg (not_not.mpr admitted.turn),
      if_neg (not_not.mpr length), if_neg (not_not.mpr admitted.digest), reading]
    simp only
    rw [if_neg (Nat.lt_asymm admitted.inside), if_neg (Nat.ne_of_lt admitted.inside),
      if_neg (by simp [admitted.boundary])]

theorem admitted_body {sha : Sha256} {capability : PrefixAttestationCapability}
    {expectedProducerId expectedTurnId rawBody : String} {attested : AttestedPrefixV1} {offset : Nat}
    (admitted : Admitted sha capability expectedProducerId expectedTurnId rawBody attested offset) :
    (validateAttested sha capability expectedProducerId expectedTurnId rawBody attested).effectiveBody =
      if 0 < offset ∧ offset * 100 ≤ 90 * (asBytes rawBody).length then sliceFrom rawBody offset
      else rawBody := by
  unfold validateAttested
  rw [(validate_offset_iff ..).mpr admitted]
  simp only
  by_cases suspicious : offset * 100 > (asBytes rawBody).length * 90
  · rw [if_pos suspicious, if_neg (by omega)]
  · rw [if_neg suspicious]
    by_cases zero : offset = 0
    · rw [if_pos zero, if_neg (by omega)]
    · rw [if_neg zero, if_pos (by omega)]

end A2aBridge.Harvest
