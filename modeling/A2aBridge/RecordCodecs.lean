import A2aBridge.CleanTexts
import A2aBridge.FlightJournalFile
import A2aBridge.FlightPrograms
import A2aBridge.NodeTerminals

/-!
The canonical encodings of the durable node records in bridge-core/execution_policy.rs (the node
terminal, the primary record and the cleanup record), which redact the free text of a cause.
-/

namespace A2aBridge.Records

open ByteText
open Workflow (NodeCause NodeTerminal NodePrimaryDisposition EXECUTION_POLICY_SCHEMA_V1
  MAX_NODE_TERMINAL_JSON_BYTES)
open Flights (ResourceFlightId RecoveryOwner CollateralDisposition)

/-! ### The records -/

structure NodePrimaryRecord where
  schemaVersion : Nat
  primary : NodePrimaryDisposition
  cause : Option NodeCause
  promptMayHaveBeenAccepted : Bool
  degradedAncestry : Bool
  policyTriggerId : Option String
  deriving DecidableEq

inductive WorktreePreservationDisposition where
  | pending
  | preserved
  | removed
  | notNeeded
  | unknown
  deriving DecidableEq

structure WorktreePreservationResult where
  disposition : WorktreePreservationDisposition
  custodyId : Option String
  claimDigest : Option String
  deriving DecidableEq

structure CollateralResult where
  disposition : CollateralDisposition
  affectedOwnerCount : Nat
  deriving DecidableEq

inductive NodeCleanupV2 where
  | pending (resourceFlightId : ResourceFlightId)
  | complete (durationMs : Nat)
  | partially (durationMs : Nat) (recoveryOwner : RecoveryOwner)
  | failed (durationMs : Nat) (cause : NodeCause)
  | notNeeded
  | unknown (durationMs : Nat) (recoveryOwner : Option RecoveryOwner)
  deriving DecidableEq

structure NodeCleanupRecord where
  schemaVersion : Nat
  cleanup : NodeCleanupV2
  preservation : WorktreePreservationResult
  collateral : Option CollateralResult
  deriving DecidableEq

/-- `ResourceFlightIdV1::parse` takes the text. -/
def parsesFlightId (value : String) : Bool :=
  let suffix := value.toList.drop 16
  "resource-flight-".toList.isPrefixOf value.toList && (asBytes value).length = 80 &&
    !(suffix.all fun c => c = '0') &&
    suffix.all fun c => ('0' ≤ c && c ≤ '9') || ('a' ≤ c && c ≤ 'f')

def NodeCleanupRecord.validateCoherence (record : NodeCleanupRecord) : Bool :=
  match record.cleanup, record.preservation.disposition, record.collateral with
  | .pending _, .pending, none => true
  | .notNeeded, .removed, none | .notNeeded, .notNeeded, none | .notNeeded, .unknown, none => true
  | .pending _, _, _ | .notNeeded, _, _ => false
  | _, .pending, _ => false
  | _, _, some collateral => (collateral.disposition == .none) == (collateral.affectedOwnerCount == 0)
  | _, _, none => true

/-- The checks of `normalize`. -/
def NodeCleanupRecord.valid (record : NodeCleanupRecord) : Bool :=
  record.schemaVersion = 2 && record.validateCoherence &&
    match record.cleanup with
    | .pending id => parsesFlightId id.value
    | .partially _ owner | .unknown _ (some owner) => parsesFlightId owner.resourceFlightId.value
    | .complete _ | .failed _ _ | .notNeeded | .unknown _ none => true

def NodeCleanupV2.updateCause (f : NodeCause → NodeCause) : NodeCleanupV2 → NodeCleanupV2
  | failed durationMs cause => failed durationMs (f cause)
  | other => other

/-! ### Encoding and decoding -/

inductive ExecutionPolicyError where
  | invalidStructuredEvidence
  | structuredEvidenceOverBound
  deriving DecidableEq

/-- The derived part of serde on a record: what a field's own `Deserialize` refuses is left to
`reason` below. -/
structure Json (α : Type) where
  toVec : α → List UInt8
  fromSlice : List UInt8 → Option α
  exact : ∀ value, fromSlice (toVec value) = some value

/-- What the encoders of the records differ in: the bound, the checks, where the cause is and the
recovery reason, and whether the dependencies are dropped from a record that is still too long. -/
structure RecordKind (α : Type) where
  maxBytes : Nat
  valid : α → Bool
  cause : α → Option NodeCause
  reason : α → Option String
  update : (NodeCause → NodeCause) → α → α
  drops : Bool
  valid_update : ∀ f value, valid (update f value) = valid value
  reason_update : ∀ f value, reason (update f value) = reason value
  cause_update : ∀ f value, cause (update f value) = (cause value).map f
  update_same : ∀ f value, (∀ c ∈ cause value, f c = c) → update f value = value

variable (home : Option String) (cause : NodeCause)

def normalizeBoundedCause : NodeCause :=
  let deepest := cause.deepestCause.map fun text =>
    String.ofList (sanitizeText home text.toList 512)
  { cause with
    deepestCause := deepest
    causeTruncated := cause.causeTruncated || deepest != cause.deepestCause }

def markTruncated : NodeCause := { cause with causeTruncated := true }

def dropDependencies : NodeCause :=
  { cause with evidenceOverflow := true, dependencySet := none }

namespace RecordKind

variable {α : Type} (kind : RecordKind α) (home : Option String) (json : Json α)

def setDeepest (deepest : Option String) : α → α :=
  kind.update fun cause => { cause with deepestCause := deepest }

/-- The shortening loop on a record that is too long and whose deepest cause is this text: one
leading character less each time, and no text after the empty one. -/
def shortenFrom (value : α) : List Char → α
  | [] => kind.setDeepest none value
  | _ :: rest =>
    let shorter := kind.setDeepest (some (String.ofList rest)) value
    if (json.toVec shorter).length ≤ kind.maxBytes then shorter else shortenFrom shorter rest

variable (value : α)

def shorten : Option α :=
  ((kind.cause value).bind NodeCause.deepestCause).map fun text =>
    kind.shortenFrom json value text.toList

def bounded : Except ExecutionPolicyError (List UInt8) :=
  if (json.toVec value).length ≤ kind.maxBytes then .ok (json.toVec value)
  else .error .structuredEvidenceOverBound

/-- The second loop, after the dependencies are dropped, and the check behind it. -/
def encodeDropped : Except ExecutionPolicyError (List UInt8) :=
  match kind.bounded json value with
  | .ok encoded => .ok encoded
  | .error _ => kind.bounded json ((kind.shorten json value).getD value)

/-- The record is still too long after the first loop. -/
def encodeOverflow : Except ExecutionPolicyError (List UInt8) :=
  if kind.drops then kind.encodeDropped json (kind.update dropDependencies value)
  else .error .structuredEvidenceOverBound

/-- The first loop, for a record that is too long. Where it takes no round the text in hand is
still the one without the mark. -/
def encodeTruncated : Except ExecutionPolicyError (List UInt8) :=
  match kind.shorten json value with
  | none => kind.encodeOverflow json value
  | some shorter =>
    match kind.bounded json shorter with
    | .ok encoded => .ok encoded
    | .error _ => kind.encodeOverflow json shorter

/-- What `normalize` leaves of a record is written. -/
def encodeNormalized : Except ExecutionPolicyError (List UInt8) :=
  match kind.bounded json value with
  | .ok encoded => .ok encoded
  | .error _ => kind.encodeTruncated json (kind.update markTruncated value)

def encodeCanonical : Except ExecutionPolicyError (List UInt8) :=
  if kind.valid value then
    kind.encodeNormalized json (kind.update (normalizeBoundedCause home) value)
  else .error .invalidStructuredEvidence

/-- `from_slice`, with the recovery reason's own `Deserialize`. -/
def fromSlice (bytes : List UInt8) : Option α :=
  (json.fromSlice bytes).filter fun value =>
    (kind.reason value).all (BoundedRecoveryReason.reads home)

def decodeCanonical (bytes : List UInt8) : Except ExecutionPolicyError α :=
  if bytes.length ≤ kind.maxBytes then
    match kind.fromSlice home json bytes with
    | none => .error .invalidStructuredEvidence
    | some value =>
      match kind.encodeCanonical home json value with
      | .ok encoded => if encoded = bytes then .ok value else .error .invalidStructuredEvidence
      | .error error => .error error
  else .error .structuredEvidenceOverBound

end RecordKind

def nodeTerminalV1 : RecordKind NodeTerminal where
  maxBytes := MAX_NODE_TERMINAL_JSON_BYTES
  valid value := value.schemaVersion = EXECUTION_POLICY_SCHEMA_V1
  cause := NodeTerminal.cause
  reason _ := none
  update f value := { value with cause := value.cause.map f }
  drops := true
  valid_update _ _ := rfl
  reason_update _ _ := rfl
  cause_update _ _ := rfl
  update_same f value same := by
    obtain ⟨_, _, _, cause, _, _, _⟩ := value
    cases cause with
    | none => rfl
    | some cause => simp [same cause rfl]

def nodePrimaryRecordV3 : RecordKind NodePrimaryRecord where
  maxBytes := 1536
  valid value := value.schemaVersion = 3
  cause := NodePrimaryRecord.cause
  reason _ := none
  update f value := { value with cause := value.cause.map f }
  drops := false
  valid_update _ _ := rfl
  reason_update _ _ := rfl
  cause_update _ _ := rfl
  update_same f value same := by
    obtain ⟨_, _, cause, _, _, _⟩ := value
    cases cause with
    | none => rfl
    | some cause => simp [same cause rfl]

def nodeCleanupRecordV2 : RecordKind NodeCleanupRecord where
  maxBytes := 2048
  valid := NodeCleanupRecord.valid
  cause value :=
    match value.cleanup with
    | .failed _ cause => some cause
    | _ => none
  reason value :=
    match value.cleanup with
    | .partially _ owner | .unknown _ (some owner) => some owner.reason
    | _ => none
  update f value := { value with cleanup := value.cleanup.updateCause f }
  drops := true
  valid_update f value := by
    obtain ⟨schema, cleanup, ⟨disposition, _, _⟩, collateral⟩ := value
    cases cleanup with
    | failed => cases disposition <;> cases collateral <;> rfl
    | _ => rfl
  reason_update f value := by
    obtain ⟨schema, cleanup, preservation, collateral⟩ := value
    cases cleanup <;> rfl
  cause_update f value := by
    obtain ⟨schema, cleanup, preservation, collateral⟩ := value
    cases cleanup <;> rfl
  update_same f value same := by
    obtain ⟨schema, cleanup, preservation, collateral⟩ := value
    cases cleanup with
    | failed durationMs cause => simp [NodeCleanupV2.updateCause, same cause rfl]
    | _ => rfl

/-! ### Reading back what was written -/

namespace RecordKind

variable {α : Type} (kind : RecordKind α) (home : Option String) (json : Json α) (value : α)

def text : Option String := (kind.cause value).bind NodeCause.deepestCause

/-- The text of the cause is clean, and reading takes the recovery reason. -/
def Readable : Prop :=
  (∀ text ∈ kind.text value, Clean home text.toList) ∧
    (kind.reason value).all (BoundedRecoveryReason.reads home) = true

/-- The record without some of the dependencies, the start of the text or all of it. -/
structure Shortened (value written : α) : Prop where
  valid : kind.valid written = kind.valid value
  reason : kind.reason written = kind.reason value
  text : ∀ part ∈ kind.text written, ∃ whole ∈ kind.text value, part.toList <:+ whole.toList

variable {kind home json value} {bytes : List UInt8} {written shorter : α}

theorem Shortened.refl : kind.Shortened value value :=
  ⟨rfl, rfl, fun part member => ⟨part, member, List.suffix_refl _⟩⟩

theorem Shortened.trans (first : kind.Shortened value shorter)
    (second : kind.Shortened shorter written) : kind.Shortened value written where
  valid := second.valid.trans first.valid
  reason := second.reason.trans first.reason
  text := by
    intro part member
    obtain ⟨middle, between, inner⟩ := second.text part member
    obtain ⟨whole, outer, prefixed⟩ := first.text middle between
    exact ⟨whole, outer, inner.trans prefixed⟩

theorem text_update {f : NodeCause → NodeCause} {part : String} :
    part ∈ kind.text (kind.update f value) ↔
      ∃ cause ∈ kind.cause value, (f cause).deepestCause = some part := by
  simp [text, kind.cause_update, Option.bind_eq_some_iff]

theorem update_shortened {f : NodeCause → NodeCause}
    (parts : ∀ cause ∈ kind.cause value, ∀ part ∈ (f cause).deepestCause,
      ∃ whole ∈ cause.deepestCause, part.toList <:+ whole.toList) :
    kind.Shortened value (kind.update f value) where
  valid := kind.valid_update f value
  reason := kind.reason_update f value
  text := by
    intro part member
    obtain ⟨cause, isCause, deepest⟩ := text_update.mp member
    obtain ⟨whole, isWhole, suffix⟩ := parts cause isCause part deepest
    exact ⟨whole, Option.mem_bind_iff.mpr ⟨cause, isCause, isWhole⟩, suffix⟩

theorem kept_shortened (f : NodeCause → NodeCause)
    (kept : ∀ cause, (f cause).deepestCause = cause.deepestCause) :
    kind.Shortened value (kind.update f value) :=
  update_shortened fun cause _ part member => ⟨part, kept cause ▸ member, List.suffix_refl _⟩

theorem shorten_from_shortened (text : List Char)
    (found : ∀ cause ∈ kind.cause value, cause.deepestCause = some (String.ofList text)) :
    kind.Shortened value (kind.shortenFrom json value text) := by
  induction text generalizing value with
  | nil => exact update_shortened fun _ _ _ => nofun
  | cons c rest ih =>
    have first : kind.Shortened value (kind.setDeepest (some (String.ofList rest)) value) := by
      refine update_shortened fun cause isCause part member => ⟨_, found cause isCause, ?_⟩
      cases member
      simp
    rw [shortenFrom]
    split
    · exact first
    · refine first.trans (ih fun cause isCause => ?_)
      rw [setDeepest, kind.cause_update] at isCause
      obtain ⟨original, -, rfl⟩ := Option.map_eq_some_iff.mp isCause
      rfl

theorem shorten_shortened (found : kind.shorten json value = some shorter) :
    kind.Shortened value shorter := by
  obtain ⟨text, isText, rfl⟩ := Option.map_eq_some_iff.mp found
  obtain ⟨cause, isCause, deepest⟩ := Option.bind_eq_some_iff.mp isText
  apply shorten_from_shortened
  rintro other isOther
  cases isCause.symm.trans isOther
  rw [deepest, String.ofList_toList]

theorem bounded_ok_iff :
    kind.bounded json value = .ok bytes ↔
      json.toVec value = bytes ∧ bytes.length ≤ kind.maxBytes := by
  unfold bounded
  split
  · simp only [Except.ok.injEq]
    constructor
    · rintro rfl
      exact ⟨rfl, ‹_›⟩
    · exact And.left
  · simp only [reduceCtorEq, false_iff, not_and]
    rintro rfl
    assumption

/-- What is written is within the bound, and is the text of the record or of a shortened one. -/
def Writes (kind : RecordKind α) (json : Json α) (value : α) (bytes : List UInt8) : Prop :=
  bytes.length ≤ kind.maxBytes ∧
    ∃ written, kind.Shortened value written ∧ json.toVec written = bytes

theorem writes_bounded (encoded : kind.bounded json value = .ok bytes) :
    Writes kind json value bytes := by
  obtain ⟨text, short⟩ := bounded_ok_iff.mp encoded
  exact ⟨short, value, .refl, text⟩

theorem Writes.shortened (writes : Writes kind json shorter bytes)
    (shortened : kind.Shortened value shorter) : Writes kind json value bytes := by
  obtain ⟨short, written, onward, text⟩ := writes
  exact ⟨short, written, shortened.trans onward, text⟩

theorem writes_dropped (encoded : kind.encodeDropped json value = .ok bytes) :
    Writes kind json value bytes := by
  unfold encodeDropped at encoded
  split at encoded
  · cases encoded
    exact writes_bounded ‹_›
  · cases found : kind.shorten json value with
    | none =>
      rw [found] at encoded
      exact writes_bounded encoded
    | some shorter =>
      rw [found] at encoded
      exact (writes_bounded encoded).shortened (shorten_shortened found)

theorem writes_overflow (encoded : kind.encodeOverflow json value = .ok bytes) :
    Writes kind json value bytes := by
  unfold encodeOverflow at encoded
  split at encoded
  · exact (writes_dropped encoded).shortened (kept_shortened dropDependencies fun _ => rfl)
  · cases encoded

theorem writes_normalized (encoded : kind.encodeNormalized json value = .ok bytes) :
    Writes kind json value bytes := by
  unfold encodeNormalized at encoded
  split at encoded
  · cases encoded
    exact writes_bounded ‹_›
  · refine Writes.shortened ?_ (kept_shortened markTruncated fun _ => rfl)
    unfold encodeTruncated at encoded
    split at encoded
    · exact writes_overflow encoded
    · next shorter found =>
      refine Writes.shortened ?_ (shorten_shortened found)
      split at encoded
      · cases encoded
        exact writes_bounded ‹_›
      · exact writes_overflow encoded

theorem writes_canonical (encoded : kind.encodeCanonical home json value = .ok bytes) :
    kind.valid value = true ∧
      Writes kind json (kind.update (normalizeBoundedCause home) value) bytes := by
  unfold encodeCanonical at encoded
  split at encoded
  · exact ⟨‹_›, writes_normalized encoded⟩
  · cases encoded

theorem text_normalized {part : String} :
    part ∈ kind.text (kind.update (normalizeBoundedCause home) value) ↔
      ∃ text ∈ kind.text value, String.ofList (sanitizeText home text.toList 512) = part := by
  rw [text_update]
  constructor
  · rintro ⟨cause, isCause, deepest⟩
    obtain ⟨text, isText, redacted⟩ := Option.map_eq_some_iff.mp deepest
    exact ⟨text, Option.mem_bind_iff.mpr ⟨cause, isCause, isText⟩, redacted⟩
  · rintro ⟨text, isText, redacted⟩
    obtain ⟨cause, isCause, deepest⟩ := Option.mem_bind_iff.mp isText
    exact ⟨cause, isCause, Option.map_eq_some_iff.mpr ⟨text, deepest, redacted⟩⟩

theorem decoded_iff :
    kind.decodeCanonical home json bytes = .ok value ↔
      kind.fromSlice home json bytes = some value ∧
        kind.encodeCanonical home json value = .ok bytes := by
  unfold decodeCanonical
  constructor
  · intro decoded
    split at decoded
    · split at decoded
      · cases decoded
      · next found =>
        split at decoded
        · next encoded =>
          split at decoded
          · next same =>
            cases decoded
            exact ⟨found, same ▸ encoded⟩
          · cases decoded
        · cases decoded
    · cases decoded
  · rintro ⟨read, encoded⟩
    rw [if_pos (writes_canonical encoded).2.1, read]
    simp [encoded]

theorem Readable.encodes (readable : kind.Readable home written) (valid : kind.valid written = true)
    (fits : ∀ text ∈ kind.text written, (text.toList.map Char.utf8Size).sum ≤ 512)
    (short : (json.toVec written).length ≤ kind.maxBytes) :
    kind.encodeCanonical home json written = .ok (json.toVec written) := by
  have same : kind.update (normalizeBoundedCause home) written = written := by
    apply kind.update_same
    intro cause isCause
    obtain ⟨failureClass, code, deepest, causeTruncated, evidenceOverflow, dependencySet⟩ := cause
    cases deepest with
    | none => simp [normalizeBoundedCause]
    | some text =>
      have isText : text ∈ kind.text written := Option.mem_bind_iff.mpr ⟨_, isCause, rfl⟩
      have kept := (readable.1 text isText).sanitized 512
      rw [truncate_whole (fits text isText)] at kept
      simp [normalizeBoundedCause, kept]
  unfold encodeCanonical encodeNormalized
  rw [if_pos valid, same, bounded_ok_iff.mpr ⟨rfl, short⟩]

theorem from_slice_to_vec (read : kind.fromSlice home json (json.toVec written) = some value) :
    value = written ∧ (kind.reason written).all (BoundedRecoveryReason.reads home) = true := by
  rw [fromSlice, json.exact, Option.filter_eq_some_iff] at read
  obtain ⟨same, taken⟩ := read
  cases same
  exact ⟨rfl, taken⟩

variable (kind home json value)

/-- What holds of a record of one kind and of the byte strings its decoder accepts. -/
def RoundTrips : Prop :=
  (∀ bytes, kind.encodeCanonical home json value = .ok bytes → bytes.length ≤ kind.maxBytes ∧
    ∃ decoded, kind.decodeCanonical home json bytes = .ok decoded ∧
      kind.encodeCanonical home json decoded = .ok bytes) ∧
  ∀ bytes decoded, kind.decodeCanonical home json bytes = .ok decoded →
    kind.encodeCanonical home json decoded = .ok bytes

def WritesReadable : Prop :=
  ∀ written, kind.encodeCanonical home json value = .ok (json.toVec written) →
    kind.Readable home written

variable {kind home json value}

theorem WritesReadable.round_trips (readable : kind.WritesReadable home json value) :
    kind.RoundTrips home json value := by
  refine ⟨fun bytes encoded => ?_, fun bytes decoded accepted => (decoded_iff.mp accepted).2⟩
  obtain ⟨valid, short, written, shortened, rfl⟩ := writes_canonical encoded
  have reads := readable written encoded
  have fits : ∀ text ∈ kind.text written, (text.toList.map Char.utf8Size).sum ≤ 512 := by
    intro part member
    obtain ⟨whole, isWhole, suffix⟩ := shortened.text part member
    obtain ⟨text, -, rfl⟩ := text_normalized.mp isWhole
    rw [String.toList_ofList] at suffix
    obtain ⟨front, split⟩ := suffix
    have bound : ((sanitizeText home text.toList 512).map Char.utf8Size).sum ≤ 512 :=
      truncate_utf8_fits _ _
    rw [← split, List.map_append, List.sum_append] at bound
    omega
  have again := reads.encodes (shortened.valid.trans ((kind.valid_update _ _).trans valid))
    fits short
  refine ⟨short, written, decoded_iff.mpr ⟨?_, again⟩, again⟩
  rw [fromSlice, json.exact]
  exact Option.filter_eq_some_iff.mpr ⟨rfl, reads.2⟩

theorem RoundTrips.writes_readable (rooted : Rooted home)
    (trips : kind.RoundTrips home json value) :
    kind.WritesReadable home json value := by
  intro written encoded
  obtain ⟨-, decoded, accepted, -⟩ := trips.1 _ encoded
  obtain ⟨read, again⟩ := decoded_iff.mp accepted
  obtain ⟨rfl, taken⟩ := from_slice_to_vec read
  refine ⟨fun part member => ?_, taken⟩
  obtain ⟨-, -, same, shortened, text⟩ := writes_canonical again
  have inverse := congrArg json.fromSlice text
  rw [json.exact, json.exact, Option.some.injEq] at inverse
  subst inverse
  obtain ⟨whole, isWhole, suffix⟩ := shortened.text part member
  obtain ⟨original, isOriginal, rfl⟩ := text_normalized.mp isWhole
  cases Option.mem_unique member isOriginal
  rw [String.toList_ofList] at suffix
  exact Clean.of_sanitized rooted suffix.isInfix

end RecordKind

deriving instance Countable for Workflow.DiagnosticFailureClass, Workflow.DependencySetRef,
  NodeCause, NodePrimaryDisposition, NodePrimaryRecord

theorem json_exists {α : Type} [Countable α] {first second : α} (different : first ≠ second) :
    ∃ json : Json α, json.toVec first = [] ∧ json.toVec second = [0] := by
  classical
  obtain ⟨number, injective⟩ := exists_injective_nat α
  let encode : α → List UInt8 := fun value =>
    if value = first then [] else if value = second then [0] else 1 :: List.replicate (number value) 1
  have faithful : Function.Injective encode := by
    intro left right same
    simp only [encode] at same
    split_ifs at same
    all_goals simp_all [List.replicate_inj]
    exact injective same
  exact ⟨⟨encode, Function.partialInv encode, Function.partialInv_left faithful⟩, if_pos rfl,
    (if_neg different.symm).trans (if_pos rfl)⟩

def failedWith (text : List Char) (truncated : Bool) : NodePrimaryRecord where
  schemaVersion := 3
  primary := .failed
  cause := some ⟨.unknown, "bridge.frame_error", some (String.ofList text), truncated, false, none⟩
  promptMayHaveBeenAccepted := false
  degradedAncestry := false
  policyTriggerId := none

theorem failed_encodes {home : Option String} {json : Json NodePrimaryRecord}
    {text redacted : List Char} {truncated : Bool} {bytes : List UInt8}
    (sanitized : sanitizeText home text 512 = redacted) (changed : text ≠ redacted)
    (written : json.toVec (failedWith redacted true) = bytes) (short : bytes.length ≤ 1536) :
    nodePrimaryRecordV3.encodeCanonical home json (failedWith text truncated) = .ok bytes := by
  have normalized : nodePrimaryRecordV3.update (normalizeBoundedCause home)
      (failedWith text truncated) = failedWith redacted true := by
    simp [nodePrimaryRecordV3, failedWith, normalizeBoundedCause, sanitized, Ne.symm changed,
      String.ofList_inj]
  unfold RecordKind.encodeCanonical RecordKind.encodeNormalized
  rw [normalized, RecordKind.bounded_ok_iff.mpr ⟨written, short⟩]
  rfl

end A2aBridge.Records
