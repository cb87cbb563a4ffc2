import A2aBridge.StatefulRefusal
import A2aBridge.CustodyFrameTerms

/-!
The validating streaming decoder `CustodyFrameDecoderV1` and its bounded content
reader. The decoder and the reader it lends share one state and one source, so
both are computations on the pair. `ledger` is a ghost record of the admissions
and of the allocations that a declared length sizes; no function reads it.
-/

namespace A2aBridge.CustodyFrame

open ByteText ByteTransport LittleEndian StatefulRefusal

inductive DecoderPhaseV1 where
  | opened
  | complete
  | poisoned
  deriving DecidableEq

structure PendingContentV1 where
  remaining : Nat
  content : List UInt8
  deriving DecidableEq

inductive RecordKindV1 where
  | directory
  | regular
  | symlink
  deriving DecidableEq

/-- A decoded record, before a regular file's content is read. -/
inductive RecordV1 where
  | directory (path : CustodyFramePathV1) (mode : UInt32)
  | regular (path : CustodyFramePathV1) (mode : UInt32) (length : Nat)
  | symlink (path : CustodyFramePathV1) (target : List UInt8)
  deriving DecidableEq

inductive LedgerEvent where
  | admitted (size : Nat)
  | allocated (size : Nat)
  deriving DecidableEq

structure DecoderStateV1 where
  budget : CustodyFrameBudgetV1
  recordLimit : Nat
  admitted : Nat
  frame : List UInt8
  order : CanonicalOrderV1
  entries : Nat
  contentBytes : Nat
  pending : Option PendingContentV1
  phase : DecoderPhaseV1
  ledger : List LedgerEvent
  deriving DecidableEq

structure CustodyFrameDecoderV1 where
  source : Source IoErrorKind
  state : DecoderStateV1
  deriving DecidableEq

abbrev DecoderM (Value : Type) := EStateM CustodyFrameErrorV1 CustodyFrameDecoderV1 Value

namespace CustodyFrameDecoderV1

def check (outcome : FrameResult Value) : DecoderM Value := fun decoder =>
  match outcome with
  | .ok value => .ok value decoder
  | .error refusal => .error refusal decoder

def require (condition : Bool) (refusal : CustodyFrameErrorV1) : DecoderM Unit :=
  if condition then pure () else throw refusal

def modifyState (change : DecoderStateV1 → DecoderStateV1) : DecoderM Unit := fun decoder =>
  .ok () { decoder with state := change decoder.state }

def getState : DecoderM DecoderStateV1 := fun decoder => .ok decoder.state decoder

def admitSize (size : Nat) : DecoderM Unit := fun decoder =>
  match checkedAdd decoder.state.admitted size with
  | none => .error .byteBudget decoder
  | some reached =>
    if reached > decoder.state.recordLimit then .error .byteBudget decoder
    else .ok () { decoder with state :=
      { decoder.state with
        admitted := reached
        ledger := decoder.state.ledger ++ [.admitted size] } }

/-- `vec![0; size]`: no effect but the ghost record. -/
def allocate (size : Nat) : DecoderM Unit :=
  modifyState fun state => { state with ledger := state.ledger ++ [.allocated size] }

/-- `read_exactly` on the decoder's source. -/
def fill (want : Nat) : DecoderM (List UInt8) := fun decoder =>
  match readExactly decoder.source want with
  | (.error refusal, source) => .error refusal { decoder with source }
  | (.ok bytes, source) => .ok bytes { decoder with source }

def readFrameBytes (want : Nat) : DecoderM (List UInt8) := do
  let bytes ← fill want
  modifyState fun state => { state with frame := state.frame ++ bytes }
  pure bytes

def readUint (width : Nat) : DecoderM Nat := do
  let bytes ← readFrameBytes width
  pure (leNat bytes)

def readU8 : DecoderM UInt8 := do
  let value ← readUint 1
  pure (UInt8.ofNat value)

def readU16 : DecoderM Nat := readUint 2

def readU64 : DecoderM Nat := readUint 8

/-- One `read_some` into a buffer of `capacity` bytes. -/
def readOnce (capacity : Nat) : DecoderM (List UInt8) := fun decoder =>
  match readSome decoder.source capacity with
  | (.error refusal, source) => .error refusal { decoder with source }
  | (.ok chunk, source) => .ok chunk { decoder with source }

def readHeader (expected : CustodyFrameHeaderV1) : DecoderM Unit := do
  admitSize HEADER_FIXED_BYTES_V1
  let magic ← readFrameBytes 8
  require (magic = MAGIC_V1) .badMagic
  let version ← readU8
  require (version = VERSION_V1) .unsupportedVersion
  let code ← readU8
  let cls ← check (classFromCode code)
  require (cls = expected.cls) .classMismatch
  let length ← readU16
  require (generationLengthAdmitted length) .invalidGeneration
  admitSize length
  allocate length
  let generation ← readFrameBytes length
  let text ← check ((fromUtf8 generation).elim (.error .invalidGeneration) .ok)
  require (text = expected.generationId) .generationMismatch

def readPath : DecoderM CustodyFramePathV1 := do
  admitSize 2
  let length ← readU16
  require (pathLengthAdmitted length) .pathTooLong
  admitSize length
  allocate length
  let bytes ← readFrameBytes length
  check (CustodyFramePathV1.fromBytes bytes)

def admitOrder (path : CustodyFramePathV1) (isDirectory : Bool) : DecoderM Unit := do
  let state ← getState
  let outcome := state.order.admitPath path isDirectory
  modifyState fun state => { state with order := outcome.2 }
  check outcome.1

def recordKind (tag : UInt8) : Option RecordKindV1 :=
  if tag = TAG_DIRECTORY_V1 then some .directory
  else if tag = TAG_REGULAR_V1 then some .regular
  else if tag = TAG_SYMLINK_V1 then some .symlink
  else none

/-- The part of a record after its path. -/
def readBody (kind : RecordKindV1) (path : CustodyFramePathV1) : DecoderM RecordV1 :=
  match kind with
  | .directory => do
      admitSize 2
      let bits ← readU16
      let mode ← check (decodeMode bits)
      pure (.directory path mode)
  | .regular => do
      admitSize (2 + 8)
      let bits ← readU16
      let mode ← check (decodeMode bits)
      let length ← readU64
      -- The declared content and its digest are admitted before any content byte is read.
      let size ← check ((checkedAdd length DIGEST_BYTES_V1).elim (.error .byteBudget) .ok)
      admitSize size
      let state ← getState
      let contentBytes ← check ((checkedAdd state.contentBytes length).elim
        (.error .byteBudget) .ok)
      modifyState fun state => { state with contentBytes, pending := some ⟨length, []⟩ }
      pure (.regular path mode length)
  | .symlink => do
      admitSize 2
      let length ← readU16
      require (symlinkTargetLengthAdmitted length) .invalidSymlinkTarget
      admitSize length
      allocate length
      let target ← readFrameBytes length
      check (validateSymlinkTarget target)
      pure (.symlink path target)

/-- Content of the pending file, into a buffer of `capacity` bytes. -/
def readContentBytes (capacity : Nat) : DecoderM (List UInt8) := do
  let state ← getState
  match state.pending with
  | none => pure []
  | some pending =>
    let want := chunkLength pending.remaining capacity
    if want = 0 then pure []
    else do
      let chunk ← readOnce want
      if chunk = [] then throw .truncated
      else do
        modifyState fun state =>
          { state with
            frame := state.frame ++ chunk
            pending := some ⟨pending.remaining - chunk.length, pending.content ++ chunk⟩ }
        pure chunk

/-- What one content read does to the decoder, once the source has answered. -/
def afterChunk (decoder : CustodyFrameDecoderV1) (pending : PendingContentV1)
    (chunk : List UInt8) (source : Source IoErrorKind) : CustodyFrameDecoderV1 :=
  { source
    state := { decoder.state with
      frame := decoder.state.frame ++ chunk
      pending := some ⟨pending.remaining - chunk.length, pending.content ++ chunk⟩ } }

variable {capacity : Nat} {decoder : CustodyFrameDecoderV1}

theorem read_content_some {pending : PendingContentV1} (held : decoder.state.pending = some pending)
    (want : chunkLength pending.remaining capacity ≠ 0) :
    readContentBytes capacity decoder =
      match readSome decoder.source (chunkLength pending.remaining capacity) with
      | (.error refusal, source) => .error refusal { decoder with source }
      | (.ok [], source) => .error .truncated { decoder with source }
      | (.ok (byte :: rest), source) =>
        .ok (byte :: rest) (afterChunk decoder pending (byte :: rest) source) := by
  unfold readContentBytes
  have run : getState decoder = .ok decoder.state decoder := rfl
  rw [bind_of_ok run, held]
  simp only [if_neg want]
  cases answered : readSome decoder.source (chunkLength pending.remaining capacity) with
  | mk outcome source =>
    cases outcome with
    | error refusal =>
      have read : readOnce (chunkLength pending.remaining capacity) decoder =
          .error refusal { decoder with source } := by simp [readOnce, answered]
      rw [bind_of_error read]
    | ok chunk =>
      have read : readOnce (chunkLength pending.remaining capacity) decoder =
          .ok chunk { decoder with source } := by simp [readOnce, answered]
      rw [bind_of_ok read]
      cases chunk with
      | nil | cons => rfl

theorem read_content_idle (idle : ∀ pending, decoder.state.pending = some pending →
      chunkLength pending.remaining capacity = 0) :
    readContentBytes capacity decoder = .ok [] decoder := by
  unfold readContentBytes
  have run : getState decoder = .ok decoder.state decoder := rfl
  rw [bind_of_ok run]
  cases held : decoder.state.pending with
  | none => rfl
  | some pending =>
    simp only [if_pos (idle pending held)]
    rfl

variable (sha : Sha256)

def finishContent : DecoderM Unit := do
  let state ← getState
  match state.pending with
  | none => pure ()
  | some pending => do
      modifyState fun state => { state with pending := none }
      let stored ← readFrameBytes 32
      require (sha.digest pending.content = stored) .contentDigestMismatch

def unread (decoder : CustodyFrameDecoderV1) : Nat :=
  match decoder.state.pending with
  | none => 0
  | some pending => pending.remaining

theorem read_content_shrinks {after : CustodyFrameDecoderV1} {chunk : List UInt8}
    (room : 0 < capacity) (left : decoder.unread ≠ 0)
    (run : readContentBytes capacity decoder = .ok chunk after) :
    after.unread < decoder.unread := by
  cases held : decoder.state.pending with
  | none => exact (left (by simp [unread, held])).elim
  | some pending =>
    have remaining : decoder.unread = pending.remaining := by simp [unread, held]
    have want : chunkLength pending.remaining capacity ≠ 0 := by
      simp only [chunkLength]
      omega
    rw [read_content_some held want] at run
    split at run <;> cases run
    rw [remaining]
    simp only [unread, afterChunk, List.length_cons]
    omega

/-- The drain loop of `discard_content`. -/
def discardContent (decoder : CustodyFrameDecoderV1) :
    EStateM.Result CustodyFrameErrorV1 CustodyFrameDecoderV1 Unit :=
  if _left : decoder.unread = 0 then .ok () decoder
  else
    match _run : readContentBytes CONTENT_BUFFER_BYTES_V1 decoder with
    | .error refusal after => .error refusal after
    | .ok _ after => discardContent after
termination_by decoder.unread
decreasing_by exact read_content_shrinks (by decide) _left _run

def drainPending : DecoderM Unit := do
  discardContent
  finishContent sha

def readTrailer : DecoderM Unit := do
  let entries ← readU64
  let total ← readU64
  let state ← getState
  let frameDigest ← fill 32
  require (entries = state.entries) .countMismatch
  require (total = state.contentBytes) .totalMismatch
  require (frameDigest = sha.digest state.frame) .frameDigestMismatch
  let probe ← readOnce 1
  require (probe = []) .trailingBytes
  modifyState fun state => { state with phase := .complete }

/-- An entry record: the entry limit is checked once the tag is known. -/
def readEntry (kind : RecordKindV1) : DecoderM RecordV1 := do
  let state ← getState
  require (state.entries < state.budget.maxEntries) .entryLimit
  admitSize 1
  let path ← readPath
  admitOrder path (kind = .directory)
  let record ← readBody kind path
  modifyState fun state => { state with entries := wrappingAdd state.entries 1 }
  pure record

def nextRecord : DecoderM (Option RecordV1) := do
  drainPending sha
  let tag ← readU8
  if tag = TAG_TRAILER_V1 then do
    readTrailer sha
    pure none
  else
    match recordKind tag with
    | none => throw .unknownTag
    | some kind => do
        let record ← readEntry kind
        pure (some record)

def poison (decoder : CustodyFrameDecoderV1) : CustodyFrameDecoderV1 :=
  { decoder with state := { decoder.state with phase := .poisoned } }

def nextEntry : DecoderM (Option RecordV1) := fun decoder =>
  match decoder.state.phase with
  | .poisoned => .error .poisoned decoder
  | .complete => .ok none decoder
  | .opened =>
    match nextRecord sha decoder with
    | .ok record after => .ok record after
    | .error refusal after => .error refusal (poison after)

def readYieldedContent (capacity : Nat) : DecoderM (List UInt8) := do
  let chunk ← readContentBytes capacity
  let state ← getState
  -- The read that exhausts the content verifies it before returning.
  if state.pending.any (fun pending => pending.remaining == 0) then do
    finishContent sha
    pure chunk
  else pure chunk

def consumerRead (capacity : Nat) : DecoderM (List UInt8) := fun decoder =>
  if decoder.state.phase = .poisoned then .error .poisoned decoder
  else
    match readYieldedContent sha capacity decoder with
    | .ok chunk after => .ok chunk after
    | .error refusal after => .error refusal (poison after)

def initial (source : Source IoErrorKind) (budget : CustodyFrameBudgetV1) (recordLimit : Nat) :
    CustodyFrameDecoderV1 :=
  { source
    state :=
      { budget, recordLimit, admitted := 0, frame := [], order := .default, entries := 0
        contentBytes := 0, pending := none, phase := .opened, ledger := [] } }

def new (source : Source IoErrorKind) (expected : CustodyFrameHeaderV1)
    (budget : CustodyFrameBudgetV1) :
    EStateM.Result CustodyFrameErrorV1 CustodyFrameDecoderV1 Unit :=
  match budget.recordLimit with
  | .error refusal => .error refusal (initial source budget 0)
  | .ok recordLimit => readHeader expected (initial source budget recordLimit)

end CustodyFrameDecoderV1

/-- One public call: on the decoder, or on the content reader it lent last. -/
inductive DecoderCall where
  | nextEntry
  | read (capacity : Nat)
  deriving DecidableEq

inductive DecoderReply where
  | entry (record : RecordV1)
  | complete
  | content (chunk : List UInt8)
  | refused (refusal : CustodyFrameErrorV1)
  deriving DecidableEq

variable (sha : Sha256)

def DecoderCall.run (call : DecoderCall) (decoder : CustodyFrameDecoderV1) :
    DecoderReply × CustodyFrameDecoderV1 :=
  match call with
  | .nextEntry =>
    match CustodyFrameDecoderV1.nextEntry sha decoder with
    | .ok none after => (.complete, after)
    | .ok (some record) after => (.entry record, after)
    | .error refusal after => (.refused refusal, after)
  | .read capacity =>
    match CustodyFrameDecoderV1.consumerRead sha capacity decoder with
    | .ok chunk after => (.content chunk, after)
    | .error refusal after => (.refused refusal, after)

def runDecoderCalls : List DecoderCall → CustodyFrameDecoderV1 →
    List DecoderReply × CustodyFrameDecoderV1
  | [], decoder => ([], decoder)
  | call :: rest, decoder =>
    let first := call.run sha decoder
    let tail := runDecoderCalls rest first.2
    (first.1 :: tail.1, tail.2)

end A2aBridge.CustodyFrame
