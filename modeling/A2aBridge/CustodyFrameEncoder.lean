import A2aBridge.StatefulRefusal
import A2aBridge.CustodyFrameTerms

/-!
The validating streaming encoder `CustodyFrameEncoderV1`. A method with `&mut self`
is a computation on the encoder that keeps the state a refusal leaves behind; a
content reader is threaded through the one call that borrows it. The fixed content
buffer appears only through its length.
-/

namespace A2aBridge.CustodyFrame

open ByteText ByteTransport LittleEndian

/-- The write loop of `FrameSinkV1::emit`. -/
def writeAll (sink : Sink IoErrorKind) (bytes : List UInt8) :
    FrameResult Unit × Sink IoErrorKind :=
  if bytes = [] then (.ok (), sink)
  else
    match _answered : sink.write bytes with
    | (.wrote 0, rest) => (.error (.io .writeZero), rest)
    | (.wrote (count + 1), rest) =>
      if count + 1 ≤ bytes.length then writeAll rest (bytes.drop (count + 1))
      else (.error (.io .invalidData), rest)
    | (.interrupted, rest) => writeAll rest bytes
    | (.failed kind, rest) => (.error (.io kind), rest)
termination_by bytes.length + sink.answers.length
decreasing_by
  · have bound := write_answers_le sink bytes
    simp only [_answered] at bound
    simp only [List.length_drop]
    omega
  · have bound := write_interrupted_shrinks _answered
    omega

structure CustodyFrameFileReceiptV1 where
  length : Nat
  sha256 : List UInt8
  deriving DecidableEq

structure CustodyFrameSummaryV1 where
  entries : Nat
  contentBytes : Nat
  frameBytes : Nat
  frameSha256 : List UInt8
  deriving DecidableEq

/-- `out` is flattened: the sink, the frame digest context and the byte count. -/
structure CustodyFrameEncoderV1 where
  sink : Sink IoErrorKind
  frame : List UInt8
  frameBytes : Nat
  budget : CustodyFrameBudgetV1
  recordLimit : Nat
  order : CanonicalOrderV1
  entries : Nat
  contentBytes : Nat
  poisoned : Bool
  deriving DecidableEq

abbrev EncoderM (Value : Type) := EStateM CustodyFrameErrorV1 CustodyFrameEncoderV1 Value

namespace CustodyFrameEncoderV1

/-- A pure check inside a method: it refuses without touching the encoder. -/
def check (outcome : FrameResult Value) : EncoderM Value := fun encoder =>
  match outcome with
  | .ok value => .ok value encoder
  | .error refusal => .error refusal encoder

def emit (bytes : List UInt8) : EncoderM Unit := fun encoder =>
  match writeAll encoder.sink bytes with
  | (.error refusal, sink) => .error refusal { encoder with sink }
  | (.ok (), sink) =>
    match checkedAdd encoder.frameBytes bytes.length with
    | none => .error .byteBudget { encoder with sink, frame := encoder.frame ++ bytes }
    | some frameBytes => .ok () { encoder with sink, frame := encoder.frame ++ bytes, frameBytes }

def admitBytes (size : Nat) : EncoderM Unit := fun encoder =>
  match checkedAdd encoder.frameBytes size with
  | none => .error .byteBudget encoder
  | some reached =>
    if reached > encoder.recordLimit then .error .byteBudget encoder else .ok () encoder

def admitRecord (size : Nat) : EncoderM Unit := do
  let encoder ← get
  if encoder.entries ≥ encoder.budget.maxEntries then throw .entryLimit else admitBytes size

def admitOrder (path : CustodyFramePathV1) (isDirectory : Bool) : EncoderM Unit := fun encoder =>
  match encoder.order.admitPath path isDirectory with
  | (.error refusal, order) => .error refusal { encoder with order }
  | (.ok (), order) => .ok () { encoder with order }

def countEntry : EncoderM Unit := fun encoder =>
  .ok () { encoder with entries := wrappingAdd encoder.entries 1 }

def guarded (step : EncoderM Value) : EncoderM Value := fun encoder =>
  if encoder.poisoned then .error .poisoned encoder
  else
    match step encoder with
    | .ok value after => .ok value after
    | .error refusal after => .error refusal { after with poisoned := true }

variable (sha : Sha256)

/-- The streaming loop: `content` has absorbed what was streamed so far. -/
def streamLoop (remaining : Nat) (content : List UInt8) (reader : Source IoErrorKind) :
    EncoderM (List UInt8 × Source IoErrorKind) :=
  if remaining = 0 then pure (content, reader)
  else
    match readSome reader (chunkLength remaining CONTENT_BUFFER_BYTES_V1) with
    | (.error refusal, _) => throw refusal
    | (.ok [], _) => throw (.contentLengthMismatch .short)
    | (.ok (byte :: rest), reader) => do
        emit (byte :: rest)
        streamLoop (remaining - (byte :: rest).length) (content ++ byte :: rest) reader
termination_by remaining
decreasing_by simp; omega

def streamContent (declaredLength : Nat) (reader : Source IoErrorKind) :
    EncoderM (List UInt8) := do
  let (content, reader) ← streamLoop declaredLength [] reader
  match readSome reader 1 with
  | (.error refusal, _) => throw refusal
  | (.ok [], _) => pure (sha.digest content)
  | (.ok (_ :: _), _) => throw (.contentLengthMismatch .long)

variable (path : CustodyFramePathV1)

def directory (mode : UInt32) : EncoderM Unit := guarded do
  let mode ← check (encodeMode mode)
  admitOrder path true
  let head ← check (recordPrefix TAG_DIRECTORY_V1 path)
  let record := head ++ leBytes 2 mode
  admitRecord record.length
  emit record
  countEntry

def symlink (target : List UInt8) : EncoderM Unit := guarded do
  check (validateSymlinkTarget target)
  admitOrder path false
  let length ← check (if target.length < 2 ^ 16 then .ok target.length
    else .error .invalidSymlinkTarget)
  let head ← check (recordPrefix TAG_SYMLINK_V1 path)
  let record := head ++ leBytes 2 length ++ target
  admitRecord record.length
  emit record
  countEntry

def regularFile (mode : UInt32) (declaredLength : UInt64) (reader : Source IoErrorKind) :
    EncoderM CustodyFrameFileReceiptV1 := guarded do
  let mode ← check (encodeMode mode)
  admitOrder path false
  let head ← check (recordPrefix TAG_REGULAR_V1 path)
  let start := head ++ leBytes 2 mode ++ leBytes 8 declaredLength.toNat
  let size ← check ((checkedAdd (start.length + DIGEST_BYTES_V1) declaredLength.toNat).elim
    (.error .byteBudget) .ok)
  admitRecord size
  let encoder ← get
  let contentBytes ← check ((checkedAdd encoder.contentBytes declaredLength.toNat).elim
    (.error .byteBudget) .ok)
  emit start
  let sha256 ← streamContent sha declaredLength.toNat reader
  emit sha256
  countEntry
  modify fun encoder => { encoder with contentBytes }
  pure ⟨declaredLength.toNat, sha256⟩

def flush : EncoderM Unit := fun encoder =>
  match encoder.sink.flushFailure with
  | some kind => .error (.io kind) encoder
  | none => .ok () encoder

def finish : EncoderM CustodyFrameSummaryV1 := guarded do
  let encoder ← get
  emit ([TAG_TRAILER_V1] ++ leBytes 8 encoder.entries ++ leBytes 8 encoder.contentBytes)
  let encoder ← get
  emit (sha.digest encoder.frame)
  flush
  let encoder ← get
  pure ⟨encoder.entries, encoder.contentBytes, encoder.frameBytes, sha.digest encoder.frame⟩

/-- The encoder before its header; `record_limit` is filled in by `new`. -/
def unopened (sink : Sink IoErrorKind) (budget : CustodyFrameBudgetV1) : CustodyFrameEncoderV1 :=
  { sink, frame := [], frameBytes := 0, budget, recordLimit := 0, order := .default
    entries := 0, contentBytes := 0, poisoned := false }

def openHeader (header : CustodyFrameHeaderV1) : EncoderM Unit := do
  let encoder ← get
  let recordLimit ← check encoder.budget.recordLimit
  let headerBytes ← check header.encode
  modify fun encoder => { encoder with recordLimit }
  admitBytes headerBytes.length
  emit headerBytes

/-- `Self::new`. A refusal drops the encoder; its state still shows what the sink took. -/
def new (sink : Sink IoErrorKind) (header : CustodyFrameHeaderV1) (budget : CustodyFrameBudgetV1) :
    EStateM.Result CustodyFrameErrorV1 CustodyFrameEncoderV1 Unit :=
  openHeader header (unopened sink budget)

end CustodyFrameEncoderV1

inductive EncoderCall where
  | directory (path : CustodyFramePathV1) (mode : UInt32)
  | symlink (path : CustodyFramePathV1) (target : List UInt8)
  | regularFile (path : CustodyFramePathV1) (mode : UInt32) (declaredLength : UInt64)
      (reader : Source IoErrorKind)
  deriving DecidableEq

variable (sha : Sha256)

/-- The refusal of one call, if any, and the encoder after it. -/
def EncoderCall.run (call : EncoderCall) (encoder : CustodyFrameEncoderV1) :
    Option CustodyFrameErrorV1 × CustodyFrameEncoderV1 :=
  match call with
  | .directory path mode => refusalOf (CustodyFrameEncoderV1.directory path mode encoder)
  | .symlink path target => refusalOf (CustodyFrameEncoderV1.symlink path target encoder)
  | .regularFile path mode declaredLength reader =>
    refusalOf (CustodyFrameEncoderV1.regularFile sha path mode declaredLength reader encoder)
where
  refusalOf {Value : Type} :
      EStateM.Result CustodyFrameErrorV1 CustodyFrameEncoderV1 Value →
        Option CustodyFrameErrorV1 × CustodyFrameEncoderV1
    | .ok _ after => (none, after)
    | .error refusal after => (some refusal, after)

/-- A caller may go on after a refusal, so every call is made. -/
def runCalls : List EncoderCall → CustodyFrameEncoderV1 →
    List (Option CustodyFrameErrorV1) × CustodyFrameEncoderV1
  | [], encoder => ([], encoder)
  | call :: rest, encoder =>
    let first := call.run sha encoder
    let tail := runCalls rest first.2
    (first.1 :: tail.1, tail.2)

/-- A whole session: open, make every call, finish. What the sink took is returned
in every case. -/
def encodeFrame (sink : Sink IoErrorKind) (header : CustodyFrameHeaderV1)
    (budget : CustodyFrameBudgetV1) (calls : List EncoderCall) :
    FrameResult CustodyFrameSummaryV1 × Sink IoErrorKind :=
  match CustodyFrameEncoderV1.new sink header budget with
  | .error refusal encoder => (.error refusal, encoder.sink)
  | .ok _ encoder =>
    match CustodyFrameEncoderV1.finish sha (runCalls sha calls encoder).2 with
    | .error refusal last => (.error refusal, last.sink)
    | .ok summary last => (.ok summary, last.sink)

end A2aBridge.CustodyFrame
