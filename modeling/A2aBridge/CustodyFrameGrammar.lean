import A2aBridge.CustodyFrameReads

/-!
What a frame is, apart from how it is streamed: the bytes of each record, the
admission of a whole record, and the frame of a header and an entry list. The
encoder and the decoder are both compared with this description.
-/

namespace A2aBridge.CustodyFrame

open ByteText ByteTransport LittleEndian

inductive FrameEntry where
  | directory (path : CustodyFramePathV1) (mode : UInt32)
  | regular (path : CustodyFramePathV1) (mode : UInt32) (content : List UInt8)
  | symlink (path : CustodyFramePathV1) (target : List UInt8)
  deriving DecidableEq

namespace RecordV1

def path : RecordV1 → CustodyFramePathV1
  | .directory path _ => path
  | .regular path _ _ => path
  | .symlink path _ => path

def isDirectory : RecordV1 → Bool
  | .directory _ _ => true
  | .regular _ _ _ => false
  | .symlink _ _ => false

def tag : RecordV1 → UInt8
  | .directory _ _ => TAG_DIRECTORY_V1
  | .regular _ _ _ => TAG_REGULAR_V1
  | .symlink _ _ => TAG_SYMLINK_V1

def fields : RecordV1 → List UInt8
  | .directory _ mode => leBytes 2 mode.toNat
  | .regular _ mode length => leBytes 2 mode.toNat ++ leBytes 8 length
  | .symlink _ target => leBytes 2 target.length ++ target

def contentLength : RecordV1 → Nat
  | .directory _ _ => 0
  | .regular _ _ length => length
  | .symlink _ _ => 0

/-- Content and digest follow the fields of a regular file only. -/
def bodyLength : RecordV1 → Nat
  | .directory _ _ => 0
  | .regular _ _ length => length + DIGEST_BYTES_V1
  | .symlink _ _ => 0

def WellFormed : RecordV1 → Prop
  | .directory _ mode => mode ≤ PERMISSION_BITS_V1
  | .regular _ mode _ => mode ≤ PERMISSION_BITS_V1
  | .symlink _ target => validateSymlinkTarget target = .ok ()

instance : (record : RecordV1) → Decidable record.WellFormed
  | .directory _ mode => inferInstanceAs (Decidable (mode ≤ PERMISSION_BITS_V1))
  | .regular _ mode _ => inferInstanceAs (Decidable (mode ≤ PERMISSION_BITS_V1))
  | .symlink _ target => inferInstanceAs (Decidable (validateSymlinkTarget target = .ok ()))

def head (record : RecordV1) : List UInt8 :=
  [record.tag] ++ leBytes 2 record.path.bytes.length ++ record.path.bytes ++ record.fields

def size (record : RecordV1) : Nat := record.head.length + record.bodyLength

end RecordV1

namespace FrameEntry

def record : FrameEntry → RecordV1
  | .directory path mode => .directory path mode
  | .regular path mode content => .regular path mode content.length
  | .symlink path target => .symlink path target

def content : FrameEntry → List UInt8
  | .directory _ _ => []
  | .regular _ _ content => content
  | .symlink _ _ => []

variable (sha : Sha256)

def body : FrameEntry → List UInt8
  | .directory _ _ => []
  | .regular _ _ content => content ++ sha.digest content
  | .symlink _ _ => []

theorem body_length (entry : FrameEntry) : (entry.body sha).length = entry.record.bodyLength := by
  cases entry with
  | directory | symlink => rfl
  | regular path mode content => simp [body, record, RecordV1.bodyLength, frame_digest_length]

end FrameEntry

/-- What was admitted so far: the order state, the counters and the bytes. -/
structure FrameLedger where
  order : CanonicalOrderV1
  entries : Nat
  contentBytes : Nat
  bytes : List UInt8

namespace FrameLedger

variable (sha : Sha256) (budget : CustodyFrameBudgetV1) (ledger : FrameLedger)

def absorb (bytes : List UInt8) : FrameLedger :=
  { ledger with bytes := ledger.bytes ++ bytes }

@[simp] theorem absorb_nil : ledger.absorb [] = ledger := by
  simp [absorb]

@[simp] theorem absorb_absorb (first second : List UInt8) :
    (ledger.absorb first).absorb second = ledger.absorb (first ++ second) := by
  simp [absorb]

/-- Bytes are left for the reserved trailer. -/
def Open : Prop :=
  ledger.bytes.length + TRAILER_BYTES_V1 ≤ budget.maxFrameBytes ∧
    ledger.entries ≤ budget.maxEntries ∧ ledger.contentBytes ≤ ledger.bytes.length

/-- A whole record is admitted before its first byte: order, fields, entry limit, size. -/
def admitRecord (record : RecordV1) : Option FrameLedger :=
  match ledger.order.admitPath record.path record.isDirectory with
  | (.error _, _) => none
  | (.ok (), order) =>
    if record.WellFormed ∧ ledger.entries < budget.maxEntries ∧
        ledger.bytes.length + record.size + TRAILER_BYTES_V1 ≤ budget.maxFrameBytes then
      some
        { order
          entries := ledger.entries + 1
          contentBytes := ledger.contentBytes + record.contentLength
          bytes := ledger.bytes ++ record.head }
    else none

theorem admit_record_iff (after : FrameLedger) (record : RecordV1) :
    admitRecord budget ledger record = some after ↔
      ∃ order, ledger.order.admitPath record.path record.isDirectory = (.ok (), order) ∧
        record.WellFormed ∧ ledger.entries < budget.maxEntries ∧
        ledger.bytes.length + record.size + TRAILER_BYTES_V1 ≤ budget.maxFrameBytes ∧
        after = ⟨order, ledger.entries + 1, ledger.contentBytes + record.contentLength,
          ledger.bytes ++ record.head⟩ := by
  unfold admitRecord
  cases outcome : ledger.order.admitPath record.path record.isDirectory with
  | mk verdict order =>
    cases verdict with
    | error refusal => simp
    | ok _ =>
      simp only [Prod.mk.injEq, true_and, exists_eq_left']
      split
      · rename_i admitted
        simp [admitted, eq_comm]
      · rename_i refused
        simp only [reduceCtorEq, false_iff]
        intro ⟨wellFormed, room, fits, _⟩
        exact refused ⟨wellFormed, room, fits⟩

def admitEntry (entry : FrameEntry) : Option FrameLedger :=
  (admitRecord budget ledger entry.record).map (fun after => after.absorb (entry.body sha))

def admitEntries (ledger : FrameLedger) : List FrameEntry → Option FrameLedger
  | [] => some ledger
  | entry :: rest => (admitEntry sha budget ledger entry).bind fun after => admitEntries after rest

variable {ledger after : FrameLedger}

theorem admit_record_open {record : RecordV1}
    (admitted : admitRecord budget ledger record = some after) (start : ledger.Open budget) :
    after.bytes.length + record.bodyLength + TRAILER_BYTES_V1 ≤ budget.maxFrameBytes ∧
      after.entries ≤ budget.maxEntries ∧
      after.contentBytes ≤ after.bytes.length + record.bodyLength := by
  obtain ⟨order, _, _, room, fits, rfl⟩ := (admit_record_iff budget ledger after record).mp admitted
  have content : record.contentLength ≤ record.bodyLength := by
    cases record <;> simp [RecordV1.contentLength, RecordV1.bodyLength]
  have before := start.2.2
  unfold RecordV1.size at fits
  simp only [List.length_append]
  omega

theorem admit_entry_open {entry : FrameEntry}
    (admitted : admitEntry sha budget ledger entry = some after) (start : ledger.Open budget) :
    after.Open budget := by
  obtain ⟨middle, record, rfl⟩ := Option.map_eq_some_iff.mp admitted
  have bounds := admit_record_open budget record start
  have body := entry.body_length sha
  refine ⟨?_, bounds.2.1, ?_⟩
  all_goals
    simp only [absorb, List.length_append]
    omega

end FrameLedger

variable (sha : Sha256)

def headerBytes (header : CustodyFrameHeaderV1) : List UInt8 :=
  MAGIC_V1 ++ [VERSION_V1] ++ [header.code] ++
    leBytes 2 (asBytes header.generationId).length ++ asBytes header.generationId

def headerLedger (header : CustodyFrameHeaderV1) : FrameLedger :=
  ⟨.default, 0, 0, headerBytes header⟩

def trailerCounts (ledger : FrameLedger) : List UInt8 :=
  [TAG_TRAILER_V1] ++ leBytes 8 ledger.entries ++ leBytes 8 ledger.contentBytes

def trailerBytes (ledger : FrameLedger) : List UInt8 :=
  trailerCounts ledger ++ sha.digest (ledger.bytes ++ trailerCounts ledger)

/-- The frame of a header and an entry list, and that the budget admits it. -/
def FrameOf (budget : CustodyFrameBudgetV1) (header : CustodyFrameHeaderV1)
    (entries : List FrameEntry) (bytes : List UInt8) : Prop :=
  (headerLedger header).Open budget ∧
    ∃ ledger, FrameLedger.admitEntries sha budget (headerLedger header) entries = some ledger ∧
      bytes = ledger.bytes ++ trailerBytes sha ledger

end A2aBridge.CustodyFrame
