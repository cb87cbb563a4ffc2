import A2aBridge.CustodyFrameSplits
import A2aBridge.CustodyFrameGrammar

/-!
What the decoder accepts, byte for byte. Over a source that answers in full, each
reading function has one equivalence: it succeeds with a value exactly when the next
bytes are that value's encoding and the budget admits them.
-/

namespace A2aBridge.CustodyFrame

open ByteText ByteTransport LittleEndian StatefulRefusal CustodyFrameDecoderV1 RecordV1

/-- Bytes were taken into the frame, and sizes were admitted. -/
def DecoderStateV1.took (state : DecoderStateV1) (used : List UInt8) (events : List LedgerEvent) :
    DecoderStateV1 :=
  { state with
    admitted := state.admitted + admittedTotal events
    frame := state.frame ++ used
    ledger := state.ledger ++ events }

def DecoderStateV1.Admits (state : DecoderStateV1) (size : Nat) : Prop :=
  state.admitted + size ≤ state.recordLimit ∧ state.admitted + size < 2 ^ 64

namespace DecoderStateV1

variable (state : DecoderStateV1) (used : List UInt8) (events : List LedgerEvent)

@[simp] theorem took_took (more : List UInt8) (later : List LedgerEvent) :
    (state.took used events).took more later = state.took (used ++ more) (events ++ later) := by
  simp [took, admitted_total_append, Nat.add_assoc]

theorem took_admits (size : Nat) :
    (state.took used events).Admits size ↔ state.Admits (admittedTotal events + size) := by
  simp [Admits, took, Nat.add_assoc]

variable {state} in
theorem Admits.less {size : Nat} (fits : state.Admits size) (less : smaller ≤ size) :
    state.Admits smaller := by
  obtain ⟨limit, word⟩ := fits
  exact ⟨by omega, by omega⟩

end DecoderStateV1

variable {bytes : List UInt8} {after : CustodyFrameDecoderV1} {value : Unit} {answer : Other}

section Fields

variable {state : DecoderStateV1}

variable {outcome : FrameResult Value} {want : Nat}

theorem check_ok_iff {value : Value} :
    check outcome (placed state bytes) = .ok value after ↔
      outcome = .ok value ∧ after = placed state bytes := by
  cases outcome with
  | error refusal => simp [check]
  | ok other => simp [check, eq_comm]

variable {condition : Bool} {refusal : CustodyFrameErrorV1}

theorem require_ok_iff :
    require condition refusal (placed state bytes) = .ok value after ↔
      condition = true ∧ after = placed state bytes := by
  cases condition with
  | false =>
    simp only [require, Bool.false_eq_true, ↓reduceIte, false_and, iff_false]
    intro refused
    cases refused
  | true =>
    simp only [require, ↓reduceIte, true_and]
    constructor
    · rintro ⟨⟩
      rfl
    · rintro rfl
      rfl

variable {change : DecoderStateV1 → DecoderStateV1}

theorem modify_ok_iff :
    modifyState change (placed state bytes) = .ok value after ↔
      after = placed (change state) bytes := by
  simp [modifyState, placed, eq_comm]

theorem pure_ok_iff {value other : Value} :
    (pure value : DecoderM Value) (placed state bytes) = .ok other after ↔
      other = value ∧ after = placed state bytes := by
  constructor
  · rintro ⟨⟩
    exact ⟨rfl, rfl⟩
  · rintro ⟨rfl, rfl⟩
    rfl

variable {size : Nat}

theorem admit_size_ok_iff :
    admitSize size (placed state bytes) = .ok value after ↔
      state.Admits size ∧ after = placed (state.took [] [.admitted size]) bytes := by
  have same : (placed state bytes).state = state := rfl
  unfold admitSize checkedAdd DecoderStateV1.Admits
  rw [same]
  by_cases fits : state.admitted + size < 2 ^ 64
  · rw [if_pos fits]
    by_cases above : state.admitted + size > state.recordLimit
    · simp only [if_pos above]
      constructor
      · rintro ⟨⟩
      · omega
    · simp only [if_neg above]
      constructor
      · rintro ⟨⟩
        exact ⟨⟨Nat.le_of_not_lt above, fits⟩, by simp [placed, DecoderStateV1.took, admittedTotal]⟩
      · rintro ⟨_, rfl⟩
        simp [placed, DecoderStateV1.took, admittedTotal]
  · rw [if_neg fits]
    constructor
    · rintro ⟨⟩
    · rintro ⟨⟨_, word⟩, _⟩
      exact (fits word).elim

/-! What a step of a reading function takes, with what follows it. -/

theorem check_bind {next : Value → DecoderM Other} :
    (check outcome >>= next) (placed state bytes) = .ok answer after ↔
      ∃ value, outcome = .ok value ∧ next value (placed state bytes) = .ok answer after := by
  simp [bind_ok_iff, check_ok_iff, and_assoc]

theorem get_state_bind {next : DecoderStateV1 → DecoderM Other} :
    (getState >>= next) (placed state bytes) = .ok answer after ↔
      next state (placed state bytes) = .ok answer after :=
  Iff.rfl

section

variable {next : Unit → DecoderM Other}

theorem require_bind :
    (require condition refusal >>= next) (placed state bytes) = .ok answer after ↔
      condition = true ∧ next () (placed state bytes) = .ok answer after := by
  simp [bind_ok_iff, require_ok_iff, and_assoc, Unique.exists_iff]

theorem modify_state_bind :
    (modifyState change >>= next) (placed state bytes) = .ok answer after ↔
      next () (placed (change state) bytes) = .ok answer after :=
  Iff.rfl

theorem admit_bind :
    (admitSize size >>= next) (placed state bytes) = .ok answer after ↔
      state.Admits size ∧
        next () (placed (state.took [] [.admitted size]) bytes) = .ok answer after := by
  simp [bind_ok_iff, admit_size_ok_iff, and_assoc, Unique.exists_iff]

end

variable {next : List UInt8 → DecoderM Other}

theorem fill_bind :
    (fill want >>= next) (placed state bytes) = .ok answer after ↔
      ∃ value rest, bytes = value ++ rest ∧ value.length = want ∧
        next value (placed state rest) = .ok answer after := by
  by_cases enough : want ≤ bytes.length
  · have run : fill want (placed state bytes) =
        .ok (bytes.take want) (placed state (bytes.drop want)) := by
      unfold fill placed
      rw [read_exactly_full _ _ enough]
    rw [bind_of_ok run]
    constructor
    · intro went
      exact ⟨_, _, (List.take_append_drop want bytes).symm, by simp; omega, went⟩
    · rintro ⟨value, rest, rfl, rfl, went⟩
      simpa using went
  · obtain ⟨rest, short⟩ :=
      (read_exactly_splitting ⟨bytes, []⟩ want (splitting_nil _)).2 (Nat.lt_of_not_le enough)
    have run : fill want (placed state bytes) = .error .truncated ⟨rest, state⟩ := by
      unfold fill placed
      rw [short]
    rw [bind_of_error run]
    constructor
    · rintro ⟨⟩
    · rintro ⟨value, rest, rfl, rfl, _⟩
      simp at enough

theorem bytes_bind :
    (readFrameBytes want >>= next) (placed state bytes) = .ok answer after ↔
      ∃ value rest, bytes = value ++ rest ∧ value.length = want ∧
        next value (placed (state.took value []) rest) = .ok answer after := by
  unfold readFrameBytes
  simp only [bind_assoc, fill_bind, modify_state_bind, pure_bind]
  simp [DecoderStateV1.took, admittedTotal]

theorem uint_bind {width : Nat} {next : Nat → DecoderM Other} :
    (readUint width >>= next) (placed state bytes) = .ok answer after ↔
      ∃ value rest, bytes = leBytes width value ++ rest ∧ value < 256 ^ width ∧
        next value (placed (state.took (leBytes width value) []) rest) = .ok answer after := by
  unfold readUint
  simp only [bind_assoc, bytes_bind, pure_bind]
  constructor
  · rintro ⟨taken, rest, rfl, rfl, went⟩
    refine ⟨leNat taken, rest, ?_, le_nat_lt taken, ?_⟩
    · rw [le_bytes_nat]
    · rwa [le_bytes_nat]
  · rintro ⟨value, rest, rfl, small, went⟩
    refine ⟨leBytes width value, rest, rfl, by simp, ?_⟩
    rwa [le_nat_bytes width value small]

theorem u8_bind {next : UInt8 → DecoderM Other} :
    (readU8 >>= next) (placed state bytes) = .ok answer after ↔
      ∃ value rest, bytes = value :: rest ∧
        next value (placed (state.took [value] []) rest) = .ok answer after := by
  unfold readU8
  simp only [bind_assoc, uint_bind, pure_bind]
  constructor
  · rintro ⟨number, rest, rfl, small, went⟩
    exact ⟨UInt8.ofNat number, rest, rfl, went⟩
  · rintro ⟨value, rest, rfl, went⟩
    have bytes : leBytes 1 value.toNat = [value] := by simp [leBytes]
    refine ⟨value.toNat, rest, by rw [bytes]; rfl, value.toNat_lt, ?_⟩
    rw [bytes, UInt8.ofNat_toNat]
    exact went

theorem probe_bind :
    (readOnce 1 >>= next) (placed state bytes) = .ok answer after ↔
      next (bytes.take 1) (placed state (bytes.drop 1)) = .ok answer after := by
  have run : readOnce 1 (placed state bytes) = .ok (bytes.take 1) (placed state (bytes.drop 1)) := by
    unfold readOnce placed
    rw [read_some_full]
  rw [bind_of_ok run]

end Fields

def pathBytes (path : CustodyFramePathV1) : List UInt8 := leBytes 2 path.bytes.length ++ path.bytes

/-- A declared length is admitted, then it sizes a buffer. -/
def reserveEvents (size : Nat) : List LedgerEvent := [.admitted size, .allocated size]

def pathEvents (path : CustodyFramePathV1) : List LedgerEvent :=
  .admitted 2 :: reserveEvents path.bytes.length

namespace RecordV1

def kind : RecordV1 → RecordKindV1
  | .directory _ _ => .directory
  | .regular _ _ _ => .regular
  | .symlink _ _ => .symlink

def bodyEvents : RecordV1 → List LedgerEvent
  | .directory _ _ => [.admitted 2]
  | .regular _ _ length => [.admitted (2 + 8), .admitted (length + DIGEST_BYTES_V1)]
  | .symlink _ target => .admitted 2 :: reserveEvents target.length

def pending : RecordV1 → Option PendingContentV1
  | .directory _ _ => none
  | .regular _ _ length => some ⟨length, []⟩
  | .symlink _ _ => none

variable (record : RecordV1)

theorem body_events_total :
    admittedTotal record.bodyEvents = record.fields.length + record.bodyLength := by
  cases record with
  | directory path mode => simp [bodyEvents, fields, bodyLength, admittedTotal]
  | regular path mode length =>
    simp [bodyEvents, fields, bodyLength, admittedTotal]
  | symlink path target => simp [bodyEvents, reserveEvents, fields, bodyLength, admittedTotal]

theorem size_eq :
    record.size = 1 + ((2 + record.path.bytes.length) + (record.fields.length + record.bodyLength)) := by
  simp only [size, head, List.length_append, List.length_singleton, le_bytes_length]
  omega

/-- The decoder's state once the record's body was accepted. -/
def readInto (state : DecoderStateV1) : DecoderStateV1 :=
  { state.took record.fields record.bodyEvents with
    contentBytes := state.contentBytes + record.contentLength
    pending := record.pending }

theorem read_into_idle {record : RecordV1} {state : DecoderStateV1} (bodiless : record.kind ≠ .regular)
    (idle : state.pending = none) :
    record.readInto state = state.took record.fields record.bodyEvents := by
  cases record with
  | directory | symlink => simp [readInto, DecoderStateV1.took, contentLength, pending, idle]
  | regular path mode length => exact (bodiless rfl).elim

end RecordV1

section Records

variable {state : DecoderStateV1}

theorem mode_fits {mode : UInt32} (low : mode ≤ PERMISSION_BITS_V1) : mode.toNat < 2 ^ 16 :=
  Nat.lt_of_le_of_lt (UInt32.le_iff_toNat_le.mp low) (by decide)

variable {path : CustodyFramePathV1} {record : RecordV1}

open DecoderStateV1 (took_admits took_took)

theorem read_path_ok_iff :
    readPath (placed state bytes) = .ok path after ↔
      ∃ rest, bytes = pathBytes path ++ rest ∧ state.Admits (2 + path.bytes.length) ∧
        after = placed (state.took (pathBytes path) (pathEvents path)) rest := by
  unfold readPath readU16 allocate
  simp only [admit_bind, uint_bind, require_bind, modify_state_bind, bytes_bind, check_ok_iff,
    CustodyFramePathV1.from_bytes_iff, took_admits, took_took]
  constructor
  · rintro ⟨_, _, _, rfl, _, _, fits, _, rest, rfl, rfl, rfl, rfl⟩
    refine ⟨rest, by simp [pathBytes], fits, ?_⟩
    simp [DecoderStateV1.took, pathBytes, pathEvents, reserveEvents, admittedTotal]
  · rintro ⟨rest, rfl, fits, rfl⟩
    have short := path.length_le
    refine ⟨fits.less (by omega), path.bytes.length, path.bytes ++ rest, by simp [pathBytes],
      by omega, path.length_admitted, fits, path.bytes, rest, rfl, rfl, rfl, ?_⟩
    simp [DecoderStateV1.took, pathBytes, pathEvents, reserveEvents, admittedTotal]

theorem path_bind {next : CustodyFramePathV1 → DecoderM Other} :
    (readPath >>= next) (placed state bytes) = .ok answer after ↔
      ∃ path rest, bytes = pathBytes path ++ rest ∧ state.Admits (2 + path.bytes.length) ∧
        next path (placed (state.took (pathBytes path) (pathEvents path)) rest) =
          .ok answer after := by
  simp only [bind_ok_iff, read_path_ok_iff]
  constructor
  · rintro ⟨path, _, ⟨rest, split, fits, rfl⟩, went⟩
    exact ⟨path, rest, split, fits, went⟩
  · rintro ⟨path, rest, split, fits, went⟩
    exact ⟨path, _, ⟨rest, split, fits, rfl⟩, went⟩

theorem admit_order_bind {isDirectory : Bool} {next : Unit → DecoderM Other} :
    (admitOrder path isDirectory >>= next) (placed state bytes) = .ok answer after ↔
      ∃ order, state.order.admitPath path isDirectory = (.ok (), order) ∧
        next () (placed { state with order } bytes) = .ok answer after := by
  unfold admitOrder
  simp only [bind_assoc, get_state_bind, modify_state_bind, check_bind]
  constructor
  · rintro ⟨_, passed, went⟩
    exact ⟨_, Prod.ext passed rfl, went⟩
  · rintro ⟨order, passed, went⟩
    rw [passed]
    exact ⟨(), rfl, went⟩

/-- The decoder has read the body of this record. -/
def BodyRead (kind : RecordKindV1) (path : CustodyFramePathV1) (state : DecoderStateV1)
    (bytes : List UInt8) (record : RecordV1) (after : CustodyFrameDecoderV1) : Prop :=
  ∃ rest, record.path = path ∧ record.kind = kind ∧ record.WellFormed ∧
    bytes = record.fields ++ rest ∧ state.Admits (record.fields.length + record.bodyLength) ∧
    after = placed (record.readInto state) rest

theorem directory_body_ok_iff (idle : state.pending = none) :
    readBody .directory path (placed state bytes) = .ok record after ↔
      BodyRead .directory path state bytes record after := by
  unfold readBody readU16
  simp only [admit_bind, uint_bind, check_bind, pure_ok_iff]
  constructor
  · rintro ⟨fits, bits, rest, rfl, small, mode, decoded, rfl, rfl⟩
    obtain ⟨low, rfl⟩ := (decode_mode_iff bits mode small).mp decoded
    refine ⟨rest, rfl, rfl, low, rfl, by simpa [fields, bodyLength] using fits, ?_⟩
    rw [read_into_idle (by simp [RecordV1.kind]) idle, took_took]
    rfl
  · rintro ⟨rest, rfl, kind, low, rfl, fits, rfl⟩
    cases record with
    | regular | symlink => cases kind
    | directory path mode =>
      have small : mode.toNat < 2 ^ 16 := mode_fits low
      refine ⟨by simpa [fields, bodyLength] using fits, mode.toNat, rest, rfl, small,
        mode, (decode_mode_iff _ _ small).mpr ⟨low, rfl⟩, rfl, ?_⟩
      rw [read_into_idle (by simp [RecordV1.kind]) idle, took_took]
      rfl

theorem symlink_body_ok_iff (idle : state.pending = none) :
    readBody .symlink path (placed state bytes) = .ok record after ↔
      BodyRead .symlink path state bytes record after := by
  unfold readBody readU16 allocate
  simp only [admit_bind, uint_bind, require_bind, modify_state_bind, bytes_bind, check_bind,
    pure_ok_iff, took_admits, took_took]
  constructor
  · rintro ⟨_, _, _, rfl, _, _, fits, target, rest, rfl, rfl, _, valid, rfl, rfl⟩
    refine ⟨rest, rfl, rfl, valid, by simp [fields], ?_, ?_⟩
    · simpa [admittedTotal, fields, bodyLength] using fits
    · rw [read_into_idle (by simp [RecordV1.kind]) idle]
      simp [DecoderStateV1.took, fields, bodyEvents, reserveEvents, admittedTotal]
  · rintro ⟨rest, rfl, kind, valid, rfl, fits, rfl⟩
    cases record with
    | directory | regular => cases kind
    | symlink path target =>
      have short := symlink_target_short target valid
      have both : state.Admits (2 + target.length) := by
        simpa [fields, bodyLength] using fits
      refine ⟨both.less (by omega), target.length, target ++ rest, by simp [fields], by omega,
        ?_, both, target, rest, rfl, rfl, (), valid, rfl, ?_⟩
      · simp only [symlinkTargetLengthAdmitted, Bool.and_eq_true, decide_eq_true_eq]
        exact short
      · rw [read_into_idle (by simp [RecordV1.kind]) idle]
        simp [DecoderStateV1.took, fields, bodyEvents, reserveEvents, admittedTotal]

/-- The content counter cannot overflow: the declared content was admitted just before. -/
theorem regular_body_ok_iff (counted : state.contentBytes ≤ state.admitted) :
    readBody .regular path (placed state bytes) = .ok record after ↔
      BodyRead .regular path state bytes record after := by
  unfold readBody readU16 readU64
  simp only [admit_bind, uint_bind, check_bind, get_state_bind, modify_state_bind, pure_ok_iff,
    checked_add_ok_iff, took_admits, took_took]
  constructor
  · rintro ⟨_, bits, _, rfl, small, mode, decoded, length, rest, rfl, _, _, ⟨_, rfl⟩, fits, _,
      ⟨_, rfl⟩, rfl, rfl⟩
    obtain ⟨low, rfl⟩ := (decode_mode_iff bits mode small).mp decoded
    refine ⟨rest, rfl, rfl, low, by simp [fields], ?_, ?_⟩
    · simpa [admittedTotal, fields, bodyLength] using fits
    · simp [readInto, DecoderStateV1.took, fields, bodyEvents,
        contentLength, pending, admittedTotal]
  · rintro ⟨rest, rfl, kind, low, rfl, fits, rfl⟩
    cases record with
    | directory | symlink => cases kind
    | regular path mode length =>
      have small : mode.toNat < 2 ^ 16 := mode_fits low
      have both : state.Admits (10 + (length + DIGEST_BYTES_V1)) := by
        simpa [fields, bodyLength] using fits
      have word := both.2
      refine ⟨both.less (by omega), mode.toNat, leBytes 8 length ++ rest, by simp [fields],
        small, mode, (decode_mode_iff _ _ small).mpr ⟨low, rfl⟩, length, rest, rfl, by omega,
        length + DIGEST_BYTES_V1, ⟨by omega, rfl⟩, both, state.contentBytes + length, ⟨?_, rfl⟩,
        rfl, ?_⟩
      · simp only [DecoderStateV1.took]
        omega
      · simp [readInto, DecoderStateV1.took, fields, bodyEvents,
          contentLength, pending, admittedTotal]

variable {kind : RecordKindV1}

theorem read_body_ok_iff (idle : state.pending = none)
    (counted : state.contentBytes ≤ state.admitted) :
    readBody kind path (placed state bytes) = .ok record after ↔
      BodyRead kind path state bytes record after := by
  cases kind with
  | directory => exact directory_body_ok_iff idle
  | regular => exact regular_body_ok_iff counted
  | symlink => exact symlink_body_ok_iff idle

/-- The decoder's state once the whole record was accepted, the tag apart. -/
def RecordV1.enterInto (record : RecordV1) (order : CanonicalOrderV1) (state : DecoderStateV1) :
    DecoderStateV1 :=
  { state.took (pathBytes record.path ++ record.fields)
      (.admitted 1 :: pathEvents record.path ++ record.bodyEvents) with
    order
    entries := state.entries + 1
    contentBytes := state.contentBytes + record.contentLength
    pending := record.pending }

theorem directory_kind : decide (record.kind = .directory) = record.isDirectory := by
  cases record <;> rfl

theorem count_exactly (budget : CustodyFrameBudgetV1) {entries : Nat}
    (room : entries < budget.maxEntries) : wrappingAdd entries 1 = entries + 1 := by
  have ceiling := budget.entries_ceiling
  unfold MAX_ENTRIES_V1 at ceiling
  unfold wrappingAdd
  omega

theorem read_entry_ok_iff (idle : state.pending = none)
    (counted : state.contentBytes ≤ state.admitted) :
    readEntry kind (placed state bytes) = .ok record after ↔
      ∃ order rest, record.kind = kind ∧ state.entries < state.budget.maxEntries ∧
        state.order.admitPath record.path record.isDirectory = (.ok (), order) ∧ record.WellFormed ∧
        bytes = pathBytes record.path ++ record.fields ++ rest ∧ state.Admits record.size ∧
        after = placed (record.enterInto order state) rest := by
  unfold readEntry
  simp only [get_state_bind, require_bind, admit_bind, path_bind, admit_order_bind,
    decide_eq_true_eq, took_admits, took_took]
  constructor
  · rintro ⟨below, _, path, _, rfl, _, order, accepted, body⟩
    obtain ⟨other, _, read, changed⟩ := (bind_ok_iff _ _ _ _ _).mp body
    obtain ⟨rest, rfl, rfl, wellFormed, rfl, fits, rfl⟩ := (read_body_ok_iff (by exact idle) (by
      simp only [DecoderStateV1.took]
      omega)).mp read
    rw [modify_state_bind] at changed
    obtain ⟨rfl, rfl⟩ := pure_ok_iff.mp changed
    refine ⟨order, rest, rfl, below, ?_, wellFormed, by simp, ?_, ?_⟩
    · rw [← directory_kind]
      exact accepted
    · refine ((took_admits state [] _ _).mp fits).less ?_
      simp only [size_eq, List.cons_append, List.nil_append, pathEvents, reserveEvents,
        admittedTotal]
      omega
    · simp [enterInto, readInto, DecoderStateV1.took, count_exactly _ below, admitted_total_append, admittedTotal, Nat.add_assoc]
  · rintro ⟨order, rest, rfl, below, accepted, wellFormed, rfl, fits, rfl⟩
    rw [size_eq] at fits
    refine ⟨below, fits.less (by omega), record.path, record.fields ++ rest, by simp,
      fits.less (by simp only [admittedTotal]; omega), order, by rwa [directory_kind], ?_⟩
    refine (bind_ok_iff _ _ _ _ _).mpr ⟨record, _, (read_body_ok_iff (by exact idle) (by
      simp only [DecoderStateV1.took]
      omega)).mpr ⟨rest, rfl, rfl, wellFormed, rfl, ?_, rfl⟩,
      modify_state_bind.mpr (pure_ok_iff.mpr ⟨rfl, ?_⟩)⟩
    · refine (took_admits state [] _ _).mpr (fits.less ?_)
      simp only [List.cons_append, List.nil_append, pathEvents, reserveEvents, admittedTotal]
      omega
    · simp [enterInto, readInto, DecoderStateV1.took, count_exactly _ below, admitted_total_append, admittedTotal, Nat.add_assoc]

def headerEvents (header : CustodyFrameHeaderV1) : List LedgerEvent :=
  .admitted HEADER_FIXED_BYTES_V1 :: reserveEvents (asBytes header.generationId).length

theorem header_length (header : CustodyFrameHeaderV1) :
    (headerBytes header).length = HEADER_FIXED_BYTES_V1 + (asBytes header.generationId).length := by
  simp [headerBytes, HEADER_FIXED_BYTES_V1, MAGIC_V1]
  omega

theorem utf8_ok_iff {text : String} :
    (fromUtf8 bytes).elim (.error .invalidGeneration) .ok = (.ok text : FrameResult String) ↔
      asBytes text = bytes := by
  rw [← from_utf8_iff]
  cases fromUtf8 bytes with
  | none | some => simp

theorem read_header_ok_iff {header : CustodyFrameHeaderV1} :
    readHeader header (placed state bytes) = .ok value after ↔
      ∃ rest, bytes = headerBytes header ++ rest ∧ state.Admits (headerBytes header).length ∧
        after = placed (state.took (headerBytes header) (headerEvents header)) rest := by
  rw [header_length]
  unfold readHeader readU16 allocate
  simp only [admit_bind, bytes_bind, require_bind, u8_bind, check_bind, uint_bind, modify_state_bind,
    require_ok_iff, decide_eq_true_eq, class_code_iff, utf8_ok_iff, took_admits,
    took_took]
  constructor
  · rintro ⟨_, _, _, rfl, _, rfl, _, _, rfl, rfl, code, _, rfl, _, coded, rfl, _, _, rfl, _, _, fits,
      _, rest, rfl, rfl, _, rfl, rfl, rfl⟩
    rw [header.code_of_class] at coded
    cases coded
    refine ⟨rest, by simp [headerBytes], fits, ?_⟩
    simp [DecoderStateV1.took, headerBytes, headerEvents, reserveEvents, admittedTotal]
  · rintro ⟨rest, rfl, fits, rfl⟩
    have small := header.generation_length.2
    refine ⟨fits.less (by omega), MAGIC_V1, [VERSION_V1] ++ ([header.code] ++
        (leBytes 2 (asBytes header.generationId).length ++ (asBytes header.generationId ++ rest))),
      by simp [headerBytes], rfl, rfl, VERSION_V1, _, rfl, rfl, header.code, _, rfl, header.cls,
      header.code_of_class, rfl, (asBytes header.generationId).length, _, rfl, by omega,
      header.generation_admitted, fits, asBytes header.generationId, rest, rfl, rfl,
      header.generationId, rfl, rfl, ?_⟩
    simp [DecoderStateV1.took, headerBytes, headerEvents, reserveEvents, admittedTotal]

/-- The counts that a trailer must state. -/
def DecoderStateV1.counts (state : DecoderStateV1) : List UInt8 :=
  leBytes 8 state.entries ++ leBytes 8 state.contentBytes

open DecoderStateV1 (counts took took_took)

theorem read_trailer_ok_iff (sha : Sha256) :
    readTrailer sha (placed state bytes) = .ok value after ↔
      state.entries < 2 ^ 64 ∧ state.contentBytes < 2 ^ 64 ∧
        bytes = state.counts ++ sha.digest (state.frame ++ state.counts) ∧
        after = placed { state.took state.counts [] with phase := .complete } [] := by
  unfold readTrailer readU64
  simp only [uint_bind, get_state_bind, fill_bind, require_bind, probe_bind, modify_ok_iff,
    decide_eq_true_eq, took_took]
  constructor
  · rintro ⟨entries, _, rfl, small, total, _, rfl, fits, _, rest, rfl, _, counted, summed, rfl, ended,
      rfl⟩
    obtain rfl : entries = state.entries := counted
    obtain rfl : total = state.contentBytes := summed
    obtain rfl : rest = [] := by simpa using ended
    refine ⟨small, fits, ?_, ?_⟩
    · simp [took, counts]
    · simp [took, counts, admittedTotal]
  · rintro ⟨small, fits, rfl, rfl⟩
    refine ⟨state.entries, leBytes 8 state.contentBytes ++ sha.digest (state.frame ++ state.counts),
      by simp [counts], small, state.contentBytes, _, rfl, fits, _, [],
      (List.append_nil _).symm, frame_digest_length sha _, rfl, rfl, ?_, rfl, ?_⟩
    · simp [took, counts]
    · simp [took, counts, admittedTotal]

end Records

end A2aBridge.CustodyFrame
