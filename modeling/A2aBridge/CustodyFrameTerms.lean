import A2aBridge.ByteText
import A2aBridge.ByteTransport
import A2aBridge.LittleEndian
import A2aBridge.MachineWords
import Mathlib.Data.List.DropRight

/-!
Vocabulary of the v1 coverage-payload frame in bridge-core/custody_frame.rs:
refusals, class codes, header, validated paths, modes, symlink targets, budgets
and the canonical order check that the encoder and the decoder share. Counters
are naturals; every checked `u64` addition keeps its overflow branch. Display
texts of refusals are not modelled, because no codec function reads them.
-/

namespace A2aBridge.CustodyFrame

open ByteText ByteTransport LittleEndian

def MAGIC_V1 : List UInt8 := [0x61, 0x32, 0x61, 0x2d, 0x63, 0x66, 0x72, 0x31]
def VERSION_V1 : UInt8 := 0x01
def TAG_DIRECTORY_V1 : UInt8 := 0x01
def TAG_REGULAR_V1 : UInt8 := 0x02
def TAG_SYMLINK_V1 : UInt8 := 0x03
def TAG_TRAILER_V1 : UInt8 := 0xFF
def SEPARATOR : UInt8 := 0x2f
def MAX_GENERATION_BYTES_V1 : Nat := 1024
def MAX_PATH_BYTES_V1 : Nat := 4096
def MAX_COMPONENT_BYTES_V1 : Nat := 255
def MAX_SYMLINK_TARGET_BYTES_V1 : Nat := 4095
def PERMISSION_BITS_V1 : UInt32 := 0o777
def MAX_ENTRIES_V1 : Nat := 1048576
def MAX_FRAME_BYTES_V1 : Nat := 10 * 2 ^ 30
def CONTENT_BUFFER_BYTES_V1 : Nat := 64 * 1024
def DIGEST_BYTES_V1 : Nat := 32
def HEADER_FIXED_BYTES_V1 : Nat := 8 + 1 + 1 + 2
def TRAILER_BYTES_V1 : Nat := 1 + 8 + 8 + DIGEST_BYTES_V1

/-- An unchecked `u64` addition, which wraps in a release build. -/
def wrappingAdd (left right : Nat) : Nat := (left + right) % 2 ^ 64

inductive CustodyFrameComponentFaultV1 where
  | empty
  | dot
  | dotDot
  | nul
  | slash
  | tooLong
  deriving DecidableEq

inductive CustodyFrameLengthMismatchV1 where
  | short
  | long
  deriving DecidableEq

/-- `io::ErrorKind`, without `Interrupted`: that kind is retried, never reported. -/
inductive IoErrorKind where
  | invalidData
  | writeZero
  | unexpectedEof
  | other (code : Nat)
  deriving DecidableEq

inductive CustodyFrameErrorV1 where
  | io (kind : IoErrorKind)
  | badMagic
  | unsupportedVersion
  | unknownClass
  | objectDatabaseNotFramed
  | classMismatch
  | generationMismatch
  | invalidGeneration
  | unknownTag
  | truncated
  | trailingBytes
  | invalidComponent (kind : CustodyFrameComponentFaultV1)
  | pathTooLong
  | outOfOrder
  | missingParent
  | unsupportedMode
  | invalidSymlinkTarget
  | contentLengthMismatch (kind : CustodyFrameLengthMismatchV1)
  | contentDigestMismatch
  | countMismatch
  | totalMismatch
  | frameDigestMismatch
  | entryLimit
  | byteBudget
  | poisoned
  deriving DecidableEq

abbrev FrameResult (Value : Type) := Except CustodyFrameErrorV1 Value

theorem checked_add_ok_iff {left right sum : Nat} :
    (checkedAdd left right).elim (.error .byteBudget) .ok = (.ok sum : FrameResult Nat) ↔
      left + right < 2 ^ 64 ∧ sum = left + right := by
  unfold checkedAdd
  split <;> simp_all [eq_comm]

inductive CustodyCoverageClassV1 where
  | refsAndHead
  | objectDatabase
  | index
  | worktree
  | stashAndReflogs
  | inProgressGitOperations
  | linkedWorktrees
  | nestedRepositoriesAndSubmodules
  | lfsAndExternalPayloads
  | alternatesAndSharedStores
  | gitConfigurationAndHooks
  | bridgeEvidence
  | externalEvidence
  | reproducibleOutputs
  deriving DecidableEq

def classCode : CustodyCoverageClassV1 → FrameResult UInt8
  | .refsAndHead => .ok 1
  | .objectDatabase => .error .objectDatabaseNotFramed
  | .index => .ok 3
  | .worktree => .ok 4
  | .stashAndReflogs => .ok 5
  | .inProgressGitOperations => .ok 6
  | .linkedWorktrees => .ok 7
  | .nestedRepositoriesAndSubmodules => .ok 8
  | .lfsAndExternalPayloads => .ok 9
  | .alternatesAndSharedStores => .ok 10
  | .gitConfigurationAndHooks => .ok 11
  | .bridgeEvidence => .ok 12
  | .externalEvidence => .ok 13
  | .reproducibleOutputs => .ok 14

def classFromCode (code : UInt8) : FrameResult CustodyCoverageClassV1 :=
  match code.toNat with
  | 1 => .ok .refsAndHead
  | 2 => .error .objectDatabaseNotFramed
  | 3 => .ok .index
  | 4 => .ok .worktree
  | 5 => .ok .stashAndReflogs
  | 6 => .ok .inProgressGitOperations
  | 7 => .ok .linkedWorktrees
  | 8 => .ok .nestedRepositoriesAndSubmodules
  | 9 => .ok .lfsAndExternalPayloads
  | 10 => .ok .alternatesAndSharedStores
  | 11 => .ok .gitConfigurationAndHooks
  | 12 => .ok .bridgeEvidence
  | 13 => .ok .externalEvidence
  | 14 => .ok .reproducibleOutputs
  | _ => .error .unknownClass

-- The two tables are inverse to each other on every framed class.
theorem class_code_iff (cls : CustodyCoverageClassV1) (code : UInt8) :
    classFromCode code = .ok cls ↔ classCode cls = .ok code := by
  constructor
  · intro decoded
    unfold classFromCode at decoded
    split at decoded
    all_goals first
      | cases decoded
        rename_i value
        exact congrArg Except.ok (UInt8.toNat_inj.mp value).symm
      | cases decoded
  · intro encoded
    cases cls <;> simp only [classCode, Except.ok.injEq, reduceCtorEq] at encoded <;>
      subst encoded <;> rfl

def generationLengthAdmitted (length : Nat) : Bool := 1 ≤ length && length ≤ MAX_GENERATION_BYTES_V1

structure CustodyFrameHeaderV1 where
  cls : CustodyCoverageClassV1
  code : UInt8
  generationId : String
  code_of_class : classCode cls = .ok code
  generation_admitted : generationLengthAdmitted (asBytes generationId).length = true
  deriving DecidableEq

namespace CustodyFrameHeaderV1

def encode (header : CustodyFrameHeaderV1) : FrameResult (List UInt8) :=
  let generation := asBytes header.generationId
  if generation.length < 2 ^ 16 then
    .ok (MAGIC_V1 ++ [VERSION_V1] ++ [header.code] ++ leBytes 2 generation.length ++ generation)
  else .error .invalidGeneration

theorem generation_length (header : CustodyFrameHeaderV1) :
    1 ≤ (asBytes header.generationId).length ∧ (asBytes header.generationId).length ≤ 1024 := by
  have admitted := header.generation_admitted
  simp only [generationLengthAdmitted, Bool.and_eq_true, decide_eq_true_eq] at admitted
  exact admitted

end CustodyFrameHeaderV1

def pathLengthAdmitted (length : Nat) : Bool := length ≤ MAX_PATH_BYTES_V1

def validateComponent (component : List UInt8) : FrameResult Unit :=
  if component.isEmpty then .error (.invalidComponent .empty)
  else if component.length > MAX_COMPONENT_BYTES_V1 then .error (.invalidComponent .tooLong)
  else if component = [0x2e] then .error (.invalidComponent .dot)
  else if component = [0x2e, 0x2e] then .error (.invalidComponent .dotDot)
  else if 0 ∈ component then .error (.invalidComponent .nul)
  else if SEPARATOR ∈ component then .error (.invalidComponent .slash)
  else .ok ()

def validateComponents : List (List UInt8) → FrameResult Unit
  | [] => .ok ()
  | component :: rest =>
    match validateComponent component with
    | .error refusal => .error refusal
    | .ok () => validateComponents rest

/-- A frame path carries its own validation: no other value of the type exists. -/
structure CustodyFramePathV1 where
  bytes : List UInt8
  length_admitted : pathLengthAdmitted bytes.length = true
  components_valid : validateComponents (bytes.splitOn SEPARATOR) = .ok ()
  deriving DecidableEq

namespace CustodyFramePathV1

def components (path : CustodyFramePathV1) : List (List UInt8) := path.bytes.splitOn SEPARATOR

variable (bytes : List UInt8)

def fromBytes : FrameResult CustodyFramePathV1 :=
  if admitted : pathLengthAdmitted bytes.length = true then
    match valid : validateComponents (bytes.splitOn SEPARATOR) with
    | .error refusal => .error refusal
    | .ok () => .ok ⟨bytes, admitted, valid⟩
  else .error .pathTooLong

theorem from_bytes_iff (path : CustodyFramePathV1) :
    fromBytes bytes = .ok path ↔ path.bytes = bytes := by
  unfold fromBytes
  constructor
  · intro accepted
    split at accepted
    · split at accepted
      · cases accepted
      · cases accepted
        rfl
    · cases accepted
  · rintro rfl
    rw [dif_pos path.length_admitted]
    split
    · rename_i refusal refused
      rw [path.components_valid] at refused
      cases refused
    · rfl

theorem length_le (path : CustodyFramePathV1) : path.bytes.length ≤ 4096 := by
  exact of_decide_eq_true path.length_admitted

/-- `Ord::cmp`: component by component, each by its bytes, a proper prefix first. -/
def cmp (self other : CustodyFramePathV1) : Ordering :=
  List.compareLex (List.compareLex compare) self.components other.components

def le (self other : CustodyFramePathV1) : Bool := (self.cmp other).isLE

end CustodyFramePathV1

def encodeMode (mode : UInt32) : FrameResult Nat :=
  if mode &&& ~~~PERMISSION_BITS_V1 ≠ 0 then .error .unsupportedMode
  else if mode.toNat < 2 ^ 16 then .ok mode.toNat
  else .error .unsupportedMode

def decodeMode (mode : Nat) : FrameResult UInt32 :=
  if UInt32.ofNat mode > PERMISSION_BITS_V1 then .error .unsupportedMode
  else .ok (UInt32.ofNat mode)

-- Bit by bit: the complement mask holds exactly the bits 9 to 31.
theorem permission_bits_iff (mode : UInt32) :
    mode &&& ~~~PERMISSION_BITS_V1 = 0 ↔ mode ≤ PERMISSION_BITS_V1 := by
  have mask : (~~~PERMISSION_BITS_V1).toNat = (2 ^ 23 - 1) <<< 9 := by decide
  have bits : PERMISSION_BITS_V1.toNat = 2 ^ 9 - 1 := by decide
  have bound := mode.toNat_lt
  rw [UInt32.le_iff_toNat_le, ← UInt32.toNat_inj, UInt32.toNat_and, mask, bits]
  constructor
  · intro clear
    by_contra above
    have shifted : mode.toNat >>> 9 ≠ 0 := by
      omega
    obtain ⟨bit, set⟩ := Nat.exists_testBit_of_ne_zero shifted
    rw [Nat.testBit_shiftRight] at set
    have low : bit < 23 := by
      by_contra high
      have large : 2 ^ 32 ≤ 2 ^ (9 + bit) := Nat.pow_le_pow_right (by decide) (by omega)
      rw [Nat.testBit_lt_two_pow (Nat.lt_of_lt_of_le bound large)] at set
      cases set
    have both : (mode.toNat &&& (2 ^ 23 - 1) <<< 9).testBit (9 + bit) = false := by
      rw [clear]
      simp
    rw [Nat.testBit_and, Nat.testBit_shiftLeft, Nat.testBit_two_pow_sub_one] at both
    simp [set, low] at both
  · intro small
    apply Nat.eq_of_testBit_eq
    intro bit
    rw [Nat.testBit_and, Nat.testBit_shiftLeft]
    by_cases low : bit < 9
    · simp [show ¬ 9 ≤ bit by omega]
    · have large : 2 ^ 9 ≤ 2 ^ bit := Nat.pow_le_pow_right (by decide) (by omega)
      have clear := Nat.testBit_lt_two_pow (x := mode.toNat) (i := bit) (by omega)
      simp [clear]

theorem encode_mode_iff (mode : UInt32) (bits : Nat) :
    encodeMode mode = .ok bits ↔ mode ≤ PERMISSION_BITS_V1 ∧ bits = mode.toNat := by
  unfold encodeMode
  by_cases low : mode ≤ PERMISSION_BITS_V1
  · have clear := (permission_bits_iff mode).mpr low
    have small : mode.toNat ≤ PERMISSION_BITS_V1.toNat := UInt32.le_iff_toNat_le.mp low
    have fits : mode.toNat < 2 ^ 16 := Nat.lt_of_le_of_lt small (by decide)
    rw [if_neg (by simpa using clear), if_pos fits]
    simp [low, eq_comm]
  · have set : mode &&& ~~~PERMISSION_BITS_V1 ≠ 0 := mt (permission_bits_iff mode).mp low
    simp [set, low]

theorem decode_mode_iff (bits : Nat) (mode : UInt32) (fits : bits < 2 ^ 16) :
    decodeMode bits = .ok mode ↔ mode ≤ PERMISSION_BITS_V1 ∧ bits = mode.toNat := by
  have value : (UInt32.ofNat bits).toNat = bits := by
    simp only [UInt32.toNat_ofNat']
    omega
  unfold decodeMode
  split
  · rename_i above
    simp only [reduceCtorEq, false_iff]
    rintro ⟨low, same⟩
    rw [same, UInt32.ofNat_toNat] at above
    exact absurd low (UInt32.not_le.mpr above)
  · rename_i below
    have low := UInt32.not_lt.mp below
    constructor
    · intro accepted
      cases accepted
      exact ⟨low, value.symm⟩
    · rintro ⟨_, same⟩
      rw [same, UInt32.ofNat_toNat]

def symlinkTargetLengthAdmitted (length : Nat) : Bool :=
  1 ≤ length && length ≤ MAX_SYMLINK_TARGET_BYTES_V1

def validateSymlinkTarget (target : List UInt8) : FrameResult Unit :=
  if !symlinkTargetLengthAdmitted target.length then .error .invalidSymlinkTarget
  else if 0 ∈ target then .error .invalidSymlinkTarget
  else .ok ()

theorem symlink_target_short (target : List UInt8) (valid : validateSymlinkTarget target = .ok ()) :
    1 ≤ target.length ∧ target.length ≤ 4095 := by
  unfold validateSymlinkTarget at valid
  split_ifs at valid with admitted
  simp only [Bool.not_eq_true, Bool.not_eq_false'] at admitted
  simp only [symlinkTargetLengthAdmitted, Bool.and_eq_true, decide_eq_true_eq] at admitted
  exact admitted

structure CustodyFrameBudgetV1 where
  maxEntries : Nat
  maxFrameBytes : Nat
  entries_ceiling : maxEntries ≤ MAX_ENTRIES_V1
  bytes_ceiling : maxFrameBytes ≤ MAX_FRAME_BYTES_V1
  deriving DecidableEq

namespace CustodyFrameBudgetV1

/-- The trailer is reserved up front, so an admitted record can still be closed. -/
def recordLimit (budget : CustodyFrameBudgetV1) : FrameResult Nat :=
  if TRAILER_BYTES_V1 ≤ budget.maxFrameBytes then .ok (budget.maxFrameBytes - TRAILER_BYTES_V1)
  else .error .byteBudget

end CustodyFrameBudgetV1

/-- `open_directories` keeps the byte lengths of the directory entries that are
ancestors of `previous`, or `previous` itself, shallowest first. -/
structure CanonicalOrderV1 where
  previous : Option CustodyFramePathV1
  openDirectories : List Nat
  deriving DecidableEq

namespace CanonicalOrderV1

def default : CanonicalOrderV1 := ⟨none, []⟩

def isAncestor (bytes previous : List UInt8) (length : Nat) : Bool :=
  decide (length < bytes.length) && bytes[length]? == some SEPARATOR &&
    (decide (length ≤ previous.length) && previous.take length == bytes.take length)

/-- `bytes.iter().rposition(|byte| *byte == SEPARATOR).unwrap_or(0)`. -/
def parentLength (bytes : List UInt8) : Nat :=
  match bytes.reverse.idxOf? SEPARATOR with
  | some fromEnd => bytes.length - 1 - fromEnd
  | none => 0

/-- The outcome and the order state after the call. A missing parent is refused only
after the open directories that are not ancestors were closed. -/
def admitPath (order : CanonicalOrderV1) (path : CustodyFramePathV1) (isDirectory : Bool) :
    FrameResult Unit × CanonicalOrderV1 :=
  if order.previous.any (fun previous => path.le previous) then (.error .outOfOrder, order)
  else
    let bytes := path.bytes
    let previous := match order.previous with
      | some previous => previous.bytes
      | none => []
    let remaining := order.openDirectories.rdropWhile (fun length => !isAncestor bytes previous length)
    if remaining.getLast?.getD 0 ≠ parentLength bytes then
      (.error .missingParent, { order with openDirectories := remaining })
    else
      (.ok (),
        { previous := some path
          openDirectories := if isDirectory then remaining ++ [bytes.length] else remaining })

end CanonicalOrderV1

theorem frame_digest_length (sha : Sha256) (bytes : List UInt8) :
    (sha.digest bytes).length = DIGEST_BYTES_V1 := sha.digest_length bytes

/-- One `read`, retried on `Interrupted`. -/
def readSome (source : Source IoErrorKind) (capacity : Nat) :
    FrameResult (List UInt8) × Source IoErrorKind :=
  match _answered : source.read capacity with
  | (.data chunk, rest) => (.ok chunk, rest)
  | (.overclaimed, rest) => (.error (.io .invalidData), rest)
  | (.interrupted, rest) => readSome rest capacity
  | (.failed kind, rest) => (.error (.io kind), rest)
termination_by source.answers.length
decreasing_by exact interrupted_shrinks _answered

/-- Fills a buffer of `want` bytes; an end of stream first is a truncation. -/
def readExactly (source : Source IoErrorKind) (want : Nat) :
    FrameResult (List UInt8) × Source IoErrorKind :=
  if want = 0 then (.ok [], source)
  else
    match readSome source want with
    | (.error refusal, rest) => (.error refusal, rest)
    | (.ok [], rest) => (.error .truncated, rest)
    | (.ok (byte :: chunk), rest) =>
      match readExactly rest (want - (byte :: chunk).length) with
      | (.error refusal, rest) => (.error refusal, rest)
      | (.ok more, rest) => (.ok (byte :: chunk ++ more), rest)
termination_by want
decreasing_by simp; omega

def chunkLength (remaining capacity : Nat) : Nat := min remaining capacity

def recordPrefix (tag : UInt8) (path : CustodyFramePathV1) : FrameResult (List UInt8) :=
  if path.bytes.length < 2 ^ 16 then
    .ok ([tag] ++ leBytes 2 path.bytes.length ++ path.bytes)
  else .error .pathTooLong

end A2aBridge.CustodyFrame
