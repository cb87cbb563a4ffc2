import Mathlib.Algebra.Ring.Nat
import Mathlib.Data.List.Basic
import Mathlib.Tactic.Common
import Mathlib.Tactic.SplitIfs

/-!
Text as the bytes of its UTF-8 encoding, and a digest function over bytes.
-/

namespace A2aBridge.ByteText

/-- `str::as_bytes`. -/
def asBytes (text : String) : List UInt8 := text.toByteArray.data.toList

variable (bytes : List UInt8)

/-- `char::is_whitespace`. -/
def isWhitespace (c : Char) : Bool :=
  (9 ≤ c.toNat && c.toNat ≤ 13) || c.toNat == 0x20 || c.toNat == 0x85 || c.toNat == 0xA0 ||
    c.toNat == 0x1680 || (0x2000 ≤ c.toNat && c.toNat ≤ 0x200A) || c.toNat == 0x2028 ||
    c.toNat == 0x2029 || c.toNat == 0x202F || c.toNat == 0x205F || c.toNat == 0x3000

/-- `truncate_utf8`: the longest whole characters within the bytes. -/
def truncateUtf8 : Nat → List Char → List Char
  | _, [] => []
  | bytes, c :: rest =>
    if c.utf8Size ≤ bytes then c :: truncateUtf8 (bytes - c.utf8Size) rest else []

/-- `String::from_utf8`. -/
def fromUtf8 : Option String := String.fromUTF8? ⟨bytes.toArray⟩

theorem from_utf8_iff (text : String) :
    fromUtf8 bytes = some text ↔ asBytes text = bytes := by
  unfold fromUtf8 String.fromUTF8?
  constructor
  · intro decoded
    split at decoded <;> cases decoded
    simp [asBytes, String.fromUTF8]
  · intro encoded
    have same : (⟨bytes.toArray⟩ : ByteArray) = text.toByteArray := by
      rw [← encoded]
      simp [asBytes]
    have valid : (⟨bytes.toArray⟩ : ByteArray).IsValidUTF8 := same ▸ text.isValidUTF8
    rw [dif_pos valid]
    congr 1
    apply String.toByteArray_inj.mp
    exact same

theorem as_bytes_inj {left right : String} : asBytes left = asBytes right ↔ left = right := by
  constructor
  · intro same
    have decoded := (from_utf8_iff (asBytes right) left).mpr same
    rw [(from_utf8_iff (asBytes right) right).mpr rfl] at decoded
    exact (Option.some.inj decoded).symm
  · rintro rfl
    rfl

@[simp] theorem as_bytes_empty : asBytes "" = [] := rfl

theorem as_bytes_append (left right : String) : asBytes (left ++ right) = asBytes left ++ asBytes right := by
  simp [asBytes, String.toByteArray_append]

theorem as_bytes_join (texts : List String) : asBytes (String.join texts) = (texts.map asBytes).flatten := by
  induction texts with
  | nil => simp
  | cons text texts ih => simp [String.join_cons, as_bytes_append, ih]

theorem as_bytes_eq_nil {text : String} : asBytes text = [] ↔ text = "" := by
  rw [← as_bytes_empty, as_bytes_inj]

theorem as_bytes_of_chars (text : List Char) :
    asBytes (String.ofList text) = text.flatMap String.utf8EncodeChar := by
  simp [asBytes, String.toByteArray_ofList, List.utf8Encode]

/-- `str::is_char_boundary`. -/
def isCharBoundary (offset : Nat) : Bool :=
  if offset = 0 then true
  else
    match bytes[offset]? with
    | none => offset == bytes.length
    | some byte => byte < 128 || 192 ≤ byte

/-- `&text[offset..]`, which is only taken at a character boundary. -/
def sliceFrom (text : String) (offset : Nat) : String :=
  (fromUtf8 ((asBytes text).drop offset)).getD ""

theorem slice_from_append (left right : String) :
    sliceFrom (left ++ right) (asBytes left).length = right := by
  have dropped : (asBytes (left ++ right)).drop (asBytes left).length = asBytes right := by
    rw [as_bytes_append, List.drop_left]
  unfold sliceFrom
  rw [dropped, (from_utf8_iff (asBytes right) right).mpr rfl]
  rfl

theorem le_of_nat {least value : Nat} (low : least ≤ value) (high : value < 256) :
    UInt8.ofNat least ≤ UInt8.ofNat value := by
  rw [UInt8.le_iff_toNat_le, UInt8.toNat_ofNat', UInt8.toNat_ofNat', Nat.mod_eq_of_lt high]
  exact Nat.le_trans (Nat.mod_le ..) low

/-- An ASCII character is its own byte; any other one is a leading byte and continuation
bytes, none of them ASCII. -/
theorem encoded_char (character : Char) :
    (character.toNat ≤ 127 ∧ String.utf8EncodeChar character = [UInt8.ofNat character.toNat]) ∨
    (127 < character.toNat ∧ ∃ lead more, String.utf8EncodeChar character = lead :: more ∧
      192 ≤ lead ∧ ∀ byte ∈ more, 128 ≤ byte ∧ byte < 192) := by
  have continuation (value : Nat) : (128 : UInt8) ≤ UInt8.ofNat (value % 64 + 128) ∧
      UInt8.ofNat (value % 64 + 128) < 192 := by
    refine ⟨@le_of_nat 128 _ (by omega) (by omega), ?_⟩
    rw [UInt8.lt_iff_toNat_lt, UInt8.toNat_ofNat', Nat.mod_eq_of_lt (by omega)]
    exact Nat.add_lt_add_right (Nat.mod_lt value (by decide)) 128
  have value : character.val.toNat = character.toNat := rfl
  by_cases ascii : character.toNat ≤ 127
  · left
    refine ⟨ascii, ?_⟩
    rw [String.utf8EncodeChar, value, if_pos ascii]
  · right
    refine ⟨by omega, ?_⟩
    rw [String.utf8EncodeChar, value, if_neg ascii]
    split_ifs
    · refine ⟨_, _, rfl, @le_of_nat 192 _ (by omega) (by omega), ?_⟩
      simp only [List.mem_singleton, forall_eq, continuation, and_self]
    · refine ⟨_, _, rfl, @le_of_nat 192 _ (by omega) (by omega), ?_⟩
      simp only [List.mem_cons, List.not_mem_nil, or_false, forall_eq_or_imp, forall_eq, continuation,
        and_self]
    · refine ⟨_, _, rfl, @le_of_nat 192 _ (by omega) (by omega), ?_⟩
      simp only [List.mem_cons, List.not_mem_nil, or_false, forall_eq_or_imp, forall_eq, continuation,
        and_self]

theorem boundary_of_append (left right : String) :
    isCharBoundary (asBytes (left ++ right)) (asBytes left).length = true := by
  unfold isCharBoundary
  split_ifs with start
  · rfl
  · rw [as_bytes_append, List.getElem?_append_right (Nat.le_refl _), Nat.sub_self]
    obtain ⟨characters, rfl⟩ : ∃ characters, right = String.ofList characters :=
      ⟨right.toList, String.ofList_toList.symm⟩
    rw [as_bytes_of_chars]
    cases characters with
    | nil => simp
    | cons character characters =>
      rw [List.flatMap_cons]
      rcases encoded_char character with ⟨ascii, encoded⟩ | ⟨_, lead, more, encoded, high, _⟩
      · rw [encoded]
        have low : UInt8.ofNat character.toNat < 128 := by
          rw [UInt8.lt_iff_toNat_lt, UInt8.toNat_ofNat', Nat.mod_eq_of_lt (by omega)]
          exact Nat.lt_succ_of_le ascii
        simp [low]
      · rw [encoded]
        simp [high]

theorem boundary_split (text : List Char) {offset : Nat}
    (inside : offset ≤ (asBytes (String.ofList text)).length)
    (boundary : isCharBoundary (asBytes (String.ofList text)) offset = true) :
    ∃ left right, text = left ++ right ∧ (asBytes (String.ofList left)).length = offset := by
  induction text generalizing offset with
  | nil => exact ⟨[], [], rfl, (Nat.le_zero.mp inside).symm⟩
  | cons character text ih =>
    by_cases start : offset = 0
    · exact ⟨[], character :: text, rfl, start.symm⟩
    simp only [as_bytes_of_chars, List.flatMap_cons, List.length_append] at inside boundary ih ⊢
    unfold isCharBoundary at boundary
    rw [if_neg start] at boundary
    by_cases within : offset < (String.utf8EncodeChar character).length
    · -- only continuation bytes follow the first byte of a character
      exfalso
      rw [List.getElem?_append_left within, List.getElem?_eq_getElem within] at boundary
      obtain ⟨later, rfl⟩ := Nat.exists_eq_succ_of_ne_zero start
      rcases encoded_char character with ⟨_, encoded⟩ | ⟨_, lead, more, encoded, _, continuation⟩
      · simp [encoded] at within
      · have short : later < more.length := by simpa [encoded] using within
        obtain ⟨low, high⟩ := continuation more[later] (List.getElem_mem short)
        simp [encoded, UInt8.not_lt.mpr low, UInt8.not_le.mpr high] at boundary
    · obtain ⟨more, rfl⟩ := Nat.exists_eq_add_of_le (Nat.not_lt.mp within)
      rw [List.getElem?_append_right (by omega)] at boundary
      have later : isCharBoundary (text.flatMap String.utf8EncodeChar) more = true := by
        unfold isCharBoundary
        split_ifs
        · rfl
        · cases found : (text.flatMap String.utf8EncodeChar)[more]? <;> simpa [found] using boundary
      obtain ⟨left, right, rfl, length⟩ := @ih more (by omega) later
      exact ⟨character :: left, right, rfl, by simp [length]⟩

theorem slice_from_boundary (text : String) {offset : Nat} (inside : offset ≤ (asBytes text).length)
    (boundary : isCharBoundary (asBytes text) offset = true) :
    asBytes (sliceFrom text offset) = (asBytes text).drop offset := by
  rw [← String.ofList_toList (s := text)] at inside boundary ⊢
  obtain ⟨left, right, split, rfl⟩ := boundary_split text.toList inside boundary
  rw [split, String.ofList_append, slice_from_append, as_bytes_append, List.drop_left]

/-- SHA-256 is any fixed function into 32 bytes; a digest context is the list of
the bytes it has absorbed. -/
structure Sha256 where
  digest : List UInt8 → List UInt8
  digest_length : ∀ bytes, (digest bytes).length = 32

end A2aBridge.ByteText
