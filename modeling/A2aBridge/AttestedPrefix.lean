import A2aBridge.AttestedWrapper
import A2aBridge.Harvest

/-!
The attested prefix cut from the agent's wire text to the harvested body. The agent
escapes its text by the rule of the prompt contract: `2 * r + 1` backslashes for `r`
backslashes before a literal marker, `2 * r` for `r` backslashes before the commit. The
JSON and the decimal and hexadecimal texts that carry the control frame are left out: the
bridge receives the numbers and the digest the wrapper computed.
-/

namespace A2aBridge.AttestedPrefix

open ByteText ParityEscape AttestedWrapper Harvest

section WireText

variable (marker : CommitMarker) {character : Char}

theorem nonce_char (member : character ∈ marker.nonce.toList) :
    character.toNat ≤ 127 ∧ hexDigit (UInt8.ofNat character.toNat) = true := by
  have inside : ∀ byte ∈ String.utf8EncodeChar character, hexDigit byte = true := by
    intro byte encoded
    apply marker.nonce_hex
    rw [← String.ofList_toList (s := marker.nonce), as_bytes_of_chars]
    exact List.mem_flatMap.mpr ⟨character, member, encoded⟩
  rcases encoded_char character with ⟨ascii, encoded⟩ | ⟨_, lead, more, encoded, high, _⟩
  · exact ⟨ascii, inside _ (by rw [encoded]; exact List.mem_cons_self ..)⟩
  · have hex := inside lead (by rw [encoded]; exact List.mem_cons_self ..)
    simp only [hexDigit, Bool.or_eq_true, Bool.and_eq_true, decide_eq_true_eq] at hex
    rw [UInt8.le_iff_toNat_le] at high
    simp only [UInt8.le_iff_toNat_le] at hex
    have bounds : UInt8.toNat 192 = 192 ∧ UInt8.toNat 57 = 57 ∧ UInt8.toNat 102 = 102 := by decide
    omega

def restChars : List Char :=
  "|b2a_apc_commit_v1:".toList ++ marker.nonce.toList ++ MARKER_SUFFIX.toList

theorem text_chars : marker.text.toList = '<' :: restChars marker := by
  have opening : MARKER_PREFIX.toList = '<' :: "|b2a_apc_commit_v1:".toList := by decide +kernel
  unfold CommitMarker.text restChars
  rw [String.toList_append, String.toList_append, opening]
  rfl

theorem char_not_mem_rest (notHex : hexDigit (UInt8.ofNat character.toNat) = false)
    (opening : character ∉ "|b2a_apc_commit_v1:".toList)
    (closing : character ∉ MARKER_SUFFIX.toList) : character ∉ restChars marker := by
  have nonce : character ∉ marker.nonce.toList := by
    intro member
    rw [(nonce_char marker member).2] at notHex
    cases notHex
  exact List.not_mem_append (List.not_mem_append opening nonce) closing

def charDelimiter : Delimiter Char where
  escape := '\\'
  first := '<'
  rest := restChars marker
  escape_free := char_not_mem_rest marker (by decide +kernel) (by decide +kernel) (by decide +kernel)
  first_free := char_not_mem_rest marker (by decide +kernel) (by decide +kernel) (by decide +kernel)
  first_ne_escape := by decide

theorem delimiter_char_ascii : ∀ character ∈ (charDelimiter marker).escape :: (charDelimiter marker).word,
    character.toNat ≤ 127 := by
  have openingAll : "|b2a_apc_commit_v1:".toList.all (fun character => character.toNat ≤ 127) = true := by
    decide +kernel
  have closingAll : MARKER_SUFFIX.toList.all (fun character => character.toNat ≤ 127) = true := by
    decide +kernel
  have opening : ∀ character ∈ "|b2a_apc_commit_v1:".toList, character.toNat ≤ 127 :=
    fun character member => of_decide_eq_true (List.all_eq_true.mp openingAll character member)
  have closing : ∀ character ∈ MARKER_SUFFIX.toList, character.toNat ≤ 127 :=
    fun character member => of_decide_eq_true (List.all_eq_true.mp closingAll character member)
  have nonce : ∀ character ∈ marker.nonce.toList, character.toNat ≤ 127 :=
    fun _ member => (nonce_char marker member).1
  have rest : ∀ character ∈ restChars marker, character.toNat ≤ 127 :=
    List.forall_mem_append.mpr ⟨List.forall_mem_append.mpr ⟨opening, nonce⟩, closing⟩
  have escape : ('\\' : Char).toNat ≤ 127 := by decide
  have first : ('<' : Char).toNat ≤ 127 := by decide
  exact List.forall_mem_cons.mpr ⟨escape, List.forall_mem_cons.mpr ⟨first, rest⟩⟩

theorem char_of_byte {left right : Char} (ascii : left.toNat ≤ 127)
    (shared : UInt8.ofNat left.toNat ∈ String.utf8EncodeChar right) : right = left := by
  have small : (UInt8.ofNat left.toNat).toNat = left.toNat := by
    rw [UInt8.toNat_ofNat', Nat.mod_eq_of_lt (by omega)]
  rcases encoded_char right with ⟨low, encoded⟩ | ⟨_, lead, more, encoded, high, wide⟩
  · rw [encoded, List.mem_singleton] at shared
    have values := congrArg UInt8.toNat shared
    rw [small, UInt8.toNat_ofNat', Nat.mod_eq_of_lt (by omega)] at values
    exact Char.toNat_inj.mp values.symm
  · -- a byte below 128 is in no encoding of a wider character
    exfalso
    rw [encoded, List.mem_cons] at shared
    have least : (128 : UInt8) ≤ UInt8.ofNat left.toNat := by
      rcases shared with isLead | isMore
      · rw [isLead]
        exact UInt8.le_trans (by decide) high
      · exact (wide _ isMore).1
    rw [UInt8.le_iff_toNat_le, small] at least
    have bound : UInt8.toNat 128 = 128 := by decide
    omega

/-- UTF-8 spells the agent's delimiter as the wrapper's. -/
def utf8Spelling : Delimiter.Spelling (charDelimiter marker) marker.delimiter where
  spell := String.utf8EncodeChar
  nonempty := fun _ => String.utf8EncodeChar_ne_nil
  single := fun character member =>
    (encoded_char character).elim (fun ascii => ⟨_, ascii.2⟩)
      (fun wide => absurd wide.1 (Nat.not_lt.mpr (delimiter_char_ascii marker character member)))
  apart := by
    intro character member other byte mine theirs
    have ascii := delimiter_char_ascii marker character member
    rcases encoded_char character with ⟨_, encoded⟩ | ⟨wide, _⟩
    · rw [encoded, List.mem_singleton] at mine
      rw [mine] at theirs
      exact char_of_byte ascii theirs
    · omega
  escape_spelled := (by decide +kernel : String.utf8EncodeChar '\\' = [BACKSLASH])
  word_spelled := by
    have word : (charDelimiter marker).word = marker.text.toList := (text_chars marker).symm
    rw [word, ← as_bytes_of_chars, String.ofList_toList, marker.delimiter_word]
    rfl

/-- A text escaped by backslash parity; at the commit marker its last run is doubled too. -/
def parityEscaped (beforeCommit : Bool) (text : String) : String :=
  String.ofList ((charDelimiter marker).quote beforeCommit 0 text.toList)

def wireText (processPrefix deliverable : String) : String :=
  parityEscaped marker true processPrefix ++ marker.text ++ parityEscaped marker false deliverable

theorem parity_escaped_bytes (beforeCommit : Bool) (text : String) :
    asBytes (parityEscaped marker beforeCommit text) =
      marker.delimiter.quote beforeCommit 0 (asBytes text) := by
  have spelled := (utf8Spelling marker).quote_spelled beforeCommit 0 text.toList
  have encoded : text.toList.flatMap String.utf8EncodeChar = asBytes text := by
    rw [← as_bytes_of_chars, String.ofList_toList]
  unfold parityEscaped
  rw [as_bytes_of_chars, ← encoded]
  exact spelled

theorem unquote_wire_text (processPrefix deliverable : String) :
    marker.delimiter.unquote [] (asBytes (wireText marker processPrefix deliverable)) =
      [asBytes processPrefix, asBytes deliverable] := by
  have joined : asBytes (wireText marker processPrefix deliverable) =
      marker.delimiter.joined [asBytes processPrefix, asBytes deliverable] := by
    unfold wireText
    rw [as_bytes_append, as_bytes_append, parity_escaped_bytes, parity_escaped_bytes,
      List.append_assoc]
    simp [Delimiter.joined, marker.delimiter_word, CommitMarker.bytes]
  rw [joined, Delimiter.unquote_joined]

end WireText

/-- `no_attestation_reason_from_wire`. -/
def noAttestationReasonFromWire (raw : String) : Option NoAttestationReason :=
  if raw = "sanitization_not_requested" then some .sanitizationNotRequested
  else if raw = "turn_missing_deliverable_boundary" then some .turnMissingDeliverableBoundary
  else if raw = "turn_ended_without_deliverable" then some .turnEndedWithoutDeliverable
  else if raw = "multiple_commit_markers" then some .multipleCommitMarkers
  else none

/-- The status the bridge reads from the control frame of a resolution, for its own producer
and turn. -/
def controlStatus (sha : Sha256) (producerId turnId : String) (resolution : MarkerFrameResolution) :
    PrefixAttestationStatus :=
  match resolution.status with
  | .attested =>
    .attestedV1
      { issuerId := ATTESTED_PREFIX_ISSUER_V1
        producerId := producerId
        turnId := turnId
        bodyLenBytes := resolution.body.length
        bodySha256 := sha.digest resolution.body
        processPrefixBytes := resolution.prefixBytes }
  | .unavailable reason =>
    match noAttestationReasonFromWire reason with
    | some reason => .unavailableV1 ⟨producerId, turnId, reason⟩
    | none => .rejected ⟨producerId, turnId, .malformedMetadata⟩

variable {processPrefix deliverable : String}

theorem resolve_wire_text (marker : CommitMarker) {chunks : List String} (some : deliverable ≠ "")
    (split : String.join chunks = wireText marker processPrefix deliverable) :
    (resolveMarkerChunks chunks marker).body = asBytes (processPrefix ++ deliverable) ∧
      (resolveMarkerChunks chunks marker).status = .attested ∧
      (resolveMarkerChunks chunks marker).prefixBytes = (asBytes processPrefix).length := by
  have refined := resolve_marker_chunks_refines chunks marker
  have present : ¬ asBytes deliverable = [] := fun none => some (as_bytes_eq_nil.mp none)
  rw [split, unquote_wire_text, resolved, if_neg present, ← as_bytes_append] at refined
  simpa only [Prod.mk.injEq] using refined

theorem wire_text_admitted (sha : Sha256) (producerId turnId : String) (some : deliverable ≠ "")
    (addressable : (asBytes (processPrefix ++ deliverable)).length < 2 ^ 64) :
    Admitted sha .codexCommitMarkerV1 producerId turnId (processPrefix ++ deliverable)
      { issuerId := ATTESTED_PREFIX_ISSUER_V1
        producerId := producerId
        turnId := turnId
        bodyLenBytes := (asBytes (processPrefix ++ deliverable)).length
        bodySha256 := sha.digest (asBytes (processPrefix ++ deliverable))
        processPrefixBytes := (asBytes processPrefix).length }
      (asBytes processPrefix).length where
  supported := by decide
  issuer := rfl
  producer := rfl
  turn := rfl
  length := rfl
  addressable := addressable
  digest := rfl
  read := rfl
  inside := by
    have present : 0 < (asBytes deliverable).length :=
      List.length_pos_iff.mpr (fun none => some (as_bytes_eq_nil.mp none))
    rw [as_bytes_append, List.length_append]
    omega
  boundary := boundary_of_append processPrefix deliverable

/-- The attested prefix cut, end to end. Whatever way the wire text is split into chunks, the
wrapper attests it, rewrites the chunks to the prefix followed by the deliverable and reports
the length of the prefix; harvesting that body returns the deliverable alone exactly when
the prefix is not empty and at most nine tenths of the body. A Rust string always has fewer
than `2 ^ 64` bytes. -/
theorem attested_prefix_cut (sha : Sha256) (marker : CommitMarker) (producerId turnId : String)
    (processPrefix deliverable : String) (chunks : List String) (some : deliverable ≠ "")
    (split : String.join chunks = wireText marker processPrefix deliverable)
    (addressable : (asBytes (processPrefix ++ deliverable)).length < 2 ^ 64) :
    (resolveMarkerChunks chunks marker).status = .attested ∧
      (resolveMarkerChunks chunks marker).chunks.flatten = asBytes (processPrefix ++ deliverable) ∧
      (resolveMarkerChunks chunks marker).prefixBytes = (asBytes processPrefix).length ∧
      (sanitizeHarvest sha .attestedPrefixV1 .modelText .codexCommitMarkerV1 producerId turnId
          (processPrefix ++ deliverable)
          (controlStatus sha producerId turnId (resolveMarkerChunks chunks marker))).effectiveBody =
        if processPrefix ≠ "" ∧ (asBytes processPrefix).length * 100 ≤
            90 * ((asBytes processPrefix).length + (asBytes deliverable).length) then deliverable
        else processPrefix ++ deliverable := by
  obtain ⟨body, status, measured⟩ := resolve_wire_text marker some split
  refine ⟨status, (resolve_chunks_flatten chunks marker).trans body, measured, ?_⟩
  have control : controlStatus sha producerId turnId (resolveMarkerChunks chunks marker) =
      .attestedV1
        { issuerId := ATTESTED_PREFIX_ISSUER_V1
          producerId := producerId
          turnId := turnId
          bodyLenBytes := (asBytes (processPrefix ++ deliverable)).length
          bodySha256 := sha.digest (asBytes (processPrefix ++ deliverable))
          processPrefixBytes := (asBytes processPrefix).length } := by
    unfold controlStatus
    rw [status, body, measured]
  have empty : 0 < (asBytes processPrefix).length ↔ processPrefix ≠ "" := by
    rw [List.length_pos_iff, ne_eq, as_bytes_eq_nil]
  rw [control]
  have whole : (asBytes (processPrefix ++ deliverable)).length =
      (asBytes processPrefix).length + (asBytes deliverable).length := by
    rw [as_bytes_append, List.length_append]
  have harvested := admitted_body (wire_text_admitted sha producerId turnId some addressable)
  rw [slice_from_append] at harvested
  exact harvested.trans (if_congr (and_congr empty (by rw [whole])) rfl rfl)

def sampleMarker : CommitMarker := ⟨"0123456789abcdef0123456789abcdef", by decide +kernel⟩

/-- A prefix that ends in a backslash and a deliverable that begins with the marker, split
inside the run of backslashes and inside both markers. -/
def sampleChunks : List String :=
  ["plan\\", "\\<|b2a_apc", "_commit_v1:0123456789abcdef0123456789abcdef|>\\", "<|b2a_apc_commit_v1:0123",
    "", "456789abcdef0123456789abcdef|> is the marker"]

theorem sample_prefix_cut :
    (sanitizeHarvest ⟨fun _ => List.replicate 32 0, fun _ => rfl⟩ .attestedPrefixV1 .modelText
        .codexCommitMarkerV1 "codex" "turn" ("plan\\" ++ (sampleMarker.text ++ " is the marker"))
        (controlStatus ⟨fun _ => List.replicate 32 0, fun _ => rfl⟩ "codex" "turn"
          (resolveMarkerChunks sampleChunks sampleMarker))).effectiveBody =
      sampleMarker.text ++ " is the marker" := by
  have cut := (attested_prefix_cut ⟨fun _ => List.replicate 32 0, fun _ => rfl⟩ sampleMarker "codex"
    "turn" "plan\\" (sampleMarker.text ++ " is the marker") sampleChunks (by decide +kernel)
    (by decide +kernel) (by decide +kernel)).2.2.2
  rw [cut]
  decide +kernel

end A2aBridge.AttestedPrefix
