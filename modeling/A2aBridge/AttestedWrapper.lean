import A2aBridge.ByteText
import A2aBridge.ParityEscape

/-!
Marker resolution of the ACP wrapper, bin/a2a-bridge/src/acp/attested_wrapper.rs.
Every byte of the buffered agent text carries the index of the chunk it came from, and
the loop over `bytes[i..]` is a recursion on the bytes that remain. Resolution is
shown to depend on the chunks only through `unquote` of their concatenation; the
rewritten chunks are a redistribution of the resolved body.
-/

namespace A2aBridge.AttestedWrapper

open ByteText ParityEscape

def MARKER_PREFIX : String := "<|b2a_apc_commit_v1:"
def MARKER_SUFFIX : String := "|>"
def BACKSLASH : UInt8 := 0x5c

def hexDigit (byte : UInt8) : Bool := (48 ≤ byte && byte ≤ 57) || (97 ≤ byte && byte ≤ 102)

/-- `valid_nonce`. -/
def validNonce (raw : String) : Bool := (asBytes raw).length == 32 && (asBytes raw).all hexDigit

/-- The marker of a turn; `parse_begin_turn_params` refuses any other nonce. -/
structure CommitMarker where
  nonce : String
  valid : validNonce nonce = true

namespace CommitMarker

variable (marker : CommitMarker)

def text : String := MARKER_PREFIX ++ marker.nonce ++ MARKER_SUFFIX

def bytes : List UInt8 := asBytes marker.text

def rest : List UInt8 :=
  asBytes "|b2a_apc_commit_v1:" ++ asBytes marker.nonce ++ asBytes MARKER_SUFFIX

theorem bytes_eq : marker.bytes = 0x3c :: marker.rest := by
  rfl

theorem bytes_length_pos : 0 < marker.bytes.length := by simp [bytes_eq]

variable {byte : UInt8}

theorem nonce_hex (member : byte ∈ asBytes marker.nonce) : hexDigit byte = true := by
  have valid := marker.valid
  unfold validNonce at valid
  simp only [Bool.and_eq_true, List.all_eq_true] at valid
  exact valid.2 byte member

theorem not_mem_rest (notHex : hexDigit byte = false)
    (outside : byte ∉ asBytes "|b2a_apc_commit_v1:" ++ asBytes MARKER_SUFFIX) : byte ∉ marker.rest := by
  intro member
  simp only [rest, List.mem_append] at member outside
  rcases member with (member | member) | member
  · exact outside (.inl member)
  · rw [marker.nonce_hex member] at notHex
    cases notHex
  · exact outside (.inr member)

/-- The marker overlaps neither itself nor a run of backslashes. -/
def delimiter : Delimiter UInt8 where
  escape := BACKSLASH
  first := 0x3c
  rest := marker.rest
  escape_free := marker.not_mem_rest (by decide) (by decide +kernel)
  first_free := marker.not_mem_rest (by decide) (by decide +kernel)
  first_ne_escape := by decide

theorem delimiter_word : marker.delimiter.word = marker.bytes := marker.bytes_eq.symm

end CommitMarker

inductive WrapperStatus where
  | attested
  | unavailable (reason : String)
  deriving DecidableEq

structure MarkerFrameResolution where
  chunks : List (List UInt8)
  body : List UInt8
  status : WrapperStatus
  prefixBytes : Nat
  deriving DecidableEq

/-- A byte with the index of the chunk it came from. -/
abbrev SourcedByte := Nat × UInt8

inductive Piece where
  | bytes (pairs : List SourcedByte)
  | candidate (sources : List Nat)
  deriving DecidableEq

/-- The locals of the loop in `resolve_marker_chunks`. -/
structure MarkerScan where
  pieces : List Piece
  pending : List SourcedByte
  candidates : Nat
  prefixForFirst : Nat
  decodedLen : Nat
  deriving DecidableEq

def MarkerScan.start : MarkerScan := ⟨[], [], 0, 0, 0⟩

/-- `bytes` and `source`, zipped. -/
def sourcedFrom (chunkIdx : Nat) : List String → List SourcedByte
  | [] => []
  | chunk :: chunks => (asBytes chunk).map (fun byte => (chunkIdx, byte)) ++ sourcedFrom (chunkIdx + 1) chunks

def trailingPendingBackslashes (pending : List SourcedByte) : Nat :=
  (pending.reverse.takeWhile (fun pair => pair.2 == BACKSLASH)).length

/-- Takes the backslashes at the end of `pending` down to the first `count` of them. -/
def keepSlashes (pending : List SourcedByte) (count : Nat) : List SourcedByte :=
  let keepLen := pending.length - trailingPendingBackslashes pending
  let slashSources := (pending.drop keepLen).map Prod.fst
  pending.take keepLen ++ (slashSources.take count).map (fun source => (source, BACKSLASH))

/-- Pushes `pending` as a piece, unless it is empty. -/
def flushPending (pieces : List Piece) (pending : List SourcedByte) : List Piece :=
  if pending.isEmpty then pieces else pieces ++ [.bytes pending]

/-- The body of the loop at an unescaped marker with these sources. -/
def takeCandidate (scan : MarkerScan) (sources : List Nat) : MarkerScan :=
  let pending := keepSlashes scan.pending (trailingPendingBackslashes scan.pending / 2)
  let decodedLen := scan.decodedLen + pending.length
  { pieces := flushPending scan.pieces pending ++ [.candidate sources]
    pending := []
    candidates := scan.candidates + 1
    prefixForFirst := if scan.candidates = 0 then decodedLen else scan.prefixForFirst
    decodedLen := decodedLen }

def scanMarkers (marker : CommitMarker) (remaining : List SourcedByte) (scan : MarkerScan) : MarkerScan :=
  match remaining with
  | [] => scan
  | pair :: more =>
    if marker.bytes <+: (pair :: more).map Prod.snd then
      let slashRun := trailingPendingBackslashes scan.pending
      let sources := ((pair :: more).map Prod.fst).take marker.bytes.length
      let after := (pair :: more).drop marker.bytes.length
      if slashRun % 2 = 1 then
        let pending := keepSlashes scan.pending ((slashRun - 1) / 2) ++ sources.zip marker.bytes
        scanMarkers marker after { scan with pending := pending }
      else scanMarkers marker after (takeCandidate scan sources)
    else scanMarkers marker more { scan with pending := scan.pending ++ [pair] }
termination_by remaining.length
decreasing_by
  all_goals
    have := marker.bytes_length_pos
    simp only [List.length_drop, List.length_cons]
    omega

/-- `chunks[index].push(byte)`. -/
def pushByte (chunks : List (List UInt8)) (pair : SourcedByte) : List (List UInt8) :=
  chunks.modify pair.1 (· ++ [pair.2])

/-- The bytes a piece contributes, each with the chunk that receives it. -/
def Piece.emitted (marker : List UInt8) (includeCandidates : Bool) : Piece → List SourcedByte
  | .bytes pairs => pairs
  | .candidate sources =>
    if includeCandidates then
      marker.zipIdx.map (fun (byte, offset) =>
        ((sources[offset]?.or sources.head?).getD 0, byte))
    else []

def materialize (pieces : List Piece) (marker : List UInt8) (chunkCount : Nat)
    (includeCandidates : Bool) : List (List UInt8) × List UInt8 :=
  (pieces.flatMap (Piece.emitted marker includeCandidates)).foldl
    (fun (chunks, body) pair => (pushByte chunks pair, body ++ [pair.2]))
    (List.replicate chunkCount [], [])

/-- The final `match candidates`, given the text with its candidates and without them. -/
def concludeScan (candidates prefixForFirst : Nat) (kept cut : List (List UInt8) × List UInt8) :
    MarkerFrameResolution :=
  match candidates with
  | 0 => ⟨kept.1, kept.2, .unavailable "turn_missing_deliverable_boundary", 0⟩
  | 1 =>
    let suffixLen := cut.2.length - prefixForFirst
    if suffixLen = 0 then ⟨kept.1, kept.2, .unavailable "turn_ended_without_deliverable", 0⟩
    else ⟨cut.1, cut.2, .attested, prefixForFirst⟩
  | _ => ⟨kept.1, kept.2, .unavailable "multiple_commit_markers", 0⟩

def resolveMarkerChunks (chunks : List String) (marker : CommitMarker) : MarkerFrameResolution :=
  let scan := scanMarkers marker (sourcedFrom 0 chunks) .start
  let pieces := flushPending scan.pieces scan.pending
  concludeScan scan.candidates scan.prefixForFirst
    (materialize pieces marker.bytes chunks.length true)
    (materialize pieces marker.bytes chunks.length false)

theorem trailing_backslashes_run (marker : CommitMarker) (pending : List SourcedByte) :
    trailingPendingBackslashes pending = marker.delimiter.run (pending.map Prod.snd) := by
  unfold trailingPendingBackslashes Delimiter.run
  rw [← List.map_reverse, List.takeWhile_map, List.length_map]
  rfl

variable {remaining : List SourcedByte} (pending : List SourcedByte) (chunkIdx : Nat)

theorem trailing_pairs_are_backslashes :
    ∀ pair ∈ pending.drop (pending.length - trailingPendingBackslashes pending), pair.2 = BACKSLASH := by
  intro pair member
  have initial : pending.reverse.takeWhile (fun pair => pair.2 == BACKSLASH) =
      pending.reverse.take (trailingPendingBackslashes pending) :=
    List.prefix_iff_eq_take.mp (List.takeWhile_prefix _)
  have reversed : pair ∈ pending.reverse.takeWhile (fun pair => pair.2 == BACKSLASH) := by
    rw [initial, List.take_reverse]
    simpa using member
  simpa using List.mem_takeWhile_imp reversed

theorem keep_slashes_eq (count : Nat) :
    keepSlashes pending count =
      pending.take (pending.length - trailingPendingBackslashes pending) ++
        (pending.drop (pending.length - trailingPendingBackslashes pending)).take count := by
  simp only [keepSlashes]
  rw [← List.map_take, List.map_map]
  congr 1
  refine (List.map_congr_left (g := id) fun pair member => ?_).trans (List.map_id _)
  have slash := trailing_pairs_are_backslashes pending pair (List.mem_of_mem_take member)
  exact Prod.ext rfl slash.symm

theorem keep_slashes_sublist (count : Nat) : (keepSlashes pending count).Sublist pending := by
  rw [keep_slashes_eq]
  conv_rhs => rw [← List.take_append_drop
    (pending.length - trailingPendingBackslashes pending) pending]
  exact (List.Sublist.refl _).append (List.take_sublist ..)

variable (marker : CommitMarker)

theorem keep_slashes_bytes (pending : List SourcedByte) {count : Nat}
    (fewer : count ≤ trailingPendingBackslashes pending) :
    (keepSlashes pending count).map Prod.snd =
      marker.delimiter.settleRun (pending.map Prod.snd) count := by
  have available : trailingPendingBackslashes pending ≤ pending.length := by
    have shorter := (List.takeWhile_sublist (fun pair : SourcedByte => pair.2 == BACKSLASH)
      (l := pending.reverse)).length_le
    simpa [trailingPendingBackslashes] using shorter
  unfold keepSlashes Delimiter.settleRun
  rw [← trailing_backslashes_run, List.map_append, List.length_map, List.map_take, List.map_map]
  congr 1
  have constant : (Prod.snd ∘ fun source : Nat => (source, BACKSLASH)) = fun _ => BACKSLASH := rfl
  rw [constant, List.map_const', List.length_take, List.length_map, List.length_drop]
  congr 1
  omega

variable {pairs : List SourcedByte}

theorem emitted_candidate (marker : List UInt8) (spelled : pairs.map Prod.snd = marker) :
    (Piece.candidate (pairs.map Prod.fst)).emitted marker true = pairs := by
  subst spelled
  simp only [Piece.emitted, if_true]
  apply List.ext_getElem
  · simp
  · intro index left right
    simp only [List.length_map, List.length_zipIdx] at left
    simp [left]

/-- What the pieces and the pending bytes come to. -/
def MarkerScan.emitted (includeCandidates : Bool) (scan : MarkerScan) :
    List SourcedByte :=
  scan.pieces.flatMap (Piece.emitted marker.bytes includeCandidates) ++ scan.pending

theorem flush_pending_emitted (marker : List UInt8) (includeCandidates : Bool) (pieces : List Piece)
    (pending : List SourcedByte) :
    (flushPending pieces pending).flatMap (Piece.emitted marker includeCandidates) =
      pieces.flatMap (Piece.emitted marker includeCandidates) ++ pending := by
  unfold flushPending
  cases pending with
  | nil => simp
  | cons pair pending => simp [Piece.emitted]

/-- How a finished scan relates to where it stood and to the segments of the text it read:
each further segment stands for one candidate, and the first one ends the prefix. -/
structure Scanned (marker : CommitMarker) (scan final : MarkerScan) (segments : List (List UInt8)) :
    Prop where
  nonempty : segments ≠ []
  candidates : final.candidates + 1 = scan.candidates + segments.length
  cut : (final.emitted marker false).map Prod.snd =
    (scan.pieces.flatMap (Piece.emitted marker.bytes false)).map Prod.snd ++ segments.flatten
  kept : (final.emitted marker true).map Prod.snd =
    (scan.pieces.flatMap (Piece.emitted marker.bytes true)).map Prod.snd ++
      List.intercalate marker.bytes segments
  boundary : scan.candidates = 0 → ∀ first next more, segments = first :: next :: more →
    final.prefixForFirst = scan.decodedLen + first.length
  settled : scan.candidates ≠ 0 → final.prefixForFirst = scan.prefixForFirst

theorem found_marker (found : marker.bytes <+: remaining.map Prod.snd) :
    (remaining.take marker.bytes.length).map Prod.snd = marker.bytes ∧
      remaining.map Prod.snd =
        marker.delimiter.word ++ (remaining.drop marker.bytes.length).map Prod.snd := by
  have initial : (remaining.take marker.bytes.length).map Prod.snd = marker.bytes := by
    rw [List.map_take]
    exact (List.prefix_iff_eq_take.mp found).symm
  refine ⟨initial, ?_⟩
  conv_lhs => rw [← List.take_append_drop marker.bytes.length remaining]
  rw [List.map_append, initial, marker.delimiter_word]

theorem sources_zip_marker (found : marker.bytes <+: remaining.map Prod.snd) :
    ((remaining.map Prod.fst).take marker.bytes.length).zip marker.bytes =
      remaining.take marker.bytes.length := by
  exact (List.zip_of_prod (List.map_take ..) (found_marker marker found).1).symm

theorem scanned_candidate {marker : CommitMarker} {scan final : MarkerScan} {sources : List Nat}
    {segments : List (List UInt8)}
    (spelled : ((Piece.candidate sources).emitted marker.bytes true).map Prod.snd = marker.bytes)
    (later : Scanned marker (takeCandidate scan sources) final segments) :
    Scanned marker scan final
      ((keepSlashes scan.pending (trailingPendingBackslashes scan.pending / 2)).map Prod.snd ::
        segments) := by
  obtain ⟨first, rest, rfl⟩ := List.exists_cons_of_ne_nil later.nonempty
  have settled : final.prefixForFirst = (takeCandidate scan sources).prefixForFirst :=
    later.settled (Nat.succ_ne_zero _)
  constructor
  · exact List.cons_ne_nil _ _
  · have counted := later.candidates
    simp only [takeCandidate, List.length_cons] at counted ⊢
    omega
  · rw [later.cut]
    simp [takeCandidate, flush_pending_emitted, Piece.emitted]
  · rw [later.kept, List.intercalate_cons_cons]
    simp [takeCandidate, flush_pending_emitted, spelled]
  · intro fresh head next more shape
    cases shape
    rw [settled]
    simp [takeCandidate, fresh]
  · intro earlier
    rw [settled]
    simp [takeCandidate, earlier]

theorem scan_markers_scanned (remaining : List SourcedByte) (scan : MarkerScan) :
    Scanned marker scan (scanMarkers marker remaining scan)
      (marker.delimiter.unquote (scan.pending.map Prod.snd) (remaining.map Prod.snd)) := by
  fun_induction scanMarkers marker remaining scan with
  | case1 scan =>
    simp only [List.map_nil, Delimiter.unquote]
    constructor <;> simp [MarkerScan.emitted]
  | case2 scan pair more found run sources after odd pending ih =>
    have split := (found_marker marker found).2
    rw [split, Delimiter.unquote_word, ← trailing_backslashes_run, if_pos odd]
    have decoded : pending.map Prod.snd =
        marker.delimiter.settleRun (scan.pending.map Prod.snd) ((run - 1) / 2) ++
          marker.delimiter.word := by
      rw [List.map_append, keep_slashes_bytes marker scan.pending (by omega),
        sources_zip_marker marker found, (found_marker marker found).1, marker.delimiter_word]
    rw [← decoded]
    exact ⟨ih.nonempty, ih.candidates, ih.cut, ih.kept, ih.boundary, ih.settled⟩
  | case3 scan pair more found run sources after even ih =>
    have split := (found_marker marker found).2
    rw [split, Delimiter.unquote_word, ← trailing_backslashes_run, if_neg even]
    rw [← keep_slashes_bytes marker scan.pending (Nat.div_le_self ..)]
    refine scanned_candidate ?_ ih
    have spelled := (found_marker marker found).1
    simp only [sources]
    rw [← List.map_take, emitted_candidate marker.bytes spelled, spelled]
  | case4 scan pair more absent ih =>
    have missing : ¬ marker.delimiter.word <+: pair.2 :: more.map Prod.snd := by
      exact absent
    rw [List.map_cons, marker.delimiter.unquote_other _ missing]
    rw [List.map_append, List.map_singleton] at ih
    exact ⟨ih.nonempty, ih.candidates, ih.cut, ih.kept, ih.boundary, ih.settled⟩

/-- Resolution only drops bytes: what is emitted is read from the chunks, in order. -/
theorem scan_markers_sublist (includeCandidates : Bool) (remaining : List SourcedByte)
    (scan : MarkerScan) :
    ((scanMarkers marker remaining scan).emitted marker includeCandidates).Sublist
      (scan.emitted marker includeCandidates ++ remaining) := by
  fun_induction scanMarkers marker remaining scan with
  | case1 scan => simp
  | case2 scan pair more found run sources after odd pending ih =>
    refine ih.trans ?_
    have pending_eq : pending =
        keepSlashes scan.pending ((run - 1) / 2) ++ (pair :: more).take marker.bytes.length := by
      simp only [pending, sources, sources_zip_marker marker found]
    unfold MarkerScan.emitted
    rw [pending_eq, List.append_assoc, List.append_assoc, List.append_assoc, List.take_append_drop]
    exact (List.Sublist.refl _).append ((keep_slashes_sublist ..).append_right _)
  | case3 scan pair more found run sources after even ih =>
    refine ih.trans ?_
    have candidate : ((Piece.candidate sources).emitted marker.bytes includeCandidates).Sublist
        ((pair :: more).take marker.bytes.length) := by
      cases includeCandidates with
      | false => exact List.nil_sublist _
      | true =>
        simp only [sources]
        rw [← List.map_take, emitted_candidate marker.bytes (found_marker marker found).1]
    have rejoined := candidate.append_right after
    rw [List.take_append_drop] at rejoined
    simp only [MarkerScan.emitted, takeCandidate, List.flatMap_append, flush_pending_emitted,
      List.flatMap_singleton, List.append_nil, List.append_assoc]
    exact (List.Sublist.refl _).append ((keep_slashes_sublist ..).append rejoined)
  | case4 scan pair more absent ih =>
    refine ih.trans ?_
    simp [MarkerScan.emitted]

theorem materialize_eq (pieces : List Piece) (marker : List UInt8) (chunkCount : Nat)
    (includeCandidates : Bool) :
    materialize pieces marker chunkCount includeCandidates =
      ((pieces.flatMap (Piece.emitted marker includeCandidates)).foldl pushByte
          (List.replicate chunkCount []),
        (pieces.flatMap (Piece.emitted marker includeCandidates)).map Prod.snd) := by
  have both (pairs : List SourcedByte) (chunks : List (List UInt8)) (body : List UInt8) :
      pairs.foldl (fun (chunks, body) pair => (pushByte chunks pair, body ++ [pair.2])) (chunks, body) =
        (pairs.foldl pushByte chunks, body ++ pairs.map Prod.snd) := by
    induction pairs generalizing chunks body with
    | nil => simp
    | cons pair pairs ih => simp [ih]
  unfold materialize
  rw [both]
  rfl

variable {chunks : List (List UInt8)}

theorem push_byte_flatten {pair : SourcedByte} (bound : pair.1 < chunks.length)
    (empty : ∀ chunk ∈ chunks.drop (pair.1 + 1), chunk = []) :
    (pushByte chunks pair).flatten = chunks.flatten ++ [pair.2] := by
  have none : (chunks.drop (pair.1 + 1)).flatten = [] := List.flatten_eq_nil_iff.mpr empty
  have split : chunks.flatten =
      (chunks.take pair.1).flatten ++ (chunks[pair.1] ++ (chunks.drop (pair.1 + 1)).flatten) := by
    conv_lhs => rw [← List.take_append_drop pair.1 chunks]
    rw [List.flatten_append, List.drop_eq_getElem_cons bound, List.flatten_cons]
  unfold pushByte
  rw [List.modify_eq_take_cons_drop bound, List.flatten_append, List.flatten_cons, split, none]
  simp

theorem push_bytes_flatten {low : Nat}
    (sorted : pairs.Pairwise (fun left right => left.1 ≤ right.1))
    (bounds : ∀ pair ∈ pairs, low ≤ pair.1 ∧ pair.1 < chunks.length)
    (empty : ∀ chunk ∈ chunks.drop (low + 1), chunk = []) :
    (pairs.foldl pushByte chunks).flatten = chunks.flatten ++ pairs.map Prod.snd := by
  induction pairs generalizing chunks low with
  | nil => simp
  | cons pair pairs ih =>
    obtain ⟨least, later⟩ := List.pairwise_cons.mp sorted
    obtain ⟨above, bound⟩ := bounds pair (List.mem_cons_self ..)
    have beyond : ∀ chunk ∈ chunks.drop (pair.1 + 1), chunk = [] := by
      intro chunk member
      exact empty chunk ((List.drop_sublist_drop_left chunks (by omega)).subset member)
    have untouched : (pushByte chunks pair).drop (pair.1 + 1) = chunks.drop (pair.1 + 1) := by
      unfold pushByte
      rw [List.drop_modify_of_lt _ _ _ _ (Nat.lt_succ_self _)]
    have length : (pushByte chunks pair).length = chunks.length := by simp [pushByte]
    have rest : ∀ other ∈ pairs, pair.1 ≤ other.1 ∧ other.1 < (pushByte chunks pair).length := by
      intro other member
      rw [length]
      exact ⟨least other member, (bounds other (List.mem_cons_of_mem _ member)).2⟩
    have pushed := ih later rest (by rw [untouched]; exact beyond)
    rw [List.foldl_cons, pushed, push_byte_flatten bound beyond, List.map_cons, List.append_assoc]
    rfl

theorem sourced_from_bytes (chunks : List String) :
    (sourcedFrom chunkIdx chunks).map Prod.snd = asBytes (String.join chunks) := by
  rw [as_bytes_join]
  induction chunks generalizing chunkIdx with
  | nil => rfl
  | cons chunk chunks ih => simp [sourcedFrom, ih, Function.comp_def]

theorem sourced_from_bounds (chunks : List String) :
    ∀ pair ∈ sourcedFrom chunkIdx chunks, chunkIdx ≤ pair.1 ∧ pair.1 < chunkIdx + chunks.length := by
  induction chunks generalizing chunkIdx with
  | nil => simp [sourcedFrom]
  | cons chunk chunks ih =>
    intro pair member
    simp only [sourcedFrom, List.mem_append, List.mem_map] at member
    rcases member with ⟨byte, _, rfl⟩ | member
    · simp
    · have bounds := ih (chunkIdx + 1) pair member
      simp only [List.length_cons]
      omega

theorem sourced_from_sorted (chunks : List String) :
    (sourcedFrom chunkIdx chunks).Pairwise (fun left right => left.1 ≤ right.1) := by
  induction chunks generalizing chunkIdx with
  | nil => exact List.Pairwise.nil
  | cons chunk chunks ih =>
    apply List.pairwise_append.mpr
    refine ⟨?_, ih (chunkIdx + 1), ?_⟩
    · rw [List.pairwise_map]
      exact List.pairwise_of_forall (fun _ _ => Nat.le_refl _)
    · intro left leftMember right rightMember
      obtain ⟨byte, _, rfl⟩ := List.mem_map.mp leftMember
      have bounds := sourced_from_bounds (chunkIdx + 1) chunks right rightMember
      exact Nat.le_of_succ_le bounds.1

/-- What marker resolution is for: a text with one separator and something after it is a
process prefix and a deliverable; any other text stays as it is, with its markers. -/
def resolved (marker : List UInt8) : List (List UInt8) → List UInt8 × WrapperStatus × Nat
  | [processPrefix, deliverable] =>
    if deliverable = [] then
      (List.intercalate marker [processPrefix, deliverable],
        .unavailable "turn_ended_without_deliverable", 0)
    else (processPrefix ++ deliverable, .attested, processPrefix.length)
  | processPrefix :: next :: segments =>
    (List.intercalate marker (processPrefix :: next :: segments),
      .unavailable "multiple_commit_markers", 0)
  | segments =>
    (List.intercalate marker segments, .unavailable "turn_missing_deliverable_boundary", 0)

section Resolution

variable (chunks : List String) (marker : CommitMarker)

/-- The scan of all chunks. -/
def scanned : MarkerScan := scanMarkers marker (sourcedFrom 0 chunks) .start

variable (includeCandidates : Bool)

/-- The text of the scanned pieces, with or without the candidates. -/
def rewritten : List (List UInt8) × List UInt8 :=
  materialize (flushPending (scanned chunks marker).pieces (scanned chunks marker).pending)
    marker.bytes chunks.length includeCandidates

theorem resolve_marker_chunks_eq :
    resolveMarkerChunks chunks marker =
      concludeScan (scanned chunks marker).candidates (scanned chunks marker).prefixForFirst
        (rewritten chunks marker true) (rewritten chunks marker false) := rfl

theorem rewritten_eq :
    rewritten chunks marker includeCandidates =
      (((scanned chunks marker).emitted marker includeCandidates).foldl pushByte
          (List.replicate chunks.length []),
        ((scanned chunks marker).emitted marker includeCandidates).map Prod.snd) := by
  rw [rewritten, materialize_eq, flush_pending_emitted, MarkerScan.emitted]

theorem rewritten_flatten :
    (rewritten chunks marker includeCandidates).1.flatten =
      (rewritten chunks marker includeCandidates).2 := by
  have read : ((scanned chunks marker).emitted marker includeCandidates).Sublist
      (sourcedFrom 0 chunks) :=
    scan_markers_sublist marker includeCandidates (sourcedFrom 0 chunks) .start
  have bounds : ∀ pair ∈ (scanned chunks marker).emitted marker includeCandidates,
      0 ≤ pair.1 ∧ pair.1 < (List.replicate chunks.length ([] : List UInt8)).length := by
    intro pair member
    have bounds := sourced_from_bounds 0 chunks pair (read.subset member)
    rw [List.length_replicate]
    omega
  have empty : ∀ chunk ∈ (List.replicate chunks.length ([] : List UInt8)).drop 1, chunk = [] := by
    simp
  rw [rewritten_eq, push_bytes_flatten ((sourced_from_sorted 0 chunks).sublist read) bounds empty]
  simp

theorem resolve_chunks_flatten :
    (resolveMarkerChunks chunks marker).chunks.flatten = (resolveMarkerChunks chunks marker).body := by
  have kept := rewritten_flatten chunks marker true
  have cut := rewritten_flatten chunks marker false
  rw [resolve_marker_chunks_eq]
  unfold concludeScan
  split
  · exact kept
  · simp only
    split_ifs
    · exact kept
    · exact cut
  · exact kept

/-- Resolution depends on the chunks only through their concatenation. -/
theorem resolve_marker_chunks_refines :
    ((resolveMarkerChunks chunks marker).body, (resolveMarkerChunks chunks marker).status,
        (resolveMarkerChunks chunks marker).prefixBytes) =
      resolved marker.bytes (marker.delimiter.unquote [] (asBytes (String.join chunks))) := by
  have segmented := scan_markers_scanned marker (sourcedFrom 0 chunks) .start
  rw [sourced_from_bytes, ← scanned] at segmented
  have kept : (rewritten chunks marker true).2 = _ :=
    (congrArg Prod.snd (rewritten_eq ..)).trans segmented.kept
  have cut : (rewritten chunks marker false).2 = _ :=
    (congrArg Prod.snd (rewritten_eq ..)).trans segmented.cut
  have counted := segmented.candidates
  have boundary := segmented.boundary rfl
  have nonempty := segmented.nonempty
  simp only [MarkerScan.start, List.map_nil, List.flatMap_nil, List.nil_append, Nat.zero_add]
    at kept cut counted boundary nonempty
  rw [resolve_marker_chunks_eq]
  generalize marker.delimiter.unquote [] (asBytes (String.join chunks)) = segments at *
  match segments with
  | [] => exact absurd rfl nonempty
  | [segment] =>
    have none : (scanned chunks marker).candidates = 0 := Nat.succ.inj counted
    rw [none]
    simp [concludeScan, resolved, kept]
  | [processPrefix, deliverable] =>
    have one : (scanned chunks marker).candidates = 1 := Nat.succ.inj counted
    have measured := boundary processPrefix deliverable [] rfl
    rw [one, measured]
    by_cases nothing : deliverable = []
    · simp [concludeScan, resolved, kept, cut, nothing]
    · simp [concludeScan, resolved, cut, nothing]
  | processPrefix :: next :: another :: segments =>
    have many : (scanned chunks marker).candidates = segments.length + 2 := Nat.succ.inj counted
    rw [many]
    simp [concludeScan, resolved, kept]

/-- A text resolved in chunks is the text resolved in one piece, up to the rewritten chunks, which
join to its body. -/
theorem resolution_ignores_chunking :
    ∃ parts, parts.flatten = (resolveMarkerChunks [String.join chunks] marker).body ∧
      resolveMarkerChunks chunks marker =
        { resolveMarkerChunks [String.join chunks] marker with chunks := parts } := by
  have refines := resolve_marker_chunks_refines chunks marker
  have same := resolve_marker_chunks_refines [String.join chunks] marker
  rw [String.join_cons, String.join_nil, String.append_empty, ← refines] at same
  simp only [Prod.mk.injEq] at same
  refine ⟨_, (resolve_chunks_flatten chunks marker).trans same.1.symm, ?_⟩
  simp only [same]

end Resolution

end A2aBridge.AttestedWrapper
