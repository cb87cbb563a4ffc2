import A2aBridge.CustodyFrameAccount

/-!
Decoding does not depend on how the source splits its bytes or on how much content
the consumer reads. `placed` is the decoder over a source that answers every read in
full; every other splitting source is compared with it. `settle` says what draining
the pending file comes to, in terms of the bytes that are left.
-/

namespace A2aBridge.CustodyFrame

open ByteText ByteTransport LittleEndian StatefulRefusal CustodyFrameDecoderV1

def placed (state : DecoderStateV1) (bytes : List UInt8) : CustodyFrameDecoderV1 :=
  ⟨⟨bytes, []⟩, state⟩

/-- `mirror` is the decoder over the same bytes, answered in full. -/
def Mirrors (decoder mirror : CustodyFrameDecoderV1) : Prop :=
  decoder.source.Splitting ∧ mirror = placed decoder.state decoder.source.bytes

def Mirrored (program : DecoderM Value) : Prop := Agree Mirrors program program (Alike Mirrors)

section Mirror

theorem Mirrored.bind {first : DecoderM Value} {next : Value → DecoderM Other}
    (head : Mirrored first) (rest : ∀ value, Mirrored (next value)) : Mirrored (first >>= next) := by
  intro state mirror start
  rcases matched_cases (head state mirror start) with
    ⟨refusal, after, reached, leftRun, rightRun⟩ |
    ⟨value, _, after, reached, leftRun, rightRun, rfl, matched⟩
  · rw [bind_of_error leftRun, bind_of_error rightRun]
    exact rfl
  · rw [bind_of_ok leftRun, bind_of_ok rightRun]
    exact rest value after reached matched

theorem mirrored_pure (value : Value) : Mirrored (pure value) :=
  fun _ _ related => ⟨rfl, related⟩

theorem mirrored_throw (refusal : CustodyFrameErrorV1) : Mirrored (throw refusal : DecoderM Value) :=
  fun _ _ _ => rfl

theorem mirrored_check (outcome : FrameResult Value) : Mirrored (check outcome) := by
  intro decoder mirror related
  cases outcome with
  | ok value => exact ⟨rfl, related⟩
  | error refusal => exact rfl

theorem mirrored_require (condition : Bool) (refusal : CustodyFrameErrorV1) :
    Mirrored (require condition refusal) := by
  unfold require
  split
  · exact mirrored_pure ()
  · exact mirrored_throw refusal

theorem mirrored_modify (change : DecoderStateV1 → DecoderStateV1) :
    Mirrored (modifyState change) := by
  rintro decoder _ ⟨splitting, rfl⟩
  exact ⟨rfl, splitting, rfl⟩

theorem mirrored_get : Mirrored getState := by
  rintro decoder _ ⟨splitting, rfl⟩
  exact ⟨rfl, splitting, rfl⟩

theorem mirrored_admit_size (size : Nat) : Mirrored (admitSize size) := by
  rintro decoder _ ⟨splitting, rfl⟩
  unfold admitSize
  have same : (placed decoder.state decoder.source.bytes).state = decoder.state := rfl
  rw [same]
  cases checkedAdd decoder.state.admitted size with
  | none => exact rfl
  | some reached =>
    by_cases above : reached > decoder.state.recordLimit
    · simp only [above, ↓reduceIte]
      exact rfl
    · simp only [above, ↓reduceIte]
      exact ⟨rfl, splitting, rfl⟩

theorem mirrored_fill (want : Nat) : Mirrored (fill want) := by
  rintro decoder _ ⟨splitting, rfl⟩
  have split := read_exactly_splitting decoder.source want splitting
  unfold fill placed
  by_cases enough : want ≤ decoder.source.bytes.length
  · obtain ⟨rest, run, splits, remaining⟩ := split.1 enough
    rw [run, read_exactly_full _ _ enough]
    exact ⟨rfl, splits, by simp only [placed, remaining]⟩
  · have short := Nat.lt_of_not_le enough
    obtain ⟨rest, run⟩ := split.2 short
    obtain ⟨mirrorRest, mirrorRun⟩ :=
      (read_exactly_splitting ⟨decoder.source.bytes, []⟩ want (splitting_nil _)).2 short
    rw [run, mirrorRun]
    exact rfl

/-- One byte or none: the only size of a single read that does not depend on the split. -/
theorem mirrored_probe : Mirrored (readOnce 1) := by
  rintro decoder _ ⟨splitting, rfl⟩
  obtain ⟨chunk, rest, run, splits, bytes, bound, ended⟩ :=
    read_some_splitting decoder.source 1 splitting
  unfold readOnce placed
  rw [run, read_some_full, bytes]
  cases chunk with
  | nil =>
    have empty : decoder.source.bytes = [] := (ended rfl).resolve_left (by decide)
    rw [empty] at bytes
    have none : rest.bytes = [] := by simpa using bytes.symm
    rw [none]
    exact ⟨rfl, splits, by simp only [placed, none]; rfl⟩
  | cons byte more =>
    have single : more = [] := by simpa using bound
    subst single
    exact ⟨rfl, splits, rfl⟩

theorem mirrored_frame_bytes (want : Nat) : Mirrored (readFrameBytes want) :=
  (mirrored_fill want).bind fun _ =>
    (mirrored_modify _).bind fun _ => mirrored_pure _

theorem mirrored_uint (width : Nat) : Mirrored (readUint width) :=
  (mirrored_frame_bytes width).bind fun _ => mirrored_pure _

theorem mirrored_u8 : Mirrored readU8 := (mirrored_uint 1).bind fun _ => mirrored_pure _

theorem mirrored_header (expected : CustodyFrameHeaderV1) : Mirrored (readHeader expected) := by
  refine (mirrored_admit_size _).bind fun _ => ?_
  refine (mirrored_frame_bytes 8).bind fun _ => ?_
  refine (mirrored_require _ _).bind fun _ => ?_
  refine mirrored_u8.bind fun _ => ?_
  refine (mirrored_require _ _).bind fun _ => ?_
  refine mirrored_u8.bind fun _ => ?_
  refine (mirrored_check _).bind fun _ => ?_
  refine (mirrored_require _ _).bind fun _ => ?_
  refine (mirrored_uint 2).bind fun _ => ?_
  refine (mirrored_require _ _).bind fun _ => ?_
  refine (mirrored_admit_size _).bind fun _ => ?_
  refine (mirrored_modify _).bind fun _ => ?_
  refine (mirrored_frame_bytes _).bind fun _ => ?_
  refine (mirrored_check _).bind fun _ => ?_
  exact mirrored_require _ _

theorem mirrored_path : Mirrored readPath := by
  refine (mirrored_admit_size _).bind fun _ => ?_
  refine (mirrored_uint 2).bind fun _ => ?_
  refine (mirrored_require _ _).bind fun _ => ?_
  refine (mirrored_admit_size _).bind fun _ => ?_
  refine (mirrored_modify _).bind fun _ => ?_
  refine (mirrored_frame_bytes _).bind fun _ => ?_
  exact mirrored_check _

theorem mirrored_order (path : CustodyFramePathV1) (isDirectory : Bool) :
    Mirrored (admitOrder path isDirectory) :=
  mirrored_get.bind fun _ => (mirrored_modify _).bind fun _ => mirrored_check _

theorem mirrored_body (kind : RecordKindV1) (path : CustodyFramePathV1) :
    Mirrored (readBody kind path) := by
  cases kind with
  | directory =>
    refine (mirrored_admit_size _).bind fun _ => ?_
    refine (mirrored_uint 2).bind fun _ => ?_
    exact (mirrored_check _).bind fun _ => mirrored_pure _
  | regular =>
    refine (mirrored_admit_size _).bind fun _ => ?_
    refine (mirrored_uint 2).bind fun _ => ?_
    refine (mirrored_check _).bind fun _ => ?_
    refine (mirrored_uint 8).bind fun _ => ?_
    refine (mirrored_check _).bind fun _ => ?_
    refine (mirrored_admit_size _).bind fun _ => ?_
    refine mirrored_get.bind fun _ => ?_
    refine (mirrored_check _).bind fun _ => ?_
    exact (mirrored_modify _).bind fun _ => mirrored_pure _
  | symlink =>
    refine (mirrored_admit_size _).bind fun _ => ?_
    refine (mirrored_uint 2).bind fun _ => ?_
    refine (mirrored_require _ _).bind fun _ => ?_
    refine (mirrored_admit_size _).bind fun _ => ?_
    refine (mirrored_modify _).bind fun _ => ?_
    refine (mirrored_frame_bytes _).bind fun _ => ?_
    exact (mirrored_check _).bind fun _ => mirrored_pure _

variable (sha : Sha256)

theorem mirrored_trailer : Mirrored (readTrailer sha) := by
  refine (mirrored_uint 8).bind fun _ => ?_
  refine (mirrored_uint 8).bind fun _ => ?_
  refine mirrored_get.bind fun _ => ?_
  refine (mirrored_fill 32).bind fun _ => ?_
  refine (mirrored_require _ _).bind fun _ => ?_
  refine (mirrored_require _ _).bind fun _ => ?_
  refine (mirrored_require _ _).bind fun _ => ?_
  refine mirrored_probe.bind fun _ => ?_
  exact (mirrored_require _ _).bind fun _ => mirrored_modify _

theorem mirrored_entry (kind : RecordKindV1) : Mirrored (readEntry kind) := by
  refine mirrored_get.bind fun _ => ?_
  refine (mirrored_require _ _).bind fun _ => ?_
  refine (mirrored_admit_size _).bind fun _ => ?_
  refine mirrored_path.bind fun _ => ?_
  refine (mirrored_order _ _).bind fun _ => ?_
  refine (mirrored_body _ _).bind fun _ => ?_
  exact (mirrored_modify _).bind fun _ => mirrored_pure _

/-- The part of `next_record` after the drain. -/
def readTagged : DecoderM (Option RecordV1) := do
  let tag ← readU8
  if tag = TAG_TRAILER_V1 then do
    readTrailer sha
    pure none
  else
    match recordKind tag with
    | none => throw .unknownTag
    | some kind => do
        let record ← readEntry kind
        pure (some record)

theorem next_record_eq : nextRecord sha = drainPending sha >>= fun _ => readTagged sha := rfl

theorem mirrored_tagged : Mirrored (readTagged sha) := by
  refine mirrored_u8.bind fun tag => ?_
  split
  · exact (mirrored_trailer sha).bind fun _ => mirrored_pure _
  · cases recordKind tag with
    | none => exact mirrored_throw _
    | some kind => exact (mirrored_entry kind).bind fun _ => mirrored_pure _

end Mirror

variable {pending : PendingContentV1} {refusal : CustodyFrameErrorV1}

section Settling

variable (sha : Sha256)

/-- What draining the pending file comes to: the rest of the content and its digest are
taken, and the digest is checked over all content, whoever read it. -/
def settle (state : DecoderStateV1) (bytes : List UInt8) :
    FrameResult (DecoderStateV1 × List UInt8) :=
  match state.pending with
  | none => .ok (state, bytes)
  | some pending =>
    if bytes.length < pending.remaining + DIGEST_BYTES_V1 then .error .truncated
    else if sha.digest (pending.content ++ bytes.take pending.remaining) =
        (bytes.drop pending.remaining).take DIGEST_BYTES_V1 then
      .ok ({ state with
        frame := state.frame ++ bytes.take (pending.remaining + DIGEST_BYTES_V1)
        pending := none }, bytes.drop (pending.remaining + DIGEST_BYTES_V1))
    else .error .contentDigestMismatch

variable (decoder : CustodyFrameDecoderV1)

def settled : FrameResult (DecoderStateV1 × List UInt8) :=
  settle sha decoder.state decoder.source.bytes

def unreadContent : List UInt8 :=
  match decoder.state.pending with
  | none => []
  | some pending => decoder.source.bytes.take pending.remaining

variable {decoder : CustodyFrameDecoderV1}

/-- A content read hands out the next unread content and keeps what settling comes to. -/
structure Handed (capacity : Nat) (decoder : CustodyFrameDecoderV1) (chunk : List UInt8)
    (after : CustodyFrameDecoderV1) : Prop where
  splitting : after.source.Splitting
  kept : settled sha after = settled sha decoder
  content : unreadContent decoder = chunk ++ unreadContent after
  bound : chunk.length ≤ capacity
  progress : chunk = [] → capacity = 0 ∨ unreadContent decoder = []

variable (capacity : Nat) (splitting : decoder.source.Splitting)

include splitting

theorem read_content_hands :
    Ensured (Handed sha capacity decoder)
      (fun refusal _ => settled sha decoder = .error refusal)
      (readContentBytes capacity decoder) := by
  by_cases idle : ∀ pending, decoder.state.pending = some pending →
      chunkLength pending.remaining capacity = 0
  · rw [read_content_idle idle]
    refine ⟨splitting, rfl, rfl, Nat.zero_le _, fun _ => ?_⟩
    unfold unreadContent
    cases held : decoder.state.pending with
    | none => exact .inr rfl
    | some pending =>
      have none := idle pending held
      unfold chunkLength at none
      by_cases empty : capacity = 0
      · exact .inl empty
      · have zero : pending.remaining = 0 := by omega
        exact .inr (by simp [zero])
  · push Not at idle
    obtain ⟨pending, held, want⟩ := idle
    rw [read_content_some held want]
    obtain ⟨chunk, rest, run, splits, bytes, bound, ended⟩ := read_some_splitting decoder.source
      (chunkLength pending.remaining capacity) splitting
    rw [run]
    have room : chunk.length ≤ pending.remaining ∧ chunk.length ≤ capacity := by
      unfold chunkLength at bound
      omega
    -- The chunk moves from the unread bytes into the pending content.
    have kept : settled sha (afterChunk decoder pending chunk rest) = settled sha decoder := by
      obtain ⟨remaining, content⟩ := pending
      obtain ⟨later, rfl⟩ := Nat.exists_eq_add_of_le room.1
      unfold settled settle
      rw [held]
      simp [afterChunk, bytes, Nat.add_assoc, List.take_length_add_append]
    cases chunk with
    | nil =>
      have empty := (ended rfl).resolve_left want
      simp only [Ensured, settled, settle, held, empty, DIGEST_BYTES_V1]
      simp
    | cons byte more =>
      refine ⟨splits, kept, ?_, room.2, by simp⟩
      simp only [unreadContent, held, afterChunk, bytes]
      rw [List.take_append, List.take_of_length_le room.1]

/-- A computation that ends where settling ends, with the same refusal. -/
def Settles (outcome : FrameResult (DecoderStateV1 × List UInt8)) :
    EStateM.Result CustodyFrameErrorV1 CustodyFrameDecoderV1 Unit → Prop :=
  Ensured
    (fun _ decoder => decoder.source.Splitting ∧ outcome = .ok (decoder.state, decoder.source.bytes))
    (fun refusal _ => outcome = .error refusal)

theorem finish_content_settles
    (drained : decoder.unread = 0) : Settles (settled sha decoder) (finishContent sha decoder) := by
  unfold finishContent
  have current : getState decoder = .ok decoder.state decoder := rfl
  rw [bind_of_ok current]
  unfold settled settle
  cases held : decoder.state.pending with
  | none => exact ⟨splitting, rfl⟩
  | some pending =>
    have zero : pending.remaining = 0 := by simpa [unread, held] using drained
    have cleared : modifyState (fun state => { state with pending := none }) decoder =
        .ok () { decoder with state := { decoder.state with pending := none } } := rfl
    simp only [bind_of_ok cleared, zero, Nat.zero_add, List.take_zero, List.append_nil,
      List.drop_zero]
    have split := read_exactly_splitting decoder.source 32 splitting
    by_cases short : decoder.source.bytes.length < DIGEST_BYTES_V1
    · obtain ⟨rest, run⟩ := split.2 short
      have refused : readFrameBytes 32
          { decoder with state := { decoder.state with pending := none } } =
            .error .truncated ⟨rest, { decoder.state with pending := none }⟩ :=
        bind_of_error (by simp [fill, run])
      rw [bind_of_error refused, if_pos short]
      exact rfl
    · obtain ⟨rest, run, splits, remaining⟩ := split.1 (Nat.le_of_not_lt short)
      have filled : fill 32 { decoder with state := { decoder.state with pending := none } } =
          .ok (decoder.source.bytes.take 32) ⟨rest, { decoder.state with pending := none }⟩ := by
        simp [fill, run]
      have taken : readFrameBytes 32
          { decoder with state := { decoder.state with pending := none } } =
            .ok (decoder.source.bytes.take 32)
              ⟨rest, { decoder.state with
                frame := decoder.state.frame ++ decoder.source.bytes.take 32
                pending := none }⟩ :=
        bind_of_ok filled
      rw [bind_of_ok taken, if_neg short]
      by_cases same : sha.digest pending.content = decoder.source.bytes.take 32
      · rw [if_pos (by exact same)]
        simp only [require, same, decide_true, ↓reduceIte]
        exact ⟨splits, by simp only [remaining]; rfl⟩
      · rw [if_neg (by exact same)]
        simp only [require, same, decide_false, Bool.false_eq_true, ↓reduceIte]
        exact rfl

theorem discard_content_settles :
    Ensured
      (fun _ after => after.source.Splitting ∧ after.unread = 0 ∧
        settled sha after = settled sha decoder)
      (fun refusal _ => settled sha decoder = .error refusal)
      (discardContent decoder) := by
  induction amount : decoder.unread using Nat.strong_induction_on generalizing decoder with
  | _ amount ih =>
    rw [discardContent]
    split
    · rename_i done
      exact ⟨splitting, done, rfl⟩
    · rename_i left
      have handed := read_content_hands sha CONTENT_BUFFER_BYTES_V1 splitting
      split
      · rename_i refusal after run
        rw [run] at handed
        exact handed
      · rename_i chunk after run
        rw [run] at handed
        have shrinks := read_content_shrinks (by decide) left run
        have rest := ih after.unread (amount ▸ shrinks) handed.splitting rfl
        rw [handed.kept] at rest
        exact rest

theorem drain_pending_settles : Settles (settled sha decoder) (drainPending sha decoder) := by
  refine (discard_content_settles sha splitting).bind ?_
  rintro _ after ⟨splits, none, same⟩
  rw [← same]
  exact finish_content_settles sha splits none

variable {bytes : List UInt8} {state : DecoderStateV1}

omit splitting in
theorem settle_idle {after : DecoderStateV1} {rest : List UInt8}
    (done : settle sha state bytes = .ok (after, rest)) : after.pending = none := by
  unfold settle at done
  split at done
  · rename_i idle
    cases done
    exact idle
  · split at done
    · cases done
    · split at done
      · cases done
        rfl
      · cases done

theorem read_yielded_hands :
    Ensured (Handed sha capacity decoder)
      (fun refusal _ => settled sha decoder = .error refusal)
      (readYieldedContent sha capacity decoder) := by
  refine (read_content_hands sha capacity splitting).bind fun chunk after handed => ?_
  have current : getState after = .ok after.state after := rfl
  rw [bind_of_ok current]
  split
  · rename_i exhausted
    obtain ⟨pending, held, zero⟩ : ∃ pending, after.state.pending = some pending ∧
        pending.remaining = 0 := by
      simpa [Option.any_eq_true] using exhausted
    have finished := finish_content_settles sha handed.splitting (by simp [unread, held, zero])
    rw [handed.kept] at finished
    refine Ensured.bind finished ?_
    rintro _ closing ⟨splits, outcome⟩
    have idle := settle_idle sha outcome
    refine ⟨splits, Eq.trans (by simp [settled, settle, idle]) outcome.symm, ?_, handed.bound, handed.progress⟩
    have none : unreadContent after = [] := by simp [unreadContent, held, zero]
    rw [handed.content, none]
    simp [unreadContent, idle]
  · exact handed

theorem consumer_read_hands (clean : decoder.state.phase ≠ .poisoned) :
    Ensured (Handed sha capacity decoder)
      (fun refusal _ => settled sha decoder = .error refusal)
      (consumerRead sha capacity decoder) := by
  have handed := read_yielded_hands sha capacity splitting
  unfold consumerRead
  rw [if_neg clean]
  cases run : readYieldedContent sha capacity decoder with
  | error | ok =>
    rw [run] at handed
    exact handed

theorem next_entry_refused (opened : decoder.state.phase = .opened)
    (outcome : settled sha decoder = .error refusal) :
    ∃ after, nextEntry sha decoder = .error refusal after := by
  have drained := drain_pending_settles sha splitting
  rw [outcome] at drained
  unfold nextEntry
  rw [opened, next_record_eq]
  cases run : drainPending sha decoder with
  | ok _ after =>
    rw [run] at drained
    cases drained.2
  | error reason after =>
    rw [run] at drained
    cases drained
    rw [bind_of_error run]
    exact ⟨_, rfl⟩

theorem next_entry_settled (opened : decoder.state.phase = .opened)
    (outcome : settled sha decoder = .ok (state, bytes)) :
    Matched (Alike Mirrors) (nextEntry sha decoder) (readTagged sha (placed state bytes)) := by
  have drained := drain_pending_settles sha splitting
  rw [outcome] at drained
  unfold nextEntry
  rw [opened, next_record_eq]
  cases run : drainPending sha decoder with
  | error reason after =>
    rw [run] at drained
    cases drained
  | ok _ after =>
    rw [run] at drained
    obtain ⟨splits, same⟩ := drained
    cases same
    simp only [bind_of_ok run]
    rcases matched_cases (mirrored_tagged sha after _ ⟨splits, rfl⟩) with
      ⟨refusal, last, mirror, left, right⟩ | ⟨record, other, last, mirror, left, right, agreed⟩
    · rw [left, right]
      exact rfl
    · rw [left, right]
      exact agreed

end Settling

section Consumers

variable (sha : Sha256)

inductive DecoderVerdict where
  | complete
  | refused (refusal : CustodyFrameErrorV1)
  deriving DecidableEq

/-- Reads through one lent content reader, up to a refusal: the chunks, the refusal. -/
def contentReads : List Nat → CustodyFrameDecoderV1 →
    (List (List UInt8) × Option CustodyFrameErrorV1) × CustodyFrameDecoderV1
  | [], decoder => (([], none), decoder)
  | size :: sizes, decoder =>
    match consumerRead sha size decoder with
    | .error refusal after => (([], some refusal), after)
    | .ok chunk after =>
      let rest := contentReads sizes after
      ((chunk :: rest.1.1, rest.1.2), rest.2)

/-- Only a regular file lends a content reader; `plan` gives the read sizes per entry. -/
def readSizes (plan : Nat → List Nat) (index : Nat) : RecordV1 → List Nat
  | .directory _ _ => []
  | .regular _ _ _ => plan index
  | .symlink _ _ => []

/-- A consumer that calls `next_entry` at most `fuel` times, until a verdict. -/
def consume (plan : Nat → List Nat) : Nat → Nat → CustodyFrameDecoderV1 →
    List (RecordV1 × List (List UInt8)) × Option DecoderVerdict
  | 0, _, _ => ([], none)
  | fuel + 1, index, decoder =>
    match nextEntry sha decoder with
    | .error refusal _ => ([], some (.refused refusal))
    | .ok none _ => ([], some .complete)
    | .ok (some record) after =>
      match contentReads sha (readSizes plan index record) after with
      | ((chunks, some refusal), _) => ([(record, chunks)], some (.refused refusal))
      | ((chunks, none), last) =>
        let rest := consume plan fuel (index + 1) last
        ((record, chunks) :: rest.1, rest.2)

/-- A whole decoding. The budget admits at most `max_entries` entries, so one call more
reaches a verdict. -/
def decode (source : Source IoErrorKind) (header : CustodyFrameHeaderV1)
    (budget : CustodyFrameBudgetV1) (plan : Nat → List Nat) :
    List (RecordV1 × List (List UInt8)) × Option DecoderVerdict :=
  match CustodyFrameDecoderV1.new source header budget with
  | .error refusal _ => ([], some (.refused refusal))
  | .ok _ decoder => consume sha plan (budget.maxEntries + 1) 0 decoder

/-- The same decoding on settled bytes: each entry with its whole content. -/
def scan : Nat → FrameResult (DecoderStateV1 × List UInt8) →
    List (RecordV1 × List UInt8) × Option DecoderVerdict
  | _, .error refusal => ([], some (.refused refusal))
  | 0, .ok _ => ([], none)
  | fuel + 1, .ok (state, bytes) =>
    match readTagged sha (placed state bytes) with
    | .error refusal _ => ([], some (.refused refusal))
    | .ok none _ => ([], some .complete)
    | .ok (some record) after =>
      let rest := scan fuel (settled sha after)
      ((record, unreadContent after) :: rest.1, rest.2)

/-- Reads of the given sizes hand out `content` in order: no chunk is longer than asked
for, and none is empty before the content is used up. -/
def Delivers : List UInt8 → List Nat → List (List UInt8) → Prop
  | _, [], [] => True
  | content, size :: sizes, chunk :: chunks =>
    ∃ rest, content = chunk ++ rest ∧ chunk.length ≤ size ∧
      (chunk = [] → size = 0 ∨ content = []) ∧ Delivers rest sizes chunks
  | _, _, _ => False

def Delivered (plan : Nat → List Nat) : Nat → List (RecordV1 × List (List UInt8)) →
    List (RecordV1 × List UInt8) → Prop
  | _, [], [] => True
  | index, (record, chunks) :: yields, (other, content) :: rest =>
    record = other ∧ Delivers content (readSizes plan index record) chunks ∧
      Delivered plan (index + 1) yields rest
  | _, _, _ => False

variable {budget : CustodyFrameBudgetV1} {total : Nat} {account : Account}

/-- An open decoder over a splitting source, with `count` entries behind it. -/
def Ready (budget : CustodyFrameBudgetV1) (total count : Nat) (decoder : CustodyFrameDecoderV1) :
    Prop :=
  decoder.source.Splitting ∧
    ∃ account : Account, account.Due ∧ account.entries = count ∧ Balanced budget total account decoder

variable {count : Nat} {decoder : CustodyFrameDecoderV1}

theorem content_reads_hand (sizes : List Nat) (ready : Ready budget total count decoder) :
    (∃ refusal, (contentReads sha sizes decoder).1.2 = some refusal ∧
      settled sha decoder = .error refusal) ∨
    ((contentReads sha sizes decoder).1.2 = none ∧
      Ready budget total count (contentReads sha sizes decoder).2 ∧
      settled sha (contentReads sha sizes decoder).2 = settled sha decoder ∧
      Delivers (unreadContent decoder) sizes (contentReads sha sizes decoder).1.1) := by
  induction sizes generalizing decoder with
  | nil => exact .inr ⟨rfl, ready, rfl, trivial⟩
  | cons size sizes ih =>
    obtain ⟨splitting, account, due, counted, balanced⟩ := ready
    have handed := consumer_read_hands sha size splitting (by rw [balanced.opened]; decide)
    have accounted := consumer_read_accounts sha size due decoder balanced
    unfold contentReads
    cases run : consumerRead sha size decoder with
    | error refusal after =>
      rw [run] at handed
      exact .inl ⟨refusal, rfl, handed⟩
    | ok chunk after =>
      rw [run] at handed accounted
      obtain ⟨next, ⟨dueNext, _, same⟩, balancedNext⟩ := accounted
      have later := ih ⟨handed.splitting, next, dueNext, same.trans counted, balancedNext⟩
      rw [handed.kept] at later
      rcases later with ⟨refusal, refused, outcome⟩ | ⟨none, readyLast, kept, delivers⟩
      · exact .inl ⟨refusal, refused, outcome⟩
      · exact .inr ⟨none, readyLast, kept, unreadContent after, handed.content, handed.bound,
          handed.progress, delivers⟩

/-- A consumer's observation follows the scan: the same records, the same verdict, and
on completion the scanned contents. -/
structure Follows (plan : Nat → List Nat) (index : Nat)
    (observed : List (RecordV1 × List (List UInt8)) × Option DecoderVerdict)
    (scanned : List (RecordV1 × List UInt8) × Option DecoderVerdict) : Prop where
  records : observed.1.map Prod.fst = scanned.1.map Prod.fst
  verdict : observed.2 = scanned.2
  decided : ∃ verdict, observed.2 = some verdict
  delivered : observed.2 = some .complete → Delivered plan index observed.1 scanned.1

variable {after : CustodyFrameDecoderV1} (plan : Nat → List Nat) (source : Source IoErrorKind)
  (header : CustodyFrameHeaderV1)

theorem follows_verdict (index : Nat) (verdict : DecoderVerdict) :
    Follows plan index ([], some verdict) ([], some verdict) :=
  ⟨rfl, rfl, ⟨verdict, rfl⟩, fun _ => trivial⟩

theorem follows_yield (fuel index : Nat) (record : RecordV1)
    (ready : Ready budget total count decoder)
    (later : ∀ last, Ready budget total count last →
      Follows plan (index + 1) (consume sha plan fuel (index + 1) last) (scan sha fuel (settled sha last))) :
    Follows plan index
      (match contentReads sha (readSizes plan index record) decoder with
        | ((chunks, some refusal), _) => ([(record, chunks)], some (.refused refusal))
        | ((chunks, none), last) =>
          ((record, chunks) :: (consume sha plan fuel (index + 1) last).1,
            (consume sha plan fuel (index + 1) last).2))
      ((record, unreadContent decoder) :: (scan sha fuel (settled sha decoder)).1,
        (scan sha fuel (settled sha decoder)).2) := by
  have handed := content_reads_hand sha (readSizes plan index record) ready
  cases run : contentReads sha (readSizes plan index record) decoder with
  | mk outcome last =>
    obtain ⟨chunks, refused⟩ := outcome
    rw [run] at handed
    rcases handed with ⟨refusal, same, outcome⟩ | ⟨same, readyLast, kept, delivers⟩
    · subst same
      rw [outcome]
      simp only [scan]
      exact ⟨rfl, rfl, ⟨_, rfl⟩, by simp⟩
    · subst same
      have rest := later last readyLast
      rw [kept] at rest
      refine ⟨?_, rest.verdict, rest.decided, fun complete => ⟨rfl, delivers, rest.delivered complete⟩⟩
      simp [rest.records]

/-- The induction is on the calls left; `Ready` counts the entries, so with enough calls
left the budget stops the run before the fuel does. -/
theorem consume_follows (fuel : Nat) {index : Nat}
    (ready : Ready budget total count decoder) (enough : budget.maxEntries < count + fuel) :
    Follows plan index (consume sha plan fuel index decoder) (scan sha fuel (settled sha decoder)) := by
  induction fuel generalizing index count decoder with
  | zero =>
    obtain ⟨_, account, _, counted, balanced⟩ := ready
    have bound := balanced.entries_le
    omega
  | succ fuel ih =>
    have opened : decoder.state.phase = .opened := by
      obtain ⟨_, account, _, _, balanced⟩ := ready
      exact balanced.opened
    unfold consume
    cases outcome : settled sha decoder with
    | error refusal =>
      obtain ⟨after, run⟩ := next_entry_refused sha ready.1 opened outcome
      rw [run]
      exact follows_verdict plan index _
    | ok reached =>
      unfold scan
      rcases matched_cases (next_entry_settled sha ready.1 opened outcome) with
        ⟨refusal, after, mirror, run, mirrorRun⟩ |
        ⟨record, _, after, mirror, run, mirrorRun, rfl, mirrors⟩
      · rw [run, mirrorRun]
        exact follows_verdict plan index _
      · rw [run, mirrorRun]
        cases record with
        | none => exact follows_verdict plan index _
        | some record =>
          obtain ⟨_, account, due, counted, balanced⟩ := ready
          obtain ⟨next, dueNext, _, more, balancedNext⟩ :=
            (next_entry_accounts sha due decoder balanced).of_ok run
          obtain ⟨splits, rfl⟩ := mirrors
          exact follows_yield sha plan fuel index record
            ⟨splits, next, dueNext, by rw [more, counted], balancedNext⟩
            (fun last readyLast => ih readyLast (by omega))

def scanFrame (bytes : List UInt8) (header : CustodyFrameHeaderV1) (budget : CustodyFrameBudgetV1) :
    List (RecordV1 × List UInt8) × Option DecoderVerdict :=
  match CustodyFrameDecoderV1.new ⟨bytes, []⟩ header budget with
  | .error refusal _ => ([], some (.refused refusal))
  | .ok _ decoder => scan sha (budget.maxEntries + 1) (settled sha decoder)

theorem new_mirrors (budget : CustodyFrameBudgetV1) (splitting : source.Splitting) :
    Matched (Alike Mirrors) (CustodyFrameDecoderV1.new source header budget)
      (CustodyFrameDecoderV1.new ⟨source.bytes, []⟩ header budget) := by
  unfold CustodyFrameDecoderV1.new
  cases budget.recordLimit with
  | error refusal => exact rfl
  | ok limit => exact mirrored_header header _ _ ⟨splitting, rfl⟩

theorem new_ready {source : Source IoErrorKind} {header : CustodyFrameHeaderV1}
    (splitting : decoder.source.Splitting)
    (opened : CustodyFrameDecoderV1.new source header budget = .ok () decoder) :
    Ready budget source.bytes.length 0 decoder := by
  cases limit : budget.recordLimit with
  | error refusal =>
    unfold CustodyFrameDecoderV1.new at opened
    rw [limit] at opened
    cases opened
  | ok recordLimit =>
    obtain ⟨account, due, none, balanced⟩ := (new_accounts source header limit).of_ok opened
    exact ⟨splitting, account, due, none, balanced⟩

theorem decode_follows
    (budget : CustodyFrameBudgetV1) (plan : Nat → List Nat) (splitting : source.Splitting) :
    Follows plan 0 (decode sha source header budget plan) (scanFrame sha source.bytes header budget) := by
  unfold decode scanFrame
  rcases matched_cases (new_mirrors source header budget splitting) with
    ⟨refusal, decoder, mirror, run, mirrorRun⟩ |
    ⟨_, _, decoder, mirror, run, mirrorRun, _, splits, rfl⟩
  · rw [run, mirrorRun]
    exact follows_verdict plan 0 _
  · rw [run, mirrorRun]
    exact consume_follows sha plan (budget.maxEntries + 1) (new_ready splits run) (by omega)

theorem run_refused_poisons (call : DecoderCall)
    (refused : (call.run sha decoder).1 = .refused refusal) :
    (call.run sha decoder).2.state.phase = .poisoned := by
  cases call with
  | nextEntry =>
    simp only [DecoderCall.run] at refused ⊢
    cases run : nextEntry sha decoder with
    | ok record after =>
      rw [run] at refused
      cases record <;> cases refused
    | error reason after =>
      unfold nextEntry at run
      cases phase : decoder.state.phase with
      | poisoned =>
        rw [phase] at run
        cases run
        exact phase
      | complete =>
        rw [phase] at run
        cases run
      | opened =>
        rw [phase] at run
        cases step : nextRecord sha decoder with
        | ok record last =>
          rw [step] at run
          cases run
        | error cause last =>
          rw [step] at run
          cases run
          rfl
  | read capacity =>
    simp only [DecoderCall.run] at refused ⊢
    cases run : consumerRead sha capacity decoder with
    | ok chunk after =>
      rw [run] at refused
      cases refused
    | error reason after =>
      unfold consumerRead at run
      by_cases phase : decoder.state.phase = .poisoned
      · rw [if_pos phase] at run
        cases run
        exact phase
      · rw [if_neg phase] at run
        cases step : readYieldedContent sha capacity decoder with
        | ok chunk last =>
          rw [step] at run
          cases run
        | error cause last =>
          rw [step] at run
          cases run
          rfl

theorem run_poisoned (call : DecoderCall) (poisoned : decoder.state.phase = .poisoned) :
    call.run sha decoder = (.refused .poisoned, decoder) := by
  cases call with
  | nextEntry => simp [DecoderCall.run, nextEntry, poisoned]
  | read capacity => simp [DecoderCall.run, consumerRead, poisoned]

end Consumers

/-- Entries and verdict depend on the bytes only: not on the split into reads, not on how
much content is read. Skipped content is checked, and a refusal is final. -/
theorem decoding_independent_of_reading (sha : Sha256) (header : CustodyFrameHeaderV1)
    (budget : CustodyFrameBudgetV1) :
    (∀ left right : Source IoErrorKind, left.Splitting → right.Splitting → left.bytes = right.bytes →
      ∀ leftPlan rightPlan : Nat → List Nat,
        (decode sha left header budget leftPlan).1.map Prod.fst =
          (decode sha right header budget rightPlan).1.map Prod.fst ∧
        (decode sha left header budget leftPlan).2 = (decode sha right header budget rightPlan).2 ∧
        ∃ verdict, (decode sha left header budget leftPlan).2 = some verdict) ∧
    (∀ decoder after pending record, decoder.source.Splitting → decoder.state.phase = .opened →
      decoder.state.pending = some pending → nextEntry sha decoder = .ok record after →
      ∃ rest tail, decoder.source.bytes = rest ++ sha.digest (pending.content ++ rest) ++ tail ∧
        rest.length = pending.remaining) ∧
    (∀ (call : DecoderCall) decoder refusal calls, (call.run sha decoder).1 = .refused refusal →
      ∀ reply ∈ (runDecoderCalls sha calls (call.run sha decoder).2).1, reply = .refused .poisoned) := by
  refine ⟨?_, ?_, ?_⟩
  · intro left right leftSplits rightSplits same leftPlan rightPlan
    have first := decode_follows sha left header budget leftPlan leftSplits
    have second := decode_follows sha right header budget rightPlan rightSplits
    rw [← same] at second
    exact ⟨first.records.trans second.records.symm, first.verdict.trans second.verdict.symm,
      first.decided⟩
  · intro decoder after pending record splitting opened held run
    -- Whatever part of a file the consumer skipped, its content carries its own digest.
    cases outcome : settled sha decoder with
    | error refusal =>
      obtain ⟨_, refused⟩ := next_entry_refused sha splitting opened outcome
      rw [run] at refused
      cases refused
    | ok reached =>
      simp only [settled, settle, held] at outcome
      split at outcome
      · cases outcome
      · split at outcome
        · rename_i same
          refine ⟨decoder.source.bytes.take pending.remaining,
            (decoder.source.bytes.drop pending.remaining).drop DIGEST_BYTES_V1, ?_, ?_⟩
          · rw [same, List.append_assoc, List.take_append_drop, List.take_append_drop]
          · rw [List.length_take]
            omega
        · cases outcome
  · intro call decoder refusal calls refused
    have poisoned := run_refused_poisons sha call refused
    induction calls with
    | nil =>
      nofun
    | cons call rest ih =>
      simp only [runDecoderCalls, run_poisoned sha call poisoned]
      exact List.forall_mem_cons.mpr ⟨rfl, ih⟩

end A2aBridge.CustodyFrame
