import A2aBridge.CustodyFrameEncoder
import A2aBridge.CustodyFrameGrammar

/-!
What the encoder hands to its sink. `Emitted` ties an open encoder to the ledger of
the frame written so far. Every method has one contract: it succeeds only on a
record that the ledger admits, and then writes exactly that record; a refusal
stays within the byte budget, and never happens when the sink and the content
reader only split and the record is admissible.
-/

namespace A2aBridge.CustodyFrame

open FrameLedger (absorb admitEntries admitEntry admit_record_iff)

open ByteText ByteTransport LittleEndian StatefulRefusal CustodyFrameEncoderV1

theorem write_all_takes (sink : Sink IoErrorKind) (bytes : List UInt8) :
    ∃ taken, (writeAll sink bytes).2.written = sink.written ++ taken ∧
      taken.length ≤ bytes.length ∧
      ((writeAll sink bytes).1 = .ok () → taken = bytes) ∧
      (sink.Splitting → (writeAll sink bytes).1 = .ok () ∧ (writeAll sink bytes).2.Splitting) := by
  fun_induction writeAll sink bytes with
  | case1 sink => exact ⟨[], by simp, by simp, fun _ => rfl, fun splitting => ⟨rfl, splitting⟩⟩
  | case2 sink bytes nonempty rest answered | case6 sink bytes nonempty kind rest answered
  | case4 sink bytes nonempty count rest answered excess =>
    obtain ⟨taken, written, bound, _⟩ := write_takes sink bytes
    refine ⟨taken, by rw [← written, answered], bound, fun done => (by cases done), ?_⟩
    intro splitting
    have outcome := (write_splitting sink bytes nonempty splitting).2
    grind
  | case3 sink bytes nonempty count rest answered fits ih =>
    obtain ⟨taken, written, _, reported, _⟩ := write_takes sink bytes
    obtain ⟨more, moreWritten, moreBound, whole, splits⟩ := ih
    rw [answered] at written reported
    have first := reported (count + 1) rfl fits
    subst first
    refine ⟨bytes.take (count + 1) ++ more, ?_, ?_, ?_, ?_⟩
    · rw [moreWritten, written, List.append_assoc]
    · simp only [List.length_append, List.length_take, List.length_drop] at moreBound ⊢
      omega
    · intro done
      rw [whole done, List.take_append_drop]
    · intro splitting
      have next := (write_splitting sink bytes nonempty splitting).1
      rw [answered] at next
      exact splits next
  | case5 sink bytes nonempty rest answered ih =>
    obtain ⟨taken, written, _, _, none⟩ := write_takes sink bytes
    obtain ⟨more, moreWritten, moreBound, whole, splits⟩ := ih
    rw [answered] at written none
    rw [none rfl, List.append_nil] at written
    refine ⟨more, by rw [moreWritten, written], moreBound, whole, ?_⟩
    intro splitting
    have next := (write_splitting sink bytes nonempty splitting).1
    rw [answered] at next
    exact splits next

variable {ledger : FrameLedger} {encoder : CustodyFrameEncoderV1}

section Contracts

variable (smooth good : Prop) (budget : CustodyFrameBudgetV1) (base : List UInt8)

/-- The sink holds what it held before, then exactly the ledger's bytes. `smooth` is the
assumption on the sink; under it the sink keeps splitting. -/
structure Emitted (ledger : FrameLedger) (encoder : CustodyFrameEncoderV1) : Prop where
  budget_eq : encoder.budget = budget
  limit_eq : encoder.recordLimit + TRAILER_BYTES_V1 = budget.maxFrameBytes
  clean : encoder.poisoned = false
  written : encoder.sink.written = base ++ ledger.bytes
  frame_eq : encoder.frame = ledger.bytes
  frame_bytes : encoder.frameBytes = ledger.bytes.length
  order_eq : encoder.order = ledger.order
  entries_eq : encoder.entries = ledger.entries
  content_eq : encoder.contentBytes = ledger.contentBytes
  within : ledger.bytes.length ≤ budget.maxFrameBytes
  entries_le : ledger.entries ≤ budget.maxEntries
  content_le : ledger.contentBytes ≤ budget.maxFrameBytes
  flows : smooth → encoder.sink.Splitting

/-- The bounds that hold after any call: what the sink took, and every counter. -/
structure Within (encoder : CustodyFrameEncoderV1) : Prop where
  written : ∃ bytes, encoder.sink.written = base ++ bytes ∧
    bytes.length ≤ budget.maxFrameBytes ∧ encoder.frameBytes ≤ bytes.length
  entries_le : encoder.entries ≤ budget.maxEntries
  content_le : encoder.contentBytes ≤ budget.maxFrameBytes

/-- What a refused call leaves. `good` is the assumption on the call's own arguments: a
call with good arguments on a smooth sink is not refused. -/
def Overdrawn (encoder : CustodyFrameEncoderV1) : Prop :=
  Within budget base encoder ∧ ¬ (smooth ∧ good)

variable {smooth good budget base}

theorem Emitted.within_bounds (emitted : Emitted smooth budget base ledger encoder) :
    Within budget base encoder where
  written := ⟨ledger.bytes, emitted.written, emitted.within, Nat.le_of_eq emitted.frame_bytes⟩
  entries_le := emitted.entries_eq ▸ emitted.entries_le
  content_le := emitted.content_eq ▸ emitted.content_le

theorem Emitted.bounded (emitted : Emitted smooth budget base ledger encoder) (bad : ¬ good) :
    Overdrawn smooth good budget base encoder :=
  ⟨emitted.within_bounds, fun both => bad both.2⟩

/-- A method's contract over ledgers. -/
def Emits (smooth good : Prop) (budget : CustodyFrameBudgetV1) (base : List UInt8) (before : FrameLedger)
    (program : EncoderM Value) (after : Value → FrameLedger → Prop) : Prop :=
  Ensures (Emitted smooth budget base before) program
    (fun value encoder => ∃ ledger, after value ledger ∧ Emitted smooth budget base ledger encoder)
    (fun _ => Overdrawn smooth good budget base)

theorem Emits.bind {first : EncoderM Value} {middle : Value → FrameLedger → Prop}
    {next : Value → EncoderM Other} {after : Other → FrameLedger → Prop}
    (head : Emits smooth good budget base ledger first middle)
    (rest : ∀ value between, middle value between → Emits smooth good budget base between (next value) after) :
    Emits smooth good budget base ledger (first >>= next) after := by
  apply ensures_bind head
  rintro value encoder ⟨between, reached, emitted⟩
  exact rest value between reached encoder emitted

variable {after : Value → FrameLedger → Prop} {left right : Nat}

variable {program : EncoderM Value} {sum : Nat}

theorem Emits.mono {stronger : Value → FrameLedger → Prop}
    (contract : Emits smooth good budget base ledger program stronger)
    (kept : ∀ value between, stronger value between → after value between) :
    Emits smooth good budget base ledger program after := by
  apply Ensures.mono contract
  rintro value _ ⟨between, reached, done⟩
  exact ⟨between, kept value between reached, done⟩

theorem emits_pure (value : Value) (kept : after value ledger) :
    Emits smooth good budget base ledger (pure value) after :=
  fun _ emitted => ⟨ledger, kept, emitted⟩

theorem emits_throw (refusal : CustodyFrameErrorV1)
    (bad : ¬ good) : Emits smooth good budget base ledger (throw refusal) after :=
  fun _ emitted => emitted.bounded bad

theorem emits_check (outcome : FrameResult Value) (bad : (∀ value, outcome ≠ .ok value) → ¬ good) :
    Emits smooth good budget base ledger (check outcome)
      (fun value after => ledger = after ∧ outcome = .ok value) := by
  intro encoder emitted
  cases outcome with
  | ok value => exact ⟨ledger, ⟨rfl, rfl⟩, emitted⟩
  | error refusal => exact emitted.bounded (bad (by simp))

theorem check_ok_bind (value : Value) (next : Value → EncoderM Other) :
    (check (.ok value) >>= next) = next value := rfl

theorem checked_add_small (budget : CustodyFrameBudgetV1)
    (small : left + right ≤ budget.maxFrameBytes) :
    checkedAdd left right = some (left + right) := by
  have ceiling := budget.bytes_ceiling
  unfold MAX_FRAME_BYTES_V1 at ceiling
  unfold checkedAdd
  rw [if_pos (by omega)]

theorem emits_emit (bytes : List UInt8)
    (fits : ledger.bytes.length + bytes.length ≤ budget.maxFrameBytes) :
    Emits smooth good budget base ledger (emit bytes) (fun _ after => after = ledger.absorb bytes) := by
  intro encoder emitted
  obtain ⟨taken, written, bound, whole, splits⟩ := write_all_takes encoder.sink bytes
  unfold emit
  cases run : writeAll encoder.sink bytes with
  | mk outcome sink =>
    rw [run] at written whole splits
    simp only at written whole splits
    cases outcome with
    | error refusal =>
      refine ⟨{ emitted.within_bounds with written := ⟨ledger.bytes ++ taken, ?_, ?_, ?_⟩ }, ?_⟩
      · simp [written, emitted.written]
      · simp only [List.length_append]
        omega
      · simp only [List.length_append, emitted.frame_bytes]
        omega
      · intro both
        have done := (splits (emitted.flows both.1)).1
        cases done
    | ok _ =>
      have all := whole rfl
      subst all
      have sum : checkedAdd encoder.frameBytes taken.length =
          some (ledger.bytes.length + taken.length) := by
        rw [emitted.frame_bytes]
        exact checked_add_small budget fits
      simp only [sum]
      refine ⟨_, rfl, { emitted with
        written := ?_
        frame_eq := ?_
        frame_bytes := ?_
        within := ?_
        flows := ?_ }⟩
      · simp [written, emitted.written, absorb]
      · simp [emitted.frame_eq, absorb]
      · simp [absorb]
      · simp only [absorb, List.length_append]
        exact fits
      · intro ok
        exact (splits (emitted.flows ok)).2

theorem emits_admit_bytes (size : Nat)
    (bad : budget.maxFrameBytes < ledger.bytes.length + size + TRAILER_BYTES_V1 → ¬ good) :
    Emits smooth good budget base ledger (admitBytes size)
      (fun _ after => ledger = after ∧
        ledger.bytes.length + size + TRAILER_BYTES_V1 ≤ budget.maxFrameBytes) := by
  intro encoder emitted
  have limit := emitted.limit_eq
  unfold admitBytes
  cases sum : checkedAdd encoder.frameBytes size with
  | none =>
    apply emitted.bounded
    apply bad
    by_contra small
    rw [emitted.frame_bytes, checked_add_small budget (by omega)] at sum
    cases sum
  | some reached =>
    have value := (checked_add_some.mp sum).2
    rw [emitted.frame_bytes] at value
    by_cases above : reached > encoder.recordLimit
    · simp only [if_pos above]
      apply emitted.bounded
      apply bad
      omega
    · simp only [if_neg above]
      exact ⟨ledger, ⟨rfl, by omega⟩, emitted⟩

theorem emits_admit_record (size : Nat) (bad : ¬ (ledger.entries < budget.maxEntries ∧
      ledger.bytes.length + size + TRAILER_BYTES_V1 ≤ budget.maxFrameBytes) → ¬ good) :
    Emits smooth good budget base ledger (admitRecord size)
      (fun _ after => ledger = after ∧ ledger.entries < budget.maxEntries ∧
        ledger.bytes.length + size + TRAILER_BYTES_V1 ≤ budget.maxFrameBytes) := by
  intro encoder emitted
  unfold admitRecord
  have current : (get : EncoderM CustodyFrameEncoderV1) encoder = .ok encoder encoder := rfl
  rw [bind_of_ok current, emitted.entries_eq, emitted.budget_eq]
  by_cases full : ledger.entries ≥ budget.maxEntries
  · rw [if_pos full]
    exact emitted.bounded (bad (by omega))
  · rw [if_neg full]
    refine (emits_admit_bytes size ?_).mono ?_ encoder emitted
    · intro above
      apply bad
      omega
    · rintro _ _ ⟨rfl, fits⟩
      exact ⟨rfl, by omega, fits⟩

theorem emits_count_entry (room : ledger.entries < budget.maxEntries) :
    Emits smooth good budget base ledger countEntry
      (fun _ after => after = { ledger with entries := ledger.entries + 1 }) := by
  intro encoder emitted
  have ceiling := budget.entries_ceiling
  unfold MAX_ENTRIES_V1 at ceiling
  refine ⟨_, rfl, { emitted with entries_eq := ?_, entries_le := room }⟩
  simp only [wrappingAdd, emitted.entries_eq]
  omega

/-- The common end of a directory and of a symlink: the record is written at once. -/
theorem emits_whole_record (record : List UInt8) (bad : ¬ (ledger.entries < budget.maxEntries ∧
      ledger.bytes.length + record.length + TRAILER_BYTES_V1 ≤ budget.maxFrameBytes) → ¬ good) :
    Emits smooth good budget base ledger
      (admitRecord record.length >>= fun _ => emit record >>= fun _ => countEntry)
      (fun _ after => ledger.entries < budget.maxEntries ∧
        ledger.bytes.length + record.length + TRAILER_BYTES_V1 ≤ budget.maxFrameBytes ∧
        after = { ledger with entries := ledger.entries + 1, bytes := ledger.bytes ++ record }) := by
  refine (emits_admit_record _ bad).bind ?_
  rintro _ _ ⟨rfl, room, fits⟩
  refine (emits_emit record (by omega)).bind ?_
  rintro _ _ rfl
  have counted : Emits smooth good budget base (ledger.absorb record) countEntry _ := emits_count_entry room
  refine counted.mono ?_
  rintro _ _ rfl
  exact ⟨room, fits, rfl⟩

theorem record_prefix_eq (tag : UInt8) (path : CustodyFramePathV1) :
    recordPrefix tag path = .ok ([tag] ++ leBytes 2 path.bytes.length ++ path.bytes) := by
  have bound := path.length_le
  unfold recordPrefix
  rw [if_pos (by omega)]

theorem emits_stream_loop (remaining : Nat) (content : List UInt8) (reader : Source IoErrorKind)
    (fits : ledger.bytes.length + remaining ≤ budget.maxFrameBytes)
    (io : good → reader.Splitting ∧ remaining ≤ reader.bytes.length) :
    Emits smooth good budget base ledger (streamLoop remaining content reader)
      (fun result after => ∃ chunk, reader.bytes = chunk ++ result.2.bytes ∧
        chunk.length = remaining ∧ result.1 = content ++ chunk ∧ after = ledger.absorb chunk ∧
        (good → result.2.Splitting)) := by
  induction remaining using Nat.strong_induction_on generalizing ledger content reader with
  | _ remaining ih =>
    rw [streamLoop]
    by_cases done : remaining = 0
    · rw [if_pos done]
      exact emits_pure _ ⟨[], rfl, done.symm, by simp, by simp, fun ok => (io ok).1⟩
    · rw [if_neg done]
      have want : chunkLength remaining CONTENT_BUFFER_BYTES_V1 ≠ 0 := by
        simp only [chunkLength, CONTENT_BUFFER_BYTES_V1]
        omega
      obtain ⟨taken, split, bound, exactly⟩ :=
        read_some_takes reader (chunkLength remaining CONTENT_BUFFER_BYTES_V1)
      cases read : readSome reader (chunkLength remaining CONTENT_BUFFER_BYTES_V1) with
      | mk outcome rest =>
        rw [read] at split exactly
        have splits : good → rest.Splitting ∧ ∃ chunk, outcome = .ok chunk := by
          intro ok
          obtain ⟨chunk, other, same, next, _⟩ := read_some_splitting reader
            (chunkLength remaining CONTENT_BUFFER_BYTES_V1) (io ok).1
          rw [read] at same
          cases same
          exact ⟨next, chunk, rfl⟩
        cases outcome with
        | error refusal =>
          apply emits_throw
          intro ok
          obtain ⟨_, chunk, same⟩ := splits ok
          cases same
        | ok chunk =>
          obtain ⟨rfl, ended⟩ := exactly chunk rfl
          cases chunk with
          | nil =>
            apply emits_throw
            intro ok
            have enough := (io ok).2
            have empty := (ended rfl).resolve_left want
            rw [empty] at enough
            exact done (Nat.le_zero.mp enough)
          | cons byte chunk =>
            simp only [chunkLength] at bound
            have lengths := congrArg List.length split
            rw [List.length_append] at lengths
            refine (emits_emit (byte :: chunk) (by omega)).bind ?_
            rintro _ _ rfl
            simp only [List.length_cons] at bound lengths ⊢
            refine Emits.mono (ih (remaining - (chunk.length + 1)) (by omega) _ rest ?_ ?_) ?_
            · simp only [absorb, List.length_append, List.length_cons]
              omega
            · intro ok
              have enough := (io ok).2
              exact ⟨(splits ok).1, by omega⟩
            · rintro result _ ⟨more, splitMore, exact, absorbed, rfl, last⟩
              refine ⟨byte :: chunk ++ more, ?_, ?_, ?_, ?_, last⟩
              · rw [split, splitMore, List.append_assoc]
              · simp only [List.length_append, List.length_cons]
                omega
              · rw [absorbed]
                simp
              · simp

variable (sha : Sha256)

theorem emits_stream_content (declaredLength : Nat) (reader : Source IoErrorKind)
    (fits : ledger.bytes.length + declaredLength ≤ budget.maxFrameBytes)
    (io : good → reader.Splitting ∧ reader.bytes.length = declaredLength) :
    Emits smooth good budget base ledger (streamContent sha declaredLength reader)
      (fun digest after => reader.bytes.length = declaredLength ∧
        digest = sha.digest reader.bytes ∧ after = ledger.absorb reader.bytes) := by
  refine (emits_stream_loop declaredLength [] reader fits ?_).bind ?_
  · intro ok
    exact ⟨(io ok).1, Nat.le_of_eq (io ok).2.symm⟩
  rintro ⟨streamed, rest⟩ _ ⟨content, split, whole, same, rfl, splitting⟩
  simp only [List.nil_append] at same split splitting ⊢
  subst same
  obtain ⟨taken, splitRest, bound, exactly⟩ := read_some_takes rest 1
  cases read : readSome rest 1 with
  | mk outcome last =>
    rw [read] at exactly splitRest
    cases outcome with
    | error refusal =>
      apply emits_throw
      intro ok
      obtain ⟨_, _, same, _⟩ := read_some_splitting rest 1 (splitting ok)
      rw [read] at same
      cases same
    | ok probe =>
      obtain ⟨rfl, ended⟩ := exactly probe rfl
      cases probe with
      | nil =>
        have empty := (ended rfl).resolve_left (by decide)
        rw [empty, List.append_nil] at split
        apply emits_pure
        rw [split]
        exact ⟨whole, by simp, rfl⟩
      | cons byte more =>
        apply emits_throw
        intro ok
        have same := (io ok).2
        rw [split, splitRest] at same
        simp only [List.length_append, List.length_cons] at same
        omega

/-- The state a refused call leaves: poisoned, and within the budget. -/
def Refused (smooth good : Prop) (budget : CustodyFrameBudgetV1) (base : List UInt8)
    (encoder : CustodyFrameEncoderV1) : Prop :=
  Overdrawn smooth good budget base encoder ∧ encoder.poisoned = true

theorem guarded_emits (contract : Emits smooth good budget base ledger program after) :
    Ensures (Emitted smooth budget base ledger) (guarded program)
      (fun value encoder => ∃ ledger, after value ledger ∧ Emitted smooth budget base ledger encoder)
      (fun _ => Refused smooth good budget base) := by
  intro encoder emitted
  have outcome := contract encoder emitted
  unfold guarded
  rw [emitted.clean]
  cases run : program encoder with
  | ok value last =>
    rw [run] at outcome
    exact outcome
  | error refusal last =>
    rw [run] at outcome
    exact ⟨⟨{ outcome.1 with }, outcome.2⟩, rfl⟩

section Records

variable {record : RecordV1}
  (admissible : good → ∃ after, FrameLedger.admitRecord budget ledger record = some after)

include admissible

theorem good_well_formed : good → record.WellFormed := by
  intro ok
  obtain ⟨after, admitted⟩ := admissible ok
  obtain ⟨_, _, wellFormed, _⟩ := (admit_record_iff budget _ _ _).mp admitted
  exact wellFormed

theorem emits_record_order : Emits smooth good budget base ledger
    (admitOrder record.path record.isDirectory) (fun _ after => ∃ order,
      ledger.order.admitPath record.path record.isDirectory = (.ok (), order) ∧
      after = { ledger with order }) := by
  intro encoder emitted
  unfold admitOrder
  rw [emitted.order_eq]
  cases outcome : ledger.order.admitPath record.path record.isDirectory with
  | mk verdict order =>
    cases verdict with
    | error refusal =>
      refine ⟨{ emitted.within_bounds with }, fun both => ?_⟩
      obtain ⟨after, admitted⟩ := admissible both.2
      obtain ⟨_, accepted, _⟩ := (admit_record_iff budget _ _ _).mp admitted
      rw [outcome] at accepted
      cases accepted
    | ok _ => exact ⟨_, ⟨order, rfl, rfl⟩, { emitted with order_eq := rfl }⟩

theorem good_fits : good → ledger.entries < budget.maxEntries ∧
    ledger.bytes.length + record.size + TRAILER_BYTES_V1 ≤ budget.maxFrameBytes := by
  intro ok
  obtain ⟨after, admitted⟩ := admissible ok
  obtain ⟨_, _, _, room, fits, _⟩ := (admit_record_iff budget _ _ _).mp admitted
  exact ⟨room, fits⟩

end Records

theorem emits_encode_mode (mode : UInt32) (low : good → mode ≤ PERMISSION_BITS_V1) :
    Emits smooth good budget base ledger (check (encodeMode mode))
      (fun bits after => ledger = after ∧ mode ≤ PERMISSION_BITS_V1 ∧ bits = mode.toNat) := by
  refine (emits_check _ ?_).mono ?_
  · intro refused ok
    exact refused _ ((encode_mode_iff mode _).mpr ⟨low ok, rfl⟩)
  · rintro bits _ ⟨rfl, encoded⟩
    exact ⟨rfl, (encode_mode_iff mode bits).mp encoded⟩

variable (path : CustodyFramePathV1)

theorem directory_emits (mode : UInt32) (admissible : good → ∃ after,
      FrameLedger.admitRecord budget ledger (.directory path mode) = some after) :
    Ensures (Emitted smooth budget base ledger) (directory path mode)
      (fun _ encoder => ∃ after,
        FrameLedger.admitRecord budget ledger (.directory path mode) = some after ∧
        Emitted smooth budget base after encoder)
      (fun _ => Refused smooth good budget base) := by
  apply guarded_emits
  refine (emits_encode_mode mode (good_well_formed admissible)).bind ?_
  rintro _ _ ⟨rfl, low, rfl⟩
  refine (emits_record_order admissible).bind ?_
  rintro _ _ ⟨order, accepted, rfl⟩
  rw [record_prefix_eq, check_ok_bind]
  refine (emits_whole_record (RecordV1.directory path mode).head ?_).mono ?_
  · intro refused ok
    exact refused (good_fits admissible ok)
  · rintro _ _ ⟨room, fits, rfl⟩
    exact (admit_record_iff budget _ _ _).mpr ⟨order, accepted, low, room, fits, rfl⟩

theorem symlink_emits (target : List UInt8) (admissible : good → ∃ after,
      FrameLedger.admitRecord budget ledger (.symlink path target) = some after) :
    Ensures (Emitted smooth budget base ledger) (symlink path target)
      (fun _ encoder => ∃ after,
        FrameLedger.admitRecord budget ledger (.symlink path target) = some after ∧
        Emitted smooth budget base after encoder)
      (fun _ => Refused smooth good budget base) := by
  apply guarded_emits
  refine (emits_check _ ?_).bind ?_
  · intro refused ok
    exact refused () (good_well_formed admissible ok)
  rintro _ _ ⟨rfl, valid⟩
  refine (emits_record_order admissible).bind ?_
  rintro _ _ ⟨order, accepted, rfl⟩
  have short := symlink_target_short target valid
  rw [if_pos (by omega), check_ok_bind, record_prefix_eq, check_ok_bind]
  have shape : [TAG_SYMLINK_V1] ++ leBytes 2 path.bytes.length ++ path.bytes ++
      leBytes 2 target.length ++ target = (RecordV1.symlink path target).head := by
    simp [RecordV1.head, RecordV1.tag, RecordV1.path, RecordV1.fields]
  rw [shape]
  refine (emits_whole_record (RecordV1.symlink path target).head ?_).mono ?_
  · intro refused ok
    exact refused (good_fits admissible ok)
  · rintro _ _ ⟨room, fits, rfl⟩
    exact (admit_record_iff budget _ _ _).mpr ⟨order, accepted, valid, room, fits, rfl⟩

theorem emits_get :
    Emits smooth good budget base ledger get
      (fun encoder after => ledger = after ∧ encoder.contentBytes = ledger.contentBytes ∧
        encoder.entries = ledger.entries ∧ encoder.frame = ledger.bytes ∧
        encoder.frameBytes = ledger.bytes.length ∧ encoder.budget = budget) :=
  fun _ emitted => ⟨ledger, ⟨rfl, emitted.content_eq, emitted.entries_eq, emitted.frame_eq,
    emitted.frame_bytes, emitted.budget_eq⟩, emitted⟩

theorem checked_add_refused (budget : CustodyFrameBudgetV1)
    (refused : ∀ sum, (checkedAdd left right).elim (.error .byteBudget) .ok ≠
      (.ok sum : FrameResult Nat)) : budget.maxFrameBytes < left + right := by
  by_contra small
  apply refused (left + right)
  rw [checked_add_small budget (Nat.le_of_not_lt small)]
  rfl

theorem regular_file_emits (mode : UInt32) (declaredLength : UInt64) (reader : Source IoErrorKind)
    (start : ledger.Open budget) (admissible : good → ∃ after, FrameLedger.admitRecord budget ledger
      (.regular path mode declaredLength.toNat) = some after)
    (io : good → reader.Splitting ∧ reader.bytes.length = declaredLength.toNat) :
    Ensures (Emitted smooth budget base ledger) (regularFile sha path mode declaredLength reader)
      (fun receipt encoder => ∃ after,
        (admitEntry sha budget ledger (.regular path mode reader.bytes) = some after ∧
          reader.bytes.length = declaredLength.toNat ∧
          receipt = ⟨declaredLength.toNat, sha.digest reader.bytes⟩) ∧
        Emitted smooth budget base after encoder)
      (fun _ => Refused smooth good budget base) := by
  apply guarded_emits
  refine (emits_encode_mode mode (good_well_formed admissible)).bind ?_
  rintro _ _ ⟨rfl, low, rfl⟩
  refine (emits_record_order admissible).bind ?_
  rintro _ _ ⟨order, accepted, rfl⟩
  rw [record_prefix_eq, check_ok_bind]
  have shape : [TAG_REGULAR_V1] ++ leBytes 2 path.bytes.length ++ path.bytes ++
      leBytes 2 mode.toNat ++ leBytes 8 declaredLength.toNat =
        (RecordV1.regular path mode declaredLength.toNat).head := by
    simp [RecordV1.head, RecordV1.tag, RecordV1.path, RecordV1.fields]
  simp only [shape]
  have whole : (RecordV1.regular path mode declaredLength.toNat).size =
      (RecordV1.regular path mode declaredLength.toNat).head.length + DIGEST_BYTES_V1 +
        declaredLength.toNat := by
    simp only [RecordV1.size, RecordV1.bodyLength]
    omega
  refine (emits_check _ ?_).bind ?_
  · intro refused ok
    have above := checked_add_refused budget refused
    have fits := (good_fits admissible ok).2
    omega
  rintro size _ ⟨rfl, added⟩
  have sizeEq := (checked_add_ok_iff.mp added).2
  refine (emits_admit_record size ?_).bind ?_
  · intro refused ok
    rw [sizeEq, ← whole] at refused
    have fits := good_fits admissible ok
    exact refused ⟨fits.1, fits.2⟩
  rintro _ _ ⟨rfl, room, fits⟩
  rw [sizeEq, ← whole] at fits
  simp only at room fits
  refine emits_get.bind ?_
  rintro encoder _ ⟨rfl, sameContent, _⟩
  simp only at sameContent
  have contentLe := start.2.2
  refine (emits_check _ ?_).bind ?_
  · intro refused
    have above := checked_add_refused budget refused
    omega
  rintro contentBytes _ ⟨rfl, counted⟩
  have contentEq := (checked_add_ok_iff.mp counted).2
  refine (emits_emit _ ?_).bind ?_
  · simp only
    omega
  rintro _ _ rfl
  refine (emits_stream_content sha declaredLength.toNat reader ?_ io).bind ?_
  · simp only [absorb, List.length_append]
    omega
  rintro digest _ ⟨exactly, rfl, rfl⟩
  refine (emits_emit _ ?_).bind ?_
  · simp only [absorb, List.length_append, frame_digest_length]
    omega
  rintro _ _ rfl
  refine Emits.bind (emits_count_entry room) ?_
  rintro _ _ rfl
  let counted : FrameLedger :=
    { ((({ ledger with order } : FrameLedger).absorb
        (RecordV1.regular path mode declaredLength.toNat).head).absorb reader.bytes).absorb
        (sha.digest reader.bytes) with entries := ledger.entries + 1 }
  have record : Emits smooth good budget base counted
      (modify fun encoder => { encoder with contentBytes })
      (fun _ after => admitEntry sha budget ledger (.regular path mode reader.bytes) =
        some after) := by
    intro last emitted
    refine ⟨{ counted with contentBytes }, ?_,
      { emitted with content_eq := rfl, content_le := by simp only; omega }⟩
    refine Option.map_eq_some_iff.mpr ⟨_, (admit_record_iff budget _ _ _).mpr
      ⟨order, accepted, low, room, ?_, rfl⟩, ?_⟩
    · simp only [FrameEntry.record, exactly]
      exact fits
    · simp [counted, absorb, FrameEntry.record, FrameEntry.body, RecordV1.contentLength, exactly, contentEq, sameContent]
  refine record.bind ?_
  intro _ after admitted
  exact emits_pure _ ⟨admitted, exactly, rfl⟩

theorem finish_emits (start : ledger.Open budget) :
    Ensures (Emitted smooth budget base ledger) (finish sha)
      (fun summary encoder => ∃ after, (after = ledger.absorb (trailerBytes sha ledger) ∧
        summary = ⟨ledger.entries, ledger.contentBytes, after.bytes.length, sha.digest after.bytes⟩) ∧
        Emitted smooth budget base after encoder)
      (fun _ => Refused smooth good budget base) := by
  have room := start.1
  unfold TRAILER_BYTES_V1 at room
  apply guarded_emits
  refine emits_get.bind ?_
  rintro encoder _ ⟨rfl, sameContent, sameEntries, _⟩
  rw [sameContent, sameEntries]
  change Emits smooth good budget base ledger (emit (trailerCounts ledger) >>= _) _
  have counts : (trailerCounts ledger).length = 17 := by simp [trailerCounts]
  refine (emits_emit _ (by omega)).bind ?_
  rintro _ _ rfl
  refine emits_get.bind ?_
  rintro closing _ ⟨rfl, _, _, sameFrame, _⟩
  rw [sameFrame]
  refine (emits_emit _ ?_).bind ?_
  · simp only [absorb, List.length_append, frame_digest_length]
    omega
  rintro _ _ rfl
  have flushed : Emits smooth good budget base
      ((ledger.absorb (trailerCounts ledger)).absorb
        (sha.digest (ledger.absorb (trailerCounts ledger)).bytes)) flush
      (fun _ after => after = ledger.absorb (trailerBytes sha ledger)) := by
    intro last emitted
    unfold flush
    cases failure : last.sink.flushFailure with
    | some kind =>
      refine ⟨emitted.within_bounds, fun both => ?_⟩
      have none := (emitted.flows both.1).2
      rw [failure] at none
      cases none
    | none => exact ⟨_, by simp [trailerBytes, absorb], emitted⟩
  refine flushed.bind ?_
  rintro _ _ rfl
  refine emits_get.bind ?_
  rintro finished _ ⟨rfl, lastContent, lastEntries, lastFrame, lastBytes, _⟩
  apply emits_pure
  rw [lastContent, lastEntries, lastFrame, lastBytes]
  exact ⟨rfl, rfl⟩

theorem header_encode_eq (header : CustodyFrameHeaderV1) :
    header.encode = .ok (headerBytes header) := by
  have bound := header.generation_length.2
  unfold CustodyFrameHeaderV1.encode
  rw [if_pos (by omega)]
  rfl

theorem record_limit_eq (room : TRAILER_BYTES_V1 ≤ budget.maxFrameBytes) :
    budget.recordLimit = .ok (budget.maxFrameBytes - TRAILER_BYTES_V1) := by
  unfold CustodyFrameBudgetV1.recordLimit
  rw [if_pos room]

theorem new_emits (sink : Sink IoErrorKind) (header : CustodyFrameHeaderV1)
    (splits : smooth → sink.Splitting) (fits : good → (headerLedger header).Open budget) :
    Ensured
      (fun _ encoder => (headerLedger header).Open budget ∧
        Emitted smooth budget sink.written (headerLedger header) encoder)
      (fun _ => Overdrawn smooth good budget sink.written)
      (CustodyFrameEncoderV1.new sink header budget) := by
  unfold CustodyFrameEncoderV1.new openHeader
  have current : (get : EncoderM CustodyFrameEncoderV1) (unopened sink budget) =
      .ok (unopened sink budget) (unopened sink budget) := rfl
  rw [bind_of_ok current]
  by_cases room : TRAILER_BYTES_V1 ≤ budget.maxFrameBytes
  · have limit : check (unopened sink budget).budget.recordLimit (unopened sink budget) =
        .ok (budget.maxFrameBytes - TRAILER_BYTES_V1) (unopened sink budget) := by
      simp [check, unopened, record_limit_eq room]
    have encoded : check header.encode (unopened sink budget) =
        .ok (headerBytes header) (unopened sink budget) := by
      simp [check, header_encode_eq]
    rw [bind_of_ok limit, bind_of_ok encoded]
    have empty : Emitted smooth budget sink.written ⟨.default, 0, 0, []⟩
        { unopened sink budget with recordLimit := budget.maxFrameBytes - TRAILER_BYTES_V1 } := by
      refine ⟨rfl, ?_, rfl, by simp [unopened], rfl, rfl, rfl, rfl, rfl, Nat.zero_le _,
        Nat.zero_le _, Nat.zero_le _, splits⟩
      simp only
      omega
    have contract : Emits smooth good budget sink.written ⟨.default, 0, 0, []⟩
        (admitBytes (headerBytes header).length >>= fun _ => emit (headerBytes header))
        (fun _ after => (headerLedger header).Open budget ∧ after = headerLedger header) := by
      refine (emits_admit_bytes _ ?_).bind ?_
      · intro above ok
        have whole := (fits ok).1
        simp only [headerLedger, List.length_nil] at whole above
        omega
      rintro _ _ ⟨rfl, admitted⟩
      refine (emits_emit _ (by simp only [List.length_nil]; omega)).mono ?_
      rintro _ _ rfl
      refine ⟨⟨?_, Nat.zero_le _, Nat.zero_le _⟩, by simp [headerLedger, absorb]⟩
      simp only [headerLedger]
      omega
    refine (contract _ empty).weaken ?_ (fun _ _ failed => failed)
    rintro _ encoder ⟨after, ⟨opened, rfl⟩, done⟩
    exact ⟨opened, done⟩
  · have refused : check (unopened sink budget).budget.recordLimit (unopened sink budget) =
        .error .byteBudget (unopened sink budget) := by
      simp [check, unopened, CustodyFrameBudgetV1.recordLimit, room]
    rw [bind_of_error refused]
    refine ⟨⟨⟨[], by simp [unopened], Nat.zero_le _, Nat.zero_le _⟩, Nat.zero_le _, Nat.zero_le _⟩,
      fun both => ?_⟩
    have whole := (fits both.2).1
    omega

end Contracts

namespace EncoderCall

/-- The entry a call describes: its content is what its reader holds. -/
def entry : EncoderCall → FrameEntry
  | .directory path mode => .directory path mode
  | .symlink path target => .symlink path target
  | .regularFile path mode _ reader => .regular path mode reader.bytes

/-- The declared length is the length of the content. -/
def Measured : EncoderCall → Prop
  | .directory _ _ => True
  | .symlink _ _ => True
  | .regularFile _ _ declaredLength reader => reader.bytes.length = declaredLength.toNat

def Faithful : EncoderCall → Prop
  | .directory _ _ => True
  | .symlink _ _ => True
  | .regularFile _ _ declaredLength reader =>
    reader.Splitting ∧ reader.bytes.length = declaredLength.toNat

end EncoderCall

section Runs

variable (sha : Sha256) {smooth good : Prop} {budget : CustodyFrameBudgetV1} {base : List UInt8}

variable {entry : FrameEntry} {after : FrameLedger}

theorem admit_entry_bodiless (empty : entry.body sha = [])
    (admitted : FrameLedger.admitRecord budget ledger entry.record = some after) :
    admitEntry sha budget ledger entry = some after := by
  simp [admitEntry, admitted, empty]

theorem refusal_of_ensured {result : EStateM.Result CustodyFrameErrorV1 CustodyFrameEncoderV1 Value}
    {post : Value → CustodyFrameEncoderV1 → Prop} {left : CustodyFrameEncoderV1 → Prop}
    (ensured : Ensured post (fun _ => left) result) :
    ((EncoderCall.run.refusalOf result).1 = none ∧
      ∃ value, post value (EncoderCall.run.refusalOf result).2) ∨
    ((EncoderCall.run.refusalOf result).1 ≠ none ∧ left (EncoderCall.run.refusalOf result).2) := by
  cases result with
  | ok value last => exact .inl ⟨rfl, value, ensured⟩
  | error refusal last => exact .inr ⟨by simp [EncoderCall.run.refusalOf], ensured⟩

theorem run_call_emits (call : EncoderCall) (start : ledger.Open budget)
    (emitted : Emitted smooth budget base ledger encoder) (ready : good → call.Faithful ∧
      ∃ after, admitEntry sha budget ledger call.entry = some after) :
    ((call.run sha encoder).1 = none ∧ call.Measured ∧
      ∃ after, admitEntry sha budget ledger call.entry = some after ∧
        Emitted smooth budget base after (call.run sha encoder).2) ∨
    ((call.run sha encoder).1 ≠ none ∧ Refused smooth good budget base (call.run sha encoder).2) := by
  have admissible : good →
      ∃ middle, FrameLedger.admitRecord budget ledger call.entry.record = some middle := by
    intro ok
    obtain ⟨after, admitted⟩ := (ready ok).2
    obtain ⟨middle, record, _⟩ := Option.map_eq_some_iff.mp admitted
    exact ⟨middle, record⟩
  cases call with
  | directory path mode =>
    refine (refusal_of_ensured (directory_emits path mode admissible encoder emitted)).imp_left ?_
    rintro ⟨accepted, _, after, admitted, done⟩
    exact ⟨accepted, trivial, after, admit_entry_bodiless sha rfl admitted, done⟩
  | symlink path target =>
    refine (refusal_of_ensured (symlink_emits path target admissible encoder emitted)).imp_left ?_
    rintro ⟨accepted, _, after, admitted, done⟩
    exact ⟨accepted, trivial, after, admit_entry_bodiless sha rfl admitted, done⟩
  | regularFile path mode declaredLength reader =>
    have io : good → reader.Splitting ∧ reader.bytes.length = declaredLength.toNat :=
      fun ok => (ready ok).1
    have declared : good → ∃ after, FrameLedger.admitRecord budget ledger
        (.regular path mode declaredLength.toNat) = some after := by
      intro ok
      rw [← (io ok).2]
      exact admissible ok
    refine (refusal_of_ensured (regular_file_emits sha path mode declaredLength reader start
      declared io encoder emitted)).imp_left ?_
    rintro ⟨accepted, _, after, ⟨admitted, measured, _⟩, done⟩
    exact ⟨accepted, measured, after, admitted, done⟩

theorem run_calls_poisoned (calls : List EncoderCall)
    (poisoned : encoder.poisoned = true) : (runCalls sha calls encoder).2 = encoder := by
  induction calls with
  | nil => rfl
  | cons call rest ih =>
    have refused : call.run sha encoder = (some .poisoned, encoder) := by
      cases call <;>
        simp [EncoderCall.run, EncoderCall.run.refusalOf, directory, symlink, regularFile, guarded, poisoned]
    simp only [runCalls, refused]
    exact ih

theorem run_calls_emits (calls : List EncoderCall) (start : ledger.Open budget)
    (emitted : Emitted smooth budget base ledger encoder)
    (ready : good → (∀ call ∈ calls, call.Faithful) ∧
      ∃ after, admitEntries sha budget ledger (calls.map EncoderCall.entry) = some after) :
    ((∀ refusal ∈ (runCalls sha calls encoder).1, refusal = none) ∧ (∀ call ∈ calls, call.Measured) ∧
      ∃ after, admitEntries sha budget ledger (calls.map EncoderCall.entry) = some after ∧
        after.Open budget ∧ Emitted smooth budget base after (runCalls sha calls encoder).2) ∨
    ((∃ refusal ∈ (runCalls sha calls encoder).1, refusal ≠ none) ∧
      Refused smooth good budget base (runCalls sha calls encoder).2) := by
  induction calls generalizing ledger encoder with
  | nil => exact .inl ⟨by simp [runCalls], by simp, ledger, rfl, start, emitted⟩
  | cons call rest ih =>
    have first := run_call_emits sha call start emitted (by
      intro ok
      obtain ⟨faithful, after, admitted⟩ := ready ok
      obtain ⟨middle, head, _⟩ := Option.bind_eq_some_iff.mp admitted
      exact ⟨faithful call List.mem_cons_self, middle, head⟩)
    simp only [runCalls]
    rcases first with ⟨accepted, measured, middle, head, done⟩ | ⟨refused, poisoned⟩
    · have opened := FrameLedger.admit_entry_open sha budget head start
      have tail := ih opened done (by
        intro ok
        obtain ⟨faithful, after, admitted⟩ := ready ok
        obtain ⟨other, same, last⟩ := Option.bind_eq_some_iff.mp admitted
        rw [head] at same
        cases same
        exact ⟨fun later member => faithful later (List.mem_cons_of_mem call member), after, last⟩)
      rcases tail with ⟨none, all, after, admitted, openAfter, last⟩ | ⟨⟨refusal, member, some⟩, last⟩
      · exact .inl ⟨List.forall_mem_cons.mpr ⟨accepted, none⟩,
          List.forall_mem_cons.mpr ⟨measured, all⟩, after, by simp [admitEntries, head, admitted],
          openAfter, last⟩
      · exact .inr ⟨⟨refusal, List.mem_cons_of_mem _ member, some⟩, last⟩
    · refine .inr ⟨⟨_, List.mem_cons_self, refused⟩, ?_⟩
      rw [run_calls_poisoned sha rest poisoned.2]
      exact poisoned

theorem encode_frame_emits {sink : Sink IoErrorKind} {header : CustodyFrameHeaderV1}
    {calls : List EncoderCall} (splits : smooth → sink.Splitting)
    (ready : good → (headerLedger header).Open budget ∧ (∀ call ∈ calls, call.Faithful) ∧ ∃ after,
      admitEntries sha budget (headerLedger header) (calls.map EncoderCall.entry) = some after) :
    (∃ summary last bytes, encodeFrame sha sink header budget calls = (.ok summary, last) ∧
      last.written = sink.written ++ bytes ∧ bytes.length ≤ budget.maxFrameBytes ∧
      (∀ call ∈ calls, call.Measured) ∧
      FrameOf sha budget header (calls.map EncoderCall.entry) bytes) ∨
    ∃ refusal encoder, encodeFrame sha sink header budget calls = (.error refusal, encoder.sink) ∧
      Overdrawn smooth good budget sink.written encoder := by
  have start := @new_emits smooth good budget sink header splits fun ok => (ready ok).1
  unfold encodeFrame
  cases opened : CustodyFrameEncoderV1.new sink header budget with
  | error refusal encoder =>
    rw [opened] at start
    exact .inr ⟨refusal, encoder, rfl, start⟩
  | ok _ encoder =>
    rw [opened] at start
    rcases run_calls_emits sha calls start.1 start.2 fun ok => (ready ok).2 with
      ⟨_, measured, after, admitted, openAfter, done⟩ | ⟨_, poisoned⟩
    · have finished := @finish_emits after smooth good budget sink.written sha openAfter _ done
      cases run : finish sha (runCalls sha calls encoder).2 with
      | error refusal last =>
        rw [run] at finished
        exact .inr ⟨refusal, last, by simp only [run], finished.1⟩
      | ok summary last =>
        rw [run] at finished
        obtain ⟨closed, ⟨rfl, _⟩, kept⟩ := finished
        exact .inl ⟨summary, last.sink, _, by simp only [run], kept.written, kept.within, measured,
          start.1, after, admitted, rfl⟩
    · have still : finish sha (runCalls sha calls encoder).2 =
          .error .poisoned (runCalls sha calls encoder).2 := by
        simp [finish, guarded, poisoned.2]
      exact .inr ⟨.poisoned, _, by simp only [still], poisoned.1⟩

end Runs

end A2aBridge.CustodyFrame
