import A2aBridge.CustodyFrameEmission
import A2aBridge.CustodyFrameParsing

/-!
Encoder and decoder meet at the grammar. A byte stream scans to completion exactly
when it is the frame of the scanned entries; the encoder writes exactly that frame.
-/

namespace A2aBridge.CustodyFrame

open FrameLedger (absorb admitEntries admitEntry admitRecord admit_entry_open admit_record_iff)

open ByteText ByteTransport LittleEndian StatefulRefusal CustodyFrameDecoderV1 FrameEntry CustodyFrameEncoderV1

variable {entry : FrameEntry} {last ledger : FrameLedger} {budget : CustodyFrameBudgetV1}

section Scanning

variable (sha : Sha256) {state : DecoderStateV1} {bytes : List UInt8}

/-- A decoder between records has read exactly what the ledger holds. -/
structure Keeps (budget : CustodyFrameBudgetV1) (ledger : FrameLedger) (state : DecoderStateV1) :
    Prop where
  budget_eq : state.budget = budget
  limit_eq : state.recordLimit + TRAILER_BYTES_V1 = budget.maxFrameBytes
  order_eq : state.order = ledger.order
  entries_eq : state.entries = ledger.entries
  content_eq : state.contentBytes = ledger.contentBytes
  frame_eq : state.frame = ledger.bytes
  admitted_eq : state.admitted = ledger.bytes.length
  idle : state.pending = none

open DecoderStateV1 (counts took)

theorem Keeps.admits_iff (keeps : Keeps budget ledger state) (size : Nat) (used : List UInt8) :
    (state.took used []).Admits size ↔
      ledger.bytes.length + size + TRAILER_BYTES_V1 ≤ budget.maxFrameBytes := by
  have ceiling := budget.bytes_ceiling
  have limit := keeps.limit_eq
  have admitted := keeps.admitted_eq
  unfold MAX_FRAME_BYTES_V1 at ceiling
  simp only [DecoderStateV1.Admits, took, admittedTotal]
  constructor
  · omega
  · intro fits
    exact ⟨by omega, by omega⟩

theorem record_kind_iff (tag : UInt8) (record : RecordV1) :
    recordKind tag = some record.kind ↔ tag = record.tag := by
  unfold recordKind
  constructor
  · intro known
    split_ifs at known with first second third
    all_goals cases record <;> simp_all [RecordV1.kind, RecordV1.tag]
  · rintro rfl
    cases record <;> rfl

theorem tag_not_trailer (record : RecordV1) : record.tag ≠ TAG_TRAILER_V1 := by
  cases record <;> simp only [RecordV1.tag, ne_eq] <;> decide

variable {record : RecordV1} {reached : DecoderStateV1}

variable {after : CustodyFrameDecoderV1} (header : CustodyFrameHeaderV1)

theorem read_tagged_entry_iff (keeps : Keeps budget ledger state) (start : ledger.Open budget) :
    readTagged sha (placed state bytes) = .ok (some record) after ↔
      ∃ next rest, admitRecord budget ledger record = some next ∧
        bytes = record.head ++ rest ∧
        after = placed (record.enterInto next.order (state.took [record.tag] [])) rest := by
  have counted : ∀ tag, (state.took [tag] []).contentBytes ≤ (state.took [tag] []).admitted := by
    have content := start.2.2
    simp only [took, keeps.content_eq, keeps.admitted_eq, admittedTotal]
    omega
  unfold readTagged
  rw [u8_bind]
  constructor
  · rintro ⟨tag, middle, rfl, tail⟩
    split at tail
    · obtain ⟨_, _, _, returned⟩ := (bind_ok_iff _ _ _ _ _).mp tail
      cases returned
    · cases known : recordKind tag with
      | none =>
        rw [known] at tail
        cases tail
      | some kind =>
        rw [known] at tail
        obtain ⟨other, _, entered, returned⟩ := (bind_ok_iff _ _ _ _ _).mp tail
        cases returned
        obtain ⟨order, rest, rfl, room, accepted, wellFormed, rfl, fits, rfl⟩ :=
          (read_entry_ok_iff (by exact keeps.idle) (counted tag)).mp entered
        obtain rfl := (record_kind_iff tag record).mp known
        rw [keeps.admits_iff] at fits
        simp only [took, keeps.order_eq, keeps.entries_eq, keeps.budget_eq] at accepted room
        exact ⟨_, rest, (admit_record_iff budget _ _ _).mpr
          ⟨order, accepted, wellFormed, room, fits, rfl⟩, by simp [RecordV1.head, pathBytes], rfl⟩
  · rintro ⟨next, rest, admitted, rfl, rfl⟩
    obtain ⟨order, accepted, wellFormed, room, fits, rfl⟩ :=
      (admit_record_iff budget _ _ _).mp admitted
    refine ⟨record.tag, pathBytes record.path ++ record.fields ++ rest,
      by simp [RecordV1.head, pathBytes], ?_⟩
    rw [if_neg (tag_not_trailer record), (record_kind_iff record.tag record).mpr rfl]
    refine (bind_ok_iff _ _ _ _ _).mpr ⟨record, _,
      (read_entry_ok_iff (by exact keeps.idle) (counted _)).mpr
        ⟨order, rest, rfl, ?_, ?_, wellFormed, rfl, (keeps.admits_iff _ _).mpr fits, rfl⟩, rfl⟩
    · simpa only [took, keeps.entries_eq, keeps.budget_eq] using room
    · simpa only [took, keeps.order_eq] using accepted

theorem read_tagged_trailer_iff (keeps : Keeps budget ledger state) (start : ledger.Open budget) :
    (∃ after, readTagged sha (placed state bytes) = .ok none after) ↔
      bytes = trailerBytes sha ledger := by
  have ceilings := And.intro budget.bytes_ceiling budget.entries_ceiling
  unfold MAX_FRAME_BYTES_V1 MAX_ENTRIES_V1 at ceilings
  have within := start.1
  have entries := start.2.1
  have content := start.2.2
  have counts : (state.took [TAG_TRAILER_V1] []).counts =
      leBytes 8 ledger.entries ++ leBytes 8 ledger.contentBytes := by
    simp [counts, took, keeps.entries_eq, keeps.content_eq]
  have frame : (state.took [TAG_TRAILER_V1] []).frame = ledger.bytes ++ [TAG_TRAILER_V1] := by
    simp [took, keeps.frame_eq]
  have shape : trailerBytes sha ledger = TAG_TRAILER_V1 ::
      ((state.took [TAG_TRAILER_V1] []).counts ++ sha.digest
        ((state.took [TAG_TRAILER_V1] []).frame ++ (state.took [TAG_TRAILER_V1] []).counts)) := by
    rw [counts, frame]
    simp [trailerBytes, trailerCounts]
  unfold readTagged
  simp only [u8_bind, shape]
  constructor
  · rintro ⟨after, tag, middle, rfl, tail⟩
    split at tail
    · rename_i same
      subst same
      obtain ⟨_, _, closed, _⟩ := (bind_ok_iff _ _ _ _ _).mp tail
      obtain ⟨_, _, rfl, _⟩ := (read_trailer_ok_iff sha).mp closed
      rfl
    · cases known : recordKind tag with
      | none =>
        rw [known] at tail
        cases tail
      | some kind =>
        rw [known] at tail
        obtain ⟨_, _, _, returned⟩ := (bind_ok_iff _ _ _ _ _).mp tail
        cases returned
  · rintro rfl
    refine ⟨placed { (state.took [TAG_TRAILER_V1] []).took
        (state.took [TAG_TRAILER_V1] []).counts [] with phase := .complete } [],
      TAG_TRAILER_V1, _, rfl, ?_⟩
    refine (bind_ok_iff _ _ _ _ _).mpr ⟨(), _,
      (read_trailer_ok_iff sha).mpr ⟨?_, ?_, rfl, rfl⟩, rfl⟩
    · simp only [took, keeps.entries_eq]
      omega
    · simp only [took, keeps.content_eq]
      omega

theorem settled_placed : settled sha (placed state bytes) = settle sha state bytes := rfl

def DecoderStateV1.closeEntry (state : DecoderStateV1) (body : List UInt8) : DecoderStateV1 :=
  { state with frame := state.frame ++ body, pending := none }

open DecoderStateV1 (closeEntry took)

variable {rest : List UInt8}

theorem settle_bodiless (entry : FrameEntry) {after : DecoderStateV1}
    (held : reached.pending = none) (same : entry.record = record)
    (only : ∀ other : FrameEntry, other.record = record → other = entry)
    (empty : entry.body sha = []) :
    settle sha reached bytes = .ok (after, rest) ↔
      ∃ entry : FrameEntry, entry.record = record ∧ bytes = entry.body sha ++ rest ∧
        after = reached.closeEntry (entry.body sha) := by
  have whole : reached.closeEntry [] = reached := by
    rw [closeEntry, List.append_nil, ← held]
  simp only [settle, held, Except.ok.injEq, Prod.mk.injEq]
  constructor
  · rintro ⟨rfl, rfl⟩
    exact ⟨entry, same, by simp [empty], by rw [empty, whole]⟩
  · rintro ⟨other, known, rfl, rfl⟩
    rw [only other known, empty, whole]
    exact ⟨rfl, rfl⟩

theorem settle_entry_iff {after : DecoderStateV1} (held : reached.pending = record.pending) :
    settle sha reached bytes = .ok (after, rest) ↔
      ∃ entry : FrameEntry, entry.record = record ∧ bytes = entry.body sha ++ rest ∧
        after = reached.closeEntry (entry.body sha) := by
  cases record with
  | directory path mode =>
    refine settle_bodiless sha (.directory path mode) held rfl ?_ rfl
    intro other same
    cases other <;> simp_all [record]
  | symlink path target =>
    refine settle_bodiless sha (.symlink path target) held rfl ?_ rfl
    intro other same
    cases other <;> simp_all [record]
  | regular path mode length =>
    simp only [settle, held, RecordV1.pending, List.nil_append]
    constructor
    · intro done
      split at done
      · cases done
      · split at done
        · rename_i matched
          cases done
          have size : (bytes.take length).length = length := by
            rw [List.length_take]
            omega
          refine ⟨.regular path mode (bytes.take length), by simp [record, size], ?_, ?_⟩
          · simp only [FrameEntry.body, matched]
            rw [List.append_assoc, ← List.drop_drop, List.take_append_drop, List.take_append_drop]
          · simp [closeEntry, FrameEntry.body, matched, List.take_add]
        · cases done
    · rintro ⟨entry, same, rfl, rfl⟩
      cases entry with
      | directory | symlink => cases same
      | regular path mode content =>
        cases same
        have digest := frame_digest_length sha content
        simp [closeEntry, FrameEntry.body, ← digest, List.take_length_add_append]

theorem unread_entry (rest : List UInt8) (held : reached.pending = entry.record.pending) :
    unreadContent (placed reached (entry.body sha ++ rest)) = entry.content := by
  cases entry <;>
    simp [unreadContent, placed, held, record, RecordV1.pending, FrameEntry.body, content]

theorem keeps_entry (keeps : Keeps budget ledger state) {next : FrameLedger}
    (admitted : admitRecord budget ledger entry.record = some next) :
    Keeps budget (next.absorb (entry.body sha))
      ((entry.record.enterInto next.order (state.took [entry.record.tag] [])).closeEntry
        (entry.body sha)) := by
  obtain ⟨order, _, _, _, _, rfl⟩ := (admit_record_iff budget _ _ _).mp admitted
  have body := entry.body_length sha
  have events := entry.record.body_events_total
  refine ⟨keeps.budget_eq, keeps.limit_eq, rfl, ?_, ?_, ?_, ?_, rfl⟩
  · simp [closeEntry, RecordV1.enterInto, took, absorb, keeps.entries_eq]
  · simp [closeEntry, RecordV1.enterInto, took, absorb, keeps.content_eq]
  · simp [closeEntry, RecordV1.enterInto, took, absorb, keeps.frame_eq, RecordV1.head, pathBytes]
  · simp [closeEntry, RecordV1.enterInto, took, absorb,
      keeps.admitted_eq, admittedTotal, pathEvents, reserveEvents, RecordV1.head, body, events]
    omega

def FrameEntry.yield (entry : FrameEntry) : RecordV1 × List UInt8 := (entry.record, entry.content)

/-- A scan that completes has read a frame: the induction follows the entries it yields,
with the ledger as the record of what was read. -/
theorem scan_sound (fuel : Nat) (keeps : Keeps budget ledger state) (start : ledger.Open budget)
    (complete : (scan sha fuel (.ok (state, bytes))).2 = some .complete) :
    ∃ entries last, admitEntries sha budget ledger entries = some last ∧
      ledger.bytes ++ bytes = last.bytes ++ trailerBytes sha last ∧
      (scan sha fuel (.ok (state, bytes))).1 = entries.map FrameEntry.yield := by
  induction fuel generalizing ledger state bytes with
  | zero => cases complete
  | succ fuel ih =>
    unfold scan at complete ⊢
    cases run : readTagged sha (placed state bytes) with
    | error refusal after =>
      rw [run] at complete
      cases complete
    | ok found after =>
      cases found with
      | none =>
        have trailer := (read_tagged_trailer_iff sha keeps start).mp ⟨after, run⟩
        exact ⟨[], ledger, rfl, by rw [trailer], rfl⟩
      | some record =>
        rw [run] at complete
        simp only at complete ⊢
        obtain ⟨next, rest, admitted, rfl, rfl⟩ := (read_tagged_entry_iff sha keeps start).mp run
        rw [settled_placed] at complete ⊢
        cases outcome : settle sha (record.enterInto next.order (state.took [record.tag] []))
            rest with
        | error refusal =>
          rw [outcome] at complete
          simp [scan] at complete
        | ok reached =>
          obtain ⟨after, remaining⟩ := reached
          rw [outcome] at complete
          obtain ⟨entry, rfl, rfl, rfl⟩ := (settle_entry_iff sha rfl).mp outcome
          have head : admitEntry sha budget ledger entry = some (next.absorb (entry.body sha)) := by
            simp [admitEntry, admitted]
          obtain ⟨entries, last, tail, same, yields⟩ := ih (keeps_entry sha keeps admitted)
            (admit_entry_open sha budget head start) complete
          refine ⟨entry :: entries, last, ?_, ?_, ?_⟩
          · simp [admitEntries, head, tail]
          · rw [← same]
            obtain ⟨order, _, _, _, _, rfl⟩ := (admit_record_iff budget _ _ _).mp admitted
            simp [absorb]
          · rw [yields, unread_entry sha remaining rfl]
            rfl

theorem admit_entries_extend (entries : List FrameEntry)
    (admitted : admitEntries sha budget ledger entries = some last) :
    ∃ more, last.bytes = ledger.bytes ++ more := by
  induction entries generalizing ledger with
  | nil =>
    cases admitted
    exact ⟨[], by simp⟩
  | cons entry rest ih =>
    obtain ⟨middle, head, tail⟩ := Option.bind_eq_some_iff.mp admitted
    obtain ⟨next, record, rfl⟩ := Option.map_eq_some_iff.mp head
    obtain ⟨order, _, _, _, _, rfl⟩ := (admit_record_iff budget _ _ _).mp record
    obtain ⟨more, bytes⟩ := ih tail
    exact ⟨entry.record.head ++ entry.body sha ++ more, by simp [bytes, absorb]⟩

theorem scan_complete (fuel : Nat) (entries : List FrameEntry) (keeps : Keeps budget ledger state)
    (start : ledger.Open budget) (enough : budget.maxEntries < ledger.entries + fuel)
    (admitted : admitEntries sha budget ledger entries = some last)
    (frame : ledger.bytes ++ bytes = last.bytes ++ trailerBytes sha last) :
    scan sha fuel (.ok (state, bytes)) = (entries.map FrameEntry.yield, some .complete) := by
  induction fuel generalizing ledger state bytes entries with
  | zero =>
    have bound := start.2.1
    omega
  | succ fuel ih =>
    unfold scan
    cases entries with
    | nil =>
      cases admitted
      obtain ⟨after, run⟩ := (read_tagged_trailer_iff sha keeps start).mpr
        (List.append_cancel_left frame)
      rw [run]
      rfl
    | cons entry rest =>
      obtain ⟨middle, head, tail⟩ := Option.bind_eq_some_iff.mp admitted
      obtain ⟨next, record, rfl⟩ := Option.map_eq_some_iff.mp head
      obtain ⟨more, extended⟩ := admit_entries_extend sha rest tail
      obtain ⟨order, accepted, wellFormed, room, fits, rfl⟩ :=
        (admit_record_iff budget _ _ _).mp record
      have shape : bytes = entry.record.head ++ (entry.body sha ++ (more ++ trailerBytes sha last)) := by
        have both : ledger.bytes ++ bytes = ledger.bytes ++ (entry.record.head ++
            (entry.body sha ++ (more ++ trailerBytes sha last))) := by
          rw [frame, extended]
          simp [absorb]
        exact List.append_cancel_left both
      have run := (read_tagged_entry_iff sha keeps start).mpr ⟨_, _, record, shape, rfl⟩
      have settling : settle sha
          (entry.record.enterInto order (state.took [entry.record.tag] []))
          (entry.body sha ++ (more ++ trailerBytes sha last)) = .ok (_, _) :=
        (settle_entry_iff sha rfl).mpr ⟨entry, rfl, rfl, rfl⟩
      rw [run]
      simp only
      rw [unread_entry sha _ rfl, settled_placed, settling,
        ih rest (keeps_entry sha keeps record)
          (admit_entry_open sha budget head start) (by simp only [absorb]; omega) tail
          (by rw [extended]; simp)]
      rfl

def headerState (header : CustodyFrameHeaderV1) (budget : CustodyFrameBudgetV1) : DecoderStateV1 :=
  (initial ⟨[], []⟩ budget (budget.maxFrameBytes - TRAILER_BYTES_V1)).state.took
    (headerBytes header) (headerEvents header)

theorem keeps_header (start : (headerLedger header).Open budget) :
    Keeps budget (headerLedger header) (headerState header budget) := by
  have room := start.1
  refine ⟨rfl, ?_, rfl, rfl, rfl, rfl, ?_, rfl⟩
  · simp only [headerState, took, initial]
    omega
  · simp [headerState, headerLedger, took, initial, header_length, headerEvents,
      reserveEvents, admittedTotal]

theorem new_ok_iff {header : CustodyFrameHeaderV1} :
    CustodyFrameDecoderV1.new ⟨bytes, []⟩ header budget = .ok () after ↔
      ∃ rest, bytes = headerBytes header ++ rest ∧ (headerLedger header).Open budget ∧
        after = placed (headerState header budget) rest := by
  have ceiling := budget.bytes_ceiling
  unfold MAX_FRAME_BYTES_V1 at ceiling
  unfold CustodyFrameDecoderV1.new
  by_cases room : TRAILER_BYTES_V1 ≤ budget.maxFrameBytes
  · rw [record_limit_eq room]
    have same : initial ⟨bytes, []⟩ budget (budget.maxFrameBytes - TRAILER_BYTES_V1) =
        placed (initial ⟨[], []⟩ budget (budget.maxFrameBytes - TRAILER_BYTES_V1)).state bytes := rfl
    simp only [same, read_header_ok_iff]
    constructor
    · rintro ⟨rest, rfl, ⟨limit, _⟩, rfl⟩
      refine ⟨rest, rfl, ⟨?_, Nat.zero_le _, Nat.zero_le _⟩, rfl⟩
      simp only [initial, headerLedger] at limit ⊢
      omega
    · rintro ⟨rest, rfl, ⟨fits, _⟩, rfl⟩
      refine ⟨rest, rfl, ⟨?_, ?_⟩, rfl⟩
      all_goals
        simp only [initial, headerLedger] at fits ⊢
        omega
  · have refused : budget.recordLimit = .error .byteBudget := by
      unfold CustodyFrameBudgetV1.recordLimit
      rw [if_neg room]
    rw [refused]
    constructor
    · rintro ⟨⟩
    · rintro ⟨_, _, ⟨fits, _⟩, _⟩
      omega

theorem scan_frame_header (rest : List UInt8) (start : (headerLedger header).Open budget) :
    scanFrame sha (headerBytes header ++ rest) header budget =
      scan sha (budget.maxEntries + 1) (.ok (headerState header budget, rest)) := by
  unfold scanFrame
  rw [new_ok_iff.mpr ⟨rest, rfl, start, rfl⟩]
  rfl

theorem scan_frame_iff (yields : List (RecordV1 × List UInt8)) :
    scanFrame sha bytes header budget = (yields, some .complete) ↔
      ∃ entries, FrameOf sha budget header entries bytes ∧ yields = entries.map FrameEntry.yield := by
  constructor
  · intro scanned
    cases run : CustodyFrameDecoderV1.new ⟨bytes, []⟩ header budget with
    | error refusal after =>
      unfold scanFrame at scanned
      rw [run] at scanned
      cases scanned
    | ok _ after =>
      obtain ⟨rest, rfl, start, rfl⟩ := new_ok_iff.mp run
      rw [scan_frame_header sha header rest start] at scanned
      obtain ⟨entries, last, admitted, frame, same⟩ := scan_sound sha (budget.maxEntries + 1)
        (keeps_header header start) start (by rw [scanned])
      rw [scanned] at same
      exact ⟨entries, ⟨start, last, admitted, frame⟩, same⟩
  · rintro ⟨entries, ⟨start, last, admitted, frame⟩, rfl⟩
    obtain ⟨more, extended⟩ := admit_entries_extend sha entries admitted
    have shape : bytes = headerBytes header ++ (more ++ trailerBytes sha last) := by
      rw [frame, extended]
      simp [headerLedger]
    rw [shape, scan_frame_header sha header _ start]
    refine scan_complete sha (budget.maxEntries + 1) entries (keeps_header header start) start
      (by omega) admitted ?_
    rw [extended]
    simp

end Scanning

section Encoding

variable (sha : Sha256) {header : CustodyFrameHeaderV1} {sink last : Sink IoErrorKind}
  {calls : List EncoderCall}

theorem encode_frame_writes {summary : CustodyFrameSummaryV1}
    (encoded : encodeFrame sha sink header budget calls = (.ok summary, last)) :
    (∀ call ∈ calls, call.Measured) ∧ ∃ bytes, last.written = sink.written ++ bytes ∧
      FrameOf sha budget header (calls.map EncoderCall.entry) bytes := by
  rcases @encode_frame_emits sha False False budget sink header calls False.elim False.elim with
    ⟨_, _, bytes, run, written, _, measured, frame⟩ | ⟨_, _, run, _⟩
  · rw [run] at encoded
    cases encoded
    exact ⟨measured, bytes, written, frame⟩
  · rw [run] at encoded
    cases encoded

end Encoding

section Deliveries

variable {chunks : List (List UInt8)}

variable {content : List UInt8} {index : Nat} {plan : Nat → List Nat}

theorem delivers_part (sizes : List Nat)
    (delivers : Delivers content sizes chunks) : ∃ rest, content = chunks.flatten ++ rest := by
  induction sizes generalizing content chunks with
  | nil =>
    cases chunks with
    | nil => exact ⟨content, rfl⟩
    | cons chunk chunks => exact delivers.elim
  | cons size sizes ih =>
    cases chunks with
    | nil => exact delivers.elim
    | cons chunk chunks =>
      obtain ⟨after, rfl, _, _, later⟩ := delivers
      obtain ⟨rest, rfl⟩ := ih later
      exact ⟨rest, by simp⟩

theorem delivers_whole (sizes : List Nat) (delivers : Delivers content sizes chunks)
    (positive : ∀ size ∈ sizes, 0 < size)
    (enough : content.length ≤ sizes.length) : chunks.flatten = content := by
  induction sizes generalizing content chunks with
  | nil =>
    have empty : content = [] := by simpa using enough
    cases chunks with
    | nil => exact empty.symm
    | cons chunk chunks => exact delivers.elim
  | cons size sizes ih =>
    cases chunks with
    | nil => exact delivers.elim
    | cons chunk chunks =>
      obtain ⟨after, rfl, _, progress, later⟩ := delivers
      have here := positive size List.mem_cons_self
      have tail : chunks.flatten = after := by
        apply ih later (fun other member => positive other (List.mem_cons_of_mem size member))
        cases chunk with
        | nil =>
          have none : [] ++ after = ([] : List UInt8) := (progress rfl).resolve_left (by omega)
          have empty : after = [] := by simpa using none
          simp [empty]
        | cons byte more =>
          simp only [List.cons_append, List.length_cons, List.length_append] at enough
          omega
      rw [List.flatten_cons, tail]

/-- The entry that a consumer has seen: its record and the content it read. -/
def seenEntry : RecordV1 × List (List UInt8) → FrameEntry
  | (.directory path mode, _) => .directory path mode
  | (.regular path mode _, chunks) => .regular path mode chunks.flatten
  | (.symlink path target, _) => .symlink path target

theorem seen_entry_eq
    (whole : chunks.flatten = entry.content) : seenEntry (entry.record, chunks) = entry := by
  cases entry with
  | directory | symlink => rfl
  | regular path mode content =>
    simp only [seenEntry, FrameEntry.record, FrameEntry.content] at whole ⊢
    rw [whole]

theorem delivered_seen (entries : List FrameEntry) {yields : List (RecordV1 × List (List UInt8))}
    (delivered : Delivered plan index yields (entries.map FrameEntry.yield))
    (whole : ∀ position entry chunks, entry ∈ entries → (entry.record, chunks) ∈ yields →
      Delivers entry.content (readSizes plan position entry.record) chunks →
      chunks.flatten = entry.content) : yields.map seenEntry = entries := by
  induction entries generalizing index yields with
  | nil =>
    cases yields with
    | nil => rfl
    | cons first rest => exact delivered.elim
  | cons entry entries ih =>
    cases yields with
    | nil => exact delivered.elim
    | cons first rest =>
      obtain ⟨record, chunks⟩ := first
      obtain ⟨rfl, delivers, later⟩ := delivered
      have here := whole index entry chunks List.mem_cons_self List.mem_cons_self delivers
      rw [List.map_cons, seen_entry_eq here, ih later]
      intro position other handed member present
      exact whole position other handed (List.mem_cons_of_mem entry member)
        (List.mem_cons_of_mem _ present)

theorem delivers_counted {sizes : List Nat} (delivers : Delivers entry.content sizes chunks)
    (counted : chunks.flatten.length = entry.record.contentLength) :
    chunks.flatten = entry.content := by
  obtain ⟨left, content⟩ := delivers_part sizes delivers
  have declared : entry.content.length = entry.record.contentLength := by cases entry <;> rfl
  have lengths := congrArg List.length content
  rw [List.length_append, declared] at lengths
  have none : left = [] := List.length_eq_zero_iff.mp (by omega)
  rw [content, none, List.append_nil]

end Deliveries

/-- What a call asks to be stored, as the decoder reports it. -/
def EncoderCall.record : EncoderCall → RecordV1
  | .directory path mode => .directory path mode
  | .symlink path target => .symlink path target
  | .regularFile path mode declaredLength _ => .regular path mode declaredLength.toNat

theorem measured_record {call : EncoderCall} (measured : call.Measured) :
    call.entry.record = call.record := by
  cases call with
  | directory | symlink => rfl
  | regularFile path mode declaredLength reader =>
    simp only [EncoderCall.entry, record, EncoderCall.record]
    rw [measured]

theorem admit_entries_content (sha : Sha256) (entries : List FrameEntry)
    (admitted : admitEntries sha budget ledger entries = some last) :
    ∀ entry ∈ entries, entry.content.length ≤ budget.maxFrameBytes := by
  induction entries generalizing ledger with
  | nil =>
    nofun
  | cons first rest ih =>
    obtain ⟨middle, head, tail⟩ := Option.bind_eq_some_iff.mp admitted
    refine List.forall_mem_cons.mpr ⟨?_, ih tail⟩
    obtain ⟨next, record, _⟩ := Option.map_eq_some_iff.mp head
    obtain ⟨_, _, _, _, fits, _⟩ := (admit_record_iff budget _ _ _).mp record
    have body : first.content.length ≤ first.record.bodyLength := by
      cases first <;> simp [FrameEntry.content, FrameEntry.record, RecordV1.bodyLength]
    unfold RecordV1.size at fits
    omega

/-- Round trip. Whatever an encoder session that finished has written decodes, over every
split of the source and every plan of content reads, to the records of its calls in
order, with the contents of their readers, and then completes. -/
theorem encoded_frame_decodes (sha : Sha256) (header : CustodyFrameHeaderV1)
    (budget : CustodyFrameBudgetV1) (calls : List EncoderCall) (sink last : Sink IoErrorKind)
    (summary : CustodyFrameSummaryV1) (source : Source IoErrorKind) (plan : Nat → List Nat)
    (encoded : encodeFrame sha sink header budget calls = (.ok summary, last))
    (splitting : source.Splitting) (written : last.written = sink.written ++ source.bytes) :
    (decode sha source header budget plan).2 = some .complete ∧
    (decode sha source header budget plan).1.map Prod.fst = calls.map EncoderCall.record ∧
    Delivered plan 0 (decode sha source header budget plan).1
      (calls.map fun call => (call.record, call.entry.content)) ∧
    ((∀ index, (∀ size ∈ plan index, 0 < size) ∧ budget.maxFrameBytes ≤ (plan index).length) →
      (decode sha source header budget plan).1.map seenEntry = calls.map EncoderCall.entry) := by
  obtain ⟨measured, bytes, same, frame⟩ := encode_frame_writes sha encoded
  have equal : bytes = source.bytes := List.append_cancel_left (same.symm.trans written)
  subst equal
  have scanned := (scan_frame_iff sha header _).mpr ⟨_, frame, rfl⟩
  have follows := decode_follows sha source header budget plan splitting
  rw [scanned] at follows
  have delivered := follows.delivered follows.verdict
  have records : calls.map (fun call => call.entry.record) = calls.map EncoderCall.record :=
    List.map_congr_left fun call member => measured_record (measured call member)
  refine ⟨follows.verdict, ?_, ?_, ?_⟩
  · rw [follows.records, ← records]
    simp [FrameEntry.yield]
  · have yields : (calls.map EncoderCall.entry).map FrameEntry.yield =
        calls.map (fun call => (call.record, call.entry.content)) := by
      rw [List.map_map]
      exact List.map_congr_left fun call member => by
        simp [FrameEntry.yield, measured_record (measured call member)]
    rw [← yields]
    exact delivered
  · intro patient
    refine delivered_seen _ delivered ?_
    intro position entry chunks member _ delivers
    obtain ⟨_, ledger, admitted, _⟩ := frame
    have bound := admit_entries_content sha _ admitted entry member
    cases entry with
    | regular path mode content =>
      exact delivers_whole _ delivers (patient position).1 (Nat.le_trans bound (patient position).2)
    | directory | symlink =>
      exact delivers_whole _ delivers (by simp [readSizes, FrameEntry.record]) (Nat.zero_le _)

/-- A directory and a file, over a sink, a reader and a source that split and interrupt. -/
def sampleSha : Sha256 := ⟨fun _ => List.replicate 32 0, fun _ => rfl⟩

def sampleHeader : CustodyFrameHeaderV1 := ⟨.worktree, 4, "g", rfl, by decide +kernel⟩

def sampleBudget : CustodyFrameBudgetV1 := ⟨4, 400, by decide, by decide⟩

def sampleCalls : List EncoderCall :=
  [.directory ⟨[0x61], rfl, by decide +kernel⟩ 0o755,
    .regularFile ⟨[0x62], rfl, by decide +kernel⟩ 0o644 2 ⟨[1, 2], [.upTo 0, .interrupted]⟩]

def sampleSink : Sink IoErrorKind := ⟨[7], [.upTo 2, .interrupted], none⟩

def sampleSource : Source IoErrorKind :=
  ⟨(encodeFrame sampleSha sampleSink sampleHeader sampleBudget sampleCalls).2.written.drop 1,
    [.upTo 3, .interrupted, .upTo 0]⟩

theorem sample_source_splits : sampleSource.Splitting := by
  simp [Source.Splitting, sampleSource, ReadAnswer.Splits]

theorem sample_frame_decodes :
    (decode sampleSha sampleSource sampleHeader sampleBudget (fun _ => [1])).2 = some .complete ∧
    (decode sampleSha sampleSource sampleHeader sampleBudget (fun _ => [1])).1.map Prod.fst =
      sampleCalls.map EncoderCall.record :=
  have whole := encoded_frame_decodes sampleSha sampleHeader sampleBudget sampleCalls sampleSink
    (encodeFrame sampleSha sampleSink sampleHeader sampleBudget sampleCalls).2
    ⟨2, 2, 116, List.replicate 32 0⟩ sampleSource (fun _ => [1]) (by decide +kernel)
    sample_source_splits (by decide +kernel)
  ⟨whole.1, whole.2.1⟩

/-- The call that encodes an entry from a reader over its content. -/
def FrameEntry.call : FrameEntry → EncoderCall
  | .directory path mode => .directory path mode
  | .regular path mode content =>
    .regularFile path mode (UInt64.ofNat content.length) ⟨content, []⟩
  | .symlink path target => .symlink path target

theorem call_entry : entry.call.entry = entry := by
  cases entry <;> rfl

theorem call_faithful (small : entry.content.length < 2 ^ 64) : entry.call.Faithful := by
  cases entry with
  | directory | symlink => trivial
  | regular path mode content =>
    refine ⟨splitting_nil content, ?_⟩
    exact (UInt64.toNat_ofNat_of_lt' small).symm

variable {left right : CustodyFrameBudgetV1} {header : CustodyFrameHeaderV1} (sha : Sha256)

variable {first second : FrameLedger}

theorem admit_entry_unique (one : admitEntry sha left ledger entry = some first)
    (other : admitEntry sha right ledger entry = some second) : first = second := by
  obtain ⟨next, record, rfl⟩ := Option.map_eq_some_iff.mp one
  obtain ⟨later, again, rfl⟩ := Option.map_eq_some_iff.mp other
  obtain ⟨order, accepted, _, _, _, rfl⟩ := (admit_record_iff left _ _ _).mp record
  obtain ⟨same, repeated, _, _, _, rfl⟩ := (admit_record_iff right _ _ _).mp again
  rw [accepted] at repeated
  cases repeated
  rfl

theorem admit_entries_unique (entries : List FrameEntry)
    (one : admitEntries sha left ledger entries = some first)
    (other : admitEntries sha right ledger entries = some second) : first = second := by
  induction entries generalizing ledger with
  | nil =>
    cases one
    cases other
    rfl
  | cons entry rest ih =>
    obtain ⟨middle, head, tail⟩ := Option.bind_eq_some_iff.mp one
    obtain ⟨between, again, final⟩ := Option.bind_eq_some_iff.mp other
    obtain rfl := admit_entry_unique sha head again
    exact ih tail final

theorem accepted_frame {source : Source IoErrorKind} {plan : Nat → List Nat}
    (splitting : source.Splitting)
    (accepted : (decode sha source header budget plan).2 = some .complete) :
    ∃ entries, FrameOf sha budget header entries source.bytes ∧
      Delivered plan 0 (decode sha source header budget plan).1 (entries.map FrameEntry.yield) := by
  have follows := decode_follows sha source header budget plan splitting
  have complete := follows.verdict.symm.trans accepted
  obtain ⟨entries, frame, yields⟩ := (scan_frame_iff sha header
    (scanFrame sha source.bytes header budget).1).mp (Prod.ext rfl complete)
  refine ⟨entries, frame, ?_⟩
  rw [← yields]
  exact follows.delivered accepted

/-- Canonicality. An accepted stream is the frame of one entry list; encoding that list
again with the same header and budget writes the same bytes, and no other accepted
stream is read as the same list. -/
theorem accepted_frame_reencodes (sha : Sha256) (header : CustodyFrameHeaderV1)
    (budget : CustodyFrameBudgetV1) (source : Source IoErrorKind) (plan : Nat → List Nat)
    (splitting : source.Splitting)
    (accepted : (decode sha source header budget plan).2 = some .complete) :
    ∃ entries,
      Delivered plan 0 (decode sha source header budget plan).1 (entries.map FrameEntry.yield) ∧
      ((∀ yield ∈ (decode sha source header budget plan).1,
          yield.2.flatten.length = yield.1.contentLength) →
        (decode sha source header budget plan).1.map seenEntry = entries) ∧
      (∀ sink calls, sink.Splitting → calls.map EncoderCall.entry = entries →
        (∀ call ∈ calls, call.Faithful) → ∃ summary last,
          encodeFrame sha sink header budget calls = (.ok summary, last) ∧
          last.written = sink.written ++ source.bytes) ∧
      ((entries.map FrameEntry.call).map EncoderCall.entry = entries ∧
        ∀ call ∈ entries.map FrameEntry.call, call.Faithful) ∧
      (∀ otherBudget (other : Source IoErrorKind) otherPlan, other.Splitting →
        (decode sha other header otherBudget otherPlan).2 = some .complete →
        (∀ yield ∈ (decode sha other header otherBudget otherPlan).1,
          yield.2.flatten.length = yield.1.contentLength) →
        (decode sha other header otherBudget otherPlan).1.map seenEntry = entries →
        other.bytes = source.bytes) := by
  obtain ⟨entries, frame, delivered⟩ := accepted_frame sha splitting accepted
  refine ⟨entries, delivered, ?_, ?_, ⟨?_, ?_⟩, ?_⟩
  · intro whole
    exact delivered_seen entries delivered fun _ entry chunks _ present delivers =>
      delivers_counted delivers (whole (entry.record, chunks) present)
  · -- Calls that describe a frame truthfully, on a sink that only splits, write that frame.
    rintro sink calls splits rfl faithful
    obtain ⟨room, ledger, admitted, shape⟩ := frame
    rcases @encode_frame_emits sha True True budget sink header calls (fun _ => splits)
      (fun _ => ⟨room, faithful, ledger, admitted⟩) with
      ⟨summary, last, bytes, run, written, _, _, _, _, same, rfl⟩ | ⟨_, _, _, overdrawn⟩
    · rw [admitted] at same
      cases same
      exact ⟨summary, last, run, by rw [written, shape]⟩
    · exact absurd ⟨trivial, trivial⟩ overdrawn.2
  · simp [Function.comp_def, call_entry]
  · intro call member
    obtain ⟨entry, present, rfl⟩ := List.mem_map.mp member
    obtain ⟨_, ledger, admitted, _⟩ := frame
    have bound := admit_entries_content sha entries admitted entry present
    have ceiling := budget.bytes_ceiling
    unfold MAX_FRAME_BYTES_V1 at ceiling
    exact call_faithful (by omega)
  · intro otherBudget other otherPlan otherSplits complete whole same
    obtain ⟨others, otherFrame, otherDelivered⟩ := accepted_frame sha otherSplits complete
    have seen := delivered_seen others otherDelivered fun _ entry chunks _ present delivers =>
      delivers_counted delivers (whole (entry.record, chunks) present)
    rw [same] at seen
    subst seen
    obtain ⟨_, ledger, admitted, framed⟩ := frame
    obtain ⟨_, again, repeated, otherFramed⟩ := otherFrame
    rw [framed, otherFramed, admit_entries_unique sha _ repeated admitted]

theorem sample_frame_reencodes :
    ∃ summary last, encodeFrame sampleSha ⟨[], [.upTo 4], none⟩ sampleHeader sampleBudget
        ((((decode sampleSha sampleSource sampleHeader sampleBudget
          (fun _ => [1, 4])).1).map seenEntry).map FrameEntry.call) = (.ok summary, last) ∧
      last.written = [] ++ sampleSource.bytes := by
  obtain ⟨entries, _, seen, encodes, ⟨same, faithful⟩, _⟩ := accepted_frame_reencodes sampleSha
    sampleHeader sampleBudget sampleSource (fun _ => [1, 4]) sample_source_splits (by decide +kernel)
  rw [seen (by decide +kernel)]
  exact encodes _ _ (by simp [Sink.Splitting, WriteAnswer.Splits]) same faithful

end A2aBridge.CustodyFrame
