import A2aBridge.DelimitedLines
import A2aBridge.FlightJournal
import A2aBridge.Redaction
import Mathlib.Data.Countable.Basic
import Mathlib.Logic.Equiv.List
import Mathlib.Tactic.DeriveCountable

/-!
The durable journal of one flight: a file with one JSON row to a line, of which a crash may
leave any prefix of the row being appended. Every call reads the file first and truncates
an unterminated tail. The serialiser is a parameter, with the check that reading a recovery
reason makes added to it, and file system calls do not fail here: what such a failure leaves is
one of the crashes below.
-/

namespace A2aBridge.Flights

open DelimitedLines InMemoryJournal
open Records (BoundedRecoveryReason)

abbrev Bytes := List UInt8

def newline : UInt8 := 10

/-- A row is parsed as it was written, and JSON text has no raw newline. `home` is the directory
that redaction hides from a reason. -/
structure RowCodec where
  home : Option String
  encode : JournalRecord → Bytes
  parse : Bytes → Option JournalRecord
  parse_encode : ∀ record, parse (encode record) = some record
  encode_line : ∀ record, newline ∉ encode record

/-- Every recovery reason of the row is one that reading takes. -/
def JournalEvent.reads (home : Option String) : JournalEvent → Bool
  | guardTransferred owner _ => BoundedRecoveryReason.reads home owner.reason
  | settled result =>
    result.recoveryOwner.all fun owner => BoundedRecoveryReason.reads home owner.reason
  | _ => true

/-- The file of a flight, which may not exist yet. -/
abbrev JournalFile := Option Bytes

namespace JournalFile

def contents (file : JournalFile) : Bytes := file.getD []

end JournalFile

namespace RowCodec

variable (codec : RowCodec)

def line (record : JournalRecord) : Bytes := codec.encode record ++ [newline]

def readable (record : JournalRecord) : Bool := record.event.reads codec.home

def decode (line : Bytes) : Option JournalRecord := (codec.parse line).filter codec.readable

def decodeLines : List Bytes → Except JournalError (List JournalRecord)
  | [] => .ok []
  | line :: rest =>
    match codec.decode line with
    | none => .error .decode
    | some row =>
      match decodeLines rest with
      | .error error => .error error
      | .ok rows => .ok (row :: rows)

theorem decode_lines_encode (rows : List JournalRecord) :
    codec.decodeLines (rows.map codec.encode) =
      if rows.all codec.readable then .ok rows else .error .decode := by
  induction rows with
  | nil => rfl
  | cons row rest ih =>
    cases readable : codec.readable row <;> cases all : rest.all codec.readable <;>
      simp [decodeLines, decode, codec.parse_encode, Option.filter, readable, ih, all]

/-- What reading answers once `count` bytes of the line of a further row are written. -/
def readWritten (rows : List JournalRecord) (record : JournalRecord) (count : Nat) :
    Except JournalError (List JournalRecord) :=
  if (codec.line record).length ≤ count then
    if codec.readable record then .ok (rows ++ [record]) else .error .decode
  else .ok rows

/-- What reading the lines of these rows answers. -/
def readRows (rows : List JournalRecord) : Except JournalError (List JournalRecord) :=
  if rows.all codec.readable then (outstanding rows).map fun _ => rows else .error .decode

end RowCodec

section

variable (codec : RowCodec) (cap : UInt64)

def readFile : JournalFile → Except JournalError (List JournalRecord) × JournalFile
  | none => (.ok [], none)
  | some encoded =>
    let kept :=
      if completeLen newline encoded ≠ encoded.length then
        encoded.take (completeLen newline encoded)
      else encoded
    match codec.decodeLines (completeLines newline encoded) with
    | .error error => (.error error, some kept)
    | .ok rows =>
      match outstanding rows with
      | .error error => (.error error, some kept)
      | .ok _ => (.ok rows, some kept)

variable (file : JournalFile)

/-- The file once `count` bytes of the row's line are written. -/
def writeLine (record : JournalRecord) (count : Nat) : JournalFile :=
  some (file.contents ++ (codec.line record).take count)

/-- `append`, which is cut off where fewer than all bytes of the line are written. -/
def appendFile (record : JournalRecord) (count : Nat) :
    Except JournalError Unit × JournalFile :=
  match readFile codec file with
  | (.error error, kept) => (.error error, kept)
  | (.ok rows, kept) =>
    if (settledResult rows).isSome then (.error .accounting, kept)
    else
      match admissionCheck rows cap record with
      | .error error => (.error error, kept)
      | .ok () => (.ok (), writeLine codec kept record count)

def appendTerminalFile (result : ResourceActionResult) (count : Nat) :
    Except JournalError TerminalAppendOutcome × JournalFile :=
  match readFile codec file with
  | (.error error, kept) => (.error error, kept)
  | (.ok rows, kept) =>
    match settledResult rows with
    | some existing => (.ok (.alreadySettled existing), kept)
    | none =>
      let record := InMemoryJournal.terminalRecord rows result
      match admissionCheck rows cap record with
      | .error error => (.error error, kept)
      | .ok () => (.ok (.appended (rows ++ [record])), writeLine codec kept record count)

end

/-! ### What the file holds -/

/-- The file holds the lines of the rows, and after them what is left of a line that was
not completed. -/
def Holds (codec : RowCodec) (rows : List JournalRecord) (file : JournalFile) : Prop :=
  ∃ tail, newline ∉ tail ∧ file.contents = frame newline (rows.map codec.encode) ++ tail

variable {codec : RowCodec} {cap : UInt64} {rows : List JournalRecord} {file : JournalFile}

theorem write_line_holds (record : JournalRecord) (count : Nat)
    (contents : file.contents = frame newline (rows.map codec.encode)) :
    Holds codec (if (codec.line record).length ≤ count then rows ++ [record] else rows)
      (writeLine codec file record count) := by
  obtain ⟨torn, unstopped⟩ | ⟨complete, framed⟩ :=
    frame_torn (rows.map codec.encode) (codec.encode_line record) count
  · rw [if_neg (by simp [RowCodec.line]; omega)]
    refine ⟨(codec.line record).take count, unstopped, ?_⟩
    simp [writeLine, JournalFile.contents, ← contents]
  · rw [if_pos (by simp [RowCodec.line]; omega)]
    refine ⟨[], by simp, ?_⟩
    rw [List.map_append, List.map_singleton, ← framed, List.append_nil, ← contents]
    rfl

theorem read_file_kept (encoded : Bytes) : (readFile codec (some encoded)).2 =
    some (if completeLen newline encoded ≠ encoded.length then
      encoded.take (completeLen newline encoded) else encoded) := by
  simp only [readFile]
  split
  · rfl
  · split <;> rfl

theorem Holds.read (held : Holds codec rows file) :
    ∃ kept, readFile codec file = (codec.readRows rows, kept) ∧
      kept.contents = frame newline (rows.map codec.encode) := by
  obtain ⟨tail, unstopped, contents⟩ := held
  cases file with
  | none =>
    -- an absent file has no line, so there is no row
    cases rows with
    | nil => exact ⟨none, rfl, rfl⟩
    | cons row rest => simp [JournalFile.contents, frame] at contents
  | some encoded =>
    subst contents
    have lines := complete_lines_frame
      (List.forall_mem_map.mpr fun record (_ : record ∈ rows) => codec.encode_line record) unstopped
    have length := complete_len_frame (rows.map codec.encode) unstopped
    refine ⟨_, Prod.ext ?_ rfl, ?_⟩
    · simp only [readFile, lines, codec.decode_lines_encode, RowCodec.readRows]
      cases rows.all codec.readable with
      | false => rfl
      | true => cases replayed : outstanding rows <;> simp [replayed, Except.map]
    · change (readFile codec (some _)).2.contents = _
      rw [read_file_kept, length]
      change ite _ _ _ = _
      split
      · exact List.take_left' rfl
      · rename_i whole
        rw [not_not, List.length_append] at whole
        rw [List.length_eq_zero_iff.mp (Nat.left_eq_add.mp whole), List.append_nil]

/-! ### The file and the journal in memory

A call on the file that is not cut off is a call on the rows. A call that is cut off writes
the row if its whole line was written, and otherwise nothing. -/

inductive FileCall where
  | append (record : JournalRecord) (count : Nat)
  | appendTerminal (result : ResourceActionResult) (count : Nat)
  | records

/-- The same call on the file and, if its line was completed, on the rows in memory. -/
def fileStep (codec : RowCodec) (cap : UInt64) (id : ResourceFlightId)
    (state : JournalFile × InMemoryJournal) : FileCall → Option (JournalFile × InMemoryJournal)
  | .append record count =>
    some ((appendFile codec cap state.1 record count).2,
      if (codec.line record).length ≤ count then (state.2.append id record).2 else state.2)
  | .appendTerminal result count =>
    some ((appendTerminalFile codec cap state.1 result count).2,
      if (codec.line (InMemoryJournal.terminalRecord (state.2.records id) result)).length ≤ count
      then (state.2.appendTerminal id result).2 else state.2)
  | .records => some ((readFile codec state.1).2, state.2)

/-- Reading takes the row that the call writes. -/
def FileCall.readable (codec : RowCodec) : FileCall → Bool
  | append record _ => codec.readable record
  | appendTerminal result _ => (JournalEvent.settled result).reads codec.home
  | records => true

/-- The calls whose rows can be read back. -/
def readableStep (codec : RowCodec) (cap : UInt64) (id : ResourceFlightId) :
    JournalFile × InMemoryJournal → FileCall → Option (JournalFile × InMemoryJournal) :=
  Runs.guarded (fun _ call => call.readable codec) (fileStep codec cap id)

variable {journal : InMemoryJournal} {id : ResourceFlightId}

/-- The file holds the rows of the flight, which can be read back and whose journal is sound. -/
structure Mirrors (codec : RowCodec) (cap : UInt64) (id : ResourceFlightId) (file : JournalFile)
    (journal : InMemoryJournal) : Prop where
  sound : InMemoryJournal.Sound cap journal
  held : Holds codec (journal.records id) file
  readable : (journal.records id).all codec.readable

section

variable (mirrors : Mirrors codec cap id file journal)

include mirrors

theorem Mirrors.read_rows : codec.readRows (journal.records id) = .ok (journal.records id) := by
  obtain ⟨slots, accounted⟩ := mirrors.sound.2 id
  rw [RowCodec.readRows, if_pos mirrors.readable, accounted.replayed]
  rfl

theorem Mirrors.read :
    ∃ kept, readFile codec file = (.ok (journal.records id), kept) ∧
      kept.contents = frame newline ((journal.records id).map codec.encode) :=
  mirrors.read_rows ▸ mirrors.held.read

theorem Mirrors.read_records : (readFile codec file).1 = .ok (journal.records id) := by
  obtain ⟨kept, read, -⟩ := mirrors.read
  rw [read]

theorem Mirrors.records : Mirrors codec cap id (readFile codec file).2 journal := by
  obtain ⟨kept, read, contents⟩ := mirrors.read
  rw [read]
  exact ⟨mirrors.sound, ⟨[], by simp, by simpa using contents⟩, mirrors.readable⟩

theorem Mirrors.write {kept : JournalFile} {record : JournalRecord}
    (contents : kept.contents = frame newline ((journal.records id).map codec.encode))
    (unsettled : settledResult (journal.records id) = none)
    (checked : admissionCheck (journal.records id) journal.cap record = .ok ())
    (readable : codec.readable record) (count : Nat) :
    Mirrors codec cap id (writeLine codec kept record count)
      (if (codec.line record).length ≤ count then journal.push id record else journal) := by
  have held := write_line_holds record count contents
  split at held
  · rename_i complete
    rw [if_pos complete]
    refine ⟨mirrors.sound.push unsettled checked, ?_, ?_⟩
    all_goals rw [push_records, if_pos rfl]
    · exact held
    · rw [List.all_append, mirrors.readable]
      simp [readable]
  · rename_i torn
    rw [if_neg torn]
    exact ⟨mirrors.sound, held, mirrors.readable⟩

/-- A row that the journal takes and whose line is complete is read back if reading takes it, and
no row is read behind it otherwise. -/
theorem Mirrors.read_written {kept : JournalFile} {record : JournalRecord}
    (contents : kept.contents = frame newline ((journal.records id).map codec.encode))
    (unsettled : settledResult (journal.records id) = none)
    (checked : admissionCheck (journal.records id) journal.cap record = .ok ()) (count : Nat) :
    (readFile codec (writeLine codec kept record count)).1 =
      codec.readWritten (journal.records id) record count := by
  have held := write_line_holds record count contents
  unfold RowCodec.readWritten
  split at held
  · rename_i complete
    rw [if_pos complete]
    cases readable : codec.readable record with
    | true =>
      have written := mirrors.write contents unsettled checked readable count
      rw [if_pos complete] at written
      rw [written.read_records, push_records, if_pos rfl, if_pos rfl]
    | false =>
      obtain ⟨later, read, -⟩ := held.read
      rw [read, RowCodec.readRows, if_neg (by simp [readable])]
      rfl
  · rename_i torn
    obtain ⟨later, read, -⟩ := held.read
    rw [if_neg torn, read, mirrors.read_rows]

theorem Mirrors.append (record : JournalRecord) (count : Nat) :
    (appendFile codec cap file record count).1 = (journal.append id record).1 ∧
      (codec.readable record → Mirrors codec cap id (appendFile codec cap file record count).2
        (if (codec.line record).length ≤ count then (journal.append id record).2
          else journal)) ∧
      (readFile codec (appendFile codec cap file record count).2).1 =
        match (journal.append id record).1 with
        | .ok () => codec.readWritten (journal.records id) record count
        | .error _ => .ok (journal.records id) := by
  have untouched := mirrors.records
  obtain ⟨kept, read, contents⟩ := mirrors.read
  have same : journal.cap = cap := mirrors.sound.1
  rw [read] at untouched
  simp only [appendFile, read, InMemoryJournal.append, same]
  split
  · exact ⟨rfl, fun _ => by simpa using untouched, untouched.read_records⟩
  · rename_i unsettled
    rw [Bool.not_eq_true, Option.isSome_eq_false_iff, Option.isNone_iff_eq_none] at unsettled
    cases checked : admissionCheck (journal.records id) cap record with
    | error error => exact ⟨rfl, fun _ => by simpa using untouched, untouched.read_records⟩
    | ok _ =>
      exact ⟨rfl, fun readable => mirrors.write contents unsettled (same ▸ checked) readable count,
        mirrors.read_written contents unsettled (same ▸ checked) count⟩

theorem Mirrors.append_terminal (result : ResourceActionResult) (count : Nat) :
    (appendTerminalFile codec cap file result count).1 = (journal.appendTerminal id result).1 ∧
      (codec.readable (terminalRecord (journal.records id) result) →
        Mirrors codec cap id (appendTerminalFile codec cap file result count).2
          (if (codec.line (terminalRecord (journal.records id) result)).length ≤ count
            then (journal.appendTerminal id result).2 else journal)) ∧
      (readFile codec (appendTerminalFile codec cap file result count).2).1 =
        match (journal.appendTerminal id result).1 with
        | .ok (.appended _) => codec.readWritten (journal.records id)
            (terminalRecord (journal.records id) result) count
        | _ => .ok (journal.records id) := by
  have untouched := mirrors.records
  obtain ⟨kept, read, contents⟩ := mirrors.read
  have same : journal.cap = cap := mirrors.sound.1
  rw [read] at untouched
  simp only [appendTerminalFile, read, InMemoryJournal.appendTerminal, same]
  cases settled : settledResult (journal.records id) with
  | some existing => exact ⟨rfl, fun _ => by simpa using untouched, untouched.read_records⟩
  | none =>
    cases checked : admissionCheck (journal.records id) cap
        (terminalRecord (journal.records id) result) with
    | error error => exact ⟨rfl, fun _ => by simpa using untouched, untouched.read_records⟩
    | ok _ =>
      exact ⟨rfl, fun readable => mirrors.write contents settled (same ▸ checked) readable count,
        mirrors.read_written contents settled (same ▸ checked) count⟩

end

theorem mirrors_new : Mirrors codec cap id none (InMemoryJournal.new cap) :=
  ⟨⟨rfl, fun _ => ⟨0, Accounted.nil _⟩⟩, ⟨[], by simp, rfl⟩, rfl⟩

theorem mirrors_of_reaches {state : JournalFile × InMemoryJournal}
    (reached : Runs.Reaches (readableStep codec cap id) (none, InMemoryJournal.new cap) state) :
    Mirrors codec cap id state.1 state.2 := by
  apply @Runs.Reaches.invariant _ _ _ _ _ (fun state => Mirrors codec cap id state.1 state.2)
    reached mirrors_new
  intro state call next mirrors stepped
  obtain ⟨readable, stepped⟩ := Runs.guarded_eq_some.mp stepped
  cases call with
  | append record count =>
    cases stepped
    exact (mirrors.append record count).2.1 readable
  | appendTerminal result count =>
    cases stepped
    exact (mirrors.append_terminal result count).2.1 readable
  | records =>
    cases stepped
    exact mirrors.records

/-- After any calls of readable rows, each completed or cut off at any byte of its line, the file
reads as the rows of the completed ones. A further call, of any row, is answered as it would be on
those rows, and the file it leaves reads as the rows, followed by the new one where the call takes
it and its whole line with the newline is written; but if reading refuses that row, the file is
not read at all any more. -/
theorem torn_tail_is_dropped (codec : RowCodec) (cap : UInt64) (id : ResourceFlightId)
    (file : JournalFile) (journal : InMemoryJournal)
    (reached : Runs.Reaches (readableStep codec cap id) (none, InMemoryJournal.new cap)
      (file, journal)) :
    (readFile codec file).1 = .ok (journal.records id) ∧
    (∀ record count,
      (appendFile codec cap file record count).1 = (journal.append id record).1 ∧
      (readFile codec (appendFile codec cap file record count).2).1 =
        match (journal.append id record).1 with
        | .ok () => codec.readWritten (journal.records id) record count
        | .error _ => .ok (journal.records id)) ∧
    (∀ result count,
      (appendTerminalFile codec cap file result count).1 = (journal.appendTerminal id result).1 ∧
      (readFile codec (appendTerminalFile codec cap file result count).2).1 =
        match (journal.appendTerminal id result).1 with
        | .ok (.appended _) => codec.readWritten (journal.records id)
            (InMemoryJournal.terminalRecord (journal.records id) result) count
        | _ => .ok (journal.records id)) := by
  have mirrors : Mirrors codec cap id file journal := mirrors_of_reaches reached
  refine ⟨mirrors.read_records, fun record count => ?_, fun result count => ?_⟩
  · obtain ⟨answer, -, read⟩ := mirrors.append record count
    exact ⟨answer, read⟩
  · obtain ⟨answer, -, read⟩ := mirrors.append_terminal result count
    exact ⟨answer, read⟩

/-! ### Serialisers with given texts

There are only countably many rows, so those without a given text can be numbers in unary. -/

instance countableChar : Countable Char :=
  Function.Injective.countable (f := Char.toNat) fun _ _ same => Char.toNat_inj.mp same

instance countableString : Countable String :=
  Function.Injective.countable (f := String.toList) fun _ _ same => String.toList_inj.mp same

instance countableUInt8 : Countable UInt8 :=
  Function.Injective.countable (f := UInt8.toNat) fun _ _ same => UInt8.toNat.inj same

instance countableUInt16 : Countable UInt16 :=
  Function.Injective.countable (f := UInt16.toNat) fun _ _ same => UInt16.toNat.inj same

instance countableUInt32 : Countable UInt32 :=
  Function.Injective.countable (f := UInt32.toNat) fun _ _ same => UInt32.toNat.inj same

instance countableUInt64 : Countable UInt64 :=
  Function.Injective.countable (f := UInt64.toNat) fun _ _ same => UInt64.toNat.inj same

deriving instance Countable for ResourceFlightOwner, ResourceFlightId, ResourceFlightKey,
  ProcessStartIdentity, ResourceIdentity, ResourceActionIntent, ContainerRemovalObservation,
  ProcessSignalObservation, ProcessBindingStage, ResourceActionDisposition, RecoveryOwner,
  ResourceActionResult, JournalEvent, JournalRecord

/-- The values of a table have the texts it says, which all have a quotation mark. -/
theorem encoding_extends {α : Type} [Countable α] (table : α → Option Bytes)
    (apart : ∀ left right, ∀ text ∈ table left, text ∈ table right → left = right)
    (quoted : ∀ value, ∀ text ∈ table value, 34 ∈ text ∧ newline ∉ text) :
    ∃ encode : α → Bytes, Function.Injective encode ∧ (∀ value, newline ∉ encode value) ∧
      ∀ value, ∀ text ∈ table value, encode value = text := by
  obtain ⟨number, injective⟩ := exists_injective_nat α
  have unary (count : Nat) (byte : UInt8) (other : byte ≠ 49) : byte ∉ List.replicate count 49 :=
    fun member => other (List.eq_of_mem_replicate member)
  refine ⟨fun value => (table value).getD (List.replicate (number value) 49), ?_, ?_, ?_⟩
  · intro left right same
    cases first : table left with
    | none =>
      cases second : table right with
      | none =>
        simp only [first, second, Option.getD_none, List.replicate_inj] at same
        exact injective same.1
      | some text =>
        simp only [first, second, Option.getD_none, Option.getD_some] at same
        exact absurd (same ▸ (quoted right text second).1) (unary _ _ (by decide))
    | some text =>
      cases second : table right with
      | none =>
        simp only [first, second, Option.getD_none, Option.getD_some] at same
        exact absurd (same ▸ (quoted left text first).1) (unary _ _ (by decide))
      | some other =>
        simp only [first, second, Option.getD_some] at same
        exact apart left right text first (same ▸ second)
  · intro value
    cases found : table value with
    | none => simpa [found] using unary (number value) newline (by decide)
    | some text => simpa [found] using (quoted value text found).2
  · intro value text found
    simp [Option.mem_def.mp found]

theorem row_codec_exists (home : Option String) (row : JournalRecord) (text : Bytes)
    (quoted : 34 ∈ text ∧ newline ∉ text) :
    ∃ codec : RowCodec, codec.home = home ∧ codec.encode row = text := by
  obtain ⟨encode, injective, lines, texts⟩ :=
    encoding_extends (fun record => if record = row then some text else none)
      (by simp_all) (by simp_all)
  exact ⟨⟨home, encode, Function.partialInv encode, Function.partialInv_left injective, lines⟩, rfl,
    texts row text (by simp)⟩

def firstRow : JournalRecord :=
  ⟨1, 1, .flightReserved (.dedicatedRemoteRequest "request-1") "attempt-1"⟩

def firstText : Bytes := ByteText.asBytes ("\x7b\"schema_version\":1,\"sequence\":1,\"event\":" ++
  "\x7b\"event\":\"flight_reserved\",\"key\":\x7b\"kind\":\"dedicated_remote_request\"," ++
  "\"request_id\":\"request-1\"\x7d,\"attempt_id\":\"attempt-1\"\x7d\x7d")

/-- The first row of a flight, cut off after three bytes. -/
theorem sample_tail_is_dropped :
    ∃ (codec : RowCodec) (file : JournalFile) (journal : InMemoryJournal),
      codec.encode firstRow = firstText ∧
      fileStep codec 16 sampleFlight (none, InMemoryJournal.new 16) (.append firstRow 3) =
        some (file, journal) ∧
      (readFile codec file).1 = .ok (journal.records sampleFlight) := by
  obtain ⟨codec, -, text⟩ := row_codec_exists none firstRow firstText (by decide +kernel)
  obtain ⟨⟨file, journal⟩, stepped⟩ : ∃ state,
      fileStep codec 16 sampleFlight (none, InMemoryJournal.new 16) (.append firstRow 3) =
        some state := ⟨_, rfl⟩
  refine ⟨codec, file, journal, text, stepped, ?_⟩
  have permitted : readableStep codec 16 sampleFlight (none, InMemoryJournal.new 16)
      (.append firstRow 3) = some (file, journal) :=
    Runs.guarded_eq_some.mpr ⟨rfl, stepped⟩
  exact (torn_tail_is_dropped codec 16 sampleFlight file journal (.step .refl permitted)).1

/-- The transfer of a guard whose reason truncation cut behind the marker `token`. -/
def cutRow : JournalRecord :=
  ⟨1, 2, .guardTransferred ⟨"attempt-1", sampleFlight, Records.cutReason⟩ 5⟩

/-- Whatever the serialiser, the row is appended, and no read answers after it. -/
theorem cut_reason_blocks_journal :
    BoundedRecoveryReason.new none (String.ofList (Records.longText " tokens")) =
      .ok ⟨Records.cutReason⟩ ∧ (∃ codec : RowCodec, codec.home = none) ∧
    ∀ codec : RowCodec, codec.home = none → ∃ file,
      (appendFile codec 16 none firstRow (codec.line firstRow).length).2 = file ∧
      (appendFile codec 16 file cutRow (codec.line cutRow).length).1 = .ok () ∧
      (readFile codec (appendFile codec 16 file cutRow (codec.line cutRow).length).2).1 =
        .error .decode := by
  obtain ⟨sample, bare, -⟩ := row_codec_exists none firstRow firstText (by decide +kernel)
  refine ⟨Records.cut_reason_built, ⟨sample, bare⟩, fun codec unset => ?_⟩
  have start : Mirrors codec 16 sampleFlight none (InMemoryJournal.new 16) := mirrors_new
  have first := (start.append firstRow (codec.line firstRow).length).2.1 rfl
  rw [if_pos (Nat.le_refl _)] at first
  obtain ⟨answer, -, read⟩ := first.append cutRow (codec.line cutRow).length
  have taken : (((InMemoryJournal.new 16).append sampleFlight firstRow).2.append sampleFlight
      cutRow).1 = .ok () := rfl
  have refused : codec.readable cutRow = false := by
    simp [RowCodec.readable, cutRow, JournalEvent.reads, unset, BoundedRecoveryReason.reads,
      Records.cut_reason_refused, Except.isOk, Except.toBool]
  refine ⟨_, rfl, answer.trans taken, read.trans ?_⟩
  rw [taken]
  simp [RowCodec.readWritten, refused]

end A2aBridge.Flights
