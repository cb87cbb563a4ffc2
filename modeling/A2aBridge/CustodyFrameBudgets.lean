import A2aBridge.CustodyFrameAccount
import A2aBridge.CustodyFrameEmission

/-!
Budgets over whole sessions. The encoder's sessions may go on after a refusal and
end in a `finish`; the decoder's sessions mix entry calls and content reads in any
order, over a source that may fail or lie.
-/

namespace A2aBridge.CustodyFrame

open ByteText ByteTransport StatefulRefusal CustodyFrameDecoderV1 CustodyFrameEncoderV1

variable {budget : CustodyFrameBudgetV1}

section Encoding

variable (sha : Sha256) {ledger after : FrameLedger}

theorem admit_entry_counts {entry : FrameEntry}
    (admitted : FrameLedger.admitEntry sha budget ledger entry = some after) :
    after.entries = ledger.entries + 1 ∧
      after.contentBytes = ledger.contentBytes + entry.content.length := by
  obtain ⟨middle, record, rfl⟩ := Option.map_eq_some_iff.mp admitted
  obtain ⟨order, _, _, _, _, rfl⟩ := (FrameLedger.admit_record_iff budget _ _ _).mp record
  refine ⟨rfl, ?_⟩
  cases entry <;> rfl

theorem admit_entries_count (entries : List FrameEntry)
    (admitted : FrameLedger.admitEntries sha budget ledger entries = some after) :
    after.entries = ledger.entries + entries.length ∧
      after.contentBytes =
        ledger.contentBytes + (entries.map fun entry => entry.content.length).sum := by
  induction entries generalizing ledger with
  | nil =>
    cases admitted
    exact ⟨rfl, rfl⟩
  | cons entry rest ih =>
    obtain ⟨middle, head, tail⟩ := Option.bind_eq_some_iff.mp admitted
    have first := admit_entry_counts sha head
    have later := ih tail
    simp only [List.length_cons, List.map_cons, List.sum_cons]
    omega

end Encoding

section Decoding

variable (sha : Sha256) {total : Nat}

def DecoderReply.yielded : DecoderReply → Nat
  | .entry _ => 1
  | .complete => 0
  | .content _ => 0
  | .refused _ => 0

def yieldedEntries (replies : List DecoderReply) : Nat := (replies.map DecoderReply.yielded).sum

/-- A session in progress: an open decoder has counted exactly the entries it yielded,
and a closed one yields no more. -/
def Tracked (budget : CustodyFrameBudgetV1) (total count : Nat) (decoder : CustodyFrameDecoderV1) :
    Prop :=
  (∃ account : Account, account.Due ∧ account.entries = count ∧
    Balanced budget total account decoder) ∨
  (Closed budget total decoder ∧ count ≤ budget.maxEntries)

variable {count : Nat} {decoder : CustodyFrameDecoderV1}

theorem Tracked.bounded (tracked : Tracked budget total count decoder) :
    Bounded budget total decoder ∧ count ≤ budget.maxEntries := by
  rcases tracked with ⟨account, _, counted, balanced⟩ | ⟨closed, bound⟩
  · exact ⟨balanced.bounded, counted ▸ balanced.entries_le⟩
  · exact ⟨closed.1, bound⟩

theorem run_closed (call : DecoderCall) (closed : Closed budget total decoder) :
    (call.run sha decoder).1.yielded = 0 ∧ (call.run sha decoder).2 = decoder := by
  rcases closed.2 with poisoned | ⟨complete, idle⟩
  · cases call with
    | nextEntry => simp [DecoderCall.run, nextEntry, poisoned, DecoderReply.yielded]
    | read capacity => simp [DecoderCall.run, consumerRead, poisoned, DecoderReply.yielded]
  · cases call with
    | nextEntry => simp [DecoderCall.run, nextEntry, complete, DecoderReply.yielded]
    | read capacity =>
      have read : readYieldedContent sha capacity decoder = .ok [] decoder := by
        unfold readYieldedContent
        have none : readContentBytes capacity decoder = .ok [] decoder :=
          read_content_idle (by simp [idle])
        have current : getState decoder = .ok decoder.state decoder := rfl
        rw [bind_of_ok none, bind_of_ok current]
        simp [idle]
        rfl
      simp [DecoderCall.run, consumerRead, complete, read, DecoderReply.yielded]

theorem run_tracked (call : DecoderCall) (tracked : Tracked budget total count decoder) :
    Tracked budget total (count + (call.run sha decoder).1.yielded) (call.run sha decoder).2 := by
  rcases tracked with ⟨account, due, rfl, balanced⟩ | ⟨closed, bound⟩
  · cases call with
    | nextEntry =>
      have outcome := next_entry_accounts sha due decoder balanced
      simp only [DecoderCall.run]
      cases run : nextEntry sha decoder with
      | error refusal after =>
        rw [run] at outcome
        exact .inr ⟨outcome, balanced.entries_le⟩
      | ok record after =>
        rw [run] at outcome
        cases record with
        | none => exact .inr ⟨outcome, balanced.entries_le⟩
        | some record =>
          obtain ⟨next, dueNext, _, counted, balancedNext⟩ := outcome
          exact .inl ⟨next, dueNext, counted, balancedNext⟩
    | read capacity =>
      have outcome := consumer_read_accounts sha capacity due decoder balanced
      simp only [DecoderCall.run]
      cases run : consumerRead sha capacity decoder with
      | error refusal after =>
        rw [run] at outcome
        exact .inr ⟨outcome, balanced.entries_le⟩
      | ok chunk after =>
        rw [run] at outcome
        obtain ⟨next, ⟨dueNext, _, same⟩, balancedNext⟩ := outcome
        exact .inl ⟨next, dueNext, same, balancedNext⟩
  · obtain ⟨silent, same⟩ := run_closed sha call closed
    rw [silent, same]
    exact .inr ⟨closed, bound⟩

theorem run_decoder_calls_tracked (calls : List DecoderCall)
    (tracked : Tracked budget total count decoder) :
    Tracked budget total (count + yieldedEntries (runDecoderCalls sha calls decoder).1)
      (runDecoderCalls sha calls decoder).2 := by
  induction calls generalizing count decoder with
  | nil => exact tracked
  | cons call rest ih =>
    have later := ih (run_tracked sha call tracked)
    rw [Nat.add_assoc] at later
    simpa only [runDecoderCalls, yieldedEntries, List.map_cons, List.sum_cons] using later

/-- The bounds on a decoder that was opened on `source` and has made `replies`. -/
structure Spent (budget : CustodyFrameBudgetV1) (source : Source IoErrorKind)
    (replies : List DecoderReply) (decoder : CustodyFrameDecoderV1) : Prop where
  taken_le : source.bytes.length ≤ decoder.source.bytes.length + (budget.maxFrameBytes + 1)
  yielded_le : yieldedEntries replies ≤ budget.maxEntries
  allocations : AllocationsAdmitted decoder.state.ledger
  admissions_le : admittedTotal decoder.state.ledger ≤ budget.maxFrameBytes
  entries_eq : decoder.state.phase = .opened → decoder.state.entries = yieldedEntries replies
  entries_le : decoder.state.entries ≤ budget.maxEntries
  content_le : decoder.state.contentBytes ≤ budget.maxFrameBytes
  admitted_eq : decoder.state.admitted = admittedTotal decoder.state.ledger

end Decoding

/-- Both directions stay within their budget, whatever the calls, the sink and the source do. -/
theorem sessions_within_budget (sha : Sha256) (budget : CustodyFrameBudgetV1)
    (header : CustodyFrameHeaderV1) :
    (∀ sink calls, ∃ bytes,
      (encodeFrame sha sink header budget calls).2.written = sink.written ++ bytes ∧
        bytes.length ≤ budget.maxFrameBytes) ∧
    (∀ sink calls encoder, CustodyFrameEncoderV1.new sink header budget = .ok () encoder →
      Within budget sink.written (runCalls sha calls encoder).2 ∧
      ((∀ refusal ∈ (runCalls sha calls encoder).1, refusal = none) →
        (runCalls sha calls encoder).2.entries = calls.length ∧
        (runCalls sha calls encoder).2.contentBytes =
          (calls.map fun call => call.entry.content.length).sum ∧
        (runCalls sha calls encoder).2.sink.written.length =
          sink.written.length + (runCalls sha calls encoder).2.frameBytes ∧
        (sink.Splitting → ∃ summary last, CustodyFrameEncoderV1.finish sha
          (runCalls sha calls encoder).2 = .ok summary last))) ∧
    (∀ source refusal decoder, CustodyFrameDecoderV1.new source header budget = .error refusal decoder →
      source.bytes.length ≤ decoder.source.bytes.length + (budget.maxFrameBytes + 1) ∧
      AllocationsAdmitted decoder.state.ledger ∧
      admittedTotal decoder.state.ledger ≤ budget.maxFrameBytes) ∧
    (∀ source calls decoder, CustodyFrameDecoderV1.new source header budget = .ok () decoder →
      Spent budget source (runDecoderCalls sha calls decoder).1
        (runDecoderCalls sha calls decoder).2) := by
  refine ⟨?_, ?_, ?_, ?_⟩
  · intro sink calls
    rcases @encode_frame_emits sha False False budget sink header calls False.elim False.elim with
      ⟨_, _, bytes, run, written, within, _⟩ | ⟨_, _, run, overdrawn⟩
    · exact ⟨bytes, by rw [run, written], within⟩
    · obtain ⟨bytes, written, bound, _⟩ := overdrawn.1.written
      exact ⟨bytes, by rw [run, written], bound⟩
  · intro sink calls encoder opened
    have start := @new_emits sink.Splitting False budget sink header id False.elim
    rw [opened] at start
    obtain ⟨room, emitted⟩ := start
    have outcome := @run_calls_emits _ _ sha sink.Splitting False budget sink.written calls room
      emitted False.elim
    rcases outcome with ⟨_, _, after, admitted, openAfter, done⟩ | ⟨⟨refusal, member, refused⟩, poisoned⟩
    · refine ⟨done.within_bounds, fun _ => ?_⟩
      obtain ⟨entries, content⟩ := admit_entries_count sha _ admitted
      refine ⟨?_, ?_, ?_, ?_⟩
      · rw [done.entries_eq, entries]
        simp [headerLedger]
      · rw [done.content_eq, content]
        simp [headerLedger, Function.comp_def]
      · rw [done.written, done.frame_bytes, List.length_append]
      · intro splitting
        have finished := @finish_emits after sink.Splitting True budget sink.written sha openAfter _ done
        cases run : finish sha (runCalls sha calls encoder).2 with
        | ok summary last => exact ⟨summary, last, rfl⟩
        | error refusal last =>
          rw [run] at finished
          exact (finished.1.2 ⟨splitting, trivial⟩).elim
    · exact ⟨poisoned.1.1, fun none => (refused (none refusal member)).elim⟩
  · intro source refusal decoder refused
    -- A refused opening is not an open decoder: it is dropped, so only the bounds count.
    cases limit : budget.recordLimit with
    | error reason =>
      unfold CustodyFrameDecoderV1.new at refused
      rw [limit] at refused
      cases refused
      refine ⟨Nat.le_add_right _ _, ?_, Nat.zero_le _⟩
      intro before size after split
      simp [initial] at split
    | ok recordLimit =>
      have opened := new_accounts source header limit
      rw [refused] at opened
      obtain ⟨taken, _, _, admitted, same, sound⟩ := opened
      exact ⟨by omega, sound, by omega⟩
  · intro source calls decoder opened
    cases limit : budget.recordLimit with
    | error reason =>
      unfold CustodyFrameDecoderV1.new at opened
      rw [limit] at opened
      cases opened
    | ok recordLimit =>
      have start := new_accounts source header limit
      rw [opened] at start
      obtain ⟨account, due, none, balanced⟩ := start
      have tracked := run_decoder_calls_tracked sha calls (.inl ⟨account, due, none, balanced⟩)
      rw [Nat.zero_add] at tracked
      obtain ⟨⟨taken, entries, content, admitted, same, sound⟩, yielded⟩ := tracked.bounded
      refine ⟨by omega, yielded, sound, by omega, ?_, entries, by omega, same.symm⟩
      intro phase
      rcases tracked with ⟨last, _, counted, settled⟩ | ⟨closed, _⟩
      · rw [settled.entries_eq, counted]
      · rcases closed.2 with poisoned | ⟨complete, _⟩
        · rw [poisoned] at phase
          cases phase
        · rw [complete] at phase
          cases phase

end A2aBridge.CustodyFrame
