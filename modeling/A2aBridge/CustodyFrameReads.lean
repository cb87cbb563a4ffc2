import A2aBridge.CustodyFrameDecoder

/-!
What `read_some` and `read_exactly` take from a source. On any source they take
a prefix of its bytes, no longer than the buffer. On a source that only splits
and interrupts, the outcome depends on the bytes alone.
-/

namespace A2aBridge.CustodyFrame

open ByteText ByteTransport LittleEndian StatefulRefusal

variable (source : Source IoErrorKind)

theorem read_some_takes (capacity : Nat) :
    ∃ taken, source.bytes = taken ++ (readSome source capacity).2.bytes ∧
      taken.length ≤ capacity ∧
      ∀ chunk, (readSome source capacity).1 = .ok chunk →
        chunk = taken ∧ (chunk = [] → capacity = 0 ∨ source.bytes = []) := by
  obtain ⟨bytes, answers⟩ := source
  induction answers with
  | nil =>
    rw [readSome]
    refine ⟨bytes.take capacity, ?_, ?_, ?_⟩
    · simp [Source.read]
    · exact List.length_take_le _ _
    · intro chunk read
      simp only [Source.read, Except.ok.injEq] at read
      exact ⟨read.symm, fun empty => by simpa [← read] using empty⟩
  | cons answer more ih =>
    rw [readSome]
    cases answer with
    | upTo most =>
      refine ⟨bytes.take (min capacity (most + 1)), ?_, ?_, ?_⟩
      · simp [Source.read]
      · simp only [List.length_take]
        omega
      · intro chunk read
        simp only [Source.read, Except.ok.injEq] at read
        refine ⟨read.symm, fun empty => ?_⟩
        rw [← read] at empty
        rcases List.take_eq_nil_iff.mp empty with short | ended
        · left
          omega
        · exact .inr ended
    | interrupted => exact ih
    | failed | overclaimed => exact ⟨[], rfl, Nat.zero_le _, fun chunk read => by cases read⟩

theorem read_some_splitting (capacity : Nat) (splitting : source.Splitting) :
    ∃ chunk rest, readSome source capacity = (.ok chunk, rest) ∧ rest.Splitting ∧
      source.bytes = chunk ++ rest.bytes ∧ chunk.length ≤ capacity ∧
      (chunk = [] → capacity = 0 ∨ source.bytes = []) := by
  obtain ⟨bytes, answers⟩ := source
  induction answers with
  | nil =>
    rw [readSome]
    refine ⟨bytes.take capacity, ⟨bytes.drop capacity, []⟩, rfl, splitting_nil _, ?_, ?_, ?_⟩
    · simp
    · exact List.length_take_le _ _
    · simp
  | cons answer more ih =>
    rw [readSome]
    cases answer with
    | upTo most =>
      refine ⟨bytes.take (min capacity (most + 1)),
        ⟨bytes.drop (min capacity (most + 1)), more⟩, rfl, splitting_tail splitting, ?_, ?_, ?_⟩
      · simp
      · simp only [List.length_take]
        omega
      · intro empty
        rcases List.take_eq_nil_iff.mp empty with short | ended
        · left
          omega
        · exact .inr ended
    | interrupted => exact ih (splitting_tail splitting)
    | failed | overclaimed => exact (splitting _ List.mem_cons_self).elim

theorem read_exactly_takes (want : Nat) :
    ∃ taken, source.bytes = taken ++ (readExactly source want).2.bytes ∧
      taken.length ≤ want ∧
      ∀ bytes, (readExactly source want).1 = .ok bytes → bytes = taken ∧ taken.length = want := by
  induction want using Nat.strong_induction_on generalizing source with
  | _ want ih =>
    rw [readExactly]
    by_cases done : want = 0
    · simp only [if_pos done]
      refine ⟨[], rfl, Nat.zero_le _, ?_⟩
      intro bytes read
      cases read
      exact ⟨rfl, done.symm⟩
    · simp only [if_neg done]
      obtain ⟨first, split, bound, exactly⟩ := read_some_takes source want
      cases answered : readSome source want with
      | mk outcome rest =>
        rw [answered] at split exactly
        cases outcome with
        | error refusal => exact ⟨first, split, bound, fun bytes read => by cases read⟩
        | ok chunk =>
          cases chunk with
          | nil => exact ⟨first, split, bound, fun bytes read => by cases read⟩
          | cons byte chunk =>
            have same : byte :: chunk = first := (exactly _ rfl).1
            subst same
            simp only [List.length_cons] at bound ⊢
            obtain ⟨more, splitMore, boundMore, exactlyMore⟩ :=
              ih (want - (chunk.length + 1)) (by omega) rest
            cases tail : readExactly rest (want - (chunk.length + 1)) with
            | mk outcome last =>
              rw [tail] at splitMore exactlyMore
              refine ⟨byte :: chunk ++ more, ?_, ?_, ?_⟩
              · cases outcome <;> simp [split, splitMore]
              · simp only [List.length_append, List.length_cons]
                omega
              · intro bytes read
                cases outcome with
                | error refusal => cases read
                | ok value =>
                  obtain ⟨rfl, exact⟩ := exactlyMore value rfl
                  cases read
                  refine ⟨rfl, ?_⟩
                  simp only [List.length_append, List.length_cons]
                  omega

theorem read_exactly_splitting (want : Nat) (splitting : source.Splitting) :
    (want ≤ source.bytes.length → ∃ rest, readExactly source want =
        (.ok (source.bytes.take want), rest) ∧ rest.Splitting ∧
        rest.bytes = source.bytes.drop want) ∧
    (source.bytes.length < want → ∃ rest, readExactly source want = (.error .truncated, rest)) := by
  induction want using Nat.strong_induction_on generalizing source with
  | _ want ih =>
    rw [readExactly]
    by_cases done : want = 0
    · subst done
      exact ⟨fun _ => ⟨source, rfl, splitting, rfl⟩, fun short => by omega⟩
    · simp only [if_neg done]
      obtain ⟨chunk, rest, answered, splits, joined, bound, ended⟩ :=
        read_some_splitting source want splitting
      rw [answered]
      cases chunk with
      | nil =>
        have empty : source.bytes = [] := (ended rfl).resolve_left done
        refine ⟨fun enough => ?_, fun _ => ⟨rest, rfl⟩⟩
        simp [empty] at enough
        exact (done enough).elim
      | cons byte chunk =>
        simp only [List.length_cons] at bound ⊢
        have lengths : source.bytes.length = chunk.length + 1 + rest.bytes.length := by
          simp [joined]
          omega
        obtain ⟨full, short⟩ := ih (want - (chunk.length + 1)) (by omega) rest splits
        constructor
        · intro enough
          obtain ⟨last, tail, lastSplits, lastBytes⟩ := full (by omega)
          have whole : (byte :: chunk).take want = byte :: chunk :=
            List.take_of_length_le (by simpa using bound)
          have none : (byte :: chunk).drop want = [] :=
            List.drop_of_length_le (by simpa using bound)
          refine ⟨last, ?_, lastSplits, ?_⟩
          · simp only [tail, joined, List.take_append, whole, List.length_cons]
          · rw [lastBytes, joined, List.drop_append, none]
            rfl
        · intro few
          obtain ⟨last, tail⟩ := short (by omega)
          exact ⟨last, by simp only [tail]⟩

/-! A source with no answers left gives every read in full. -/

theorem read_some_full (bytes : List UInt8) (capacity : Nat) :
    readSome ⟨bytes, []⟩ capacity = (.ok (bytes.take capacity), ⟨bytes.drop capacity, []⟩) := by
  rw [readSome]
  rfl

theorem read_exactly_full (bytes : List UInt8) (want : Nat) (enough : want ≤ bytes.length) :
    readExactly ⟨bytes, []⟩ want = (.ok (bytes.take want), ⟨bytes.drop want, []⟩) := by
  rw [readExactly, read_some_full]
  cases want with
  | zero => simp
  | succ want =>
    cases bytes with
    | nil => simp at enough
    | cons byte rest =>
      have whole : (byte :: rest.take want).length = want + 1 := by
        simp only [List.length_cons] at enough ⊢
        rw [List.length_take]
        omega
      simp only [List.take_succ_cons, List.drop_succ_cons, whole, Nat.sub_self]
      rw [readExactly]
      simp

end A2aBridge.CustodyFrame
