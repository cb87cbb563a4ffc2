import Mathlib.Data.List.Basic

/-!
Byte sources and sinks that choose their own split. A source holds the bytes
still to be handed over and the answers it will give to the next `read` calls;
a sink holds the bytes it took and the answers it will give to the next `write`
calls. Any finite run consults finitely many answers, so quantifying over the
answer lists covers every split. A source without answers fills the whole buffer.
-/

namespace A2aBridge.ByteTransport

inductive ReadAnswer (Kind : Type) where
  -- At most `most + 1` bytes, so that a read that hands over nothing means the end.
  | upTo (most : Nat)
  | interrupted
  | failed (kind : Kind)
  | overclaimed
  deriving DecidableEq

inductive ReadOutcome (Kind : Type) where
  | data (chunk : List UInt8)
  | interrupted
  | failed (kind : Kind)
  | overclaimed
  deriving DecidableEq

structure Source (Kind : Type) where
  bytes : List UInt8
  answers : List (ReadAnswer Kind)
  deriving DecidableEq

variable {Kind : Type}

def Source.read (source : Source Kind) (capacity : Nat) : ReadOutcome Kind × Source Kind :=
  match source.answers with
  | [] => (.data (source.bytes.take capacity), ⟨source.bytes.drop capacity, []⟩)
  | .upTo most :: rest =>
    let count := min capacity (most + 1)
    (.data (source.bytes.take count), ⟨source.bytes.drop count, rest⟩)
  | .interrupted :: rest => (.interrupted, ⟨source.bytes, rest⟩)
  | .failed kind :: rest => (.failed kind, ⟨source.bytes, rest⟩)
  | .overclaimed :: rest => (.overclaimed, ⟨source.bytes, rest⟩)

theorem interrupted_shrinks {source rest : Source Kind} {capacity : Nat}
    (answered : source.read capacity = (.interrupted, rest)) :
    rest.answers.length < source.answers.length := by
  obtain ⟨bytes, answers⟩ := source
  cases answers with
  | nil => simp [Source.read] at answered
  | cons answer more =>
    cases answer <;> simp only [Source.read, Prod.mk.injEq, reduceCtorEq, false_and, true_and] at answered
    subst answered
    simp

/-- The source only splits and interrupts: it neither fails nor lies. -/
def ReadAnswer.Splits : ReadAnswer Kind → Prop
  | .upTo _ => True
  | .interrupted => True
  | .failed _ => False
  | .overclaimed => False

def Source.Splitting (source : Source Kind) : Prop := ∀ answer ∈ source.answers, answer.Splits

theorem splitting_nil (bytes : List UInt8) : (⟨bytes, []⟩ : Source Kind).Splitting := by
  nofun

theorem splitting_tail {bytes rest : List UInt8} {answer : ReadAnswer Kind}
    {answers : List (ReadAnswer Kind)}
    (splitting : (⟨bytes, answer :: answers⟩ : Source Kind).Splitting) :
    (⟨rest, answers⟩ : Source Kind).Splitting :=
  fun other member => splitting other (List.mem_cons_of_mem answer member)

inductive WriteAnswer (Kind : Type) where
  | upTo (most : Nat)
  | zero
  | interrupted
  | failed (kind : Kind)
  | overclaimed
  deriving DecidableEq

inductive WriteOutcome (Kind : Type) where
  | wrote (count : Nat)
  | interrupted
  | failed (kind : Kind)
  deriving DecidableEq

structure Sink (Kind : Type) where
  written : List UInt8
  answers : List (WriteAnswer Kind)
  -- The answer to the final `flush`.
  flushFailure : Option Kind
  deriving DecidableEq

variable (sink : Sink Kind) (offer : List UInt8)

/-- A sink that overclaims took the whole offer and reports one byte more. -/
def Sink.write : WriteOutcome Kind × Sink Kind :=
  match sink.answers with
  | [] => (.wrote offer.length, { sink with written := sink.written ++ offer })
  | .upTo most :: rest =>
    let count := min offer.length (most + 1)
    (.wrote count, { sink with written := sink.written ++ offer.take count, answers := rest })
  | .zero :: rest => (.wrote 0, { sink with answers := rest })
  | .interrupted :: rest => (.interrupted, { sink with answers := rest })
  | .failed kind :: rest => (.failed kind, { sink with answers := rest })
  | .overclaimed :: rest =>
    (.wrote (offer.length + 1), { sink with written := sink.written ++ offer, answers := rest })

theorem write_interrupted_shrinks {sink rest : Sink Kind} {offer : List UInt8}
    (answered : sink.write offer = (.interrupted, rest)) :
    rest.answers.length < sink.answers.length := by
  obtain ⟨written, answers, failure⟩ := sink
  cases answers with
  | nil => simp [Sink.write] at answered
  | cons answer more =>
    cases answer <;> simp only [Sink.write, Prod.mk.injEq, reduceCtorEq, false_and, true_and] at answered
    subst answered
    simp

theorem write_answers_le : (sink.write offer).2.answers.length ≤ sink.answers.length := by
  obtain ⟨written, answers, failure⟩ := sink
  cases answers with
  | nil => simp [Sink.write]
  | cons answer more => cases answer <;> simp [Sink.write]

def WriteAnswer.Splits : WriteAnswer Kind → Prop
  | .upTo _ => True
  | .interrupted => True
  | .zero => False
  | .failed _ => False
  | .overclaimed => False

/-- The sink never fails: it takes every byte, in pieces of its own choosing. -/
def Sink.Splitting : Prop := (∀ answer ∈ sink.answers, answer.Splits) ∧ sink.flushFailure = none

/-- A sink takes a prefix of the offer: the reported one, when the report is possible. -/
theorem write_takes :
    ∃ taken, (sink.write offer).2.written = sink.written ++ taken ∧
      taken.length ≤ offer.length ∧
      (∀ count, (sink.write offer).1 = .wrote count → count ≤ offer.length →
        taken = offer.take count) ∧
      ((sink.write offer).1 = .interrupted → taken = []) := by
  obtain ⟨written, answers, failure⟩ := sink
  cases answers with
  | nil =>
    refine ⟨offer, rfl, Nat.le_refl _, ?_, ?_⟩
    · intro count reported _
      simp only [Sink.write, WriteOutcome.wrote.injEq] at reported
      simp [← reported]
    · nofun
  | cons answer more =>
    cases answer with
    | upTo most =>
      refine ⟨offer.take (min offer.length (most + 1)), rfl, List.length_take_le' _ _, ?_, ?_⟩
      · intro count reported _
        simp only [Sink.write, WriteOutcome.wrote.injEq] at reported
        rw [reported]
      · nofun
    | zero =>
      refine ⟨[], by simp [Sink.write], Nat.zero_le _, ?_, fun _ => rfl⟩
      intro count reported _
      simp only [Sink.write, WriteOutcome.wrote.injEq] at reported
      simp [← reported]
    | interrupted | failed =>
      exact ⟨[], by simp [Sink.write], Nat.zero_le _,
        fun _ reported _ => by simp [Sink.write] at reported, fun _ => rfl⟩
    | overclaimed =>
      refine ⟨offer, rfl, Nat.le_refl _, ?_, fun reported => by cases reported⟩
      intro count reported bound
      simp only [Sink.write, WriteOutcome.wrote.injEq] at reported
      omega

/-- A sink that only splits takes at least one byte of an offer, or interrupts. -/
theorem write_splitting (nonempty : offer ≠ []) (splitting : sink.Splitting) :
    (sink.write offer).2.Splitting ∧
      ((sink.write offer).1 = .interrupted ∨
        ∃ count, (sink.write offer).1 = .wrote (count + 1) ∧ count + 1 ≤ offer.length) := by
  obtain ⟨written, answers, failure⟩ := sink
  have positive := List.length_pos_iff.mpr nonempty
  cases answers with
  | nil =>
    refine ⟨splitting, .inr ⟨offer.length - 1, ?_, ?_⟩⟩
    · simp only [Sink.write]
      congr 1
      omega
    · omega
  | cons answer more =>
    have rest : (∀ later ∈ more, WriteAnswer.Splits later) ∧ failure = none :=
      ⟨fun later member => splitting.1 later (List.mem_cons_of_mem answer member), splitting.2⟩
    cases answer with
    | upTo most =>
      refine ⟨rest, .inr ⟨min offer.length (most + 1) - 1, ?_, ?_⟩⟩
      · simp only [Sink.write]
        congr 1
        omega
      · omega
    | interrupted => exact ⟨rest, .inl rfl⟩
    | zero | failed | overclaimed => exact (splitting.1 _ List.mem_cons_self).elim

end A2aBridge.ByteTransport
