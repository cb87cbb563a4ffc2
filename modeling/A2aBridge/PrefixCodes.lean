import A2aBridge.LittleEndian
import Mathlib.Logic.Function.Basic

/-!
Codes that can be cut off the front of a text in one way only. A sequence of such codes is read
back field by field, so that equal texts have equal fields.
-/

namespace A2aBridge.PrefixCodes

open LittleEndian

variable {α β Symbol : Type}

/-- Where two texts start with words of the code, the words and the rests are the same. -/
structure Delimited (code : α → List Symbol) : Prop where
  cut : ∀ {left right leftRest rightRest},
    code left ++ leftRest = code right ++ rightRest → left = right ∧ leftRest = rightRest

variable {code : α → List Symbol}

theorem Delimited.injective (delimited : Delimited code) : Function.Injective code := by
  intro left right same
  apply And.left
  apply @delimited.cut left right [] []
  rw [same]

theorem Delimited.comap {code : β → List Symbol} (delimited : Delimited code) (read : α → β)
    (injective : Function.Injective read) : Delimited fun value => code (read value) := by
  constructor
  intro left right leftRest rightRest same
  obtain ⟨values, rests⟩ := delimited.cut same
  exact ⟨injective values, rests⟩

theorem Delimited.append {first : α → List Symbol} {second : β → List Symbol}
    (firstDelimited : Delimited first) (secondDelimited : Delimited second) :
    Delimited fun pair : α × β => first pair.1 ++ second pair.2 := by
  constructor
  intro left right leftRest rightRest same
  rw [List.append_assoc, List.append_assoc] at same
  obtain ⟨firsts, same⟩ := firstDelimited.cut same
  obtain ⟨seconds, rests⟩ := secondDelimited.cut same
  exact ⟨Prod.ext firsts seconds, rests⟩

theorem delimited_of_length {width : Nat} (length : ∀ value, (code value).length = width)
    (injective : Function.Injective code) : Delimited code := by
  constructor
  intro left right leftRest rightRest same
  obtain ⟨words, rests⟩ := List.append_inj same ((length left).trans (length right).symm)
  exact ⟨injective words, rests⟩

theorem Delimited.optional {encode : Option α → List Symbol}
    {present absent : Symbol} (delimited : Delimited code) (differ : present ≠ absent)
    (encode_some : ∀ value, encode (some value) = present :: code value)
    (encode_none : encode none = [absent]) : Delimited encode := by
  constructor
  intro left right leftRest rightRest same
  cases left with
  | none =>
    cases right with
    | none =>
      rw [encode_none] at same
      exact ⟨rfl, List.tail_eq_of_cons_eq same⟩
    | some _ =>
      rw [encode_none, encode_some] at same
      exact absurd (List.head_eq_of_cons_eq same).symm differ
  | some _ =>
    cases right with
    | none =>
      rw [encode_none, encode_some] at same
      exact absurd (List.head_eq_of_cons_eq same) differ
    | some _ =>
      rw [encode_some, encode_some] at same
      obtain ⟨rfl, rests⟩ := delimited.cut (List.tail_eq_of_cons_eq same)
      exact ⟨rfl, rests⟩

variable {left right : List α} {leftRest rightRest : List Symbol}

theorem Delimited.flat_map (delimited : Delimited code) (count : left.length = right.length)
    (same : left.flatMap code ++ leftRest = right.flatMap code ++ rightRest) :
    left = right ∧ leftRest = rightRest := by
  induction left generalizing right with
  | nil =>
    cases right with
    | nil => exact ⟨rfl, same⟩
    | cons _ _ => cases count
  | cons value rest ih =>
    cases right with
    | nil => cases count
    | cons other others =>
      rw [List.flatMap_cons, List.flatMap_cons, List.append_assoc, List.append_assoc] at same
      obtain ⟨rfl, tails⟩ := delimited.cut same
      obtain ⟨rfl, rests⟩ := ih (Nat.succ.inj count) tails
      exact ⟨rfl, rests⟩

theorem delimited_of_mark [DecidableEq Symbol] {body : α → List Symbol} {mark : Symbol}
    (free : ∀ value, mark ∉ body value) (injective : Function.Injective body) :
    Delimited fun value => body value ++ [mark] := by
  have upTo (value : α) (rest : List Symbol) :
      (body value ++ [mark] ++ rest).takeWhile (· ≠ mark) = body value := by
    rw [List.append_assoc, List.takeWhile_append_of_pos]
    · simp
    · exact fun symbol member => decide_eq_true fun same => free value (same ▸ member)
  constructor
  intro left right leftRest rightRest same
  obtain rfl : left = right := injective (by rw [← upTo left leftRest, same, upTo])
  exact ⟨rfl, List.append_cancel_left same⟩

theorem Delimited.cons (delimited : Delimited code) (mark : Symbol) :
    Delimited fun value => mark :: code value :=
  ⟨fun same => delimited.cut (List.cons.inj same).2⟩

/-- A list of words is read up to a rest that no word starts. -/
theorem Delimited.flat_map_until (delimited : Delimited code)
    (leftEnds : ∀ value rest, code value ++ rest ≠ leftRest)
    (rightEnds : ∀ value rest, code value ++ rest ≠ rightRest)
    (same : left.flatMap code ++ leftRest = right.flatMap code ++ rightRest) :
    left = right ∧ leftRest = rightRest := by
  induction left generalizing right with
  | nil =>
    cases right with
    | nil => exact ⟨rfl, same⟩
    | cons other others =>
      rw [List.flatMap_cons, List.append_assoc] at same
      exact absurd same.symm (leftEnds other _)
  | cons value rest ih =>
    cases right with
    | nil =>
      rw [List.flatMap_cons, List.append_assoc] at same
      exact absurd same (rightEnds value _)
    | cons other others =>
      rw [List.flatMap_cons, List.flatMap_cons, List.append_assoc, List.append_assoc] at same
      obtain ⟨rfl, tails⟩ := delimited.cut same
      obtain ⟨rfl, rests⟩ := ih tails
      exact ⟨rfl, rests⟩

/-! ### Fixed-width naturals, highest byte first -/

def beBytes (width value : Nat) : List UInt8 := (leBytes width value).reverse

@[simp] theorem be_bytes_length (width value : Nat) : (beBytes width value).length = width := by
  rw [beBytes, List.length_reverse, le_bytes_length]

theorem be_bytes_inj {width left right : Nat} (leftFits : left < 256 ^ width)
    (rightFits : right < 256 ^ width) (same : beBytes width left = beBytes width right) :
    left = right := by
  have reversed := List.reverse_injective same
  rw [← le_nat_bytes width left leftFits, reversed, le_nat_bytes width right rightFits]

theorem be_bytes_delimited (width : Nat) :
    Delimited fun value : Fin (256 ^ width) => beBytes width value := by
  apply delimited_of_length fun value : Fin (256 ^ width) => be_bytes_length width value
  intro left right same
  exact Fin.ext (be_bytes_inj left.isLt right.isLt same)

end A2aBridge.PrefixCodes
