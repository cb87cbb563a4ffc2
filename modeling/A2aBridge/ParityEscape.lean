import Mathlib.Data.List.TakeWhile
import Mathlib.Tactic.Common

/-!
Escaping a delimiter by the parity of the escape symbols in front of it. A run of
`2 * r + 1` escapes before the delimiter stands for `r` escapes and the delimiter as
data; a run of `2 * r` stands for `r` escapes and a separator. Escapes elsewhere
stand for themselves. `unquote` splits a wire text at its separators and decodes the
segments; `quote` writes segments so that `unquote` reads them back.
-/

namespace A2aBridge.ParityEscape

/-- A delimiter that overlaps neither itself nor a run of escapes. -/
structure Delimiter (α : Type) where
  escape : α
  first : α
  rest : List α
  escape_free : escape ∉ rest
  first_free : first ∉ rest
  first_ne_escape : first ≠ escape

namespace Delimiter

variable {α : Type} (mark : Delimiter α)

def word : List α := mark.first :: mark.rest

def escapes (count : Nat) : List α := List.replicate count mark.escape

theorem word_length_pos : 0 < mark.word.length := by simp [word]

variable {symbol : α} {tail : List α}

theorem word_not_prefix_of_other (other : symbol ≠ mark.first) (text : List α) :
    ¬ mark.word <+: symbol :: text := by
  rintro ⟨_, found⟩
  cases found
  exact other rfl

/-- What may follow a quoted text: nothing, or a symbol no delimiter goes on with. -/
def Opens (tail : List α) : Prop := ∀ symbol ∈ tail.head?, symbol ∉ mark.rest

theorem opens_nil : mark.Opens [] := by
  nofun

theorem opens_word (text : List α) : mark.Opens (mark.word ++ text) := by
  intro symbol member
  cases member
  exact mark.first_free

theorem opens_escapes (count : Nat) (opens : mark.Opens tail) :
    mark.Opens (mark.escapes count ++ tail) := by
  cases count with
  | zero => exact opens
  | succ count =>
    intro symbol member
    cases member
    exact mark.escape_free

variable {goes text : List α}

theorem not_prefix_of_opens (inside : symbol ∈ mark.rest)
    (opens : mark.Opens tail) : ¬ symbol :: goes <+: tail := by
  rintro ⟨_, rfl⟩
  exact opens symbol rfl inside

variable [DecidableEq α] (text)

def run : Nat := (text.reverse.takeWhile (· == mark.escape)).length

@[simp] theorem run_nil : mark.run [] = 0 := rfl

theorem run_append_escape : mark.run (text ++ [mark.escape]) = mark.run text + 1 := by
  simp [run]

theorem run_append_escapes (count : Nat) :
    mark.run (text ++ mark.escapes count) = mark.run text + count := by
  induction count with
  | zero => simp [escapes]
  | succ count ih =>
    have shape : text ++ mark.escapes (count + 1) = (text ++ mark.escapes count) ++ [mark.escape] := by
      simp [escapes, List.replicate_succ']
    rw [shape, run_append_escape, ih, Nat.add_assoc]

theorem run_append_other (other : symbol ≠ mark.escape) : mark.run (text ++ [symbol]) = 0 := by
  simp [run, other]

theorem exists_run : ∃ body, text = body ++ mark.escapes (mark.run text) := by
  have split := List.takeWhile_append_dropWhile (p := (· == mark.escape)) (l := text.reverse)
  have all : text.reverse.takeWhile (· == mark.escape) = mark.escapes (mark.run text) := by
    apply List.eq_replicate_iff.mpr
    constructor
    · rfl
    · intro symbol member
      simpa using List.mem_takeWhile_imp member
  refine ⟨(text.reverse.dropWhile (· == mark.escape)).reverse, ?_⟩
  have back := congrArg List.reverse split
  rw [List.reverse_append, all, List.reverse_reverse] at back
  have same : (mark.escapes (mark.run text)).reverse = mark.escapes (mark.run text) := by
    simp [escapes]
  rw [same] at back
  exact back.symm

theorem run_append_word : mark.run (text ++ mark.word) = 0 := by
  have ends : ∃ front symbol, mark.word = front ++ [symbol] ∧ symbol ≠ mark.escape := by
    rcases List.eq_nil_or_concat mark.rest with none | ⟨front, symbol, last⟩
    · exact ⟨[], mark.first, by simp [word, none], mark.first_ne_escape⟩
    · refine ⟨mark.first :: front, symbol, by simp [word, last], ?_⟩
      rintro rfl
      exact mark.escape_free (by simp [last])
  obtain ⟨front, symbol, shape, other⟩ := ends
  rw [shape, ← List.append_assoc]
  exact run_append_other mark _ other

/-- A text with the escapes at its end taken down to `count`. -/
def settleRun (count : Nat) : List α :=
  text.take (text.length - mark.run text) ++ mark.escapes count

theorem settle_run_escapes (count : Nat) :
    mark.settleRun (text ++ mark.escapes count) (mark.run text) = text := by
  obtain ⟨body, shape⟩ := mark.exists_run text
  have whole : text ++ mark.escapes count = body ++ mark.escapes (mark.run text + count) := by
    conv_lhs => rw [shape]
    rw [List.append_assoc, escapes, escapes, List.replicate_append_replicate, escapes]
  have kept : (text ++ mark.escapes count).take
      ((text ++ mark.escapes count).length - (mark.run text + count)) = body := by
    rw [whole]
    simp [escapes]
  unfold settleRun
  rw [run_append_escapes, kept, ← shape]

variable {text}

/-- Splits a wire text at its separators; `pending` is the segment decoded so far. -/
def unquote (pending : List α) (text : List α) : List (List α) :=
  match text with
  | [] => [pending]
  | symbol :: more =>
    if mark.word <+: symbol :: more then
      if mark.run pending % 2 = 1 then
        unquote (mark.settleRun pending ((mark.run pending - 1) / 2) ++ mark.word)
          ((symbol :: more).drop mark.word.length)
      else
        mark.settleRun pending (mark.run pending / 2) ::
          unquote [] ((symbol :: more).drop mark.word.length)
    else unquote (pending ++ [symbol]) more
termination_by text.length
decreasing_by
  all_goals
    have := mark.word_length_pos
    simp only [List.length_drop, List.length_cons]
    omega

/-- Writes a text after a run of escapes. A delimiter in it gets its run doubled and one
more; at a separator the run at the end is doubled. -/
def quote (closing : Bool) (before : Nat) (text : List α) : List α :=
  match text with
  | [] => if closing then mark.escapes before else []
  | symbol :: more =>
    if mark.word <+: symbol :: more then
      mark.escapes (before + 1) ++ mark.word ++
        quote closing 0 ((symbol :: more).drop mark.word.length)
    else symbol :: quote closing (if symbol = mark.escape then before + 1 else 0) more
termination_by text.length
decreasing_by
  all_goals
    have := mark.word_length_pos
    simp only [List.length_drop, List.length_cons]
    omega

theorem unquote_word (pending : List α) :
    mark.unquote pending (mark.word ++ text) =
      if mark.run pending % 2 = 1 then
        mark.unquote (mark.settleRun pending ((mark.run pending - 1) / 2) ++ mark.word) text
      else mark.settleRun pending (mark.run pending / 2) :: mark.unquote [] text := by
  have begins : mark.word ++ text = mark.first :: (mark.rest ++ text) := rfl
  have found : mark.word <+: mark.first :: (mark.rest ++ text) := ⟨text, begins⟩
  rw [begins, unquote, if_pos found, ← begins, List.drop_left]

theorem unquote_other (pending : List α) (absent : ¬ mark.word <+: symbol :: text) :
    mark.unquote pending (symbol :: text) = mark.unquote (pending ++ [symbol]) text := by
  rw [unquote, if_neg absent]

theorem unquote_escapes (pending : List α) (count : Nat) :
    mark.unquote pending (mark.escapes count ++ text) =
      mark.unquote (pending ++ mark.escapes count) text := by
  induction count generalizing pending with
  | zero => simp [escapes]
  | succ count ih =>
    have shape : mark.escapes (count + 1) = mark.escape :: mark.escapes count := rfl
    have absent := mark.word_not_prefix_of_other mark.first_ne_escape.symm
      (mark.escapes count ++ text)
    rw [shape, List.cons_append, mark.unquote_other pending absent, ih, List.append_assoc]
    rfl

variable (closing : Bool)

/-- Quoting starts no delimiter that the text does not have: what continues a delimiter
in the quoted text continues it in the text itself. -/
theorem rest_prefix_of_quote (inside : ∀ symbol ∈ goes, symbol ∈ mark.rest) (before : Nat)
    (text : List α) (opens : mark.Opens tail)
    (found : goes <+: mark.quote closing before text ++ tail) : goes <+: text := by
  induction goes generalizing before text with
  | nil => exact List.nil_prefix
  | cons symbol goes ih =>
    have mine := inside symbol (List.mem_cons_self ..)
    cases text with
    | nil =>
      exfalso
      refine mark.not_prefix_of_opens mine ?_ found
      rw [quote]
      cases closing with
      | true => exact mark.opens_escapes before opens
      | false => exact opens
    | cons head more =>
      rw [quote] at found
      by_cases word : mark.word <+: head :: more
      · rw [if_pos word, List.append_assoc, List.append_assoc] at found
        exfalso
        refine mark.not_prefix_of_opens mine ?_ found
        intro other member
        cases member
        exact mark.escape_free
      · rw [if_neg word, List.cons_append, List.cons_prefix_cons] at found
        rw [List.cons_prefix_cons]
        exact ⟨found.1, ih (fun other member => inside other (List.mem_cons_of_mem _ member)) _ _
          found.2⟩

theorem word_not_prefix_of_quote (before : Nat) (opens : mark.Opens tail)
    (absent : ¬ mark.word <+: symbol :: text) :
    ¬ mark.word <+: symbol :: (mark.quote closing before text ++ tail) := by
  intro found
  obtain ⟨same, goes⟩ := List.cons_prefix_cons.mp found
  apply absent
  exact List.cons_prefix_cons.mpr
    ⟨same, mark.rest_prefix_of_quote closing (fun _ member => member) before text opens goes⟩

theorem unquote_quote (before : Nat) (text : List α) {pending : List α}
    (counted : mark.run pending = before) (opens : mark.Opens tail) :
    mark.unquote pending (mark.quote closing before text ++ tail) =
      mark.unquote (pending ++ text ++ if closing then mark.escapes (mark.run (pending ++ text)) else [])
        tail := by
  fun_induction quote mark closing before text generalizing pending with
  | case1 before closed => simp [closed, mark.unquote_escapes, counted]
  | case2 before unclosed => simp [unclosed]
  | case3 before symbol more word ih =>
    obtain ⟨after, split⟩ := word
    -- the wire run is odd, so the delimiter is data and `before` escapes stay
    have doubled : mark.run (pending ++ mark.escapes (before + 1)) = 2 * before + 1 := by
      rw [run_append_escapes, counted]
      omega
    have settled : mark.settleRun (pending ++ mark.escapes (before + 1)) before = pending := by
      rw [← counted]
      exact mark.settle_run_escapes pending _
    have half : (2 * before + 1 - 1) / 2 = before := by omega
    have odd : (2 * before + 1) % 2 = 1 := by omega
    rw [← split, List.drop_left] at ih ⊢
    rw [List.append_assoc, List.append_assoc, mark.unquote_escapes, mark.unquote_word, doubled,
      if_pos odd, half, settled, ih (mark.run_append_word pending) , List.append_assoc pending]
  | case4 before symbol more absent ih =>
    have next : mark.run (pending ++ [symbol]) = if symbol = mark.escape then before + 1 else 0 := by
      by_cases escaped : symbol = mark.escape
      · rw [if_pos escaped, escaped, run_append_escape, counted]
      · rw [if_neg escaped, mark.run_append_other pending escaped]
    simp only [dite_eq_ite] at ih
    have missing := mark.word_not_prefix_of_quote closing
      (if symbol = mark.escape then before + 1 else 0) opens absent
    rw [List.cons_append, mark.unquote_other pending missing, ih next]
    simp

/-- The wire text of a list of segments: all but the last end at a separator. -/
def joined : List (List α) → List α
  | [] => []
  | [segment] => mark.quote false 0 segment
  | segment :: more => mark.quote true 0 segment ++ (mark.word ++ joined more)

theorem unquote_joined (segment : List α) (more : List (List α)) :
    mark.unquote [] (mark.joined (segment :: more)) = segment :: more := by
  induction more generalizing segment with
  | nil =>
    have read := mark.unquote_quote false 0 segment mark.run_nil mark.opens_nil
    simpa [joined, unquote] using read
  | cons next more ih =>
    -- the wire run is even, so the delimiter separates and half of the run stays
    have doubled : mark.run (segment ++ mark.escapes (mark.run segment)) = 2 * mark.run segment := by
      rw [run_append_escapes]
      omega
    have even : ¬ 2 * mark.run segment % 2 = 1 := by omega
    have half : 2 * mark.run segment / 2 = mark.run segment := by omega
    have read := mark.unquote_quote true 0 segment mark.run_nil
      (mark.opens_word (mark.joined (next :: more)))
    simp only [List.nil_append, if_true] at read
    rw [joined, read, mark.unquote_word, doubled, if_neg even, half, mark.settle_run_escapes, ih]
    simp

/-- A spelling of one alphabet in another that keeps the symbols of the delimiter apart:
each of them is spelled by a single symbol, which no other spelling contains. -/
structure Spelling {β : Type} (source : Delimiter α) (target : Delimiter β) where
  spell : α → List β
  nonempty : ∀ symbol, spell symbol ≠ []
  single : ∀ symbol ∈ source.escape :: source.word, ∃ letter, spell symbol = [letter]
  apart : ∀ symbol ∈ source.escape :: source.word, ∀ other, ∀ letter ∈ spell symbol,
    letter ∈ spell other → other = symbol
  escape_spelled : spell source.escape = [target.escape]
  word_spelled : source.word.flatMap spell = target.word

end Delimiter

namespace Delimiter.Spelling

variable {α β : Type} [DecidableEq α] [DecidableEq β] {source : Delimiter α} {target : Delimiter β}
  (spelling : Spelling source target)

omit [DecidableEq α] [DecidableEq β] in
theorem spell_first : spelling.spell source.first = [target.first] := by
  obtain ⟨letter, single⟩ := spelling.single source.first (by simp [word])
  have spelled := spelling.word_spelled
  rw [word, List.flatMap_cons, single, word, List.singleton_append] at spelled
  rw [single, (List.cons.inj spelled).1]

omit [DecidableEq α] [DecidableEq β] in
theorem prefix_spelled_iff {goes : List α} (inside : ∀ symbol ∈ goes, symbol ∈ source.word)
    (text : List α) : goes.flatMap spelling.spell <+: text.flatMap spelling.spell ↔ goes <+: text := by
  induction goes generalizing text with
  | nil => simp
  | cons symbol goes ih =>
    have mine : symbol ∈ source.escape :: source.word :=
      List.mem_cons_of_mem _ (inside symbol (List.mem_cons_self ..))
    obtain ⟨letter, single⟩ := spelling.single symbol mine
    have others : ∀ other ∈ goes, other ∈ source.word :=
      fun other member => inside other (List.mem_cons_of_mem _ member)
    cases text with
    | nil => simp [single]
    | cons head more =>
      rw [List.cons_prefix_cons, List.flatMap_cons, List.flatMap_cons, single]
      constructor
      · intro found
        obtain ⟨initial, letters, shape⟩ := List.exists_cons_of_ne_nil (spelling.nonempty head)
        rw [shape] at found
        have same := (List.cons_prefix_cons.mp found).1
        have equal : head = symbol := spelling.apart symbol mine head letter
          (by simp [single]) (by simp [shape, same])
        rw [← shape, equal, single] at found
        exact ⟨equal.symm, (ih others more).mp (List.cons_prefix_cons.mp found).2⟩
      · rintro ⟨rfl, found⟩
        rw [single]
        exact List.cons_prefix_cons.mpr ⟨rfl, (ih others more).mpr found⟩

theorem quote_letters (closing : Bool) {letters : List β} (before : Nat) (text : List β)
    (plain : ∀ letter ∈ letters, letter ≠ target.first ∧ letter ≠ target.escape) (some : letters ≠ []) :
    target.quote closing before (letters ++ text) = letters ++ target.quote closing 0 text := by
  induction letters generalizing before with
  | nil => exact absurd rfl some
  | cons letter letters ih =>
    have mine := plain letter (List.mem_cons_self ..)
    have absent := target.word_not_prefix_of_other mine.1 (letters ++ text)
    rw [List.cons_append, quote, if_neg absent, if_neg mine.2]
    cases letters with
    | nil => rfl
    | cons next letters =>
      rw [ih 0 (fun other member => plain other (List.mem_cons_of_mem _ member)) (by simp)]
      rfl

theorem quote_spelled (closing : Bool) (before : Nat) (text : List α) :
    (source.quote closing before text).flatMap spelling.spell =
      target.quote closing before (text.flatMap spelling.spell) := by
  have escapes_spelled (count : Nat) :
      (source.escapes count).flatMap spelling.spell = target.escapes count := by
    induction count with
    | zero => rfl
    | succ count ih =>
      rw [escapes, List.replicate_succ, List.flatMap_cons, spelling.escape_spelled, ← escapes, ih]
      rfl
  fun_induction quote source closing before text with
  | case1 before closed => simp [quote, closed, escapes_spelled]
  | case2 before unclosed => simp [quote, unclosed]
  | case3 before symbol more word ih =>
    obtain ⟨after, split⟩ := word
    have begins : target.word ++ after.flatMap spelling.spell =
        target.first :: (target.rest ++ after.flatMap spelling.spell) := rfl
    have found : target.word <+: target.first :: (target.rest ++ after.flatMap spelling.spell) :=
      ⟨_, begins⟩
    rw [← split, List.drop_left] at ih ⊢
    rw [List.flatMap_append, List.flatMap_append, List.flatMap_append, escapes_spelled,
      spelling.word_spelled, ih, begins, quote, if_pos found, ← begins, List.drop_left]
  | case4 before symbol more absent ih =>
    simp only [dite_eq_ite] at ih
    have missing : ¬ target.word <+: spelling.spell symbol ++ more.flatMap spelling.spell :=
      fun found => absent ((spelling.prefix_spelled_iff (fun _ => id) (symbol :: more)).mp
        (spelling.word_spelled ▸ found))
    rw [List.flatMap_cons, List.flatMap_cons, ih]
    by_cases escaped : symbol = source.escape
    · rw [escaped, spelling.escape_spelled, List.singleton_append] at missing
      rw [if_pos escaped, escaped, spelling.escape_spelled, List.singleton_append,
        List.singleton_append, quote, if_neg missing, if_pos rfl]
    · rw [if_neg escaped]
      by_cases initial : symbol = source.first
      · rw [initial, spelling.spell_first, List.singleton_append] at missing
        rw [initial, spelling.spell_first, List.singleton_append, List.singleton_append, quote,
          if_neg missing, if_neg target.first_ne_escape]
      · refine (quote_letters closing before _ (fun letter member => ⟨?_, ?_⟩)
          (spelling.nonempty symbol)).symm
        · rintro rfl
          exact initial (spelling.apart source.first (by simp [word]) symbol target.first
            (by simp [spelling.spell_first]) member)
        · rintro rfl
          exact escaped (spelling.apart source.escape (by simp) symbol target.escape
            (by simp [spelling.escape_spelled]) member)

end Delimiter.Spelling

end A2aBridge.ParityEscape
