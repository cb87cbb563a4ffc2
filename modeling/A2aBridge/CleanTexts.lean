import A2aBridge.Redaction
import Mathlib.Data.List.Infix
import Mathlib.Data.List.TakeWhile
import Mathlib.Tactic.FinCases

/-!
The texts that redaction leaves as they are. A text is clean if nothing that a pass looks for
stands in it; the converse counts the characters that no pass puts in and every pass but the one
for markers takes out where it finds something.
-/

namespace A2aBridge.Records

open ByteText (isWhitespace truncateUtf8)
open Workflow (asciiLower)

/-- The pattern stands in the text with no identifier before it, nor after it if `closed`; `joined`
tells whether an identifier stands before the text. -/
def Stands (pattern : List Char) (closed joined : Bool) (text : List Char) : Prop :=
  ∃ before after, text = before ++ (pattern ++ after) ∧
    before.getLast?.elim joined isIdentifier = false ∧
    (closed && after.head?.any isIdentifier) = false

/-- No URL in the text has a query or a fragment. -/
def Queryless (text : List Char) : Prop :=
  ∀ url, url <:+: text → (∃ scheme ∈ urlSchemes, scheme.toList <+: url.map asciiLower) →
    (∀ c ∈ url, inUrl c = true) → '?' ∉ url ∧ '#' ∉ url

/-- Nothing that redaction looks for stands in the text: no control but a tab, no URL with a query
or a fragment, no secret marker as a word and no word that starts as a credential, in any case, and
not the home directory. -/
structure Clean (home : Option String) (text : List Char) : Prop where
  controls : ∀ c ∈ text, c = '\t' ∨ isControl c = false
  urls : Queryless text
  markers : ∀ marker ∈ secretMarkers, ¬ Stands marker.toList true false (text.map asciiLower)
  credentials : ∀ word ∈ credentialPrefixes, ¬ Stands word.toList false false (text.map asciiLower)
  outside : ∀ path ∈ home, path ≠ "" → ¬ path.toList <:+: text

/-! ### What a search finds, and a cut leaves -/

section

variable (text : List Char) (bytes : Nat)

theorem truncate_utf8_starts : truncateUtf8 bytes text <+: text := by
  induction text generalizing bytes with
  | nil => exact List.nil_prefix
  | cons c rest ih =>
    by_cases fits : c.utf8Size ≤ bytes
    · simp [truncateUtf8, fits, ih]
    · simp [truncateUtf8, fits]

theorem truncate_utf8_fits : ((truncateUtf8 bytes text).map Char.utf8Size).sum ≤ bytes := by
  induction text generalizing bytes with
  | nil => exact Nat.zero_le _
  | cons c rest ih =>
    by_cases fits : c.utf8Size ≤ bytes
    · have onward := ih (bytes - c.utf8Size)
      simp only [truncateUtf8, fits, if_true, List.map_cons, List.sum_cons]
      omega
    · simp [truncateUtf8, fits]

theorem truncate_whole {text : List Char} {bytes : Nat}
    (fits : (text.map Char.utf8Size).sum ≤ bytes) : truncateUtf8 bytes text = text := by
  induction text generalizing bytes with
  | nil => rfl
  | cons c rest ih =>
    rw [List.map_cons, List.sum_cons] at fits
    rw [truncateUtf8, if_pos (by omega), ih (by omega)]

end

section

variable {pattern text : List Char} {closed joined : Bool}

theorem stands_cons {c : Char} : Stands pattern closed joined (c :: text) ↔
    (joined = false ∧ ∃ after, c :: text = pattern ++ after ∧
      (closed && after.head?.any isIdentifier) = false) ∨
    Stands pattern closed (isIdentifier c) text := by
  constructor
  · rintro ⟨before, after, split, first, last⟩
    cases before with
    | nil => exact .inl ⟨first, after, split, last⟩
    | cons d before =>
      obtain ⟨rfl, rest⟩ := List.cons.inj split
      refine .inr ⟨before, after, rest, ?_, last⟩
      rw [List.getLast?_cons] at first
      cases final : before.getLast? <;> simpa [final] using first
  · rintro (⟨first, after, split, last⟩ | ⟨before, after, rfl, first, last⟩)
    · exact ⟨[], after, split, first, last⟩
    · refine ⟨c :: before, after, rfl, ?_, last⟩
      rw [List.getLast?_cons]
      cases final : before.getLast? <;> simpa [final] using first

/-- The search passes over the rest of a match that does not count, and so over no place where
the pattern stands: an identifier is before each of them. -/
theorem find_bounded_none (word : ∀ c ∈ pattern, isIdentifier c = true) (named : pattern ≠ [])
    {skip : Nat} (inside : 0 < skip → joined = true)
    (covered : ∀ c ∈ text.take skip, isIdentifier c = true) :
    findBounded pattern closed skip joined text = none ↔ ¬ Stands pattern closed joined text := by
  induction text generalizing skip joined with
  | nil =>
    refine iff_of_true rfl ?_
    rintro ⟨before, after, split, -⟩
    have empty := congrArg List.length split
    simp only [List.length_nil, List.length_append] at empty
    exact named (List.eq_nil_of_length_eq_zero (by omega))
  | cons c rest ih =>
    rw [stands_cons]
    cases skip with
    | succ skip =>
      obtain ⟨here, onward⟩ := List.forall_mem_cons.mp (List.take_succ_cons ▸ covered)
      rw [findBounded, Option.map_eq_none_iff, ih (fun _ => here) onward, inside (Nat.succ_pos _)]
      simp
    | zero =>
      rw [findBounded]
      split
      · next starts =>
        obtain ⟨after, split⟩ := List.isPrefixOf_iff_prefix.mp starts
        have behind : (c :: rest).drop pattern.length = after := by rw [← split, List.drop_left]
        rw [behind]
        split
        · next counts =>
          simp only [Bool.and_eq_true, Bool.not_eq_true'] at counts
          exact iff_of_false nofun (not_not.mpr (.inl ⟨counts.1, after, split.symm, counts.2⟩))
        · next fails =>
          obtain ⟨d, word', rfl⟩ := List.exists_cons_of_ne_nil named
          obtain ⟨rfl, rfl⟩ := List.cons.inj split
          obtain ⟨here, onward⟩ := List.forall_mem_cons.mp word
          rw [Option.map_eq_none_iff, ih (fun _ => here) (by simpa using onward)]
          constructor
          · rintro absent (⟨first, tail, same, last⟩ | later)
            · obtain rfl := List.append_cancel_left (List.cons.inj same).2
              simp [first, last] at fails
            · exact absent later
          · exact fun absent later => absent (.inr later)
      · next fails =>
        rw [Option.map_eq_none_iff, ih (fun counts => absurd counts (Nat.lt_irrefl 0)) (by simp)]
        constructor
        · rintro absent (⟨-, after, split, -⟩ | later)
          · exact fails (List.isPrefixOf_iff_prefix.mpr ⟨after, split.symm⟩)
          · exact absent later
        · exact fun absent later => absent (.inr later)

theorem find_bounded_some {skip start : Nat}
    (found : findBounded pattern closed skip joined text = some start) :
    pattern <+: text.drop start := by
  induction text generalizing skip joined start with
  | nil => cases skip <;> cases found
  | cons c rest ih =>
    have later : ∀ {skip joined}, (findBounded pattern closed skip joined rest).map (· + 1) =
        some start → pattern <+: (c :: rest).drop start := by
      intro skip joined next
      obtain ⟨place, there, rfl⟩ := Option.map_eq_some_iff.mp next
      exact ih there
    cases skip with
    | succ skip => exact later found
    | zero =>
      rw [findBounded] at found
      split at found
      · next starts =>
        split at found
        · cases found
          exact List.isPrefixOf_iff_prefix.mp starts
        · exact later found
      · exact later found

theorem find_pattern_some {start : Nat} (found : findPattern pattern text = some start) :
    pattern <+: text.drop start := by
  induction text generalizing start with
  | nil => cases found
  | cons c rest ih =>
    rw [findPattern] at found
    split at found
    · next starts =>
      cases found
      exact List.isPrefixOf_iff_prefix.mp starts
    · obtain ⟨place, later, rfl⟩ := Option.map_eq_some_iff.mp found
      exact ih later

theorem find_pattern_first {before after : List Char} (named : pattern ≠ []) :
    ∃ start ≤ before.length, findPattern pattern (before ++ (pattern ++ after)) = some start := by
  induction before with
  | nil =>
    obtain ⟨c, word, rfl⟩ := List.exists_cons_of_ne_nil named
    refine ⟨0, Nat.le_refl 0, ?_⟩
    have starts : (c :: word).isPrefixOf (c :: (word ++ after)) = true :=
      List.isPrefixOf_iff_prefix.mpr (List.prefix_append (c :: word) after)
    rw [List.nil_append, List.cons_append, findPattern, if_pos starts]
  | cons c before ih =>
    obtain ⟨start, first, found⟩ := ih
    rw [List.cons_append, findPattern]
    split
    · exact ⟨0, Nat.zero_le _, rfl⟩
    · exact ⟨start + 1, Nat.succ_le_succ first, by rw [found]; rfl⟩

end

theorem least_eq_none {places : List Nat} : least places = none ↔ places = [] := by
  cases places <;> simp [least]

theorem least_some {places : List Nat} {start : Nat} (found : least places = some start) :
    start ∈ places ∧ ∀ place ∈ places, start ≤ place := by
  cases places with
  | nil => cases found
  | cons first rest =>
    cases found
    induction rest generalizing first with
    | nil => simp
    | cons second rest ih =>
      obtain ⟨among, below⟩ := ih (min first second)
      rw [List.foldl_cons]
      simp only [List.mem_cons, forall_eq_or_imp] at among below ⊢
      refine ⟨?_, by omega, by omega, below.2⟩
      rcases among with same | later
      · rw [same]
        omega
      · exact .inr (.inr later)

theorem best_marker_among (lowercase : List Char) (markers : List String)
    (best : Option (Nat × Nat)) :
    (markers.foldl (betterMarker lowercase) best = none → best = none ∧
      ∀ marker ∈ markers, findBounded marker.toList true 0 false lowercase = none) ∧
    ∀ found, markers.foldl (betterMarker lowercase) best = some found → best = some found ∨
      ∃ marker ∈ markers, findBounded marker.toList true 0 false lowercase = some found.1 := by
  induction markers generalizing best with
  | nil => exact ⟨fun none => ⟨none, by simp⟩, fun _ => .inl⟩
  | cons marker markers ih =>
    obtain ⟨nothing, something⟩ := ih (betterMarker lowercase best marker)
    simp only [List.foldl_cons, List.forall_mem_cons, List.exists_mem_cons_iff]
    revert nothing something
    unfold betterMarker
    cases place : findBounded marker.toList true 0 false lowercase with
    | none =>
      intro nothing something
      exact ⟨fun none => ⟨(nothing none).1, rfl, (nothing none).2⟩,
        fun found isFound => (something found isFound).imp_right .inr⟩
    | some start =>
      simp only
      split
      · intro nothing something
        refine ⟨fun none => absurd (nothing none).1 (Option.some_ne_none _),
          fun found isFound => .inr ?_⟩
        rcases something found isFound with here | later
        · cases here
          exact .inl rfl
        · exact .inr later
      · next worse =>
        intro nothing something
        refine ⟨fun none => ?_, fun found isFound => (something found isFound).imp_right .inr⟩
        rw [(nothing none).1] at worse
        exact absurd rfl worse

/-! ### Nothing to redact -/

theorem words_are_identifiers : ∀ word ∈ secretMarkers ++ credentialPrefixes,
    word.toList.all isIdentifier = true ∧ word.toList ≠ [] := by
  decide

theorem find_word_none {word : String} (isWord : word ∈ secretMarkers ++ credentialPrefixes)
    {closed : Bool} {text : List Char} : findBounded word.toList closed 0 false text = none ↔
      ¬ Stands word.toList closed false text :=
  find_bounded_none (List.all_eq_true.mp (words_are_identifiers word isWord).1)
    (words_are_identifiers word isWord).2
    (fun counts => absurd counts (Nat.lt_irrefl 0)) (by simp)

theorem replace_all_absent {pattern new text : List Char} (absent : ¬ pattern <:+: text) :
    replaceAll pattern new 0 text = text := by
  induction text with
  | nil => rfl
  | cons c rest ih =>
    rw [List.infix_cons_iff, not_or] at absent
    rw [replaceAll, if_neg fun starts => absent.1 (List.isPrefixOf_iff_prefix.mp starts),
      ih absent.2]

theorem lower_goes_on {c : Char} :
    (inCredential (asciiLower c) = true → inCredential c = true) ∧
    (inUrl (asciiLower c) = true → inUrl c = true) := by
  unfold asciiLower
  split
  · next upper =>
    have other : isWhitespace c = false := by
      simp only [isWhitespace, Bool.or_eq_false_iff, beq_eq_false_iff_ne, Bool.and_eq_false_iff,
        decide_eq_false_iff_not]
      omega
    have closing : c ∉ ['"', '\'', '`', '<', '>', ',', ';', ')', ']', '}'] := by
      intro member
      fin_cases member <;> revert upper <;> decide
    simp only [List.mem_cons, not_or] at closing
    simp [inCredential, inUrl, other, closing]
  · exact ⟨id, id⟩

/-- What a search found in the lowered text, as it stands in the text itself. -/
theorem found_word {within : Char → Bool}
    (lower : ∀ {c}, within (asciiLower c) = true → within c = true)
    {words : List String} {word : String} (isWord : word ∈ words) {text : List Char} {start : Nat}
    (onward : ∀ word ∈ words, word.toList.all within = true)
    (starts : word.toList <+: (text.map asciiLower).drop start) :
    ∃ front behind, text.drop start = front ++ behind ∧ front.map asciiLower = word.toList ∧
      ∀ c ∈ front, within c = true := by
  rw [← List.map_drop] at starts
  obtain ⟨after, split⟩ := starts
  obtain ⟨front, behind, tail, same, -⟩ := List.append_eq_map_iff.mp split
  refine ⟨front, behind, tail, same, fun c member => ?_⟩
  have among : asciiLower c ∈ word.toList := same ▸ List.mem_map_of_mem member
  exact lower (List.all_eq_true.mp (onward word isWord) _ among)

theorem url_found {text : List Char} {start : Nat}
    (found : firstUrl (text.map asciiLower) = some start) :
    ∃ scheme ∈ urlSchemes,
      scheme.toList <+: ((text.drop start).takeWhile inUrl).map asciiLower := by
  obtain ⟨scheme, isScheme, first⟩ := List.mem_filterMap.mp (least_some found).1
  refine ⟨scheme, isScheme, ?_⟩
  obtain ⟨front, behind, run, lower, inside⟩ :=
    found_word lower_goes_on.2 isScheme (by decide) (find_pattern_some first)
  rw [run, List.takeWhile_append_of_pos inside, List.map_append, lower]
  exact List.prefix_append _ _

theorem shown_whole {url : List Char} : url.takeWhile inPath = url ↔ '?' ∉ url ∧ '#' ∉ url := by
  rw [List.takeWhile_eq_self_iff]
  simp only [inPath, Bool.and_eq_true, bne_iff_ne]
  constructor
  · exact fun plain => ⟨fun member => (plain _ member).1 rfl, fun member => (plain _ member).2 rfl⟩
  · rintro ⟨query, fragment⟩ c member
    exact ⟨fun same => query (same ▸ member), fun same => fragment (same ▸ member)⟩

theorem urls_kept {text : List Char} (clean : Queryless text) (rounds : Nat) :
    redactUrlFrom rounds text = text := by
  induction rounds generalizing text with
  | zero => rfl
  | succ rounds ih =>
    rw [redactUrlFrom]
    split
    · rfl
    · next start found =>
      have within := (List.drop_suffix start text).isInfix
      have shown := clean _ ((List.takeWhile_prefix inUrl).isInfix.trans within)
        (url_found found) fun c => List.mem_takeWhile_imp
      have after := ih fun url inside =>
        clean url (inside.trans ((List.dropWhile_suffix inUrl).isInfix.trans within))
      dsimp only
      rw [shown_whole.mpr shown, if_pos rfl, after, List.append_assoc,
        List.takeWhile_append_dropWhile, List.take_append_drop]

section

variable {text : List Char}

theorem controls_kept (printed : ∀ c ∈ text, c = '\t' ∨ isControl c = false) :
    stripControls text = text := by
  refine List.filter_eq_self.mpr fun c member => ?_
  rcases printed c member with tab | shown <;> simp [*]

theorem markers_kept
    (absent : ∀ marker ∈ secretMarkers, ¬ Stands marker.toList true false (text.map asciiLower)) :
    redactSecretMarkers text = text := by
  have none : bestMarker (text.map asciiLower) = none :=
    List.foldlRecOn (motive := (· = none)) secretMarkers _ rfl fun best isNone word member => by
      rw [isNone, betterMarker, (find_word_none (List.mem_append_left _ member)).mpr
        (absent word member)]
  rw [redactSecretMarkers, none]

theorem credentials_kept
    (absent : ∀ word ∈ credentialPrefixes, ¬ Stands word.toList false false (text.map asciiLower)) :
    redactCredentialPrefixes text = text := by
  have none := List.filterMap_eq_nil_iff.mpr fun word member =>
    (find_word_none (List.mem_append_right _ member)).mpr (absent word member)
  simp only [redactCredentialPrefixes, redactCredentialsFrom, none, least]

theorem home_kept {home : Option String}
    (absent : ∀ path ∈ home, path ≠ "" → ¬ path.toList <:+: text) :
    replaceHome home text = text := by
  unfold replaceHome
  split
  · split
    · rfl
    · next named => exact replace_all_absent (absent _ rfl named)
  · rfl

/-- A clean text only loses its end. -/
theorem Clean.sanitized {home : Option String} (clean : Clean home text) (maxBytes : Nat) :
    sanitizeText home text maxBytes = truncateUtf8 maxBytes text := by
  rw [sanitizeText, controls_kept clean.controls, redactUrlQueryAndFragment, urls_kept clean.urls,
    markers_kept clean.markers, credentials_kept clean.credentials, home_kept clean.outside]

end

/-! ### Something to redact -/

/-- The characters that no pass puts in. -/
def isSpecial (c : Char) : Bool :=
  (c != '\t' && isControl c) || ['?', '#', '-', '_', '/'].contains c

def weight (text : List Char) : Nat := text.countP isSpecial

@[simp] theorem weight_append (left right : List Char) :
    weight (left ++ right) = weight left + weight right := List.countP_append

theorem weight_le {left right : List Char} (part : left.Sublist right) :
    weight left ≤ weight right :=
  part.countP_le

theorem weight_pos {text : List Char} {c : Char} (member : c ∈ text)
    (special : isSpecial c = true) : 0 < weight text :=
  List.countP_pos_iff.mpr ⟨c, member, special⟩

section

variable {text : List Char}

theorem strip_weight (kept : weight text ≤ weight (stripControls text)) :
    ∀ c ∈ text, c = '\t' ∨ isControl c = false := by
  induction text with
  | nil => nofun
  | cons c rest ih =>
    have rest_le : weight (stripControls rest) ≤ weight rest := weight_le List.filter_sublist
    by_cases shown : c = '\t' ∨ isControl c = false
    · have same : stripControls (c :: rest) = c :: stripControls rest :=
        List.filter_cons_of_pos (by rcases shown with tab | printed <;> simp [*])
      rw [same, weight, weight, List.countP_cons, List.countP_cons] at kept
      exact List.forall_mem_cons.mpr ⟨shown, ih (Nat.le_of_add_le_add_right kept)⟩
    · obtain ⟨other, control⟩ := not_or.mp shown
      have special : isSpecial c = true := by simp [isSpecial, other, control]
      have dropped : stripControls (c :: rest) = stripControls rest :=
        List.filter_cons_of_neg (by simp [other, control])
      rw [dropped, weight, List.countP_cons_of_pos special] at kept
      change weight rest + 1 ≤ _ at kept
      omega

theorem shown_weight {url : List Char} (queried : (url.takeWhile inPath) ≠ url) :
    weight (url.takeWhile inPath) < weight url := by
  have parts := congrArg weight
    (List.takeWhile_append_dropWhile (p := inPath) (l := url))
  rw [weight_append] at parts
  have behind : 0 < weight (url.dropWhile inPath) := by
    cases rest : url.dropWhile inPath with
    | nil =>
      exact absurd (List.takeWhile_eq_self_iff.mpr (List.dropWhile_eq_nil_iff.mp rest)) queried
    | cons c others =>
      have stopped := List.head_dropWhile_not inPath (l := url) (by simp [rest])
      simp only [rest, List.head_cons] at stopped
      apply weight_pos (List.mem_cons_self ..)
      by_cases query : c = '?'
      · simp [isSpecial, query]
      · have fragment : c = '#' := by simpa [inPath, query] using stopped
        simp [isSpecial, fragment]
  omega

theorem scheme_place (before behind : List Char) {url : List Char} {scheme : String}
    (isScheme : scheme ∈ urlSchemes) (starts : scheme.toList <+: url.map asciiLower) :
    ∃ place ≤ before.length, place ∈ urlSchemes.filterMap fun scheme =>
      findPattern scheme.toList ((before ++ url ++ behind).map asciiLower) := by
  obtain ⟨rest, lower⟩ := starts
  have named : scheme.toList ≠ [] := by
    fin_cases isScheme <;> decide
  obtain ⟨place, early, here⟩ := @find_pattern_first scheme.toList (before.map asciiLower)
    (rest ++ behind.map asciiLower) named
  rw [List.length_map] at early
  refine ⟨place, early, List.mem_filterMap.mpr ⟨scheme, isScheme, ?_⟩⟩
  rw [← here, List.map_append, List.map_append, ← lower]
  simp only [List.append_assoc]

theorem queryless_of_parts {start : Nat} (found : firstUrl (text.map asciiLower) = some start)
    (run : '?' ∉ (text.drop start).takeWhile inUrl ∧
      '#' ∉ (text.drop start).takeWhile inUrl)
    (after : Queryless ((text.drop start).dropWhile inUrl)) : Queryless text := by
  rintro url ⟨before, behind, split⟩ ⟨scheme, isScheme, starts⟩ inside
  subst split
  obtain ⟨place, early, here⟩ := scheme_place before behind isScheme starts
  have first := Nat.le_trans ((least_some found).2 place here) early
  have tail : (before ++ url ++ behind).drop start = before.drop start ++ (url ++ behind) := by
    rw [List.append_assoc, List.drop_append_of_le_length first]
  rw [tail] at run after
  -- The URL ends within the run that was found, or it starts behind it.
  by_cases open_ : ∀ c ∈ before.drop start, inUrl c = true
  · rw [List.takeWhile_append_of_pos open_,
      List.takeWhile_append_of_pos (by simpa using inside)] at run
    exact ⟨fun member => run.1 (by simp [member]), fun member => run.2 (by simp [member])⟩
  · have stops : ((before.drop start).dropWhile inUrl) ≠ [] := fun empty =>
      open_ (List.dropWhile_eq_nil_iff.mp empty)
    rw [List.dropWhile_append, if_neg (by simpa using stops)] at after
    exact after url ⟨_, behind, List.append_assoc ..⟩ ⟨scheme, isScheme, starts⟩ inside

theorem url_weight (rounds : Nat) : weight (redactUrlFrom rounds text) ≤ weight text ∧
    (text.length < rounds → weight text ≤ weight (redactUrlFrom rounds text) → Queryless text) := by
  induction rounds generalizing text with
  | zero => exact ⟨Nat.le_refl _, fun none => absurd none (Nat.not_lt_zero _)⟩
  | succ rounds ih =>
    rw [redactUrlFrom]
    split
    · next absent =>
      refine ⟨Nat.le_refl _, ?_⟩
      rintro - - url ⟨before, behind, rfl⟩ ⟨scheme, isScheme, starts⟩ -
      obtain ⟨place, -, here⟩ := scheme_place before behind isScheme starts
      rw [least_eq_none.mp absent] at here
      cases here
    · next start found =>
      obtain ⟨scheme, isScheme, starts⟩ := url_found found
      have queried := @shown_weight ((text.drop start).takeWhile inUrl)
      have onward := @ih ((text.drop start).dropWhile inUrl)
      have tail := List.takeWhile_append_dropWhile (p := inUrl) (l := text.drop start)
      have whole := List.take_append_drop start text
      have parted := @queryless_of_parts _ _ found
      dsimp only
      generalize (text.drop start).takeWhile inUrl = url at *
      generalize (text.drop start).dropWhile inUrl = after at *
      rw [← tail] at whole
      have parts : weight text = weight (text.take start) + (weight url + weight after) := by
        rw [← weight_append, ← weight_append, whole]
      have longer : after.length < text.length := by
        have named := starts.length_le
        rw [List.length_map] at named
        have long : ∀ scheme ∈ urlSchemes, 0 < scheme.toList.length := by decide
        have positive := long scheme isScheme
        have lengths := congrArg List.length whole
        simp only [List.length_append] at lengths
        omega
      have blank : weight "[REDACTED URL]".toList = 0 := by decide
      rw [weight_append, weight_append, parts]
      -- The run is shown whole, or without its query, which weighs something.
      split
      · next shown =>
        refine ⟨by omega, fun enough kept => parted (shown_whole.mp shown) (onward.2 ?_ ?_)⟩
        all_goals omega
      · next shown =>
        rw [weight_append, blank]
        have less := queried shown
        exact ⟨by omega, fun _ kept => by omega⟩

theorem special_kept {c d : Char} (lower : asciiLower c = d) (other : d = '-' ∨ d = '_') :
    isSpecial c = true := by
  unfold asciiLower at lower
  split at lower
  · next upper =>
    have letters : ∀ code ≤ 90, 65 ≤ code → Char.ofNat (code + 32) ≠ '-' ∧
        Char.ofNat (code + 32) ≠ '_' := by decide
    rw [← lower] at other
    have letter := letters c.toNat upper.2 upper.1
    exact absurd other (not_or.mpr letter)
  · subst lower
    rcases other with rfl | rfl <;> decide

/-- A credential that was found goes away whole, with the `-` or the `_` of its start. -/
theorem credential_weight (rounds : Nat) :
    weight (redactCredentialsFrom rounds text) ≤ weight text ∧
    (0 < rounds → weight text ≤ weight (redactCredentialsFrom rounds text) →
      ∀ word ∈ credentialPrefixes, ¬ Stands word.toList false false (text.map asciiLower)) := by
  induction rounds generalizing text with
  | zero => exact ⟨Nat.le_refl _, fun none => absurd none (Nat.lt_irrefl _)⟩
  | succ rounds ih =>
    rw [redactCredentialsFrom]
    split
    · next absent =>
      have nothing := List.filterMap_eq_nil_iff.mp (least_eq_none.mp absent)
      exact ⟨Nat.le_refl _, fun _ _ word member =>
        (find_word_none (List.mem_append_right _ member)).mp (nothing word member)⟩
    · next start found =>
      obtain ⟨word, isWord, here⟩ := List.mem_filterMap.mp (least_some found).1
      obtain ⟨front, behind, tail, lower, inside⟩ :=
        found_word lower_goes_on.1 isWord (by decide) (find_bounded_some here)
      have special : 0 < weight front := by
        have marked : ∀ word ∈ credentialPrefixes, '-' ∈ word.toList ∨ '_' ∈ word.toList := by
          decide
        have signed : ∃ d ∈ word.toList, d = '-' ∨ d = '_' := by
          rcases marked word isWord with dash | line
          · exact ⟨_, dash, .inl rfl⟩
          · exact ⟨_, line, .inr rfl⟩
        obtain ⟨d, member, other⟩ := signed
        obtain ⟨c, inFront, same⟩ := List.mem_map.mp (lower ▸ member)
        exact weight_pos inFront (special_kept same other)
      cases front with
      | nil => exact absurd special (Nat.lt_irrefl 0)
      | cons c front =>
        have rest : text.drop (start + 1) = front ++ behind := by
          rw [← List.drop_drop, tail]
          rfl
        have cleared : (text.drop (start + 1)).dropWhile inCredential =
            behind.dropWhile inCredential := by
          rw [rest, List.dropWhile_append_of_pos (List.forall_mem_cons.mp inside).2]
        have parts : weight text =
            weight (text.take start) + (weight (c :: front) + weight behind) := by
          rw [← weight_append, ← weight_append, ← tail, List.take_append_drop]
        have shorter := weight_le (List.dropWhile_sublist inCredential (l := behind))
        have less := (@ih (behind.dropWhile inCredential)).1
        have blank : weight "[REDACTED]".toList = 0 := by decide
        rw [cleared, weight_append, weight_append, blank, parts]
        exact ⟨by omega, fun _ kept => by omega⟩

theorem home_weight {path : List Char} (rooted : '/' ∈ path) :
    weight (replaceAll path ['~'] 0 text) ≤ weight text ∧
    (weight text ≤ weight (replaceAll path ['~'] 0 text) → ¬ path <:+: text) := by
  have slash : 0 < weight path := weight_pos rooted (by decide)
  have less : ∀ skip, weight (replaceAll path ['~'] skip text) ≤ weight (text.drop skip) ∧
      (skip = 0 → weight text ≤ weight (replaceAll path ['~'] skip text) → ¬ path <:+: text) := by
    induction text with
    | nil =>
      intro skip
      refine ⟨by cases skip <;> exact Nat.zero_le _, ?_⟩
      rintro - - inside
      rw [List.infix_nil.mp inside] at rooted
      cases rooted
    | cons c rest ih =>
      intro skip
      cases skip with
      | succ skip => exact ⟨(ih skip).1, nofun⟩
      | zero =>
        rw [replaceAll]
        split
        · next starts =>
          obtain ⟨after, split⟩ := List.isPrefixOf_iff_prefix.mp starts
          have behind := (ih (path.length - 1)).1
          have dropped : rest.drop (path.length - 1) = after := by
            have positive := List.length_pos_of_mem rooted
            rw [← List.drop_succ_cons (a := c), Nat.sub_add_cancel positive, ← split,
              List.drop_left]
          have parts := congrArg weight split
          rw [weight_append] at parts
          rw [dropped] at behind
          have blank : weight ['~'] = 0 := by decide
          rw [weight_append, blank, List.drop_zero]
          exact ⟨by omega, fun _ kept => by omega⟩
        · next fails =>
          have onward := ih 0
          simp only [weight, List.countP_cons, List.drop_zero] at onward ⊢
          refine ⟨by omega, fun _ kept inside => ?_⟩
          rcases List.infix_cons_iff.mp inside with starts | later
          · exact fails (List.isPrefixOf_iff_prefix.mpr starts)
          · exact onward.2 trivial (by omega) later
  exact ⟨(less 0).1, (less 0).2 rfl⟩

theorem marker_weight : weight (redactSecretMarkers text) ≤ weight text := by
  have line : weight "[REDACTED LINE]".toList = 0 := by decide
  have blank : weight " [REDACTED]".toList = 0 := by decide
  unfold redactSecretMarkers
  split
  · exact Nat.le_refl _
  · next start _ _ =>
    split
    · omega
    · rw [weight_append, blank]
      refine weight_le (List.Sublist.trans ?_ (List.take_sublist start text))
      rw [← List.reverse_sublist, List.reverse_reverse]
      exact List.dropWhile_sublist _

/-- What the marker pass writes does not have the text in it that it was given. -/
theorem markers_inside (inside : text <:+: redactSecretMarkers text) :
    ∀ marker ∈ secretMarkers, ¬ Stands marker.toList true false (text.map asciiLower) := by
  obtain ⟨nothing, something⟩ := best_marker_among (text.map asciiLower) secretMarkers none
  cases best : bestMarker (text.map asciiLower) with
  | none =>
    intro marker member
    exact (find_word_none (List.mem_append_left _ member)).mp ((nothing best).2 marker member)
  | some found =>
    obtain ⟨marker, isMarker, here⟩ := (something found best).resolve_left nofun
    have starts := find_bounded_some here
    rw [← List.map_drop] at starts
    have unmarked : ∀ mark ∈ ["[REDACTED LINE]", " [REDACTED]"], ∀ marker ∈ secretMarkers,
        ¬ marker.toList <:+: mark.toList.map asciiLower := by decide
    -- either way what is behind the marker's place would be a part of the mark
    have replaced : ∃ mark ∈ ["[REDACTED LINE]", " [REDACTED]"],
        text.drop found.1 <:+: mark.toList := by
      obtain ⟨start, markerEnd⟩ := found
      simp only [redactSecretMarkers, best] at inside
      split at inside
      · exact ⟨_, .head _, (List.drop_suffix _ _).isInfix.trans inside⟩
      · obtain ⟨before, after, split⟩ := inside
        refine ⟨_, .tail _ (.head _), ?_⟩
        have short : ((text.take start).reverse.dropWhile isWhitespace).reverse.length ≤ start := by
          rw [List.length_reverse]
          refine (List.dropWhile_sublist _).length_le.trans ?_
          simp
        have dropped := congrArg (List.drop (before.length + start)) split
        rw [List.append_assoc, List.drop_length_add_append, List.drop_append, List.drop_append,
          List.drop_eq_nil_of_le (short.trans (Nat.le_add_left ..)), List.nil_append] at dropped
        exact (List.prefix_append _ _).isInfix.trans (dropped ▸ (List.drop_suffix _ _).isInfix)
    obtain ⟨mark, isMark, part⟩ := replaced
    exact absurd (starts.isInfix.trans (part.map asciiLower)) (unmarked mark isMark marker isMarker)

end

/-- An unset or empty home directory, or one with a `/` in it. -/
def Rooted (home : Option String) : Prop := ∀ path ∈ home, path ≠ "" → '/' ∈ path.toList

theorem replace_home_weight {home : Option String} (rooted : Rooted home) {text : List Char} :
    weight (replaceHome home text) ≤ weight text ∧ (weight text ≤ weight (replaceHome home text) →
      ∀ path ∈ home, path ≠ "" → ¬ path.toList <:+: text) := by
  unfold replaceHome
  split
  · next path =>
    split
    · next empty => exact ⟨Nat.le_refl _, by rintro - _ ⟨⟩ named; exact absurd empty named⟩
    · next named =>
      obtain ⟨less, absent⟩ := @home_weight text _ (rooted path rfl named)
      exact ⟨less, by rintro kept _ ⟨⟩ -; exact absent kept⟩
  · exact ⟨Nat.le_refl _, nofun⟩

/-- A text that is a part of its own redaction is clean: no pass but the one for markers can have
found anything, as the text would weigh less. -/
theorem Clean.of_sanitized {home : Option String} (rooted : Rooted home) {text : List Char}
    {maxBytes : Nat} (inside : text <:+: sanitizeText home text maxBytes) : Clean home text := by
  rw [sanitizeText] at inside
  replace inside := inside.trans (truncate_utf8_starts _ _).isInfix
  have weighs := weight_le inside.sublist
  have strip : weight (stripControls text) ≤ weight text := weight_le List.filter_sublist
  have controls := @strip_weight text
  generalize first : stripControls text = stripped at *
  have url := @url_weight stripped (stripped.length + 1)
  rw [← redactUrlQueryAndFragment] at url
  generalize second : redactUrlQueryAndFragment stripped = shown at *
  have marker := @marker_weight shown
  generalize third : redactSecretMarkers shown = marked at *
  have credential := @credential_weight marked (marked.length + 1)
  rw [← redactCredentialPrefixes] at credential
  generalize fourth : redactCredentialPrefixes marked = cleared at *
  have directory := @replace_home_weight home rooted cleared
  -- No pass adds to the weight and the last text has all of it, so each of them kept it.
  replace controls := controls (by omega)
  have urls := url.2 (Nat.lt_succ_self _) (by omega)
  have credentials := credential.2 (Nat.succ_pos _) (by omega)
  have outside := directory.2 (by omega)
  rw [controls_kept controls] at first
  subst first
  rw [redactUrlQueryAndFragment, urls_kept urls] at second
  rw [credentials_kept credentials] at fourth
  subst second fourth
  rw [home_kept outside, ← third] at inside
  have markers := markers_inside inside
  rw [markers_kept markers] at third
  subst third
  exact ⟨controls, urls, markers, credentials, outside⟩

end A2aBridge.Records
