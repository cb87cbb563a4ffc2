import A2aBridge.CleanTexts

/-!
The redaction of a collection of fields in bridge-core/diagnostics.rs: a secret the bridge holds
may stand across several fields, and then each of them is replaced. Offsets count characters;
nothing here reads a byte offset.
-/

namespace A2aBridge.Records

open ByteText (truncateUtf8)

def REDACTED_KNOWN_SECRET : List Char := "[REDACTED KNOWN SECRET]".toList

/-- `known_values` of a redactor holds no empty text. -/
structure DiagnosticRedactor where
  knownValues : List (List Char)
  homeDir : Option String
  nonempty : [] ∉ knownValues

/-- `sanitize_text`: the known values, then what the default redactor does. It filters again the
controls, of which there are none left. -/
def DiagnosticRedactor.sanitize (redactor : DiagnosticRedactor) (value : List Char)
    (maxBytes : Nat) : List Char :=
  sanitizeText redactor.homeDir
    (redactor.knownValues.foldl (fun text known => replaceAll known REDACTED_KNOWN_SECRET 0 text)
      (stripControls value)) maxBytes

/-- The starts that the search finds: it goes on behind each of them, `skip` characters on. -/
def matchStarts (known : List Char) : Nat → Nat → List Char → List Nat
  | _, _, [] => []
  | at_, skip + 1, _ :: rest => matchStarts known (at_ + 1) skip rest
  | at_, 0, c :: rest =>
    if known.isPrefixOf (c :: rest) then
      at_ :: matchStarts known (at_ + 1) (known.length - 1) rest
    else matchStarts known (at_ + 1) 0 rest

/-- The start and the end of each field. -/
def spansFrom : Nat → List (List Char) → List (Nat × Nat)
  | _, [] => []
  | start, value :: rest =>
    (start, start + value.length) :: spansFrom (start + value.length) rest

namespace DiagnosticRedactor

variable (redactor : DiagnosticRedactor)

def adjacentSensitiveIndices (values : List (List Char)) : List Bool :=
  (spansFrom 0 values).map fun (fieldStart, fieldEnd) =>
    redactor.knownValues.any fun known =>
      (matchStarts known 0 0 values.flatten).any fun start =>
        start < fieldEnd && start + known.length > fieldStart

def bounded (values : List (List Char)) : List (List Char) :=
  values.map fun value => truncateUtf8 512 (stripControls value)

def sanitizeCollection (values : List (List Char)) : List (List Char) :=
  ((bounded values).zip (redactor.adjacentSensitiveIndices (bounded values))).map
    fun (value, sensitive) =>
      if sensitive then REDACTED_KNOWN_SECRET else redactor.sanitize value 512

end DiagnosticRedactor

/-- The secret stands at this place of the text. -/
def OccursAt (known text : List Char) (start : Nat) : Prop := known <+: text.drop start

/-- An occurrence behind `skip` that no earlier one of these overlaps. -/
def Counted (known text : List Char) (skip start : Nat) : Prop :=
  skip ≤ start ∧ OccursAt known text start ∧
    ∀ earlier, earlier < start → Counted known text skip earlier → earlier + known.length ≤ start
termination_by start

theorem counted_zero {known text : List Char} {skip : Nat} :
    Counted known text skip 0 ↔ skip = 0 ∧ known.isPrefixOf text = true := by
  rw [Counted, List.isPrefixOf_iff_prefix]
  simp [OccursAt]

section

variable {known rest : List Char} {c : Char} {skip next : Nat}
  (first : Counted known (c :: rest) skip 0 → next = known.length - 1)
  (other : ¬ Counted known (c :: rest) skip 0 → next = skip - 1)

include first other

/-- Without the first character the places are one less, and a match there skips the rest of it. -/
theorem counted_cons (start : Nat) :
    Counted known (c :: rest) skip (start + 1) ↔ Counted known rest next start := by
  induction start using Nat.strong_induction_on with
  | _ start ih =>
    rw [Counted, Counted.eq_def known rest]
    constructor
    · rintro ⟨skipped, occurs, clear⟩
      have bound : next ≤ start := by
        by_cases here : Counted known (c :: rest) skip 0
        · have whole := clear 0 (Nat.succ_pos start) here
          have behind := first here
          omega
        · have behind := other here
          omega
      refine ⟨bound, occurs, fun earlier before counted => ?_⟩
      have apart := clear (earlier + 1) (Nat.succ_lt_succ before) ((ih earlier before).mpr counted)
      omega
    · rintro ⟨skipped, occurs, clear⟩
      have bound : skip ≤ start + 1 := by
        by_cases here : Counted known (c :: rest) skip 0
        · have zero := (counted_zero.mp here).1
          omega
        · have behind := other here
          omega
      refine ⟨bound, occurs, fun earlier before counted => ?_⟩
      cases earlier with
      | zero =>
        have behind := first counted
        omega
      | succ earlier =>
        have apart := clear earlier (by omega) ((ih earlier (by omega)).mp counted)
        omega

theorem exists_counted_cons {at_ place : Nat} :
    (∃ start, place = at_ + start ∧ Counted known (c :: rest) skip start) ↔
      (place = at_ ∧ Counted known (c :: rest) skip 0) ∨
      ∃ start, place = at_ + 1 + start ∧ Counted known rest next start := by
  constructor
  · rintro ⟨start, rfl, counted⟩
    cases start with
    | zero => exact .inl ⟨rfl, counted⟩
    | succ start => exact .inr ⟨start, by omega, (counted_cons first other start).mp counted⟩
  · rintro (⟨rfl, counted⟩ | ⟨start, rfl, counted⟩)
    · exact ⟨0, rfl, counted⟩
    · exact ⟨start + 1, by omega, (counted_cons first other start).mpr counted⟩

end

theorem match_starts_counted {known : List Char} (named : known ≠ []) {text : List Char}
    {at_ skip place : Nat} : place ∈ matchStarts known at_ skip text ↔
      ∃ start, place = at_ + start ∧ Counted known text skip start := by
  induction text generalizing at_ skip with
  | nil =>
    refine iff_of_false (by simp [matchStarts]) ?_
    rintro ⟨start, -, counted⟩
    rw [Counted, OccursAt, List.drop_nil, List.prefix_nil] at counted
    exact named counted.2.1
  | cons c rest ih =>
    -- Within the rest of a match no place counts, and a match leaves its own rest to skip.
    cases skip with
    | succ skip =>
      have none : ¬ Counted known (c :: rest) (skip + 1) 0 := fun counted =>
        Nat.succ_ne_zero _ (counted_zero.mp counted).1
      rw [matchStarts, ih, exists_counted_cons (fun counted => absurd counted none) fun _ => rfl]
      simp [none]
    | zero =>
      rw [matchStarts]
      split
      · next starts =>
        have here : Counted known (c :: rest) 0 0 := counted_zero.mpr ⟨rfl, starts⟩
        rw [List.mem_cons, ih, exists_counted_cons (fun _ => rfl) fun none => absurd here none]
        simp [here]
      · next fails =>
        have none : ¬ Counted known (c :: rest) 0 0 := fun counted =>
          fails (counted_zero.mp counted).2
        rw [ih, exists_counted_cons (fun counted => absurd counted none) fun _ => rfl]
        simp [none]

/-! ### The fields that are replaced -/

section

variable (known : List Char) (start : Nat) (fields : List (List Char)) (index : Nat)

/-- The place of the field among the characters of all. -/
def fieldStart : Nat := (fields.take index).flatten.length

/-- The field has a character in common with the occurrence. -/
def Shares : Prop :=
  ∃ field ∈ fields[index]?, ∃ place, (start ≤ place ∧ place < start + known.length) ∧
    fieldStart fields index ≤ place ∧ place < fieldStart fields index + field.length

/-- The occurrence starts before the end of the field and ends behind its start. -/
def Overlaps : Prop :=
  ∃ field ∈ fields[index]?, start < fieldStart fields index + field.length ∧
    fieldStart fields index < start + known.length

variable {known start fields index}

theorem Shares.overlaps (shares : Shares known start fields index) :
    Overlaps known start fields index := by
  obtain ⟨field, isField, place, ⟨_, _⟩, _, _⟩ := shares
  exact ⟨field, isField, by omega, by omega⟩

end

theorem spans_from_get (fields : List (List Char)) (start index : Nat) :
    (spansFrom start fields)[index]? = fields[index]?.map fun field =>
      (start + fieldStart fields index, start + fieldStart fields index + field.length) := by
  induction fields generalizing start index with
  | nil => rfl
  | cons first rest ih =>
    cases index with
    | zero => simp [spansFrom, fieldStart]
    | succ index =>
      rw [spansFrom, List.getElem?_cons_succ, ih, List.getElem?_cons_succ]
      simp [fieldStart, Nat.add_assoc]

namespace DiagnosticRedactor

variable (redactor : DiagnosticRedactor) (values : List (List Char))

/-- Every field that has a character in common with an occurrence of a secret in the fields as
supplied, without their controls, is replaced as a whole. -/
def RedactsSplits : Prop :=
  ∀ known ∈ redactor.knownValues, ∀ start index,
    OccursAt known (values.map stripControls).flatten start →
    Shares known start (values.map stripControls) index →
    (redactor.sanitizeCollection values)[index]? = some REDACTED_KNOWN_SECRET

/-- A counted occurrence in the fields as they are cut reaches into the field, or redaction makes
the marker of the field by itself. -/
def Covers (index : Nat) : Prop :=
  (∃ known ∈ redactor.knownValues, ∃ start, Counted known (bounded values).flatten 0 start ∧
    Overlaps known start (bounded values) index) ∨
  ((bounded values)[index]?.map fun field => redactor.sanitize field 512) =
    some REDACTED_KNOWN_SECRET

variable {redactor values}

theorem sensitive_iff {fields : List (List Char)} {index : Nat} {field : List Char} {flag : Bool}
    (isField : fields[index]? = some field)
    (isFlag : (redactor.adjacentSensitiveIndices fields)[index]? = some flag) :
    flag = true ↔ ∃ known ∈ redactor.knownValues, ∃ start, Counted known fields.flatten 0 start ∧
      Overlaps known start fields index := by
  have named : ∀ known ∈ redactor.knownValues, known ≠ [] := fun known isKnown empty =>
    redactor.nonempty (empty ▸ isKnown)
  rw [adjacentSensitiveIndices, List.getElem?_map, spans_from_get, isField] at isFlag
  cases isFlag
  simp only [List.any_eq_true, Bool.and_eq_true, decide_eq_true_eq, Overlaps, isField,
    Option.mem_def, Option.some.injEq, exists_eq_left', Nat.zero_add]
  constructor
  · rintro ⟨known, isKnown, start, hit, before, behind⟩
    obtain ⟨place, rfl, counted⟩ := (match_starts_counted (named known isKnown)).mp hit
    rw [Nat.zero_add] at before behind
    exact ⟨known, isKnown, place, counted, before, behind⟩
  · rintro ⟨known, isKnown, start, counted, before, behind⟩
    exact ⟨known, isKnown, start, (match_starts_counted (named known isKnown)).mpr
      ⟨start, (Nat.zero_add _).symm, counted⟩, before, behind⟩

theorem redacted_iff {index : Nat} :
    (redactor.sanitizeCollection values)[index]? = some REDACTED_KNOWN_SECRET ↔
      redactor.Covers values index := by
  rw [sanitizeCollection, List.getElem?_map]
  cases found : (bounded values)[index]? with
  | none =>
    have outside := List.getElem?_eq_none_iff.mp found
    rw [List.getElem?_eq_none (by simp; omega)]
    simp [Covers, Overlaps, found]
  | some field =>
    have flagged :
        ∃ flag, (redactor.adjacentSensitiveIndices (bounded values))[index]? = some flag := by
      rw [adjacentSensitiveIndices, List.getElem?_map, spans_from_get, found]
      exact ⟨_, rfl⟩
    obtain ⟨flag, isFlag⟩ := flagged
    rw [List.getElem?_zip_eq_some (z := (field, flag)) |>.mpr ⟨found, isFlag⟩, Covers,
      ← sensitive_iff found isFlag, found]
    cases flag <;> simp

end DiagnosticRedactor

/-- No two occurrences of the secret overlap. -/
def Apart (known text : List Char) : Prop :=
  ∀ first second, OccursAt known text first → OccursAt known text second → first < second →
    first + known.length ≤ second

def sampleRedactor : DiagnosticRedactor := ⟨["aba".toList], none, by decide⟩

end A2aBridge.Records
