import A2aBridge.ByteText

/-!
Task specifications of bridge-core/task_spec.rs and the render variables the executor
derives from a run's input. Texts are character lists while they are cut into lines.
A subsection has no subsections of its own, since a third heading level is only content.
-/

namespace A2aBridge.Workflow

open ByteText (isWhitespace)

structure Subsection where
  name : String
  content : String
  deriving DecidableEq

structure Section where
  name : String
  content : String
  subsections : List Subsection
  deriving DecidableEq

structure TaskSpec where
  taskType : String
  title : Option String
  body : String
  sections : List Section
  deriving DecidableEq

inductive TaskSpecError where
  | noTaskType
  | unknownType (got : String)
  | missingSection (taskType name : String)
  | emptySection (taskType name : String)
  | missingTitle (taskType : String)
  | emptyTitle (taskType : String)
  | parse (detail : String)
  deriving DecidableEq

structure SectionDef where
  name : String
  required : Bool
  deriving DecidableEq

structure SchemaDef where
  taskType : String
  sections : List SectionDef
  deriving DecidableEq

def IMPLEMENT_SECTIONS : List SectionDef :=
  [⟨"Description", true⟩, ⟨"Acceptance Criteria", true⟩, ⟨"Files", false⟩, ⟨"Spec Refs", false⟩,
    ⟨"Commit Message", false⟩]

def REVIEW_SECTIONS : List SectionDef :=
  [⟨"Description", true⟩, ⟨"Acceptance Criteria", true⟩, ⟨"Files", false⟩, ⟨"Spec Refs", false⟩]

def DESIGN_SECTIONS : List SectionDef :=
  [⟨"Description", true⟩, ⟨"Acceptance Criteria", true⟩, ⟨"Spec Refs", false⟩]

def SCHEMAS : List SchemaDef :=
  [⟨"freeform", []⟩, ⟨"implement", IMPLEMENT_SECTIONS⟩, ⟨"code-review", REVIEW_SECTIONS⟩,
    ⟨"spec-review", REVIEW_SECTIONS⟩, ⟨"plan-review", REVIEW_SECTIONS⟩, ⟨"design", DESIGN_SECTIONS⟩]

def schema (taskType : String) : Option SchemaDef :=
  SCHEMAS.find? fun entry => entry.taskType == taskType

def trimStart (text : List Char) : List Char := text.dropWhile isWhitespace

def trim (text : List Char) : List Char := (trimStart (trimStart text).reverse).reverse

def asciiLower (c : Char) : Char :=
  if 65 ≤ c.toNat ∧ c.toNat ≤ 90 then Char.ofNat (c.toNat + 32) else c

def isAsciiAlphanumeric (c : Char) : Bool :=
  (48 ≤ c.toNat && c.toNat ≤ 57) || (65 ≤ c.toNat && c.toNat ≤ 90) ||
    (97 ≤ c.toNat && c.toNat ≤ 122)

def eqIgnoreAsciiCase (left right : String) : Bool :=
  left.toList.map asciiLower == right.toList.map asciiLower

/-- `replace("\r\n", "\n")`. -/
def unixNewlines : List Char → List Char
  | '\r' :: '\n' :: rest => '\n' :: unixNewlines rest
  | c :: rest => c :: unixNewlines rest
  | [] => []

/-- `split_inclusive('\n')`: every line keeps its newline. -/
def splitInclusive : List Char → List (List Char)
  | [] => []
  | c :: rest =>
    if c = '\n' then [c] :: splitInclusive rest
    else
      match splitInclusive rest with
      | [] => [[c]]
      | line :: lines => (c :: line) :: lines

def lineContent (line : List Char) : List Char :=
  if line.getLast? = some '\n' then line.dropLast else line

/-- The text after the first occurrence of `needle`, with the text before it. -/
def splitOnce (needle : List Char) : List Char → Option (List Char × List Char)
  | [] => if needle = [] then some ([], []) else none
  | c :: rest =>
    if needle.isPrefixOf (c :: rest) then some ([], (c :: rest).drop needle.length)
    else (splitOnce needle rest).map fun parts => (c :: parts.1, parts.2)

/-- `strip_html_comments`, one comment a round; an unclosed comment drops the rest. -/
def stripHtmlComments : Nat → List Char → List Char
  | 0, text => text
  | fuel + 1, text =>
    match splitOnce "<!--".toList text with
    | none => text
    | some (before, after) =>
      match splitOnce "-->".toList after with
      | none => before
      | some (_, rest) => before ++ stripHtmlComments fuel rest

def isBlank (text : String) : Bool := (trim (stripHtmlComments text.length text.toList)).isEmpty

def parseFrontmatterLine (line : List Char) (taskType : Option (List Char)) :
    Except TaskSpecError (Option (List Char)) :=
  if (trim line).isEmpty || line.head? == some '#' then
    .ok taskType
  else if line.head?.any isWhitespace then
    .error (.parse "nested front-matter is not supported")
  else
    match splitOnce [':'] line with
    | none => .error (.parse "invalid front-matter line")
    | some (rawKey, rawValue) =>
      let key := trim rawKey
      let value := trim rawValue
      if key.isEmpty then
        .error (.parse "empty front-matter key")
      else if value.isEmpty then
        if key = "task-type".toList then .ok none
        else .error (.parse "nested front-matter is not supported")
      else if key = "task-type".toList then
        .ok (some value)
      else
        .ok taskType

/-- The lines after the opening fence. The body is what follows the closing one. -/
def parseFrontmatterLines (taskType : Option (List Char)) :
    List (List Char) → Except TaskSpecError (List Char × List Char)
  | [] => .error (.parse "unclosed front-matter")
  | line :: rest =>
    if lineContent line = "---".toList then
      match taskType.filter fun value => !(trim value).isEmpty with
      | some value => .ok (value, rest.flatten)
      | none => .error .noTaskType
    else
      match parseFrontmatterLine (lineContent line) taskType with
      | .error reason => .error reason
      | .ok next => parseFrontmatterLines next rest

def parseFrontmatter (input : List Char) : Except TaskSpecError (List Char × List Char) :=
  if "---\n".toList.isPrefixOf input then
    parseFrontmatterLines none (splitInclusive (input.drop 4))
  else
    .error .noTaskType

structure BodyState where
  title : Option String
  sections : List Section
  currentSection : Option Section
  currentSubsection : Option Subsection
  fence : Option (Char × Nat)

def backtick : Char := Char.ofNat 96

/-- An opening fence is a run of at least three backticks or tildes. -/
def fenceOpen (line : List Char) : Option (Char × Nat) :=
  match trimStart line with
  | [] => none
  | c :: rest =>
    if c ≠ backtick ∧ c ≠ '~' then none
    else
      let run := ((c :: rest).takeWhile fun other => other == c).length
      if 3 ≤ run then some (c, run) else none

/-- A closing fence repeats the opener at least as often and has nothing after it. -/
def isClosingFence (line : List Char) (openChar : Char) (openLen : Nat) : Bool :=
  let trimmed := trim line
  let run := (trimmed.takeWhile fun c => c == openChar).length
  decide (openLen ≤ run) && trimmed.length == run

namespace BodyState

variable (state : BodyState)

def appendContent (line : List Char) : BodyState :=
  match state.currentSubsection with
  | some subsection =>
    { state with
      currentSubsection :=
        some { subsection with content := subsection.content ++ String.ofList line } }
  | none =>
    { state with
      currentSection := state.currentSection.map fun current =>
        { current with content := current.content ++ String.ofList line } }

def finishSubsection : BodyState :=
  match state.currentSection, state.currentSubsection with
  | some current, some subsection =>
    { state with
      currentSection := some { current with subsections := current.subsections ++ [subsection] }
      currentSubsection := none }
  | _, _ => { state with currentSubsection := none }

def finishSection : BodyState :=
  { state with
    sections := state.sections ++ state.currentSection.toList
    currentSection := none }

/-- One line outside a fence. -/
def heading (line content : List Char) : BodyState :=
  if "## ".toList.isPrefixOf content then
    { state.finishSubsection.finishSection with
      currentSection := some ⟨String.ofList (trim (content.drop 3)), "", []⟩ }
  else if "### ".toList.isPrefixOf content then
    if state.currentSection.isSome then
      { state.finishSubsection with
        currentSubsection := some ⟨String.ofList (trim (content.drop 4)), ""⟩ }
    else state
  else
    let titled :=
      if state.title.isNone && "# ".toList.isPrefixOf content then
        { state with title := some (String.ofList (trim (content.drop 2))) }
      else state
    titled.appendContent line

def line (text : List Char) : BodyState :=
  let content := lineContent text
  match state.fence with
  | some (c, len) =>
    let next := state.appendContent text
    if isClosingFence content c len then { next with fence := none } else next
  | none =>
    match fenceOpen content with
    | some opened => { state.appendContent text with fence := some opened }
    | none => state.heading text content

end BodyState

def parseBody (body : List Char) : Option String × List Section :=
  let last := ((splitInclusive body).foldl BodyState.line ⟨none, [], none, none, none⟩)
    |>.finishSubsection.finishSection
  (last.title, last.sections)

namespace TaskSpec

def parse (raw : String) : Except TaskSpecError TaskSpec := do
  let (taskType, body) ← parseFrontmatter (unixNewlines raw.toList)
  let (title, sections) := parseBody body
  return { taskType := String.ofList taskType, title, body := String.ofList body, sections }

def find (spec : TaskSpec) (name : String) : Option Section :=
  spec.sections.find? fun entry => eqIgnoreAsciiCase entry.name name

end TaskSpec

def sectionAggregate (entry : Section) : String :=
  entry.content ++ String.join (entry.subsections.map Subsection.content)

def checkSections (spec : TaskSpec) : List SectionDef → Except TaskSpecError Unit
  | [] => .ok ()
  | wanted :: rest =>
    match spec.find wanted.name with
    | none => .error (.missingSection spec.taskType wanted.name)
    | some entry =>
      if isBlank (sectionAggregate entry) then .error (.emptySection spec.taskType wanted.name)
      else checkSections spec rest

namespace TaskSpec

def validate (spec : TaskSpec) : Except TaskSpecError Unit :=
  match schema spec.taskType with
  | none => .error (.unknownType spec.taskType)
  | some found =>
    if found.taskType != "freeform" && spec.title.isNone then
      .error (.missingTitle spec.taskType)
    else if found.taskType != "freeform" && spec.title.any isBlank then
      .error (.emptyTitle spec.taskType)
    else
      checkSections spec (found.sections.filter SectionDef.required)

end TaskSpec

def validTypesDisplay : String := ", ".intercalate (SCHEMAS.map SchemaDef.taskType)

def taskSpecHint : String :=
  "run `a2a-bridge task-spec schema <type>` or `a2a-bridge task-spec template <type>`"

def sanitizeTaskType (got : String) : String :=
  if got.isEmpty || !got.toList.all fun c => isAsciiAlphanumeric c || c == '-' || c == '_' then
    "invalid"
  else
    String.ofList (got.toList.take 32)

def knownTaskTypeName (taskType : String) : String :=
  ((schema taskType).map SchemaDef.taskType).getD "task"

def knownSectionName (taskType name : String) : String :=
  (((schema taskType).bind fun found =>
    found.sections.find? fun entry => eqIgnoreAsciiCase entry.name name).map
      SectionDef.name).getD "required section"

/-- The `Display` text. -/
def TaskSpecError.message : TaskSpecError → String
  | .noTaskType =>
    "missing `task-type` front-matter; valid types: " ++ validTypesDisplay ++ "; " ++ taskSpecHint
  | .unknownType got =>
    "unknown task-type `" ++ sanitizeTaskType got ++ "`; valid types: " ++ validTypesDisplay ++
      "; " ++ taskSpecHint
  | .missingSection taskType name =>
    "missing required section `" ++ knownSectionName taskType name ++ "` for task-type `" ++
      knownTaskTypeName taskType ++ "`; " ++ taskSpecHint
  | .emptySection taskType name =>
    "empty required section `" ++ knownSectionName taskType name ++ "` for task-type `" ++
      knownTaskTypeName taskType ++ "`; " ++ taskSpecHint
  | .missingTitle taskType =>
    "missing required title for task-type `" ++ knownTaskTypeName taskType ++ "`; " ++ taskSpecHint
  | .emptyTitle taskType =>
    "empty required title for task-type `" ++ knownTaskTypeName taskType ++ "`; " ++ taskSpecHint
  | .parse _ => "malformed task-spec (see `task-spec schema`)"

/-- `normalize_field_name`: runs of other characters become one underscore, none at an end. -/
def normalizeFieldName (name : String) : String :=
  let spaced := name.toList.foldl (fun (out : List Char × Bool) c =>
    if isAsciiAlphanumeric c then (out.1 ++ [asciiLower c], false)
    else if out.2 then out
    else (out.1 ++ ['_'], true)) ([], false)
  let underscore := fun c => c == '_'
  String.ofList (((spaced.1.dropWhile underscore).reverse.dropWhile underscore).reverse)

def sectionFields (entry : Section) : List (String × String) :=
  let key := normalizeFieldName entry.name
  (key, entry.content) :: entry.subsections.map fun subsection =>
    ((if key.isEmpty then normalizeFieldName subsection.name
      else key ++ "." ++ normalizeFieldName subsection.name), subsection.content)

/-- `fields`: a section named like a reserved token is no token. -/
def TaskSpec.fields (spec : TaskSpec) : List (String × String) :=
  ("title", spec.title.getD "") :: ("type", spec.taskType) ::
    (spec.sections.filter fun entry =>
      normalizeFieldName entry.name != "title" && normalizeFieldName entry.name != "type").flatMap
        sectionFields

/-- `render_vars_for_input`. An input without a task type is rendered as it stands. -/
def renderVarsForInput (input : String) : Except String (List (String × String)) :=
  match TaskSpec.parse input with
  | .error .noTaskType => .ok [("input", input)]
  | .error reason => .error reason.message
  | .ok spec =>
    match spec.validate with
    | .error reason => .error reason.message
    | .ok _ =>
      let declared := ((schema spec.taskType).map SchemaDef.sections).getD []
      .ok (("input", spec.body) ::
        (declared.map fun entry => ("task." ++ normalizeFieldName entry.name, "")) ++
          spec.fields.map fun field => ("task." ++ field.1, field.2))

end A2aBridge.Workflow
