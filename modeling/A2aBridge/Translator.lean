import A2aBridge.Harvest
import A2aBridge.SessionTable
import A2aBridge.WorkflowErrors

/-!
The turn translator of bridge-core/translator.rs: the updates of a backend become the events of
the turn, with consecutive text coalesced into status chunks. The backend stream is the list of
the items it yields; a backend that reports a cancellation or a silence does so by an item of
it. The policy, the store of suspended requests and the audit commit answer as ports. What is
left out: the accounting of a prepared turn, the replay evidence around an error, the terminal
evidence sink, and the source and metadata of an event, which the translator leaves empty.
-/

namespace A2aBridge.Translation

open Workflow (BridgeError)
open Sessions (UsageSnapshot)
open Harvest

/-! ### Updates and events -/

structure PermissionRequest where
  requestId : String
  interactive : Bool
  deriving DecidableEq

inductive Update where
  | text (text : String)
  | finalAnswer (text : String)
  | permission (request : PermissionRequest)
  | usage (snap : UsageSnapshot)
  | done (stopReason : String) (prefixAttestation : PrefixAttestationStatus)
  deriving DecidableEq

def STOP_REASON_CANCELLED : String := "cancelled"

inductive EventKind where
  | status
  | artifact
  | terminal
  | usage
  deriving DecidableEq

inductive TaskOutcome where
  | completed
  | failed
  | canceled
  deriving DecidableEq

structure Event where
  kind : EventKind
  text : String := ""
  outcome : Option TaskOutcome := none
  usage : Option UsageSnapshot := none
  deriving DecidableEq

namespace Event

def status (text : String) : Event := { kind := .status, text }

def artifact (text : String) : Event := { kind := .artifact, text }

def terminal (outcome : TaskOutcome) : Event := { kind := .terminal, outcome := some outcome }

def ofUsage (snap : UsageSnapshot) : Event := { kind := .usage, usage := some snap }

end Event

/-! ### The translation -/

/-- What the translator asks the components around it. -/
structure Ports where
  decide : PermissionRequest → Except BridgeError Unit
  putPending : String → Except BridgeError Unit
  /-- Persisting the audit record of a completion, where the audit store retains any. -/
  commitBundle : CompletionBodyOrigin → String → PrefixAttestationStatus → Except BridgeError Unit
  sha : ByteText.Sha256
  capability : PrefixAttestationCapability
  agent : String
  turnId : String

structure Translator where
  maxChunk : Nat
  positive : 0 < maxChunk

def Translator.new : Translator := ⟨1200, by decide⟩

/-- The accumulated text awaiting a flush, and the full text for the artifact. -/
structure Turn where
  acc : List Char := []
  artifactText : String := ""
  sawTextDelta : Bool := false

abbrev Item := Except BridgeError Update

abbrev Output := List Event × Except BridgeError Unit

def Output.after (events : List Event) (output : Output) : Output := (events ++ output.1, output.2)

def flush (acc : List Char) : List Event :=
  if acc.isEmpty then [] else [.status (String.ofList acc)]

variable (ports : Ports)

/-- `commit_harvested_completion` with sanitisation off. -/
def Ports.commit (origin : CompletionBodyOrigin) (payload : String)
    (attestation : PrefixAttestationStatus) : Except BridgeError String := do
  let outcome := sanitizeHarvest ports.sha .off origin ports.capability ports.agent ports.turnId
    payload attestation
  ports.commitBundle origin payload outcome.status
  pure outcome.effectiveBody

namespace Translator

variable (translator : Translator) (ports : Ports)

/-- Flush as many full chunks as the accumulator allows. -/
def fullChunks (acc : List Char) : List Event × List Char :=
  if translator.maxChunk ≤ acc.length then
    let rest := fullChunks (acc.drop translator.maxChunk)
    (.status (String.ofList (acc.take translator.maxChunk)) :: rest.1, rest.2)
  else ([], acc)
termination_by acc.length
decreasing_by
  rw [List.length_drop]
  have positive := translator.positive
  omega

def onDone (turn : Turn) (stopReason : String) (attestation : PrefixAttestationStatus) : Output :=
  let committed :=
    if turn.sawTextDelta then ports.commit .modelText turn.artifactText attestation
    else ports.commit .bridgeStopReasonWithoutText stopReason attestation
  match committed with
  | .error error => (flush turn.acc, .error error)
  | .ok body =>
    let terminal := if stopReason = STOP_REASON_CANCELLED then [.terminal .canceled] else []
    (flush turn.acc ++ .artifact body :: terminal, .ok ())

def run (turn : Turn) : List Item → Output
  | [] => (flush turn.acc, .error .missingTerminal)
  | .error error :: _ => (flush turn.acc, .error error)
  | .ok (.text text) :: rest =>
    let chunks := translator.fullChunks (turn.acc ++ text.toList)
    (run ⟨chunks.2, turn.artifactText ++ text, true⟩ rest).after chunks.1
  | .ok (.finalAnswer text) :: rest =>
    let chunks := translator.fullChunks (turn.acc ++ text.toList)
    (run ⟨chunks.2, turn.artifactText ++ text, true⟩ rest).after chunks.1
  | .ok (.permission request) :: rest =>
    match ports.decide request with
    | .ok _ => (run { turn with acc := [] } rest).after (flush turn.acc)
    | .error _ =>
      match ports.putPending request.requestId with
      | .ok _ => (flush turn.acc, .error (.permissionRequired request.requestId))
      | .error error => (flush turn.acc, .error error)
  | .ok (.usage snap) :: rest => (run turn rest).after [.ofUsage snap]
  | .ok (.done stopReason attestation) :: _ => onDone ports turn stopReason attestation

/-- The whole stream: a prompt that cannot be opened is its only item. -/
def translate (opened : Except BridgeError (List Item)) : Output :=
  match opened with
  | .error error => ([], .error error)
  | .ok items => translator.run ports {} items

end Translator

/-! ### What a turn is to come to -/

/-- How a backend stream ends the turn. -/
inductive Ending where
  | done (stopReason : String) (attestation : PrefixAttestationStatus)
  | failed (error : BridgeError)
  | suspended (request : PermissionRequest)
  | exhausted

/-- The text deltas received before the end, and the end. -/
def received (ports : Ports) : List Item → List String × Ending
  | [] => ([], .exhausted)
  | .error error :: _ => ([], .failed error)
  | .ok (.text text) :: rest => (text :: (received ports rest).1, (received ports rest).2)
  | .ok (.finalAnswer text) :: rest => (text :: (received ports rest).1, (received ports rest).2)
  | .ok (.permission request) :: rest =>
    match ports.decide request with
    | .ok _ => received ports rest
    | .error _ => ([], .suspended request)
  | .ok (.usage _) :: rest => received ports rest
  | .ok (.done stopReason attestation) :: _ => ([], .done stopReason attestation)

def statusTexts (events : List Event) : List String :=
  (events.filter fun event => event.kind = .status).map Event.text

def wholeText (texts : List String) : Option String :=
  if texts = [] then none else some (String.join texts)

/-- The last events of a turn and the end of its stream, for its text and its end. -/
def conclusion (text : Option String) : Ending → Output
  | .done stopReason attestation =>
    let body := text.getD stopReason
    let origin := if text.isSome then .modelText else .bridgeStopReasonWithoutText
    match ports.commitBundle origin body attestation with
    | .error error => ([], .error error)
    | .ok _ =>
      let terminal := if stopReason = STOP_REASON_CANCELLED then [.terminal .canceled] else []
      (.artifact body :: terminal, .ok ())
  | .failed error => ([], .error error)
  | .suspended request =>
    match ports.putPending request.requestId with
    | .ok _ => ([], .error (.permissionRequired request.requestId))
    | .error error => ([], .error error)
  | .exhausted => ([], .error .missingTerminal)

/-! ### The translation comes to that -/

/-- Status and usage events whose status texts are pieces of `text` in order, none of them longer
than a chunk. -/
structure Coalesced (translator : Translator) (events : List Event) (text : String) : Prop where
  kinds : ∀ event ∈ events, event.kind = .status ∨ event.kind = .usage
  short : ∀ event ∈ events, event.kind = .status → event.text.length ≤ translator.maxChunk
  joined : String.join (statusTexts events) = text

section Coalescing

variable {translator : Translator}

theorem Coalesced.nil : Coalesced translator [] "" := ⟨by simp, by simp, rfl⟩

theorem Coalesced.append {first second : List Event} {left right : String}
    (before : Coalesced translator first left) (after : Coalesced translator second right) :
    Coalesced translator (first ++ second) (left ++ right) := by
  constructor
  · exact List.forall_mem_append.mpr ⟨before.kinds, after.kinds⟩
  · exact List.forall_mem_append.mpr ⟨before.short, after.short⟩
  · rw [statusTexts, List.filter_append, List.map_append, String.join_append]
    exact congrArg₂ (· ++ ·) before.joined after.joined

theorem Coalesced.status {chunk : List Char} (short : chunk.length ≤ translator.maxChunk) :
    Coalesced translator [.status (String.ofList chunk)] (String.ofList chunk) := by
  constructor
  · exact List.forall_mem_singleton.mpr (.inl rfl)
  · exact List.forall_mem_singleton.mpr fun _ => by simpa [Event.status] using short
  · simp [statusTexts, Event.status]

theorem Coalesced.usage (snap : UsageSnapshot) : Coalesced translator [.ofUsage snap] "" := by
  constructor
  · exact List.forall_mem_singleton.mpr (.inr rfl)
  · exact List.forall_mem_singleton.mpr nofun
  · simp [statusTexts, Event.ofUsage]

theorem flush_coalesced {acc : List Char} (short : acc.length ≤ translator.maxChunk) :
    Coalesced translator (flush acc) (String.ofList acc) := by
  cases acc with
  | nil => exact .nil
  | cons char rest => exact .status short

theorem full_chunks_coalesced (acc : List Char) :
    ∃ text, Coalesced translator (translator.fullChunks acc).1 text ∧
      text ++ String.ofList (translator.fullChunks acc).2 = String.ofList acc ∧
      (translator.fullChunks acc).2.length = acc.length % translator.maxChunk := by
  induction acc using Translator.fullChunks.induct translator with
  | case1 acc full ih =>
    obtain ⟨text, coalesced, whole, left⟩ := ih
    rw [Translator.fullChunks, if_pos full]
    refine ⟨String.ofList (acc.take translator.maxChunk) ++ text, ?_, ?_, ?_⟩
    · exact Coalesced.append (.status (List.length_take_le _ _)) coalesced
    · rw [String.append_assoc, whole, ← String.ofList_append, List.take_append_drop]
    · rw [Nat.mod_eq_sub_mod full, ← List.length_drop]
      exact left
  | case2 acc part =>
    rw [Translator.fullChunks, if_neg part]
    exact ⟨"", .nil, String.empty_append, (Nat.mod_eq_of_lt (by simpa using part)).symm⟩

theorem full_chunks_status (acc : List Char) :
    ∀ event ∈ (translator.fullChunks acc).1, event.kind = .status := by
  induction acc using Translator.fullChunks.induct translator with
  | case1 acc full ih =>
    rw [Translator.fullChunks, if_pos full]
    exact List.forall_mem_cons.mpr ⟨rfl, ih⟩
  | case2 acc part =>
    rw [Translator.fullChunks, if_neg part]
    exact List.forall_mem_nil _

theorem flush_status (acc : List Char) : ∀ event ∈ flush acc, event.kind = .status := by
  cases acc with
  | nil => exact List.forall_mem_nil _
  | cons => exact List.forall_mem_singleton.mpr rfl

end Coalescing

/-- The text of a turn once the remaining deltas have come in. -/
def Turn.textWith (turn : Turn) (texts : List String) : Option String :=
  if turn.sawTextDelta ∨ texts ≠ [] then some (turn.artifactText ++ String.join texts) else none

theorem commit_eq (origin : CompletionBodyOrigin) (payload : String)
    (attestation : PrefixAttestationStatus) :
    ports.commit origin payload attestation =
      (ports.commitBundle origin payload attestation).map fun _ => payload := by
  simp only [Ports.commit, sanitizeHarvest, if_true]
  cases ports.commitBundle origin payload attestation <;> rfl

theorem on_done_concludes (turn : Turn) (stopReason : String)
    (attestation : PrefixAttestationStatus) :
    Translator.onDone ports turn stopReason attestation =
      (conclusion ports (turn.textWith []) (.done stopReason attestation)).after (flush turn.acc) := by
  cases saw : turn.sawTextDelta with
  | true =>
    have text : turn.textWith [] = some turn.artifactText := by simp [Turn.textWith, saw]
    simp only [Translator.onDone, conclusion, saw, text, if_true, commit_eq, Option.getD_some,
      Option.isSome_some]
    cases ports.commitBundle .modelText turn.artifactText attestation with
    | error | ok => simp [Except.map, Output.after]
  | false =>
    have text : turn.textWith [] = none := by simp [Turn.textWith, saw]
    simp only [Translator.onDone, conclusion, saw, text, commit_eq, Option.getD_none,
      Option.isSome_none, Bool.false_eq_true, if_false]
    cases ports.commitBundle .bridgeStopReasonWithoutText stopReason attestation with
    | error | ok => simp [Except.map, Output.after]

theorem Output.after_after (first second : List Event) (output : Output) :
    (output.after second).after first = output.after (first ++ second) := by
  simp [Output.after]

section Running

variable {translator : Translator} {ports : Ports}

/-- The rest of a stream adds its text to what is accumulated, and concludes with all of it. -/
def Concludes (translator : Translator) (ports : Ports) (turn : Turn) (items : List Item) : Prop :=
  ∃ earlier,
    Coalesced translator earlier (String.ofList turn.acc ++ String.join (received ports items).1) ∧
    translator.run ports turn items =
      (conclusion ports (turn.textWith (received ports items).1) (received ports items).2).after
        earlier

variable {turn : Turn}

theorem concludes_now {items : List Item} {ending : Ending}
    (short : turn.acc.length < translator.maxChunk) (ends : received ports items = ([], ending))
    (ran : translator.run ports turn items =
      (conclusion ports (turn.textWith []) ending).after (flush turn.acc)) :
    Concludes translator ports turn items := by
  refine ⟨flush turn.acc, ?_, ?_⟩
  · rw [ends]
    simpa using flush_coalesced (Nat.le_of_lt short)
  · rw [ran, ends]

theorem concludes_delta {rest : List Item} {item : Item} {text : String}
    (heard : received ports (item :: rest) =
      (text :: (received ports rest).1, (received ports rest).2))
    (ran : translator.run ports turn (item :: rest) =
      (translator.run ports ⟨(translator.fullChunks (turn.acc ++ text.toList)).2,
        turn.artifactText ++ text, true⟩ rest).after
          (translator.fullChunks (turn.acc ++ text.toList)).1)
    (ih : ∀ turn : Turn, turn.acc.length < translator.maxChunk →
      Concludes translator ports turn rest) : Concludes translator ports turn (item :: rest) := by
  obtain ⟨piece, chunks, whole, left⟩ := @full_chunks_coalesced translator (turn.acc ++ text.toList)
  obtain ⟨earlier, coalesced, same⟩ := ih ⟨_, turn.artifactText ++ text, true⟩
    (left ▸ Nat.mod_lt _ translator.positive)
  refine ⟨(translator.fullChunks (turn.acc ++ text.toList)).1 ++ earlier, ?_, ?_⟩
  · have joined := chunks.append coalesced
    rw [← String.append_assoc, whole, String.ofList_append, String.ofList_toList] at joined
    rw [heard, String.join_cons, ← String.append_assoc]
    exact joined
  · rw [ran, same, Output.after_after, heard]
    simp [Turn.textWith, String.join_cons, String.append_assoc]

theorem run_concludes (items : List Item) (turn : Turn)
    (short : turn.acc.length < translator.maxChunk) : Concludes translator ports turn items := by
  induction items generalizing turn with
  | nil => exact concludes_now short rfl (by simp [Translator.run, conclusion, Output.after])
  | cons item rest ih =>
    cases item with
    | error error =>
      exact concludes_now short rfl (by simp [Translator.run, conclusion, Output.after])
    | ok update =>
      cases update with
      | text | finalAnswer => exact concludes_delta rfl rfl ih
      | permission request =>
        cases decided : ports.decide request with
        | ok approved =>
          -- The pending text is flushed and the turn goes on.
          obtain ⟨earlier, coalesced, same⟩ := ih { turn with acc := [] } translator.positive
          refine ⟨flush turn.acc ++ earlier, ?_, ?_⟩
          · simp only [received, decided]
            simpa using (flush_coalesced (Nat.le_of_lt short)).append coalesced
          · simp only [Translator.run, received, decided, same, Output.after_after]
            rfl
        | error denied =>
          apply concludes_now short
          · simp only [received, decided]
            rfl
          · simp only [Translator.run, decided, conclusion]
            cases ports.putPending request.requestId <;> simp [Output.after]
      | usage snap =>
        obtain ⟨earlier, coalesced, same⟩ := ih turn short
        refine ⟨.ofUsage snap :: earlier, ?_, ?_⟩
        · simpa [received] using (Coalesced.usage snap).append coalesced
        · simp only [Translator.run, received, same, Output.after_after]
          rfl
      | done stopReason attestation =>
        exact concludes_now short rfl (on_done_concludes ports turn stopReason attestation)

/-- A turn emits status and usage events only, whose status texts are no longer than a chunk and
join to the text received before the end, and then what its end calls for: on `Done` one
artifact with the whole text, or the stop reason when there was no delta, and after it a
canceled terminal exactly for the stop reason that says so; otherwise nothing but the error. -/
theorem translation_keeps_text (items : List Item) :
    ∃ earlier,
      (∀ event ∈ earlier, event.kind = .status ∨ event.kind = .usage) ∧
      String.join (statusTexts earlier) = String.join (received ports items).1 ∧
      (∀ event ∈ earlier, event.kind = .status → event.text.length ≤ translator.maxChunk) ∧
      translator.translate ports (.ok items) =
        (conclusion ports (wholeText (received ports items).1) (received ports items).2).after
          earlier := by
  obtain ⟨earlier, coalesced, same⟩ := @run_concludes translator ports items {} translator.positive
  refine ⟨earlier, coalesced.kinds, ?_, coalesced.short, ?_⟩
  · rw [coalesced.joined]
    simp
  · have text : ({} : Turn).textWith (received ports items).1 =
        wholeText (received ports items).1 := by
      by_cases none : (received ports items).1 = [] <;> simp [Turn.textWith, wholeText, none]
    rw [← text]
    exact same

/-! ### Events and the text before them -/

/-- The items ahead of the usage update with `count` others before it. -/
def aheadOfUsage : Nat → List Item → List Item
  | 0, .ok (.usage _) :: _ => []
  | count + 1, .ok (.usage snap) :: rest => .ok (.usage snap) :: aheadOfUsage count rest
  | count, item :: rest => item :: aheadOfUsage count rest
  | _, [] => []

/-- The characters received since the last permission request, `count` of them before the items. -/
def spokenSince (count : Nat) : List Item → Nat
  | [] => count
  | .ok (.text text) :: rest => spokenSince (count + text.length) rest
  | .ok (.finalAnswer text) :: rest => spokenSince (count + text.length) rest
  | .ok (.permission _) :: rest => spokenSince 0 rest
  | _ :: rest => spokenSince count rest

/-- The items ahead of the update for which the event behind these events is emitted: a usage event
is for the usage update of its rank, an artifact or a terminal for the end of the stream. -/
def aheadOf (items : List Item) (earlier : List Event) (event : Event) : List Item :=
  if event.kind = .usage then aheadOfUsage (earlier.countP (·.kind = .usage)) items else items

/-- The event follows all the text received ahead of its update. -/
def Timely (ports : Ports) (items : List Item) (earlier : List Event) (event : Event) : Prop :=
  String.join (statusTexts earlier) = String.join (received ports (aheadOf items earlier event)).1

theorem conclusion_kinds (text : Option String) (ending : Ending) :
    ∀ event ∈ (conclusion ports text ending).1, event.kind ≠ .status ∧ event.kind ≠ .usage := by
  cases ending with
  | done stopReason attestation =>
    simp only [conclusion]
    split
    · simp
    · by_cases cancelled : stopReason = STOP_REASON_CANCELLED <;>
        simp [cancelled, Event.artifact, Event.terminal]
  | suspended request =>
    simp only [conclusion]
    split <;> simp
  | failed | exhausted => simp [conclusion]

theorem status_texts_append (first second : List Event) :
    String.join (statusTexts (first ++ second)) =
      String.join (statusTexts first) ++ String.join (statusTexts second) := by
  rw [statusTexts, List.filter_append, List.map_append, String.join_append]
  rfl

theorem other_timely {items : List Item} {earlier later : List Event} {event : Event}
    (nonText : event.kind ≠ .status) (other : event.kind ≠ .usage)
    (emitted : (translator.translate ports (.ok items)).1 = earlier ++ event :: later) :
    Timely ports items earlier event := by
  obtain ⟨before, coalesced, same⟩ := @run_concludes translator ports items {} translator.positive
  rw [Translator.translate, same] at emitted
  have joined := coalesced.joined
  rw [Timely, aheadOf, if_neg other]
  obtain ⟨extra, rfl, ended⟩ | ⟨extra, rfl, ended⟩ := List.append_eq_append_iff.mp emitted
  · -- The event is one of the conclusion, where no status stands before it.
    have silent : statusTexts extra = [] := by
      rw [statusTexts, List.filter_eq_nil_iff.mpr, List.map_nil]
      intro event member
      simpa using (conclusion_kinds _ _ event (ended ▸ List.mem_append_left _ member)).1
    simpa [status_texts_append, silent] using joined
  · cases extra with
    | nil => simpa using joined
    | cons first extra =>
      obtain ⟨rfl, -⟩ := List.cons.inj ended
      exact absurd (coalesced.kinds event (by simp)) (not_or.mpr ⟨nonText, other⟩)

theorem spoken_since_mod (count : Nat) (items : List Item) :
    spokenSince (count % translator.maxChunk) items % translator.maxChunk =
      spokenSince count items % translator.maxChunk := by
  suffices ∀ other, other % translator.maxChunk = count % translator.maxChunk →
      spokenSince other items % translator.maxChunk =
        spokenSince count items % translator.maxChunk from this _ (Nat.mod_mod _ _)
  induction items generalizing count with
  | nil => exact fun _ same => same
  | cons item rest ih =>
    intro other same
    cases item with
    | error => exact ih _ _ same
    | ok update =>
      cases update with
      | text | finalAnswer => exact ih _ _ (Nat.add_mod_eq_add_mod_right _ same)
      | permission => rfl
      | usage | done => exact ih _ _ same

theorem usage_behind {first second earlier later : List Event} {event : Event}
    (kinds : ∀ event ∈ first, event.kind = .status) (isUsage : event.kind = .usage)
    (emitted : first ++ second = earlier ++ event :: later) :
    ∃ rest, earlier = first ++ rest ∧ second = rest ++ event :: later := by
  obtain ⟨rest, rfl, same⟩ | ⟨rest, rfl, same⟩ := List.append_eq_append_iff.mp emitted
  · exact ⟨rest, rfl, same⟩
  · cases rest with
    | nil => exact ⟨[], by simp, same.symm⟩
    | cons head rest =>
      obtain ⟨rfl, -⟩ := List.cons.inj same
      cases isUsage.symm.trans (kinds event (by simp))

/-- What is still pending ahead of a usage event of the rest of a turn. -/
def Pends (translator : Translator) (ports : Ports) (turn : Turn) (items : List Item)
    (earlier : List Event) : Prop :=
  let ahead := aheadOfUsage (earlier.countP (·.kind = .usage)) items
  ∃ pending : List Char,
    pending.length = spokenSince turn.acc.length ahead % translator.maxChunk ∧
    String.join (statusTexts earlier) ++ String.ofList pending =
      String.ofList turn.acc ++ String.join (received ports ahead).1

theorem no_usage {events : List Event} (kinds : ∀ event ∈ events, event.kind = .status) :
    events.countP (·.kind = .usage) = 0 :=
  List.countP_eq_zero.mpr fun event member => by simp [kinds event member]

theorem pends_delta {rest : List Item} {earlier : List Event} {text : String} {item : Item}
    (delta : item = .ok (.text text) ∨ item = .ok (.finalAnswer text))
    (pends : Pends translator ports ⟨(translator.fullChunks (turn.acc ++ text.toList)).2,
      turn.artifactText ++ text, true⟩ rest earlier) :
    Pends translator ports turn (item :: rest)
      ((translator.fullChunks (turn.acc ++ text.toList)).1 ++ earlier) := by
  obtain ⟨piece, chunks, whole, left⟩ := @full_chunks_coalesced translator (turn.acc ++ text.toList)
  obtain ⟨pending, length, joined⟩ := pends
  have counted : aheadOfUsage (((translator.fullChunks (turn.acc ++ text.toList)).1 ++
      earlier).countP (·.kind = .usage)) (item :: rest) =
      item :: aheadOfUsage (earlier.countP (·.kind = .usage)) rest := by
    rw [List.countP_append, no_usage (full_chunks_status _), Nat.zero_add]
    rcases delta with rfl | rfl <;> rw [aheadOfUsage] <;> nofun
  refine ⟨pending, ?_, ?_⟩
  · rw [counted]
    rw [left, spoken_since_mod, List.length_append] at length
    rw [String.length_toList] at length
    rcases delta with rfl | rfl <;> exact length
  · rw [counted, status_texts_append, String.append_assoc, joined, chunks.joined,
      ← String.append_assoc, whole, String.ofList_append, String.ofList_toList, String.append_assoc]
    rcases delta with rfl | rfl <;> simp [received, String.join_cons]

theorem usage_pends {items : List Item} {earlier later : List Event} {event : Event}
    (isUsage : event.kind = .usage)
    (emitted : (translator.run ports turn items).1 = earlier ++ event :: later)
    (short : turn.acc.length < translator.maxChunk) :
    Pends translator ports turn items earlier := by
  have ends {turn : Turn} {items : List Item} {earlier : List Event} (ending : Ending)
      (emitted : (translator.run ports turn items).1 = earlier ++ event :: later)
      (ran : translator.run ports turn items =
        (conclusion ports (turn.textWith []) ending).after (flush turn.acc)) :
      Pends translator ports turn items earlier := by
    rw [ran] at emitted
    obtain ⟨rest, -, same⟩ := usage_behind (flush_status _) isUsage emitted
    have member : event ∈ (conclusion ports (turn.textWith []) ending).1 := same ▸ by simp
    exact absurd isUsage (conclusion_kinds _ ending event member).2
  induction items generalizing turn earlier with
  | nil => exact ends .exhausted emitted (by simp [Translator.run, conclusion, Output.after])
  | cons item rest ih =>
    cases item with
    | error error =>
      exact ends (.failed error) emitted (by simp [Translator.run, conclusion, Output.after])
    | ok update =>
      cases update with
      | text text | finalAnswer text =>
        obtain ⟨others, rfl, same⟩ := usage_behind (full_chunks_status _) isUsage emitted
        have left := (@full_chunks_coalesced translator (turn.acc ++ text.toList)).choose_spec.2.2
        refine pends_delta (by simp) (ih same ?_)
        exact left ▸ Nat.mod_lt _ translator.positive
      | permission request =>
        cases decided : ports.decide request with
        | ok approved =>
          simp only [Translator.run, decided] at emitted
          obtain ⟨others, rfl, same⟩ := usage_behind (flush_status _) isUsage emitted
          obtain ⟨pending, length, joined⟩ := ih same translator.positive
          have flushed := (flush_coalesced (Nat.le_of_lt short)).joined
          rw [Pends, List.countP_append, no_usage (flush_status _), Nat.zero_add, aheadOfUsage]
          · refine ⟨pending, length, ?_⟩
            rw [status_texts_append, String.append_assoc, joined, flushed]
            simp [received, decided]
          all_goals nofun
        | error denied =>
          refine ends (.suspended request) emitted ?_
          simp only [Translator.run, decided, conclusion]
          cases ports.putPending request.requestId <;> simp [Output.after]
      | usage snap =>
        cases earlier with
        | nil =>
          refine ⟨turn.acc, (Nat.mod_eq_of_lt short).symm, ?_⟩
          simp [statusTexts, aheadOfUsage, received]
        | cons first earlier =>
          obtain ⟨rfl, same⟩ := List.cons.inj emitted
          obtain ⟨pending, length, joined⟩ := ih same short
          rw [Pends, List.countP_cons_of_pos (by rfl)]
          exact ⟨pending, length, joined⟩
      | done stopReason attestation => exact ends _ emitted (on_done_concludes ports turn _ _)

/-- A usage event is emitted behind all earlier text exactly if no part of a chunk is pending. -/
theorem events_timely_iff (items : List Item) (earlier later : List Event) (event : Event)
    (nonText : event.kind ≠ .status)
    (emitted : (translator.translate ports (.ok items)).1 = earlier ++ event :: later) :
    Timely ports items earlier event ↔ (event.kind = .usage →
      translator.maxChunk ∣ spokenSince 0 (aheadOf items earlier event)) := by
  by_cases isUsage : event.kind = .usage
  · have empty : ({} : Turn).acc.length < translator.maxChunk := translator.positive
    obtain ⟨pending, length, joined⟩ := usage_pends isUsage emitted empty
    replace joined := joined.trans String.empty_append
    simp only [isUsage, true_imp_iff, Timely, aheadOf, if_true]
    rw [Nat.dvd_iff_mod_eq_zero, ← joined]
    change _ ↔ spokenSince ({} : Turn).acc.length _ % _ = 0
    rw [← length, List.length_eq_zero_iff]
    constructor
    · intro same
      simpa using congrArg String.toList same
    · rintro rfl
      simp
  · exact iff_of_true (other_timely nonText isUsage emitted) fun usage => absurd usage isUsage

def samplePorts : Ports :=
  ⟨fun _ => .ok (), fun _ => .ok (), fun _ _ _ => .ok (),
    ⟨fun _ => List.replicate 32 1, fun _ => rfl⟩, .codexCommitMarkerV1, "", ""⟩

def spoken : List Item :=
  [.ok (.text "a"), .ok (.usage {}), .ok (.done "end_turn" (.rejected ⟨"", "", .digestMismatch⟩))]

theorem spoken_events : (Translator.new.translate samplePorts (.ok spoken)).1 =
    [.ofUsage {}, .status "a", .artifact "a"] := by
  simp [spoken, Translator.translate, Translator.run, Translator.fullChunks, Translator.new,
    Translator.onDone, commit_eq, samplePorts, Except.map, flush, Output.after,
    STOP_REASON_CANCELLED]

theorem artifact_timely : Timely samplePorts spoken [.ofUsage {}, .status "a"] (.artifact "a") :=
  (events_timely_iff spoken _ [] (.artifact "a") nofun spoken_events).mpr nofun

/-- Usage is reported at once, and the text that was pending follows it. -/
theorem usage_overtakes_text : (Translator.new.translate samplePorts (.ok spoken)).1 =
      [] ++ .ofUsage {} :: [.status "a", .artifact "a"] ∧
    ¬ Timely samplePorts spoken [] (.ofUsage {}) :=
  ⟨spoken_events, by
    simp [Timely, aheadOf, statusTexts, Event.ofUsage, aheadOfUsage, received, spoken]⟩

end Running

end A2aBridge.Translation
