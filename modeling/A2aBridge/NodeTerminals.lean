import A2aBridge.ByteText
import A2aBridge.MachineWords
import A2aBridge.WorkflowErrors
import Mathlib.Data.List.Sort
import Mathlib.Data.String.Basic

/-!
Node terminal records and policy triggers of bridge-core/execution_policy.rs with their
canonical encodings, and the small executor functions that read a terminal record. The
JSON writer of `serde_json`, the redaction of one diagnostic line and SHA-256 are the
parameters of `EvidenceCodec`; the bounds and the shortening loops around them are the
source's own.
-/

namespace A2aBridge.Workflow

open ByteText

abbrev NodeId := String

def EXECUTION_POLICY_SCHEMA_V1 : Nat := 1
def MAX_NODE_TERMINAL_JSON_BYTES : Nat := 2048
def MAX_POLICY_TRIGGER_JSON_BYTES : Nat := 1024
def CLEANUP_TAIL_MS : Nat := 60000

inductive NodePrimaryDisposition where
  | completed
  | failed
  | timedOut
  | canceledWorkflow
  | canceledPolicy
  | canceledNode
  | skippedDependency
  | notStartedPolicy
  | interruptedLegacy
  | deadline
  deriving DecidableEq

inductive NodeCleanupDisposition where
  | complete
  | failed
  | notNeeded
  | unknownLegacy
  deriving DecidableEq

structure NodeCleanup where
  disposition : NodeCleanupDisposition
  durationMs : Nat
  deriving DecidableEq

structure NodeTerminal where
  schemaVersion : Nat
  primary : NodePrimaryDisposition
  cleanup : NodeCleanup
  cause : Option NodeCause
  promptMayHaveBeenAccepted : Bool
  degradedAncestry : Bool
  policyTriggerId : Option String
  deriving DecidableEq

structure PolicyNodeRef where
  sortedOrdinal : Nat
  idSha256 : String
  deriving DecidableEq

inductive FanOutPolicy where
  | boundedIndependent
  | failFast
  | fixedGrace (graceMs : Nat)
  deriving DecidableEq

inductive FanOutPolicyName where
  | boundedIndependent
  | failFast
  | fixedGrace
  deriving DecidableEq

namespace FanOutPolicy

def name : FanOutPolicy → FanOutPolicyName
  | boundedIndependent => .boundedIndependent
  | failFast => .failFast
  | fixedGrace _ => .fixedGrace

def graceMs : FanOutPolicy → Option Nat
  | fixedGrace graceMs => some graceMs
  | boundedIndependent | failFast => none

end FanOutPolicy

inductive SynthesisMode where
  | strict
  | degraded
  deriving DecidableEq

structure PolicyTrigger where
  schemaVersion : Nat
  id : String
  node : PolicyNodeRef
  policy : FanOutPolicyName
  graceMs : Option Nat
  deriving DecidableEq

/-- `ControlEventIdV1::for_attempt`. -/
def controlEventIdForAttempt (attemptId : String) (ordinal : Nat) : String :=
  attemptId ++ ":policy:" ++ toString ordinal

/-- What the encodings take from outside the crate: the compact JSON text `serde_json`
writes for a value, the bounded redaction of one line, and SHA-256 in hex. -/
structure EvidenceCodec where
  terminalText : NodeTerminal → Option String
  triggerText : PolicyTrigger → Option String
  sanitizeLine : String → String
  sha256Hex : List UInt8 → String

namespace NodeTerminal

variable (codec : EvidenceCodec) (terminal : NodeTerminal)

def completedV1 : Bool := terminal.primary == .completed

/-- `normalize`: the schema is checked and the deepest cause is redacted, which counts as
truncation when it changes the text. -/
def normalize : Option NodeTerminal :=
  if terminal.schemaVersion = EXECUTION_POLICY_SCHEMA_V1 then
    some { terminal with
      cause := terminal.cause.map fun cause =>
        let sanitized := cause.deepestCause.map codec.sanitizeLine
        { cause with
          deepestCause := sanitized
          causeTruncated := cause.causeTruncated || sanitized != cause.deepestCause } }
  else none

/-- The deepest causes that `shorten_terminal_cause` leaves one after the other: one
leading scalar less each time, and none after the empty text. -/
def shortenings : List Char → List (Option String)
  | [] => [none]
  | _ :: rest => some (String.ofList rest) :: shortenings rest

def withDeepest (deepest : Option String) : NodeTerminal :=
  { terminal with cause := terminal.cause.map fun cause => { cause with deepestCause := deepest } }

/-- The values the shortening loop encodes, in order, starting with the value itself. -/
def candidates : List NodeTerminal :=
  match terminal.cause.bind NodeCause.deepestCause with
  | none => [terminal]
  | some deepest => terminal :: (shortenings deepest.toList).map terminal.withDeepest

def fits (text : String) : Bool := (asBytes text).length ≤ MAX_NODE_TERMINAL_JSON_BYTES

/-- One shortening loop: the first candidate whose text fits, or the last candidate. A
writer failure ends it. -/
def shortenUntilFits : List NodeTerminal → Option (String × NodeTerminal)
  | [] => none
  | [last] => (codec.terminalText last).map fun text => (text, last)
  | next :: rest =>
    match codec.terminalText next with
    | none => none
    | some text => if fits text then some (text, next) else shortenUntilFits rest

def truncated : NodeTerminal :=
  { terminal with cause := terminal.cause.map fun cause => { cause with causeTruncated := true } }

def overflowed : NodeTerminal :=
  { terminal with
    cause := terminal.cause.map fun cause =>
      { cause with evidenceOverflow := true, dependencySet := none } }

/-- `encode_canonical`, as text. The first loop keeps the text already written for the
normalized value, so its candidates after the first carry the truncation mark. -/
def encodeCanonical : Option String := do
  let value ← terminal.normalize codec
  let text ← codec.terminalText value
  if fits text then
    return text
  let shorter ←
    match value.truncated.candidates.tail with
    | [] => some (text, value.truncated)
    | rest => shortenUntilFits codec rest
  if fits shorter.1 then
    return shorter.1
  let last ← shortenUntilFits codec shorter.2.overflowed.candidates
  if fits last.1 then some last.1 else none

end NodeTerminal

namespace PolicyTrigger

def validate (trigger : PolicyTrigger) : Bool :=
  trigger.schemaVersion == EXECUTION_POLICY_SCHEMA_V1 &&
    match trigger.policy, trigger.graceMs with
    | .fixedGrace, some value => decide (0 < value)
    | .fixedGrace, none => false
    | _, none => true
    | _, some _ => false

def encodeCanonical (codec : EvidenceCodec) (trigger : PolicyTrigger) : Option String := do
  if !trigger.validate then
    none
  else
    let text ← codec.triggerText trigger
    if (asBytes text).length ≤ MAX_POLICY_TRIGGER_JSON_BYTES then some text else none

end PolicyTrigger

variable (codec : EvidenceCodec) (terminal : NodeTerminal)

def canonicalTerminalJson :
    Except BridgeError String :=
  match terminal.encodeCanonical codec with
  | some text => .ok text
  | none => .error .invalidStateTransition

def canonicalTriggerJson (trigger : PolicyTrigger) :
    Except BridgeError String :=
  match trigger.encodeCanonical codec with
  | some text => .ok text
  | none => .error .invalidStateTransition

/-- `degraded_input_text_v1` with a terminal record: a failed input is rendered as its
record, and either kind says whether it degrades its consumer. -/
def degradedInputText (legacyOutput : String) (terminal : NodeTerminal) :
    Except BridgeError (String × Bool) :=
  if terminal.completedV1 then
    .ok (legacyOutput, terminal.degradedAncestry)
  else do
    let terminalJson ← canonicalTerminalJson codec terminal
    .ok ("\x7b\"type\":\"a2a_bridge.node_failure.v1\",\"terminal\":" ++ terminalJson ++ "\x7d", true)

inductive NodeDisposition where
  | completed
  | completedDegraded
  | failed
  | canceled
  | skippedDependency
  | notStartedPolicy
  deriving DecidableEq

inductive WorkflowOutcome where
  | completed
  | completedDegraded
  | failed
  | canceled
  deriving DecidableEq

def NodeDisposition.workflowOutcome : NodeDisposition → WorkflowOutcome
  | completed => .completed
  | completedDegraded => .completedDegraded
  | failed | skippedDependency | notStartedPolicy => .failed
  | canceled => .canceled

def dispositionFromTerminal : NodeDisposition :=
  match terminal.primary with
  | .completed => if terminal.degradedAncestry then .completedDegraded else .completed
  | .canceledWorkflow | .canceledPolicy | .canceledNode => .canceled
  | .skippedDependency => .skippedDependency
  | .notStartedPolicy => .notStartedPolicy
  | .failed | .timedOut | .interruptedLegacy | .deadline => .failed

/-- `is_budget_stop_terminal_v1` of bridge-core/governance.rs. -/
def isBudgetStopTerminal : Bool :=
  terminal.primary == .failed && !terminal.promptMayHaveBeenAccepted &&
    terminal.cause.any fun cause =>
      cause.failureClass == .config && cause.code == "bridge.budget_refused" &&
        !cause.causeTruncated && !cause.evidenceOverflow && cause.dependencySet.isNone

/-- The four bytes of `u32::to_be_bytes`. -/
def beBytes32 (value : Nat) : List UInt8 :=
  [UInt8.ofNat (value / 2 ^ 24), UInt8.ofNat (value / 2 ^ 16), UInt8.ofNat (value / 2 ^ 8),
    UInt8.ofNat value]

namespace PolicyNodeRef

def before (left right : PolicyNodeRef) : Prop :=
  left.sortedOrdinal < right.sortedOrdinal ∨
    (left.sortedOrdinal = right.sortedOrdinal ∧ left.idSha256 ≤ right.idSha256)

instance : DecidableRel before := fun left right => by
  unfold before
  infer_instance

end PolicyNodeRef

/-- `windows(2).any(same)` on a list. -/
def anyAdjacent {α : Type} (same : α → α → Bool) : List α → Bool
  | left :: right :: rest => same left right || anyAdjacent same (right :: rest)
  | _ => false

/-- `DependencySetRefV1::from_node_refs`. -/
def DependencySetRef.fromNodeRefs (refs : List PolicyNodeRef) :
    Option DependencySetRef :=
  let sorted := refs.insertionSort PolicyNodeRef.before
  if anyAdjacent (fun left right => left.sortedOrdinal == right.sortedOrdinal) sorted then
    none
  else if 2 ^ 32 ≤ sorted.length then
    none
  else
    some {
      count := sorted.length
      sortedNodeRefsSha256 := codec.sha256Hex (beBytes32 sorted.length ++
        sorted.flatMap fun nodeRef => beBytes32 nodeRef.sortedOrdinal ++ asBytes nodeRef.idSha256) }

end A2aBridge.Workflow
