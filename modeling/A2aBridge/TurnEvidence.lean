import A2aBridge.ByteText
import A2aBridge.TaskSpecs

/-!
The evidence consumer of one turn, bridge-core/terminal_evidence.rs: an adapter declares what it
can attest and offers envelopes, and the owner of the attempt reads one observation. Every call
locks the one consumer of a turn, so that a history is a list of calls. A mutex that a panic has
poisoned is left out.
-/

namespace A2aBridge.Evidence

open ByteText
open Workflow (isAsciiAlphanumeric)

def TURN_EVIDENCE_VERSION : String := "a2a_bridge.turn_evidence.v1"
def MAX_CORRELATION_LEN : Nat := 128
def MAX_NATIVE_TURN_LEN : Nat := 128

inductive EvidenceCapability where
  | unsupported
  | malformedAdvertisement
  | v1
  deriving DecidableEq

inductive ProducerTerminal where
  | unknown
  | completed
  | interrupted
  | failed
  deriving DecidableEq

inductive FinalPresence where
  | unknown
  | nonempty
  | absent
  deriving DecidableEq

inductive EvidenceCompleteness where
  | unsupported
  | complete
  | missing
  | malformed
  | mismatched
  | late
  | conflict
  deriving DecidableEq

/-- The bytes the source allows are ASCII, and no byte of another character is. -/
def bounded (value : String) (max : Nat) : Bool :=
  value ≠ "" && (asBytes value).length ≤ max &&
    value.toList.all fun c => isAsciiAlphanumeric c || ['_', '-', '.', ':'].contains c

def boundedCorrelation (value : String) : Bool := bounded value MAX_CORRELATION_LEN

structure TurnEvidenceBinding where
  generation : Nat
  sessionId : String
  turnId : String
  attemptId : String
  markerNonce : String
  deriving DecidableEq

def TurnEvidenceBinding.validate (binding : TurnEvidenceBinding) : Bool :=
  0 < binding.generation &&
    [binding.sessionId, binding.turnId, binding.attemptId, binding.markerNonce].all
      boundedCorrelation

/-- The fields of a binding stand among the envelope's own. -/
structure TurnEvidenceEnvelope extends TurnEvidenceBinding where
  version : String
  nativeTurnId : String
  sequence : Nat
  producer : ProducerTerminal
  finalPresence : FinalPresence
  orderedNotificationsDrained : Bool
  complete : Bool
  deriving DecidableEq

namespace TurnEvidenceEnvelope

variable (envelope : TurnEvidenceEnvelope)

def intrinsicallyValid : Bool :=
  envelope.version = TURN_EVIDENCE_VERSION && envelope.toTurnEvidenceBinding.validate &&
    0 < envelope.sequence && bounded envelope.nativeTurnId MAX_NATIVE_TURN_LEN && envelope.complete

def validatesFor (binding : TurnEvidenceBinding) : Bool :=
  binding.validate && envelope.intrinsicallyValid && envelope.toTurnEvidenceBinding = binding

/-- Why an envelope that does not validate is refused. -/
def refusal : EvidenceCompleteness :=
  if envelope.intrinsicallyValid then .mismatched else .malformed

end TurnEvidenceEnvelope

inductive EvidenceAcceptance where
  | accepted
  | identicalReplay
  | rejected (disposition : EvidenceCompleteness)
  deriving DecidableEq

structure TurnEvidenceConsumer where
  capability : EvidenceCapability
  declaration : Option EvidenceCapability
  binding : Option TurnEvidenceBinding
  accepted : Option TurnEvidenceEnvelope
  sticky : Option EvidenceCompleteness
  closed : Bool
  deriving DecidableEq

structure Observation where
  completeness : EvidenceCompleteness
  producer : ProducerTerminal
  finalPresence : FinalPresence
  drained : Bool
  deriving DecidableEq

namespace TurnEvidenceConsumer

/-- `unsupported` without a binding, `dormant` with one. -/
def fresh (binding : Option TurnEvidenceBinding) : TurnEvidenceConsumer :=
  ⟨.unsupported, none, binding, none, none, false⟩

variable (consumer : TurnEvidenceConsumer)

def prepareBinding (binding : TurnEvidenceBinding) : TurnEvidenceConsumer :=
  if consumer.closed || consumer.accepted.isSome || consumer.sticky.isSome ||
      consumer.declaration.isSome then consumer
  else
    match consumer.binding with
    | none => { consumer with binding := some binding }
    | some existing =>
      if existing = binding then consumer
      else { consumer with capability := .v1, sticky := some .conflict }

def declareCapability (declaration : EvidenceCapability) : TurnEvidenceConsumer :=
  if consumer.closed then consumer
  else
    match consumer.declaration with
    | some prior =>
      if prior = declaration then consumer
      else { consumer with capability := .v1, sticky := consumer.sticky.or (some .conflict) }
    | none =>
      let declared := { consumer with declaration := some declaration }
      match declaration with
      | .unsupported => { declared with capability := .unsupported }
      | .malformedAdvertisement =>
        { declared with capability := .v1, sticky := consumer.sticky.or (some .malformed) }
      | .v1 =>
        if consumer.binding.any TurnEvidenceBinding.validate then
          { declared with capability := .v1 }
        else { declared with capability := .v1, sticky := consumer.sticky.or (some .malformed) }

def accept (envelope : TurnEvidenceEnvelope) : EvidenceAcceptance × TurnEvidenceConsumer :=
  if consumer.capability ≠ .v1 then (.rejected .unsupported, consumer)
  else if consumer.closed then
    match consumer.sticky.filter (· ≠ .missing), consumer.binding with
    | some sticky, _ => (.rejected sticky, consumer)
    | none, none => (.rejected .malformed, consumer)
    | none, some binding =>
      (.rejected (if envelope.validatesFor binding then .late else envelope.refusal), consumer)
  else
    match consumer.sticky, consumer.binding with
    | some sticky, _ => (.rejected sticky, consumer)
    | none, none => (.rejected .malformed, { consumer with sticky := some .malformed })
    | none, some binding =>
      if envelope.validatesFor binding then
        match consumer.accepted with
        | none => (.accepted, { consumer with accepted := some envelope })
        | some prior =>
          if prior = envelope then (.identicalReplay, consumer)
          else (.rejected .conflict, { consumer with sticky := some .conflict })
      else (.rejected envelope.refusal, { consumer with sticky := some envelope.refusal })

def reject (disposition : EvidenceCompleteness) : TurnEvidenceConsumer :=
  if consumer.capability = .v1 && !consumer.closed && consumer.sticky.isNone then
    { consumer with sticky := some disposition }
  else consumer

def close : TurnEvidenceConsumer :=
  if consumer.capability = .v1 && consumer.accepted.isNone && consumer.sticky.isNone then
    { consumer with closed := true, sticky := some .missing }
  else { consumer with closed := true }

def observation : Observation :=
  if consumer.capability = .unsupported then ⟨.unsupported, .unknown, .unknown, false⟩
  else
    match consumer.sticky, consumer.accepted with
    | some sticky, _ => ⟨sticky, .unknown, .unknown, false⟩
    | none, none => ⟨.missing, .unknown, .unknown, false⟩
    | none, some value =>
      let finalPresence :=
        if value.finalPresence = .absent &&
            (value.producer ≠ .completed || !value.orderedNotificationsDrained) then .unknown
        else value.finalPresence
      ⟨.complete, value.producer, finalPresence, value.orderedNotificationsDrained⟩

end TurnEvidenceConsumer

/-! ### Histories of calls -/

inductive EvidenceCall where
  | prepareBinding (binding : TurnEvidenceBinding)
  | declareCapability (declaration : EvidenceCapability)
  | accept (envelope : TurnEvidenceEnvelope)
  | reject (disposition : EvidenceCompleteness)
  | close
  deriving DecidableEq

namespace TurnEvidenceConsumer

variable (consumer : TurnEvidenceConsumer)

def call : EvidenceCall → TurnEvidenceConsumer
  | .prepareBinding binding => consumer.prepareBinding binding
  | .declareCapability declaration => consumer.declareCapability declaration
  | .accept envelope => (consumer.accept envelope).2
  | .reject disposition => consumer.reject disposition
  | .close => consumer.close

def after (calls : List EvidenceCall) : TurnEvidenceConsumer :=
  calls.foldl call consumer

/-- A consumer that has refused a binding before any declaration is not told that the adapter
attests nothing. -/
def Permits (call : EvidenceCall) : Prop :=
  call = .declareCapability .unsupported → consumer.sticky = none ∨ consumer.declaration ≠ none

def PermitsAll (consumer : TurnEvidenceConsumer) : List EvidenceCall → Prop
  | [] => True
  | call :: rest => consumer.Permits call ∧ (consumer.call call).PermitsAll rest

variable {consumer} {calls : List EvidenceCall}
  {disposition : EvidenceCompleteness} {binding : TurnEvidenceBinding}

/-! ### A refusal stays -/

theorem call_refused (refused : consumer.sticky = some disposition) (request : EvidenceCall) :
    (consumer.call request).sticky = some disposition ∧
      (consumer.Permits request → consumer.capability ≠ .unsupported →
        (consumer.call request).capability ≠ .unsupported) := by
  cases request with
  | declareCapability declaration =>
    simp only [call, declareCapability, Permits]
    repeat' split
    all_goals simp_all
  | accept envelope =>
    simp only [call, accept]
    repeat' split
    all_goals simp_all
  | _ => simp [call, prepareBinding, reject, close, refused]

theorem after_refused (refused : consumer.sticky = some disposition)
    (declared : consumer.capability ≠ .unsupported) (permitted : consumer.PermitsAll calls) :
    (consumer.after calls).observation.completeness = disposition := by
  induction calls generalizing consumer with
  | nil => simp [after, observation, refused, declared]
  | cons request rest ih =>
    obtain ⟨stays, keeps⟩ := call_refused refused request
    exact ih stays (keeps permitted.1 declared) permitted.2

/-! ### A closed consumer -/

/-- The consumer is closed, and an adapter that had declared itself was found missing. -/
def Sealed (consumer : TurnEvidenceConsumer) : Prop :=
  consumer.closed = true ∧
    (consumer.capability = .v1 → consumer.accepted = none → consumer.sticky ≠ none)

theorem close_sealed : consumer.close.Sealed := by
  unfold close Sealed
  split <;> simp_all

theorem Sealed.fixed (isSealed : consumer.Sealed) : consumer.after calls = consumer := by
  obtain ⟨closed, missing⟩ := isSealed
  induction calls with
  | nil => rfl
  | cons request rest ih =>
    have same : consumer.call request = consumer := by
      cases request with
      | accept envelope =>
        simp only [call, accept, closed, if_true]
        repeat' split
        all_goals rfl
      | close =>
        obtain ⟨capability, _, _, accepted, sticky, _⟩ := consumer
        simp_all [call, close]
      | _ => simp [call, prepareBinding, declareCapability, reject, closed]
    change (consumer.call request).after rest = consumer
    rw [same, ih]

theorem closed_after (closes : .close ∈ calls) : (consumer.after calls).Sealed := by
  obtain ⟨before, rest, rfl⟩ := List.append_of_mem closes
  simp only [after, List.foldl_append, List.foldl_cons]
  change ((consumer.after before).close.after rest).Sealed
  rw [close_sealed.fixed]
  exact close_sealed

/-! ### A complete observation -/

def Complete (consumer : TurnEvidenceConsumer) : Prop :=
  consumer.observation.completeness = .complete

theorem close_complete : (consumer.close.after calls).Complete ↔ consumer.Complete := by
  rw [close_sealed.fixed]
  obtain ⟨capability, _, _, accepted, sticky, _⟩ := consumer
  cases capability <;> cases accepted <;> cases sticky <;> simp [close, Complete, observation]

/-- Nothing can be attested any more. -/
def Spoiled (consumer : TurnEvidenceConsumer) : Prop :=
  (∃ disposition, consumer.sticky = some disposition ∧ disposition ≠ .complete) ∨
    consumer.sticky = none ∧ consumer.declaration = some .unsupported ∧
      consumer.capability = .unsupported

theorem Spoiled.stays (spoiled : consumer.Spoiled) (request : EvidenceCall) :
    (consumer.call request).Spoiled := by
  rcases spoiled with ⟨disposition, refused, partly⟩ | ⟨clean, declared, unsupported⟩
  · exact .inl ⟨disposition, (call_refused refused request).1, partly⟩
  · obtain ⟨_, _, binding, accepted, _, closed⟩ := consumer
    subst clean declared unsupported
    cases request with
    | declareCapability declaration =>
      cases closed <;> cases declaration <;>
        simp [call, declareCapability, Spoiled]
    | _ =>
      simp [call, prepareBinding, accept, reject, close, Spoiled]

theorem Spoiled.not_complete (spoiled : consumer.Spoiled) : ¬(consumer.after calls).Complete := by
  induction calls generalizing consumer with
  | nil =>
    rcases spoiled with ⟨disposition, refused, partly⟩ | ⟨_, _, unsupported⟩
    · by_cases none : consumer.capability = .unsupported <;>
        simp [after, Complete, observation, none, refused, partly]
    · simp [after, Complete, observation, unsupported]
  | cons request rest ih => exact ih (spoiled.stays request)

/-- What an adapter does that has declared version 1: until the turn is closed it declares nothing
else, nothing is rejected, and every envelope is valid and the same as the first, of which there
is one. -/
def Attests (binding : TurnEvidenceBinding) :
    Option TurnEvidenceEnvelope → List EvidenceCall → Prop
  | first, [] | first, .close :: _ => first ≠ none
  | first, .declareCapability declaration :: rest => declaration = .v1 ∧ Attests binding first rest
  | first, .accept envelope :: rest =>
    envelope.validatesFor binding = true ∧ (∀ prior ∈ first, prior = envelope) ∧
      Attests binding (some envelope) rest
  | _, .reject _ :: _ => False
  | first, .prepareBinding _ :: rest => Attests binding first rest

/-- The same for one that has declared nothing yet: all bindings prepared for it are one valid
binding, and version 1 is declared first. -/
def Witnessed : Option TurnEvidenceBinding → List EvidenceCall → Prop
  | _, [] | _, .close :: _ => False
  | prepared, .prepareBinding binding :: rest =>
    (∀ other ∈ prepared, other = binding) ∧ Witnessed (some binding) rest
  | prepared, .declareCapability declaration :: rest =>
    declaration = .v1 ∧ ∃ binding ∈ prepared, binding.validate = true ∧ Attests binding none rest
  | prepared, .accept _ :: rest | prepared, .reject _ :: rest => Witnessed prepared rest

def live (binding : TurnEvidenceBinding) (accepted : Option TurnEvidenceEnvelope) :
    TurnEvidenceConsumer :=
  ⟨.v1, some .v1, some binding, accepted, none, false⟩

theorem live_complete {accepted : Option TurnEvidenceEnvelope}
    (refuses : .reject .complete ∉ calls) :
    ((live binding accepted).after calls).Complete ↔ Attests binding accepted calls := by
  induction calls generalizing accepted with
  | nil => cases accepted <;> simp [after, live, Complete, observation, Attests]
  | cons request rest ih =>
    rw [List.mem_cons, not_or] at refuses
    have step {next} := @ih next refuses.2
    change (((live binding accepted).call request).after rest).Complete ↔ _
    cases request with
    | prepareBinding other =>
      simpa [call, prepareBinding, live, Attests] using @step accepted
    | declareCapability declaration =>
      by_cases first : declaration = .v1
      · simpa [call, declareCapability, live, Attests, first] using @step accepted
      · refine iff_of_false (Spoiled.not_complete ?_) fun attests => first attests.1
        simp [call, declareCapability, live, Ne.symm first, Spoiled]
    | accept envelope =>
      by_cases valid : envelope.validatesFor binding = true
      · by_cases same : ∀ prior ∈ accepted, prior = envelope
        · have taken : (live binding accepted).call (.accept envelope) =
              live binding (some envelope) := by
            cases accepted <;> simp_all [call, accept, live]
          rw [taken, step]
          exact ⟨fun attests => ⟨valid, same, attests⟩, fun attests => attests.2.2⟩
        · refine iff_of_false (Spoiled.not_complete ?_) fun attests => same attests.2.1
          cases accepted <;> simp_all [call, accept, live, Spoiled]
      · refine iff_of_false (Spoiled.not_complete (.inl ⟨envelope.refusal, ?_, ?_⟩))
          fun attests => valid attests.1
        · simp [call, accept, live, valid]
        · unfold TurnEvidenceEnvelope.refusal
          split <;> simp
    | reject disposition =>
      refine iff_of_false (Spoiled.not_complete (.inl ⟨disposition, ?_, ?_⟩)) id
      · simp [call, reject, live]
      · exact fun same => refuses.1 (same ▸ rfl)
    | close =>
      refine close_complete.trans ?_
      cases accepted <;> simp [live, Complete, observation, Attests]

theorem fresh_complete {prepared : Option TurnEvidenceBinding}
    (refuses : .reject .complete ∉ calls) :
    ((fresh prepared).after calls).Complete ↔ Witnessed prepared calls := by
  induction calls generalizing prepared with
  | nil => simp [after, fresh, Complete, observation, Witnessed]
  | cons request rest ih =>
    rw [List.mem_cons, not_or] at refuses
    have step {next} := @ih next refuses.2
    change (((fresh prepared).call request).after rest).Complete ↔ _
    cases request with
    | prepareBinding binding =>
      by_cases same : ∀ other ∈ prepared, other = binding
      · have bound : (fresh prepared).call (.prepareBinding binding) = fresh (some binding) := by
          cases prepared <;> simp_all [call, prepareBinding, fresh]
        rw [bound, step]
        exact ⟨fun witnessed => ⟨same, witnessed⟩, And.right⟩
      · refine iff_of_false (Spoiled.not_complete ?_) fun witnessed => same witnessed.1
        cases prepared <;> simp_all [call, prepareBinding, fresh, Spoiled]
    | declareCapability declaration =>
      by_cases first : declaration = .v1 ∧ ∃ binding ∈ prepared, binding.validate = true
      · obtain ⟨rfl, binding, rfl, valid⟩ := first
        have declared : (fresh (some binding)).call (.declareCapability .v1) = live binding none := by
          simp [call, declareCapability, fresh, live, valid]
        rw [declared, live_complete refuses.2]
        simp [Witnessed, valid]
      · refine iff_of_false (Spoiled.not_complete ?_) ?_
        · cases declaration <;> cases prepared <;>
            simp_all [call, declareCapability, fresh, Spoiled]
        · rintro ⟨named, binding, known, valid, _⟩
          exact first ⟨named, binding, known, valid⟩
    | close => exact close_complete.trans (by simp [fresh, Complete, observation, Witnessed])
    | _ => exact step

end TurnEvidenceConsumer

open TurnEvidenceConsumer

theorem turn_evidence_sticky (prepared : Option TurnEvidenceBinding)
    (calls later : List EvidenceCall) :
    let before := (fresh prepared).after calls
    let now := before.after later
    ((before.observation.completeness = .malformed ∨ before.observation.completeness = .mismatched ∨
        before.observation.completeness = .conflict) → before.PermitsAll later →
      now.observation.completeness = before.observation.completeness) ∧
    (.close ∈ calls → now.observation = before.observation) ∧
    (.reject .complete ∉ calls →
      (before.observation.completeness = .complete ↔ Witnessed prepared calls)) ∧
    (∀ envelope ∈ before.accepted, envelope.finalPresence = .absent →
      (envelope.producer ≠ .completed ∨ envelope.orderedNotificationsDrained = false) →
      before.observation.finalPresence = .unknown) ∧
    (before.observation.finalPresence = .absent →
      before.observation.producer = .completed ∧ before.observation.drained = true) := by
  refine ⟨fun refused permitted => ?_, fun closes => ?_, fresh_complete, ?_, ?_⟩
  · have sticky : ((fresh prepared).after calls).sticky =
        some ((fresh prepared).after calls).observation.completeness ∧
        ((fresh prepared).after calls).capability ≠ .unsupported := by
      revert refused
      unfold observation
      repeat' split
      all_goals simp_all
    exact after_refused sticky.1 sticky.2 permitted
  · rw [(closed_after closes).fixed]
  · intro envelope accepted absent unproven
    unfold observation
    rw [accepted]
    repeat' split
    all_goals simp_all
  · unfold observation
    repeat' split
    all_goals simp_all

def sampleBinding (turn : String) : TurnEvidenceBinding := ⟨1, "s", turn, "a", "n"⟩

/-- A second binding is refused, and the declaration behind it takes the refusal back. -/
theorem unsupported_declaration_repairs_conflict :
    let refused := (fresh (some (sampleBinding "t"))).call (.prepareBinding (sampleBinding "u"))
    refused.observation.completeness = .conflict ∧
      (refused.call (.declareCapability .unsupported)).observation.completeness = .unsupported := by
  decide

end A2aBridge.Evidence
