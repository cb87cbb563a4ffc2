import Mathlib.Logic.Basic

/-!
The bridge error of bridge-core/error.rs with what the workflow executor reads off it:
the client message, the timeout class and the cause recorded in a node terminal
(`NodeCauseV1::from_bridge_error` of bridge-core/execution_policy.rs). Of a failure
diagnostic the fields these functions read are kept; the payload of a budget refusal
and the retry evidence of an accounting failure are read by none of them.
-/

namespace A2aBridge.Workflow

inductive DiagnosticFailureClass where
  | config
  | authentication
  | model
  | protocol
  | transport
  | agentProcess
  | containerRuntime
  | containerImage
  | containerNetwork
  | containerMount
  | containerCredentials
  | timeout
  | overloaded
  | quotaExhausted
  | regionRestricted
  | billingFailure
  | rateLimited
  | providerLimit
  | persistence
  | canceled
  | unknown
  deriving DecidableEq

structure FailureDiagnostic where
  failureClass : DiagnosticFailureClass
  code : String
  summary : String
  causes : List String
  promptMayHaveBeenAccepted : Bool
  deriving DecidableEq

inductive BridgeError where
  | a2aVersionMismatch
  | invalidRequest (field : String)
  | identityUnavailable
  | durableEvidenceUnavailable (reason : String)
  | taskNotFound
  | sessionNotFound
  | configMismatch (field : String)
  | configReseedRequired (field : String)
  | boundSessionUnsupported
  | bindUnsupported
  | resourceFlightUnsupported
  | sessionExpired
  | handleBusy
  | authRequired (requestId : String)
  | permissionRequired (requestId : String)
  | permissionDenied
  | agentNotAuthenticated
  | modelNotAvailable
  | cancelTimeout
  | agentTimedOut
  | frameError
  | missingTerminal
  | messageTooLarge
  | emptyFinal
  | agentCrashed (reason : String)
  | agentFailure (diagnostic : FailureDiagnostic)
  | agentOverloaded
  | upstreamA2aError
  | budgetRefused
  | storeFailure
  | harvestAuditPersistFailed (auditId : String)
  | invalidStateTransition
  | unknownAgent (id : String)
  | configInvalid (reason : String)
  | taskSpecInvalid (message : String)
  deriving DecidableEq

namespace BridgeError

/-- The class and the static code that `from_bridge_error` gives an error without a
diagnostic of its own. -/
def staticCause : BridgeError → DiagnosticFailureClass × String
  | a2aVersionMismatch => (.protocol, "bridge.a2a_version_mismatch")
  | invalidRequest _ => (.config, "bridge.invalid_request")
  | identityUnavailable => (.persistence, "bridge.identity_unavailable")
  | durableEvidenceUnavailable _ => (.persistence, "bridge.durable_evidence_unavailable")
  | taskNotFound => (.config, "bridge.task_not_found")
  | sessionNotFound => (.unknown, "bridge.session_not_found")
  | configMismatch _ => (.config, "bridge.config_mismatch")
  | configReseedRequired _ => (.config, "bridge.config_reseed_required")
  | boundSessionUnsupported => (.config, "bridge.bound_session_unsupported")
  | bindUnsupported => (.config, "bridge.bind_unsupported")
  | resourceFlightUnsupported => (.config, "bridge.resource_flight_unsupported")
  | sessionExpired => (.unknown, "bridge.session_expired")
  | handleBusy => (.unknown, "bridge.handle_busy")
  | authRequired _ => (.authentication, "bridge.auth_required")
  | permissionRequired _ => (.config, "bridge.permission_required")
  | permissionDenied => (.config, "bridge.permission_denied")
  | agentNotAuthenticated => (.authentication, "bridge.agent_not_authenticated")
  | modelNotAvailable => (.model, "bridge.model_not_available")
  | cancelTimeout => (.timeout, "bridge.cancel_timeout")
  | agentTimedOut => (.timeout, "bridge.agent_timed_out")
  | frameError => (.transport, "bridge.frame_error")
  | missingTerminal => (.protocol, "bridge.missing_terminal")
  | messageTooLarge => (.protocol, "bridge.message_too_large")
  | emptyFinal => (.protocol, "bridge.empty_final")
  | agentCrashed _ => (.agentProcess, "bridge.agent_crashed")
  | agentFailure diagnostic => (diagnostic.failureClass, diagnostic.code)
  | agentOverloaded => (.overloaded, "bridge.agent_overloaded")
  | upstreamA2aError => (.transport, "bridge.upstream_a2a_error")
  | budgetRefused => (.config, "bridge.budget_refused")
  | storeFailure => (.persistence, "bridge.store_failure")
  | harvestAuditPersistFailed _ => (.persistence, "bridge.harvest_audit_persist_failed")
  | invalidStateTransition => (.protocol, "bridge.invalid_state_transition")
  | unknownAgent _ => (.config, "bridge.unknown_agent")
  | configInvalid _ => (.config, "bridge.config_invalid")
  | taskSpecInvalid _ => (.config, "bridge.task_spec_invalid")

/-- `client_message`: the `Display` text, with the reasons of agent crashes and of
invalid configurations withheld. -/
def clientMessage : BridgeError → String
  | a2aVersionMismatch => "a2a version mismatch"
  | invalidRequest field => "invalid request: " ++ field
  | identityUnavailable => "execution identity unavailable"
  | durableEvidenceUnavailable reason => "durable evidence unavailable: " ++ reason
  | taskNotFound => "task not found"
  | sessionNotFound => "session not found"
  | configMismatch field => "config mismatch: " ++ field
  | configReseedRequired field => "config reseed required: " ++ field
  | boundSessionUnsupported => "bound session configuration is unsupported"
  | bindUnsupported => "bound registry resolution is unsupported"
  | resourceFlightUnsupported => "retained resource flight is unsupported"
  | sessionExpired => "session expired"
  | handleBusy => "session busy"
  | authRequired _ => "auth required"
  | permissionRequired _ => "permission required"
  | permissionDenied => "permission denied"
  | agentNotAuthenticated => "agent not authenticated"
  | modelNotAvailable => "model not available"
  | cancelTimeout => "cancel timeout"
  | agentTimedOut => "agent timed out"
  | frameError => "frame error"
  | missingTerminal => "protocol missing terminal event"
  | messageTooLarge => "message too large"
  | emptyFinal => "empty final agent message"
  | agentCrashed _ => "agent crashed"
  | agentFailure _ => "agent crashed"
  | agentOverloaded => "agent overloaded"
  | upstreamA2aError => "upstream a2a error"
  | budgetRefused => "budget refused"
  | storeFailure => "store failure"
  | harvestAuditPersistFailed _ => "harvest_audit_persist_failed"
  | invalidStateTransition => "invalid state transition"
  | unknownAgent id => "unknown agent: " ++ id
  | configInvalid _ => "invalid config"
  | taskSpecInvalid message => message

def isTimeoutError : BridgeError → Bool
  | agentTimedOut | cancelTimeout => true
  | agentFailure diagnostic => diagnostic.failureClass == .timeout
  | _ => false

def isBudgetRefused : BridgeError → Bool
  | budgetRefused => true
  | _ => false

end BridgeError

def promptAcceptanceForTerminal : Option BridgeError → Bool
  | some (.agentFailure diagnostic) => diagnostic.promptMayHaveBeenAccepted
  | _ => false

/-- `AccountingFailureV1`: the original error and the store error that surfaces in its
place. -/
structure AccountingFailure where
  original : BridgeError
  persistence : Option BridgeError := none
  deriving DecidableEq

def AccountingFailure.of (original : BridgeError) : AccountingFailure := { original }

structure DependencySetRef where
  count : Nat
  sortedNodeRefsSha256 : String
  deriving DecidableEq

structure NodeCause where
  failureClass : DiagnosticFailureClass
  code : String
  deepestCause : Option String
  causeTruncated : Bool
  evidenceOverflow : Bool
  dependencySet : Option DependencySetRef
  deriving DecidableEq

namespace NodeCause

def skippedDependency (dependencySet : DependencySetRef) : NodeCause where
  failureClass := .unknown
  code := "workflow.skipped_dependency"
  deepestCause := none
  causeTruncated := false
  evidenceOverflow := false
  dependencySet := some dependencySet

/-- A diagnostic gives its deepest cause, else its summary; any other error gives its
client message unless that is empty. -/
def fromBridgeError (error : BridgeError) : NodeCause where
  failureClass := error.staticCause.1
  code := error.staticCause.2
  deepestCause :=
    match error with
    | .agentFailure diagnostic => some (diagnostic.causes.getLast?.getD diagnostic.summary)
    | other => if other.clientMessage = "" then none else some other.clientMessage
  causeTruncated := false
  evidenceOverflow := false
  dependencySet := none

end NodeCause

end A2aBridge.Workflow
