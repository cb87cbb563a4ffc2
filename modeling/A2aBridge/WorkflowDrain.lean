import A2aBridge.StatefulRefusal
import A2aBridge.WorkflowRuns

/-!
The drain of a workflow's stream into a sink, of bridge-coordinator/detached.rs. A stream is the
list of the items it yields before it ends, and a sink keeps a state that its calls change. The
selection of a started node is left out.
-/

namespace A2aBridge.Workflow

open StatefulRefusal

structure WorkflowSink (Sink : Type) where
  nodeStartedWithSelection : NodeId → EStateM BridgeError Sink Unit
  nodeFinished : NodeId → Bool → String → Option UsageSnapshot → Option String → Option String →
    Option PolicyTriggerBarrierResult → EStateM BridgeError Sink Unit
  cleanupObserved : WorkflowCleanupDisposition → Nat → EStateM BridgeError Sink Unit
  terminal : WorkflowOutcome → String → EStateM BridgeError Sink Unit
  error : BridgeError → EStateM BridgeError Sink Unit

abbrev StreamItem := Except BridgeError WorkflowEvent

def StreamItem.isTerminal : StreamItem → Bool
  | .ok (.terminal _ _) => true
  | _ => false

/-- Where a drain stands; `cancels` counts the calls of `cancel`. -/
structure Drain (Sink : Type) where
  sink : Sink
  terminalSeen : Bool
  firstError : Option BridgeError
  cancels : Nat

variable {Sink : Type} (sink : WorkflowSink Sink)

def WorkflowSink.deliver : StreamItem → EStateM BridgeError Sink Unit
  | .ok (.nodeStarted node) => sink.nodeStartedWithSelection node
  | .ok (.nodeFinished node ok output usage terminalJson policyTriggerJson barrierResult) =>
    sink.nodeFinished node ok output usage terminalJson policyTriggerJson barrierResult
  | .ok (.cleanupObserved disposition durationMs) => sink.cleanupObserved disposition durationMs
  | .ok (.terminal outcome output) => sink.terminal outcome output
  | .error error => sink.error error

/-- The answer, where the drain stands then, and what the stream still holds. -/
def drainWorkflowInner (cancelOnError : Bool) :
    List StreamItem → Drain Sink → Except BridgeError Bool × Drain Sink × List StreamItem
  | [], drain =>
    match drain.firstError with
    | some error => (.error error, drain, [])
    | none => (.ok drain.terminalSeen, drain, [])
  | item :: rest, drain =>
    if drain.firstError.isSome then drainWorkflowInner cancelOnError rest drain
    else
      match sink.deliver item drain.sink with
      | .ok () state =>
        drainWorkflowInner cancelOnError rest { drain with
          sink := state
          terminalSeen := drain.terminalSeen || item.isTerminal }
      | .error error state =>
        if cancelOnError then
          drainWorkflowInner cancelOnError rest { drain with
            sink := state
            firstError := some error
            cancels := drain.cancels + 1 }
        else (.error error, { drain with sink := state }, rest)

variable (items : List StreamItem)

theorem drain_failed {drain : Drain Sink} {error : BridgeError}
    (failed : drain.firstError = some error) :
    drainWorkflowInner sink true items drain = (.error error, drain, []) := by
  induction items with
  | nil => simp [drainWorkflowInner, failed]
  | cons item rest ih => simpa [drainWorkflowInner, failed] using ih

/-- A drain with a token delivers the items in order up to the first one that the sink refuses.
If there is none, the answer says whether a terminal event was among them. Otherwise the sink
stays as that call left it, the token is cancelled once, and the error of that call is returned
when the stream has ended. -/
theorem drain_returns_first_error (start : Sink) (seen : Bool) (cancels : Nat) :
    match items.forM sink.deliver start with
    | .ok () state => drainWorkflowInner sink true items ⟨start, seen, none, cancels⟩ =
        (.ok (seen || items.any (·.isTerminal)),
          ⟨state, seen || items.any (·.isTerminal), none, cancels⟩, [])
    | .error error state =>
      ∃ last, drainWorkflowInner sink true items ⟨start, seen, none, cancels⟩ =
        (.error error, ⟨state, last, some error, cancels + 1⟩, []) := by
  induction items generalizing start seen with
  | nil => simp [drainWorkflowInner, pure, EStateM.pure]
  | cons item rest ih =>
    rw [List.forM_eq_forM, List.forM_cons]
    cases called : sink.deliver item start with
    | ok answer state =>
      rw [bind_of_ok called]
      simpa [drainWorkflowInner, called, Bool.or_assoc] using ih state (seen || item.isTerminal)
    | error error state =>
      rw [bind_of_error called]
      exact ⟨seen, by simp [drainWorkflowInner, called, drain_failed]⟩

end A2aBridge.Workflow
