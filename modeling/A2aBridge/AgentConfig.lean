import Mathlib.Logic.Basic

/-!
What bridge-core/domain.rs says of an agent and several parts of the bridge read: its kind, how
it mounts and is served, and the configuration that an override replaces. A text is a `String`
where its length does not matter.
-/

namespace A2aBridge

inductive AgentKind where
  | acp
  | api
  | containerRw
  deriving DecidableEq, Inhabited

inductive Effort where
  | minimal
  | low
  | medium
  | high
  | xhigh
  | max
  deriving DecidableEq

inductive MountAccess where
  | ro
  | rw
  deriving DecidableEq

inductive McpDelivery where
  | acp
  | codexNative
  | kiroNative
  deriving DecidableEq, Inhabited

structure AgentOverride (Text : Type := String) where
  model : Option Text
  effort : Option Effort
  mode : Option Text
  deriving DecidableEq

@[ext] structure EffectiveConfig (Text : Type := String) where
  model : Option Text
  effort : Option Effort
  mode : Option Text
  deriving DecidableEq

/-- `effective_config`: an override replaces what the registry entry says. -/
def effectiveConfig {Text : Type} (entry : EffectiveConfig Text) :
    Option (AgentOverride Text) → EffectiveConfig Text
  | none => entry
  | some given =>
    { model := given.model.or entry.model
      effort := given.effort.or entry.effort
      mode := given.mode.or entry.mode }

end A2aBridge
