import A2aBridge.AgentConfig
import A2aBridge.ByteText
import A2aBridge.PrefixCodes

/-!
The byte strings that bridge-core/execution_policy.rs hashes for the frozen identity of a node's
execution: the checkout, the provider selection, the delivered servers, the provider effect, the
provider attempt and the node identity. A text of the source is no longer than a `u64` can say,
and so is a list. Nothing is said about the hash here: a digest that goes into another byte
string is any text, and of an agent entry the fields these functions read are kept.
-/

namespace A2aBridge.Fingerprints

open ByteText
open PrefixCodes

/-! ### Frozen inputs -/

abbrev Text := { text : String // (asBytes text).length < 256 ^ 8 }

abbrev Seq (α : Type) := { items : List α // items.length < 256 ^ 8 }

structure Duration where
  secs : UInt64
  subsecNanos : Nat
  valid : subsecNanos < 1000000000

def Duration.asMillis (duration : Duration) : Nat :=
  duration.secs.toNat * 1000 + duration.subsecNanos / 1000000

def Duration.WholeMillis (duration : Duration) : Prop := duration.subsecNanos % 1000000 = 0

inductive EgressPolicy where
  | locked (network proxy : Text) (noProxy : Option Text)
  | «open»

structure SandboxConfig where
  runtime : Option Text
  image : Text
  mount : Text
  access : MountAccess
  egress : EgressPolicy
  volumes : Seq Text

structure WatchdogConfig where
  idleTimeout : Duration
  hardWallClock : Duration

inductive LivenessOverride where
  | off
  | ms (ms : UInt64)
  deriving DecidableEq

structure AgentLivenessConfig where
  silenceCutoff : Option LivenessOverride
  workCutoff : Option LivenessOverride
  deriving DecidableEq

inductive McpEnvValueSource where
  | publicLiteral (value : Text)
  | secretFromEnv («variable» resolved : Text)

structure McpServerSpec where
  name : Text
  command : Text
  args : Seq Text
  env : Seq (Text × McpEnvValueSource)

structure AgentEntry where
  id : Text
  cmd : Option Text
  baseUrl : Option Text
  apiKeyEnv : Option Text
  args : Seq Text
  kind : AgentKind
  model : Option Text
  effort : Option Effort
  mode : Option Text
  preflight : Bool
  fallbackModels : Seq Text
  cwd : Option Text
  sessionCwd : Option Text
  sandbox : Option SandboxConfig
  watchdog : Option WatchdogConfig
  liveness : Option AgentLivenessConfig
  mcp : Seq McpServerSpec
  mcpDelivery : McpDelivery
  authMethod : Option Text
  preAuthenticated : Bool
  renameNewSessions : Bool

variable (entry : AgentEntry)

def AgentEntry.config : EffectiveConfig Text := ⟨entry.model, entry.effort, entry.mode⟩

structure PolicyNodeRef where
  sortedOrdinal : UInt32
  idSha256 : Text

inductive LogicalSession where
  | preflight (candidateOrdinal : UInt16)
  | execute (candidateOrdinal : UInt16)
  deriving DecidableEq

def LogicalSession.tag : LogicalSession → String × UInt16
  | preflight candidateOrdinal => ("preflight", candidateOrdinal)
  | execute candidateOrdinal => ("execute", candidateOrdinal)

inductive FrozenCheckoutEffect where
  | direct (sourceCwd effectiveCwd : Text)
  | worktree (sourceCwd canonicalSourceCwd canonicalWorktreeRoot worktreeOwner targetCwd
      checkoutDigest : Text)

def FrozenCheckoutEffect.effectiveCwd : FrozenCheckoutEffect → Text
  | direct _ effectiveCwd => effectiveCwd
  | worktree _ _ _ _ targetCwd _ => targetCwd

structure WorktreeCheckoutInput where
  attemptId : Text
  node : PolicyNodeRef
  logicalSession : LogicalSession
  sourceCwd : Text
  canonicalSourceCwd : Text
  canonicalWorktreeRoot : Text
  worktreeOwner : Text

inductive BoundMcpDeliveryPayload where
  | acp (servers : Seq McpServerSpec)
  | codexNative (args : Seq Text)
  | kiroNative (agentName json : Text)

/-! ### Encoders -/

def pushBytes (value : List UInt8) : List UInt8 := beBytes 8 value.length ++ value

def pushText (value : Text) : List UInt8 := pushBytes (asBytes value.1)

/-- A domain or a token of the source's own. -/
def pushTag (tag : String) : List UInt8 := pushBytes (asBytes tag)

def pushOption : Option Text → List UInt8
  | some value => 1 :: pushText value
  | none => [0]

def pushBool (value : Bool) : List UInt8 := [if value then 1 else 0]

def pushSeq {α : Type} (push : α → List UInt8) (items : Seq α) : List UInt8 :=
  beBytes 8 items.1.length ++ items.1.flatMap push

variable (node : PolicyNodeRef)

def pushNode : List UInt8 :=
  beBytes 4 node.sortedOrdinal.toNat ++ pushText node.idSha256

def pushSession (session : LogicalSession) : List UInt8 :=
  pushTag session.tag.1 ++ beBytes 2 session.tag.2.toNat

def effortToken : Effort → String
  | .minimal => "minimal"
  | .low => "low"
  | .medium => "medium"
  | .high => "high"
  | .xhigh => "xhigh"
  | .max => "max"

def agentKindToken : AgentKind → String
  | .acp => "acp"
  | .api => "api"
  | .containerRw => "container_rw"

def mcpDeliveryToken : McpDelivery → String
  | .acp => "acp"
  | .codexNative => "codex_native"
  | .kiroNative => "kiro_native"

def mountAccessToken : MountAccess → String
  | .ro => "ro"
  | .rw => "rw"

/-- `push_option` of an effort token. -/
def pushEffort : Option Effort → List UInt8
  | some effort => 1 :: pushTag (effortToken effort)
  | none => [0]

namespace McpEnvValueSource

def sourceKind : McpEnvValueSource → String
  | publicLiteral _ => "public_literal"
  | secretFromEnv .. => "secret_from_env"

def sourceName : McpEnvValueSource → Option Text
  | publicLiteral _ => none
  | secretFromEnv «variable» _ => some «variable»

def resolvedValue : McpEnvValueSource → Text
  | publicLiteral value => value
  | secretFromEnv _ resolved => resolved

end McpEnvValueSource

def encodeEnv (pair : Text × McpEnvValueSource) : List UInt8 :=
  pushText pair.1 ++ (pushTag pair.2.sourceKind ++
    (pushOption pair.2.sourceName ++ pushText pair.2.resolvedValue))

def encodeServer (server : McpServerSpec) : List UInt8 :=
  pushText server.name ++ (pushText server.command ++
    (pushSeq pushText server.args ++ pushSeq encodeEnv server.env))

def encodeServers (servers : Seq McpServerSpec) : List UInt8 := pushSeq encodeServer servers

def encodeEgress : EgressPolicy → List UInt8
  | .locked network proxy noProxy =>
    pushTag "locked" ++ (pushText network ++ (pushText proxy ++ pushOption noProxy))
  | .open => pushTag "open"

def encodeSandbox : Option SandboxConfig → List UInt8
  | none => [0]
  | some sandbox =>
    1 :: (pushOption sandbox.runtime ++ (pushText sandbox.image ++ (pushText sandbox.mount ++
      (pushTag (mountAccessToken sandbox.access) ++ (encodeEgress sandbox.egress ++
        pushSeq pushText sandbox.volumes)))))

def encodeWatchdog : Option WatchdogConfig → List UInt8
  | none => [0]
  | some watchdog =>
    1 :: (beBytes 16 watchdog.idleTimeout.asMillis ++ beBytes 16 watchdog.hardWallClock.asMillis)

def encodeCheckout : FrozenCheckoutEffect → List UInt8
  | .direct sourceCwd effectiveCwd =>
    pushTag "direct" ++ (pushText sourceCwd ++ pushText effectiveCwd)
  | .worktree sourceCwd canonicalSourceCwd canonicalWorktreeRoot worktreeOwner targetCwd digest =>
    pushTag "worktree" ++ (pushText sourceCwd ++ (pushText canonicalSourceCwd ++
      (pushText canonicalWorktreeRoot ++ (pushText worktreeOwner ++ (pushText targetCwd ++
        pushText digest)))))

def encodeLivenessOverride : Option LivenessOverride → List UInt8
  | none => [0]
  | some .off => [1]
  | some (.ms ms) => 2 :: beBytes 8 ms.toNat

/-- The trailing fields, encoded only when the entry sets them. -/
def encodeTrailing (renameNewSessions : Bool) (liveness : Option AgentLivenessConfig) :
    List UInt8 :=
  (if renameNewSessions then pushTag "rename_new_sessions" else []) ++
    match liveness with
    | some liveness =>
      pushTag "liveness" ++ (encodeLivenessOverride liveness.silenceCutoff ++
        encodeLivenessOverride liveness.workCutoff)
    | none => []

/-! ### The byte strings that are hashed -/

/-- The input of the digest, and of the authentication code where an entry bears secrets. -/
def secretSilentPreimage (domain : String) (value : List UInt8) : List UInt8 :=
  pushTag domain ++ pushBytes value

def CHECKOUT_EFFECT_SCHEMA_V1 : Nat := 1

def checkoutPreimage (input : WorktreeCheckoutInput) : List UInt8 :=
  pushTag "a2a-bridge/frozen-worktree-target/v1" ++ (beBytes 2 CHECKOUT_EFFECT_SCHEMA_V1 ++
    (pushText input.attemptId ++ (pushNode input.node ++ (pushSession input.logicalSession ++
      (pushText input.sourceCwd ++ (pushText input.canonicalSourceCwd ++
        (pushText input.canonicalWorktreeRoot ++ pushText input.worktreeOwner)))))))

/-- The second digest of a checkout also covers the target it was given. -/
def committedCheckoutPreimage (input : WorktreeCheckoutInput) (targetCwd : Text) : List UInt8 :=
  checkoutPreimage input ++ pushText targetCwd

variable (overrides : Option (AgentOverride Text))

def selectionPreimage : List UInt8 :=
  let effective := effectiveConfig entry.config overrides
  pushTag "a2a-bridge/provider-selection/v1" ++ (pushText entry.id ++ (pushBool entry.preflight ++
    (pushOption effective.model ++ (pushSeq pushText entry.fallbackModels ++
      (pushEffort effective.effort ++ pushOption effective.mode)))))

def mcpSourcePreimage (servers : Seq McpServerSpec) : List UInt8 :=
  secretSilentPreimage "a2a-bridge/mcp-source/v1" (encodeServers servers)

def kiroContentPreimage (delivered : Seq McpServerSpec) : List UInt8 :=
  secretSilentPreimage "a2a-bridge/kiro-mcp-content/v1" (encodeServers delivered)

def encodeDelivery : BoundMcpDeliveryPayload → List UInt8
  | .acp servers => pushTag "acp" ++ pushBytes (encodeServers servers)
  | .codexNative args => pushTag "codex_native" ++ pushSeq pushText args
  | .kiroNative agentName json => pushTag "kiro_native" ++ (pushText agentName ++ pushText json)

def mcpDeliveryPreimage (payload : BoundMcpDeliveryPayload) : List UInt8 :=
  secretSilentPreimage "a2a-bridge/mcp-delivery/v1" (encodeDelivery payload)

variable (checkout : FrozenCheckoutEffect)

def encodeEffect (sourceDigest deliveryDigest : Text) :
    List UInt8 :=
  pushTag "a2a-bridge/provider-effect/v1" ++ (pushText entry.id ++
    (pushTag (agentKindToken entry.kind) ++ (pushOption entry.cmd ++ (pushOption entry.baseUrl ++
      (pushOption entry.apiKeyEnv ++ (pushSeq pushText entry.args ++ (pushOption entry.cwd ++
        (pushOption entry.sessionCwd ++ (encodeSandbox entry.sandbox ++
          (encodeWatchdog entry.watchdog ++ (pushOption entry.authMethod ++
            (pushBool entry.preAuthenticated ++ (encodeCheckout checkout ++
              (pushText checkout.effectiveCwd ++ (pushTag (mcpDeliveryToken entry.mcpDelivery) ++
                (pushText sourceDigest ++ (pushText deliveryDigest ++
                  encodeTrailing entry.renameNewSessions entry.liveness)))))))))))))))))

def effectPreimage (sourceDigest deliveryDigest : Text) :
    List UInt8 :=
  secretSilentPreimage "a2a-bridge/provider-effect-final/v1"
    (encodeEffect entry checkout sourceDigest deliveryDigest)

def attemptPreimage (session : LogicalSession) (checkout : FrozenCheckoutEffect)
    (effectDigest selectionDigest : Text) : List UInt8 :=
  pushTag "a2a-bridge/provider-attempt/v1" ++ (pushNode node ++ (pushSession session ++
    (encodeCheckout checkout ++ (pushText effectDigest ++ pushText selectionDigest))))

def nodeIdentityPreimage (selectionDigest : Text) (attemptFingerprints : Seq Text) : List UInt8 :=
  pushTag "a2a-bridge/node-execution-identity/v1" ++ (pushNode node ++
    (pushText selectionDigest ++ pushSeq pushText attemptFingerprints))

/-! ### Every field is read back

Each encoder is a delimited code: a tag, a count or a length in front says where it ends.
-/

variable {leftRest rightRest : List UInt8} {α : Type}

theorem push_bytes_cut {left right : List UInt8} (leftFits : left.length < 256 ^ 8)
    (rightFits : right.length < 256 ^ 8)
    (same : pushBytes left ++ leftRest = pushBytes right ++ rightRest) :
    left = right ∧ leftRest = rightRest := by
  obtain ⟨count, same⟩ := @(be_bytes_delimited 8).cut ⟨_, leftFits⟩ ⟨_, rightFits⟩ _ _ same
  exact List.append_inj same (Fin.mk.inj count)

/-- At the end of a byte string the length may be any: the count has eight bytes. -/
theorem push_bytes_injective : Function.Injective pushBytes := by
  intro left right same
  exact (List.append_inj same (by rw [be_bytes_length, be_bytes_length])).2

theorem push_text_delimited : Delimited pushText := by
  constructor
  intro left right leftRest rightRest same
  obtain ⟨bytes, rests⟩ := push_bytes_cut left.2 right.2 same
  exact ⟨Subtype.ext (as_bytes_inj.mp bytes), rests⟩

theorem push_tag_delimited {token : α → String}
    (fits : ∀ value, (asBytes (token value)).length < 256 ^ 8)
    (injective : Function.Injective token) : Delimited fun value => pushTag (token value) := by
  constructor
  intro left right leftRest rightRest same
  obtain ⟨bytes, rests⟩ := push_bytes_cut (fits left) (fits right) same
  exact ⟨injective (as_bytes_inj.mp bytes), rests⟩

theorem tags_apart {left right : String} (differ : left ≠ right)
    (leftFits : (asBytes left).length < 256 ^ 8) (rightFits : (asBytes right).length < 256 ^ 8) :
    pushTag left ++ leftRest ≠ pushTag right ++ rightRest := by
  intro same
  exact differ (as_bytes_inj.mp (push_bytes_cut leftFits rightFits same).1)

theorem tag_not_nil (tag : String) (rest : List UInt8) : pushTag tag ++ rest ≠ [] := by
  intro empty
  have none := congrArg List.length empty
  simp only [pushTag, pushBytes, List.length_append, be_bytes_length, List.length_nil] at none
  omega

theorem push_option_delimited : Delimited pushOption :=
  push_text_delimited.optional (by decide : (1 : UInt8) ≠ 0) (fun _ => rfl) rfl

theorem push_bool_delimited : Delimited pushBool :=
  delimited_of_length (fun _ => rfl) (by intro left right; cases left <;> cases right <;> decide)

theorem push_seq_delimited {push : α → List UInt8} (delimited : Delimited push) :
    Delimited (pushSeq push) := by
  constructor
  intro left right leftRest rightRest same
  obtain ⟨count, same⟩ := @(be_bytes_delimited 8).cut ⟨_, left.2⟩ ⟨_, right.2⟩ _ _ same
  obtain ⟨items, rests⟩ := delimited.flat_map (Fin.mk.inj count) same
  exact ⟨Subtype.ext items, rests⟩

theorem push_texts_delimited : Delimited (pushSeq pushText) :=
  push_seq_delimited push_text_delimited

theorem push_node_delimited : Delimited pushNode := by
  apply ((be_bytes_delimited 4).append push_text_delimited).comap fun node : PolicyNodeRef =>
    (⟨node.sortedOrdinal.toNat, node.sortedOrdinal.toNat_lt⟩, node.idSha256)
  rintro ⟨ordinal, id⟩ ⟨other, otherId⟩ same
  simp only [Prod.mk.injEq, Fin.mk.injEq, UInt32.toNat_inj] at same
  rw [same.1, same.2]

theorem effort_token_delimited : Delimited fun effort => pushTag (effortToken effort) :=
  push_tag_delimited (by intro effort; cases effort <;> decide)
    (by intro left right; cases left <;> cases right <;> decide)

theorem push_effort_delimited : Delimited pushEffort :=
  effort_token_delimited.optional (by decide : (1 : UInt8) ≠ 0) (fun _ => rfl) rfl

theorem agent_kind_delimited : Delimited fun kind => pushTag (agentKindToken kind) :=
  push_tag_delimited (by intro kind; cases kind <;> decide)
    (by intro left right; cases left <;> cases right <;> decide)

theorem mcp_delivery_delimited : Delimited fun delivery => pushTag (mcpDeliveryToken delivery) :=
  push_tag_delimited (by intro delivery; cases delivery <;> decide)
    (by intro left right; cases left <;> cases right <;> decide)

theorem mount_access_delimited : Delimited fun access => pushTag (mountAccessToken access) :=
  push_tag_delimited (by intro access; cases access <;> decide)
    (by intro left right; cases left <;> cases right <;> decide)

theorem push_session_delimited : Delimited pushSession := by
  constructor
  intro left right leftRest rightRest same
  cases left <;> cases right
  case preflight.preflight ordinal other | execute.execute ordinal other =>
    simp only [pushSession, LogicalSession.tag, List.append_assoc] at same
    obtain ⟨ordinals, rests⟩ := @(be_bytes_delimited 2).cut ⟨_, ordinal.toNat_lt⟩ ⟨_, other.toNat_lt⟩ _ _
      (List.append_cancel_left same)
    rw [UInt16.toNat_inj.mp (Fin.mk.inj ordinals)]
    exact ⟨rfl, rests⟩
  all_goals
    simp only [pushSession, LogicalSession.tag, List.append_assoc] at same
    exact absurd same (tags_apart (by decide) (by decide) (by decide))

/-! ### Servers -/

theorem encode_env_delimited : Delimited encodeEnv := by
  have fits (source : McpEnvValueSource) : (asBytes source.sourceKind).length < 256 ^ 8 := by
    cases source with
    | publicLiteral _ => exact (by decide : (asBytes "public_literal").length < 256 ^ 8)
    | secretFromEnv _ _ => exact (by decide : (asBytes "secret_from_env").length < 256 ^ 8)
  constructor
  rintro ⟨name, value⟩ ⟨otherName, otherValue⟩ leftRest rightRest same
  simp only [encodeEnv, List.append_assoc] at same
  obtain ⟨names, same⟩ := push_text_delimited.cut same
  obtain ⟨_, same⟩ := push_bytes_cut (fits value) (fits otherValue) same
  obtain ⟨sources, same⟩ := push_option_delimited.cut same
  obtain ⟨resolved, rests⟩ := push_text_delimited.cut same
  -- a literal has no variable, so that the variable and the value tell the two sources apart
  cases value <;> cases otherValue <;>
    simp_all [McpEnvValueSource.sourceName, McpEnvValueSource.resolvedValue]

theorem encode_server_delimited : Delimited encodeServer := by
  apply (push_text_delimited.append (push_text_delimited.append (push_texts_delimited.append
    (push_seq_delimited encode_env_delimited)))).comap fun server : McpServerSpec =>
      (server.name, server.command, server.args, server.env)
  rintro ⟨⟩ ⟨⟩ same
  cases same
  rfl

theorem encode_servers_delimited : Delimited encodeServers :=
  push_seq_delimited encode_server_delimited

theorem encode_delivery_injective : Function.Injective encodeDelivery := by
  intro left right same
  cases left <;> cases right
  case acp.acp servers others =>
    have same := push_bytes_injective (List.append_cancel_left same)
    rw [encode_servers_delimited.injective same]
  case codexNative.codexNative args others =>
    rw [push_texts_delimited.injective (List.append_cancel_left same)]
  case kiroNative.kiroNative name json name' json' =>
    have fields : (name, json) = (name', json') :=
      (push_text_delimited.append push_text_delimited).injective (List.append_cancel_left same)
    cases fields
    rfl
  all_goals exact absurd same (tags_apart (by decide) (by decide) (by decide))

/-! ### The parts of an effect -/

theorem encode_egress_delimited : Delimited encodeEgress := by
  constructor
  intro left right leftRest rightRest same
  cases left <;> cases right
  case locked.locked network proxy noProxy network' proxy' noProxy' =>
    simp only [encodeEgress, List.append_assoc] at same
    obtain ⟨networks, same⟩ := push_text_delimited.cut (List.append_cancel_left same)
    obtain ⟨proxies, same⟩ := push_text_delimited.cut same
    obtain ⟨noProxies, rests⟩ := push_option_delimited.cut same
    rw [networks, proxies, noProxies]
    exact ⟨rfl, rests⟩
  case open.open => exact ⟨rfl, List.append_cancel_left same⟩
  all_goals
    exact absurd same (tags_apart (by decide) (by decide) (by decide))

theorem encode_sandbox_delimited : Delimited encodeSandbox := by
  have fields := (push_option_delimited.append (push_text_delimited.append
    (push_text_delimited.append (mount_access_delimited.append (encode_egress_delimited.append
      push_texts_delimited))))).comap (fun sandbox : SandboxConfig =>
        (sandbox.runtime, sandbox.image, sandbox.mount, sandbox.access, sandbox.egress,
          sandbox.volumes)) (by
      rintro ⟨⟩ ⟨⟩ same
      cases same
      rfl)
  exact @Delimited.optional _ _ _ encodeSandbox 1 0 fields (by decide) (fun _ => rfl) rfl

theorem Duration.as_millis_lt (duration : Duration) : duration.asMillis < 256 ^ 16 := by
  have secs := duration.secs.toNat_lt
  have nanos := duration.valid
  unfold asMillis
  omega

theorem Duration.as_millis_inj {left right : Duration} (leftWhole : left.WholeMillis)
    (rightWhole : right.WholeMillis) (same : left.asMillis = right.asMillis) : left = right := by
  obtain ⟨secs, nanos, valid⟩ := left
  obtain ⟨secs', nanos', valid'⟩ := right
  simp only [WholeMillis, asMillis] at leftWhole rightWhole same
  obtain rfl : secs = secs' := UInt64.toNat_inj.mp (by omega)
  obtain rfl : nanos = nanos' := by omega
  rfl

/-- What is encoded of a watchdog. -/
def WatchdogConfig.millis (watchdog : WatchdogConfig) : Fin (256 ^ 16) × Fin (256 ^ 16) :=
  (⟨watchdog.idleTimeout.asMillis, watchdog.idleTimeout.as_millis_lt⟩,
    ⟨watchdog.hardWallClock.asMillis, watchdog.hardWallClock.as_millis_lt⟩)

/-- The durations of a watchdog, where an entry sets one, are whole milliseconds. -/
def AgentEntry.WholeMillis : Prop :=
  ∀ watchdog ∈ entry.watchdog, watchdog.idleTimeout.WholeMillis ∧ watchdog.hardWallClock.WholeMillis

def millisCode (millis : Option (Fin (256 ^ 16) × Fin (256 ^ 16))) : List UInt8 :=
  match millis with
  | none => [0]
  | some millis => 1 :: (beBytes 16 millis.1 ++ beBytes 16 millis.2)

theorem encode_watchdog_eq (watchdog : Option WatchdogConfig) :
    encodeWatchdog watchdog = millisCode (watchdog.map WatchdogConfig.millis) := by
  cases watchdog <;> rfl

theorem millis_code_delimited : Delimited millisCode :=
  ((be_bytes_delimited 16).append (be_bytes_delimited 16)).optional (by decide : (1 : UInt8) ≠ 0)
    (fun _ => rfl) rfl

variable {left right : AgentEntry}

theorem watchdog_of_millis (leftWhole : left.WholeMillis) (rightWhole : right.WholeMillis)
    (same : left.watchdog.map WatchdogConfig.millis = right.watchdog.map WatchdogConfig.millis) :
    left.watchdog = right.watchdog := by
  cases leftSet : left.watchdog with
  | none =>
    rw [leftSet] at same
    exact (Option.map_eq_none_iff.mp same.symm).symm
  | some watchdog =>
    rw [leftSet, Option.map_some] at same
    obtain ⟨other, rightSet, millis⟩ := Option.map_eq_some_iff.mp same.symm
    obtain ⟨leftIdle, leftHard⟩ := leftWhole watchdog leftSet
    obtain ⟨rightIdle, rightHard⟩ := rightWhole other rightSet
    simp only [WatchdogConfig.millis, Prod.mk.injEq, Fin.mk.injEq] at millis
    have idle := Duration.as_millis_inj rightIdle leftIdle millis.1
    have hard := Duration.as_millis_inj rightHard leftHard millis.2
    cases other
    cases idle
    cases hard
    exact rightSet.symm

theorem encode_checkout_delimited : Delimited encodeCheckout := by
  constructor
  intro left right leftRest rightRest same
  cases left <;> cases right
  case direct.direct source cwd source' cwd' =>
    simp only [encodeCheckout, List.append_assoc] at same
    obtain ⟨sources, same⟩ := push_text_delimited.cut (List.append_cancel_left same)
    obtain ⟨cwds, rests⟩ := push_text_delimited.cut same
    rw [sources, cwds]
    exact ⟨rfl, rests⟩
  case worktree.worktree =>
    simp only [encodeCheckout, List.append_assoc] at same
    obtain ⟨sources, same⟩ := push_text_delimited.cut (List.append_cancel_left same)
    obtain ⟨canonicals, same⟩ := push_text_delimited.cut same
    obtain ⟨roots, same⟩ := push_text_delimited.cut same
    obtain ⟨owners, same⟩ := push_text_delimited.cut same
    obtain ⟨targets, same⟩ := push_text_delimited.cut same
    obtain ⟨digests, rests⟩ := push_text_delimited.cut same
    rw [sources, canonicals, roots, owners, targets, digests]
    exact ⟨rfl, rests⟩
  all_goals
    exact absurd same (tags_apart (by decide) (by decide) (by decide))

theorem encode_liveness_delimited : Delimited encodeLivenessOverride := by
  constructor
  intro left right leftRest rightRest same
  rcases left with _ | _ | ms <;> rcases right with _ | _ | other <;>
    simp only [encodeLivenessOverride, List.cons_append, List.nil_append, List.cons.injEq] at same
  case some.ms.some.ms =>
    obtain ⟨bounds, rests⟩ :=
      @(be_bytes_delimited 8).cut ⟨_, ms.toNat_lt⟩ ⟨_, other.toNat_lt⟩ _ _ same.2
    rw [UInt64.toNat_inj.mp (Fin.mk.inj bounds)]
    exact ⟨rfl, rests⟩
  all_goals simp_all

theorem trailing_liveness_injective : Function.Injective (encodeTrailing false) := by
  intro left right same
  cases left <;> cases right
  case none.none => rfl
  case some.some liveness other =>
    have fields : (liveness.silenceCutoff, liveness.workCutoff) =
        (other.silenceCutoff, other.workCutoff) :=
      (encode_liveness_delimited.append encode_liveness_delimited).injective
        (List.append_cancel_left same)
    cases liveness
    cases other
    cases fields
    rfl
  case none.some => exact absurd same.symm (tag_not_nil _ _)
  case some.none => exact absurd same (tag_not_nil _ _)

theorem rename_tag_apart (rest : List UInt8) (liveness : Option AgentLivenessConfig) :
    pushTag "rename_new_sessions" ++ rest ≠ encodeTrailing false liveness := by
  cases liveness with
  | none => exact tag_not_nil _ _
  | some _ => exact tags_apart (by decide) (by decide) (by decide)

theorem encode_trailing_injective :
    Function.Injective fun fields : Bool × Option AgentLivenessConfig =>
      encodeTrailing fields.1 fields.2 := by
  rintro ⟨rename, liveness⟩ ⟨otherRename, other⟩ same
  cases rename <;> cases otherRename
  case false.false =>
    have same : encodeTrailing false liveness = encodeTrailing false other := same
    rw [trailing_liveness_injective same]
  case true.true =>
    have same : encodeTrailing false liveness = encodeTrailing false other :=
      List.append_cancel_left same
    rw [trailing_liveness_injective same]
  case false.true => exact absurd same.symm (rename_tag_apart _ _)
  case true.false => exact absurd same (rename_tag_apart _ _)

/-! ### Equal byte strings -/

theorem secret_silent_injective (domain : String) :
    Function.Injective (secretSilentPreimage domain) := by
  intro left right same
  exact push_bytes_injective (List.append_cancel_left same)

theorem checkout_fields_delimited : Delimited checkoutPreimage := by
  have fields := (push_text_delimited.append (push_node_delimited.append
    (push_session_delimited.append (push_text_delimited.append (push_text_delimited.append
      (push_text_delimited.append push_text_delimited)))))).comap
        (fun input : WorktreeCheckoutInput => (input.attemptId, input.node, input.logicalSession,
          input.sourceCwd, input.canonicalSourceCwd, input.canonicalWorktreeRoot,
          input.worktreeOwner)) (by
      rintro ⟨⟩ ⟨⟩ same
      cases same
      rfl)
  constructor
  intro left right leftRest rightRest same
  simp only [checkoutPreimage, List.append_assoc] at same
  apply fields.cut
  simp only [List.append_assoc]
  exact List.append_cancel_left (List.append_cancel_left same)

/-- What a selection covers of an agent entry and its overrides. -/
def selectionFields :
    Text × Bool × Seq Text × EffectiveConfig Text :=
  (entry.id, entry.preflight, entry.fallbackModels, effectiveConfig entry.config overrides)

/-- What an effect covers of an agent entry. -/
def effectFields :=
  (entry.id, entry.kind, entry.cmd, entry.baseUrl, entry.apiKeyEnv, entry.args, entry.cwd,
    entry.sessionCwd, entry.sandbox, entry.watchdog, entry.authMethod, entry.preAuthenticated,
    entry.mcpDelivery, entry.renameNewSessions, entry.liveness)

/-- Equal byte strings for a checkout, a selection, the delivered servers, an effect, a provider
attempt or a node identity have the same fields. -/
theorem equal_preimages_have_equal_fields (left right : AgentEntry) (leftWhole : left.WholeMillis)
    (rightWhole : right.WholeMillis) :
    Function.Injective checkoutPreimage ∧
    (∀ input other target otherTarget,
      committedCheckoutPreimage input target = committedCheckoutPreimage other otherTarget →
        input = other ∧ target = otherTarget) ∧
    (∀ overrides otherOverrides,
      selectionPreimage left overrides = selectionPreimage right otherOverrides →
        selectionFields left overrides = selectionFields right otherOverrides) ∧
    Function.Injective mcpSourcePreimage ∧ Function.Injective kiroContentPreimage ∧
    Function.Injective mcpDeliveryPreimage ∧
    (∀ checkout other source otherSource delivery otherDelivery,
      effectPreimage left checkout source delivery =
        effectPreimage right other otherSource otherDelivery →
      effectFields left = effectFields right ∧ checkout = other ∧ source = otherSource ∧
        delivery = otherDelivery) ∧
    (∀ node other session otherSession checkout otherCheckout effect otherEffect selection
        otherSelection,
      attemptPreimage node session checkout effect selection =
        attemptPreimage other otherSession otherCheckout otherEffect otherSelection →
      node = other ∧ session = otherSession ∧ checkout = otherCheckout ∧ effect = otherEffect ∧
        selection = otherSelection) ∧
    (∀ node other selection otherSelection attempts otherAttempts,
      nodeIdentityPreimage node selection attempts =
        nodeIdentityPreimage other otherSelection otherAttempts →
      node = other ∧ selection = otherSelection ∧ attempts = otherAttempts) := by
  refine ⟨checkout_fields_delimited.injective, ?committed, ?selection, ?source, ?content, ?delivery,
    ?effect, ?attempt, ?identity⟩
  case committed =>
    intro input other target otherTarget same
    obtain ⟨inputs, same⟩ := checkout_fields_delimited.cut same
    exact ⟨inputs, push_text_delimited.injective same⟩
  case selection =>
    intro overrides otherOverrides same
    have same := List.append_cancel_left same
    obtain ⟨ids, same⟩ := push_text_delimited.cut same
    obtain ⟨preflights, same⟩ := push_bool_delimited.cut same
    obtain ⟨models, same⟩ := push_option_delimited.cut same
    obtain ⟨fallbacks, same⟩ := push_texts_delimited.cut same
    obtain ⟨efforts, same⟩ := push_effort_delimited.cut same
    have modes := push_option_delimited.injective same
    have effective := EffectiveConfig.ext models efforts modes
    rw [selectionFields, ids, preflights, fallbacks, effective, selectionFields]
  case source =>
    intro servers others same
    exact encode_servers_delimited.injective (secret_silent_injective _ same)
  case content =>
    intro servers others same
    exact encode_servers_delimited.injective (secret_silent_injective _ same)
  case delivery =>
    intro payload other same
    exact encode_delivery_injective (secret_silent_injective _ same)
  case effect =>
    intro checkout other source otherSource delivery otherDelivery same
    have same := List.append_cancel_left (secret_silent_injective _ same)
    obtain ⟨ids, same⟩ := push_text_delimited.cut same
    obtain ⟨kinds, same⟩ := agent_kind_delimited.cut same
    obtain ⟨cmds, same⟩ := push_option_delimited.cut same
    obtain ⟨urls, same⟩ := push_option_delimited.cut same
    obtain ⟨keys, same⟩ := push_option_delimited.cut same
    obtain ⟨args, same⟩ := push_texts_delimited.cut same
    obtain ⟨cwds, same⟩ := push_option_delimited.cut same
    obtain ⟨sessionCwds, same⟩ := push_option_delimited.cut same
    obtain ⟨sandboxes, same⟩ := encode_sandbox_delimited.cut same
    rw [encode_watchdog_eq, encode_watchdog_eq] at same
    obtain ⟨millis, same⟩ := millis_code_delimited.cut same
    obtain ⟨methods, same⟩ := push_option_delimited.cut same
    obtain ⟨authenticated, same⟩ := push_bool_delimited.cut same
    obtain ⟨checkouts, same⟩ := encode_checkout_delimited.cut same
    obtain ⟨_, same⟩ := push_text_delimited.cut same
    obtain ⟨deliveries, same⟩ := mcp_delivery_delimited.cut same
    obtain ⟨sources, same⟩ := push_text_delimited.cut same
    obtain ⟨digests, same⟩ := push_text_delimited.cut same
    obtain ⟨renames, livenesses⟩ := Prod.mk.inj (@encode_trailing_injective
      (left.renameNewSessions, left.liveness) (right.renameNewSessions, right.liveness) same)
    have watchdogs := watchdog_of_millis leftWhole rightWhole millis
    simp [effectFields, *]
  case attempt =>
    intro node other session otherSession checkout otherCheckout effect otherEffect selection
      otherSelection same
    have same := List.append_cancel_left same
    obtain ⟨nodes, same⟩ := push_node_delimited.cut same
    obtain ⟨sessions, same⟩ := push_session_delimited.cut same
    obtain ⟨checkouts, same⟩ := encode_checkout_delimited.cut same
    obtain ⟨effects, same⟩ := push_text_delimited.cut same
    exact ⟨nodes, sessions, checkouts, effects, push_text_delimited.injective same⟩
  case identity =>
    intro node other selection otherSelection attempts otherAttempts same
    have same := List.append_cancel_left same
    obtain ⟨nodes, same⟩ := push_node_delimited.cut same
    obtain ⟨selections, same⟩ := push_text_delimited.cut same
    exact ⟨nodes, selections, push_texts_delimited.injective same⟩

def sampleText : Text := ⟨"sample", by decide⟩

def sampleEntry : AgentEntry where
  id := sampleText
  cmd := none
  baseUrl := none
  apiKeyEnv := none
  args := ⟨[], by decide⟩
  kind := .acp
  model := none
  effort := none
  mode := none
  preflight := false
  fallbackModels := ⟨[], by decide⟩
  cwd := none
  sessionCwd := none
  sandbox := none
  watchdog := some ⟨⟨60, 0, by decide⟩, ⟨600, 500000000, by decide⟩⟩
  liveness := none
  mcp := ⟨[], by decide⟩
  mcpDelivery := .acp
  authMethod := none
  preAuthenticated := false
  renameNewSessions := false

theorem sample_whole (rename : Bool) :
    AgentEntry.WholeMillis { sampleEntry with renameNewSessions := rename } := by
  rintro watchdog ⟨⟩
  exact ⟨rfl, rfl⟩

theorem naming_sessions_changes_effect :
    effectPreimage sampleEntry (.direct sampleText sampleText) sampleText sampleText ≠
      effectPreimage { sampleEntry with renameNewSessions := true }
        (.direct sampleText sampleText) sampleText sampleText := by
  intro same
  obtain ⟨_, _, _, _, _, _, effect, _, _⟩ :=
    equal_preimages_have_equal_fields _ _ (sample_whole false) (sample_whole true)
  have fields := (effect _ _ _ _ _ _ same).1
  simp [effectFields, sampleEntry] at fields

end A2aBridge.Fingerprints
