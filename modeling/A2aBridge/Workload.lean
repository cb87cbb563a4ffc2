import A2aBridge.FrozenFingerprints
import A2aBridge.MachineWords
import Mathlib.Data.Multiset.Sort
import Mathlib.Data.String.Basic

/-!
The text that `workload_fingerprint_with_activation` of bridge-core/graph.rs hashes for a workflow
graph. A panel weight is the bit pattern of its `f64`, and a panel the entries of its `BTreeMap` in
key order. Nothing is said about the hash. The delays of a retry policy stand at the end.
-/

namespace A2aBridge.Workload

open ByteText
open PrefixCodes
open Fingerprints (effortToken)

structure RetryPolicy where
  maxAttempts : UInt32
  backoffMs : UInt64
  backoffCapMs : Option UInt64
  deriving DecidableEq

structure WorkflowNode where
  id : String
  agent : String
  model : Option String
  effort : Option Effort
  mode : Option String
  promptTemplate : String
  inputs : List String
  retry : Option RetryPolicy
  deriving DecidableEq

structure WorkflowGraph where
  id : String
  nodes : List WorkflowNode
  panel : Option (List (String × UInt64))
  deriving DecidableEq

inductive DeadlineActivation where
  | manualOnlyR2f1a
  | automaticR2f1b
  deriving DecidableEq

/-! ### The text -/

/-- A number and the mark behind it. -/
def pushNumber (mark : UInt8) (value : Nat) : List UInt8 := asBytes (Nat.repr value) ++ [mark]

def pushField (value : String) : List UInt8 := pushNumber 58 (asBytes value).length ++ asBytes value

def pushOptional : Option String → List UInt8
  | some value => 49 :: pushField value
  | none => [48]

def pushEffectiveConfig (config : EffectiveConfig) : List UInt8 :=
  pushOptional config.model ++
    (pushOptional (config.effort.map effortToken) ++ pushOptional config.mode)

def pushConfigured : Option EffectiveConfig → List UInt8
  | some config => 49 :: pushEffectiveConfig config
  | none => [48]

def pushInputs (inputs : List String) : List UInt8 :=
  105 :: (pushNumber 58 inputs.length ++ inputs.flatMap pushField)

def pushRetry : Option (Nat × Nat × Nat) → List UInt8
  | some (maxAttempts, backoffMs, backoffCapMs) =>
    49 :: (pushNumber 58 maxAttempts ++ (pushNumber 58 backoffMs ++ pushNumber 59 backoffCapMs))
  | none => [48]

/-- The node's own settings over the configuration of its agent, if that is known. -/
def WorkflowNode.configured (node : WorkflowNode)
    (configuredEffective : String → Option EffectiveConfig) : Option EffectiveConfig :=
  (configuredEffective node.agent).map fun config =>
    ⟨node.model.or config.model, node.effort.or config.effort, node.mode.or config.mode⟩

/-- The cap as a number: none is the largest one. -/
def RetryPolicy.bound (retry : RetryPolicy) : Nat :=
  (retry.backoffCapMs.map UInt64.toNat).getD U64_MAX

/-- The numbers that are written. -/
def RetryPolicy.numbers (retry : RetryPolicy) : Nat × Nat × Nat :=
  (retry.maxAttempts.toNat, retry.backoffMs.toNat, retry.bound)

variable (configuredEffective : String → Option EffectiveConfig)

def pushNode (node : WorkflowNode) :
    List UInt8 :=
  110 :: (pushField node.id ++ (pushField node.agent ++
    (pushConfigured (node.configured configuredEffective) ++
      (pushInputs (node.inputs.mergeSort (· ≤ ·)) ++ pushRetry (node.retry.map RetryPolicy.numbers)))))

def pushActivation : DeadlineActivation → List UInt8
  | .manualOnlyR2f1a => []
  | .automaticR2f1b => 97 :: pushField "automatic_r2f1b"

def hexDigit (nibble : UInt8) : UInt8 := if nibble < 10 then 48 + nibble else 87 + nibble

/-- The sixteen hexadecimal digits of the bits and a semicolon. -/
def pushWeight (weight : String × UInt64) : List UInt8 :=
  pushField weight.1 ++ ((beBytes 8 weight.2.toNat).flatMap
    (fun byte : UInt8 => [hexDigit (byte >>> 4), hexDigit (byte &&& 15)]) ++ [59])

def pushPanel : Option (List (String × UInt64)) → List UInt8
  | some weights => 112 :: weights.flatMap pushWeight
  | none => [113]

def canonical (graph : WorkflowGraph) (activation : DeadlineActivation)
    (configuredEffective : String → Option EffectiveConfig) : List UInt8 :=
  pushField graph.id ++
    ((graph.nodes.mergeSort fun left right => left.id ≤ right.id).flatMap
      (pushNode configuredEffective) ++ (pushActivation activation ++ pushPanel graph.panel))

/-! ### The text read back -/

theorem repr_digits (value : Nat) : ∀ byte ∈ asBytes (Nat.repr value), byte < 58 := by
  rw [Nat.repr_eq_ofList_toDigits, as_bytes_of_chars]
  intro byte member
  obtain ⟨c, digit, encoded⟩ := List.mem_flatMap.mp member
  have digit := Nat.isDigit_of_mem_toDigits (by decide) (by decide) digit
  simp only [Char.isDigit, Bool.and_eq_true, decide_eq_true_eq] at digit
  have small : c.toNat ≤ 57 := digit.2
  rcases encoded_char c with ⟨_, ascii⟩ | ⟨large, _⟩
  · rw [ascii, List.mem_singleton] at encoded
    rw [encoded, UInt8.lt_iff_toNat_lt, UInt8.toNat_ofNat', Nat.mod_eq_of_lt (by omega)]
    exact Nat.lt_succ_of_le small
  · omega

theorem push_number_delimited {mark : UInt8} (late : ¬mark < 58) : Delimited (pushNumber mark) :=
  delimited_of_mark (fun value member => late (repr_digits value mark member)) fun left right same => by
    rw [as_bytes_inj, Nat.repr_eq_ofList_toDigits, Nat.repr_eq_ofList_toDigits, String.ofList_inj] at same
    rw [← @Nat.ofDigitChars_ten_toDigits left, same, Nat.ofDigitChars_ten_toDigits]

theorem push_field_delimited : Delimited pushField := by
  constructor
  intro left right leftRest rightRest same
  simp only [pushField, List.append_assoc] at same
  obtain ⟨count, same⟩ := (push_number_delimited (by decide)).cut same
  obtain ⟨bytes, rests⟩ := List.append_inj same count
  exact ⟨as_bytes_inj.mp bytes, rests⟩

theorem push_optional_delimited : Delimited pushOptional :=
  push_field_delimited.optional (by decide : (49 : UInt8) ≠ 48) (fun _ => rfl) rfl

theorem push_configured_delimited : Delimited pushConfigured := by
  have named : Function.Injective fun effort : Option Effort => effort.map effortToken :=
    Option.map_injective fun left right => by cases left <;> cases right <;> decide
  have config : Delimited pushEffectiveConfig :=
    (push_optional_delimited.append ((push_optional_delimited.comap _ named).append
      push_optional_delimited)).comap (fun config : EffectiveConfig =>
        (config.model, config.effort, config.mode)) fun left right same => by
          simp only [Prod.mk.injEq] at same
          exact EffectiveConfig.ext same.1 same.2.1 same.2.2
  exact config.optional (by decide : (49 : UInt8) ≠ 48) (fun _ => rfl) rfl

theorem push_inputs_delimited : Delimited pushInputs := by
  refine Delimited.cons ⟨fun {left right} leftRest rightRest same => ?_⟩ 105
  rw [List.append_assoc, List.append_assoc] at same
  obtain ⟨count, same⟩ := (push_number_delimited (by decide)).cut same
  exact push_field_delimited.flat_map count same

theorem push_retry_delimited : Delimited pushRetry :=
  ((push_number_delimited (by decide)).append ((push_number_delimited (by decide)).append
    (push_number_delimited (by decide)))).optional (by decide : (49 : UInt8) ≠ 48)
      (fun _ => rfl) rfl

def unhex (digit : UInt8) : UInt8 := if digit < 58 then digit - 48 else digit - 87

theorem unhex_digits (byte : UInt8) :
    unhex (hexDigit (byte >>> 4)) * 16 + unhex (hexDigit (byte &&& 15)) = byte := by
  obtain ⟨⟨byte⟩⟩ := byte
  revert byte
  decide +kernel

theorem push_weight_delimited : Delimited pushWeight := by
  have hex : Delimited fun byte : UInt8 => [hexDigit (byte >>> 4), hexDigit (byte &&& 15)] := by
    refine @delimited_of_length _ _ _ 2 (fun _ => rfl) fun left right same => ?_
    simp only [List.cons.injEq, and_true] at same
    rw [← unhex_digits left, same.1, same.2, unhex_digits]
  constructor
  rintro ⟨left, leftBits⟩ ⟨right, rightBits⟩ leftRest rightRest same
  simp only [pushWeight, List.append_assoc] at same
  obtain ⟨rfl, digits⟩ := push_field_delimited.cut same
  have count : (beBytes 8 leftBits.toNat).length = (beBytes 8 rightBits.toNat).length := by simp
  obtain ⟨bytes, rests⟩ := hex.flat_map count digits
  rw [be_bytes_inj leftBits.toNat_lt rightBits.toNat_lt bytes |> UInt64.toNat_inj.mp]
  exact ⟨rfl, (List.cons.inj rests).2⟩

theorem push_panel_injective : Function.Injective pushPanel := by
  intro left right same
  cases left with
  | none =>
    cases right with
    | none => rfl
    | some _ => simp [pushPanel] at same
  | some left =>
    cases right with
    | none => simp [pushPanel] at same
    | some right =>
      have ends (weight : String × UInt64) (rest : List UInt8) : pushWeight weight ++ rest ≠ [] := by
        simp [pushWeight]
      have words := (List.cons.inj same).2
      rw [← List.append_nil (left.flatMap _), ← List.append_nil (right.flatMap _)] at words
      rw [(push_weight_delimited.flat_map_until ends ends words).1]

/-! ### The nodes -/

/-- What the text says of a node. -/
@[ext] structure NodeShape where
  id : String
  agent : String
  config : Option EffectiveConfig
  inputs : Multiset String
  retry : Option (Nat × Nat × Nat)

def WorkflowNode.shape (node : WorkflowNode) : NodeShape :=
  ⟨node.id, node.agent, node.configured configuredEffective, node.inputs,
    node.retry.map RetryPolicy.numbers⟩

def pushShape (shape : NodeShape) : List UInt8 :=
  110 :: (pushField shape.id ++ (pushField shape.agent ++ (pushConfigured shape.config ++
    (pushInputs (shape.inputs.sort (· ≤ ·)) ++ pushRetry shape.retry))))

theorem push_shape_delimited : Delimited pushShape := by
  refine ((push_field_delimited.append (push_field_delimited.append
    (push_configured_delimited.append (push_inputs_delimited.append push_retry_delimited)))).cons
      110).comap
      (fun shape : NodeShape => (shape.id, shape.agent, shape.config, shape.inputs.sort (· ≤ ·),
        shape.retry)) fun left right same => ?_
  simp only [Prod.mk.injEq] at same
  obtain ⟨id, agent, config, inputs, retry⟩ := same
  have inputs := congrArg (fun sorted : List String => (sorted : Multiset String)) inputs
  simp only [Multiset.sort_eq] at inputs
  exact NodeShape.ext id agent config inputs retry

variable {graph other : WorkflowGraph} {lookup otherLookup : String → Option EffectiveConfig}

def WorkflowGraph.shapes (graph : WorkflowGraph) (lookup : String → Option EffectiveConfig) :
    List NodeShape :=
  graph.nodes.map (WorkflowNode.shape lookup)

/-- The shapes in the order in which they are written. -/
def WorkflowGraph.written (graph : WorkflowGraph) (lookup : String → Option EffectiveConfig) :
    List NodeShape :=
  (graph.nodes.mergeSort fun left right => left.id ≤ right.id).map (WorkflowNode.shape lookup)

theorem written_perm : (graph.written lookup).Perm (graph.shapes lookup) :=
  (List.mergeSort_perm ..).map _

theorem written_sorted : (graph.written lookup).Pairwise fun left right => left.id ≤ right.id := by
  rw [WorkflowGraph.written, List.pairwise_map]
  have sorted := @List.pairwise_mergeSort _ (fun left right : WorkflowNode => left.id ≤ right.id)
    (by simpa using fun _ _ _ => String.le_trans) (by simpa using fun _ _ => String.le_total _ _)
    graph.nodes
  simpa [WorkflowNode.shape] using sorted

theorem written_eq_iff (unique : (graph.nodes.map WorkflowNode.id).Nodup) :
    graph.written lookup = other.written otherLookup ↔
      (graph.shapes lookup).Perm (other.shapes otherLookup) := by
  constructor
  · intro same
    exact written_perm.symm.trans (same ▸ written_perm)
  · intro perm
    have perm := written_perm.trans (perm.trans written_perm.symm)
    refine perm.eq_of_pairwise (fun left right leftIn rightIn below above => ?_) written_sorted
      written_sorted
    have keys : ((graph.written lookup).map NodeShape.id).Nodup := by
      rw [(written_perm.map NodeShape.id).nodup_iff, WorkflowGraph.shapes, List.map_map]
      exact unique
    exact List.inj_on_of_nodup_map keys leftIn (perm.mem_iff.mpr rightIn)
      (String.le_antisymm below above)

theorem canonical_written {activation otherActivation : DeadlineActivation} :
    canonical graph activation lookup = canonical other otherActivation otherLookup ↔
      graph.id = other.id ∧ graph.written lookup = other.written otherLookup ∧
        activation = otherActivation ∧ graph.panel = other.panel := by
  have nodes (graph : WorkflowGraph) (lookup : String → Option EffectiveConfig) :
      (graph.nodes.mergeSort fun left right => left.id ≤ right.id).flatMap (pushNode lookup) =
        (graph.written lookup).flatMap pushShape := by
    rw [WorkflowGraph.written, List.flatMap_map]
    refine congrArg (List.flatMap · _) (funext fun node => ?_)
    rw [pushNode, pushShape]
    simp [WorkflowNode.shape]
  have ends (activation : DeadlineActivation) (panel : Option (List (String × UInt64)))
      (shape : NodeShape) (rest : List UInt8) :
      pushShape shape ++ rest ≠ pushActivation activation ++ pushPanel panel := by
    cases activation <;> cases panel <;> simp [pushShape, pushActivation, pushPanel]
  simp only [canonical, nodes]
  constructor
  · intro same
    obtain ⟨ids, same⟩ := push_field_delimited.cut same
    obtain ⟨shapes, same⟩ := push_shape_delimited.flat_map_until (ends _ _) (ends _ _) same
    cases activation <;> cases otherActivation
    · exact ⟨ids, shapes, rfl, push_panel_injective same⟩
    · cases left : graph.panel <;> simp [pushActivation, pushPanel, left] at same
    · cases right : other.panel <;> simp [pushActivation, pushPanel, right] at same
    · exact ⟨ids, shapes, rfl, push_panel_injective (List.append_cancel_left same)⟩
  · rintro ⟨ids, shapes, rfl, panels⟩
    rw [ids, shapes, panels]

theorem canonical_shapes {activation otherActivation : DeadlineActivation}
    (unique : (graph.nodes.map WorkflowNode.id).Nodup) :
    canonical graph activation lookup = canonical other otherActivation otherLookup ↔
      graph.id = other.id ∧ activation = otherActivation ∧ graph.panel = other.panel ∧
        (graph.shapes lookup).Perm (other.shapes otherLookup) := by
  rw [canonical_written, written_eq_iff unique]
  tauto

/-! ### Retry policies that are written alike -/

/-- What a graph says of a node, with the whole retry policy. -/
abbrev NodeParts := String × String × Option EffectiveConfig × Multiset String × Option RetryPolicy

def WorkflowGraph.parts (graph : WorkflowGraph) (lookup : String → Option EffectiveConfig) :
    List NodeParts :=
  graph.nodes.map fun node =>
    (node.id, node.agent, node.configured lookup, node.inputs, node.retry)

/-- One policy has no cap and the other one the largest. -/
def CapsCollide (left right : Option RetryPolicy) : Prop :=
  ∃ uncapped capped, uncapped.backoffCapMs = none ∧
    capped.backoffCapMs = some (UInt64.ofNat U64_MAX) ∧
    (left = some uncapped ∧ right = some capped ∨ left = some capped ∧ right = some uncapped)

theorem numbers_collide {left right : Option RetryPolicy}
    (same : left.map RetryPolicy.numbers = right.map RetryPolicy.numbers) :
    left = right ∨ CapsCollide left right := by
  have largest {cap : UInt64} (full : cap.toNat = U64_MAX) : cap = UInt64.ofNat U64_MAX := by
    rw [← full, UInt64.ofNat_toNat]
  cases left with
  | none => simp_all [eq_comm]
  | some left =>
    cases right with
    | none => simp at same
    | some right =>
      obtain ⟨attempts, backoff, cap⟩ := left
      obtain ⟨otherAttempts, otherBackoff, otherCap⟩ := right
      simp only [Option.map_some, RetryPolicy.numbers, RetryPolicy.bound, Option.some.injEq,
        Prod.mk.injEq, UInt32.toNat_inj, UInt64.toNat_inj] at same
      obtain ⟨rfl, rfl, caps⟩ := same
      cases cap with
      | none =>
        cases otherCap with
        | none => exact .inl rfl
        | some cap => exact .inr ⟨_, _, rfl, congrArg some (largest caps.symm), .inl ⟨rfl, rfl⟩⟩
      | some cap =>
        cases otherCap with
        | none => exact .inr ⟨_, _, rfl, congrArg some (largest caps), .inr ⟨rfl, rfl⟩⟩
        | some other =>
          cases UInt64.toNat_inj.mp caps
          exact .inl rfl

def NodeParts.shape (parts : NodeParts) : NodeShape :=
  ⟨parts.1, parts.2.1, parts.2.2.1, parts.2.2.2.1, parts.2.2.2.2.map RetryPolicy.numbers⟩

theorem shapes_eq : graph.shapes lookup = (graph.parts lookup).map NodeParts.shape := by
  rw [WorkflowGraph.parts, List.map_map]
  rfl

theorem parts_ids : (graph.parts lookup).map Prod.fst = graph.nodes.map WorkflowNode.id := by
  simp [WorkflowGraph.parts, Function.comp_def]

section

variable (unique : (graph.nodes.map WorkflowNode.id).Nodup)

include unique

theorem parts_of_shapes (shapes : (graph.shapes lookup).Perm (other.shapes otherLookup))
    (apart : ∀ node ∈ graph.nodes, ∀ twin ∈ other.nodes, node.id = twin.id →
      ¬ CapsCollide node.retry twin.retry) :
    (graph.parts lookup).Perm (other.parts otherLookup) := by
  have distinct : (graph.parts lookup).Nodup := .of_map Prod.fst (parts_ids ▸ unique)
  -- The parts are distinct and each is one of the other graph, which has no more of them.
  refine (distinct.subperm fun part member => ?_).perm_of_length_le ?_
  · obtain ⟨node, inside, rfl⟩ := List.mem_map.mp member
    obtain ⟨twin, also, equal⟩ := List.mem_map.mp (shapes.mem_iff.mp (List.mem_map_of_mem inside))
    simp only [WorkflowNode.shape, NodeShape.mk.injEq] at equal
    obtain ⟨named, agent, config, inputs, numbers⟩ := equal
    have retry := (numbers_collide numbers.symm).resolve_right
      (apart node inside twin also named.symm)
    rw [← named, ← agent, ← config, ← inputs, retry]
    exact List.mem_map_of_mem also
  · simpa [WorkflowGraph.shapes, WorkflowGraph.parts] using shapes.length_eq.ge

theorem parts_apart (parts : (graph.parts lookup).Perm (other.parts otherLookup))
    {node twin : WorkflowNode} (inside : node ∈ graph.nodes) (also : twin ∈ other.nodes)
    (named : node.id = twin.id) : ¬ CapsCollide node.retry twin.retry := by
  have distinct : (other.nodes.map WorkflowNode.id).Nodup := by
    rw [← parts_ids, ← (parts.map Prod.fst).nodup_iff, parts_ids]
    exact unique
  obtain ⟨found, present, equal⟩ := List.mem_map.mp (parts.mem_iff.mp (List.mem_map_of_mem inside))
  simp only [Prod.mk.injEq] at equal
  cases List.inj_on_of_nodup_map distinct present also (equal.1.trans named)
  rw [equal.2.2.2.2]
  rintro ⟨uncapped, capped, absent, largest, ⟨left, right⟩ | ⟨left, right⟩⟩
  all_goals
    cases left.symm.trans right
    cases absent.symm.trans largest

end

def sampleGraph (cap : Option UInt64) : WorkflowGraph :=
  ⟨"w", [⟨"n", "a", none, none, none, "p", [], some ⟨1, 1, cap⟩⟩], none⟩

namespace RetryPolicy

variable (policy : RetryPolicy)

def cap : Nat := (policy.backoffCapMs.getD 30000).toNat

/-- The delay in milliseconds; `attempt` counts from one. -/
def backoffFor (attempt : Nat) : Nat :=
  let shift := attempt - 1
  let base :=
    if 64 ≤ shift then U64_MAX else min (policy.backoffMs.toNat * 2 ^ shift) U64_MAX
  min base policy.cap

theorem backoff_for_eq (attempt : Nat) : policy.backoffFor attempt =
    if 64 < attempt then policy.cap
    else min (policy.backoffMs.toNat * 2 ^ (attempt - 1)) policy.cap := by
  have fits : policy.cap ≤ U64_MAX := Nat.le_pred_of_lt (policy.backoffCapMs.getD 30000).toNat_lt
  simp only [backoffFor, apply_ite (min · policy.cap), Nat.min_eq_right fits, Nat.min_assoc]
  exact if_congr (by omega) rfl rfl

/-- Where the delay is the product bounded by the cap: a backoff of zero waits for its cap from the
65th attempt on, and without a cap the delay stops at 30000. -/
def Formulaic (attempt : Nat) : Prop :=
  match policy.backoffCapMs with
  | some cap => 0 < policy.backoffMs ∨ attempt ≤ 64 ∨ cap = 0
  | none => attempt ≤ 64 ∧ policy.backoffMs.toNat * 2 ^ (attempt - 1) ≤ 30000

/-- The product of a positive backoff is past every cap at the 65th attempt. -/
theorem product_past (positive : 0 < policy.backoffMs.toNat) {attempt : Nat} (late : 64 < attempt) :
    U64_MAX < policy.backoffMs.toNat * 2 ^ (attempt - 1) := by
  have large : 2 ^ 64 ≤ 2 ^ (attempt - 1) := Nat.pow_le_pow_right (by simp) (by omega)
  have grown := large.trans (Nat.le_mul_of_pos_left _ positive)
  unfold U64_MAX
  omega

theorem backoff_for_formulaic (attempt : Nat) : policy.backoffFor attempt =
    min (policy.backoffMs.toNat * 2 ^ (attempt - 1)) policy.bound ↔ policy.Formulaic attempt := by
  have past := @policy.product_past
  obtain ⟨attempts, backoff, cap⟩ := policy
  rw [backoff_for_eq]
  simp only [Formulaic, RetryPolicy.cap, bound] at past ⊢
  have zero : backoff.toNat = 0 → backoff.toNat * 2 ^ (attempt - 1) = 0 :=
    fun none => by simp [none]
  replace past (positive : 0 < backoff.toNat) (late : 64 < attempt) := past positive late
  generalize backoff.toNat * 2 ^ (attempt - 1) = product at past zero ⊢
  unfold U64_MAX at past
  cases cap with
  | none =>
    change ite _ 30000 (min product 30000) = min product U64_MAX ↔ _
    unfold U64_MAX
    split <;> omega
  | some cap =>
    have fits := cap.toNat_lt
    have empty : cap = 0 ↔ cap.toNat = 0 := UInt64.toNat_inj.symm
    have some : 0 < backoff ↔ 0 < backoff.toNat := UInt64.lt_iff_toNat_lt
    simp only [Option.getD_some, Option.map_some, empty, some]
    split <;> omega

theorem backoff_for_exact :
    (∀ attempt, policy.backoffFor attempt =
      min (policy.backoffMs.toNat * 2 ^ (attempt - 1)) policy.bound ↔ policy.Formulaic attempt) ∧
    Monotone policy.backoffFor ∧
    ∀ attempt, policy.backoffFor attempt ≤ policy.cap ∧ policy.cap ≤ policy.bound := by
  have capped (attempt) : policy.backoffFor attempt ≤ policy.cap := Nat.min_le_right ..
  refine ⟨policy.backoff_for_formulaic, fun first later order => ?_, fun attempt => ⟨capped _, ?_⟩⟩
  · rw [backoff_for_eq policy later]
    split
    · exact capped first
    · rw [backoff_for_eq, if_neg (by omega)]
      have grows : 2 ^ (first - 1) ≤ 2 ^ (later - 1) := Nat.pow_le_pow_right (by simp) (by omega)
      exact min_le_min_right _ (Nat.mul_le_mul_left _ grows)
  · unfold RetryPolicy.cap bound
    cases policy.backoffCapMs with
    | none => decide
    | some cap => exact Nat.le_refl _

/-- A policy without a backoff waits for its cap at the 65th attempt. -/
theorem zero_backoff_waits :
    (RetryPolicy.mk 100 0 (some 1000)).backoffFor 65 = 1000 ∧ min (0 * 2 ^ (65 - 1)) 1000 = 0 := by
  decide

end RetryPolicy

end A2aBridge.Workload
