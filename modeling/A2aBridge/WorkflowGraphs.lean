import A2aBridge.Harvest
import A2aBridge.NodeTerminals
import Mathlib.Order.WellFoundedSet

/-!
Workflow graphs of bridge-core/graph.rs: the node fields the executor reads and the
validation it relies on. Panel weights are kept as the bit patterns of their `f64`.
Agent overrides and retry policies belong to the node's own run and are left out.
-/

namespace A2aBridge.Workflow

open Harvest

structure WorkflowNode where
  id : NodeId
  agent : String
  promptTemplate : String
  inputs : List NodeId
  harvestSanitization : Option HarvestSanitizationMode
  deriving DecidableEq

structure WorkflowGraph where
  id : String
  nodes : List WorkflowNode
  weights : Option (List (String × Nat))
  deriving DecidableEq

inductive WorkflowError where
  | empty
  | duplicateNode (id : NodeId)
  | unknownInput (node input : NodeId)
  | cyclic
  | notSingleTerminal (terminals : Nat)
  deriving DecidableEq

def WorkflowNode.inputsWithin (node : WorkflowNode) (done : List NodeId) : Bool :=
  node.inputs.all fun input => input ∈ done

/-- The loop of `assert_acyclic`. A round removes at least one node, so `fuel` as large as
the number of remaining nodes never runs out. -/
def kahn : Nat → List WorkflowNode → List NodeId → Except WorkflowError Unit
  | _, [], _ => .ok ()
  | 0, _ :: _, _ => .error .cyclic
  | fuel + 1, first :: others, done =>
    let remaining := first :: others
    let ready := (remaining.filter fun node => node.inputsWithin done).map WorkflowNode.id
    if ready.isEmpty then
      .error .cyclic
    else
      kahn fuel (remaining.filter fun node => node.id ∉ ready) (ready ++ done)

def checkUnique : List NodeId → List WorkflowNode → Except WorkflowError Unit
  | _, [] => .ok ()
  | seen, node :: rest =>
    if node.id ∈ seen then .error (.duplicateNode node.id)
    else checkUnique (node.id :: seen) rest

def checkInputs (ids : List NodeId) : List WorkflowNode → Except WorkflowError Unit
  | [] => .ok ()
  | node :: rest =>
    match node.inputs.find? fun input => input ∉ ids with
    | some input => .error (.unknownInput node.id input)
    | none => checkInputs ids rest

namespace WorkflowGraph

variable (graph : WorkflowGraph)

def ids : List NodeId := graph.nodes.map WorkflowNode.id

def assertAcyclic : Except WorkflowError Unit := kahn graph.nodes.length graph.nodes []

def unreferenced (node : WorkflowNode) : Bool := node.id ∉ graph.nodes.flatMap WorkflowNode.inputs

def terminal : Option WorkflowNode := graph.nodes.find? graph.unreferenced

def validate : Except WorkflowError Unit := do
  if graph.nodes.isEmpty then
    throw .empty
  checkUnique [] graph.nodes
  checkInputs graph.ids graph.nodes
  graph.assertAcyclic
  let terminals := graph.nodes.countP graph.unreferenced
  if terminals ≠ 1 then
    throw (.notSingleTerminal terminals)

end WorkflowGraph

/-- What the scheduler relies on in a validated graph. The acyclicity of the inputs is
kept as a rank that every input lowers. -/
structure WellFormed (graph : WorkflowGraph) : Prop where
  unique : graph.ids.Nodup
  known : ∀ node ∈ graph.nodes, ∀ input ∈ node.inputs, input ∈ graph.ids
  ranked : ∃ rank : NodeId → Nat,
    ∀ node ∈ graph.nodes, ∀ input ∈ node.inputs, rank input < rank node.id
  single : graph.nodes.countP graph.unreferenced = 1

variable {fuel : Nat} {nodes remaining : List WorkflowNode} {done : List NodeId}

theorem check_unique_ok {seen : List NodeId} : checkUnique seen nodes = .ok () ↔
    (nodes.map WorkflowNode.id).Nodup ∧ ∀ node ∈ nodes, node.id ∉ seen := by
  induction nodes generalizing seen with
  | nil => simp [checkUnique]
  | cons node rest ih =>
    simp only [checkUnique]
    split
    · simp_all
    · grind

theorem check_inputs_ok {ids : List NodeId} : checkInputs ids nodes = .ok () ↔
    ∀ node ∈ nodes, ∀ input ∈ node.inputs, input ∈ ids := by
  induction nodes with
  | nil => simp [checkInputs]
  | cons node rest ih =>
    simp only [checkInputs, List.forall_mem_cons]
    split
    · rename_i input missing
      have named := List.mem_of_find?_eq_some missing
      have unknown := List.find?_some missing
      simp only [decide_eq_true_eq] at unknown
      simp only [reduceCtorEq, false_iff]
      exact fun known => unknown (known.1 input named)
    · simp_all

theorem kahn_round {ready : List NodeId}
    (left : remaining ≠ [])
    (chosen : (remaining.filter fun node => node.inputsWithin done).map WorkflowNode.id = ready) :
    kahn (fuel + 1) remaining done = .ok () ↔ ready ≠ [] ∧
      kahn fuel (remaining.filter fun node => node.id ∉ ready) (ready ++ done) = .ok () := by
  cases remaining with
  | nil => exact absurd rfl left
  | cons first others =>
    simp only [kahn, chosen]
    cases ready <;> simp

/-- Each round of Kahn's loop puts its nodes one rank above everything removed before. -/
theorem kahn_ranked
    (distinct : (remaining.map WorkflowNode.id).Nodup) (fresh : ∀ node ∈ remaining, node.id ∉ done)
    (accepted : kahn fuel remaining done = .ok ()) :
    ∃ rank : NodeId → Nat, (∀ id ∈ done, rank id = 0) ∧
      ∀ node ∈ remaining, ∀ input ∈ node.inputs, rank input < rank node.id := by
  induction fuel generalizing remaining done with
  | zero =>
    cases remaining with
    | nil => exact ⟨fun _ => 0, fun _ _ => rfl, by simp⟩
    | cons first others => simp [kahn] at accepted
  | succ fuel ih =>
    by_cases left : remaining = []
    · exact ⟨fun _ => 0, fun _ _ => rfl, by simp [left]⟩
    · generalize chosen :
        (remaining.filter fun node => node.inputsWithin done).map WorkflowNode.id = ready at *
      have later := ((kahn_round left chosen).mp accepted).2
      have keptDistinct :
          ((remaining.filter fun node => node.id ∉ ready).map WorkflowNode.id).Nodup :=
        distinct.sublist (List.filter_sublist.map _)
      rcases ih keptDistinct (by
        intro node member
        rw [List.mem_filter] at member
        simp only [List.mem_append, not_or]
        exact ⟨by simpa using member.2, fresh node member.1⟩) later with ⟨rank, removed, ranked⟩
      refine ⟨fun id => if id ∈ done then 0 else rank id + 1, ?_, ?_⟩
      · intro id member
        simp [member]
      · intro node member input named
        simp only [if_neg (fresh node member)]
        by_cases front : node.id ∈ ready
        · -- The ids are distinct, so the ready node of this id is the node itself.
          rw [← chosen, List.mem_map] at front
          rcases front with ⟨other, picked, same⟩
          rw [List.mem_filter] at picked
          have equal : other = node := List.inj_on_of_nodup_map distinct picked.1 member same
          subst equal
          have settled := List.all_eq_true.mp picked.2 input named
          simp only [decide_eq_true_eq] at settled
          simp [settled]
        · have kept : node ∈ remaining.filter fun node => node.id ∉ ready := by
            rw [List.mem_filter]
            exact ⟨member, by simpa using front⟩
          have lower := ranked node kept input named
          by_cases settled : input ∈ done
          · simp [settled]
          · simp only [if_neg settled]
            omega

theorem validate_ok {graph : WorkflowGraph} : graph.validate = .ok () ↔ graph.nodes ≠ [] ∧
    checkUnique [] graph.nodes = .ok () ∧ checkInputs graph.ids graph.nodes = .ok () ∧
    graph.assertAcyclic = .ok () ∧ graph.nodes.countP graph.unreferenced = 1 := by
  simp only [WorkflowGraph.validate]
  cases checkUnique [] graph.nodes <;> cases checkInputs graph.ids graph.nodes <;>
    cases graph.assertAcyclic <;> by_cases bare : graph.nodes = [] <;>
    by_cases single : graph.nodes.countP graph.unreferenced = 1 <;>
    simp [bare, single, bind, Except.bind, throw, throwThe, MonadExceptOf.throw, pure, Except.pure]

theorem validate_well_formed {graph : WorkflowGraph} (valid : graph.validate = .ok ()) :
    WellFormed graph := by
  obtain ⟨-, unique, known, acyclic, single⟩ := validate_ok.mp valid
  have distinct := (check_unique_ok.mp unique).1
  obtain ⟨rank, -, ranked⟩ := kahn_ranked distinct (by simp) acyclic
  exact ⟨distinct, check_inputs_ok.mp known, ⟨rank, ranked⟩, single⟩

open Relation

/-- `input` is an input of the node `id`. -/
def WorkflowGraph.Feeds (graph : WorkflowGraph) (input id : NodeId) : Prop :=
  ∃ node ∈ graph.nodes, node.id = id ∧ input ∈ node.inputs

/-- `node` is no other node's input. -/
def WorkflowGraph.Sink (graph : WorkflowGraph) (node : WorkflowNode) : Prop :=
  node ∈ graph.nodes ∧ ∀ other ∈ graph.nodes, other ≠ node → node.id ∉ other.inputs

structure WorkflowGraph.Valid (graph : WorkflowGraph) : Prop where
  filled : graph.nodes ≠ []
  unique : graph.ids.Nodup
  known : ∀ node ∈ graph.nodes, ∀ input ∈ node.inputs, input ∈ graph.ids
  acyclic : ∀ id, ¬ TransGen graph.Feeds id id
  single : ∃! node, graph.Sink node

theorem acyclic_least {edge : NodeId → NodeId → Prop} (acyclic : ∀ id, ¬ TransGen edge id id)
    {ids : Set NodeId} (finite : ids.Finite) (inhabited : ids.Nonempty) :
    ∃ id ∈ ids, ∀ other ∈ ids, ¬ edge other id := by
  have strict : IsStrictOrder NodeId (TransGen edge) :=
    { irrefl := acyclic, trans := fun _ _ _ => TransGen.trans }
  obtain ⟨id, -, least⟩ := (finite.wellFoundedOn (r := TransGen edge)).has_min Set.univ
    ⟨⟨_, inhabited.some_mem⟩, trivial⟩
  exact ⟨id, id.2, fun other inside leads => least ⟨other, inside⟩ trivial (.single leads)⟩

variable {graph : WorkflowGraph} (acyclic : ∀ id, ¬ TransGen graph.Feeds id id)

include acyclic in
theorem kahn_complete
    (listed : remaining ⊆ graph.nodes) (enough : remaining.length ≤ fuel)
    (known : ∀ node ∈ remaining, ∀ input ∈ node.inputs,
      input ∈ done ∨ input ∈ remaining.map WorkflowNode.id) :
    kahn fuel remaining done = .ok () := by
  induction fuel generalizing remaining done with
  | zero =>
    rw [List.length_eq_zero_iff.mp (Nat.le_zero.mp enough)]
    rfl
  | succ fuel ih =>
    by_cases left : remaining = []
    · simp [left, kahn]
    · rw [kahn_round left rfl]
      obtain ⟨first, among⟩ := List.exists_mem_of_ne_nil _ left
      obtain ⟨id, inside, least⟩ := acyclic_least acyclic
        (List.finite_toSet (remaining.map WorkflowNode.id)) ⟨_, List.mem_map_of_mem among⟩
      obtain ⟨node, member, rfl⟩ := List.mem_map.mp inside
      have settled : node.inputsWithin done := by
        refine List.all_eq_true.mpr fun input named => decide_eq_true ?_
        refine (known node member input named).resolve_right fun other => ?_
        exact least input other ⟨node, listed member, rfl, named⟩
      generalize chosen :
        (remaining.filter fun node => node.inputsWithin done).map WorkflowNode.id = ready
      have removed : node.id ∈ ready :=
        chosen ▸ List.mem_map_of_mem (List.mem_filter.mpr ⟨member, settled⟩)
      refine ⟨List.ne_nil_of_mem removed, ih (fun _ kept => listed (List.mem_of_mem_filter kept)) ?_ ?_⟩
      · have fewer : (remaining.filter fun node => node.id ∉ ready).length < remaining.length :=
          List.length_filter_lt_length_iff_exists.mpr ⟨node, member, by simpa using removed⟩
        omega
      · intro node kept input named
        rcases known node (List.mem_of_mem_filter kept) input named with settled | inside
        · simp [settled]
        · obtain ⟨other, member, rfl⟩ := List.mem_map.mp inside
          by_cases front : other.id ∈ ready
          · simp [front]
          · exact .inr (List.mem_map_of_mem (List.mem_filter.mpr ⟨member, decide_eq_true front⟩))

include acyclic in
theorem only_sink (distinct : graph.ids.Nodup) {node : WorkflowNode} :
    graph.nodes.filter graph.unreferenced = [node] ↔
      graph.Sink node ∧ ∀ other, graph.Sink other → other = node := by
  -- A node of its own inputs would be a cycle.
  have sinks (node) : graph.Sink node ↔ node ∈ graph.nodes.filter graph.unreferenced := by
    simp only [WorkflowGraph.Sink, WorkflowGraph.unreferenced, List.mem_filter, decide_eq_true_eq,
      List.mem_flatMap, not_exists, not_and]
    refine and_congr_right fun member => forall₂_congr fun other inside => ⟨?_, fun free _ => free⟩
    rintro free named
    by_cases same : other = node
    · exact acyclic node.id (.single ⟨node, member, rfl, same ▸ named⟩)
    · exact free same named
  simp only [sinks]
  constructor
  · intro only
    simp [only]
  · rintro ⟨sink, only⟩
    rw [← List.perm_singleton, List.perm_ext_iff_of_nodup (distinct.of_map.filter _) (by simp)]
    intro other
    rw [List.mem_singleton]
    exact ⟨only other, fun same => same ▸ sink⟩

theorem validate_valid : graph.validate = .ok () ↔ graph.Valid := by
  have sinks (acyclic : ∀ id, ¬ TransGen graph.Feeds id id) (distinct : graph.ids.Nodup) :
      graph.nodes.countP graph.unreferenced = 1 ↔ ∃! node, graph.Sink node := by
    rw [List.countP_eq_length_filter, List.length_eq_one_iff]
    exact exists_congr fun node => only_sink acyclic distinct
  constructor
  · intro valid
    obtain ⟨unique, known, ⟨rank, ranked⟩, single⟩ := validate_well_formed valid
    have acyclic (id) : ¬ TransGen graph.Feeds id id := by
      intro loop
      have lower : TransGen (· < ·) (rank id) (rank id) := by
        refine loop.lift rank ?_
        rintro input _ ⟨node, member, rfl, named⟩
        exact ranked node member input named
      rw [transGen_eq_self] at lower
      exact lt_irrefl _ lower
    exact ⟨(validate_ok.mp valid).1, unique, known, acyclic, (sinks acyclic unique).mp single⟩
  · rintro ⟨filled, unique, known, acyclic, single⟩
    have removed : graph.assertAcyclic = .ok () := kahn_complete acyclic (List.Subset.refl _)
      (Nat.le_refl _) fun node member input named => .inr (known node member input named)
    exact validate_ok.mpr ⟨filled, check_unique_ok.mpr ⟨unique, by simp⟩,
      check_inputs_ok.mpr known, removed, (sinks acyclic unique).mpr single⟩

theorem validate_exact (graph : WorkflowGraph) :
    (graph.validate = .ok () ↔ graph.Valid) ∧
    (graph.validate = .ok () → ∃ node, graph.terminal = some node ∧ graph.Sink node ∧
      ∀ other ∈ graph.nodes, ReflTransGen graph.Feeds other.id node.id) := by
  refine ⟨validate_valid, fun valid => ?_⟩
  obtain ⟨-, unique, -, acyclic, node, sink⟩ := validate_valid.mp valid
  refine ⟨node, ?_, sink.1, fun start member => ?_⟩
  · rw [WorkflowGraph.terminal, ← List.head?_filter, (only_sink acyclic unique).mpr sink]
    rfl
  · -- The last node on a path from `start` is no node's input.
    obtain ⟨_, ⟨inside, reached⟩, last⟩ := @acyclic_least (Function.swap graph.Feeds)
      (fun id loop => acyclic id (transGen_swap.mp loop)) _
      ((List.finite_toSet graph.ids).inter_of_left {id | ReflTransGen graph.Feeds start.id id})
      ⟨start.id, List.mem_map_of_mem member, .refl⟩
    obtain ⟨other, member, rfl⟩ := List.mem_map.mp inside
    have same := sink.2 other ⟨member, fun next further _ named => last next.id
      ⟨List.mem_map_of_mem further, reached.tail ⟨next, further, rfl, named⟩⟩
      ⟨next, further, rfl, named⟩⟩
    exact same ▸ reached

end A2aBridge.Workflow
