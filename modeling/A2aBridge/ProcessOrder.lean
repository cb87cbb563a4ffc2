import A2aBridge.FlightJournal
import Mathlib.Data.Finset.Card
import Mathlib.Data.Prod.Lex
import Mathlib.Logic.Relation

/-!
The order in which bridge-core/process.rs signals the members of a process group: children
before their parents, by their depth below the root.
-/

namespace A2aBridge.ProcessOrder

open Flights (ProcessStartIdentity)
open Relation

structure ProcessMember where
  identity : ProcessStartIdentity
  parentPid : UInt32
  pgid : UInt32

def ProcessMember.pid (member : ProcessMember) : UInt32 := member.identity.pid

section Order

variable (members : List ProcessMember) (rootPid : UInt32)

/-- The map from pids to parents, in which a later member replaces an earlier one. -/
def parents (pid : UInt32) : Option UInt32 :=
  (members.reverse.find? fun member => member.pid = pid).map ProcessMember.parentPid

theorem parents_some {child parent : UInt32} (found : parents members child = some parent) :
    ∃ member ∈ members, member.pid = child ∧ member.parentPid = parent := by
  obtain ⟨member, last, same⟩ := Option.map_eq_some_iff.mp found
  exact ⟨member, List.mem_reverse.mp (List.mem_of_find?_eq_some last),
    by simpa using List.find?_some last, same⟩

/-- The loop of `depth` counts the links it follows; no pid is followed twice. -/
def depthFrom (seen : Finset UInt32) (cursor : UInt32) : Nat :=
  if cursor = rootPid ∨ cursor ∈ seen then 0
  else
    match found : parents members cursor with
    | none => 0
    | some parent => depthFrom (insert cursor seen) parent + 1
termination_by ((members.map ProcessMember.pid).toFinset \ seen).card
decreasing_by
  obtain ⟨member, inside, rfl, -⟩ := parents_some members found
  rw [Finset.sdiff_insert]
  refine Finset.card_erase_lt_of_mem (Finset.mem_sdiff.mpr ⟨?_, ?_⟩)
  · exact List.mem_toFinset.mpr (List.mem_map_of_mem inside)
  · exact fun again => absurd (Or.inr again) ‹_›

def depth (pid : UInt32) : Nat := depthFrom members rootPid ∅ pid

def key (member : ProcessMember) : Natᵒᵈ ×ₗ Bool ×ₗ Nat :=
  toLex (OrderDual.toDual (depth members rootPid member.pid),
    toLex (member.pid == rootPid, member.pid.toNat))

def childFirst : List ProcessMember :=
  members.mergeSort fun left right => key members rootPid left ≤ key members rootPid right

variable {members rootPid}

theorem child_first_sorted : (childFirst members rootPid).Pairwise fun earlier later =>
    depth members rootPid later.pid ≤ depth members rootPid earlier.pid := by
  refine (List.pairwise_mergeSort ?_ ?_ members).imp ?_
  · intro first second third before after
    exact decide_eq_true ((of_decide_eq_true before).trans (of_decide_eq_true after))
  · intro left right
    simpa using le_total (key members rootPid left) (key members rootPid right)
  · intro earlier later order
    have first := Prod.Lex.le_iff.mp (of_decide_eq_true order)
    exact first.elim le_of_lt fun same => same.1.le

theorem depth_from_link {seen : Finset UInt32} {cursor parent : UInt32} (below : cursor ≠ rootPid)
    (fresh : cursor ∉ seen) (link : parents members cursor = some parent) :
    depthFrom members rootPid seen cursor =
      depthFrom members rootPid (insert cursor seen) parent + 1 := by
  rw [depthFrom, if_neg (not_or.mpr ⟨below, fresh⟩)]
  split
  · rename_i none
    cases none.symm.trans link
  · rename_i found
    cases found.symm.trans link
    rfl

end Order

def Below (members : List ProcessMember) : UInt32 → UInt32 → Prop :=
  TransGen fun child parent => parents members child = some parent

/-- Distinct processes whose parent links have no cycle, with none of them above the root. -/
structure ProcessTree where
  members : List ProcessMember
  rootPid : UInt32
  distinct : (members.map ProcessMember.pid).Nodup
  acyclic : ∀ pid, ¬ Below members pid pid
  top : ∀ member ∈ members, parents members rootPid ≠ some member.pid

namespace ProcessTree

variable (tree : ProcessTree)

/-- Without a cycle the loop meets no pid again, so what it has seen does not matter. -/
theorem depth_from_unseen {seen other : Finset UInt32} {cursor : UInt32}
    (before : ∀ pid ∈ seen, Below tree.members pid cursor)
    (others : ∀ pid ∈ other, Below tree.members pid cursor) :
    depthFrom tree.members tree.rootPid seen cursor =
      depthFrom tree.members tree.rootPid other cursor := by
  fun_induction depthFrom tree.members tree.rootPid seen cursor generalizing other with
  | case1 seen cursor ends =>
    have root := ends.resolve_right fun again => tree.acyclic _ (before cursor again)
    rw [depthFrom, if_pos (.inl root)]
  | case2 seen cursor goes lone =>
    fun_cases depthFrom tree.members tree.rootPid other cursor with
    | case1 | case2 => rfl
    | case3 _ parent found => cases lone.symm.trans found
  | case3 seen cursor goes parent link ih =>
    have further {seen : Finset UInt32} (before : ∀ pid ∈ seen, Below tree.members pid cursor) :
        ∀ pid ∈ insert cursor seen, Below tree.members pid parent := by
      intro pid member
      obtain rfl | earlier := Finset.mem_insert.mp member
      · exact .single link
      · exact (before pid earlier).tail link
    have fresh : cursor ∉ other := fun again => tree.acyclic _ (others cursor again)
    rw [depth_from_link (not_or.mp goes).1 fresh link, ih (further before) (further others)]

variable {member : ProcessMember} (inside : member ∈ tree.members)

include inside

theorem parent : parents tree.members member.pid = some member.parentPid := by
  cases found : parents tree.members member.pid with
  | none =>
    rw [parents, Option.map_eq_none_iff, List.find?_eq_none] at found
    exact absurd (decide_eq_true rfl) (found member (List.mem_reverse.mpr inside))
  | some parent =>
    obtain ⟨other, also, same, rfl⟩ := parents_some _ found
    rw [List.inj_on_of_nodup_map tree.distinct also inside same]

theorem depth_child (below : member.pid ≠ tree.rootPid) :
    depth tree.members tree.rootPid member.pid =
      depth tree.members tree.rootPid member.parentPid + 1 := by
  have link := tree.parent inside
  rw [depth, depth_from_link below (Finset.notMem_empty _) link, depth]
  refine congrArg (· + 1) (tree.depth_from_unseen ?_ (by simp))
  rintro pid member
  rw [LawfulSingleton.insert_empty_eq, Finset.mem_singleton] at member
  exact member ▸ .single link

end ProcessTree

theorem child_first_ordered (tree : ProcessTree) :
    (childFirst tree.members tree.rootPid).Perm tree.members ∧
    ((childFirst tree.members tree.rootPid).Pairwise fun earlier later =>
      later.parentPid ≠ earlier.pid) ∧
    ∀ root ∈ tree.members, root.pid = tree.rootPid →
      (childFirst tree.members tree.rootPid).getLast? = some root := by
  have same : (childFirst tree.members tree.rootPid).Perm tree.members := List.mergeSort_perm _ _
  refine ⟨same, child_first_sorted.imp_of_mem ?_, ?_⟩
  · intro earlier later first second order link
    have inside := same.mem_iff.mp second
    by_cases root : later.pid = tree.rootPid
    · exact tree.top earlier (same.mem_iff.mp first) (root ▸ link ▸ tree.parent inside)
    · have deeper := tree.depth_child inside root
      rw [link] at deeper
      omega
  · intro root inside named
    have held := same.mem_iff.mpr inside
    have sorted := @child_first_sorted tree.members tree.rootPid
    obtain empty | ⟨init, last, split⟩ :=
      List.eq_nil_or_concat' (childFirst tree.members tree.rootPid)
    · rw [empty] at held
      cases held
    have final : last ∈ tree.members := same.mem_iff.mp (by simp [split])
    rw [split] at held sorted
    rw [split, List.getLast?_concat]
    by_cases top : last.pid = tree.rootPid
    · exact congrArg some
        (List.inj_on_of_nodup_map tree.distinct final inside (top.trans named.symm))
    · have deeper := tree.depth_child final top
      have among := (List.mem_append.mp held).resolve_right fun alone =>
        top (List.mem_singleton.mp alone ▸ named)
      have least := (List.pairwise_append.mp sorted).2.2 root among last List.mem_cons_self
      have zero : depth tree.members tree.rootPid root.pid = 0 := by
        rw [named, depth, depthFrom, if_pos (.inl rfl)]
      omega

theorem below_lt {members : List ProcessMember} {child parent : UInt32}
    (falls : ∀ member ∈ members, member.parentPid < member.pid)
    (below : Below members child parent) : parent < child := by
  have link {child parent : UInt32} (found : parents members child = some parent) :
      parent < child := by
    obtain ⟨member, inside, rfl, rfl⟩ := parents_some members found
    exact falls member inside
  induction below with
  | single found => exact link found
  | tail _ found ih => exact UInt32.lt_trans (link found) ih

def sampleMember (pid parentPid : UInt32) : ProcessMember := ⟨⟨pid, 0, none⟩, parentPid, 10⟩

/-- A shell under the root and a compiler under the shell. -/
def sampleTree : ProcessTree where
  members := [sampleMember 10 1, sampleMember 11 10, sampleMember 12 11]
  rootPid := 10
  distinct := by decide
  acyclic _ below := UInt32.lt_irrefl _ (below_lt (by decide) below)
  top := by decide

theorem sample_child_first :
    (childFirst sampleTree.members sampleTree.rootPid).getLast? = some (sampleMember 10 1) :=
  (child_first_ordered sampleTree).2.2 (sampleMember 10 1) List.mem_cons_self rfl

end A2aBridge.ProcessOrder
