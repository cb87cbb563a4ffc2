import A2aBridge.RegistryLeases

/-!
The registry's lease invariant. The published state names only live slots, because a slot
is marked retired after the state that drops it was stored, under one lock. A slot whose
idle claim stands has no guard that was found unclaimed: the claim is raised before the
lease count is read, and a lease is counted before the claim is read.
-/

namespace A2aBridge.Registry

open TaskPool

/-- A slot the published state names under an agent. -/
structure Memory.Live (m : Memory) (id : AgentId) (s : SlotId) : Prop where
  placed : s < m.nextSlot
  unretired : (m.slots s).retired = false
  named : (m.slots s).entry.value.id = id

variable {m after : Memory} {id : AgentId}

theorem Memory.Live.keeps {s : SlotId} (live : m.Live id s) (grows : m.nextSlot ≤ after.nextSlot)
    (slot : after.slots s = m.slots s) : after.Live id s := by
  refine ⟨Nat.lt_of_lt_of_le live.placed grows, ?_, ?_⟩ <;> rw [slot]
  · exact live.unretired
  · exact live.named

def Memory.Unmapped (m : Memory) (s : SlotId) : Prop := ∀ id, m.lookup id ≠ some s

structure Reconciled (m : Memory) (old : RoutingState) (next : SlotMap) : Prop where
  old_eq : old = m.published
  live : ∀ id s, next.lookup id = some s → m.Live id s
  unclaimed : ∀ id s, next.lookup id = some s → s ∉ m.claims

/-- What an idle watcher that has raised its claim knows. -/
structure Claiming (m : Memory) (s : SlotId) (entry : EntryRef) : Prop where
  mapped : m.lookup entry.value.id = some s
  unclaimed : s ∉ m.claims
  raised : (m.slots s).idleRetiring = true

/-- What a task that holds the writer lock knows of the memory. -/
def Holds (m : Memory) : Task → Prop
  | .invalidateBound use _ .publish => m.lookup use.entry.value.id = some use.route.slot
  | .invalidateBound use _ .mark => m.Unmapped use.route.slot
  | .invalidate agent (.publish s) => m.lookup agent = some s
  | .invalidate _ (.mark s) => m.Unmapped s
  | .apply _ (.reconcile old _ _ next) => Reconciled m old next
  | .apply _ (.retire _ todo) => ∀ s ∈ todo, m.Unmapped s
  | .watch s (.claim _ entry) => m.lookup entry.value.id = some s ∧ s ∉ m.claims
  | .watch s (.claimLeases _ entry) => Claiming m s entry
  | .watch s (.claimEpoch _ entry) => Claiming m s entry
  | .watch s .withdraw => s ∉ m.claims
  | .watch s (.publish entry) => m.lookup entry.value.id = some s ∧ s ∈ m.claims
  | .watch s .mark => m.Unmapped s ∧ s ∈ m.claims
  | _ => True

/-- The slot of a watcher whose claim was granted and which is still published. -/
def Task.pending : Task → Option SlotId
  | .watch s (.publish _) => some s
  | _ => none

/-- The published state and the granted claims, apart from the claim `pending`. -/
structure Tidy (m : Memory) (pending : Option SlotId) : Prop where
  mapped : ∀ id s, m.lookup id = some s → m.Live id s
  claimed : ∀ s ∈ m.claims, s < m.nextSlot ∧ (m.slots s).idleRetiring = true
  unclaimed : ∀ id s, m.lookup id = some s → s ∈ m.claims → pending = some s

variable {task : Task} {s : SlotId}

section Frames

theorem holds_of_idle (idle : task.locks = false ∨ task.entering = true) : Holds m task := by
  cases task with
  | invalidateBound use digest point | invalidate agent point | apply desired point
  | watch slot point => cases point <;> first | trivial | cases idle <;> contradiction
  | _ => trivial

theorem holds_of_unlocked (outside : task.locks = false) : Holds m task :=
  holds_of_idle (.inl outside)

variable (frame : Frame m after)

include frame

theorem Frame.live (live : m.Live id s) :
    after.Live id s where
  placed := by rw [frame.nextSlot]; exact live.placed
  unretired := by rw [frame.retired]; exact live.unretired
  named := by rw [frame.entry]; exact live.named

theorem Frame.unmapped (unmapped : m.Unmapped s) : after.Unmapped s := by
  intro id found
  exact unmapped id (frame.lookup id ▸ found)

theorem Frame.claiming {entry : EntryRef} (claiming : Claiming m s entry) :
    Claiming after s entry where
  mapped := by rw [frame.lookup]; exact claiming.mapped
  unclaimed := by rw [frame.claims]; exact claiming.unclaimed
  raised := by rw [frame.idleRetiring]; exact claiming.raised

theorem Frame.reconciled {old : RoutingState} {next : SlotMap}
    (reconciled : Reconciled m old next) : Reconciled after old next where
  old_eq := by rw [frame.published]; exact reconciled.old_eq
  live := fun id s found => frame.live (reconciled.live id s found)
  unclaimed := by rw [frame.claims]; exact reconciled.unclaimed

theorem Frame.holds (holds : Holds m task) : Holds after task := by
  cases task with
  | invalidateBound use digest point =>
    cases point with
    | publish => exact (frame.lookup _).trans holds
    | mark => exact frame.unmapped holds
    | _ => trivial
  | invalidate agent point =>
    cases point with
    | publish s => exact (frame.lookup _).trans holds
    | mark s => exact frame.unmapped holds
    | _ => trivial
  | apply desired point =>
    cases point with
    | reconcile old edition todo next => exact frame.reconciled holds
    | retire edition todo => exact fun s member => frame.unmapped (holds s member)
    | _ => trivial
  | watch slot point =>
    cases point with
    | claim | publish =>
      exact ⟨(frame.lookup _).trans holds.1, by rw [frame.claims]; exact holds.2⟩
    | claimLeases | claimEpoch => exact frame.claiming holds
    | withdraw =>
      intro claimed
      exact holds (frame.claims ▸ claimed)
    | mark => exact ⟨frame.unmapped holds.1, by rw [frame.claims]; exact holds.2⟩
    | _ => trivial
  | _ => trivial

theorem Frame.tidy {pending : Option SlotId} (tidy : Tidy m pending) :
    Tidy after pending where
  mapped := fun id s found => frame.live (tidy.mapped id s (frame.lookup id ▸ found))
  claimed := fun s claimed => by
    rw [frame.nextSlot, frame.idleRetiring]
    exact tidy.claimed s (frame.claims ▸ claimed)
  unclaimed := fun id s found claimed =>
    tidy.unclaimed id s (frame.lookup id ▸ found) (frame.claims ▸ claimed)

end Frames

variable {t slot : SlotId} {flag : Bool} {point : WatchPoint} {settings : Settings}
  {out : Outcome Memory Task} {choice : Choice} {pool : RegistryPool} {snap : RegistrySnapshot}

section Writers

structure Writes (m : Memory) (task : Task) (out : Outcome Memory Task) : Prop where
  tidy : Tidy out.memory out.task.pending
  holds : Holds out.memory out.task
  grows : m.nextSlot ≤ out.memory.nextSlot
  claims : ∀ s ∈ out.memory.claims, s ∈ m.claims ∨
    ∃ epoch entry, task = .watch s (.claimEpoch epoch entry)

variable {left : Task} {pending : Option SlotId} {cur : SlotId} {entry : EntryRef} {e : AgentEntry}
  {edition : Nat} {desired : RegistrySnapshot} {old : RoutingState}

variable {next : SlotMap} {started : List Task} {todo : List AgentEntry}

theorem Writes.frame (frame : Frame m after) (tidy : Tidy m task.pending)
    (pending : left.pending = task.pending) (holds : Holds m left) :
    Writes m task ⟨after, left, started⟩ where
  tidy := by
    rw [pending]
    exact frame.tidy tidy
  holds := frame.holds holds
  grows := Nat.le_of_eq frame.nextSlot.symm
  claims := fun s claimed => .inl (frame.claims ▸ claimed)

theorem Tidy.unique (tidy : Tidy m pending) {other : AgentId} (found : m.lookup id = some s)
    (also : m.lookup other = some s) : id = other :=
  (tidy.mapped id s found).named.symm.trans (tidy.mapped other s also).named

theorem replace_unmapped (tidy : Tidy m pending)
    (found : m.lookup entry.value.id = some s) : (m.replace entry).Unmapped s := by
  intro id named
  rw [replace_lookup] at named
  split at named
  · cases named
    exact absurd (tidy.mapped _ _ found).placed (Nat.lt_irrefl _)
  · next differ => exact differ (tidy.unique named found)

theorem Writes.replaces (tidy : Tidy m task.pending) (found : m.lookup entry.value.id = some s)
    (alone : task.pending = none ∨ task.pending = some s) (pending : left.pending = none)
    (holds : (m.replace entry).Unmapped s → Holds (m.replace entry) left) :
    Writes m task ⟨m.replace entry, left, []⟩ where
  tidy := by
    rw [pending]
    -- A fresh slot under the entry's id: the state stays tidy and drops the old slot.
    constructor
    · intro id t named
      rw [replace_lookup] at named
      split at named
      · next same =>
        cases named
        constructor
        · exact Nat.lt_succ_self _
        · simp [Slot.new]
        · simp [Slot.new, same]
      · have live := tidy.mapped id t named
        exact live.keeps (Nat.le_succ _) (by rw [replace_slots, if_neg (Nat.ne_of_lt live.placed)])
    · intro t claimed
      obtain ⟨placed, raised⟩ := tidy.claimed t claimed
      refine ⟨Nat.lt_succ_of_lt placed, ?_⟩
      rw [replace_slots, if_neg (Nat.ne_of_lt placed)]
      exact raised
    · intro id t named claimed
      rw [replace_lookup] at named
      split at named
      · cases named
        exact absurd (tidy.claimed _ claimed).1 (Nat.lt_irrefl _)
      · next differ =>
        -- The only claimed slot that may be published is the one that was just replaced.
        have same := tidy.unclaimed id t named claimed
        rcases alone with none | this
        · rw [none] at same
          cases same
        · rw [this] at same
          cases same
          exact absurd (tidy.unique named found) differ
  holds := holds (replace_unmapped tidy found)
  grows := Nat.le_succ _
  claims := fun _ claimed => .inl claimed

theorem Writes.marks (tidy : Tidy m task.pending) (unmapped : m.Unmapped s)
    (pending : left.pending = task.pending)
    (holds : Holds (m.setRetired s) left) : Writes m task ⟨m.setRetired s, left, started⟩ where
  tidy := by
    rw [pending]
    dsimp only
    refine ⟨fun id t found => ?_, fun t claimed => ?_, tidy.unclaimed⟩
    · have other : t ≠ s := fun same => unmapped id (same ▸ found)
      exact (tidy.mapped id t found).keeps (Nat.le_refl _) (by simp [Memory.setRetired, other])
    · have was := tidy.claimed t claimed
      exact ⟨was.1, (modify_slot_kept Slot.idleRetiring (by rfl) t).trans was.2⟩
  holds := holds
  grows := Nat.le_refl _
  claims := fun _ claimed => .inl claimed

theorem Writes.unlocks (tidy : Tidy m task.pending) (pending : left.pending = task.pending)
    (outside : left.locks = false) : Writes m task ⟨{ m with writeLock := false }, left, []⟩ :=
  .frame (frame_write_lock false) tidy pending (holds_of_unlocked outside)

theorem invalidate_bound_writes {use : BoundUse} {digest : String} {point : InvalidateBoundPoint}
    (inside : point.locks = true) (holds : Holds m (.invalidateBound use digest point))
    (tidy : Tidy m none) (acted : actInvalidateBound m use digest point choice = some out) :
    Writes m (.invalidateBound use digest point) out := by
  cases choice with
  | proceed =>
    cases point with
    | lock | leave => cases inside
    | exact =>
      simp only [actInvalidateBound] at acted
      split at acted
      · next exact =>
        split at acted <;> cases acted
        · exact .frame frame_refl tidy rfl trivial
        · exact .frame frame_refl tidy rfl exact.1
      · cases acted
        exact .frame frame_refl tidy rfl trivial
    | detach =>
      simp only [actInvalidateBound] at acted
      split at acted <;> cases acted
      · exact .frame (frame_remove_bound _) tidy rfl trivial
      · exact .frame frame_refl tidy rfl trivial
    | publish =>
      cases acted
      exact .replaces tidy holds (.inl rfl) rfl fun unmapped => unmapped
    | mark =>
      cases acted
      exact .marks tidy holds rfl trivial
    | unlock =>
      cases acted
      exact .unlocks tidy rfl rfl
  | _ => cases point <;> cases acted

theorem invalidate_writes {agent : AgentId} {point : InvalidatePoint}
    (inside : point.locks = true) (holds : Holds m (.invalidate agent point))
    (tidy : Tidy m none) (acted : actInvalidate m agent point choice = some out) :
    Writes m (.invalidate agent point) out := by
  cases choice with
  | proceed =>
    cases point with
    | lock => cases inside
    | find =>
      simp only [actInvalidate] at acted
      split at acted <;> cases acted
      · next found => exact .frame frame_refl tidy rfl found
      · exact .frame frame_refl tidy rfl trivial
    | publish s =>
      cases acted
      have named := (tidy.mapped agent s holds).named
      refine .replaces tidy ?_ (.inl rfl) rfl fun unmapped => unmapped
      rw [named]
      exact holds
    | mark s =>
      cases acted
      exact .marks tidy holds rfl trivial
    | unlock =>
      cases acted
      exact .unlocks tidy rfl rfl
  | _ => cases point <;> cases acted

theorem Memory.Live.modify {change : Slot → Slot} (live : m.Live id s)
    (retired : (change (m.slots cur)).retired = (m.slots cur).retired)
    (named : (change (m.slots cur)).entry.value.id = (m.slots cur).entry.value.id) :
    (m.modifySlot cur change).Live id s where
  placed := live.placed
  unretired := (modify_slot_kept Slot.retired retired s).trans live.unretired
  named := (modify_slot_kept (fun slot => slot.entry.value.id) named s).trans live.named

theorem new_slot_live (live : m.Live id s) : (m.newSlot edition e).Live id s :=
  live.keeps (Nat.le_succ _) (by rw [new_slot_slots, if_neg (Nat.ne_of_lt live.placed)])

theorem new_slot_fresh : (m.newSlot edition e).Live e.id m.nextSlot :=
  ⟨Nat.lt_succ_self _, by simp [Slot.new], by simp [Slot.new]⟩

theorem lookup_insert_cases {key : AgentId} (found : (next.insert key s).lookup id = some t) :
    id = key ∧ t = s ∨ next.lookup id = some t := by
  by_cases same : id = key
  · subst same
    rw [AList.lookup_insert] at found
    exact .inl ⟨rfl, (Option.some.inj found).symm⟩
  · rw [AList.lookup_insert_ne same] at found
    exact .inr found

theorem reconcile_reuses (tidy : Tidy m none) (reconciled : Reconciled m old next)
    (reused : reusable m old e = some cur) :
    Writes m (.apply desired (.reconcile old edition (e :: todo) next))
      ⟨m.storeEntry cur edition e,
        .apply desired (.reconcile old edition todo (next.insert e.id cur)), []⟩ := by
  rw [reconciled.old_eq] at reused
  have found := (Option.filter_eq_some_iff.mp reused).1
  have live := tidy.mapped _ _ found
  have kept : ∀ {id s}, m.Live id s → (m.storeEntry cur edition e).Live id s := by
    intro id s was
    have placed : (m.modifySlot cur fun slot =>
        { slot with entry := ⟨m.nextEntry, edition, e⟩ }).Live id s := was.modify rfl live.named.symm
    exact ⟨placed.placed, placed.unretired, placed.named⟩
  refine ⟨⟨fun id s named => kept (tidy.mapped id s named), ?_, tidy.unclaimed⟩,
    ⟨reconciled.old_eq, ?_, ?_⟩, Nat.le_refl _, fun _ claimed => .inl claimed⟩
  · intro s claimed
    simp only [Memory.storeEntry, modify_slot_kept Slot.idleRetiring]
    exact tidy.claimed s claimed
  · intro id s named
    rcases lookup_insert_cases named with ⟨rfl, rfl⟩ | before
    · exact kept live
    · exact kept (reconciled.live id s before)
  · intro id s named
    rcases lookup_insert_cases named with ⟨rfl, rfl⟩ | before
    · intro claimed
      cases tidy.unclaimed _ _ found claimed
    · exact reconciled.unclaimed id s before

theorem reconcile_adds (tidy : Tidy m none) (reconciled : Reconciled m old next) :
    Writes m (.apply desired (.reconcile old edition (e :: todo) next))
      ⟨m.newSlot edition e,
        .apply desired (.reconcile old edition todo (next.insert e.id m.nextSlot)), []⟩ := by
  refine ⟨⟨fun id s named => new_slot_live (tidy.mapped id s named), ?_, tidy.unclaimed⟩,
    ⟨reconciled.old_eq, ?_, ?_⟩, Nat.le_succ _, fun _ claimed => .inl claimed⟩
  · intro s claimed
    obtain ⟨placed, raised⟩ := tidy.claimed s claimed
    refine ⟨Nat.lt_succ_of_lt placed, ?_⟩
    rw [new_slot_slots, if_neg (Nat.ne_of_lt placed)]
    exact raised
  · intro id s named
    rcases lookup_insert_cases named with ⟨rfl, rfl⟩ | before
    · exact new_slot_fresh
    · exact new_slot_live (reconciled.live id s before)
  · intro id s named
    rcases lookup_insert_cases named with ⟨rfl, rfl⟩ | before
    · intro claimed
      exact absurd (tidy.claimed _ claimed).1 (Nat.lt_irrefl _)
    · exact reconciled.unclaimed id s before

theorem mem_dropped {old : SlotMap} (member : s ∈ dropped old next) :
    ∃ id, old.lookup id = some s ∧ next.lookup id ≠ some s := by
  obtain ⟨⟨id, slot⟩, kept, rfl⟩ := List.mem_map.mp member
  obtain ⟨entry, gone⟩ := List.mem_filter.mp kept
  exact ⟨id, AList.mem_lookup_iff.mpr entry, of_decide_eq_true gone⟩

theorem apply_writes {point : ApplyPoint} (inside : point.locks = true)
    (holds : Holds m (.apply desired point)) (tidy : Tidy m none)
    (acted : actApply settings m desired point choice = some out) :
    Writes m (.apply desired point) out := by
  cases point with
  | lock => cases inside
  | validate =>
    cases choice with
    | proceed =>
      simp only [actApply] at acted
      split at acted <;> cases acted
      · exact .frame frame_refl tidy rfl trivial
      · refine ⟨⟨?_, tidy.claimed, tidy.unclaimed⟩, ⟨rfl, ?_, ?_⟩, Nat.le_refl _,
          fun _ claimed => .inl claimed⟩
        · exact fun id s named => (tidy.mapped id s named).keeps (Nat.le_refl _) rfl
        · exact fun id s named => nomatch named
        · exact fun id s named => nomatch named
    | _ => cases acted
  | reconcile old edition todo next =>
    cases choice with
    | proceed =>
      cases todo with
      | nil =>
        cases acted
        refine ⟨⟨?_, tidy.claimed, ?_⟩, ?_, Nat.le_refl _, fun _ claimed => .inl claimed⟩
        · exact fun id s named => (holds.live id s named).keeps (Nat.le_refl _) rfl
        · exact fun id s named claimed => absurd claimed (holds.unclaimed id s named)
        · intro s member id named
          obtain ⟨before, found, gone⟩ := mem_dropped member
          -- The slot's entry names one agent only, so it is dropped under every id.
          have was := (tidy.mapped before s (by rw [Memory.lookup, ← holds.old_eq]; exact found)).named
          have is := (holds.live id s named).named
          rw [← was.symm.trans is] at named
          exact gone named
      | cons e todo =>
        simp only [actApply] at acted
        split at acted <;> cases acted
        · next reused => exact reconcile_reuses tidy holds reused
        · exact reconcile_adds tidy holds
    | _ => cases todo <;> cases acted
  | retire edition todo =>
    cases choice with
    | pick index =>
      simp only [actApply] at acted
      split at acted <;> cases acted
      next found =>
        refine .marks tidy (holds _ (List.mem_of_getElem? found)) rfl ?_
        intro s member
        exact holds s (List.mem_of_mem_eraseIdx member)
    | proceed =>
      cases todo with
      | nil =>
        cases acted
        exact .frame frame_refl tidy rfl trivial
      | cons s todo => cases acted
    | _ => cases todo <;> cases acted
  | unlock answer =>
    cases choice with
    | proceed =>
      cases acted
      exact .unlocks tidy rfl rfl
    | _ => cases acted

theorem set_idle_retiring_tidy (tidy : Tidy m pending) (unclaimed : s ∉ m.claims) :
    Tidy (m.setIdleRetiring s flag) pending where
  mapped := fun id t named => (tidy.mapped id t named).modify rfl rfl
  claimed := fun t claimed => by
    obtain ⟨placed, raised⟩ := tidy.claimed t claimed
    have other : t ≠ s := fun same => unclaimed (same ▸ claimed)
    refine ⟨placed, ?_⟩
    simp only [Memory.setIdleRetiring, modify_slot_slots, if_neg other]
    exact raised
  unclaimed := tidy.unclaimed

theorem watch_writes (inside : point.locks = true) (holds : Holds m (.watch slot point))
    (tidy : Tidy m (Task.watch slot point).pending)
    (acted : actWatch m slot point choice = some out) : Writes m (.watch slot point) out := by
  cases choice with
  | proceed =>
    cases point with
    | mapped epoch =>
      simp only [actWatch] at acted
      split at acted <;> cases acted
      · exact .frame frame_refl tidy rfl trivial
      · next live =>
        rw [not_or, not_not] at live
        refine .frame frame_refl tidy rfl ⟨live.1, ?_⟩
        intro claimed
        cases tidy.unclaimed _ _ live.1 claimed
    | claim epoch entry =>
      cases acted
      exact ⟨set_idle_retiring_tidy tidy holds.2,
        ⟨holds.1, holds.2, by simp [Memory.setIdleRetiring]⟩,
        Nat.le_refl _, fun _ claimed => .inl claimed⟩
    | claimLeases epoch entry =>
      simp only [actWatch] at acted
      split at acted <;> cases acted
      · exact .frame frame_refl tidy rfl holds
      · exact .frame frame_refl tidy rfl holds.unclaimed
    | claimEpoch epoch entry =>
      simp only [actWatch] at acted
      split at acted <;> cases acted
      · refine ⟨⟨?_, ?_, ?_⟩, ⟨holds.mapped, ?_⟩, Nat.le_refl _, ?_⟩
        · exact fun id t named => (tidy.mapped id t named).keeps (Nat.le_refl _) rfl
        · exact List.forall_mem_append.mpr ⟨tidy.claimed, List.forall_mem_singleton.mpr
            ⟨(tidy.mapped _ _ holds.mapped).placed, holds.raised⟩⟩
        · intro id t named claimed
          rcases List.mem_append.mp claimed with before | this
          · cases tidy.unclaimed id t named before
          · cases List.mem_singleton.mp this
            rfl
        · exact List.mem_append_right _ (List.mem_singleton_self slot)
        · exact List.forall_mem_append.mpr ⟨fun s before => .inl before,
            List.forall_mem_singleton.mpr (.inr ⟨epoch, entry, rfl⟩)⟩
      · exact .frame frame_refl tidy rfl holds.unclaimed
    | withdraw =>
      cases acted
      exact ⟨set_idle_retiring_tidy tidy holds, trivial, Nat.le_refl _,
        fun _ claimed => .inl claimed⟩
    | publish entry =>
      cases acted
      exact .replaces tidy holds.1 (.inr rfl) rfl fun unmapped => ⟨unmapped, holds.2⟩
    | mark =>
      cases acted
      exact .marks tidy holds.1 rfl trivial
    | unlock ended =>
      cases ended <;> cases acted <;> exact .unlocks tidy rfl rfl
    | _ => cases inside
  | _ =>
    cases point with
    | unlock ended => cases ended <;> cases acted
    | _ => first | (cases acted; done) | cases inside

theorem act_writes (inside : task.locks = true) (holds : Holds m task) (tidy : Tidy m task.pending)
    (acted : act settings m task choice = some out) : Writes m task out := by
  cases task with
  | invalidateBound use digest point => exact invalidate_bound_writes inside holds tidy acted
  | invalidate agent point => exact invalidate_writes inside holds tidy acted
  | apply desired point => exact apply_writes inside holds tidy acted
  | watch slot point => exact watch_writes inside holds tidy acted
  | _ => cases inside

end Writers

/-- The lease invariant of a registry and its tasks. -/
structure Sound (pool : RegistryPool) : Prop where
  leases : ∀ s, (pool.memory.slots s).leases = pool.tasks.countP (Task.guards s)
  lock : pool.tasks.countP Task.locks = pool.memory.writeLock.toNat
  tidy : ∃ pending, Tidy pool.memory pending ∧
    ∀ s, pending = some s → ∃ task ∈ pool.tasks, task.pending = some s
  placed : ∀ task ∈ pool.tasks, ∀ s, task.slot = some s → s < pool.memory.nextSlot
  holds : ∀ task ∈ pool.tasks, Holds pool.memory task
  claimed : ∀ s ∈ pool.memory.claims, pool.tasks.countP (Task.clears s) = 0
  counted : ∀ task ∈ pool.tasks, ∀ s, task.counted = some s → pool.tasks.countP (Task.clears s) = 0

section Steps

variable {next : RegistryPool} {index : Nat}
theorem pending_locks (pending : task.pending = some s) : task.locks = true := by
  cases task with
  | watch slot point => cases point <;> first | rfl | cases pending
  | _ => cases pending

theorem Tidy.weaken (tidy : Tidy m none) (pending : Option SlotId) : Tidy m pending :=
  ⟨tidy.mapped, tidy.claimed, fun id s found claimed => by
    cases tidy.unclaimed id s found claimed⟩

theorem counted_eq (counted : task.counted = some s) :
    ∃ epoch entry, task = .watch s (.claimEpoch epoch entry) := by
  cases task with
  | watch slot point =>
    cases point with
    | claimEpoch epoch entry =>
      cases counted
      exact ⟨epoch, entry, rfl⟩
    | _ => cases counted
  | _ => cases counted

namespace Sound

variable (sound : Sound pool)

include sound

section

variable (found : pool.tasks[index]? = some task)

include found

theorem held (guard : task.guard = some s) : 0 < (pool.memory.slots s).leases := by
  rw [sound.leases, List.countP_pos_iff]
  exact ⟨task, List.mem_of_getElem? found, by simp [Task.guards, guard]⟩

omit found in
theorem blank : (pool.memory.slots pool.memory.nextSlot).leases = 0 := by
  rw [sound.leases, List.countP_eq_zero]
  intro task member guards
  have slot := guard_slot (by simpa [Task.guards] using guards)
  exact absurd (sound.placed task member _ slot) (Nat.lt_irrefl _)

theorem locked (locks : task.locks = true) : pool.memory.writeLock = true := by
  have some : 0 < pool.tasks.countP Task.locks :=
    List.countP_pos_iff.mpr ⟨task, List.mem_of_getElem? found, locks⟩
  rw [sound.lock] at some
  cases free : pool.memory.writeLock with
  | true => rfl
  | false =>
    rw [free] at some
    cases some

theorem sole (locks : task.locks = true) {other : Nat} {second : Task}
    (also : pool.tasks[other]? = some second) (too : second.locks = true) : other = index := by
  refine TaskPool.sole ?_ found locks also too
  rw [sound.lock]
  exact Bool.toNat_le _

theorem tidy_own (locks : task.locks = true) : Tidy pool.memory task.pending := by
  obtain ⟨pending, tidy, owned⟩ := sound.tidy
  cases pending with
  | none => exact tidy.weaken _
  | some s =>
    obtain ⟨owner, member, owns⟩ := owned s rfl
    obtain ⟨other, at_⟩ := List.mem_iff_getElem?.mp member
    have same := sound.sole found locks at_ (pending_locks owns)
    subst same
    cases Option.some.inj (found.symm.trans at_)
    rw [owns]
    exact tidy

theorem acts
    (acted : act settings pool.memory task choice = some out) : Acts pool.memory task out :=
  act_acts ⟨fun _ guard => sound.held found guard, sound.blank, sound.locked found⟩ acted

omit found in
theorem raised (claimed : s ∈ pool.memory.claims) : (pool.memory.slots s).idleRetiring = true := by
  obtain ⟨_, tidy, _⟩ := sound.tidy
  exact (tidy.claimed s claimed).2

omit found in
omit sound in
theorem clears_left (moves : Moves pool.memory task out) (found : pool.tasks[index]? = some task)
    (none : pool.tasks.countP (Task.clears s) = 0) (after : out.task.clears s = false) :
    (pool.leave index out).tasks.countP (Task.clears s) = 0 := by
  have count := count_left (Task.clears s) out.task out.started found
  have fresh : out.started.countP (Task.clears s) = 0 := by
    rw [List.countP_eq_zero]
    intro started member
    simp [Task.clears, (moves.started started member).2.1]
  simp only [after, none, fresh, Bool.toNat_false] at count
  exact Nat.eq_zero_of_add_eq_zero_right count

omit found in
omit sound in
/-- While a claim is raised no further guard is taken as unclaimed. -/
theorem unclear (moves : Moves pool.memory task out) (found : pool.tasks[index]? = some task)
    (raised : (pool.memory.slots s).idleRetiring = true)
    (none : pool.tasks.countP (Task.clears s) = 0) :
    (pool.leave index out).tasks.countP (Task.clears s) = 0 := by
  refine clears_left moves found none ?_
  cases clears : out.task.clears s with
  | false => rfl
  | true =>
    rcases moves.cleared s (by simpa [Task.clears] using clears) with was | down
    · have all := List.countP_eq_zero.mp none task (List.mem_of_getElem? found)
      exact absurd (by simp [Task.clears, was]) all
    · rw [raised] at down
      cases down

omit found in
theorem unleased (zero : (pool.memory.slots s).leases = 0) :
    pool.tasks.countP (Task.clears s) = 0 := by
  rw [sound.leases, List.countP_eq_zero] at zero
  rw [List.countP_eq_zero]
  intro task member clears
  exact zero task member (cleared_guards clears)

section

variable (acted : act settings pool.memory task choice = some out)

include acted

/-- Where a lease count of zero was read under a raised claim, no unclaimed guard is left. -/
theorem counted_step :
    ∀ other ∈ (pool.leave index out).tasks, ∀ s, other.counted = some s →
      (pool.leave index out).tasks.countP (Task.clears s) = 0 := by
  have moves := (sound.acts found acted).moves
  refine each_left ?_ ?_ ?_
  · intro other second _ also s counted
    have member := List.mem_of_getElem? also
    obtain ⟨epoch, entry, rfl⟩ := counted_eq counted
    exact unclear moves found (sound.holds _ member).raised (sound.counted _ member s counted)
  · intro s counted
    refine clears_left moves found (sound.unleased (moves.counted s counted)) ?_
    obtain ⟨epoch, entry, isWatch⟩ := counted_eq counted
    rw [isWatch]
    rfl
  · intro started member s counted
    obtain ⟨epoch, entry, rfl⟩ := counted_eq counted
    cases (moves.started _ member).1

theorem leases_step (s : SlotId) :
    (out.memory.slots s).leases = (pool.leave index out).tasks.countP (Task.guards s) := by
  have balanced := (sound.acts found acted).balanced
  have count := count_left (Task.guards s) out.task out.started found
  have fresh : out.started.countP (Task.guards s) = 0 := by
    rw [List.countP_eq_zero]
    intro started member
    simp [balanced.started s started member]
  have change := balanced.leases s
  rw [sound.leases] at change
  simp only [Pool.leave]
  omega

theorem lock_step :
    (pool.leave index out).tasks.countP Task.locks = out.memory.writeLock.toNat := by
  have moves := (sound.acts found acted).moves
  have count := count_left Task.locks out.task out.started found
  have fresh : out.started.countP Task.locks = 0 := by
    rw [List.countP_eq_zero]
    intro started member
    simp [(moves.started started member).1]
  have change := moves.lock
  have was := sound.lock
  simp only [Pool.leave]
  omega

theorem grows : pool.memory.nextSlot ≤ out.memory.nextSlot := by
  cases locks : task.locks with
  | false => exact Nat.le_of_eq ((sound.acts found acted).frame locks).nextSlot.symm
  | true =>
    exact (act_writes locks (sound.holds task (List.mem_of_getElem? found))
      (sound.tidy_own found locks) acted).grows

theorem placed_step :
    ∀ other ∈ (pool.leave index out).tasks, ∀ s, other.slot = some s → s < out.memory.nextSlot := by
  have moves := (sound.acts found acted).moves
  have grows := sound.grows found acted
  have own : ∀ s, task.slot = some s → s < out.memory.nextSlot := fun s slot =>
    Nat.lt_of_lt_of_le (sound.placed task (List.mem_of_getElem? found) s slot) grows
  refine each_left ?_ ?_ ?_
  · intro other second _ also s slot
    exact Nat.lt_of_lt_of_le (sound.placed second (List.mem_of_getElem? also) s slot) grows
  · intro s slot
    rcases moves.slot s slot with was | ⟨id, named⟩
    · exact own s was
    · obtain ⟨_, tidy, _⟩ := sound.tidy
      exact Nat.lt_of_lt_of_le (tidy.mapped id s named).placed grows
  · intro started member s slot
    exact own s ((moves.started started member).2.2 s slot)

end

theorem unlocked_step (outside : task.locks = false)
    (acted : act settings pool.memory task choice = some out) : Sound (pool.leave index out) where
  leases := sound.leases_step found acted
  lock := sound.lock_step found acted
  tidy := by
    obtain ⟨pending, tidy, owned⟩ := sound.tidy
    refine ⟨pending, ((sound.acts found acted).frame outside).tidy tidy, ?_⟩
    intro s is
    obtain ⟨owner, member, owns⟩ := owned s is
    obtain ⟨other, at_⟩ := List.mem_iff_getElem?.mp member
    refine ⟨owner, mem_left_other ?_ at_, owns⟩
    -- The owner of a pending claim holds the lock, so it is another task.
    rintro rfl
    cases Option.some.inj (found.symm.trans at_)
    rw [pending_locks owns] at outside
    cases outside
  placed := sound.placed_step found acted
  holds := by
    obtain ⟨frame, -, moves⟩ := sound.acts found acted
    have frame := frame outside
    refine each_left ?_ ?_ ?_
    · intro other second _ also
      exact frame.holds (sound.holds second (List.mem_of_getElem? also))
    · cases inside : out.task.locks with
      | false => exact holds_of_unlocked inside
      | true => exact holds_of_idle (.inr (moves.entering outside inside))
    · intro started member
      exact holds_of_unlocked (moves.started started member).1
  claimed := fun s claimed => by
    obtain ⟨frame, -, moves⟩ := sound.acts found acted
    have before : s ∈ pool.memory.claims := (frame outside).claims ▸ claimed
    exact unclear moves found (sound.raised before) (sound.claimed s before)
  counted := sound.counted_step found acted

/-- An action under the lock. The others do not hold it and know nothing of what it protects. -/
theorem locked_step (inside : task.locks = true)
    (acted : act settings pool.memory task choice = some out) : Sound (pool.leave index out) := by
  have moves := (sound.acts found acted).moves
  have holds := sound.holds task (List.mem_of_getElem? found)
  have writes := act_writes inside holds (sound.tidy_own found inside) acted
  exact {
    leases := sound.leases_step found acted
    lock := sound.lock_step found acted
    tidy := ⟨out.task.pending, writes.tidy, fun s is => ⟨out.task, mem_left_own found, is⟩⟩
    placed := sound.placed_step found acted
    holds := by
      refine each_left ?_ writes.holds ?_
      · intro other second differ also
        refine holds_of_unlocked ?_
        cases too : second.locks with
        | false => rfl
        | true => exact absurd (sound.sole found inside also too) differ
      · intro started member
        exact holds_of_unlocked (moves.started started member).1
    claimed := fun s claimed => by
      rcases writes.claims s claimed with before | ⟨epoch, entry, rfl⟩
      · exact unclear moves found (sound.raised before) (sound.claimed s before)
      · exact unclear moves found holds.raised (sound.counted _ (List.mem_of_getElem? found) s rfl)
    counted := sound.counted_step found acted }

end

theorem call_step (call : Call) : Sound (pool.accept (accept pool.memory call)) := by
  have idle : (accept pool.memory call).guard = none ∧ (accept pool.memory call).locks = false ∧
      (accept pool.memory call).slot = none ∧ (accept pool.memory call).cleared = none ∧
      (accept pool.memory call).counted = none := by
    cases call <;> exact ⟨rfl, rfl, rfl, rfl, rfl⟩
  obtain ⟨unguarded, unlocked, unplaced, uncleared, uncounted⟩ := idle
  have same : ∀ s, (pool.accept (accept pool.memory call)).tasks.countP (Task.clears s) =
      pool.tasks.countP (Task.clears s) := by
    simp [Pool.accept, Task.clears, uncleared]
  exact {
    leases := fun s => by
      simp [Pool.accept, Task.guards, unguarded, sound.leases]
    lock := by simp [Pool.accept, unlocked, sound.lock]
    tidy := by
      obtain ⟨pending, tidy, owned⟩ := sound.tidy
      refine ⟨pending, tidy, fun s is => ?_⟩
      obtain ⟨owner, member, owns⟩ := owned s is
      exact ⟨owner, List.mem_append_left _ member, owns⟩
    placed := by
      refine List.forall_mem_append.mpr ⟨sound.placed, List.forall_mem_singleton.mpr ?_⟩
      rw [unplaced]
      intro _ placed
      cases placed
    holds := List.forall_mem_append.mpr ⟨sound.holds,
      List.forall_mem_singleton.mpr (holds_of_unlocked unlocked)⟩
    claimed := fun s claimed => (same s).trans (sound.claimed s claimed)
    counted := fun task member s counted => by
      rcases List.mem_append.mp member with before | this
      · exact (same s).trans (sound.counted task before s counted)
      · cases List.mem_singleton.mp this
        rw [uncounted] at counted
        cases counted }

theorem step {event : Event Choice Call}
    (stepped : pool.step (machine settings) event = some next) : Sound next := by
  cases event with
  | call call =>
    cases stepped
    exact sound.call_step call
  | act index choice =>
    obtain ⟨task, out, found, acted, rfl⟩ := step_act stepped
    cases locks : task.locks with
    | false => exact sound.unlocked_step found locks acted
    | true => exact sound.locked_step found locks acted

end Sound

end Steps

section Boot

structure Booting (m : Memory) : Prop where
  mapped : ∀ id s, m.lookup id = some s → m.Live id s
  quiet : ∀ s, (m.slots s).leases = 0
  unclaimed : m.claims = []
  free : m.writeLock = false

theorem boot_slots_booting {entries : List AgentEntry} (booting : Booting m) :
    Booting (bootSlots m entries) := by
  induction entries generalizing m with
  | nil => exact booting
  | cons e rest ih =>
    refine ih ⟨?_, ?_, booting.unclaimed, booting.free⟩
    · intro id s named
      have live : (m.newSlot 0 e).Live id s := by
        rcases lookup_insert_cases named with ⟨rfl, rfl⟩ | before
        · exact new_slot_fresh
        · exact new_slot_live (booting.mapped id s before)
      exact live.keeps (Nat.le_refl _) rfl
    · exact fun s => (new_slot_leases (booting.quiet _) 0 e s).trans (booting.quiet s)

theorem build_booting (built : build settings snap = .ok m) : Booting m := by
  cases valid : validate settings snap with
  | error reason => simp [build, valid, bind, Except.bind] at built
  | ok done =>
    simp only [build, valid, bind, Except.bind, Except.ok.injEq] at built
    subst built
    refine boot_slots_booting ⟨?_, fun _ => rfl, rfl, rfl⟩
    nofun

theorem sound_of_boots (boots : Boots settings snap pool) : Sound pool := by
  obtain ⟨built, empty⟩ := boots
  have booting := build_booting built
  have unclaimed : ∀ s, s ∉ pool.memory.claims := by simp [booting.unclaimed]
  have idle : ∀ task, task ∉ pool.tasks := by simp [empty]
  exact {
    leases := fun s => by rw [booting.quiet, empty]; rfl
    lock := by rw [booting.free, empty]; rfl
    tidy := ⟨none, ⟨booting.mapped, fun s claimed => absurd claimed (unclaimed s),
      fun _ s _ claimed => absurd claimed (unclaimed s)⟩, fun s is => by cases is⟩
    placed := fun task member => absurd member (idle task)
    holds := fun task member => absurd member (idle task)
    claimed := fun s claimed => absurd claimed (unclaimed s)
    counted := fun task member => absurd member (idle task) }

end Boot

section Law

variable {start : RegistryPool}

theorem Sound.live (sound : Sound pool) (named : pool.memory.lookup id = some s) :
    (pool.memory.slots s).retired = false := by
  obtain ⟨_, tidy, _⟩ := sound.tidy
  exact (tidy.mapped id s named).unretired

theorem handed_clears (handed : task.handed = some s) : task.clears s = true := by
  cases task with
  | resolved | bound => simpa [Task.clears, Task.cleared] using handed
  | _ => cases handed

theorem Sound.unclaimed (sound : Sound pool) (member : task ∈ pool.tasks)
    (handed : task.handed = some s) : s ∉ pool.memory.claims := by
  intro claimed
  exact List.countP_eq_zero.mp (sound.claimed s claimed) task member (handed_clears handed)

theorem watch_retires (acted : actWatch m slot point choice = some out)
    (frame : point.locks = false → Frame m out.memory) (before : (m.slots s).retired = false)
    (after : (out.memory.slots s).retired = true) : point = .mark ∧ s = slot := by
  cases locks : point.locks with
  | false =>
    rw [(frame locks).retired, before] at after
    cases after
  | true =>
    -- Under the lock only the mark writes a retired flag of a slot that exists.
    cases choice with
    | proceed =>
      cases point with
      | mark =>
        refine ⟨rfl, ?_⟩
        cases acted
        by_contra other
        simp only [Memory.setRetired, modify_slot_slots, if_neg other] at after
        cases before.symm.trans after
      | publish entry =>
        cases acted
        rw [replace_slots] at after
        split at after
        · cases after
        · cases before.symm.trans after
      | claim | withdraw =>
        cases acted
        rw [Memory.setIdleRetiring, modify_slot_kept Slot.retired (by rfl)] at after
        cases before.symm.trans after
      | unlock ended =>
        cases ended <;> cases acted <;> cases before.symm.trans after
      | mapped _ | claimLeases _ _ | claimEpoch _ _ =>
        simp only [actWatch] at acted
        split at acted <;> cases acted <;> cases before.symm.trans after
      | _ => cases locks
    | _ =>
      cases point with
      | unlock ended => cases ended <;> cases acted
      | _ => first | (cases acted; done) | cases locks

/-- In every interleaving of the registry's calls and tasks: a slot's lease count is the
number of live guards on it; a published slot is not retired; a guard in the hands of a
caller is on a slot that was never claimed as idle; and where an idle watcher retires a
slot, no caller holds a guard on it. -/
theorem leases_are_live_guards (boots : Boots settings snap start)
    (reached : Reaches (machine settings) start pool) :
    (∀ s, (pool.memory.slots s).leases = pool.tasks.countP (Task.guards s)) ∧
    (∀ id s, pool.memory.lookup id = some s → (pool.memory.slots s).retired = false) ∧
    (∀ task ∈ pool.tasks, ∀ s, task.handed = some s → s ∉ pool.memory.claims) ∧
    ∀ index choice next watched point s,
      pool.step (machine settings) (.act index choice) = some next →
      pool.tasks[index]? = some (.watch watched point) →
      (pool.memory.slots s).retired = false → (next.memory.slots s).retired = true →
      ∀ task ∈ pool.tasks, task.handed ≠ some s := by
  have sound : Sound pool :=
    reached.invariant (sound_of_boots boots) fun _ _ _ sound _ stepped => sound.step stepped
  refine ⟨sound.leases, fun id s named => sound.live named,
    fun task member s handed => sound.unclaimed member handed, ?_⟩
  intro index choice next watched point s stepped found before after task member handed
  obtain ⟨acting, out, found', acted, rfl⟩ := step_act stepped
  cases Option.some.inj (found.symm.trans found')
  have ran : act settings pool.memory (.watch watched point) choice = some out := acted
  obtain ⟨rfl, rfl⟩ := watch_retires ran (sound.acts found ran).frame before after
  have marks := sound.holds _ (List.mem_of_getElem? found)
  exact sound.unclaimed member handed marks.2

/-- In every interleaving an agent's route leads to a slot of that agent's own entry, and the
writer lock is held exactly by the one task inside it. -/
theorem routes_reach_their_agent (boots : Boots settings snap start)
    (reached : Reaches (machine settings) start pool) :
    (∀ id s, pool.memory.lookup id = some s → (pool.memory.slots s).entry.value.id = id) ∧
    pool.tasks.countP Task.locks = pool.memory.writeLock.toNat := by
  have sound : Sound pool :=
    reached.invariant (sound_of_boots boots) fun _ _ _ sound _ stepped => sound.step stepped
  obtain ⟨_, tidy, _⟩ := sound.tidy
  exact ⟨fun id s named => (tidy.mapped id s named).named, sound.lock⟩

end Law

section Samples

def sampleSettings : Settings := ⟨1000, true, fun _ => none, fun _ => none⟩

def sampleSnapshot : RegistrySnapshot where
  default := "a"
  entries := [{ id := "a", cmd := some "run", model := some "m0" }]
  allowedCmds := ["run"]

def sampleStart : RegistryPool :=
  ⟨bootSlots (Memory.blank sampleSnapshot) sampleSnapshot.entries, []⟩

/-- A resolve that spawns the agent's backend and starts its idle watcher. -/
def sampleResolve : List (Event Choice Call) :=
  .call (.resolve "a") :: List.replicate 13 (.act 0 .proceed)

def sampleHeld : RegistryPool := (sampleStart.run (machine sampleSettings) sampleResolve).get rfl

theorem sample_leases_are_guards :
    (sampleHeld.tasks.map Task.handed).head? = some (some 0) ∧
      (sampleHeld.memory.slots 0).leases = sampleHeld.tasks.countP (Task.guards 0) :=
  have boots : Boots sampleSettings sampleSnapshot sampleStart := ⟨rfl, rfl⟩
  ⟨rfl, (leases_are_live_guards boots (reaches_of_run (Option.some_get _).symm)).1 0⟩

theorem sample_route_reaches : (sampleHeld.memory.slots 0).entry.value.id = "a" :=
  have boots : Boots sampleSettings sampleSnapshot sampleStart := ⟨rfl, rfl⟩
  (routes_reach_their_agent boots (reaches_of_run (Option.some_get _).symm)).1 "a" 0 rfl

end Samples

end A2aBridge.Registry
