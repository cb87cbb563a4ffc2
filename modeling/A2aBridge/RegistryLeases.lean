import A2aBridge.RegistryTasks

/-!
Who holds what in the registry: which tasks hold a live guard on a slot, which hold the
writer lock, and what an action can change without it.
-/

namespace A2aBridge.Registry

open TaskPool

variable {s t : SlotId} {task : Task} {m : Memory} {out : Outcome Memory Task}

section Holders

def ResolvePoint.guard : ResolvePoint → Option SlotId
  | .epoch gain | .claim gain | .yield gain | .check gain | .lose gain => some gain.route.slot
  | .watch gain | .launch gain | .completed gain | .abandon gain => some gain.route.slot
  | .answer gain => some gain.route.slot
  | _ => none

def BindPoint.guard : BindPoint → Option SlotId
  | .epoch route | .claim route | .check route | .giveUp route | .entry route => some route.slot
  | .mapped route _ | .live route _ | .serial route _ => some route.slot
  | _ => none

/-- The slot a task holds a live guard on: from the increment of its lease count to the
decrement. -/
def Task.guard : Task → Option SlotId
  | .resolve _ point => point.guard
  | .resolved _ held => some held.gain.route.slot
  | .bind _ point => point.guard
  | .bound _ use => some use.route.slot
  | _ => none

def Task.guards (s : SlotId) (task : Task) : Bool := task.guard == some s

/-- The slot of a guard that has been handed to a caller. -/
def Task.handed : Task → Option SlotId
  | .resolved _ held => some held.gain.route.slot
  | .bound _ use => some use.route.slot
  | _ => none

def ResolvePoint.cleared : ResolvePoint → Option SlotId
  | .check gain | .watch gain | .launch gain | .completed gain | .answer gain =>
    some gain.route.slot
  | _ => none

def BindPoint.cleared : BindPoint → Option SlotId
  | .check route | .entry route => some route.slot
  | .mapped route _ | .live route _ | .serial route _ => some route.slot
  | _ => none

/-- The slot of a guard that was found unclaimed and may still be handed out, or has been. -/
def Task.cleared : Task → Option SlotId
  | .resolve _ point => point.cleared
  | .bind _ point => point.cleared
  | task => task.handed

def Task.clears (s : SlotId) (task : Task) : Bool := task.cleared == some s

def InvalidateBoundPoint.locks : InvalidateBoundPoint → Bool
  | .lock | .leave => false
  | _ => true

def InvalidatePoint.locks : InvalidatePoint → Bool
  | .lock => false
  | _ => true

def ApplyPoint.locks : ApplyPoint → Bool
  | .lock => false
  | _ => true

def WatchPoint.locks : WatchPoint → Bool
  | .mapped _ | .claim _ _ | .claimLeases _ _ | .claimEpoch _ _ | .withdraw => true
  | .publish _ | .mark | .unlock _ => true
  | _ => false

def Task.locks : Task → Bool
  | .invalidateBound _ _ point => point.locks
  | .invalidate _ point => point.locks
  | .apply _ point => point.locks
  | .watch _ point => point.locks
  | _ => false

/-- Whether a task has just taken the lock. -/
def Task.entering : Task → Bool
  | .invalidateBound _ _ .exact | .invalidate _ .find | .apply _ .validate => true
  | .watch _ (.mapped _) => true
  | _ => false

/-- The slot of an idle watcher that has read a lease count of zero after raising its claim. -/
def Task.counted : Task → Option SlotId
  | .watch slot (.claimEpoch _ _) => some slot
  | _ => none

def ResolvePoint.slot : ResolvePoint → Option SlotId
  | .entry route | .init route _ | .spawn route _ => some route.slot
  | .lease gain | .wait gain | .verdict gain | .discard gain => some gain.route.slot
  | point => point.guard

def BindPoint.slot : BindPoint → Option SlotId
  | .lease route => some route.slot
  | point => point.guard

def Task.slot : Task → Option SlotId
  | .resolve _ point => point.slot
  | .bind _ point => point.slot
  | .resolveBound use _ _ => some use.route.slot
  | .watch slot _ => some slot
  | task => task.guard

theorem cleared_guards (clears : task.clears s = true) :
    task.guards s = true := by
  cases task with
  | resolve call point | bind call point => cases point <;> first | exact clears | cases clears
  | _ => exact clears

theorem guard_slot (guards : task.guard = some s) :
    task.slot = some s := by
  cases task with
  | resolve call point | bind call point => cases point <;> first | exact guards | cases guards
  | _ => first | exact guards | cases guards

end Holders

section Effects

@[simp] theorem modify_slot_slots (change : Slot → Slot) :
    (m.modifySlot s change).slots t = if t = s then change (m.slots s) else m.slots t := by
  simp only [Memory.modifySlot, Function.update_apply]

variable {change : Slot → Slot} {after : Memory}

theorem modify_slot_kept {Part : Type} (read : Slot → Part)
    (kept : read (change (m.slots s)) = read (m.slots s)) (t : SlotId) :
    read ((m.modifySlot s change).slots t) = read (m.slots t) := by
  rw [modify_slot_slots]
  split
  · next same => rw [kept, same]
  · rfl

@[simp] theorem new_slot_slots (edition : Nat) (e : AgentEntry) (t : SlotId) :
    (m.newSlot edition e).slots t =
      if t = m.nextSlot then Slot.new ⟨m.nextEntry, edition, e⟩ else m.slots t := by
  simp only [Memory.newSlot, Function.update_apply]

@[simp] theorem replace_slots (entry : EntryRef) (t : SlotId) :
    (m.replace entry).slots t =
      if t = m.nextSlot then Slot.new ⟨m.nextEntry, entry.edition, entry.value⟩
      else m.slots t :=
  new_slot_slots entry.edition entry.value t

theorem replace_lookup (entry : EntryRef) (id : AgentId) :
    (m.replace entry).lookup id =
      if id = entry.value.id then some m.nextSlot else m.lookup id := by
  by_cases same : id = entry.value.id
  · subst same
    simp [Memory.replace, Memory.lookup]
  · simp [Memory.replace, Memory.lookup, same]

/-- What only the holder of the writer lock changes. -/
structure Frame (m after : Memory) : Prop where
  published : after.published = m.published
  nextSlot : after.nextSlot = m.nextSlot
  claims : after.claims = m.claims
  history : after.history = m.history
  retired : ∀ s, (after.slots s).retired = (m.slots s).retired
  entry : ∀ s, (after.slots s).entry = (m.slots s).entry
  idleRetiring : ∀ s, (after.slots s).idleRetiring = (m.slots s).idleRetiring

theorem Frame.lookup (frame : Frame m after) (id : AgentId) : after.lookup id = m.lookup id := by
  simp only [Memory.lookup, frame.published]

theorem Frame.modify_slot (s : SlotId)
    (kept : ∀ slot, (change slot).retired = slot.retired ∧ (change slot).entry = slot.entry ∧
      (change slot).idleRetiring = slot.idleRetiring) : Frame m (m.modifySlot s change) where
  published := rfl
  nextSlot := rfl
  claims := rfl
  history := rfl
  retired := modify_slot_kept Slot.retired (kept _).1
  entry := modify_slot_kept Slot.entry (kept _).2.1
  idleRetiring := modify_slot_kept Slot.idleRetiring (kept _).2.2

theorem Frame.of_eq (slots : after.slots = m.slots) (published : after.published = m.published)
    (nextSlot : after.nextSlot = m.nextSlot) (claims : after.claims = m.claims)
    (history : after.history = m.history) : Frame m after :=
  ⟨published, nextSlot, claims, history, fun s => by rw [slots], fun s => by rw [slots],
    fun s => by rw [slots]⟩

@[simp] theorem frame_refl : Frame m m := .of_eq rfl rfl rfl rfl rfl

@[simp] theorem frame_add_lease : Frame m (m.addLease s) :=
  .modify_slot s fun _ => ⟨rfl, rfl, rfl⟩

@[simp] theorem frame_drop_lease : Frame m (m.dropLease s) :=
  .modify_slot s fun _ => ⟨rfl, rfl, rfl⟩

@[simp] theorem frame_bump_epoch : Frame m (m.bumpEpoch s) :=
  .modify_slot s fun _ => ⟨rfl, rfl, rfl⟩

@[simp] theorem frame_set_idle_watch : Frame m (m.setIdleWatch s) :=
  .modify_slot s fun _ => ⟨rfl, rfl, rfl⟩

@[simp] theorem frame_insert_bound (key : String) : Frame m (m.insertBound s key) :=
  have kept : Frame m (m.modifySlot s fun slot =>
      { slot with boundBackends := slot.boundBackends.insert key (.keyed s m.nextCell) }) :=
    .modify_slot s fun _ => ⟨rfl, rfl, rfl⟩
  ⟨kept.1, kept.2, kept.3, kept.4, kept.5, kept.6, kept.7⟩

@[simp] theorem frame_remove_bound (key : String) : Frame m (m.removeBound s key) :=
  .modify_slot s fun _ => ⟨rfl, rfl, rfl⟩

@[simp] theorem frame_set_cell (c : CellRef) (cell : Cell) : Frame m (m.setCell c cell) :=
  .of_eq rfl rfl rfl rfl rfl

@[simp] theorem frame_fill (c : CellRef) : Frame m (m.fill c) := .of_eq rfl rfl rfl rfl rfl

@[simp] theorem frame_send_retire (b : BackendId) : Frame m (m.sendRetire b) :=
  .of_eq rfl rfl rfl rfl rfl

@[simp] theorem frame_borrow (serial : Nat) : Frame m (m.borrow serial) :=
  .of_eq rfl rfl rfl rfl rfl

@[simp] theorem frame_give_back (serial : Nat) : Frame m (m.giveBack serial) :=
  .of_eq rfl rfl rfl rfl rfl

@[simp] theorem frame_next_bound_use (serial : Nat) :
    Frame m { m with nextBoundUse := serial } := .of_eq rfl rfl rfl rfl rfl

@[simp] theorem frame_write_lock (flag : Bool) : Frame m { m with writeLock := flag } :=
  .of_eq rfl rfl rfl rfl rfl

end Effects

section Unlocked

theorem lock_eq (locked : lock m task = some out) :
    m.writeLock = false ∧ out = ⟨{ m with writeLock := true }, task, []⟩ := by
  unfold lock at locked
  split at locked
  · cases locked
  · next free => exact ⟨by simpa using free, by cases locked; rfl⟩

end Unlocked

variable {left : Task}

section Balance

/-- An action changes a slot's lease count by what it changes of the live guards. -/
structure Balanced (m : Memory) (task : Task) (out : Outcome Memory Task) : Prop where
  leases : ∀ s, (out.memory.slots s).leases + (task.guards s).toNat =
    (m.slots s).leases + (out.task.guards s).toNat
  started : ∀ s, ∀ fresh ∈ out.started, fresh.guards s = false

theorem Balanced.aside (leases : ∀ s, (out.memory.slots s).leases = (m.slots s).leases)
    (guard : task.guard = out.task.guard) (started : ∀ fresh ∈ out.started, fresh.guard = none) :
    Balanced m task out where
  leases := fun s => by simp only [Task.guards, leases, guard]
  started := fun s fresh member => by simp [Task.guards, started fresh member]

theorem Balanced.taken (free : task.guard = none) (guard : left.guard = some s) :
    Balanced m task ⟨m.addLease s, left, []⟩ where
  leases := fun t => by
    by_cases same : t = s
    · subst same
      simp [Task.guards, free, guard, Memory.addLease]
    · simp [Task.guards, free, guard, Memory.addLease, same, Ne.symm same]
  started := by simp

theorem Balanced.released (held : 0 < (m.slots s).leases) (guard : task.guard = some s)
    (free : left.guard = none) :
    Balanced m task ⟨m.dropLease s, left, []⟩ where
  leases := fun t => by
    by_cases same : t = s
    · subst same
      simp [Task.guards, free, guard, Memory.dropLease]
      omega
    · simp [Task.guards, free, guard, Memory.dropLease, same, Ne.symm same]
  started := by simp

@[simp] theorem bump_epoch_leases : ((m.bumpEpoch s).slots t).leases = (m.slots t).leases :=
  modify_slot_kept Slot.leases (by rfl) t

@[simp] theorem set_idle_watch_leases : ((m.setIdleWatch s).slots t).leases = (m.slots t).leases :=
  modify_slot_kept Slot.leases (by rfl) t

@[simp] theorem set_idle_retiring_leases (flag : Bool) :
    ((m.setIdleRetiring s flag).slots t).leases = (m.slots t).leases :=
  modify_slot_kept Slot.leases (by rfl) t

@[simp] theorem set_retired_leases : ((m.setRetired s).slots t).leases = (m.slots t).leases :=
  modify_slot_kept Slot.leases (by rfl) t

@[simp] theorem store_entry_leases (edition : Nat) (e : AgentEntry) :
    ((m.storeEntry s edition e).slots t).leases = (m.slots t).leases := by
  simp only [Memory.storeEntry]
  exact modify_slot_kept Slot.leases (by rfl) t

@[simp] theorem insert_bound_leases (key : String) :
    ((m.insertBound s key).slots t).leases = (m.slots t).leases := by
  simp only [Memory.insertBound]
  exact modify_slot_kept Slot.leases (by rfl) t

@[simp] theorem remove_bound_leases (key : String) :
    ((m.removeBound s key).slots t).leases = (m.slots t).leases :=
  modify_slot_kept Slot.leases (by rfl) t

/-- A slot that was never handed out has no lease, so a new one may take its place. -/
theorem new_slot_leases (blank : (m.slots m.nextSlot).leases = 0) (edition : Nat) (e : AgentEntry)
    (t : SlotId) : ((m.newSlot edition e).slots t).leases = (m.slots t).leases := by
  rw [new_slot_slots]
  split
  · next same => rw [same, blank]; rfl
  · rfl

end Balance

section Moves

/-- What an action can do to a task's hold on the lock, on an unclaimed guard and on a slot. -/
structure Moves (m : Memory) (task : Task) (out : Outcome Memory Task) : Prop where
  lock : out.memory.writeLock.toNat + task.locks.toNat =
    m.writeLock.toNat + out.task.locks.toNat
  entering : task.locks = false → out.task.locks = true → out.task.entering = true
  cleared : ∀ s, out.task.cleared = some s →
    task.cleared = some s ∨ (m.slots s).idleRetiring = false
  counted : ∀ s, out.task.counted = some s → (m.slots s).leases = 0
  slot : ∀ s, out.task.slot = some s → task.slot = some s ∨ ∃ id, m.lookup id = some s
  started : ∀ fresh ∈ out.started, fresh.locks = false ∧ fresh.cleared = none ∧
    ∀ s, fresh.slot = some s → task.slot = some s

theorem some_of_kept {after before : Option SlotId} (kept : after = none ∨ after = before)
    (was : after = some s) : before = some s := by
  rcases kept with none | same
  · rw [none] at was
    cases was
  · exact same ▸ was

theorem absurd_some {held : Option SlotId} {goal : Prop} (none : held = none)
    (was : held = some s) : goal := absurd (was.symm.trans none) nofun

section

variable (lock : out.memory.writeLock = m.writeLock) (locks : out.task.locks = task.locks)
  (counted : out.task.counted = none)
  (cleared : out.task.cleared = none ∨ out.task.cleared = task.cleared)
  (slot : out.task.slot = none ∨ out.task.slot = task.slot)

include lock locks counted cleared slot

theorem Moves.starts
    (started : ∀ fresh ∈ out.started, fresh.locks = false ∧ fresh.cleared = none ∧
      (fresh.slot = none ∨ fresh.slot = task.slot)) : Moves m task out where
  lock := by rw [lock, locks]
  entering := fun outside inside => absurd (inside.symm.trans (locks.trans outside)) nofun
  cleared := fun _ was => .inl (some_of_kept cleared was)
  counted := fun _ => absurd_some counted
  slot := fun _ was => .inl (some_of_kept slot was)
  started := fun fresh member =>
    have kept := started fresh member
    ⟨kept.1, kept.2.1, fun _ was => some_of_kept kept.2.2 was⟩

theorem Moves.still (alone : out.started = []) : Moves m task out := by
  refine .starts lock locks counted cleared slot ?_
  rw [alone]
  intro fresh member
  cases member

end

theorem Moves.counts {epoch : Nat} {entry : EntryRef} (zero : (m.slots s).leases = 0) :
    Moves m (.watch s (.claimLeases epoch entry)) ⟨m, .watch s (.claimEpoch epoch entry), []⟩ where
  lock := rfl
  entering := fun outside _ => nomatch outside
  cleared := fun _ was => nomatch was
  counted := fun t was => by
    cases was
    exact zero
  slot := fun _ was => .inl was
  started := by simp

variable (counted : left.counted = none)

include counted

theorem Moves.clears (flag : ¬(m.slots s).idleRetiring = true) (cleared : left.cleared = some s)
    (locks : left.locks = task.locks)
    (slot : left.slot = task.slot) : Moves m task ⟨m, left, []⟩ where
  lock := by simp only [locks]
  entering := fun outside inside => absurd (inside.symm.trans (locks.trans outside)) nofun
  cleared := fun t was => by
    cases cleared.symm.trans was
    exact .inr (Bool.eq_false_iff.mpr flag)
  counted := fun _ => absurd_some counted
  slot := fun _ was => .inl (slot ▸ was)
  started := by simp

theorem Moves.launches (works : task.slot = some s)
    (cleared : left.cleared = none ∨ left.cleared = task.cleared) (locks : left.locks = task.locks)
    (slot : left.slot = task.slot) : Moves m task ⟨m.setIdleWatch s, left, [.watch s .top]⟩ := by
  refine .starts rfl locks counted cleared (.inr slot) ?_
  intro fresh member
  cases List.mem_singleton.mp member
  exact ⟨rfl, rfl, .inr works.symm⟩

variable (cleared : left.cleared = none)

include cleared

theorem Moves.routes {id : AgentId} (found : m.lookup id = some s) (slot : left.slot = some s)
    (locks : left.locks = task.locks) : Moves m task ⟨m, left, []⟩ where
  lock := by simp only [locks]
  entering := fun outside inside => absurd (inside.symm.trans (locks.trans outside)) nofun
  cleared := fun _ => absurd_some cleared
  counted := fun _ => absurd_some counted
  slot := fun t was => by
    cases slot.symm.trans was
    exact .inr ⟨id, found⟩
  started := by simp

variable (slot : left.slot = none ∨ left.slot = task.slot)

include slot

theorem Moves.enters (taken : Registry.lock m left = some out) (outside : task.locks = false)
    (inside : left.locks = true) (entering : left.entering = true) : Moves m task out := by
  obtain ⟨free, rfl⟩ := lock_eq taken
  exact {
    lock := by simp [free, outside, inside]
    entering := fun _ _ => entering
    cleared := fun _ => absurd_some cleared
    counted := fun _ => absurd_some counted
    slot := fun _ was => .inl (some_of_kept slot was)
    started := by simp }

theorem Moves.leaves (held : m.writeLock = true) (inside : task.locks = true)
    (outside : left.locks = false) : Moves m task ⟨{ m with writeLock := false }, left, []⟩ where
  lock := by simp [held, outside, inside]
  entering := fun was _ => absurd (inside.symm.trans was) nofun
  cleared := fun _ => absurd_some cleared
  counted := fun _ => absurd_some counted
  slot := fun _ was => .inl (some_of_kept slot was)
  started := by simp

theorem Moves.retires {after : Memory} {plan : Option CellRef}
    (lock : after.writeLock = m.writeLock) (locks : left.locks = task.locks) :
    Moves m task ⟨after, left, [.retire s (.drain plan)]⟩ := by
  refine .starts lock locks counted (.inl cleared) slot ?_
  intro fresh member
  cases List.mem_singleton.mp member
  exact ⟨rfl, rfl, .inl rfl⟩

end Moves

section Actions

variable {settings : Settings} {choice : Choice} {use : BoundUse}

/-- What a task may count on before it acts. -/
structure Ready (m : Memory) (task : Task) : Prop where
  held : ∀ s, task.guard = some s → 0 < (m.slots s).leases
  blank : (m.slots m.nextSlot).leases = 0
  locked : task.locks = true → m.writeLock = true

/-- An action keeps the lease counts and the lock in step with the tasks, and without the
lock it changes nothing that the lock protects. -/
structure Acts (m : Memory) (task : Task) (out : Outcome Memory Task) : Prop where
  frame : task.locks = false → Frame m out.memory
  balanced : Balanced m task out
  moves : Moves m task out

theorem resolve_acts {call : ResolveCall} {point : ResolvePoint}
    (ready : Ready m (.resolve call point))
    (acted : actResolve settings m call point choice = some out) :
    Acts m (.resolve call point) out := by
  revert acted ready
  fun_cases actResolve settings m call point choice <;> intro ready acted <;> cases acted
  all_goals refine ⟨fun _ => by simp, ?_, ?_⟩
  all_goals first
    | exact .aside (fun _ => rfl) rfl (by simp)
    | exact .aside (fun _ => by simp) rfl (by simp [Task.guard])
    | exact .taken rfl rfl
    | exact .released (ready.held _ rfl) rfl rfl
    | exact .still rfl rfl rfl (.inl rfl) (.inl rfl) rfl
    | exact .still rfl rfl rfl (.inl rfl) (.inr rfl) rfl
    | exact .still rfl rfl rfl (.inr rfl) (.inr rfl) rfl
    | exact .routes rfl rfl (by assumption) rfl rfl
    | exact .clears rfl (by assumption) rfl rfl rfl
    | exact .launches rfl rfl (.inr rfl) rfl rfl

variable {call : BindCall} {slot : SlotId}

theorem bind_acts {point : BindPoint} (ready : Ready m (.bind call point))
    (acted : actBind m call point choice = some out) : Acts m (.bind call point) out := by
  revert acted ready
  fun_cases actBind m call point choice <;> intro ready acted <;> cases acted
  all_goals refine ⟨fun _ => by simp, ?_, ?_⟩
  all_goals first
    | exact .aside (fun _ => by simp) rfl (by simp)
    | exact .taken rfl rfl
    | exact .released (ready.held _ rfl) rfl rfl
    | exact .still rfl rfl rfl (.inl rfl) (.inl rfl) rfl
    | exact .still rfl rfl rfl (.inl rfl) (.inr rfl) rfl
    | exact .still rfl rfl rfl (.inr rfl) (.inr rfl) rfl
    | exact .routes rfl rfl (by assumption) rfl rfl
    | exact .clears rfl (by assumption) rfl rfl rfl

theorem bound_acts (ready : Ready m (.bound call use))
    (acted : actBound m call use choice = some out) : Acts m (.bound call use) out := by
  revert acted
  fun_cases actBound m call use choice <;> intro acted <;> cases acted
  · refine ⟨fun _ => by simp, .aside (fun _ => rfl) rfl (by simp [Task.guard]),
      .starts rfl rfl rfl (.inr rfl) (.inr rfl) ?_⟩
    intro fresh member
    cases List.mem_singleton.mp member
    exact ⟨rfl, rfl, .inr rfl⟩
  · refine ⟨fun _ => by simp, .aside (fun _ => rfl) rfl (by simp [Task.guard]),
      .starts rfl rfl rfl (.inr rfl) (.inr rfl) ?_⟩
    intro fresh member
    cases List.mem_singleton.mp member
    refine ⟨?_, rfl, .inl rfl⟩
    split <;> rfl
  · exact ⟨fun _ => by simp, .released (ready.held _ rfl) rfl rfl,
      .still rfl rfl rfl (.inl rfl) (.inl rfl) rfl⟩

theorem resolve_bound_acts {effect : BoundProviderEffect} {point : ResolveBoundPoint}
    (acted : actResolveBound settings m use effect point choice = some out) :
    Acts m (.resolveBound use effect point) out := by
  revert acted
  fun_cases actResolveBound settings m use effect point choice <;> intro acted <;> cases acted
  all_goals refine ⟨fun _ => by simp, ?_, ?_⟩
  all_goals first
    | exact .aside (fun _ => rfl) rfl (by simp)
    | exact .aside (fun _ => by simp) rfl (by simp [Task.guard])
    | exact .still rfl rfl rfl (.inl rfl) (.inl rfl) rfl
    | exact .still rfl rfl rfl (.inl rfl) (.inr rfl) rfl
    | exact .launches rfl rfl (.inr rfl) rfl rfl

theorem retire_acts {point : RetirePoint}
    (acted : actRetire m slot point choice = some out) : Acts m (.retire slot point) out := by
  revert acted
  fun_cases actRetire m slot point choice <;> intro acted <;> cases acted
  all_goals exact ⟨fun _ => by simp, .aside (fun _ => rfl) rfl (by simp),
    .still rfl rfl rfl (.inl rfl) (.inl rfl) rfl⟩

theorem lookup_acts {call : LookupCall} {point : LookupPoint}
    (acted : actLookup m call point choice = some out) : Acts m (.lookup call point) out := by
  have still : ∀ left, left.guard = none → left.locks = false → left.counted = none →
      left.cleared = none → left.slot = none → Acts m (.lookup call point) ⟨m, left, []⟩ :=
    fun _ guard locks counted cleared slot => ⟨fun _ => frame_refl,
      .aside (fun _ => rfl) guard.symm (by simp),
      .still rfl locks counted (.inl cleared) (.inl slot) rfl⟩
  have found : ∀ id, actLookup.find m call id = some out → Acts m (.lookup call point) out := by
    intro id
    fun_cases actLookup.find m call id <;> intro acted <;> cases acted
    all_goals exact still _ rfl rfl rfl rfl rfl
  revert acted
  fun_cases actLookup m call point choice <;> intro acted
  all_goals first
    | exact found _ acted
    | (cases acted <;> exact still _ rfl rfl rfl rfl rfl)

theorem Acts.enters (taken : lock m left = some out) (outside : task.locks = false)
    (inside : left.locks = true) (entering : left.entering = true) (counted : left.counted = none)
    (cleared : left.cleared = none) (slot : left.slot = none ∨ left.slot = task.slot)
    (guard : task.guard = left.guard) : Acts m task out := by
  have moves := Moves.enters counted cleared slot taken outside inside entering
  obtain ⟨-, rfl⟩ := lock_eq taken
  exact ⟨fun _ => frame_write_lock true, .aside (fun _ => rfl) guard (by simp), moves⟩

theorem Acts.inside (inside : task.locks = true) (balanced : Balanced m task out)
    (moves : Moves m task out) : Acts m task out :=
  ⟨fun outside => absurd (inside.symm.trans outside) nofun, balanced, moves⟩

theorem invalidate_bound_acts {digest : String} {point : InvalidateBoundPoint}
    (ready : Ready m (.invalidateBound use digest point))
    (acted : actInvalidateBound m use digest point choice = some out) :
    Acts m (.invalidateBound use digest point) out := by
  revert acted ready
  fun_cases actInvalidateBound m use digest point choice <;> intro ready acted
  all_goals first
    | exact .enters acted rfl rfl rfl rfl rfl (.inl rfl) rfl
    | (cases acted <;> refine .inside rfl ?_ ?_)
    | (cases acted; refine ⟨fun _ => by simp, ?_, ?_⟩)
  all_goals first
    | exact .aside (fun _ => rfl) rfl (by simp)
    | exact .aside (new_slot_leases ready.blank _ _) rfl (by simp)
    | exact .aside (fun _ => by simp) rfl (by simp [Task.guard])
    | exact .still rfl rfl rfl (.inl rfl) (.inl rfl) rfl
    | exact .retires rfl rfl (.inl rfl) rfl rfl
    | exact .leaves rfl rfl (.inl rfl) (ready.locked rfl) rfl rfl

theorem invalidate_acts {agent : AgentId} {point : InvalidatePoint}
    (ready : Ready m (.invalidate agent point))
    (acted : actInvalidate m agent point choice = some out) :
    Acts m (.invalidate agent point) out := by
  revert acted ready
  fun_cases actInvalidate m agent point choice <;> intro ready acted
  all_goals first
    | exact .enters acted rfl rfl rfl rfl rfl (.inl rfl) rfl
    | (cases acted <;> refine .inside rfl ?_ ?_)
  all_goals first
    | exact .aside (new_slot_leases ready.blank _ _) rfl (by simp)
    | exact .aside (fun _ => by simp) rfl (by simp [Task.guard])
    | exact .still rfl rfl rfl (.inl rfl) (.inl rfl) rfl
    | exact .retires rfl rfl (.inl rfl) rfl rfl
    | exact .leaves rfl rfl (.inl rfl) (ready.locked rfl) rfl rfl

theorem apply_acts {desired : RegistrySnapshot} {point : ApplyPoint}
    (ready : Ready m (.apply desired point))
    (acted : actApply settings m desired point choice = some out) :
    Acts m (.apply desired point) out := by
  revert acted ready
  fun_cases actApply settings m desired point choice <;> intro ready acted
  all_goals first
    | exact .enters acted rfl rfl rfl rfl rfl (.inl rfl) rfl
    | (cases acted <;> refine .inside rfl ?_ ?_)
  all_goals first
    | exact .aside (new_slot_leases ready.blank _ _) rfl (by simp)
    | exact .aside (fun _ => by simp) rfl (by simp [Task.guard])
    | exact .still rfl rfl rfl (.inl rfl) (.inl rfl) rfl
    | exact .retires rfl rfl (.inl rfl) rfl rfl
    | exact .leaves rfl rfl (.inl rfl) (ready.locked rfl) rfl rfl

theorem watch_acts {point : WatchPoint} (ready : Ready m (.watch slot point))
    (acted : actWatch m slot point choice = some out) : Acts m (.watch slot point) out := by
  revert acted ready
  fun_cases actWatch m slot point choice <;> intro ready acted
  all_goals first
    | exact .enters acted rfl rfl rfl rfl rfl (.inr rfl) rfl
    | (cases acted <;> refine .inside rfl ?_ ?_)
    | (cases acted; refine ⟨fun _ => by simp, ?_, ?_⟩)
  all_goals first
    | exact .aside (fun _ => rfl) rfl (by simp)
    | exact .aside (new_slot_leases ready.blank _ _) rfl (by simp)
    | exact .aside (fun _ => by simp) rfl (by simp [Task.guard])
    | exact .still rfl rfl rfl (.inl rfl) (.inl rfl) rfl
    | exact .still rfl rfl rfl (.inl rfl) (.inr rfl) rfl
    | exact .counts (by assumption)
    | exact .retires rfl rfl (.inr (by rfl)) rfl rfl
    | exact .leaves rfl rfl (.inl rfl) (ready.locked rfl) rfl rfl
    | exact .leaves rfl rfl (.inr (by rfl)) (ready.locked rfl) rfl rfl

theorem act_acts (ready : Ready m task) (acted : act settings m task choice = some out) :
    Acts m task out := by
  cases task with
  | resolve call point => exact resolve_acts ready acted
  | resolved call holding =>
    cases choice <;> cases acted
    exact ⟨fun _ => by simp, .released (ready.held _ rfl) rfl rfl,
      .still rfl rfl rfl (.inl rfl) (.inl rfl) rfl⟩
  | bind call point => exact bind_acts ready acted
  | bound call use => exact bound_acts ready acted
  | resolveBound use effect point => exact resolve_bound_acts acted
  | invalidateBound use digest point => exact invalidate_bound_acts ready acted
  | invalidate agent point => exact invalidate_acts ready acted
  | apply desired point => exact apply_acts ready acted
  | watch slot point => exact watch_acts ready acted
  | retire slot point => exact retire_acts acted
  | lookup call point => exact lookup_acts acted
  | finished answer => cases choice <;> cases acted

end Actions

end A2aBridge.Registry
