import A2aBridge.Runs
import Mathlib.Data.List.AList
import Mathlib.Data.List.Perm.Basic

/-!
The rendezvous of interactive permission requests in bridge-core/permission.rs. A
registration takes a token and then inserts its entry under the lock; from then on an
operator's decision, the cancellation of its context, a reap and the drop of its guard race
for the entry. A registration is known by its token, and so are its one-shot channel and
its guard. Tokens are numbers without a bound: the counter of the source has 64 bits, so the
model is about runs of fewer than `2 ^ 64` steps (`next_token_fits`).
-/

namespace A2aBridge.Permissions

structure PermKey where
  contextId : String
  generation : Nat
  op : String
  requestId : String
  deriving DecidableEq

inductive PermitDecision where
  | approve (optionId : Option String)
  | deny (optionId reason : Option String)
  | modify (optionId : String)
  deriving DecidableEq

inductive PermissionResolution where
  | decided (decision : PermitDecision)
  | cancelled
  deriving DecidableEq

structure PermissionOptionView where
  optionId : String
  name : String
  kind : String
  deriving DecidableEq

structure PendingPermissionView where
  requestId : String
  toolCallId : String
  generation : Nat
  op : String
  title : String
  options : List PermissionOptionView
  rawInput : Option String
  timeoutMs : Nat
  deriving DecidableEq

structure PendingEntry where
  view : PendingPermissionView
  token : Nat
  deriving DecidableEq

structure PermissionRegistry where
  inner : AList (fun _ : PermKey => PendingEntry)
  nextToken : Nat

structure PermitGuard where
  key : PermKey
  token : Nat
  deriving DecidableEq

/-- A `register` call between its token and its insertion. -/
structure Registering where
  key : PermKey
  entry : PendingEntry
  deriving DecidableEq

/-- The registry, the calls under way, the guards that live, the registrations whose
receiver was dropped, and what each receiver has obtained. -/
structure World where
  registry : PermissionRegistry
  registering : List Registering
  guards : List PermitGuard
  deaf : List Nat
  obtained : List (Nat × PermissionResolution)

def World.empty : World := ⟨⟨∅, 0⟩, [], [], [], []⟩

namespace World

variable (world : World) (key : PermKey)

def pendingEntry : Option PendingEntry := world.registry.inner.lookup key

def remove : World :=
  { world with registry := { world.registry with inner := world.registry.inner.erase key } }

/-- A one-shot send fails where the receiver is gone. -/
def send (token : Nat) (res : PermissionResolution) : World × Bool :=
  if token ∈ world.deaf then (world, false)
  else ({ world with obtained := world.obtained ++ [(token, res)] }, true)

/-- The entry is taken out and then sent to, under one lock. The answer is nothing where
there was no entry. -/
def settle (res : PermissionResolution) : World × Option Bool :=
  match world.pendingEntry key with
  | none => (world, none)
  | some entry =>
    let sent := (world.remove key).send entry.token res
    (sent.1, some sent.2)

def resolve (res : PermissionResolution) : World × Bool :=
  ((world.settle key res).1, (world.settle key res).2.getD false)

def cancelKeys (world : World) : List PermKey → World × Nat
  | [] => (world, 0)
  | key :: rest =>
    let settled := world.settle key .cancelled
    let others := cancelKeys settled.1 rest
    (others.1, others.2 + if settled.2.isSome then 1 else 0)

def resolveContextCancelled (ctx : String) : World × Nat :=
  world.cancelKeys (world.registry.inner.keys.filter fun key => key.contextId = ctx)

def reapIfCurrent (token : Nat) : World :=
  match world.pendingEntry key with
  | some entry => if entry.token = token then world.remove key else world
  | none => world

end World

/-- One locked step of some party, the token of a registration apart. -/
inductive Op where
  | takeToken (key : PermKey) (view : PendingPermissionView)
  | insert (index : Nat)
  | resolve (key : PermKey) (res : PermissionResolution)
  | cancelContext (ctx : String)
  | reap (key : PermKey)
  | dropGuard (index : Nat)
  | dropReceiver (token : Nat)

def step (world : World) : Op → Option World
  | .takeToken key view =>
    some { world with
      registry := { world.registry with nextToken := world.registry.nextToken + 1 }
      registering := world.registering ++ [⟨key, ⟨view, world.registry.nextToken⟩⟩] }
  | .insert index =>
    (world.registering[index]?).map fun call =>
      { world with
        registry :=
          { world.registry with inner := world.registry.inner.insert call.key call.entry }
        registering := world.registering.eraseIdx index
        guards := world.guards ++ [⟨call.key, call.entry.token⟩] }
  | .resolve key res => some (world.resolve key res).1
  | .cancelContext ctx => some (world.resolveContextCancelled ctx).1
  | .reap key => some (world.remove key)
  | .dropGuard index =>
    (world.guards[index]?).map fun guard =>
      { world.reapIfCurrent guard.key guard.token with guards := world.guards.eraseIdx index }
  | .dropReceiver token => some { world with deaf := token :: world.deaf }

abbrev Reached (world : World) : Prop := Runs.Reaches step World.empty world

/-- Every token has one owner: a registration under way, a guard, or none any more. An
entry belongs to a living guard and its receiver has obtained nothing. -/
structure Owned (world : World) : Prop where
  fresh : ∀ token ∈ world.registering.map (·.entry.token) ++ world.guards.map (·.token),
    token < world.registry.nextToken
  distinct : (world.registering.map (·.entry.token) ++ world.guards.map (·.token)).Nodup
  guarded : ∀ key entry, world.pendingEntry key = some entry → ⟨key, entry.token⟩ ∈ world.guards
  unsent : ∀ key entry, world.pendingEntry key = some entry → entry.token ∉ world.obtained.map (·.1)
  once : (world.obtained.map (·.1)).Nodup
  spent : ∀ token ∈ world.obtained.map (·.1), token < world.registry.nextToken ∧
    token ∉ world.registering.map (·.entry.token)

section Entries

variable {world : World}

theorem remove_pending (key other : PermKey) :
    (world.remove key).pendingEntry other =
      if other = key then none else world.pendingEntry other := by
  by_cases same : other = key
  · subst same
    simp [World.remove, World.pendingEntry]
  · simp [World.remove, World.pendingEntry, same]

theorem send_frame (token : Nat) (res : PermissionResolution) :
    (world.send token res).1.registry = world.registry ∧
      (world.send token res).1.registering = world.registering ∧
      (world.send token res).1.guards = world.guards := by
  unfold World.send
  split <;> exact ⟨rfl, rfl, rfl⟩

theorem Owned.remove (owned : Owned world) (key : PermKey) : Owned (world.remove key) where
  fresh := owned.fresh
  distinct := owned.distinct
  guarded := fun other entry found => by
    rw [remove_pending] at found
    split_ifs at found
    exact owned.guarded other entry found
  unsent := fun other entry found => by
    rw [remove_pending] at found
    split_ifs at found
    exact owned.unsent other entry found
  once := owned.once
  spent := owned.spent

variable {next : World} {entry : PendingEntry} {key : PermKey}

/-- Two entries with one token are one entry: they share a guard. -/
theorem Owned.same_key (owned : Owned world) {other : PermKey} {second : PendingEntry}
    (found : world.pendingEntry key = some entry) (also : world.pendingEntry other = some second)
    (same : entry.token = second.token) : key = other := by
  have first := owned.guarded key entry found
  have next := owned.guarded other second also
  have distinct := (List.nodup_append.mp owned.distinct).2.1
  have equal := List.inj_on_of_nodup_map distinct first next same
  exact (PermitGuard.mk.inj equal).1

variable {res : PermissionResolution} {index : Nat}

theorem settle_none
    (absent : world.pendingEntry key = none) : world.settle key res = (world, none) := by
  simp [World.settle, absent]

theorem settle_some (found : world.pendingEntry key = some entry) :
    world.settle key res =
      (((world.remove key).send entry.token res).1,
        some ((world.remove key).send entry.token res).2) := by
  simp [World.settle, found]

theorem settle_pending (other : PermKey) :
    (world.settle key res).1.pendingEntry other =
      if other = key then none else world.pendingEntry other := by
  cases found : world.pendingEntry key with
  | none =>
    rw [settle_none found]
    split
    · next same => rw [same, found]
    · rfl
  | some entry =>
    rw [settle_some found, World.pendingEntry, (send_frame entry.token res).1]
    exact remove_pending key other

theorem settle_obtained :
    (world.settle key res).1.obtained = world.obtained ∨
      ∃ entry, world.pendingEntry key = some entry ∧
        (world.settle key res).1.obtained = world.obtained ++ [(entry.token, res)] := by
  cases found : world.pendingEntry key with
  | none =>
    rw [settle_none found]
    exact .inl rfl
  | some entry =>
    rw [settle_some found]
    by_cases gone : entry.token ∈ (world.remove key).deaf
    · simp only [World.send, if_pos gone]
      exact .inl rfl
    · simp only [World.send, if_neg gone]
      exact .inr ⟨entry, rfl, rfl⟩

theorem settle_frame :
    (world.settle key res).1.registering = world.registering ∧
      (world.settle key res).1.guards = world.guards ∧
      (world.settle key res).1.registry.nextToken = world.registry.nextToken := by
  cases found : world.pendingEntry key with
  | none =>
    rw [settle_none found]
    exact ⟨rfl, rfl, rfl⟩
  | some entry =>
    have frame := @send_frame (world.remove key) entry.token res
    rw [settle_some found]
    exact ⟨frame.2.1, frame.2.2, by rw [frame.1]; rfl⟩

theorem Owned.settle (owned : Owned world) : Owned (world.settle key res).1 := by
  obtain ⟨registering, guards, nextToken⟩ := @settle_frame world key res
  -- The token that is sent to belongs to an entry, so it was never sent to before.
  have sent : ∀ token ∈ (world.settle key res).1.obtained.map (·.1),
      token ∈ world.obtained.map (·.1) ∨
        ∃ entry, world.pendingEntry key = some entry ∧ token = entry.token := by
    intro token member
    rcases @settle_obtained world key res with same | ⟨entry, found, grown⟩
    · rw [same] at member
      exact .inl member
    · rw [grown, List.map_append, List.mem_append] at member
      rcases member with before | this
      · exact .inl before
      · exact .inr ⟨entry, found, by simpa using this⟩
  have guard : ∀ entry, world.pendingEntry key = some entry →
      entry.token ∈ world.guards.map (·.token) := fun entry found =>
    List.mem_map.mpr ⟨_, owned.guarded key entry found, rfl⟩
  exact {
    fresh := by rw [registering, guards, nextToken]; exact owned.fresh
    distinct := by rw [registering, guards]; exact owned.distinct
    guarded := fun other entry found => by
      rw [settle_pending] at found
      split_ifs at found
      rw [guards]
      exact owned.guarded other entry found
    unsent := fun other entry found member => by
      rw [settle_pending] at found
      split_ifs at found
      next differ =>
      rcases sent entry.token member with before | ⟨second, also, same⟩
      · exact owned.unsent other entry found before
      · exact differ (owned.same_key found also same)
    once := by
      rcases @settle_obtained world key res with same | ⟨entry, found, grown⟩
      · rw [same]
        exact owned.once
      · rw [grown, List.map_append]
        refine List.Nodup.append owned.once (List.nodup_singleton _) ?_
        intro token before this
        cases List.mem_singleton.mp this
        exact owned.unsent key entry found before
    spent := fun token member => by
      rw [registering, nextToken]
      rcases sent token member with before | ⟨entry, found, rfl⟩
      · exact owned.spent token before
      · have has := guard entry found
        refine ⟨owned.fresh _ (List.mem_append_right _ has), ?_⟩
        intro under
        exact (List.nodup_append.mp owned.distinct).2.2 _ under _ has rfl }

theorem Owned.cancel_keys (owned : Owned world) (keys : List PermKey) :
    Owned (world.cancelKeys keys).1 := by
  induction keys generalizing world with
  | nil => exact owned
  | cons key rest ih => exact ih owned.settle

theorem Owned.take_token (owned : Owned world) {view : PendingPermissionView}
    (stepped : step world (.takeToken key view) = some next) : Owned next := by
  cases stepped
  have older : ∀ token ∈ world.registering.map (·.entry.token) ++ world.guards.map (·.token),
      token ≠ world.registry.nextToken := fun token member =>
    Nat.ne_of_lt (owned.fresh token member)
  constructor
  · intro token member
    simp only [List.map_append, List.map_cons, List.map_nil, List.mem_append,
      List.mem_singleton] at member
    rcases member with (before | rfl) | guards
    · exact Nat.lt_succ_of_lt (owned.fresh token (List.mem_append_left _ before))
    · exact Nat.lt_succ_self _
    · exact Nat.lt_succ_of_lt (owned.fresh token (List.mem_append_right _ guards))
  · simp only [List.map_append, List.map_cons, List.map_nil, List.append_assoc]
    have split := List.nodup_append.mp owned.distinct
    rw [List.nodup_append]
    refine ⟨split.1, ?_, ?_⟩
    · rw [List.singleton_append, List.nodup_cons]
      exact ⟨fun member => older _ (List.mem_append_right _ member) rfl, split.2.1⟩
    · intro token member other also
      rcases List.mem_append.mp also with this | guards
      · rw [List.mem_singleton.mp this]
        exact older token (List.mem_append_left _ member)
      · exact split.2.2 token member other guards
  · exact owned.guarded
  · exact owned.unsent
  · exact owned.once
  · intro token member
    obtain ⟨below, unregistered⟩ := owned.spent token member
    refine ⟨Nat.lt_succ_of_lt below, ?_⟩
    simp only [List.map_append, List.map_cons, List.map_nil, List.mem_append,
      List.mem_singleton, not_or]
    exact ⟨unregistered, Nat.ne_of_lt below⟩

theorem Owned.insert (owned : Owned world)
    (stepped : step world (.insert index) = some next) : Owned next := by
  obtain ⟨call, found, rfl⟩ := Option.map_eq_some_iff.mp stepped
  obtain ⟨bound, rfl⟩ := List.getElem?_eq_some_iff.mp found
  have moved : (world.registering.map (·.entry.token) ++ world.guards.map (·.token)).Perm
      ((world.registering.eraseIdx index).map (·.entry.token) ++
        (world.guards ++ [PermitGuard.mk world.registering[index].key
          world.registering[index].entry.token]).map (·.token)) := by
    have front := ((List.getElem_cons_eraseIdx_perm bound).map (·.entry.token)).symm
    rw [List.map_append, ← List.append_assoc]
    refine (front.append_right _).trans ?_
    exact (List.perm_append_singleton _ _).symm
  have own := List.mem_map_of_mem (f := (·.entry.token)) (List.getElem_mem bound)
  constructor
  · intro token member
    exact owned.fresh token (moved.mem_iff.mpr member)
  · exact moved.nodup_iff.mp owned.distinct
  · intro key entry also
    by_cases same : key = world.registering[index].key
    · subst same
      simp only [World.pendingEntry, AList.lookup_insert, Option.some.injEq] at also
      rw [← also]
      exact List.mem_append_right _ (List.mem_singleton_self _)
    · simp only [World.pendingEntry, AList.lookup_insert_ne same] at also
      exact List.mem_append_left _ (owned.guarded key entry also)
  · intro key entry also member
    by_cases same : key = world.registering[index].key
    · subst same
      simp only [World.pendingEntry, AList.lookup_insert, Option.some.injEq] at also
      rw [← also] at member
      exact (owned.spent _ member).2 own
    · simp only [World.pendingEntry, AList.lookup_insert_ne same] at also
      exact owned.unsent key entry also member
  · exact owned.once
  · intro token member
    obtain ⟨below, unregistered⟩ := owned.spent token member
    refine ⟨below, fun under => unregistered ?_⟩
    obtain ⟨other, kept, rfl⟩ := List.mem_map.mp under
    exact List.mem_map.mpr ⟨other, List.mem_of_mem_eraseIdx kept, rfl⟩

theorem reap_if_current_pending (guard : PermitGuard) (other : PermKey)
    (found : (world.reapIfCurrent guard.key guard.token).pendingEntry other = some entry) :
    world.pendingEntry other = some entry ∧ (other = guard.key → entry.token ≠ guard.token) := by
  cases present : world.pendingEntry guard.key with
  | none =>
    simp only [World.reapIfCurrent, present] at found
    refine ⟨found, ?_⟩
    rintro rfl
    rw [found] at present
    cases present
  | some current =>
    simp only [World.reapIfCurrent, present] at found
    split at found
    · rw [remove_pending] at found
      split_ifs at found
      next differ => exact ⟨found, fun same => absurd same differ⟩
    · next other_ =>
      refine ⟨found, ?_⟩
      rintro rfl
      cases Option.some.inj (present.symm.trans found)
      exact other_

theorem reap_if_current_frame (guard : PermitGuard) :
    (world.reapIfCurrent guard.key guard.token).registering = world.registering ∧
      (world.reapIfCurrent guard.key guard.token).obtained = world.obtained ∧
      (world.reapIfCurrent guard.key guard.token).registry.nextToken =
        world.registry.nextToken := by
  unfold World.reapIfCurrent
  split
  · split <;> exact ⟨rfl, rfl, rfl⟩
  · exact ⟨rfl, rfl, rfl⟩

theorem Owned.drop_guard (owned : Owned world)
    (stepped : step world (.dropGuard index) = some next) : Owned next := by
  obtain ⟨guard, found, rfl⟩ := Option.map_eq_some_iff.mp stepped
  obtain ⟨registering, obtained, nextToken⟩ := @reap_if_current_frame world guard
  have fewer : (world.guards.eraseIdx index).Sublist world.guards := List.eraseIdx_sublist _ _
  constructor
  · rw [registering, nextToken]
    intro token member
    rcases List.mem_append.mp member with under | kept
    · exact owned.fresh token (List.mem_append_left _ under)
    · exact owned.fresh token (List.mem_append_right _ ((fewer.map _).subset kept))
  · rw [registering]
    exact owned.distinct.sublist ((fewer.map _).append_left _)
  · -- An entry that is left does not carry the dropped guard's token, so its guard stays.
    intro key entry also
    obtain ⟨before, other⟩ := reap_if_current_pending guard key also
    have has := owned.guarded key entry before
    obtain ⟨place, at_⟩ := List.mem_iff_getElem?.mp has
    refine List.mem_eraseIdx_iff_getElem?.mpr ⟨place, ?_, at_⟩
    rintro rfl
    cases Option.some.inj (found.symm.trans at_)
    exact other rfl rfl
  · intro key entry also
    rw [obtained]
    exact owned.unsent key entry (reap_if_current_pending guard key also).1
  · rw [obtained]
    exact owned.once
  · rw [obtained, registering, nextToken]
    exact owned.spent

theorem Owned.step (owned : Owned world) {op : Op}
    (stepped : step world op = some next) : Owned next := by
  cases op with
  | takeToken key view => exact owned.take_token stepped
  | insert index => exact owned.insert stepped
  | resolve key res =>
    cases stepped
    exact owned.settle
  | cancelContext ctx =>
    cases stepped
    exact owned.cancel_keys _
  | reap key =>
    cases stepped
    exact owned.remove key
  | dropGuard index => exact owned.drop_guard stepped
  | dropReceiver token =>
    cases stepped
    exact ⟨owned.fresh, owned.distinct, owned.guarded, owned.unsent, owned.once, owned.spent⟩

theorem cancel_keys_next_token (keys : List PermKey) :
    (world.cancelKeys keys).1.registry.nextToken = world.registry.nextToken := by
  induction keys generalizing world with
  | nil => rfl
  | cons key rest ih => exact ih.trans settle_frame.2.2

theorem step_next_token {op : Op} (stepped : step world op = some next) :
    next.registry.nextToken ≤ world.registry.nextToken + 1 := by
  cases op with
  | takeToken key view =>
    cases stepped
    exact Nat.le_refl _
  | insert index =>
    obtain ⟨_, _, rfl⟩ := Option.map_eq_some_iff.mp stepped
    exact Nat.le_succ _
  | resolve key res =>
    cases stepped
    exact Nat.le_succ_of_le (Nat.le_of_eq settle_frame.2.2)
  | cancelContext ctx =>
    cases stepped
    exact Nat.le_succ_of_le (Nat.le_of_eq (cancel_keys_next_token _))
  | dropGuard index =>
    obtain ⟨guard, _, rfl⟩ := Option.map_eq_some_iff.mp stepped
    exact Nat.le_succ_of_le (Nat.le_of_eq (reap_if_current_frame guard).2.2)
  | reap _ | dropReceiver _ =>
    cases stepped
    exact Nat.le_succ _

end Entries

/-- A run of fewer than `2 ^ 64` steps does not carry the counter past its 64 bits. -/
theorem next_token_fits {ops : List Op} {world : World}
    (ran : Runs.run step World.empty ops = some world) (short : ops.length < 2 ^ 64) :
    world.registry.nextToken < 2 ^ 64 := by
  have bounded : ∀ {start}, Runs.run step start ops = some world →
      world.registry.nextToken ≤ start.registry.nextToken + ops.length := by
    clear ran short
    induction ops with
    | nil =>
      intro start ran
      cases ran
      exact Nat.le_refl _
    | cons op rest ih =>
      intro start ran
      obtain ⟨next, stepped, rested⟩ := Option.bind_eq_some_iff.mp ran
      have first := step_next_token stepped
      have onward := ih rested
      rw [List.length_cons]
      omega
  have reached := bounded ran
  change _ ≤ 0 + _ at reached
  omega

theorem owned_of_reached {world : World} (reached : Reached world) : Owned world := by
  refine reached.invariant ?_ fun _ _ _ owned stepped => owned.step stepped
  constructor
  · nofun
  · exact List.nodup_nil
  · nofun
  · nofun
  · exact List.nodup_nil
  · nofun

/-- Over every interleaving of registrations, decisions, cancellations, reaps and guard
drops: a receiver obtains one resolution at most; a decision for a key under which nothing
is pending is refused and changes nothing, and one that names another generation or
operation than a pending request leaves that request pending and sends its receiver
nothing; a dropped guard removes no other registration's entry; and with no guard left the
registry is empty. -/
theorem permissions_settle_once {world : World} (reached : Reached world) :
    (world.obtained.map (·.1)).Nodup ∧
    (∀ key res, world.pendingEntry key = none → world.resolve key res = (world, false)) ∧
    (∀ key res asked entry, world.pendingEntry asked = some entry →
      key.generation ≠ asked.generation ∨ key.op ≠ asked.op →
      (world.resolve key res).1.pendingEntry asked = some entry ∧
        entry.token ∉ (world.resolve key res).1.obtained.map (·.1)) ∧
    (∀ index guard next key entry, world.guards[index]? = some guard →
      step world (.dropGuard index) = some next → world.pendingEntry key = some entry →
      entry.token ≠ guard.token → next.pendingEntry key = some entry) ∧
    (world.guards = [] → world.registry.inner.entries = []) := by
  have owned := owned_of_reached reached
  refine ⟨owned.once, ?_, ?_, ?_, ?_⟩
  · intro key res absent
    simp [World.resolve, settle_none absent]
  · intro key res asked entry found stale
    have differ : asked ≠ key := by
      rintro rfl
      rcases stale with generation | op
      · exact generation rfl
      · exact op rfl
    have kept : (world.resolve key res).1.pendingEntry asked = some entry := by
      rw [World.resolve, settle_pending, if_neg differ]
      exact found
    exact ⟨kept, owned.settle.unsent asked entry kept⟩
  · intro index guard next key entry found stepped pending newer
    obtain ⟨same, at_, rfl⟩ := Option.map_eq_some_iff.mp stepped
    cases Option.some.inj (found.symm.trans at_)
    -- A guard takes away no entry but that of its own registration.
    change (world.reapIfCurrent guard.key guard.token).pendingEntry key = some entry
    unfold World.reapIfCurrent
    split
    · next current present =>
      split
      · next own =>
        rw [remove_pending]
        split
        · next same =>
          subst same
          cases Option.some.inj (present.symm.trans pending)
          exact absurd own newer
        · exact pending
      · exact pending
    · exact pending
  · intro unguarded
    refine List.eq_nil_iff_forall_not_mem.mpr ?_
    rintro ⟨key, entry⟩ member
    have guard := owned.guarded key entry (AList.mem_lookup_iff.mpr member)
    rw [unguarded] at guard
    cases guard

section Samples

def sampleKey (generation : Nat) : PermKey := ⟨"ctx", generation, "turn-1", "req-1"⟩

def sampleView (generation : Nat) : PendingPermissionView :=
  ⟨"req-1", "call-1", generation, "turn-1", "edit", [], none, 1000⟩

/-- One request is registered twice under one key, the second time over the first. -/
def sampleWorld : World :=
  (Runs.run step World.empty
    [.takeToken (sampleKey 0) (sampleView 0), .takeToken (sampleKey 0) (sampleView 0),
      .insert 0, .insert 0]).get rfl

theorem sample_reached : Reached sampleWorld := Runs.reaches_of_run (Option.some_get _).symm

theorem sample_permissions_settle :
    ((step sampleWorld (.dropGuard 0)).map fun next => next.pendingEntry (sampleKey 0)) =
        some (some ⟨sampleView 0, 1⟩) ∧
      sampleWorld.resolve (sampleKey 1) .cancelled = (sampleWorld, false) := by
  obtain ⟨_, refused, _, kept, _⟩ := permissions_settle_once sample_reached
  refine ⟨?_, refused _ _ rfl⟩
  rw [Option.map_eq_some_iff]
  exact ⟨_, rfl, kept 0 ⟨sampleKey 0, 0⟩ _ (sampleKey 0) _ rfl rfl rfl (by decide)⟩

end Samples

end A2aBridge.Permissions
