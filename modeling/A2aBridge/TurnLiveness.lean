import A2aBridge.ByteText
import A2aBridge.MachineWords
import Mathlib.Data.Finset.Basic
import Mathlib.Data.List.AList

/-!
The liveness tracker of one turn (bridge-core/turn_liveness.rs). Callers supply the elapsed
milliseconds; the tracker reads no clock. Open tool calls are kept by the digest of their id in
a table of bounded size, and the digest function is a parameter. The heartbeat snapshot and the
resolution of the bounds from the configuration are left out.
-/

namespace A2aBridge.TurnLiveness

def MAX_OPEN_TOOL_CALLS : Nat := 4096
def TOOL_ID_PREVIEW_MAX_BYTES : Nat := 64
def TOOL_TITLE_MAX_BYTES : Nat := 128

/-- The bounds one turn runs under; `none` is unbounded. -/
structure ResolvedTurnLiveness where
  silenceMs : Option Nat
  workCutoffMs : Option Nat
  deriving DecidableEq

inductive TurnLivenessCause where
  | legacyWatchdog
  | workCutoff
  | silence
  deriving DecidableEq

/-- The totals of a usage update; the cost is the bits of its amount and a currency. -/
structure UsageTotalsKey where
  used : Nat
  size : Nat
  cost : Option (Nat × String)
  deriving DecidableEq

inductive ToolCallPhase where
  | pending
  | inProgress
  | completed
  | failed
  deriving DecidableEq

structure ToolObservation where
  rawId : String
  status : Option ToolCallPhase
  title : Option String
  kind : Option String
  deriving DecidableEq

inductive TurnActivity where
  | update
  | usage (key : UsageTotalsKey)
  | tool (tool : ToolObservation)
  deriving DecidableEq

structure OpenTool where
  idPreview : String
  title : String
  kind : String
  openedMs : Nat
  deriving DecidableEq

structure TurnLivenessTransition where
  counted : Bool := false
  unpaused : Bool := false
  overflowed : Bool := false
  deriving DecidableEq

def bounded (text : String) (maxBytes : Nat) : String :=
  String.ofList (ByteText.truncateUtf8 maxBytes text.toList)

structure Tracker (Digest : Type) where
  resolved : ResolvedTurnLiveness
  lastActivityMs : Nat := 0
  lastUnpauseMs : Nat := 0
  openCalls : AList fun _ : Digest => OpenTool := ∅
  openCapacity : Nat := MAX_OPEN_TOOL_CALLS
  openOverflowed : Bool := false
  pendingPermissions : Nat := 0
  lastUsage : Option UsageTotalsKey := none

namespace Tracker

variable {Digest : Type} [DecidableEq Digest] (digest : String → Digest) (tracker : Tracker Digest)

variable (resolved : ResolvedTurnLiveness)

def withOpenToolCapacity (capacity : Nat) : Tracker Digest :=
  { resolved, openCapacity := capacity }

def new : Tracker Digest :=
  withOpenToolCapacity resolved MAX_OPEN_TOOL_CALLS

/-- The silence clock is paused while a tool call or a permission request is open. -/
def paused : Bool :=
  !tracker.openCalls.entries.isEmpty || tracker.openOverflowed || 0 < tracker.pendingPermissions

variable (nowMs : Nat)

def observeTool (tool : ToolObservation) : Bool × Tracker Digest :=
  let key := digest tool.rawId
  match tool.status with
  | some .pending | some .inProgress =>
    match tracker.openCalls.lookup key with
    | some call =>
      let titled := { call with
        title := (tool.title.map (bounded · TOOL_TITLE_MAX_BYTES)).getD call.title
        kind := (tool.kind.map (bounded · TOOL_TITLE_MAX_BYTES)).getD call.kind }
      (false, { tracker with openCalls := tracker.openCalls.insert key titled })
    | none =>
      if tracker.openCapacity ≤ tracker.openCalls.entries.length then
        (!tracker.openOverflowed, { tracker with openOverflowed := true })
      else
        let opened : OpenTool := {
          idPreview := bounded tool.rawId TOOL_ID_PREVIEW_MAX_BYTES
          title := bounded (tool.title.getD "?") TOOL_TITLE_MAX_BYTES
          kind := bounded (tool.kind.getD "?") TOOL_TITLE_MAX_BYTES
          openedMs := nowMs }
        (false, { tracker with openCalls := tracker.openCalls.insert key opened })
  | some .completed | some .failed =>
    (false, { tracker with openCalls := tracker.openCalls.erase key })
  | none => (false, tracker)

def counted (wasPaused overflowed : Bool) : TurnLivenessTransition × Tracker Digest :=
  let active := { tracker with lastActivityMs := max tracker.lastActivityMs nowMs }
  let unpaused := wasPaused && !active.paused
  (⟨true, unpaused, overflowed⟩,
    if unpaused then { active with lastUnpauseMs := max active.lastUnpauseMs nowMs } else active)

def observe : TurnActivity → TurnLivenessTransition × Tracker Digest
  | .update => tracker.counted nowMs tracker.paused false
  | .usage key =>
    -- Compared with the previous update only: a drop after compaction is a change.
    if tracker.lastUsage = some key then ({}, tracker)
    else { tracker with lastUsage := some key }.counted nowMs tracker.paused false
  | .tool tool =>
    let observed := tracker.observeTool digest nowMs tool
    observed.2.counted nowMs tracker.paused observed.1

def permissionArrived : TurnLivenessTransition × Tracker Digest :=
  { tracker with pendingPermissions := saturatingAdd tracker.pendingPermissions 1 }.counted nowMs
    tracker.paused false

def permissionResolved : TurnLivenessTransition × Tracker Digest :=
  { tracker with pendingPermissions := tracker.pendingPermissions - 1 }.counted nowMs
    tracker.paused false

/-- When the silence cutoff is due, while the clock runs. -/
def silenceDueMs : Option Nat :=
  if tracker.paused then none
  else tracker.resolved.silenceMs.bind (checkedAdd (max tracker.lastActivityMs tracker.lastUnpauseMs))

def workDueMs : Option Nat := tracker.resolved.workCutoffMs

/-- The bound that is due, by the fixed priority. -/
def dueCause (legacyWatchdogDue : Bool) : Option TurnLivenessCause :=
  if legacyWatchdogDue then some .legacyWatchdog
  else if tracker.workDueMs.any (· ≤ nowMs) then some .workCutoff
  else if tracker.silenceDueMs.any (· ≤ nowMs) then some .silence
  else none

end Tracker

/-! ### Histories -/

inductive Event where
  | observe (nowMs : Nat) (activity : TurnActivity)
  | permissionArrived (nowMs : Nat)
  | permissionResolved (nowMs : Nat)
  deriving DecidableEq

def Event.toolId : Event → Option String
  | .observe _ (.tool tool) => some tool.rawId
  | _ => none

def Tracker.step {Digest : Type} [DecidableEq Digest] (digest : String → Digest)
    (tracker : Tracker Digest) : Event → Tracker Digest
  | .observe nowMs activity => (tracker.observe digest nowMs activity).2
  | .permissionArrived nowMs => (tracker.permissionArrived nowMs).2
  | .permissionResolved nowMs => (tracker.permissionResolved nowMs).2

def Tracker.after {Digest : Type} [DecidableEq Digest] (digest : String → Digest)
    (tracker : Tracker Digest) (events : List Event) : Tracker Digest :=
  events.foldl (Tracker.step digest) tracker

/-- What the updates say, without a table: the tool calls that were opened and not closed, the
permission requests under way and the usage reported last. -/
structure Reference where
  openIds : Finset String := ∅
  pendingPermissions : Nat := 0
  lastUsage : Option UsageTotalsKey := none

namespace Reference

variable (reference : Reference)

def observeTool (tool : ToolObservation) : Reference :=
  match tool.status with
  | some .pending | some .inProgress =>
    { reference with openIds := insert tool.rawId reference.openIds }
  | some .completed | some .failed =>
    { reference with openIds := reference.openIds.erase tool.rawId }
  | none => reference

def step : Event → Reference
  | .observe _ .update => reference
  | .observe _ (.usage key) => { reference with lastUsage := some key }
  | .observe _ (.tool tool) => reference.observeTool tool
  | .permissionArrived _ =>
    { reference with pendingPermissions := reference.pendingPermissions + 1 }
  | .permissionResolved _ =>
    { reference with pendingPermissions := reference.pendingPermissions - 1 }

def after (events : List Event) : Reference := events.foldl step reference

def Busy : Prop := reference.openIds.Nonempty ∨ 0 < reference.pendingPermissions

end Reference

/-! ### The tracker follows the reference -/

/-- Every key of the table is the digest of an open id, and every open id is one of `ids` and has
its key in the table unless the table has overflowed. -/
structure Tracks {Digest : Type} (digest : String → Digest) (ids : Set String)
    (tracker : Tracker Digest) (reference : Reference) : Prop where
  pending : tracker.pendingPermissions = reference.pendingPermissions
  named : ∀ id ∈ reference.openIds, id ∈ ids
  known : ∀ id ∈ reference.openIds, digest id ∈ tracker.openCalls ∨ tracker.openOverflowed = true
  held : ∀ key ∈ tracker.openCalls, ∃ id ∈ reference.openIds, digest id = key

section Tracking

variable {Digest : Type} {digest : String → Digest} {tracker : Tracker Digest}
  {reference : Reference} {ids : Set String}

variable (tracks : Tracks digest ids tracker reference)

include tracks

theorem Tracks.counted (nowMs : Nat) (wasPaused overflowed : Bool) :
    Tracks digest ids (tracker.counted nowMs wasPaused overflowed).2 reference := by
  simp only [Tracker.counted]
  split <;> exact ⟨tracks.pending, tracks.named, tracks.known, tracks.held⟩

theorem Tracks.paused_of_busy (busy : reference.Busy) :
    tracker.paused = true := by
  simp only [Tracker.paused, Bool.or_eq_true, Bool.not_eq_true', decide_eq_true_eq]
  rcases busy with ⟨id, member⟩ | waiting
  · rcases tracks.known id member with inside | overflowed
    · left
      left
      rw [List.isEmpty_eq_false_iff]
      intro empty
      rw [AList.mem_keys, AList.keys, empty] at inside
      cases inside
    · exact .inl (.inr overflowed)
  · rw [tracks.pending]
    exact .inr waiting

variable [DecidableEq Digest]

theorem Tracks.opening {id : String} (isNamed : id ∈ ids) (call : OpenTool) :
    Tracks digest ids { tracker with openCalls := tracker.openCalls.insert (digest id) call }
      { reference with openIds := insert id reference.openIds } := by
  constructor
  · exact tracks.pending
  · exact Finset.forall_mem_insert _ _ _ |>.mpr ⟨isNamed, tracks.named⟩
  · intro other member
    rcases Finset.mem_insert.mp member with rfl | earlier
    · exact .inl ((AList.mem_insert _).mpr (.inl rfl))
    · rcases tracks.known other earlier with inside | overflowed
      · exact .inl ((AList.mem_insert _).mpr (.inr inside))
      · exact .inr overflowed
  · intro key member
    rcases (AList.mem_insert _).mp member with rfl | earlier
    · exact ⟨id, Finset.mem_insert_self _ _, rfl⟩
    · obtain ⟨other, inside, same⟩ := tracks.held key earlier
      exact ⟨other, Finset.mem_insert_of_mem inside, same⟩

omit tracks

theorem Tracks.closing (distinct : Set.InjOn digest ids)
    (tracks : Tracks digest ids tracker reference) {id : String} (isNamed : id ∈ ids) :
    Tracks digest ids { tracker with openCalls := tracker.openCalls.erase (digest id) }
      { reference with openIds := reference.openIds.erase id } := by
  constructor
  · exact tracks.pending
  · exact fun other member => tracks.named other (Finset.mem_of_mem_erase member)
  · intro other member
    obtain ⟨differs, earlier⟩ := Finset.mem_erase.mp member
    rcases tracks.known other earlier with inside | overflowed
    · -- Another id has another digest, so its key stays.
      have apart := fun same => differs (distinct (tracks.named other earlier) isNamed same)
      exact .inl (AList.mem_erase.mpr ⟨apart, inside⟩)
    · exact .inr overflowed
  · intro key member
    obtain ⟨differs, earlier⟩ := AList.mem_erase.mp member
    obtain ⟨other, inside, rfl⟩ := tracks.held key earlier
    refine ⟨other, Finset.mem_erase.mpr ⟨?_, inside⟩, rfl⟩
    rintro rfl
    exact differs rfl

variable {nowMs : Nat} {tool : ToolObservation}

theorem Tracker.observe_tool_opens
    (opens : tool.status = some .pending ∨ tool.status = some .inProgress) :
    (tracker.observeTool digest nowMs tool).2 = { tracker with openOverflowed := true } ∨
      ∃ call, (tracker.observeTool digest nowMs tool).2 =
        { tracker with openCalls := tracker.openCalls.insert (digest tool.rawId) call } := by
  rcases opens with opened | opened <;> simp only [Tracker.observeTool, opened] <;> split
  · exact .inr ⟨_, rfl⟩
  · split
    · exact .inl rfl
    · exact .inr ⟨_, rfl⟩
  · exact .inr ⟨_, rfl⟩
  · split
    · exact .inl rfl
    · exact .inr ⟨_, rfl⟩

section

variable (tracks : Tracks digest ids tracker reference) (isNamed : tool.rawId ∈ ids)

include tracks isNamed

theorem Tracks.opens (opens : tool.status = some .pending ∨ tool.status = some .inProgress) :
    Tracks digest ids (tracker.observeTool digest nowMs tool).2
      { reference with openIds := insert tool.rawId reference.openIds } := by
  rcases @Tracker.observe_tool_opens _ digest tracker _ nowMs tool opens with
    overflow | ⟨call, opened⟩
  · rw [overflow]
    constructor
    · exact tracks.pending
    · exact Finset.forall_mem_insert _ _ _ |>.mpr ⟨isNamed, tracks.named⟩
    · exact fun _ _ => .inr rfl
    · intro key member
      obtain ⟨other, inside, same⟩ := tracks.held key member
      exact ⟨other, Finset.mem_insert_of_mem inside, same⟩
  · rw [opened]
    exact tracks.opening isNamed call

theorem Tracks.observe_tool (distinct : Set.InjOn digest ids) :
    Tracks digest ids (tracker.observeTool digest nowMs tool).2 (reference.observeTool tool) := by
  cases phase : tool.status with
  | none =>
    simp only [Tracker.observeTool, Reference.observeTool, phase]
    exact tracks
  | some reached =>
    cases reached with
    | pending =>
      simp only [Reference.observeTool, phase]
      exact tracks.opens isNamed (.inl phase)
    | inProgress =>
      simp only [Reference.observeTool, phase]
      exact tracks.opens isNamed (.inr phase)
    | completed | failed =>
      simp only [Tracker.observeTool, Reference.observeTool, phase]
      exact tracks.closing distinct isNamed

omit isNamed in
theorem Tracks.step (distinct : Set.InjOn digest ids) {event : Event}
    (isNamed : ∀ id ∈ event.toolId, id ∈ ids)
    (fits : (reference.step event).pendingPermissions ≤ U64_MAX) :
    Tracks digest ids (tracker.step digest event) (reference.step event) := by
  cases event with
  | observe nowMs activity =>
    cases activity with
    | update => exact tracks.counted nowMs _ _
    | usage key =>
      simp only [Tracker.step, Tracker.observe, Reference.step]
      split
      · exact ⟨tracks.pending, tracks.named, tracks.known, tracks.held⟩
      · apply Tracks.counted
        exact ⟨tracks.pending, tracks.named, tracks.known, tracks.held⟩
    | tool tool => exact (tracks.observe_tool (isNamed _ rfl) distinct).counted nowMs _ _
  | permissionArrived nowMs =>
    apply Tracks.counted
    refine ⟨?_, tracks.named, tracks.known, tracks.held⟩
    change min (tracker.pendingPermissions + 1) U64_MAX = reference.pendingPermissions + 1
    rw [tracks.pending]
    exact Nat.min_eq_left fits
  | permissionResolved nowMs =>
    apply Tracks.counted
    refine ⟨?_, tracks.named, tracks.known, tracks.held⟩
    change tracker.pendingPermissions - 1 = reference.pendingPermissions - 1
    rw [tracks.pending]

end

/-- The count of permission requests under way stays a `u64` in every part of the history. -/
def PermissionsFit (events : List Event) : Prop :=
  ∀ earlier, earlier <+: events → (Reference.after {} earlier).pendingPermissions ≤ U64_MAX

/-- Two tool ids of the history that have one digest are one id. -/
def DistinctDigests (digest : String → Digest) (events : List Event) : Prop :=
  Set.InjOn digest {id | ∃ event ∈ events, id ∈ event.toolId}

theorem pending_le_length (reference : Reference) (events : List Event) :
    (reference.after events).pendingPermissions ≤ reference.pendingPermissions + events.length := by
  induction events generalizing reference with
  | nil => exact Nat.le_refl _
  | cons event rest ih =>
    have stepped : (reference.step event).pendingPermissions ≤ reference.pendingPermissions + 1 := by
      cases event with
      | observe nowMs activity =>
        cases activity with
        | update | usage => exact Nat.le_succ _
        | tool tool =>
          simp only [Reference.step, Reference.observeTool]
          split <;> exact Nat.le_succ _
      | permissionArrived nowMs => exact Nat.le_refl _
      | permissionResolved nowMs =>
        exact Nat.le_trans (Nat.sub_le _ _) (Nat.le_succ _)
    have rested := ih (reference.step event)
    change ((reference.step event).after rest).pendingPermissions ≤
      reference.pendingPermissions + (rest.length + 1)
    omega

variable {events : List Event} {before after : Tracker Digest}

/-- Only a history of at least 2^64 events can leave the range. -/
theorem permissions_fit_of_length (short : events.length ≤ U64_MAX) : PermissionsFit events := by
  intro earlier start
  have counted := pending_le_length {} earlier
  have shorter := start.length_le
  change _ ≤ 0 + earlier.length at counted
  omega

theorem tracks_after (distinct : Set.InjOn digest ids) (resolved : ResolvedTurnLiveness)
    (capacity : Nat) (isNamed : ∀ event ∈ events, ∀ id ∈ event.toolId, id ∈ ids)
    (fit : PermissionsFit events) :
    Tracks digest ids ((Tracker.withOpenToolCapacity resolved capacity).after digest events)
      (Reference.after {} events) := by
  induction events using List.reverseRecOn with
  | nil => exact ⟨rfl, nofun, nofun, fun key member => absurd member (AList.notMem_empty key)⟩
  | append_singleton earlier event ih =>
    obtain ⟨others, last⟩ := List.forall_mem_append.mp isNamed
    have tracked := ih others fun first start => fit first (start.trans (List.prefix_append _ _))
    have whole := fit (earlier ++ [event]) (List.prefix_refl _)
    simp only [Tracker.after, Reference.after, List.foldl_append, List.foldl_cons,
      List.foldl_nil] at whole tracked ⊢
    exact tracked.step distinct (last event (List.mem_singleton_self _)) whole

/-! ### The clock and the overflow only move forward -/

/-- What no event takes back. -/
structure Later (before after : Tracker Digest) : Prop where
  resolved : after.resolved = before.resolved
  activity : before.lastActivityMs ≤ after.lastActivityMs
  unpause : before.lastUnpauseMs ≤ after.lastUnpauseMs
  overflow : before.openOverflowed = true → after.openOverflowed = true

omit [DecidableEq Digest] in
theorem Later.refl : Later tracker tracker :=
  ⟨rfl, Nat.le_refl _, Nat.le_refl _, id⟩

omit [DecidableEq Digest] in
theorem Later.trans {middle : Tracker Digest} (first : Later before middle)
    (second : Later middle after) : Later before after where
  resolved := second.resolved.trans first.resolved
  activity := Nat.le_trans first.activity second.activity
  unpause := Nat.le_trans first.unpause second.unpause
  overflow := fun overflowed => second.overflow (first.overflow overflowed)

omit [DecidableEq Digest] in
theorem Later.counted (later : Later before tracker) (nowMs : Nat)
    (wasPaused overflowed : Bool) : Later before (tracker.counted nowMs wasPaused overflowed).2 := by
  apply later.trans
  simp only [Tracker.counted]
  split
  · exact ⟨rfl, Nat.le_max_left _ _, Nat.le_max_left _ _, id⟩
  · exact ⟨rfl, Nat.le_max_left _ _, Nat.le_refl _, id⟩

theorem Later.observe_tool : Later tracker (tracker.observeTool digest nowMs tool).2 := by
  have opens (opened : tool.status = some .pending ∨ tool.status = some .inProgress) :
      Later tracker (tracker.observeTool digest nowMs tool).2 := by
    rcases @Tracker.observe_tool_opens _ digest tracker _ nowMs tool opened with
      overflow | ⟨call, body⟩
    · rw [overflow]
      exact ⟨rfl, Nat.le_refl _, Nat.le_refl _, fun _ => rfl⟩
    · rw [body]
      exact ⟨rfl, Nat.le_refl _, Nat.le_refl _, id⟩
  cases phase : tool.status with
  | none =>
    simp only [Tracker.observeTool, phase]
    exact .refl
  | some reached =>
    cases reached with
    | pending => exact opens (.inl phase)
    | inProgress => exact opens (.inr phase)
    | completed | failed =>
      simp only [Tracker.observeTool, phase]
      exact ⟨rfl, Nat.le_refl _, Nat.le_refl _, id⟩

theorem Later.step (event : Event) : Later tracker (tracker.step digest event) := by
  cases event with
  | observe nowMs activity =>
    cases activity with
    | update => exact Later.refl.counted nowMs _ _
    | usage key =>
      simp only [Tracker.step, Tracker.observe]
      split
      · exact .refl
      · apply Later.counted
        exact ⟨rfl, Nat.le_refl _, Nat.le_refl _, id⟩
    | tool tool => exact Later.observe_tool.counted nowMs _ _
  | permissionArrived | permissionResolved =>
    apply Later.counted
    exact ⟨rfl, Nat.le_refl _, Nat.le_refl _, id⟩

theorem later_after (events : List Event) : Later tracker (tracker.after digest events) := by
  induction events generalizing tracker with
  | nil => exact .refl
  | cons event rest ih => exact (Later.step event).trans ih

omit [DecidableEq Digest] in
theorem Tracker.silence_due_ms_eq_some {due : Nat} :
    tracker.silenceDueMs = some due ↔ tracker.paused = false ∧
      ∃ silence, tracker.resolved.silenceMs = some silence ∧
        max tracker.lastActivityMs tracker.lastUnpauseMs + silence = due ∧ due < 2 ^ 64 := by
  simp only [silenceDueMs]
  split
  · simp [*]
  · simp only [Option.bind_eq_some_iff, *, true_and]
    constructor
    · rintro ⟨silence, set, found⟩
      obtain ⟨fits, rfl⟩ := checked_add_some.mp found
      exact ⟨silence, set, rfl, fits⟩
    · rintro ⟨silence, set, rfl, fits⟩
      exact ⟨silence, set, checked_add_some.mpr ⟨fits, rfl⟩⟩

omit [DecidableEq Digest] in
/-- A deadline that runs later is no earlier one, and one that is past the range of a `u64` does
not come back. -/
theorem Later.due (later : Later tracker after) {laterDue : Nat}
    (found : after.silenceDueMs = some laterDue) (running : tracker.paused = false) :
    ∃ due, tracker.silenceDueMs = some due ∧ due ≤ laterDue := by
  obtain ⟨_, silence, set, sum, fits⟩ := Tracker.silence_due_ms_eq_some.mp found
  rw [later.resolved] at set
  have activity := later.activity
  have unpause := later.unpause
  refine ⟨max tracker.lastActivityMs tracker.lastUnpauseMs + silence, ?_, by omega⟩
  exact Tracker.silence_due_ms_eq_some.mpr ⟨running, silence, set, rfl, by omega⟩

/-! ### The usage reported last -/

omit [DecidableEq Digest] in
theorem counted_usage (wasPaused overflowed : Bool) :
    (tracker.counted nowMs wasPaused overflowed).2.lastUsage = tracker.lastUsage := by
  simp only [Tracker.counted]
  split <;> rfl

theorem observe_tool_usage :
    (tracker.observeTool digest nowMs tool).2.lastUsage = tracker.lastUsage := by
  simp only [Tracker.observeTool]
  repeat' split
  all_goals rfl

theorem usage_step (same : tracker.lastUsage = reference.lastUsage) (event : Event) :
    (tracker.step digest event).lastUsage = (reference.step event).lastUsage := by
  cases event with
  | observe nowMs activity =>
    cases activity with
    | update => exact (counted_usage _ _).trans same
    | usage key =>
      simp only [Tracker.step, Tracker.observe, Reference.step]
      split
      · assumption
      · exact counted_usage _ _
    | tool tool =>
      refine (counted_usage _ _).trans (observe_tool_usage.trans (same.trans ?_))
      simp only [Reference.step, Reference.observeTool]
      split <;> rfl
  | permissionArrived | permissionResolved => exact (counted_usage _ _).trans same

theorem usage_after (same : tracker.lastUsage = reference.lastUsage) :
    (tracker.after digest events).lastUsage = (reference.after events).lastUsage := by
  induction events generalizing tracker reference with
  | nil => exact same
  | cons event rest ih => exact ih (usage_step same event)

end Tracking

def sampleUsage (used : Nat) : UsageTotalsKey := ⟨used, 100, none⟩

def sampleTool (id : String) (status : ToolCallPhase) : Event :=
  .observe 5 (.tool ⟨id, some status, none, none⟩)

end A2aBridge.TurnLiveness
