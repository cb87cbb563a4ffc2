import A2aBridge.CustodyFrameReads

/-!
The decoder's account of one source. `Account` names what an open decoder has
taken and admitted so far; `Balanced` says that the decoder agrees with it. Each
method has one contract that moves the account on success and leaves the budget
bounds standing on refusal. The contracts hold for every source, also for one
that fails or lies.
-/

namespace A2aBridge.CustodyFrame

open ByteText ByteTransport LittleEndian StatefulRefusal CustodyFrameDecoderV1

structure Account where
  used : Nat
  admitted : Nat
  entries : Nat
  contentBytes : Nat
  pending : Option PendingContentV1

/-- Admitted bytes that a pending file still has to take: its rest and its digest. -/
def owed : Option PendingContentV1 → Nat
  | none => 0
  | some pending => pending.remaining + DIGEST_BYTES_V1

def admittedTotal : List LedgerEvent → Nat
  | [] => 0
  | .admitted size :: rest => size + admittedTotal rest
  | .allocated _ :: rest => admittedTotal rest

variable (ledger : List LedgerEvent)

/-- Every allocation follows directly on the admission of its size. -/
def AllocationsAdmitted : Prop :=
  ∀ before size after, ledger = before ++ .allocated size :: after →
    ∃ earlier, before = earlier ++ [.admitted size]

theorem admitted_total_append (first second : List LedgerEvent) :
    admittedTotal (first ++ second) = admittedTotal first + admittedTotal second := by
  induction first with
  | nil => simp [admittedTotal]
  | cons event rest ih =>
    cases event with
    | admitted size =>
      simp only [List.cons_append, admittedTotal, ih]
      omega
    | allocated size => simpa only [List.cons_append, admittedTotal] using ih

theorem allocations_admitted_snoc {event : LedgerEvent} (sound : AllocationsAdmitted ledger)
    (follows : ∀ size, event = .allocated size → ∃ earlier, ledger = earlier ++ [.admitted size]) :
    AllocationsAdmitted (ledger ++ [event]) := by
  intro before count after split
  rcases List.eq_nil_or_concat after with rfl | ⟨rest, last, rfl⟩
  · cases List.append_inj_right' split rfl
    exact List.append_inj_left' split rfl ▸ follows count rfl
  · have shifted : ledger ++ [event] = (before ++ .allocated count :: rest) ++ [last] := by
      rw [split]
      simp
    exact sound before count rest (List.append_inj_left' shifted rfl)

section Contracts

variable (budget : CustodyFrameBudgetV1) (total : Nat)

structure Bounded (decoder : CustodyFrameDecoderV1) : Prop where
  taken_le : total ≤ decoder.source.bytes.length + budget.maxFrameBytes + 1
  entries_le : decoder.state.entries ≤ budget.maxEntries
  content_le : decoder.state.contentBytes ≤ decoder.state.admitted
  admitted_le : decoder.state.admitted + TRAILER_BYTES_V1 ≤ budget.maxFrameBytes
  ledger_total : admittedTotal decoder.state.ledger = decoder.state.admitted
  ledger_sound : AllocationsAdmitted decoder.state.ledger

structure Balanced (account : Account) (decoder : CustodyFrameDecoderV1) : Prop where
  budget_eq : decoder.state.budget = budget
  limit_eq : decoder.state.recordLimit + TRAILER_BYTES_V1 = budget.maxFrameBytes
  opened : decoder.state.phase = .opened
  taken : decoder.source.bytes.length + account.used = total
  admitted_eq : decoder.state.admitted = account.admitted
  entries_eq : decoder.state.entries = account.entries
  content_eq : decoder.state.contentBytes = account.contentBytes
  pending_eq : decoder.state.pending = account.pending
  used_le : account.used ≤ budget.maxFrameBytes + 1
  entries_le : account.entries ≤ budget.maxEntries
  content_le : account.contentBytes ≤ account.admitted
  admitted_le : account.admitted + TRAILER_BYTES_V1 ≤ budget.maxFrameBytes
  ledger_total : admittedTotal decoder.state.ledger = account.admitted
  ledger_sound : AllocationsAdmitted decoder.state.ledger

variable {budget total} {account : Account}

variable {decoder : CustodyFrameDecoderV1} {before : Account} {first : DecoderM Value}

theorem Balanced.bounded
    (balanced : Balanced budget total account decoder) : Bounded budget total decoder where
  taken_le := by
    have taken := balanced.taken
    have used := balanced.used_le
    omega
  entries_le := balanced.entries_eq ▸ balanced.entries_le
  content_le := by
    rw [balanced.content_eq, balanced.admitted_eq]
    exact balanced.content_le
  admitted_le := balanced.admitted_eq ▸ balanced.admitted_le
  ledger_total := by rw [balanced.ledger_total, balanced.admitted_eq]
  ledger_sound := balanced.ledger_sound

/-- A method's contract: it moves the account as `after` says, or refuses within the bounds. -/
def Moves (budget : CustodyFrameBudgetV1) (total : Nat) (before : Account)
    (program : DecoderM Value) (after : Value → Account → Prop) : Prop :=
  Ensures (Balanced budget total before) program
    (fun value decoder => ∃ account, after value account ∧ Balanced budget total account decoder)
    (fun _ => Bounded budget total)

variable {after middle : Value → Account → Prop} {next : Value → DecoderM Other}
  (path : CustodyFramePathV1)

theorem ensures_after {post : Other → CustodyFrameDecoderV1 → Prop}
    (head : Moves budget total before first middle)
    (rest : ∀ value account, middle value account →
      Ensures (Balanced budget total account) (next value) post (fun _ => Bounded budget total)) :
    Ensures (Balanced budget total before) (first >>= next) post (fun _ => Bounded budget total) := by
  apply ensures_bind head
  rintro value decoder ⟨account, reached, balanced⟩
  exact rest value account reached decoder balanced

theorem Moves.bind {after : Other → Account → Prop} (head : Moves budget total before first middle)
    (rest : ∀ value account, middle value account → Moves budget total account (next value) after) :
    Moves budget total before (first >>= next) after :=
  ensures_after head rest

theorem moves_pure (value : Value) (kept : after value account) :
    Moves budget total account (pure value) after :=
  fun _ balanced => ⟨account, kept, balanced⟩

theorem moves_throw (refusal : CustodyFrameErrorV1) :
    Moves budget total account (throw refusal) after :=
  fun _ balanced => balanced.bounded

theorem moves_check (outcome : FrameResult Value) :
    Moves budget total account (check outcome)
      (fun value after => account = after ∧ outcome = .ok value) := by
  intro decoder balanced
  cases outcome with
  | ok value => exact ⟨account, ⟨rfl, rfl⟩, balanced⟩
  | error refusal => exact balanced.bounded

theorem moves_require (condition : Bool) (refusal : CustodyFrameErrorV1) :
    Moves budget total account (require condition refusal)
      (fun _ after => account = after ∧ condition = true) := by
  unfold require
  split
  · exact moves_pure () ⟨rfl, ‹_›⟩
  · exact moves_throw refusal

theorem moves_get_state :
    Moves budget total account getState
      (fun state after => account = after ∧ state.entries = account.entries ∧
        state.contentBytes = account.contentBytes ∧ state.budget = budget ∧
        state.pending = account.pending) :=
  fun _ balanced => ⟨account, ⟨rfl, balanced.entries_eq, balanced.content_eq,
    balanced.budget_eq, balanced.pending_eq⟩, balanced⟩

def Account.admitting (account : Account) (size : Nat) : Account :=
  { account with admitted := account.admitted + size }

def Account.using (account : Account) (size : Nat) : Account :=
  { account with used := account.used + size }

variable (size : Nat)

/-- The last event of the ledger is the admission of `size`. -/
def Reserved (decoder : CustodyFrameDecoderV1) : Prop :=
  ∃ earlier, decoder.state.ledger = earlier ++ [.admitted size]

theorem admit_reserves :
    Ensures (Balanced budget total account) (admitSize size)
      (fun _ decoder => Balanced budget total (account.admitting size) decoder ∧ Reserved size decoder)
      (fun _ => Bounded budget total) := by
  intro decoder balanced
  unfold admitSize
  cases sum : checkedAdd decoder.state.admitted size with
  | none => exact balanced.bounded
  | some reached =>
    have value : reached = account.admitted + size := by
      rw [(checked_add_some.mp sum).2, balanced.admitted_eq]
    by_cases above : reached > decoder.state.recordLimit
    · simp only [if_pos above]
      exact balanced.bounded
    · simp only [if_neg above]
      have limit := balanced.limit_eq
      refine ⟨{ balanced with
        admitted_eq := value
        content_le := ?_
        admitted_le := ?_
        ledger_total := ?_
        ledger_sound := allocations_admitted_snoc _ balanced.ledger_sound nofun },
        decoder.state.ledger, rfl⟩
      · have content := balanced.content_le
        simp only [Account.admitting]
        omega
      · simp only [Account.admitting]
        omega
      · simp only [admitted_total_append, balanced.ledger_total, admittedTotal, Account.admitting]
        rfl

theorem moves_admit_size :
    Moves budget total account (admitSize size) (fun _ after => after = account.admitting size) :=
  (admit_reserves size).mono fun _ _ done => ⟨_, rfl, done.1⟩

/-- A declared length is admitted, and only then sizes a buffer. -/
theorem moves_reserve (next : DecoderM Value)
    (rest : Moves budget total (account.admitting size) next after) :
    Moves budget total account
      (admitSize size >>= fun _ => allocate size >>= fun _ => next) after := by
  have reserve : Ensures
      (fun decoder => Balanced budget total (account.admitting size) decoder ∧ Reserved size decoder)
      (allocate size) (fun _ => Balanced budget total (account.admitting size))
      (fun _ => Bounded budget total) := by
    rintro decoder ⟨balanced, earlier, last⟩
    refine { balanced with
      ledger_total := ?_
      ledger_sound := ?_ }
    · have same := balanced.ledger_total
      simp only [admitted_total_append, admittedTotal]
      exact same
    · have sound := balanced.ledger_sound
      rw [last] at sound
      simp only [last]
      exact allocations_admitted_snoc _ sound fun _ same => ⟨_, by cases same; rfl⟩
  exact ensures_bind (admit_reserves size) fun _ => ensures_bind reserve fun _ => rest

/-- Bytes are covered while they lie in the admitted part, the reserved trailer or
the one probe byte after it. -/
def Account.Covers (account : Account) (want : Nat) : Prop :=
  account.used + want ≤ account.admitted + TRAILER_BYTES_V1 + 1

theorem Account.Covers.mono {less want : Nat} (covered : account.Covers want) (le : less ≤ want) :
    account.Covers less :=
  Nat.le_trans (Nat.add_le_add_left le _) covered

theorem Balanced.took (balanced : Balanced budget total account decoder)
    {source : Source IoErrorKind} {taken : List UInt8}
    (split : decoder.source.bytes = taken ++ source.bytes) (covered : account.Covers taken.length) :
    Balanced budget total (account.using taken.length) { decoder with source } := by
  have lengths := congrArg List.length split
  rw [List.length_append] at lengths
  have start := balanced.taken
  have limit := balanced.admitted_le
  unfold Account.Covers at covered
  refine { balanced with taken := ?_, used_le := ?_ }
  all_goals
    simp only [Account.using]
    omega

theorem moves_fill (want : Nat) (covered : account.Covers want) :
    Moves budget total account (fill want)
      (fun bytes after => after = account.using want ∧ bytes.length = want) := by
  intro decoder balanced
  obtain ⟨taken, split, bound, exactly⟩ := read_exactly_takes decoder.source want
  unfold fill
  cases read : readExactly decoder.source want with
  | mk outcome source =>
    rw [read] at split exactly
    have took := balanced.took split (covered.mono bound)
    cases outcome with
    | error refusal => exact took.bounded
    | ok bytes =>
      obtain ⟨same, full⟩ := exactly bytes rfl
      subst same full
      exact ⟨_, ⟨rfl, rfl⟩, took⟩

theorem moves_read_frame_bytes (want : Nat) (covered : account.Covers want) :
    Moves budget total account (readFrameBytes want)
      (fun bytes after => after = account.using want ∧ bytes.length = want) := by
  refine (moves_fill want covered).bind ?_
  rintro bytes _ ⟨rfl, full⟩
  have absorb : Moves budget total (account.using want)
      (modifyState fun state => { state with frame := state.frame ++ bytes })
      (fun _ after => after = account.using want) :=
    fun decoder balanced => ⟨_, rfl, { balanced with }⟩
  refine absorb.bind ?_
  rintro _ _ rfl
  exact moves_pure bytes ⟨rfl, full⟩

theorem moves_read_uint (width : Nat) (covered : account.Covers width) :
    Moves budget total account (readUint width)
      (fun value after => after = account.using width ∧ value < 256 ^ width) := by
  refine (moves_read_frame_bytes width covered).bind ?_
  rintro bytes _ ⟨rfl, full⟩
  exact moves_pure _ ⟨rfl, full ▸ le_nat_lt bytes⟩

theorem moves_read_u8 (covered : account.Covers 1) :
    Moves budget total account readU8 (fun _ after => after = account.using 1) := by
  refine (moves_read_uint 1 covered).bind ?_
  rintro value _ ⟨rfl, _⟩
  exact moves_pure _ rfl

theorem moves_read_once (capacity : Nat) (covered : account.Covers capacity) :
    Moves budget total account (readOnce capacity)
      (fun chunk after => after = account.using chunk.length ∧ chunk.length ≤ capacity) := by
  intro decoder balanced
  obtain ⟨taken, split, bound, exactly⟩ := read_some_takes decoder.source capacity
  unfold readOnce
  cases read : readSome decoder.source capacity with
  | mk outcome source =>
    rw [read] at split exactly
    have took := balanced.took split (covered.mono bound)
    cases outcome with
    | error refusal => exact took.bounded
    | ok chunk =>
      have same := (exactly chunk rfl).1
      subst same
      exact ⟨_, ⟨rfl, bound⟩, took⟩

/-- The account between two public calls: what is admitted was taken, or is owed. -/
def Account.Due (account : Account) : Prop := account.admitted = account.used + owed account.pending

open Account (Covers Due admitting)

/-- One or more fields were admitted and read in full. -/
def Account.Consumed (before after : Account) : Prop :=
  ∃ size, after = (before.using size).admitting size

theorem moves_read_header (expected : CustodyFrameHeaderV1) (fresh : account = ⟨0, 0, 0, 0, none⟩) :
    Moves budget total account (readHeader expected)
      (fun _ after => after.Due ∧ after.pending = none ∧ after.entries = 0) := by
  subst fresh
  refine (moves_admit_size _).bind ?_
  rintro _ _ rfl
  refine (moves_read_frame_bytes 8 (by unfold Covers; decide)).bind ?_
  rintro magic _ ⟨rfl, _⟩
  refine (moves_require _ _).bind ?_
  rintro _ _ ⟨rfl, _⟩
  refine (moves_read_u8 (by unfold Covers; decide)).bind ?_
  rintro version _ rfl
  refine (moves_require _ _).bind ?_
  rintro _ _ ⟨rfl, _⟩
  refine (moves_read_u8 (by unfold Covers; decide)).bind ?_
  rintro code _ rfl
  refine (moves_check _).bind ?_
  rintro cls _ ⟨rfl, _⟩
  refine (moves_require _ _).bind ?_
  rintro _ _ ⟨rfl, _⟩
  refine (moves_read_uint 2 (by unfold Covers; decide)).bind ?_
  rintro length _ ⟨rfl, _⟩
  refine (moves_require _ _).bind ?_
  rintro _ _ ⟨rfl, _⟩
  apply moves_reserve
  refine (moves_read_frame_bytes length ?_).bind ?_
  · simp only [Covers, Account.using, admitting, HEADER_FIXED_BYTES_V1]
    omega
  rintro generation _ ⟨rfl, _⟩
  refine (moves_check _).bind ?_
  rintro text _ ⟨rfl, _⟩
  refine Ensures.mono (moves_require _ _) ?_
  rintro _ _ ⟨after, ⟨rfl, _⟩, done⟩
  exact ⟨_, ⟨by simp [Due, owed, Account.using, admitting, HEADER_FIXED_BYTES_V1], rfl, rfl⟩, done⟩

theorem moves_read_path (even : account.used = account.admitted) :
    Moves budget total account readPath (fun _ after => account.Consumed after) := by
  refine (moves_admit_size _).bind ?_
  rintro _ _ rfl
  refine (moves_read_uint 2 ?_).bind ?_
  · simp only [Covers, admitting]
    omega
  rintro length _ ⟨rfl, _⟩
  refine (moves_require _ _).bind ?_
  rintro _ _ ⟨rfl, _⟩
  apply moves_reserve
  refine (moves_read_frame_bytes length ?_).bind ?_
  · simp only [Covers, Account.using, admitting]
    omega
  rintro bytes _ ⟨rfl, _⟩
  refine Ensures.mono (moves_check _) ?_
  rintro path _ ⟨after, ⟨rfl, _⟩, done⟩
  refine ⟨_, ⟨2 + length, ?_⟩, done⟩
  simp [Account.using, admitting, Nat.add_assoc]

theorem moves_admit_order (isDirectory : Bool) :
    Moves budget total account (admitOrder path isDirectory) (fun _ after => account = after) := by
  refine moves_get_state.bind ?_
  rintro state _ ⟨rfl, _⟩
  have record : Moves budget total account
      (modifyState fun later =>
        { later with order := (state.order.admitPath path isDirectory).2 })
      (fun _ after => account = after) :=
    fun decoder balanced => ⟨_, rfl, { balanced with }⟩
  refine record.bind ?_
  rintro _ _ rfl
  refine Ensures.mono (moves_check _) ?_
  rintro _ _ ⟨after, ⟨rfl, _⟩, done⟩
  exact ⟨_, rfl, done⟩

/-- A body leaves its account due; only a regular file leaves content pending. -/
def Account.Advanced (before after : Account) : Prop :=
  after.Due ∧ before.used ≤ after.used ∧ after.entries = before.entries

theorem Account.Advanced.trans {middle after : Account} (first : before.Advanced middle)
    (second : middle.Advanced after) : before.Advanced after :=
  ⟨second.1, Nat.le_trans first.2.1 second.2.1, second.2.2.trans first.2.2⟩

theorem moves_regular_body (even : account.used = account.admitted) :
    Moves budget total account (readBody .regular path) (fun _ after => account.Advanced after) := by
  refine fun decoder balanced => (?_ : Moves budget total account _ _) decoder balanced
  have contentLe := balanced.content_le
  refine (moves_admit_size _).bind ?_
  rintro _ _ rfl
  refine (moves_read_uint 2 ?_).bind ?_
  · simp only [Covers, admitting]
    omega
  rintro bits _ ⟨rfl, _⟩
  refine (moves_check _).bind ?_
  rintro mode _ ⟨rfl, _⟩
  refine (moves_read_uint 8 ?_).bind ?_
  · simp only [Covers, Account.using, admitting]
    omega
  rintro length _ ⟨rfl, _⟩
  refine (moves_check _).bind ?_
  rintro size _ ⟨rfl, added⟩
  have sizeEq := (checked_add_ok_iff.mp added).2
  refine (moves_admit_size _).bind ?_
  rintro _ _ rfl
  refine moves_get_state.bind ?_
  rintro state _ ⟨rfl, _, same, _⟩
  refine (moves_check _).bind ?_
  rintro contentBytes _ ⟨rfl, counted⟩
  have contentEq := (checked_add_ok_iff.mp counted).2
  rw [same] at contentEq
  -- Declared content is owed from here on, and it counts as content once admitted.
  have declare : Moves budget total
      ((((account.admitting (2 + 8)).using 2).using 8).admitting size)
      (modifyState fun state => { state with contentBytes, pending := some ⟨length, []⟩ })
      (fun _ after => account.Advanced after) := by
    intro decoder balanced
    refine ⟨{ (((account.admitting (2 + 8)).using 2).using 8).admitting size with
      contentBytes, pending := some ⟨length, []⟩ }, ⟨?_, ?_, rfl⟩, { balanced with
        content_eq := rfl
        pending_eq := rfl
        content_le := ?_ }⟩
    · simp only [Due, Account.using, admitting, owed]
      omega
    · simp only [Account.using, admitting]
      omega
    · simp only [Account.using, admitting] at contentEq ⊢
      omega
  refine declare.bind ?_
  intro _ after advanced
  exact moves_pure _ advanced

theorem moves_body (kind : RecordKindV1) (path : CustodyFramePathV1)
    (even : account.used = account.admitted) (idle : account.pending = none) :
    Moves budget total account (readBody kind path) (fun _ after => account.Advanced after) := by
  cases kind with
  | directory =>
    refine (moves_admit_size _).bind ?_
    rintro _ _ rfl
    refine (moves_read_uint 2 ?_).bind ?_
    · simp only [Covers, admitting]
      omega
    rintro bits _ ⟨rfl, _⟩
    refine (moves_check _).bind ?_
    rintro mode _ ⟨rfl, _⟩
    refine moves_pure _ ⟨?_, ?_, rfl⟩
    · simp only [Due, Account.using, admitting, idle, owed]
      omega
    · simp only [Account.using, admitting]
      omega
  | regular => exact moves_regular_body path even
  | symlink =>
    refine (moves_admit_size _).bind ?_
    rintro _ _ rfl
    refine (moves_read_uint 2 ?_).bind ?_
    · simp only [Covers, admitting]
      omega
    rintro length _ ⟨rfl, _⟩
    refine (moves_require _ _).bind ?_
    rintro _ _ ⟨rfl, _⟩
    apply moves_reserve
    refine (moves_read_frame_bytes length ?_).bind ?_
    · simp only [Covers, Account.using, admitting]
      omega
    rintro target _ ⟨rfl, _⟩
    refine (moves_check _).bind ?_
    rintro _ _ ⟨rfl, _⟩
    refine moves_pure _ ⟨?_, ?_, rfl⟩
    · simp only [Due, Account.using, admitting, idle, owed]
      omega
    · simp only [Account.using, admitting]
      omega

/-- The tag byte was read from the reserved trailer bytes and not yet admitted. -/
def Account.Tagged (account : Account) : Prop :=
  account.used = account.admitted + 1 ∧ account.pending = none

theorem moves_read_entry (kind : RecordKindV1) (tagged : account.Tagged) :
    Moves budget total account (readEntry kind)
      (fun _ after => after.Due ∧ account.used ≤ after.used ∧
        after.entries = account.entries + 1) := by
  obtain ⟨ahead, idle⟩ := tagged
  refine moves_get_state.bind ?_
  rintro state _ ⟨rfl, sameEntries, _, sameBudget, _⟩
  refine (moves_require _ _).bind ?_
  rintro _ _ ⟨rfl, room⟩
  have below : account.entries < budget.maxEntries := by
    simpa [sameEntries, sameBudget] using room
  refine (moves_admit_size _).bind ?_
  rintro _ _ rfl
  refine (moves_read_path ?_).bind ?_
  · simp only [admitting]
    omega
  rintro path _ ⟨size, rfl⟩
  refine (moves_admit_order _ _).bind ?_
  rintro _ _ rfl
  refine Moves.bind (moves_body kind path ?_ idle) ?_
  · simp only [Account.using, admitting]
    omega
  rintro record after ⟨due, further, sameCount⟩
  simp only [Account.using, admitting] at further sameCount
  have ceiling := budget.entries_ceiling
  have next : wrappingAdd after.entries 1 = account.entries + 1 := by
    unfold wrappingAdd
    unfold MAX_ENTRIES_V1 at ceiling
    omega
  have count : Moves budget total after
      (modifyState fun state => { state with entries := wrappingAdd state.entries 1 })
      (fun _ last => last = { after with entries := account.entries + 1 }) := by
    intro decoder balanced
    refine ⟨_, rfl, { balanced with
      entries_eq := ?_
      entries_le := below }⟩
    simp [balanced.entries_eq, next]
  refine count.bind ?_
  rintro _ _ rfl
  refine moves_pure _ ⟨due, ?_, rfl⟩
  simp only
  omega

theorem moves_read_content (capacity : Nat) (due : account.Due) :
    Moves budget total account (readContentBytes capacity) (fun _ after => account.Advanced after) := by
  refine moves_get_state.bind ?_
  rintro state _ ⟨rfl, _, _, _, same⟩
  rw [same]
  cases held : account.pending with
  | none => exact moves_pure _ ⟨due, Nat.le_refl _, rfl⟩
  | some pending =>
    simp only
    unfold Due at due
    rw [held] at due
    split
    · exact moves_pure _ ⟨by rw [Due, held]; exact due, Nat.le_refl _, rfl⟩
    · refine (moves_read_once _ ?_).bind ?_
      · simp only [Covers, chunkLength, due, owed]
        omega
      rintro chunk _ ⟨rfl, bound⟩
      split
      · exact moves_throw _
      · have absorb : Moves budget total (account.using chunk.length)
            (modifyState fun state =>
              { state with
                frame := state.frame ++ chunk
                pending := some ⟨pending.remaining - chunk.length, pending.content ++ chunk⟩ })
            (fun _ after => account.Advanced after) := by
          intro decoder balanced
          refine ⟨{ account.using chunk.length with
            pending := some ⟨pending.remaining - chunk.length, pending.content ++ chunk⟩ },
            ⟨?_, ?_, rfl⟩, { balanced with pending_eq := rfl }⟩
          · simp only [Due, Account.using, owed, due, chunkLength] at bound ⊢
            omega
          · simp only [Account.using]
            omega
        refine absorb.bind ?_
        intro _ after advanced
        exact moves_pure _ advanced

variable (sha : Sha256)

theorem moves_finish_content (due : account.Due)
    (drained : ∀ pending, account.pending = some pending → pending.remaining = 0) :
    Moves budget total account (finishContent sha)
      (fun _ after => account.Advanced after ∧ after.pending = none) := by
  refine moves_get_state.bind ?_
  rintro state _ ⟨rfl, _, _, _, same⟩
  rw [same]
  cases held : account.pending with
  | none => exact moves_pure _ ⟨⟨due, Nat.le_refl _, rfl⟩, held⟩
  | some pending =>
    have empty := drained pending held
    unfold Due at due
    rw [held] at due
    have take : Moves budget total account
        (modifyState fun state => { state with pending := none })
        (fun _ after => after = { account with pending := none }) :=
      fun decoder balanced => ⟨_, rfl, { balanced with pending_eq := rfl }⟩
    refine take.bind ?_
    rintro _ _ rfl
    refine (moves_read_frame_bytes 32 ?_).bind ?_
    · simp only [Covers, due, owed, DIGEST_BYTES_V1]
      omega
    rintro stored _ ⟨rfl, _⟩
    refine Ensures.mono (moves_require _ _) ?_
    rintro _ _ ⟨after, ⟨rfl, _⟩, done⟩
    refine ⟨({ account with pending := none } : Account).using 32, ⟨⟨?_, ?_, rfl⟩, rfl⟩, done⟩
    · simp [Due, Account.using, due, owed, empty, DIGEST_BYTES_V1]
    · simp only [Account.using]
      omega

theorem moves_discard_content (due : account.Due) :
    Moves budget total account discardContent
      (fun _ after => account.Advanced after ∧
        ∀ pending, after.pending = some pending → pending.remaining = 0) := by
  intro decoder balanced
  induction amount : decoder.unread using Nat.strong_induction_on generalizing decoder account with
  | _ amount ih =>
    rw [discardContent]
    split
    · rename_i done
      refine ⟨account, ⟨⟨due, Nat.le_refl _, rfl⟩, ?_⟩, balanced⟩
      intro pending held
      rw [← balanced.pending_eq] at held
      simpa [unread, held] using done
    · rename_i left
      have step := moves_read_content CONTENT_BUFFER_BYTES_V1 due decoder balanced
      cases run : readContentBytes CONTENT_BUFFER_BYTES_V1 decoder with
      | error refusal after =>
        rw [run] at step
        exact step
      | ok chunk after =>
        rw [run] at step
        obtain ⟨middle, advanced, balancedMiddle⟩ := step
        have shrinks := read_content_shrinks (by decide) left run
        have rest := ih after.unread (amount ▸ shrinks) advanced.1 after balancedMiddle rfl
        simp only
        cases tail : discardContent after with
        | error refusal last =>
          rw [tail] at rest
          exact rest
        | ok _ last =>
          rw [tail] at rest
          obtain ⟨final, ⟨further, empty⟩, balancedFinal⟩ := rest
          exact ⟨final, ⟨advanced.trans further, empty⟩, balancedFinal⟩

theorem moves_drain_pending (due : account.Due) :
    Moves budget total account (drainPending sha)
      (fun _ after => account.Advanced after ∧ after.pending = none) := by
  refine (moves_discard_content due).bind ?_
  rintro _ middle ⟨advanced, empty⟩
  refine Ensures.mono (moves_finish_content sha advanced.1 empty) ?_
  rintro _ _ ⟨after, ⟨further, idle⟩, done⟩
  exact ⟨after, ⟨advanced.trans further, idle⟩, done⟩

def Closed (budget : CustodyFrameBudgetV1) (total : Nat) (decoder : CustodyFrameDecoderV1) : Prop :=
  Bounded budget total decoder ∧
    (decoder.state.phase = .poisoned ∨
      decoder.state.phase = .complete ∧ decoder.state.pending = none)

theorem read_trailer_closes (tagged : account.Tagged) :
    Ensures (Balanced budget total account) (readTrailer sha)
      (fun _ => Closed budget total) (fun _ => Bounded budget total) := by
  obtain ⟨ahead, idle⟩ := tagged
  refine ensures_after (moves_read_uint 8 ?_) ?_
  · simp only [Covers, TRAILER_BYTES_V1, DIGEST_BYTES_V1]
    omega
  rintro entries _ ⟨rfl, _⟩
  refine ensures_after (moves_read_uint 8 ?_) ?_
  · simp only [Covers, Account.using, TRAILER_BYTES_V1, DIGEST_BYTES_V1]
    omega
  rintro contentTotal _ ⟨rfl, _⟩
  refine ensures_after moves_get_state ?_
  rintro state _ ⟨rfl, _⟩
  refine ensures_after (moves_fill 32 ?_) ?_
  · simp only [Covers, Account.using, TRAILER_BYTES_V1, DIGEST_BYTES_V1]
    omega
  rintro frameDigest _ ⟨rfl, _⟩
  refine ensures_after (moves_require _ _) ?_
  rintro _ _ ⟨rfl, _⟩
  refine ensures_after (moves_require _ _) ?_
  rintro _ _ ⟨rfl, _⟩
  refine ensures_after (moves_require _ _) ?_
  rintro _ _ ⟨rfl, _⟩
  -- The probe is the one byte past the frame.
  refine ensures_after (moves_read_once 1 ?_) ?_
  · simp only [Covers, Account.using, TRAILER_BYTES_V1, DIGEST_BYTES_V1]
    omega
  rintro probe _ ⟨rfl, _⟩
  refine ensures_after (moves_require _ _) ?_
  rintro _ _ ⟨rfl, _⟩
  intro decoder balanced
  exact ⟨{ balanced.bounded with }, .inr ⟨rfl, balanced.pending_eq.trans idle⟩⟩

def RecordRead (budget : CustodyFrameBudgetV1) (total : Nat) (before : Account)
    (record : Option RecordV1) (decoder : CustodyFrameDecoderV1) : Prop :=
  match record with
  | none => Closed budget total decoder
  | some _ => ∃ after : Account, after.Due ∧ before.used < after.used ∧
      after.entries = before.entries + 1 ∧ Balanced budget total after decoder

theorem next_record_accounts (due : account.Due) :
    Ensures (Balanced budget total account) (nextRecord sha)
      (RecordRead budget total account) (fun _ => Bounded budget total) := by
  refine ensures_after (moves_drain_pending sha due) ?_
  rintro _ drained ⟨⟨dueDrained, further, sameCount⟩, idle⟩
  unfold Due at dueDrained
  rw [idle] at dueDrained
  refine ensures_after (moves_read_u8 ?_) ?_
  · simp only [Covers, dueDrained, owed]
    omega
  rintro tag _ rfl
  have tagged : (drained.using 1).Tagged := by
    refine ⟨?_, idle⟩
    simp [Account.using, dueDrained, owed]
  split
  · apply ensures_bind (read_trailer_closes sha tagged)
    intro _
    exact ensures_pure fun _ closed => closed
  · split
    · exact fun _ balanced => balanced.bounded
    · rename_i kind _
      refine ensures_after (moves_read_entry kind tagged) ?_
      rintro record after ⟨dueAfter, furtherAfter, counted⟩
      refine ensures_pure fun decoder balanced => ⟨after, dueAfter, ?_, ?_, balanced⟩
      · simp only [Account.using] at furtherAfter
        omega
      · simp only [Account.using] at counted
        omega

theorem Bounded.poison (bounded : Bounded budget total decoder) :
    Closed budget total (poison decoder) :=
  ⟨{ bounded with }, .inl rfl⟩

theorem next_entry_accounts (due : account.Due) :
    Ensures (Balanced budget total account) (nextEntry sha)
      (RecordRead budget total account) (fun _ => Closed budget total) := by
  intro decoder balanced
  have outcome := next_record_accounts sha due decoder balanced
  unfold nextEntry
  rw [balanced.opened]
  cases run : nextRecord sha decoder with
  | ok record after =>
    rw [run] at outcome
    exact outcome
  | error refusal after =>
    rw [run] at outcome
    exact Bounded.poison outcome

theorem moves_read_yielded (capacity : Nat) (due : account.Due) :
    Moves budget total account (readYieldedContent sha capacity)
      (fun _ after => account.Advanced after) := by
  refine (moves_read_content capacity due).bind ?_
  rintro chunk middle advanced
  refine moves_get_state.bind ?_
  rintro state _ ⟨rfl, _, _, _, same⟩
  split
  · rename_i exhausted
    refine (moves_finish_content sha advanced.1 ?_).bind ?_
    · intro pending held
      simpa [same, held] using exhausted
    · rintro _ after ⟨further, _⟩
      exact moves_pure _ (advanced.trans further)
  · exact moves_pure _ advanced

theorem consumer_read_accounts (capacity : Nat) (due : account.Due) :
    Ensures (Balanced budget total account) (consumerRead sha capacity)
      (fun _ decoder => ∃ after, account.Advanced after ∧ Balanced budget total after decoder)
      (fun _ => Closed budget total) := by
  intro decoder balanced
  have outcome := moves_read_yielded sha capacity due decoder balanced
  unfold consumerRead
  rw [balanced.opened, if_neg (by simp)]
  cases run : readYieldedContent sha capacity decoder with
  | ok chunk after =>
    rw [run] at outcome
    exact outcome
  | error refusal after =>
    rw [run] at outcome
    exact Bounded.poison outcome

theorem new_accounts (source : Source IoErrorKind) (expected : CustodyFrameHeaderV1)
    (fits : budget.recordLimit = .ok limit) :
    Ensured (fun _ decoder => ∃ account : Account, account.Due ∧ account.entries = 0 ∧
        Balanced budget source.bytes.length account decoder)
      (fun _ => Bounded budget source.bytes.length) (CustodyFrameDecoderV1.new source expected budget) := by
  unfold CustodyFrameDecoderV1.new
  rw [fits]
  unfold CustodyFrameBudgetV1.recordLimit at fits
  split at fits
  · rename_i room
    cases fits
    have balanced : Balanced budget source.bytes.length ⟨0, 0, 0, 0, none⟩
        (initial source budget (budget.maxFrameBytes - TRAILER_BYTES_V1)) := by
      refine ⟨rfl, ?_, rfl, rfl, rfl, rfl, rfl, rfl, Nat.zero_le _, Nat.zero_le _, Nat.le_refl _, ?_, rfl, ?_⟩
      · simp only [initial]
        omega
      · simpa using room
      · intro before size after split
        simp [initial] at split
    refine Ensures.mono (moves_read_header expected rfl) ?_ _ balanced
    rintro _ decoder ⟨after, ⟨due, _, none⟩, done⟩
    exact ⟨after, due, none, done⟩
  · cases fits

end Contracts

end A2aBridge.CustodyFrame
