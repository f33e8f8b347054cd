import Talenro.Analysis.Polling

/-!
# Publishers side by side: what is kept and what is delivered

A statement of a publisher changes single rows, and only in a few ways: `RowChange` lists
them.  Everything else follows from this list.  The event in a row never changes, a row
that is published is left alone, and the times in a row come from readings of publishers'
clocks.  A publisher marks a row only when the broker has acknowledged the payload it read
with its claim, which is the payload the row still has.
-/

set_option autoImplicit false

namespace Talenro.Outbox

open Lib Lib.Calendar Idempotency

variable {environment : Environment} {C : Contracts} {pid : Pid} {task : Task} {s t u : World}

/-! ## What one operation changes -/

/-- What an operation can do to the row of an event. -/
def RowChange : Op → UUID → Option OutboxRow → Option OutboxRow → Prop
  | .claimOutboxBatch now _ claimedUntil, _, before, after => after = before ∨
      ∃ row, before = some row ∧ Candidate (timestamptz now) row ∧
        after = some (row.claim (timestamptz claimedUntil))
  | .markOutboxPublished eventID publishedAt, id, before, after => after = before ∨
      ∃ row, id = eventID ∧ before = some row ∧ row.publishedAt = none ∧
        after = some (row.markPublished (timestamptz publishedAt))
  | .releaseOutboxClaim eventID availableAt, id, before, after => after = before ∨
      ∃ row, id = eventID ∧ before = some row ∧ row.publishedAt = none ∧
        after = some (row.release (timestamptz availableAt))
  | .appendEvent eventID event, id, before, after => after = before ∨
      id = eventID ∧ before = none ∧ after = some event.row
  | _, _, before, after => after = before

/-- The row of an event after a batch was claimed. -/
theorem table_claim (table : Table) (batch : List UUID) (claimedUntil : Instant) (id : UUID) :
    table.claim batch claimedUntil id = table id ∨
      id ∈ batch ∧ table.claim batch claimedUntil id = (table id).map (·.claim claimedUntil) := by
  by_cases hid : id ∈ batch
  · exact Or.inr ⟨hid, if_pos hid⟩
  · exact Or.inl (if_neg hid)

theorem table_updateUnpublished (table : Table) (eventID : UUID) (f : OutboxRow → OutboxRow)
    (id : UUID) :
    (table.updateUnpublished eventID f).2 id = table id ∨
      ∃ row, id = eventID ∧ table id = some row ∧ row.publishedAt = none ∧
        (table.updateUnpublished eventID f).2 id = some (f row) := by
  unfold Table.updateUnpublished
  cases hrow : table eventID with
  | none => exact Or.inl rfl
  | some row =>
    dsimp only
    split
    · next hunpublished =>
      by_cases hid : id = eventID
      · subst hid
        exact Or.inr ⟨row, rfl, hrow, hunpublished, Function.update_self ..⟩
      · exact Or.inl (Function.update_of_ne hid ..)
    · exact Or.inl rfl

variable {now claimedUntil at_ : Instant} {o : Op} {table : Table} {id : UUID} {n : ℕ} {r : Res o}

theorem updateUnpublished_of {eventID : UUID} {f : OutboxRow → OutboxRow} {row : OutboxRow}
    (hrow : table eventID = some row) (hunpublished : row.publishedAt = none) :
    (table.updateUnpublished eventID f).2 = Function.update table eventID (some (f row)) := by
  rw [Table.updateUnpublished, hrow]
  dsimp only
  rw [if_pos hunpublished]

theorem rowChange_claim {limit : ℕ} {locked : UUID → Prop} {batch : List UUID}
    (h : Takes s.table locked (timestamptz now) limit batch) (id : UUID) :
    RowChange (.claimOutboxBatch now limit claimedUntil) id (s.table id)
      ((s.claim pid batch (timestamptz claimedUntil)).table id) := by
  rcases table_claim s.table batch (timestamptz claimedUntil) id with hsame | ⟨hid, hclaim⟩
  · exact Or.inl hsame
  · obtain ⟨-, row, hrow, hcandidate⟩ := h.candidate id hid
    rw [hrow] at hclaim
    exact Or.inr ⟨row, hrow, hcandidate, hclaim⟩

/-- Every operation changes a row only as listed. -/
theorem exec_table (h : exec environment pid o s r t) (id : UUID) :
    RowChange o id (s.table id) (t.table id) := by
  obtain ⟨time, -, h⟩ := h
  cases o with
  | claimOutboxBatch now limit claimedUntil =>
    obtain ⟨locked, batch, htakes, hclaim⟩ := h
    rcases hclaim with ⟨-, rfl, -⟩ | ⟨-, rfl, -⟩ | ⟨-, -, rfl | ⟨-, rfl⟩⟩
    · exact rowChange_claim htakes id
    · exact Or.inl rfl
    · exact Or.inl rfl
    · exact rowChange_claim htakes id
  | markOutboxPublished eventID publishedAt | releaseOutboxClaim eventID availableAt =>
    rcases h with ⟨-, rfl⟩ | ⟨-, -, rfl | rfl⟩
    · exact table_updateUnpublished s.table eventID _ id
    · exact Or.inl rfl
    · exact table_updateUnpublished s.table eventID _ id
  | appendEvent eventID event =>
    have hinsert : s.table eventID = none → RowChange (.appendEvent eventID event) id (s.table id)
        (Function.update s.table eventID (some event.row) id) := by
      intro hnone
      by_cases hid : id = eventID
      · subst hid
        exact Or.inr ⟨rfl, hnone, Function.update_self ..⟩
      · exact Or.inl (Function.update_of_ne hid ..)
    rcases h with ⟨hnone, -, rfl⟩ | ⟨-, -, rfl⟩ | ⟨-, -, rfl | ⟨hnone, rfl⟩⟩
    · exact hinsert hnone
    · exact Or.inl rfl
    · exact Or.inl rfl
    · exact hinsert hnone
  | publishMsg subject messageID data =>
    obtain ⟨-, rfl⟩ := h
    cases r <;> rfl
  | _ =>
    obtain ⟨-, rfl⟩ := h
    rfl

/-- What the broker has acknowledged and what the clocks have shown is not forgotten. -/
theorem exec_log (h : exec environment pid o s r t) :
    (∀ m ∈ s.acknowledged, m ∈ t.acknowledged) ∧ ∀ reading ∈ s.readings, reading ∈ t.readings := by
  obtain ⟨time, -, h⟩ := h
  cases o with
  | now =>
    obtain ⟨-, rfl⟩ := h
    exact ⟨fun _ => id, fun _ => List.mem_cons_of_mem _⟩
  | claimOutboxBatch now limit claimedUntil =>
    obtain ⟨locked, batch, -, hclaim⟩ := h
    rcases hclaim with ⟨-, rfl, -⟩ | ⟨-, rfl, -⟩ | ⟨-, -, rfl | ⟨-, rfl⟩⟩ <;>
      exact ⟨fun _ => id, fun _ => id⟩
  | markOutboxPublished eventID publishedAt | releaseOutboxClaim eventID availableAt =>
    rcases h with ⟨-, rfl⟩ | ⟨-, -, rfl | rfl⟩ <;> exact ⟨fun _ => id, fun _ => id⟩
  | appendEvent eventID event =>
    rcases h with ⟨-, -, rfl⟩ | ⟨-, -, rfl⟩ | ⟨-, -, rfl | ⟨-, rfl⟩⟩ <;>
      exact ⟨fun _ => id, fun _ => id⟩
  | publishMsg subject messageID data =>
    obtain ⟨-, rfl⟩ := h
    cases r with
    | none => exact ⟨fun _ => id, fun _ => id⟩
    | some ack => exact ⟨fun _ => List.mem_append_left _, fun _ => id⟩
  | _ =>
    obtain ⟨-, rfl⟩ := h
    exact ⟨fun _ => id, fun _ => id⟩

/-! ## What no step undoes -/

/-- The event a row carries. -/
def event (row : OutboxRow) : NewEvent :=
  ⟨row.eventType, row.aggregateType, row.aggregateID, row.aggregateVersion, row.idempotencyKey,
    row.payload, row.occurredAt⟩

/-- Later rows carry the same events, published rows stay as they are, and what was
acknowledged or read from a clock stays so. -/
structure Evolves (s t : World) : Prop where
  kept : ∀ id row, s.table id = some row → ∃ row', t.table id = some row' ∧
    event row' = event row ∧ (row.publishedAt ≠ none → row' = row)
  acknowledged : ∀ m ∈ s.acknowledged, m ∈ t.acknowledged
  readings : ∀ reading ∈ s.readings, reading ∈ t.readings

theorem Evolves.refl (s : World) : Evolves s s :=
  ⟨fun _ row hrow => ⟨row, hrow, rfl, fun _ => rfl⟩, fun _ => id, fun _ => id⟩

theorem Evolves.trans (hst : Evolves s t) (htu : Evolves t u) : Evolves s u where
  kept id row hrow := by
    obtain ⟨row₁, hrow₁, hevent₁, hpublished₁⟩ := hst.kept id row hrow
    obtain ⟨row₂, hrow₂, hevent₂, hpublished₂⟩ := htu.kept id row₁ hrow₁
    refine ⟨row₂, hrow₂, hevent₂.trans hevent₁, fun hpublished => ?_⟩
    obtain rfl := hpublished₁ hpublished
    exact hpublished₂ hpublished
  acknowledged m hm := htu.acknowledged m (hst.acknowledged m hm)
  readings reading hreading := htu.readings reading (hst.readings reading hreading)

/-- A changed row carries the same event, and it was not published. -/
theorem RowChange.kept {row : OutboxRow} {after : Option OutboxRow}
    (h : RowChange o id (some row) after) :
    ∃ row', after = some row' ∧ event row' = event row ∧ (row.publishedAt ≠ none → row' = row) := by
  have hsame : after = some row →
      ∃ row', after = some row' ∧ event row' = event row ∧ (row.publishedAt ≠ none → row' = row) :=
    fun hafter => ⟨row, hafter, rfl, fun _ => rfl⟩
  cases o with
  | claimOutboxBatch now limit claimedUntil =>
    rcases h with h | ⟨_, hrow, hcandidate, rfl⟩
    · exact hsame h
    · obtain rfl := Option.some.inj hrow
      exact ⟨_, rfl, rfl, fun hpublished => absurd hcandidate.1 hpublished⟩
  | markOutboxPublished eventID publishedAt | releaseOutboxClaim eventID availableAt =>
    rcases h with h | ⟨_, -, hrow, hunpublished, rfl⟩
    · exact hsame h
    · obtain rfl := Option.some.inj hrow
      exact ⟨_, rfl, rfl, fun hpublished => absurd hunpublished hpublished⟩
  | appendEvent eventID event =>
    rcases h with h | ⟨-, hnone, -⟩
    · exact hsame h
    · cases hnone
  | _ => exact hsame h

theorem RowChange.attempts_le {row row' : OutboxRow} (h : RowChange o id (some row) (some row')) :
    row.attempts ≤ row'.attempts := by
  cases o <;> simp only [RowChange, Option.some.injEq] at h <;>
    grind [OutboxRow.claim, OutboxRow.markPublished, OutboxRow.release]

theorem exec_evolves (h : exec environment pid o s r t) : Evolves s t where
  kept id row hrow := by
    have hchange := exec_table h id
    rw [hrow] at hchange
    exact hchange.kept
  acknowledged := (exec_log h).1
  readings := (exec_log h).2

/-- Over every run, from whatever state it starts and wherever processes or the machine crash: an
event stays in the outbox as it was appended, its counter of attempts does not go back, and a
published row never changes. -/
theorem rows_kept {pool pool' : Pool Pid Task Unit Op Res World}
    (h : (publishing C environment).Reaches pool pool') {row : OutboxRow}
    (hrow : pool.state.table id = some row) : ∃ row', pool'.state.table id = some row' ∧
      event row' = event row ∧ row.attempts ≤ row'.attempts ∧
      (row.publishedAt ≠ none → row' = row) := by
  induction h with
  | refl => exact ⟨row, hrow, rfl, le_refl _, fun _ => rfl⟩
  | tail _ hlast ih =>
    obtain ⟨row₁, hrow₁, hevent₁, hattempts₁, hpublished₁⟩ := ih
    obtain ⟨label, hstep⟩ := hlast
    cases hstep with
    | spawn | done | kill => exact ⟨row₁, hrow₁, hevent₁, hattempts₁, hpublished₁⟩
    | crash hcrash => exact ⟨row₁, hcrash ▸ hrow₁, hevent₁, hattempts₁, hpublished₁⟩
    | op _ hexec =>
      have hchange := exec_table hexec id
      rw [hrow₁] at hchange
      obtain ⟨row₂, hrow₂, hevent₂, hpublished₂⟩ := hchange.kept
      rw [hrow₂] at hchange
      refine ⟨row₂, hrow₂, hevent₂.trans hevent₁, hattempts₁.trans hchange.attempts_le, ?_⟩
      intro hpublished
      obtain rfl := hpublished₁ hpublished
      exact hpublished₂ hpublished

/-! ## The invariant -/

/-- The broker has acknowledged a payload under the id of an event. -/
def Delivered (C : Contracts) (s : World) (id : UUID) (payload : Bytes) : Prop :=
  ∃ m ∈ s.acknowledged, m.messageID = C.uuidString id ∧ m.data = payload ∧
    m.ack.stream = eventStreamName ∧ m.ack.sequence ≠ 0

/-- A time that is a retry delay after a reading of a clock. -/
def Delayed (s : World) (at_ : Instant) : Prop :=
  ∃ reading ∈ s.readings, ∃ delay, 0 ≤ delay ∧ delay ≤ longestDelay ∧ at_ = timestamptz (reading + delay)

/-- A time that is a lease after a reading of a clock. -/
def Leased (s : World) (until_ : Instant) : Prop :=
  ∃ reading ∈ s.readings, until_ = timestamptz (reading + publisherLease)

/-- Published rows were delivered, and claims and delays are bounded. -/
structure Faithful (C : Contracts) (s : World) : Prop where
  published : ∀ id row, s.table id = some row → row.publishedAt ≠ none → Delivered C s id row.payload
  available : ∀ id row, s.table id = some row →
    row.availableAt = row.occurredAt ∨ Delayed s row.availableAt
  claimed : ∀ id row, s.table id = some row → ∀ at_, row.claimedUntil = some at_ → Leased s at_

theorem Delivered.mono {payload : Bytes} (h : Delivered C s id payload) (hst : Evolves s t) :
    Delivered C t id payload := by
  obtain ⟨m, hm, hrest⟩ := h
  exact ⟨m, hst.acknowledged m hm, hrest⟩

theorem Delayed.mono (h : Delayed s at_) (hst : Evolves s t) : Delayed t at_ := by
  obtain ⟨reading, hreading, hrest⟩ := h
  exact ⟨reading, hst.readings reading hreading, hrest⟩

theorem Leased.mono (h : Leased s at_) (hst : Evolves s t) : Leased t at_ := by
  obtain ⟨reading, hreading, hrest⟩ := h
  exact ⟨reading, hst.readings reading hreading, hrest⟩

/-- What a publisher must have made sure of before an operation. -/
def Sanctioned (C : Contracts) (s : World) : Op → Prop
  | .claimOutboxBatch _ _ claimedUntil => Leased s (timestamptz claimedUntil)
  | .markOutboxPublished eventID _ =>
    ∀ row, s.table eventID = some row → Delivered C s eventID row.payload
  | .releaseOutboxClaim _ availableAt => Delayed s (timestamptz availableAt)
  | _ => True

/-- What the invariant says of one row. -/
structure RowFaithful (C : Contracts) (s : World) (id : UUID) (row : OutboxRow) : Prop where
  published : row.publishedAt ≠ none → Delivered C s id row.payload
  available : row.availableAt = row.occurredAt ∨ Delayed s row.availableAt
  claimed : ∀ at_, row.claimedUntil = some at_ → Leased s at_

theorem Faithful.row {id : UUID} {row : OutboxRow} (h : Faithful C s) (hrow : s.table id = some row) :
    RowFaithful C s id row :=
  ⟨h.published id row hrow, h.available id row hrow, h.claimed id row hrow⟩

theorem RowFaithful.mono {row : OutboxRow} (h : RowFaithful C s id row) (hst : Evolves s t) :
    RowFaithful C t id row :=
  ⟨fun hpublished => (h.published hpublished).mono hst, h.available.imp_right (·.mono hst),
    fun at_ hat => (h.claimed at_ hat).mono hst⟩

/-- A sanctioned change of a row keeps what the invariant says of it. -/
theorem RowChange.faithful {row : OutboxRow} (hs : Faithful C s) (hsanctioned : Sanctioned C s o)
    (h : RowChange o id (s.table id) (some row)) : RowFaithful C s id row := by
  have hsame : some row = s.table id → RowFaithful C s id row := fun hrow => hs.row hrow.symm
  cases o with
  | claimOutboxBatch now limit claimedUntil =>
    rcases h with h | ⟨before, hbefore, hcandidate, hrow⟩
    · exact hsame h
    · obtain rfl := Option.some.inj hrow
      have hold := hs.row hbefore
      refine ⟨fun hpublished => absurd hcandidate.1 hpublished, hold.available, ?_⟩
      intro at_ hat
      obtain rfl := Option.some.inj hat
      exact hsanctioned
  | markOutboxPublished eventID publishedAt =>
    rcases h with h | ⟨before, rfl, hbefore, -, hrow⟩
    · exact hsame h
    · obtain rfl := Option.some.inj hrow
      have hold := hs.row hbefore
      exact ⟨fun _ => hsanctioned before hbefore, hold.available, fun _ hat => nomatch hat⟩
  | releaseOutboxClaim eventID availableAt =>
    rcases h with h | ⟨before, rfl, hbefore, hunpublished, hrow⟩
    · exact hsame h
    · obtain rfl := Option.some.inj hrow
      exact ⟨fun hpublished => absurd hunpublished hpublished, Or.inr hsanctioned,
        fun _ hat => nomatch hat⟩
  | appendEvent eventID event =>
    rcases h with h | ⟨rfl, -, hrow⟩
    · exact hsame h
    · obtain rfl := Option.some.inj hrow
      exact ⟨fun hpublished => absurd rfl hpublished, Or.inl rfl, fun _ hat => nomatch hat⟩
  | _ => exact hsame h

/-- A sanctioned operation keeps the invariant. -/
theorem exec_faithful (hs : Faithful C s) (hsanctioned : Sanctioned C s o)
    (h : exec environment pid o s r t) : Faithful C t := by
  have hrow : ∀ id row, t.table id = some row → RowFaithful C t id row := by
    intro id row hrow
    have hchange := exec_table h id
    rw [hrow] at hchange
    exact (hchange.faithful hs hsanctioned).mono (exec_evolves h)
  exact ⟨fun id row h => (hrow id row h).published, fun id row h => (hrow id row h).available,
    fun id row h => (hrow id row h).claimed⟩

/-! ## Publishers under interference -/

theorem evolves_of_rely (h : Rely (fun (_ : Pid) (_ : Task) => Evolves) pid s t) : Evolves s t :=
  h.le Evolves.refl (fun _ _ _ => Evolves.trans) fun _ _ _ _ _ hstep => hstep

/-- A row in the hands of a publisher: it came with a claim at a reading of the clock, and
the table still has its payload. -/
structure Held (now : Instant) (claimed : UUID × OutboxRow) (s : World) : Prop where
  reading : now ∈ s.readings
  payload : ∃ row, s.table claimed.1 = some row ∧ row.payload = claimed.2.payload

theorem Held.mono {claimed : UUID × OutboxRow} (h : Held now claimed s) (hst : Evolves s t) :
    Held now claimed t := by
  obtain ⟨row, hrow, hpayload⟩ := h.payload
  obtain ⟨row', hrow', hevent, -⟩ := hst.kept _ row hrow
  exact ⟨hst.readings now h.reading, row', hrow', (congrArg NewEvent.payload hevent).trans hpayload⟩

/-- What a publisher knows sanctions its operations. -/
theorem Ready.sanctioned
    (h : Ready (fun now s => now ∈ s.readings) Held (fun id payload s => Delivered C s id payload) s o)
    :
    Sanctioned C s o := by
  cases h with
  | claim hread => exact ⟨_, hread, rfl⟩
  | mark hheld hdelivered =>
    -- the row has kept the payload that was delivered
    intro row hrow
    obtain ⟨row', hrow', hpayload⟩ := hheld.payload
    obtain rfl := Option.some.inj (hrow.symm.trans hrow')
    rw [hpayload]
    exact hdelivered
  | release hheld hlower hupper => exact ⟨_, hheld.reading, _, hlower, hupper, rfl⟩
  | _ => trivial

theorem exec_publishMsg {subject messageID data : Bytes} {ack : PubAck}
    (h : exec environment pid (.publishMsg subject messageID data) s (some ack) t) :
    ⟨subject, messageID, data, ack⟩ ∈ t.acknowledged := by
  obtain ⟨time, -, -, rfl⟩ := h
  exact List.mem_append_right _ (List.mem_singleton_self _)

/-- The rows a claim returns are those it has claimed, each once. -/
theorem exec_claimOutboxBatch {limit : ℕ} {rows : List (UUID × OutboxRow)}
    (h : exec environment pid (.claimOutboxBatch now limit claimedUntil) s (some rows) t) :
    (rows.map Prod.fst).Nodup ∧ ∃ batch time, t = World.claim { s with time := time } pid batch
      (timestamptz claimedUntil) ∧ ∀ claimed ∈ rows, claimed.1 ∈ batch ∧
        t.table claimed.1 = some claimed.2 := by
  obtain ⟨time, -, locked, batch, htakes, hclaim⟩ := h
  rcases hclaim with ⟨-, ht, hrows⟩ | ⟨-, -, hnone⟩ | ⟨-, hnone, -⟩
  · obtain rfl := Option.some.inj hrows
    refine ⟨?_, batch, time, ht, ?_⟩
    · have hid : ∀ id other, other ∈ ((t.table id).map fun row => (id, row)).map Prod.fst →
          other = id := by
        intro id other hother
        rw [Option.map_map] at hother
        obtain ⟨row, -, rfl⟩ := Option.map_eq_some_iff.mp hother
        rfl
      rw [List.map_filterMap]
      exact htakes.nodup.filterMap fun id id' other h h' => (hid id other h).symm.trans (hid id' other h')
    · intro claimed hclaimed
      obtain ⟨id, hid, hmap⟩ := List.mem_filterMap.mp hclaimed
      obtain ⟨row, hrow, rfl⟩ := Option.map_eq_some_iff.mp hmap
      exact ⟨hid, hrow⟩
  · cases hnone
  · cases hnone

/-- The knowledge that carries the invariant. -/
theorem polls_faithful (C : Contracts) (environment : Environment) (pid : Pid) (task : Task) :
    Polls C (fun now s => now ∈ s.readings) Held (fun id payload s => Delivered C s id payload)
      (exec environment pid) (Faithful C) (fun _ _ => Evolves) pid task where
  step hs hready hexec := ⟨exec_faithful hs hready.sanctioned hexec, exec_evolves hexec⟩
  read_rely hrely hread := (evolves_of_rely hrely).readings _ hread
  holds_rely hrely hheld := hheld.mono (evolves_of_rely hrely)
  acked_rely hrely hdelivered := hdelivered.mono (evolves_of_rely hrely)
  holds_step _ _ hexec _ hheld := hheld.mono (exec_evolves hexec)
  read_now hexec := by
    obtain ⟨time, -, -, rfl⟩ := hexec
    exact List.mem_cons_self
  holds_claim _ hread hexec := by
    obtain ⟨hnodup, batch, time, -, hrows⟩ := exec_claimOutboxBatch hexec
    refine ⟨hnodup, fun claimed hclaimed => ⟨(exec_log hexec).2 _ hread, claimed.2, ?_, rfl⟩⟩
    exact (hrows claimed hclaimed).2
  acked_publish hexec hstream hsequence := ⟨_, exec_publishMsg hexec, rfl, rfl, hstream, hsequence⟩

theorem faithful_start (time : Instant) : Faithful C (World.start time) :=
  ⟨fun _ _ h => (nomatch h), fun _ _ h => (nomatch h), fun _ _ h => (nomatch h)⟩

/-- Every publisher and producer keeps the invariant, whatever the others do. -/
theorem sound_publishing (C : Contracts) (environment : Environment) :
    Sound (publishing C environment) (Faithful C) (fun _ _ => Evolves) fun _ _ _ _ _ => True where
  arrive pid task s hs :=
    ⟨⟨hs.published, hs.available, hs.claimed⟩,
      ⟨fun _ row hrow => ⟨row, hrow, rfl, fun _ => rfl⟩, fun _ => id, fun _ => id⟩⟩
  safe pid task s hs := by
    apply safe_program (polls_faithful C environment pid task)
    exact ⟨hs.published, hs.available, hs.claimed⟩
  release pid task s hs := ⟨hs, Evolves.refl s⟩
  crash s t hs hcrash := by
    obtain rfl := hcrash
    exact hs

/-! ## No event is lost -/

/-- A claim statement at the time `now` can take the row of the event. -/
def Claimable (table : Table) (now : Instant) (id : UUID) : Prop :=
  ∃ locked batch, Takes table locked now publisherClaimLimit batch ∧ id ∈ batch ∧ Fits table batch

/-- A claim takes a candidate when the other rows are locked. -/
theorem takes_single {row : OutboxRow} (hrow : table id = some row)
    (hcandidate : Candidate now row) :
    Takes table (fun other => other ≠ id) now publisherClaimLimit [id] where
  nodup := List.nodup_singleton id
  length := Nat.le_of_ble_eq_true rfl
  candidate := by
    intro other hother
    obtain rfl := List.mem_singleton.mp hother
    exact ⟨fun hne => hne rfl, row, hrow, hcandidate⟩
  earliest := by
    intro other _ _ _ hunlocked hother
    exact absurd (List.mem_singleton.mpr (not_not.mp hunlocked)) hother

theorem fits_single {row : OutboxRow} (hrow : table id = some row)
    (hattempts : row.attempts < maxInt32) : Fits table [id] := by
  intro other hother row' hrow'
  obtain rfl := List.mem_singleton.mp hother
  obtain rfl := Option.some.inj (hrow.symm.trans hrow')
  exact hattempts

/-- A candidate can be claimed unless its counter of attempts is at its end. -/
theorem claimable_iff {row : OutboxRow} (hrow : table id = some row)
    (hcandidate : Candidate now row) : Claimable table now id ↔ row.attempts < maxInt32 := by
  constructor
  · rintro ⟨locked, batch, -, hid, hfits⟩
    exact hfits id hid row hrow
  · intro hattempts
    exact ⟨_, [id], takes_single hrow hcandidate, List.mem_singleton_self id,
      fits_single hrow hattempts⟩

/-- Every answer is possible, but for what the clocks show. -/
def Lenient (environment : Environment) : Prop := ∀ s o r, o ≠ Op.now → environment s o r

/-- Every answer is possible. -/
def anyAnswer : Environment := fun _ _ _ => True

theorem lenient_anyAnswer : Lenient anyAnswer := fun _ _ _ _ => trivial

theorem table_claim_single {row : OutboxRow} (hrow : table id = some row) :
    table.claim [id] claimedUntil = Function.update table id (some (row.claim claimedUntil)) := by
  funext other
  by_cases hother : other = id
  · subst hother
    rw [Function.update_self]
    exact (if_pos (List.mem_singleton_self other)).trans (congrArg (Option.map _) hrow)
  · rw [Function.update_of_ne hother]
    exact if_neg fun hmem => hother (List.mem_singleton.mp hmem)

theorem answer_single {row : OutboxRow} (hrow : table id = some row) :
    [id].filterMap (fun id => (table id).map fun row => (id, row)) = [(id, row)] := by
  rw [List.filterMap_cons, hrow]
  rfl

/-- A poll at a time at which only the row of one event can be claimed. -/
theorem leads_claim {now : Time} {time : Instant} {row : OutboxRow}
    {execute : (o : Op) → World → Res o → World → Prop}
    (hexecute : ∀ {o s r t}, exec environment pid o s r t → (∀ id at_, o ≠ .releaseOutboxClaim id at_) →
      execute o s r t) (hlenient : Lenient environment) (htime : s.time ≤ time)
    (hclock : environment { s with time := time } .now now) (hvalid : validPublisherTime now = true)
    (hrow : s.table id = some row) (hcandidate : Candidate (timestamptz now.instant) row)
    (hattempts : row.attempts < maxInt32) :
    System.Leads execute (program C .publishAvailable) s
      (publishRows C now.instant [(id, row.claim (timestamptz (now.instant + publisherLease)))] 0 none
        >>= fun _ => pure ())
      (World.claim { s with time := time, readings := now.instant :: s.readings } pid [id]
        (timestamptz (now.instant + publisherLease))) := by
  refine .step (r := false) (hexecute ⟨s.time, le_refl _, hlenient _ _ _ (nomatch ·), rfl⟩ nofun) ?_
  refine .step (r := now) (hexecute ⟨time, htime, hclock, rfl⟩ nofun) ?_
  have hnot : ¬ validPublisherTime now = false := by
    rw [hvalid]
    exact Bool.noConfusion
  dsimp only [Prog.bind]
  rw [if_neg hnot]
  refine .step (r := some [(id, row.claim (timestamptz (now.instant + publisherLease)))])
    (hexecute ⟨time, le_refl _, _, [id], takes_single hrow hcandidate,
      Or.inl ⟨fits_single hrow hattempts, rfl, ?_⟩⟩ nofun) ?_
  · refine congrArg some (answer_single ?_).symm
    exact (congrFun (table_claim_single hrow) id).trans (Function.update_self ..)
  · exact .refl

/-- What a publisher has left to do when it has released its only row. -/
def released (C : Contracts) (now : Instant) : Prog Op Res Unit :=
  (publisherContextOr .publish >>= fun failure => publishRows C now [] 0 (some failure))
    >>= fun _ => pure ()

/-- What a publisher has left to do when it is about to release its only row. -/
def releasing (C : Contracts) (now : Instant) (id : UUID) (row : OutboxRow) : Prog Op Res Unit :=
  .call (.releaseOutboxClaim id (now + retryBase row.attempts)) fun _ => released C now

/-- A publisher whose context has ended is about to release the row it holds. -/
theorem leads_releasing {row : OutboxRow} {subject : Bytes} (hlenient : Lenient environment)
    (hsubject : validatePublisherRow C id row = some subject) :
    System.Leads (exec environment pid)
      (publishRows C now [(id, row)] 0 none >>= fun _ => pure ()) s (releasing C now id row) s := by
  rw [publishRows, hsubject]
  refine .step (r := true) ⟨s.time, le_refl _, hlenient _ _ _ (nomatch ·), rfl⟩ ?_
  refine .step (r := none) ⟨s.time, le_refl _, hlenient _ _ _ (nomatch ·), rfl⟩ ?_
  exact .refl

theorem exec_release :
    exec environment pid (.releaseOutboxClaim id at_) s
      (some (s.table.updateUnpublished id (·.release (timestamptz at_))).1)
      (s.update pid id (·.release (timestamptz at_))) :=
  ⟨s.time, le_refl _, Or.inl ⟨rfl, rfl⟩⟩

/-- The moments of the run: thirty-one seconds apart, from the year 2021 on. -/
def moment (n : ℕ) : ℤ := 737850 * day + n * (31 * second)

theorem validPublisherTime_moment (hn : n ≤ 80000000) :
    validPublisherTime ⟨moment n, true⟩ = true := by
  have hday : day = 86400000000000 := rfl
  have hmoment : moment n = 737850 * 86400000000000 + n * 31000000000 := rfl
  obtain ⟨y, doy, hsum, hdoy, hyear⟩ := dateOfDays_year (moment n / day)
  simp only [daysBeforeMarch, marchOffset] at hsum
  have hlower : 737850 ≤ moment n / day := by
    rw [hday]
    omega
  have hupper : moment n / day ≤ 737850 + 28704 := by
    rw [hday]
    omega
  have hnonzero : moment n ≠ 0 := by omega
  simp only [validPublisherTime, Bool.and_true, Bool.and_eq_true, bne_iff_ne, decide_eq_true_eq]
  refine ⟨hnonzero, ?_, ?_⟩
  · omega
  · omega

theorem timestamptz_moment (n : ℕ) : timestamptz (moment n) = moment n := by
  have hmoment : moment n = 737850 * 86400000000000 + n * 31000000000 := rfl
  change moment n - moment n % 1000 = moment n
  omega

theorem timestamptz_lease (n : ℕ) :
    timestamptz (moment n + publisherLease) = moment n + publisherLease := by
  have hmoment : moment n = 737850 * 86400000000000 + n * 31000000000 := rfl
  have hlease : publisherLease = 30000000000 := rfl
  change moment n + publisherLease - (moment n + publisherLease) % 1000 = moment n + publisherLease
  omega

theorem timestamptz_delay_le (n attempts : ℕ) :
    timestamptz (moment n + retryBase attempts) ≤ moment (n + 1) := by
  have hmoment : moment n = 737850 * 86400000000000 + n * 31000000000 := rfl
  have hnext : moment (n + 1) = 737850 * 86400000000000 + (n + 1 : ℕ) * 31000000000 := rfl
  have hbase := (retryBase_bounds attempts).2
  have hmaximum : maximumRetryDelay = 30000000000 := rfl
  change moment n + retryBase attempts - (moment n + retryBase attempts) % 1000 ≤ moment (n + 1)
  omega

theorem lease_lt_moment {m : ℕ} (h : m < n) : moment m + publisherLease < moment n := by
  have hm : moment m = 737850 * 86400000000000 + m * 31000000000 := rfl
  have hn : moment n = 737850 * 86400000000000 + n * 31000000000 := rfl
  have hlease : publisherLease = 30000000000 := rfl
  omega

theorem moment_le_moment {m : ℕ} (h : m ≤ n) : moment m ≤ moment n := by
  have hm : moment m = 737850 * 86400000000000 + m * 31000000000 := rfl
  have hn : moment n = 737850 * 86400000000000 + n * 31000000000 := rfl
  omega

section Rounds

variable {row : OutboxRow} {running : Pid → Option (Running Task Unit Op Res World)}

/-- What a publisher that has claimed the row at a moment has left to do. -/
def claimedAt (C : Contracts) (id : UUID) (row : OutboxRow) (n : ℕ) : Prog Op Res Unit :=
  publishRows C (moment n) [(id, row.claim (moment n + publisherLease))] 0 none >>= fun _ => pure ()

/-- A producer appends an event. -/
theorem reaches_appended (pid : Pid) {event : NewEvent} (hfree : running pid = none)
    (hnone : s.table id = none) :
    (publishing C environment).Reaches ⟨s, running⟩ ⟨{ s with
      lease := Function.update s.lease pid none
      table := Function.update s.table id (some event.row) }, running⟩ := by
  have hleads : System.Leads ((publishing C environment).exec pid)
      ((publishing C environment).program (.append id event))
      ((publishing C environment).arrive pid (.append id event) s) _ _ :=
    .step ⟨s.time, le_refl _, Or.inl ⟨hnone, rfl, rfl⟩⟩ .refl
  have hspawned : (publishing C environment).Reaches ⟨s, running⟩ _ :=
    (publishing C environment).reaches_spawned hfree hleads
  exact hspawned.trans ((publishing C environment).reaches_kill hfree)

/-- The world after `pid` has started a poll and claimed the row, its clock showing a moment. -/
def claimedWorld (s : World) (pid : Pid) (id : UUID) (n : ℕ) (time : Instant) : World :=
  World.claim { s with
    time := time, readings := moment n :: s.readings, lease := Function.update s.lease pid none }
    pid [id] (moment n + publisherLease)

/-- A publisher that has started a poll in `s` and claimed the row. -/
def claimant (C : Contracts) (s : World) (pid : Pid) (id : UUID) (row : OutboxRow) (n : ℕ) :
    Running Task Unit Op Res World :=
  ⟨.publishAvailable, { s with lease := Function.update s.lease pid none }, claimedAt C id row n⟩

variable {time : Instant}

theorem table_claimedWorld (hrow : s.table id = some row) :
    (claimedWorld s pid id n time).table id = some (row.claim (moment n + publisherLease)) :=
  (congrFun (table_claim_single hrow) id).trans (Function.update_self ..)

/-- A poll that claims the row, its clock showing a moment. -/
theorem leads_claimedAt {execute : (o : Op) → World → Res o → World → Prop}
    (hexecute : ∀ {o s r t}, exec environment pid o s r t → (∀ id at_, o ≠ .releaseOutboxClaim id at_) →
      execute o s r t) (hlenient : Lenient environment) (htime : s.time ≤ time)
    (hclock : ∀ u : World, u.time = time → environment u .now ⟨moment n, true⟩)
    (hrow : s.table id = some row) (hcandidate : Candidate (moment n) row)
    (hattempts : row.attempts < maxInt32) (hn : n ≤ 80000000) :
    System.Leads execute (program C .publishAvailable)
      { s with lease := Function.update s.lease pid none } (claimedAt C id row n)
      (claimedWorld s pid id n time) := by
  rw [← timestamptz_moment] at hcandidate
  have hleads := leads_claim (s := { s with lease := Function.update s.lease pid none }) (C := C)
    hexecute hlenient htime (hclock _ rfl) (validPublisherTime_moment hn) hrow hcandidate hattempts
  rw [timestamptz_lease] at hleads
  exact hleads

/-- A publisher starts a poll and claims the row, its clock showing a moment. -/
theorem reaches_claim (hlenient : Lenient environment) (htime : s.time ≤ time)
    (hclock : ∀ u : World, u.time = time → environment u .now ⟨moment n, true⟩)
    (hfree : running pid = none) (hrow : s.table id = some row)
    (hcandidate : Candidate (moment n) row) (hattempts : row.attempts < maxInt32)
    (hn : n ≤ 80000000) :
    (publishing C environment).Reaches ⟨s, running⟩
      ⟨claimedWorld s pid id n time, Function.update running pid (some (claimant C s pid id row n))⟩ :=
  (publishing C environment).reaches_spawned hfree
    (leads_claimedAt (fun h _ => h) hlenient htime hclock hrow hcandidate hattempts hn)

/-- Publishers that claim the row one after the other, each when the lease of the one
before has passed. -/
theorem reaches_claims_expired (m : ℕ) (hfree : running pid = none) (hrow : s.table id = some row)
    (hunpublished : row.publishedAt = none) (havailable : row.availableAt ≤ moment n)
    (hclaimed : row.claimedUntil = some (moment n + publisherLease))
    (hattempts : row.attempts + m ≤ maxInt32) (hn : n + m ≤ 80000000) :
    ∃ t, (publishing C anyAnswer).Reaches ⟨s, running⟩ ⟨t, running⟩ ∧
      t.table id = some { row with
        attempts := row.attempts + m, claimedUntil := some (moment (n + m) + publisherLease) } := by
  induction m with
  | zero =>
    refine ⟨s, Relation.ReflTransGen.refl, hrow.trans ?_⟩
    rw [Nat.add_zero, ← hclaimed]
    rfl
  | succ m ih =>
    obtain ⟨t, hreaches, hrow'⟩ := ih (by omega) (by omega)
    have hcandidate : Candidate (moment (n + (m + 1))) { row with
        attempts := row.attempts + m, claimedUntil := some (moment (n + m) + publisherLease) } := by
      refine ⟨hunpublished, havailable.trans (moment_le_moment (by omega)), ?_⟩
      intro at_ hat
      obtain rfl := Option.some.inj hat
      exact lease_lt_moment (by omega)
    have hroom : row.attempts + m < maxInt32 := by omega
    have hclaim := reaches_claim (C := C) lenient_anyAnswer (le_refl _) (fun _ _ => trivial) hfree hrow'
      hcandidate hroom hn
    exact ⟨_, hreaches.trans (hclaim.trans ((publishing C anyAnswer).reaches_kill hfree)),
      table_claimedWorld hrow'⟩

/-- Rows that carry the same event are valid alike. -/
theorem validatePublisherRow_event {row' : OutboxRow} (h : event row' = event row) :
    validatePublisherRow C id row' = validatePublisherRow C id row := by
  have hfields := (NewEvent.mk.injEq ..).mp h
  simp only [validatePublisherRow, hfields]

/-- One round: a publisher claims the row, others claim it `m` times while its lease and
theirs pass, and then it releases the row, which is available again as of its own claim. -/
theorem reaches_round (m : ℕ) {subject : Bytes} (hrow : s.table id = some row)
    (hsubject : validatePublisherRow C id row = some subject)
    (hunpublished : row.publishedAt = none) (havailable : row.availableAt ≤ moment n)
    (hclaimed : row.claimedUntil = none) (hattempts : row.attempts + (m + 1) ≤ maxInt32)
    (hn : n + m ≤ 80000000) :
    ∃ t at_, (publishing C anyAnswer).Reaches ⟨s, fun _ => none⟩ ⟨t, fun _ => none⟩ ∧
      at_ ≤ moment (n + 1) ∧
      t.table id = some { row with attempts := row.attempts + (m + 1), availableAt := at_ } := by
  have hcandidate : Candidate (moment n) row := by
    refine ⟨hunpublished, havailable, ?_⟩
    intro at_ hat
    rw [hclaimed] at hat
    cases hat
  -- the first publisher claims the row and is slow
  have hfirst : (publishing C anyAnswer).Reaches ⟨s, fun _ => none⟩ ⟨claimedWorld s 0 id n s.time, _⟩ :=
    reaches_claim lenient_anyAnswer (le_refl _) (fun _ _ => trivial) rfl hrow hcandidate (by omega)
      (by omega)
  have hrow₁ : (claimedWorld s 0 id n s.time).table id = _ := table_claimedWorld hrow
  -- the others claim it while it is
  have hfree : Function.update (fun _ => none) 0 (some (claimant C s 0 id row n)) 1 = none :=
    Function.update_of_ne Nat.one_ne_zero ..
  have hroom : row.attempts + 1 + m ≤ maxInt32 := by omega
  obtain ⟨u, hothers, hrow₂⟩ :=
    reaches_claims_expired (C := C) m hfree hrow₁ hunpublished havailable rfl hroom hn
  -- the first publisher releases it
  have hreleasing : System.Leads ((publishing C anyAnswer).exec 0) (claimedAt C id row n) u
      (releasing C (moment n) id (row.claim (moment n + publisherLease))) u :=
    leads_releasing lenient_anyAnswer ((validatePublisherRow_event rfl).trans hsubject)
  have hleads := hreleasing.trans (.step exec_release .refl)
  have hself : Function.update (fun _ => none) 0 (some (claimant C s 0 id row n)) 0 =
      some (claimant C s 0 id row n) :=
    Function.update_self ..
  have hlast : (publishing C anyAnswer).Reaches
      ⟨u, Function.update (fun _ => none) 0 (some (claimant C s 0 id row n))⟩ _ :=
    (publishing C anyAnswer).reaches_of_leads hleads hself
  rw [Function.update_idem] at hlast
  refine ⟨_, timestamptz (moment n + retryBase (row.attempts + 1)), (hfirst.trans hothers).trans
    (hlast.trans ((publishing C anyAnswer).reaches_kill rfl)), timestamptz_delay_le n _, ?_⟩
  refine (congrFun (updateUnpublished_of hrow₂ hunpublished) id).trans ?_
  have hsum : row.attempts + 1 + m = row.attempts + (m + 1) := by omega
  rw [Function.update_self]
  simp only [OutboxRow.release, OutboxRow.claim, hsum, hclaimed]

/-- Rounds one after the other. -/
theorem reaches_rounds (k m : ℕ) {subject : Bytes} (hrow : s.table id = some row)
    (hsubject : validatePublisherRow C id row = some subject)
    (hunpublished : row.publishedAt = none) (havailable : row.availableAt ≤ moment 0)
    (hclaimed : row.claimedUntil = none) (hattempts : row.attempts + k * (m + 1) ≤ maxInt32)
    (hn : k + m ≤ 80000000) :
    ∃ t at_, (publishing C anyAnswer).Reaches ⟨s, fun _ => none⟩ ⟨t, fun _ => none⟩ ∧
      at_ ≤ moment k ∧
      t.table id = some { row with attempts := row.attempts + k * (m + 1), availableAt := at_ } := by
  induction k with
  | zero =>
    refine ⟨s, row.availableAt, Relation.ReflTransGen.refl, havailable, hrow.trans ?_⟩
    rw [Nat.zero_mul, Nat.add_zero]
  | succ k ih =>
    rw [Nat.succ_mul] at hattempts
    obtain ⟨t, at_, hreaches, hat, hrow'⟩ := ih (by omega) (by omega)
    obtain ⟨u, at', hround, hat', hrow''⟩ := reaches_round m hrow'
      ((validatePublisherRow_event rfl).trans hsubject) hunpublished hat hclaimed
      (by
        change row.attempts + k * (m + 1) + (m + 1) ≤ maxInt32
        omega) (by omega)
    refine ⟨u, at', hreaches.trans hround, hat', hrow''.trans ?_⟩
    rw [Nat.succ_mul, Nat.add_assoc]

end Rounds

/-- An event type of the registry, an event of it, and contracts that read its payload. -/
def countedEvent : NewEvent where
  eventType := ascii "talenro.trust.bundle_issued.v1"
  aggregateType := ascii "bundle"
  aggregateID := Octets.replicate 16 1
  aggregateVersion := 1
  idempotencyKey := ascii "bundle:1"
  payload := ascii "payload"
  occurredAt := moment 0

def countedContracts : Contracts where
  unmarshalEnvelope _ := some
    { eventId := List.replicate 16 2
      eventType := ascii "talenro.trust.bundle_issued.v1"
      aggregateId := List.replicate 16 1
      aggregateType := ascii "bundle"
      aggregateVersion := 1
      idempotencyKey := ascii "bundle:1" }
  uuidString id := id.1

/-- The id of the event. -/
def countedID : UUID := Octets.replicate 16 2

theorem validatePublisherRow_counted {row : OutboxRow} (h : event row = event countedEvent.row) :
    validatePublisherRow countedContracts countedID row =
      some (ascii "talenro.trust.bundle_issued.v1") :=
  (validatePublisherRow_event h).trans (by decide)

/-- The outbox with this event. -/
def countedWorld : World :=
  { World.start (moment 0) with
    lease := Function.update (fun _ => none) 0 none
    table := Function.update (fun _ => none) countedID (some countedEvent.row) }

theorem table_countedWorld : countedWorld.table countedID = some countedEvent.row := by
  show Function.update (fun _ => none) countedID (some countedEvent.row) countedID = _
  exact Function.update_self ..

theorem reaches_counted : (publishing countedContracts environment).Reaches
    ⟨World.start (moment 0), fun _ => none⟩ ⟨countedWorld, fun _ => none⟩ :=
  reaches_appended 0 rfl rfl

/-- The row that a publisher has claimed and released. -/
theorem rows_kept_round : ∃ t row', (publishing countedContracts anyAnswer).Reaches
      ⟨countedWorld, fun _ => none⟩ ⟨t, fun _ => none⟩ ∧ t.table countedID = some row' ∧
    event row' = event countedEvent.row := by
  obtain ⟨t, _, hround, -⟩ := reaches_round (n := 0) 0 table_countedWorld
    (validatePublisherRow_counted rfl) rfl (timestamptz_moment 0).le rfl (by decide) (by decide)
  obtain ⟨row', hrow, hevent, -⟩ := rows_kept hround table_countedWorld
  exact ⟨t, row', hround, hrow, hevent⟩

end Talenro.Outbox
