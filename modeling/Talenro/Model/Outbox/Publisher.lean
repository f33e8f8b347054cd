import Talenro.Lib.Concurrent
import Talenro.Model.Idempotency

/-!
# The outbox and its publishers

Events are inserted into `transactional_outbox` by the transactions that cause them.
Publishers poll the table: a call of `PublishAvailable` claims a batch of rows for the
length of a lease, hands each row to the broker, and marks it published or, when the
broker did not acknowledge it, releases it for a later retry.

Each statement of a publisher is a transaction of its own.  `World` therefore holds the
committed table and lets a statement take effect in one step; rows that another statement
has locked are skipped by a claim.  Beside the table stand what the broker has
acknowledged and what an observer of the publishers notes: the time, the readings of
their clocks, and which claim holds which row.

Sources named without a directory are in `internal/outbox`.
-/

set_option autoImplicit false

namespace Talenro.Outbox

open Lib Lib.Calendar Idempotency

/-! ## Rows and events -/

/-- A row; the event id is its key.

SOURCE: db/migrations/00004_trust_delivery.sql:71-84 -/
structure OutboxRow where
  eventType : Bytes
  aggregateType : Bytes
  aggregateID : UUID
  aggregateVersion : ℤ
  idempotencyKey : Bytes
  payload : Bytes
  occurredAt : Instant
  availableAt : Instant
  claimedUntil : Option Instant
  attempts : ℕ
  publishedAt : Option Instant
deriving DecidableEq

/-- What `Append` inserts: a row that is available at once, not claimed and not published.

SOURCE: db/queries/outbox.sql:31-35, repository.go:68-78 -/
structure NewEvent where
  eventType : Bytes
  aggregateType : Bytes
  aggregateID : UUID
  aggregateVersion : ℤ
  idempotencyKey : Bytes
  payload : Bytes
  occurredAt : Instant

def NewEvent.row (event : NewEvent) : OutboxRow where
  eventType := event.eventType
  aggregateType := event.aggregateType
  aggregateID := event.aggregateID
  aggregateVersion := event.aggregateVersion
  idempotencyKey := event.idempotencyKey
  payload := event.payload
  occurredAt := timestamptz event.occurredAt
  availableAt := timestamptz event.occurredAt
  claimedUntil := none
  attempts := 0
  publishedAt := none

/-- The fields of `eventsv1.EventEnvelope` that the publisher compares. -/
structure Envelope where
  eventId : Bytes
  eventType : Bytes
  aggregateId : Bytes
  aggregateType : Bytes
  aggregateVersion : ℕ
  idempotencyKey : Bytes

/-- The event contracts: what `contractevents.UnmarshalEnvelope` reads from a payload, and
the text of an id. -/
structure Contracts where
  unmarshalEnvelope : Bytes → Option Envelope
  uuidString : UUID → Bytes

/-! ## Statements -/

/-- The largest value of an `integer` column. -/
def maxInt32 : ℕ := 2 ^ 31 - 1

/-- The condition of `ClaimOutboxBatch`.

SOURCE: db/queries/outbox.sql:3-5 -/
def Candidate (now : Instant) (row : OutboxRow) : Prop :=
  row.publishedAt = none ∧ row.availableAt ≤ now ∧ ∀ u, row.claimedUntil = some u → u < now

abbrev Table : Type := UUID → Option OutboxRow

/-- The rows `ClaimOutboxBatch` chooses: the candidates that occurred first, but for those
that are locked.

SOURCE: db/queries/outbox.sql:2-9 -/
structure Takes (table : Table) (locked : UUID → Prop) (now : Instant) (limit : ℕ)
    (batch : List UUID) : Prop where
  nodup : batch.Nodup
  length : batch.length ≤ limit
  candidate : ∀ id ∈ batch, ¬ locked id ∧ ∃ row, table id = some row ∧ Candidate now row
  earliest : ∀ id row, table id = some row → Candidate now row → ¬ locked id → id ∉ batch →
    batch.length = limit ∧
      ∀ other ∈ batch, ∀ row', table other = some row' → row'.occurredAt ≤ row.occurredAt

/-- SOURCE: db/queries/outbox.sql:11 -/
def OutboxRow.claim (row : OutboxRow) (claimedUntil : Instant) : OutboxRow :=
  { row with claimedUntil := some claimedUntil, attempts := row.attempts + 1 }

/-- The counters of the batch can be increased: otherwise the statement fails, an
`integer` being out of range. -/
def Fits (table : Table) (batch : List UUID) : Prop :=
  ∀ id ∈ batch, ∀ row, table id = some row → row.attempts < maxInt32

/-- SOURCE: db/queries/outbox.sql:10-14 -/
def Table.claim (table : Table) (batch : List UUID) (claimedUntil : Instant) : Table :=
  fun id => if id ∈ batch then (table id).map (·.claim claimedUntil) else table id

/-- SOURCE: db/queries/outbox.sql:17 -/
def OutboxRow.markPublished (row : OutboxRow) (publishedAt : Instant) : OutboxRow :=
  { row with publishedAt := some publishedAt, claimedUntil := none }

/-- SOURCE: db/queries/outbox.sql:38-39 -/
def OutboxRow.release (row : OutboxRow) (availableAt : Instant) : OutboxRow :=
  { row with claimedUntil := none, availableAt := availableAt }

/-- An update of the row of an event that is not published, and how many rows it changed.

SOURCE: db/queries/outbox.sql:16-18, db/queries/outbox.sql:37-40 -/
def Table.updateUnpublished (table : Table) (eventID : UUID) (f : OutboxRow → OutboxRow) :
    ℕ × Table :=
  match table eventID with
  | none => (0, table)
  | some row =>
    if row.publishedAt = none then (1, Function.update table eventID (some (f row))) else (0, table)

/-! ## Operations -/

/-- SOURCE: nats.go:60 -/
structure PubAck where
  stream : Bytes
  sequence : ℕ

inductive Op where
  | contextError
  | now
  | random (n : ℕ)
  | claimOutboxBatch (now : Instant) (limit : ℕ) (claimedUntil : Instant)
  | markOutboxPublished (eventID : UUID) (publishedAt : Instant)
  | releaseOutboxClaim (eventID : UUID) (availableAt : Instant)
  | publishMsg (subject messageID data : Bytes)
  | appendEvent (eventID : UUID) (event : NewEvent)

@[reducible] def Res : Op → Type
  | .contextError => Bool
  | .now => Time
  | .random n => Option (Octets n)
  | .claimOutboxBatch _ _ _ => Option (List (UUID × OutboxRow))
  | .markOutboxPublished _ _ => Option ℕ
  | .releaseOutboxClaim _ _ => Option ℕ
  | .publishMsg _ _ _ => Option PubAck
  | .appendEvent _ _ => Option Unit

abbrev Pid : Type := ℕ

/-- A message the broker has acknowledged. -/
structure Acknowledged where
  subject : Bytes
  messageID : Bytes
  data : Bytes
  ack : PubAck

/-- A claim of a batch: its number and the time until which it holds. -/
structure Lease where
  number : ℕ
  claimedUntil : Instant
deriving DecidableEq

/-- The table, the messages the broker has acknowledged, and what an observer notes: the
time, the readings of the publishers' clocks, how many batches were claimed, the claim
each process has made, and for each row the last claim that its own publisher has not
ended. -/
structure World where
  table : Table
  acknowledged : List Acknowledged
  time : Instant
  readings : List Instant
  claims : ℕ
  lease : Pid → Option Lease
  holder : UUID → Option Lease

/-- An empty outbox. -/
def World.start (time : Instant) : World where
  table _ := none
  acknowledged := []
  time := time
  readings := []
  claims := 0
  lease _ := none
  holder _ := none

/-- A batch is claimed by `pid`. -/
def World.claim (s : World) (pid : Pid) (batch : List UUID) (claimedUntil : Instant) : World :=
  let lease : Lease := ⟨s.claims, claimedUntil⟩
  { s with
    table := s.table.claim batch claimedUntil
    claims := s.claims + 1
    lease := Function.update s.lease pid (some lease)
    holder := fun id => if id ∈ batch then some lease else s.holder id }

/-- The publisher `pid` ends its own claim of a row; the claims of others are not its. -/
def World.endClaim (s : World) (pid : Pid) (eventID : UUID) : UUID → Option Lease :=
  if s.holder eventID = s.lease pid then Function.update s.holder eventID none else s.holder

/-- A row that is not published is updated by `pid`, who ends its claim. -/
def World.update (s : World) (pid : Pid) (eventID : UUID) (f : OutboxRow → OutboxRow) : World :=
  { s with table := (s.table.updateUnpublished eventID f).2, holder := s.endClaim pid eventID }

/-- Which answers the services can give in a state, and which statements the database can
fail to confirm: those to which `none` is an answer. -/
def Environment : Type := World → (o : Op) → Res o → Prop

/-- What an operation of `pid` does.  A statement that fails may have taken effect. -/
def Does (environment : Environment) (pid : Pid) : (o : Op) → World → Res o → World → Prop
  | .now, s, r, t =>
    environment s .now r ∧ t = { s with readings := r.instant :: s.readings }
  | .claimOutboxBatch now limit claimedUntil, s, r, t =>
    ∃ locked batch, Takes s.table locked (timestamptz now) limit batch ∧
      ((Fits s.table batch ∧ t = s.claim pid batch (timestamptz claimedUntil) ∧
          r = some (batch.filterMap fun id => (t.table id).map fun row => (id, row))) ∨
        (¬ Fits s.table batch ∧ t = s ∧ r = none) ∨
        (environment s (.claimOutboxBatch now limit claimedUntil) none ∧ r = none ∧
          (t = s ∨ Fits s.table batch ∧ t = s.claim pid batch (timestamptz claimedUntil))))
  | .markOutboxPublished eventID publishedAt, s, r, t =>
    let f := fun row : OutboxRow => row.markPublished (timestamptz publishedAt)
    (r = some (s.table.updateUnpublished eventID f).1 ∧ t = s.update pid eventID f) ∨
      (environment s (.markOutboxPublished eventID publishedAt) none ∧ r = none ∧
        (t = s ∨ t = s.update pid eventID f))
  | .releaseOutboxClaim eventID availableAt, s, r, t =>
    let f := fun row : OutboxRow => row.release (timestamptz availableAt)
    (r = some (s.table.updateUnpublished eventID f).1 ∧ t = s.update pid eventID f) ∨
      (environment s (.releaseOutboxClaim eventID availableAt) none ∧ r = none ∧
        (t = s ∨ t = s.update pid eventID f))
  | .publishMsg subject messageID data, s, r, t =>
    environment s (.publishMsg subject messageID data) r ∧
      t = match r with
        | some ack =>
          { s with acknowledged := s.acknowledged ++ [⟨subject, messageID, data, ack⟩] }
        | none => s
  | .appendEvent eventID event, s, r, t =>
    let inserted := { s with table := Function.update s.table eventID (some event.row) }
    (s.table eventID = none ∧ r = some () ∧ t = inserted) ∨
      ((s.table eventID).isSome ∧ r = none ∧ t = s) ∨
      (environment s (.appendEvent eventID event) none ∧ r = none ∧
        (t = s ∨ s.table eventID = none ∧ t = inserted))
  | o, s, r, t => environment s o r ∧ t = s

/-- One operation: time passes, then it takes effect. -/
def exec (environment : Environment) (pid : Pid) (o : Op) (s : World) (r : Res o) (t : World) :
    Prop :=
  ∃ time, s.time ≤ time ∧ Does environment pid o { s with time := time } r t

/-! ## The publisher -/

/-- SOURCE: publisher.go:31-41 -/
inductive PublisherError where
  | store
  | event
  | publish
  | canceled
deriving DecidableEq

/-- SOURCE: publisher.go:22-26 -/
def publisherClaimLimit : ℕ := 100

/-- SOURCE: publisher.go:22-26 -/
def publisherLease : ℤ := 30 * second

/-- SOURCE: publisher.go:22-26 -/
def maximumPublishBytes : ℕ := 264 * 1024

/-- SOURCE: publisher.go:22-26 -/
def minimumRetryDelay : ℤ := second

/-- SOURCE: publisher.go:22-26 -/
def maximumRetryDelay : ℤ := 30 * second

/-- SOURCE: publisher.go:276-278 -/
def validPublisherTime (value : Time) : Bool :=
  let year := (dateOfDays (value.instant / day)).year
  value.instant != 0 && value.utc && decide (2020 ≤ year ∧ year ≤ 2100)

/-- The steps of the loop of `retryBase` that are left. -/
def retryBaseLoop : ℕ → ℤ → ℤ
  | 0, delay => if delay > maximumRetryDelay then maximumRetryDelay else delay
  | steps + 1, delay =>
    if delay ≥ maximumRetryDelay / 2 then maximumRetryDelay else retryBaseLoop steps (delay * 2)

/-- SOURCE: publisher.go:226-241 -/
def retryBase (attempts : ℕ) : ℤ :=
  retryBaseLoop ((if attempts < 1 then 1 else attempts) - 1) minimumRetryDelay

/-- The delay `retryDelay` computes from the octets it reads.

SOURCE: publisher.go:214-224 -/
def retryDelay (attempts : ℕ) (sample : Octets 8) : ℤ :=
  let base := retryBase attempts
  let minimum := base * 8 / 10
  let span := base * 4 / 10 + 1
  minimum + (ofBigEndian sample.1 : ℤ) % span

/-- The registered event types.

SOURCE: internal/contracts/events/marshal.go:20-31 -/
def registeredEventTypes : List Bytes :=
  [ascii "talenro.identity.account_state_changed.v1",
   ascii "talenro.identity.email_delivery_requested.v1",
   ascii "talenro.deviceauth.authorization_changed.v1",
   ascii "talenro.deviceauth.token_family_compromised.v1",
   ascii "talenro.trust.bundle_issued.v1",
   ascii "talenro.trust.bundle_acknowledged.v1"]

/-- SOURCE: publisher.go:262-274 -/
def subjectForEventType (eventType : Bytes) : Option Bytes :=
  if eventType ∈ registeredEventTypes then some eventType else none

/-- SOURCE: publisher.go:243-259 -/
def validatePublisherRow (C : Contracts) (eventID : UUID) (row : OutboxRow) : Option Bytes :=
  if eventID = UUID.zero ∨ row.aggregateID = UUID.zero ∨ row.aggregateVersion < 1 ∨
      row.payload.length = 0 ∨ maximumPublishBytes < row.payload.length then none
  else
    match C.unmarshalEnvelope row.payload with
    | none => none
    | some envelope =>
      if envelope.eventId ≠ C.uuidString eventID ∨ envelope.eventType ≠ row.eventType ∨
          envelope.aggregateId ≠ C.uuidString row.aggregateID ∨
          envelope.aggregateType ≠ row.aggregateType ∨
          (envelope.aggregateVersion : ℤ) ≠ row.aggregateVersion ∨
          envelope.idempotencyKey ≠ row.idempotencyKey then none
      else subjectForEventType row.eventType

/-- SOURCE: publisher.go:280-285 -/
def publisherContextOr (fallback : PublisherError) : Prog Op Res PublisherError := do
  let canceled ← Prog.op Op.contextError
  pure (if canceled then .canceled else fallback)

/-- SOURCE: publisher.go:206-212 -/
def release (eventID : UUID) (row : OutboxRow) (now : Instant) : Prog Op Res Unit := do
  let sample ← Prog.op (Op.random 8)
  let delay := match sample with
    | some sample => retryDelay row.attempts sample
    | none => retryBase row.attempts
  let _ ← Prog.op (Op.releaseOutboxClaim eventID (now + delay))
  pure ()

/-- SOURCE: nats.go:12 -/
def eventStreamName : Bytes := ascii "TALENRO_EVENTS"

/-- `NATSBroker.Publish`; whether the message was acknowledged.

SOURCE: nats.go:45-64 -/
def publish (subject messageID payload : Bytes) : Prog Op Res Bool := do
  let canceled ← Prog.op Op.contextError
  if canceled ∨ messageID = [] ∨ payload = [] ∨ subjectForEventType subject ≠ some subject then
    pure false
  else
    let ack ← Prog.op (Op.publishMsg subject messageID payload)
    pure (ack.any fun ack => ack.stream == eventStreamName && ack.sequence != 0)

/-- `PostgresPublisherStore.MarkPublished`; whether it succeeded.

SOURCE: publisher.go:323-334 -/
def markPublished (eventID : UUID) (now : Instant) : Prog Op Res Bool := do
  let rows ← Prog.op (Op.markOutboxPublished eventID now)
  pure (rows.any fun rows => rows ≤ 1)

/-- The loop of `PublishAvailable` over the rows that are left, with what it has counted.

SOURCE: publisher.go:110-128 -/
def publishRows (C : Contracts) (now : Instant) :
    List (UUID × OutboxRow) → ℕ → Option PublisherError → Prog Op Res (ℕ × Option PublisherError)
  | [], processed, batchErr => pure (processed, batchErr)
  | (eventID, row) :: rows, processed, batchErr =>
    match validatePublisherRow C eventID row with
    | none => do
      release eventID row now
      publishRows C now rows processed (some .event)
    | some subject => do
      let acknowledged ← publish subject (C.uuidString eventID) row.payload
      if acknowledged then
        let marked ← markPublished eventID now
        if marked then publishRows C now rows (processed + 1) batchErr
        else
          let failure ← publisherContextOr .store
          publishRows C now rows processed (some failure)
      else
        release eventID row now
        let failure ← publisherContextOr .publish
        publishRows C now rows processed (some failure)

/-- SOURCE: publisher.go:96-130 -/
def publishAvailable (C : Contracts) : Prog Op Res (ℕ × Option PublisherError) := do
  let canceled ← Prog.op Op.contextError
  if canceled then pure (0, some .canceled)
  else
    let now ← Prog.op Op.now
    if validPublisherTime now = false then pure (0, some .store)
    else
      let claimed ← Prog.op (Op.claimOutboxBatch now.instant publisherClaimLimit
        (now.instant + publisherLease))
      match claimed with
      | none => do
        let failure ← publisherContextOr .store
        pure (0, some failure)
      | some rows =>
        if publisherClaimLimit < rows.length then do
          let failure ← publisherContextOr .store
          pure (0, some failure)
        else publishRows C now.instant rows 0 none

/-! ## Publishers and producers side by side -/

/-- A poll of a publisher, or the commit of a transaction that appended an event. -/
inductive Task where
  | publishAvailable
  | append (eventID : UUID) (event : NewEvent)

/-- The program of a task; a publisher only reports what its poll returns. -/
def program (C : Contracts) : Task → Prog Op Res Unit
  | .publishAvailable => do
    let _ ← publishAvailable C
    pure ()
  | .append eventID event => do
    let _ ← Prog.op (Op.appendEvent eventID event)
    pure ()

/-- Publishers and producers over one outbox.  A process starts without a claim. -/
def publishing (C : Contracts) (environment : Environment) : System Pid Task Unit Op Res World where
  program := program C
  arrive pid _ s := { s with lease := Function.update s.lease pid none }
  exec := exec environment
  release _ s := s
  crash s t := t = s

end Talenro.Outbox
