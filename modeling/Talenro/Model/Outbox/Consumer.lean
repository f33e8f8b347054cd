import Talenro.Lib.Concurrent
import Talenro.Lib.Transaction
import Talenro.Model.Idempotency

/-!
# Consumers of events

A delivery of an event to a consumer runs in one transaction: the consumption record is
inserted, a handler does its work through the same transaction when the record was not
there yet, and the transaction commits.  `PruneConsumedEvents` deletes records that have
expired.

Handlers are parameters, as are the tables they work on.  A handler can perform any
statements, but it does not end the transaction and does not write consumption records;
it can return an error or panic.  A statement that fails aborts the transaction, as it
does in PostgreSQL: the statements after it fail and its commit is a rollback.

Sources named without a directory are in `internal/outbox`.
-/

set_option autoImplicit false

namespace Talenro.Consumption

open Lib Lib.Calendar Idempotency

/-! ## Tables -/

/-- The primary keys: those of `consumed_event_ids`, and those of the tables that handlers
work on. -/
inductive Key (κ : Type) where
  | consumedEvent (consumer : Bytes) (eventID : UUID)
  | table (k : κ)
deriving DecidableEq

/-- SOURCE: db/migrations/00004_trust_delivery.sql:87-93 -/
structure ConsumedEventRow where
  consumedAt : Instant
  expiresAt : Instant
deriving DecidableEq

/-- The row at a key. -/
@[reducible] def Row {κ : Type} (R : κ → Type) : Key κ → Type
  | .consumedEvent _ _ => ConsumedEventRow
  | .table k => R k

/-- The pattern of the column `consumer`.

SOURCE: db/migrations/00004_trust_delivery.sql:88 -/
def consumerColumn (consumer : Bytes) : Bool :=
  match consumer with
  | [] => false
  | c :: rest =>
    (0x61 ≤ c && c ≤ 0x7a) && decide (rest.length ≤ 127) && rest.all fun c =>
      (0x61 ≤ c && c ≤ 0x7a) || (0x30 ≤ c && c ≤ 0x39) || c == 0x5f || c == 0x2e || c == 0x2d

/-- The constraints of the tables; those of the handlers' tables are a parameter. -/
def constraints {κ : Type} {R : κ → Type} (check : (k : κ) → R k → Bool) :
    (k : Key κ) → Row R k → Bool
  | .consumedEvent consumer _, _ => consumerColumn consumer
  | .table k, row => check k row

/-! ## Operations -/

inductive Op {κ : Type} (R : κ → Type) where
  | contextError
  | statement (q : Statement (Key κ) (Row R))
  | pruneConsumedEvents (expiresAt : Instant)

@[reducible] def Res {κ : Type} (R : κ → Type) : Op R → Type
  | .contextError => Bool
  | .statement q => Option q.Answer
  | .pruneConsumedEvents _ => Option ℕ

abbrev Pid : Type := ℕ

/-- The database, the transactions that have failed, and which events have ever been
recorded by a committed transaction, as an observer notes. -/
structure World {κ : Type} (R : κ → Type) where
  database : RowStore (Key κ) (Row R) Pid
  aborted : Pid → Bool
  recorded : Bytes → UUID → Prop

section Semantics

variable {κ : Type} {R : κ → Type} [DecidableEq κ]

/-- The world with another database, the transaction of `pid` being aborted or not. -/
def World.advance (s : World R) (pid : Pid) (aborted : Bool)
    (database : RowStore (Key κ) (Row R) Pid) : World R where
  database := database
  aborted := Function.update s.aborted pid aborted
  recorded consumer eventID := s.recorded consumer eventID ∨
    (database.committed (.consumedEvent consumer eventID)).isSome

/-- A statement of the transaction of `pid`; any statement can fail.  In an aborted
transaction every statement fails, and its commit is a rollback. -/
def Executes (check : (k : κ) → R k → Bool) (pid : Pid) (q : Statement (Key κ) (Row R))
    (s : World R) (r : Option q.Answer) (t : World R) : Prop :=
  if s.aborted pid && !q.begins then
    r = none ∧ t = s.advance pid true
      (if q.ends then s.database.finish pid false else s.database)
  else ∃ d, RowStore.Exec (constraints check) (fun _ => True) pid q s.database r d ∧
    t = s.advance pid r.isNone d

/-- The rows that `PruneConsumedEvents` deletes.

SOURCE: db/queries/outbox.sql:47-48 -/
def expired (expiresAt : Instant) : (k : Key κ) → Row R k → Bool
  | .consumedEvent _ _, row => decide (row.expiresAt < expiresAt)
  | .table _, _ => false

/-- A deletion, in a transaction of its own.  It waits for rows that others own; when its
confirmation is lost it may have taken effect. -/
def Prunes (pid : Pid) (expiresAt : Instant) (s : World R) (r : Option ℕ) (t : World R) : Prop :=
  let drop := expired (R := R) (timestamptz expiresAt)
  let after := s.advance pid (s.aborted pid) (s.database.remove drop)
  (∀ k row, s.database.committed k = some row → drop k row = true → s.database.owner k = none) ∧
    (r = some (s.database.keys.filter fun k => (s.database.committed k).any (drop k)).length ∧
        t = after ∨
      r = none ∧ (t = s ∨ t = after))

/-- One operation of the process `pid`. -/
def exec (check : (k : κ) → R k → Bool) (pid : Pid) : (o : Op R) → World R → Res R o → World R → Prop
  | .contextError, s, _, t => t = s
  | .statement q, s, r, t => Executes check pid q s r t
  | .pruneConsumedEvents expiresAt, s, r, t => Prunes pid expiresAt s r t

end Semantics

/-! ## Consumers -/

/-- SOURCE: consumer.go:21-30, repository.go:16-21 -/
inductive Error where
  | invalidEvent
  | store
  | handler
  | commit
  | canceled
deriving DecidableEq

/-- The event contracts: what `contractevents.UnmarshalEnvelope` reads from a delivery, and
the texts of ids. -/
structure Contracts where
  Envelope : Type
  unmarshalEnvelope : Bytes → Option Envelope
  eventId : Envelope → Bytes
  uuidParse : Bytes → Option UUID
  uuidString : UUID → Bytes

/-- How a handler can fail. -/
inductive HandlerFailure where
  | error
  | panic

/-- What a handler may do: statements that neither begin nor end a transaction and do not
write consumption records. -/
def HandlerOp {κ : Type} {R : κ → Type} : Op R → Prop
  | .contextError => True
  | .statement q => q.begins = false ∧ q.ends = false ∧
      ∀ consumer eventID, q.target ≠ some (.consumedEvent consumer eventID)
  | .pruneConsumedEvents _ => False

/-- SOURCE: consumer.go:32-36 -/
structure Handler (C : Contracts) {κ : Type} (R : κ → Type) where
  handleInTransaction : C.Envelope → ExceptT HandlerFailure (Prog (Op R) (Res R)) Unit
  performs : ∀ envelope, Prog.Performs HandlerOp (handleInTransaction envelope).run

/-- SOURCE: consumer.go:15-19 -/
def maximumConsumerRetention : ℤ := 365 * day

/-- SOURCE: consumer.go:202-214 -/
def validConsumerName (value : Bytes) : Bool :=
  match value with
  | [] => false
  | c :: rest =>
    decide (value.length ≤ 128) && (0x61 ≤ c && c ≤ 0x7a) && rest.all fun c =>
      (0x61 ≤ c && c ≤ 0x7a) || (0x30 ≤ c && c ≤ 0x39) || c == 0x2e || c == 0x2d

/-- A consumer as `newConsumerForTest` accepts it; `NewConsumer` sets the retention to
thirty days.

SOURCE: consumer.go:65-71, consumer.go:104-109 -/
structure Consumer (C : Contracts) {κ : Type} (R : κ → Type) where
  name : Bytes
  retention : ℤ
  handler : Handler C R
  name_valid : validConsumerName name = true
  retention_valid : 0 < retention ∧ retention ≤ maximumConsumerRetention

section Programs

variable {C : Contracts} {κ : Type} {R : κ → Type}

/-- The id of the event of an envelope, in its canonical spelling.

SOURCE: consumer.go:130-133 -/
def eventIDOf (C : Contracts) (envelope : C.Envelope) : Option UUID := do
  let eventID ← C.uuidParse (C.eventId envelope)
  guard (eventID ≠ UUID.zero ∧ C.uuidString eventID = C.eventId envelope)
  pure eventID

/-- The failure is replaced when the context has ended.

SOURCE: consumer.go:195-200 -/
def contextOr (fallback : Error) : ExceptT Error (Prog (Op R) (Res R)) Unit := do
  let canceled ← Prog.perform (Op.contextError (R := R))
  throw (if canceled then .canceled else fallback)

/-- Whether the handler returned an error or panicked.

SOURCE: consumer.go:179-186 -/
def handlerFailed (handler : Handler C R) (envelope : C.Envelope) :
    ExceptT Error (Prog (Op R) (Res R)) Bool := do
  let outcome ← ExceptT.lift (handler.handleInTransaction envelope).run
  match outcome with
  | .ok _ => pure false
  | .error _ => pure true

/-- What `Consume` does once its transaction has begun.

SOURCE: consumer.go:145-176 -/
def consumeInTransaction (consumer : Consumer C R) (envelope : C.Envelope) (eventID : UUID)
    (row : ConsumedEventRow) : ExceptT Error (Prog (Op R) (Res R)) Unit := do
  let rows ← Prog.perform (Op.statement (.insert (.consumedEvent consumer.name eventID) row))
  match rows with
  | none => contextOr .store
  | some inserted =>
    let failed ← if inserted then handlerFailed consumer.handler envelope else pure false
    if failed then contextOr .handler
    else
      let committed ← Prog.perform (Op.statement (R := R) .commit)
      match committed with
      | some _ => pure ()
      | none => contextOr .commit

/-- `Consume`; `year` is the calendar year in the location of `consumedAt`.

SOURCE: consumer.go:119-177 -/
def consume (consumer : Consumer C R) (encoded : Bytes) (consumedAt : Instant)
    (year : Instant → ℤ) : ExceptT Error (Prog (Op R) (Res R)) Unit := do
  Prog.ofExcept (require (consumedAt ≠ 0 ∧ 2020 ≤ year consumedAt ∧ year consumedAt ≤ 2100)
    .invalidEvent)
  let canceled ← Prog.perform (Op.contextError (R := R))
  Prog.ofExcept (require (canceled = false) .canceled)
  let envelope ← Prog.ofExcept (orThrow (C.unmarshalEnvelope encoded) .invalidEvent)
  let eventID ← Prog.ofExcept (orThrow (eventIDOf C envelope) .invalidEvent)
  let expiresAt := consumedAt + consumer.retention
  Prog.ofExcept (require (consumedAt < expiresAt ∧ year expiresAt ≤ 2101) .invalidEvent)
  let begun ← Prog.perform (Op.statement (R := R) .begin)
  match begun with
  | none => contextOr .store
  | some _ =>
    let outcome ← ExceptT.lift (consumeInTransaction consumer envelope eventID
      ⟨timestamptz consumedAt, timestamptz expiresAt⟩).run
    -- the deferred rollback; after a commit it finds no transaction
    let _ ← Prog.perform (Op.statement (R := R) .rollback)
    Prog.ofExcept outcome

/-- `PruneConsumedEvents`; whether it was confirmed.

SOURCE: db/queries/outbox.sql:47-48 -/
def pruneConsumedEvents (expiresAt : Instant) : ExceptT Error (Prog (Op R) (Res R)) Unit := do
  let rows ← Prog.perform (Op.pruneConsumedEvents (R := R) expiresAt)
  match rows with
  | some _ => pure ()
  | none => throw .store

/-- A delivery of an event. -/
structure Delivery (C : Contracts) {κ : Type} (R : κ → Type) where
  consumer : Consumer C R
  encoded : Bytes
  consumedAt : Instant
  year : Instant → ℤ

/-- What processes do: each serves one delivery, or prunes the records. -/
inductive Task (C : Contracts) {κ : Type} (R : κ → Type) where
  | deliver (delivery : Delivery C R)
  | prune (expiresAt : Instant)

def program : Task C R → Prog (Op R) (Res R) (Except Error Unit)
  | .deliver τ => (consume τ.consumer τ.encoded τ.consumedAt τ.year).run
  | .prune expiresAt => (pruneConsumedEvents expiresAt).run

variable [DecidableEq κ]

/-- The connection of `pid` is closed, which ends its transaction without effect. -/
def disconnect (pid : Pid) (s : World R) : World R :=
  { s with
    database := s.database.finish pid false
    aborted := Function.update s.aborted pid false }

/-- Any number of deliveries and prunings, side by side.  Processes can be killed, and when
the database restarts all transactions end. -/
def consuming (C : Contracts) (check : (k : κ) → R k → Bool) :
    System Pid (Task C R) (Except Error Unit) (Op R) (Res R) (World R) where
  program := program
  arrive pid _ := disconnect pid
  exec := exec check
  release := disconnect
  crash s t := t = { s with database := s.database.restart, aborted := fun _ => false }

end Programs

end Talenro.Consumption
