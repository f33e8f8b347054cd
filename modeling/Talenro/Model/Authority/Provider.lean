import Mathlib.Data.List.AList
import Talenro.Model.Authority.Records

/-!
# The authority provider

`DeterministicProvider` keeps a record for every reserved operation.  A reservation takes the
next sequence number; `Finalize` and `Abort` end an operation with a receipt, which is kept and
returned again to the same request.  A failure can be armed for the next call of an operation,
before its change or after it, when only the response is lost.

Every method holds the mutex of the provider throughout and is one function of its state here;
the checks of the context around it belong to the caller's step.

Sources named without a directory are in `internal/nodecontrol/authority`.
-/

set_option autoImplicit false

namespace Talenro.Authority

open Lib

/-- SOURCE: provider.go:93-101 -/
inductive Operation where
  | reserve
  | finalize
  | abort
  | inspect
  | head
deriving DecidableEq

/-- SOURCE: provider.go:103-108 -/
inductive Failure where
  | beforeMutation
  | afterMutationResponseLost
deriving DecidableEq

/-- SOURCE: deterministic_fake.go:21-26 -/
structure DeterministicRecord where
  reserveRequest : ReserveRequest
  record : Record
  finalizeRequest : Option FinalizeRequest
  abortRequest : Option AbortRequest

/-- The receipt of a record that is committed. -/
def DeterministicRecord.committed (stored : DeterministicRecord) : Option Receipt :=
  stored.record.terminalReceipt.filter fun receipt => receipt.status = .committed

/-- SOURCE: deterministic_fake.go:13-19 -/
structure DeterministicProvider where
  epoch : ℕ
  nextSequence : ℕ
  records : AList fun _ : UUID => DeterministicRecord
  failures : Operation → Option Failure

/-- SOURCE: deterministic_fake.go:30-39 -/
def newDeterministicProvider (epoch : ℕ) : Option DeterministicProvider :=
  if validPositiveCoordinate epoch then some ⟨epoch, 0, ∅, fun _ => none⟩ else none

/-- SOURCE: deterministic_fake.go:361-371 -/
def normalizeFinalizeRequest (request : FinalizeRequest) : Option FinalizeRequest := do
  guard request.validate
  let canonical ← canonicalWALPosition request.requiredLSN
  pure { request with requiredLSN := canonical }

/-- The reservation of a request, with its digest.

SOURCE: deterministic_fake.go:66-81 -/
def issueReservation (P : Platform) (request : ReserveRequest) (epoch sequence : ℕ) :
    Option Reservation := do
  let reservation : Reservation :=
    { operationID := request.operationID
      kind := request.kind
      scopeKind := request.scopeKind
      scopeDigest := request.scopeDigest
      epoch := epoch
      sequence := sequence
      reservationDigest := Digest.zero }
  let digest ← reservationDigest P reservation
  let reservation := { reservation with reservationDigest := digest }
  guard (reservation.validate P)
  pure reservation

/-- A receipt with its digest.

SOURCE: deterministic_fake.go:142-149, 206-213 -/
def sealReceipt (P : Platform) (receipt : Receipt) : Option Receipt := do
  let digest ← receiptDigest P receipt
  let receipt := { receipt with receiptDigest := digest }
  guard (receipt.validate P)
  pure receipt

namespace DeterministicProvider

variable (provider : DeterministicProvider)

/-- The armed failure of an operation is consumed.

SOURCE: deterministic_fake.go:345-359 -/
def clear (operation : Operation) : DeterministicProvider :=
  { provider with failures := Function.update provider.failures operation none }

/-- The response of a call that has made its change.

SOURCE: deterministic_fake.go:87-90, 157-160, 218-221 -/
def respond {α : Type} (provider : DeterministicProvider) (operation : Operation) (value : α) :
    Except Error α × DeterministicProvider :=
  if provider.failures operation = some .afterMutationResponseLost then
    (.error .responseLost, provider.clear operation)
  else (.ok value, provider)

/-- The provider with a changed record. -/
def store (operationID : UUID) (stored : DeterministicRecord) :
    DeterministicProvider :=
  { provider with records := provider.records.insert operationID stored }

variable (P : Platform)

/-- SOURCE: deterministic_fake.go:41-91 -/
def reserve (provider : DeterministicProvider) (request : ReserveRequest) :
    Except Error Reservation × DeterministicProvider :=
  if provider.failures .reserve = some .beforeMutation then
    (.error .injectedFailure, provider.clear .reserve)
  else
    match provider.records.lookup request.operationID with
    | some existing =>
      if existing.reserveRequest = request then (.ok existing.record.reservation, provider)
      else (.error .conflict, provider)
    | none =>
      if request.validate P = false ∨ maxInt64 ≤ provider.nextSequence then
        (.error .invalidArgument, provider)
      else
        match issueReservation P request provider.epoch (provider.nextSequence + 1) with
        | none => (.error .invalidArgument, provider)
        | some reservation =>
          ({ provider with nextSequence := reservation.sequence }.store request.operationID
            { reserveRequest := request
              record := ⟨reservation, none, none, none⟩
              finalizeRequest := none
              abortRequest := none }).respond .reserve reservation

/-- A record that `Finalize` ends.

SOURCE: deterministic_fake.go:126-156 -/
def finalizeRecord (stored : DeterministicRecord) (request : FinalizeRequest) :
    Option (Receipt × DeterministicRecord) := do
  let normalized ← normalizeFinalizeRequest request
  let point : DatabasePoint :=
    ⟨normalized.dbSystemID, normalized.dbTimeline, normalized.requiredLSN⟩
  let receipt ← sealReceipt P
    { reservation := stored.record.reservation
      effectDigest := some normalized.effectDigest
      databasePoint := some point
      status := .committed
      abortReason := none
      receiptDigest := Digest.zero }
  pure (receipt,
    { stored with
      finalizeRequest := some normalized
      record :=
        { stored.record with
          boundEffectDigest := some normalized.effectDigest
          boundDatabasePoint := some point
          terminalReceipt := some receipt } })

/-- SOURCE: deterministic_fake.go:93-161 -/
def finalize (provider : DeterministicProvider) (request : FinalizeRequest) :
    Except Error Receipt × DeterministicProvider :=
  if provider.failures .finalize = some .beforeMutation then
    (.error .injectedFailure, provider.clear .finalize)
  else
    match provider.records.lookup request.operationID with
    | none => (.error (if request.validate then .notFound else .invalidArgument), provider)
    | some stored =>
      match stored.record.terminalReceipt with
      | some receipt =>
        if receipt.status = .aborted then (.error .terminalConflict, provider)
        else if normalizeFinalizeRequest request = none ∨
            stored.finalizeRequest ≠ normalizeFinalizeRequest request then
          (.error .conflict, provider)
        else (.ok receipt, provider)
      | none =>
        match finalizeRecord P stored request with
        | none => (.error .invalidArgument, provider)
        | some (receipt, stored) =>
          (provider.store request.operationID stored).respond .finalize receipt

/-- A record that `Abort` ends.

SOURCE: deterministic_fake.go:195-217 -/
def abortRecord (stored : DeterministicRecord) (request : AbortRequest) :
    Option (Receipt × DeterministicRecord) := do
  guard request.validate
  let receipt ← sealReceipt P
    { reservation := stored.record.reservation
      effectDigest := stored.record.boundEffectDigest
      databasePoint := stored.record.boundDatabasePoint
      status := .aborted
      abortReason := some request.reason
      receiptDigest := Digest.zero }
  pure (receipt,
    { stored with
      abortRequest := some request
      record := { stored.record with terminalReceipt := some receipt } })

/-- SOURCE: deterministic_fake.go:163-222 -/
def abort (provider : DeterministicProvider) (request : AbortRequest) :
    Except Error Receipt × DeterministicProvider :=
  if provider.failures .abort = some .beforeMutation then
    (.error .injectedFailure, provider.clear .abort)
  else
    match provider.records.lookup request.operationID with
    | none => (.error (if request.validate then .notFound else .invalidArgument), provider)
    | some stored =>
      match stored.record.terminalReceipt with
      | some receipt =>
        if receipt.status = .committed then (.error .terminalConflict, provider)
        else if stored.abortRequest ≠ some request then (.error .conflict, provider)
        else (.ok receipt, provider)
      | none =>
        match abortRecord P stored request with
        | none => (.error .invalidArgument, provider)
        | some (receipt, stored) =>
          (provider.store request.operationID stored).respond .abort receipt

/-- SOURCE: deterministic_fake.go:224-247 -/
def inspect (operationID : UUID) :
    Except Error Record × DeterministicProvider :=
  if provider.failures .inspect = some .beforeMutation then
    (.error .injectedFailure, provider.clear .inspect)
  else if validOperationID operationID = false then (.error .invalidArgument, provider)
  else
    match provider.records.lookup operationID with
    | none => (.error .notFound, provider)
    | some stored => (.ok stored.record, provider)

/-- One iteration of the loop of `Head`.

SOURCE: deterministic_fake.go:265-277 -/
def headStep (nextSequence : ℕ) (head : Head) (stored : DeterministicRecord) : Head :=
  let head :=
    if stored.record.reservation.sequence = nextSequence then
      { head with latestReservationDigest := stored.record.reservation.reservationDigest }
    else head
  match stored.committed with
  | none => head
  | some receipt =>
    if stored.record.reservation.sequence ≤ head.latestCommittedSequence then head
    else
      { head with
        latestCommittedSequence := stored.record.reservation.sequence
        latestCommittedOperationID := stored.record.reservation.operationID
        latestCommittedReceiptDigest := receipt.receiptDigest
        latestCommittedDatabasePoint := receipt.databasePoint }

/-- The records, in the order of an iteration over the map. -/
def all : List DeterministicRecord :=
  provider.records.entries.map Sigma.snd

/-- `Head` with an iteration over the map in some order.

SOURCE: deterministic_fake.go:249-282 -/
def headIn (order : List DeterministicRecord) :
    Except Error Head × DeterministicProvider :=
  if provider.failures .head = some .beforeMutation then
    (.error .injectedFailure, provider.clear .head)
  else
    let head := order.foldl (headStep provider.nextSequence)
      ⟨provider.epoch, provider.nextSequence, 0, Digest.zero, UUID.zero, Digest.zero, none⟩
    if head.validate then (.ok head, provider) else (.error .invalidArgument, provider)

/-- SOURCE: deterministic_fake.go:249-282 -/
def head : Except Error Head × DeterministicProvider :=
  provider.headIn provider.all

/-- One iteration of the loop of `CommittedNodeCheckpoint`.

SOURCE: deterministic_fake.go:300-311 -/
def checkpointStep (nodeScopeDigest : Digest) (checkpoint : NodeCheckpoint)
    (stored : DeterministicRecord) : NodeCheckpoint :=
  let reservation := stored.record.reservation
  match stored.committed with
  | none => checkpoint
  | some receipt =>
    if reservation.sequence ≤ checkpoint.sequence then checkpoint
    else if reservation.scopeKind = .node ∧ reservation.scopeDigest = nodeScopeDigest ∨
        reservation.scopeKind = .globalNodeTrust ∧
          reservation.scopeDigest = globalNodeScopeDigest P then
      { checkpoint with
        sequence := reservation.sequence
        receiptDigest := receipt.receiptDigest }
    else checkpoint

/-- `CommittedNodeCheckpoint` with an iteration over the map in some order.

SOURCE: deterministic_fake.go:284-316 -/
def committedNodeCheckpointIn (provider : DeterministicProvider)
    (order : List DeterministicRecord) (nodeScopeDigest : Digest) : Except Error NodeCheckpoint :=
  if nodeScopeDigest = Digest.zero ∨ nodeScopeDigest = globalNodeScopeDigest P ∨
      nodeScopeDigest = globalOperatorScopeDigest P then
    .error .invalidArgument
  else
    let checkpoint := order.foldl (checkpointStep P nodeScopeDigest)
      ⟨provider.epoch, 0, Digest.zero⟩
    if checkpoint.validate then .ok checkpoint else .error .invalidArgument

/-- SOURCE: deterministic_fake.go:284-316 -/
def committedNodeCheckpoint (provider : DeterministicProvider)
    (nodeScopeDigest : Digest) : Except Error NodeCheckpoint :=
  provider.committedNodeCheckpointIn P provider.all nodeScopeDigest

/-- SOURCE: deterministic_fake.go:318-327 -/
def failNext (operation : Operation) (failure : Failure) :
    Except Error Unit × DeterministicProvider :=
  if failure = .afterMutationResponseLost ∧ operation ≠ .reserve ∧ operation ≠ .finalize ∧
      operation ≠ .abort then
    (.error .invalidArgument, provider)
  else
    (.ok (), { provider with
      failures := Function.update provider.failures operation (some failure) })

end DeterministicProvider

/-! ## Calls -/

/-- What a check finds: no context, one that has ended, or one that goes on. -/
inductive ContextState where
  | nil
  | done
  | live
deriving DecidableEq

/-- SOURCE: deterministic_fake.go:373-383 -/
def contextError : ContextState → Option Error
  | .nil => some .invalidArgument
  | .done => some .canceled
  | .live => none

/-- The context of a call, as it is found before and after the mutex is taken. -/
structure Context where
  entry : ContextState
  locked : ContextState

/-- A context that goes on during the call. -/
def Context.live : Context := ⟨.live, .live⟩

/-- A call that can change a provider. -/
inductive Call where
  | reserve (request : ReserveRequest)
  | finalize (request : FinalizeRequest)
  | abort (request : AbortRequest)
  | inspect (operationID : UUID)
  | head
  | failNext (operation : Operation) (failure : Failure)

/-- The operation for which a failure of the call is armed. -/
def Call.operation : Call → Option Operation
  | .reserve _ => some .reserve
  | .finalize _ => some .finalize
  | .abort _ => some .abort
  | .inspect _ => some .inspect
  | .head => some .head
  | .failNext _ _ => none

/-- Whether the call is one to reserve, to finalize or to abort. -/
def Call.mutates : Call → Bool
  | .reserve _ | .finalize _ | .abort _ => true
  | .inspect _ | .head | .failNext _ _ => false

/-- What a call returns. -/
inductive Answer where
  | reservation (value : Reservation)
  | receipt (value : Receipt)
  | record (value : Record)
  | head (value : Head)
  | armed

namespace DeterministicProvider

/-- The checks of the context around a method.

SOURCE: deterministic_fake.go:42-52, 94-104, 164-174, 225-235,
250-260 -/
def inContext {α : Type} (provider : DeterministicProvider) (ctx : Context)
    (method : Except Error α × DeterministicProvider) : Except Error α × DeterministicProvider :=
  match contextError ctx.entry, contextError ctx.locked with
  | some err, _ => (.error err, provider)
  | none, some err => (.error err, provider)
  | none, none => method

/-- A method's result as the answer of a call. -/
def answering {α : Type} (answer : α → Answer) (result : Except Error α × DeterministicProvider) :
    Except Error Answer × DeterministicProvider :=
  (result.1.map answer, result.2)

/-- One call of the provider. -/
def perform (P : Platform) (provider : DeterministicProvider) (ctx : Context) :
    Call → Except Error Answer × DeterministicProvider
  | .reserve request =>
    answering .reservation (provider.inContext ctx (provider.reserve P request))
  | .finalize request => answering .receipt (provider.inContext ctx (provider.finalize P request))
  | .abort request => answering .receipt (provider.inContext ctx (provider.abort P request))
  | .inspect operationID =>
    answering .record (provider.inContext ctx (provider.inspect operationID))
  | .head => answering .head (provider.inContext ctx provider.head)
  | .failNext operation failure =>
    answering (fun _ => .armed) (provider.failNext operation failure)

/-- The provider after a sequence of calls. -/
def after (P : Platform) (provider : DeterministicProvider) (calls : List (Context × Call)) :
    DeterministicProvider :=
  calls.foldl (fun provider call => (provider.perform P call.1 call.2).2) provider

end DeterministicProvider

end Talenro.Authority
