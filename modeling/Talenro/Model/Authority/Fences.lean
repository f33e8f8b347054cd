import Mathlib.Data.List.MinMax
import Talenro.Lib.Checks
import Talenro.Model.Authority.Records

/-!
# The table of fences

A fence is the row in which the database mirrors a reservation of the provider.  It begins as a
pending reservation, can be bound to an effect and a position of the database, and ends committed
or aborted.  Rows of the profile `claim_v1` can carry a claim of their abort.

This module has the rows with the constraints of their table, what the statements of
`nodecontrol_authority.sql` do to them, and how the repository reads them.  A terminal receipt is
not stored: it is rebuilt from the columns and checked against its stored digest.

Sources named without a directory are in `internal/nodecontrol/authority`.
-/

set_option autoImplicit false

namespace Talenro.Authority

open Lib Lib.Calendar

/-! ## Rows -/

/-- SOURCE: db/migrations/00006_nodecontrol.sql:62 -/
inductive ProviderStatus where
  | reserved
  | committed
  | aborted
deriving DecidableEq

/-- SOURCE: db/migrations/00006_nodecontrol.sql:67 -/
inductive VisibilityState where
  | fencePending
  | active
  | aborted
deriving DecidableEq

/-- SOURCE: db/migrations/assets/nodecontrol_authority_v7_up.sql:2920 -/
inductive ProtocolProfile where
  | legacyV6
  | claimV1
deriving DecidableEq

/-- The columns beside the primary key `operation_id`.  Digests have thirty-two octets by the
constraints of their columns; a position of type `pg_lsn` is kept in the spelling in which it is
printed.

SOURCE: db/migrations/00006_nodecontrol.sql:35-53,
db/migrations/assets/nodecontrol_authority_v7_up.sql:2913-2917 -/
structure FenceRow where
  effectKind : EffectKind
  scopeKind : ScopeKind
  authorityEpoch : ℕ
  authoritySequence : ℕ
  scopeDigest : Digest
  providerReservationDigest : Digest
  effectDigest : Option Digest
  providerStatus : ProviderStatus
  providerReceiptDigest : Option Digest
  dbSystemID : Option UInt64
  dbTimeline : Option UInt32
  requiredLSN : Option WALPosition
  abortReason : Option AbortReason
  visibilityState : VisibilityState
  reservedAt : Instant
  effectBoundAt : Option Instant
  terminalAt : Option Instant
  authorityProtocolProfile : ProtocolProfile
  abortClaimedAt : Option Instant
  protocolActivationID : Option UUID
deriving DecidableEq

variable (row : FenceRow)

/-- The five columns of a binding are all null or all set.

SOURCE: db/migrations/00006_nodecontrol.sql:70 -/
def bindingAllOrNone : Bool :=
  let columns := [row.effectDigest.isSome, row.dbSystemID.isSome, row.dbTimeline.isSome,
    row.requiredLSN.isSome, row.effectBoundAt.isSome]
  columns.all (!·) || columns.all id

/-- The constraint `ncv7_fence_claim_ck`.  For a row of the profile `legacy_v6` it says what the
constraint it replaced said.

SOURCE: db/migrations/assets/nodecontrol_authority_v7_up.sql:2921-2931,
db/migrations/00006_nodecontrol.sql:76 -/
def claimCheck : Bool :=
  match row.authorityProtocolProfile with
  | .legacyV6 => row.abortClaimedAt.isNone && row.protocolActivationID.isNone &&
      (row.providerStatus == .aborted) == row.abortReason.isSome
  | .claimV1 => row.protocolActivationID.isSome &&
      row.abortClaimedAt.isSome == row.abortReason.isSome &&
      (row.providerStatus != .aborted || row.abortClaimedAt.isSome) &&
      (row.abortClaimedAt.isNone || row.effectDigest.isNone) &&
      row.abortClaimedAt.all (fun claimedAt => decide (row.reservedAt ≤ claimedAt)) &&
      row.terminalAt.all fun terminalAt =>
        row.abortClaimedAt.all fun claimedAt => decide (claimedAt ≤ terminalAt)

/-- SOURCE: db/migrations/00006_nodecontrol.sql:57-79 -/
def fenceCheck : Bool :=
  validPositiveCoordinate row.authorityEpoch && validPositiveCoordinate row.authoritySequence &&
    row.dbSystemID.all (· != 0) && row.dbTimeline.all (· != 0) && bindingAllOrNone row &&
    (row.providerStatus != .committed || row.effectDigest.isSome) &&
    (row.providerStatus == .reserved) == row.providerReceiptDigest.isNone &&
    (row.providerStatus == .reserved) == row.terminalAt.isNone &&
    (row.visibilityState == .active) == (row.providerStatus == .committed) &&
    (row.visibilityState == .aborted) == (row.providerStatus == .aborted) &&
    row.terminalAt.all (fun terminalAt => decide (row.reservedAt ≤ terminalAt)) &&
    row.effectBoundAt.all (fun boundAt => decide (row.reservedAt ≤ boundAt)) &&
    validEffectScope row.effectKind row.scopeKind && claimCheck row

/-! ## Statements -/

/-- SOURCE: db/queries/nodecontrol_authority.sql:1-22 -/
def pendingFence (reservation : Reservation) (reservedAt : Instant) : FenceRow where
  effectKind := reservation.kind
  scopeKind := reservation.scopeKind
  authorityEpoch := reservation.epoch
  authoritySequence := reservation.sequence
  scopeDigest := reservation.scopeDigest
  providerReservationDigest := reservation.reservationDigest
  effectDigest := none
  providerStatus := .reserved
  providerReceiptDigest := none
  dbSystemID := none
  dbTimeline := none
  requiredLSN := none
  abortReason := none
  visibilityState := .fencePending
  reservedAt := reservedAt
  effectBoundAt := none
  terminalAt := none
  authorityProtocolProfile := .legacyV6
  abortClaimedAt := none
  protocolActivationID := none

/-- SOURCE: db/queries/nodecontrol_authority.sql:115-121 -/
def pendingClaimV1Fence (reservation : Reservation) (reservedAt : Instant) (activationID : UUID) :
    FenceRow :=
  { pendingFence reservation reservedAt with
    authorityProtocolProfile := .claimV1
    protocolActivationID := some activationID }

/-- The row is a pending reservation. -/
def FenceRow.pending : Bool :=
  row.providerStatus == .reserved && row.visibilityState == .fencePending

/-- SOURCE: db/queries/nodecontrol_authority.sql:33-38 -/
def bindAuthorityFenceEffect (effectDigest : Digest) (point : DatabasePoint) (boundAt : Instant)
    (row : FenceRow) : Option FenceRow :=
  if row.pending && row.effectDigest.isNone then
    some { row with
      effectDigest := some effectDigest
      dbSystemID := some point.systemID
      dbTimeline := some point.timeline
      requiredLSN := some point.requiredLSN
      effectBoundAt := some boundAt }
  else none

/-- SOURCE: db/queries/nodecontrol_authority.sql:40-44 -/
def activateCommittedAuthorityFence (receiptDigest effectDigest : Digest) (point : DatabasePoint)
    (terminalAt : Instant) (row : FenceRow) : Option FenceRow :=
  if row.pending && row.effectDigest == some effectDigest && row.dbSystemID == some point.systemID &&
      row.dbTimeline == some point.timeline && row.requiredLSN == some point.requiredLSN then
    some { row with
      providerStatus := .committed
      providerReceiptDigest := some receiptDigest
      visibilityState := .active
      terminalAt := some terminalAt }
  else none

/-! ## Reading a row -/

/-- SOURCE: postgres_repository.go:1400-1410 -/
def exactDigest (value : Digest) : Except Error Digest := do
  require (value ≠ Digest.zero) .injectedFailure
  pure value

/-- SOURCE: postgres_repository.go:1336-1350 -/
def databasePoint (systemID : UInt64) (timeline : UInt32) (requiredLSN : WALPosition) :
    Except Error DatabasePoint := do
  let point : DatabasePoint := ⟨systemID, timeline, requiredLSN⟩
  require (point.validate = true) .injectedFailure
  pure point

variable (P : Platform)

/-- SOURCE: postgres_repository.go:1242-1275 -/
def reservationFromRow (operationID : UUID) (row : FenceRow) :
    Except Error Reservation := do
  require (0 < row.authorityEpoch ∧ 0 < row.authoritySequence) .injectedFailure
  let scopeDigest ← exactDigest row.scopeDigest
  let reservationDigest ← exactDigest row.providerReservationDigest
  let reservation : Reservation :=
    { operationID := operationID
      kind := row.effectKind
      scopeKind := row.scopeKind
      scopeDigest := scopeDigest
      epoch := row.authorityEpoch
      sequence := row.authoritySequence
      reservationDigest := reservationDigest }
  require (reservation.validate P = true) .injectedFailure
  pure reservation

/-- The effect digest, the position and the time of a binding.

SOURCE: postgres_repository.go:1277-1307 -/
def optionalBinding : Except Error (Option (Digest × DatabasePoint × Instant)) :=
  match row.effectDigest, row.dbSystemID, row.dbTimeline, row.requiredLSN, row.effectBoundAt with
  | none, none, none, none, none => pure none
  | some effectDigest, some systemID, some timeline, some requiredLSN, some boundAt => do
    require (boundAt ≠ 0) .injectedFailure
    let effectDigest ← exactDigest effectDigest
    let point ← databasePoint systemID timeline requiredLSN
    pure (some (effectDigest, point, boundAt))
  | _, _, _, _, _ => throw .injectedFailure

/-- SOURCE: postgres_repository.go:1309-1334 -/
def abortedReceiptFromRow (reservation : Reservation)
    (binding : Option (Digest × DatabasePoint)) (reason : AbortReason) (receiptDigest : Digest) :
    Except Error Receipt :=
  let receipt : Receipt := ⟨reservation, none, none, .aborted, some reason, receiptDigest⟩
  if receipt.validate P then pure receipt
  else
    match binding with
    | none => throw .injectedFailure
    | some (effectDigest, point) => do
      let receipt : Receipt :=
        { receipt with effectDigest := some effectDigest, databasePoint := some point }
      require (receipt.validate P = true) .injectedFailure
      pure receipt

/-- A terminal row has ended, not before it was reserved.

SOURCE: postgres_repository.go:1108-1111, 1128-1131 -/
def validTerminalAt : Bool :=
  row.terminalAt.any fun terminalAt => terminalAt != 0 && decide (row.reservedAt ≤ terminalAt)

/-- The terminal receipt of a row with this reservation and binding.

SOURCE: postgres_repository.go:1101-1147 -/
def terminalReceiptFromRow (reservation : Reservation)
    (binding : Option (Digest × DatabasePoint)) (row : FenceRow) :
    Except Error (Option Receipt) :=
  match row.providerStatus with
  | .reserved => do
    require (row.visibilityState = .fencePending ∧ row.providerReceiptDigest = none ∧
      row.abortReason = none ∧ row.terminalAt = none) .injectedFailure
    pure none
  | .committed => do
    require (row.visibilityState = .active ∧ binding.isSome ∧ validTerminalAt row = true ∧
      row.abortReason = none) .injectedFailure
    let stored ← orThrow row.providerReceiptDigest .injectedFailure
    let receiptDigest ← exactDigest stored
    let receipt : Receipt :=
      ⟨reservation, binding.map Prod.fst, binding.map Prod.snd, .committed, none, receiptDigest⟩
    require (receipt.validate P = true) .injectedFailure
    pure (some receipt)
  | .aborted => do
    require (row.visibilityState = .aborted ∧ validTerminalAt row = true) .injectedFailure
    let reason ← orThrow row.abortReason .injectedFailure
    let stored ← orThrow row.providerReceiptDigest .injectedFailure
    let receiptDigest ← exactDigest stored
    let receipt ← abortedReceiptFromRow P reservation binding reason receiptDigest
    pure (some receipt)

/-- SOURCE: postgres_repository.go:1073-1149 -/
def authorityRecordFromRow (operationID : UUID) (row : FenceRow) :
    Except Error Record := do
  let reservation ← reservationFromRow P operationID row
  require (row.reservedAt ≠ 0) .injectedFailure
  let bound ← optionalBinding row
  require (∀ binding ∈ bound, row.reservedAt ≤ binding.2.2) .injectedFailure
  let binding := bound.map fun binding => (binding.1, binding.2.1)
  let receipt ← terminalReceiptFromRow P reservation binding row
  pure ⟨reservation, binding.map Prod.fst, binding.map Prod.snd, receipt⟩

/-- SOURCE: repository.go:54-57 -/
structure AbortClaim where
  reason : AbortReason
  claimedAt : Instant
deriving DecidableEq

/-- A row of either profile: its record, and the claim of its abort.

SOURCE: postgres_repository.go:677-709 -/
def storedFenceFromV7Row (operationID : UUID) (row : FenceRow) :
    Except Error (Record × Option AbortClaim) :=
  match row.authorityProtocolProfile with
  | .legacyV6 => do
    require (row.abortClaimedAt = none ∧ row.protocolActivationID = none) .injectedFailure
    let record ← authorityRecordFromRow P operationID row
    pure (record, none)
  | .claimV1 => do
    require (row.protocolActivationID.any validOperationID = true ∧
      row.abortClaimedAt.isSome = row.abortReason.isSome) .injectedFailure
    match row.abortClaimedAt, row.abortReason with
    | some claimedAt, some reason => do
      require (claimedAt ≠ 0 ∧ row.effectDigest = none) .injectedFailure
      let record ← authorityRecordFromRow P operationID
        (if row.providerStatus = .reserved then { row with abortReason := none } else row)
      pure (record, some ⟨reason, claimedAt⟩)
    | _, _ => do
      let record ← authorityRecordFromRow P operationID row
      pure (record, none)

/-- SOURCE: repository.go:39-52 -/
structure PendingFence where
  reservation : Reservation
  boundEffectDigest : Option Digest
  boundDatabasePoint : Option DatabasePoint
  reservedAt : Time
  effectBoundAt : Option Time

end Talenro.Authority
