import Talenro.Lib.HexNumber
import Talenro.Model.Wire

/-!
# Records of the authority protocol

An operation on the node fleet is fenced by an authority provider: a reservation gives it a
sequence number, and a receipt ends it, committed with the digest of its effect and a position
of the database, or aborted with a reason.  This module has the values that the provider, the
database and the coordinator exchange, their digests, and the checks on them.

Digests are taken over the canonical JSON of a payload.  Canonicalisation, the text of a UUID and
SHA-256 come from other projects and are parameters (`Platform`).  Kinds, scopes, reasons and
states are enumerations here, so that their own validation has nothing left to reject.

Sources named without a directory are in `internal/nodecontrol/authority`.
-/

set_option autoImplicit false

namespace Talenro.Authority

open Lib Lib.Json Lib.Calendar

/-- SOURCE: provider.go:25-32 -/
inductive Error where
  | invalidArgument
  | conflict
  | terminalConflict
  | notFound
  | canceled
  | injectedFailure
  | responseLost
deriving DecidableEq

/-- A `contracts.Digest`. -/
abbrev Digest : Type := Octets 32

def Digest.zero : Digest := Octets.replicate 32 0

/-- The functions taken from libraries. -/
structure Platform where
  jcsTransform : Bytes → Option Bytes
  uuidString : UUID → Bytes
  sha256 : Bytes → Digest

/-! ## Kinds and scopes -/

/-- SOURCE: provider.go:47-65 -/
inductive EffectKind where
  | trustBundlePublish
  | rootPublish
  | metadataPublish
  | grantCreate
  | grantClaim
  | certificateActivate
  | certificateRevoke
  | identityEpochAdvance
  | securityIncidentOpen
  | securityIncidentResolve
  | resourceEnvelopeActivate
  | desiredActivate
  | recoveryActivate
  | operatorTransition
  | operatorAuthorizerChange
deriving DecidableEq

/-- SOURCE: provider.go:49-65 -/
def EffectKind.text : EffectKind → Bytes
  | trustBundlePublish => ascii "trust_bundle_publish"
  | rootPublish => ascii "root_publish"
  | metadataPublish => ascii "metadata_publish"
  | grantCreate => ascii "grant_create"
  | grantClaim => ascii "grant_claim"
  | certificateActivate => ascii "certificate_activate"
  | certificateRevoke => ascii "certificate_revoke"
  | identityEpochAdvance => ascii "identity_epoch_advance"
  | securityIncidentOpen => ascii "security_incident_open"
  | securityIncidentResolve => ascii "security_incident_resolve"
  | resourceEnvelopeActivate => ascii "resource_envelope_activate"
  | desiredActivate => ascii "desired_activate"
  | recoveryActivate => ascii "recovery_activate"
  | operatorTransition => ascii "operator_transition"
  | operatorAuthorizerChange => ascii "operator_authorizer_change"

/-- SOURCE: provider.go:67-73 -/
inductive ScopeKind where
  | node
  | globalNodeTrust
  | globalOperatorTrust
deriving DecidableEq

/-- SOURCE: provider.go:69-73 -/
def ScopeKind.text : ScopeKind → Bytes
  | node => ascii "node"
  | globalNodeTrust => ascii "global_node_trust"
  | globalOperatorTrust => ascii "global_operator_trust"

/-- SOURCE: provider.go:77-84 -/
inductive AbortReason where
  | validationFailed
  | superseded
  | providerDependencyFailed
  | activationDeadlineExpired
deriving DecidableEq

/-- SOURCE: provider.go:79-84 -/
def AbortReason.text : AbortReason → Bytes
  | validationFailed => ascii "validation_failed"
  | superseded => ascii "superseded"
  | providerDependencyFailed => ascii "provider_dependency_failed"
  | activationDeadlineExpired => ascii "activation_deadline_expired"

/-- SOURCE: provider.go:86-91 -/
inductive ReceiptStatus where
  | committed
  | aborted
deriving DecidableEq

/-- SOURCE: provider.go:88-91 -/
def ReceiptStatus.text : ReceiptStatus → Bytes
  | committed => ascii "committed"
  | aborted => ascii "aborted"

/-- SOURCE: provider.go:18-23 -/
def reservationTranscriptDomain : Bytes :=
  ascii "TALENRO-CONTROL-PLANE-AUTHORITY-RESERVATION-V1\x00"

/-- SOURCE: provider.go:18-23 -/
def receiptTranscriptDomain : Bytes := ascii "TALENRO-CONTROL-PLANE-AUTHORITY-RECEIPT-V1\x00"

variable (P : Platform)

/-- SOURCE: provider.go:18-23, 34-35 -/
def globalNodeScopeDigest : Digest :=
  P.sha256 (ascii "TALENRO-GLOBAL-NODE-TRUST-SCOPE-V1\x00global_node_trust")

/-- SOURCE: provider.go:18-23, 34-35 -/
def globalOperatorScopeDigest : Digest :=
  P.sha256 (ascii "TALENRO-GLOBAL-OPERATOR-TRUST-SCOPE-V1\x00global_operator_trust")

/-- SOURCE: provider.go:363-378 -/
def validEffectScope (kind : EffectKind) (scope : ScopeKind) : Bool :=
  match kind with
  | .trustBundlePublish => scope == .globalNodeTrust || scope == .globalOperatorTrust
  | .rootPublish | .metadataPublish => scope == .globalNodeTrust
  | .operatorAuthorizerChange => scope == .globalOperatorTrust
  | .grantCreate | .grantClaim | .certificateActivate | .certificateRevoke
  | .identityEpochAdvance | .securityIncidentOpen | .securityIncidentResolve
  | .resourceEnvelopeActivate | .desiredActivate | .recoveryActivate | .operatorTransition =>
    scope == .node

/-- SOURCE: provider.go:380-391 -/
def validScopeDigest (scope : ScopeKind) (digest : Digest) : Bool :=
  match scope with
  | .node => digest != Digest.zero && digest != globalNodeScopeDigest P &&
      digest != globalOperatorScopeDigest P
  | .globalNodeTrust => digest == globalNodeScopeDigest P
  | .globalOperatorTrust => digest == globalOperatorScopeDigest P

/-- A UUID that is not nil, of the variant of RFC 4122.

SOURCE: provider.go:393-395 -/
def validOperationID (value : UUID) : Bool :=
  value != UUID.zero && (value.1.getD 8 0 &&& 0xc0) == 0x80

def maxInt64 : ℕ := 2 ^ 63 - 1

/-- SOURCE: provider.go:397-399 -/
def validPositiveCoordinate (value : ℕ) : Bool := decide (0 < value ∧ value ≤ maxInt64)

/-! ## Positions of the write-ahead log -/

abbrev WALPosition : Type := Bytes

/-- SOURCE: provider.go:418-428 -/
def uppercaseHex (value : Bytes) : Bool := value != [] && value.all UpperHex.isDigit

/-- `strconv.ParseUint(text, 16, 32)` of a text of upper-case digits. -/
def parseUint32 (text : Bytes) : Option ℕ :=
  if UpperHex.value text < 2 ^ 32 then some (UpperHex.value text) else none

/-- The text of a position with these halves. -/
def walText (high low : ℕ) : WALPosition := UpperHex.format high ++ 0x2f :: UpperHex.format low

/-- The two halves of a position.

SOURCE: provider.go:401-414 -/
def walHalves (value : WALPosition) : Option (ℕ × ℕ) := do
  guard (value.count 0x2f = 1)
  let high := value.takeWhile (· != 0x2f)
  let low := (value.dropWhile (· != 0x2f)).drop 1
  guard (uppercaseHex high ∧ uppercaseHex low)
  let high ← parseUint32 high
  let low ← parseUint32 low
  pure (high, low)

/-- SOURCE: provider.go:401-416 -/
def canonicalWALPosition (value : WALPosition) : Option WALPosition := do
  let (high, low) ← walHalves value
  pure (walText high low)

/-- SOURCE: coordinator.go:586-595 -/
def walPositionParts (value : WALPosition) : Option (ℕ × ℕ) := do
  guard (canonicalWALPosition value = some value)
  walHalves value

/-- SOURCE: coordinator.go:577-584 -/
def walPositionLess (left right : WALPosition) : Bool :=
  match walPositionParts left, walPositionParts right with
  | some (leftHigh, leftLow), some (rightHigh, rightLow) =>
    decide (leftHigh < rightHigh ∨ leftHigh = rightHigh ∧ leftLow < rightLow)
  | _, _ => true

/-! ## Numbers of the database -/

/-- `pgtype.InfinityModifier` -/
inductive InfinityModifier where
  | finite
  | infinity
  | negativeInfinity
deriving DecidableEq

/-- `pgtype.Numeric` -/
structure Numeric where
  int : Option ℤ
  exp : ℤ
  nan : Bool
  infinityModifier : InfinityModifier
  valid : Bool

/-- An integer times a power of ten, if it is an integer.

SOURCE: postgres_repository.go:1378-1389 -/
def scaledInteger (int exp : ℤ) : Option ℤ :=
  if 0 < exp then some (int * 10 ^ exp.toNat)
  else if exp < 0 then
    let divisor : ℤ := 10 ^ (-exp).toNat
    if int.tmod divisor ≠ 0 then none else some (int.tdiv divisor)
  else some int

/-- The bit length of a positive integer is one more than its binary logarithm.

SOURCE: postgres_repository.go:1373-1394 -/
def uint64FromNumeric (value : Numeric) : Option ℕ := do
  guard (value.valid ∧ value.nan = false ∧ value.infinityModifier = .finite ∧
    -20 ≤ value.exp ∧ value.exp ≤ 20)
  let int ← value.int
  let integer ← scaledInteger int value.exp
  guard (0 < integer ∧ integer.natAbs.log2 + 1 ≤ 64)
  pure (integer.natAbs % 2 ^ 64)

/-! ## Requests, reservations and receipts -/

/-- SOURCE: provider.go:110-115 -/
structure ReserveRequest where
  operationID : UUID
  kind : EffectKind
  scopeKind : ScopeKind
  scopeDigest : Digest
deriving DecidableEq

/-- SOURCE: provider.go:117-123 -/
structure FinalizeRequest where
  operationID : UUID
  effectDigest : Digest
  dbSystemID : UInt64
  dbTimeline : UInt32
  requiredLSN : WALPosition
deriving DecidableEq

/-- SOURCE: provider.go:125-128 -/
structure AbortRequest where
  operationID : UUID
  reason : AbortReason
deriving DecidableEq

/-- SOURCE: provider.go:130-138 -/
structure Reservation where
  operationID : UUID
  kind : EffectKind
  scopeKind : ScopeKind
  scopeDigest : Digest
  epoch : ℕ
  sequence : ℕ
  reservationDigest : Digest
deriving DecidableEq

/-- SOURCE: provider.go:140-144 -/
structure DatabasePoint where
  systemID : UInt64
  timeline : UInt32
  requiredLSN : WALPosition
deriving DecidableEq

/-- SOURCE: provider.go:146-153 -/
structure Receipt where
  reservation : Reservation
  effectDigest : Option Digest
  databasePoint : Option DatabasePoint
  status : ReceiptStatus
  abortReason : Option AbortReason
  receiptDigest : Digest
deriving DecidableEq

/-- SOURCE: provider.go:155-160 -/
structure Record where
  reservation : Reservation
  boundEffectDigest : Option Digest
  boundDatabasePoint : Option DatabasePoint
  terminalReceipt : Option Receipt
deriving DecidableEq

/-- SOURCE: provider.go:162-170 -/
structure Head where
  epoch : ℕ
  latestReservedSequence : ℕ
  latestCommittedSequence : ℕ
  latestReservationDigest : Digest
  latestCommittedOperationID : UUID
  latestCommittedReceiptDigest : Digest
  latestCommittedDatabasePoint : Option DatabasePoint
deriving DecidableEq

/-- SOURCE: provider.go:172-176 -/
structure NodeCheckpoint where
  authorityEpoch : ℕ
  sequence : ℕ
  receiptDigest : Digest
deriving DecidableEq

/-! ## Digests -/

/-- SOURCE: provider.go:497-512 -/
def canonicalTranscriptDigest (domain : Bytes) (payload : Json.Tree Bytes) :
    Option Digest := do
  let canonical ← P.jcsTransform (marshal (payload.map quote))
  pure (P.sha256 (domain ++ canonical))

/-- SOURCE: provider.go:430-437, 459-468 -/
def reservationPayload (value : Reservation) : List (Bytes × Json.Tree Bytes) :=
  [(ascii "authority_epoch", .str (Decimal.format value.epoch)),
   (ascii "authority_sequence", .str (Decimal.format value.sequence)),
   (ascii "effect_kind", .str value.kind.text),
   (ascii "operation_id", .str (P.uuidString value.operationID)),
   (ascii "scope_digest", .str (Hex.encode value.scopeDigest.1)),
   (ascii "scope_kind", .str value.scopeKind.text)]

/-- SOURCE: provider.go:459-469 -/
def reservationDigest (value : Reservation) : Option Digest :=
  canonicalTranscriptDigest P reservationTranscriptDomain (.obj (reservationPayload P value))

/-- A pointer, which is `null` when it is nil. -/
def nullable {α : Type} (encode : α → Json.Tree Bytes) : Option α → Json.Tree Bytes
  | none => .null
  | some a => encode a

/-- SOURCE: provider.go:439-443 -/
def databasePointPayload (point : DatabasePoint) : Json.Tree Bytes :=
  .obj
    [(ascii "db_system_id", .str (Decimal.format point.systemID.toNat)),
     (ascii "db_timeline", .str (Decimal.format point.timeline.toNat)),
     (ascii "required_lsn", .str point.requiredLSN)]

/-- SOURCE: provider.go:445-457, 471-494 -/
def receiptPayload (value : Receipt) : List (Bytes × Json.Tree Bytes) :=
  [(ascii "abort_reason", nullable (fun reason => .str reason.text) value.abortReason),
   (ascii "authority_epoch", .str (Decimal.format value.reservation.epoch)),
   (ascii "authority_sequence", .str (Decimal.format value.reservation.sequence)),
   (ascii "database_point", nullable databasePointPayload value.databasePoint),
   (ascii "effect_digest", nullable (fun digest => .str (Hex.encode digest.1)) value.effectDigest),
   (ascii "effect_kind", .str value.reservation.kind.text),
   (ascii "operation_id", .str (P.uuidString value.reservation.operationID)),
   (ascii "reservation_digest", .str (Hex.encode value.reservation.reservationDigest.1)),
   (ascii "scope_digest", .str (Hex.encode value.reservation.scopeDigest.1)),
   (ascii "scope_kind", .str value.reservation.scopeKind.text),
   (ascii "status", .str value.status.text)]

/-- SOURCE: provider.go:471-495 -/
def receiptDigest (value : Receipt) : Option Digest :=
  canonicalTranscriptDigest P receiptTranscriptDomain (.obj (receiptPayload P value))

/-! ## Validation -/

/-- SOURCE: provider.go:235-242 -/
def ReserveRequest.validate (request : ReserveRequest) : Bool :=
  validOperationID request.operationID && request.scopeDigest != Digest.zero &&
    validEffectScope request.kind request.scopeKind &&
    validScopeDigest P request.scopeKind request.scopeDigest

/-- SOURCE: provider.go:244-253 -/
def FinalizeRequest.validate (request : FinalizeRequest) : Bool :=
  validOperationID request.operationID && request.effectDigest != Digest.zero &&
    request.dbSystemID != 0 && request.dbTimeline != 0 &&
    (canonicalWALPosition request.requiredLSN).isSome

/-- SOURCE: provider.go:255-260 -/
def AbortRequest.validate (request : AbortRequest) : Bool := validOperationID request.operationID

/-- What was asked for. -/
def Reservation.request (value : Reservation) : ReserveRequest where
  operationID := value.operationID
  kind := value.kind
  scopeKind := value.scopeKind
  scopeDigest := value.scopeDigest

/-- SOURCE: provider.go:262-277 -/
def Reservation.validate (value : Reservation) : Bool :=
  value.request.validate P && validPositiveCoordinate value.epoch &&
    validPositiveCoordinate value.sequence &&
    Authority.reservationDigest P value == some value.reservationDigest

/-- SOURCE: provider.go:279-288 -/
def DatabasePoint.validate (value : DatabasePoint) : Bool :=
  value.systemID != 0 && value.timeline != 0 &&
    canonicalWALPosition value.requiredLSN == some value.requiredLSN

/-- Both pointers are nil, or both have a valid value.

SOURCE: provider.go:294-299, 318-323 -/
def validBinding (effectDigest : Option Digest) (point : Option DatabasePoint) : Bool :=
  match effectDigest, point with
  | none, none => true
  | some digest, some point => digest != Digest.zero && point.validate
  | _, _ => false

/-- SOURCE: provider.go:290-315 -/
def Receipt.validate (value : Receipt) : Bool :=
  value.reservation.validate P && value.receiptDigest != Digest.zero &&
    validBinding value.effectDigest value.databasePoint &&
    (match value.status with
      | .committed => value.effectDigest.isSome && value.databasePoint.isSome &&
          value.abortReason.isNone
      | .aborted => value.abortReason.isSome) &&
    Authority.receiptDigest P value == some value.receiptDigest

/-- SOURCE: provider.go:317-333 -/
def Record.validate (value : Record) : Bool :=
  value.reservation.validate P && validBinding value.boundEffectDigest value.boundDatabasePoint &&
    (match value.terminalReceipt with
      | none => true
      | some receipt => receipt.validate P && receipt.reservation == value.reservation &&
          value.boundEffectDigest == receipt.effectDigest &&
          value.boundDatabasePoint == receipt.databasePoint)

/-- SOURCE: provider.go:335-353 -/
def Head.validate (value : Head) : Bool :=
  validPositiveCoordinate value.epoch && decide (value.latestReservedSequence ≤ maxInt64) &&
    decide (value.latestCommittedSequence ≤ maxInt64) &&
    decide (value.latestCommittedSequence ≤ value.latestReservedSequence) &&
    (value.latestReservedSequence == 0) == (value.latestReservationDigest == Digest.zero) &&
    (if value.latestCommittedSequence = 0 then
      value.latestCommittedOperationID == UUID.zero &&
        value.latestCommittedReceiptDigest == Digest.zero &&
        value.latestCommittedDatabasePoint.isNone
    else
      validOperationID value.latestCommittedOperationID &&
        value.latestCommittedReceiptDigest != Digest.zero &&
        value.latestCommittedDatabasePoint.any DatabasePoint.validate)

/-- SOURCE: provider.go:355-361 -/
def NodeCheckpoint.validate (value : NodeCheckpoint) : Bool :=
  validPositiveCoordinate value.authorityEpoch && decide (value.sequence ≤ maxInt64) &&
    (value.sequence == 0) == (value.receiptDigest == Digest.zero)

end Talenro.Authority
