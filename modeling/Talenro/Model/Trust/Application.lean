import Talenro.Model.Idempotency
import Talenro.Model.Trust.Bundle

/-!
# Issuing and acknowledging bundles

A call of the trust application runs in one transaction that begins with an
idempotency record, authorises the device, does its work and completes the
record; any failure rolls the transaction back.  `issueAuthorized` is the work
of issuing a bundle; `Acknowledge` announces that it has arrived.

Sources named without a directory are in `internal/trust`.
-/

set_option autoImplicit false

namespace Talenro.Trust

open Lib Lib.Json Lib.Calendar

/-! ## Commands and results

SOURCE: application.go:59-97, 148-198 -/

structure IssuedBundle where
  bundleID : UUID
  bundleVersion : ℕ
  locator : Bytes
  envelopeSHA256 : Bytes
deriving DecidableEq

structure AcknowledgeCommand where
  authorizationID : UUID
  accessToken : Bytes
  bundleID : UUID
  bundleVersion : ℕ
  idempotencyKey : Bytes

structure BundleIssuance where
  id : UUID
  authorizationID : UUID
  bundleVersion : ℕ
  locator : Octets 32
  envelope : Bytes
  envelopeSHA256 : Bytes
  signerKeyID : Bytes
  issuedAt : Instant
  notBefore : Instant
  expiresAt : Instant

structure StoredBundle where
  id : UUID
  authorizationID : UUID
  bundleVersion : ℕ
  locator : Bytes
  envelopeSHA256 : Bytes
  issuedAt : Instant
  notBefore : Instant
  expiresAt : Instant

/-- What the service is configured with, besides its collaborators. -/
structure Service where
  metadata : RootMetadataWire
  bundleBaseURLs : List Bytes

/-! ## Constants

SOURCE: application.go:35-48, distribution.go:19-24,
postgres_repository.go:26 -/

def bundleLifetime : ℤ := 24 * hour
def bundleIdempotencyRetention : ℤ := 24 * hour
def acknowledgeResponseStatus : ℕ := 204
def locatorDigestDomain : Bytes := ascii "TALENRO-BUNDLE-LOCATOR-V1\x00"
def locatorProtectionDomain : Bytes := ascii "trust/bundle-locator/v1"

/-- SOURCE: application.go:871-887 -/
def collapseTrustError : Error → Error
  | .api code => .api code
  | .signerTimeout | .signerFailure | .closed | .keyUnavailable => .api .signingUnavailable
  | .invalidArgument | .invalidPayload => .api .malformedRequest
  | _ => .api .dependencyUnavailable

/-! ## Small checks -/

/-- SOURCE: application.go:739-744 -/
def validAcknowledgeCommand (command : AcknowledgeCommand) : Bool :=
  command.authorizationID != UUID.zero && command.bundleID != UUID.zero &&
    decide (0 < command.bundleVersion) && command.accessToken != [] &&
    Idempotency.validIdempotencyKey command.idempotencyKey

/-- `LocatorDigest` of a locator of thirty-two octets.

SOURCE: distribution.go:54-64 -/
def locatorDigest (locator : Bytes) : Bytes := Sha256.sha256 (locatorDigestDomain ++ locator)

/-- SOURCE: postgres_repository.go:368-374 -/
def validBundleIssuance (value : BundleIssuance) : Bool :=
  value.id != UUID.zero && value.authorizationID != UUID.zero &&
    decide (0 < value.bundleVersion ∧ value.bundleVersion ≤ maxInt64) &&
    value.locator.1 != List.replicate 32 0 &&
    decide (64 ≤ value.envelope.length ∧ value.envelope.length ≤ maximumEnvelopeBytes) &&
    Sha256.sha256 value.envelope == value.envelopeSHA256 && validKeyID value.signerKeyID &&
    value.issuedAt != 0 && value.notBefore != 0 && value.expiresAt != 0 &&
    decide (value.issuedAt ≤ value.notBefore ∧ value.notBefore < value.expiresAt)

/-- SOURCE: postgres_repository.go:376-384 -/
def validStoredRow (id : UUID) (row : BundleIssuanceRow) : Bool :=
  id != UUID.zero && row.authorizationID != UUID.zero && decide (0 < row.bundleVersion) &&
    decide (row.locatorHash.length = 32) &&
    decide (29 ≤ row.locator.ciphertext.length ∧ row.locator.ciphertext.length ≤ 512) &&
    decide (0 < row.locator.keyVersion) &&
    decide (64 ≤ row.envelope.length ∧ row.envelope.length ≤ maximumEnvelopeBytes) &&
    row.envelopeSHA256 == Sha256.sha256 row.envelope && validKeyID row.signerKeyID &&
    row.issuedAt != 0 && row.notBefore != 0 && row.expiresAt != 0 &&
    decide (row.issuedAt ≤ row.notBefore ∧ row.notBefore < row.expiresAt)

/-- The checks of `MarshalPayload` and `MarshalEnvelope` on an event.

SOURCE: internal/contracts/events/marshal.go:54-86, 107-126, 241-264 -/
def validEvent (event : EventEnvelope) : Bool :=
  let year := (dateOfDays (event.occurredAt / day)).year
  let validPayload := match event.payload with
    | .bundleIssued authorizationID bundleID version digest =>
      authorizationID != UUID.zero && bundleID != UUID.zero &&
        decide (0 < version ∧ version ≤ maxInt64) && decide (digest.length = 32) &&
        event.aggregateID == bundleID && event.aggregateVersion == version
    | .bundleAcknowledged authorizationID bundleID version =>
      authorizationID != UUID.zero && bundleID != UUID.zero &&
        decide (0 < version ∧ version ≤ maxInt64) &&
        event.aggregateID == bundleID && event.aggregateVersion == version
  event.eventID != UUID.zero && decide (2020 ≤ year ∧ year ≤ 2100) && validPayload

/-! ## Repository programs -/

section Programs

variable (P : Platform)

/-- A statement whose failure is a failure of the repository. -/
def query (q : Statement Key Row) : Server P q.Answer := Talenro.query P .repository q

/-- SOURCE: postgres_repository.go:86-120 -/
def withinTransaction {α : Type} (operation : Server P α) : Server P α :=
  Talenro.withinTransaction P .repository operation

/-- SOURCE: postgres_repository.go:193-208, db/queries/trust.sql:1-7 -/
def nextBundleVersion (authorizationID : UUID) (updatedAt : Instant) : Server P ℕ := do
  Prog.ofExcept (require (authorizationID ≠ UUID.zero ∧ updatedAt ≠ 0) .repository)
  query P (.upsert (.highestBundleVersion authorizationID) fun highest : Option ℕ =>
    match highest with
    | none => 1
    | some issued => issued + 1)

/-- SOURCE: postgres_repository.go:337-366 -/
def storedBundleFromRow (id : UUID) (row : BundleIssuanceRow) : Server P StoredBundle := do
  Prog.ofExcept (require (validStoredRow id row) .repository)
  let plaintext ← Prog.perform (Op.decrypt locatorProtectionDomain row.locator)
  let locator ← Prog.ofExcept (orThrow plaintext .repository)
  Prog.ofExcept (require (locator.length = 32 ∧ locatorDigest locator = row.locatorHash) .repository)
  pure
    { id := id
      authorizationID := row.authorizationID
      bundleVersion := row.bundleVersion
      locator := locator
      envelopeSHA256 := row.envelopeSHA256
      issuedAt := row.issuedAt
      notBefore := row.notBefore
      expiresAt := row.expiresAt }

/-- SOURCE: postgres_repository.go:232-252 -/
def bundleByID (bundleID : UUID) : Server P (Option StoredBundle) := do
  Prog.ofExcept (require (bundleID ≠ UUID.zero) .repository)
  let found ← query P (.get (.bundleIssuance bundleID))
  match found with
  | none => pure none
  | some row => do
    let bundle ← storedBundleFromRow P bundleID row
    pure (some bundle)

/-- `InsertBundle`.  The times are whole seconds, which the columns keep.

SOURCE: postgres_repository.go:254-282 -/
def insertBundle (value : BundleIssuance) : Server P Unit := do
  Prog.ofExcept (require (validBundleIssuance value) .repository)
  let digest := locatorDigest value.locator.1
  Prog.ofExcept (require (digest ≠ Idempotency.zeroDigest) .repository)
  let encrypted ← Prog.perform (Op.encrypt locatorProtectionDomain value.locator.1)
  let locator ← Prog.ofExcept (orThrow encrypted .repository)
  Prog.ofExcept (require (0 < locator.keyVersion ∧ locator.keyVersion < 2 ^ 31 ∧
    29 ≤ locator.ciphertext.length ∧ locator.ciphertext.length ≤ 512) .repository)
  let row : BundleIssuanceRow :=
    { authorizationID := value.authorizationID
      bundleVersion := value.bundleVersion
      locatorHash := digest
      locator := locator
      envelope := value.envelope
      envelopeSHA256 := value.envelopeSHA256
      signerKeyID := value.signerKeyID
      issuedAt := value.issuedAt
      notBefore := value.notBefore
      expiresAt := value.expiresAt }
  let inserted ← query P (.insert (.bundleIssuance value.id) row)
  Prog.ofExcept (require (inserted = true) .repository)

/-- SOURCE: postgres_repository.go:284-300 -/
def insertAcknowledgement (bundle : StoredBundle) (acknowledgedAt : Instant) : Server P Unit := do
  Prog.ofExcept (require (bundle.id ≠ UUID.zero ∧ bundle.authorizationID ≠ UUID.zero ∧
    0 < bundle.bundleVersion ∧ bundle.bundleVersion ≤ maxInt64 ∧ acknowledgedAt ≠ 0) .repository)
  let row : AcknowledgementRow := ⟨bundle.bundleVersion, acknowledgedAt⟩
  let _ ← query P (.insert (.bundleAcknowledgement bundle.id bundle.authorizationID) row)

/-- SOURCE: postgres_repository.go:302-307, internal/outbox/repository.go:48-85 -/
def appendEvent (event : EventEnvelope) : Server P Unit := do
  let canceled ← Prog.perform Op.contextError
  Prog.ofExcept (require (canceled = false ∧ validEvent event) .repository)
  let inserted ← query P (.insert (.outbox event.eventID) event)
  Prog.ofExcept (require (inserted = true) .repository)

/-! ## The service -/

/-- SOURCE: application.go:817-824 -/
def serviceNow : Server P Instant := do
  let now ← Prog.perform Op.clock
  Prog.ofExcept (require (now.instant ≠ 0) .application)
  pure (now.instant - now.instant % second)

/-- The identifier made of sixteen random octets: version and variant are set. -/
def uuidOfRandom (value : Octets 16) : UUID :=
  ⟨(value.1.modify 6 fun c => (c &&& 0x0f) ||| 0x40).modify 8 fun c => (c &&& 0x3f) ||| 0x80, by
    simp [value.2]⟩

/-- SOURCE: application.go:826-843 -/
def randomUUID : Server P UUID := do
  let answer ← Prog.perform (Op.random 16)
  let value ← Prog.ofExcept (orThrow answer .application)
  let result := uuidOfRandom value
  Prog.ofExcept (require (result ≠ UUID.zero) .application)
  pure result

/-- The payload of a bundle.

SOURCE: application.go:530-541 -/
def bundlePayload (bundleID : UUID) (locator : Octets 32) (version : ℕ)
    (authority : BundleAuthority) (testConfig : TestConfigWire) (now : Instant) : PayloadV1 :=
  { schemaVersion := bundleSchemaV1
    bundleID := P.uuidString bundleID
    bundleLocator := Base64Url.encode locator.1
    bundleVersion := Decimal.format version
    audience := P.uuidString authority.authorizationID
    issuedAt := format now
    notBefore := format now
    expiresAt := format (now + bundleLifetime)
    policySnapshot := authority.policy
    testConfig := testConfig }

/-- SOURCE: application.go:498-577 -/
def issueAuthorized (service : Service) (authority : BundleAuthority) (testConfig : TestConfigWire)
    (now : Instant) : Server P (IssuedBundle × EventEnvelope) := do
  let version ← Prog.mapError (fun _ => .api .stateConflict)
    (nextBundleVersion P authority.authorizationID now)
  Prog.ofExcept (require (version ≠ 0 ∧ version ≤ maxInt64 ∧
    testConfig.sequence = Decimal.format version) (.api .stateConflict))
  let bundleID ← randomUUID P
  let eventID ← randomUUID P
  let answer ← Prog.perform (Op.random 32)
  let locator ← Prog.ofExcept (orThrow answer .application)
  let expiresAt := now + bundleLifetime
  let keyID ← Prog.perform Op.signerKeyID
  let _ ← Prog.ofExcept (selectSigningKeyForIssue service.metadata keyID ⟨now, true⟩
    ⟨expiresAt, true⟩)
  let signed ← signBundleV1 P (bundlePayload P bundleID locator version authority testConfig now)
  let (envelope, envelopeDigest) ← sealBundle P authority.hpkePublicKey locator signed
  let signerKeyID ← Prog.perform Op.signerKeyID
  insertBundle P
    { id := bundleID
      authorizationID := authority.authorizationID
      bundleVersion := version
      locator := locator
      envelope := envelope
      envelopeSHA256 := envelopeDigest
      signerKeyID := signerKeyID
      issuedAt := now
      notBefore := now
      expiresAt := expiresAt }
  let event : EventEnvelope :=
    { eventID := eventID
      occurredAt := now
      aggregateID := bundleID
      aggregateVersion := version
      payload := .bundleIssued authority.authorizationID bundleID version envelopeDigest }
  pure (⟨bundleID, version, locator.1, envelopeDigest⟩, event)

/-- SOURCE: application.go:579-599 -/
def authorize (authorizationID : UUID) (accessToken : Bytes) : Server P BundleAuthority := do
  let answer ← Prog.perform (Op.authorizeBundle accessToken)
  let authority ← Prog.ofExcept (answer.mapError Error.api)
  Prog.ofExcept (require (authority.authorizationID = authorizationID ∧
    authority.principalID ≠ UUID.zero ∧ authority.deviceID ≠ UUID.zero ∧
    authority.hpkePublicKey.1 ≠ List.replicate 32 0 ∧ authority.deviceKeyVersion ≠ 0 ∧
    authority.policySchema = ascii "device-policy-v1" ∧ validDevicePolicyV1 authority.policy)
    (.api .authenticationFailed))
  pure authority

/-- `beginTrustIdempotency`; every failure of the record is one of the repository.

SOURCE: application.go:638-651, postgres_repository.go:147-170 -/
def beginTrustIdempotency (authorizationID : UUID) (operation : Operation) (key canonical : Bytes)
    (now : Instant) : Server P (Idempotency.Record × Idempotency.Outcome) := do
  let scope ← Prog.ofExcept (orThrow (Idempotency.authenticatedScope authorizationID .device operation)
    (.api .malformedRequest))
  Prog.mapError (fun _ => .repository)
    (Idempotency.beginRecord P scope key canonical now (now + bundleIdempotencyRetention))

/-- SOURCE: postgres_repository.go:172-191 -/
def completeIdempotency (record : Idempotency.Record) (status : ℕ) (body : Bytes) :
    Server P Unit :=
  Prog.mapError (fun _ => .repository) (Idempotency.completeRecord P record status body)

/-- The body of `Acknowledge`'s transaction.

SOURCE: application.go:445-494, 619-636 -/
def acknowledgeTransaction (command : AcknowledgeCommand) (canonical : Bytes) : Server P Unit := do
  let now ← serviceNow P
  let (record, outcome) ← beginTrustIdempotency P command.authorizationID .acknowledgeBundle
    command.idempotencyKey canonical now
  match outcome with
  | .replay status response =>
    Prog.ofExcept (require (status = acknowledgeResponseStatus ∧ response = []) .repository)
  | .conflict => throw (.api .idempotencyConflict)
  | .inProgress => throw (.api .stateConflict)
  | .started => do
    let _ ← authorize P command.authorizationID command.accessToken
    let found ← bundleByID P command.bundleID
    let bundle ← Prog.ofExcept (orThrow found (.api .stateConflict))
    Prog.ofExcept (require (bundle.authorizationID = command.authorizationID ∧
      bundle.bundleVersion = command.bundleVersion) (.api .stateConflict))
    insertAcknowledgement P bundle now
    let eventID ← Prog.mapError (fun _ => .repository) (randomUUID P)
    appendEvent P
      { eventID := eventID
        occurredAt := now
        aggregateID := bundle.id
        aggregateVersion := bundle.bundleVersion
        payload := .bundleAcknowledged bundle.authorizationID bundle.id bundle.bundleVersion }
    completeIdempotency P record acknowledgeResponseStatus []

/-- SOURCE: application.go:428-496 -/
def acknowledge (command : AcknowledgeCommand) : Server P Unit :=
  Prog.mapError collapseTrustError do
    let canceled ← Prog.perform Op.contextError
    Prog.ofExcept (require (canceled = false ∧ validAcknowledgeCommand command)
      (.api .malformedRequest))
    let canonical ← Prog.ofExcept (orThrow (canonicalTrustedJSON P (.obj
      [(ascii "authorization_id", .str (P.uuidString command.authorizationID)),
       (ascii "bundle_id", .str (P.uuidString command.bundleID)),
       (ascii "bundle_version", .str (Decimal.format command.bundleVersion))]))
      (.api .malformedRequest))
    withinTransaction P (acknowledgeTransaction P command canonical)

end Programs

end Talenro.Trust
