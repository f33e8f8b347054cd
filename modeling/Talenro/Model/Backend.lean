import Talenro.Lib.Checks
import Talenro.Lib.Prog
import Talenro.Lib.RowStore
import Talenro.Model.Wire

/-!
# The services behind the control API

The server's programs talk to one PostgreSQL database and to a few other
services: the clock, the random source, the signing provider, the field
protector, the device authority.  This file declares the tables the programs
use, the operations they perform and what an operation can do to the state.
Whatever lies outside the repository answers as the environment decides: an
`Environment` says which answers are possible in a state, and claims about
healthy or hostile services are claims about environments.

Sources named without a directory are in `db/migrations`.
-/

set_option autoImplicit false

namespace Talenro

open Lib Lib.Calendar

/-- A process serving one request. -/
abbrev Pid : Type := ℕ

/-! ## Tables -/

/-- A field encrypted by the protector. -/
structure EncryptedField where
  keyVersion : ℕ
  ciphertext : Bytes
deriving DecidableEq

/-- The operations that are protected by idempotency records. -/
inductive Operation where
  | registerAccount
  | createEmailVerificationDelivery
  | createPasswordResetDelivery
  | verifyEmail
  | resetPassword
  | changePassword
  | createEnrollmentGrant
  | rotateRecoveryCodes
  | consumeRecoveryCode
  | createAccountSession
  | createAccountSessionChallenge
  | rotateAccountToken
  | revokeAccountSessions
  | beginPasskeyRegistration
  | finishPasskeyRegistration
  | beginPasskeyAuthentication
  | finishPasskeyAuthentication
  | revokePasskey
  | beginTotpEnrollment
  | verifyTotpEnrollment
  | revokeTotp
  | registerDevice
  | rotateDeviceToken
  | revokeDevice
  | issueBundle
  | resolveBundle
  | acknowledgeBundle
deriving DecidableEq

/-- The credentials a principal can act with. -/
inductive CredentialDomain where
  | email
  | password
  | recovery
  | totp
  | passkey
  | accountSession
  | accountRefresh
  | deviceRefresh
  | deviceAuthorization
  | device
deriving DecidableEq

/-- The fixed anonymous principals, and a principal with one of its credentials.

SOURCE: internal/idempotency/service.go:34-53, 128-138 -/
inductive Principal where
  | anonymousRegistration
  | anonymousEmailVerificationDelivery
  | anonymousPasswordResetDelivery
  | anonymousDeviceRegistration
  | anonymousPasskeyAuthentication
  | authenticated (id : UUID) (domain : CredentialDomain)
deriving DecidableEq

/-- The principal and the operation of an idempotency key.

SOURCE: internal/idempotency/service.go:85-89 -/
structure Scope where
  principal : Principal
  operation : Operation
deriving DecidableEq

inductive RecordState where
  | inProgress
  | completed
  | failed
deriving DecidableEq

/-- SOURCE: 00004_trust_delivery.sql, idempotency_records -/
structure IdempotencyRow where
  requestDigest : Bytes
  state : RecordState
  responseStatus : Option ℕ
  response : Option EncryptedField
  createdAt : Instant
  expiresAt : Instant
deriving DecidableEq

/-- The messages the services announce, each with the fields of its event type.

SOURCE: internal/contracts/events/marshal.go:241-264 -/
inductive EventPayload where
  | bundleIssued (authorizationID bundleID : UUID) (bundleVersion : ℕ) (envelopeSHA256 : Bytes)
  | bundleAcknowledged (authorizationID bundleID : UUID) (bundleVersion : ℕ)
deriving DecidableEq

/-- An event; its type is that of its payload.

SOURCE: internal/trust/application.go:569-573 -/
structure EventEnvelope where
  eventID : UUID
  occurredAt : Instant
  aggregateID : UUID
  aggregateVersion : ℕ
  payload : EventPayload
deriving DecidableEq

/-- SOURCE: 00004_trust_delivery.sql, trust.bundle_issuances -/
structure BundleIssuanceRow where
  authorizationID : UUID
  bundleVersion : ℕ
  locatorHash : Bytes
  locator : EncryptedField
  envelope : Bytes
  envelopeSHA256 : Bytes
  signerKeyID : Bytes
  issuedAt : Instant
  notBefore : Instant
  expiresAt : Instant
deriving DecidableEq

/-- SOURCE: 00004_trust_delivery.sql, trust.bundle_acknowledgements -/
structure AcknowledgementRow where
  bundleVersion : ℕ
  acknowledgedAt : Instant
deriving DecidableEq

/-- SOURCE: 00004_trust_delivery.sql, trust.trust_root_metadata -/
structure RootMetadataRow where
  canonicalPayload : Bytes
  signature : Bytes
  validFrom : Instant
  validUntil : Instant
  createdAt : Instant
deriving DecidableEq

/-- SOURCE: 00004_trust_delivery.sql, trust.signing_key_metadata -/
structure SigningKeyRow where
  rootMetadataVersion : ℕ
  publicKey : Bytes
  state : Bytes
  notBefore : Instant
  notAfter : Instant
deriving DecidableEq

inductive AccountState where
  | pendingEmail
  | active
  | suspended
  | deletionPending
  | deleted
deriving DecidableEq

/-- SOURCE: 00002_identity.sql, identity.accounts -/
structure AccountRow where
  state : AccountState
  stateVersion : ℕ
  createdAt : Instant
deriving DecidableEq

/-- SOURCE: 00002_identity.sql, identity.password_credentials -/
structure PasswordCredentialRow where
  policyVersion : ℕ
  memoryKib : ℕ
  timeCost : ℕ
  parallelism : ℕ
  salt : Bytes
  passwordHash : Bytes
  resetTokenHash : Option Bytes
  resetExpiresAt : Option Instant
  resetConsumedAt : Option Instant
deriving DecidableEq

inductive SessionState where
  | active
  | reviewRequired
  | revoked
  | compromised
deriving DecidableEq

/-- SOURCE: 00002_identity.sql, identity.account_sessions,
00003_deviceauth.sql, device_authorization_id -/
structure AccountSessionRow where
  principalID : UUID
  state : SessionState
  stateVersion : ℕ
  clientSigningPublicKey : Bytes
  accessTokenHash : Bytes
  accessExpiresAt : Instant
  absoluteExpiresAt : Instant
  deviceAuthorizationID : Option UUID
deriving DecidableEq

/-- The states of account and device refresh tokens. -/
inductive RefreshState where
  | active
  | used
  | revoked
deriving DecidableEq

/-- SOURCE: 00002_identity.sql, identity.account_refresh_tokens -/
structure AccountRefreshTokenRow where
  sessionID : UUID
  previousTokenHash : Option Bytes
  state : RefreshState
  issuedAt : Instant
  idleExpiresAt : Instant
  absoluteExpiresAt : Instant
  usedAt : Option Instant
  revokedAt : Option Instant
deriving DecidableEq

inductive PasskeyState where
  | active
  | revoked
deriving DecidableEq

/-- SOURCE: 00002_identity.sql, identity.passkey_credentials -/
structure PasskeyRow where
  principalID : UUID
  protocolFlags : ℕ
  signCount : ℕ
  state : PasskeyState
  createdAt : Instant
deriving DecidableEq

inductive RecoverySetState where
  | active
  | superseded
  | exhausted
  | revoked
deriving DecidableEq

/-- SOURCE: 00002_identity.sql, identity.recovery_code_sets -/
structure RecoveryCodeSetRow where
  principalID : UUID
  generation : ℕ
  codeHashes : List Bytes
  state : RecoverySetState
deriving DecidableEq

/-- The categories of security events. -/
inductive SecurityCategory where
  | passwordReset
  | passwordChanged
  | accountRefreshReplay
  | deviceTokenReplay
deriving DecidableEq

/-- SOURCE: 00002_identity.sql, identity.security_events -/
structure SecurityEventRow where
  principalID : Option UUID
  category : SecurityCategory
  aggregateVersion : ℕ
  occurredAt : Instant
deriving DecidableEq

/-- The primary keys of the tables; an e-mail identity is named by its unique lookup
digest, by which alone it is read. -/
inductive Key where
  | idempotency (scope : Scope) (keyDigest : Bytes)
  | outbox (eventID : UUID)
  | highestBundleVersion (authorizationID : UUID)
  | bundleIssuance (id : UUID)
  | bundleAcknowledgement (bundleID authorizationID : UUID)
  | rootMetadata (version : ℕ)
  | signingKey (keyID : Bytes)
  | account (id : UUID)
  | emailIdentity (lookupDigest : Bytes)
  | passwordCredential (principalID : UUID)
  | accountSession (id : UUID)
  | accountRefreshToken (tokenHash : Bytes)
  | passkey (credentialID : Bytes)
  | recoveryCodeSet (id : UUID)
  | securityEvent (id : UUID)
deriving DecidableEq

/-- The row of each table.  Of `trust.highest_bundle_versions` only
`highest_issued` is ever read, of `identity.email_identities` only the principal. -/
@[reducible] def Row : Key → Type
  | .idempotency _ _ => IdempotencyRow
  | .outbox _ => EventEnvelope
  | .highestBundleVersion _ => ℕ
  | .bundleIssuance _ => BundleIssuanceRow
  | .bundleAcknowledgement _ _ => AcknowledgementRow
  | .rootMetadata _ => RootMetadataRow
  | .signingKey _ => SigningKeyRow
  | .account _ => AccountRow
  | .emailIdentity _ => UUID
  | .passwordCredential _ => PasswordCredentialRow
  | .accountSession _ => AccountSessionRow
  | .accountRefreshToken _ => AccountRefreshTokenRow
  | .passkey _ => PasskeyRow
  | .recoveryCodeSet _ => RecoveryCodeSetRow
  | .securityEvent _ => SecurityEventRow

abbrev Database : Type := RowStore Key Row Pid

/-- The constraints of the tables on a single row.

SOURCE: 00002_identity.sql, 00004_trust_delivery.sql -/
def constraints : (k : Key) → Row k → Bool
  | .idempotency _ keyDigest, row =>
    decide (keyDigest.length = 32 ∧ row.requestDigest.length = 32) &&
      row.response.all fun response =>
        decide (response.ciphertext.length ≤ 1048608 ∧ 0 < response.keyVersion)
  | .outbox _, event => decide (0 < event.aggregateVersion)
  | .highestBundleVersion _, highest => decide (0 < highest)
  | .bundleIssuance _, row =>
    decide (0 < row.bundleVersion ∧ row.locatorHash.length = 32 ∧
      29 ≤ row.locator.ciphertext.length ∧ row.locator.ciphertext.length ≤ 512 ∧
      0 < row.locator.keyVersion ∧ 64 ≤ row.envelope.length ∧ row.envelope.length ≤ 1048576 ∧
      row.envelopeSHA256.length = 32 ∧ row.notBefore < row.expiresAt)
  | .bundleAcknowledgement _ _, row => decide (0 < row.bundleVersion)
  | .rootMetadata version, row =>
    decide (0 < version ∧ 2 ≤ row.canonicalPayload.length ∧ row.canonicalPayload.length ≤ 65536 ∧
      row.signature.length = 64 ∧ row.validFrom < row.validUntil)
  | .signingKey keyID, row =>
    validKeyID keyID && decide (row.publicKey.length = 32 ∧ row.notBefore < row.notAfter)
  | .account _, row => decide (0 < row.stateVersion)
  | .emailIdentity lookupDigest, _ => decide (lookupDigest.length = 32)
  | .passwordCredential _, row =>
    decide (0 < row.policyVersion ∧ 65536 ≤ row.memoryKib ∧ 3 ≤ row.timeCost ∧
      1 ≤ row.parallelism ∧ row.parallelism ≤ 16 ∧ row.salt.length = 16 ∧
      row.passwordHash.length = 32) && row.resetTokenHash.all fun hash => hash.length = 32
  | .accountSession _, row =>
    decide (0 < row.stateVersion ∧ row.clientSigningPublicKey.length = 32 ∧
      row.accessTokenHash.length = 32)
  | .accountRefreshToken tokenHash, row =>
    decide (tokenHash.length = 32) && row.previousTokenHash.all fun hash => hash.length = 32
  | .passkey credentialID, row =>
    decide (16 ≤ credentialID.length ∧ credentialID.length ≤ 1024 ∧ row.protocolFlags ≤ 255)
  | .recoveryCodeSet _, row =>
    decide (0 < row.generation ∧ 1 ≤ row.codeHashes.length ∧ row.codeHashes.length ≤ 10)
  | .securityEvent _, row => decide (0 < row.aggregateVersion)

/-! ## Operations -/

/-- The failures of the signing provider. -/
inductive SignerError where
  | closed
  | timeout
  | failure
  | invalidArgument
deriving DecidableEq

/-- The finite error codes of the API.

SOURCE: internal/apierrors -/
inductive ApiError where
  | malformedRequest
  | authenticationFailed
  | actionNotAllowed
  | rateLimited
  | idempotencyConflict
  | stateConflict
  | signingUnavailable
  | dependencyUnavailable
deriving DecidableEq

/-- SOURCE: internal/deviceauth/types.go:109-117 -/
structure BundleAuthority where
  authorizationID : UUID
  principalID : UUID
  deviceID : UUID
  hpkePublicKey : Octets 32
  deviceKeyVersion : ℕ
  policySchema : Bytes
  policy : Bytes

/-- The proofs that challenges are made for; the kind determines the protocol version and
the operation in the record.

SOURCE: internal/identity/challenge_store.go:17-22, internal/deviceauth/challenge_store.go:147-154 -/
inductive ChallengeKind where
  | accountRotation
  | deviceRegistration
  | deviceRotation
deriving DecidableEq

/-- A challenge in Redis.  A challenge of the identity service has no grant digest.

SOURCE: internal/identity/challenge_store.go:33-42, internal/deviceauth/challenge_store.go:37-47 -/
structure ChallengeRecord where
  kind : ChallengeKind
  challenge : Octets 32
  grantDigest : Bytes
  contextDigest : Bytes
  expiresAt : Instant
deriving DecidableEq

/-- The Redis keys of challenges: each service has a prefix of its own. -/
inductive ChallengeKey where
  | account (challengeID : Bytes)
  | device (challengeID : Bytes)
deriving DecidableEq

/-- What the rate limiter counts.

SOURCE: internal/ratelimit -/
inductive RateLimit where
  | login (subject : Bytes)
  | challenge (subject : Bytes)
deriving DecidableEq

/-- What a program can ask for. -/
inductive Op where
  | statement (q : Statement Key Row)
  | contextError
  | clock
  | random (n : ℕ)
  | signerKeyID
  | sign (message : Bytes)
  | newSender (recipient info : Bytes)
  | encrypt (domain plaintext : Bytes)
  | decrypt (domain : Bytes) (field : EncryptedField)
  | authorizeBundle (accessToken : Bytes)
  | currentTestConfig
  | newUUID
  | allow (limit : RateLimit)
  | setChallenge (key : ChallengeKey) (record : ChallengeRecord)
  | takeChallenge (key : ChallengeKey)

/-- The type of the answer to an operation. -/
@[reducible] def Res (P : Platform) : Op → Type
  | .statement q => Option q.Answer
  | .contextError => Bool
  | .clock => Time
  | .random n => Option (Octets n)
  | .signerKeyID => Bytes
  | .sign _ => Except SignerError Bytes
  | .newSender _ _ => Option (Bytes × P.Sender)
  | .encrypt _ _ => Option EncryptedField
  | .decrypt _ _ => Option Bytes
  | .authorizeBundle _ => Except ApiError BundleAuthority
  | .currentTestConfig => Option TestConfigWire
  | .newUUID => UUID
  | .allow _ => Option Bool
  | .setChallenge _ _ => Option Bool
  | .takeChallenge _ => Option (Option ChallengeRecord)

/-! ## Semantics -/

/-- The database, the messages handed to the signing provider so far, and the challenges
in Redis. -/
structure Backend where
  database : Database
  signed : List Bytes
  challenges : ChallengeKey → Option ChallengeRecord

/-- Nothing is stored. -/
def Backend.empty : Backend := ⟨RowStore.empty, [], fun _ => none⟩

/-- The state after the transaction of `pid` wrote a row. -/
def Backend.write (s : Backend) (pid : Pid) (k : Key) (row : Row k) : Backend :=
  { s with database := s.database.put pid k (some row) }

/-- Which answers the services outside the database can give in a state, and which
statements the database can fail to execute: those to which `none` is an answer. -/
def Environment (P : Platform) : Type := Backend → (o : Op) → Res P o → Prop

/-- Redis `SETNX`: the key is set unless it is taken.  A call that fails may have taken
effect. -/
def SetsChallenge (key : ChallengeKey) (record : ChallengeRecord) (s : Backend) (r : Option Bool)
    (t : Backend) : Prop :=
  let after := if s.challenges key = none then
    { s with challenges := Function.update s.challenges key (some record) } else s
  (r = some (decide (s.challenges key = none)) ∧ t = after) ∨ r = none ∧ (t = s ∨ t = after)

/-- Redis `GETDEL`: the challenge is returned and deleted in one step.  One that has
expired is not found, and a call that fails may have taken effect. -/
def TakesChallenge (key : ChallengeKey) (s : Backend) (r : Option (Option ChallengeRecord))
    (t : Backend) : Prop :=
  let after := { s with challenges := Function.update s.challenges key none }
  ((r = some (s.challenges key) ∨ r = some none) ∧ t = after) ∨ r = none ∧ (t = s ∨ t = after)

/-- One operation of the process `pid`. -/
def exec {P : Platform} (environment : Environment P) (pid : Pid) :
    (o : Op) → Backend → Res P o → Backend → Prop
  | .statement q, s, r, t =>
    ∃ d, RowStore.Exec constraints (fun q => environment s (.statement q) none) pid q s.database r d ∧
      t = { s with database := d }
  | .sign message, s, r, t =>
    environment s (.sign message) r ∧ t = { s with signed := s.signed ++ [message] }
  | .setChallenge key record, s, r, t =>
    environment s (.setChallenge key record) r ∧ SetsChallenge key record s r t
  | .takeChallenge key, s, r, t =>
    environment s (.takeChallenge key) r ∧ TakesChallenge key s r t
  | o, s, r, t => environment s o r ∧ t = s

/-! ## Transactions -/

section Programs

variable (P : Platform) {ε α : Type}

/-- A statement whose failure is a failure of the repository. -/
def query (repository : ε) (q : Statement Key Row) : ExceptT ε (Prog Op (Res P)) q.Answer := do
  let answer ← Prog.perform (Op.statement q)
  Prog.ofExcept (orThrow answer repository)

/-- `WithinTransaction`: the transaction is rolled back unless its commit is
confirmed.  The repositories of the three services carry a copy of it each, with
their own error.

SOURCE: internal/trust/postgres_repository.go:86-120,
internal/identity/postgres_repository.go:47-77, internal/deviceauth/postgres_repository.go:44-77 -/
def withinTransaction (repository : ε) (operation : ExceptT ε (Prog Op (Res P)) α) :
    ExceptT ε (Prog Op (Res P)) α := do
  let canceled ← Prog.perform Op.contextError
  Prog.ofExcept (require (canceled = false) repository)
  query P repository .begin
  let outcome ← ExceptT.lift operation.run
  match outcome with
  | .error e =>
    let _ ← Prog.perform (Op.statement .rollback)
    throw e
  | .ok result =>
    let confirmed ← Prog.perform (Op.statement .commit)
    match confirmed with
    | some _ => pure result
    | none =>
      let _ ← Prog.perform (Op.statement .rollback)
      throw repository

end Programs

end Talenro
