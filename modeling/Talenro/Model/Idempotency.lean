import Talenro.Model.Backend

/-!
# Idempotency records

A request that may be repeated begins by inserting a record for its key.  The
insert succeeds for the first request; a later one finds the record, locks it,
and learns whether it repeats the same request and whether an answer has been
stored.  Both calls belong to the caller's transaction.

Sources named without a directory are in `internal/idempotency`.
-/

set_option autoImplicit false

namespace Talenro.Idempotency

open Lib Lib.Calendar

/-- SOURCE: service.go:57-70 -/
inductive Error where
  | invalidArgument
  | store
  | protection
  | conflict
  | recordUnavailable
  | canceled
deriving DecidableEq

/-- The text of an operation in digests and records. -/
def operationName : Operation → Bytes
  | .registerAccount => ascii "register_account"
  | .createEmailVerificationDelivery => ascii "create_email_verification_delivery"
  | .createPasswordResetDelivery => ascii "create_password_reset_delivery"
  | .verifyEmail => ascii "verify_email"
  | .resetPassword => ascii "reset_password"
  | .changePassword => ascii "change_password"
  | .createEnrollmentGrant => ascii "create_enrollment_grant"
  | .rotateRecoveryCodes => ascii "rotate_recovery_codes"
  | .consumeRecoveryCode => ascii "consume_recovery_code"
  | .createAccountSession => ascii "create_account_session"
  | .createAccountSessionChallenge => ascii "create_account_session_challenge"
  | .rotateAccountToken => ascii "rotate_account_token"
  | .revokeAccountSessions => ascii "revoke_account_sessions"
  | .beginPasskeyRegistration => ascii "begin_passkey_registration"
  | .finishPasskeyRegistration => ascii "finish_passkey_registration"
  | .beginPasskeyAuthentication => ascii "begin_passkey_authentication"
  | .finishPasskeyAuthentication => ascii "finish_passkey_authentication"
  | .revokePasskey => ascii "revoke_passkey"
  | .beginTotpEnrollment => ascii "begin_totp_enrollment"
  | .verifyTotpEnrollment => ascii "verify_totp_enrollment"
  | .revokeTotp => ascii "revoke_totp"
  | .registerDevice => ascii "register_device"
  | .rotateDeviceToken => ascii "rotate_device_token"
  | .revokeDevice => ascii "revoke_device"
  | .issueBundle => ascii "issue_bundle"
  | .resolveBundle => ascii "resolve_bundle"
  | .acknowledgeBundle => ascii "acknowledge_bundle"

/-- SOURCE: service.go:25-32 -/
def requestDigestDomain : Bytes := ascii "TALENRO-IDEMPOTENCY-REQUEST-V1\x00"
/-- SOURCE: service.go:25-32 -/
def keyDigestDomain : Bytes := ascii "TALENRO-IDEMPOTENCY-KEY-V1\x00"
/-- SOURCE: service.go:25-32 -/
def responseProtectionDomain : Bytes := ascii "idempotency/response/v1"
/-- SOURCE: service.go:25-32 -/
def maximumCanonicalRequestBytes : ℕ := 64 * 1024
/-- SOURCE: service.go:25-32 -/
def maximumResponseBytes : ℕ := 2 ^ 20
/-- SOURCE: service.go:25-32 -/
def maximumStoredResponseBytes : ℕ := 1048608
/-- SOURCE: service.go:25-32 -/
def responseFrameVersion : UInt8 := 1

/-- The digest of thirty-two zero octets, which no record may carry. -/
def zeroDigest : Bytes := List.replicate 32 0

/-- A redacted handle to a record.

SOURCE: service.go:140-152 -/
structure Record where
  scope : Scope
  keyDigest : Bytes
  requestDigest : Bytes
  state : RecordState
  createdAt : Instant
  expiresAt : Instant
  canComplete : Bool
deriving DecidableEq

/-- SOURCE: service.go:72-83 -/
inductive Outcome where
  | started
  | replay (status : ℕ) (body : Bytes)
  | conflict
  | inProgress
deriving DecidableEq

/-- An anonymous principal has one operation; every other principal has an
identifier.

SOURCE: service.go:423-448 -/
def validScope (scope : Scope) : Bool :=
  match scope.principal with
  | .anonymousRegistration => scope.operation == .registerAccount
  | .anonymousEmailVerificationDelivery => scope.operation == .createEmailVerificationDelivery
  | .anonymousPasswordResetDelivery => scope.operation == .createPasswordResetDelivery
  | .anonymousDeviceRegistration => scope.operation == .registerDevice
  | .anonymousPasskeyAuthentication => scope.operation == .beginPasskeyAuthentication
  | .authenticated id _ => id != UUID.zero

/-- SOURCE: service.go:128-138 -/
def authenticatedScope (id : UUID) (domain : CredentialDomain) (operation : Operation) :
    Option Scope := do
  guard (id ≠ UUID.zero)
  pure ⟨.authenticated id domain, operation⟩

/-- SOURCE: service.go:484-496 -/
def validIdempotencyKey (value : Bytes) : Bool :=
  decide (22 ≤ value.length ∧ value.length ≤ 86) && value.all fun c =>
    (0x61 ≤ c && c ≤ 0x7a) || (0x41 ≤ c && c ≤ 0x5a) || (0x30 ≤ c && c ≤ 0x39) ||
      c == 0x2d || c == 0x5f

/-- SOURCE: service.go:222-235 -/
def requestDigest (operation : Operation) (canonical : Bytes) : Option Bytes := do
  guard (canonical ≠ [] ∧ canonical.length ≤ maximumCanonicalRequestBytes)
  pure (Sha256.sha256 (requestDigestDomain ++ operationName operation ++ 0 :: canonical))

/-- SOURCE: service.go:237-251 -/
def keyDigest (key : Bytes) : Option Bytes := do
  guard (validIdempotencyKey key)
  pure (Sha256.sha256 (keyDigestDomain ++ bigEndian 2 key.length ++ key))

/-- The time a `timestamptz` column keeps: whole microseconds. -/
def timestamptz (t : Instant) : Instant := t - t % microsecond

/-- The checks of `recordFromStore` on a row found by its key.

SOURCE: service.go:398-415 -/
def validRow (row : IdempotencyRow) : Bool :=
  decide (row.requestDigest.length = 32) && row.createdAt != 0 &&
    decide (row.createdAt < row.expiresAt)

/-- The handle to a stored row, which only its creator can complete.

SOURCE: service.go:398-415 -/
def recordFromStore (scope : Scope) (keyDigest : Bytes) (row : IdempotencyRow) : Record :=
  { scope := scope
    keyDigest := keyDigest
    requestDigest := row.requestDigest
    state := row.state
    createdAt := row.createdAt
    expiresAt := row.expiresAt
    canComplete := false }

/-- SOURCE: service.go:417-421 -/
def validInternalRecord (record : Record) : Bool :=
  validScope record.scope && record.state != .failed && record.createdAt != 0 &&
    decide (record.createdAt < record.expiresAt) && record.keyDigest != zeroDigest &&
    record.requestDigest != zeroDigest

section Programs

variable (P : Platform)

/-- What `Begin` answers when the record exists.

SOURCE: service.go:302-337 -/
def recordOutcome (scope : Scope) (keyHash digest : Bytes) (createdAt : Instant)
    (stored : IdempotencyRow) : ExceptT Error (Prog Op (Res P)) (Record × Outcome) := do
  Prog.ofExcept (require (validRow stored ∧ createdAt < stored.expiresAt) .recordUnavailable)
  let record := recordFromStore scope keyHash stored
  if stored.requestDigest ≠ digest then
    pure (record, .conflict)
  else
    match stored.state with
    | .inProgress => pure (record, .inProgress)
    | .failed => throw .recordUnavailable
    | .completed =>
      match stored.responseStatus, stored.response with
      | some status, some response =>
        Prog.ofExcept (require (100 ≤ status ∧ status ≤ 599 ∧ 0 < response.keyVersion ∧
          28 < response.ciphertext.length ∧
          response.ciphertext.length ≤ maximumStoredResponseBytes) .recordUnavailable)
        let plaintext ← Prog.perform (Op.decrypt responseProtectionDomain response)
        match plaintext with
        | some (version :: body) =>
          Prog.ofExcept (require (version = responseFrameVersion ∧
            body.length ≤ maximumResponseBytes) .protection)
          pure (record, .replay status body)
        | _ => throw .protection
      | _, _ => throw .recordUnavailable

/-- `Begin`.

SOURCE: service.go:253-337 -/
def beginRecord (scope : Scope) (key canonical : Bytes) (createdAt expiresAt : Instant) :
    ExceptT Error (Prog Op (Res P)) (Record × Outcome) := do
  Prog.ofExcept (require (validScope scope ∧ createdAt ≠ 0 ∧ createdAt < expiresAt)
    .invalidArgument)
  let canceled ← Prog.perform Op.contextError
  Prog.ofExcept (require (canceled = false) .canceled)
  let digest ← Prog.ofExcept (orThrow (requestDigest scope.operation canonical) .invalidArgument)
  let keyHash ← Prog.ofExcept (orThrow (keyDigest key) .invalidArgument)
  let fresh : IdempotencyRow :=
    { requestDigest := digest
      state := .inProgress
      responseStatus := none
      response := none
      createdAt := timestamptz createdAt
      expiresAt := timestamptz expiresAt }
  let inserted ← Prog.perform (Op.statement (.insert (.idempotency scope keyHash) fresh))
  let rows ← Prog.ofExcept (orThrow inserted .store)
  if rows then
    pure (⟨scope, keyHash, digest, .inProgress, createdAt, expiresAt, true⟩, .started)
  else
    let answer ← Prog.perform (Op.statement (.lock (.idempotency scope keyHash)))
    let found ← Prog.ofExcept (orThrow answer .store)
    let stored ← Prog.ofExcept (orThrow found .store)
    recordOutcome P scope keyHash digest createdAt stored

/-- `Complete`.  The update is guarded by the digest and the state of the row.

SOURCE: service.go:339-392, db/queries/idempotency.sql -/
def completeRecord (record : Record) (status : ℕ) (body : Bytes) :
    ExceptT Error (Prog Op (Res P)) Unit := do
  Prog.ofExcept (require (validInternalRecord record ∧ 100 ≤ status ∧ status ≤ 599 ∧
    body.length ≤ maximumResponseBytes) .invalidArgument)
  Prog.ofExcept (require (record.canComplete ∧ record.state = .inProgress) .conflict)
  let canceled ← Prog.perform Op.contextError
  Prog.ofExcept (require (canceled = false) .canceled)
  let answer ← Prog.perform (Op.encrypt responseProtectionDomain (responseFrameVersion :: body))
  let response ← Prog.ofExcept (orThrow answer .protection)
  Prog.ofExcept (require (0 < response.keyVersion ∧ response.keyVersion < 2 ^ 31 ∧
    response.ciphertext ≠ [] ∧ response.ciphertext.length ≤ maximumStoredResponseBytes) .protection)
  let canceledAgain ← Prog.perform Op.contextError
  Prog.ofExcept (require (canceledAgain = false) .canceled)
  let key : Key := .idempotency record.scope record.keyDigest
  let updated ← Prog.perform (Op.statement (.update key fun row : IdempotencyRow =>
    if row.requestDigest = record.requestDigest ∧ row.state = .inProgress then
      some { row with
        state := .completed
        responseStatus := some status
        response := some response }
    else none))
  let found ← Prog.ofExcept (orThrow updated .store)
  let stored ← Prog.ofExcept (orThrow found .conflict)
  Prog.ofExcept (require (validRow stored ∧ stored.state = .completed ∧
    stored.requestDigest = record.requestDigest) .conflict)

end Programs

end Talenro.Idempotency
