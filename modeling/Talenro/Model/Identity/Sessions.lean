import Talenro.Model.Identity.Repository

/-!
# Sessions from recovery codes

How a session of an account is issued, and the call that issues one for a recovery code.

Sources named without a directory are in `internal/identity`.
-/

set_option autoImplicit false

namespace Talenro.Identity

open Lib Lib.Calendar Idempotency Calls

section Failures

variable {κ : Type}

/-- SOURCE: register.go:539-541 -/
def authenticationFailed : Failure κ := .api .authenticationFailed

end Failures

/-! ## Commands -/

/-- SOURCE: recovery.go:47-52 -/
structure ConsumeRecoveryCodeCommand where
  email : Bytes
  code : Bytes
  clientSigningPublicKey : Octets 32
  idempotencyKey : Bytes

/-! ## The rows of a principal -/

section Operations

variable (P : Platform) (service : Service) {κ : Type}

/-! ## Issuing -/

/-- The earlier of an expiry and a deadline. -/
def until_ (deadline : Option Instant) (expiresAt : Instant) : Instant :=
  deadline.elim expiresAt (min expiresAt)

/-- A new pair of tokens and the session they are for.

SOURCE: email_verification.go:564-603 -/
def newSessionTokensUntil (now : Instant) (deadline : Option Instant) :
    Body P κ (UUID × SessionTokens) := do
  Prog.ofExcept (require (∀ d ∈ deadline, now < d) unavailable)
  let access ← newOpaqueToken P
  let refresh ← newOpaqueToken P
  let sessionID ← newID P
  Prog.ofExcept (require (digestToken .accountAccess access ≠ zeroDigest ∧
    digestToken .accountRefresh refresh ≠ zeroDigest) unavailable)
  pure (sessionID,
    { accessToken := access
      accessExpiresAt := until_ deadline (now + accountAccessTTL)
      refreshToken := refresh
      refreshIdleExpiresAt := until_ deadline (now + accountRefreshIdleTTL)
      refreshAbsoluteExpiresAt := until_ deadline (now + accountRefreshAbsoluteTTL) })

/-- The session and its first refresh token are stored.

SOURCE: session.go:176-188, email_verification.go:382-394 -/
def storeSession (principalID : UUID) (clientSigningPublicKey : Octets 32) (now : Instant)
    (sessionID : UUID) (tokens : SessionTokens) : Body P κ Unit := do
  createAccountSession P sessionID principalID clientSigningPublicKey.1
    (digestToken .accountAccess tokens.accessToken) tokens.accessExpiresAt
    tokens.refreshAbsoluteExpiresAt
  insertAccountRefreshToken P (digestToken .accountRefresh tokens.refreshToken) sessionID none now
    tokens.refreshIdleExpiresAt tokens.refreshAbsoluteExpiresAt

/-- SOURCE: session.go:157-190 -/
def issueAccountSessionUntil (principalID : UUID) (clientSigningPublicKey : Octets 32)
    (now : Instant) (deadline : Option Instant) : Body P κ SessionTokens := do
  Prog.ofExcept (require (principalID ≠ UUID.zero ∧ clientSigningPublicKey.1 ≠ zeroDigest ∧ now ≠ 0)
    unavailable)
  let (sessionID, tokens) ← newSessionTokensUntil P now deadline
  storeSession P principalID clientSigningPublicKey now sessionID tokens
  pure tokens

/-- The tokens of a stored response.

SOURCE: session.go:297-311, recovery.go:275-289 -/
def replayedTokens (outcome : Outcome) : Except (Failure κ) SessionTokens := do
  let body ← privateIdempotencyOutcome outcome 200
  orThrow (decodeSessionTokens P body) unavailable

/-- The tokens become the response of the record.

SOURCE: session.go:339-348, recovery.go:319-328 -/
def completeWithTokens (record : Record) (tokens : SessionTokens) : Body P κ SessionTokens := do
  let body ← Prog.ofExcept (orThrow (encodeSessionTokens P tokens) unavailable)
  completeIdempotency P record 200 body
  pure tokens

/-- The rate limit of a login; a failed computation of its subject counts as a failure of
the limiter.

SOURCE: session.go:230-240, recovery.go:222-234 -/
def allowLogin (email : Bytes) : Call P Unit := do
  let answer ← Prog.perform (Op.allow (.login email))
  let allowed ← Prog.ofExcept (orThrow answer .dependencyUnavailable)
  Prog.ofExcept (require (allowed = true) .rateLimited)

/-! ## `ConsumeRecoveryCode` -/

/-- SOURCE: recovery.go:304-312 -/
def validConsumedSet (before after : RecoveryCodeSetRow) (principalID : UUID) (digest : Bytes) :
    Bool :=
  let expectedCount := before.codeHashes.length - 1
  after.principalID == principalID && after.generation == before.generation &&
    after.state == (if expectedCount = 0 then .exhausted else .active) &&
    validRecoveryHashCount after.codeHashes expectedCount && !after.codeHashes.contains digest

/-- The code leaves its set and a session is issued for it.

SOURCE: recovery.go:290-328 -/
def redeemRecoveryCode (clientSigningPublicKey : Octets 32) (principalID : UUID)
    (active : Option (UUID × RecoveryCodeSetRow)) (record : Record) (codeDigest : Bytes)
    (now : Instant) : Body P κ SessionTokens := do
  let (setID, set) ← Prog.ofExcept (orThrow (active.filter fun set =>
    validRecoveryCodeSet set.1 set.2 principalID) authenticationFailed)
  let consumed ← consumeRecoveryCodeRow P setID codeDigest
  let updated ← Prog.ofExcept (orThrow consumed authenticationFailed)
  Prog.ofExcept (require (validConsumedSet set updated principalID codeDigest) unavailable)
  let tokens ← issueAccountSessionUntil P principalID clientSigningPublicKey now none
  completeWithTokens P record tokens

/-- SOURCE: recovery.go:236-329 -/
def consumeRecoveryCodeTransaction (command : ConsumeRecoveryCodeCommand)
    (email codeDigest canonical : Bytes) (now : Instant) : Body P Empty SessionTokens := do
  let lookupDigest := (service.lookupDigest emailFieldDomain email).1
  Prog.ofExcept (require (lookupDigest ≠ zeroDigest) unavailable)
  let identity ← findIdentityByLookupDigestRead P lookupDigest
  let principalID := identity.getD UUID.zero
  let active ← getActiveRecoveryCodeSetForUpdate P principalID
  let account ← getAccountForUpdate P principalID
  Prog.ofExcept (require (identity.isSome ∧ account.any fun account => account.state == .active)
    authenticationFailed)
  let (record, outcome) ← beginIdempotency P
    (authenticatedScope principalID .recovery .consumeRecoveryCode) command.idempotencyKey canonical
    now (now + securityIdempotencyRetention)
  match outcome with
  | .started =>
    redeemRecoveryCode P command.clientSigningPublicKey principalID active record codeDigest now
  | outcome => Prog.ofExcept (replayedTokens P outcome)

/-- SOURCE: recovery.go:188-334 -/
def consumeRecoveryCode (command : ConsumeRecoveryCodeCommand) : Call P SessionTokens := do
  Prog.ofExcept (require (command.email ≠ [] ∧ command.clientSigningPublicKey.1 ≠ zeroDigest ∧
    validIdempotencyKey command.idempotencyKey) .malformedRequest)
  let codeDigest ← Prog.ofExcept (orThrow (recoveryCodeDigest command.code) .malformedRequest)
  let email ← Prog.ofExcept (orThrow (canonicalizeEmail command.email) .malformedRequest)
  let canonical ← Prog.ofExcept (orThrow (canonicalRequest service.lookupDigest
    strongAuthRequestDigestDomain .consumeRecoveryCode
    [email, command.code, command.clientSigningPublicKey.1]) .dependencyUnavailable)
  let time ← now P ApiError.dependencyUnavailable
  allowLogin P email
  transaction P (consumeRecoveryCodeTransaction P service command email codeDigest canonical time)

end Operations

end Talenro.Identity
