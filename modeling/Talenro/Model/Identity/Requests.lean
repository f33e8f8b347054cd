import Talenro.Lib.Framing
import Talenro.Model.Identity.Credentials

/-!
# Request bindings of the identity service

A request is bound to its idempotency record by the keyed digest of its operation and its
parts.  Two functions do this, for the operations of the account and for those of strong
authentication; they differ in the operations they admit, the domain of the digest and the
error they answer with.
-/

set_option autoImplicit false

namespace Talenro.Identity

open Lib

/-- SOURCE: internal/identity/register.go:442-451, internal/idempotency/service.go:40-45 -/
def validPrivateRequestOperation (operation : Bytes) : Bool :=
  [ascii "register_account", ascii "create_email_verification_delivery",
    ascii "create_password_reset_delivery", ascii "verify_email", ascii "reset_password",
    ascii "create_enrollment_grant", ascii "create_account_session", ascii "change_password",
    ascii "create_account_session_challenge", ascii "rotate_account_token",
    ascii "revoke_account_sessions"].contains operation

/-- SOURCE: internal/identity/reauth.go:122-131 -/
def validStrongAuthOperation (operation : Bytes) : Bool :=
  [ascii "begin_totp_enrollment", ascii "verify_totp_enrollment", ascii "revoke_totp",
    ascii "rotate_recovery_codes", ascii "consume_recovery_code",
    ascii "begin_passkey_registration", ascii "begin_passkey_authentication",
    ascii "finish_passkey_registration", ascii "finish_passkey_authentication",
    ascii "revoke_passkey"].contains operation

/-- `math.MaxUint32`. -/
def maxUint32 : ℕ := 2 ^ 32 - 1

/-- `math.MaxInt`, on a platform of 64 bits. -/
def maxInt : ℕ := 2 ^ 63 - 1

/-- The loop that sums up the length of the material, and stops before it overflows.

SOURCE: internal/identity/register.go:409-415, internal/identity/reauth.go:89-95 -/
def materialLength : ℕ → List Bytes → Option ℕ
  | total, [] => some total
  | total, part :: rest =>
    if part.length > maxUint32 ∨ total > maxInt - 4 - part.length then none
    else materialLength (total + (4 + part.length)) rest

/-- The material of the digest: the operation, the number of the parts and the parts.

SOURCE: internal/identity/register.go:416-430, internal/identity/reauth.go:96-110 -/
def material (operation : Bytes) (parts : List Bytes) : Bytes :=
  framed 4 operation ++ (bigEndian 4 parts.length ++ parts.flatMap (framed 4))

inductive RequestError where
  | invalidApplication
  | strongAuthDependency
deriving DecidableEq

/-- What both functions do.  The protector is nil or has a keyed digest.

SOURCE: internal/identity/register.go:405-440, internal/identity/reauth.go:81-120 -/
def bindRequest (validOperation : Bytes → Bool) (domain : Bytes) (e : RequestError)
    (protector : Option (Bytes → Bytes → Octets 32)) (operation : Bytes) (parts : List Bytes) :
    Except RequestError Bytes := do
  let lookupDigest ← orThrow protector e
  require (validOperation operation ∧ parts.length ≠ 0 ∧ parts.length ≤ maxUint32 ∧
    operation.length ≤ maxUint32) e
  let _ ← orThrow (materialLength (8 + operation.length) parts) e
  let digest := lookupDigest domain (material operation parts)
  require (digest ≠ Octets.replicate 32 0) e
  pure digest.1

/-- SOURCE: internal/identity/register.go:405-440 -/
def privateCanonicalRequest : Option (Bytes → Bytes → Octets 32) → Bytes → List Bytes →
    Except RequestError Bytes :=
  bindRequest validPrivateRequestOperation privateRequestDigestDomain .invalidApplication

/-- SOURCE: internal/identity/reauth.go:81-120 -/
def strongAuthCanonicalRequest : Option (Bytes → Bytes → Octets 32) → Bytes → List Bytes →
    Except RequestError Bytes :=
  bindRequest validStrongAuthOperation strongAuthRequestDigestDomain .strongAuthDependency

end Talenro.Identity
