import Talenro.Model.Calls
import Talenro.Model.Trust.Bundle

/-!
# Credentials of the identity service

E-mail addresses, recovery codes and the token pair of a session: how they are
checked, digested and encoded.  Nothing here touches the database.

Sources named without a directory are in `internal/identity`.
-/

set_option autoImplicit false

namespace Talenro.Identity

open Lib Lib.Json Lib.Calendar Idempotency Calls

/-! ## The service -/

inductive EmailVerification where
  | required
  | grace
  | disabled
deriving DecidableEq

/-- SOURCE: password.go:34-42 -/
structure PasswordPolicy where
  version : ℕ
  memoryKiB : ℕ
  time : ℕ
  parallelism : ℕ
  saltBytes : ℕ
  tagBytes : ℕ
deriving DecidableEq

/-- The configuration of the service: the keyed digest of the protector, the password
derivation, and the settings the calls read.  A service without a public base URL can be
constructed, but `validTask10Service` makes its calls refuse every command.

SOURCE: register.go:49-62, session.go:1479-1483 -/
structure Service where
  lookupDigest : Bytes → Bytes → Octets 32
  derive : Bytes → Bytes → PasswordPolicy → Bytes
  emailVerification : EmailVerification
  publicBaseURL : Bytes
  publicBaseURL_ne : publicBaseURL ≠ []

/-! ## Constants

SOURCE: register.go:30-47, reauth.go:16,
session.go:86-90, recovery.go:24-30,
challenge_store.go:18-20, email_verification.go:21 -/

def emailFieldDomain : Bytes := ascii "identity/email/v1"
def privateRequestDigestDomain : Bytes := ascii "identity_private_request_v1"
def strongAuthRequestDigestDomain : Bytes := ascii "identity_strong_auth_request_v1"
def securityIdempotencyRetention : ℤ := 90 * 24 * hour
def accountAccessTTL : ℤ := 10 * minute
def accountRefreshIdleTTL : ℤ := 30 * 24 * hour
def accountRefreshAbsoluteTTL : ℤ := 90 * 24 * hour
def maximumPrivateReplayBytes : ℕ := 2048
def accountRotationProofPrefix : Bytes := ascii "TALENRO-ACCOUNT-ROTATION-V1\x00"
def accountRotationProtocolVersion : Bytes := ascii "account-rotation-v1"
def accountRotationOperation : Bytes := ascii "rotate_account_token"
def recoveryCodeCount : ℕ := 10
def recoveryCodeBytes : ℕ := 20
def recoveryCodeDigestPrefix : Bytes := ascii "TALENRO-RECOVERY-CODE-V1\x00"

/-! ## E-mail addresses -/

/-- The parts between separators. -/
def splitOn (separator : UInt8) : Bytes → List Bytes
  | [] => [[]]
  | c :: rest =>
    match splitOn separator rest with
    | [] => [[c]]
    | part :: parts => if c = separator then [] :: part :: parts else (c :: part) :: parts

def isLetterOrDigit (c : UInt8) : Bool :=
  (0x61 ≤ c && c ≤ 0x7a) || (0x41 ≤ c && c ≤ 0x5a) || (0x30 ≤ c && c ≤ 0x39)

/-- SOURCE: email.go:91-96 -/
def isEmailAtomASCII (c : UInt8) : Bool :=
  isLetterOrDigit c || (ascii "!#$%&'*+-/=?^_\x60\x7b|\x7d~").contains c

/-- Whether a valid UTF-8 text holds a control or space character outside ASCII:
U+0080 to U+00A0, U+1680, U+2000 to U+200A, U+2028, U+2029, U+202F, U+205F, U+3000. -/
def hasWideBlank : Bytes → Bool
  | 0xc2 :: c :: rest => (0x80 ≤ c && c ≤ 0xa0) || hasWideBlank rest
  | 0xe1 :: 0x9a :: 0x80 :: _ => true
  | 0xe2 :: 0x80 :: c :: rest =>
    (0x80 ≤ c && c ≤ 0x8a) || c == 0xa8 || c == 0xa9 || c == 0xaf || hasWideBlank rest
  | 0xe2 :: 0x81 :: 0x9f :: _ => true
  | 0xe3 :: 0x80 :: 0x80 :: _ => true
  | _ :: rest => hasWideBlank rest
  | [] => false

/-- SOURCE: email.go:72-89 -/
def validEmailLocal (text : Bytes) : Bool :=
  decide (1 ≤ text.length ∧ text.length ≤ 64) && (splitOn 0x2e text).all (· != []) &&
    !hasWideBlank text && text.all fun c => decide (0x80 ≤ c) || isEmailAtomASCII c || c == 0x2e

/-- SOURCE: email.go:98-116 -/
def validEmailDomain (text : Bytes) : Bool :=
  decide (1 ≤ text.length ∧ text.length ≤ 253) && (splitOn 0x2e text).all fun label =>
    decide (1 ≤ label.length ∧ label.length ≤ 63) && label.head? != some 0x2d &&
      label.getLast? != some 0x2d && label.all fun c => isLetterOrDigit c || c == 0x2d

/-- `CanonicalizeEmail`: only the domain is folded to lower case.

SOURCE: email.go:28-55 -/
def canonicalizeEmail (value : Bytes) : Option Bytes := do
  guard (3 ≤ value.length ∧ value.length ≤ 254 ∧ Utf8.valid value ∧ 0 ∉ value)
  match splitOn 0x40 value with
  | [text, domain] =>
    guard (validEmailLocal text ∧ validEmailDomain domain)
    pure (text ++ 0x40 :: domain.map fun c => if 0x41 ≤ c ∧ c ≤ 0x5a then c + 0x20 else c)
  | _ => none

/-! ## Recovery codes -/

/-- The value of a character of the RFC 4648 base 32 alphabet. -/
def decodeBase32 (c : UInt8) : Option ℕ :=
  if 0x41 ≤ c ∧ c ≤ 0x5a then some (c.toNat - 0x41)
  else if 0x32 ≤ c ∧ c ≤ 0x37 then some (c.toNat - 0x32 + 26)
  else none

/-- `recoveryCodeDigest`: eight groups of four characters, which spell twenty octets.  The
32 characters carry exactly 160 bits, so that encoding the octets again gives the code; a
line break, which the decoder of the library skips, leaves too few octets.

SOURCE: recovery.go:370-396 -/
def recoveryCodeDigest (code : Bytes) : Option Bytes := do
  guard (code.length = 39)
  let parts := splitOn 0x2d code
  guard (parts.length = 8 ∧ ∀ part ∈ parts, part.length = 4)
  let digits ← (parts.flatMap id).mapM decodeBase32
  let raw := bigEndian recoveryCodeBytes (digits.foldl (fun n d => 32 * n + d) 0)
  pure (Sha256.sha256 (recoveryCodeDigestPrefix ++ raw))

/-- SOURCE: recovery.go:457-479 -/
def validRecoveryHashCount (hashes : List Bytes) (count : ℕ) : Bool :=
  decide (count ≤ recoveryCodeCount ∧ hashes.length = count) &&
    hashes.all (fun hash => decide (hash.length = 32) && hash != zeroDigest) && decide hashes.Nodup

/-- SOURCE: recovery.go:448-451 -/
def validRecoveryCodeSet (id : UUID) (set : RecoveryCodeSetRow) (principalID : UUID) : Bool :=
  id != UUID.zero && set.principalID == principalID && decide (1 ≤ set.generation) &&
    set.state == .active && decide (1 ≤ set.codeHashes.length) &&
    validRecoveryHashCount set.codeHashes set.codeHashes.length

/-! ## Session tokens -/

/-- SOURCE: repository.go:230-236 -/
structure SessionTokens where
  accessToken : Octets 32
  accessExpiresAt : Instant
  refreshToken : Octets 32
  refreshIdleExpiresAt : Instant
  refreshAbsoluteExpiresAt : Instant
deriving DecidableEq

/-- SOURCE: email_verification.go:685-691 -/
structure SessionTokensReplay where
  accessToken : Bytes
  accessExpiresAt : Bytes
  refreshToken : Bytes
  refreshIdleExpiresAt : Bytes
  refreshAbsoluteExpiresAt : Bytes

def SessionTokensReplay.fields : List (Json.Field SessionTokensReplay) :=
  [stringField (ascii "access_token") fun v r => { r with accessToken := v },
   stringField (ascii "access_expires_at") fun v r => { r with accessExpiresAt := v },
   stringField (ascii "refresh_token") fun v r => { r with refreshToken := v },
   stringField (ascii "refresh_idle_expires_at") fun v r => { r with refreshIdleExpiresAt := v },
   stringField (ascii "refresh_absolute_expires_at") fun v r =>
     { r with refreshAbsoluteExpiresAt := v }]

section Codec

variable (P : Platform)

/-- SOURCE: email_verification.go:693-709 -/
def encodeSessionTokens (tokens : SessionTokens) : Option Bytes := do
  let body := marshal ((Json.Tree.obj
    [(ascii "access_token", .str (encodeOpaqueToken tokens.accessToken)),
     (ascii "access_expires_at", .str (P.timeFormat tokens.accessExpiresAt)),
     (ascii "refresh_token", .str (encodeOpaqueToken tokens.refreshToken)),
     (ascii "refresh_idle_expires_at", .str (P.timeFormat tokens.refreshIdleExpiresAt)),
     (ascii "refresh_absolute_expires_at", .str (P.timeFormat tokens.refreshAbsoluteExpiresAt))]).map
    quote)
  guard (body.length ≤ maximumPrivateReplayBytes)
  pure body

/-- SOURCE: email_verification.go:711-745 -/
def decodeSessionTokens (body : Bytes) : Option SessionTokens := do
  let payload ← Trust.strictDecode body maximumPrivateReplayBytes
    (Trust.flatSchema SessionTokensReplay.fields)
    (decodeStruct SessionTokensReplay.fields ⟨[], [], [], [], []⟩)
  let access ← decodeOpaqueToken payload.accessToken
  let refresh ← decodeOpaqueToken payload.refreshToken
  let accessExpiresAt ← P.timeParse payload.accessExpiresAt
  let refreshIdleExpiresAt ← P.timeParse payload.refreshIdleExpiresAt
  let refreshAbsoluteExpiresAt ← P.timeParse payload.refreshAbsoluteExpiresAt
  guard (accessExpiresAt ≠ 0 ∧ refreshIdleExpiresAt ≠ 0 ∧ refreshAbsoluteExpiresAt ≠ 0 ∧
    accessExpiresAt ≤ refreshIdleExpiresAt ∧ refreshIdleExpiresAt ≤ refreshAbsoluteExpiresAt)
  pure ⟨access, accessExpiresAt, refresh, refreshIdleExpiresAt, refreshAbsoluteExpiresAt⟩

end Codec

/-! ## Proofs -/

/-- SOURCE: session.go:136-142 -/
def rotationString (value : Bytes) : Bytes := bigEndian 4 value.length ++ value

end Talenro.Identity
