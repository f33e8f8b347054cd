import Talenro.Model.Idempotency

/-!
# What the application services share

The identity and the device service are written alike: a call checks its command, does
its work in one or more transactions, and answers with a value or with an error of the
API.  This file holds what both use: how calls fail, opaque tokens, request digests, the
clock, the idempotency record as a step of a call, and statements over several rows.

Sources named without a directory are in `internal/identity`.
-/

set_option autoImplicit false

namespace Talenro.Calls

open Lib Lib.Calendar Idempotency

/-- Why a transaction of a call stops.  A preflight transaction that has found what the
call needs is rolled back with a marker error; what it found is kept outside.

SOURCE: session.go:92, postgres_repository.go -/
inductive Failure (κ : Type) where
  | api (code : ApiError)
  | repository
  | preflight (found : κ)

/-- SOURCE: register.go:549-558 -/
def mapApplicationError {κ : Type} : Failure κ → ApiError
  | .api code => code
  | .repository | .preflight _ => .dependencyUnavailable

/-- A call, or a part of one. -/
abbrev Call (P : Platform) (α : Type) : Type := ExceptT ApiError (Prog Op (Res P)) α

/-- The body of a transaction that can stop with a marker. -/
abbrev Body (P : Platform) (κ α : Type) : Type := ExceptT (Failure κ) (Prog Op (Res P)) α

/-! ## Tokens -/

/-- SOURCE: internal/securitykit/token.go:21-46 -/
inductive TokenDomain where
  | accountAccess
  | accountRefresh
  | deviceAccess
  | deviceRefresh
  | enrollmentGrant

/-- SOURCE: internal/securitykit/token.go:21-46 -/
def TokenDomain.text : TokenDomain → Bytes
  | .accountAccess => ascii "talenro/account-access/v1"
  | .accountRefresh => ascii "talenro/account-refresh/v1"
  | .deviceAccess => ascii "talenro/device-access/v1"
  | .deviceRefresh => ascii "talenro/device-refresh/v1"
  | .enrollmentGrant => ascii "talenro/enrollment-grant/v1"

/-- SOURCE: internal/securitykit/token.go:13-19 -/
def tokenDigestPrefix : Bytes := ascii "TALENRO-TOKEN-DIGEST-V1\x00"

/-- `DigestToken` of a token of thirty-two octets.

SOURCE: internal/securitykit/token.go:126-146 -/
def digestToken (domain : TokenDomain) (raw : Octets 32) : Bytes :=
  Sha256.sha256 (tokenDigestPrefix ++ domain.text ++ 0 :: raw.1)

/-- `EncodeOpaqueToken` of a token of thirty-two octets.

SOURCE: internal/securitykit/token.go:93-101 -/
def encodeOpaqueToken (raw : Octets 32) : Bytes := Base64Url.encode raw.1

/-- SOURCE: internal/securitykit/token.go:103-124 -/
def decodeOpaqueToken (value : Bytes) : Option (Octets 32) :=
  match Base64Url.decodeCanonical value with
  | some decoded => if h : decoded.length = 32 then some ⟨decoded, h⟩ else none
  | none => none

/-! ## Requests -/

/-- The material of a request digest: the operation and the parts, each after its length.

SOURCE: register.go:405-440, reauth.go:81-120 -/
def requestMaterial (operation : Operation) (parts : List Bytes) : Bytes :=
  bigEndian 4 (operationName operation).length ++ operationName operation ++
    bigEndian 4 parts.length ++ parts.flatMap fun part => bigEndian 4 part.length ++ part

/-- The keyed digest of a request, which stands for its canonical form.

SOURCE: register.go:405-440, reauth.go:81-120 -/
def canonicalRequest (lookupDigest : Bytes → Bytes → Octets 32) (domain : Bytes)
    (operation : Operation) (parts : List Bytes) : Option Bytes := do
  guard (parts ≠ [] ∧ ∀ part ∈ parts, part.length < 2 ^ 32)
  let digest := (lookupDigest domain (requestMaterial operation parts)).1
  guard (digest ≠ zeroDigest)
  pure digest

/-! ## Answers found in a record -/

section Outcomes

variable {κ : Type}

/-- SOURCE: register.go:545-547 -/
def unavailable : Failure κ := .api .dependencyUnavailable

/-- The body of a stored response that an identical request repeats.

SOURCE: email_verification.go:665-683 -/
def privateIdempotencyOutcome (outcome : Outcome) (status : ℕ) : Except (Failure κ) Bytes :=
  match outcome with
  | .started => .error unavailable
  | .replay stored body => if stored = status ∧ body ≠ [] then .ok body else .error unavailable
  | .conflict => .error (.api .idempotencyConflict)
  | .inProgress => .error (.api .stateConflict)

end Outcomes

/-! ## Steps of a call -/

section Programs

variable (P : Platform) {κ α ι ρ : Type}

/-- SOURCE: register.go:531-534 -/
def validClock (t : Instant) : Bool :=
  let year := (dateOfDays (t / day)).year
  t != 0 && decide (2020 ≤ year ∧ year ≤ 2100)

/-- `service.now`, in a call that stops with `e` when the clock is not usable.

SOURCE: register.go:531-534 -/
def now {ε : Type} (e : ε) : ExceptT ε (Prog Op (Res P)) Instant := do
  let time ← Prog.perform Op.clock
  Prog.ofExcept (require (validClock time.instant) e)
  pure time.instant

/-- A statement; its callers turn a failure of the repository into the same error. -/
def ask (q : Statement Key Row) : Body P κ q.Answer := query P unavailable q

/-- A transaction of a call. -/
def transaction (body : Body P Empty α) : Call P α :=
  Prog.mapError mapApplicationError (withinTransaction P .repository body)

/-- `NewOpaqueToken`.

SOURCE: internal/securitykit/token.go:57-70 -/
def newOpaqueToken : Body P κ (Octets 32) := do
  let token ← Prog.perform (Op.random 32)
  Prog.ofExcept (orThrow token unavailable)

/-- A new identifier that is not `uuid.Nil`. -/
def newID : Body P κ UUID := do
  let id ← Prog.perform Op.newUUID
  Prog.ofExcept (require (id ≠ UUID.zero) unavailable)
  pure id

/-- SOURCE: postgres_repository.go:413-422 -/
def beginIdempotency (scope : Option Scope) (key canonical : Bytes) (createdAt expiresAt : Instant) :
    Body P κ (Record × Outcome) := do
  let scope ← Prog.ofExcept (orThrow scope unavailable)
  Prog.mapError (fun _ => unavailable) (beginRecord P scope key canonical createdAt expiresAt)

/-- SOURCE: postgres_repository.go:424-438 -/
def completeIdempotency (record : Record) (status : ℕ) (body : Bytes) : Body P κ Unit :=
  Prog.mapError (fun _ => unavailable) (completeRecord P record status body)

/-- The row is inserted; a key that is taken is a failure. -/
def insertRow (k : Key) (row : Row k) : Body P κ Unit := do
  let inserted ← ask P (.insert k row)
  Prog.ofExcept (require (inserted = true) unavailable)

/-- `SELECT … FOR UPDATE` over several rows: they have been found by a scan and are locked
one after the other; each is returned as it is then, if it still satisfies the condition. -/
def lockEach (key : ι → Key) (read : (i : ι) → Row (key i) → ρ) (keep : ρ → Bool) :
    List ι → Body P κ (List (ι × ρ))
  | [] => pure []
  | i :: rest => do
    let found ← ask P (.lock (key i))
    let others ← lockEach key read keep rest
    match found with
    | some row => pure (if keep (read i row) then (i, read i row) :: others else others)
    | none => pure others

end Programs

end Talenro.Calls
