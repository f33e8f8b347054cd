import Talenro.Model.Identity.Credentials

/-!
# The queries of the identity service

Each query of `db/queries/identity.sql` that a session depends on, as a program.  A query
over several rows sees one snapshot of the tables (`scan`); a query `FOR UPDATE` then locks
the rows it found in the order in which it returns them, and returns each as it is once it
is locked.
-/

set_option autoImplicit false

namespace Talenro.Identity

open Lib Lib.Calendar Idempotency Calls

/-! ## Tables of a snapshot -/

def recoveryCodeSetOf : ((k : Key) × Row k) → Option (UUID × RecoveryCodeSetRow)
  | ⟨.recoveryCodeSet id, row⟩ => some (id, row)
  | _ => none

section Queries

variable (P : Platform) {κ : Type}

/-! ## Reading and locking -/

/-- SOURCE: db/queries/identity.sql:5-6 -/
def getAccountForUpdate (id : UUID) : Body P κ (Option AccountRow) := ask P (.lock (.account id))

/-- SOURCE: db/queries/identity.sql:11-12 -/
def findIdentityByLookupDigestRead (digest : Bytes) : Body P κ (Option UUID) :=
  ask P (.get (.emailIdentity digest))

/-- The first active set, which need not be the only one as far as the table knows.

SOURCE: db/queries/identity.sql:295-297 -/
def getActiveRecoveryCodeSetForUpdate (principalID : UUID) :
    Body P κ (Option (UUID × RecoveryCodeSetRow)) := do
  let snapshot ← ask P .scan
  let eligible (row : RecoveryCodeSetRow) : Bool :=
    row.principalID == principalID && row.state == .active
  let found := (snapshot.filterMap recoveryCodeSetOf).filter fun set => eligible set.2
  let locked ← lockEach P Key.recoveryCodeSet (fun _ row => row) eligible (found.map Prod.fst)
  pure locked.head?

/-! ## Writing -/

/-- SOURCE: db/queries/identity.sql:56-60 -/
def createAccountSession (id principalID : UUID) (clientSigningPublicKey accessTokenHash : Bytes)
    (accessExpiresAt absoluteExpiresAt : Instant) : Body P κ Unit :=
  insertRow P (.accountSession id)
    { principalID := principalID
      state := .active
      stateVersion := 1
      clientSigningPublicKey := clientSigningPublicKey
      accessTokenHash := accessTokenHash
      accessExpiresAt := timestamptz accessExpiresAt
      absoluteExpiresAt := timestamptz absoluteExpiresAt
      deviceAuthorizationID := none }

/-- SOURCE: db/queries/identity.sql:202-205 -/
def insertAccountRefreshToken (tokenHash : Bytes) (sessionID : UUID)
    (previousTokenHash : Option Bytes) (issuedAt idleExpiresAt absoluteExpiresAt : Instant) :
    Body P κ Unit :=
  insertRow P (.accountRefreshToken tokenHash)
    { sessionID := sessionID
      previousTokenHash := previousTokenHash
      state := .active
      issuedAt := timestamptz issuedAt
      idleExpiresAt := timestamptz idleExpiresAt
      absoluteExpiresAt := timestamptz absoluteExpiresAt
      usedAt := none
      revokedAt := none }

/-- SOURCE: db/queries/identity.sql:96-100 -/
def markUsed (usedAt : Instant) (row : AccountRefreshTokenRow) : Option AccountRefreshTokenRow :=
  if row.state = .active then some { row with state := .used, usedAt := some (timestamptz usedAt) }
  else none

/-- SOURCE: db/queries/identity.sql:214-217 -/
def revokeToken (revokedAt : Instant) (row : AccountRefreshTokenRow) :
    Option AccountRefreshTokenRow :=
  if row.state = .active then
    some { row with state := .revoked, revokedAt := some (timestamptz revokedAt) }
  else none

/-- A session that still counts is ended.

SOURCE: db/queries/identity.sql:115-120, 219-222 -/
def endSession (state : SessionState) (row : AccountSessionRow) : Option AccountSessionRow :=
  if row.state = .active ∨ row.state = .reviewRequired then
    some { row with state := state, stateVersion := row.stateVersion + 1 }
  else none

/-- SOURCE: db/queries/identity.sql:224-227 -/
def reviewSession (row : AccountSessionRow) : Option AccountSessionRow :=
  if row.state = .active then
    some { row with state := .reviewRequired, stateVersion := row.stateVersion + 1 }
  else none

/-- SOURCE: db/queries/identity.sql:207-212 -/
def rotateAccess (accessTokenHash : Bytes) (accessExpiresAt updatedAt : Instant)
    (row : AccountSessionRow) : Option AccountSessionRow :=
  if row.state = .active ∧ timestamptz updatedAt ≤ row.absoluteExpiresAt then
    some { row with
      accessTokenHash := accessTokenHash
      accessExpiresAt := timestamptz accessExpiresAt
      stateVersion := row.stateVersion + 1 }
  else none

/-- The set without a code; without its last code it is exhausted.

SOURCE: db/queries/identity.sql:299-305 -/
def removeCode (digest : Bytes) (set : RecoveryCodeSetRow) : Option RecoveryCodeSetRow :=
  if set.state = .active ∧ digest ∈ set.codeHashes then
    let rest := set.codeHashes.filter (· != digest)
    some { set with codeHashes := rest, state := if rest = [] then .exhausted else set.state }
  else none

/-- SOURCE: db/queries/identity.sql:299-305 -/
def consumeRecoveryCodeRow (id : UUID) (digest : Bytes) : Body P κ (Option RecoveryCodeSetRow) :=
  ask P (.update (.recoveryCodeSet id) (removeCode digest))

end Queries

end Talenro.Identity
