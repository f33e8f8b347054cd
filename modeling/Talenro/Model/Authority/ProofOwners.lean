import Talenro.Model.Authority.StoredFence

/-!
# Proof owners beside their fences

The owner of an operation is a row of one of eight tables of the domain; grants and incidents
have two proofs, each for an operation of its own.  Which owners a fence can have is governed by
the guard on the owners' tables and by the closure that is checked when a transaction that
updated a fence commits.  A claimed or aborted fence has none, a bound fence has one that carries
only the commitment, and a committed fence has at most one, whose proof is terminal and which can
be deleted once its retention has elapsed.
-/

set_option autoImplicit false

namespace Talenro.Authority

open Lib Lib.Calendar

/-- SOURCE: db/migrations/assets/nodecontrol_authority_v7_up.sql:1337-1343 -/
inductive ProofPhase where
  | legacy
  | commitment
  | terminal
deriving DecidableEq

/-- SOURCE: db/migrations/assets/nodecontrol_authority_v7_up.sql:1337-1343 -/
def ProofGroup.phase (group : ProofGroup) : ProofPhase :=
  if group.allNull then .legacy
  else if group.commitmentJCS.isSome && group.commitmentDigest.isSome &&
      group.terminalProofAbsent then .commitment
  else .terminal

/-- What the fence of an owner is compared with, and its proof. -/
structure ProofOwner where
  operationID : UUID
  effectKind : EffectKind
  proof : ProofGroup
deriving DecidableEq

/-- The kinds of operations that a fence of the profile `claim_v1` can have.

SOURCE: db/migrations/assets/nodecontrol_authority_v7_up.sql:2968-2973 -/
def claimV1Kind : EffectKind → Bool
  | .grantCreate | .grantClaim | .certificateActivate | .certificateRevoke
  | .identityEpochAdvance | .operatorTransition | .securityIncidentOpen
  | .securityIncidentResolve | .resourceEnvelopeActivate | .desiredActivate | .recoveryActivate
  | .rootPublish | .metadataPublish => true
  | .trustBundlePublish | .operatorAuthorizerChange => false

/-- The owners that a fence of the profile `claim_v1` can have.

SOURCE: db/migrations/assets/nodecontrol_authority_v7_up.sql:912-940 -/
def ownersAdmitted (row : FenceRow) (owners : List ProofOwner) : Prop :=
  match row.providerStatus with
  | .aborted => owners = []
  | .committed => owners.length ≤ 1 ∧ ∀ owner ∈ owners, owner.proof.phase = .terminal ∧
      owner.proof.commitmentDigest = row.effectDigest.map Subtype.val
  | .reserved =>
    if row.effectDigest.isSome then
      ∃ owner, owners = [owner] ∧ owner.proof.phase = .commitment ∧
        owner.proof.commitmentDigest = row.effectDigest.map Subtype.val
    else if row.abortClaimedAt.isSome then owners = []
    else owners.length ≤ 1 ∧ ∀ owner ∈ owners, owner.proof.phase ≠ .terminal

/-- Fences and proof owners. -/
structure ClaimDatabase where
  fences : UUID → Option FenceRow
  owners : List ProofOwner

namespace ClaimDatabase

def ownersOf (db : ClaimDatabase) (operationID : UUID) : List ProofOwner :=
  db.owners.filter fun owner => owner.operationID = operationID

/-- The answers to the queries of a reader that is not disturbed.

SOURCE: db/queries/nodecontrol_authority.sql:59-63, 269-447 -/
def answers (db : ClaimDatabase) : (o : StoredFence.Op) → StoredFence.Res o
  | .contextError => false
  | .getStoredAuthorityFence operationID => some (db.fences operationID)
  | .lockAuthorityFence operationID => some (db.fences operationID)
  | .lockOutcome group operationID => some (((db.ownersOf operationID).find? fun owner =>
      ownerGroup owner.effectKind = some group).map ProofOwner.proof)

/-- A state that the database admits for a fence of the profile `claim_v1`. -/
structure Admits (db : ClaimDatabase) (operationID : UUID) (row : FenceRow) : Prop where
  stored : db.fences operationID = some row
  check : fenceCheck row = true
  profile : row.authorityProtocolProfile = .claimV1
  kind : claimV1Kind row.effectKind = true
  proofs : ∀ owner ∈ db.ownersOf operationID, proofGroupValid owner.proof = true
  kinds : ∀ owner ∈ db.ownersOf operationID, owner.effectKind = row.effectKind
  owners : ownersAdmitted row (db.ownersOf operationID)

end ClaimDatabase

end Talenro.Authority
