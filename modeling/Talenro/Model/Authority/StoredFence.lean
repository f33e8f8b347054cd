import Talenro.Lib.Answers
import Talenro.Model.Authority.Evidence
import Talenro.Model.Authority.Fences

/-!
# Reading a stored fence

Under the profile `claim_v1` a fence is accompanied by a proof owner: a row of the domain that
carries the commitment to the effect and, once the fence is committed, the artifacts of the
outcome.  The artifacts are fourteen columns of the owner, of which the database admits some
combinations (`proofGroupValid`).  `GetStoredFence` and `Lock` read the fence, then the owner of
its kind, and rebuild the outcome from the columns.

Sources named without a directory are in `internal/nodecontrol/authority`.
-/

set_option autoImplicit false

namespace Talenro.Authority

open Lib Lib.Calendar

/-! ## Proof groups -/

/-- The columns of a proof, all of which can be null.

SOURCE: postgres_repository.go:660-675 -/
structure ProofGroup where
  commitmentJCS : Option Bytes
  commitmentDigest : Option Bytes
  providerHeadJCS : Option Bytes
  providerHeadDigest : Option Bytes
  checkpointAnchorJCS : Option Bytes
  checkpointAnchorDigest : Option Bytes
  effectReason : Option AuthorityEffectReason
  attestationExpiresAt : Option Instant
  activationDeadline : Option Instant
  expectedProviderIdentityDigest : Option Bytes
  activationEvidenceJCS : Option Bytes
  activationEvidenceDigest : Option Bytes
  effectResolutionJCS : Option Bytes
  effectResolutionDigest : Option Bytes
deriving DecidableEq

namespace ProofGroup

variable (group : ProofGroup)

/-- The columns that only a terminal proof has are null.

SOURCE: postgres_repository.go:780-783 -/
def terminalProofAbsent : Bool :=
  group.providerHeadJCS.isNone && group.providerHeadDigest.isNone &&
    group.checkpointAnchorJCS.isNone && group.checkpointAnchorDigest.isNone &&
    group.effectReason.isNone && group.attestationExpiresAt.isNone &&
    group.activationDeadline.isNone && group.expectedProviderIdentityDigest.isNone &&
    group.activationEvidenceJCS.isNone && group.activationEvidenceDigest.isNone &&
    group.effectResolutionJCS.isNone && group.effectResolutionDigest.isNone

/-- SOURCE: postgres_repository.go:765-769 -/
def allNull : Bool :=
  group.commitmentJCS.isNone && group.commitmentDigest.isNone && group.terminalProofAbsent

/-- A column of canonical JSON and the column of its digest.

SOURCE: db/migrations/assets/nodecontrol_authority_v7_up.sql:961-976 -/
def pairValid (jcs digest : Option Bytes) : Bool :=
  jcs.isNone == digest.isNone && jcs.all (fun jcs => decide (1 ≤ jcs.length ∧ jcs.length ≤ 4096)) &&
    digest.all fun digest => digest.length == 32

/-- A row of another profile, or one that has only been prepared.

SOURCE: db/migrations/assets/nodecontrol_authority_v7_up.sql:979-987 -/
def legacyShape : Bool :=
  group.commitmentJCS.isNone && group.providerHeadJCS.isNone && group.checkpointAnchorJCS.isNone &&
    group.effectReason.isNone && group.attestationExpiresAt.isNone &&
    group.activationDeadline.isNone && group.expectedProviderIdentityDigest.isNone &&
    group.activationEvidenceJCS.isNone && group.effectResolutionJCS.isNone

/-- SOURCE: db/migrations/assets/nodecontrol_authority_v7_up.sql:990-998 -/
def commitmentShape : Bool :=
  group.commitmentJCS.isSome && group.providerHeadJCS.isNone && group.checkpointAnchorJCS.isNone &&
    group.effectReason.isNone && group.attestationExpiresAt.isNone &&
    group.activationDeadline.isNone && group.expectedProviderIdentityDigest.isNone &&
    group.activationEvidenceJCS.isNone && group.effectResolutionJCS.isNone

/-- The three combinations of a checkpoint, time bounds and a reason.

SOURCE: db/migrations/assets/nodecontrol_authority_v7_up.sql:1006-1028 -/
def terminalBounds (reason : AuthorityEffectReason) : Bool :=
  let noBounds := group.attestationExpiresAt.isNone && group.activationDeadline.isNone &&
    group.expectedProviderIdentityDigest.isNone
  (group.checkpointAnchorJCS.isNone && noBounds && reason != .none) ||
    (group.checkpointAnchorJCS.isSome && noBounds && reason == .superseded) ||
    (group.checkpointAnchorJCS.isNone &&
      group.attestationExpiresAt.any (fun attestationExpiresAt =>
        group.activationDeadline.any fun activationDeadline =>
          reason != .activationDeadlineExpired ||
            decide (activationDeadline < attestationExpiresAt)) &&
      group.expectedProviderIdentityDigest.isSome && reason != .superseded)

/-- SOURCE: db/migrations/assets/nodecontrol_authority_v7_up.sql:1001-1028 -/
def terminalShape : Bool :=
  group.commitmentJCS.isSome && group.providerHeadJCS.isSome &&
    group.activationEvidenceJCS.isSome && group.effectResolutionJCS.isSome &&
    group.effectReason.any group.terminalBounds

end ProofGroup

/-- `v7_authority_proof_group_valid`.

SOURCE: db/migrations/assets/nodecontrol_authority_v7_up.sql:946-1030 -/
def proofGroupValid (group : ProofGroup) : Bool :=
  ProofGroup.pairValid group.commitmentJCS group.commitmentDigest &&
    ProofGroup.pairValid group.providerHeadJCS group.providerHeadDigest &&
    ProofGroup.pairValid group.checkpointAnchorJCS group.checkpointAnchorDigest &&
    ProofGroup.pairValid group.activationEvidenceJCS group.activationEvidenceDigest &&
    ProofGroup.pairValid group.effectResolutionJCS group.effectResolutionDigest &&
    group.expectedProviderIdentityDigest.all (fun digest => digest.length == 32) &&
    (group.legacyShape || group.commitmentShape || group.terminalShape)

/-! ## Rebuilding an outcome -/

/-- SOURCE: repository.go:59-75 -/
structure PersistedAuthorityEffectOutcome where
  commitmentJCS : Bytes
  commitmentDigest : Digest
  receipt : Receipt
  providerHeadJCS : Bytes
  providerHeadDigest : Digest
  checkpointAnchorJCS : Option Bytes
  checkpointAnchorDigest : Digest
  reason : AuthorityEffectReason
  attestationExpiresAt : Instant
  activationDeadline : Instant
  expectedProviderIdentityDigest : Digest
  evidenceJCS : Bytes
  evidenceDigest : Digest
  resolutionJCS : Bytes
  resolutionDigest : Digest
deriving DecidableEq

/-- SOURCE: repository.go:77-81 -/
structure StoredFence where
  record : Record
  abortClaim : Option AbortClaim
  persistedOutcome : Option PersistedAuthorityEffectOutcome
deriving DecidableEq

/-- SOURCE: postgres_repository.go:842-850 -/
inductive PersistedAuthorityArtifactKind where
  | commitment
  | providerHead
  | checkpoint
  | evidence
  | resolution
deriving DecidableEq

variable (P : ArtifactPlatform)

/-- The digest that the parser of a kind computes.

SOURCE: postgres_repository.go:861-894 -/
def computedDigest (kind : PersistedAuthorityArtifactKind)
    (jcsBytes : Bytes) : Option Digest :=
  match kind with
  | .commitment => (parseAuthorityEffectCommitment P jcsBytes).map Artifact.digest
  | .providerHead => (parseAuthorityProviderHeadSnapshot P jcsBytes).map Artifact.digest
  | .checkpoint => (parseAuthorityCheckpointAnchor P jcsBytes).map Artifact.digest
  | .evidence => (parseActivationDecisionEvidence P jcsBytes).map fun value => value.digest
  | .resolution => (parseAuthorityEffectResolution P jcsBytes).map Artifact.digest

/-- A digest that is stored in a column.

SOURCE: postgres_repository.go:1400-1410 -/
def exactColumnDigest (column : Option Bytes) : Except Error Digest :=
  match column with
  | some value => if h : value.length = 32 then exactDigest ⟨value, h⟩ else throw .injectedFailure
  | none => throw .injectedFailure

/-- SOURCE: postgres_repository.go:852-899 -/
def exactJCSAndDigest (jcsBytes digestBytes : Option Bytes)
    (kind : PersistedAuthorityArtifactKind) : Except Error (Bytes × Digest) := do
  let jcs ← orThrow jcsBytes .injectedFailure
  require (1 ≤ jcs.length ∧ jcs.length ≤ authorityCanonicalMaximumBytes) .injectedFailure
  let stored ← exactColumnDigest digestBytes
  let computed ← orThrow (computedDigest P kind jcs) .injectedFailure
  require (computed = stored) .injectedFailure
  pure (jcs, stored)

/-- The checkpoint of a terminal proof and its time bounds: the reader takes them together.

SOURCE: postgres_repository.go:810-829 -/
def checkpointAndBounds (group : ProofGroup) :
    Except Error (Option Bytes × Digest × Instant × Instant × Digest) :=
  match group.checkpointAnchorJCS, group.checkpointAnchorDigest with
  | none, none => do
    require (group.attestationExpiresAt = none ∧ group.activationDeadline = none ∧
      group.expectedProviderIdentityDigest = none) .injectedFailure
    pure (none, Digest.zero, 0, 0, Digest.zero)
  | jcs, digest => do
    let (jcs, digest) ← (exactJCSAndDigest P jcs digest .checkpoint).mapError
      fun _ => .injectedFailure
    let attestationExpiresAt ← orThrow group.attestationExpiresAt .injectedFailure
    let activationDeadline ← orThrow group.activationDeadline .injectedFailure
    require (attestationExpiresAt ≠ 0 ∧ activationDeadline ≠ 0) .injectedFailure
    let identity ← exactColumnDigest group.expectedProviderIdentityDigest
    pure (some jcs, digest, attestationExpiresAt, activationDeadline, identity)

/-- The outcome of a row whose terminal columns are not all null.

SOURCE: postgres_repository.go:791-839 -/
def terminalOutcome (record : Record) (group : ProofGroup)
    (commitment : Bytes × Digest) : Except Error PersistedAuthorityEffectOutcome := do
  let receipt ← orThrow record.terminalReceipt .injectedFailure
  let reason ← orThrow group.effectReason .injectedFailure
  let (headJCS, headDigest) ← exactJCSAndDigest P group.providerHeadJCS group.providerHeadDigest
    .providerHead
  let (evidenceJCS, evidenceDigest) ← exactJCSAndDigest P group.activationEvidenceJCS
    group.activationEvidenceDigest .evidence
  let (resolutionJCS, resolutionDigest) ← exactJCSAndDigest P group.effectResolutionJCS
    group.effectResolutionDigest .resolution
  let (checkpointJCS, checkpointDigest, attestationExpiresAt, activationDeadline, identity) ←
    checkpointAndBounds P group
  pure
    { commitmentJCS := commitment.1
      commitmentDigest := commitment.2
      receipt := receipt
      providerHeadJCS := headJCS
      providerHeadDigest := headDigest
      checkpointAnchorJCS := checkpointJCS
      checkpointAnchorDigest := checkpointDigest
      reason := reason
      attestationExpiresAt := attestationExpiresAt
      activationDeadline := activationDeadline
      expectedProviderIdentityDigest := identity
      evidenceJCS := evidenceJCS
      evidenceDigest := evidenceDigest
      resolutionJCS := resolutionJCS
      resolutionDigest := resolutionDigest }

/-- SOURCE: postgres_repository.go:764-840 -/
def persistedOutcomeFromDatabaseRow (record : Record) (group : ProofGroup) :
    Except Error (Option PersistedAuthorityEffectOutcome) :=
  if group.allNull then do
    require (record.terminalReceipt = none) .injectedFailure
    pure none
  else do
    let commitment ← exactJCSAndDigest P group.commitmentJCS group.commitmentDigest .commitment
    if group.terminalProofAbsent then do
      require (record.terminalReceipt = none) .injectedFailure
      pure none
    else do
      let outcome ← terminalOutcome P record group commitment
      pure (some outcome)

/-! ## Proof owners -/

/-- The tables of owners, with the two proofs that grants and incidents have.

SOURCE: db/queries/nodecontrol_authority.sql:269-447 -/
inductive OwnerGroup where
  | enrollmentGrantCreate
  | enrollmentGrantClaim
  | certificateIssuanceActivation
  | certificateRevocation
  | stateTransition
  | securityIncidentOpen
  | securityIncidentResolve
  | resourceEnvelopeActivation
  | stateSigningIntentActivation
  | rootMetadataPublishIntentActivation
deriving DecidableEq

/-- Where the owner of an operation of this kind is looked for.

SOURCE: postgres_repository.go:718-751 -/
def ownerGroup : EffectKind → Option OwnerGroup
  | .grantCreate => some .enrollmentGrantCreate
  | .grantClaim => some .enrollmentGrantClaim
  | .certificateActivate => some .certificateIssuanceActivation
  | .certificateRevoke => some .certificateRevocation
  | .identityEpochAdvance | .operatorTransition => some .stateTransition
  | .securityIncidentOpen => some .securityIncidentOpen
  | .securityIncidentResolve => some .securityIncidentResolve
  | .resourceEnvelopeActivate => some .resourceEnvelopeActivation
  | .desiredActivate | .recoveryActivate => some .stateSigningIntentActivation
  | .rootPublish | .metadataPublish => some .rootMetadataPublishIntentActivation
  | .trustBundlePublish | .operatorAuthorizerChange => none

/-! ## Programs -/

namespace StoredFence

/-- What the two methods ask for.  A query fails, finds no row or finds one. -/
inductive Op where
  | contextError
  | getStoredAuthorityFence (operationID : UUID)
  | lockAuthorityFence (operationID : UUID)
  | lockOutcome (group : OwnerGroup) (operationID : UUID)

@[reducible] def Res : Op → Type
  | .contextError => Bool
  | .getStoredAuthorityFence _ => Option (Option FenceRow)
  | .lockAuthorityFence _ => Option (Option FenceRow)
  | .lockOutcome _ _ => Option (Option ProofGroup)

/-- A program that can fail. -/
abbrev Action (α : Type) : Type := ExceptT Error (Prog Op Res) α

/-- Fails, with another error when the context has ended.

SOURCE: postgres_repository.go:1475-1511 -/
def contextOr {α : Type} (e : Error) : Action α := do
  let canceled ← (Prog.perform Op.contextError : Action Bool)
  throw (if canceled then .canceled else e)

/-- A row that is read.

SOURCE: postgres_repository.go:1482-1493 -/
def foundFence : Option (Option FenceRow) → Action FenceRow
  | none => contextOr .injectedFailure
  | some none => contextOr .notFound
  | some (some row) => pure row

/-- SOURCE: postgres_repository.go:711-762 -/
def persistedOutcomeForUpdate (P : ArtifactPlatform) (record : Record) :
    Action (Option PersistedAuthorityEffectOutcome) :=
  match ownerGroup record.reservation.kind with
  | none => pure none
  | some group => do
    let answer ← (Prog.perform (Op.lockOutcome group record.reservation.operationID) :
      Action (Option (Option ProofGroup)))
    match answer with
    | none => contextOr .injectedFailure
    | some none => Prog.ofExcept do
        require (record.terminalReceipt = none) .injectedFailure
        pure none
    | some (some row) => Prog.ofExcept (persistedOutcomeFromDatabaseRow P record row)

/-- A fence with its outcome, from the row that a query found.

SOURCE: postgres_repository.go:211-226, 233-249 -/
def fromAnswer (P : ArtifactPlatform) (operationID : UUID) (answer : Option (Option FenceRow)) :
    Action StoredFence := do
  let row ← foundFence answer
  let (record, claim) ← (Prog.ofExcept (storedFenceFromV7Row P.toPlatform operationID row) :
    Action (Record × Option AbortClaim))
  if row.authorityProtocolProfile = .claimV1 then do
    let outcome ← persistedOutcomeForUpdate P record
    pure ⟨record, claim, outcome⟩
  else pure ⟨record, claim, none⟩

/-- SOURCE: postgres_repository.go:1468-1480 -/
def callCheck (valid : Bool) : Action Unit := do
  let canceled ← (Prog.perform Op.contextError : Action Bool)
  if canceled || !valid then contextOr .invalidArgument else pure ()

end StoredFence

/-- SOURCE: postgres_repository.go:206-226 -/
def getStoredFence (operationID : UUID) : StoredFence.Action StoredFence := do
  StoredFence.callCheck (validOperationID operationID)
  let answer ← (Prog.perform (StoredFence.Op.getStoredAuthorityFence operationID) :
    StoredFence.Action (Option (Option FenceRow)))
  StoredFence.fromAnswer P operationID answer

/-- In the caller's transaction.

SOURCE: postgres_repository.go:228-249 -/
def lock (operationID : UUID) : StoredFence.Action StoredFence := do
  StoredFence.callCheck (validOperationID operationID)
  let answer ← (Prog.perform (StoredFence.Op.lockAuthorityFence operationID) :
    StoredFence.Action (Option (Option FenceRow)))
  StoredFence.fromAnswer P operationID answer

end Talenro.Authority
