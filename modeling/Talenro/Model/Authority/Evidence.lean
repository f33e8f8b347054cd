import Talenro.Lib.Checks
import Talenro.Model.Authority.Artifacts

/-!
# Evidence and resolution of a committed effect

Once the provider has committed an operation it is decided whether the effect is applied.  The
evidence of the decision names the commitment, the provider's head at that time and, as the case
may be, a checkpoint of a later operation or a trusted time with its bounds.  The resolution says
how the decision went and what anchors it.  Which checkpoint, time, capability and anchor go with
which reason is fixed by two matrices, `validateEvidenceTimeAndMatrix` and
`validateResolutionMatrix`.

Evidence with a trusted time carries an admission, which can be consumed once and only for a short
time.  Evidence that was parsed has none.

Sources named without a directory are in `internal/nodecontrol/authority`.
-/

set_option autoImplicit false

namespace Talenro.Authority

open Lib Lib.Json Lib.Calendar

/-! ## Kinds -/

/-- SOURCE: activation_evidence.go:15-20 -/
inductive TrustedTimeKind where
  | none
  | rollbackResistant
deriving DecidableEq

/-- SOURCE: activation_evidence.go:18-19 -/
def TrustedTimeKind.text : TrustedTimeKind → Bytes
  | none => ascii "none"
  | rollbackResistant => ascii "rollback_resistant"

def TrustedTimeKind.all : List TrustedTimeKind := [none, rollbackResistant]

/-- SOURCE: activation_evidence.go:22-27 -/
inductive DecisionCapability where
  | mayApply
  | notAppliedOnly
deriving DecidableEq

/-- SOURCE: activation_evidence.go:25-26 -/
def DecisionCapability.text : DecisionCapability → Bytes
  | mayApply => ascii "may_apply"
  | notAppliedOnly => ascii "not_applied_only"

def DecisionCapability.all : List DecisionCapability := [mayApply, notAppliedOnly]

/-- SOURCE: activation_evidence.go:67-73 -/
inductive ActivationEvidenceOrigin where
  | none
  | fresh
  | parsed
deriving DecidableEq

/-! ## Evidence -/

/-- SOURCE: activation_evidence.go:29-43 -/
structure ActivationDecisionMaterial where
  commitment : AuthorityEffectCommitment
  reason : AuthorityEffectReason
  checkpointKind : CheckpointKind
  checkpointScopeDigest : Digest
  trustedTimeKind : TrustedTimeKind
  trustedInstant : Time
  evidenceValidUntil : Time
  attestationExpiresAt : Time
  activationDeadline : Time
  providerIdentityDigest : Digest
  expectedProviderIdentityDigest : Digest
  floorAttestationDigest : Digest
  capability : DecisionCapability

/-- SOURCE: activation_evidence.go:45-50 -/
structure ActivationDecisionEvidenceInput where
  material : ActivationDecisionMaterial
  receipt : Receipt
  providerHead : AuthorityProviderHeadSnapshot
  checkpoint : Option AuthorityCheckpointAnchor

/-- The times are in UTC, and zero when there is none.

SOURCE: activation_evidence.go:52-65 -/
structure ActivationDecisionEvidenceFacts where
  operationID : UUID
  commitmentDigest : Digest
  providerHeadDigest : Digest
  checkpointKind : CheckpointKind
  checkpointScopeDigest : Digest
  checkpointDigest : Digest
  trustedTimeKind : TrustedTimeKind
  trustedInstant : Instant
  evidenceValidUntil : Instant
  providerIdentityDigest : Digest
  floorAttestationDigest : Digest
  capability : DecisionCapability
deriving DecidableEq

/-- The state of an admission is shared by all that hold it; here it is the state at the time of a
call.

SOURCE: activation_evidence.go:75-82 -/
structure ActivationAdmission where
  consumed : Bool
  operationID : UUID
  commitmentDigest : Digest
  evidenceDigest : Digest
  deadline : Instant
deriving DecidableEq

/-- SOURCE: activation_evidence.go:84-90 -/
structure ActivationDecisionEvidence extends Artifact ActivationDecisionEvidenceFacts where
  origin : ActivationEvidenceOrigin
  admission : Option ActivationAdmission

/-- SOURCE: activation_evidence.go:92-98 -/
structure ValidatedActivationDecisionEvidence where
  evidence : ActivationDecisionEvidence
  input : ActivationDecisionEvidenceInput
  origin : ActivationEvidenceOrigin
  admission : Option ActivationAdmission
  valid : Bool

/-! ### Times -/

/-- The year of an instant. -/
def instantYear (t : Instant) : ℤ := (dateOfDays (t / day)).year

variable (P : ArtifactPlatform)

/-- SOURCE: activation_evidence.go:538-545 -/
def canonicalInstant (value : Time) : Bool :=
  value.instant != 0 && value.utc &&
    decide (1 ≤ instantYear value.instant ∧ instantYear value.instant ≤ 9999) &&
    P.timeParse (P.timeFormat value.instant) == some value.instant &&
    (P.timeFormat value.instant).getLast? == some 0x5a

/-- SOURCE: activation_evidence.go:554-560 -/
def parseCanonicalInstant (text : Bytes) : Option Time := do
  guard (text.getLast? = some 0x5a)
  let instant ← P.timeParse text
  let value : Time := ⟨instant, true⟩
  guard (P.timeFormat instant = text ∧ canonicalInstant P value)
  pure value

/-- SOURCE: activation_evidence.go:562-568 -/
def addCanonicalDuration (value : Time) (duration : ℤ) : Option Time := do
  guard (0 < duration ∧ canonicalInstant P value)
  let result : Time := { value with instant := value.instant + duration }
  guard (value.instant < result.instant ∧ canonicalInstant P result)
  pure result

/-- SOURCE: activation_evidence.go:570-576 -/
def addCaptureDuration (value : Instant) (duration : ℤ) : Option Instant := do
  guard (value ≠ 0 ∧ 0 < duration)
  let result := value + duration
  guard (value < result ∧ 1 ≤ instantYear result ∧ instantYear result ≤ 9999)
  pure result

/-- SOURCE: activation_evidence.go:578-583 -/
def earlierInstant (left right : Instant) : Instant := if left < right then left else right

/-! ### Building evidence -/

/-- SOURCE: activation_evidence.go:13 -/
def activationDecisionEvidenceDomain : Bytes :=
  ascii "talenro.nodecontrol.activation-decision-evidence.v1\x00"

/-- SOURCE: activation_evidence.go:100-114, 489-502 -/
def activationEvidenceWire (facts : ActivationDecisionEvidenceFacts) :
    List (Bytes × Bytes) :=
  let timeText := fun t =>
    if facts.trustedTimeKind = .rollbackResistant then P.timeFormat t else []
  [(ascii "checkpoint_digest", digestString facts.checkpointDigest),
   (ascii "checkpoint_kind", facts.checkpointKind.text),
   (ascii "checkpoint_scope_digest", digestString facts.checkpointScopeDigest),
   (ascii "commitment_digest", digestString facts.commitmentDigest),
   (ascii "decision_capability", facts.capability.text),
   (ascii "evidence_valid_until", timeText facts.evidenceValidUntil),
   (ascii "floor_attestation_digest", digestString facts.floorAttestationDigest),
   (ascii "operation_id", P.uuidString facts.operationID),
   (ascii "provider_head_digest", digestString facts.providerHeadDigest),
   (ascii "provider_identity_digest", digestString facts.providerIdentityDigest),
   (ascii "schema_version", ascii "1"),
   (ascii "trusted_instant", timeText facts.trustedInstant),
   (ascii "trusted_time_kind", facts.trustedTimeKind.text)]

/-- SOURCE: activation_evidence.go:100-114 -/
def activationDecisionEvidenceNames : List Bytes :=
  [ascii "checkpoint_digest", ascii "checkpoint_kind", ascii "checkpoint_scope_digest",
   ascii "commitment_digest", ascii "decision_capability", ascii "evidence_valid_until",
   ascii "floor_attestation_digest", ascii "operation_id", ascii "provider_head_digest",
   ascii "provider_identity_digest", ascii "schema_version", ascii "trusted_instant",
   ascii "trusted_time_kind"]

/-- The digest of the checkpoint that the evidence names.

SOURCE: activation_evidence.go:231-264 -/
def validateEvidenceCheckpoint (P : Platform) (input : ActivationDecisionEvidenceInput)
    (commitment : AuthorityEffectCommitmentFacts) (head : Head) : Except Error Digest :=
  match input.material.checkpointKind with
  | .none => do
    require (input.material.checkpointScopeDigest = Digest.zero ∧ input.checkpoint = none)
      .invalidArgument
    pure Digest.zero
  | kind => do
    let checkpoint ← orThrow input.checkpoint .invalidArgument
    require (validAuthorityCheckpointAnchor P checkpoint = true) .invalidArgument
    let anchor := checkpoint.facts
    require (anchor.kind = kind ∧ anchor.scopeDigest = input.material.checkpointScopeDigest ∧
      anchor.checkpoint.authorityEpoch = commitment.epoch ∧
      commitment.sequence < anchor.checkpoint.sequence ∧
      anchor.checkpoint.sequence ≤ head.latestCommittedSequence) .invalidArgument
    require (¬(head.latestCommittedSequence = anchor.checkpoint.sequence ∧
      head.latestCommittedReceiptDigest ≠ anchor.checkpoint.receiptDigest)) .invalidArgument
    require ((if anchor.kind = .node then commitment.scopeKind = .node
      else commitment.scopeKind = .globalNodeTrust ∨
        commitment.scopeKind = .globalOperatorTrust) ∧
      anchor.scopeDigest = commitment.scopeDigest) .invalidArgument
    pure checkpoint.digest

/-- How late evidence can be valid.

SOURCE: activation_evidence.go:286-301 -/
def evidenceWithinBounds (material : ActivationDecisionMaterial) : Bool :=
  (addCanonicalDuration P material.trustedInstant (5 * second)).any fun fiveSecondBound =>
    let trusted := material.trustedInstant.instant
    let deadline := material.activationDeadline.instant
    let upper := earlierInstant material.attestationExpiresAt.instant fiveSecondBound.instant
    if material.reason ≠ .activationDeadlineExpired then
      decide (trusted < deadline) &&
        decide (material.evidenceValidUntil.instant ≤ earlierInstant upper deadline)
    else decide (deadline ≤ trusted) && decide (material.evidenceValidUntil.instant ≤ upper)

/-- SOURCE: activation_evidence.go:270-304 -/
def evidenceTimeValid (material : ActivationDecisionMaterial) : Bool :=
  match material.trustedTimeKind with
  | .none => material.trustedInstant.instant == 0 && material.evidenceValidUntil.instant == 0 &&
      material.attestationExpiresAt.instant == 0 && material.activationDeadline.instant == 0 &&
      material.providerIdentityDigest == Digest.zero &&
      material.expectedProviderIdentityDigest == Digest.zero &&
      material.floorAttestationDigest == Digest.zero && material.capability == .notAppliedOnly
  | .rollbackResistant => canonicalInstant P material.trustedInstant &&
      canonicalInstant P material.evidenceValidUntil &&
      canonicalInstant P material.attestationExpiresAt &&
      canonicalInstant P material.activationDeadline &&
      material.providerIdentityDigest != Digest.zero &&
      material.expectedProviderIdentityDigest != Digest.zero &&
      material.providerIdentityDigest == material.expectedProviderIdentityDigest &&
      material.floorAttestationDigest != Digest.zero &&
      decide (material.trustedInstant.instant < material.evidenceValidUntil.instant) &&
      decide (material.trustedInstant.instant < material.attestationExpiresAt.instant) &&
      evidenceWithinBounds P material

/-- SOURCE: activation_evidence.go:306-336 -/
def evidenceMatrixValid (material : ActivationDecisionMaterial)
    (commitment : AuthorityEffectCommitmentFacts) : Bool :=
  match commitment.mode, material.reason with
  | .finalNotApplied, reason => reason == commitment.reason && material.checkpointKind == .none &&
      material.trustedTimeKind == .none && material.capability == .notAppliedOnly
  | .conditionalApply, .none => material.checkpointKind == .none &&
      material.trustedTimeKind == .rollbackResistant && material.capability == .mayApply
  | .conditionalApply, .failed | .conditionalApply, .validationRejected
  | .conditionalApply, .activationDeadlineExpired => material.checkpointKind == .none &&
      material.trustedTimeKind == .rollbackResistant && material.capability == .notAppliedOnly
  | .conditionalApply, .superseded => material.checkpointKind != .none &&
      material.trustedTimeKind == .none && material.capability == .notAppliedOnly

/-- SOURCE: activation_evidence.go:266-338 -/
def validateEvidenceTimeAndMatrix (material : ActivationDecisionMaterial)
    (commitment : AuthorityEffectCommitmentFacts) : Bool :=
  evidenceTimeValid P material && evidenceMatrixValid material commitment

/-- The receipt is the one of the commitment, and the head has reached it.

SOURCE: activation_evidence.go:184-206 -/
def evidenceInputValid (P : Platform) (input : ActivationDecisionEvidenceInput) : Bool :=
  let commitment := input.material.commitment.facts
  let reservation := input.receipt.reservation
  let head := input.providerHead.facts
  validAuthorityEffectCommitment P input.material.commitment && input.receipt.validate P &&
    input.receipt.status == .committed && validAuthorityProviderHead P input.providerHead &&
    reservation.operationID == commitment.operationID && reservation.kind == commitment.kind &&
    reservation.scopeKind == commitment.scopeKind &&
    reservation.scopeDigest == commitment.scopeDigest && reservation.epoch == commitment.epoch &&
    reservation.sequence == commitment.sequence &&
    input.receipt.effectDigest == some input.material.commitment.digest &&
    head.epoch == reservation.epoch &&
    decide (reservation.sequence ≤ head.latestCommittedSequence) &&
    (head.latestCommittedSequence != reservation.sequence ||
      head.latestCommittedOperationID == reservation.operationID &&
        head.latestCommittedReceiptDigest == input.receipt.receiptDigest &&
        head.latestCommittedDatabasePoint == input.receipt.databasePoint)

/-- SOURCE: activation_evidence.go:180-229 -/
def buildActivationDecisionEvidence (input : ActivationDecisionEvidenceInput)
    (origin : ActivationEvidenceOrigin) (admission : Option ActivationAdmission) :
    Except Error ActivationDecisionEvidence := do
  require (origin ≠ .none) .invalidArgument
  require (evidenceInputValid P.toPlatform input = true) .invalidArgument
  let material := input.material
  let checkpointDigest ← validateEvidenceCheckpoint P.toPlatform input material.commitment.facts
    input.providerHead.facts
  let facts : ActivationDecisionEvidenceFacts :=
    { operationID := material.commitment.facts.operationID
      commitmentDigest := material.commitment.digest
      providerHeadDigest := input.providerHead.digest
      checkpointKind := material.checkpointKind
      checkpointScopeDigest := material.checkpointScopeDigest
      checkpointDigest := checkpointDigest
      trustedTimeKind := material.trustedTimeKind
      trustedInstant := material.trustedInstant.instant
      evidenceValidUntil := material.evidenceValidUntil.instant
      providerIdentityDigest := material.providerIdentityDigest
      floorAttestationDigest := material.floorAttestationDigest
      capability := material.capability }
  require (validateEvidenceTimeAndMatrix P material material.commitment.facts = true)
    .invalidArgument
  let (canonical, digest) ← orThrow (canonicalAuthorityArtifact P.toPlatform
    activationDecisionEvidenceDomain (activationEvidenceWire P facts)) .invalidArgument
  pure ⟨⟨facts, canonical, digest⟩, origin, admission⟩

/-- SOURCE: activation_evidence.go:173-178 -/
def newActivationDecisionEvidence (input : ActivationDecisionEvidenceInput) :
    Except Error ActivationDecisionEvidence := do
  require (input.material.trustedTimeKind = .none) .invalidArgument
  buildActivationDecisionEvidence P input .fresh none

/-- A capture that was started at some time, with what the clock reads when it is completed.

SOURCE: activation_evidence.go:137-171 -/
def completeActivationEvidenceCapture (started now : Instant) (used : Bool)
    (input : ActivationDecisionEvidenceInput) : Except Error ActivationDecisionEvidence := do
  require (started ≠ 0) .invalidArgument
  require (used = false) .conflict
  require (input.material.trustedTimeKind = .rollbackResistant) .invalidArgument
  let evidence ← buildActivationDecisionEvidence P input .fresh none
  let budget := input.material.evidenceValidUntil.instant - input.material.trustedInstant.instant
  require (0 < budget) .invalidArgument
  let deadline ← orThrow (addCaptureDuration started (min budget (5 * second))) .invalidArgument
  require (now < deadline) .conflict
  pure { evidence with
    admission := some
      { consumed := false
        operationID := evidence.facts.operationID
        commitmentDigest := evidence.facts.commitmentDigest
        evidenceDigest := evidence.digest
        deadline := deadline } }

/-! ### Parsing evidence -/

/-- SOURCE: activation_evidence.go:379-398 -/
def parsedCheckpointValid (P : Platform) (kind : CheckpointKind) (scope digest : Digest) : Bool :=
  match kind with
  | .none => scope == Digest.zero && digest == Digest.zero
  | .node => scope != Digest.zero && digest != Digest.zero && validScopeDigest P .node scope
  | .global => digest != Digest.zero &&
      (scope == globalNodeScopeDigest P || scope == globalOperatorScopeDigest P)

/-- The trusted time of a parsed record and until when the evidence is valid.

SOURCE: activation_evidence.go:399-423 -/
def parsedTrustedTime (facts : ActivationDecisionEvidenceFacts)
    (trustedInstant evidenceValidUntil : Bytes) : Option (Instant × Instant) :=
  match facts.trustedTimeKind with
  | .none => do
    guard (trustedInstant = [] ∧ evidenceValidUntil = [] ∧
      facts.providerIdentityDigest = Digest.zero ∧ facts.floorAttestationDigest = Digest.zero ∧
      facts.capability = .notAppliedOnly)
    pure (0, 0)
  | .rollbackResistant => do
    let trusted ← parseCanonicalInstant P trustedInstant
    let validUntil ← parseCanonicalInstant P evidenceValidUntil
    guard (facts.checkpointKind = .none ∧ trusted.instant < validUntil.instant ∧
      facts.providerIdentityDigest ≠ Digest.zero ∧ facts.floorAttestationDigest ≠ Digest.zero)
    let fiveSecondBound ← addCanonicalDuration P trusted (5 * second)
    guard (validUntil.instant ≤ fiveSecondBound.instant)
    pure (trusted.instant, validUntil.instant)

/-- SOURCE: activation_evidence.go:340-429 -/
def parseActivationDecisionEvidence (body : Bytes) :
    Option ActivationDecisionEvidence := do
  let wire ← decodeCanonicalAuthorityArtifact P.toPlatform activationDecisionEvidenceNames body
  guard (wire (ascii "schema_version") = ascii "1")
  let operationID ← parseCanonicalUUID P (wire (ascii "operation_id"))
  let commitmentDigest ← parseDigestString (wire (ascii "commitment_digest")) false
  let headDigest ← parseDigestString (wire (ascii "provider_head_digest")) false
  let checkpointScope ← parseDigestString (wire (ascii "checkpoint_scope_digest")) true
  let checkpointDigest ← parseDigestString (wire (ascii "checkpoint_digest")) true
  let providerIdentity ← parseDigestString (wire (ascii "provider_identity_digest")) true
  let floorDigest ← parseDigestString (wire (ascii "floor_attestation_digest")) true
  let checkpointKind ← ofText CheckpointKind.all CheckpointKind.text
    (wire (ascii "checkpoint_kind"))
  let trustedTimeKind ← ofText TrustedTimeKind.all TrustedTimeKind.text
    (wire (ascii "trusted_time_kind"))
  let capability ← ofText DecisionCapability.all DecisionCapability.text
    (wire (ascii "decision_capability"))
  guard (parsedCheckpointValid P.toPlatform checkpointKind checkpointScope checkpointDigest)
  let facts : ActivationDecisionEvidenceFacts :=
    { operationID := operationID
      commitmentDigest := commitmentDigest
      providerHeadDigest := headDigest
      checkpointKind := checkpointKind
      checkpointScopeDigest := checkpointScope
      checkpointDigest := checkpointDigest
      trustedTimeKind := trustedTimeKind
      trustedInstant := 0
      evidenceValidUntil := 0
      providerIdentityDigest := providerIdentity
      floorAttestationDigest := floorDigest
      capability := capability }
  let (trusted, validUntil) ← parsedTrustedTime P facts (wire (ascii "trusted_instant"))
    (wire (ascii "evidence_valid_until"))
  let (canonical, digest) ← canonicalAuthorityArtifact P.toPlatform
    activationDecisionEvidenceDomain (stringMembers activationDecisionEvidenceNames wire)
  guard (canonical = body)
  pure ⟨⟨{ facts with trustedInstant := trusted, evidenceValidUntil := validUntil },
    canonical, digest⟩, .parsed, none⟩

/-! ### Validating evidence -/

/-- SOURCE: activation_evidence.go:431-450 -/
def validateActivationDecisionEvidence
    (evidence : ActivationDecisionEvidence) (input : ActivationDecisionEvidenceInput) :
    Except Error ValidatedActivationDecisionEvidence := do
  require (evidence.origin ≠ .none) .invalidArgument
  let expected ← buildActivationDecisionEvidence P input evidence.origin evidence.admission
  require (expected.digest = evidence.digest ∧ expected.canonical = evidence.canonical ∧
    expected.facts = evidence.facts) .conflict
  let admission :=
    if evidence.origin = .parsed ∨ evidence.facts.trustedTimeKind = .none then none
    else evidence.admission
  pure ⟨evidence, input, evidence.origin, admission, true⟩

/-- SOURCE: activation_evidence.go:585-591 -/
def validValidatedEvidence (proof : ValidatedActivationDecisionEvidence) :
    Bool :=
  proof.valid && proof.origin != .none &&
    match buildActivationDecisionEvidence P proof.input proof.origin proof.admission with
    | .ok expected => expected.digest == proof.evidence.digest &&
        expected.canonical == proof.evidence.canonical && expected.facts == proof.evidence.facts
    | .error _ => false

/-! ## Resolutions -/

/-- SOURCE: resolution.go:11-16 -/
inductive EffectDisposition where
  | applied
  | notApplied
deriving DecidableEq

/-- SOURCE: resolution.go:14-15 -/
def EffectDisposition.text : EffectDisposition → Bytes
  | applied => ascii "applied"
  | notApplied => ascii "not_applied"

def EffectDisposition.all : List EffectDisposition := [applied, notApplied]

/-- SOURCE: resolution.go:18-25 -/
inductive DecisionAnchorKind where
  | finalCommitment
  | exactCapture
  | higherAuthority
  | trustedTime
deriving DecidableEq

/-- SOURCE: resolution.go:21-24 -/
def DecisionAnchorKind.text : DecisionAnchorKind → Bytes
  | finalCommitment => ascii "final_commitment"
  | exactCapture => ascii "exact_capture"
  | higherAuthority => ascii "higher_authority"
  | trustedTime => ascii "trusted_time"

def DecisionAnchorKind.all : List DecisionAnchorKind :=
  [finalCommitment, exactCapture, higherAuthority, trustedTime]

/-- SOURCE: resolution.go:36-42 -/
structure AuthorityEffectResolutionFacts where
  commitmentDigest : Digest
  disposition : EffectDisposition
  reason : AuthorityEffectReason
  anchorKind : DecisionAnchorKind
  anchorDigest : Digest
deriving DecidableEq

/-- SOURCE: resolution.go:44-48 -/
abbrev AuthorityEffectResolution : Type := Artifact AuthorityEffectResolutionFacts

/-- SOURCE: resolution.go:27-34 -/
structure AuthorityEffectResolutionInput where
  commitment : AuthorityEffectCommitment
  disposition : EffectDisposition
  reason : AuthorityEffectReason
  anchorKind : DecisionAnchorKind
  anchorDigest : Digest
  evidence : ValidatedActivationDecisionEvidence

/-- SOURCE: resolution.go:9 -/
def authorityEffectResolutionDomain : Bytes :=
  ascii "talenro.nodecontrol.authority-effect-resolution.v1\x00"

variable (facts : AuthorityEffectResolutionFacts)

/-- SOURCE: resolution.go:50-57, 74-77 -/
def authorityEffectResolutionV1 : List (Bytes × Bytes) :=
  [(ascii "commitment_digest", digestString facts.commitmentDigest),
   (ascii "decision_anchor_digest", digestString facts.anchorDigest),
   (ascii "decision_anchor_kind", facts.anchorKind.text),
   (ascii "disposition", facts.disposition.text),
   (ascii "reason_code", facts.reason.text),
   (ascii "schema_version", ascii "1")]

/-- SOURCE: resolution.go:50-57 -/
def authorityEffectResolutionNames : List Bytes :=
  [ascii "commitment_digest", ascii "decision_anchor_digest", ascii "decision_anchor_kind",
   ascii "disposition", ascii "reason_code", ascii "schema_version"]

/-- Which anchor goes with which reason.

SOURCE: resolution.go:150-184 -/
def resolutionAnchored
    (commitment : AuthorityEffectCommitment) (proof : ValidatedActivationDecisionEvidence) :
    Bool :=
  let evidence := proof.evidence
  let material := proof.input.material
  let rollbackResistant := evidence.facts.trustedTimeKind == .rollbackResistant
  match commitment.facts.mode, facts.disposition, facts.reason with
  | .finalNotApplied, disposition, reason =>
    disposition == .notApplied && reason == commitment.facts.reason &&
      facts.anchorKind == .finalCommitment && facts.anchorDigest == commitment.digest &&
      !rollbackResistant && evidence.facts.checkpointKind == .none &&
      evidence.facts.capability == .notAppliedOnly
  | .conditionalApply, .applied, reason =>
    reason == .none && facts.anchorKind == .trustedTime &&
      facts.anchorDigest == evidence.digest && rollbackResistant &&
      evidence.facts.capability == .mayApply && evidence.facts.checkpointKind == .none &&
      material.reason == .none
  | .conditionalApply, .notApplied, .failed
  | .conditionalApply, .notApplied, .validationRejected =>
    material.reason == facts.reason && facts.anchorKind == .exactCapture &&
      facts.anchorDigest == commitment.facts.activationInputsDigest && rollbackResistant &&
      evidence.facts.capability == .notAppliedOnly && evidence.facts.checkpointKind == .none
  | .conditionalApply, .notApplied, .superseded =>
    material.reason == facts.reason && facts.anchorKind == .higherAuthority &&
      proof.input.checkpoint.any (fun checkpoint => facts.anchorDigest == checkpoint.digest) &&
      !rollbackResistant && evidence.facts.checkpointKind != .none &&
      evidence.facts.capability == .notAppliedOnly
  | .conditionalApply, .notApplied, .activationDeadlineExpired =>
    material.reason == facts.reason && facts.anchorKind == .trustedTime &&
      facts.anchorDigest == evidence.digest && rollbackResistant &&
      evidence.facts.capability == .notAppliedOnly && evidence.facts.checkpointKind == .none
  | .conditionalApply, .notApplied, .none => false

/-- SOURCE: resolution.go:132-186 -/
def validateResolutionMatrix
    (commitment : AuthorityEffectCommitment) (proof : ValidatedActivationDecisionEvidence)
    (requireFresh : Bool) : Except Error Unit := do
  require (proof.evidence.facts.commitmentDigest = commitment.digest ∧
    proof.input.material.commitment.digest = commitment.digest) .conflict
  require (if proof.evidence.facts.trustedTimeKind = .rollbackResistant then
      requireFresh = true → proof.admission.any (fun admission => !admission.consumed) = true
    else proof.admission = none) .conflict
  require (resolutionAnchored facts commitment proof = true) .conflict

/-- SOURCE: resolution.go:59-86 -/
def newAuthorityEffectResolution (input : AuthorityEffectResolutionInput) :
    Except Error AuthorityEffectResolution := do
  require (validAuthorityEffectCommitment P.toPlatform input.commitment = true ∧
    validValidatedEvidence P input.evidence = true ∧ input.anchorDigest ≠ Digest.zero)
    .invalidArgument
  require (input.evidence.origin = .fresh) .conflict
  require (input.evidence.input.material.commitment.digest = input.commitment.digest ∧
    input.evidence.input.material.commitment.canonical = input.commitment.canonical) .conflict
  let facts : AuthorityEffectResolutionFacts :=
    ⟨input.commitment.digest, input.disposition, input.reason, input.anchorKind,
      input.anchorDigest⟩
  validateResolutionMatrix facts input.commitment input.evidence true
  let (canonical, digest) ← orThrow (canonicalAuthorityArtifact P.toPlatform
    authorityEffectResolutionDomain (authorityEffectResolutionV1 facts)) .invalidArgument
  pure ⟨facts, canonical, digest⟩

/-- SOURCE: resolution.go:203-222 -/
def resolutionSelfContainedPairValid (disposition : EffectDisposition)
    (reason : AuthorityEffectReason) (anchor : DecisionAnchorKind) : Bool :=
  match disposition with
  | .applied => reason == .none && anchor == .trustedTime
  | .notApplied => reason.finalReason &&
      match anchor with
      | .finalCommitment => true
      | .exactCapture => reason == .failed || reason == .validationRejected
      | .higherAuthority => reason == .superseded
      | .trustedTime => reason == .activationDeadlineExpired

/-- SOURCE: resolution.go:88-113 -/
def parseAuthorityEffectResolution (body : Bytes) :
    Option AuthorityEffectResolution := do
  let wire ← decodeCanonicalAuthorityArtifact P.toPlatform authorityEffectResolutionNames body
  guard (wire (ascii "schema_version") = ascii "1")
  let disposition ← ofText EffectDisposition.all EffectDisposition.text
    (wire (ascii "disposition"))
  let reason ← ofText AuthorityEffectReason.all AuthorityEffectReason.text
    (wire (ascii "reason_code"))
  let anchorKind ← ofText DecisionAnchorKind.all DecisionAnchorKind.text
    (wire (ascii "decision_anchor_kind"))
  let commitmentDigest ← parseDigestString (wire (ascii "commitment_digest")) false
  let anchorDigest ← parseDigestString (wire (ascii "decision_anchor_digest")) false
  guard (resolutionSelfContainedPairValid disposition reason anchorKind)
  let (canonical, digest) ← canonicalAuthorityArtifact P.toPlatform
    authorityEffectResolutionDomain (stringMembers authorityEffectResolutionNames wire)
  guard (canonical = body)
  pure ⟨⟨commitmentDigest, disposition, reason, anchorKind, anchorDigest⟩, canonical, digest⟩

end Talenro.Authority
