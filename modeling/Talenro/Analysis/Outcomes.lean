import Talenro.Analysis.Artifacts
import Talenro.Analysis.StoredFences

/-!
# Outcomes that are stored and read again

The constructors of the authority package make a commitment, a snapshot of the provider's head, for
some outcomes the anchor of a checkpoint, evidence of a decision and its resolution.  An owner row
holds all of them beside the bounds of the trusted time.  Three places say which of these go
together: the matrix of the constructors, the check of the table, and the reader.

* The constructors make final outcomes, which have neither checkpoint nor bounds
  (`final_evidence`), superseded outcomes with a checkpoint, and other outcomes with bounds
  (`conditional_evidence`).
* The table admits all of them, one at a time.
* The reader takes a checkpoint and bounds only together (`checkpointAndBounds_eq_ok`).

So exactly the final outcomes are read back (`stored_outcome_read_iff`).
-/

set_option autoImplicit false

namespace Talenro.Authority

open Lib Lib.Calendar

/-! ## Outcomes -/

/-- A terminal outcome that the constructors have made. -/
structure BuiltOutcome (P : ArtifactPlatform) where
  input : ActivationDecisionEvidenceInput
  evidence : ActivationDecisionEvidence
  proof : ValidatedActivationDecisionEvidence
  disposition : EffectDisposition
  reason : AuthorityEffectReason
  anchorKind : DecisionAnchorKind
  anchorDigest : Digest
  resolution : AuthorityEffectResolution
  commitment_built : ∃ facts,
    newAuthorityEffectCommitment P.toPlatform facts = some input.material.commitment
  head_built : ∃ head, newAuthorityProviderHeadSnapshot P.toPlatform head = some input.providerHead
  checkpoint_built : ∀ checkpoint ∈ input.checkpoint, ∃ facts,
    newAuthorityCheckpointAnchor P.toPlatform facts = some checkpoint
  evidence_built : newActivationDecisionEvidence P input = .ok evidence ∨ ∃ started now used,
    completeActivationEvidenceCapture P started now used input = .ok evidence
  evidence_validated : validateActivationDecisionEvidence P evidence input = .ok proof
  resolution_built : newAuthorityEffectResolution P
    ⟨input.material.commitment, disposition, reason, anchorKind, anchorDigest, proof⟩ =
      .ok resolution

/-- A column of a time, in microseconds; the zero time is stored as null. -/
def storedInstant (t : Instant) : Option Instant :=
  if t = 0 then none else some (t - t % microsecond)

/-- A column of a digest that can be absent. -/
def storedDigest (digest : Digest) : Option Bytes :=
  if digest = Digest.zero then none else some digest.1

namespace BuiltOutcome

variable {P : ArtifactPlatform}

/-- The commitment of the outcome. -/
def commitment (built : BuiltOutcome P) : AuthorityEffectCommitment :=
  built.input.material.commitment

/-- The operation that the outcome ends. -/
def operationID (built : BuiltOutcome P) : UUID := built.input.receipt.reservation.operationID

/-- What a reader should find. -/
def outcome (built : BuiltOutcome P) : PersistedAuthorityEffectOutcome where
  commitmentJCS := built.commitment.canonical
  commitmentDigest := built.commitment.digest
  receipt := built.input.receipt
  providerHeadJCS := built.input.providerHead.canonical
  providerHeadDigest := built.input.providerHead.digest
  checkpointAnchorJCS := built.input.checkpoint.map Artifact.canonical
  checkpointAnchorDigest := (built.input.checkpoint.map Artifact.digest).getD Digest.zero
  reason := built.reason
  attestationExpiresAt := built.input.material.attestationExpiresAt.instant
  activationDeadline := built.input.material.activationDeadline.instant
  expectedProviderIdentityDigest := built.input.material.expectedProviderIdentityDigest
  evidenceJCS := built.evidence.canonical
  evidenceDigest := built.evidence.digest
  resolutionJCS := built.resolution.canonical
  resolutionDigest := built.resolution.digest

/-- The columns that hold the outcome. -/
def proofGroup (built : BuiltOutcome P) : ProofGroup where
  commitmentJCS := some built.commitment.canonical
  commitmentDigest := some built.commitment.digest.1
  providerHeadJCS := some built.input.providerHead.canonical
  providerHeadDigest := some built.input.providerHead.digest.1
  checkpointAnchorJCS := built.input.checkpoint.map Artifact.canonical
  checkpointAnchorDigest := built.input.checkpoint.map fun checkpoint => checkpoint.digest.1
  effectReason := some built.reason
  attestationExpiresAt := storedInstant built.input.material.attestationExpiresAt.instant
  activationDeadline := storedInstant built.input.material.activationDeadline.instant
  expectedProviderIdentityDigest := storedDigest built.input.material.expectedProviderIdentityDigest
  activationEvidenceJCS := some built.evidence.canonical
  activationEvidenceDigest := some built.evidence.digest.1
  effectResolutionJCS := some built.resolution.canonical
  effectResolutionDigest := some built.resolution.digest.1

end BuiltOutcome

/-- The row of a committed fence of the profile `claim_v1`, as the statements that record a pending
fence, bind it and activate it leave it. -/
structure CommittedFence (receipt : Receipt) (row : FenceRow) : Prop where
  written : ∃ activationID effectDigest point reservedAt boundAt terminalAt,
    validOperationID activationID = true ∧ reservedAt ≠ 0 ∧ boundAt ≠ 0 ∧ terminalAt ≠ 0 ∧
      receipt.effectDigest = some effectDigest ∧ receipt.databasePoint = some point ∧
      (bindAuthorityFenceEffect effectDigest point boundAt
        (pendingClaimV1Fence receipt.reservation reservedAt activationID)).bind
          (activateCommittedAuthorityFence receipt.receiptDigest effectDigest point terminalAt) =
        some row
  check : fenceCheck row = true

/-! ## What the constructors have checked -/

variable {P : ArtifactPlatform} {input : ActivationDecisionEvidenceInput}
  {evidence : ActivationDecisionEvidence} {checkpointDigest : Digest}

/-- The facts of evidence for a decision. -/
def evidenceFacts (input : ActivationDecisionEvidenceInput) (checkpointDigest : Digest) :
    ActivationDecisionEvidenceFacts where
  operationID := input.material.commitment.facts.operationID
  commitmentDigest := input.material.commitment.digest
  providerHeadDigest := input.providerHead.digest
  checkpointKind := input.material.checkpointKind
  checkpointScopeDigest := input.material.checkpointScopeDigest
  checkpointDigest := checkpointDigest
  trustedTimeKind := input.material.trustedTimeKind
  trustedInstant := input.material.trustedInstant.instant
  evidenceValidUntil := input.material.evidenceValidUntil.instant
  providerIdentityDigest := input.material.providerIdentityDigest
  floorAttestationDigest := input.material.floorAttestationDigest
  capability := input.material.capability

/-- Evidence that was made from this input. -/
structure EvidenceChecked (P : ArtifactPlatform) (input : ActivationDecisionEvidenceInput)
    (evidence : ActivationDecisionEvidence) (checkpointDigest : Digest) : Prop where
  valid : evidenceInputValid P.toPlatform input = true
  checkpoint : validateEvidenceCheckpoint P.toPlatform input input.material.commitment.facts
    input.providerHead.facts = .ok checkpointDigest
  time : evidenceTimeValid P input.material = true
  matrix : evidenceMatrixValid input.material input.material.commitment.facts = true
  text : canonicalAuthorityArtifact P.toPlatform activationDecisionEvidenceDomain
    (activationEvidenceWire P (evidenceFacts input checkpointDigest)) =
      some (evidence.canonical, evidence.digest)

/-- Evidence is built from its input and has its facts. -/
theorem buildActivationDecisionEvidence_facts {origin : ActivationEvidenceOrigin}
    {admission : Option ActivationAdmission}
    (h : buildActivationDecisionEvidence P input origin admission = .ok evidence) :
    ∃ checkpointDigest, EvidenceChecked P input evidence checkpointDigest ∧
      evidence.facts = evidenceFacts input checkpointDigest := by
  simp only [buildActivationDecisionEvidence, validateEvidenceTimeAndMatrix, bind_eq_ok,
    require_eq_ok, orThrow_eq_ok, pure_eq_ok, Bool.and_eq_true] at h
  obtain ⟨-, -, -, hvalid, checkpointDigest, hcheckpoint, -, ⟨htime, hmatrix⟩, ⟨canonical, digest⟩,
    htext, rfl⟩ := h
  exact ⟨checkpointDigest, ⟨hvalid, hcheckpoint, htime, hmatrix, htext⟩, rfl⟩

/-- Evidence that one of the constructors has made from this input. -/
def BuiltEvidence (P : ArtifactPlatform) (input : ActivationDecisionEvidenceInput)
    (evidence : ActivationDecisionEvidence) : Prop :=
  newActivationDecisionEvidence P input = .ok evidence ∨ ∃ started now used,
    completeActivationEvidenceCapture P started now used input = .ok evidence

/-- Both constructors of evidence build it. -/
theorem BuiltEvidence.checked (h : BuiltEvidence P input evidence) :
    ∃ checkpointDigest, EvidenceChecked P input evidence checkpointDigest ∧
      evidence.facts = evidenceFacts input checkpointDigest := by
  rcases h with h | ⟨started, now, used, h⟩
  · simp only [newActivationDecisionEvidence, bind_eq_ok, require_eq_ok] at h
    obtain ⟨-, -, hbuild⟩ := h
    exact buildActivationDecisionEvidence_facts hbuild
  · simp only [completeActivationEvidenceCapture, bind_eq_ok, require_eq_ok, orThrow_eq_ok,
      pure_eq_ok] at h
    obtain ⟨-, -, -, -, -, -, built, hbuild, -, -, deadline, -, -, -, rfl⟩ := h
    obtain ⟨checkpointDigest, hchecked, hfacts⟩ := buildActivationDecisionEvidence_facts hbuild
    exact ⟨checkpointDigest, ⟨hchecked.valid, hchecked.checkpoint, hchecked.time, hchecked.matrix,
      hchecked.text⟩, hfacts⟩

theorem BuiltOutcome.evidenceChecked (built : BuiltOutcome P) :
    ∃ checkpointDigest, EvidenceChecked P built.input built.evidence checkpointDigest :=
  (BuiltEvidence.checked built.evidence_built).imp fun _ => And.left

/-- The commitment of checked evidence is valid. -/
theorem EvidenceChecked.commitment_valid (h : EvidenceChecked P input evidence checkpointDigest) :
    validAuthorityEffectCommitment P.toPlatform input.material.commitment = true := by
  have hvalid := h.valid
  simp only [evidenceInputValid, Bool.and_eq_true] at hvalid
  exact hvalid.1.1.1.1.1.1.1.1.1.1.1.1.1

/-- A valid commitment has been checked, and its digests are not zero. -/
theorem validAuthorityEffectCommitment_checked {commitment : AuthorityEffectCommitment}
    (h : validAuthorityEffectCommitment P.toPlatform commitment = true) :
    validOperationID commitment.facts.operationID = true ∧ commitment.digest ≠ Digest.zero ∧
      (commitment.facts.mode = .conditionalApply →
        commitment.facts.activationInputsDigest ≠ Digest.zero) ∧
      (commitment.facts.mode = .finalNotApplied →
        commitment.facts.reason.finalReason = true) := by
  simp only [validAuthorityEffectCommitment, Bool.and_eq_true, bne_iff_ne] at h
  obtain ⟨⟨-, hdigest⟩, hany⟩ := h
  obtain ⟨rebuilt, hbuilt, -⟩ := (Option.any_eq_true _ _).mp hany
  obtain ⟨hchecked, inputs, policy, hpolicy, -⟩ := newAuthorityEffectCommitment_eq_some hbuilt
  cases hmode : commitment.facts.mode with
  | conditionalApply =>
    simp only [hmode, reduceCtorEq, if_false] at hchecked hpolicy
    simp only [commitmentPolicy, hmode, Option.bind_eq_bind, Option.bind_eq_some_iff,
      Option.guard_eq_some'] at hpolicy
    obtain ⟨-, ⟨-, -, hinputs, -⟩, -⟩ := hpolicy
    exact ⟨hchecked.operationID, hdigest, fun _ => hinputs, by simp⟩
  | finalNotApplied =>
    simp only [hmode, if_true] at hchecked hpolicy
    simp only [commitmentPolicy, Option.bind_eq_bind, Option.bind_eq_some_iff,
      Option.guard_eq_some'] at hpolicy
    obtain ⟨-, ⟨hreason, -⟩, -⟩ := hpolicy
    exact ⟨hchecked.operationID, hdigest, (by simp), fun _ => hreason⟩

/-- What the constructor of a resolution has checked. -/
theorem newAuthorityEffectResolution_eq_ok {input : AuthorityEffectResolutionInput}
    {resolution : AuthorityEffectResolution}
    (h : newAuthorityEffectResolution P input = .ok resolution) :
    validAuthorityEffectCommitment P.toPlatform input.commitment = true ∧
      validValidatedEvidence P input.evidence = true ∧ input.anchorDigest ≠ Digest.zero ∧
      resolution.facts = ⟨input.commitment.digest, input.disposition, input.reason,
        input.anchorKind, input.anchorDigest⟩ ∧
      resolutionAnchored resolution.facts input.commitment input.evidence = true ∧
      canonicalAuthorityArtifact P.toPlatform authorityEffectResolutionDomain
        (authorityEffectResolutionV1 resolution.facts) =
          some (resolution.canonical, resolution.digest) := by
  simp only [newAuthorityEffectResolution, validateResolutionMatrix, bind_eq_ok, require_eq_ok,
    orThrow_eq_ok, pure_eq_ok] at h
  obtain ⟨-, ⟨hcommitment, hevidence, hanchor⟩, -, -, -, -, -, ⟨-, -, -, -, hanchored⟩,
    ⟨canonical, digest⟩, htext, rfl⟩ := h
  exact ⟨hcommitment, hevidence, hanchor, rfl, hanchored, htext⟩

/-- The matrix of resolutions is within the pairs that the parser accepts. -/
theorem resolutionAnchored_pair {facts : AuthorityEffectResolutionFacts}
    {commitment : AuthorityEffectCommitment} {proof : ValidatedActivationDecisionEvidence}
    (hreason : commitment.facts.mode = .finalNotApplied →
      commitment.facts.reason.finalReason = true)
    (h : resolutionAnchored facts commitment proof = true) :
    resolutionSelfContainedPairValid facts.disposition facts.reason facts.anchorKind = true := by
  unfold resolutionAnchored at h
  split at h <;> simp_all [resolutionSelfContainedPairValid, AuthorityEffectReason.finalReason]

namespace BuiltOutcome

/-- The receipt is a valid one of the commitment. -/
theorem receipt_checked (built : BuiltOutcome P) :
    built.input.receipt.validate P.toPlatform = true ∧ built.input.receipt.status = .committed ∧
      built.input.receipt.effectDigest = some built.commitment.digest ∧
      built.commitment.digest ≠ Digest.zero ∧
      built.commitment.facts.operationID = built.operationID ∧
      built.commitment.facts.kind = built.input.receipt.reservation.kind ∧
      built.commitment.facts.scopeDigest = built.input.receipt.reservation.scopeDigest := by
  obtain ⟨checkpointDigest, hchecked⟩ := built.evidenceChecked
  have hvalid := hchecked.valid
  simp only [evidenceInputValid, validAuthorityEffectCommitment, Bool.and_eq_true, beq_iff_eq,
    bne_iff_ne] at hvalid
  obtain ⟨⟨⟨⟨⟨⟨⟨⟨⟨⟨⟨⟨⟨⟨⟨-, hdigest⟩, -⟩, hreceipt⟩, hstatus⟩, -⟩, hid⟩, hkind⟩, -⟩, hscope⟩, -⟩, -⟩,
    heffect⟩, -⟩, -⟩, -⟩ := hvalid
  exact ⟨hreceipt, hstatus, heffect, hdigest, hid.symm, hkind.symm, hscope.symm⟩

/-! ### The shapes of outcomes -/

/-- A final outcome has neither checkpoint nor trusted time. -/
theorem final_evidence (built : BuiltOutcome P)
    (hmode : built.commitment.facts.mode = .finalNotApplied) :
    EvidenceChecked P built.input built.evidence Digest.zero ∧ built.input.checkpoint = none ∧
      TimelessEvidence P.toPlatform (evidenceFacts built.input Digest.zero) ∧
      built.input.material.attestationExpiresAt.instant = 0 ∧
      built.input.material.activationDeadline.instant = 0 ∧
      built.input.material.expectedProviderIdentityDigest = Digest.zero := by
  obtain ⟨checkpointDigest, hchecked⟩ := built.evidenceChecked
  have hmatrix := hchecked.matrix
  have htime := hchecked.time
  have hcheckpoint := hchecked.checkpoint
  replace hmode : built.input.material.commitment.facts.mode = .finalNotApplied := hmode
  simp only [evidenceMatrixValid, hmode, Bool.and_eq_true, beq_iff_eq] at hmatrix
  obtain ⟨⟨⟨-, hkind⟩, htimeKind⟩, hcapability⟩ := hmatrix
  simp only [evidenceTimeValid, htimeKind, Bool.and_eq_true, beq_iff_eq] at htime
  obtain ⟨⟨⟨⟨⟨⟨⟨hinstant, huntil⟩, hexpires⟩, hdeadline⟩, hidentity⟩, hexpected⟩, hfloor⟩, -⟩ :=
    htime
  simp only [validateEvidenceCheckpoint, hkind, bind_eq_ok, require_eq_ok,
    pure_eq_ok] at hcheckpoint
  obtain ⟨-, ⟨hscope, hnone⟩, rfl⟩ := hcheckpoint
  obtain ⟨hid, hdigest, -⟩ := validAuthorityEffectCommitment_checked hchecked.commitment_valid
  refine ⟨hchecked, hnone, ?_, hexpires, hdeadline, hexpected⟩
  exact
    { operationID := hid
      commitmentDigest := hdigest
      checkpoint := by simp [evidenceFacts, parsedCheckpointValid, hkind, hscope]
      trustedTimeKind := htimeKind
      trustedInstant := hinstant
      evidenceValidUntil := huntil
      providerIdentityDigest := hidentity
      floorAttestationDigest := hfloor
      capability := hcapability }

/-- Any other outcome has a checkpoint or bounds. -/
theorem conditional_evidence (built : BuiltOutcome P)
    (hmode : built.commitment.facts.mode = .conditionalApply) :
    built.input.checkpoint ≠ none ∨
      built.input.material.attestationExpiresAt.instant ≠ 0 := by
  obtain ⟨checkpointDigest, hchecked⟩ := built.evidenceChecked
  have hmatrix := hchecked.matrix
  replace hmode : built.input.material.commitment.facts.mode = .conditionalApply := hmode
  -- A trusted time comes with a time at which its attestation expires.
  have hbounded : built.input.material.trustedTimeKind = .rollbackResistant →
      built.input.material.attestationExpiresAt.instant ≠ 0 := by
    intro hkind
    have htime := hchecked.time
    simp only [evidenceTimeValid, hkind, Bool.and_eq_true] at htime
    obtain ⟨⟨⟨⟨⟨⟨⟨⟨⟨-, hexpires⟩, -⟩, -⟩, -⟩, -⟩, -⟩, -⟩, -⟩, -⟩ := htime
    simp only [canonicalInstant, Bool.and_eq_true, bne_iff_ne] at hexpires
    exact hexpires.1.1.1.1
  cases hreason : built.input.material.reason with
  | superseded =>
    left
    intro hnone
    have hcheckpoint := hchecked.checkpoint
    simp only [evidenceMatrixValid, hmode, hreason, Bool.and_eq_true, bne_iff_ne] at hmatrix
    cases hkind : built.input.material.checkpointKind with
    | none => exact hmatrix.1.1 hkind
    | node | global =>
      simp only [validateEvidenceCheckpoint, hkind, hnone, bind_eq_ok, orThrow_eq_ok, reduceCtorEq,
        false_and, exists_false] at hcheckpoint
  | _ =>
    simp only [evidenceMatrixValid, hmode, hreason, Bool.and_eq_true, beq_iff_eq] at hmatrix
    exact Or.inr (hbounded hmatrix.1.2)

/-- The resolution of a final outcome. -/
theorem final_resolution (built : BuiltOutcome P)
    (hmode : built.commitment.facts.mode = .finalNotApplied) :
    resolutionSelfContainedPairValid built.disposition built.reason built.anchorKind = true ∧
      built.reason ≠ .none := by
  obtain ⟨hvalid, -, -, hfacts, hanchored, -⟩ :=
    newAuthorityEffectResolution_eq_ok built.resolution_built
  obtain ⟨-, -, -, hfinal⟩ := validAuthorityEffectCommitment_checked hvalid
  have hpair := resolutionAnchored_pair hfinal hanchored
  rw [hfacts] at hpair
  refine ⟨hpair, fun hnone => ?_⟩
  replace hmode : built.input.material.commitment.facts.mode = .finalNotApplied := hmode
  simp only [resolutionAnchored, hmode, hfacts, Bool.and_eq_true, beq_iff_eq] at hanchored
  have hreason := hfinal hmode
  rw [← hanchored.1.1.1.1.1.2, hnone] at hreason
  cases hreason

end BuiltOutcome

/-! ## The fence of an outcome -/

/-- What the columns of a committed fence say. -/
structure CommittedFence.Says (P : Platform) (receipt : Receipt) (row : FenceRow) : Prop where
  sound : receipt.reservation.reservationDigest ≠ Digest.zero →
    row.Sound P receipt.reservation.operationID
  reservationDigest : row.providerReservationDigest = receipt.reservation.reservationDigest
  terminalReceipt : row.receipt receipt.reservation.operationID = some receipt
  abortClaim : row.abortClaim = none
  status : row.providerStatus = .committed
  profile : row.authorityProtocolProfile = .claimV1
  effectKind : row.effectKind = receipt.reservation.kind
  effectDigest : row.effectDigest = receipt.effectDigest

theorem CommittedFence.says {P : Platform} {receipt : Receipt} {row : FenceRow}
    (h : CommittedFence receipt row) (hvalid : receipt.validate P = true)
    (hstatus : receipt.status = .committed) : CommittedFence.Says P receipt row := by
  obtain ⟨⟨activationID, effectDigest, point, reservedAt, boundAt, terminalAt, hactivation,
    hreserved, hbound, hterminal, heffect, hpoint, hrow⟩, -⟩ := h
  have hparts := hvalid
  simp only [Receipt.validate, validBinding, hstatus, heffect, hpoint, Bool.and_eq_true,
    bne_iff_ne, Option.isNone_iff_eq_none] at hparts
  obtain ⟨⟨⟨⟨hreservation, -⟩, hdigest, hpointValid⟩, -, hreason⟩, -⟩ := hparts
  simp only [bindAuthorityFenceEffect, pendingClaimV1Fence, pendingFence, FenceRow.pending,
    activateCommittedAuthorityFence, beq_self_eq_true, Bool.and_self, Option.isNone_none, if_true,
    Option.bind_some, Option.some.injEq] at hrow
  have hreceipt : row.receipt receipt.reservation.operationID = some receipt := by
    rw [← hrow]
    cases receipt
    dsimp only at heffect hpoint hstatus hreason
    subst heffect hpoint hstatus hreason
    rfl
  subst hrow
  refine ⟨fun hreservationDigest => ⟨⟨hreservation, hreservationDigest, hreserved, ?_, ?_, ?_, ?_,
    ?_⟩, ?_, ?_⟩, rfl, hreceipt, rfl, rfl, rfl, rfl, heffect.symm⟩
  · simpa using hbound
  · simpa using hdigest
  · intro p hp
    obtain rfl : point = p := Option.some.inj hp
    exact hpointValid
  · simpa using hterminal
  · intro other hother
    rw [hreceipt] at hother
    exact Option.some.inj hother ▸ hvalid
  · exact hactivation
  · simp

/-! ## Storing and reading -/

namespace BuiltOutcome

/-- None of the digests that the reader asks for is zero. -/
structure NonzeroDigests (built : BuiltOutcome P) : Prop where
  reservation : built.input.receipt.reservation.reservationDigest ≠ Digest.zero
  providerHead : built.input.providerHead.digest ≠ Digest.zero
  evidence : built.evidence.digest ≠ Digest.zero
  resolution : built.resolution.digest ≠ Digest.zero

/-- The proof of an outcome is terminal. -/
theorem proofGroup_phase (built : BuiltOutcome P) : built.proofGroup.phase = .terminal := by
  simp [ProofGroup.phase, ProofGroup.allNull, ProofGroup.terminalProofAbsent, proofGroup]

theorem pairValid_artifact {α : Type} {artifact : Artifact α} {domain : Bytes}
    {wire : List (Bytes × Bytes)} (h : canonicalAuthorityArtifact P.toPlatform domain wire =
      some (artifact.canonical, artifact.digest)) :
    ProofGroup.pairValid (some artifact.canonical) (some artifact.digest.1) = true := by
  simp only [canonicalAuthorityArtifact, Option.bind_eq_bind, Option.bind_eq_some_iff,
    Option.guard_eq_some', Option.pure_def, Option.some.injEq, Prod.mk.injEq] at h
  obtain ⟨canonical, -, -, hlength, rfl, -⟩ := h
  simp only [ProofGroup.pairValid, Option.isNone_some, beq_self_eq_true, Option.all_some,
    Bool.true_and, Bool.and_eq_true, decide_eq_true_eq, beq_iff_eq]
  exact ⟨hlength, artifact.digest.2⟩

/-- The table admits the row of a final outcome. -/
theorem proofGroupValid_of_final (built : BuiltOutcome P)
    (hmode : built.commitment.facts.mode = .finalNotApplied) :
    proofGroupValid built.proofGroup = true := by
  obtain ⟨hevidence, hnone, -, hexpires, hdeadline, hexpected⟩ := built.final_evidence hmode
  obtain ⟨-, -, -, -, -, hresolution⟩ := newAuthorityEffectResolution_eq_ok built.resolution_built
  obtain ⟨-, hreason⟩ := built.final_resolution hmode
  obtain ⟨facts, hfacts⟩ := built.commitment_built
  obtain ⟨-, inputs, policy, -, hcommitment, -⟩ := newAuthorityEffectCommitment_eq_some hfacts
  obtain ⟨head, hhead⟩ := built.head_built
  obtain ⟨point, -, hsnapshot, -⟩ := newAuthorityProviderHeadSnapshot_eq_some hhead
  have hbounds : built.proofGroup.terminalBounds built.reason = true := by
    simp [ProofGroup.terminalBounds, proofGroup, hnone, hexpires, hdeadline, hexpected,
      storedInstant, storedDigest, hreason]
  have hshape : built.proofGroup.terminalShape = true := by
    rw [ProofGroup.terminalShape, proofGroup, Option.any_some]
    exact hbounds
  simp only [proofGroupValid, Bool.and_eq_true, hshape, Bool.or_true, and_true]
  refine ⟨⟨⟨⟨⟨pairValid_artifact hcommitment, pairValid_artifact hsnapshot⟩, ?_⟩,
    pairValid_artifact hevidence.text⟩, pairValid_artifact hresolution⟩, ?_⟩
  · rw [proofGroup, hnone]
    rfl
  · simp [proofGroup, hexpected, storedDigest]

/-- The artifacts of a final outcome are read back from their columns. -/
theorem holds_of_final (hP : P.Documented) (built : BuiltOutcome P)
    (hmode : built.commitment.facts.mode = .finalNotApplied) (hdigests : built.NonzeroDigests) :
    ReadFrom P (some built.input.receipt) built.proofGroup built.outcome := by
  obtain ⟨hevidence, hnone, hfacts, hexpires, hdeadline, hexpected⟩ := built.final_evidence hmode
  obtain ⟨-, -, hanchor, hresolved, -, hresolution⟩ :=
    newAuthorityEffectResolution_eq_ok built.resolution_built
  obtain ⟨hpair, -⟩ := built.final_resolution hmode
  obtain ⟨hreceipt, -, -, hdigest, -, -, hscope⟩ := built.receipt_checked
  obtain ⟨commitmentFacts, hcommitment⟩ := built.commitment_built
  obtain ⟨head, hhead⟩ := built.head_built
  have hscopeDigest : commitmentFacts.scopeDigest ≠ Digest.zero := by
    obtain ⟨-, _, _, -, -, heq⟩ := newAuthorityEffectCommitment_eq_some hcommitment
    have hsame : commitmentFacts.scopeDigest = built.input.receipt.reservation.scopeDigest := by
      rw [← hscope, commitment, heq]
    rw [hsame]
    simp only [Receipt.validate, Reservation.validate, ReserveRequest.validate, Bool.and_eq_true,
      bne_iff_ne] at hreceipt
    exact hreceipt.1.1.1.1.1.1.1.1.1.2
  refine ⟨⟨built.input.receipt, built.reason,
    (built.commitment.canonical, built.commitment.digest),
    (built.input.providerHead.canonical, built.input.providerHead.digest),
    (built.evidence.canonical, built.evidence.digest),
    (built.resolution.canonical, built.resolution.digest), rfl, rfl,
    ⟨rfl, rfl, hdigest, ?_⟩, ⟨rfl, rfl, hdigests.providerHead, ?_⟩,
    ⟨rfl, rfl, hdigests.evidence, ?_⟩, ⟨rfl, rfl, hdigests.resolution, ?_⟩, ?_⟩, ?_, ?_⟩
  · rw [computedDigest, commitment,
      parse_newAuthorityEffectCommitment hP hcommitment hscopeDigest]
    rfl
  · rw [computedDigest, parse_newAuthorityProviderHeadSnapshot hP hhead]
    rfl
  · rw [computedDigest, parse_activationEvidenceWire hP hfacts hdigests.providerHead hevidence.text]
    rfl
  · rw [hresolved] at hresolution
    rw [computedDigest, parse_authorityEffectResolutionV1 hP hdigest hanchor hpair hresolution]
    rfl
  · simp [readOutcome, outcome, hnone, hexpires, hdeadline, hexpected]
  · simp [proofGroup, hnone]
  · simp [proofGroup, hexpires, storedInstant]

/-- The database holds the committed fence of the outcome and, as the only owner of the operation,
the row with the outcome. -/
structure StoredIn (built : BuiltOutcome P) (db : ClaimDatabase) (row : FenceRow) : Prop where
  committed : CommittedFence built.input.receipt row
  fence : db.fences built.operationID = some row
  owner : db.ownersOf built.operationID =
    [⟨built.operationID, row.effectKind, built.proofGroup⟩]

theorem claimV1Kind_of_ne {kind : EffectKind}
    (h : kind ≠ .trustBundlePublish ∧ kind ≠ .operatorAuthorizerChange) :
    claimV1Kind kind = true := by
  cases kind <;> simp_all [claimV1Kind]

/-- With a row that its table admits this is a state that the database admits. -/
theorem StoredIn.admits {built : BuiltOutcome P} {db : ClaimDatabase} {row : FenceRow}
    (h : built.StoredIn db row) (hvalid : proofGroupValid built.proofGroup = true) :
    db.Admits built.operationID row := by
  obtain ⟨hreceipt, hstatus, heffect, -, -, hkind, -⟩ := built.receipt_checked
  have hnamed := h.committed.says hreceipt hstatus
  have hdigest : built.proofGroup.commitmentDigest = row.effectDigest.map Subtype.val := by
    rw [hnamed.effectDigest, heffect]
    rfl
  refine ⟨h.fence, h.committed.check, hnamed.profile, ?_, ?_, ?_, ?_⟩
  · obtain ⟨facts, hfacts⟩ := built.commitment_built
    obtain ⟨hchecked, _, _, -, -, heq⟩ := newAuthorityEffectCommitment_eq_some hfacts
    rw [hnamed.effectKind, ← hkind, commitment, heq]
    exact claimV1Kind_of_ne hchecked.kind
  · simp [h.owner, hvalid]
  · simp [h.owner]
  · simp [ownersAdmitted, hnamed.status, h.owner, built.proofGroup_phase, hdigest]

/-- What the readers return for a stored outcome that its table admits. -/
theorem StoredIn.returns_iff {built : BuiltOutcome P} {db : ClaimDatabase} {row : FenceRow}
    (h : built.StoredIn db row) (hvalid : proofGroupValid built.proofGroup = true)
    {stored : StoredFence} :
    returns db (getStoredFence P built.operationID) = .ok stored ↔
      row.Sound P.toPlatform built.operationID ∧ ∃ outcome,
        ReadFrom P (some built.input.receipt) built.proofGroup outcome ∧
          ⟨row.record built.operationID, none, some outcome⟩ = stored := by
  obtain ⟨hreceipt, hstatus, -⟩ := built.receipt_checked
  have hnamed := h.committed.says hreceipt hstatus
  have hterminal : (row.record built.operationID).terminalReceipt = some built.input.receipt :=
    hnamed.terminalReceipt
  simp only [returns_eq_ok (h.admits hvalid), h.owner, outcomeOf_cons,
    outcome_terminal hvalid built.proofGroup_phase, hterminal, hnamed.abortClaim]
  constructor
  · rintro ⟨hsound, _, ⟨read, hread, rfl⟩, hstored⟩
    exact ⟨hsound, read, hread, hstored⟩
  · rintro ⟨hsound, read, hread, hstored⟩
    exact ⟨hsound, _, ⟨read, hread, rfl⟩, hstored⟩

/-- An outcome with a checkpoint or with bounds is not read back. -/
theorem conditional_unreadable {built : BuiltOutcome P}
    {receipt : Option Receipt} {outcome : PersistedAuthorityEffectOutcome}
    (hmode : built.commitment.facts.mode = .conditionalApply) :
    ¬ReadFrom P receipt built.proofGroup outcome := by
  intro hread
  rcases built.conditional_evidence hmode with hcheckpoint | hexpires
  · exact absurd (Option.map_eq_none_iff.mp hread.checkpoint) hcheckpoint
  · have hbounds := hread.bounds
    simp [proofGroup, storedInstant, hexpires] at hbounds

end BuiltOutcome

/-- The row of an outcome that the constructors have made is admitted by its table, and
`GetStoredFence` and `Lock` return the outcome unchanged, exactly when the commitment was to a final
outcome and no digest is zero. -/
theorem stored_outcome_read_iff (P : ArtifactPlatform) (hP : P.Documented) (built : BuiltOutcome P)
    (db : ClaimDatabase) (row : FenceRow) (h : built.StoredIn db row) :
    (proofGroupValid built.proofGroup = true ∧
      returns db (getStoredFence P built.operationID) =
        .ok ⟨row.record built.operationID, none, some built.outcome⟩ ∧
      returns db (lock P built.operationID) =
        .ok ⟨row.record built.operationID, none, some built.outcome⟩) ↔
      built.commitment.facts.mode = .finalNotApplied ∧ built.NonzeroDigests := by
  obtain ⟨hreceipt, hstatus, -⟩ := built.receipt_checked
  have hnamed := h.committed.says hreceipt hstatus
  rw [returns_lock, and_self]
  constructor
  · rintro ⟨hvalid, hreturns⟩
    obtain ⟨hsound, _, hread, -⟩ := (h.returns_iff hvalid).mp hreturns
    refine ⟨?_, ?_⟩
    · cases hmode : built.commitment.facts.mode with
      | finalNotApplied => rfl
      | conditionalApply => exact absurd hread (BuiltOutcome.conditional_unreadable hmode)
    · obtain ⟨⟨_, _, _, head, evidence, resolution, -, -, -, hhead, hevidence, hresolution, -⟩, -,
        -⟩ := hread
      have hne : ∀ {digest : Digest} {value : Bytes × Digest}, some digest.1 = some value.2.1 →
          value.2 ≠ Digest.zero → digest ≠ Digest.zero := by
        intro digest value heq hvalue
        rwa [Subtype.ext (Option.some.inj heq)]
      exact
        { reservation := hnamed.reservationDigest ▸ hsound.reservationDigest
          providerHead := hne hhead.2.1 hhead.2.2.1
          evidence := hne hevidence.2.1 hevidence.2.2.1
          resolution := hne hresolution.2.1 hresolution.2.2.1 }
  · rintro ⟨hmode, hdigests⟩
    have hvalid := built.proofGroupValid_of_final hmode
    exact ⟨hvalid, (h.returns_iff hvalid).mpr
      ⟨hnamed.sound hdigests.reservation, _, built.holds_of_final hP hmode hdigests, rfl⟩⟩

/-! ## Building an outcome -/

/-- A commitment that was made passes its check. -/
theorem validAuthorityEffectCommitment_of_new {P : Platform}
    {facts : AuthorityEffectCommitmentFacts} {value : AuthorityEffectCommitment}
    (h : newAuthorityEffectCommitment P facts = some value) (hdigest : value.digest ≠ Digest.zero) :
    validAuthorityEffectCommitment P value = true := by
  obtain ⟨-, inputs, policy, hpolicy, htext, heq⟩ := newAuthorityEffectCommitment_eq_some h
  have hnil : value.canonical ≠ [] := by
    simp only [canonicalAuthorityArtifact, Option.bind_eq_bind, Option.bind_eq_some_iff,
      Option.guard_eq_some', Option.pure_def, Option.some.injEq, Prod.mk.injEq] at htext
    obtain ⟨canonical, -, -, hlength, rfl, -⟩ := htext
    exact List.ne_nil_of_length_pos hlength.1
  have hrebuilt : (if value.facts.mode = .finalNotApplied then
      { value.facts with activationInputsDigest := Digest.zero } else value.facts) = facts := by
    rw [heq]
    obtain ⟨_, _, _, _, _, _, _, mode, _, _, digest⟩ := facts
    cases mode <;>
      simp only [commitmentPolicy, Option.bind_eq_bind, Option.bind_eq_some_iff,
        Option.guard_eq_some', Option.pure_def, Option.some.injEq, Prod.mk.injEq] at hpolicy
    · obtain ⟨-, -, rfl, -⟩ := hpolicy
      rfl
    · obtain ⟨-, ⟨-, -, rfl⟩, -, -⟩ := hpolicy
      rfl
  rw [validAuthorityEffectCommitment, hrebuilt, h]
  simp [hnil, hdigest]

theorem validAuthorityProviderHead_of_new {P : Platform} {head : Head}
    {value : AuthorityProviderHeadSnapshot}
    (h : newAuthorityProviderHeadSnapshot P head = some value) :
    validAuthorityProviderHead P value = true := by
  obtain ⟨-, -, -, heq⟩ := newAuthorityProviderHeadSnapshot_eq_some h
  rw [validAuthorityProviderHead, heq, h]
  simp

/-- The admission of captured evidence. -/
def captureAdmission (evidence : ActivationDecisionEvidence) (deadline : Instant) :
    ActivationAdmission where
  consumed := false
  operationID := evidence.facts.operationID
  commitmentDigest := evidence.facts.commitmentDigest
  evidenceDigest := evidence.digest
  deadline := deadline

section Building

variable (h : EvidenceChecked P input evidence checkpointDigest)
  (hfacts : evidence.facts = evidenceFacts input checkpointDigest)
include h hfacts

/-- Evidence is built from an input that passes the checks. -/
theorem EvidenceChecked.build {origin : ActivationEvidenceOrigin} (horigin : origin ≠ .none)
    (admission : Option ActivationAdmission) :
    buildActivationDecisionEvidence P input origin admission =
      .ok { evidence with origin := origin, admission := admission } := by
  have htext := h.text
  simp only [buildActivationDecisionEvidence, validateEvidenceTimeAndMatrix, bind_eq_ok,
    require_eq_ok, orThrow_eq_ok, pure_eq_ok, Bool.and_eq_true]
  refine ⟨(), horigin, (), h.valid, checkpointDigest, h.checkpoint, (), ⟨h.time, h.matrix⟩, _,
    htext, ?_⟩
  have hartifact : evidence.toArtifact =
      ⟨evidenceFacts input checkpointDigest, evidence.canonical, evidence.digest⟩ := by
    rw [← hfacts]
  rw [hartifact]
  rfl

/-- Evidence without a trusted time. -/
theorem EvidenceChecked.new (hkind : input.material.trustedTimeKind = .none) :
    newActivationDecisionEvidence P input =
      .ok { evidence with origin := .fresh, admission := none } := by
  rw [newActivationDecisionEvidence, require_of hkind, ok_bind, h.build hfacts (by simp) none]

/-- Evidence that is captured with a trusted time. -/
theorem EvidenceChecked.capture
    (hkind : input.material.trustedTimeKind = .rollbackResistant) {started now deadline : Instant}
    (hstarted : started ≠ 0)
    (hbudget : input.material.trustedInstant.instant < input.material.evidenceValidUntil.instant)
    (hdeadline : addCaptureDuration started (min (input.material.evidenceValidUntil.instant -
      input.material.trustedInstant.instant) (5 * second)) = some deadline)
    (hnow : now < deadline) :
    completeActivationEvidenceCapture P started now false input =
      .ok { evidence with
        origin := .fresh, admission := some (captureAdmission evidence deadline) } := by
  simp only [completeActivationEvidenceCapture, bind_eq_ok, require_eq_ok, orThrow_eq_ok,
    pure_eq_ok]
  exact ⟨(), hstarted, (), trivial, (), hkind, _, h.build hfacts (by simp) none, (),
    Int.sub_pos.mpr hbudget, deadline, hdeadline, (), hnow, rfl⟩

/-- Fresh evidence is validated. -/
theorem EvidenceChecked.validate (horigin : evidence.origin = .fresh) (htime : evidence.facts.trustedTimeKind = .none →
      evidence.admission = none) :
    validateActivationDecisionEvidence P evidence input =
      .ok ⟨evidence, input, .fresh, evidence.admission, true⟩ := by
  simp only [validateActivationDecisionEvidence, bind_eq_ok, require_eq_ok, pure_eq_ok, horigin]
  refine ⟨(), by simp, _, h.build hfacts (by simp) _, (), ⟨rfl, rfl, rfl⟩, ?_⟩
  by_cases hkind : evidence.facts.trustedTimeKind = .none
  · simp [hkind, htime hkind]
  · simp [hkind]

theorem EvidenceChecked.validValidated (admission : Option ActivationAdmission) :
    validValidatedEvidence P ⟨evidence, input, .fresh, admission, true⟩ = true := by
  simp [validValidatedEvidence, h.build hfacts
    (show ActivationEvidenceOrigin.fresh ≠ .none by simp) admission]

/-- The resolution of a decision that its matrix admits. -/
theorem EvidenceChecked.resolve (resolution : AuthorityEffectResolution)
    (hcommitment : validAuthorityEffectCommitment P.toPlatform input.material.commitment = true)
    (hdigest : resolution.facts.commitmentDigest = input.material.commitment.digest)
    (hanchor : resolution.facts.anchorDigest ≠ Digest.zero)
    (hmatrix : validateResolutionMatrix resolution.facts input.material.commitment
      ⟨evidence, input, .fresh, evidence.admission, true⟩ true = .ok ())
    (htext : canonicalAuthorityArtifact P.toPlatform authorityEffectResolutionDomain
      (authorityEffectResolutionV1 resolution.facts) =
        some (resolution.canonical, resolution.digest)) :
    newAuthorityEffectResolution P ⟨input.material.commitment, resolution.facts.disposition,
      resolution.facts.reason, resolution.facts.anchorKind, resolution.facts.anchorDigest,
      ⟨evidence, input, .fresh, evidence.admission, true⟩⟩ = .ok resolution := by
  obtain ⟨⟨_, disposition, reason, anchorKind, anchorDigest⟩, canonical, digest⟩ := resolution
  dsimp only at hdigest
  subst hdigest
  simp only [newAuthorityEffectResolution, bind_eq_ok, require_eq_ok, orThrow_eq_ok, pure_eq_ok]
  exact ⟨(), ⟨hcommitment, h.validValidated hfacts _, hanchor⟩, (), trivial, (), ⟨trivial, trivial⟩,
    (), hmatrix, _, htext, rfl⟩

end Building

/-! ### Outcomes of a grant -/

theorem plainArtifacts_documented : plainArtifacts.Documented where
  jcs := Analysis.plainTransform_rfc8785
  uuid_parse := Analysis.uuidOfText_uuidText
  uuid_ascii := Analysis.uuidText_ascii
  sha256 _ := rfl

def grantPoint : DatabasePoint := ⟨7, 1, ascii "0/16B3748"⟩

/-- A head that is past the operation. -/
def grantHead : Head where
  epoch := 1
  latestReservedSequence := 2
  latestCommittedSequence := 2
  latestReservationDigest := Octets.replicate 32 3
  latestCommittedOperationID := grantOperation
  latestCommittedReceiptDigest := Octets.replicate 32 4
  latestCommittedDatabasePoint := some grantPoint

def grantHeadSnapshot : AuthorityProviderHeadSnapshot where
  facts := grantHead
  canonical := Json.encode (stringObject
    (authorityProviderHeadV1 plainArtifacts.toPlatform grantHead grantPoint))
  digest :=
    ⟨[0x78, 0xf0, 0xd5, 0xd6, 0x5c, 0x3a, 0xbd, 0xa1, 0x84, 0xe7, 0xfd, 0x19, 0x74, 0xe8, 0xbd,
      0xc5, 0x2e, 0xa1, 0x00, 0x09, 0x71, 0x98, 0x1e, 0xda, 0xe8, 0x61, 0xf9, 0x70, 0xdc, 0xe5,
      0xcd, 0x47], rfl⟩

theorem grantHeadSnapshot_built :
    newAuthorityProviderHeadSnapshot plainArtifacts.toPlatform grantHead =
      some grantHeadSnapshot := by
  have htext : canonicalAuthorityArtifact plainArtifacts.toPlatform authorityProviderHeadDomain
      (authorityProviderHeadV1 plainArtifacts.toPlatform grantHead grantPoint) =
        some (grantHeadSnapshot.canonical, grantHeadSnapshot.digest) :=
    (authorityProviderHeadV1_printable plainArtifacts_documented
      (by decide)).canonicalAuthorityArtifact_eq plainArtifacts_documented.jcs
      (by decide) (by decide +kernel) (by decide +kernel)
  unfold newAuthorityProviderHeadSnapshot
  exact guard_bind_eq_some (by decide) (bind_eq_some rfl (bind_eq_some htext rfl))

/-- The effect of a grant under either mode. -/
def grantCommitmentFacts (mode : CommitmentMode) (reason : AuthorityEffectReason) (version : ℕ)
    (inputs : Digest) : AuthorityEffectCommitmentFacts where
  operationID := grantOperation
  kind := .grantCreate
  scopeKind := .node
  scopeDigest := Octets.replicate 32 7
  epoch := 1
  sequence := 1
  baseEffectDigest := Octets.replicate 32 9
  mode := mode
  reason := reason
  activationPolicyVersion := version
  activationInputsDigest := inputs

theorem grantScope_valid (mode : CommitmentMode) (reason : AuthorityEffectReason) (version : ℕ)
    (inputs : Digest) :
    let input := grantCommitmentFacts mode reason version inputs
    validOperationID input.operationID = true ∧ input.kind ≠ .trustBundlePublish ∧
      input.kind ≠ .operatorAuthorizerChange ∧
      validEffectScope input.kind input.scopeKind = true ∧
      validScopeDigest plainArtifacts.toPlatform input.scopeKind input.scopeDigest = true ∧
      validPositiveCoordinate input.epoch = true ∧ validPositiveCoordinate input.sequence = true ∧
      input.baseEffectDigest ≠ Digest.zero := by
  have hscope := grantReservation_valid
  simp only [Reservation.validate, ReserveRequest.validate, Bool.and_eq_true] at hscope
  obtain ⟨⟨⟨⟨⟨⟨hid, -⟩, heffect⟩, hdigest⟩, -⟩, -⟩, -⟩ := hscope
  have hone : validPositiveCoordinate 1 = true := by decide
  exact ⟨hid, show EffectKind.grantCreate ≠ .trustBundlePublish by decide,
    show EffectKind.grantCreate ≠ .operatorAuthorizerChange by decide, heffect, hdigest, hone, hone,
    show (Octets.replicate 32 9 : Digest) ≠ Digest.zero by decide⟩

/-- The receipt of a committed grant. -/
def grantReceipt (effectDigest receiptDigest : Digest) : Receipt where
  reservation := grantReservation
  effectDigest := some effectDigest
  databasePoint := some grantPoint
  status := .committed
  abortReason := none
  receiptDigest := receiptDigest

theorem grantReceipt_valid {effectDigest digest : Digest} (heffect : effectDigest ≠ Digest.zero)
    (hne : digest ≠ Digest.zero)
    (hdigest : receiptDigest plainArtifacts.toPlatform (grantReceipt effectDigest digest) =
      some digest) :
    (grantReceipt effectDigest digest).validate plainArtifacts.toPlatform = true := by
  have hreservation : (grantReceipt effectDigest digest).reservation.validate
    plainArtifacts.toPlatform = true := grantReservation_valid
  have hpoint : grantPoint.validate = true := by decide
  rw [Receipt.validate, hreservation, hdigest]
  simp [grantReceipt, validBinding, heffect, hne, hpoint]

/-- The row of the committed fence of a grant. -/
def committedGrantFence (effectDigest receiptDigest : Digest) : FenceRow :=
  { reservedGrantFence with
    effectDigest := some effectDigest
    dbSystemID := some grantPoint.systemID
    dbTimeline := some grantPoint.timeline
    requiredLSN := some grantPoint.requiredLSN
    effectBoundAt := some (2 * second)
    providerStatus := .committed
    providerReceiptDigest := some receiptDigest
    visibilityState := .active
    terminalAt := some (3 * second) }

theorem committedGrantFence_committed (effectDigest receiptDigest : Digest) :
    CommittedFence (grantReceipt effectDigest receiptDigest)
      (committedGrantFence effectDigest receiptDigest) where
  written := ⟨grantOperation, effectDigest, grantPoint, 1 * second, 2 * second, 3 * second,
    by decide, by decide, by decide, by decide, rfl, rfl, by
      simp [bindAuthorityFenceEffect, activateCommittedAuthorityFence, pendingClaimV1Fence,
        pendingFence, FenceRow.pending, committedGrantFence, reservedGrantFence, grantReceipt]⟩
  check := rfl

/-- The database with one fence and its owner. -/
def withOwner (row : FenceRow) (proof : ProofGroup) : ClaimDatabase where
  fences operationID := if operationID = grantOperation then some row else none
  owners := [⟨grantOperation, row.effectKind, proof⟩]

theorem withOwner_fence (row : FenceRow) (proof : ProofGroup) :
    (withOwner row proof).fences grantOperation = some row := by
  simp [withOwner]

theorem withOwner_owner (row : FenceRow) (proof : ProofGroup) :
    (withOwner row proof).ownersOf grantOperation = [⟨grantOperation, row.effectKind, proof⟩] := by
  simp [withOwner, ClaimDatabase.ownersOf]

/-! #### A grant that failed -/

def failedGrantCommitment : AuthorityEffectCommitment where
  facts := grantCommitmentFacts .finalNotApplied .failed 0
    ⟨[0xea, 0xfc, 0x86, 0x58, 0xc2, 0xb1, 0xeb, 0xcf, 0xce, 0x12, 0x91, 0x76, 0xac, 0x4e, 0x10,
      0xce, 0x69, 0x8e, 0x5d, 0xc6, 0xfc, 0x01, 0x20, 0x12, 0x18, 0x4d, 0x60, 0x4e, 0x6e, 0x9b,
      0x69, 0xaa], rfl⟩
  canonical := Json.encode (stringObject (authorityEffectCommitmentV1 plainArtifacts.toPlatform
    (grantCommitmentFacts .finalNotApplied .failed 0
      ⟨[0xea, 0xfc, 0x86, 0x58, 0xc2, 0xb1, 0xeb, 0xcf, 0xce, 0x12, 0x91, 0x76, 0xac, 0x4e, 0x10,
        0xce, 0x69, 0x8e, 0x5d, 0xc6, 0xfc, 0x01, 0x20, 0x12, 0x18, 0x4d, 0x60, 0x4e, 0x6e, 0x9b,
        0x69, 0xaa], rfl⟩) (ascii "none")))
  digest :=
    ⟨[0xc7, 0x07, 0x8d, 0xaf, 0x89, 0x76, 0x80, 0xfc, 0xe1, 0x40, 0xb3, 0x1a, 0x03, 0xc3, 0xcb,
      0x74, 0xdd, 0xb9, 0x52, 0x4a, 0xfc, 0x99, 0x0d, 0xb9, 0x95, 0xf7, 0x73, 0x55, 0x56, 0x34,
      0x7a, 0x94], rfl⟩

theorem failedGrantCommitment_built : newAuthorityEffectCommitment plainArtifacts.toPlatform
    (grantCommitmentFacts .finalNotApplied .failed 0 Digest.zero) = some failedGrantCommitment := by
  have htext : canonicalAuthorityArtifact plainArtifacts.toPlatform authorityEffectCommitmentDomain
      (authorityEffectCommitmentV1 plainArtifacts.toPlatform failedGrantCommitment.facts
        (ascii "none")) = some (failedGrantCommitment.canonical, failedGrantCommitment.digest) :=
    (authorityEffectCommitmentV1_printable plainArtifacts_documented _
      (ascii_of_all (by decide))).canonicalAuthorityArtifact_eq plainArtifacts_documented.jcs
      (by decide) (by decide +kernel) (by decide +kernel)
  have hpolicy : commitmentPolicy plainArtifacts.toPlatform
      (grantCommitmentFacts .finalNotApplied .failed 0 Digest.zero) =
        some (failedGrantCommitment.facts.activationInputsDigest, ascii "none") := by
    decide +kernel
  unfold newAuthorityEffectCommitment
  exact guard_bind_eq_some (grantScope_valid _ _ _ _)
    (bind_eq_some hpolicy (bind_eq_some htext rfl))

def failedGrantReceipt : Receipt :=
  grantReceipt failedGrantCommitment.digest
    ⟨[0x9a, 0x2a, 0x32, 0x6b, 0x30, 0x47, 0x6f, 0xaf, 0x64, 0x15, 0x8b, 0x7a, 0x13, 0x45, 0xba,
      0x7b, 0xbc, 0xc6, 0x63, 0x00, 0xc2, 0x39, 0x7a, 0x8a, 0x22, 0x96, 0x33, 0x36, 0xc2, 0xf6,
      0x56, 0xfa], rfl⟩

theorem failedGrantReceipt_valid : failedGrantReceipt.validate plainArtifacts.toPlatform = true :=
  grantReceipt_valid (by decide) (by decide) (by decide +kernel)

def failedGrantInput : ActivationDecisionEvidenceInput where
  material :=
    { commitment := failedGrantCommitment
      reason := .failed
      checkpointKind := .none
      checkpointScopeDigest := Digest.zero
      trustedTimeKind := .none
      trustedInstant := ⟨0, true⟩
      evidenceValidUntil := ⟨0, true⟩
      attestationExpiresAt := ⟨0, true⟩
      activationDeadline := ⟨0, true⟩
      providerIdentityDigest := Digest.zero
      expectedProviderIdentityDigest := Digest.zero
      floorAttestationDigest := Digest.zero
      capability := .notAppliedOnly }
  receipt := failedGrantReceipt
  providerHead := grantHeadSnapshot
  checkpoint := none

def failedGrantEvidence : ActivationDecisionEvidence where
  facts := evidenceFacts failedGrantInput Digest.zero
  canonical := Json.encode (stringObject (activationEvidenceWire plainArtifacts
    (evidenceFacts failedGrantInput Digest.zero)))
  digest :=
    ⟨[0x72, 0x99, 0xb3, 0x8d, 0x2d, 0xe9, 0x41, 0x82, 0xb5, 0x35, 0x02, 0xc2, 0x84, 0x30, 0xda,
      0xa0, 0x70, 0x6c, 0xc3, 0xfc, 0x4a, 0x1a, 0x59, 0x08, 0xd8, 0xbd, 0xb2, 0x41, 0x38, 0x9c,
      0x00, 0x0c], rfl⟩
  origin := .fresh
  admission := none

theorem failedGrantCommitment_valid :
    validAuthorityEffectCommitment plainArtifacts.toPlatform failedGrantCommitment = true :=
  validAuthorityEffectCommitment_of_new failedGrantCommitment_built (by decide)

theorem failedGrantEvidence_checked :
    EvidenceChecked plainArtifacts failedGrantInput failedGrantEvidence Digest.zero where
  valid := by
    rw [evidenceInputValid,
      show validAuthorityEffectCommitment _ failedGrantInput.material.commitment = true from
        failedGrantCommitment_valid,
      show failedGrantInput.receipt.validate _ = true from failedGrantReceipt_valid,
      show validAuthorityProviderHead _ failedGrantInput.providerHead = true from
        validAuthorityProviderHead_of_new grantHeadSnapshot_built]
    decide
  checkpoint := rfl
  time := by decide
  matrix := by decide
  text := (activationEvidenceWire_printable plainArtifacts_documented
    (evidenceTimeText_ascii_of_none rfl)).canonicalAuthorityArtifact_eq plainArtifacts_documented.jcs (by decide)
    (by decide +kernel) (by decide +kernel)

def failedGrantResolution : AuthorityEffectResolution where
  facts := ⟨failedGrantCommitment.digest, .notApplied, .failed, .finalCommitment,
    failedGrantCommitment.digest⟩
  canonical := Json.encode (stringObject (authorityEffectResolutionV1
    ⟨failedGrantCommitment.digest, .notApplied, .failed, .finalCommitment,
      failedGrantCommitment.digest⟩))
  digest :=
    ⟨[0xea, 0x42, 0xc2, 0x7b, 0x2c, 0xd8, 0xd7, 0x51, 0xab, 0xfd, 0xd8, 0x90, 0xd7, 0xe6, 0x01,
      0x91, 0xe2, 0x03, 0x8b, 0xf2, 0x29, 0xf8, 0x53, 0x56, 0xf9, 0xf0, 0x11, 0x5d, 0xe5, 0x75,
      0x18, 0xe4], rfl⟩

def failedGrant : BuiltOutcome plainArtifacts where
  input := failedGrantInput
  evidence := failedGrantEvidence
  proof := ⟨failedGrantEvidence, failedGrantInput, .fresh, none, true⟩
  disposition := .notApplied
  reason := .failed
  anchorKind := .finalCommitment
  anchorDigest := failedGrantCommitment.digest
  resolution := failedGrantResolution
  commitment_built := ⟨_, failedGrantCommitment_built⟩
  head_built := ⟨_, grantHeadSnapshot_built⟩
  checkpoint_built := fun _ h => (Option.not_mem_none _ h).elim
  evidence_built := Or.inl (failedGrantEvidence_checked.new rfl rfl)
  evidence_validated := failedGrantEvidence_checked.validate rfl rfl fun _ => rfl
  resolution_built := failedGrantEvidence_checked.resolve rfl failedGrantResolution
    failedGrantCommitment_valid rfl (by decide) rfl
    ((authorityEffectResolutionV1_printable _).canonicalAuthorityArtifact_eq
      plainArtifacts_documented.jcs (by decide) (by decide +kernel) (by decide +kernel))

def failedGrantFence : FenceRow :=
  committedGrantFence failedGrantCommitment.digest failedGrantReceipt.receiptDigest

def failedGrantDatabase : ClaimDatabase := withOwner failedGrantFence failedGrant.proofGroup

/-- A final outcome is read back. -/
theorem failed_grant_read :
    failedGrant.StoredIn failedGrantDatabase failedGrantFence ∧
    proofGroupValid failedGrant.proofGroup = true ∧
    returns failedGrantDatabase (getStoredFence plainArtifacts failedGrant.operationID) =
      .ok ⟨failedGrantFence.record failedGrant.operationID, none, some failedGrant.outcome⟩ ∧
    returns failedGrantDatabase (lock plainArtifacts failedGrant.operationID) =
      .ok ⟨failedGrantFence.record failedGrant.operationID, none, some failedGrant.outcome⟩ := by
  have hstored : failedGrant.StoredIn failedGrantDatabase failedGrantFence :=
    ⟨committedGrantFence_committed _ _, withOwner_fence _ _, withOwner_owner _ _⟩
  exact ⟨hstored, (stored_outcome_read_iff plainArtifacts plainArtifacts_documented failedGrant _ _
    hstored).mpr ⟨rfl, by decide, by decide, by decide, by decide⟩⟩

/-! #### A grant that was applied -/

def appliedGrantCommitment : AuthorityEffectCommitment where
  facts := grantCommitmentFacts .conditionalApply .none 1 (Octets.replicate 32 5)
  canonical := Json.encode (stringObject (authorityEffectCommitmentV1 plainArtifacts.toPlatform
    (grantCommitmentFacts .conditionalApply .none 1 (Octets.replicate 32 5)) (ascii "1")))
  digest :=
    ⟨[0x4b, 0xf6, 0xbe, 0x50, 0x41, 0x8a, 0x3a, 0x21, 0x1a, 0x4e, 0x7f, 0xdb, 0x1f, 0xf4, 0x9e,
      0xdb, 0xec, 0x08, 0x7d, 0xd4, 0xc4, 0xa5, 0xc8, 0xb2, 0xee, 0x9a, 0x82, 0xc7, 0xc0, 0xbe,
      0x26, 0x4a], rfl⟩

theorem appliedGrantCommitment_built : newAuthorityEffectCommitment plainArtifacts.toPlatform
    (grantCommitmentFacts .conditionalApply .none 1 (Octets.replicate 32 5)) =
      some appliedGrantCommitment := by
  have htext : canonicalAuthorityArtifact plainArtifacts.toPlatform authorityEffectCommitmentDomain
      (authorityEffectCommitmentV1 plainArtifacts.toPlatform appliedGrantCommitment.facts
        (ascii "1")) = some (appliedGrantCommitment.canonical, appliedGrantCommitment.digest) :=
    (authorityEffectCommitmentV1_printable plainArtifacts_documented _
      (ascii_of_all (by decide))).canonicalAuthorityArtifact_eq plainArtifacts_documented.jcs
      (by decide) (by decide +kernel) (by decide +kernel)
  have hpolicy : commitmentPolicy plainArtifacts.toPlatform
      (grantCommitmentFacts .conditionalApply .none 1 (Octets.replicate 32 5)) =
        some (Octets.replicate 32 5, ascii "1") := by
    decide +kernel
  unfold newAuthorityEffectCommitment
  exact guard_bind_eq_some (grantScope_valid _ _ _ _)
    (bind_eq_some hpolicy (bind_eq_some htext rfl))

theorem appliedGrantCommitment_valid :
    validAuthorityEffectCommitment plainArtifacts.toPlatform appliedGrantCommitment = true :=
  validAuthorityEffectCommitment_of_new appliedGrantCommitment_built (by decide)

def appliedGrantReceipt : Receipt :=
  grantReceipt appliedGrantCommitment.digest
    ⟨[0x66, 0xef, 0x45, 0xd1, 0x06, 0x22, 0xd3, 0x87, 0x9b, 0xc2, 0x40, 0xaa, 0xed, 0xac, 0x3d,
      0xbf, 0xef, 0x1d, 0xf6, 0x35, 0x7a, 0x75, 0x9a, 0x4c, 0x65, 0x84, 0xe7, 0x88, 0xc3, 0x08,
      0x04, 0xd7], rfl⟩

theorem appliedGrantReceipt_valid :
    appliedGrantReceipt.validate plainArtifacts.toPlatform = true :=
  grantReceipt_valid (by decide) (by decide) (by decide +kernel)

def appliedGrantInput : ActivationDecisionEvidenceInput where
  material :=
    { commitment := appliedGrantCommitment
      reason := .none
      checkpointKind := .none
      checkpointScopeDigest := Digest.zero
      trustedTimeKind := .rollbackResistant
      trustedInstant := ⟨10 * second, true⟩
      evidenceValidUntil := ⟨12 * second, true⟩
      attestationExpiresAt := ⟨20 * second, true⟩
      activationDeadline := ⟨30 * second, true⟩
      providerIdentityDigest := Octets.replicate 32 6
      expectedProviderIdentityDigest := Octets.replicate 32 6
      floorAttestationDigest := Octets.replicate 32 6
      capability := .mayApply }
  receipt := appliedGrantReceipt
  providerHead := grantHeadSnapshot
  checkpoint := none

/-- The evidence, which was captured within two seconds. -/
def appliedGrantEvidence : ActivationDecisionEvidence where
  facts := evidenceFacts appliedGrantInput Digest.zero
  canonical := Json.encode (stringObject (activationEvidenceWire plainArtifacts
    (evidenceFacts appliedGrantInput Digest.zero)))
  digest :=
    ⟨[0xeb, 0xf4, 0x6f, 0x32, 0x1a, 0x66, 0x1d, 0x74, 0xc4, 0x67, 0xc8, 0x2e, 0xbd, 0xf6, 0x3b,
      0xb0, 0x9e, 0x5c, 0x07, 0x94, 0xfe, 0xfb, 0xed, 0x9f, 0x74, 0x30, 0x8c, 0x51, 0x18, 0xd0,
      0x25, 0xfe], rfl⟩
  origin := .fresh
  admission := some ⟨false, grantOperation, appliedGrantCommitment.digest,
    ⟨[0xeb, 0xf4, 0x6f, 0x32, 0x1a, 0x66, 0x1d, 0x74, 0xc4, 0x67, 0xc8, 0x2e, 0xbd, 0xf6, 0x3b,
      0xb0, 0x9e, 0x5c, 0x07, 0x94, 0xfe, 0xfb, 0xed, 0x9f, 0x74, 0x30, 0x8c, 0x51, 0x18, 0xd0,
      0x25, 0xfe], rfl⟩, 3 * second⟩

theorem appliedGrantEvidence_checked :
    EvidenceChecked plainArtifacts appliedGrantInput appliedGrantEvidence Digest.zero where
  valid := by
    rw [evidenceInputValid,
      show validAuthorityEffectCommitment _ appliedGrantInput.material.commitment = true from
        appliedGrantCommitment_valid,
      show appliedGrantInput.receipt.validate _ = true from appliedGrantReceipt_valid,
      show validAuthorityProviderHead _ appliedGrantInput.providerHead = true from
        validAuthorityProviderHead_of_new grantHeadSnapshot_built]
    decide
  checkpoint := rfl
  time := by decide +kernel
  matrix := by decide
  text := by decide +kernel

def appliedGrantResolution : AuthorityEffectResolution where
  facts := ⟨appliedGrantCommitment.digest, .applied, .none, .trustedTime,
    appliedGrantEvidence.digest⟩
  canonical := Json.encode (stringObject (authorityEffectResolutionV1
    ⟨appliedGrantCommitment.digest, .applied, .none, .trustedTime, appliedGrantEvidence.digest⟩))
  digest :=
    ⟨[0xc8, 0x2c, 0x4d, 0x24, 0xe3, 0xf0, 0xbd, 0x3e, 0xf8, 0x41, 0x12, 0xdb, 0xa2, 0xeb, 0xe6,
      0x8f, 0x85, 0x2a, 0xb8, 0x43, 0xe0, 0x27, 0xd8, 0xee, 0x4a, 0x32, 0xe4, 0xcc, 0xaa, 0x5b,
      0x2b, 0xc7], rfl⟩

def appliedGrant : BuiltOutcome plainArtifacts where
  input := appliedGrantInput
  evidence := appliedGrantEvidence
  proof := ⟨appliedGrantEvidence, appliedGrantInput, .fresh, appliedGrantEvidence.admission, true⟩
  disposition := .applied
  reason := .none
  anchorKind := .trustedTime
  anchorDigest := appliedGrantEvidence.digest
  resolution := appliedGrantResolution
  commitment_built := ⟨_, appliedGrantCommitment_built⟩
  head_built := ⟨_, grantHeadSnapshot_built⟩
  checkpoint_built := fun _ h => (Option.not_mem_none _ h).elim
  evidence_built := Or.inr ⟨1 * second, 2 * second, false,
    appliedGrantEvidence_checked.capture rfl rfl (by decide) (by decide) (by decide) (by decide)⟩
  evidence_validated := appliedGrantEvidence_checked.validate rfl rfl nofun
  resolution_built := appliedGrantEvidence_checked.resolve rfl appliedGrantResolution
    appliedGrantCommitment_valid rfl (by decide) rfl
    ((authorityEffectResolutionV1_printable _).canonicalAuthorityArtifact_eq
      plainArtifacts_documented.jcs (by decide) (by decide +kernel) (by decide +kernel))

def appliedGrantFence : FenceRow :=
  committedGrantFence appliedGrantCommitment.digest appliedGrantReceipt.receiptDigest

def appliedGrantDatabase : ClaimDatabase := withOwner appliedGrantFence appliedGrant.proofGroup

/-- The table admits the outcome of an applied grant, and neither reader returns it. -/
theorem applied_grant_unreadable :
    appliedGrant.StoredIn appliedGrantDatabase appliedGrantFence ∧
    proofGroupValid appliedGrant.proofGroup = true ∧
    ∀ stored,
      returns appliedGrantDatabase (getStoredFence plainArtifacts appliedGrant.operationID) ≠
        .ok stored ∧
      returns appliedGrantDatabase (lock plainArtifacts appliedGrant.operationID) ≠
        .ok stored := by
  have hstored : appliedGrant.StoredIn appliedGrantDatabase appliedGrantFence :=
    ⟨committedGrantFence_committed _ _, withOwner_fence _ _, withOwner_owner _ _⟩
  have hvalid : proofGroupValid appliedGrant.proofGroup = true := by decide +kernel
  refine ⟨hstored, hvalid, fun stored => ?_⟩
  rw [returns_lock, and_self]
  intro hreturns
  obtain ⟨-, _, hread, -⟩ := (hstored.returns_iff hvalid).mp hreturns
  exact BuiltOutcome.conditional_unreadable rfl hread

end Talenro.Authority
