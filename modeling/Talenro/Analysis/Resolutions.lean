import Talenro.Analysis.Admissions
import Talenro.Analysis.ParsedArtifacts
import Talenro.Lib.Json.Spelling

/-!
# Which resolutions there are

What was checked when evidence was made leaves one decision open: the mode of the commitment and
the reason of the material determine the disposition, the reason and the anchor
(`decision`), and the matrix of resolutions admits this choice and no other.
-/

set_option autoImplicit false

namespace Talenro.Authority

open Lib Lib.Json Lib.Calendar

variable {P : ArtifactPlatform} {evidence expected : ActivationDecisionEvidence}
  {input : ActivationDecisionEvidenceInput} {proof : ValidatedActivationDecisionEvidence}

/-! ## The text of a resolution -/

theorem spelled_digestString (digest : Digest) : (spelled (digestString digest)).length = 64 := by
  have hplain : Unescaped (digestString digest) := by
    intro c hc
    have hall : ∀ n, n < 16 → quotePiece (Hex.digit n) = .plain (Hex.digit n) := by decide
    obtain ⟨n, hn, rfl⟩ := Hex.exists_digit_of_mem hc
    exact hall n hn
  rw [hplain.spelled_eq, digestString, Hex.encode_length, digest.2]

theorem EffectDisposition.spelled_text (value : EffectDisposition) :
    (spelled value.text).length ≤ 11 := by
  cases value <;> decide

theorem AuthorityEffectReason.spelled_text (value : AuthorityEffectReason) :
    (spelled value.text).length ≤ 27 := by
  cases value <;> decide

theorem DecisionAnchorKind.spelled_text (value : DecisionAnchorKind) :
    (spelled value.text).length ≤ 16 := by
  cases value <;> decide

/-- Every resolution has a canonical text, and it is short enough. -/
theorem resolution_text (hP : P.Documented) (facts : AuthorityEffectResolutionFacts) :
    ∃ text, canonicalAuthorityArtifact P.toPlatform authorityEffectResolutionDomain
      (authorityEffectResolutionV1 facts) = some text := by
  refine ⟨_, (authorityEffectResolutionV1_printable facts).canonicalAuthorityArtifact_eq hP.jcs
    ?_ ?_ rfl⟩
  · have hnames : authorityEffectResolutionNames.Pairwise fun a b =>
        ¬NameLe ((b, []) : Bytes × Bytes) (a, []) := by decide
    exact List.Pairwise.of_map Prod.fst (fun _ _ h => h) (show
      ((authorityEffectResolutionV1 facts).map Prod.fst).Pairwise _ from hnames)
  · have hnames : ∀ name ∈ authorityEffectResolutionNames, (spelled name).length ≤ 22 := by decide
    have hversion : (spelled (ascii "1")).length = 1 := by decide
    have hdisposition := facts.disposition.spelled_text
    have hreason := facts.reason.spelled_text
    have hkind := facts.anchorKind.spelled_text
    have hmembers : (authorityEffectResolutionV1 facts).map (fun member =>
        (member.1, (Json.Tree.str member.2 : Json.Tree Bytes))) ≠ [] := List.cons_ne_nil _ _
    have hlength := length_encode_obj hmembers
    simp only [authorityEffectResolutionNames, List.forall_mem_cons, List.not_mem_nil,
      false_implies, implies_true, and_true] at hnames
    simp only [authorityEffectResolutionV1, List.map_cons, List.map_nil, List.sum_cons,
      List.sum_nil, length_encode_str, spelled_digestString, hversion] at hlength
    simp only [stringObject, authorityEffectResolutionV1, List.map_cons, List.map_nil,
      authorityCanonicalMaximumBytes]
    omega

/-! ## The decision -/

/-- A disposition with its reason and its anchor. -/
structure Choice where
  disposition : EffectDisposition
  reason : AuthorityEffectReason
  anchorKind : DecisionAnchorKind
  anchorDigest : Digest

/-- The choice that evidence leaves. -/
def decision (proof : ValidatedActivationDecisionEvidence) : Choice :=
  let commitment := proof.input.material.commitment
  match commitment.facts.mode, proof.input.material.reason with
  | .finalNotApplied, _ =>
    ⟨.notApplied, commitment.facts.reason, .finalCommitment, commitment.digest⟩
  | .conditionalApply, .none => ⟨.applied, .none, .trustedTime, proof.evidence.digest⟩
  | .conditionalApply, .superseded =>
    ⟨.notApplied, .superseded, .higherAuthority, proof.evidence.facts.checkpointDigest⟩
  | .conditionalApply, .activationDeadlineExpired =>
    ⟨.notApplied, .activationDeadlineExpired, .trustedTime, proof.evidence.digest⟩
  | .conditionalApply, reason =>
    ⟨.notApplied, reason, .exactCapture, commitment.facts.activationInputsDigest⟩

/-- The matrix of resolutions admits the decision and nothing else. -/
theorem resolutionAnchored_iff {checkpointDigest commitmentDigest : Digest} {choice : Choice}
    (h : EvidenceChecked P proof.input expected checkpointDigest)
    (hfacts : proof.evidence.facts = evidenceFacts proof.input checkpointDigest) :
    resolutionAnchored ⟨commitmentDigest, choice.disposition, choice.reason, choice.anchorKind,
      choice.anchorDigest⟩ proof.input.material.commitment proof = true ↔
      choice = decision proof := by
  obtain ⟨disposition, reason, anchorKind, anchorDigest⟩ := choice
  have hmatrix := h.matrix
  have hcheckpoint : proof.input.material.checkpointKind ≠ .none →
      proof.input.checkpoint.any (fun checkpoint => anchorDigest == checkpoint.digest) =
        decide (anchorDigest = checkpointDigest) := by
    intro hkind
    obtain ⟨checkpoint, hsome, rfl, -⟩ := h.anchor hkind
    rw [hsome, Option.any_some, ← Bool.beq_eq_decide_eq]
  unfold evidenceMatrixValid at hmatrix
  unfold resolutionAnchored decision
  simp only [hfacts, evidenceFacts]
  cases hmode : proof.input.material.commitment.facts.mode with
  | finalNotApplied =>
    simp only [hmode, Bool.and_eq_true, beq_iff_eq] at hmatrix
    obtain ⟨⟨⟨-, hkind⟩, htime⟩, hcapability⟩ := hmatrix
    simp [hkind, htime, hcapability, and_assoc, Subtype.ext_iff]
  | conditionalApply =>
    cases hreason : proof.input.material.reason with
    | superseded =>
      simp only [hmode, hreason, Bool.and_eq_true, beq_iff_eq, bne_iff_ne] at hmatrix
      obtain ⟨⟨hkind, htime⟩, hcapability⟩ := hmatrix
      simp only [hcheckpoint hkind]
      cases disposition <;> cases reason <;> simp [hkind, htime, hcapability]
    | _ =>
      simp only [hmode, hreason, Bool.and_eq_true, beq_iff_eq] at hmatrix
      obtain ⟨⟨hkind, htime⟩, hcapability⟩ := hmatrix
      cases disposition <;> cases reason <;>
        simp [hkind, htime, hcapability, Subtype.ext_iff]

/-! ## Fresh evidence -/

/-- Evidence that one of the constructors has made. -/
def FreshEvidence (P : ArtifactPlatform) (evidence : ActivationDecisionEvidence) : Prop :=
  ∃ input, BuiltEvidence P input evidence

/-- Fresh evidence has an unused admission if and only if it has a trusted time. -/
theorem FreshEvidence.admission (h : FreshEvidence P evidence) :
    evidence.origin = .fresh ∧ if evidence.facts.trustedTimeKind = .rollbackResistant then
      evidence.admission.any (fun admission => !admission.consumed) = true
    else evidence.admission = none := by
  obtain ⟨input, h | ⟨started, now, used, h⟩⟩ := h
  · simp only [newActivationDecisionEvidence, buildActivationDecisionEvidence, bind_eq_ok,
      require_eq_ok, orThrow_eq_ok, pure_eq_ok] at h
    obtain ⟨-, hkind, -, -, -, -, _, -, -, -, _, -, rfl⟩ := h
    simp [hkind]
  · simp only [completeActivationEvidenceCapture, buildActivationDecisionEvidence, bind_eq_ok,
      require_eq_ok, orThrow_eq_ok, pure_eq_ok] at h
    obtain ⟨-, -, -, -, -, hkind, _, ⟨-, -, -, -, _, -, -, -, _, -, rfl⟩, -, -, _, -, -, -, rfl⟩ := h
    simp [hkind]

/-- What validation gives for fresh evidence. -/
theorem FreshEvidence.validated (h : FreshEvidence P evidence)
    (hvalid : validateActivationDecisionEvidence P evidence input = .ok proof) :
    proof = ⟨evidence, input, .fresh, evidence.admission, true⟩ ∧
      ∃ checkpointDigest, EvidenceChecked P input evidence checkpointDigest ∧
        evidence.facts = evidenceFacts input checkpointDigest := by
  obtain ⟨horigin, hadmission⟩ := h.admission
  simp only [validateActivationDecisionEvidence, bind_eq_ok, require_eq_ok, pure_eq_ok,
    horigin] at hvalid
  obtain ⟨-, -, expected, hbuild, -, ⟨hdigest, hcanonical, hfacts⟩, rfl⟩ := hvalid
  obtain ⟨checkpointDigest, hchecked, hexpected⟩ := buildActivationDecisionEvidence_facts hbuild
  refine ⟨?_, checkpointDigest, ⟨hchecked.valid, hchecked.checkpoint, hchecked.time,
    hchecked.matrix, ?_⟩, hfacts ▸ hexpected⟩
  · cases hkind : evidence.facts.trustedTimeKind with
    | none =>
      rw [hkind, if_neg (by simp)] at hadmission
      simp [hadmission]
    | rollbackResistant => simp
  · rw [hchecked.text, hdigest, hcanonical]

/-! ## One choice -/

/-- The input of a resolution. -/
def Choice.resolutionInput (choice : Choice) (proof : ValidatedActivationDecisionEvidence) :
    AuthorityEffectResolutionInput :=
  ⟨proof.input.material.commitment, choice.disposition, choice.reason, choice.anchorKind,
    choice.anchorDigest, proof⟩

/-- A resolution is made of the decision, unless its anchor has no digest. -/
theorem FreshEvidence.resolves_iff (hP : P.Documented) (h : FreshEvidence P evidence)
    (hvalid : validateActivationDecisionEvidence P evidence input = .ok proof) (choice : Choice) :
    (∃ resolution, newAuthorityEffectResolution P (choice.resolutionInput proof) =
      .ok resolution) ↔ choice = decision proof ∧ choice.anchorDigest ≠ Digest.zero := by
  obtain ⟨hproof, checkpointDigest, hchecked, hfacts⟩ := h.validated hvalid
  obtain ⟨-, hadmission⟩ := h.admission
  have hinput : proof.input = input := by rw [hproof]
  have hevidence : proof.evidence = evidence := by rw [hproof]
  have hmatrix := @resolutionAnchored_iff P evidence proof checkpointDigest
    proof.input.material.commitment.digest choice (hinput ▸ hchecked)
    (by rw [hinput, hevidence, hfacts])
  constructor
  · rintro ⟨resolution, hresolution⟩
    obtain ⟨-, -, hanchor, hresolved, hanchored, -⟩ :=
      newAuthorityEffectResolution_eq_ok hresolution
    rw [hresolved] at hanchored
    exact ⟨hmatrix.mp hanchored, hanchor⟩
  · rintro ⟨hchoice, hanchor⟩
    obtain ⟨text, htext⟩ := resolution_text hP ⟨proof.input.material.commitment.digest,
      choice.disposition, choice.reason, choice.anchorKind, choice.anchorDigest⟩
    have hcommitment : validAuthorityEffectCommitment P.toPlatform
        proof.input.material.commitment = true := hinput ▸ hchecked.commitment_valid
    have hvalidated : validValidatedEvidence P proof = true := by
      rw [hproof]
      exact hchecked.validValidated hfacts _
    have hdigest : proof.evidence.facts.commitmentDigest =
        proof.input.material.commitment.digest := by
      rw [hevidence, hfacts, hinput]
      rfl
    refine ⟨⟨⟨proof.input.material.commitment.digest, choice.disposition, choice.reason,
      choice.anchorKind, choice.anchorDigest⟩, text.1, text.2⟩, ?_⟩
    simp only [newAuthorityEffectResolution, validateResolutionMatrix, bind_eq_ok, require_eq_ok,
      orThrow_eq_ok, pure_eq_ok]
    refine ⟨(), ⟨hcommitment, hvalidated, hanchor⟩, (), by rw [Choice.resolutionInput, hproof], (),
      ⟨rfl, rfl⟩, (), ⟨(), ⟨hdigest, rfl⟩, (), ?_, hmatrix.mpr hchoice⟩, text, htext, rfl⟩
    rw [Choice.resolutionInput, hproof]
    split at hadmission
    · next hkind => rw [if_pos hkind]; exact fun _ => hadmission
    · next hkind => rw [if_neg hkind]; exact hadmission

/-! ## Digests that are not zero -/

/-- The anchor of a decision is missing only where a digest of SHA-256 happens to be zero. -/
theorem decision_anchor_zero {checkpointDigest : Digest}
    (h : EvidenceChecked P proof.input proof.evidence checkpointDigest)
    (hfacts : proof.evidence.facts = evidenceFacts proof.input checkpointDigest)
    (hzero : (decision proof).anchorDigest = Digest.zero) :
    P.sha256 (activationDecisionEvidenceDomain ++ proof.evidence.canonical) = Digest.zero ∨
      ∃ checkpoint, proof.input.checkpoint = some checkpoint ∧
        P.sha256 (authorityCheckpointAnchorDomain ++ checkpoint.canonical) = Digest.zero := by
  obtain ⟨-, hcommitment, hinputs, -⟩ := validAuthorityEffectCommitment_checked h.commitment_valid
  have hevidence := (canonicalAuthorityArtifact_eq_some h.text).2
  have hmatrix := h.matrix
  unfold decision at hzero
  cases hmode : proof.input.material.commitment.facts.mode with
  | finalNotApplied =>
    simp only [hmode] at hzero
    exact absurd hzero hcommitment
  | conditionalApply =>
    cases hreason : proof.input.material.reason with
    | superseded =>
      simp only [hmode, hreason] at hzero
      simp only [evidenceMatrixValid, hmode, hreason, Bool.and_eq_true, bne_iff_ne] at hmatrix
      obtain ⟨checkpoint, hsome, hdigest, hvalid, -⟩ := h.anchor hmatrix.1.1
      obtain ⟨-, hsum⟩ := validAuthorityCheckpointAnchor_checked hvalid
      refine Or.inr ⟨checkpoint, hsome, ?_⟩
      rw [← hsum, hdigest, ← hzero, hfacts]
      rfl
    | none | activationDeadlineExpired =>
      simp only [hmode, hreason] at hzero
      exact Or.inl (hevidence.symm.trans hzero)
    | failed | validationRejected =>
      simp only [hmode, hreason] at hzero
      exact absurd hzero (hinputs hmode)

/-! ## Resolutions -/

/-- An effect is applied only while its bounds last. -/
theorem applied_bounds {input : AuthorityEffectResolutionInput}
    {resolution : AuthorityEffectResolution}
    (h : newAuthorityEffectResolution P input = .ok resolution)
    (happlied : input.disposition = .applied) :
    input.commitment.facts.mode = .conditionalApply ∧
      input.evidence.evidence.facts.trustedTimeKind = .rollbackResistant ∧
      input.evidence.evidence.facts.trustedInstant <
        input.evidence.input.material.attestationExpiresAt.instant ∧
      input.evidence.evidence.facts.trustedInstant <
        input.evidence.input.material.activationDeadline.instant := by
  obtain ⟨-, hvalid, -, hfacts, hanchored, -⟩ := newAuthorityEffectResolution_eq_ok h
  -- The evidence has been built again from its input, so its bounds have been checked.
  simp only [validValidatedEvidence, Bool.and_eq_true] at hvalid
  obtain ⟨-, hrebuilt⟩ := hvalid
  split at hrebuilt
  · next expected hbuild =>
    simp only [Bool.and_eq_true, beq_iff_eq] at hrebuilt
    obtain ⟨checkpointDigest, hchecked, hexpected⟩ := buildActivationDecisionEvidence_facts hbuild
    have hevidence := hrebuilt.2.symm.trans hexpected
    have hfinal : input.commitment.facts.mode = .conditionalApply ∧
        input.evidence.evidence.facts.trustedTimeKind = .rollbackResistant ∧
        input.evidence.input.material.reason = .none := by
      rw [hfacts, happlied] at hanchored
      unfold resolutionAnchored at hanchored
      cases hmode : input.commitment.facts.mode <;> simp_all
    have htime := hchecked.time
    have hkind : input.evidence.input.material.trustedTimeKind = .rollbackResistant := by
      rw [← hfinal.2.1, hevidence]
      rfl
    simp only [evidenceTimeValid, hkind, Bool.and_eq_true, decide_eq_true_eq] at htime
    obtain ⟨⟨-, hattestation⟩, hbounds⟩ := htime
    obtain ⟨-, -, -, hdeadline⟩ := evidenceWithinBounds_spec hbounds
    refine ⟨hfinal.1, hfinal.2.1, ?_, ?_⟩
    · rw [hevidence]
      exact hattestation
    · rw [hevidence]
      exact hdeadline (by simp [hfinal.2.2])
  · cases hrebuilt

/-- Fresh evidence has one resolution; an effect is applied only on evidence whose time is within
its bounds; and of the calls on a capture one at most is admitted, in time.  There is no resolution
where SHA-256 gives the digest zero for the anchor, because a digest of zero stands for none. -/
theorem activation_decisions (P : ArtifactPlatform) (hP : P.Documented) :
    (∀ evidence input proof, FreshEvidence P evidence →
      validateActivationDecisionEvidence P evidence input = .ok proof →
      (∃! choice : Choice, ∃ resolution,
        newAuthorityEffectResolution P (choice.resolutionInput proof) = .ok resolution) ∨
      P.sha256 (activationDecisionEvidenceDomain ++ proof.evidence.canonical) = Digest.zero ∨
      ∃ checkpoint, proof.input.checkpoint = some checkpoint ∧
        P.sha256 (authorityCheckpointAnchorDomain ++ checkpoint.canonical) = Digest.zero) ∧
    (∀ input resolution, newAuthorityEffectResolution P input = .ok resolution →
      input.disposition = .applied → input.commitment.facts.mode = .conditionalApply ∧
        input.evidence.evidence.facts.trustedTimeKind = .rollbackResistant ∧
        input.evidence.evidence.facts.trustedInstant <
          input.evidence.input.material.attestationExpiresAt.instant ∧
        input.evidence.evidence.facts.trustedInstant <
          input.evidence.input.material.activationDeadline.instant) ∧
    ∀ (Pid : Type) [DecidableEq Pid] (started : Instant) (calls : Pid → CaptureCall)
      (run : Calls Pid CaptureOp CaptureOp.Res (Except Error CaptureAnswer) (CaptureMemory Pid)),
      Calls.Reachable CaptureMemory.exec (CaptureMemory.start started)
        (fun pid => (calls pid).program P started) run →
      (∀ pid other, run.rest pid = .ret (.ok .admitted) → run.rest other = .ret (.ok .admitted) →
        pid = other) ∧
      ∀ pid, run.rest pid = .ret (.ok .admitted) → ∃ shared ∈ run.state.admissions,
        shared.consumer = some pid ∧ (∃ now, run.state.readings pid = some now ∧
          now < shared.admission.deadline) ∧
        shared.admission.deadline ≤ started + 5 * second := by
  refine ⟨?_, fun _ _ => applied_bounds, fun Pid _ started calls run => captures_admit_once⟩
  intro evidence input proof hfresh hvalid
  by_cases hzero : (decision proof).anchorDigest = Digest.zero
  · obtain ⟨hproof, checkpointDigest, hchecked, hfacts⟩ := hfresh.validated hvalid
    rw [hproof] at hzero ⊢
    exact Or.inr (decision_anchor_zero hchecked hfacts hzero)
  · have hresolves := hfresh.resolves_iff hP hvalid
    refine Or.inl ⟨decision proof, (hresolves _).mpr ⟨rfl, hzero⟩, fun choice hchoice => ?_⟩
    exact ((hresolves choice).mp hchoice).1

/-- A grant that was applied could be resolved in no other way. -/
theorem appliedGrant_decided :
    FreshEvidence plainArtifacts appliedGrantEvidence ∧
      validateActivationDecisionEvidence plainArtifacts appliedGrantEvidence appliedGrantInput =
        .ok appliedGrant.proof ∧
      ∃! choice : Choice, ∃ resolution, newAuthorityEffectResolution plainArtifacts
        (choice.resolutionInput appliedGrant.proof) = .ok resolution := by
  have hfresh : FreshEvidence plainArtifacts appliedGrantEvidence :=
    ⟨appliedGrantInput, appliedGrant.evidence_built⟩
  obtain ⟨hchoice, -⟩ := activation_decisions plainArtifacts plainArtifacts_documented
  refine ⟨hfresh, appliedGrant.evidence_validated, ?_⟩
  rcases hchoice _ _ _ hfresh appliedGrant.evidence_validated with hone | hzero | ⟨_, hsome, -⟩
  · exact hone
  · have hdigest := (canonicalAuthorityArtifact_eq_some appliedGrantEvidence_checked.text).2
    exact absurd (hdigest.trans hzero) (by decide)
  · exact nomatch hsome

end Talenro.Authority
