import Talenro.Analysis.Outcomes

/-!
# What the parsers of artifacts accept

The constructors and the parsers of artifacts state their rules in different forms.  A value that a
constructor has built is read back from its canonical text, and a text that a parser accepts is
the canonical text of the value it returns.  Evidence has one condition more, because its parser
asks for digests that are not zero where the constructor does not: the digest of the provider's head
and the digest of the checkpoint.
-/

set_option autoImplicit false

namespace Talenro.Authority

open Lib Lib.Json Lib.Calendar

variable {P : ArtifactPlatform}

/-! ## Texts of members -/

variable {value : AuthorityCheckpointAnchor} {facts : AuthorityCheckpointAnchorFacts}
  {resolution : AuthorityEffectResolution} {text body : Bytes}

theorem parseDigestString_eq_some {allowAbsent : Bool} {value : Digest}
    (h : parseDigestString text allowAbsent = some value) : digestString value = text := by
  simp only [parseDigestString, Option.bind_eq_bind, Option.bind_eq_some_iff,
    Option.guard_eq_some'] at h
  obtain ⟨-, ⟨-, hlower⟩, decoded, hdecoded, h⟩ := h
  split at h
  · simp only [Option.bind_eq_some_iff, Option.guard_eq_some', Option.pure_def,
      Option.some.injEq] at h
    obtain ⟨-, -, rfl⟩ := h
    refine Hex.encode_of_decode hdecoded fun c hc => ?_
    have hchar := List.all_eq_true.mp hlower c hc
    simpa only [Bool.not_eq_true', Bool.and_eq_false_iff, decide_eq_false_iff_not, not_and_or]
      using hchar
  · cases h

theorem parseCanonicalUUID_eq_some {value : UUID} (h : parseCanonicalUUID P text = some value) :
    P.uuidString value = text := by
  simp only [parseCanonicalUUID, Option.bind_eq_bind, Option.bind_eq_some_iff,
    Option.guard_eq_some', Option.pure_def, Option.some.injEq] at h
  obtain ⟨_, -, -, ⟨-, htext⟩, rfl⟩ := h
  exact htext

theorem parseCanonicalInstant_eq_some {value : Time} (h : parseCanonicalInstant P text = some value) :
    P.timeFormat value.instant = text := by
  simp only [parseCanonicalInstant, Option.bind_eq_bind, Option.bind_eq_some_iff,
    Option.guard_eq_some', Option.pure_def, Option.some.injEq] at h
  obtain ⟨-, -, _, -, -, ⟨htext, -⟩, rfl⟩ := h
  exact htext

theorem ofText_eq_some {α : Type} {all : List α} {print : α → Bytes} {value : α}
    (h : ofText all print text = some value) : print value = text := by
  have hfound := List.find?_some (p := fun value => decide (print value = text)) h
  exact of_decide_eq_true hfound

/-- The scope of an effect has a digest that is not zero. -/
theorem validScopeDigest_ne_zero (hP : P.Documented) {scope : ScopeKind} {digest : Digest}
    (h : validScopeDigest P.toPlatform scope digest = true) : digest ≠ Digest.zero := by
  have hglobal : ∀ text, Sha256.sha256 text ≠ Digest.zero.1 → P.sha256 text ≠ Digest.zero :=
    fun text hne hzero => hne (by rw [← hP.sha256, hzero])
  cases scope with
  | node =>
    simp only [validScopeDigest, Bool.and_eq_true, bne_iff_ne] at h
    exact h.1.1
  | globalNodeTrust | globalOperatorTrust =>
    rw [validScopeDigest, beq_iff_eq] at h
    rw [h]
    exact hglobal _ (by decide +kernel)

theorem canonicalAuthorityArtifact_eq_some {domain canonical : Bytes}
    {wire : List (Bytes × Bytes)} {digest : Digest}
    (h : canonicalAuthorityArtifact P.toPlatform domain wire = some (canonical, digest)) :
    canonical.length ≤ authorityCanonicalMaximumBytes ∧
      digest = P.sha256 (domain ++ canonical) := by
  simp only [canonicalAuthorityArtifact, Option.bind_eq_bind, Option.bind_eq_some_iff,
    Option.guard_eq_some', Option.pure_def, Option.some.injEq, Prod.mk.injEq] at h
  obtain ⟨_, -, -, ⟨-, hlength⟩, rfl, rfl⟩ := h
  exact ⟨hlength, rfl⟩

/-! ## Anchors of checkpoints -/

/-- What the constructor of an anchor has checked. -/
structure AnchorChecked (P : Platform) (facts : AuthorityCheckpointAnchorFacts) : Prop where
  epoch : validPositiveCoordinate facts.checkpoint.authorityEpoch = true
  sequence : validPositiveCoordinate facts.checkpoint.sequence = true
  receiptDigest : facts.checkpoint.receiptDigest ≠ Digest.zero
  scope : facts.kind = .node ∧ validScopeDigest P .node facts.scopeDigest = true ∨
    facts.kind = .global ∧ (facts.scopeDigest = globalNodeScopeDigest P ∨
      facts.scopeDigest = globalOperatorScopeDigest P)

theorem newAuthorityCheckpointAnchor_eq_some
    (h : newAuthorityCheckpointAnchor P.toPlatform facts = some value) :
    AnchorChecked P.toPlatform facts ∧
      canonicalAuthorityArtifact P.toPlatform authorityCheckpointAnchorDomain
        (authorityCheckpointAnchorV1 facts) = some (value.canonical, value.digest) ∧
      value.facts = facts := by
  cases hkind : facts.kind <;>
    simp only [newAuthorityCheckpointAnchor, hkind, Option.bind_eq_bind, Option.bind_eq_some_iff,
      Option.guard_eq_some', Option.pure_def, Option.some.injEq, reduceCtorEq, false_and,
      exists_false, and_false] at h
  all_goals
    obtain ⟨-, ⟨hvalid, hsequence, hreceipt⟩, -, hscope, ⟨canonical, digest⟩, htext, rfl⟩ := h
    simp only [NodeCheckpoint.validate, Bool.and_eq_true, decide_eq_true_eq] at hvalid
    have hpositive : validPositiveCoordinate facts.checkpoint.sequence = true :=
      decide_eq_true ⟨Nat.pos_of_ne_zero hsequence, hvalid.1.2⟩
  · exact ⟨⟨hvalid.1.1, hpositive, hreceipt, Or.inl ⟨hkind, hscope⟩⟩, htext, rfl⟩
  · exact ⟨⟨hvalid.1.1, hpositive, hreceipt, Or.inr ⟨hkind, hscope⟩⟩, htext, rfl⟩

theorem AnchorChecked.scope_ne_zero (hP : P.Documented) (h : AnchorChecked P.toPlatform facts) :
    facts.scopeDigest ≠ Digest.zero := by
  rcases h.scope with ⟨-, hscope⟩ | ⟨-, hscope | hscope⟩
  · exact validScopeDigest_ne_zero hP hscope
  · exact @validScopeDigest_ne_zero P hP .globalNodeTrust _ (beq_iff_eq.mpr hscope)
  · exact @validScopeDigest_ne_zero P hP .globalOperatorTrust _ (beq_iff_eq.mpr hscope)

theorem authorityCheckpointAnchorV1_printable (facts : AuthorityCheckpointAnchorFacts) :
    Printable (authorityCheckpointAnchorV1 facts) := by
  refine printable_of_ascii authorityCheckpointAnchorNames rfl (by decide) (by decide) ?_
  simp only [authorityCheckpointAnchorV1, List.forall_mem_cons, List.not_mem_nil, false_implies,
    implies_true, and_true]
  exact ⟨format_ascii _, format_ascii _, CheckpointKind.text_ascii _, digestString_ascii _,
    digestString_ascii _, ascii_of_all (by decide)⟩

/-- An anchor is read back from its text. -/
theorem parse_newAuthorityCheckpointAnchor (hP : P.Documented)
    (h : newAuthorityCheckpointAnchor P.toPlatform facts = some value) :
    parseAuthorityCheckpointAnchor P value.canonical = some value := by
  obtain ⟨hchecked, htext, -⟩ := newAuthorityCheckpointAnchor_eq_some h
  obtain ⟨record, hdecode, hmembers⟩ := decode_canonicalAuthorityArtifact hP.jcs
    (authorityCheckpointAnchorV1_printable facts) htext
  replace hdecode : decodeCanonicalAuthorityArtifact P.toPlatform authorityCheckpointAnchorNames
    value.canonical = some record := hdecode
  simp only [authorityCheckpointAnchorV1, stringMembers, List.map_cons, List.map_nil,
    List.cons.injEq, Prod.mk.injEq, true_and, and_true] at hmembers
  obtain ⟨h₁, h₂, h₃, h₄, h₅, h₆⟩ := hmembers
  unfold parseAuthorityCheckpointAnchor
  refine bind_eq_some hdecode (guard_bind_eq_some h₆ ?_)
  refine bind_eq_some (h₁ ▸ parsePositiveDecimal_coordinate hchecked.epoch) ?_
  refine bind_eq_some (h₂ ▸ parsePositiveDecimal_coordinate hchecked.sequence) ?_
  refine bind_eq_some (h₄ ▸ parseDigestString_digestString (Or.inl (hchecked.scope_ne_zero hP))) ?_
  refine bind_eq_some (h₅ ▸ parseDigestString_digestString (Or.inl hchecked.receiptDigest)) ?_
  refine bind_eq_some (h₃ ▸ ofText_checkpointKind _) ?_
  exact bind_eq_some h (guard_bind_eq_some rfl rfl)

/-! ## Evidence -/

section Evidence

variable {input : ActivationDecisionEvidenceInput} {evidence : ActivationDecisionEvidence}
  {checkpointDigest : Digest}

/-- The checkpoint of evidence is named by its digest. -/
theorem EvidenceChecked.anchor (h : EvidenceChecked P input evidence checkpointDigest)
    (hkind : input.material.checkpointKind ≠ .none) :
    ∃ checkpoint, input.checkpoint = some checkpoint ∧ checkpoint.digest = checkpointDigest ∧
      validAuthorityCheckpointAnchor P.toPlatform checkpoint = true ∧
      checkpoint.facts.kind = input.material.checkpointKind ∧
      checkpoint.facts.scopeDigest = input.material.checkpointScopeDigest := by
  have hcheckpoint := h.checkpoint
  unfold validateEvidenceCheckpoint at hcheckpoint
  split at hcheckpoint
  · next hnone => exact absurd hnone hkind
  · simp only [bind_eq_ok, orThrow_eq_ok, require_eq_ok, pure_eq_ok] at hcheckpoint
    obtain ⟨checkpoint, hsome, -, hvalid, -, ⟨hanchor, hscope, -⟩, -, -, -, -, hdigest⟩ :=
      hcheckpoint
    exact ⟨checkpoint, hsome, hdigest, hvalid, hanchor, hscope⟩

theorem validAuthorityCheckpointAnchor_checked {anchor : AuthorityCheckpointAnchor}
    (h : validAuthorityCheckpointAnchor P.toPlatform anchor = true) :
    AnchorChecked P.toPlatform anchor.facts ∧
      anchor.digest = P.sha256 (authorityCheckpointAnchorDomain ++ anchor.canonical) := by
  obtain ⟨rebuilt, hbuilt, hsame⟩ := (Option.any_eq_true _ _).mp h
  rw [Bool.and_eq_true, beq_iff_eq, beq_iff_eq] at hsame
  obtain ⟨hchecked, htext, -⟩ := newAuthorityCheckpointAnchor_eq_some hbuilt
  rw [← hsame.1, ← hsame.2]
  exact ⟨hchecked, (canonicalAuthorityArtifact_eq_some htext).2⟩

/-- A checkpoint of evidence is one that the parser accepts, unless its digest is zero. -/
theorem EvidenceChecked.parsedCheckpointValid (hP : P.Documented)
    (h : EvidenceChecked P input evidence checkpointDigest)
    (hdigest : ∀ checkpoint, input.checkpoint = some checkpoint → checkpoint.digest ≠ Digest.zero) :
    parsedCheckpointValid P.toPlatform input.material.checkpointKind
      input.material.checkpointScopeDigest checkpointDigest = true := by
  by_cases hnone : input.material.checkpointKind = .none
  · have hcheckpoint := h.checkpoint
    simp only [validateEvidenceCheckpoint, hnone, bind_eq_ok, require_eq_ok,
      pure_eq_ok] at hcheckpoint
    obtain ⟨-, ⟨hscope, -⟩, rfl⟩ := hcheckpoint
    rw [hnone, hscope]
    rfl
  · obtain ⟨checkpoint, hsome, rfl, hvalid, hkind, hscope⟩ := h.anchor hnone
    obtain ⟨hchecked, -⟩ := validAuthorityCheckpointAnchor_checked hvalid
    have hne := hdigest checkpoint hsome
    have hzero := hchecked.scope_ne_zero hP
    rw [← hkind, ← hscope]
    rcases hchecked.scope with ⟨hnode, hrule⟩ | ⟨hglobal, hrule⟩
    · rw [hnode, Authority.parsedCheckpointValid, bne_iff_ne.mpr hzero, bne_iff_ne.mpr hne, hrule]
      rfl
    · rw [hglobal, Authority.parsedCheckpointValid, bne_iff_ne.mpr hne, Bool.true_and,
        Bool.or_eq_true, beq_iff_eq, beq_iff_eq]
      exact hrule

theorem parseCanonicalInstant_timeFormat {value : Time} (h : canonicalInstant P value = true) :
    parseCanonicalInstant P (P.timeFormat value.instant) = some value := by
  have hvalue := h
  simp only [canonicalInstant, Bool.and_eq_true, beq_iff_eq] at h
  obtain ⟨⟨⟨⟨-, hutc⟩, -⟩, hparse⟩, hlast⟩ := h
  obtain ⟨instant, utc⟩ := value
  dsimp only at hutc
  subst hutc
  exact guard_bind_eq_some hlast (bind_eq_some hparse (guard_bind_eq_some ⟨rfl, hvalue⟩ rfl))

theorem earlierInstant_le (left right : Instant) :
    earlierInstant left right ≤ left ∧ earlierInstant left right ≤ right := by
  unfold earlierInstant
  split
  · next h => exact ⟨le_refl left, le_of_lt h⟩
  · next h => exact ⟨not_lt.mp h, le_refl right⟩

/-- Evidence is valid for five seconds at most, and starts before the deadline unless it says that
the deadline has passed. -/
theorem evidenceWithinBounds_spec {material : ActivationDecisionMaterial}
    (h : evidenceWithinBounds P material = true) :
    ∃ bound, addCanonicalDuration P material.trustedInstant (5 * second) = some bound ∧
      material.evidenceValidUntil.instant ≤ bound.instant ∧
      (material.reason ≠ .activationDeadlineExpired →
        material.trustedInstant.instant < material.activationDeadline.instant) := by
  obtain ⟨bound, hbound, hwithin⟩ := (Option.any_eq_true _ _).mp h
  have hupper := (earlierInstant_le material.attestationExpiresAt.instant bound.instant).2
  refine ⟨bound, hbound, ?_⟩
  dsimp only at hwithin
  split at hwithin
  · simp only [Bool.and_eq_true, decide_eq_true_eq] at hwithin
    exact ⟨hwithin.2.trans ((earlierInstant_le _ _).1.trans hupper), fun _ => hwithin.1⟩
  · next hreason =>
    simp only [Bool.and_eq_true, decide_eq_true_eq] at hwithin
    exact ⟨hwithin.2.trans hupper, fun hne => absurd hne hreason⟩

/-- Evidence with a trusted time has no checkpoint. -/
theorem EvidenceChecked.timed_checkpoint (h : EvidenceChecked P input evidence checkpointDigest)
    (hkind : input.material.trustedTimeKind = .rollbackResistant) :
    input.material.checkpointKind = .none := by
  have hmatrix := h.matrix
  unfold evidenceMatrixValid at hmatrix
  split at hmatrix <;> simp_all

/-- The times of evidence are read back from their texts. -/
theorem EvidenceChecked.parsedTrustedTime (h : EvidenceChecked P input evidence checkpointDigest) :
    parsedTrustedTime P (evidenceFacts input checkpointDigest)
      (evidenceTimeText P (evidenceFacts input checkpointDigest)
        input.material.trustedInstant.instant)
      (evidenceTimeText P (evidenceFacts input checkpointDigest)
        input.material.evidenceValidUntil.instant) =
      some (input.material.trustedInstant.instant, input.material.evidenceValidUntil.instant) := by
  have htime := h.time
  cases hkind : input.material.trustedTimeKind with
  | none =>
    simp only [evidenceTimeValid, hkind, Bool.and_eq_true, beq_iff_eq] at htime
    obtain ⟨⟨⟨⟨⟨⟨⟨hinstant, huntil⟩, -⟩, -⟩, hidentity⟩, -⟩, hfloor⟩, hcapability⟩ := htime
    have htext := evidenceTimeText_of_none (P := P)
      (show (evidenceFacts input checkpointDigest).trustedTimeKind = .none from hkind)
    rw [htext, htext, hinstant, huntil, Authority.parsedTrustedTime]
    simp only [evidenceFacts, hkind]
    exact guard_bind_eq_some ⟨trivial, trivial, hidentity, hfloor, hcapability⟩ rfl
  | rollbackResistant =>
    simp only [evidenceTimeValid, hkind, Bool.and_eq_true, beq_iff_eq, bne_iff_ne,
      decide_eq_true_eq] at htime
    obtain ⟨⟨⟨⟨⟨⟨⟨⟨⟨⟨htrusted, huntil⟩, -⟩, -⟩, hidentity⟩, -⟩, -⟩, hfloor⟩, hbefore⟩, -⟩, hbounds⟩ :=
      htime
    obtain ⟨bound, hbound, hwithin, -⟩ := evidenceWithinBounds_spec hbounds
    have htext : ∀ t, evidenceTimeText P (evidenceFacts input checkpointDigest) t =
        P.timeFormat t := fun t => if_pos hkind
    rw [htext, htext, Authority.parsedTrustedTime]
    simp only [evidenceFacts, hkind]
    exact bind_eq_some (parseCanonicalInstant_timeFormat htrusted)
      (bind_eq_some (parseCanonicalInstant_timeFormat huntil)
      (guard_bind_eq_some ⟨h.timed_checkpoint hkind, hbefore, hidentity, hfloor⟩
      (bind_eq_some hbound (guard_bind_eq_some hwithin rfl))))

/-- Evidence is read back from its text, and the value that is read is valid for the same input. -/
theorem EvidenceChecked.parse (hP : P.Documented)
    (htime : ∀ t, ∀ c ∈ P.timeFormat t, c < 0x80)
    (h : EvidenceChecked P input evidence checkpointDigest)
    (hfacts : evidence.facts = evidenceFacts input checkpointDigest)
    (hhead : input.providerHead.digest ≠ Digest.zero)
    (hdigest : ∀ checkpoint, input.checkpoint = some checkpoint → checkpoint.digest ≠ Digest.zero) :
    parseActivationDecisionEvidence P evidence.canonical =
        some ⟨evidence.toArtifact, .parsed, none⟩ ∧
      validateActivationDecisionEvidence P ⟨evidence.toArtifact, .parsed, none⟩ input =
        .ok ⟨⟨evidence.toArtifact, .parsed, none⟩, input, .parsed, none, true⟩ := by
  obtain ⟨hid, hcommitment, -⟩ := validAuthorityEffectCommitment_checked h.commitment_valid
  have hascii : ∀ t, ∀ c ∈ evidenceTimeText P (evidenceFacts input checkpointDigest) t,
      c < 0x80 := by
    intro t
    unfold evidenceTimeText
    split
    · exact htime t
    · simp
  have hreadable : ReadableEvidence P (evidenceFacts input checkpointDigest) :=
    ⟨hid, hcommitment, hhead, h.parsedCheckpointValid hP hdigest, h.parsedTrustedTime⟩
  refine ⟨?_, ?_⟩
  · rw [parse_readableEvidence hP hreadable hascii h.text, ← hfacts]
  · simp only [validateActivationDecisionEvidence, bind_eq_ok, require_eq_ok, pure_eq_ok]
    have hbuild := h.build hfacts (show ActivationEvidenceOrigin.parsed ≠ .none by simp) none
    exact ⟨(), by simp, _, hbuild, (), ⟨rfl, rfl, rfl⟩, by simp⟩

/-- The times that the parser returns have the texts that it was given. -/
theorem parsedTrustedTime_eq_some {facts : ActivationDecisionEvidenceFacts}
    {trustedText untilText : Bytes} {trusted validUntil : Instant}
    (h : parsedTrustedTime P facts trustedText untilText = some (trusted, validUntil)) :
    evidenceTimeText P facts trusted = trustedText ∧
      evidenceTimeText P facts validUntil = untilText := by
  unfold parsedTrustedTime at h
  split at h
  · next hkind =>
    obtain ⟨_, hguard, -⟩ := Option.bind_eq_some_iff.mp h
    obtain ⟨rfl, rfl, -⟩ := (Option.guard_eq_some' _).mp hguard
    exact ⟨evidenceTimeText_of_none hkind _, evidenceTimeText_of_none hkind _⟩
  · next hkind =>
    simp only [Option.bind_eq_bind, Option.bind_eq_some_iff] at h
    obtain ⟨value, hvalue, bound, hbound, -, -, _, -, -, -, h⟩ := h
    obtain ⟨rfl, rfl⟩ := Prod.mk.inj (Option.some.inj h)
    rw [evidenceTimeText, evidenceTimeText, if_pos hkind, if_pos hkind]
    exact ⟨parseCanonicalInstant_eq_some hvalue, parseCanonicalInstant_eq_some hbound⟩

/-- A text that the parser of evidence accepts is the canonical text of what it returns. -/
theorem parseActivationDecisionEvidence_eq_some
    (h : parseActivationDecisionEvidence P body = some evidence) :
    evidence.canonical = body ∧
      canonicalAuthorityArtifact P.toPlatform activationDecisionEvidenceDomain
        (activationEvidenceWire P evidence.facts) = some (body, evidence.digest) := by
  obtain ⟨record, -, h⟩ := Option.bind_eq_some_iff.mp h
  obtain ⟨_, hversion, h⟩ := Option.bind_eq_some_iff.mp h
  obtain ⟨operationID, hid, h⟩ := Option.bind_eq_some_iff.mp h
  obtain ⟨commitmentDigest, hcommitment, h⟩ := Option.bind_eq_some_iff.mp h
  obtain ⟨headDigest, hhead, h⟩ := Option.bind_eq_some_iff.mp h
  obtain ⟨scope, hscope, h⟩ := Option.bind_eq_some_iff.mp h
  obtain ⟨checkpointDigest, hcheckpoint, h⟩ := Option.bind_eq_some_iff.mp h
  obtain ⟨identity, hidentity, h⟩ := Option.bind_eq_some_iff.mp h
  obtain ⟨floor, hfloor, h⟩ := Option.bind_eq_some_iff.mp h
  obtain ⟨checkpointKind, hcheckpointKind, h⟩ := Option.bind_eq_some_iff.mp h
  obtain ⟨timeKind, htimeKind, h⟩ := Option.bind_eq_some_iff.mp h
  obtain ⟨capability, hcapability, h⟩ := Option.bind_eq_some_iff.mp h
  obtain ⟨-, -, h⟩ := Option.bind_eq_some_iff.mp h
  obtain ⟨⟨trusted, validUntil⟩, htime, h⟩ := Option.bind_eq_some_iff.mp h
  obtain ⟨⟨canonical, digest⟩, htext, h⟩ := Option.bind_eq_some_iff.mp h
  obtain ⟨_, hbody, hreturn⟩ := Option.bind_eq_some_iff.mp h
  obtain rfl := (Option.guard_eq_some' _).mp hbody
  obtain rfl := Option.some.inj hreturn
  obtain ⟨htrusted, hvalidUntil⟩ := parsedTrustedTime_eq_some htime
  have hwire : stringMembers activationDecisionEvidenceNames record =
      activationEvidenceWire P ⟨operationID, commitmentDigest, headDigest, checkpointKind, scope,
        checkpointDigest, timeKind, trusted, validUntil, identity, floor, capability⟩ := by
    simp only [stringMembers, activationDecisionEvidenceNames, activationEvidenceWire,
      List.map_cons, List.map_nil, (Option.guard_eq_some' _).mp hversion,
      parseCanonicalUUID_eq_some hid, parseDigestString_eq_some hcommitment,
      parseDigestString_eq_some hhead, parseDigestString_eq_some hscope,
      parseDigestString_eq_some hcheckpoint, parseDigestString_eq_some hidentity,
      parseDigestString_eq_some hfloor, ofText_eq_some hcheckpointKind, ofText_eq_some htimeKind,
      ofText_eq_some hcapability, ← htrusted, ← hvalidUntil]
    rfl
  rw [hwire] at htext
  exact ⟨rfl, htext⟩

end Evidence

/-! ## Resolutions -/

/-- A resolution is read back from its text. -/
theorem parse_newAuthorityEffectResolution (hP : P.Documented)
    {input : AuthorityEffectResolutionInput}
    (h : newAuthorityEffectResolution P input = .ok resolution) :
    parseAuthorityEffectResolution P resolution.canonical = some resolution := by
  obtain ⟨hcommitment, -, hanchor, hfacts, hanchored, htext⟩ := newAuthorityEffectResolution_eq_ok h
  obtain ⟨-, hdigest, -, hreason⟩ := validAuthorityEffectCommitment_checked hcommitment
  refine parse_authorityEffectResolutionV1 hP ?_ ?_ (resolutionAnchored_pair hreason hanchored)
    htext
  · rw [hfacts]
    exact hdigest
  · rw [hfacts]
    exact hanchor

/-- A text that the parser of resolutions accepts is the canonical text of what it returns. -/
theorem parseAuthorityEffectResolution_eq_some
    (h : parseAuthorityEffectResolution P body = some resolution) :
    resolution.canonical = body ∧
      canonicalAuthorityArtifact P.toPlatform authorityEffectResolutionDomain
        (authorityEffectResolutionV1 resolution.facts) = some (body, resolution.digest) := by
  simp only [parseAuthorityEffectResolution, Option.bind_eq_bind, Option.bind_eq_some_iff,
    Option.guard_eq_some'] at h
  obtain ⟨record, -, -, hversion, disposition, hdisposition, reason, hreason, anchorKind,
    hanchorKind, commitmentDigest, hcommitment, anchorDigest, hanchor, -, -, ⟨canonical, digest⟩,
    htext, -, rfl, hreturn⟩ := h
  obtain rfl := Option.some.inj hreturn
  have hwire : stringMembers authorityEffectResolutionNames record = authorityEffectResolutionV1
      ⟨commitmentDigest, disposition, reason, anchorKind, anchorDigest⟩ := by
    simp only [stringMembers, authorityEffectResolutionNames, authorityEffectResolutionV1,
      List.map_cons, List.map_nil, hversion,
      parseDigestString_eq_some hcommitment, parseDigestString_eq_some hanchor,
      ofText_eq_some hdisposition, ofText_eq_some hreason, ofText_eq_some hanchorKind]
  rw [hwire] at htext
  exact ⟨rfl, htext⟩

/-! ## All artifacts -/

/-- A value is read back from its text, which is short enough. -/
def ReadBack {α : Type} (parse : Bytes → Option (Artifact α)) (value : Artifact α) : Prop :=
  value.canonical.length ≤ authorityCanonicalMaximumBytes ∧ parse value.canonical = some value

/-- A text that was accepted is the one of the value, which its constructor builds. -/
def CanonicalFor {ι α : Type} (build : ι → Option (Artifact α)) (body : Bytes)
    (value : Artifact α) : Prop :=
  value.canonical = body ∧ ∃ input, build input = some value

/-- A step of a parser was passed. -/
theorem exists_of_bind {α β : Type} {x : Option α} {f : α → Option β} {b : β}
    (h : x >>= f = some b) : ∃ a, f a = some b :=
  (Option.bind_eq_some_iff.mp h).imp fun _ => And.right

/-- The parsers that build the value again end alike. -/
theorem canonicalFor_of_rebuilt {ι α : Type} {build : ι → Option (Artifact α)} {input : ι}
    {value : Artifact α} (h : (do
      let built ← build input
      guard (built.canonical = body)
      pure built) = some value) : CanonicalFor build body value := by
  obtain ⟨built, hbuilt, h⟩ := Option.bind_eq_some_iff.mp h
  obtain ⟨_, hbody, hreturn⟩ := Option.bind_eq_some_iff.mp h
  obtain rfl := Option.some.inj hreturn
  exact ⟨(Option.guard_eq_some' _).mp hbody, input, hbuilt⟩

theorem parseAuthorityEffectCommitment_eq_some {value : AuthorityEffectCommitment}
    (h : parseAuthorityEffectCommitment P body = some value) :
    CanonicalFor (newAuthorityEffectCommitment P.toPlatform) body value := by
  iterate 13 obtain ⟨_, h⟩ := exists_of_bind h
  exact canonicalFor_of_rebuilt h

theorem parseAuthorityProviderHeadSnapshot_eq_some {value : AuthorityProviderHeadSnapshot}
    (h : parseAuthorityProviderHeadSnapshot P body = some value) :
    CanonicalFor (newAuthorityProviderHeadSnapshot P.toPlatform) body value := by
  iterate 10 obtain ⟨_, h⟩ := exists_of_bind h
  exact canonicalFor_of_rebuilt h

theorem parseAuthorityCheckpointAnchor_eq_some
    (h : parseAuthorityCheckpointAnchor P body = some value) :
    CanonicalFor (newAuthorityCheckpointAnchor P.toPlatform) body value := by
  iterate 7 obtain ⟨_, h⟩ := exists_of_bind h
  exact canonicalFor_of_rebuilt h

/-- The scope of a commitment is valid, so its digest is not zero. -/
theorem newAuthorityEffectCommitment_scope (hP : P.Documented)
    {input : AuthorityEffectCommitmentFacts} {value : AuthorityEffectCommitment}
    (h : newAuthorityEffectCommitment P.toPlatform input = some value) :
    input.scopeDigest ≠ Digest.zero := by
  obtain ⟨_, hguard, -⟩ := Option.bind_eq_some_iff.mp h
  obtain ⟨-, -, -, -, hscope, -⟩ := (Option.guard_eq_some' _).mp hguard
  exact validScopeDigest_ne_zero hP hscope

/-- A digest of the evidence's input that the parser of evidence does not accept. -/
def ZeroInputDigest (P : ArtifactPlatform) (input : ActivationDecisionEvidenceInput) : Prop :=
  P.sha256 (authorityProviderHeadDomain ++ input.providerHead.canonical) = Digest.zero ∨
    ∃ checkpoint, input.checkpoint = some checkpoint ∧
      P.sha256 (authorityCheckpointAnchorDomain ++ checkpoint.canonical) = Digest.zero

theorem validAuthorityProviderHead_digest {head : AuthorityProviderHeadSnapshot}
    (h : validAuthorityProviderHead P.toPlatform head = true) :
    head.digest = P.sha256 (authorityProviderHeadDomain ++ head.canonical) := by
  obtain ⟨rebuilt, hbuilt, hsame⟩ := (Option.any_eq_true _ _).mp h
  rw [Bool.and_eq_true, beq_iff_eq, beq_iff_eq] at hsame
  obtain ⟨_, -, htext, -⟩ := newAuthorityProviderHeadSnapshot_eq_some hbuilt
  rw [← hsame.1, ← hsame.2]
  exact (canonicalAuthorityArtifact_eq_some htext).2

/-- Evidence that is read back, with its facts and its digest, and is valid for its input. -/
theorem BuiltEvidence.readBack (hP : P.Documented) (htime : ∀ t, ∀ c ∈ P.timeFormat t, c < 0x80)
    {input : ActivationDecisionEvidenceInput} {evidence : ActivationDecisionEvidence}
    (h : BuiltEvidence P input evidence) (hzero : ¬ZeroInputDigest P input) :
    ∃ parsed proof, parseActivationDecisionEvidence P evidence.canonical = some parsed ∧
      parsed.facts = evidence.facts ∧ parsed.digest = evidence.digest ∧
      validateActivationDecisionEvidence P parsed input = .ok proof := by
  obtain ⟨checkpointDigest, hchecked, hfacts⟩ := h.checked
  have hhead : input.providerHead.digest ≠ Digest.zero := by
    have hvalid := hchecked.valid
    simp only [evidenceInputValid, Bool.and_eq_true] at hvalid
    rw [validAuthorityProviderHead_digest hvalid.1.1.1.1.1.1.1.1.1.1.2]
    exact fun hdigest => hzero (Or.inl hdigest)
  have hcheckpoint : ∀ checkpoint, input.checkpoint = some checkpoint →
      checkpoint.digest ≠ Digest.zero := by
    intro checkpoint hsome hdigest
    have hkind : input.material.checkpointKind ≠ .none := by
      intro hnone
      have hvalid := hchecked.checkpoint
      simp only [validateEvidenceCheckpoint, hnone, bind_eq_ok, require_eq_ok, hsome, reduceCtorEq,
        and_false, false_and, exists_false] at hvalid
    obtain ⟨other, hother, -, hvalid, -⟩ := hchecked.anchor hkind
    obtain rfl := Option.some.inj (hsome.symm.trans hother)
    obtain ⟨-, heq⟩ := validAuthorityCheckpointAnchor_checked hvalid
    exact hzero (Or.inr ⟨checkpoint, hsome, heq.symm.trans hdigest⟩)
  obtain ⟨hparse, hvalidate⟩ := hchecked.parse hP htime hfacts hhead hcheckpoint
  exact ⟨_, _, hparse, rfl, rfl, hvalidate⟩

/-- The five kinds of artifacts.  What a constructor builds is short and is read back; what a parser
accepts is the canonical text of what it returns; and evidence that is read back is valid for the
input it was built from.  The parser of evidence asks for digests that are not zero, so evidence is
excepted whose input has the digest zero, which SHA-256 would have to give. -/
theorem artifacts_canonical (P : ArtifactPlatform) (hP : P.Documented)
    (htime : ∀ t, ∀ c ∈ P.timeFormat t, c < 0x80) :
    ((∀ input value, newAuthorityEffectCommitment P.toPlatform input = some value →
        ReadBack (parseAuthorityEffectCommitment P) value) ∧
      ∀ body value, parseAuthorityEffectCommitment P body = some value →
        CanonicalFor (newAuthorityEffectCommitment P.toPlatform) body value) ∧
    ((∀ head value, newAuthorityProviderHeadSnapshot P.toPlatform head = some value →
        ReadBack (parseAuthorityProviderHeadSnapshot P) value) ∧
      ∀ body value, parseAuthorityProviderHeadSnapshot P body = some value →
        CanonicalFor (newAuthorityProviderHeadSnapshot P.toPlatform) body value) ∧
    ((∀ input value, newAuthorityCheckpointAnchor P.toPlatform input = some value →
        ReadBack (parseAuthorityCheckpointAnchor P) value) ∧
      ∀ body value, parseAuthorityCheckpointAnchor P body = some value →
        CanonicalFor (newAuthorityCheckpointAnchor P.toPlatform) body value) ∧
    ((∀ input evidence, BuiltEvidence P input evidence →
        evidence.canonical.length ≤ authorityCanonicalMaximumBytes ∧
        (ZeroInputDigest P input ∨ ∃ parsed proof,
          parseActivationDecisionEvidence P evidence.canonical = some parsed ∧
          parsed.facts = evidence.facts ∧ parsed.digest = evidence.digest ∧
          validateActivationDecisionEvidence P parsed input = .ok proof)) ∧
      ∀ body evidence, parseActivationDecisionEvidence P body = some evidence →
        evidence.canonical = body ∧
        canonicalAuthorityArtifact P.toPlatform activationDecisionEvidenceDomain
          (activationEvidenceWire P evidence.facts) = some (body, evidence.digest)) ∧
    ((∀ input resolution, newAuthorityEffectResolution P input = .ok resolution →
        ReadBack (parseAuthorityEffectResolution P) resolution) ∧
      ∀ body resolution, parseAuthorityEffectResolution P body = some resolution →
        resolution.canonical = body ∧
        canonicalAuthorityArtifact P.toPlatform authorityEffectResolutionDomain
          (authorityEffectResolutionV1 resolution.facts) = some (body, resolution.digest)) := by
  refine ⟨⟨fun input value h => ⟨?_, ?_⟩, fun _ _ => parseAuthorityEffectCommitment_eq_some⟩,
    ⟨fun head value h => ⟨?_, parse_newAuthorityProviderHeadSnapshot hP h⟩,
      fun _ _ => parseAuthorityProviderHeadSnapshot_eq_some⟩,
    ⟨fun input value h => ⟨?_, parse_newAuthorityCheckpointAnchor hP h⟩,
      fun _ _ => parseAuthorityCheckpointAnchor_eq_some⟩,
    ⟨fun input evidence h => ⟨?_, ?_⟩, fun _ _ => parseActivationDecisionEvidence_eq_some⟩,
    fun input resolution h => ⟨?_, parse_newAuthorityEffectResolution hP h⟩,
      fun _ _ => parseAuthorityEffectResolution_eq_some⟩
  · obtain ⟨-, _, _, -, htext, -⟩ := newAuthorityEffectCommitment_eq_some h
    exact (canonicalAuthorityArtifact_eq_some htext).1
  · exact parse_newAuthorityEffectCommitment hP h (newAuthorityEffectCommitment_scope hP h)
  · obtain ⟨_, -, htext, -⟩ := newAuthorityProviderHeadSnapshot_eq_some h
    exact (canonicalAuthorityArtifact_eq_some htext).1
  · obtain ⟨-, htext, -⟩ := newAuthorityCheckpointAnchor_eq_some h
    exact (canonicalAuthorityArtifact_eq_some htext).1
  · obtain ⟨_, hchecked, -⟩ := h.checked
    exact (canonicalAuthorityArtifact_eq_some hchecked.text).1
  · exact or_iff_not_imp_left.mpr (h.readBack hP htime)
  · obtain ⟨-, -, -, -, -, htext⟩ := newAuthorityEffectResolution_eq_ok h
    exact (canonicalAuthorityArtifact_eq_some htext).1

/-- The evidence of a grant that was applied is read back. -/
theorem appliedGrant_readBack :
    (∀ t, ∀ c ∈ plainArtifacts.timeFormat t, c < 0x80) ∧
      appliedGrantEvidence.canonical.length ≤ authorityCanonicalMaximumBytes ∧
      ∃ parsed proof,
        parseActivationDecisionEvidence plainArtifacts appliedGrantEvidence.canonical =
          some parsed ∧ parsed.facts = appliedGrantEvidence.facts ∧
        parsed.digest = appliedGrantEvidence.digest ∧
        validateActivationDecisionEvidence plainArtifacts parsed appliedGrantInput =
          .ok proof := by
  have htime : ∀ t, ∀ c ∈ plainArtifacts.timeFormat t, c < 0x80 := Calendar.format_ascii
  obtain ⟨-, -, -, ⟨hevidence, -⟩, -⟩ :=
    artifacts_canonical plainArtifacts plainArtifacts_documented htime
  obtain ⟨hlength, hread⟩ := hevidence _ _ appliedGrant.evidence_built
  refine ⟨htime, hlength, hread.resolve_left ?_⟩
  rintro (hzero | ⟨checkpoint, hsome, -⟩)
  · have hdigest := validAuthorityProviderHead_digest (P := plainArtifacts)
      (validAuthorityProviderHead_of_new grantHeadSnapshot_built)
    exact absurd (hdigest.trans hzero) (by decide)
  · exact nomatch hsome

end Talenro.Authority
