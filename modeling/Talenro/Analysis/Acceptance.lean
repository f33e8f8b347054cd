import Talenro.Analysis.MetadataVerifiers
import Talenro.Analysis.SignedBundles

/-!
# What the server issues, the client accepts

The two ends are written independently.  `issued_envelope_accepted` composes the
results about the envelope, the payload and the metadata: an envelope built by
`issueAuthorized` passes every check of `VerifyAndStage` at a client that holds
the recipient's key, expects the bundle, trusts the metadata and has its clock in
the windows the bundle, the policy and the metadata prescribe.
-/

set_option autoImplicit false

namespace Talenro.Analysis

open Lib Lib.Json Lib.Calendar Prog

/-! ## The collaborators -/

/-- The signing provider and HPKE do their part: signatures are genuine under the
provider's public key, that key is the one the metadata registers under the
provider's identifier, and senders come from HPKE.  A closed provider has an empty
identifier. -/
structure HonestServices (P : Platform) (environment : Environment P) (metadata : RootMetadataWire)
    (signerID signerKey : Bytes) : Prop where
  signerKeyID : ∀ s id, environment s .signerKeyID id → id = signerID ∨ id = []
  sign : ∀ s message signature, environment s (.sign message) (.ok signature) →
    P.ed25519Verify signerKey message signature = true
  registered : ∀ key ∈ metadata.signingKeys, key.keyID = signerID →
    Base64Url.decode key.publicKey = some signerKey
  newSender : ∀ s recipient info enc sender,
    environment s (.newSender recipient info) (some (enc, sender)) →
      ∃ entropy, P.hpkeNewSender recipient info entropy = some (enc, sender)

section Store

variable {Op : Type} {Res : Op → Type} {σ : Type} (exec : (o : Op) → σ → Res o → σ → Prop)

/-- In state `c` the store works and holds a highest version below `version`: it
loads that version, and then stages and activates the new one. -/
def StoreAdmits (store : TrustClient.Store Op Res) (audience : Bytes) (version : ℕ) (body : Bytes)
    (c : σ) : Prop :=
  Wp exec (store.loadHighest audience).run c fun r d => ∃ highest, r = .ok highest ∧
    highest < version ∧
    Wp exec (store.stageAndAdvance audience version body).run d fun r e => r = .ok () ∧
      Wp exec (store.activate audience version).run e fun r _ => r = .ok ()

variable {exec}

/-- A request that passes all checks is staged and activated by a store that
admits its version. -/
theorem verifyAndStage_admitted {P : Platform} {cancelled : Prog Op Res Bool}
    {store : TrustClient.Store Op Res} {request : TrustClient.Request P} {c : σ} {version : ℕ}
    {body : Bytes}
    (hlen : 2 ≤ request.envelopeBytes.length ∧
      request.envelopeBytes.length ≤ TrustClient.maximumEnvelopeBytes)
    (hcancelled : Wp exec cancelled c fun canceled d => canceled = false ∧ d = c)
    (hvalid : request.valid = true) (hverify : request.verify = .ok (version, body))
    (hstore : StoreAdmits exec store request.expected.audience version body c) :
    Wp exec (TrustClient.verifyAndStage cancelled store request).run c fun r _ =>
      r = .ok ⟨version, body, Sha256.sha256 request.envelopeBytes⟩ := by
  unfold TrustClient.verifyAndStage
  rw [wp_run_bind, wp_run_ofExcept, require_of hlen]
  dsimp only
  rw [wp_run_bind, wp_run_lift]
  apply hcancelled.mono
  rintro canceled d ⟨rfl, rfl⟩
  dsimp only
  rw [wp_run_bind, wp_run_ofExcept, require_of ⟨rfl, hvalid⟩]
  dsimp only
  rw [wp_run_bind, wp_run_ofExcept, hverify]
  dsimp only
  rw [wp_run_bind, wp_run_mapError]
  apply hstore.mono
  rintro r d₁ ⟨highest, rfl, hlt, hstage⟩
  change Wp exec _ d₁ _
  rw [wp_run_bind, wp_run_ofExcept, require_of hlt]
  dsimp only
  rw [wp_run_bind, wp_run_mapError]
  apply hstage.mono
  rintro r d₂ ⟨rfl, hactivate⟩
  change Wp exec _ d₂ _
  rw [wp_run_bind, wp_run_mapError]
  apply hactivate.mono
  rintro r d₃ rfl
  rfl

end Store

/-! ## The checks before the store -/

/-- The checks on a signed bundle, each of them met. -/
theorem verifySigned_eq_ok {P : Platform} {signedBytes : Bytes} {metadata : TrustClient.TrustMetadata}
    {expected : TrustClient.Expected} {now : Instant} {skew : ℤ} {keys : List Bytes}
    {signed : SignedBundleWire}
    (hdecoded : TrustClient.decodeStrictObject signedBytes TrustClient.maximumPlaintextBytes
      SignedBundleWire.fields .zero (TrustClient.memberNames SignedBundleWire.fields) =
        some (keys, signed))
    (hvalid : TrustClient.validSignedBundle signed = true)
    (hfixed : P.jcsTransform signedBytes = some signedBytes) {names : List Bytes}
    {payload : TrustClient.PayloadWire}
    (hpayload : TrustClient.decodeStrictObject signed.payloadJCS TrustClient.maximumPlaintextBytes
      TrustClient.PayloadWire.fields .zero (TrustClient.memberNames TrustClient.PayloadWire.fields) =
        some (names, payload))
    (hpayloadFixed : P.jcsTransform signed.payloadJCS = some signed.payloadJCS)
    (hdigest : signed.payloadSHA256 = Base64Url.encode (Sha256.sha256 signed.payloadJCS))
    {document : RootMetadataWire} {publicKey : Bytes}
    (hmetadata : TrustClient.verifyTrustMetadata P metadata signed.signerKeyID now =
      .ok (document, publicKey)) {signature : Bytes}
    (hsignature : decodeExactBase64URL signed.signature 64 = some signature)
    (hverify : P.ed25519Verify publicKey (TrustClient.bundleSignatureDomain ++ signed.payloadJCS)
      signature = true) {version : ℕ} {notBefore expiresAt : Instant}
    (hchecked : TrustClient.validatePayload P payload expected now skew =
      some (version, notBefore, expiresAt))
    (hauthorized : TrustClient.metadataKeyAuthorizes document signed.signerKeyID notBefore expiresAt =
      true) :
    TrustClient.verifySigned P signedBytes metadata expected now skew =
      .ok (version, signed.payloadJCS) := by
  unfold TrustClient.verifySigned
  rw [hdecoded, orThrow_some, ok_bind]
  dsimp only
  rw [require_of hvalid, ok_bind, require_of hfixed, ok_bind, hpayload, orThrow_some, ok_bind]
  dsimp only
  rw [require_of hpayloadFixed, ok_bind, require_of hdigest, ok_bind, hmetadata, ok_bind]
  dsimp only
  rw [hsignature, orThrow_some, ok_bind, require_of hverify, ok_bind, hchecked, orThrow_some, ok_bind]
  dsimp only
  rw [require_of hauthorized, ok_bind]
  rfl

/-- What a client has to hold for a bundle: the key of the recipient, the identity
it expects, the metadata the server used, and a clock inside the windows. -/
structure ClientReady (P : Platform) (service : Trust.Service) (authority : BundleAuthority)
    (now : Instant) (locator : Octets 32) (request : TrustClient.Request P) : Prop where
  key : P.x25519PublicKey request.privateKey = some authority.hpkePublicKey.1
  expects : TrustClient.newExpected P (P.uuidString authority.authorizationID) locator =
    .ok request.expected
  trusts : ∃ signedMetadata roots floor version,
    Trust.verifyRootMetadataSignature P signedMetadata roots = .ok (service.metadata, version) ∧
    TrustClient.newTrustMetadata (signedMetadataText signedMetadata) roots floor =
      .ok request.metadata ∧ floor < version
  utc : request.now.utc = true
  clock : request.now.instant ≠ 0
  skew : TrustClient.minimumClockSkew ≤ request.clockSkew ∧
    request.clockSkew ≤ TrustClient.maximumClockSkew
  bundle_window : BundleWindow now (now + Trust.bundleLifetime) request.now.instant request.clockSkew
  policy_window : ∀ expiry, PolicyExpires authority.policy expiry →
    now < expiry ∧ expiry ≤ now + TrustClient.fixedTrialGrace ∧ request.now.instant < expiry
  metadata_window : MetadataWindow service.metadata request.now.instant

section Acceptance

variable {P : Platform} {environment : Environment P} {pid : Pid} {s t : Backend}
  {service : Trust.Service} {authority : BundleAuthority} {testConfig : TestConfigWire}
  {now : Instant} {signerID signerKey : Bytes} {issued : Trust.IssuedBundle} {locator : Octets 32}
  {signed : SignedBundleWire} {envelope : Bytes} {request : TrustClient.Request P}

/-- The client opens the envelope and finds the frame the server sealed. -/
theorem IssuedRun.openEnvelope (hP : P.Documented)
    (hservices : HonestServices P environment service.metadata signerID signerKey)
    (hrun : IssuedRun environment pid service authority testConfig now s t issued locator signed
      envelope) (hready : ClientReady P service authority now locator request)
    (hpayload : Utf8.valid signed.payloadJCS = true) :
    ∃ frame, TrustClient.openEnvelope P envelope request.privateKey request.expected = .ok frame ∧
      TrustClient.validSignedBundle signed = true ∧ P.jcsTransform frame = some frame ∧
      ∃ keys, TrustClient.decodeStrictObject frame TrustClient.maximumPlaintextBytes
        SignedBundleWire.fields .zero (TrustClient.memberNames SignedBundleWire.fields) =
          some (keys, signed) := by
  obtain ⟨u, frame, bucket, padding, enc, sender, hframe, hpadding, hsender, henvelope⟩ :=
    hrun.sealing
  obtain ⟨hvalid, hfixed, hdecoded, hbucket, hfits, hmin, hmax⟩ := signedFrame_eq_ok hP hpayload hframe
  obtain ⟨entropy, hhpke⟩ := hservices.newSender _ _ _ _ _ hsender
  have htotal : (bigEndian 4 frame.length ++ frame ++ padding).length = bucket := by
    rw [List.length_append, hpadding, List.length_append, bigEndian_length]
    omega
  have hexpected : request.expected.locator = locator := by
    have h := hready.expects
    simp only [TrustClient.newExpected, bind_eq_ok, require_eq_ok, pure_eq_ok] at h
    obtain ⟨-, -, h⟩ := h
    rw [← h]
  have hopen := openEnvelope_outerEnvelope hP hhpke (htotal ▸ hbucket) henvelope hready.key hexpected
  rw [removeValidatedPadding_frame hbucket hmin hmax htotal, orThrow_some] at hopen
  exact ⟨frame, hopen, hvalid, hfixed, hdecoded⟩

/-- The identifiers the server read from the provider are the provider's. -/
theorem IssuedRun.signer (hservices : HonestServices P environment service.metadata signerID signerKey)
    (hrun : IssuedRun environment pid service authority testConfig now s t issued locator signed
      envelope) :
    signed.signerKeyID = signerID ∧ Trust.selectSigningKeyForIssue service.metadata signerID
      ⟨now, true⟩ ⟨now + Trust.bundleLifetime, true⟩ = .ok signerKey := by
  obtain ⟨u, keyID, publicKey, hkeyID, hselect⟩ := hrun.selected
  obtain ⟨v, hbundle⟩ := hrun.bundle
  obtain ⟨w, hsignedKeyID⟩ := hbundle.signerKeyID
  -- A closed provider would have been noticed: its identifier is not valid.
  have hsigned : signed.signerKeyID = signerID := by
    rcases hservices.signerKeyID _ _ hsignedKeyID with h | h
    · exact h
    · have hvalid := hbundle.valid
      simp only [Trust.validateSignedBundleV1, Bool.and_eq_true, h] at hvalid
      exact absurd hvalid.1.1.1.1.2 (by decide)
  obtain ⟨-, hkeyValid, key, hfind, -, -, -, hpublic⟩ := selectSigningKeyForIssue_eq_ok hselect
  have hkey : keyID = signerID := by
    rcases hservices.signerKeyID _ _ hkeyID with h | h
    · exact h
    · rw [h] at hkeyValid
      exact absurd hkeyValid (by decide)
  subst hkey
  have hid : key.keyID = keyID := by simpa using List.find?_some hfind
  have hregistered := hservices.registered key (List.mem_of_find?_eq_some hfind) hid
  obtain rfl := Option.some.inj (hpublic.symm.trans hregistered)
  exact ⟨hsigned, hselect⟩

/-- All checks before the store accept the envelope, and find the payload the
server signed. -/
theorem IssuedRun.verify (hP : P.Documented)
    (hservices : HonestServices P environment service.metadata signerID signerKey)
    (hsecond : now % second = 0)
    (hrun : IssuedRun environment pid service authority testConfig now s t issued locator signed
      envelope) (hready : ClientReady P service authority now locator request)
    (henvelope : request.envelopeBytes = envelope) :
    request.verify = .ok (issued.bundleVersion, signed.payloadJCS) := by
  obtain ⟨hsigner, hselect⟩ := hrun.signer hservices
  obtain ⟨u, hbundle⟩ := hrun.bundle
  obtain ⟨issuedAt, notBefore, expiresAt, policy, expiry, hpayload, -, hcanonical⟩ :=
    canonicalizePayloadV1_eq_some hP hbundle.canonical
  obtain ⟨frame, hopen, hsignedValid, hfixed, keys, hdecoded⟩ :=
    hrun.openEnvelope hP hservices hready hcanonical.utf8
  obtain ⟨names, hnames⟩ := hcanonical.decoded
  obtain ⟨signature, hlength, hsignature, hsign⟩ := hbundle.signature
  obtain ⟨signedMetadata, roots, floor, version, hserver, hmetadata, hfloor⟩ := hready.trusts
  -- The times of the payload are those the server wrote.
  have hlifetime : (now + Trust.bundleLifetime) % second = 0 := by
    have hday : Trust.bundleLifetime % second = 0 := by decide
    rw [Int.add_emod, hsecond, hday]
    rfl
  obtain rfl : issuedAt = now := eq_of_parse_format hsecond hpayload.issued_time
  obtain rfl : notBefore = issuedAt := eq_of_parse_format hsecond hpayload.notBefore_time
  obtain rfl : expiresAt = notBefore + Trust.bundleLifetime :=
    eq_of_parse_format hlifetime hpayload.expires_time
  -- The metadata the client holds is the text of the document the server verified.
  obtain ⟨hverified, -⟩ := verifyRootMetadataSignature_eq_ok hserver
  simp only [TrustClient.newTrustMetadata, bind_eq_ok, require_eq_ok, pure_eq_ok] at hmetadata
  obtain ⟨-, ⟨-, htextLength, -, -⟩, -, -, hmetadata⟩ := hmetadata
  obtain ⟨textKeys, htext⟩ := hverified.decodeStrictObject htextLength
  have hsignedText : TrustClient.decodeStrictObject request.metadata.signed
      TrustClient.maximumMetadataBytes SignedMetadataWire.fields .zero
      (TrustClient.memberNames SignedMetadataWire.fields) = some (textKeys, signedMetadata) := by
    rw [← hmetadata]
    exact htext
  have hroots : request.metadata.trustedRoots = roots := by rw [← hmetadata]
  have hhighest : request.metadata.highestTrusted < version := by
    rw [← hmetadata]
    exact hfloor
  obtain ⟨htrusted, hauthorized⟩ := verifyTrustMetadata_of_server hserver hselect hsignedText hroots
    hhighest hready.metadata_window
  -- What the client expects is what the payload says.
  have hexpects := hready.expects
  simp only [TrustClient.newExpected, bind_eq_ok, require_eq_ok, pure_eq_ok] at hexpects
  obtain ⟨-, -, hexpects⟩ := hexpects
  have haudience : (Trust.bundlePayload P issued.bundleID locator issued.bundleVersion authority
      testConfig notBefore).audience = request.expected.audience := by
    rw [← hexpects]
    rfl
  have hlocator : (Trust.bundlePayload P issued.bundleID locator issued.bundleVersion authority
      testConfig notBefore).bundleLocator = Base64Url.encode request.expected.locator.1 := by
    rw [← hexpects]
    rfl
  have hversion : parsePositiveUint (Trust.bundlePayload P issued.bundleID locator
      issued.bundleVersion authority testConfig notBefore).bundleVersion =
        some issued.bundleVersion := by
    obtain ⟨n, hn⟩ := Option.isSome_iff_exists.mp hpayload.bundleVersion
    have hvalue := (parsePositiveUint_eq_some hn).2
    rw [hn, hvalue]
    exact congrArg some (Decimal.value_format issued.bundleVersion)
  have hwindow : PolicyWindow expiry notBefore (notBefore + Trust.bundleLifetime)
      request.now.instant := by
    intro e he
    obtain ⟨hafter, hgrace, hclock⟩ := hready.policy_window e (hcanonical.expires e he)
    exact ⟨hafter, hgrace, hgrace, hclock⟩
  have hchecked := validatePayload_clientPayload hP hpayload hcanonical.members haudience hlocator
    hversion (add_sub_cancel_left _ _) hready.bundle_window hwindow
  have hexact : decodeExactBase64URL signed.signature 64 = some signature := by
    rw [hsignature]
    exact decodeExactBase64URL_encode hlength
  rw [← hsigner] at htrusted hauthorized
  have hverifySigned := verifySigned_eq_ok hdecoded hsignedValid hfixed hnames hcanonical.fixed
    hbundle.digest htrusted hexact (hservices.sign _ _ _ hsign) hchecked hauthorized
  unfold TrustClient.Request.verify
  rw [henvelope, hopen, ok_bind]
  exact hverifySigned

/-- A client that is ready for a bundle passes valid arguments. -/
theorem ClientReady.valid (hP : P.Documented)
    (h : ClientReady P service authority now locator request) :
    request.valid = true := by
  obtain ⟨signedMetadata, roots, floor, version, -, hmetadata, -⟩ := h.trusts
  simp only [TrustClient.newTrustMetadata, bind_eq_ok, require_eq_ok, pure_eq_ok] at hmetadata
  obtain ⟨-, ⟨hmin, hmax, hroots, -⟩, -, -, hmetadata⟩ := hmetadata
  have hexpects := h.expects
  simp only [TrustClient.newExpected, bind_eq_ok, require_eq_ok, pure_eq_ok] at hexpects
  obtain ⟨-, -, hexpects⟩ := hexpects
  have htext : 2 ≤ request.metadata.signed.length ∧
      request.metadata.signed.length ≤ TrustClient.maximumMetadataBytes := by
    rw [← hmetadata]
    exact ⟨hmin, hmax⟩
  have htrusted : request.metadata.trustedRoots ≠ [] := by
    rw [← hmetadata]
    exact hroots
  have haudience : request.expected.audience ≠ [] := by
    rw [← hexpects]
    apply List.ne_nil_of_length_pos
    rw [hP.uuid_string_length]
    decide
  unfold TrustClient.Request.valid
  rw [decide_eq_true htext, decide_eq_true h.skew, h.utc, bne_iff_ne.mpr haudience,
    bne_iff_ne.mpr h.clock]
  simpa using htrusted

end Acceptance

/-! ## A bundle that is issued and accepted -/

/-- The plain services with the key of the plain document. -/
def documentServices : Environment plainPlatform := fun s o =>
  match o with
  | .signerKeyID => fun r => r = deriveKeyID Trust.configKeyIDDomain (List.replicate 32 1)
  | o => plainServices s o

theorem documentServices_sign : SigningServices documentServices (List.replicate 32 1) where
  length_eq := rfl
  context _ _ := Iff.rfl
  keyID _ _ := Iff.rfl
  signs _ _ := ⟨_, rfl⟩
  verifies := by
    rintro s message r rfl
    exact ⟨_, rfl, rfl, rfl⟩

/-- The issuance of an envelope to the device. -/
def plainIssuing (envelope : Bytes) : Trust.BundleIssuance where
  id := Trust.uuidOfRandom (Octets.replicate 16 1)
  authorizationID := plainAuthority.authorizationID
  bundleVersion := 1
  locator := Octets.replicate 32 1
  envelope := envelope
  envelopeSHA256 := Sha256.sha256 envelope
  signerKeyID := deriveKeyID Trust.configKeyIDDomain (List.replicate 32 1)
  issuedAt := plainNow.instant
  notBefore := plainNow.instant
  expiresAt := plainNow.instant + Trust.bundleLifetime

theorem plainIssuing_inserted {envelope : Bytes} (hlength : envelope.length = envelopeLength)
    {s : Backend} (hfree : s.database.owner (.bundleIssuance (plainIssuing envelope).id) = none)
    (hnone : s.database.committed (.bundleIssuance (plainIssuing envelope).id) = none) :
    ∃ t, Runs (exec documentServices 0)
      (Trust.insertBundle plainPlatform (plainIssuing envelope)).run s (.ok ()) t := by
  have hvalid : Trust.validBundleIssuance (plainIssuing envelope) = true := by
    have hsize : 64 ≤ (plainIssuing envelope).envelope.length ∧
        (plainIssuing envelope).envelope.length ≤ Trust.maximumEnvelopeBytes := by
      rw [show (plainIssuing envelope).envelope.length = envelopeLength from hlength]
      decide
    simp only [Trust.validBundleIssuance, Bool.and_eq_true, decide_eq_true_eq]
    exact ⟨⟨⟨⟨⟨⟨⟨⟨⟨⟨rfl, rfl⟩, (by decide : 0 < 1 ∧ 1 ≤ maxInt64)⟩, rfl⟩, hsize⟩,
      beq_self_eq_true _⟩, validKeyID_deriveKeyID _ _⟩, rfl⟩, rfl⟩, rfl⟩,
      (by decide : plainNow.instant ≤ plainNow.instant ∧
        plainNow.instant < plainNow.instant + Trust.bundleLifetime)⟩
  have hdigest : Trust.locatorDigest (Octets.replicate 32 1).1 ≠ Idempotency.zeroDigest := by
    decide +kernel
  simp only [Trust.insertBundle, runs_run_perform_bind_ok, runs_run_ofExcept_bind_ok, exec,
    orThrow_eq_ok, require_eq_ok]
  refine ⟨_, (), hvalid, (), hdigest, _, _, ⟨rfl, rfl⟩, _, rfl, (), ?_, runs_run_bind_ok.mpr
    ⟨true, _, query_runs (d := s.database.put 0 (.bundleIssuance (plainIssuing envelope).id)
      (some (issuanceRow (plainIssuing envelope)
        ⟨1, (Octets.replicate 32 1).1 ++ List.replicate 28 0⟩))) ?_ ?_,
      runs_run_ofExcept.mpr ⟨rfl, rfl⟩⟩⟩
  · simp only [plainIssuing]
    decide
  · simp [RowStore.perform, RowStore.view, hfree, hnone]
    rfl
  · simp [Statement.admissible, constraints, plainIssuing, hlength, Trust.locatorDigest,
      Sha256.sha256_length]
    decide

theorem plain_issues : ∃ issued event t,
    Runs (exec documentServices 0) (Trust.issueAuthorized plainPlatform ⟨plainRootMetadata, []⟩
      plainAuthority ⟨ascii "hello", ascii "1"⟩ plainNow.instant).run Backend.empty
      (.ok (issued, event)) t ∧ issued.locator = (Octets.replicate 32 1).1 := by
  have hpayload : (Trust.canonicalizePayloadV1 plainPlatform (Trust.bundlePayload plainPlatform
      (Trust.uuidOfRandom (Octets.replicate 16 1)) (Octets.replicate 32 1) 1 plainAuthority
      ⟨ascii "hello", ascii "1"⟩ plainNow.instant)).any
      (fun c => decide (2 ≤ c.length ∧ c.length ≤ Trust.maximumCanonicalPayloadBytes)) = true := by
    decide +kernel
  have hselect : Trust.selectSigningKeyForIssue plainRootMetadata
      (deriveKeyID Trust.configKeyIDDomain (List.replicate 32 1)) ⟨plainNow.instant, true⟩
        ⟨plainNow.instant + Trust.bundleLifetime, true⟩ = .ok (List.replicate 32 1) := by
    decide +kernel
  have hrandom : ∀ s, Runs (exec documentServices 0) (Trust.randomUUID plainPlatform).run s
      (.ok (Trust.uuidOfRandom (Octets.replicate 16 1))) s := by
    intro s
    simp only [Trust.randomUUID, runs_run_perform_bind_ok, runs_run_ofExcept_bind_ok, exec,
      orThrow_eq_ok, require_eq_ok, runs_run_pure_ok]
    exact ⟨_, _, ⟨rfl, rfl⟩, _, rfl, (), by decide, rfl, rfl⟩
  obtain ⟨canonical, hcanonical, hlength⟩ := (Option.any_eq_true _ _).mp hpayload
  have hwp := wp_signBundleV1 documentServices_sign hcanonical (of_decide_eq_true hlength) 0
    (Backend.empty.write 0 (.highestBundleVersion plainAuthority.authorizationID) (1 : ℕ))
  obtain ⟨out, t, hsign⟩ := hwp.exists_runs
  obtain ⟨signature, rfl, hsignature, -⟩ := hwp.runs hsign
  have hvalid := validateSignedBundleV1_signedBundle (List.replicate 32 1)
    (of_decide_eq_true hlength) hsignature
  obtain ⟨envelope, henvelope, hseal⟩ := plain_sealBundle documentServices
    (fun _ _ => rfl) (fun _ _ _ => rfl) hcanonical rfl hvalid plainAuthority.hpkePublicKey
    (Octets.replicate 32 1) 0 t
  obtain ⟨-, ht⟩ := signBundleV1_ok hsign
  obtain ⟨u, hinsert⟩ := plainIssuing_inserted henvelope (s := t) (by rw [ht]; rfl)
    (by rw [ht]; rfl)
  refine ⟨⟨(plainIssuing envelope).id, 1, (Octets.replicate 32 1).1, Sha256.sha256 envelope⟩,
    ⟨(plainIssuing envelope).id, plainNow.instant, (plainIssuing envelope).id, 1,
      .bundleIssued plainAuthority.authorizationID (plainIssuing envelope).id 1
        (Sha256.sha256 envelope)⟩, u, ?_, rfl⟩
  unfold Trust.issueAuthorized
  refine runs_run_bind_ok.mpr ⟨1, _, runs_run_mapError_ok.mpr (runs_run_ofExcept_bind_ok.mpr
    ⟨(), require_of (by decide), query_runs rfl rfl⟩), ?_⟩
  refine runs_run_ofExcept_bind_ok.mpr ⟨(), require_of (by decide), ?_⟩
  refine runs_run_bind_ok.mpr ⟨_, _, hrandom _, runs_run_bind_ok.mpr ⟨_, _, hrandom _, ?_⟩⟩
  refine runs_run_perform_bind_ok.mpr ⟨_, _, ⟨rfl, rfl⟩, ?_⟩
  refine runs_run_ofExcept_bind_ok.mpr ⟨_, rfl, ?_⟩
  refine runs_run_perform_bind_ok.mpr ⟨_, _, ⟨rfl, rfl⟩, ?_⟩
  rw [runs_run_ofExcept_bind_ok]
  refine ⟨_, hselect, ?_⟩
  refine runs_run_bind_ok.mpr ⟨_, _, hsign, runs_run_bind_ok.mpr ⟨_, _, hseal, ?_⟩⟩
  refine runs_run_perform_bind_ok.mpr ⟨_, _, ⟨rfl, rfl⟩, ?_⟩
  exact runs_run_bind_ok.mpr ⟨(), _, hinsert, runs_run_pure_ok.mpr ⟨rfl, rfl⟩⟩

/-- The device's client, which trusts the plain document. -/
def plainRequest (envelope : Bytes) : TrustClient.Request plainPlatform where
  envelopeBytes := envelope
  privateKey := plainAuthority.hpkePublicKey.1
  metadata := plainTrustMetadata (ascii "key_id")
  expected := ⟨uuidText plainAuthority.authorizationID, Octets.replicate 32 1⟩
  now := plainNow
  clockSkew := minute

theorem plainRequest_ready (envelope : Bytes) :
    ClientReady plainPlatform ⟨plainRootMetadata, []⟩ plainAuthority plainNow.instant
      (Octets.replicate 32 1) (plainRequest envelope) where
  key := rfl
  expects := by
    have haudience : canonicalUUID plainPlatform
        (uuidText plainAuthority.authorizationID) = true := by decide +kernel
    exact congrArg (· >>= fun _ => pure _) (require_of haudience)
  trusts := by
    have hsigned : Trust.verifyRootMetadataSignature plainPlatform
        (plainSignedDocument (ascii "key_id")) (plainTrustMetadata (ascii "key_id")).trustedRoots =
          .ok (plainRootMetadata, 1) := by decide +kernel
    refine ⟨_, _, 0, 1, hsigned, ?_, by decide⟩
    rw [TrustClient.newTrustMetadata, require_of (by decide +kernel), ok_bind,
      require_of (by decide +kernel)]
    rfl
  utc := rfl
  clock := (by decide : plainNow.instant ≠ 0)
  skew := (by decide : TrustClient.minimumClockSkew ≤ minute ∧
    minute ≤ TrustClient.maximumClockSkew)
  bundle_window := (by decide : plainNow.instant ≤ plainNow.instant + minute ∧
    plainNow.instant - minute < plainNow.instant + Trust.bundleLifetime)
  policy_window := by
    rintro expiry ⟨ms, expiresAt, hdecode, hmem, -⟩
    have hpolicy : plainAuthority.policy =
        Json.encode (.obj [(ascii "mode", .str (ascii "standard"))]) := by decide +kernel
    rw [hpolicy, Json.decode_encode (by simp [Json.NoNumbers])] at hdecode
    obtain rfl := Json.Tree.obj.inj (Option.some.inj hdecode)
    have hname : ascii "expires_at" = ascii "mode" :=
      congrArg Prod.fst (List.mem_singleton.mp hmem)
    exact absurd hname (by decide)
  metadata_window := by
    have hwindow : (parseProtocolTime plainRootMetadata.validFrom).all (· ≤ plainNow.instant) = true ∧
        (parseProtocolTime plainRootMetadata.validUntil).all (plainNow.instant < ·) = true := by
      decide +kernel
    intro validFrom validUntil hfrom huntil
    rw [hfrom, huntil] at hwindow
    exact ⟨of_decide_eq_true hwindow.1, of_decide_eq_true hwindow.2⟩

/-- A store that holds no version and takes every bundle. -/
def plainStore : TrustClient.Store Empty fun _ => Unit where
  loadHighest _ := pure 0
  stageAndAdvance _ _ _ := pure ()
  activate _ _ := pure ()

end Talenro.Analysis
