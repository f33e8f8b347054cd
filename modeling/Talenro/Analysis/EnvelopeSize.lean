import Talenro.Analysis.CanonicalPayloads
import Talenro.Analysis.Issuing
import Talenro.Analysis.PlainPlatform

/-!
# The size of an envelope

The length of a distribution envelope is the only thing about a configuration that its
distribution shows.  A payload is bounded in all its parts: a message of two hundred and
fifty-six octets, spelled once in the payload and again in the signed bundle, is the largest of
them.  So every signed bundle fits the smallest bucket, and every envelope has the same length
(`sealBundle_cases`).
-/

set_option autoImplicit false

namespace Talenro.Analysis

open Lib Lib.Json Lib.Calendar Prog

/-! ## Strings that are spelled as they are -/

theorem unescaped_keyID {s : Bytes} (h : validKeyID s = true) : Unescaped s ∧ s.length ≤ 64 := by
  rw [validKeyID, Bool.and_eq_true, decide_eq_true_eq, List.all_eq_true] at h
  refine ⟨?_, h.1.2⟩
  intro c hc
  have hchar := h.2 c hc
  simp only [Bool.or_eq_true, Bool.and_eq_true, decide_eq_true_eq, beq_iff_eq,
    UInt8.le_iff_toNat_le] at hchar
  have hnat : 32 ≤ c.toNat ∧ c.toNat ≠ 0x22 ∧ c.toNat ≠ 0x5c := by
    rcases hchar with (((hc | hc) | hc) | rfl) | rfl
    · have : (0x41 : UInt8).toNat = 65 ∧ (0x5a : UInt8).toNat = 90 := by decide
      omega
    · have : (0x61 : UInt8).toNat = 97 ∧ (0x7a : UInt8).toNat = 122 := by decide
      omega
    · have : (0x30 : UInt8).toNat = 48 ∧ (0x39 : UInt8).toNat = 57 := by decide
      omega
    · decide
    · decide
  refine quotePiece_of_le (UInt8.le_iff_toNat_le.mpr hnat.1) ?_ ?_
  · rintro rfl
    exact hnat.2.1 rfl
  · rintro rfl
    exact hnat.2.2 rfl

/-! ## The payload inside the signed bundle -/

/-- A policy inside the payload string. -/
theorem PolicyMembers.length_le {policy : List (Bytes × Json.Tree Bytes)} {expiry : Option Instant}
    (h : PolicyMembers policy expiry) : (spelled (encode (.obj policy))).length ≤ 220 := by
  cases h with
  | standard =>
    have hsum := length_spelled_encode_obj (show standardPolicy ≠ [] by simp [standardPolicy])
    have hnames : (spelled (spelled (ascii "mode"))).length = 4 ∧
        (spelled (spelled (ascii "standard"))).length = 8 := by decide
    simp only [standardPolicy, List.map_cons, List.map_nil, List.sum_cons, List.sum_nil,
      length_spelled_encode_str] at hsum ⊢
    omega
  | @trial expiresAt expiry htime =>
    have hsum := length_spelled_encode_obj
      (show trialPolicy expiresAt ≠ [] by simp [trialPolicy])
    have hexpires := spelled_spelled_length_le expiresAt
    rw [(format_of_parse htime).2.2] at hexpires
    have hnames : (spelled (spelled (ascii "expires_at"))).length = 10 ∧
        (spelled (spelled (ascii "max_devices"))).length = 11 ∧
        (spelled (spelled (ascii "1"))).length = 1 ∧
        (spelled (spelled (ascii "mode"))).length = 4 ∧
        (spelled (spelled (ascii "trial_restricted"))).length = 16 := by decide
    simp only [trialPolicy, List.map_cons, List.map_nil, List.sum_cons, List.sum_nil,
      length_spelled_encode_str] at hsum ⊢
    omega

theorem length_config_le {config : TestConfigWire}
    (hmessage : config.message.length ≤ Trust.maximumMessageBytes)
    (hsequence : unsignedIntegerString config.sequence = true) :
    (spelled (encode (.obj (configMembers config)))).length ≤ 1848 := by
  have hsum := length_spelled_encode_obj
    (show configMembers config ≠ [] by simp [configMembers])
  have hlong := spelled_spelled_length_le config.message
  obtain ⟨hplain, hshort⟩ := unescaped_unsignedIntegerString hsequence
  have htwice := hplain.length_twice
  have hnames : (spelled (spelled (ascii "message"))).length = 7 ∧
      (spelled (spelled (ascii "sequence"))).length = 8 := by decide
  unfold Trust.maximumMessageBytes at hmessage
  simp only [configMembers, List.map_cons, List.map_nil, List.sum_cons, List.sum_nil,
    length_spelled_encode_str] at hsum ⊢
  omega

/-- The canonical payload inside the signed bundle. -/
theorem length_spelled_payload_le {P : Platform} (hP : P.Documented) {v : Trust.PayloadV1}
    {canonical : Bytes} (h : Trust.canonicalizePayloadV1 P v = some canonical) :
    (spelled canonical).length ≤ 3450 := by
  obtain ⟨issuedAt, notBefore, expiresAt, policy, expiry, hv, rfl, hcanonical⟩ :=
    canonicalizePayloadV1_eq_some hP h
  obtain ⟨version, hversion⟩ := Option.isSome_iff_exists.mp hv.bundleVersion
  have hpolicy := hcanonical.members.length_le
  have hconfig := length_config_le hv.message_length hv.sequence
  have hid := spelled_spelled_length_le v.bundleID
  have haudience := spelled_spelled_length_le v.audience
  rw [length_of_canonicalUUID hP hv.bundleID] at hid
  rw [length_of_canonicalUUID hP hv.audience] at haudience
  have hissued := spelled_spelled_length_le v.issuedAt
  have hnotBefore := spelled_spelled_length_le v.notBefore
  have hexpires := spelled_spelled_length_le v.expiresAt
  rw [(format_of_parse hv.issued_time).2.2] at hissued
  rw [(format_of_parse hv.notBefore_time).2.2] at hnotBefore
  rw [(format_of_parse hv.expires_time).2.2] at hexpires
  obtain ⟨hlocatorPlain, hlocatorLength⟩ := unescaped_of_decodeExactBase64URL hv.bundleLocator
  have hlocator := hlocatorPlain.length_twice
  obtain ⟨hversionPlain, hversionLength⟩ :=
    unescaped_unsignedIntegerString (parsePositiveUint_eq_some hversion).1
  have hbundleVersion := hversionPlain.length_twice
  have hschema : (spelled (spelled v.schemaVersion)).length = 24 := by
    rw [hv.schemaVersion]
    decide
  have hnames : (spelled (spelled (ascii "audience"))).length = 8 ∧
      (spelled (spelled (ascii "bundle_id"))).length = 9 ∧
      (spelled (spelled (ascii "bundle_locator"))).length = 14 ∧
      (spelled (spelled (ascii "bundle_version"))).length = 14 ∧
      (spelled (spelled (ascii "expires_at"))).length = 10 ∧
      (spelled (spelled (ascii "issued_at"))).length = 9 ∧
      (spelled (spelled (ascii "not_before"))).length = 10 ∧
      (spelled (spelled (ascii "policy_snapshot"))).length = 15 ∧
      (spelled (spelled (ascii "schema_version"))).length = 14 ∧
      (spelled (spelled (ascii "test_config"))).length = 11 := by decide
  have hsum := length_spelled_encode_obj
    (show sortedPayload v (.obj policy) ≠ [] by simp [sortedPayload])
  unfold canonicalText
  simp only [sortedPayload, List.map_cons, List.map_nil, List.sum_cons, List.sum_nil,
    length_spelled_encode_str] at hsum ⊢
  omega

/-! ## The frame -/

section Signed

variable {P : Platform} {payload : Trust.PayloadV1} {signed : SignedBundleWire}

/-- The signed bundle and its length prefix fit the smallest bucket. -/
theorem length_signed_le (hP : P.Documented)
    (hcanonical : Trust.canonicalizePayloadV1 P payload = some signed.payloadJCS)
    (hpadding : signed.padding = []) (hvalid : Trust.validateSignedBundleV1 signed = true) :
    (encode (.obj (sortedSigned signed))).length + Trust.plaintextLengthBytes ≤ 4096 ∧
      (marshal ((Trust.signedBundleTree signed).map quote)).length ≤
        Trust.maximumEnvelopePlaintext := by
  have hpayload := length_spelled_payload_le hP hcanonical
  have hshorter := length_le_spelled signed.payloadJCS
  simp only [Trust.validateSignedBundleV1, Bool.and_eq_true, beq_iff_eq] at hvalid
  obtain ⟨⟨⟨⟨⟨⟨-, hdigest⟩, hkey⟩, halgorithm⟩, hsignature⟩, -⟩, -⟩ := hvalid
  obtain ⟨hdigestPlain, hdigestLength⟩ := unescaped_of_decodeExactBase64URL hdigest
  obtain ⟨hsignaturePlain, hsignatureLength⟩ := unescaped_of_decodeExactBase64URL hsignature
  obtain ⟨hkeyPlain, hkeyLength⟩ := unescaped_keyID hkey
  have hsum := length_encode_obj (show sortedSigned signed ≠ [] by simp [sortedSigned])
  have hnames : (spelled (ascii "algorithm")).length = 9 ∧
      (spelled (ascii "padding")).length = 7 ∧ (spelled (ascii "payload_jcs")).length = 11 ∧
      (spelled (ascii "payload_sha256")).length = 14 ∧
      (spelled (ascii "signature")).length = 9 ∧ (spelled (ascii "signer_key_id")).length = 13 ∧
      (spelled Trust.signatureAlgorithm).length = 7 := by decide
  have hraw : (ascii "algorithm").length = 9 ∧ (ascii "padding").length = 7 ∧
      (ascii "payload_jcs").length = 11 ∧ (ascii "payload_sha256").length = 14 ∧
      (ascii "signature").length = 9 ∧ (ascii "signer_key_id").length = 13 ∧
      Trust.signatureAlgorithm.length = 7 := by decide
  have hbody := marshal_strings_length_le
    [(ascii "payload_jcs", signed.payloadJCS), (ascii "payload_sha256", signed.payloadSHA256),
     (ascii "signer_key_id", signed.signerKeyID), (ascii "algorithm", signed.algorithm),
     (ascii "signature", signed.signature), (ascii "padding", signed.padding)]
  simp only [sortedSigned, hpadding, halgorithm, List.map_cons, List.map_nil, List.sum_cons,
    List.sum_nil, List.length_nil, length_encode_str, spelled_nil, hdigestPlain.spelled_eq,
    hsignaturePlain.spelled_eq, hkeyPlain.spelled_eq] at hsum hbody ⊢
  unfold Trust.plaintextLengthBytes Trust.maximumEnvelopePlaintext Trust.signedBundleTree
  rw [hpadding, halgorithm]
  constructor
  · omega
  · omega

/-- Every signed bundle is framed in the smallest bucket. -/
theorem signedFrame_smallest (hP : P.Documented)
    (hcanonical : Trust.canonicalizePayloadV1 P payload = some signed.payloadJCS)
    (hpadding : signed.padding = []) (hvalid : Trust.validateSignedBundleV1 signed = true) :
    ∃ frame, Trust.signedFrame P signed = .ok (frame, 4096) ∧
      frame.length + Trust.plaintextLengthBytes ≤ 4096 := by
  obtain ⟨hfits, hbody⟩ := length_signed_le hP hcanonical hpadding hvalid
  obtain ⟨-, -, -, policy, expiry, -, -, hcanonicalPayload⟩ :=
    canonicalizePayloadV1_eq_some hP hcanonical
  have hflat := flat_sortedSigned hvalid hpadding hcanonicalPayload.utf8
  have hjcs := (canonical_signedBundle hP hflat).1
  have hlow : 2 ≤ (encode (.obj (sortedSigned signed))).length := by
    have hsum := length_encode_obj (show sortedSigned signed ≠ [] by simp [sortedSigned])
    simp only [sortedSigned, List.map_cons, List.sum_cons] at hsum ⊢
    omega
  refine ⟨encode (.obj (sortedSigned signed)), ?_, hfits⟩
  have hhigh : (encode (.obj (sortedSigned signed))).length + Trust.plaintextLengthBytes ≤
      Trust.maximumEnvelopePlaintext := hfits.trans (by decide)
  have hbucket : Trust.selectPlaintextBucket
      ((encode (.obj (sortedSigned signed))).length + Trust.plaintextLengthBytes) = some 4096 := by
    rw [Trust.selectPlaintextBucket, Trust.plaintextBuckets, List.find?_cons_of_pos]
    exact decide_eq_true hfits
  simp only [Trust.signedFrame, bind_eq_ok, orThrow_eq_ok, require_eq_ok, pure_eq_ok]
  exact ⟨(), hpadding, (), hvalid, (), hbody, _, hjcs, (), ⟨hlow, hhigh⟩, _, hbucket, rfl⟩

end Signed

/-! ## The envelope -/

/-- The length of every envelope. -/
def envelopeLength : ℕ := 5787

theorem length_sealedEnvelope (recipient : Bytes) {locator enc ciphertext : Bytes}
    (hlocator : locator.length = 32) (henc : enc.length = 32)
    (hciphertext : ciphertext.length = 4112) :
    (encode (.obj (sortedEnvelope (sealedEnvelope recipient locator enc ciphertext)))).length =
      envelopeLength := by
  have hsum := length_encode_obj (show sortedEnvelope
    (sealedEnvelope recipient locator enc ciphertext) ≠ [] by simp [sortedEnvelope])
  have hnames : (spelled (ascii "aead")).length = 4 ∧
      (spelled (ascii "bundle_locator")).length = 14 ∧
      (spelled (ascii "ciphertext")).length = 10 ∧ (spelled (ascii "enc")).length = 3 ∧
      (spelled (ascii "envelope_version")).length = 16 ∧ (spelled (ascii "kdf")).length = 3 ∧
      (spelled (ascii "kem")).length = 3 ∧ (spelled (ascii "recipient_key_id")).length = 16 := by
    decide
  have hvalues : (spelled Trust.aeadChaCha20Poly1305).length = 17 ∧
      (spelled Trust.envelopeVersionV1).length = 26 ∧ (spelled Trust.kdfHKDFSHA256).length = 11 ∧
      (spelled Trust.kemX25519HKDFSHA256).length = 24 := by decide
  simp only [sortedEnvelope, sealedEnvelope, sealedHeader, List.map_cons, List.map_nil,
    List.sum_cons, List.sum_nil, length_encode_str, (unescaped_base64 _).spelled_eq,
    Base64Url.encode_length, List.length_take, Sha256.sha256_length, hlocator, henc,
    hciphertext] at hsum ⊢
  unfold envelopeLength
  omega

theorem flat_outerHeader (recipient locator enc : Bytes) {ms : List (Bytes × Json.Tree Bytes)}
    (hms : Trust.outerHeaderTree (sealedHeader recipient locator enc) = .obj ms) : Flat ms := by
  rw [Trust.outerHeaderTree, Json.Tree.obj.injEq] at hms
  subst hms
  refine ⟨?_, ?_⟩
  · simp only [List.map_cons, List.map_nil]
    decide
  · simp only [sealedHeader, List.forall_mem_cons]
    refine ⟨⟨_, rfl, by decide, by decide⟩, ⟨_, rfl, by decide, by decide⟩,
      ⟨_, rfl, by decide, by decide⟩, ⟨_, rfl, by decide, by decide⟩,
      ⟨_, rfl, by decide, valid_encode_base64 _⟩, ⟨_, rfl, by decide, valid_encode_base64 _⟩,
      ⟨_, rfl, by decide, valid_encode_base64 _⟩, ?_⟩
    simp

theorem Flat.canonicalTrustedJSON_ok {P : Platform} (hP : P.Documented)
    {ms : List (Bytes × Json.Tree Bytes)} (h : Flat ms) :
    ∃ text, Trust.canonicalTrustedJSON P (.obj ms) = some text :=
  ⟨_, canonicalTrustedJSON_eq hP h.noNumbers h.validStrings h.distinct⟩

/-- Around a plaintext of the smallest bucket there is one length of envelope; there is none only
if HPKE does not seal. -/
theorem outerEnvelope_cases {P : Platform} (hP : P.Documented) (recipient locator : Octets 32)
    {enc plaintext : Bytes} (sender : P.Sender) (henc : enc.length = 32)
    (hplaintext : plaintext.length = 4096) :
    (Trust.outerEnvelope P recipient locator enc sender plaintext = .error .envelopeSeal ∧
      ∃ aad, P.hpkeSeal sender aad plaintext = none) ∨
      ∃ envelope digest, Trust.outerEnvelope P recipient locator enc sender plaintext =
        .ok (envelope, digest) ∧ envelope.length = envelopeLength := by
  have heq : Trust.outerEnvelope P recipient locator enc sender plaintext = (do
      let aad ← orThrow (Trust.canonicalTrustedJSON P
        (Trust.outerHeaderTree (sealedHeader recipient.1 locator.1 enc))) .envelopeSeal
      let ciphertext ← orThrow (P.hpkeSeal sender aad plaintext) .envelopeSeal
      let result ← orThrow (Trust.canonicalTrustedJSON P (Trust.outerEnvelopeTree
        (sealedEnvelope recipient.1 locator.1 enc ciphertext))) .envelopeSeal
      require (result.length ≤ Trust.maximumEnvelopeBytes) .envelopeTooLarge
      pure (result, Sha256.sha256 result)) := rfl
  rw [heq]
  obtain ⟨aad, haad⟩ := (flat_outerHeader recipient.1 locator.1 enc rfl).canonicalTrustedJSON_ok hP
  rw [← Trust.outerHeaderTree] at haad
  cases hseal : P.hpkeSeal sender aad plaintext with
  | none =>
    refine .inl ⟨?_, aad, hseal⟩
    rw [haad, orThrow_some, ok_bind, hseal]
    rfl
  | some ciphertext =>
    have htext := (canonical_outerEnvelope hP recipient.1 locator.1 enc ciphertext).1
    have hciphertext : ciphertext.length = 4112 := by
      rw [hP.hpke_seal_length _ _ _ _ hseal, hplaintext]
    have hlength := length_sealedEnvelope recipient.1 locator.2 henc hciphertext
    generalize encode (.obj (sortedEnvelope
      (sealedEnvelope recipient.1 locator.1 enc ciphertext))) = result at htext hlength
    refine .inr ⟨result, Sha256.sha256 result, ?_, hlength⟩
    simp only [bind_eq_ok, orThrow_eq_ok, require_eq_ok, pure_eq_ok]
    refine ⟨aad, haad, ciphertext, hseal, result, htext, (), ?_, rfl⟩
    rw [hlength]
    decide

section Runs

variable {P : Platform}

/-- The senders of a run come from HPKE. -/
def SendersFromHPKE (environment : Environment P) : Prop :=
  ∀ s recipient info enc sender, environment s (.newSender recipient info) (some (enc, sender)) →
    ∃ entropy, P.hpkeNewSender recipient info entropy = some (enc, sender)

/-- `outcome` is an outcome of `Seal`, for the recipient and the locator, of a bundle that
`SignBundleV1` made of the payload. -/
def SealsTo (environment : Environment P) (payload : Trust.PayloadV1)
    (recipient locator : Octets 32) (outcome : Except Trust.Error (Bytes × Bytes)) : Prop :=
  ∃ signed,
    (∃ pid s t, Runs (exec environment pid) (Trust.signBundleV1 P payload).run s (.ok signed) t) ∧
    ∃ pid s t, Runs (exec environment pid) (Trust.sealBundle P recipient locator signed).run s
      outcome t

variable {environment : Environment P} {payload : Trust.PayloadV1} {recipient locator : Octets 32}
  {outcome : Except Trust.Error (Bytes × Bytes)}

/-- Sealing fails for want of randomness or in HPKE, or makes an envelope of the one length. -/
theorem sealBundle_cases (hP : P.Documented) (hsenders : SendersFromHPKE environment)
    (h : SealsTo environment payload recipient locator outcome) :
    outcome = .error .randomSource ∨ outcome = .error .envelopeSeal ∨
      ∃ envelope digest, outcome = .ok (envelope, digest) ∧ envelope.length = envelopeLength := by
  obtain ⟨signed, ⟨_, _, _, hsign⟩, pid, s, t, hseal⟩ := h
  obtain ⟨hsigned, -⟩ := signBundleV1_ok hsign
  obtain ⟨frame, hframe, hfits⟩ :=
    signedFrame_smallest hP hsigned.canonical hsigned.padding hsigned.valid
  unfold Trust.plaintextLengthBytes at hfits
  simp only [Trust.sealBundle, hframe, runs_run_perform_bind, runs_run_ofExcept_bind, exec,
    runs_run_ofExcept, orThrow_eq_ok, orThrow_eq_error] at hseal
  obtain ⟨framed, hok, hseal⟩ | ⟨e, herror, -⟩ := hseal
  · obtain rfl := Except.ok.inj hok
    obtain ⟨filling, u, ⟨-, rfl⟩, hseal⟩ := hseal
    obtain ⟨padding, rfl, encapsulated, u, ⟨hsender, rfl⟩, hseal⟩ | ⟨e, ⟨-, rfl⟩, rfl, -⟩ := hseal
    · obtain ⟨⟨enc, sender⟩, rfl, rfl, -⟩ | ⟨e, ⟨-, rfl⟩, rfl, -⟩ := hseal
      · obtain ⟨entropy, hhpke⟩ := hsenders _ _ _ _ _ hsender
        have hlength : (bigEndian 4 frame.length ++ frame ++ padding.1).length = 4096 := by
          rw [List.length_append, padding.2, List.length_append, bigEndian_length]
          omega
        obtain ⟨herror, -⟩ | hok := outerEnvelope_cases hP recipient locator sender
          (hP.hpke_enc_length _ _ _ _ _ hhpke) hlength
        · exact .inr (.inl herror)
        · exact .inr (.inr hok)
      · exact .inr (.inl rfl)
    · exact .inl rfl
  · cases herror

/-- Whatever is issued, to whom and under which locator: the envelopes of two runs have the same
length, and none is too large. -/
theorem envelopes_same_length (hP : P.Documented) {environment₁ environment₂ : Environment P}
    (hsenders₁ : SendersFromHPKE environment₁) (hsenders₂ : SendersFromHPKE environment₂)
    {payload₁ payload₂ : Trust.PayloadV1} {recipient₁ recipient₂ locator₁ locator₂ : Octets 32}
    {outcome₁ outcome₂ : Except Trust.Error (Bytes × Bytes)}
    (h₁ : SealsTo environment₁ payload₁ recipient₁ locator₁ outcome₁)
    (h₂ : SealsTo environment₂ payload₂ recipient₂ locator₂ outcome₂) :
    outcome₁ ≠ .error .envelopeTooLarge ∧ outcome₂ ≠ .error .envelopeTooLarge ∧
      ∀ envelope₁ digest₁ envelope₂ digest₂, outcome₁ = .ok (envelope₁, digest₁) →
        outcome₂ = .ok (envelope₂, digest₂) → envelope₁.length = envelope₂.length := by
  have hfirst := sealBundle_cases hP hsenders₁ h₁
  have hsecond := sealBundle_cases hP hsenders₂ h₂
  refine ⟨?_, ?_, ?_⟩
  · rintro rfl
    simp at hfirst
  · rintro rfl
    simp at hsecond
  · rintro envelope₁ digest₁ envelope₂ digest₂ rfl rfl
    simp only [reduceCtorEq, Except.ok.injEq, Prod.mk.injEq, false_or] at hfirst hsecond
    obtain ⟨_, _, ⟨rfl, -⟩, hlength₁⟩ := hfirst
    obtain ⟨_, _, ⟨rfl, -⟩, hlength₂⟩ := hsecond
    rw [hlength₁, hlength₂]

end Runs

/-! ## Two payloads -/

/-- A payload with the given message. -/
def plainPayload (message : Bytes) : Trust.PayloadV1 where
  schemaVersion := Trust.bundleSchemaV1
  bundleID := uuidText (Octets.replicate 16 1)
  bundleLocator := Base64Url.encode (List.replicate 32 0)
  bundleVersion := ascii "1"
  audience := uuidText (Octets.replicate 16 2)
  issuedAt := ascii "2024-01-01T00:00:00Z"
  notBefore := ascii "2024-01-01T00:00:00Z"
  expiresAt := ascii "2024-01-02T00:00:00Z"
  policySnapshot := ascii "\x7b\"mode\":\"standard\"\x7d"
  testConfig := ⟨message, ascii "1"⟩

/-- The bundle the plain platform signs. -/
def plainSigned (canonical : Bytes) : SignedBundleWire where
  payloadJCS := canonical
  payloadSHA256 := Base64Url.encode (Sha256.sha256 canonical)
  signerKeyID := ascii "plain-signing-key"
  algorithm := Trust.signatureAlgorithm
  signature := Base64Url.encode (List.replicate 64 0)
  padding := []

/-- On the plain platform every bundle with a canonical text is sealed, by services that draw ones
and have the plain sender. -/
theorem plain_sealBundle (environment : Environment plainPlatform) {payload : Trust.PayloadV1}
    {signed : SignedBundleWire}
    (hrandom : ∀ s n, environment s (.random n) (some (Octets.replicate n 1)))
    (hsender : ∀ s recipient info,
      environment s (.newSender recipient info) (some (List.replicate 32 0, ())))
    (hcanonical : Trust.canonicalizePayloadV1 plainPlatform payload = some signed.payloadJCS)
    (hpadding : signed.padding = []) (hvalid : Trust.validateSignedBundleV1 signed = true)
    (recipient locator : Octets 32) (pid : Pid) (s : Backend) :
    ∃ envelope, envelope.length = envelopeLength ∧
      Runs (exec environment pid) (Trust.sealBundle plainPlatform recipient locator signed).run s
        (.ok (envelope, Sha256.sha256 envelope)) s := by
  obtain ⟨frame, hframe, hfits⟩ :=
    signedFrame_smallest plainPlatform_documented hcanonical hpadding hvalid
  unfold Trust.plaintextLengthBytes at hfits
  have hplaintext : (bigEndian 4 frame.length ++ frame ++ (Octets.replicate
      (4096 - (bigEndian 4 frame.length ++ frame).length) 1).1).length = 4096 := by
    simp only [List.length_append, bigEndian_length, Octets.replicate, List.length_replicate]
    omega
  obtain ⟨-, aad, hseal⟩ | ⟨envelope, digest, hok, hlength⟩ := outerEnvelope_cases
    plainPlatform_documented recipient locator () (List.length_replicate (n := 32) (a := 0))
    hplaintext
  · cases hseal
  · obtain ⟨-, -, -, -, -, -, rfl⟩ := outerEnvelope_eq_ok hok
    refine ⟨envelope, hlength, ?_⟩
    simp only [Trust.sealBundle, hframe, runs_run_perform_bind_ok, runs_run_ofExcept_bind_ok, exec,
      orThrow_eq_ok, runs_run_ofExcept]
    exact ⟨_, rfl, _, _, ⟨hrandom _ _, rfl⟩, _, rfl, _, _, ⟨hsender _ _ _, rfl⟩, _, rfl, hok.symm,
      rfl⟩

section Plain

variable {payload : Trust.PayloadV1} {canonical : Bytes}
  (hcanonical : Trust.canonicalizePayloadV1 plainPlatform payload = some canonical)
  (hlength : 2 ≤ canonical.length ∧ canonical.length ≤ Trust.maximumCanonicalPayloadBytes)

include hlength in
theorem plainSigned_valid : Trust.validateSignedBundleV1 (plainSigned canonical) = true := by
  simp only [Trust.validateSignedBundleV1, plainSigned, Bool.and_eq_true,
    decodeExactBase64URL_encode (Sha256.sha256_length canonical),
    decodeExactBase64URL_encode (List.length_replicate (n := 64) (a := (0 : UInt8)))]
  exact ⟨⟨⟨⟨⟨⟨decide_eq_true hlength, rfl⟩, by decide⟩, by decide⟩, rfl⟩, rfl⟩, by decide⟩

include hcanonical hlength

theorem plain_signs :
    ∃ t, Runs (exec plainServices 0) (Trust.signBundleV1 plainPlatform payload).run Backend.empty
      (.ok (plainSigned canonical)) t := by
  simp only [Trust.signBundleV1, runs_run_perform_bind_ok, runs_run_ofExcept_bind_ok, exec,
    orThrow_eq_ok, require_eq_ok, mapError_eq_ok, runs_run_pure_ok]
  exact ⟨_, false, _, ⟨rfl, rfl⟩, _, _, ⟨rfl, rfl⟩, (), ⟨rfl, by decide⟩, canonical, hcanonical,
    _, _, ⟨rfl, rfl⟩, _, rfl, (), rfl, _, _, ⟨rfl, rfl⟩, (), plainSigned_valid hlength, rfl, rfl⟩

/-- On the plain platform every payload with a canonical text is signed and sealed. -/
theorem plain_seals (recipient locator : Octets 32) :
    ∃ envelope digest, SealsTo plainServices payload recipient locator
      (.ok (envelope, digest)) := by
  obtain ⟨t, hsign⟩ := plain_signs hcanonical hlength
  obtain ⟨envelope, -, hseal⟩ := plain_sealBundle plainServices (fun _ _ => rfl) (fun _ _ _ => rfl)
    (hcanonical : _ = some (plainSigned canonical).payloadJCS) rfl
    (plainSigned_valid hlength) recipient locator 0 Backend.empty
  exact ⟨envelope, _, _, ⟨0, _, t, hsign⟩, 0, _, _, hseal⟩

end Plain

theorem envelopes_same_length_plain : ∃ envelope₁ digest₁ envelope₂ digest₂,
    SealsTo plainServices (plainPayload (ascii "hello")) (Octets.replicate 32 1)
      (Octets.replicate 32 2) (.ok (envelope₁, digest₁)) ∧
    SealsTo plainServices (plainPayload (List.replicate 256 1)) (Octets.replicate 32 3)
      (Octets.replicate 32 4) (.ok (envelope₂, digest₂)) ∧
    envelope₁.length = envelope₂.length := by
  have hshort : (Trust.canonicalizePayloadV1 plainPlatform (plainPayload (ascii "hello"))).any
      (fun c => decide (2 ≤ c.length ∧ c.length ≤ Trust.maximumCanonicalPayloadBytes)) = true := by
    decide +kernel
  have hlong : (Trust.canonicalizePayloadV1 plainPlatform
      (plainPayload (List.replicate 256 1))).any
      (fun c => decide (2 ≤ c.length ∧ c.length ≤ Trust.maximumCanonicalPayloadBytes)) = true := by
    decide +kernel
  obtain ⟨c₁, hc₁, hlength₁⟩ := (Option.any_eq_true _ _).mp hshort
  obtain ⟨c₂, hc₂, hlength₂⟩ := (Option.any_eq_true _ _).mp hlong
  obtain ⟨envelope₁, digest₁, h₁⟩ := plain_seals hc₁ (of_decide_eq_true hlength₁)
    (Octets.replicate 32 1) (Octets.replicate 32 2)
  obtain ⟨envelope₂, digest₂, h₂⟩ := plain_seals hc₂ (of_decide_eq_true hlength₂)
    (Octets.replicate 32 3) (Octets.replicate 32 4)
  have hsenders : SendersFromHPKE plainServices := fun _ _ _ _ _ h => ⟨[], h.symm⟩
  exact ⟨envelope₁, digest₁, envelope₂, digest₂, h₁, h₂,
    (envelopes_same_length plainPlatform_documented hsenders hsenders h₁ h₂).2.2 _ _ _ _ rfl rfl⟩

end Talenro.Analysis
