import Talenro.Analysis.EnvelopeSize

/-!
# Signing a payload and verifying it again

`VerifySignedBundleV1` accepts a payload only in its canonical form, so that the
text it accepts is determined by the payload it returns.  A payload that passes
`ValidatePayloadV1` can always be signed, and what `VerifySignedBundleV1` then
returns is the payload with its policy snapshot in canonical form.
-/

set_option autoImplicit false

namespace Talenro.Analysis

open Lib Lib.Json Lib.Calendar Lib.Prog

variable {publicKey : Bytes} {issuedAt notBefore expiresAt : Instant}
  {policy : List (Bytes × Json.Tree Bytes)} {expiry : Option Instant} {P : Platform}
  {v payload : Trust.PayloadV1}

/-! ## Signing and verifying -/

/-- A key identifier is made of characters that identifiers may have. -/
theorem validKeyID_deriveKeyID (domain publicKey : Bytes) :
    validKeyID (deriveKeyID domain publicKey) = true := by
  have hlength : (deriveKeyID domain publicKey).length = 22 := by
    rw [deriveKeyID, Base64Url.encode_length, List.length_take, Sha256.sha256_length]
    rfl
  have hsextet : ∀ n : Fin 64,
      ((0x41 ≤ Base64Url.encodeSextet n && Base64Url.encodeSextet n ≤ 0x5a) ||
      (0x61 ≤ Base64Url.encodeSextet n && Base64Url.encodeSextet n ≤ 0x7a) ||
      (0x30 ≤ Base64Url.encodeSextet n && Base64Url.encodeSextet n ≤ 0x39) ||
      Base64Url.encodeSextet n == 0x5f || Base64Url.encodeSextet n == 0x2d) = true := by decide
  rw [validKeyID, hlength, Bool.and_eq_true, List.all_eq_true]
  refine ⟨by decide, fun c hc => ?_⟩
  obtain ⟨n, rfl⟩ := Base64Url.exists_encodeSextet_of_mem hc
  by_cases hn : n < 64
  · exact hsextet ⟨n, hn⟩
  · have hlast : Base64Url.encodeSextet n = 0x5f := by
      rw [Base64Url.encodeSextet, if_neg (by omega), if_neg (by omega), if_neg (by omega),
        if_neg (by omega)]
    rw [hlast]
    decide

/-- A signing provider that answers with the signatures of one key, to a caller that is
still waiting. -/
structure SigningServices {P : Platform} (environment : Environment P) (publicKey : Bytes) :
    Prop where
  length_eq : publicKey.length = 32
  context : ∀ s r, environment s .contextError r ↔ r = false
  keyID : ∀ s r, environment s .signerKeyID r ↔ r = deriveKeyID Trust.configKeyIDDomain publicKey
  signs : ∀ s message, ∃ r, environment s (.sign message) r
  verifies : ∀ s message r, environment s (.sign message) r →
    ∃ signature, r = .ok signature ∧ signature.length = 64 ∧
      P.ed25519Verify publicKey message signature = true

/-- The bundle with a given payload text, key and signature. -/
def signedBundle (canonical publicKey signature : Bytes) : SignedBundleWire where
  payloadJCS := canonical
  payloadSHA256 := Base64Url.encode (Sha256.sha256 canonical)
  signerKeyID := deriveKeyID Trust.configKeyIDDomain publicKey
  algorithm := Trust.signatureAlgorithm
  signature := Base64Url.encode signature
  padding := []

theorem validateSignedBundleV1_signedBundle {canonical signature : Bytes} (publicKey : Bytes)
    (hcanonical : 2 ≤ canonical.length ∧ canonical.length ≤ Trust.maximumCanonicalPayloadBytes)
    (hsignature : signature.length = 64) :
    Trust.validateSignedBundleV1 (signedBundle canonical publicKey signature) = true := by
  simp only [Trust.validateSignedBundleV1, signedBundle, Bool.and_eq_true,
    decodeExactBase64URL_encode (Sha256.sha256_length canonical),
    decodeExactBase64URL_encode hsignature, validKeyID_deriveKeyID]
  exact ⟨⟨⟨⟨⟨⟨decide_eq_true hcanonical, rfl⟩, trivial⟩, by decide⟩, rfl⟩, rfl⟩, by decide⟩

/-- With such a provider, `SignBundleV1` signs every payload that has a canonical form. -/
theorem wp_signBundleV1 {environment : Environment P}
    (hservices : SigningServices environment publicKey) {canonical : Bytes}
    (hcanonical : Trust.canonicalizePayloadV1 P payload = some canonical)
    (hlength : 2 ≤ canonical.length ∧ canonical.length ≤ Trust.maximumCanonicalPayloadBytes)
    (pid : Pid) (s : Backend) :
    Wp (exec environment pid) (Trust.signBundleV1 P payload).run s fun out _ =>
      ∃ signature, out = .ok (signedBundle canonical publicKey signature) ∧
        signature.length = 64 ∧ P.ed25519Verify publicKey
          (Trust.bundleSignatureDomain ++ canonical) signature = true := by
  have hkey := validKeyID_deriveKeyID Trust.configKeyIDDomain publicKey
  rw [Trust.signBundleV1, wp_run_perform_bind]
  refine ⟨⟨false, s, (hservices.context s _).mpr rfl, rfl⟩, ?_⟩
  rintro canceled u ⟨hcanceled, rfl⟩
  obtain rfl := (hservices.context _ _).mp hcanceled
  rw [wp_run_perform_bind]
  refine ⟨⟨_, u, (hservices.keyID u _).mpr rfl, rfl⟩, ?_⟩
  rintro keyID u ⟨hkeyID, rfl⟩
  obtain rfl := (hservices.keyID _ _).mp hkeyID
  rw [require_of ⟨rfl, hkey⟩, wp_run_ofExcept_bind_ok, hcanonical, orThrow_some,
    wp_run_ofExcept_bind_ok, wp_run_perform_bind]
  obtain ⟨r, hr⟩ := hservices.signs u (Trust.bundleSignatureDomain ++ canonical)
  refine ⟨⟨r, _, hr, rfl⟩, ?_⟩
  rintro answer u ⟨hanswer, rfl⟩
  obtain ⟨signature, rfl, hsignature, hverified⟩ := hservices.verifies _ _ _ hanswer
  rw [Except.mapError, wp_run_ofExcept_bind_ok, require_of hsignature, wp_run_ofExcept_bind_ok,
    wp_run_perform_bind]
  refine ⟨⟨_, _, (hservices.keyID _ _).mpr rfl, rfl⟩, ?_⟩
  rintro keyID u ⟨hkeyID, rfl⟩
  obtain rfl := (hservices.keyID _ _).mp hkeyID
  have hvalid := validateSignedBundleV1_signedBundle publicKey hlength hsignature
  unfold signedBundle at hvalid
  dsimp only
  rw [require_of hvalid, wp_run_ofExcept_bind_ok]
  exact ⟨signature, rfl, hsignature, hverified⟩

/-- A payload that is accepted is accepted in its canonical form. -/
theorem verifySignedBundleV1_canonical {value : SignedBundleWire}
    (h : Trust.verifySignedBundleV1 P value publicKey = .ok payload) :
    Trust.canonicalizePayloadV1 P payload = some value.payloadJCS := by
  simp only [Trust.verifySignedBundleV1, bind_eq_ok, require_eq_ok, orThrow_eq_ok, mapError_eq_ok,
    pure_eq_ok] at h
  obtain ⟨-, -, payload, -, canonical, hcanonical, -, rfl, -, -, -, -, -, -, rfl⟩ := h
  exact hcanonical

/-- The bundle signed for a valid payload is accepted, its policy in canonical form. -/
theorem ValidPayload.verifySignedBundleV1 (hP : P.Documented)
    (h : ValidPayload P v issuedAt notBefore expiresAt) (hpolicy : PolicyMembers policy expiry)
    {signature : Bytes} (hkey : publicKey.length = 32) (hsignature : signature.length = 64)
    (hverified : P.ed25519Verify publicKey
      (Trust.bundleSignatureDomain ++ canonicalText v policy) signature = true) :
    Trust.verifySignedBundleV1 P (signedBundle (canonicalText v policy) publicKey signature)
      publicKey = .ok { v with policySnapshot := encode (.obj policy) } := by
  have hlength := (h.readable_canonical hP hpolicy).length_print
  rw [← canonicalText_eq] at hlength
  have hvalid := validateSignedBundleV1_signedBundle publicKey hlength hsignature
  -- The payload that is read is valid again, and its canonical form is the text it was read from.
  have hread := h.with_policy hpolicy.text.valid
  have hencode : print (.obj (policy.map fun m => (quote m.1, m.2.map quote))) =
      encode (.obj policy) := by
    rw [encode, Json.Tree.map_obj]
  rw [hencode] at hread
  obtain ⟨_, _, _, hreadValid⟩ := validatePayloadV1_eq_true hread
  have hparse : Json.parse (encode (.obj policy)) =
      some (.obj (policy.map fun m => (quote m.1, m.2.map quote))) := by
    rw [parse_encode hpolicy.flat.noNumbers, Json.Tree.map_obj]
  have hcanonical := canonicalizePayloadV1_of_valid hP hreadValid hparse hpolicy.text
  have htext : canonicalText { v with policySnapshot := encode (.obj policy) } policy =
      canonicalText v policy := rfl
  simp only [Trust.verifySignedBundleV1, bind_eq_ok, require_eq_ok, orThrow_eq_ok, mapError_eq_ok,
    pure_eq_ok]
  exact ⟨(), ⟨hvalid, hkey⟩, _, h.decodePayloadV1 hP hpolicy, _, hcanonical, (), htext, (),
    ⟨rfl, rfl⟩, signature, Base64Url.decode_encode signature, (), hverified, rfl⟩

/-- A valid payload is signed, and the bundle is accepted, the policy in canonical form. -/
theorem wp_sign_verify (hP : P.Documented) (hvalid : Trust.validatePayloadV1 P payload = true) :
    ∃ policy, Json.decode payload.policySnapshot = some policy ∧
      ∀ environment publicKey pid s, SigningServices environment publicKey →
        Wp (exec environment pid) (Trust.signBundleV1 P payload).run s fun out _ =>
          ∃ value, out = .ok value ∧ Trust.verifySignedBundleV1 P value publicKey =
            .ok { payload with policySnapshot := serialize policy } := by
  obtain ⟨issuedAt, notBefore, expiresAt, hpayload⟩ := validatePayloadV1_eq_true hvalid
  obtain ⟨ms, policy, expiry, hparse, hperm, hpolicy⟩ := validDevicePolicyV1_cases hpayload.policy
  have htext : PolicyText ms policy expiry := ⟨hpolicy, hperm, parse_wellFormed hparse⟩
  refine ⟨.obj (decodedMembers ms), decode_of_parse_obj hparse, ?_⟩
  intro environment publicKey pid s hservices
  have hcanonical := canonicalizePayloadV1_of_valid hP hpayload hparse htext
  have hlength := (hpayload.readable_canonical hP hpolicy).length_print
  rw [← canonicalText_eq] at hlength
  have hserialize : serialize (.obj (decodedMembers ms)) = encode (.obj policy) := by
    rw [serialize, (hpolicy.flat.perm hperm).sort_eq, insertionSort_of_perm hperm hpolicy.sorted]
  refine (wp_signBundleV1 hservices hcanonical hlength pid s).mono fun out _ hout => ?_
  obtain ⟨signature, rfl, hsignature, hverified⟩ := hout
  refine ⟨_, rfl, ?_⟩
  rw [hserialize]
  exact hpayload.verifySignedBundleV1 hP hpolicy hservices.length_eq hsignature hverified

/-- What `VerifySignedBundleV1` accepts is the canonical form of the payload it returns, so that
no two payload texts are accepted for the same payload.  A payload that passes the checks is
signed, and verifying the bundle returns the payload with its policy snapshot in canonical form. -/
theorem verifySignedBundleV1_signed {P : Platform} (hP : P.Documented) :
    (∀ value publicKey payload, Trust.verifySignedBundleV1 P value publicKey = .ok payload →
      Trust.canonicalizePayloadV1 P payload = some value.payloadJCS) ∧
    (∀ value value' publicKey publicKey' payload,
      Trust.verifySignedBundleV1 P value publicKey = .ok payload →
      Trust.verifySignedBundleV1 P value' publicKey' = .ok payload →
      value.payloadJCS = value'.payloadJCS) ∧
    ∀ payload, Trust.validatePayloadV1 P payload = true →
      ∃ policy, Json.decode payload.policySnapshot = some policy ∧
        ∀ environment publicKey pid s, SigningServices environment publicKey →
          Wp (exec environment pid) (Trust.signBundleV1 P payload).run s fun out _ =>
            ∃ value, out = .ok value ∧ Trust.verifySignedBundleV1 P value publicKey =
              .ok { payload with policySnapshot := serialize policy } := by
  refine ⟨fun _ _ _ h => verifySignedBundleV1_canonical h, ?_, fun _ h => wp_sign_verify hP h⟩
  intro value value' publicKey publicKey' payload h h'
  exact Option.some.inj
    ((verifySignedBundleV1_canonical h).symm.trans (verifySignedBundleV1_canonical h'))

/-- The plain services with the key identifier of a key of zeros. -/
def zeroKeyServices : Environment plainPlatform := fun s o =>
  match o with
  | .signerKeyID => fun r => r = deriveKeyID Trust.configKeyIDDomain (List.replicate 32 0)
  | o => plainServices s o

theorem zeroKeyServices_sign : SigningServices zeroKeyServices (List.replicate 32 0) where
  length_eq := rfl
  context _ _ := Iff.rfl
  keyID _ _ := Iff.rfl
  signs _ _ := ⟨_, rfl⟩
  verifies := by
    rintro s message r rfl
    exact ⟨_, rfl, rfl, rfl⟩

theorem verifySignedBundleV1_signed_plain :
    ∃ policy, Json.decode (plainPayload (ascii "hello")).policySnapshot = some policy ∧
      Wp (exec zeroKeyServices 0)
        (Trust.signBundleV1 plainPlatform (plainPayload (ascii "hello"))).run Backend.empty
        fun out _ => ∃ value, out = .ok value ∧
          Trust.verifySignedBundleV1 plainPlatform value (List.replicate 32 0) =
            .ok { plainPayload (ascii "hello") with policySnapshot := serialize policy } := by
  obtain ⟨policy, hdecode, h⟩ := (verifySignedBundleV1_signed plainPlatform_documented).2.2
    (plainPayload (ascii "hello")) (by decide +kernel)
  exact ⟨policy, hdecode, h _ _ _ _ zeroKeyServices_sign⟩

/-- A valid payload with a blank in its policy snapshot. -/
def spacedPayload : Trust.PayloadV1 :=
  { plainPayload (ascii "hello") with
    policySnapshot := ascii "\x7b \"mode\":\"standard\"\x7d" }

/-- Signing and verifying a payload does not return a blank of its policy snapshot. -/
theorem spacedPayload_verified : Trust.validatePayloadV1 plainPlatform spacedPayload = true ∧
    ∃ value t, Runs (exec zeroKeyServices 0) (Trust.signBundleV1 plainPlatform spacedPayload).run
        Backend.empty (.ok value) t ∧
      ∃ payload, payload ≠ spacedPayload ∧
        Trust.verifySignedBundleV1 plainPlatform value (List.replicate 32 0) = .ok payload := by
  have hvalid : Trust.validatePayloadV1 plainPlatform spacedPayload = true := by decide +kernel
  refine ⟨hvalid, ?_⟩
  obtain ⟨policy, hdecode, h⟩ := wp_sign_verify plainPlatform_documented hvalid
  have hwp := h zeroKeyServices _ 0 Backend.empty zeroKeyServices_sign
  obtain ⟨out, t, hrun⟩ := hwp.exists_runs
  obtain ⟨value, rfl, hverified⟩ := hwp.runs hrun
  refine ⟨value, t, hrun, _, fun heq => ?_, hverified⟩
  have hrespelled : (Json.decode spacedPayload.policySnapshot).map serialize ≠
      some spacedPayload.policySnapshot := by decide +kernel
  rw [hdecode] at hrespelled
  exact hrespelled (congrArg some (congrArg Trust.PayloadV1.policySnapshot heq))

end Talenro.Analysis
