import Talenro.Analysis.StrictReaders
import Talenro.Model.Trust.Bundle

/-!
# Opening what was sealed

`Seal` frames a signed bundle, pads it to a bucket, encrypts it and writes the
envelope in canonical form.  The client's `openEnvelope` undoes each step when it
holds the private key of the recipient and expects the same locator
(`openEnvelope_outerEnvelope`, `removeValidatedPadding_frame`).
-/

set_option autoImplicit false

namespace Talenro.Analysis

open Lib Lib.Json

/-! ## Base64 fields -/

variable {b value enc plaintext result : Bytes} {ms : List (Bytes × Json.Tree Bytes)} {P : Platform}
  {size bucket : ℕ}

theorem decodeExactBase64URL_encode (h : b.length = size) :
    decodeExactBase64URL (Base64Url.encode b) size = some b := by
  have hdecode : Base64Url.decodeCanonical (Base64Url.encode b) = some b :=
    Base64Url.decodeCanonical_eq_some_iff.mpr rfl
  rw [decodeExactBase64URL, hdecode, Option.filter_some, if_pos (decide_eq_true h)]

theorem decodeExactBase64URL_eq_some :
    decodeExactBase64URL value size = some b ↔ value = Base64Url.encode b ∧ b.length = size := by
  rw [decodeExactBase64URL, Option.filter_eq_some_iff, Base64Url.decodeCanonical_eq_some_iff,
    decide_eq_true_eq]

theorem valid_encode_base64 (b : Bytes) : Utf8.valid (Base64Url.encode b) = true :=
  Utf8.valid_of_ascii (Base64Url.encode_ascii b)

theorem valid_of_decodeExactBase64URL (h : (decodeExactBase64URL value size).isSome = true) :
    Utf8.valid value = true := by
  obtain ⟨b, hb⟩ := Option.isSome_iff_exists.mp h
  rw [(decodeExactBase64URL_eq_some.mp hb).1]
  exact valid_encode_base64 b

theorem valid_of_validKeyID (h : validKeyID value = true) : Utf8.valid value = true := by
  apply Utf8.valid_of_ascii
  intro c hc
  rw [validKeyID, Bool.and_eq_true, List.all_eq_true] at h
  have hchar := h.2 c hc
  simp only [Bool.or_eq_true, Bool.and_eq_true, decide_eq_true_eq, beq_iff_eq] at hchar
  simp only [UInt8.le_iff_toNat_le, UInt8.lt_iff_toNat_lt] at hchar ⊢
  rcases hchar with (((h | h) | h) | rfl) | rfl
  · exact Nat.lt_of_le_of_lt h.2 (by decide)
  · exact Nat.lt_of_le_of_lt h.2 (by decide)
  · exact Nat.lt_of_le_of_lt h.2 (by decide)
  · decide
  · decide

/-! ## Canonical records of strings -/

/-- The canonical text of a tree, which is its own canonical form. -/
def CanonicalAs (P : Platform) (t : Json.Tree Bytes) (text : Bytes) : Prop :=
  Trust.canonicalTrustedJSON P t = some text ∧ P.jcsTransform text = some text

/-- The canonical text of a flat object is the text of its sorted members. -/
theorem Flat.canonical (hP : P.Documented) {sorted : List (Bytes × Json.Tree Bytes)}
    (h : Flat sorted) (hsort : ms.insertionSort NameLe = sorted) :
    CanonicalAs P (.obj ms) (encode (.obj sorted)) := by
  have hms : Flat ms := h.perm (hsort ▸ (List.perm_insertionSort NameLe ms).symm)
  have htext : serialize (.obj ms) = encode (.obj sorted) := by rw [serialize, hms.sort_eq, hsort]
  rw [← htext]
  exact ⟨canonicalTrustedJSON_eq hP hms.noNumbers hms.validStrings hms.distinct,
    hP.jcs.transform_serialize hms.noNumbers hms.validStrings hms.distinct⟩

/-- The client decodes the text of a sorted flat object that has exactly the
required members. -/
theorem Flat.decodeStrictObject {α : Type} (h : Flat ms) {maximum : ℕ}
    {fields : List (Json.Field α)} {zero value : α} {required : List Bytes}
    (hlen : (encode (.obj ms)).length ≤ maximum)
    (hrequired : ∀ name ∈ required, name ∈ ms.map Prod.fst)
    (hcount : required = [] ∨ ms.length = required.length)
    (hdecode : decodeStruct fields zero ((Json.Tree.obj ms).map quote) = some value) :
    TrustClient.decodeStrictObject (encode (.obj ms)) maximum fields zero required =
      some (ms.map Prod.fst, value) :=
  decodeStrictObject_encode h.noNumbers h.validStrings (h.scan (by decide)) hlen hrequired hcount
    hdecode

/-! ## The outer envelope -/

/-- The members of an envelope in canonical order. -/
def sortedEnvelope (e : OuterEnvelopeWire) : List (Bytes × Json.Tree Bytes) :=
  [(ascii "aead", .str e.aead), (ascii "bundle_locator", .str e.bundleLocator),
    (ascii "ciphertext", .str e.ciphertext), (ascii "enc", .str e.enc),
    (ascii "envelope_version", .str e.envelopeVersion), (ascii "kdf", .str e.kdf),
    (ascii "kem", .str e.kem), (ascii "recipient_key_id", .str e.recipientKeyID)]

theorem decodeStruct_sortedEnvelope (e : OuterEnvelopeWire) :
    decodeStruct OuterEnvelopeWire.fields .zero ((Json.Tree.obj (sortedEnvelope e)).map quote) =
      some e := by
  simp only [sortedEnvelope, Json.Tree.map_obj, List.map_cons, List.map_nil, Json.Tree.map_str,
    decodeStruct, decodeMembers_cons_quote]
  simp +decide [findField, OuterEnvelopeWire.fields, List.find?, decodeMembers]

/-- The header the server seals under. -/
def sealedHeader (recipient locator enc : Bytes) : OuterEnvelopeWire :=
  { envelopeVersion := Trust.envelopeVersionV1
    kem := Trust.kemX25519HKDFSHA256
    kdf := Trust.kdfHKDFSHA256
    aead := Trust.aeadChaCha20Poly1305
    recipientKeyID := Base64Url.encode
      ((Sha256.sha256 (Trust.recipientSelectorDomain ++ recipient ++ locator)).take 16)
    bundleLocator := Base64Url.encode locator
    enc := Base64Url.encode enc
    ciphertext := [] }

/-- The envelope around a ciphertext. -/
def sealedEnvelope (recipient locator enc ciphertext : Bytes) : OuterEnvelopeWire :=
  { sealedHeader recipient locator enc with ciphertext := Base64Url.encode ciphertext }

theorem flat_outerEnvelope (recipient locator enc ciphertext : Bytes) :
    Flat (sortedEnvelope (sealedEnvelope recipient locator enc ciphertext)) := by
  refine ⟨?_, ?_⟩
  · simp only [sortedEnvelope, List.map_cons, List.map_nil]
    decide
  · simp only [sortedEnvelope, sealedEnvelope, sealedHeader, List.forall_mem_cons]
    refine ⟨⟨_, rfl, by decide, by decide⟩, ⟨_, rfl, by decide, valid_encode_base64 _⟩,
      ⟨_, rfl, by decide, valid_encode_base64 _⟩, ⟨_, rfl, by decide, valid_encode_base64 _⟩,
      ⟨_, rfl, by decide, by decide⟩, ⟨_, rfl, by decide, by decide⟩,
      ⟨_, rfl, by decide, by decide⟩, ⟨_, rfl, by decide, valid_encode_base64 _⟩, ?_⟩
    simp

/-- The text of a sealed envelope, in canonical form. -/
theorem canonical_outerEnvelope (hP : P.Documented) (recipient locator enc ciphertext : Bytes) :
    CanonicalAs P (Trust.outerEnvelopeTree (sealedEnvelope recipient locator enc ciphertext))
      (encode (.obj (sortedEnvelope (sealedEnvelope recipient locator enc ciphertext)))) :=
  (flat_outerEnvelope recipient locator enc ciphertext).canonical hP rfl

/-- What a successful `outerEnvelope` did. -/
theorem outerEnvelope_eq_ok {recipient locator : Octets 32} {sender : P.Sender} {digest : Bytes}
    (h : Trust.outerEnvelope P recipient locator enc sender plaintext = .ok (result, digest)) :
    ∃ aad ciphertext,
      Trust.canonicalTrustedJSON P
        (Trust.outerHeaderTree (sealedHeader recipient.1 locator.1 enc)) = some aad ∧
      P.hpkeSeal sender aad plaintext = some ciphertext ∧
      Trust.canonicalTrustedJSON P
        (Trust.outerEnvelopeTree (sealedEnvelope recipient.1 locator.1 enc ciphertext)) =
          some result ∧
      result.length ≤ Trust.maximumEnvelopeBytes ∧ digest = Sha256.sha256 result := by
  simp only [Trust.outerEnvelope, bind_eq_ok, orThrow_eq_ok, require_eq_ok, pure_eq_ok,
    Prod.mk.injEq] at h
  obtain ⟨aad, haad, ciphertext, hseal, text, htext, -, hlen, rfl, rfl⟩ := h
  exact ⟨aad, ciphertext, haad, hseal, htext, hlen, rfl⟩

theorem decodeCiphertext_encode (hbucket : plaintext.length ∈ Trust.plaintextBuckets)
    (hlen : b.length = plaintext.length + 16) :
    TrustClient.decodeCiphertext (Base64Url.encode b) = some b := by
  have hdecode : Base64Url.decodeCanonical (Base64Url.encode b) = some b :=
    Base64Url.decodeCanonical_eq_some_iff.mpr rfl
  rw [TrustClient.decodeCiphertext, hdecode, Option.filter_some, if_pos]
  rw [List.any_eq_true]
  exact ⟨plaintext.length, hbucket, decide_eq_true hlen⟩

/-- The holder of the recipient's key opens the envelope and finds the plaintext
that was sealed. -/
theorem openEnvelope_outerEnvelope (hP : P.Documented) {recipient locator : Octets 32}
    {entropy : Bytes} {sender : P.Sender} {digest : Bytes}
    (hsender : P.hpkeNewSender recipient.1 Trust.envelopeInfo entropy = some (enc, sender))
    (hbucket : plaintext.length ∈ Trust.plaintextBuckets)
    (hseal : Trust.outerEnvelope P recipient locator enc sender plaintext = .ok (result, digest))
    {privateKey : P.PrivateKey} (hkey : P.x25519PublicKey privateKey = some recipient.1)
    {expected : TrustClient.Expected} (hexpected : expected.locator = locator) :
    TrustClient.openEnvelope P result privateKey expected =
      orThrow (TrustClient.removeValidatedPadding plaintext) .envelope := by
  subst hexpected
  obtain ⟨aad, ciphertext, haad, hcipher, hresult, hlen, -⟩ := outerEnvelope_eq_ok hseal
  obtain ⟨htext, hfixed⟩ := canonical_outerEnvelope hP recipient.1 expected.locator.1 enc ciphertext
  replace htext := Option.some.inj (hresult.symm.trans htext)
  rw [← htext] at hfixed
  have hflat := flat_outerEnvelope recipient.1 expected.locator.1 enc ciphertext
  obtain ⟨keys, hdecoded⟩ : ∃ keys, TrustClient.decodeStrictObject result
      TrustClient.maximumEnvelopeBytes OuterEnvelopeWire.fields .zero
      (TrustClient.memberNames OuterEnvelopeWire.fields) =
      some (keys, sealedEnvelope recipient.1 expected.locator.1 enc ciphertext) := by
    rw [htext] at hlen ⊢
    refine ⟨_, hflat.decodeStrictObject hlen ?_ (Or.inr rfl) (decodeStruct_sortedEnvelope _)⟩
    simp only [sortedEnvelope, List.map_cons, List.map_nil]
    decide
  have henc : enc.length = 32 := hP.hpke_enc_length _ _ _ _ _ hsender
  have hlength : ciphertext.length = plaintext.length + 16 := hP.hpke_seal_length _ _ _ _ hcipher
  have hopen : P.hpkeOpen privateKey enc TrustClient.hpkeInfo aad ciphertext = some plaintext :=
    hP.hpke_open_seal _ _ _ _ _ _ _ _ _ hkey hsender hcipher
  -- The client authenticates the header it rebuilds from the envelope; it is the
  -- header the server sealed under.
  have hheader : P.jcsTransform (marshal ((TrustClient.outerHeaderTree
      (sealedEnvelope recipient.1 expected.locator.1 enc ciphertext)).map quote)) = some aad := haad
  have hencField : decodeExactBase64URL (sealedEnvelope recipient.1 expected.locator.1 enc
      ciphertext).enc 32 = some enc := decodeExactBase64URL_encode henc
  have hcipherField : TrustClient.decodeCiphertext (sealedEnvelope recipient.1 expected.locator.1
      enc ciphertext).ciphertext = some ciphertext := decodeCiphertext_encode hbucket hlength
  have hlocatorField : decodeExactBase64URL (sealedEnvelope recipient.1 expected.locator.1 enc
      ciphertext).bundleLocator 32 = some expected.locator.1 :=
    decodeExactBase64URL_encode expected.locator.2
  have hselector : (sealedEnvelope recipient.1 expected.locator.1 enc ciphertext).recipientKeyID =
      TrustClient.recipientSelector recipient.1 expected.locator.1 := rfl
  unfold TrustClient.openEnvelope
  rw [hdecoded, orThrow_some, ok_bind]
  dsimp only
  rw [require_of hfixed, ok_bind, require_of ⟨rfl, rfl, rfl, rfl⟩, ok_bind, hencField, orThrow_some,
    ok_bind, hcipherField, orThrow_some, ok_bind, hlocatorField, orThrow_some, ok_bind,
    require_of rfl, ok_bind, hkey, orThrow_some, ok_bind, require_of recipient.2, ok_bind,
    require_of hselector, ok_bind, hheader, orThrow_some, ok_bind, hopen, orThrow_some, ok_bind]

/-! ## The padded frame -/

theorem selectPlaintextBucket_mem {length : ℕ}
    (h : Trust.selectPlaintextBucket length = some bucket) :
    bucket ∈ Trust.plaintextBuckets ∧ length ≤ bucket := by
  unfold Trust.selectPlaintextBucket at h
  have hfits := List.find?_some h
  exact ⟨List.mem_of_find?_eq_some h, by simpa using hfits⟩

/-- The client finds the frame the server padded. -/
theorem removeValidatedPadding_frame {frame padding : Bytes}
    (hbucket : bucket ∈ Trust.plaintextBuckets) (hmin : 2 ≤ frame.length)
    (hmax : frame.length + 4 ≤ 65536)
    (hlen : (bigEndian 4 frame.length ++ frame ++ padding).length = bucket) :
    TrustClient.removeValidatedPadding (bigEndian 4 frame.length ++ frame ++ padding) =
      some frame := by
  have hwidth : (bigEndian 4 frame.length).length = TrustClient.plaintextLengthPrefix :=
    bigEndian_length 4 _
  have hprefix : (bigEndian 4 frame.length ++ frame ++ padding).take
      TrustClient.plaintextLengthPrefix = bigEndian 4 frame.length := by
    rw [List.append_assoc, List.take_left' hwidth]
  have hrest : ((bigEndian 4 frame.length ++ frame ++ padding).drop
      TrustClient.plaintextLengthPrefix).take frame.length = frame := by
    rw [List.append_assoc, List.drop_left' hwidth, List.take_left' rfl]
  have hlength : ofBigEndian (bigEndian 4 frame.length) = frame.length :=
    ofBigEndian_bigEndian (by omega)
  have htotal : (bigEndian 4 frame.length ++ frame ++ padding).length =
      4 + frame.length + padding.length := by
    rw [List.length_append, List.length_append, bigEndian_length]
  have hguard : (bigEndian 4 frame.length ++ frame ++ padding).length ∈
      TrustClient.plaintextBucketSizes ∧ TrustClient.plaintextLengthPrefix ≤
        (bigEndian 4 frame.length ++ frame ++ padding).length := by
    refine ⟨hlen ▸ hbucket, ?_⟩
    unfold TrustClient.plaintextLengthPrefix
    omega
  have hbounds : 2 ≤ frame.length ∧ frame.length ≤ TrustClient.maximumPlaintextBytes ∧
      frame.length ≤ (bigEndian 4 frame.length ++ frame ++ padding).length -
        TrustClient.plaintextLengthPrefix := by
    unfold TrustClient.maximumPlaintextBytes TrustClient.plaintextLengthPrefix
    omega
  simp only [TrustClient.removeValidatedPadding, hprefix, hlength, guard, if_pos hguard,
    if_pos hbounds, hrest, Option.bind_eq_bind, Option.bind_some, Option.pure_def]

/-! ## The signed bundle -/

/-- The members of a signed bundle in canonical order. -/
def sortedSigned (v : SignedBundleWire) : List (Bytes × Json.Tree Bytes) :=
  [(ascii "algorithm", .str v.algorithm), (ascii "padding", .str v.padding),
    (ascii "payload_jcs", .str v.payloadJCS), (ascii "payload_sha256", .str v.payloadSHA256),
    (ascii "signature", .str v.signature), (ascii "signer_key_id", .str v.signerKeyID)]

theorem decodeStruct_sortedSigned (v : SignedBundleWire) :
    decodeStruct SignedBundleWire.fields .zero ((Json.Tree.obj (sortedSigned v)).map quote) =
      some v := by
  simp only [sortedSigned, Json.Tree.map_obj, List.map_cons, List.map_nil, Json.Tree.map_str,
    decodeStruct, decodeMembers_cons_quote]
  simp +decide [findField, SignedBundleWire.fields, List.find?, decodeMembers]

/-- The checks of the server on a signed bundle without padding are those of the
client. -/
theorem validSignedBundle_of_validate {v : SignedBundleWire}
    (h : Trust.validateSignedBundleV1 v = true) (hpadding : v.padding = []) :
    TrustClient.validSignedBundle v = true := by
  simp only [Trust.validateSignedBundleV1, Bool.and_eq_true] at h
  obtain ⟨⟨⟨⟨⟨⟨hlen, hdigest⟩, hkey⟩, halgorithm⟩, hsignature⟩, -⟩, -⟩ := h
  simp only [TrustClient.validSignedBundle, Bool.and_eq_true]
  exact ⟨⟨⟨⟨⟨hlen, hdigest⟩, hkey⟩, halgorithm⟩, hsignature⟩, by rw [hpadding]; rfl⟩

theorem flat_sortedSigned {v : SignedBundleWire} (h : Trust.validateSignedBundleV1 v = true)
    (hpadding : v.padding = []) (hpayload : Utf8.valid v.payloadJCS = true) :
    Flat (sortedSigned v) := by
  simp only [Trust.validateSignedBundleV1, Bool.and_eq_true, beq_iff_eq] at h
  obtain ⟨⟨⟨⟨⟨⟨-, hdigest⟩, hkey⟩, halgorithm⟩, hsignature⟩, -⟩, -⟩ := h
  refine ⟨?_, ?_⟩
  · simp only [sortedSigned, List.map_cons, List.map_nil]
    decide
  · simp only [sortedSigned, List.forall_mem_cons]
    refine ⟨⟨_, rfl, by decide, by rw [halgorithm]; decide⟩,
      ⟨_, rfl, by decide, by rw [hpadding]; decide⟩, ⟨_, rfl, by decide, hpayload⟩,
      ⟨_, rfl, by decide, valid_of_decodeExactBase64URL hdigest⟩,
      ⟨_, rfl, by decide, valid_of_decodeExactBase64URL hsignature⟩,
      ⟨_, rfl, by decide, valid_of_validKeyID hkey⟩, ?_⟩
    simp

/-- The text of a signed bundle, in canonical form. -/
theorem canonical_signedBundle (hP : P.Documented) {v : SignedBundleWire}
    (h : Flat (sortedSigned v)) :
    CanonicalAs P (Trust.signedBundleTree v) (encode (.obj (sortedSigned v))) :=
  h.canonical hP rfl

/-- What a successful `signedFrame` did: the frame is the canonical text of the
signed bundle, the client reads it back, and it fits its bucket. -/
theorem signedFrame_eq_ok (hP : P.Documented) {signed : SignedBundleWire} {frame : Bytes}
    (hpayload : Utf8.valid signed.payloadJCS = true)
    (h : Trust.signedFrame P signed = .ok (frame, bucket)) :
    TrustClient.validSignedBundle signed = true ∧ P.jcsTransform frame = some frame ∧
      (∃ keys, TrustClient.decodeStrictObject frame TrustClient.maximumPlaintextBytes
        SignedBundleWire.fields .zero (TrustClient.memberNames SignedBundleWire.fields) =
          some (keys, signed)) ∧
      bucket ∈ Trust.plaintextBuckets ∧ frame.length + 4 ≤ bucket ∧ 2 ≤ frame.length ∧
      frame.length + 4 ≤ 65536 := by
  simp only [Trust.signedFrame, bind_eq_ok, orThrow_eq_ok, require_eq_ok, pure_eq_ok,
    Prod.mk.injEq] at h
  obtain ⟨-, hpadding, -, hvalid, -, -, text, htext, -, ⟨hmin, hmax⟩, b, hbucket, rfl, rfl⟩ := h
  obtain ⟨hmem, hfits⟩ := selectPlaintextBucket_mem hbucket
  have hflat := flat_sortedSigned hvalid hpadding hpayload
  obtain ⟨hcanonical, hfixed⟩ := canonical_signedBundle hP hflat
  obtain rfl := Option.some.inj (hcanonical.symm.trans htext)
  refine ⟨validSignedBundle_of_validate hvalid hpadding, hfixed, ⟨(sortedSigned signed).map Prod.fst, ?_⟩,
    hmem, hfits, hmin, hmax⟩
  refine hflat.decodeStrictObject (Nat.le_of_add_right_le hmax) ?_ (Or.inr rfl)
    (decodeStruct_sortedSigned signed)
  simp only [sortedSigned, List.map_cons, List.map_nil]
  decide

end Talenro.Analysis
