import Talenro.Analysis.Payload

/-!
# The metadata on both ends

The server verifies a signed metadata document once and then selects signing
keys from it; the client verifies the same document each time it verifies a
bundle.  Whatever the server's `verifyRootMetadataSignature` accepts, the client's
`verifyTrustMetadata` accepts inside the document's window and above the client's
floor, and the key the server selected for issuing is one the client accepts for
the same interval (`verifyTrustMetadata_of_server`).
-/

set_option autoImplicit false

namespace Talenro.Analysis

open Lib Lib.Json Lib.Calendar

/-! ## Signing keys -/

variable {previous keyID publicKey : Bytes} {validFrom validUntil : Instant}
  {roots : List (Bytes × Bytes)} {seen : List Bytes} {keys : List SigningKeyMetadataWire}
  {P : Platform} {payload : RootMetadataWire} {value : SignedMetadataWire}
  {key : SigningKeyMetadataWire} {notBefore expiresAt : Time}

/-- Both ends accept the same keys at the same place of the list. -/
theorem validSigningKey_eq : Trust.validSigningKey validFrom validUntil seen previous key =
    TrustClient.validMetadataKey validFrom validUntil seen previous key := by
  -- `a ≤ b` of texts is the negation of `b < a`.
  have horder : (!(decide (key.keyID ≤ previous) && previous != [])) =
      (previous == [] || decide (previous < key.keyID)) := by
    have hle : key.keyID ≤ previous ↔ ¬ previous < key.keyID := Iff.rfl
    simp only [hle, decide_not, Bool.not_and, Bool.not_not, bne, Bool.or_comm]
  unfold Trust.validSigningKey TrustClient.validMetadataKey
  cases parseProtocolTime key.notBefore with
  | none => rfl
  | some keyNotBefore =>
  cases parseProtocolTime key.notAfter with
  | none => rfl
  | some keyNotAfter =>
  cases hexact : decodeExactBase64URL key.publicKey 32 with
  | some publicKey =>
    obtain ⟨hencode, hlength⟩ := decodeExactBase64URL_eq_some.mp hexact
    have hdecode : Base64Url.decode key.publicKey = some publicKey := by
      rw [hencode, Base64Url.decode_encode]
    simp only [hdecode, hlength, ← hencode, horder, decide_true, beq_self_eq_true, Bool.and_true]
    rw [BEq.comm (a := key.keyID)]
    rfl
  | none =>
    cases hdecode : Base64Url.decode key.publicKey with
    | none => rfl
    | some publicKey =>
      have hnot : ¬ (publicKey.length = 32 ∧ Base64Url.encode publicKey = key.publicKey) := by
        rintro ⟨hlength, hencode⟩
        rw [← hencode, decodeExactBase64URL_encode hlength] at hexact
        cases hexact
      by_cases hlength : publicKey.length = 32
      · have hencode : (Base64Url.encode publicKey == key.publicKey) = false :=
          beq_eq_false_iff_ne.mpr fun h => hnot ⟨hlength, h⟩
        simp [hencode]
      · simp [hlength]

theorem validSigningKeys_eq : Trust.validSigningKeys validFrom validUntil seen previous keys =
    TrustClient.validMetadataKeys validFrom validUntil seen previous keys := by
  induction keys generalizing seen previous with
  | nil => rfl
  | cons key keys ih =>
    rw [Trust.validSigningKeys, TrustClient.validMetadataKeys, validSigningKey_eq, ih]

/-- What is known of a key that is accepted. -/
theorem validSigningKey_eq_true
    (h : Trust.validSigningKey validFrom validUntil seen previous key = true) :
    (∃ publicKey, decodeExactBase64URL key.publicKey 32 = some publicKey ∧
        deriveKeyID TrustClient.configKeyIDDomain publicKey = key.keyID) ∧
      key.algorithm = TrustClient.signatureAlgorithm ∧
      (parseProtocolTime key.notBefore).isSome ∧ (parseProtocolTime key.notAfter).isSome := by
  rw [validSigningKey_eq, TrustClient.validMetadataKey] at h
  split at h
  · next hbefore hafter hpublic =>
    simp only [Bool.and_eq_true, beq_iff_eq] at h
    exact ⟨⟨_, hpublic, h.1.1.1.1.1.1.2⟩, h.1.1.1.1.1.1.1.2, by simp [hbefore], by simp [hafter]⟩
  · cases h

/-- Every key of an accepted list was accepted after some keys before it. -/
theorem validSigningKey_of_mem
    (h : Trust.validSigningKeys validFrom validUntil seen previous keys = true)
    (hkey : key ∈ keys) :
    ∃ seen previous, Trust.validSigningKey validFrom validUntil seen previous key = true := by
  induction keys generalizing seen previous with
  | nil => cases hkey
  | cons head keys ih =>
    rw [Trust.validSigningKeys, Bool.and_eq_true] at h
    rcases List.mem_cons.mp hkey with rfl | hkey
    · exact ⟨seen, previous, h.1⟩
    · exact ih h.2 hkey

/-! ## The document -/

/-- What the server checked of a metadata document. -/
structure ValidMetadata (payload : RootMetadataWire) (validFrom validUntil : Instant) : Prop where
  from_time : parseProtocolTime payload.validFrom = some validFrom
  until_time : parseProtocolTime payload.validUntil = some validUntil
  schemaVersion : payload.schemaVersion = Trust.trustMetadataSchemaV1
  version : (parsePositiveUint payload.version).isSome = true
  rootKeyID : validKeyID payload.rootKeyID = true
  rootAlgorithm : payload.rootAlgorithm = Trust.signatureAlgorithm
  interval : validFrom < validUntil
  nonempty : 0 < payload.signingKeys.length
  bounded : payload.signingKeys.length ≤ Trust.maximumSigningKeys
  keys : Trust.validSigningKeys validFrom validUntil [] [] payload.signingKeys = true

theorem validateRootMetadataV1_iff : Trust.validateRootMetadataV1 payload = true ↔
    ∃ validFrom validUntil, ValidMetadata payload validFrom validUntil := by
  unfold Trust.validateRootMetadataV1
  constructor
  · intro h
    split at h
    · next validFrom validUntil hfrom huntil =>
      simp only [Bool.and_eq_true, beq_iff_eq, decide_eq_true_eq] at h
      obtain ⟨⟨⟨⟨⟨⟨hschema, hversion⟩, hroot⟩, halgorithm⟩, hinterval⟩, hcount⟩, hkeys⟩ := h
      exact ⟨validFrom, validUntil, hfrom, huntil, hschema, hversion, hroot, halgorithm, hinterval,
        hcount.1, hcount.2, hkeys⟩
    · cases h
  · rintro ⟨validFrom, validUntil, h⟩
    simp only [h.from_time, h.until_time, h.schemaVersion, h.version, h.rootKeyID, h.rootAlgorithm,
      h.interval, h.nonempty, h.bounded, h.keys, beq_self_eq_true, decide_true, and_self,
      Bool.and_self]

/-- The window in which the client accepts a metadata document. -/
def MetadataWindow (payload : RootMetadataWire) (now : Instant) : Prop :=
  ∀ validFrom validUntil, parseProtocolTime payload.validFrom = some validFrom →
    parseProtocolTime payload.validUntil = some validUntil → validFrom ≤ now ∧ now < validUntil

/-- The client accepts a document exactly in the window of one the server accepts. -/
theorem validateMetadataPayload_eq_some {now : Instant} {version : ℕ} :
    TrustClient.validateMetadataPayload payload now = some version ↔
      Trust.validateRootMetadataV1 payload = true ∧ version = Decimal.value payload.version ∧
        MetadataWindow payload now := by
  rw [validateRootMetadataV1_iff]
  simp only [TrustClient.validateMetadataPayload, Option.bind_eq_bind, Option.bind_eq_some_iff,
    Option.guard_eq_some', Option.pure_def, Option.some.injEq, exists_const]
  constructor
  · rintro ⟨version, hversion, validFrom, hfrom, validUntil, huntil, ⟨hschema, halgorithm, hroot,
      hinterval, hnow, hbefore, hne, hcount⟩, hkeys, rfl⟩
    refine ⟨⟨validFrom, validUntil, hfrom, huntil, hschema, by rw [hversion]; rfl, hroot, halgorithm,
      hinterval, List.length_pos_of_ne_nil hne, hcount, validSigningKeys_eq.trans hkeys⟩,
      (parsePositiveUint_eq_some hversion).2, fun from' until' hfrom' huntil' => ?_⟩
    obtain rfl := Option.some.inj (hfrom.symm.trans hfrom')
    obtain rfl := Option.some.inj (huntil.symm.trans huntil')
    exact ⟨hnow, hbefore⟩
  · rintro ⟨⟨validFrom, validUntil, h⟩, rfl, hwindow⟩
    obtain ⟨version, hversion⟩ := Option.isSome_iff_exists.mp h.version
    obtain ⟨hnow, hbefore⟩ := hwindow validFrom validUntil h.from_time h.until_time
    exact ⟨version, hversion, validFrom, h.from_time, validUntil, h.until_time,
      ⟨h.schemaVersion, h.rootAlgorithm, h.rootKeyID, h.interval, hnow, hbefore,
        List.ne_nil_of_length_pos h.nonempty, h.bounded⟩, validSigningKeys_eq.symm.trans h.keys,
      (parsePositiveUint_eq_some hversion).2⟩

/-! ## Reading the document -/

/-- A record the server's reader decoded, with all its members, is read by the
client's reader too. -/
theorem decodeStrictObject_of_strictDecode {α : Type} {body : Bytes} {maxBytes maximum : ℕ}
    {schemas : List (Bytes × Trust.Schema)} {fields : List (Json.Field α)} {zero value : α}
    (hschemas : schemas.map Prod.fst = fields.map Json.Field.name)
    (hnodupFields : (fields.map Json.Field.name).Nodup) (hzero : value ≠ zero)
    (h : Trust.strictDecode body maxBytes (.record schemas) (decodeStruct fields zero) = some value)
    (hjson : Trust.validIJSON body = true) (hpos : 1 ≤ body.length) (hlen : body.length ≤ maximum)
    (hpresent : ∀ ms, (∀ n ∈ memberKeys ms, n ∈ fields.map Json.Field.name) →
      decodeMembers fields ms zero = some value → ∀ n ∈ fields.map Json.Field.name,
        n ∈ memberKeys ms) :
    ∃ keys, TrustClient.decodeStrictObject body maximum fields zero (TrustClient.memberNames fields) =
      some (keys, value) := by
  obtain ⟨ms, hparse, hnodup, hexact, hmembers⟩ := strictDecode_record hschemas hzero h
  obtain ⟨-, hutf8, t, hparse', hwalk, htarget⟩ := strictDecode_eq_some h
  obtain rfl := Option.some.inj (hparse'.symm.trans hparse)
  rw [Trust.validIJSON, Bool.and_eq_true, Bool.and_eq_true, hparse] at hjson
  obtain ⟨⟨-, hescapes⟩, hnumbers⟩ := hjson
  have hscan := scanJSONValue_of_walkValue (Nat.zero_le 16) hwalk hnumbers
  have hrequired := hpresent ms hexact hmembers
  have hcount : (memberKeys ms).length = (fields.map Json.Field.name).length := by
    apply List.Perm.length_eq
    apply (List.perm_ext_iff_of_nodup hnodup hnodupFields).mpr
    intro n
    exact ⟨hexact n, hrequired n⟩
  exact ⟨memberKeys ms, decodeStrictObject_of_parse ⟨hpos, hlen⟩ ⟨hutf8, hescapes⟩ hparse hscan
    hrequired (Or.inr hcount) hmembers⟩

theorem ne_nil_of_parseProtocolTime {value : Bytes} {t : Instant}
    (h : parseProtocolTime value = some t) : value ≠ [] := by
  rintro rfl
  cases h

/-- An accepted document was written with all its members: none of its fields has
the value an absent member leaves. -/
theorem rootMetadata_present (h : Trust.validateRootMetadataV1 payload = true)
    {ms : List (Raw × Json.Tree Raw)}
    (hexact : ∀ n ∈ memberKeys ms, n ∈ RootMetadataWire.fields.map Json.Field.name)
    (hdecode : decodeMembers RootMetadataWire.fields ms .zero = some payload) :
    ∀ n ∈ RootMetadataWire.fields.map Json.Field.name, n ∈ memberKeys ms := by
  obtain ⟨validFrom, validUntil, hvalid⟩ := validateRootMetadataV1_iff.mp h
  -- A member that is absent leaves the zero value of its field.
  have habsent : ∀ {name : Bytes} {γ : Type} (get : RootMetadataWire → γ),
      Reads RootMetadataWire.fields name get → get payload ≠ get .zero → name ∈ memberKeys ms := by
    intro name γ get hreads hne
    by_contra hmissing
    exact hne (decodeMembers_absent hreads hexact hmissing hdecode)
  have hschema : payload.schemaVersion ≠ [] := by
    rw [hvalid.schemaVersion]
    decide
  have hversion : payload.version ≠ [] := by
    intro hempty
    have hparsed := hvalid.version
    rw [hempty] at hparsed
    cases hparsed
  have hroot : payload.rootKeyID ≠ [] := by
    intro hempty
    have hvalidID := hvalid.rootKeyID
    rw [hempty] at hvalidID
    cases hvalidID
  have halgorithm : payload.rootAlgorithm ≠ [] := by
    rw [hvalid.rootAlgorithm]
    decide
  simp only [RootMetadataWire.fields, stringField, listField, List.map_cons, List.map_nil,
    List.forall_mem_cons]
  refine ⟨habsent RootMetadataWire.schemaVersion ?_ hschema, habsent RootMetadataWire.version ?_ hversion,
    habsent RootMetadataWire.rootKeyID ?_ hroot,
    habsent RootMetadataWire.rootAlgorithm ?_ halgorithm,
    habsent RootMetadataWire.validFrom ?_ (ne_nil_of_parseProtocolTime hvalid.from_time),
    habsent RootMetadataWire.validUntil ?_ (ne_nil_of_parseProtocolTime hvalid.until_time),
    habsent RootMetadataWire.signingKeys ?_ (List.ne_nil_of_length_pos hvalid.nonempty), by simp⟩
  all_goals
    intro f hf hne
    simp only [RootMetadataWire.fields, List.mem_cons, List.not_mem_nil, or_false] at hf
    rcases hf with rfl | rfl | rfl | rfl | rfl | rfl | rfl
    all_goals first
      | exact absurd rfl hne
      | exact stringField_frame fun _ _ => rfl
      | exact listField_frame fun _ _ => rfl

/-- What both ends establish of a signed document with roots: a root has signed it. -/
def SignedByRoot (P : Platform) (value : SignedMetadataWire) (roots : List (Bytes × Bytes))
    (payload : RootMetadataWire) : Prop :=
  ∃ publicKey signature, roots.lookup payload.rootKeyID = some publicKey ∧
    publicKey.length = 32 ∧ deriveKeyID Trust.rootKeyIDDomain publicKey = payload.rootKeyID ∧
    decodeExactBase64URL value.signature 64 = some signature ∧
    P.ed25519Verify publicKey (Trust.metadataSignatureDomain ++ value.payloadJCS) signature = true

/-- What the server's verification of a signed document established. -/
structure VerifiedMetadata (P : Platform) (value : SignedMetadataWire)
    (roots : List (Bytes × Bytes)) (payload : RootMetadataWire) : Prop where
  bounds : 2 ≤ value.payloadJCS.length ∧ value.payloadJCS.length ≤ Trust.maximumCanonicalPayloadBytes
  decoded : Trust.strictDecode value.payloadJCS Trust.maximumCanonicalPayloadBytes
    Trust.rootMetadataSchema (decodeStruct RootMetadataWire.fields .zero) = some payload
  json : Trust.validIJSON value.payloadJCS = true
  fixed : P.jcsTransform value.payloadJCS = some value.payloadJCS
  valid : Trust.validateRootMetadataV1 payload = true
  signed : SignedByRoot P value roots payload

theorem verifyRootMetadataSignature_eq_ok {version : ℕ}
    (h : Trust.verifyRootMetadataSignature P value roots = .ok (payload, version)) :
    VerifiedMetadata P value roots payload ∧ version = Decimal.value payload.version := by
  simp only [Trust.verifyRootMetadataSignature, bind_eq_ok, orThrow_eq_ok, require_eq_ok, pure_eq_ok,
    Prod.exists, Prod.mk.injEq] at h
  obtain ⟨-, ⟨hmin, hmax, hsize⟩, canonical, decoded, hcanonical, -, ⟨rfl, hvalid⟩, publicKey,
    hlookup, -, ⟨hlength, hderive⟩, signature, hsignature, -, hverify, rfl, rfl⟩ := h
  obtain ⟨hdecoded, hjson, htransform, -, -⟩ := canonicalizeJSON_eq_some hcanonical
  obtain ⟨exact, hexact⟩ := Option.isSome_iff_exists.mp hsize
  -- Both readers of the signature see the same octets.
  obtain rfl : signature = exact := by
    rw [(decodeExactBase64URL_eq_some.mp hexact).1, Base64Url.decode_encode] at hsignature
    exact (Option.some.inj hsignature).symm
  exact ⟨⟨⟨hmin, hmax⟩, hdecoded, hjson, htransform, hvalid, publicKey, signature, hlookup, hlength,
    hderive, hexact, hverify⟩, rfl⟩

/-- The members of a signed metadata document, as `json.Marshal` writes it. -/
def signedMetadataMembers (value : SignedMetadataWire) : List (Bytes × Json.Tree Bytes) :=
  [(ascii "payload_jcs", .str value.payloadJCS), (ascii "signature", .str value.signature)]

/-- The text a client is given for a signed document: its JSON form. -/
def signedMetadataText (value : SignedMetadataWire) : Bytes :=
  marshal ((Json.Tree.obj (signedMetadataMembers value)).map quote)

/-- The client reads the text of a signed document the server verified. -/
theorem VerifiedMetadata.decodeStrictObject (h : VerifiedMetadata P value roots payload)
    (hlen : (signedMetadataText value).length ≤ TrustClient.maximumMetadataBytes) :
    ∃ keys, TrustClient.decodeStrictObject (signedMetadataText value)
      TrustClient.maximumMetadataBytes SignedMetadataWire.fields .zero
      (TrustClient.memberNames SignedMetadataWire.fields) = some (keys, value) := by
  obtain ⟨-, hutf8, -⟩ := strictDecode_eq_some h.decoded
  obtain ⟨-, signature, -, -, -, hsignature, -⟩ := h.signed
  have hsignatureValid : Utf8.valid value.signature = true :=
    valid_of_decodeExactBase64URL (by rw [hsignature]; rfl)
  have hflat : Flat (signedMetadataMembers value) := by
    refine ⟨?_, ?_⟩
    · simp only [signedMetadataMembers, List.map_cons, List.map_nil]
      decide
    · simp only [signedMetadataMembers, List.forall_mem_cons]
      exact ⟨⟨_, rfl, by decide, hutf8⟩, ⟨_, rfl, by decide, hsignatureValid⟩, by simp⟩
  refine ⟨_, decodeStrictObject_marshal hflat hlen ?_ (Or.inr rfl) ?_⟩
  · simp only [signedMetadataMembers, List.map_cons, List.map_nil]
    decide
  · simp only [signedMetadataMembers, Json.Tree.map_obj, List.map_cons, List.map_nil,
      Json.Tree.map_str, decodeStruct, decodeMembers, unquote_htmlEscape, unquote_quote]
    simp +decide [findField, SignedMetadataWire.fields, List.find?, stringField, unquote_htmlEscape,
      unquote_quote]

/-- A document the client has no objection to. -/
structure ClientMetadata (P : Platform) (value : SignedMetadataWire) (roots : List (Bytes × Bytes))
    (highestTrusted : ℕ) (now : Instant) (payload : RootMetadataWire) : Prop where
  bounds : 2 ≤ value.payloadJCS.length ∧ value.payloadJCS.length ≤ TrustClient.maximumMetadataBytes
  decoded : ∃ names, TrustClient.decodeStrictObject value.payloadJCS
    TrustClient.maximumMetadataBytes RootMetadataWire.fields .zero
    (TrustClient.memberNames RootMetadataWire.fields) = some (names, payload)
  fixed : P.jcsTransform value.payloadJCS = some value.payloadJCS
  valid : ∃ version, TrustClient.validateMetadataPayload payload now = some version ∧
    highestTrusted < version
  signed : SignedByRoot P value roots payload

/-- The client accepts what the server verified, inside the window and above its floor. -/
theorem VerifiedMetadata.client (h : VerifiedMetadata P value roots payload) {highestTrusted : ℕ}
    {now : Instant} (hfloor : highestTrusted < Decimal.value payload.version)
    (hwindow : MetadataWindow payload now) :
    ClientMetadata P value roots highestTrusted now payload := by
  have hzero : payload ≠ .zero := by
    rintro rfl
    exact absurd h.valid (by decide)
  exact ⟨h.bounds, decodeStrictObject_of_strictDecode (by rfl) (by decide) hzero h.decoded h.json
      (Nat.le_of_succ_le h.bounds.1) h.bounds.2 fun ms => rootMetadata_present h.valid, h.fixed,
    ⟨_, validateMetadataPayload_eq_some.mpr ⟨h.valid, rfl, hwindow⟩, hfloor⟩, h.signed⟩

/-- What the client does with an accepted document: it looks for the key of the signer. -/
def signerKey (payload : RootMetadataWire) (signerKeyID : Bytes) :
    Except TrustClient.Error (RootMetadataWire × Bytes) := do
  let key ← orThrow (payload.signingKeys.find? fun key => key.keyID = signerKeyID) .signature
  let publicKey ← orThrow (decodeExactBase64URL key.publicKey 32) .signature
  require (deriveKeyID TrustClient.configKeyIDDomain publicKey = key.keyID ∧
    key.algorithm = TrustClient.signatureAlgorithm ∧
    (key.state = ascii "active" ∨ key.state = ascii "retiring")) .signature
  pure (payload, publicKey)

/-- The answer about such a document is a matter of its keys. -/
theorem ClientMetadata.verifyTrustMetadata {metadata : TrustClient.TrustMetadata}
    {names : List Bytes} {now : Instant}
    (hread : TrustClient.decodeStrictObject metadata.signed TrustClient.maximumMetadataBytes
      SignedMetadataWire.fields .zero (TrustClient.memberNames SignedMetadataWire.fields) =
        some (names, value))
    (h : ClientMetadata P value metadata.trustedRoots metadata.highestTrusted now payload) :
    TrustClient.verifyTrustMetadata P metadata keyID now = signerKey payload keyID := by
  obtain ⟨payloadNames, hpayload⟩ := h.decoded
  obtain ⟨version, hversion, hfloor⟩ := h.valid
  obtain ⟨publicKey, signature, hlookup, hlength, hderive, hsignature, hverify⟩ := h.signed
  -- The two packages declare the same domains.
  have hroot : publicKey.length = 32 ∧
      deriveKeyID TrustClient.rootKeyIDDomain publicKey = payload.rootKeyID := ⟨hlength, hderive⟩
  have hrootVerify : P.ed25519Verify publicKey (TrustClient.metadataSignatureDomain ++
      value.payloadJCS) signature = true := hverify
  unfold TrustClient.verifyTrustMetadata
  rw [hread, orThrow_some, ok_bind]
  dsimp only
  rw [require_of h.bounds, ok_bind, hpayload, orThrow_some, ok_bind]
  dsimp only
  rw [require_of h.fixed, ok_bind, hversion, orThrow_some, ok_bind, hlookup, orThrow_some, ok_bind,
    require_of hroot, ok_bind, hsignature, orThrow_some, ok_bind, require_of hrootVerify, ok_bind,
    require_of hfloor, ok_bind]
  rfl

/-! ## The selected key -/

/-- A usable key of a valid document is found for its signer. -/
theorem signerKey_eq_ok (hvalid : Trust.validateRootMetadataV1 payload = true)
    (hfind : (payload.signingKeys.find? fun key => key.keyID = keyID) = some key)
    (hstate : key.state = ascii "active" ∨ key.state = ascii "retiring") :
    ∃ publicKey, Base64Url.decode key.publicKey = some publicKey ∧
      signerKey payload keyID = .ok (payload, publicKey) := by
  obtain ⟨validFrom, validUntil, hdocument⟩ := validateRootMetadataV1_iff.mp hvalid
  obtain ⟨seen, previous, hkey⟩ :=
    validSigningKey_of_mem hdocument.keys (List.mem_of_find?_eq_some hfind)
  obtain ⟨⟨publicKey, hexact, hderive⟩, halgorithm, -⟩ := validSigningKey_eq_true hkey
  refine ⟨publicKey, ?_, ?_⟩
  · rw [(decodeExactBase64URL_eq_some.mp hexact).1, Base64Url.decode_encode]
  · rw [signerKey, hfind, orThrow_some, ok_bind, hexact, orThrow_some, ok_bind,
      require_of ⟨hderive, halgorithm, hstate⟩, ok_bind]
    rfl

/-- What the server's selection of a key for issuing established. -/
theorem selectSigningKeyForIssue_eq_ok
    (h : Trust.selectSigningKeyForIssue payload keyID notBefore expiresAt = .ok publicKey) :
    Trust.validateRootMetadataV1 payload = true ∧ validKeyID keyID = true ∧
      ∃ key, (payload.signingKeys.find? fun key => key.keyID = keyID) = some key ∧
      key.state = ascii "active" ∧
      (parseProtocolTime key.notBefore).getD 0 ≤ notBefore.instant ∧
      expiresAt.instant ≤ (parseProtocolTime key.notAfter).getD 0 ∧
      Base64Url.decode key.publicKey = some publicKey := by
  simp only [Trust.selectSigningKeyForIssue, bind_eq_ok, orThrow_eq_ok, require_eq_ok,
    pure_eq_ok] at h
  obtain ⟨-, hargs, key, hfind, -, hstate, -, ⟨hbefore, hafter⟩, decoded, hdecoded, -, -, rfl⟩ := h
  exact ⟨hargs.1, hargs.2.1, key, hfind, hstate, hbefore, hafter, hdecoded⟩

/-- The first key with an identifier is also the first usable one when it is
usable. -/
theorem find_usable (h : (keys.find? fun key => key.keyID = keyID) = some key)
    (hstate : key.state = ascii "active" ∨ key.state = ascii "retiring") :
    (keys.find? fun key => key.keyID = keyID ∧
      (key.state = ascii "active" ∨ key.state = ascii "retiring")) = some key := by
  rw [List.find?_eq_some_iff_append] at h ⊢
  obtain ⟨hid, before, after, hkeys, hbefore⟩ := h
  rw [decide_eq_true_eq] at hid
  refine ⟨decide_eq_true ⟨hid, hstate⟩, before, after, hkeys, ?_⟩
  intro other hother
  have hne : ¬ other.keyID = keyID := by simpa using hbefore other hother
  simp [hne]

/-- The interval for which the server selected a key is one the client accepts it for. -/
theorem metadataKeyAuthorizes_of_select
    (h : Trust.selectSigningKeyForIssue payload keyID notBefore expiresAt = .ok publicKey) :
    TrustClient.metadataKeyAuthorizes payload keyID notBefore.instant expiresAt.instant = true := by
  obtain ⟨hdocument, -, key, hfind, hstate, hbefore, hafter, -⟩ := selectSigningKeyForIssue_eq_ok h
  obtain ⟨validFrom, validUntil, hvalid⟩ := validateRootMetadataV1_iff.mp hdocument
  obtain ⟨seen, previous, hkey⟩ :=
    validSigningKey_of_mem hvalid.keys (List.mem_of_find?_eq_some hfind)
  obtain ⟨-, -, hkeyBefore, hkeyAfter⟩ := validSigningKey_eq_true hkey
  obtain ⟨keyNotBefore, hkeyBefore⟩ := Option.isSome_iff_exists.mp hkeyBefore
  obtain ⟨keyNotAfter, hkeyAfter⟩ := Option.isSome_iff_exists.mp hkeyAfter
  rw [hkeyBefore] at hbefore
  rw [hkeyAfter] at hafter
  rw [TrustClient.metadataKeyAuthorizes, find_usable hfind (Or.inl hstate)]
  simp only [hkeyBefore, hkeyAfter, Bool.and_eq_true, decide_eq_true_eq]
  exact ⟨hbefore, hafter⟩

/-- **Both ends agree on metadata.**  A document the server verified, whose key it
selected for an interval, is accepted by a client that has the same roots, a lower
floor and a clock in the document's window; the client then verifies with the same
public key, and accepts the key for the interval. -/
theorem verifyTrustMetadata_of_server {version : ℕ}
    (hserver : Trust.verifyRootMetadataSignature P value roots = .ok (payload, version))
    (hselect : Trust.selectSigningKeyForIssue payload keyID notBefore expiresAt = .ok publicKey)
    {metadata : TrustClient.TrustMetadata} {keys : List Bytes}
    (hsigned : TrustClient.decodeStrictObject metadata.signed TrustClient.maximumMetadataBytes
      SignedMetadataWire.fields .zero (TrustClient.memberNames SignedMetadataWire.fields) =
        some (keys, value)) (hroots : metadata.trustedRoots = roots)
    (hfloor : metadata.highestTrusted < version) {now : Instant}
    (hwindow : MetadataWindow payload now) :
    TrustClient.verifyTrustMetadata P metadata keyID now = .ok (payload, publicKey) ∧
      TrustClient.metadataKeyAuthorizes payload keyID notBefore.instant expiresAt.instant = true := by
  obtain ⟨hverified, rfl⟩ := verifyRootMetadataSignature_eq_ok hserver
  subst hroots
  obtain ⟨-, -, key, hfind, hstate, -, -, hpublic⟩ := selectSigningKeyForIssue_eq_ok hselect
  obtain ⟨publicKey', hpublic', hsigner⟩ := signerKey_eq_ok hverified.valid hfind (Or.inl hstate)
  obtain rfl := Option.some.inj (hpublic'.symm.trans hpublic)
  refine ⟨?_, metadataKeyAuthorizes_of_select hselect⟩
  rw [(hverified.client hfloor hwindow).verifyTrustMetadata hsigned, hsigner]

end Talenro.Analysis
