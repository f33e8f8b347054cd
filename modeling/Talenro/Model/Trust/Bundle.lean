import Talenro.Model.Backend
import Talenro.Model.Trust.StrictJson

/-!
# Signing and sealing bundles

The server's half of the protocol: the payload and its checks, the metadata that
authorises signing keys, `SignBundleV1` and `Seal`.

Sources named without a directory are in `internal/trust`.
-/

set_option autoImplicit false

namespace Talenro.Trust

open Lib Lib.Json Lib.Calendar

/-- The error values of the package.

SOURCE: types.go:22-48, application.go:50-57,
envelope.go:35-47 -/
inductive Error where
  | api (code : ApiError)
  | invalidArgument
  | invalidJSON
  | invalidPayload
  | invalidSignature
  | closed
  | signerTimeout
  | signerFailure
  | invalidMetadata
  | metadataRollback
  | unknownRoot
  | keyUnavailable
  | repository
  | application
  | recipientKey
  | envelopeSeal
  | envelopeTooLarge
  | randomSource
deriving DecidableEq

/-! ## Constants

SOURCE: types.go:10-19, signer.go:20-28,
envelope.go:17-33, validate.go:16-25 -/

def bundleSchemaV1 : Bytes := ascii "talenro-config-bundle/v1"
def trustMetadataSchemaV1 : Bytes := ascii "talenro-trust-metadata/v1"
def signatureAlgorithm : Bytes := ascii "Ed25519"
def bundleSignatureDomain : Bytes := ascii "TALENRO-CONFIG-BUNDLE-SIGNATURE-V1\x00"
def metadataSignatureDomain : Bytes := ascii "TALENRO-TRUST-METADATA-V1\x00"
def configKeyIDDomain : Bytes := ascii "TALENRO-CONFIG-SIGNING-KEY-ID-V1\x00"
def rootKeyIDDomain : Bytes := ascii "TALENRO-ROOT-SIGNING-KEY-ID-V1\x00"
def envelopeVersionV1 : Bytes := ascii "talenro-config-envelope/v1"
def kemX25519HKDFSHA256 : Bytes := ascii "DHKEM-X25519-HKDF-SHA256"
def kdfHKDFSHA256 : Bytes := ascii "HKDF-SHA256"
def aeadChaCha20Poly1305 : Bytes := ascii "CHACHA20-POLY1305"
def envelopeInfo : Bytes := ascii "talenro-config-bundle/v1"
def recipientSelectorDomain : Bytes := ascii "TALENRO-RECIPIENT-SELECTOR-V1\x00"
def maximumEnvelopeBytes : ℕ := 2 ^ 20
def maximumEnvelopePlaintext : ℕ := 64 * 1024
def plaintextLengthBytes : ℕ := 4
def maximumPolicyBytes : ℕ := 4 * 1024
def maximumMessageBytes : ℕ := 256
def maximumPaddingEncodedBytes : ℕ := 64 * 1024
def maximumSigningKeys : ℕ := 64
def plaintextBuckets : List ℕ := [4096, 8192, 16384, 32768, 65536]

/-! ## The payload -/

/-- SOURCE: types.go:55-66 -/
structure PayloadV1 where
  schemaVersion : Bytes
  bundleID : Bytes
  bundleLocator : Bytes
  bundleVersion : Bytes
  audience : Bytes
  issuedAt : Bytes
  notBefore : Bytes
  expiresAt : Bytes
  policySnapshot : Bytes
  testConfig : TestConfigWire
deriving DecidableEq

def PayloadV1.zero : PayloadV1 := ⟨[], [], [], [], [], [], [], [], [], .zero⟩

def PayloadV1.fields : List (Json.Field PayloadV1) :=
  [stringField (ascii "schema_version") fun v r => { r with schemaVersion := v },
   stringField (ascii "bundle_id") fun v r => { r with bundleID := v },
   stringField (ascii "bundle_locator") fun v r => { r with bundleLocator := v },
   stringField (ascii "bundle_version") fun v r => { r with bundleVersion := v },
   stringField (ascii "audience") fun v r => { r with audience := v },
   stringField (ascii "issued_at") fun v r => { r with issuedAt := v },
   stringField (ascii "not_before") fun v r => { r with notBefore := v },
   stringField (ascii "expires_at") fun v r => { r with expiresAt := v },
   rawField (ascii "policy_snapshot") fun v r => { r with policySnapshot := v },
   recordField (ascii "test_config") (decodeStruct TestConfigWire.fields .zero)
     fun v r => { r with testConfig := v }]

/-- The schema of a record whose fields are all strings or raw messages. -/
def flatSchema {α : Type} (fields : List (Json.Field α)) : Schema :=
  .record (fields.map fun field => (field.name, .leaf))

def PayloadV1.schema : Schema :=
  .record (PayloadV1.fields.map fun field =>
    (field.name, if field.name = ascii "test_config" then flatSchema TestConfigWire.fields else .leaf))

/-- SOURCE: validate.go:112-139 -/
def validDevicePolicyV1 (policy : Bytes) : Bool :=
  if ¬(2 ≤ policy.length ∧ policy.length ≤ maximumPolicyBytes) then false
  else
    match strictDecode policy maximumPolicyBytes (flatSchema PolicyWire.fields)
        (decodeStruct PolicyWire.fields .zero) with
    | none => false
    | some decoded =>
      if decoded.mode = ascii "standard" then decoded.expiresAt.isEmpty && decoded.maxDevices.isEmpty
      else if decoded.mode ≠ ascii "trial_restricted" ∨ decoded.expiresAt = [] ∨
          decoded.maxDevices = [] then false
      else
        match strictDecode decoded.expiresAt decoded.expiresAt.length .leaf decodeString,
            strictDecode decoded.maxDevices decoded.maxDevices.length .leaf decodeString with
        | some expiresAt, some maxDevices =>
          (parseProtocolTime expiresAt).isSome && maxDevices == ascii "1"
        | _, _ => false

/-- SOURCE: validate.go:54-66 -/
def validatePayloadV1 (P : Platform) (value : PayloadV1) : Bool :=
  match parseProtocolTime value.issuedAt, parseProtocolTime value.notBefore,
      parseProtocolTime value.expiresAt with
  | some issuedAt, some notBefore, some expiresAt =>
    value.schemaVersion == bundleSchemaV1 && canonicalUUID P value.bundleID &&
      canonicalUUID P value.audience && (decodeExactBase64URL value.bundleLocator 32).isSome &&
      (parsePositiveUint value.bundleVersion).isSome && decide (issuedAt ≤ notBefore) &&
      decide (notBefore < expiresAt) &&
      decide (value.testConfig.message.length ≤ maximumMessageBytes) &&
      Utf8.valid value.testConfig.message && unsignedIntegerString value.testConfig.sequence &&
      validDevicePolicyV1 value.policySnapshot
  | _, _, _ => false

/-- A `json.RawMessage` inside a value being marshalled: `null` when it is nil. -/
def rawTree (message : Bytes) : Option (Json.Tree Raw) :=
  if message = [] then some .null else parse message

/-- The object `json.Marshal` writes for a payload.  Its strings have been
checked to be UTF-8. -/
def payloadTree (value : PayloadV1) : Option (Json.Tree Raw) := do
  let policy ← rawTree value.policySnapshot
  pure (.obj
    [(quote (ascii "schema_version"), .str (quote value.schemaVersion)),
     (quote (ascii "bundle_id"), .str (quote value.bundleID)),
     (quote (ascii "bundle_locator"), .str (quote value.bundleLocator)),
     (quote (ascii "bundle_version"), .str (quote value.bundleVersion)),
     (quote (ascii "audience"), .str (quote value.audience)),
     (quote (ascii "issued_at"), .str (quote value.issuedAt)),
     (quote (ascii "not_before"), .str (quote value.notBefore)),
     (quote (ascii "expires_at"), .str (quote value.expiresAt)),
     (quote (ascii "policy_snapshot"), policy),
     (quote (ascii "test_config"), .obj
       [(quote (ascii "message"), .str (quote value.testConfig.message)),
        (quote (ascii "sequence"), .str (quote value.testConfig.sequence))])])

/-- `CanonicalizePayloadV1`.

SOURCE: jcs.go:42-56 -/
def canonicalizePayloadV1 (P : Platform) (value : PayloadV1) : Option Bytes := do
  guard (validatePayloadV1 P value)
  let body := marshal (← payloadTree value)
  let (canonical, decoded) ← canonicalizeJSON P body PayloadV1.schema
    (decodeStruct PayloadV1.fields .zero)
  guard (validatePayloadV1 P decoded)
  pure canonical

/-! ## The metadata -/

/-- One signing key, against the window of its document and the keys before it.

SOURCE: metadata.go:28-43 -/
def validSigningKey (validFrom validUntil : Instant) (seen : List Bytes) (previous : Bytes)
    (key : SigningKeyMetadataWire) : Bool :=
  match parseProtocolTime key.notBefore, parseProtocolTime key.notAfter,
      Base64Url.decode key.publicKey with
  | some keyNotBefore, some keyNotAfter, some publicKey =>
    validKeyID key.keyID && key.algorithm == signatureAlgorithm &&
      decide (publicKey.length = 32) && Base64Url.encode publicKey == key.publicKey &&
      key.keyID == deriveKeyID configKeyIDDomain publicKey &&
      (key.state == ascii "future" || key.state == ascii "active" ||
        key.state == ascii "retiring" || key.state == ascii "revoked") &&
      decide (keyNotBefore < keyNotAfter) && decide (validFrom ≤ keyNotBefore) &&
      decide (keyNotAfter ≤ validUntil) && !seen.contains key.keyID &&
      !(decide (key.keyID ≤ previous) && previous != [])
  | _, _, _ => false

/-- The loop over the signing keys.

SOURCE: metadata.go:25-44 -/
def validSigningKeys (validFrom validUntil : Instant) :
    List Bytes → Bytes → List SigningKeyMetadataWire → Bool
  | _, _, [] => true
  | seen, previous, key :: rest =>
    validSigningKey validFrom validUntil seen previous key &&
      validSigningKeys validFrom validUntil (key.keyID :: seen) key.keyID rest

/-- SOURCE: metadata.go:16-46 -/
def validateRootMetadataV1 (value : RootMetadataWire) : Bool :=
  match parseProtocolTime value.validFrom, parseProtocolTime value.validUntil with
  | some validFrom, some validUntil =>
    value.schemaVersion == trustMetadataSchemaV1 && (parsePositiveUint value.version).isSome &&
      validKeyID value.rootKeyID && value.rootAlgorithm == signatureAlgorithm &&
      decide (validFrom < validUntil) &&
      decide (0 < value.signingKeys.length ∧ value.signingKeys.length ≤ maximumSigningKeys) &&
      validSigningKeys validFrom validUntil [] [] value.signingKeys
  | _, _ => false

def rootMetadataSchema : Schema :=
  .record (RootMetadataWire.fields.map fun field =>
    (field.name, if field.name = ascii "signing_keys" then
      .slice (flatSchema SigningKeyMetadataWire.fields) else .leaf))

/-- `verifyRootMetadataSignature`: the document and its version.

SOURCE: metadata.go:115-146 -/
def verifyRootMetadataSignature (P : Platform) (value : SignedMetadataWire)
    (trustedRoots : List (Bytes × Bytes)) : Except Error (RootMetadataWire × ℕ) := do
  require (2 ≤ value.payloadJCS.length ∧ value.payloadJCS.length ≤ maximumCanonicalPayloadBytes ∧
    (decodeExactBase64URL value.signature 64).isSome) .invalidMetadata
  let (canonical, payload) ← orThrow (canonicalizeJSON P value.payloadJCS rootMetadataSchema
    (decodeStruct RootMetadataWire.fields .zero)) .invalidMetadata
  require (canonical = value.payloadJCS ∧ validateRootMetadataV1 payload) .invalidMetadata
  let publicKey ← orThrow (trustedRoots.lookup payload.rootKeyID) .unknownRoot
  require (publicKey.length = 32 ∧ deriveKeyID rootKeyIDDomain publicKey = payload.rootKeyID)
    .unknownRoot
  let signature ← orThrow (Base64Url.decode value.signature) .invalidSignature
  require (P.ed25519Verify publicKey (metadataSignatureDomain ++ canonical) signature)
    .invalidSignature
  pure (payload, Decimal.value payload.version)

/-- SOURCE: metadata.go:93-113 -/
def verifyRootMetadataV1 (P : Platform) (value : SignedMetadataWire)
    (trustedRoots : List (Bytes × Bytes)) (highestTrusted : ℕ) (now : Time) :
    Except Error RootMetadataWire := do
  let (payload, version) ← verifyRootMetadataSignature P value trustedRoots
  require (highestTrusted < version) .metadataRollback
  let validFrom := (parseProtocolTime payload.validFrom).getD 0
  let validUntil := (parseProtocolTime payload.validUntil).getD 0
  require (now.instant ≠ 0 ∧ now.utc ∧ validFrom ≤ now.instant ∧ now.instant < validUntil)
    .invalidMetadata
  pure payload

/-- `selectSigningKey` for issuing: the public key of an active key that covers
the interval.

SOURCE: metadata.go:149-183 -/
def selectSigningKeyForIssue (payload : RootMetadataWire) (keyID : Bytes)
    (notBefore expiresAt : Time) : Except Error Bytes := do
  require (validateRootMetadataV1 payload ∧ validKeyID keyID ∧ notBefore.instant ≠ 0 ∧
    expiresAt.instant ≠ 0 ∧ notBefore.utc ∧ expiresAt.utc ∧
    notBefore.instant < expiresAt.instant) .keyUnavailable
  let key ← orThrow (payload.signingKeys.find? fun key => key.keyID = keyID) .keyUnavailable
  require (key.state = ascii "active") .keyUnavailable
  let keyNotBefore := (parseProtocolTime key.notBefore).getD 0
  let keyNotAfter := (parseProtocolTime key.notAfter).getD 0
  require (keyNotBefore ≤ notBefore.instant ∧ expiresAt.instant ≤ keyNotAfter) .keyUnavailable
  let publicKey ← orThrow (Base64Url.decode key.publicKey) .keyUnavailable
  require (publicKey.length = 32) .keyUnavailable
  pure publicKey

/-! ## Signing -/

/-- The error of a call to the signing provider. -/
def signerError : SignerError → Error
  | .closed => .closed
  | .timeout => .signerTimeout
  | .failure => .signerFailure
  | .invalidArgument => .invalidArgument

/-- SOURCE: validate.go:180-186 -/
def validOptionalBase64URL (value : Bytes) : Bool :=
  value == [] || (Base64Url.decodeCanonical value).isSome

/-- SOURCE: validate.go:102-110 -/
def validateSignedBundleV1 (value : SignedBundleWire) : Bool :=
  decide (2 ≤ value.payloadJCS.length ∧ value.payloadJCS.length ≤ maximumCanonicalPayloadBytes) &&
    (decodeExactBase64URL value.payloadSHA256 32).isSome && validKeyID value.signerKeyID &&
    value.algorithm == signatureAlgorithm && (decodeExactBase64URL value.signature 64).isSome &&
    decide (value.padding.length ≤ maximumPaddingEncodedBytes) && validOptionalBase64URL value.padding

/-! ## Reading a signed bundle -/

/-- Decoding into a `map[string]json.RawMessage`: the members of an object and
their texts. -/
def decodeRawMembers : Json.Tree Raw → Option (List (Bytes × Bytes))
  | .obj members => some (members.map fun m => (unquote m.1, print m.2))
  | .null => some []
  | _ => none

/-- SOURCE: validate.go:88-99 -/
def exactJSONMembers (body : Bytes) (maximumBytes : ℕ) (required : List Bytes) :
    Option (List (Bytes × Bytes)) := do
  let members ← strictDecode body maximumBytes .leaf decodeRawMembers
  guard (members.length = required.length)
  guard (∀ name ∈ required, name ∈ members.map Prod.fst)
  pure members

/-- SOURCE: validate.go:28-51 -/
def decodePayloadV1 (P : Platform) (body : Bytes) : Except Error PayloadV1 := do
  require (2 ≤ body.length ∧ body.length ≤ maximumCanonicalPayloadBytes ∧ validIJSON body)
    .invalidJSON
  let members ← orThrow (exactJSONMembers body maximumCanonicalPayloadBytes
    [ascii "schema_version", ascii "bundle_id", ascii "bundle_locator", ascii "bundle_version",
      ascii "audience", ascii "issued_at", ascii "not_before", ascii "expires_at",
      ascii "policy_snapshot", ascii "test_config"]) .invalidJSON
  let _ ← orThrow (exactJSONMembers ((members.lookup (ascii "test_config")).getD [])
    maximumCanonicalPayloadBytes [ascii "message", ascii "sequence"]) .invalidJSON
  let value ← orThrow (strictDecode body maximumCanonicalPayloadBytes PayloadV1.schema
    (decodeStruct PayloadV1.fields .zero)) .invalidJSON
  require (validatePayloadV1 P value) .invalidPayload
  pure value

/-- SOURCE: signer.go:382-412 -/
def verifySignedBundleV1 (P : Platform) (value : SignedBundleWire) (publicKey : Bytes) :
    Except Error PayloadV1 := do
  require (validateSignedBundleV1 value ∧ publicKey.length = 32) .invalidSignature
  let payload ← (decodePayloadV1 P value.payloadJCS).mapError fun _ => .invalidSignature
  let canonical ← orThrow (canonicalizePayloadV1 P payload) .invalidSignature
  require (canonical = value.payloadJCS) .invalidSignature
  require (value.payloadSHA256 = Base64Url.encode (Sha256.sha256 canonical) ∧
    value.signerKeyID = deriveKeyID configKeyIDDomain publicKey) .invalidSignature
  let signature ← orThrow (Base64Url.decode value.signature) .invalidSignature
  require (P.ed25519Verify publicKey (bundleSignatureDomain ++ canonical) signature)
    .invalidSignature
  pure payload

section Programs

variable (P : Platform)

/-- A program of the server. -/
abbrev Server (α : Type) : Type := ExceptT Error (Prog Op (Res P)) α

/-- SOURCE: signer.go:347-379 -/
def signBundleV1 (payload : PayloadV1) : Server P SignedBundleWire := do
  let canceled ← Prog.perform Op.contextError
  let keyID ← Prog.perform Op.signerKeyID
  Prog.ofExcept (require (canceled = false ∧ validKeyID keyID) .invalidArgument)
  let canonical ← Prog.ofExcept (orThrow (canonicalizePayloadV1 P payload) .invalidPayload)
  let answer ← Prog.perform (Op.sign (bundleSignatureDomain ++ canonical))
  let signature ← Prog.ofExcept (answer.mapError signerError)
  Prog.ofExcept (require (signature.length = 64) .invalidSignature)
  let signerKeyID ← Prog.perform Op.signerKeyID
  let value : SignedBundleWire :=
    { payloadJCS := canonical
      payloadSHA256 := Base64Url.encode (Sha256.sha256 canonical)
      signerKeyID := signerKeyID
      algorithm := signatureAlgorithm
      signature := Base64Url.encode signature
      padding := [] }
  Prog.ofExcept (require (validateSignedBundleV1 value) .invalidPayload)
  pure value

/-! ## Sealing -/

/-- SOURCE: types.go:75-82 -/
def signedBundleTree (value : SignedBundleWire) : Json.Tree Bytes :=
  .obj [(ascii "payload_jcs", .str value.payloadJCS),
    (ascii "payload_sha256", .str value.payloadSHA256),
    (ascii "signer_key_id", .str value.signerKeyID), (ascii "algorithm", .str value.algorithm),
    (ascii "signature", .str value.signature), (ascii "padding", .str value.padding)]

/-- SOURCE: envelope.go:92-100 -/
def outerHeaderTree (envelope : OuterEnvelopeWire) : Json.Tree Bytes :=
  .obj [(ascii "envelope_version", .str envelope.envelopeVersion),
    (ascii "kem", .str envelope.kem), (ascii "kdf", .str envelope.kdf),
    (ascii "aead", .str envelope.aead),
    (ascii "recipient_key_id", .str envelope.recipientKeyID),
    (ascii "bundle_locator", .str envelope.bundleLocator), (ascii "enc", .str envelope.enc)]

/-- SOURCE: envelope.go:81-90 -/
def outerEnvelopeTree (envelope : OuterEnvelopeWire) : Json.Tree Bytes :=
  .obj [(ascii "envelope_version", .str envelope.envelopeVersion),
    (ascii "kem", .str envelope.kem), (ascii "kdf", .str envelope.kdf),
    (ascii "aead", .str envelope.aead),
    (ascii "recipient_key_id", .str envelope.recipientKeyID),
    (ascii "bundle_locator", .str envelope.bundleLocator), (ascii "enc", .str envelope.enc),
    (ascii "ciphertext", .str envelope.ciphertext)]

/-- `selectPlaintextBucket`; a bucket of zero is no bucket.

SOURCE: envelope.go:214-221 -/
def selectPlaintextBucket (length : ℕ) : Option ℕ :=
  plaintextBuckets.find? fun bucket => length ≤ bucket

/-- The signed bundle in canonical form and the bucket it is padded to.

SOURCE: envelope.go:110-131 -/
def signedFrame (signed : SignedBundleWire) : Except Error (Bytes × ℕ) := do
  require (signed.padding = []) .invalidArgument
  require (validateSignedBundleV1 signed) .invalidPayload
  let signedBody := marshal ((signedBundleTree signed).map quote)
  require (signedBody.length ≤ maximumEnvelopePlaintext) .envelopeTooLarge
  let signedJCS ← orThrow (P.jcsTransform signedBody) .envelopeTooLarge
  require (2 ≤ signedJCS.length ∧ signedJCS.length + plaintextLengthBytes ≤ maximumEnvelopePlaintext)
    .envelopeTooLarge
  let bucket ← orThrow (selectPlaintextBucket (signedJCS.length + plaintextLengthBytes))
    .envelopeTooLarge
  pure (signedJCS, bucket)

/-- The envelope around a plaintext, with what HPKE encapsulated.

SOURCE: envelope.go:158-210 -/
def outerEnvelope (recipient locator : Octets 32) (enc : Bytes) (sender : P.Sender)
    (plaintext : Bytes) : Except Error (Bytes × Bytes) := do
  let selector := Sha256.sha256 (recipientSelectorDomain ++ recipient.1 ++ locator.1)
  let header : OuterEnvelopeWire :=
    { envelopeVersion := envelopeVersionV1
      kem := kemX25519HKDFSHA256
      kdf := kdfHKDFSHA256
      aead := aeadChaCha20Poly1305
      recipientKeyID := Base64Url.encode (selector.take 16)
      bundleLocator := Base64Url.encode locator.1
      enc := Base64Url.encode enc
      ciphertext := [] }
  let aad ← orThrow (canonicalTrustedJSON P (outerHeaderTree header)) .envelopeSeal
  let ciphertext ← orThrow (P.hpkeSeal sender aad plaintext) .envelopeSeal
  let envelope := { header with ciphertext := Base64Url.encode ciphertext }
  let result ← orThrow (canonicalTrustedJSON P (outerEnvelopeTree envelope)) .envelopeSeal
  require (result.length ≤ maximumEnvelopeBytes) .envelopeTooLarge
  pure (result, Sha256.sha256 result)

/-- `Seal`: the envelope and its digest.

SOURCE: envelope.go:104-210 -/
def sealBundle (recipient locator : Octets 32) (signed : SignedBundleWire) :
    Server P (Bytes × Bytes) := do
  let (signedJCS, bucket) ← Prog.ofExcept (signedFrame P signed)
  let framed := bigEndian 4 signedJCS.length ++ signedJCS
  let filling ← Prog.perform (Op.random (bucket - framed.length))
  let padding ← Prog.ofExcept (orThrow filling .randomSource)
  let encapsulated ← Prog.perform (Op.newSender recipient.1 envelopeInfo)
  let (enc, sender) ← Prog.ofExcept (orThrow encapsulated .envelopeSeal)
  Prog.ofExcept (outerEnvelope P recipient locator enc sender (framed ++ padding.1))

end Programs

end Talenro.Trust
