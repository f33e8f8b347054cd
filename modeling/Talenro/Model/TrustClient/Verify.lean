import Talenro.Lib.Checks
import Talenro.Lib.Prog
import Talenro.Model.TrustClient.StrictJson

/-!
# Verification of configuration envelopes

`VerifyAndStage` authenticates an envelope in a fixed order: the outer envelope
and its decryption (`openEnvelope`), the signed bundle, the trust metadata and
the bundle signature (`verifySigned`), the payload against the client's
expectations, and only then the store.  The functions up to the store are pure
chains of checks; the store is a parameter, a record of three programs over
whatever operations it needs.

Sources named without a directory are in `internal/trustclient`.
-/

set_option autoImplicit false

namespace Talenro.TrustClient

open Lib Lib.Json Lib.Calendar

/-- SOURCE: types.go:24-48 -/
inductive Error where
  | invalidArgument
  | envelope
  | recipient
  | metadata
  | metadataRollback
  | signature
  | payload
  | rollback
  | store
  | stateNotFound
deriving DecidableEq, Repr

/-! ## Constants

SOURCE: verify.go:26-52, types.go:18-22 -/

def envelopeVersion : Bytes := ascii "talenro-config-envelope/v1"
def kemName : Bytes := ascii "DHKEM-X25519-HKDF-SHA256"
def kdfName : Bytes := ascii "HKDF-SHA256"
def aeadName : Bytes := ascii "CHACHA20-POLY1305"
def hpkeInfo : Bytes := ascii "talenro-config-bundle/v1"
def bundleSchema : Bytes := ascii "talenro-config-bundle/v1"
def metadataSchema : Bytes := ascii "talenro-trust-metadata/v1"
def signatureAlgorithm : Bytes := ascii "Ed25519"
def recipientSelectorDomain : Bytes := ascii "TALENRO-RECIPIENT-SELECTOR-V1\x00"
def bundleSignatureDomain : Bytes := ascii "TALENRO-CONFIG-BUNDLE-SIGNATURE-V1\x00"
def metadataSignatureDomain : Bytes := ascii "TALENRO-TRUST-METADATA-V1\x00"
def configKeyIDDomain : Bytes := ascii "TALENRO-CONFIG-SIGNING-KEY-ID-V1\x00"
def rootKeyIDDomain : Bytes := ascii "TALENRO-ROOT-SIGNING-KEY-ID-V1\x00"
def maximumEnvelopeBytes : ℕ := 2 ^ 20
def maximumPlaintextBytes : ℕ := 64 * 1024
def maximumPolicyBytes : ℕ := 4 * 1024
def maximumMessageBytes : ℕ := 256
def maximumMetadataBytes : ℕ := 64 * 1024
def maximumTrustedRoots : ℕ := 64
def fixedBundleLifetime : ℤ := 24 * hour
def fixedTrialGrace : ℤ := 24 * hour
def minimumClockSkew : ℤ := 30 * second
def maximumClockSkew : ℤ := 5 * minute
def plaintextLengthPrefix : ℕ := 4
def chacha20Poly1305TagBytes : ℕ := 16
def plaintextBucketSizes : List ℕ := [4096, 8192, 16384, 32768, 65536]

/-! ## The client's inputs -/

/-- SOURCE: types.go:57-61 -/
structure TrustMetadata where
  signed : Bytes
  trustedRoots : List (Bytes × Bytes)
  highestTrusted : ℕ

/-- SOURCE: types.go:64-76 -/
def newTrustMetadata (signed : Bytes) (trustedRoots : List (Bytes × Bytes)) (highestTrusted : ℕ) :
    Except Error TrustMetadata := do
  require (2 ≤ signed.length ∧ signed.length ≤ maximumMetadataBytes ∧ trustedRoots ≠ [] ∧
    trustedRoots.length ≤ maximumTrustedRoots) .invalidArgument
  require (∀ root ∈ trustedRoots, validKeyID root.1 ∧ root.2.length = 32) .invalidArgument
  pure ⟨signed, trustedRoots, highestTrusted⟩

/-- SOURCE: types.go:95-98 -/
structure Expected where
  audience : Bytes
  locator : Octets 32

variable (P : Platform)

/-- SOURCE: types.go:101-107 -/
def newExpected (audience : Bytes) (locator : Octets 32) : Except Error Expected := do
  require (canonicalUUID P audience) .invalidArgument
  pure ⟨audience, locator⟩

/-- SOURCE: types.go:127-131 -/
structure VerifiedBundle where
  version : ℕ
  payloadJCS : Bytes
  envelopeDigest : Bytes
deriving DecidableEq

/-! ## The outer envelope -/

/-- SOURCE: verify.go:508-521 -/
def decodeCiphertext (value : Bytes) : Option Bytes :=
  (Base64Url.decodeCanonical value).filter fun decoded =>
    plaintextBucketSizes.any fun bucket => decoded.length = bucket + chacha20Poly1305TagBytes

/-- SOURCE: verify.go:490-506 -/
def removeValidatedPadding (plaintext : Bytes) : Option Bytes := do
  guard (plaintext.length ∈ plaintextBucketSizes ∧ plaintextLengthPrefix ≤ plaintext.length)
  let length := ofBigEndian (plaintext.take plaintextLengthPrefix)
  guard (2 ≤ length ∧ length ≤ maximumPlaintextBytes ∧
    length ≤ plaintext.length - plaintextLengthPrefix)
  pure ((plaintext.drop plaintextLengthPrefix).take length)

/-- The header a bundle is authenticated with: the envelope without its
ciphertext.

SOURCE: verify.go:65-73, 193-196 -/
def outerHeaderTree (envelope : OuterEnvelopeWire) : Json.Tree Bytes :=
  .obj [(ascii "envelope_version", .str envelope.envelopeVersion),
    (ascii "kem", .str envelope.kem), (ascii "kdf", .str envelope.kdf),
    (ascii "aead", .str envelope.aead),
    (ascii "recipient_key_id", .str envelope.recipientKeyID),
    (ascii "bundle_locator", .str envelope.bundleLocator), (ascii "enc", .str envelope.enc)]

/-- The recipient selector of a public key and a locator.

SOURCE: verify.go:182-188 -/
def recipientSelector (publicKey locator : Bytes) : Bytes :=
  Base64Url.encode
    ((Sha256.sha256 (recipientSelectorDomain ++ publicKey ++ locator)).take 16)

/-- The part of `VerifyAndStage` that ends with the signed bundle in clear.

SOURCE: verify.go:148-239 -/
def openEnvelope (envelopeBytes : Bytes) (privateKey : P.PrivateKey)
    (expected : Expected) : Except Error Bytes := do
  let (_, envelope) ← orThrow (decodeStrictObject envelopeBytes maximumEnvelopeBytes
    OuterEnvelopeWire.fields .zero (memberNames OuterEnvelopeWire.fields)) .envelope
  require (P.jcsTransform envelopeBytes = some envelopeBytes) .envelope
  require (envelope.envelopeVersion = envelopeVersion ∧ envelope.kem = kemName ∧
    envelope.kdf = kdfName ∧ envelope.aead = aeadName) .envelope
  let enc ← orThrow (decodeExactBase64URL envelope.enc 32) .envelope
  let ciphertext ← orThrow (decodeCiphertext envelope.ciphertext) .envelope
  let locator ← orThrow (decodeExactBase64URL envelope.bundleLocator 32) .envelope
  require (locator = expected.locator.1) .envelope
  let publicKey ← orThrow (P.x25519PublicKey privateKey) .recipient
  require (publicKey.length = 32) .recipient
  require (envelope.recipientKeyID = recipientSelector publicKey expected.locator.1) .envelope
  let aad ← orThrow (P.jcsTransform (marshal ((outerHeaderTree envelope).map quote))) .envelope
  let plaintext ← orThrow (P.hpkeOpen privateKey enc hpkeInfo aad ciphertext) .recipient
  orThrow (removeValidatedPadding plaintext) .envelope

/-! ## The trust metadata -/

/-- One signing key of a metadata document, against the window of the document
and the identifiers before it.

SOURCE: verify.go:396-411 -/
def validMetadataKey (validFrom validUntil : Instant) (seen : List Bytes) (previous : Bytes)
    (key : SigningKeyMetadataWire) : Bool :=
  match parseProtocolTime key.notBefore, parseProtocolTime key.notAfter,
      decodeExactBase64URL key.publicKey 32 with
  | some keyNotBefore, some keyNotAfter, some publicKey =>
    validKeyID key.keyID && key.algorithm == signatureAlgorithm &&
      deriveKeyID configKeyIDDomain publicKey == key.keyID &&
      (key.state == ascii "future" || key.state == ascii "active" ||
        key.state == ascii "retiring" || key.state == ascii "revoked") &&
      decide (keyNotBefore < keyNotAfter) && decide (validFrom ≤ keyNotBefore) &&
      decide (keyNotAfter ≤ validUntil) && !seen.contains key.keyID &&
      (previous == [] || decide (previous < key.keyID))
  | _, _, _ => false

/-- The loop over the signing keys.

SOURCE: verify.go:394-413 -/
def validMetadataKeys (validFrom validUntil : Instant) :
    List Bytes → Bytes → List SigningKeyMetadataWire → Bool
  | _, _, [] => true
  | seen, previous, key :: rest =>
    validMetadataKey validFrom validUntil seen previous key &&
      validMetadataKeys validFrom validUntil (key.keyID :: seen) key.keyID rest

/-- SOURCE: verify.go:385-414 -/
def validateMetadataPayload (payload : RootMetadataWire) (now : Instant) : Option ℕ := do
  let version ← parsePositiveUint payload.version
  let validFrom ← parseProtocolTime payload.validFrom
  let validUntil ← parseProtocolTime payload.validUntil
  guard (payload.schemaVersion = metadataSchema ∧ payload.rootAlgorithm = signatureAlgorithm ∧
    validKeyID payload.rootKeyID ∧ validFrom < validUntil ∧ validFrom ≤ now ∧ now < validUntil ∧
    payload.signingKeys ≠ [] ∧ payload.signingKeys.length ≤ maximumTrustedRoots)
  guard (validMetadataKeys validFrom validUntil [] [] payload.signingKeys)
  pure version

/-- `verifyTrustMetadata`: the metadata and the public key of the signer.

SOURCE: verify.go:325-383 -/
def verifyTrustMetadata (metadata : TrustMetadata) (signerKeyID : Bytes)
    (now : Instant) : Except Error (RootMetadataWire × Bytes) := do
  let (_, signed) ← orThrow (decodeStrictObject metadata.signed maximumMetadataBytes
    SignedMetadataWire.fields .zero (memberNames SignedMetadataWire.fields)) .metadata
  require (2 ≤ signed.payloadJCS.length ∧ signed.payloadJCS.length ≤ maximumMetadataBytes) .metadata
  let (_, payload) ← orThrow (decodeStrictObject signed.payloadJCS maximumMetadataBytes
    RootMetadataWire.fields .zero (memberNames RootMetadataWire.fields)) .metadata
  require (P.jcsTransform signed.payloadJCS = some signed.payloadJCS) .metadata
  let version ← orThrow (validateMetadataPayload payload now) .metadata
  let rootPublicKey ← orThrow (metadata.trustedRoots.lookup payload.rootKeyID) .metadata
  require (rootPublicKey.length = 32 ∧
    deriveKeyID rootKeyIDDomain rootPublicKey = payload.rootKeyID) .metadata
  let rootSignature ← orThrow (decodeExactBase64URL signed.signature 64) .metadata
  require (P.ed25519Verify rootPublicKey (metadataSignatureDomain ++ signed.payloadJCS)
    rootSignature) .metadata
  require (metadata.highestTrusted < version) .metadataRollback
  let key ← orThrow (payload.signingKeys.find? fun key => key.keyID = signerKeyID) .signature
  let publicKey ← orThrow (decodeExactBase64URL key.publicKey 32) .signature
  require (deriveKeyID configKeyIDDomain publicKey = key.keyID ∧
    key.algorithm = signatureAlgorithm ∧
    (key.state = ascii "active" ∨ key.state = ascii "retiring")) .signature
  pure (payload, publicKey)

/-- SOURCE: verify.go:438-448 -/
def metadataKeyAuthorizes (metadata : RootMetadataWire) (keyID : Bytes)
    (notBefore expiresAt : Instant) : Bool :=
  let usable := metadata.signingKeys.find? fun key =>
    key.keyID = keyID ∧ (key.state = ascii "active" ∨ key.state = ascii "retiring")
  match usable with
  | none => false
  | some key =>
    match parseProtocolTime key.notBefore, parseProtocolTime key.notAfter with
    | some keyNotBefore, some keyNotAfter =>
      decide (keyNotBefore ≤ notBefore) && decide (expiresAt ≤ keyNotAfter)
    | _, _ => false

/-! ## The payload -/

/-- SOURCE: verify.go:450-455 -/
def validSignedBundle (value : SignedBundleWire) : Bool :=
  decide (2 ≤ value.payloadJCS.length ∧ value.payloadJCS.length ≤ maximumPlaintextBytes) &&
    (decodeExactBase64URL value.payloadSHA256 32).isSome && validKeyID value.signerKeyID &&
    value.algorithm == signatureAlgorithm && (decodeExactBase64URL value.signature 64).isSome &&
    value.padding == []

/-- SOURCE: verify.go:457-488 -/
def validPolicy (body : Bytes) (issuedAt bundleExpiresAt now : Instant) : Bool :=
  if ¬(2 ≤ body.length ∧ body.length ≤ maximumPolicyBytes) then false
  else
    match decodeStrictObject body maximumPolicyBytes PolicyWire.fields .zero [] with
    | none => false
    | some (keys, policy) =>
      if policy.mode = ascii "standard" then
        decide (keys.length = 1) && keys.contains (ascii "mode")
      else if policy.mode ≠ ascii "trial_restricted" ∨ keys.length ≠ 3 ∨ ascii "mode" ∉ keys ∨
          ascii "expires_at" ∉ keys ∨ ascii "max_devices" ∉ keys then false
      else
        match decodeStrictValue policy.expiresAt maximumPolicyBytes,
            decodeStrictValue policy.maxDevices maximumPolicyBytes with
        | some expiresAt, some maxDevices =>
          match parseProtocolTime expiresAt with
          | some policyExpiresAt =>
            maxDevices == ascii "1" && decide (issuedAt < policyExpiresAt) &&
              decide (policyExpiresAt ≤ issuedAt + fixedTrialGrace) &&
              decide (policyExpiresAt ≤ bundleExpiresAt) && decide (now < policyExpiresAt)
          | none => false
        | _, _ => false

/-- `validatePayload`: the bundle version and the interval of the bundle.

SOURCE: verify.go:416-436 -/
def validatePayload (payload : PayloadWire) (expected : Expected) (now : Instant)
    (skew : ℤ) : Option (ℕ × Instant × Instant) := do
  let version ← parsePositiveUint payload.bundleVersion
  let issuedAt ← parseProtocolTime payload.issuedAt
  let notBefore ← parseProtocolTime payload.notBefore
  let expiresAt ← parseProtocolTime payload.expiresAt
  let locator ← decodeExactBase64URL payload.bundleLocator 32
  let (_, testConfig) ← decodeStrictObject payload.testConfig maximumPlaintextBytes
    TestConfigWire.fields .zero (memberNames TestConfigWire.fields)
  guard (payload.schemaVersion = bundleSchema ∧ canonicalUUID P payload.bundleID ∧
    canonicalUUID P payload.audience ∧ payload.audience = expected.audience ∧
    locator = expected.locator.1)
  guard (issuedAt ≤ notBefore ∧ notBefore < expiresAt ∧ issuedAt ≤ now + skew ∧
    notBefore ≤ now + skew ∧ now - skew < expiresAt)
  guard (testConfig.message.length ≤ maximumMessageBytes ∧ Utf8.valid testConfig.message ∧
    expiresAt - notBefore = fixedBundleLifetime ∧ unsignedIntegerString testConfig.sequence ∧
    validPolicy payload.policySnapshot issuedAt expiresAt now)
  pure (version, notBefore, expiresAt)

/-- The part of `VerifyAndStage` from the signed bundle to the checked payload:
the bundle version and the canonical payload.

SOURCE: verify.go:241-299 -/
def verifySigned (signedBytes : Bytes) (metadata : TrustMetadata)
    (expected : Expected) (now : Instant) (skew : ℤ) : Except Error (ℕ × Bytes) := do
  let (_, signed) ← orThrow (decodeStrictObject signedBytes maximumPlaintextBytes
    SignedBundleWire.fields .zero (memberNames SignedBundleWire.fields)) .signature
  require (validSignedBundle signed) .signature
  require (P.jcsTransform signedBytes = some signedBytes) .signature
  let (_, payload) ← orThrow (decodeStrictObject signed.payloadJCS maximumPlaintextBytes
    PayloadWire.fields .zero (memberNames PayloadWire.fields)) .payload
  require (P.jcsTransform signed.payloadJCS = some signed.payloadJCS) .payload
  require (signed.payloadSHA256 = Base64Url.encode (Sha256.sha256 signed.payloadJCS)) .signature
  let (rootMetadata, signingPublicKey) ← verifyTrustMetadata P metadata signed.signerKeyID now
  let signature ← orThrow (decodeExactBase64URL signed.signature 64) .signature
  require (P.ed25519Verify signingPublicKey (bundleSignatureDomain ++ signed.payloadJCS)
    signature) .signature
  let (version, notBefore, expiresAt) ← orThrow (validatePayload P payload expected now skew)
    .payload
  require (metadataKeyAuthorizes rootMetadata signed.signerKeyID notBefore expiresAt) .signature
  pure (version, signed.payloadJCS)

/-! ## The store and the whole verification -/

/-- The durable store of the client, over the operations of `Op`.

SOURCE: types.go:49-53 -/
structure Store (Op : Type) (Res : Op → Type) where
  loadHighest : Bytes → ExceptT Error (Prog Op Res) ℕ
  stageAndAdvance : Bytes → ℕ → Bytes → ExceptT Error (Prog Op Res) Unit
  activate : Bytes → ℕ → ExceptT Error (Prog Op Res) Unit

/-- What the caller of `VerifyAndStage` supplies besides the store. -/
structure Request (P : Platform) where
  envelopeBytes : Bytes
  privateKey : P.PrivateKey
  metadata : TrustMetadata
  expected : Expected
  now : Time
  clockSkew : ℤ

/-- The argument checks, but for the context.

SOURCE: verify.go:141-146 -/
def Request.valid {P : Platform} (request : Request P) : Bool :=
  decide (2 ≤ request.metadata.signed.length ∧
      request.metadata.signed.length ≤ maximumMetadataBytes) &&
    !request.metadata.trustedRoots.isEmpty && request.expected.audience != [] &&
    request.now.instant != 0 && request.now.utc &&
    decide (minimumClockSkew ≤ request.clockSkew ∧ request.clockSkew ≤ maximumClockSkew)

/-- All checks before the store is consulted. -/
def Request.verify {P : Platform} (request : Request P) : Except Error (ℕ × Bytes) := do
  let signedBytes ← openEnvelope P request.envelopeBytes request.privateKey request.expected
  verifySigned P signedBytes request.metadata request.expected request.now.instant
    request.clockSkew

section Program

variable {Op : Type} {Res : Op → Type}

/-- An error of the store as `VerifyAndStage` reports it. -/
def storeError : Error → Error
  | .rollback => .rollback
  | _ => .store

/-- `VerifyAndStage`.  `cancelled` is the program that asks the context for its
error.

SOURCE: verify.go:128-323 -/
def verifyAndStage {P : Platform} (cancelled : Prog Op Res Bool) (store : Store Op Res)
    (request : Request P) : ExceptT Error (Prog Op Res) VerifiedBundle := do
  Prog.ofExcept (require (2 ≤ request.envelopeBytes.length ∧
    request.envelopeBytes.length ≤ maximumEnvelopeBytes) .envelope)
  let canceled ← ExceptT.lift cancelled
  Prog.ofExcept (require (canceled = false ∧ request.valid) .invalidArgument)
  let (version, canonicalPayload) ← Prog.ofExcept request.verify
  let highest ← Prog.mapError (fun _ => .store) (store.loadHighest request.expected.audience)
  Prog.ofExcept (require (highest < version) .rollback)
  Prog.mapError storeError
    (store.stageAndAdvance request.expected.audience version canonicalPayload)
  Prog.mapError storeError (store.activate request.expected.audience version)
  pure ⟨version, canonicalPayload, Sha256.sha256 request.envelopeBytes⟩

end Program

end Talenro.TrustClient
