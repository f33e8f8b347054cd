import Talenro.Lib.Base64Url
import Talenro.Lib.Calendar
import Talenro.Lib.Json.Decode
import Talenro.Lib.Sha256

/-!
# What the two ends of the protocol share

The configuration server (`internal/trust`) and the client
(`internal/trustclient`) are written independently, against the same standard
library and the same encodings.  `Platform` collects the functions both take
from other projects; they are parameters of the model, and `Platform.Documented`
says what is assumed of them.  The rest of the file defines the textual checks
that both ends carry a copy of, word for word.

Sources named without a directory are in `internal/trust`.
-/

set_option autoImplicit false

namespace Talenro

open Lib Lib.Json Lib.Calendar

/-- A `uuid.UUID`. -/
abbrev UUID : Type := Octets 16

/-- `uuid.Nil`. -/
def UUID.zero : UUID := ⟨List.replicate 16 0, rfl⟩

/-- A `time.Time`: an instant and whether its location is UTC. -/
structure Time where
  instant : Instant
  utc : Bool

/-- The functions taken from libraries whose source is not part of the
repository.  A key exchanger whose curve is not X25519 has no X25519 public key;
the three steps of opening an HPKE message fail alike and are one function.  Times are
formatted and parsed with the layout `time.RFC3339Nano`. -/
structure Platform where
  PrivateKey : Type
  Sender : Type
  jcsTransform : Bytes → Option Bytes
  uuidParse : Bytes → Option UUID
  uuidString : UUID → Bytes
  ed25519Verify : Bytes → Bytes → Bytes → Bool
  x25519PublicKey : PrivateKey → Option Bytes
  hpkeNewSender : Bytes → Bytes → Bytes → Option (Bytes × Sender)
  hpkeSeal : Sender → Bytes → Bytes → Option Bytes
  hpkeOpen : PrivateKey → Bytes → Bytes → Bytes → Bytes → Option Bytes
  timeFormat : Instant → Bytes
  timeParse : Bytes → Option Instant

/-- The documented behaviour of the platform: canonicalisation follows RFC 8785,
a UUID is read back from its ASCII text of thirty-six characters, and HPKE opening inverts sealing for
the holder of the key, adding a tag of sixteen octets. -/
structure Platform.Documented (P : Platform) : Prop where
  jcs : Json.Rfc8785 P.jcsTransform
  uuid_parse_string : ∀ u, P.uuidParse (P.uuidString u) = some u
  uuid_string_ascii : ∀ u, ∀ c ∈ P.uuidString u, c < 0x80
  uuid_string_length : ∀ u, (P.uuidString u).length = 36
  hpke_enc_length : ∀ recipient info entropy enc sender,
    P.hpkeNewSender recipient info entropy = some (enc, sender) → enc.length = 32
  hpke_seal_length : ∀ sender aad plaintext ciphertext,
    P.hpkeSeal sender aad plaintext = some ciphertext → ciphertext.length = plaintext.length + 16
  hpke_open_seal : ∀ key recipient info entropy enc sender aad plaintext ciphertext,
    P.x25519PublicKey key = some recipient →
    P.hpkeNewSender recipient info entropy = some (enc, sender) →
    P.hpkeSeal sender aad plaintext = some ciphertext →
    P.hpkeOpen key enc info aad ciphertext = some plaintext

/-- The documented behaviour of `time.Format` and `time.Parse` with the layout
`time.RFC3339Nano`, in UTC: an instant between the zero `time.Time` and the end of the
year 9999 has a text of at most thirty ASCII characters and is read back from it. -/
structure Platform.Times (P : Platform) : Prop where
  format_ascii : ∀ t, 0 ≤ t → (dateOfDays (t / day)).year ≤ 9999 → ∀ c ∈ P.timeFormat t, c < 0x80
  format_length : ∀ t, 0 ≤ t → (dateOfDays (t / day)).year ≤ 9999 → (P.timeFormat t).length ≤ 30
  parse_format : ∀ t, 0 ≤ t → (dateOfDays (t / day)).year ≤ 9999 →
    P.timeParse (P.timeFormat t) = some t

/-! ## Identifiers -/

variable (value : Bytes)

/-- `validKeyID`.

SOURCE: validate.go:188-201, internal/trustclient/types.go:158-171 -/
def validKeyID : Bool :=
  decide (16 ≤ value.length ∧ value.length ≤ 64) && value.all fun c =>
    (0x41 ≤ c && c ≤ 0x5a) || (0x61 ≤ c && c ≤ 0x7a) || (0x30 ≤ c && c ≤ 0x39) ||
      c == 0x5f || c == 0x2d

/-- `deriveKeyID`.

SOURCE: signer.go:414-421, internal/trustclient/verify.go:532-539 -/
def deriveKeyID (domain publicKey : Bytes) : Bytes :=
  Base64Url.encode ((Sha256.sha256 (domain ++ publicKey)).take 16)

/-- `decodeExactBase64URL`; `exactBase64URL` of the server asks whether it has a
result.

SOURCE: internal/trustclient/verify.go:523-530, validate.go:175-178 -/
def decodeExactBase64URL (size : ℕ) : Option Bytes :=
  (Base64Url.decodeCanonical value).filter fun decoded => decoded.length = size

/-- `canonicalUUID`.

SOURCE: validate.go:170-173, internal/trustclient/verify.go:570-573 -/
def canonicalUUID (P : Platform) (value : Bytes) : Bool :=
  match P.uuidParse value with
  | some parsed => parsed ≠ UUID.zero && P.uuidString parsed == value
  | none => false

/-! ## Numbers and times -/

/-- `math.MaxInt64`. -/
def maxInt64 : ℕ := 2 ^ 63 - 1

/-- `unsignedIntegerString`.

SOURCE: validate.go:149-160, internal/trustclient/verify.go:549-560 -/
def unsignedIntegerString : Bool :=
  decide (0 < value.length ∧ value.length ≤ 20) &&
    !(decide (1 < value.length) && value.head? == some 0x30) &&
    value.all Decimal.isDigit && decide (Decimal.value value < 2 ^ 64)

/-- `parsePositiveUint`; `positiveIntegerString` of the server asks whether it
has a result.

SOURCE: internal/trustclient/verify.go:541-547, validate.go:141-147 -/
def parsePositiveUint : Option ℕ :=
  if unsignedIntegerString value ∧ value ≠ ascii "0" ∧ Decimal.value value ≤ maxInt64 then
    some (Decimal.value value)
  else none

/-- `parseProtocolTime`.

SOURCE: validate.go:162-168, internal/trustclient/verify.go:562-568 -/
def parseProtocolTime : Option Instant := Calendar.parse value

/-- Whether `strconv.ParseFloat` finds the number of a JSON spelling in range:
it does not round to an infinity. -/
def floatInRange (spelling : Bytes) : Bool :=
  let (mantissa, exponentPart) := spelling.span fun c => c ≠ 0x65 && c ≠ 0x45
  let digits := Decimal.value (mantissa.filter Decimal.isDigit)
  let fraction := (mantissa.dropWhile fun c => c ≠ 0x2e).length - 1
  let exponent : ℤ :=
    match exponentPart with
    | _ :: 0x2d :: ds => -(Decimal.value ds : ℤ)
    | _ :: 0x2b :: ds => Decimal.value ds
    | _ :: ds => Decimal.value ds
    | [] => 0
  let scale := exponent - fraction
  let limit := 2 ^ 1024 - 2 ^ 970
  if digits = 0 then true
  else if 0 ≤ scale then scale < 400 && digits * 10 ^ scale.toNat < limit
  else digits < limit * 10 ^ (-scale).toNat

/-! ## The records both ends declare

The server and the client declare these with the same fields and member names;
each is one type here. -/

/-- SOURCE: envelope.go:81-90, internal/trustclient/verify.go:54-63 -/
structure OuterEnvelopeWire where
  envelopeVersion : Bytes
  kem : Bytes
  kdf : Bytes
  aead : Bytes
  recipientKeyID : Bytes
  bundleLocator : Bytes
  enc : Bytes
  ciphertext : Bytes
deriving DecidableEq

/-- SOURCE: types.go:75-82, internal/trustclient/verify.go:75-82 -/
structure SignedBundleWire where
  payloadJCS : Bytes
  payloadSHA256 : Bytes
  signerKeyID : Bytes
  algorithm : Bytes
  signature : Bytes
  padding : Bytes
deriving DecidableEq

/-- SOURCE: types.go:69-72, internal/trustclient/verify.go:97-100 -/
structure TestConfigWire where
  message : Bytes
  sequence : Bytes
deriving DecidableEq

/-- SOURCE: types.go:107-110, internal/trustclient/verify.go:102-105 -/
structure SignedMetadataWire where
  payloadJCS : Bytes
  signature : Bytes
deriving DecidableEq

/-- SOURCE: types.go:85-92, internal/trustclient/verify.go:117-124 -/
structure SigningKeyMetadataWire where
  keyID : Bytes
  algorithm : Bytes
  publicKey : Bytes
  state : Bytes
  notBefore : Bytes
  notAfter : Bytes
deriving DecidableEq

/-- SOURCE: types.go:95-103, internal/trustclient/verify.go:107-115 -/
structure RootMetadataWire where
  schemaVersion : Bytes
  version : Bytes
  rootKeyID : Bytes
  rootAlgorithm : Bytes
  validFrom : Bytes
  validUntil : Bytes
  signingKeys : List SigningKeyMetadataWire
deriving DecidableEq

/-- SOURCE: validate.go:116-120, internal/trustclient/verify.go:461-465 -/
structure PolicyWire where
  mode : Bytes
  expiresAt : Bytes
  maxDevices : Bytes
deriving DecidableEq

def OuterEnvelopeWire.zero : OuterEnvelopeWire := ⟨[], [], [], [], [], [], [], []⟩
def SignedBundleWire.zero : SignedBundleWire := ⟨[], [], [], [], [], []⟩
def TestConfigWire.zero : TestConfigWire := ⟨[], []⟩
def SignedMetadataWire.zero : SignedMetadataWire := ⟨[], []⟩
def SigningKeyMetadataWire.zero : SigningKeyMetadataWire := ⟨[], [], [], [], [], []⟩
def RootMetadataWire.zero : RootMetadataWire := ⟨[], [], [], [], [], [], []⟩
def PolicyWire.zero : PolicyWire := ⟨[], [], []⟩

def OuterEnvelopeWire.fields : List (Json.Field OuterEnvelopeWire) :=
  [stringField (ascii "envelope_version") fun v r => { r with envelopeVersion := v },
   stringField (ascii "kem") fun v r => { r with kem := v },
   stringField (ascii "kdf") fun v r => { r with kdf := v },
   stringField (ascii "aead") fun v r => { r with aead := v },
   stringField (ascii "recipient_key_id") fun v r => { r with recipientKeyID := v },
   stringField (ascii "bundle_locator") fun v r => { r with bundleLocator := v },
   stringField (ascii "enc") fun v r => { r with enc := v },
   stringField (ascii "ciphertext") fun v r => { r with ciphertext := v }]

def SignedBundleWire.fields : List (Json.Field SignedBundleWire) :=
  [stringField (ascii "payload_jcs") fun v r => { r with payloadJCS := v },
   stringField (ascii "payload_sha256") fun v r => { r with payloadSHA256 := v },
   stringField (ascii "signer_key_id") fun v r => { r with signerKeyID := v },
   stringField (ascii "algorithm") fun v r => { r with algorithm := v },
   stringField (ascii "signature") fun v r => { r with signature := v },
   stringField (ascii "padding") fun v r => { r with padding := v }]

def TestConfigWire.fields : List (Json.Field TestConfigWire) :=
  [stringField (ascii "message") fun v r => { r with message := v },
   stringField (ascii "sequence") fun v r => { r with sequence := v }]

def SignedMetadataWire.fields : List (Json.Field SignedMetadataWire) :=
  [stringField (ascii "payload_jcs") fun v r => { r with payloadJCS := v },
   stringField (ascii "signature") fun v r => { r with signature := v }]

def SigningKeyMetadataWire.fields : List (Json.Field SigningKeyMetadataWire) :=
  [stringField (ascii "key_id") fun v r => { r with keyID := v },
   stringField (ascii "algorithm") fun v r => { r with algorithm := v },
   stringField (ascii "public_key") fun v r => { r with publicKey := v },
   stringField (ascii "state") fun v r => { r with state := v },
   stringField (ascii "not_before") fun v r => { r with notBefore := v },
   stringField (ascii "not_after") fun v r => { r with notAfter := v }]

def RootMetadataWire.fields : List (Json.Field RootMetadataWire) :=
  [stringField (ascii "schema_version") fun v r => { r with schemaVersion := v },
   stringField (ascii "version") fun v r => { r with version := v },
   stringField (ascii "root_key_id") fun v r => { r with rootKeyID := v },
   stringField (ascii "root_algorithm") fun v r => { r with rootAlgorithm := v },
   stringField (ascii "valid_from") fun v r => { r with validFrom := v },
   stringField (ascii "valid_until") fun v r => { r with validUntil := v },
   listField (ascii "signing_keys")
     (decodeStruct SigningKeyMetadataWire.fields SigningKeyMetadataWire.zero)
     fun v r => { r with signingKeys := v }]

def PolicyWire.fields : List (Json.Field PolicyWire) :=
  [stringField (ascii "mode") fun v r => { r with mode := v },
   rawField (ascii "expires_at") fun v r => { r with expiresAt := v },
   rawField (ascii "max_devices") fun v r => { r with maxDevices := v }]

end Talenro
