import Talenro.Model.Authority.Records
import Talenro.Model.Trust.StrictJson

/-!
# Artifacts of an effect

What a fenced operation is going to do, and on which authority it ended, is written down in
artifacts: the commitment to an effect, a snapshot of the provider's head and the anchor of a
checkpoint.  An artifact is a record of strings.  It is stored as its canonical JSON, of at most
4096 octets, and named by the digest of a domain and this text; parsing builds the value again and
accepts only the text that building gives.

Wherever parsing fails it fails alike, so the parsers answer with an option.

Sources named without a directory are in `internal/nodecontrol/authority`.
-/

set_option autoImplicit false

namespace Talenro.Authority

open Lib Lib.Json Lib.Calendar

/-- The library functions that artifacts need beside those of records. -/
structure ArtifactPlatform extends Platform where
  uuidParse : Bytes → Option UUID
  timeFormat : Instant → Bytes
  timeParse : Bytes → Option Instant

/-- What the libraries are documented to do: canonical JSON is that of RFC 8785, the text of a UUID
is ASCII and parses to the UUID, and digests are those of SHA-256. -/
structure ArtifactPlatform.Documented (P : ArtifactPlatform) : Prop where
  jcs : Rfc8785 P.jcsTransform
  uuid_parse : ∀ u, P.uuidParse (P.uuidString u) = some u
  uuid_ascii : ∀ u, ∀ c ∈ P.uuidString u, c < 0x80
  sha256 : ∀ m, (P.sha256 m).1 = Sha256.sha256 m

/-! ## Records of strings -/

/-- A record whose fields are all strings, by the names of its members. -/
abbrev StringRecord : Type := Bytes → Bytes

/-- The fields of a record of strings. -/
def stringFields (names : List Bytes) : List (Json.Field StringRecord) :=
  names.map fun name => stringField name fun value record => Function.update record name value

/-- The members of a record of strings. -/
def stringMembers (names : List Bytes) (record : StringRecord) : List (Bytes × Bytes) :=
  names.map fun name => (name, record name)

/-- An object of strings. -/
def stringObject (members : List (Bytes × Bytes)) : Json.Tree Bytes :=
  .obj (members.map fun member => (member.1, .str member.2))

/-- SOURCE: commitment.go:18-19 -/
def authorityCanonicalMaximumBytes : ℕ := 4096

variable (P : Platform)

/-- The canonical text of a record and its digest.

SOURCE: commitment.go:457-472 -/
def canonicalAuthorityArtifact (domain : Bytes) (wire : List (Bytes × Bytes)) :
    Option (Bytes × Digest) := do
  let canonical ← P.jcsTransform (marshal ((stringObject wire).map quote))
  guard (1 ≤ canonical.length ∧ canonical.length ≤ authorityCanonicalMaximumBytes)
  pure (canonical, P.sha256 (domain ++ canonical))

/-- SOURCE: commitment.go:474-490 -/
def decodeCanonicalAuthorityArtifact (names : List Bytes) (body : Bytes) :
    Option StringRecord := do
  guard (1 ≤ body.length ∧ body.length ≤ authorityCanonicalMaximumBytes)
  let wire ← Trust.strictDecode body authorityCanonicalMaximumBytes
    (.record (names.map fun name => (name, .leaf)))
    (decodeStruct (stringFields names) fun _ => [])
  let canonical ← P.jcsTransform (marshal ((stringObject (stringMembers names wire)).map quote))
  guard (canonical = body)
  pure wire

/-- A value with its canonical text and the digest of it. -/
structure Artifact (α : Type) where
  facts : α
  canonical : Bytes
  digest : Digest
deriving DecidableEq

/-! ## Texts -/

/-- SOURCE: commitment.go:492 -/
def digestString (value : Digest) : Bytes := Hex.encode value.1

/-- A text of the digits of `hex.EncodeToString`, of the length of a digest.

SOURCE: commitment.go:494-508 -/
def parseDigestString (text : Bytes) (allowAbsent : Bool) : Option Digest := do
  guard (text.length = 64 ∧ text.all (fun c => !(0x41 ≤ c && c ≤ 0x5a)))
  let decoded ← Hex.decode text
  if h : decoded.length = 32 then
    let value : Digest := ⟨decoded, h⟩
    guard (value ≠ Digest.zero ∨ allowAbsent)
    pure value
  else none

/-- SOURCE: commitment.go:510-516 -/
def parsePositiveDecimal (text : Bytes) (maximum : ℕ) : Option ℕ := do
  guard (text ≠ [] ∧ ¬(1 < text.length ∧ text.head? = some 0x30))
  guard (text.all Decimal.isDigit ∧ Decimal.value text < 2 ^ 64)
  let value := Decimal.value text
  guard (0 < value ∧ value ≤ maximum ∧ Decimal.format value = text)
  pure value

/-- SOURCE: commitment.go:518-521 -/
def parseCanonicalUUID (P : ArtifactPlatform) (text : Bytes) : Option UUID := do
  let value ← P.uuidParse text
  guard (validOperationID value ∧ P.uuidString value = text)
  pure value

/-- The value of an enumeration with this text. -/
def ofText {α : Type} (all : List α) (print : α → Bytes) (text : Bytes) : Option α :=
  all.find? fun value => print value = text

def EffectKind.all : List EffectKind :=
  [trustBundlePublish, rootPublish, metadataPublish, grantCreate, grantClaim, certificateActivate,
   certificateRevoke, identityEpochAdvance, securityIncidentOpen, securityIncidentResolve,
   resourceEnvelopeActivate, desiredActivate, recoveryActivate, operatorTransition,
   operatorAuthorizerChange]

def ScopeKind.all : List ScopeKind := [node, globalNodeTrust, globalOperatorTrust]

/-! ## Commitments -/

/-- SOURCE: commitment.go:35-40 -/
inductive CommitmentMode where
  | conditionalApply
  | finalNotApplied
deriving DecidableEq

/-- SOURCE: commitment.go:38-39 -/
def CommitmentMode.text : CommitmentMode → Bytes
  | conditionalApply => ascii "conditional_apply"
  | finalNotApplied => ascii "final_not_applied"

def CommitmentMode.all : List CommitmentMode := [conditionalApply, finalNotApplied]

/-- SOURCE: commitment.go:42-50 -/
inductive AuthorityEffectReason where
  | none
  | failed
  | superseded
  | activationDeadlineExpired
  | validationRejected
deriving DecidableEq

/-- SOURCE: commitment.go:45-49 -/
def AuthorityEffectReason.text : AuthorityEffectReason → Bytes
  | none => ascii "none"
  | failed => ascii "failed"
  | superseded => ascii "superseded"
  | activationDeadlineExpired => ascii "activation_deadline_expired"
  | validationRejected => ascii "validation_rejected"

def AuthorityEffectReason.all : List AuthorityEffectReason :=
  [none, failed, superseded, activationDeadlineExpired, validationRejected]

/-- SOURCE: commitment.go:66-73 -/
def AuthorityEffectReason.finalReason (value : AuthorityEffectReason) : Bool := value != none

/-- SOURCE: commitment.go:26, 29-30 -/
def authorityEffectActivationInputsEmpty : Digest :=
  P.sha256 (ascii "talenro.nodecontrol.authority-effect-activation-inputs.empty.v1\x00")

/-- SOURCE: commitment.go:23 -/
def authorityEffectCommitmentDomain : Bytes :=
  ascii "talenro.nodecontrol.authority-effect-commitment.v1\x00"

/-- The input of a commitment and its facts have the same fields.

SOURCE: commitment.go:75-101 -/
structure AuthorityEffectCommitmentFacts where
  operationID : UUID
  kind : EffectKind
  scopeKind : ScopeKind
  scopeDigest : Digest
  epoch : ℕ
  sequence : ℕ
  baseEffectDigest : Digest
  mode : CommitmentMode
  reason : AuthorityEffectReason
  activationPolicyVersion : ℕ
  activationInputsDigest : Digest
deriving DecidableEq

/-- SOURCE: commitment.go:103-107 -/
abbrev AuthorityEffectCommitment : Type := Artifact AuthorityEffectCommitmentFacts

/-- The facts with the wire record's text of the policy.

SOURCE: commitment.go:109-122, 148-154 -/
def authorityEffectCommitmentV1 (facts : AuthorityEffectCommitmentFacts)
    (policy : Bytes) : List (Bytes × Bytes) :=
  [(ascii "activation_inputs_digest", digestString facts.activationInputsDigest),
   (ascii "activation_policy_version", policy),
   (ascii "authority_epoch", Decimal.format facts.epoch),
   (ascii "authority_sequence", Decimal.format facts.sequence),
   (ascii "base_effect_digest", digestString facts.baseEffectDigest),
   (ascii "commitment_mode", facts.mode.text),
   (ascii "effect_kind", facts.kind.text),
   (ascii "operation_id", P.uuidString facts.operationID),
   (ascii "reason_code", facts.reason.text),
   (ascii "schema_version", ascii "1"),
   (ascii "scope_digest", digestString facts.scopeDigest),
   (ascii "scope_kind", facts.scopeKind.text)]

/-- SOURCE: commitment.go:109-122 -/
def authorityEffectCommitmentNames : List Bytes :=
  [ascii "activation_inputs_digest", ascii "activation_policy_version", ascii "authority_epoch",
   ascii "authority_sequence", ascii "base_effect_digest", ascii "commitment_mode",
   ascii "effect_kind", ascii "operation_id", ascii "reason_code", ascii "schema_version",
   ascii "scope_digest", ascii "scope_kind"]

/-- The digest of the activation inputs and the text of the policy that a mode asks for.

SOURCE: commitment.go:132-147 -/
def commitmentPolicy (input : AuthorityEffectCommitmentFacts) :
    Option (Digest × Bytes) :=
  match input.mode with
  | .conditionalApply => do
    guard (input.reason = .none ∧ validPositiveCoordinate input.activationPolicyVersion ∧
      input.activationInputsDigest ≠ Digest.zero ∧
      input.activationInputsDigest ≠ authorityEffectActivationInputsEmpty P)
    pure (input.activationInputsDigest, Decimal.format input.activationPolicyVersion)
  | .finalNotApplied => do
    guard (input.reason.finalReason ∧ input.activationPolicyVersion = 0 ∧
      input.activationInputsDigest = Digest.zero)
    pure (authorityEffectActivationInputsEmpty P, ascii "none")

/-- SOURCE: commitment.go:124-167 -/
def newAuthorityEffectCommitment (input : AuthorityEffectCommitmentFacts) :
    Option AuthorityEffectCommitment := do
  guard (validOperationID input.operationID ∧ input.kind ≠ .trustBundlePublish ∧
    input.kind ≠ .operatorAuthorizerChange ∧ validEffectScope input.kind input.scopeKind ∧
    validScopeDigest P input.scopeKind input.scopeDigest ∧ validPositiveCoordinate input.epoch ∧
    validPositiveCoordinate input.sequence ∧ input.baseEffectDigest ≠ Digest.zero)
  let (activationInputs, policy) ← commitmentPolicy P input
  let facts := { input with activationInputsDigest := activationInputs }
  let (canonical, digest) ← canonicalAuthorityArtifact P authorityEffectCommitmentDomain
    (authorityEffectCommitmentV1 P facts policy)
  pure ⟨facts, canonical, digest⟩

/-- The policy version and the activation inputs of a parsed record.

SOURCE: commitment.go:203-214 -/
def parseCommitmentPolicy (mode : CommitmentMode) (policy : Bytes)
    (activationInputs : Digest) : Option (ℕ × Digest) :=
  match mode with
  | .conditionalApply => do
    let version ← parsePositiveDecimal policy maxInt64
    pure (version, activationInputs)
  | .finalNotApplied => do
    guard (policy = ascii "none" ∧ activationInputs = authorityEffectActivationInputsEmpty P)
    pure (0, Digest.zero)

/-- SOURCE: commitment.go:169-220 -/
def parseAuthorityEffectCommitment (P : ArtifactPlatform) (body : Bytes) :
    Option AuthorityEffectCommitment := do
  let wire ← decodeCanonicalAuthorityArtifact P.toPlatform authorityEffectCommitmentNames body
  guard (wire (ascii "schema_version") = ascii "1")
  let operationID ← parseCanonicalUUID P (wire (ascii "operation_id"))
  let epoch ← parsePositiveDecimal (wire (ascii "authority_epoch")) maxInt64
  let sequence ← parsePositiveDecimal (wire (ascii "authority_sequence")) maxInt64
  let scopeDigest ← parseDigestString (wire (ascii "scope_digest")) false
  let baseEffectDigest ← parseDigestString (wire (ascii "base_effect_digest")) false
  let activationInputs ← parseDigestString (wire (ascii "activation_inputs_digest")) false
  let kind ← ofText EffectKind.all EffectKind.text (wire (ascii "effect_kind"))
  let scopeKind ← ofText ScopeKind.all ScopeKind.text (wire (ascii "scope_kind"))
  let mode ← ofText CommitmentMode.all CommitmentMode.text (wire (ascii "commitment_mode"))
  let reason ← ofText AuthorityEffectReason.all AuthorityEffectReason.text
    (wire (ascii "reason_code"))
  let (version, inputs) ← parseCommitmentPolicy P.toPlatform mode
    (wire (ascii "activation_policy_version")) activationInputs
  let value ← newAuthorityEffectCommitment P.toPlatform
    { operationID := operationID
      kind := kind
      scopeKind := scopeKind
      scopeDigest := scopeDigest
      epoch := epoch
      sequence := sequence
      baseEffectDigest := baseEffectDigest
      mode := mode
      reason := reason
      activationPolicyVersion := version
      activationInputsDigest := inputs }
  guard (value.canonical = body)
  pure value

/-- SOURCE: commitment.go:226-241 -/
def validAuthorityEffectCommitment (value : AuthorityEffectCommitment) : Bool :=
  value.canonical != [] && value.digest != Digest.zero &&
    (newAuthorityEffectCommitment P
      (if value.facts.mode = .finalNotApplied then
        { value.facts with activationInputsDigest := Digest.zero }
      else value.facts)).any
      fun rebuilt => rebuilt.digest == value.digest && rebuilt.canonical == value.canonical

/-! ## Snapshots of the provider's head -/

/-- SOURCE: commitment.go:24 -/
def authorityProviderHeadDomain : Bytes :=
  ascii "talenro.nodecontrol.authority-provider-head.v1\x00"

/-- SOURCE: commitment.go:243-247 -/
abbrev AuthorityProviderHeadSnapshot : Type := Artifact Head

/-- SOURCE: commitment.go:249-260, 268-275 -/
def authorityProviderHeadV1 (head : Head) (point : DatabasePoint) :
    List (Bytes × Bytes) :=
  [(ascii "authority_epoch", Decimal.format head.epoch),
   (ascii "db_system_id", Decimal.format point.systemID.toNat),
   (ascii "db_timeline", Decimal.format point.timeline.toNat),
   (ascii "latest_committed_operation_id", P.uuidString head.latestCommittedOperationID),
   (ascii "latest_committed_receipt_digest", digestString head.latestCommittedReceiptDigest),
   (ascii "latest_committed_sequence", Decimal.format head.latestCommittedSequence),
   (ascii "latest_reservation_digest", digestString head.latestReservationDigest),
   (ascii "latest_reserved_sequence", Decimal.format head.latestReservedSequence),
   (ascii "required_lsn", point.requiredLSN),
   (ascii "schema_version", ascii "1")]

/-- SOURCE: commitment.go:249-260 -/
def authorityProviderHeadNames : List Bytes :=
  [ascii "authority_epoch", ascii "db_system_id", ascii "db_timeline",
   ascii "latest_committed_operation_id", ascii "latest_committed_receipt_digest",
   ascii "latest_committed_sequence", ascii "latest_reservation_digest",
   ascii "latest_reserved_sequence", ascii "required_lsn", ascii "schema_version"]

/-- SOURCE: commitment.go:262-281 -/
def newAuthorityProviderHeadSnapshot (head : Head) :
    Option AuthorityProviderHeadSnapshot := do
  guard (head.validate ∧ head.latestReservedSequence ≠ 0 ∧ head.latestCommittedSequence ≠ 0 ∧
    head.latestReservationDigest ≠ Digest.zero)
  let point ← head.latestCommittedDatabasePoint
  let (canonical, digest) ← canonicalAuthorityArtifact P authorityProviderHeadDomain
    (authorityProviderHeadV1 P head point)
  pure ⟨head, canonical, digest⟩

/-- SOURCE: commitment.go:283-331 -/
def parseAuthorityProviderHeadSnapshot (P : ArtifactPlatform) (body : Bytes) :
    Option AuthorityProviderHeadSnapshot := do
  let wire ← decodeCanonicalAuthorityArtifact P.toPlatform authorityProviderHeadNames body
  guard (wire (ascii "schema_version") = ascii "1")
  let epoch ← parsePositiveDecimal (wire (ascii "authority_epoch")) maxInt64
  let reserved ← parsePositiveDecimal (wire (ascii "latest_reserved_sequence")) maxInt64
  let committed ← parsePositiveDecimal (wire (ascii "latest_committed_sequence")) maxInt64
  let systemID ← parsePositiveDecimal (wire (ascii "db_system_id")) (2 ^ 64 - 1)
  let timeline ← parsePositiveDecimal (wire (ascii "db_timeline")) (2 ^ 32 - 1)
  let operationID ← parseCanonicalUUID P (wire (ascii "latest_committed_operation_id"))
  let reservationDigest ← parseDigestString (wire (ascii "latest_reservation_digest")) false
  let receiptDigest ← parseDigestString (wire (ascii "latest_committed_receipt_digest")) false
  let value ← newAuthorityProviderHeadSnapshot P.toPlatform
    { epoch := epoch
      latestReservedSequence := reserved
      latestCommittedSequence := committed
      latestReservationDigest := reservationDigest
      latestCommittedOperationID := operationID
      latestCommittedReceiptDigest := receiptDigest
      latestCommittedDatabasePoint :=
        some ⟨UInt64.ofNat systemID, UInt32.ofNat timeline, wire (ascii "required_lsn")⟩ }
  guard (value.canonical = body)
  pure value

/-- SOURCE: commitment.go:341-344 -/
def validAuthorityProviderHead (value : AuthorityProviderHeadSnapshot) : Bool :=
  (newAuthorityProviderHeadSnapshot P value.facts).any
    fun rebuilt => rebuilt.digest == value.digest && rebuilt.canonical == value.canonical

/-! ## Anchors of checkpoints -/

/-- SOURCE: commitment.go:346-352 -/
inductive CheckpointKind where
  | none
  | node
  | global
deriving DecidableEq

/-- SOURCE: commitment.go:349-351 -/
def CheckpointKind.text : CheckpointKind → Bytes
  | none => ascii "none"
  | node => ascii "node"
  | global => ascii "global"

def CheckpointKind.all : List CheckpointKind := [none, node, global]

/-- The input of an anchor has the epoch, the sequence and the receipt as a checkpoint.

SOURCE: commitment.go:354-366 -/
structure AuthorityCheckpointAnchorFacts where
  kind : CheckpointKind
  scopeDigest : Digest
  checkpoint : NodeCheckpoint
deriving DecidableEq

/-- SOURCE: commitment.go:368-372 -/
abbrev AuthorityCheckpointAnchor : Type := Artifact AuthorityCheckpointAnchorFacts

/-- SOURCE: commitment.go:25 -/
def authorityCheckpointAnchorDomain : Bytes :=
  ascii "talenro.nodecontrol.authority-checkpoint-anchor.v1\x00"

/-- SOURCE: commitment.go:374-381, 399-403 -/
def authorityCheckpointAnchorV1 (facts : AuthorityCheckpointAnchorFacts) : List (Bytes × Bytes) :=
  [(ascii "authority_epoch", Decimal.format facts.checkpoint.authorityEpoch),
   (ascii "authority_sequence", Decimal.format facts.checkpoint.sequence),
   (ascii "checkpoint_kind", facts.kind.text),
   (ascii "checkpoint_scope_digest", digestString facts.scopeDigest),
   (ascii "receipt_digest", digestString facts.checkpoint.receiptDigest),
   (ascii "schema_version", ascii "1")]

/-- SOURCE: commitment.go:374-381 -/
def authorityCheckpointAnchorNames : List Bytes :=
  [ascii "authority_epoch", ascii "authority_sequence", ascii "checkpoint_kind",
   ascii "checkpoint_scope_digest", ascii "receipt_digest", ascii "schema_version"]

/-- SOURCE: commitment.go:383-412 -/
def newAuthorityCheckpointAnchor (input : AuthorityCheckpointAnchorFacts) :
    Option AuthorityCheckpointAnchor := do
  guard (input.checkpoint.validate ∧ input.checkpoint.sequence ≠ 0 ∧
    input.checkpoint.receiptDigest ≠ Digest.zero)
  match input.kind with
  | .node => guard (validScopeDigest P .node input.scopeDigest)
  | .global => guard (input.scopeDigest = globalNodeScopeDigest P ∨
      input.scopeDigest = globalOperatorScopeDigest P)
  | .none => none
  let (canonical, digest) ← canonicalAuthorityArtifact P authorityCheckpointAnchorDomain
    (authorityCheckpointAnchorV1 input)
  pure ⟨input, canonical, digest⟩

/-- SOURCE: commitment.go:414-443 -/
def parseAuthorityCheckpointAnchor (P : ArtifactPlatform) (body : Bytes) :
    Option AuthorityCheckpointAnchor := do
  let wire ← decodeCanonicalAuthorityArtifact P.toPlatform authorityCheckpointAnchorNames body
  guard (wire (ascii "schema_version") = ascii "1")
  let epoch ← parsePositiveDecimal (wire (ascii "authority_epoch")) maxInt64
  let sequence ← parsePositiveDecimal (wire (ascii "authority_sequence")) maxInt64
  let scopeDigest ← parseDigestString (wire (ascii "checkpoint_scope_digest")) false
  let receiptDigest ← parseDigestString (wire (ascii "receipt_digest")) false
  let kind ← ofText CheckpointKind.all CheckpointKind.text (wire (ascii "checkpoint_kind"))
  let value ← newAuthorityCheckpointAnchor P.toPlatform ⟨kind, scopeDigest, epoch, sequence,
    receiptDigest⟩
  guard (value.canonical = body)
  pure value

/-- SOURCE: commitment.go:449-455 -/
def validAuthorityCheckpointAnchor (value : AuthorityCheckpointAnchor) : Bool :=
  (newAuthorityCheckpointAnchor P value.facts).any
    fun rebuilt => rebuilt.digest == value.digest && rebuilt.canonical == value.canonical

end Talenro.Authority
