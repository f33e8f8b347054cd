import Talenro.Lib.Json.Jsonb
import Talenro.Lib.Serving
import Talenro.Model.Authority.Artifacts

/-!
# The import of a topology

A database that is restored afresh gets its topology by one call of the function
`begin_staging_import`: points of presence, failure domains, capacity profiles and nodes, all of
them out of service, and with them the application that says which capability was spent.

The function is a program over the statements of a transaction.  A unique constraint beside a
primary key is kept as an index, a table whose rows say which row has the value; advisory locks are
rows that are always there.  Where the function returns without a row it refuses; where it raises,
its transaction is rolled back.

Sources named without a directory are in `db/migrations/assets`.
-/

set_option autoImplicit false

namespace Talenro.Authority.StagingImport

open Lib Lib.Json Lib.Calendar

/-- A value of type `jsonb`. -/
abbrev Value : Type := Json.Tree Bytes

/-- The functions of the database server that the import uses: the casts of a text to `jsonb`,
`uuid`, `bigint` and `integer`, the comparison of `jsonb` values, the order of texts in the
collation of the database, and the texts of identifiers and times. -/
structure Server where
  jsonb : Bytes → Option (Value)
  uuid : Bytes → Option UUID
  bigint : Bytes → Option ℤ
  integer : Bytes → Option ℤ
  jsonbEqual : Value → Value → Bool
  textLt : Bytes → Bytes → Bool
  uuidText : UUID → Bytes
  timestampText : Instant → Bytes
  sha256 : Bytes → Digest

/-! ## Rows -/

/-- SOURCE: db/migrations/00006_nodecontrol.sql:94, 180 -/
inductive OperatorState where
  | provisioning
  | enabled
  | draining
  | disabled
deriving DecidableEq

/-- SOURCE: db/migrations/00006_nodecontrol.sql:181 -/
inductive SecurityState where
  | normal
  | quarantined
deriving DecidableEq

/-- SOURCE: nodecontrol_authority_v7_up.sql:3221 -/
inductive IdentityState where
  | neverEnrolled
  | active
  | recoveryPending
  | recoveryLimited
  | revoked
  | unauthorized
deriving DecidableEq

/-- The columns that the import reads.

SOURCE: nodecontrol_authority_v7_up.sql:2697-2727 -/
structure CapabilityRow where
  capabilityID : UUID
  singleUseApplyID : UUID
  manifestDigest : Bytes
  targetActivationID : UUID
  targetDatabaseIdentityDigest : Bytes
  databaseTimelineLineageChainDigest : Bytes
  targetDatabaseIncarnationRegistrationDigest : Bytes
  runtimeRebindChainDigest : Bytes
  runtimeInstanceBindingDigest : Bytes
  databaseRouteClosedDigest : Bytes
  preImportInventoryDigest : Bytes
  expectedPostImportInventoryDigest : Bytes
  expiresAt : Instant
deriving DecidableEq

/-- The columns beside the primary key `single_use_apply_id`.

SOURCE: nodecontrol_authority_v7_up.sql:2864-2896 -/
structure ApplicationRow where
  stagingImportCapabilityDigest : Bytes
  stagingImportCapabilityRecoveryIntentDigestOrNull : Option Bytes
  stagingImportCapabilityRecoveryApplicationDigestOrNull : Option Bytes
  manifestDigest : Bytes
  targetActivationID : UUID
  currentDatabaseIdentityDigest : Bytes
  databaseTimelineLineageChainDigest : Bytes
  targetDatabaseIncarnationRegistrationDigest : Bytes
  runtimeRebindChainDigest : Bytes
  runtimeInstanceBindingDigest : Bytes
  stagingExclusionLeaseDigest : Bytes
  acquisitionLockedProviderHeadDigest : Bytes
  databaseRouteClosedDigest : Bytes
  preImportInventoryDigest : Bytes
  postImportInventoryDigest : Bytes
  importedObjectCount : ℕ
  completeNodeSetDigest : Digest
  forbiddenStateZeroDigest : Digest
  databaseTransactionID : ℕ
  transactionSnapshotDigest : Digest
  appliedAt : Instant
  canonicalEvidenceBundleJCS : Bytes
  canonicalBodyJCS : Bytes
  bodyDigest : Digest
deriving DecidableEq

/-- SOURCE: db/migrations/00006_nodecontrol.sql:82-98 -/
structure PopRow where
  isoCountry : Bytes
  region : Bytes
  operatorState : OperatorState
  version : ℤ
  createdAt : Instant
  updatedAt : Instant
deriving DecidableEq

/-- SOURCE: db/migrations/00006_nodecontrol.sql:100-114 -/
structure FailureDomainRow where
  domainType : Bytes
  stableID : Bytes
  version : ℤ
  createdAt : Instant
  updatedAt : Instant
deriving DecidableEq

/-- SOURCE: db/migrations/00006_nodecontrol.sql:116-147 -/
structure CapacityProfileRow where
  adapter : Bytes
  egressLimitBPS : ℤ
  connectionLimit : ℤ
  handshakeLimitPerSecond : ℤ
  cpuQuotaMillicores : ℤ
  cpuLimitBasisPoints : ℤ
  memoryLimitBytes : ℤ
  taskLimit : ℤ
  fileDescriptorLimit : ℤ
  queueLimit : ℤ
  packetLossLimitBasisPoints : ℤ
  requiredMetrics : List (Option Bytes)
  createdAt : Instant
deriving DecidableEq

/-- The columns that an import sets.

SOURCE: db/migrations/00006_nodecontrol.sql:149-176 -/
structure NodeRow where
  popCode : Bytes
  operatorState : OperatorState
  securityState : SecurityState
  identityState : IdentityState
  resumeOperatorState : Option OperatorState
  pendingOperatorTransition : Option Bytes
  pendingTransitionSigningID : Option UUID
  identityEpoch : ℤ
  lineageID : Option UUID
  inventoryVersion : ℤ
  securityVersion : ℤ
  nextDesiredGeneration : ℤ
  nextRecoveryGeneration : ℤ
  createdAt : Instant
  updatedAt : Instant
deriving DecidableEq

/-- The tables by their primary keys.  Capabilities are looked up by the unique `body_digest`; of
the tables that say what became of a capability it matters whether they have a row for it. -/
inductive Key where
  | advisory (number : Fin 3)
  | capability (bodyDigest : Bytes)
  | recoveryIntent (capabilityID : UUID)
  | recoveryApplication (capabilityID : UUID)
  | revocationApplication (capabilityID : UUID)
  | application (singleUseApplyID : UUID)
  /-- The constraint `ncv7_fi_uq01`. -/
  | applicationOfCapability (capabilityDigest : Bytes)
  /-- The constraint `ncv7_fi_body_uq`. -/
  | applicationOfBody (bodyDigest : Digest)
  | pop (popCode : Bytes)
  | failureDomain (failureDomainID : UUID)
  /-- The constraint `node_failure_domains_type_stable_id_key`. -/
  | failureDomainOf (domainType stableID : Bytes)
  | capacityProfile (profileID : Bytes) (version : ℤ)
  | node (nodeID : UUID)
deriving DecidableEq

@[reducible] def Row : Key → Type
  | .advisory _ => Unit
  | .capability _ => CapabilityRow
  | .recoveryIntent _ => Unit
  | .recoveryApplication _ => Unit
  | .revocationApplication _ => Unit
  | .application _ => ApplicationRow
  | .applicationOfCapability _ => UUID
  | .applicationOfBody _ => UUID
  | .pop _ => PopRow
  | .failureDomain _ => FailureDomainRow
  | .failureDomainOf _ _ => UUID
  | .capacityProfile _ _ => CapacityProfileRow
  | .node _ => NodeRow

/-- The key is of a table, not of an index. -/
def Key.isTable : Key → Bool
  | .applicationOfCapability _ | .applicationOfBody _ | .failureDomainOf _ _ => false
  | _ => true

/-! ## Constraints of the tables -/

def isLowerAlnum (c : UInt8) : Bool := (0x61 ≤ c && c ≤ 0x7a) || (0x30 ≤ c && c ≤ 0x39)

/-- The pattern `^[a-z0-9](?:[a-z0-9-]{0,middle}[a-z0-9])?$`. -/
def matchesSlug (middle : ℕ) (b : Bytes) : Bool :=
  decide (1 ≤ b.length ∧ b.length ≤ middle + 2) && b.all (fun c => isLowerAlnum c || c == 0x2d) &&
    b.head?.any isLowerAlnum && b.getLast?.any isLowerAlnum

/-- The pattern `^[A-Za-z0-9][A-Za-z0-9._-]*$`. -/
def matchesProfileID (b : Bytes) : Bool :=
  let alnum := fun c : UInt8 => isLowerAlnum c || (0x41 ≤ c && c ≤ 0x5a)
  b.head?.any alnum && b.all fun c => alnum c || c == 0x2e || c == 0x5f || c == 0x2d

/-- The pattern `^[!-~]{1,128}$`. -/
def matchesStableID (b : Bytes) : Bool :=
  decide (1 ≤ b.length ∧ b.length ≤ 128) && b.all fun c => 0x21 ≤ c && c ≤ 0x7e

def isUpper (c : UInt8) : Bool := 0x41 ≤ c && c ≤ 0x5a

def inRange (low high value : ℤ) : Bool := decide (low ≤ value ∧ value ≤ high)

def domainTypes : List Bytes := [ascii "facility", ascii "compute", ascii "upstream"]

def adapters : List Bytes := [ascii "fixture", ascii "xray", ascii "sing_box"]

def metrics : List Bytes :=
  [ascii "cpu_basis_points", ascii "egress_bps", ascii "memory_bytes",
   ascii "open_file_descriptors", ascii "task_count"]

/-- Texts in strictly increasing order of their octets. -/
def sortedUnique : List Bytes → Bool
  | a :: b :: rest => decide (a < b) && sortedUnique (b :: rest)
  | _ => true

/-- SOURCE: db/migrations/00006_nodecontrol.sql:91-96 -/
def popCheck (popCode : Bytes) (row : PopRow) : Bool :=
  matchesSlug 30 popCode && row.isoCountry.length == 2 && row.isoCountry.all isUpper &&
    matchesSlug 62 row.region && inRange 1 maxInt64 row.version &&
    decide (row.createdAt ≤ row.updatedAt)

/-- SOURCE: db/migrations/00006_nodecontrol.sql:108-111 -/
def failureDomainCheck (row : FailureDomainRow) : Bool :=
  decide (row.domainType ∈ domainTypes) && matchesStableID row.stableID &&
    inRange 1 maxInt64 row.version && decide (row.createdAt ≤ row.updatedAt)

/-- SOURCE: db/migrations/00006_nodecontrol.sql:133-146 -/
def capacityProfileCheck (profileID : Bytes) (version : ℤ) (row : CapacityProfileRow) : Bool :=
  decide (profileID.length ≤ 128) && matchesProfileID profileID && inRange 1 maxInt64 version &&
    decide (row.adapter ∈ adapters) && inRange 1000000 1000000000000 row.egressLimitBPS &&
    inRange 1 10000000 row.connectionLimit && inRange 1 1000000 row.handshakeLimitPerSecond &&
    inRange 100 64000 row.cpuQuotaMillicores && inRange 1 10000 row.cpuLimitBasisPoints &&
    inRange 67108864 1099511627776 row.memoryLimitBytes && inRange 32 4096 row.taskLimit &&
    inRange 64 1000000 row.fileDescriptorLimit && inRange 1 1000000 row.queueLimit &&
    inRange 1 10000 row.packetLossLimitBasisPoints &&
    decide (1 ≤ row.requiredMetrics.length ∧ row.requiredMetrics.length ≤ 5) &&
    row.requiredMetrics.all (fun metric => metric.any (· ∈ metrics)) &&
    sortedUnique (row.requiredMetrics.filterMap id)

/-- SOURCE: nodecontrol_authority_v7_up.sql:3222-3226 -/
def identityLineageCheck (row : NodeRow) : Bool :=
  match row.identityState with
  | .neverEnrolled | .unauthorized => row.identityEpoch == 0 && row.lineageID.isNone
  | _ => decide (0 < row.identityEpoch) && row.lineageID.isSome

/-- SOURCE: nodecontrol_authority_v7_up.sql:3227-3231 -/
def quarantineCheck (row : NodeRow) : Bool :=
  match row.identityState with
  | .unauthorized => row.operatorState == .disabled && row.securityState == .quarantined &&
      row.identityEpoch == 0 && row.lineageID.isNone && row.resumeOperatorState.isNone &&
      row.pendingOperatorTransition.isNone && row.pendingTransitionSigningID.isNone &&
      row.nextDesiredGeneration == 1 && row.nextRecoveryGeneration == 1
  | _ =>
    match row.securityState with
    | .normal => row.resumeOperatorState.isNone
    | .quarantined => row.operatorState == .disabled && row.resumeOperatorState.isSome

/-- SOURCE: db/migrations/00006_nodecontrol.sql:179-191 -/
def nodeCheck (row : NodeRow) : Bool :=
  matchesSlug 30 row.popCode &&
    row.pendingOperatorTransition.isNone == row.pendingTransitionSigningID.isNone &&
    inRange 0 maxInt64 row.identityEpoch && inRange 1 maxInt64 row.inventoryVersion &&
    inRange 1 maxInt64 row.securityVersion && inRange 1 maxInt64 row.nextDesiredGeneration &&
    inRange 1 maxInt64 row.nextRecoveryGeneration && identityLineageCheck row && quarantineCheck row

/-- SOURCE: nodecontrol_authority_v7_up.sql:2893-2895 -/
def applicationCheck (row : ApplicationRow) : Bool :=
  row.stagingImportCapabilityRecoveryIntentDigestOrNull.isNone &&
    row.stagingImportCapabilityRecoveryApplicationDigestOrNull.isNone &&
    decide (1 ≤ row.canonicalBodyJCS.length ∧ row.canonicalBodyJCS.length ≤ 1048576) &&
    decide (1 ≤ row.canonicalEvidenceBundleJCS.length ∧
      row.canonicalEvidenceBundleJCS.length ≤ 1048576)

def constraints : (k : Key) → Row k → Bool
  | .pop popCode, row => popCheck popCode row
  | .failureDomain _, row => failureDomainCheck row
  | .capacityProfile profileID version, row => capacityProfileCheck profileID version row
  | .node _, row => nodeCheck row
  | .application _, row => applicationCheck row
  | _, _ => true

/-! ## Comparisons with `NULL` -/

/-- A comparison that is neither true nor false when a side is `NULL`. -/
def compares {α : Type} (f : α → α → Bool) : Option α → Option α → Bool
  | some a, some b => f a b
  | _, _ => false

/-- The operator `<>`. -/
def differs {α : Type} [DecidableEq α] : Option α → Option α → Bool :=
  compares fun a b => a != b

/-- A cast; a text that is not of the type raises. -/
def cast {α : Type} (read : Bytes → Option α) : Option Bytes → Option (Option α)
  | none => some none
  | some b => (read b).map some

/-! ## Arguments -/

/-- What the transaction of a call reads of the server: whether `v7_require_role` admits it and its
isolation level is READ COMMITTED, the clock, and its own time, number and snapshot. -/
structure Session where
  admitted : Bool
  readCommitted : Bool
  clockTimestamp : Instant
  transactionTimestamp : Instant
  txid : ℕ
  snapshot : Bytes

/-- SOURCE: nodecontrol_authority_v7_up.sql:6935-6944 -/
structure Params where
  capabilityDigest : Bytes
  manifestDigest : Bytes
  exclusionLeaseDigest : Bytes
  acquisitionHeadDigest : Bytes
  routeClosedDigest : Bytes
  projectionBodyJCS : Bytes
  projectionDigest : Bytes
  projectionObjects : Value

/-- SOURCE: nodecontrol_authority_v7_up.sql:6965-6971 -/
def Params.malformed (params : Params) : Bool :=
  params.capabilityDigest.length != 32 || params.manifestDigest.length != 32 ||
    params.exclusionLeaseDigest.length != 32 || params.acquisitionHeadDigest.length != 32 ||
    params.routeClosedDigest.length != 32 || params.projectionDigest.length != 32 ||
    !decide (1 ≤ params.projectionBodyJCS.length ∧ params.projectionBodyJCS.length ≤ 1048576) ||
    Jsonb.typeof params.projectionObjects != .array

def Params.objects (params : Params) : List (Value) := Jsonb.elements params.projectionObjects

/-! ## Objects -/

/-- SOURCE: internal/nodecontrol/contracts/authority_v7_boundary.go:23, 41-44 -/
inductive ObjectType where
  | pop
  | failureDomainDefinition
  | capacityProfileDefinition
  | nodeReconstructionSeed
deriving DecidableEq

/-- SOURCE: internal/nodecontrol/contracts/authority_v7_boundary.go:23, 41-44 -/
def ObjectType.text : ObjectType → Bytes
  | pop => ascii "pop"
  | failureDomainDefinition => ascii "failure_domain_definition"
  | capacityProfileDefinition => ascii "capacity_profile_definition"
  | nodeReconstructionSeed => ascii "node_reconstruction_seed"

/-- `value->>'object_type'`. -/
def objectType (value : Value) : Option Bytes := Jsonb.getText value (ascii "object_type")

/-- `value->>'canonical_key'`. -/
def canonicalKey (value : Value) : Option Bytes := Jsonb.getText value (ascii "canonical_key")

/-- `value->'body'->name`. -/
def bodyMember (value : Value) (name : String) : Option (Value) := do
  let body ← Jsonb.get value (ascii "body")
  Jsonb.get body (ascii name)

/-- `value->'body'->>name`. -/
def bodyText (value : Value) (name : String) : Option Bytes := do
  let body ← Jsonb.get value (ascii "body")
  Jsonb.getText body (ascii name)

def isOfType (type : ObjectType) (value : Value) : Bool := objectType value == some type.text

/-- SOURCE: nodecontrol_authority_v7_up.sql:6992-7004 -/
def shapeRefused (value : Value) : Bool :=
  let names := [ascii "object_type", ascii "canonical_key", ascii "body"]
  Jsonb.typeof value != .object || (Jsonb.keys value).any (· ∉ names) ||
    names.any (· ∉ Jsonb.keys value) ||
    differs ((Jsonb.get value (ascii "object_type")).map Jsonb.typeof) (some .string) ||
    differs ((Jsonb.get value (ascii "canonical_key")).map Jsonb.typeof) (some .string) ||
    differs ((Jsonb.get value (ascii "body")).map Jsonb.typeof) (some .object) ||
    (objectType value).any fun type => type ∉ [ObjectType.pop.text,
      ObjectType.failureDomainDefinition.text, ObjectType.capacityProfileDefinition.text,
      ObjectType.nodeReconstructionSeed.text]

variable (S : Server)

/-- An object is not before its predecessor in the order of types and keys.

SOURCE: nodecontrol_authority_v7_up.sql:7005-7017 -/
def orderRefused (previous value : Value) : Bool :=
  compares (fun a b => S.textLt b a) (objectType previous) (objectType value) ||
    (compares (fun a b => a == b) (objectType previous) (objectType value) &&
      compares (fun a b => !S.textLt a b) (canonicalKey previous) (canonicalKey value))

/-- SOURCE: nodecontrol_authority_v7_up.sql:7005-7017 -/
def outOfOrder (S : Server) : List (Value) → Bool
  | previous :: value :: rest => orderRefused S previous value || outOfOrder S (value :: rest)
  | _ => false

/-- The names of the members of the body are not the expected ones. -/
def namesRefused (value : Value) (names : List String) : Bool :=
  let keys := ((Jsonb.get value (ascii "body")).map Jsonb.keys).getD []
  keys.length != names.length || keys.any (· ∉ names.map ascii)

/-- SOURCE: nodecontrol_authority_v7_up.sql:7022-7026 -/
def popRefused (value : Value) : Bool :=
  namesRefused value ["pop_code", "iso_country", "region", "operator_state", "version"] ||
    differs (canonicalKey value) (bodyText value "pop_code") ||
    differs (bodyText value "operator_state") (some (ascii "disabled")) ||
    differs (bodyText value "version") (some (ascii "1"))

/-- SOURCE: nodecontrol_authority_v7_up.sql:7027-7030 -/
def failureDomainRefused (value : Value) : Bool :=
  namesRefused value ["failure_domain_id", "domain_type", "stable_id", "version"] ||
    differs (canonicalKey value) (bodyText value "failure_domain_id") ||
    differs (bodyText value "version") (some (ascii "1"))

/-- SOURCE: nodecontrol_authority_v7_up.sql:7031-7033 -/
def capacityProfileRefused (value : Value) : Bool :=
  namesRefused value ["profile_id", "version", "adapter", "egress_limit_bps", "connection_limit",
      "handshake_limit_per_second", "cpu_quota_millicores", "cpu_limit_basis_points",
      "memory_limit_bytes", "task_limit", "file_descriptor_limit", "queue_limit",
      "packet_loss_limit_basis_points", "required_metrics"] ||
    differs (canonicalKey value) (do
      let profileID ← bodyText value "profile_id"
      let version ← bodyText value "version"
      pure (profileID ++ ascii "/" ++ version))

/-- SOURCE: nodecontrol_authority_v7_up.sql:7034-7049 -/
def nodeRefused (value : Value) : Bool :=
  namesRefused value ["node_id", "pop_code", "operator_state", "security_state", "identity_state",
      "health_state", "identity_epoch", "inventory_version", "security_version",
      "next_desired_generation", "next_recovery_generation", "resume_operator_state_or_null",
      "pending_operator_transition_or_null", "active_pointer_set", "authority_anchor_set"] ||
    differs (canonicalKey value) (bodyText value "node_id") ||
    ([("operator_state", "disabled"), ("security_state", "quarantined"),
      ("identity_state", "unauthorized"), ("health_state", "unknown"), ("identity_epoch", "0"),
      ("inventory_version", "1"), ("security_version", "1"), ("next_desired_generation", "1"),
      ("next_recovery_generation", "1")] : List (String × String)).any (fun expected =>
        differs (bodyText value expected.1) (some (ascii expected.2))) ||
    ([("resume_operator_state_or_null", .null), ("pending_operator_transition_or_null", .null),
      ("active_pointer_set", .arr []), ("authority_anchor_set", .arr [])] :
        List (String × Value)).any fun expected =>
      compares (fun a b => !S.jsonbEqual a b) (bodyMember value expected.1) (some expected.2)

/-- SOURCE: nodecontrol_authority_v7_up.sql:7018-7052 -/
def bodyRefused (value : Value) : Bool :=
  if isOfType .pop value then popRefused value
  else if isOfType .failureDomainDefinition value then failureDomainRefused value
  else if isOfType .capacityProfileDefinition value then capacityProfileRefused value
  else if isOfType .nodeReconstructionSeed value then nodeRefused S value
  else true

/-- SOURCE: nodecontrol_authority_v7_up.sql:6992-7057 -/
def objectsRefused (objects : List (Value)) : Bool :=
  objects.any shapeRefused || outOfOrder S objects || objects.any (bodyRefused S) ||
    !objects.any (isOfType .nodeReconstructionSeed)

/-! ## Rows of the objects -/

/-- A row together with its key. -/
abbrev Entry : Type := (k : Key) × Row k

/-- SOURCE: nodecontrol_authority_v7_up.sql:7104-7110 -/
def popEntry (session : Session) (value : Value) : Option Entry := do
  let popCode ← bodyText value "pop_code"
  let isoCountry ← bodyText value "iso_country"
  let region ← bodyText value "region"
  pure ⟨.pop popCode, {
    isoCountry
    region
    operatorState := .disabled
    version := 1
    createdAt := session.transactionTimestamp
    updatedAt := session.transactionTimestamp }⟩

/-- SOURCE: nodecontrol_authority_v7_up.sql:7112-7118 -/
def failureDomainEntry (session : Session) (value : Value) : Option Entry := do
  let failureDomainID ← (bodyText value "failure_domain_id").bind S.uuid
  let domainType ← bodyText value "domain_type"
  let stableID ← bodyText value "stable_id"
  pure ⟨.failureDomain failureDomainID, {
    domainType
    stableID
    version := 1
    createdAt := session.transactionTimestamp
    updatedAt := session.transactionTimestamp }⟩

/-- The entry in the index by type and stable identifier. -/
def failureDomainIndexEntry (value : Value) : Option Entry := do
  let failureDomainID ← (bodyText value "failure_domain_id").bind S.uuid
  let domainType ← bodyText value "domain_type"
  let stableID ← bodyText value "stable_id"
  pure ⟨.failureDomainOf domainType stableID, failureDomainID⟩

/-- `ARRAY(SELECT jsonb_array_elements_text(…))`. -/
def textArray : Option (Value) → Option (List (Option Bytes))
  | none => some []
  | some (.arr es) => some (es.map fun
    | .null => none
    | .str s => some s
    | other => some (Jsonb.text other))
  | some _ => none

/-- SOURCE: nodecontrol_authority_v7_up.sql:7120-7139 -/
def capacityProfileEntry (session : Session) (value : Value) :
    Option Entry := do
  let bigint := fun name => (bodyText value name).bind S.bigint
  let integer := fun name => (bodyText value name).bind S.integer
  let profileID ← bodyText value "profile_id"
  let version ← bigint "version"
  pure ⟨.capacityProfile profileID version, {
    adapter := ← bodyText value "adapter"
    egressLimitBPS := ← bigint "egress_limit_bps"
    connectionLimit := ← integer "connection_limit"
    handshakeLimitPerSecond := ← integer "handshake_limit_per_second"
    cpuQuotaMillicores := ← integer "cpu_quota_millicores"
    cpuLimitBasisPoints := ← integer "cpu_limit_basis_points"
    memoryLimitBytes := ← bigint "memory_limit_bytes"
    taskLimit := ← integer "task_limit"
    fileDescriptorLimit := ← integer "file_descriptor_limit"
    queueLimit := ← integer "queue_limit"
    packetLossLimitBasisPoints := ← integer "packet_loss_limit_basis_points"
    requiredMetrics := ← textArray (bodyMember value "required_metrics")
    createdAt := session.transactionTimestamp }⟩

/-- SOURCE: nodecontrol_authority_v7_up.sql:7141-7149 -/
def importedNode (session : Session) (popCode : Bytes) : NodeRow where
  popCode := popCode
  operatorState := .disabled
  securityState := .quarantined
  identityState := .unauthorized
  resumeOperatorState := none
  pendingOperatorTransition := none
  pendingTransitionSigningID := none
  identityEpoch := 0
  lineageID := none
  inventoryVersion := 1
  securityVersion := 1
  nextDesiredGeneration := 1
  nextRecoveryGeneration := 1
  createdAt := session.transactionTimestamp
  updatedAt := session.transactionTimestamp

/-- SOURCE: nodecontrol_authority_v7_up.sql:7141-7151 -/
def nodeEntry (session : Session) (value : Value) : Option Entry := do
  let nodeID ← (bodyText value "node_id").bind S.uuid
  let popCode ← bodyText value "pop_code"
  pure ⟨.node nodeID, importedNode session popCode⟩

/-! ## The application -/

/-- The projection is not the one the capability is for, or not that of the objects; none when a
cast raises.

SOURCE: nodecontrol_authority_v7_up.sql:7058-7072 -/
def projectionRefused (capability : CapabilityRow) (params : Params) :
    Option Bool := do
  let projection ← S.jsonb params.projectionBodyJCS
  let targetActivationID ← cast S.uuid (Jsonb.getText projection (ascii "target_activation_id"))
  let objectCount ← cast S.bigint (Jsonb.getText projection (ascii "object_count"))
  let objects : Value := .arr (params.objects.map fun value => Jsonb.buildObject
    [(ascii "object_type", ((objectType value).map .str).getD .null),
     (ascii "canonical_key", ((canonicalKey value).map .str).getD .null),
     (ascii "normalized_payload", (Jsonb.get value (ascii "body")).getD .null)])
  pure (params.projectionDigest != capability.expectedPostImportInventoryDigest ||
    differs targetActivationID (some capability.targetActivationID) ||
    differs (Jsonb.getText projection (ascii "target_database_identity_digest"))
      (some (Hex.encode capability.targetDatabaseIdentityDigest)) ||
    differs objectCount (some (params.objects.length : ℤ)) ||
    !(Jsonb.get projection (ascii "objects")).any (S.jsonbEqual · objects))

/-- A digest in a domain of its own.

SOURCE: nodecontrol_authority_v7_up.sql:7074-7075, 7101 -/
def domainDigest (domain : String) (text : Bytes) : Digest :=
  S.sha256 (ascii domain ++ [0] ++ text)

/-- The nodes of the objects, in the order of the collation. -/
def seedKeys (objects : List Value) : List Bytes :=
  ((objects.filter (isOfType .nodeReconstructionSeed)).filterMap canonicalKey).insertionSort
    fun a b => S.textLt b a = false

/-- SOURCE: nodecontrol_authority_v7_up.sql:7074 -/
def completeNodeSetDigest (objects : List Value) : Digest :=
  domainDigest S "talenro.c12.complete-node-set.v1"
    (Jsonb.text (.arr ((seedKeys S objects).map .str)))

/-- SOURCE: nodecontrol_authority_v7_up.sql:7075 -/
def forbiddenStateZeroDigest : Digest :=
  domainDigest S "talenro.c12.fresh-import-forbidden-state-zero.v1"
    (ascii "\x7b\"forbidden_row_count\":\"0\"\x7d")

/-- SOURCE: nodecontrol_authority_v7_up.sql:7077-7100 -/
def applicationBody (session : Session) (capability : CapabilityRow)
    (params : Params) : Bytes :=
  let hex := fun digest : Bytes => (Json.Tree.str (Hex.encode digest) : Value)
  Jsonb.text (Jsonb.buildObject
    [(ascii "single_use_apply_id", .str (S.uuidText capability.singleUseApplyID)),
     (ascii "staging_import_capability_digest", hex params.capabilityDigest),
     (ascii "staging_import_capability_recovery_intent_digest_or_null", .null),
     (ascii "staging_import_capability_recovery_application_digest_or_null", .null),
     (ascii "manifest_digest", hex params.manifestDigest),
     (ascii "target_activation_id", .str (S.uuidText capability.targetActivationID)),
     (ascii "current_database_identity_digest", hex capability.targetDatabaseIdentityDigest),
     (ascii "database_timeline_lineage_chain_digest",
      hex capability.databaseTimelineLineageChainDigest),
     (ascii "target_database_incarnation_registration_digest",
      hex capability.targetDatabaseIncarnationRegistrationDigest),
     (ascii "runtime_rebind_chain_digest", hex capability.runtimeRebindChainDigest),
     (ascii "runtime_instance_binding_digest", hex capability.runtimeInstanceBindingDigest),
     (ascii "staging_exclusion_lease_digest", hex params.exclusionLeaseDigest),
     (ascii "acquisition_locked_provider_head_digest", hex params.acquisitionHeadDigest),
     (ascii "database_route_closed_digest", hex params.routeClosedDigest),
     (ascii "pre_import_inventory_digest", hex capability.preImportInventoryDigest),
     (ascii "post_import_inventory_digest", hex capability.expectedPostImportInventoryDigest),
     (ascii "imported_object_count", .str (Decimal.format params.objects.length)),
     (ascii "complete_node_set_digest", hex (completeNodeSetDigest S params.objects).1),
     (ascii "forbidden_state_zero_digest", hex (forbiddenStateZeroDigest S).1),
     (ascii "database_transaction_id", .str (Decimal.format session.txid)),
     (ascii "transaction_snapshot_digest", hex (S.sha256 session.snapshot).1),
     (ascii "applied_at", .str (S.timestampText session.transactionTimestamp))])

/-- SOURCE: nodecontrol_authority_v7_up.sql:7073-7101, 7154-7173 -/
def applicationRow (session : Session) (capability : CapabilityRow)
    (params : Params) : ApplicationRow where
  stagingImportCapabilityDigest := params.capabilityDigest
  stagingImportCapabilityRecoveryIntentDigestOrNull := none
  stagingImportCapabilityRecoveryApplicationDigestOrNull := none
  manifestDigest := params.manifestDigest
  targetActivationID := capability.targetActivationID
  currentDatabaseIdentityDigest := capability.targetDatabaseIdentityDigest
  databaseTimelineLineageChainDigest := capability.databaseTimelineLineageChainDigest
  targetDatabaseIncarnationRegistrationDigest :=
    capability.targetDatabaseIncarnationRegistrationDigest
  runtimeRebindChainDigest := capability.runtimeRebindChainDigest
  runtimeInstanceBindingDigest := capability.runtimeInstanceBindingDigest
  stagingExclusionLeaseDigest := params.exclusionLeaseDigest
  acquisitionLockedProviderHeadDigest := params.acquisitionHeadDigest
  databaseRouteClosedDigest := params.routeClosedDigest
  preImportInventoryDigest := capability.preImportInventoryDigest
  postImportInventoryDigest := capability.expectedPostImportInventoryDigest
  importedObjectCount := params.objects.length
  completeNodeSetDigest := completeNodeSetDigest S params.objects
  forbiddenStateZeroDigest := forbiddenStateZeroDigest S
  databaseTransactionID := session.txid
  transactionSnapshotDigest := S.sha256 session.snapshot
  appliedAt := session.transactionTimestamp
  canonicalEvidenceBundleJCS := params.projectionBodyJCS
  canonicalBodyJCS := applicationBody S session capability params
  bodyDigest := domainDigest S "talenro.c12.fresh-restore-import-application.v1"
    (applicationBody S session capability params)

/-! ## The function -/

/-- The call failed: the function raised, or a statement of it failed otherwise. -/
inductive Failed where
  | raised
deriving DecidableEq

abbrev Action (α : Type) : Type := ExceptT Failed (Prog (Statement Key Row) Answered) α

/-- A statement; when it fails the function raises. -/
def ask (q : Statement Key Row) : Action q.Answer := do
  let answer ← Prog.perform q
  Prog.ofExcept (orThrow answer .raised)

/-- Inserts a row; a missing value, a cast that fails and a key that is taken raise. -/
def insertEntry (entry : Option Entry) : Action Unit := do
  let entry ← Prog.ofExcept (orThrow entry .raised)
  let free ← ask (.insert entry.1 entry.2)
  Prog.ofExcept (require (free = true) .raised)

/-- `INSERT … SELECT`. -/
def insertEach (entryOf : Value → Option Entry) : List Value → Action Unit
  | [] => pure ()
  | value :: rest => do
    insertEntry (entryOf value)
    insertEach entryOf rest

/-- The constraint `node_inventory_pop_fk` on the rows of the objects.

SOURCE: db/migrations/00006_nodecontrol.sql:178 -/
def checkPops : List Value → Action Unit
  | [] => pure ()
  | value :: rest => do
    let popCode ← Prog.ofExcept (orThrow (bodyText value "pop_code") .raised)
    let found ← ask (.get (.pop popCode))
    Prog.ofExcept (require (found.isSome = true) .raised)
    checkPops rest

def lockAdvisory : List (Fin 3) → Action Unit
  | [] => pure ()
  | number :: rest => do
    let _ ← ask (.lock (.advisory number))
    lockAdvisory rest

/-- The capability, unless it is not there, not for this import, expired or spent.  The shared lock
that is taken first excludes only the sealing of a source.

SOURCE: nodecontrol_authority_v7_up.sql:6972-6991 -/
def admitCapability (session : Session) (params : Params) : Action (Option CapabilityRow) := do
  lockAdvisory [0, 1, 2]
  let found ← ask (.lock (.capability params.capabilityDigest))
  match found with
  | none => pure none
  | some capability =>
    let intent ← ask (.get (.recoveryIntent capability.capabilityID))
    let recovered ← ask (.get (.recoveryApplication capability.capabilityID))
    let revoked ← ask (.get (.revocationApplication capability.capabilityID))
    let applied ← ask (.get (.application capability.singleUseApplyID))
    if capability.manifestDigest != params.manifestDigest ||
        capability.databaseRouteClosedDigest != params.routeClosedDigest ||
        decide (capability.expiresAt ≤ session.clockTimestamp) || intent.isSome ||
        recovered.isSome || revoked.isSome || applied.isSome then
      pure none
    else pure (some capability)

/-- SOURCE: nodecontrol_authority_v7_up.sql:7104-7151 -/
def importObjects (session : Session) (objects : List Value) : Action Unit := do
  let pops := objects.filter (isOfType .pop)
  let failureDomains := objects.filter (isOfType .failureDomainDefinition)
  let capacityProfiles := objects.filter (isOfType .capacityProfileDefinition)
  let nodes := objects.filter (isOfType .nodeReconstructionSeed)
  insertEach (popEntry session) pops
  insertEach (failureDomainEntry S session) failureDomains
  insertEach (failureDomainIndexEntry S) failureDomains
  insertEach (capacityProfileEntry S session) capacityProfiles
  insertEach (nodeEntry S session) nodes
  checkPops nodes

/-- SOURCE: nodecontrol_authority_v7_up.sql:7153-7174 -/
def insertApplication (applyID : UUID) (application : ApplicationRow) : Action Unit := do
  insertEntry (some ⟨.application applyID, application⟩)
  insertEntry (some ⟨.applicationOfCapability application.stagingImportCapabilityDigest, applyID⟩)
  insertEntry (some ⟨.applicationOfBody application.bodyDigest, applyID⟩)

/-- The application with its primary key, unless the import is refused.

SOURCE: nodecontrol_authority_v7_up.sql:6935-7176 -/
def beginStagingImport (session : Session) (params : Params) :
    Action (Option (UUID × ApplicationRow)) := do
  Prog.ofExcept (require (session.admitted = true ∧ session.readCommitted = true) .raised)
  if params.malformed then pure none
  else
    let admitted ← admitCapability session params
    match admitted with
    | none => pure none
    | some capability =>
      if objectsRefused S params.objects then pure none
      else
        let refused ← Prog.ofExcept (orThrow (projectionRefused S capability params) .raised)
        if refused then pure none
        else
          let application := applicationRow S session capability params
          importObjects S session params.objects
          insertApplication capability.singleUseApplyID application
          pure (some (capability.singleUseApplyID, application))

/-- The function as a statement of its own, in a transaction that the server begins and ends.

SOURCE: db/queries/nodecontrol_authority.sql:134-144 -/
def callBeginStagingImport (session : Session) (params : Params) :
    Action (Option (UUID × ApplicationRow)) :=
  transaction .raised (beginStagingImport S session params)

/-! ## Calls side by side -/

abbrev Pid : Type := ℕ

abbrev Database : Type := RowStore Key Row Pid

/-- Any number of calls; any statement can fail, a connection can be lost, and the server can
crash. -/
def importing : System Pid (Session × Params)
    (Except Failed (Option (UUID × ApplicationRow))) (Statement Key Row) Answered Database :=
  serving constraints fun task => (callBeginStagingImport S task.1 task.2).run

end Talenro.Authority.StagingImport
