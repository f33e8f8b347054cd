import Talenro.Analysis.Envelope
import Talenro.Model.Trust.Application

/-!
# What issuing a bundle does

A successful run of `issueAuthorized` is taken apart into the steps of its parts:
what was signed, what was sealed, and the row that was inserted
(`issueAuthorized_ok`).  Each program of the server has one such lemma; callers
use the lemma and never the program.
-/

set_option autoImplicit false

namespace Talenro.Analysis

open Lib Lib.Json Lib.Calendar Prog

variable {P : Platform} {environment : Environment P} {pid : Pid} {s t : Backend}

/-! ## Statements -/

/-- A statement that was answered. -/
theorem query_ok {q : Statement Key Row} {a : q.Answer}
    (h : Runs (exec environment pid) (Trust.query P q).run s (.ok a) t) :
    ∃ d, s.database.perform pid q = some (a, d) ∧ t = { s with database := d } := by
  obtain ⟨answer, u, ⟨d, hexec, rfl⟩, hrest⟩ := runs_run_perform_bind_ok.mp h
  obtain ⟨hanswer, rfl⟩ := runs_run_ofExcept.mp hrest
  obtain rfl := orThrow_eq_ok.mp hanswer.symm
  cases hexec with
  | done hdone => exact ⟨d, hdone, rfl⟩

/-- A statement that can be answered. -/
theorem query_runs {q : Statement Key Row} {a : q.Answer} {d : Database}
    (h : s.database.perform pid q = some (a, d)) (hcheck : q.admissible constraints a = true) :
    Runs (exec environment pid) (Trust.query P q).run s (.ok a) { s with database := d } :=
  runs_run_perform_bind_ok.mpr
    ⟨some a, _, ⟨d, .done h hcheck, rfl⟩, runs_run_ofExcept.mpr ⟨rfl, rfl⟩⟩

theorem randomUUID_ok {id : UUID}
    (h : Runs (exec environment pid) (Trust.randomUUID P).run s (.ok id) t) :
    t = s ∧ id ≠ UUID.zero ∧ ∃ value, environment s (.random 16) (some value) ∧
      id = Trust.uuidOfRandom value := by
  simp only [Trust.randomUUID, runs_run_perform_bind_ok, runs_run_ofExcept_bind_ok, exec,
    orThrow_eq_ok, require_eq_ok, runs_run_pure_ok] at h
  obtain ⟨answer, u, ⟨henv, rfl⟩, value, rfl, -, hne, rfl, rfl⟩ := h
  exact ⟨rfl, hne, value, henv, rfl⟩

/-! ## Signing -/

/-- What a successful `signBundleV1` did: it signed the canonical payload, once. -/
structure SignedBundle (environment : Environment P) (s : Backend) (payload : Trust.PayloadV1)
    (signed : SignedBundleWire) : Prop where
  canonical : Trust.canonicalizePayloadV1 P payload = some signed.payloadJCS
  digest : signed.payloadSHA256 = Base64Url.encode (Sha256.sha256 signed.payloadJCS)
  algorithm : signed.algorithm = Trust.signatureAlgorithm
  signature : ∃ signature, signature.length = 64 ∧
    signed.signature = Base64Url.encode signature ∧
    environment s (.sign (Trust.bundleSignatureDomain ++ signed.payloadJCS)) (.ok signature)
  signerKeyID : ∃ s, environment s .signerKeyID signed.signerKeyID
  padding : signed.padding = []
  valid : Trust.validateSignedBundleV1 signed = true

theorem signBundleV1_ok {payload : Trust.PayloadV1} {signed : SignedBundleWire}
    (h : Runs (exec environment pid) (Trust.signBundleV1 P payload).run s (.ok signed) t) :
    SignedBundle environment s payload signed ∧
      t = { s with signed := s.signed ++ [Trust.bundleSignatureDomain ++ signed.payloadJCS] } := by
  simp only [Trust.signBundleV1, runs_run_perform_bind_ok, runs_run_ofExcept_bind_ok, exec,
    orThrow_eq_ok, require_eq_ok, mapError_eq_ok, runs_run_pure_ok] at h
  obtain ⟨canceled, u, ⟨-, rfl⟩, keyID, u, ⟨-, rfl⟩, -, -, canonical, hcanonical, answer, u,
    ⟨hsign, rfl⟩, signature, rfl, -, hlength, signerKeyID, u, ⟨hkey, rfl⟩, -, hvalid, rfl, rfl⟩ := h
  exact ⟨⟨hcanonical, rfl, rfl, ⟨signature, hlength, rfl, hsign⟩, ⟨_, hkey⟩, rfl, hvalid⟩, rfl⟩

/-! ## Sealing -/

/-- What a successful `sealBundle` did: it padded the frame to its bucket and
sealed it for a fresh sender. -/
theorem sealBundle_ok {recipient locator : Octets 32} {signed : SignedBundleWire}
    {envelope digest : Bytes}
    (h : Runs (exec environment pid) (Trust.sealBundle P recipient locator signed).run s
      (.ok (envelope, digest)) t) :
    t = s ∧ ∃ frame bucket padding enc sender, Trust.signedFrame P signed = .ok (frame, bucket) ∧
      padding.length = bucket - (bigEndian 4 frame.length ++ frame).length ∧
      environment s (.newSender recipient.1 Trust.envelopeInfo) (some (enc, sender)) ∧
      Trust.outerEnvelope P recipient locator enc sender
        (bigEndian 4 frame.length ++ frame ++ padding) = .ok (envelope, digest) := by
  simp only [Trust.sealBundle, runs_run_perform_bind_ok, runs_run_ofExcept_bind_ok, exec,
    orThrow_eq_ok, runs_run_ofExcept, Prod.exists] at h
  obtain ⟨frame, bucket, hframe, filling, u, ⟨-, rfl⟩, padding, rfl, encapsulated, u,
    ⟨hsender, rfl⟩, enc, sender, rfl, henvelope, rfl⟩ := h
  exact ⟨rfl, frame, bucket, padding.1, enc, sender, hframe, padding.2, hsender, henvelope.symm⟩

/-! ## The repository -/

theorem nextBundleVersion_ok {authorizationID : UUID} {now : Instant} {version : ℕ}
    (h : Runs (exec environment pid) (Trust.nextBundleVersion P authorizationID now).run s
      (.ok version) t) :
    authorizationID ≠ UUID.zero ∧
      (s.database.owner (.highestBundleVersion authorizationID) = none ∨
        s.database.owner (.highestBundleVersion authorizationID) = some pid) ∧
      version = (s.database.view pid (.highestBundleVersion authorizationID)).elim 1 (· + 1) ∧
      t = s.write pid (.highestBundleVersion authorizationID) version := by
  obtain ⟨_, hcheck, h⟩ := runs_run_ofExcept_bind_ok.mp h
  obtain ⟨d, hperform, rfl⟩ := query_ok h
  obtain ⟨howner, rfl, rfl⟩ := RowStore.perform_upsert hperform
  refine ⟨(require_eq_ok.mp hcheck).1, howner, ?_, rfl⟩
  cases s.database.view pid (.highestBundleVersion authorizationID) <;> rfl

/-- The row `insertBundle` writes for an issuance. -/
def issuanceRow (value : Trust.BundleIssuance) (locator : EncryptedField) : BundleIssuanceRow :=
  { authorizationID := value.authorizationID
    bundleVersion := value.bundleVersion
    locatorHash := Trust.locatorDigest value.locator.1
    locator := locator
    envelope := value.envelope
    envelopeSHA256 := value.envelopeSHA256
    signerKeyID := value.signerKeyID
    issuedAt := value.issuedAt
    notBefore := value.notBefore
    expiresAt := value.expiresAt }

theorem validBundleIssuance_size {value : Trust.BundleIssuance}
    (h : Trust.validBundleIssuance value = true) :
    64 ≤ value.envelope.length ∧ value.envelope.length ≤ Trust.maximumEnvelopeBytes := by
  simp only [Trust.validBundleIssuance, Bool.and_eq_true, decide_eq_true_eq] at h
  exact h.1.1.1.1.1.1.2

theorem insertBundle_ok {value : Trust.BundleIssuance} {u : Unit}
    (h : Runs (exec environment pid) (Trust.insertBundle P value).run s (.ok u) t) :
    Trust.validBundleIssuance value = true ∧ s.database.view pid (.bundleIssuance value.id) = none ∧
      ∃ locator, t = s.write pid (.bundleIssuance value.id) (issuanceRow value locator) := by
  simp only [Trust.insertBundle, runs_run_perform_bind_ok, runs_run_ofExcept_bind_ok, exec,
    orThrow_eq_ok, require_eq_ok] at h
  obtain ⟨-, hvalid, -, -, answer, w, ⟨-, rfl⟩, locator, -, -, -, hrest⟩ := h
  obtain ⟨inserted, w, hquery, hinserted, rfl⟩ := runs_run_bind_ok.mp hrest
  obtain ⟨d, hperform, rfl⟩ := query_ok hquery
  obtain rfl : inserted = true := require_eq_ok.mp hinserted.symm
  rcases RowStore.perform_insert hperform with ⟨hfalse, -⟩ | ⟨-, hfree, -, rfl⟩
  · cases hfalse
  · exact ⟨hvalid, hfree, locator, rfl⟩

/-! ## Issuing -/

/-- What a successful `issueAuthorized` did. -/
structure IssuedRun (environment : Environment P) (pid : Pid) (service : Trust.Service)
    (authority : BundleAuthority) (testConfig : TestConfigWire) (now : Instant) (s t : Backend)
    (issued : Trust.IssuedBundle) (locator : Octets 32) (signed : SignedBundleWire)
    (envelope : Bytes) : Prop where
  locator_eq : issued.locator = locator.1
  digest_eq : issued.envelopeSHA256 = Sha256.sha256 envelope
  version_bounds : issued.bundleVersion ≠ 0 ∧ issued.bundleVersion ≤ maxInt64
  sequence : testConfig.sequence = Decimal.format issued.bundleVersion
  selected : ∃ u keyID publicKey, environment u .signerKeyID keyID ∧
    Trust.selectSigningKeyForIssue service.metadata keyID ⟨now, true⟩
      ⟨now + Trust.bundleLifetime, true⟩ = .ok publicKey
  bundle : ∃ u, SignedBundle environment u (Trust.bundlePayload P issued.bundleID locator
    issued.bundleVersion authority testConfig now) signed
  sealing : ∃ u frame bucket padding enc sender, Trust.signedFrame P signed = .ok (frame, bucket) ∧
    padding.length = bucket - (bigEndian 4 frame.length ++ frame).length ∧
    environment u (.newSender authority.hpkePublicKey.1 Trust.envelopeInfo) (some (enc, sender)) ∧
    Trust.outerEnvelope P authority.hpkePublicKey locator enc sender
      (bigEndian 4 frame.length ++ frame ++ padding) = .ok (envelope, Sha256.sha256 envelope)
  size : 64 ≤ envelope.length ∧ envelope.length ≤ Trust.maximumEnvelopeBytes
  stored : ∃ row : BundleIssuanceRow,
    t.database.view pid (.bundleIssuance issued.bundleID) = some row ∧ row.envelope = envelope
  signed_once : t.signed = s.signed ++ [Trust.bundleSignatureDomain ++ signed.payloadJCS]

theorem issueAuthorized_ok {service : Trust.Service} {authority : BundleAuthority}
    {testConfig : TestConfigWire} {now : Instant} {issued : Trust.IssuedBundle}
    {event : EventEnvelope}
    (h : Runs (exec environment pid)
      (Trust.issueAuthorized P service authority testConfig now).run s (.ok (issued, event)) t) :
    ∃ locator signed envelope,
      IssuedRun environment pid service authority testConfig now s t issued locator signed
        envelope := by
  unfold Trust.issueAuthorized at h
  obtain ⟨version, s₁, hversion, h⟩ := runs_run_bind_ok.mp h
  obtain ⟨-, -, -, hs₁⟩ := nextBundleVersion_ok (runs_run_mapError_ok.mp hversion)
  obtain ⟨_, hcheck, h⟩ := runs_run_ofExcept_bind_ok.mp h
  obtain ⟨hne, hmax, hsequence⟩ := require_eq_ok.mp hcheck
  obtain ⟨bundleID, s₂, hid, h⟩ := runs_run_bind_ok.mp h
  obtain ⟨hs₂, -, -⟩ := randomUUID_ok hid
  obtain ⟨eventID, s₃, heventID, h⟩ := runs_run_bind_ok.mp h
  obtain ⟨hs₃, -, -⟩ := randomUUID_ok heventID
  obtain ⟨answer, s₄, ⟨-, hs₄⟩, h⟩ := runs_run_perform_bind_ok.mp h
  obtain ⟨locator, -, h⟩ := runs_run_ofExcept_bind_ok.mp h
  obtain ⟨keyID, s₅, ⟨hkeyID, hs₅⟩, h⟩ := runs_run_perform_bind_ok.mp h
  obtain ⟨publicKey, hselect, h⟩ := runs_run_ofExcept_bind_ok.mp h
  obtain ⟨signed, s₆, hsign, h⟩ := runs_run_bind_ok.mp h
  obtain ⟨hbundle, hs₆⟩ := signBundleV1_ok hsign
  obtain ⟨⟨envelope, digest⟩, s₇, hseal, h⟩ := runs_run_bind_ok.mp h
  obtain ⟨hs₇, frame, bucket, padding, enc, sender, hframe, hpadding, hsender, henvelope⟩ :=
    sealBundle_ok hseal
  obtain ⟨signerKeyID, s₈, ⟨-, hs₈⟩, h⟩ := runs_run_perform_bind_ok.mp h
  obtain ⟨_, s₉, hinsert, h⟩ := runs_run_bind_ok.mp h
  obtain ⟨hissuance, -, field, hs₉⟩ := insertBundle_ok hinsert
  have hsize := validBundleIssuance_size hissuance
  obtain ⟨hresult, ht⟩ := runs_run_pure_ok.mp h
  obtain ⟨rfl, -⟩ := Prod.mk.inj hresult
  obtain ⟨-, -, -, -, -, -, rfl⟩ := outerEnvelope_eq_ok henvelope
  refine ⟨locator, signed, envelope, ⟨rfl, rfl, ⟨hne, hmax⟩, hsequence,
    ⟨s₄, keyID, publicKey, hkeyID, hselect⟩, ⟨s₅, hbundle⟩,
    ⟨s₆, frame, bucket, padding, enc, sender, hframe, hpadding, hsender, henvelope⟩, hsize, ?_, ?_⟩⟩
  · rw [ht, hs₉]
    exact ⟨_, RowStore.view_put_self, rfl⟩
  · rw [ht, hs₉, hs₈, hs₇, hs₆, hs₅, hs₄, hs₃, hs₂, hs₁]
    rfl

end Talenro.Analysis
