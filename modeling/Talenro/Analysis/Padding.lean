import Talenro.Analysis.Issuing

/-!
# Frames and their padding

`Seal` writes the length of the signed bundle, the bundle and random octets, as many as fill the
smallest bucket (`SealFrame`).  The client finds the bundle in every such frame.  It accepts more:
the octets after the bundle are random and cannot be checked, and the size of the frame may be that
of any bucket that holds the bundle (`removeValidatedPadding_eq_some`).
-/

set_option autoImplicit false

namespace Talenro.Analysis

open Lib Lib.Json Prog

/-- A frame that `Seal` can build around the octets of a signed bundle. -/
def SealFrame (body frame : Bytes) : Prop :=
  ∃ bucket padding, 2 ≤ body.length ∧ body.length + Trust.plaintextLengthBytes ≤
      Trust.maximumEnvelopePlaintext ∧
    Trust.selectPlaintextBucket (body.length + Trust.plaintextLengthBytes) = some bucket ∧
    padding.length = bucket - (bigEndian 4 body.length ++ body).length ∧
    frame = bigEndian 4 body.length ++ body ++ padding

theorem length_frame (body padding : Bytes) :
    (bigEndian 4 body.length ++ body ++ padding).length = 4 + body.length + padding.length := by
  rw [List.length_append, List.length_append, bigEndian_length]

/-- A frame of `Seal` has the size of the bucket. -/
theorem SealFrame.length_eq {body frame : Bytes} (h : SealFrame body frame) :
    Trust.selectPlaintextBucket (body.length + 4) = some frame.length := by
  obtain ⟨bucket, padding, -, -, hbucket, hpadding, rfl⟩ := h
  have hfits : body.length + 4 ≤ bucket := (selectPlaintextBucket_mem hbucket).2
  rw [List.length_append, bigEndian_length] at hpadding
  have htotal : (bigEndian 4 body.length ++ body ++ padding).length = bucket := by
    rw [length_frame]
    omega
  rw [htotal]
  exact hbucket

/-- The client finds the bundle in a frame of `Seal`. -/
theorem SealFrame.removed {body frame : Bytes} (h : SealFrame body frame) :
    TrustClient.removeValidatedPadding frame = some body := by
  have hlength := h.length_eq
  obtain ⟨bucket, padding, hmin, hmax, -, -, rfl⟩ := h
  exact removeValidatedPadding_frame (selectPlaintextBucket_mem hlength).1 hmin hmax rfl

/-- What the client accepts: a frame of the size of a bucket that starts with a length and as many
octets. -/
theorem removeValidatedPadding_eq_some {frame body : Bytes} :
    TrustClient.removeValidatedPadding frame = some body ↔
      frame.length ∈ TrustClient.plaintextBucketSizes ∧ 2 ≤ body.length ∧
        ∃ padding, frame = bigEndian 4 body.length ++ body ++ padding := by
  constructor
  · intro h
    simp only [TrustClient.removeValidatedPadding, Option.bind_eq_bind, Option.bind_eq_some_iff,
      Option.guard_eq_some', Option.pure_def, Option.some.injEq] at h
    obtain ⟨-, ⟨hbucket, hprefix⟩, -, ⟨hmin, -, hfits⟩, rfl⟩ := h
    obtain ⟨header, rest, hheader, rfl⟩ : ∃ header rest, header.length = 4 ∧ frame = header ++ rest :=
      ⟨frame.take 4, frame.drop 4, List.length_take_of_le hprefix, (List.take_append_drop 4 _).symm⟩
    have htake : (header ++ rest).take TrustClient.plaintextLengthPrefix = header :=
      List.take_left' hheader
    have hdrop : (header ++ rest).drop TrustClient.plaintextLengthPrefix = rest :=
      List.drop_left' hheader
    rw [htake] at hmin hfits
    rw [htake, hdrop]
    have hbody : (rest.take (ofBigEndian header)).length = ofBigEndian header := by
      refine List.length_take_of_le ?_
      rw [List.length_append, hheader] at hfits
      exact hfits.trans (Nat.le_of_eq (Nat.add_sub_cancel_left ..))
    have hlength : bigEndian 4 (ofBigEndian header) = header := by
      have hoctets := bigEndian_ofBigEndian header
      rwa [hheader] at hoctets
    refine ⟨hbucket, hbody.symm ▸ hmin, rest.drop (ofBigEndian header), ?_⟩
    rw [hbody, hlength, List.append_assoc, List.take_append_drop]
  · rintro ⟨hbucket, hmin, padding, rfl⟩
    refine removeValidatedPadding_frame hbucket hmin ?_ rfl
    have hlargest : ∀ size ∈ TrustClient.plaintextBucketSizes, size ≤ 65536 := by decide
    have hsize := hlargest _ hbucket
    rw [length_frame] at hsize
    omega

/-- A frame that the client accepts is one of `Seal` when its bucket is the smallest. -/
theorem sealFrame_iff {frame body : Bytes}
    (h : TrustClient.removeValidatedPadding frame = some body) :
    SealFrame body frame ↔ Trust.selectPlaintextBucket (body.length + 4) = some frame.length := by
  constructor
  · exact SealFrame.length_eq
  · intro hbucket
    obtain ⟨hsize, hmin, padding, rfl⟩ := removeValidatedPadding_eq_some.mp h
    have hlargest : ∀ size ∈ TrustClient.plaintextBucketSizes, size ≤ 65536 := by decide
    have hmax := hlargest _ hsize
    rw [length_frame] at hmax
    refine ⟨_, padding, hmin, ?_, hbucket, ?_, rfl⟩
    · change body.length + 4 ≤ 65536
      omega
    · rw [length_frame, List.length_append, bigEndian_length]
      omega

variable {P : Platform} {environment : Environment P} {pid : Pid} {s t : Backend}

/-- The plaintext that `Seal` encrypts is a frame around the canonical signed bundle. -/
theorem sealBundle_frame {recipient locator : Octets 32} {signed : SignedBundleWire}
    {envelope digest : Bytes}
    (h : Runs (exec environment pid) (Trust.sealBundle P recipient locator signed).run s
      (.ok (envelope, digest)) t) :
    ∃ body frame enc sender, P.jcsTransform (marshal ((Trust.signedBundleTree signed).map quote)) =
        some body ∧ SealFrame body frame ∧
      Trust.outerEnvelope P recipient locator enc sender frame = .ok (envelope, digest) := by
  obtain ⟨-, body, bucket, padding, enc, sender, hframe, hpadding, -, henvelope⟩ := sealBundle_ok h
  simp only [Trust.signedFrame, bind_eq_ok, orThrow_eq_ok, require_eq_ok, pure_eq_ok,
    Prod.mk.injEq] at hframe
  obtain ⟨-, -, -, -, -, -, text, htext, -, ⟨hmin, hmax⟩, b, hbucket, rfl, rfl⟩ := hframe
  exact ⟨text, _, enc, sender, htext, ⟨b, padding, hmin, hmax, hbucket, hpadding, rfl⟩, henvelope⟩

/-- The client finds the signed bundle in whatever `Seal` encrypts.  What it accepts are the frames
of the size of some bucket that start with the length of the bundle and the bundle itself, and such
a frame is one `Seal` can build exactly when its bucket is the smallest that holds the bundle. -/
theorem removeValidatedPadding_sealed (environment : Environment P) :
    (∀ pid s t recipient locator signed envelope digest,
      Runs (exec environment pid) (Trust.sealBundle P recipient locator signed).run s
        (.ok (envelope, digest)) t →
      ∃ body frame enc sender,
        P.jcsTransform (marshal ((Trust.signedBundleTree signed).map quote)) = some body ∧
        SealFrame body frame ∧
        Trust.outerEnvelope P recipient locator enc sender frame = .ok (envelope, digest)) ∧
    (∀ body frame, SealFrame body frame →
      TrustClient.removeValidatedPadding frame = some body) ∧
    (∀ body frame, TrustClient.removeValidatedPadding frame = some body ↔
      frame.length ∈ TrustClient.plaintextBucketSizes ∧ 2 ≤ body.length ∧
        ∃ padding, frame = bigEndian 4 body.length ++ body ++ padding) ∧
    ∀ body frame, TrustClient.removeValidatedPadding frame = some body →
      (SealFrame body frame ↔
        Trust.selectPlaintextBucket (body.length + 4) = some frame.length) :=
  ⟨fun _ _ _ _ _ _ _ _ h => sealBundle_frame h, fun _ _ h => h.removed,
    fun _ _ => removeValidatedPadding_eq_some, fun _ _ h => sealFrame_iff h⟩

/-- Two octets in the second bucket. -/
def wideFrame : Bytes := bigEndian 4 2 ++ ascii "\x7b\x7d" ++ List.replicate 8186 0

/-- The client accepts a frame that `Seal` never builds around its bundle. -/
theorem wideFrame_accepted : TrustClient.removeValidatedPadding wideFrame = some (ascii "\x7b\x7d") ∧
    ¬ SealFrame (ascii "\x7b\x7d") wideFrame := by
  have hlength : wideFrame.length = 8192 := by
    rw [wideFrame, List.length_append, List.length_append, bigEndian_length, List.length_replicate]
    rfl
  constructor
  · refine removeValidatedPadding_eq_some.mpr ⟨?_, by decide, List.replicate 8186 0, rfl⟩
    rw [hlength]
    decide
  · intro h
    have hbucket := h.length_eq
    rw [hlength] at hbucket
    revert hbucket
    decide

end Talenro.Analysis
