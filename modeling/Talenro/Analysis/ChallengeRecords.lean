import Talenro.Analysis.PlainPlatform
import Talenro.Model.Deviceauth.Proofs
import Talenro.Model.Identity.Challenges

/-!
# The records of challenges

Both services write a challenge as one text: a prefix, the framed strings, the digests and
the nanoseconds of the expiry.  A reader accepts a text only if the record it returns is
written as that text.  In the other direction a record is read back exactly when its expiry
lies in the years 2020 to 2100 of UTC: the writers check the year on the calendar of the
expiry's own location, the readers on that of UTC.
-/

set_option autoImplicit false

namespace Talenro

open Lib Lib.Calendar

/-- An expiry that the readers accept. -/
def InUTCYears (t : LocalTime) : Prop := 2020 ≤ t.utc.year ∧ t.utc.year ≤ 2100

/-- Such an expiry is read back. -/
theorem InUTCYears.readBack {t : LocalTime} (h : InUTCYears t) :
    LocalTime.mk (ofUnixNanoOctets (unixNanoOctets t.instant)) 0 = t.utc := by
  have hlow : 1700 ≤ (LocalTime.mk t.instant 0).year := le_trans (by norm_num) h.1
  have hhigh : (LocalTime.mk t.instant 0).year ≤ 2200 := le_trans h.2 (by norm_num)
  obtain ⟨hfirst, hlast⟩ := unixNano_bounds hlow hhigh
  rw [ofUnixNanoOctets_unixNanoOctets hfirst hlast]
  rfl

/-- The whole of a text behind what it begins with. -/
theorem eq_append_drop {wire start : Bytes} (h : wire.take start.length = start) :
    wire = start ++ wire.drop start.length := by
  conv_lhs => rw [← List.take_append_drop start.length wire, h]

/-- The digests and the expiry at the end of a text. -/
theorem drop_eq_octets {wire : Bytes} {offset : ℕ} (h : offset + 32 ≤ wire.length) :
    wire.drop offset = (Octets.copy 32 (slice wire offset 32)).1 ++ wire.drop (offset + 32) := by
  rw [Octets.copy_val (slice_length h), ← drop_eq_slice_append]

/-- A digest that stands at an offset is read. -/
theorem octets_of_drop {wire rest : Bytes} {offset : ℕ} {digest : Octets 32}
    (h : wire.drop offset = digest.1 ++ rest) :
    Octets.copy 32 (slice wire offset 32) = digest ∧ wire.drop (offset + 32) = rest := by
  obtain ⟨hslice, hrest⟩ := slice_of_drop h digest.2
  exact ⟨Subtype.ext (by rw [hslice, Octets.copy_val digest.2]), hrest⟩

/-- The expiry at the end of a text is written as it was read. -/
theorem drop_eq_expiry {wire : Bytes} {offset : ℕ} (h : offset + 8 = wire.length) :
    wire.drop offset = unixNanoOctets (ofUnixNanoOctets (slice wire offset 8)) := by
  rw [unixNanoOctets_ofUnixNanoOctets (slice_length h.le)]
  conv_lhs => rw [drop_eq_slice_append wire offset 8, h, List.drop_length, List.append_nil]

/-- An expiry that stands at the end of a text is read. -/
theorem expiry_of_drop {wire : Bytes} {offset : ℕ} {t : Instant}
    (h : wire.drop offset = unixNanoOctets t) : slice wire offset 8 = unixNanoOctets t := by
  rw [slice, h, List.take_of_length_le (unixNanoOctets_length t).le]

/-! ## The device service -/

namespace Deviceauth

variable {P : Platform} {wire text rest : Bytes} {offset next maximumLength : ℕ}
  {record : DeviceChallengeRecord}

/-- What follows the prefix in the text of a record. -/
def challengeRecordBody (record : DeviceChallengeRecord) : Bytes :=
  challengeRecordString record.kind ++ (challengeRecordString record.protocolVersion ++
    (challengeRecordString record.operation ++ (record.challenge.1 ++ (record.grantDigest.1 ++
      (record.contextDigest.1 ++ unixNanoOctets record.expiresAt.instant)))))

theorem encodeChallengeRecord_eq_ok : encodeChallengeRecord P record = .ok wire ↔
    validChallengeRecord P record ∧ challengeRecordPrefix ++ challengeRecordBody record = wire := by
  rw [encodeChallengeRecord, bind_eq_ok]
  simp only [require_eq_ok, pure_eq_ok, exists_const, challengeRecordBody]

theorem decodeChallengeRecordString_of_drop
    (h : wire.drop offset = challengeRecordString text ++ rest) (hempty : text ≠ [])
    (hmax : text.length ≤ maximumLength) (hshort : text.length < 65536) :
    decodeChallengeRecordString wire offset maximumLength =
        .ok (text, offset + 2 + text.length) ∧
      wire.drop (offset + 2 + text.length) = rest := by
  have hlength := congrArg List.length h
  rw [List.length_drop, List.length_append, challengeRecordString, framed_length] at hlength
  have hpos := List.length_pos_of_ne_nil hempty
  obtain ⟨hnumber, hslice, hrest⟩ := framed_of_drop h hshort
  refine ⟨?_, hrest⟩
  simp only [decodeChallengeRecordString, hnumber, hslice]
  rw [require_of (by omega), ok_bind, require_of ⟨hpos.ne', hmax, by omega⟩]
  rfl

theorem decodeChallengeRecordString_ok
    (h : decodeChallengeRecordString wire offset maximumLength = .ok (text, next)) :
    next ≤ wire.length ∧
      wire.drop offset = challengeRecordString text ++ wire.drop next := by
  simp only [decodeChallengeRecordString, bind_eq_ok, require_eq_ok, pure_eq_ok,
    exists_const] at h
  obtain ⟨-, ⟨-, -, hend⟩, heq⟩ := h
  obtain ⟨rfl, rfl⟩ := Prod.mk.inj heq
  exact ⟨hend, drop_eq_framed rfl hend⟩

/-- A text is accepted only if it is that of the record it is read as. -/
theorem encodeChallengeRecord_of_decode {challengeID : Bytes}
    (h : decodeChallengeRecord P challengeID wire = .ok record) :
    encodeChallengeRecord P record = .ok wire := by
  simp only [decodeChallengeRecord, bind_eq_ok, require_eq_ok, pure_eq_ok, exists_const,
    Prod.exists] at h
  obtain ⟨⟨-, hstart⟩, kind, o1, hkind, protocol, o2, hprotocol, operation, o3, hoperation,
    hend, hvalid, rfl⟩ := h
  refine encodeChallengeRecord_eq_ok.mpr ⟨hvalid, ?_⟩
  rw [challengeRecordBody, ← drop_eq_expiry (by omega)]
  rw [show o3 + 96 = o3 + 64 + 32 by omega, ← drop_eq_octets (by omega)]
  rw [show o3 + 64 = o3 + 32 + 32 by omega, ← drop_eq_octets (by omega),
    ← drop_eq_octets (by omega), ← (decodeChallengeRecordString_ok hoperation).2,
    ← (decodeChallengeRecordString_ok hprotocol).2, ← (decodeChallengeRecordString_ok hkind).2]
  exact (eq_append_drop hstart).symm

/-- The strings of a record that is written have the lengths the reader asks for. -/
theorem validChallengeRecord_strings (h : validChallengeRecord P record = true) :
    (record.kind ≠ [] ∧ record.kind.length ≤ maximumChallengeKindBytes) ∧
      (record.protocolVersion ≠ [] ∧
        record.protocolVersion.length ≤ maximumChallengeProtocolBytes) ∧
      record.operation ≠ [] ∧ record.operation.length ≤ maximumChallengeOperationBytes := by
  simp only [validChallengeRecord, Bool.and_eq_true, Bool.or_eq_true, beq_iff_eq] at h
  obtain ⟨⟨-, hcontract⟩, -⟩ := h
  rcases hcontract with ⟨⟨hkind, hprotocol⟩, hoperation⟩ | ⟨⟨hkind, hprotocol⟩, hoperation⟩
  · rw [hkind, hprotocol, hoperation]
    decide
  · rw [hkind, hprotocol, hoperation]
    decide

/-- The same record with its expiry in UTC passes the check when its year does. -/
theorem validChallengeRecord_utc (h : validChallengeRecord P record = true) :
    validChallengeRecord P { record with expiresAt := record.expiresAt.utc } = true ↔
      InUTCYears record.expiresAt := by
  simp only [validChallengeRecord, Bool.and_eq_true, decide_eq_true_eq] at h ⊢
  obtain ⟨hstrings, hchallenge, hgrant, hcontext, hzero, -⟩ := h
  exact ⟨fun hutc => hutc.2.2.2.2.2, fun hyears => ⟨hstrings, hchallenge, hgrant, hcontext, hzero,
    hyears⟩⟩

/-- What the reader makes of the text of a record: the check is made again, at UTC. -/
theorem decodeChallengeRecord_of_encode (hvalid : validChallengeRecord P record = true)
    (hwire : challengeRecordPrefix ++ challengeRecordBody record = wire) :
    decodeChallengeRecord P record.challengeID wire =
      (let read := { record with
        expiresAt := ⟨ofUnixNanoOctets (unixNanoOctets record.expiresAt.instant), 0⟩ }
      do
        require (validChallengeRecord P read) .challengeUnavailable
        pure read) := by
  obtain ⟨⟨hkind, hkindMax⟩, ⟨hprotocol, hprotocolMax⟩, hoperation, hoperationMax⟩ :=
    validChallengeRecord_strings hvalid
  have hbody : wire.drop challengeRecordPrefix.length = challengeRecordBody record := by
    rw [← hwire, List.drop_left]
  obtain ⟨hreadKind, h1⟩ := decodeChallengeRecordString_of_drop hbody hkind hkindMax
    (hkindMax.trans_lt (by decide))
  obtain ⟨hreadProtocol, h2⟩ := decodeChallengeRecordString_of_drop h1 hprotocol hprotocolMax
    (hprotocolMax.trans_lt (by decide))
  obtain ⟨hreadOperation, h3⟩ := decodeChallengeRecordString_of_drop h2 hoperation hoperationMax
    (hoperationMax.trans_lt (by decide))
  obtain ⟨hchallenge, h4⟩ := octets_of_drop h3
  obtain ⟨hgrant, h5⟩ := octets_of_drop h4
  obtain ⟨hcontext, h6⟩ := octets_of_drop h5
  have hexpiry := expiry_of_drop h6
  have hlength := congrArg List.length hwire
  simp only [challengeRecordBody, challengeRecordString, List.length_append, framed_length,
    unixNanoOctets_length, record.challenge.2, record.grantDigest.2,
    record.contextDigest.2] at hlength
  have hstart : wire.take challengeRecordPrefix.length = challengeRecordPrefix := by
    rw [← hwire, List.take_left]
  simp only [Nat.add_assoc, Nat.reduceAdd] at hchallenge hgrant hcontext hexpiry
  simp only [decodeChallengeRecord]
  rw [require_of ⟨by omega, hstart⟩, ok_bind, hreadKind, ok_bind, hreadProtocol, ok_bind,
    hreadOperation, ok_bind, require_of (by omega), ok_bind]
  simp only [Nat.add_assoc, hchallenge, hgrant, hcontext, hexpiry]

/-- A record is read back exactly when its expiry lies in the years of UTC that are accepted. -/
theorem decodeChallengeRecord_encode (hvalid : validChallengeRecord P record = true) :
    (encodeChallengeRecord P record >>= decodeChallengeRecord P record.challengeID) =
        .ok { record with expiresAt := record.expiresAt.utc } ↔
      InUTCYears record.expiresAt := by
  have hencode : encodeChallengeRecord P record =
      .ok (challengeRecordPrefix ++ challengeRecordBody record) :=
    encodeChallengeRecord_eq_ok.mpr ⟨hvalid, rfl⟩
  rw [hencode, ok_bind, decodeChallengeRecord_of_encode hvalid rfl,
    ← validChallengeRecord_utc hvalid]
  simp only [bind_eq_ok, require_eq_ok, pure_eq_ok, exists_const]
  constructor
  · rintro ⟨hread, heq⟩
    rwa [heq] at hread
  · intro hutc
    have hyears := (validChallengeRecord_utc hvalid).mp hutc
    rw [hyears.readBack]
    exact ⟨hutc, rfl⟩

end Deviceauth

/-! ## The identity service -/

namespace Identity

variable {P : Platform} {wire : Bytes} {record : AccountChallengeRecord}

/-- What follows the prefix in the text of a record. -/
def challengeRecordBody (record : AccountChallengeRecord) : Bytes :=
  framed 2 record.protocolVersion ++ (framed 2 record.operation ++ (record.challenge.1 ++
    (record.contextDigest.1 ++ unixNanoOctets record.expiresAt.instant)))

theorem encodeChallengeRecord_eq_ok : encodeChallengeRecord P record = .ok wire ↔
    validChallengeRecord P record ∧ challengeRecordPrefix ++ challengeRecordBody record = wire := by
  rw [encodeChallengeRecord, bind_eq_ok]
  simp only [require_eq_ok, pure_eq_ok, exists_const, challengeRecordBody]

/-- A text is accepted only if it is that of the record it is read as. -/
theorem encodeChallengeRecord_of_decode {challengeID : Bytes}
    (h : decodeChallengeRecord P challengeID wire = .ok record) :
    encodeChallengeRecord P record = .ok wire := by
  simp only [decodeChallengeRecord, bind_eq_ok, require_eq_ok, pure_eq_ok, exists_const] at h
  obtain ⟨⟨-, hstart⟩, ⟨-, hprotocol⟩, ⟨-, hend⟩, hvalid, rfl⟩ := h
  refine encodeChallengeRecord_eq_ok.mpr ⟨hvalid, ?_⟩
  -- The texts and the digests are put back from the last one to the first.
  rw [challengeRecordBody, ← drop_eq_expiry (by omega)]
  generalize hlength : ofBigEndian (slice wire challengeRecordPrefix.length 2) = length at *
  generalize ho : challengeRecordPrefix.length + 2 + length = o at *
  generalize hlength' : ofBigEndian (slice wire o 2) = length' at *
  rw [show o + 2 + length' + 64 = o + 2 + length' + 32 + 32 by omega,
    ← drop_eq_octets (by omega), ← drop_eq_octets (by omega), ← drop_eq_framed hlength' (by omega),
    ← ho, ← drop_eq_framed hlength (by omega)]
  exact (eq_append_drop hstart).symm

/-- The strings of a record that is written are the two of the contract. -/
theorem validChallengeRecord_strings (h : validChallengeRecord P record = true) :
    record.protocolVersion = accountRotationProtocolVersion ∧
      record.operation = accountRotationOperation := by
  simp only [validChallengeRecord, Bool.and_eq_true, beq_iff_eq] at h
  exact ⟨h.1.1.2, h.1.2⟩

/-- The same record with its expiry in UTC passes the check when its year does. -/
theorem validChallengeRecord_utc (h : validChallengeRecord P record = true) :
    validChallengeRecord P { record with expiresAt := record.expiresAt.utc } = true ↔
      InUTCYears record.expiresAt := by
  simp only [validChallengeRecord, Bool.and_eq_true, decide_eq_true_eq] at h ⊢
  obtain ⟨hstrings, hchallenge, hcontext, hzero, -⟩ := h
  exact ⟨fun hutc => hutc.2.2.2.2, fun hyears => ⟨hstrings, hchallenge, hcontext, hzero, hyears⟩⟩

/-- What the reader makes of the text of a record: the check is made again, at UTC. -/
theorem decodeChallengeRecord_of_encode (hvalid : validChallengeRecord P record = true)
    (hwire : challengeRecordPrefix ++ challengeRecordBody record = wire) :
    decodeChallengeRecord P record.challengeID wire =
      (let read := { record with
        expiresAt := ⟨ofUnixNanoOctets (unixNanoOctets record.expiresAt.instant), 0⟩ }
      do
        require (validChallengeRecord P read) .challengeUnavailable
        pure read) := by
  obtain ⟨hprotocol, hoperation⟩ := validChallengeRecord_strings hvalid
  have hprotocolShort : record.protocolVersion.length < 256 ^ 2 := by
    rw [hprotocol]
    decide
  have hoperationShort : record.operation.length < 256 ^ 2 := by
    rw [hoperation]
    decide
  have hbody : wire.drop challengeRecordPrefix.length = challengeRecordBody record := by
    rw [← hwire, List.drop_left]
  obtain ⟨hlength1, htext1, h1⟩ := framed_of_drop hbody hprotocolShort
  obtain ⟨hlength2, htext2, h2⟩ := framed_of_drop h1 hoperationShort
  obtain ⟨hchallenge, h3⟩ := octets_of_drop h2
  obtain ⟨hcontext, h4⟩ := octets_of_drop h3
  have hexpiry := expiry_of_drop h4
  have hlength := congrArg List.length hwire
  simp only [challengeRecordBody, List.length_append, framed_length, unixNanoOctets_length,
    record.challenge.2, record.contextDigest.2] at hlength
  have hstart : wire.take challengeRecordPrefix.length = challengeRecordPrefix := by
    rw [← hwire, List.take_left]
  rw [Nat.add_assoc _ 32 32] at hexpiry
  simp only [decodeChallengeRecord]
  rw [require_of ⟨by omega, hstart⟩, ok_bind, hlength1,
    require_of ⟨congrArg List.length hprotocol, by omega⟩, ok_bind, hlength2,
    require_of ⟨congrArg List.length hoperation, by omega⟩, ok_bind, htext1, htext2, hchallenge,
    hcontext, hexpiry]

/-- A record is read back exactly when its expiry lies in the years of UTC that are accepted. -/
theorem decodeChallengeRecord_encode (hvalid : validChallengeRecord P record = true) :
    (encodeChallengeRecord P record >>= decodeChallengeRecord P record.challengeID) =
        .ok { record with expiresAt := record.expiresAt.utc } ↔
      InUTCYears record.expiresAt := by
  have hencode : encodeChallengeRecord P record =
      .ok (challengeRecordPrefix ++ challengeRecordBody record) :=
    encodeChallengeRecord_eq_ok.mpr ⟨hvalid, rfl⟩
  rw [hencode, ok_bind, decodeChallengeRecord_of_encode hvalid rfl,
    ← validChallengeRecord_utc hvalid]
  simp only [bind_eq_ok, require_eq_ok, pure_eq_ok, exists_const]
  constructor
  · rintro ⟨hread, heq⟩
    rwa [heq] at hread
  · intro hutc
    have hyears := (validChallengeRecord_utc hvalid).mp hutc
    rw [hyears.readBack]
    exact ⟨hutc, rfl⟩

end Identity

/-! ## Both services -/

namespace Analysis

/-- A valid record is read back exactly when its expiry lies in the years 2020 to 2100 of UTC,
and nothing but the text of a record is read as that record. -/
theorem challengeRecords_read_back (P : Platform) :
    (∀ record : Deviceauth.DeviceChallengeRecord, Deviceauth.validChallengeRecord P record = true →
      ((Deviceauth.encodeChallengeRecord P record >>=
          Deviceauth.decodeChallengeRecord P record.challengeID) =
        .ok { record with expiresAt := record.expiresAt.utc } ↔ InUTCYears record.expiresAt)) ∧
    (∀ record : Identity.AccountChallengeRecord, Identity.validChallengeRecord P record = true →
      ((Identity.encodeChallengeRecord P record >>=
          Identity.decodeChallengeRecord P record.challengeID) =
        .ok { record with expiresAt := record.expiresAt.utc } ↔ InUTCYears record.expiresAt)) ∧
    (∀ challengeID wire record, Deviceauth.decodeChallengeRecord P challengeID wire = .ok record →
      Deviceauth.encodeChallengeRecord P record = .ok wire) ∧
    (∀ challengeID wire record, Identity.decodeChallengeRecord P challengeID wire = .ok record →
      Identity.encodeChallengeRecord P record = .ok wire) :=
  ⟨fun _ hvalid => Deviceauth.decodeChallengeRecord_encode hvalid,
    fun _ hvalid => Identity.decodeChallengeRecord_encode hvalid,
    fun _ _ _ h => Deviceauth.encodeChallengeRecord_of_decode h,
    fun _ _ _ h => Identity.encodeChallengeRecord_of_decode h⟩

/-- A challenge of a registration that expires at a given time. -/
def plainDeviceChallenge (expiresAt : LocalTime) : Deviceauth.DeviceChallengeRecord where
  challengeID := uuidText (Octets.replicate 16 1)
  kind := Deviceauth.challengeRegistration
  protocolVersion := Deviceauth.deviceProofProtocolVersion
  operation := Deviceauth.registerDeviceOperation
  challenge := Octets.replicate 32 1
  grantDigest := Octets.replicate 32 2
  contextDigest := Octets.replicate 32 3
  expiresAt := expiresAt

/-- A challenge of an account session that expires at a given time. -/
def plainAccountChallenge (expiresAt : LocalTime) : Identity.AccountChallengeRecord where
  challengeID := uuidText (Octets.replicate 16 1)
  protocolVersion := Identity.accountRotationProtocolVersion
  operation := Identity.accountRotationOperation
  challenge := Octets.replicate 32 1
  contextDigest := Octets.replicate 32 3
  expiresAt := expiresAt

/-- 2026-01-01T00:00:00Z. -/
def plainExpiry : LocalTime := ⟨739616 * day, 0⟩

theorem plainChallenges_read_back :
    (∃ wire, Deviceauth.encodeChallengeRecord plainPlatform (plainDeviceChallenge plainExpiry) =
        .ok wire ∧
      Deviceauth.decodeChallengeRecord plainPlatform (uuidText (Octets.replicate 16 1)) wire =
        .ok (plainDeviceChallenge plainExpiry) ∧
      Deviceauth.encodeChallengeRecord plainPlatform (plainDeviceChallenge plainExpiry) =
        .ok wire) ∧
    ∃ wire, Identity.encodeChallengeRecord plainPlatform (plainAccountChallenge plainExpiry) =
        .ok wire ∧
      Identity.decodeChallengeRecord plainPlatform (uuidText (Octets.replicate 16 1)) wire =
        .ok (plainAccountChallenge plainExpiry) ∧
      Identity.encodeChallengeRecord plainPlatform (plainAccountChallenge plainExpiry) =
        .ok wire := by
  obtain ⟨hdevice, haccount, hdeviceText, haccountText⟩ :=
    challengeRecords_read_back plainPlatform
  have hyears : InUTCYears plainExpiry := by
    unfold InUTCYears
    decide +kernel
  have hd := (hdevice (plainDeviceChallenge plainExpiry) (by decide +kernel)).mpr hyears
  have ha := (haccount (plainAccountChallenge plainExpiry) (by decide +kernel)).mpr hyears
  obtain ⟨deviceWire, hdw, hdr⟩ := bind_eq_ok.mp hd
  obtain ⟨accountWire, haw, har⟩ := bind_eq_ok.mp ha
  exact ⟨⟨deviceWire, hdw, hdr, hdeviceText _ _ _ hdr⟩, accountWire, haw, har,
    haccountText _ _ _ har⟩

/-- 2020-01-01T00:00:00+14:00, which is still in 2019 in UTC. -/
def newYearExpiry : LocalTime := ⟨737424 * day - 14 * hour, 14 * hour⟩

theorem newYearChallenge_not_read_back :
    Deviceauth.validChallengeRecord plainPlatform (plainDeviceChallenge newYearExpiry) = true ∧
      (Deviceauth.encodeChallengeRecord plainPlatform (plainDeviceChallenge newYearExpiry) >>=
        Deviceauth.decodeChallengeRecord plainPlatform (uuidText (Octets.replicate 16 1))) =
        .error .challengeUnavailable := by
  decide +kernel

end Analysis

end Talenro
