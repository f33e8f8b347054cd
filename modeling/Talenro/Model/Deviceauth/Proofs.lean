import Talenro.Lib.Checks
import Talenro.Lib.Framing
import Talenro.Model.Wire

/-!
# Proofs and challenges of the device service

The transcripts a device signs, and the record of a challenge in Redis.  Strings are
framed by their lengths, everything else has a fixed length.

Sources named without a directory are in `internal/deviceauth`.
-/

set_option autoImplicit false

namespace Talenro.Deviceauth

open Lib Lib.Calendar

/-! ## Transcripts

SOURCE: pop.go:14-20, rotate.go:28 -/

def deviceProofPrefix : Bytes := ascii "TALENRO-DEVICE-POP-V1\x00"
def deviceProofProtocolVersion : Bytes := ascii "device-pop-v1"
def registerDeviceOperation : Bytes := ascii "register_device"
def maximumProofNameBytes : ℕ := 64
def maximumProofAudienceBytes : ℕ := 2048
def deviceRotationProofPrefix : Bytes := ascii "TALENRO-DEVICE-ROTATION-V1\x00"

/-- SOURCE: types.go:34-44 -/
structure ProofInput where
  protocolVersion : Bytes
  challenge : Octets 32
  grantDigest : Octets 32
  signingPublicKey : Octets 32
  hpkePublicKey : Octets 32
  operation : Bytes
  audience : Bytes
  requestNonce : Octets 32
deriving DecidableEq

/-- SOURCE: rotate.go:757-765 -/
structure DeviceRotationProofInput where
  protocolVersion : Bytes
  challenge : Octets 32
  familyID : UUID
  operation : Bytes
  audience : Bytes
  requestNonce : Octets 32
deriving DecidableEq

/-- SOURCE: pop.go:73-75 -/
def validProofString (value : Bytes) (maximum : ℕ) : Bool :=
  decide (0 < value.length ∧ value.length ≤ maximum) && Utf8.valid value

/-- SOURCE: pop.go:65-71 -/
def proofString (value : Bytes) : Bytes := framed 4 value

/-- SOURCE: rotate.go:785-791 -/
def deviceRotationString (value : Bytes) : Bytes := framed 4 value

/-- `ProofBytes`; it is nil for an input that it does not accept.

SOURCE: pop.go:27-47 -/
def proofBytes (input : ProofInput) : Option Bytes := do
  guard (validProofString input.protocolVersion maximumProofNameBytes ∧
    validProofString input.operation maximumProofNameBytes ∧
    validProofString input.audience maximumProofAudienceBytes ∧
    input.challenge ≠ Octets.replicate 32 0 ∧ input.grantDigest ≠ Octets.replicate 32 0 ∧
    input.signingPublicKey ≠ Octets.replicate 32 0 ∧ input.hpkePublicKey ≠ Octets.replicate 32 0 ∧
    input.requestNonce ≠ Octets.replicate 32 0)
  pure (deviceProofPrefix ++ (proofString input.protocolVersion ++ (input.challenge.1 ++
    (input.grantDigest.1 ++ (input.signingPublicKey.1 ++ (input.hpkePublicKey.1 ++
      (proofString input.operation ++ (proofString input.audience ++ input.requestNonce.1))))))))

/-- `DeviceRotationProofBytes`.  The version and the operation need not be UTF-8.

SOURCE: rotate.go:767-783 -/
def deviceRotationProofBytes (input : DeviceRotationProofInput) : Option Bytes := do
  guard (input.protocolVersion ≠ [] ∧ input.protocolVersion.length ≤ maximumProofNameBytes ∧
    input.challenge ≠ Octets.replicate 32 0 ∧ input.familyID ≠ UUID.zero ∧
    input.operation ≠ [] ∧ input.operation.length ≤ maximumProofNameBytes ∧
    validProofString input.audience maximumProofAudienceBytes ∧
    input.requestNonce ≠ Octets.replicate 32 0)
  pure (deviceRotationProofPrefix ++ (deviceRotationString input.protocolVersion ++
    (input.challenge.1 ++ (input.familyID.1 ++ (deviceRotationString input.operation ++
      (deviceRotationString input.audience ++ input.requestNonce.1))))))

/-! ## Challenges

SOURCE: challenge_store.go:18-26, types.go:27-32 -/

def challengeRecordPrefix : Bytes := ascii "TALENRO-DEVICE-CHALLENGE-V1\x00"
def deviceRotationProtocolVersion : Bytes := ascii "device-token-rotation-v1"
def rotateDeviceTokenOperation : Bytes := ascii "rotate_device_token"
def challengeRegistration : Bytes := ascii "registration"
def challengeRotation : Bytes := ascii "rotation"
def maximumChallengeKindBytes : ℕ := challengeRegistration.length
def maximumChallengeProtocolBytes : ℕ := deviceRotationProtocolVersion.length
def maximumChallengeOperationBytes : ℕ := rotateDeviceTokenOperation.length

/-- SOURCE: challenge_store.go:28-35 -/
inductive ChallengeError where
  | invalidChallenge
  | challengeNotFound
  | challengeUnavailable
deriving DecidableEq

/-- `ChallengeRecord` of the device service.

SOURCE: challenge_store.go:37-47 -/
structure DeviceChallengeRecord where
  challengeID : Bytes
  kind : Bytes
  protocolVersion : Bytes
  operation : Bytes
  challenge : Octets 32
  grantDigest : Octets 32
  contextDigest : Octets 32
  expiresAt : LocalTime
deriving DecidableEq

/-- SOURCE: challenge_store.go:147-154 -/
def validChallengeRecord (P : Platform) (record : DeviceChallengeRecord) : Bool :=
  let validContract :=
    (record.kind == challengeRegistration &&
      record.protocolVersion == deviceProofProtocolVersion &&
      record.operation == registerDeviceOperation) ||
    (record.kind == challengeRotation &&
      record.protocolVersion == deviceRotationProtocolVersion &&
      record.operation == rotateDeviceTokenOperation)
  canonicalUUID P record.challengeID && validContract &&
    decide (record.challenge ≠ Octets.replicate 32 0 ∧ record.grantDigest ≠ Octets.replicate 32 0 ∧
      record.contextDigest ≠ Octets.replicate 32 0 ∧ record.expiresAt.instant ≠ 0 ∧
      2020 ≤ record.expiresAt.year ∧ record.expiresAt.year ≤ 2100)

/-- SOURCE: challenge_store.go:127-133 -/
def challengeRecordString (value : Bytes) : Bytes := framed 2 value

/-- SOURCE: challenge_store.go:70-90 -/
def encodeChallengeRecord (P : Platform) (record : DeviceChallengeRecord) :
    Except ChallengeError Bytes := do
  require (validChallengeRecord P record) .invalidChallenge
  pure (challengeRecordPrefix ++ (challengeRecordString record.kind ++
    (challengeRecordString record.protocolVersion ++ (challengeRecordString record.operation ++
      (record.challenge.1 ++ (record.grantDigest.1 ++ (record.contextDigest.1 ++
        unixNanoOctets record.expiresAt.instant)))))))

/-- A string and the offset behind it.

SOURCE: challenge_store.go:135-145 -/
def decodeChallengeRecordString (wire : Bytes) (offset maximumLength : ℕ) :
    Except ChallengeError (Bytes × ℕ) := do
  require (offset + 2 ≤ wire.length) .challengeUnavailable
  let length := ofBigEndian (slice wire offset 2)
  require (length ≠ 0 ∧ length ≤ maximumLength ∧ offset + 2 + length ≤ wire.length)
    .challengeUnavailable
  pure (slice wire (offset + 2) length, offset + 2 + length)

/-- SOURCE: challenge_store.go:92-125 -/
def decodeChallengeRecord (P : Platform) (challengeID wire : Bytes) :
    Except ChallengeError DeviceChallengeRecord := do
  let minimum := challengeRecordPrefix.length + 6 + 32 * 3 + 8
  require (minimum ≤ wire.length ∧
    wire.take challengeRecordPrefix.length = challengeRecordPrefix) .challengeUnavailable
  let offset := challengeRecordPrefix.length
  let (kind, offset) ← decodeChallengeRecordString wire offset maximumChallengeKindBytes
  let (protocol, offset) ← decodeChallengeRecordString wire offset maximumChallengeProtocolBytes
  let (operation, offset) ← decodeChallengeRecordString wire offset maximumChallengeOperationBytes
  require (offset + 32 * 3 + 8 = wire.length) .challengeUnavailable
  let record : DeviceChallengeRecord :=
    { challengeID := challengeID
      kind := kind
      protocolVersion := protocol
      operation := operation
      challenge := Octets.copy 32 (slice wire offset 32)
      grantDigest := Octets.copy 32 (slice wire (offset + 32) 32)
      contextDigest := Octets.copy 32 (slice wire (offset + 64) 32)
      expiresAt := ⟨ofUnixNanoOctets (slice wire (offset + 96) 8), 0⟩ }
  require (validChallengeRecord P record) .challengeUnavailable
  pure record

end Talenro.Deviceauth
