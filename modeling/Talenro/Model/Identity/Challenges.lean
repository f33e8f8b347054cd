import Talenro.Lib.Framing
import Talenro.Model.Identity.Credentials

/-!
# Proofs and challenges of the identity service

The transcript that rotates the tokens of an account session, for any protocol version and
operation, and the record of a challenge in Redis.
-/

set_option autoImplicit false

namespace Talenro.Identity

open Lib Lib.Calendar

/-! ## The transcript -/

/-- SOURCE: internal/identity/session.go:94-102 -/
structure AccountRotationProofInput where
  protocolVersion : Bytes
  challenge : Octets 32
  sessionID : UUID
  operation : Bytes
  audience : Bytes
  requestNonce : Octets 32
deriving DecidableEq

/-- `AccountRotationProofBytes`.  No string need be UTF-8.

SOURCE: internal/identity/session.go:119-134 -/
def AccountRotationProofInput.proofBytes (input : AccountRotationProofInput) : Option Bytes := do
  guard (input.protocolVersion ≠ [] ∧ input.protocolVersion.length ≤ 64 ∧
    input.challenge ≠ Octets.replicate 32 0 ∧ input.sessionID ≠ UUID.zero ∧
    input.operation ≠ [] ∧ input.operation.length ≤ 64 ∧ input.audience ≠ [] ∧
    input.audience.length ≤ 2048 ∧ input.requestNonce ≠ Octets.replicate 32 0)
  pure (accountRotationProofPrefix ++ (rotationString input.protocolVersion ++
    (input.challenge.1 ++ (input.sessionID.1 ++ (rotationString input.operation ++
      (rotationString input.audience ++ input.requestNonce.1))))))

/-! ## Challenges

SOURCE: internal/identity/challenge_store.go:17-22 -/

def challengeRecordPrefix : Bytes := ascii "TALENRO-ACCOUNT-CHALLENGE-RECORD-V1\x00"

/-- SOURCE: internal/identity/challenge_store.go:24-31 -/
inductive ChallengeError where
  | invalidChallenge
  | challengeNotFound
  | challengeUnavailable
deriving DecidableEq

/-- `ChallengeRecord` of the identity service.

SOURCE: internal/identity/challenge_store.go:33-42 -/
structure AccountChallengeRecord where
  challengeID : Bytes
  protocolVersion : Bytes
  operation : Bytes
  challenge : Octets 32
  contextDigest : Octets 32
  expiresAt : LocalTime
deriving DecidableEq

/-- SOURCE: internal/identity/challenge_store.go:125-131 -/
def validChallengeRecord (P : Platform) (record : AccountChallengeRecord) : Bool :=
  canonicalUUID P record.challengeID && record.protocolVersion == accountRotationProtocolVersion &&
    record.operation == accountRotationOperation &&
    decide (record.challenge ≠ Octets.replicate 32 0 ∧
      record.contextDigest ≠ Octets.replicate 32 0 ∧ record.expiresAt.instant ≠ 0 ∧
      2020 ≤ record.expiresAt.year ∧ record.expiresAt.year ≤ 2100)

/-- SOURCE: internal/identity/challenge_store.go:65-88 -/
def encodeChallengeRecord (P : Platform) (record : AccountChallengeRecord) :
    Except ChallengeError Bytes := do
  require (validChallengeRecord P record) .invalidChallenge
  pure (challengeRecordPrefix ++ (framed 2 record.protocolVersion ++ (framed 2 record.operation ++
    (record.challenge.1 ++ (record.contextDigest.1 ++ unixNanoOctets record.expiresAt.instant)))))

/-- SOURCE: internal/identity/challenge_store.go:90-123 -/
def decodeChallengeRecord (P : Platform) (challengeID wire : Bytes) :
    Except ChallengeError AccountChallengeRecord := do
  let minimum := challengeRecordPrefix.length + 2 + 2 + 32 * 2 + 8
  require (minimum ≤ wire.length ∧
    wire.take challengeRecordPrefix.length = challengeRecordPrefix) .challengeUnavailable
  let offset := challengeRecordPrefix.length
  let protocolLength := ofBigEndian (slice wire offset 2)
  let offset := offset + 2
  require (protocolLength = accountRotationProtocolVersion.length ∧
    offset + protocolLength + 2 ≤ wire.length) .challengeUnavailable
  let protocol := slice wire offset protocolLength
  let offset := offset + protocolLength
  let operationLength := ofBigEndian (slice wire offset 2)
  let offset := offset + 2
  require (operationLength = accountRotationOperation.length ∧
    offset + operationLength + 32 * 2 + 8 = wire.length) .challengeUnavailable
  let operation := slice wire offset operationLength
  let offset := offset + operationLength
  let record : AccountChallengeRecord :=
    { challengeID := challengeID
      protocolVersion := protocol
      operation := operation
      challenge := Octets.copy 32 (slice wire offset 32)
      contextDigest := Octets.copy 32 (slice wire (offset + 32) 32)
      expiresAt := ⟨ofUnixNanoOctets (slice wire (offset + 64) 8), 0⟩ }
  require (validChallengeRecord P record) .challengeUnavailable
  pure record

end Talenro.Identity
