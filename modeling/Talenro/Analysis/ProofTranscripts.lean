import Talenro.Analysis.PlainPlatform
import Talenro.Model.Deviceauth.Proofs
import Talenro.Model.Identity.Challenges

/-!
# The transcripts of proofs

A device signs a transcript when it registers and when it rotates its tokens, a client when
it rotates the tokens of an account session.  The bytes of a transcript determine which
of the three it is and every field of it (`ProofRequest.eq_of_transcript`): the prefixes differ
within their first sixteen octets, strings are framed, and all other fields have a fixed
length.
-/

set_option autoImplicit false

namespace Talenro.Analysis

open Lib

/-- A request that is proved by a signature. -/
inductive ProofRequest where
  | registration (input : Deviceauth.ProofInput)
  | deviceRotation (input : Deviceauth.DeviceRotationProofInput)
  | accountRotation (input : Identity.AccountRotationProofInput)
deriving DecidableEq

namespace ProofRequest

/-- The transcript of a request that is accepted. -/
def transcript : ProofRequest → Option Bytes
  | .registration input => Deviceauth.proofBytes input
  | .deviceRotation input => Deviceauth.deviceRotationProofBytes input
  | .accountRotation input => input.proofBytes

/-- The signature verifies for the transcript of the request. -/
def VerifiedBy (P : Platform) (key signature : Bytes) (request : ProofRequest) : Prop :=
  ∃ message, request.transcript = some message ∧ P.ed25519Verify key message signature = true

/-- The first octets of a transcript. -/
def head : ProofRequest → Bytes
  | .registration _ => ascii "TALENRO-DEVICE-P"
  | .deviceRotation _ => ascii "TALENRO-DEVICE-R"
  | .accountRotation _ => ascii "TALENRO-ACCOUNT-"

end ProofRequest

/-! ## One transcript -/

section Fields

theorem name_lt {value : Bytes} (h : value.length ≤ 2048) : value.length < 256 ^ 4 :=
  lt_of_le_of_lt h (by norm_num)

theorem length_of_validProofString {value : Bytes} {maximum : ℕ}
    (h : Deviceauth.validProofString value maximum = true) : value.length ≤ maximum := by
  simp only [Deviceauth.validProofString, Bool.and_eq_true, decide_eq_true_eq] at h
  exact h.1.2

/-- The fields that the two transcripts for rotations have behind their prefixes. -/
theorem rotation_fields_inj {version version' operation operation' audience audience' : Bytes}
    {challenge challenge' nonce nonce' : Octets 32} {id id' : UUID}
    (hversion : version.length ≤ 2048) (hversion' : version'.length ≤ 2048)
    (hoperation : operation.length ≤ 2048) (hoperation' : operation'.length ≤ 2048)
    (haudience : audience.length ≤ 2048) (haudience' : audience'.length ≤ 2048)
    (h : framed 4 version ++ (challenge.1 ++ (id.1 ++ (framed 4 operation ++
        (framed 4 audience ++ nonce.1)))) =
      framed 4 version' ++ (challenge'.1 ++ (id'.1 ++ (framed 4 operation' ++
        (framed 4 audience' ++ nonce'.1))))) :
    version = version' ∧ challenge = challenge' ∧ id = id' ∧ operation = operation' ∧
      audience = audience' ∧ nonce = nonce' := by
  obtain ⟨hv, h1⟩ := framed_append_inj (name_lt hversion) (name_lt hversion') h
  obtain ⟨hc, h2⟩ := octets_append_inj h1
  obtain ⟨hi, h3⟩ := octets_append_inj h2
  obtain ⟨ho, h4⟩ := framed_append_inj (name_lt hoperation) (name_lt hoperation') h3
  obtain ⟨hu, h5⟩ := framed_append_inj (name_lt haudience) (name_lt haudience') h4
  exact ⟨hv, hc, hi, ho, hu, Subtype.ext h5⟩

end Fields

section Inputs

variable {message : Bytes}

theorem proofBytes_inj {a b : Deviceauth.ProofInput} (ha : Deviceauth.proofBytes a = some message)
    (hb : Deviceauth.proofBytes b = some message) : a = b := by
  simp only [Deviceauth.proofBytes, Option.bind_eq_bind, Option.bind_eq_some_iff,
    Option.guard_eq_some', Option.pure_def, Option.some.injEq] at ha hb
  obtain ⟨-, ⟨hversion, hoperation, haudience, -⟩, rfl⟩ := ha
  obtain ⟨-, ⟨hversion', hoperation', haudience', -⟩, h⟩ := hb
  have hname : ∀ {value : Bytes},
      Deviceauth.validProofString value Deviceauth.maximumProofNameBytes = true →
      value.length < 256 ^ 4 := fun hvalid =>
    name_lt ((length_of_validProofString hvalid).trans (by decide))
  have haudience_lt : ∀ {value : Bytes},
      Deviceauth.validProofString value Deviceauth.maximumProofAudienceBytes = true →
      value.length < 256 ^ 4 := fun hvalid => name_lt (length_of_validProofString hvalid)
  obtain ⟨hv, h1⟩ := framed_append_inj (hname hversion') (hname hversion)
    (List.append_cancel_left h)
  obtain ⟨hc, h2⟩ := octets_append_inj h1
  obtain ⟨hg, h3⟩ := octets_append_inj h2
  obtain ⟨hs, h4⟩ := octets_append_inj h3
  obtain ⟨hk, h5⟩ := octets_append_inj h4
  obtain ⟨ho, h6⟩ := framed_append_inj (hname hoperation') (hname hoperation) h5
  obtain ⟨hu, h7⟩ := framed_append_inj (haudience_lt haudience') (haudience_lt haudience) h6
  have hn : b.requestNonce = a.requestNonce := Subtype.ext h7
  cases a
  cases b
  simp_all only

theorem deviceRotationProofBytes_inj {a b : Deviceauth.DeviceRotationProofInput}
    (ha : Deviceauth.deviceRotationProofBytes a = some message)
    (hb : Deviceauth.deviceRotationProofBytes b = some message) : a = b := by
  simp only [Deviceauth.deviceRotationProofBytes, Option.bind_eq_bind, Option.bind_eq_some_iff,
    Option.guard_eq_some', Option.pure_def, Option.some.injEq] at ha hb
  obtain ⟨-, ⟨-, hversion, -, -, -, hoperation, haudience, -⟩, rfl⟩ := ha
  obtain ⟨-, ⟨-, hversion', -, -, -, hoperation', haudience', -⟩, h⟩ := hb
  have hname : Deviceauth.maximumProofNameBytes ≤ 2048 := by decide
  obtain ⟨hv, hc, hi, ho, hu, hn⟩ := rotation_fields_inj (hversion'.trans hname)
    (hversion.trans hname) (hoperation'.trans hname) (hoperation.trans hname)
    (length_of_validProofString haudience') (length_of_validProofString haudience)
    (List.append_cancel_left h)
  cases a
  cases b
  simp_all only

theorem accountRotationProofBytes_inj {a b : Identity.AccountRotationProofInput}
    (ha : a.proofBytes = some message) (hb : b.proofBytes = some message) : a = b := by
  simp only [Identity.AccountRotationProofInput.proofBytes, Option.bind_eq_bind,
    Option.bind_eq_some_iff, Option.guard_eq_some', Option.pure_def, Option.some.injEq] at ha hb
  obtain ⟨-, ⟨-, hversion, -, -, -, hoperation, -, haudience, -⟩, rfl⟩ := ha
  obtain ⟨-, ⟨-, hversion', -, -, -, hoperation', -, haudience', -⟩, h⟩ := hb
  have hname : 64 ≤ 2048 := by decide
  obtain ⟨hv, hc, hi, ho, hu, hn⟩ := rotation_fields_inj (hversion'.trans hname)
    (hversion.trans hname) (hoperation'.trans hname) (hoperation.trans hname) haudience' haudience
    (List.append_cancel_left h)
  cases a
  cases b
  simp_all only

end Inputs

/-! ## The three together -/

namespace ProofRequest

variable {a b : ProofRequest} {message : Bytes}

/-- A transcript begins with the octets of its kind. -/
theorem take_transcript (h : a.transcript = some message) : message.take 16 = a.head := by
  cases a with
  | registration input =>
    simp only [transcript, Deviceauth.proofBytes, Option.bind_eq_bind, Option.bind_eq_some_iff,
      Option.pure_def, Option.some.injEq] at h
    obtain ⟨-, -, rfl⟩ := h
    exact List.take_append_of_le_length (by decide)
  | deviceRotation input =>
    simp only [transcript, Deviceauth.deviceRotationProofBytes, Option.bind_eq_bind,
      Option.bind_eq_some_iff, Option.pure_def, Option.some.injEq] at h
    obtain ⟨-, -, rfl⟩ := h
    exact List.take_append_of_le_length (by decide)
  | accountRotation input =>
    simp only [transcript, Identity.AccountRotationProofInput.proofBytes, Option.bind_eq_bind,
      Option.bind_eq_some_iff, Option.pure_def, Option.some.injEq] at h
    obtain ⟨-, -, rfl⟩ := h
    exact List.take_append_of_le_length (by decide)

/-- The bytes of a transcript determine the request. -/
theorem eq_of_transcript (ha : a.transcript = some message) (hb : b.transcript = some message) :
    a = b := by
  have hhead : a.head = b.head := (take_transcript ha).symm.trans (take_transcript hb)
  cases a with
  | registration input =>
    cases b with
    | registration input' => rw [proofBytes_inj ha hb]
    | deviceRotation input' | accountRotation input' =>
      exact absurd hhead (show ascii _ ≠ ascii _ by decide)
  | deviceRotation input =>
    cases b with
    | registration input' => exact absurd hhead (show ascii _ ≠ ascii _ by decide)
    | deviceRotation input' => rw [deviceRotationProofBytes_inj ha hb]
    | accountRotation input' => exact absurd hhead (show ascii _ ≠ ascii _ by decide)
  | accountRotation input =>
    cases b with
    | registration input' | deviceRotation input' =>
      exact absurd hhead (show ascii _ ≠ ascii _ by decide)
    | accountRotation input' => rw [accountRotationProofBytes_inj ha hb]

end ProofRequest

/-- The three transcripts are injective on what they accept, and none is a transcript of another
kind; so a signature that verifies for one message only verifies for the one request that it
was made for. -/
theorem proof_transcripts_separate :
    (∀ (a b : ProofRequest) (message : Bytes), a.transcript = some message →
      b.transcript = some message → a = b) ∧
    ∀ (P : Platform) (key signature message : Bytes),
      (∀ other, P.ed25519Verify key other signature = true → other = message) →
      ∀ a b : ProofRequest, a.transcript = some message → b.VerifiedBy P key signature → b = a := by
  refine ⟨fun a b message => ProofRequest.eq_of_transcript, ?_⟩
  rintro P key signature message hmade a b ha ⟨other, hb, hverified⟩
  obtain rfl := hmade other hverified
  exact ProofRequest.eq_of_transcript hb ha

/-- A device registration that is accepted. -/
def plainProofInput : Deviceauth.ProofInput where
  protocolVersion := Deviceauth.deviceProofProtocolVersion
  challenge := Octets.replicate 32 1
  grantDigest := Octets.replicate 32 2
  signingPublicKey := Octets.replicate 32 3
  hpkePublicKey := Octets.replicate 32 4
  operation := Deviceauth.registerDeviceOperation
  audience := ascii "https://talenro.local"
  requestNonce := Octets.replicate 32 5

/-- A platform on which the only signature of a message is the message. -/
def exactPlatform : Platform :=
  { plainPlatform with ed25519Verify := fun _ message signature => message == signature }

theorem plainProofInput_separate : ∃ message,
    (ProofRequest.registration plainProofInput).transcript = some message ∧
    ∀ b : ProofRequest, b.VerifiedBy exactPlatform [] message →
      b = .registration plainProofInput := by
  have haccepted : (ProofRequest.registration plainProofInput).transcript.isSome = true := by
    decide +kernel
  obtain ⟨message, hmessage⟩ := Option.isSome_iff_exists.mp haccepted
  refine ⟨message, hmessage, fun b => ?_⟩
  exact proof_transcripts_separate.2 exactPlatform [] message message
    (fun other hverified => eq_of_beq hverified) (.registration plainProofInput) b hmessage

end Talenro.Analysis
