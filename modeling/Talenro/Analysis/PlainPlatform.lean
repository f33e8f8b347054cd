import Talenro.Model.Backend

/-!
# A platform that behaves as documented

What is assumed of the libraries can be had: `plainPlatform` canonicalises by decoding and
serialising, spells identifiers in groups of hexadecimal digits, and has a key encapsulation
that hides nothing (`plainPlatform_documented`).
-/

set_option autoImplicit false

namespace Talenro.Analysis

open Lib Lib.Json

/-- The text of an identifier: its digits in groups of eight, four, four, four and twelve. -/
def uuidText (u : UUID) : Bytes :=
  let digits := Hex.encode u.1
  digits.take 8 ++ 0x2d :: (digits.drop 8).take 4 ++ 0x2d :: (digits.drop 12).take 4 ++
    0x2d :: (digits.drop 16).take 4 ++ 0x2d :: digits.drop 20

/-- The identifier with the given digits, wherever its hyphens are. -/
def uuidOfText (text : Bytes) : Option UUID :=
  (Hex.decode (text.filter (· ≠ 0x2d))).bind fun b => if h : b.length = 16 then some ⟨b, h⟩ else none

theorem filter_uuidText (u : UUID) : (uuidText u).filter (· ≠ 0x2d) = Hex.encode u.1 := by
  have hdigits : ∀ c ∈ Hex.encode u.1, decide (c ≠ 0x2d) = true := by
    intro c hc
    obtain ⟨n, hn, rfl⟩ := Hex.exists_digit_of_mem hc
    exact decide_eq_true (Hex.digit_ascii hn).2
  have hpart : ∀ part : Bytes, List.Sublist part (Hex.encode u.1) → part.filter (· ≠ 0x2d) = part := by
    intro part hsub
    exact List.filter_eq_self.mpr fun c hc => hdigits c (hsub.subset hc)
  have htake (m n : ℕ) : ((((Hex.encode u.1).drop m).take n).filter (· ≠ 0x2d)) =
      ((Hex.encode u.1).drop m).take n :=
    hpart _ ((List.take_sublist ..).trans (List.drop_sublist ..))
  have hhyphen (rest : Bytes) : (0x2d :: rest).filter (· ≠ 0x2d) = rest.filter (· ≠ 0x2d) := by
    simp
  have hjoin (m n : ℕ) : (Hex.encode u.1).drop m =
      ((Hex.encode u.1).drop m).take n ++ (Hex.encode u.1).drop (m + n) := by
    rw [← List.drop_drop, List.take_append_drop]
  unfold uuidText
  simp only [List.filter_append, hhyphen, htake, List.append_assoc,
    hpart _ (List.take_sublist 8 (Hex.encode u.1)), hpart _ (List.drop_sublist 20 (Hex.encode u.1))]
  rw [← hjoin 16 4, ← hjoin 12 4, ← hjoin 8 4, List.take_append_drop]

theorem uuidOfText_uuidText (u : UUID) : uuidOfText (uuidText u) = some u := by
  rw [uuidOfText, filter_uuidText, Hex.decode_encode, Option.bind_some, dif_pos u.2]

theorem uuidText_ascii (u : UUID) : ∀ c ∈ uuidText u, c < 0x80 := by
  intro c hc
  by_cases hhyphen : c = 0x2d
  · subst hhyphen
    decide
  · have hmem : c ∈ (uuidText u).filter (· ≠ 0x2d) :=
      List.mem_filter.mpr ⟨hc, decide_eq_true hhyphen⟩
    rw [filter_uuidText] at hmem
    obtain ⟨n, hn, rfl⟩ := Hex.exists_digit_of_mem hmem
    exact (Hex.digit_ascii hn).1

theorem uuidText_length (u : UUID) : (uuidText u).length = 36 := by
  have hdigits : (Hex.encode u.1).length = 32 := by
    rw [Hex.encode_length, u.2]
  simp only [uuidText, List.length_append, List.length_cons, List.length_take, List.length_drop,
    hdigits]
  omega

/-- Canonicalisation of objects by decoding and serialising. -/
def plainTransform (body : Bytes) : Option Bytes :=
  match decode body with
  | some (.obj ms) => some (serialize (.obj ms))
  | _ => none

theorem plainTransform_rfc8785 : Rfc8785 plainTransform where
  transform_object body ms hdecode _ _ _ _ := by
    rw [plainTransform, hdecode]

def plainPlatform : Platform where
  PrivateKey := Bytes
  Sender := Unit
  jcsTransform := plainTransform
  uuidParse := uuidOfText
  uuidString := uuidText
  ed25519Verify _ _ _ := true
  x25519PublicKey key := some key
  hpkeNewSender _ _ _ := some (List.replicate 32 0, ())
  hpkeSeal _ _ plaintext := some (plaintext ++ List.replicate 16 0)
  hpkeOpen _ _ _ _ ciphertext := some (ciphertext.take (ciphertext.length - 16))
  timeFormat t := Decimal.format t.toNat
  timeParse b := some (Decimal.value b)

theorem plainPlatform_documented : plainPlatform.Documented where
  jcs := plainTransform_rfc8785
  uuid_parse_string := uuidOfText_uuidText
  uuid_string_ascii := uuidText_ascii
  uuid_string_length := uuidText_length
  hpke_enc_length := by
    rintro recipient info entropy enc sender h
    obtain ⟨rfl, -⟩ := Prod.mk.inj (Option.some.inj h)
    rfl
  hpke_seal_length := by
    rintro sender aad plaintext ciphertext h
    obtain rfl := Option.some.inj h
    simp
  hpke_open_seal := by
    rintro key recipient info entropy enc sender aad plaintext ciphertext - - h
    obtain rfl := Option.some.inj h
    simp [plainPlatform]

/-- The authority of a device with the standard policy. -/
def plainAuthority : BundleAuthority where
  authorizationID := Octets.replicate 16 2
  principalID := Octets.replicate 16 3
  deviceID := Octets.replicate 16 4
  hpkePublicKey := Octets.replicate 32 1
  deviceKeyVersion := 1
  policySchema := ascii "device-policy-v1"
  policy := ascii "\x7b\"mode\":\"standard\"\x7d"

/-- Services that never fail; the time is one of the year 2024. -/
def plainServices : Environment plainPlatform := fun s o =>
  match o with
  | .statement _ => fun _ => False
  | .contextError => fun r => r = false
  | .encrypt _ plaintext => fun r => r = some ⟨1, plaintext ++ List.replicate 28 0⟩
  | .decrypt _ field => fun r => r = some (field.ciphertext.take (field.ciphertext.length - 28))
  | .clock => fun r => r = ⟨738900 * Calendar.day, true⟩
  | .random n => fun r => r = some (Octets.replicate n 1)
  | .signerKeyID => fun r => r = ascii "plain-signing-key"
  | .sign _ => fun r => r = .ok (List.replicate 64 0)
  | .newSender _ _ => fun r => r = some (List.replicate 32 0, ())
  | .authorizeBundle _ => fun r => r = .error .authenticationFailed
  | .currentTestConfig => fun r => r = none
  | .newUUID => fun r => r = Octets.replicate 16 1
  | .allow _ => fun r => r = some true
  | .setChallenge key _ => fun r => r = some (decide (s.challenges key = none))
  | .takeChallenge key => fun r => r = some (s.challenges key)

end Talenro.Analysis
