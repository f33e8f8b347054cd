import Talenro.Model.Backend

/-!
# The local protector of sensitive fields

A field is sealed with AES-256-GCM under a fresh nonce, which is stored in front of it.  The domain
and the version of the key are authenticated with it.

Sources named without a directory are in `internal/sensitive`.
-/

set_option autoImplicit false

namespace Talenro.Sensitive

open Lib

/-- AES-256-GCM under one key. -/
structure Aead where
  sealWith : Octets 12 → Bytes → Bytes → Bytes
  openWith : Bytes → Bytes → Bytes → Option Bytes

/-- What GCM is documented to do. -/
structure Aead.Documented (A : Aead) : Prop where
  open_seal : ∀ nonce plaintext aad,
    A.openWith nonce.1 (A.sealWith nonce plaintext aad) aad = some plaintext
  seal_length : ∀ nonce plaintext aad, (A.sealWith nonce plaintext aad).length =
    plaintext.length + 16

/-- An open protector.  `NewLocal` checks the version of the key.

SOURCE: local.go:56-69, 72-89 -/
structure Local where
  aead : Aead
  keyVersion : ℕ
  keyVersion_valid : 1 ≤ keyVersion ∧ keyVersion < 2 ^ 31

/-- SOURCE: local.go:28 -/
def maximumProtectedBytes : ℕ := 2 ^ 20 + 1

/-- SOURCE: local.go:244-262 -/
def validDomain (domain : Bytes) : Bool :=
  decide (1 ≤ domain.length ∧ domain.length ≤ 128) && domain.all fun c =>
    (0x61 ≤ c && c ≤ 0x7a) || (0x30 ≤ c && c ≤ 0x39) || (ascii "/.:_-").contains c

/-- SOURCE: local.go:234-243 -/
def fieldAAD (domain : Bytes) (keyVersion : ℕ) : Bytes :=
  ascii "TALENRO-FIELD-V1\x00" ++ domain ++ 0 :: bigEndian 4 keyVersion

/-- The nonce is what `rand.Reader` gives.

SOURCE: local.go:127-158 -/
def Local.encrypt (self : Local) (nonce : Octets 12) (domain plaintext : Bytes) :
    Option EncryptedField := do
  guard (validDomain domain ∧ 1 ≤ plaintext.length ∧ plaintext.length ≤ maximumProtectedBytes)
  pure ⟨self.keyVersion,
    nonce.1 ++ self.aead.sealWith nonce plaintext (fieldAAD domain self.keyVersion)⟩

/-- SOURCE: local.go:160-196, 264-266 -/
def Local.decrypt (self : Local) (domain : Bytes) (value : EncryptedField) : Option Bytes := do
  guard (validDomain domain ∧ value.keyVersion ≠ 0 ∧ 28 < value.ciphertext.length ∧
    value.ciphertext.length ≤ 28 + maximumProtectedBytes)
  guard (value.keyVersion = self.keyVersion)
  self.aead.openWith (value.ciphertext.take 12) (value.ciphertext.drop 12)
    (fieldAAD domain value.keyVersion)

/-- What is encrypted gets 28 octets longer and is decrypted again. -/
theorem Local.exists_encrypt {self : Local} (hself : self.aead.Documented) (nonce : Octets 12)
    {domain plaintext : Bytes} (hdomain : validDomain domain = true)
    (hplaintext : 1 ≤ plaintext.length ∧ plaintext.length ≤ maximumProtectedBytes) :
    ∃ field, self.encrypt nonce domain plaintext = some field ∧
      (1 ≤ field.keyVersion ∧ field.keyVersion < 2 ^ 31) ∧
      field.ciphertext.length = plaintext.length + 28 ∧
      self.decrypt domain field = some plaintext := by
  have hlength : (nonce.1 ++ self.aead.sealWith nonce plaintext
      (fieldAAD domain self.keyVersion)).length = plaintext.length + 28 := by
    rw [List.length_append, nonce.2, hself.seal_length]
    omega
  have hversion := self.keyVersion_valid
  refine ⟨_, guard_bind_eq_some ⟨hdomain, hplaintext⟩ rfl, hversion, hlength, ?_⟩
  have hzero : self.keyVersion ≠ 0 := by omega
  refine guard_bind_eq_some ⟨hdomain, hzero, ?_, ?_⟩ (guard_bind_eq_some rfl ?_)
  · rw [hlength]
    omega
  · rw [hlength]
    omega
  · rw [List.take_left' nonce.2, List.drop_left' nonce.2]
    exact hself.open_seal nonce plaintext _

end Talenro.Sensitive
