import Talenro.Model.Authority.Artifacts
import Talenro.Model.Identity.Credentials
import Talenro.Model.Sensitive

/-!
# Deliveries of mail

A mail with a token waits as an encrypted JSON text, which is put together by hand, until the
consumer of the event decodes it.

Sources named without a directory are in `internal/identity`.
-/

set_option autoImplicit false

namespace Talenro.Identity

open Lib Lib.Json Calls Sensitive

/-- SOURCE: repository.go:324-331 -/
inductive TemplateID where
  | verifyEmail
  | resetPassword
deriving DecidableEq

/-- SOURCE: repository.go:328-330 -/
def TemplateID.text : TemplateID → Bytes
  | verifyEmail => ascii "verify_email"
  | resetPassword => ascii "password_reset"

/-- SOURCE: register.go:32-33, 318-324, email_consumer.go:110-113 -/
def TemplateID.domain : TemplateID → Bytes
  | verifyEmail => ascii "identity/email-verification-delivery/v1"
  | resetPassword => ascii "identity/password-reset-delivery/v1"

/-- SOURCE: repository.go:333-340 -/
structure Delivery where
  deliveryID : UUID
  templateID : TemplateID
  locale : Bytes
  recipient : Bytes
  oneTimeToken : Octets 32

/-- SOURCE: register.go:507-514 -/
def validIdentityLocale (locale : Bytes) : Bool :=
  [ascii "zh-Hans", ascii "en", ascii "ru", ascii "fa", ascii "ja"].contains locale

/-- SOURCE: register.go:46 -/
def maximumPendingDeliveryBytes : ℕ := 4096

/-- SOURCE: register.go:527-529 -/
def validProtectedField (field : EncryptedField) (maximum : ℕ) : Bool :=
  decide (1 ≤ field.keyVersion ∧ field.keyVersion < 2 ^ 31 ∧ 29 ≤ field.ciphertext.length ∧
    field.ciphertext.length ≤ maximum)

/-- SOURCE: register.go:349-364 -/
def pendingDeliveryJSON (recipient rawToken : Bytes) (template : TemplateID) (locale : Bytes) :
    Bytes :=
  ascii "\x7b\"recipient\":\"" ++ recipient ++ ascii "\",\"token\":\"" ++
    Base64Url.encode rawToken ++ ascii "\",\"template\":\"" ++ template.text ++
    ascii "\",\"locale\":\"" ++ locale ++ ascii "\"\x7d"

/-- The part of `newProtectedDelivery` that follows the choice of the token.

SOURCE: register.go:330-340 -/
def protectDelivery (protector : Local) (nonce : Octets 12) (recipient : Bytes)
    (rawToken : Octets 32) (template : TemplateID) (locale : Bytes) : Option EncryptedField := do
  let plaintext := pendingDeliveryJSON recipient rawToken.1 template locale
  guard (1 ≤ plaintext.length ∧ plaintext.length ≤ maximumPendingDeliveryBytes)
  let field ← protector.encrypt nonce template.domain plaintext
  guard (validProtectedField field maximumPendingDeliveryBytes)
  pure field

/-- SOURCE: email_consumer.go:159-164 -/
def pendingDeliveryNames : List Bytes :=
  [ascii "recipient", ascii "token", ascii "template", ascii "locale"]

/-- SOURCE: email_consumer.go:166-187 -/
def decodePendingDelivery (encoded : Bytes) (deliveryID : UUID) (template : TemplateID)
    (locale : Bytes) : Option Delivery := do
  let wire ← Trust.strictDecode encoded maximumPendingDeliveryBytes
    (.record (pendingDeliveryNames.map fun name => (name, .leaf)))
    (decodeStruct (Authority.stringFields pendingDeliveryNames) fun _ => [])
  guard (wire (ascii "template") = template.text ∧ wire (ascii "locale") = locale)
  let canonical ← canonicalizeEmail (wire (ascii "recipient"))
  guard (canonical = wire (ascii "recipient"))
  let token ← decodeOpaqueToken (wire (ascii "token"))
  pure ⟨deliveryID, template, locale, wire (ascii "recipient"), token⟩

/-- How the consumer opens a pending delivery that it has loaded; of `validPendingDelivery` the
checks of the encrypted field.

SOURCE: email_consumer.go:106-123, 209-213 -/
def openDelivery (protector : Local) (field : EncryptedField) (deliveryID : UUID)
    (template : TemplateID) (locale : Bytes) : Option Delivery := do
  guard (0 < field.keyVersion ∧ 29 ≤ field.ciphertext.length ∧
    field.ciphertext.length ≤ maximumPendingDeliveryBytes)
  let plaintext ← protector.decrypt template.domain field
  guard (1 ≤ plaintext.length ∧ plaintext.length ≤ maximumPendingDeliveryBytes)
  decodePendingDelivery plaintext deliveryID template locale

end Talenro.Identity
