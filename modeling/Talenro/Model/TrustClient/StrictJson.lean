import Talenro.Model.Wire

/-!
# The client's strict JSON reader

`scanStrictJSON` reads a bounded text once for structure: UTF-8, paired
surrogate escapes, bounded nesting, no repeated member name, numbers a float can
hold.  `decodeStrictObject` then decodes it into a record, after checking that
exactly the required members are present.  Every failure is the same error of
the source, so the functions answer with an option.
-/

set_option autoImplicit false

namespace Talenro.TrustClient

open Lib Lib.Json

/-- SOURCE: internal/trustclient/verify.go:43 -/
def maximumJSONDepth : ℕ := 16

mutual
/-- `scanJSONValue` on a value at nesting depth `depth`.

SOURCE: internal/trustclient/verify.go:640-693 -/
def scanJSONValue (depth : ℕ) : Json.Tree Raw → Bool
  | .null | .bool _ | .str _ => depth ≤ maximumJSONDepth
  | .num spelling => depth ≤ maximumJSONDepth && floatInRange spelling
  | .arr elements => depth ≤ maximumJSONDepth && scanJSONElements (depth + 1) elements
  | .obj members => depth ≤ maximumJSONDepth && scanJSONMembers (depth + 1) [] members
/-- The loop over the elements of an array. -/
def scanJSONElements (depth : ℕ) : List (Json.Tree Raw) → Bool
  | [] => true
  | value :: rest => scanJSONValue depth value && scanJSONElements depth rest
/-- The loop over the members of an object, with the names seen so far. -/
def scanJSONMembers (depth : ℕ) (seen : List Bytes) : List (Raw × Json.Tree Raw) → Bool
  | [] => true
  | (name, value) :: rest =>
    !seen.contains (unquote name) && scanJSONValue depth value &&
      scanJSONMembers depth (unquote name :: seen) rest
end

/-- The member names of an object, and `none` for any other value. -/
def topKeys : Json.Tree Raw → Option (List Bytes)
  | .obj members => some (members.map fun m => unquote m.1)
  | _ => none

/-- `scanStrictJSON`: the member names when the text is an object.

SOURCE: internal/trustclient/verify.go:624-638 -/
def scanStrictJSON (body : Bytes) (maximum : ℕ) : Option (Option (List Bytes)) := do
  guard (1 ≤ body.length ∧ body.length ≤ maximum)
  guard (Utf8.valid body ∧ validUnicodeEscapes body)
  let value ← parse body
  guard (scanJSONValue 0 value)
  pure (topKeys value)

/-- `decodeStrictObject` into the record the fields describe.

SOURCE: internal/trustclient/verify.go:583-606 -/
def decodeStrictObject {α : Type} (body : Bytes) (maximum : ℕ) (fields : List (Json.Field α)) (zero : α)
    (required : List Bytes) : Option (List Bytes × α) := do
  let keys ← (← scanStrictJSON body maximum)
  guard (∀ name ∈ required, name ∈ keys)
  guard (required = [] ∨ keys.length = required.length)
  let value ← decodeStruct fields zero (← parse body)
  pure (keys, value)

/-- `decodeStrictValue` into a string.

SOURCE: internal/trustclient/verify.go:608-622 -/
def decodeStrictValue (body : Bytes) (maximum : ℕ) : Option Bytes := do
  guard ((← scanStrictJSON body maximum) = none)
  match ← parse body with
  | .str s => pure (unquote s)
  | .null => pure []
  | _ => none

/-! ## The records of the client alone -/

/-- SOURCE: internal/trustclient/verify.go:84-95 -/
structure PayloadWire where
  schemaVersion : Bytes
  bundleID : Bytes
  bundleLocator : Bytes
  bundleVersion : Bytes
  audience : Bytes
  issuedAt : Bytes
  notBefore : Bytes
  expiresAt : Bytes
  policySnapshot : Bytes
  testConfig : Bytes
deriving DecidableEq

def PayloadWire.zero : PayloadWire := ⟨[], [], [], [], [], [], [], [], [], []⟩

def PayloadWire.fields : List (Json.Field PayloadWire) :=
  [stringField (ascii "schema_version") fun v r => { r with schemaVersion := v },
   stringField (ascii "bundle_id") fun v r => { r with bundleID := v },
   stringField (ascii "bundle_locator") fun v r => { r with bundleLocator := v },
   stringField (ascii "bundle_version") fun v r => { r with bundleVersion := v },
   stringField (ascii "audience") fun v r => { r with audience := v },
   stringField (ascii "issued_at") fun v r => { r with issuedAt := v },
   stringField (ascii "not_before") fun v r => { r with notBefore := v },
   stringField (ascii "expires_at") fun v r => { r with expiresAt := v },
   rawField (ascii "policy_snapshot") fun v r => { r with policySnapshot := v },
   rawField (ascii "test_config") fun v r => { r with testConfig := v }]

/-- The member names a record requires: those of all its fields. -/
def memberNames {α : Type} (fields : List (Json.Field α)) : List Bytes := fields.map Json.Field.name

end Talenro.TrustClient
