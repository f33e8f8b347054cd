import Talenro.Model.Wire

/-!
# The server's strict JSON reader

`strictjson.Decode` walks a bounded text against the type it will be decoded
into: containers nest at most sixteen deep, names do not repeat, and an object
decoded into a record has only members of that record, spelled exactly.  The
type is represented by a `Schema`; a `json.RawMessage` is opaque, and what is
inside it is checked for nesting and repeated names only.
-/

set_option autoImplicit false

namespace Talenro.Trust

open Lib Lib.Json

/-- The shape of a type JSON is decoded into. -/
inductive Schema where
  | leaf
  | record (fields : List (Bytes × Schema))
  | slice (element : Schema)

/-- SOURCE: internal/strictjson/decode.go:14-17 -/
def maximumBodyBytes : ℕ := 64 * 1024

/-- SOURCE: internal/strictjson/decode.go:14-17 -/
def maximumDepth : ℕ := 16

/-- The schema a member is checked against, if the object may have it.

SOURCE: internal/strictjson/decode.go:200-217 -/
def Schema.member : Schema → Bytes → Option Schema
  | .record fields, name => fields.lookup name
  | _, _ => some .leaf

/-- SOURCE: internal/strictjson/decode.go:219-228 -/
def Schema.element : Schema → Schema
  | .slice element => element
  | _ => .leaf

mutual
/-- `walkValue` on a value at nesting depth `depth`.

SOURCE: internal/strictjson/decode.go:123-198 -/
def walkValue (depth : ℕ) (schema : Schema) : Json.Tree Raw → Bool
  | .null | .bool _ | .num _ | .str _ => true
  | .arr elements => decide (depth < maximumDepth) && walkElements (depth + 1) schema.element elements
  | .obj members => decide (depth < maximumDepth) && walkMembers (depth + 1) schema [] members
/-- The loop over the elements of an array. -/
def walkElements (depth : ℕ) (schema : Schema) : List (Json.Tree Raw) → Bool
  | [] => true
  | value :: rest => walkValue depth schema value && walkElements depth schema rest
/-- The loop over the members of an object, with the names seen so far. -/
def walkMembers (depth : ℕ) (schema : Schema) (seen : List Bytes) :
    List (Raw × Json.Tree Raw) → Bool
  | [] => true
  | (name, value) :: rest =>
    !seen.contains (unquote name) &&
      (match schema.member (unquote name) with
        | some expected => walkValue depth expected value
        | none => false) &&
      walkMembers depth schema (unquote name :: seen) rest
end

/-- `strictjson.Decode` into a type given by its schema and its decoding.

SOURCE: internal/strictjson/decode.go:40-75 -/
def strictDecode {α : Type} (body : Bytes) (maxBytes : ℕ) (schema : Schema)
    (target : Json.Tree Raw → Option α) : Option α := do
  guard (0 < maxBytes ∧ maxBytes ≤ maximumBodyBytes)
  guard (body.length ≤ maxBytes ∧ Utf8.valid body)
  let value ← parse body
  guard (walkValue 0 schema value)
  target value

/-- Decoding into a `string`. -/
def decodeString : Json.Tree Raw → Option Bytes
  | .str s => some (unquote s)
  | .null => some []
  | _ => none

mutual
/-- Whether `strconv.ParseFloat` accepts every number of a value. -/
def numbersInRange : Json.Tree Raw → Bool
  | .null | .bool _ | .str _ => true
  | .num spelling => floatInRange spelling
  | .arr elements => elementNumbersInRange elements
  | .obj members => memberNumbersInRange members
/-- `numbersInRange` on the elements of an array. -/
def elementNumbersInRange : List (Json.Tree Raw) → Bool
  | [] => true
  | value :: rest => numbersInRange value && elementNumbersInRange rest
/-- `numbersInRange` on the members of an object. -/
def memberNumbersInRange : List (Raw × Json.Tree Raw) → Bool
  | [] => true
  | (_, value) :: rest => numbersInRange value && memberNumbersInRange rest
end

/-- `validIJSON`, asked only of texts that hold one value.

SOURCE: internal/trust/jcs.go:66-84 -/
def validIJSON (body : Bytes) : Bool :=
  Utf8.valid body && validUnicodeEscapes body && (parse body).any numbersInRange

/-- SOURCE: internal/trust/validate.go:17 -/
def maximumCanonicalPayloadBytes : ℕ := 64 * 1024

/-- `CanonicalizeJSON`: the canonical text and the decoded value.

SOURCE: internal/trust/jcs.go:20-39 -/
def canonicalizeJSON {α : Type} (P : Platform) (body : Bytes) (schema : Schema)
    (target : Json.Tree Raw → Option α) : Option (Bytes × α) := do
  guard (1 ≤ body.length ∧ body.length ≤ maximumCanonicalPayloadBytes)
  let decoded ← strictDecode body maximumCanonicalPayloadBytes schema target
  guard (validIJSON body)
  let canonical ← P.jcsTransform body
  guard (1 ≤ canonical.length ∧ canonical.length ≤ maximumCanonicalPayloadBytes)
  let _ ← strictDecode canonical maximumCanonicalPayloadBytes schema target
  pure (canonical, decoded)

/-- `canonicalTrustedJSON` of a value whose strings are given.

SOURCE: internal/trust/envelope.go:223-231 -/
def canonicalTrustedJSON (P : Platform) (value : Json.Tree Bytes) : Option Bytes :=
  P.jcsTransform (marshal (value.map quote))

end Talenro.Trust
