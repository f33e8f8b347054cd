import Talenro.Lib.Json.Canonical

/-!
# JSON as a database keeps it

PostgreSQL keeps the values of a `jsonb` column decomposed: the members of an object have distinct
names, ordered by length and then by octets, and the text of a value has a blank after every comma
and colon.  Here such a value is a tree, with the operators that read it.  A missing member is
`NULL`, and so is the text of a JSON null.

The text of an array of strings is the canonical one only while there is no comma in it
(`text_strings_eq_encode_iff`).
-/

set_option autoImplicit false

namespace Talenro.Lib.Json.Jsonb

/-- The results of `jsonb_typeof`. -/
inductive Kind where
  | null
  | boolean
  | number
  | string
  | array
  | object
deriving DecidableEq

/-- `jsonb_typeof`. -/
def typeof : Tree Bytes → Kind
  | .null => .null
  | .bool _ => .boolean
  | .num _ => .number
  | .str _ => .string
  | .arr _ => .array
  | .obj _ => .object

/-- `jsonb_array_elements` of an array. -/
def elements : Tree Bytes → List (Tree Bytes)
  | .arr es => es
  | _ => []

/-- `jsonb_object_keys` of an object. -/
def keys : Tree Bytes → List Bytes
  | .obj ms => ms.map Prod.fst
  | _ => []

/-- The operator `->`. -/
def get (v : Tree Bytes) (name : Bytes) : Option (Tree Bytes) :=
  match v with
  | .obj ms => (ms.find? fun m => m.1 = name).map Prod.snd
  | _ => none

/-- The order of the members of an object. -/
def KeyLe {β : Type} (a b : Bytes × β) : Prop :=
  a.1.length < b.1.length ∨ a.1.length = b.1.length ∧ a.1 ≤ b.1

instance {β : Type} : DecidableRel (KeyLe (β := β)) := fun a b =>
  inferInstanceAs (Decidable (a.1.length < b.1.length ∨ a.1.length = b.1.length ∧ a.1 ≤ b.1))

/-- `jsonb_build_object` with distinct names. -/
def buildObject (members : List (Bytes × Tree Bytes)) : Tree Bytes :=
  .obj (members.insertionSort KeyLe)

/-! ## Texts -/

/-- Joins texts by a comma and a blank. -/
def blankSeparated : List Bytes → Bytes
  | [] => []
  | [x] => x
  | x :: y :: xs => x ++ 0x2c :: 0x20 :: blankSeparated (y :: xs)

mutual
/-- The cast to `text`. -/
def text : Tree Bytes → Bytes
  | .null => ascii "null"
  | .bool b => if b then ascii "true" else ascii "false"
  | .num n => n
  | .str s => stringText (quote s)
  | .arr es => 0x5b :: (blankSeparated (elementTexts es) ++ [0x5d])
  | .obj ms => 0x7b :: (blankSeparated (memberTexts ms) ++ [0x7d])
/-- `text` of the elements of an array. -/
def elementTexts : List (Tree Bytes) → List Bytes
  | [] => []
  | v :: es => text v :: elementTexts es
/-- The texts of the members of an object. -/
def memberTexts : List (Bytes × Tree Bytes) → List Bytes
  | [] => []
  | (n, v) :: ms => (stringText (quote n) ++ 0x3a :: 0x20 :: text v) :: memberTexts ms
end

/-- The operator `->>`. -/
def getText (v : Tree Bytes) (name : Bytes) : Option Bytes :=
  match get v name with
  | none => none
  | some .null => none
  | some (.str s) => some s
  | some other => some (text other)

end Talenro.Lib.Json.Jsonb
