import Talenro.Lib.Json.Canonical

/-!
# Decoding objects into records

`encoding/json` stores the members of an object in the fields of a record, one
after the other.  A member goes to the field of the same name, or else to a
field whose name differs only in letter case; a member without a field is an
error (`DisallowUnknownFields`), and `null` leaves a string field as it was.

A record type is described by its list of `Field`s.  Fields may keep a value
undecoded (`json.RawMessage`); what they keep is the text of the value without
blanks between its tokens, the form every caller has checked before it looks at
such a text.
-/

set_option autoImplicit false

namespace Talenro.Lib.Json

variable {α β : Type}

/-- A field of a record: the name of its member, and how a value is stored. -/
structure Field (α : Type) where
  name : Bytes
  set : Tree Raw → α → Option α

/-- A field of type `string`. -/
def stringField (name : Bytes) (set : Bytes → α → α) : Field α where
  name := name
  set
    | .str s, record => some (set (unquote s) record)
    | .null, record => some record
    | _, _ => none

/-- A field of type `json.RawMessage`. -/
def rawField (name : Bytes) (set : Bytes → α → α) : Field α where
  name := name
  set value record := some (set (print value) record)

/-- A field of a slice type whose elements `element` decodes. -/
def listField (name : Bytes) (element : Tree Raw → Option β) (set : List β → α → α) : Field α where
  name := name
  set
    | .arr values, record => (values.mapM element).map fun list => set list record
    | .null, record => some (set [] record)
    | _, _ => none

/-- A field of a record type, given by the fields of that type. -/
def recordField (name : Bytes) (element : Tree Raw → Option β) (set : β → α → α) : Field α where
  name := name
  set
    | .null, record => some record
    | value, record => (element value).map fun inner => set inner record

/-- The lower-case ASCII form of a name.  U+017F and U+212A are the characters
outside ASCII that fold to a letter of it. -/
def foldName : Bytes → Bytes
  | 0xc5 :: 0xbf :: rest => 0x73 :: foldName rest
  | 0xe2 :: 0x84 :: 0xaa :: rest => 0x6b :: foldName rest
  | c :: rest => (if 0x41 ≤ c ∧ c ≤ 0x5a then c + 0x20 else c) :: foldName rest
  | [] => []

/-- The field a member is stored in. -/
def findField (fields : List (Field α)) (name : Bytes) : Option (Field α) :=
  match fields.find? fun f => f.name = name with
  | some f => some f
  | none => fields.find? fun f => f.name = foldName name

/-- Stores members in the fields of a record. -/
def decodeMembers (fields : List (Field α)) : List (Raw × Tree Raw) → α → Option α
  | [], record => some record
  | (name, value) :: rest, record => do
    let field ← findField fields (unquote name)
    decodeMembers fields rest (← field.set value record)

/-- Decodes an object into a record that starts as `zero`. -/
def decodeStruct (fields : List (Field α)) (zero : α) : Tree Raw → Option α
  | .obj members => decodeMembers fields members zero
  | .null => some zero
  | _ => none

/-! ## Decoding texts whose strings are spelled by `quote` -/

@[simp] theorem stringField_set_quote (name : Bytes) (set : Bytes → α → α) (s : Bytes)
    (record : α) : (stringField name set).set (.str (quote s)) record = some (set s record) := by
  simp only [stringField, unquote_quote]

theorem decodeMembers_cons_quote (fields : List (Field α)) (name : Bytes) (value : Tree Raw)
    (rest : List (Raw × Tree Raw)) (record : α) :
    decodeMembers fields ((quote name, value) :: rest) record =
      (findField fields name).bind fun field =>
        (field.set value record).bind (decodeMembers fields rest) := by
  rw [decodeMembers, unquote_quote]
  rfl

/-! ## What a decoded record holds -/

/-- The member names of an object. -/
def memberKeys (members : List (Raw × Tree Raw)) : List Bytes := members.map fun m => unquote m.1

/-- The field of a name spelled exactly. -/
theorem findField_name {fields : List (Field α)} {name : Bytes} {f : Field α}
    (h : findField fields name = some f) (hname : name ∈ fields.map Field.name) :
    f ∈ fields ∧ f.name = name := by
  unfold findField at h
  cases hexact : fields.find? fun f => f.name = name with
  | some g =>
    rw [hexact] at h
    obtain rfl := Option.some.inj h
    exact ⟨List.mem_of_find?_eq_some hexact, by simpa using List.find?_some hexact⟩
  | none =>
    obtain ⟨g, hg, hgname⟩ := List.mem_map.mp hname
    exact absurd hgname (by simpa using List.find?_eq_none.mp hexact g hg)

/-- Decoding a first member and then the others. -/
theorem decodeMembers_cons_eq_some {fields : List (Field α)} {m : Raw × Tree Raw}
    {members : List (Raw × Tree Raw)} {record record' : α}
    (h : decodeMembers fields (m :: members) record = some record') :
    ∃ field, findField fields (unquote m.1) = some field ∧
      ∃ middle, field.set m.2 record = some middle ∧
        decodeMembers fields members middle = some record' := by
  simpa [decodeMembers, Option.bind_eq_some_iff] using h

theorem stringField_set_eq_some {name : Bytes} {set : Bytes → α → α} {value : Tree Raw}
    {record record' : α} (h : (stringField name set).set value record = some record') :
    (∃ s, value = .str s ∧ record' = set (unquote s) record) ∨ value = .null ∧ record' = record := by
  cases value with
  | str s => exact Or.inl ⟨s, rfl, (Option.some.inj h).symm⟩
  | null => exact Or.inr ⟨rfl, (Option.some.inj h).symm⟩
  | _ => cases h

theorem listField_set_eq_some {name : Bytes} {element : Tree Raw → Option β}
    {set : List β → α → α} {value : Tree Raw} {record record' : α}
    (h : (listField name element set).set value record = some record') :
    ∃ list, record' = set list record := by
  cases value with
  | arr values =>
    obtain ⟨list, -, rfl⟩ := Option.map_eq_some_iff.mp h
    exact ⟨list, rfl⟩
  | null => exact ⟨[], (Option.some.inj h).symm⟩
  | _ => cases h

section Projection

variable {γ : Type} {fields : List (Field α)} {get : α → γ} {name : Bytes}

/-- Only the field called `name` can change the part of the record `get` reads. -/
def Reads (fields : List (Field α)) (name : Bytes) (get : α → γ) : Prop :=
  ∀ f ∈ fields, f.name ≠ name → ∀ value record record', f.set value record = some record' →
    get record' = get record

theorem stringField_frame {n : Bytes} {set : Bytes → α → α} (hset : ∀ s r, get (set s r) = get r)
    (value : Tree Raw) (record record' : α)
    (h : (stringField n set).set value record = some record') : get record' = get record := by
  rcases stringField_set_eq_some h with ⟨s, -, rfl⟩ | ⟨-, rfl⟩
  · exact hset _ _
  · rfl

theorem rawField_frame {n : Bytes} {set : Bytes → α → α} (hset : ∀ s r, get (set s r) = get r)
    (value : Tree Raw) (record record' : α)
    (h : (rawField n set).set value record = some record') : get record' = get record := by
  obtain rfl := Option.some.inj h
  exact hset _ _

theorem listField_frame {n : Bytes} {element : Tree Raw → Option β} {set : List β → α → α}
    (hset : ∀ s r, get (set s r) = get r) (value : Tree Raw) (record record' : α)
    (h : (listField n element set).set value record = some record') :
    get record' = get record := by
  obtain ⟨list, rfl⟩ := listField_set_eq_some h
  exact hset _ _

/-- Without a member called `name`, the part that field stores stays as it was. -/
theorem decodeMembers_absent (hreads : Reads fields name get) {members : List (Raw × Tree Raw)}
    {record record' : α} (hexact : ∀ n ∈ memberKeys members, n ∈ fields.map Field.name)
    (habsent : name ∉ memberKeys members)
    (h : decodeMembers fields members record = some record') : get record' = get record := by
  induction members generalizing record with
  | nil =>
    obtain rfl := Option.some.inj h
    rfl
  | cons m members ih =>
    simp only [memberKeys, List.map_cons, List.mem_cons, not_or, forall_eq_or_imp] at hexact habsent
    obtain ⟨field, hfield, middle, hset, hrest⟩ := decodeMembers_cons_eq_some h
    obtain ⟨hmem, hname⟩ := findField_name hfield hexact.1
    rw [ih hexact.2 habsent.2 hrest]
    exact hreads field hmem (fun heq => habsent.1 (heq ▸ hname)) m.2 record middle hset

/-- With a member called `name`, that part is what its value stored. -/
theorem decodeMembers_present (hreads : Reads fields name get) {members : List (Raw × Tree Raw)}
    {record record' : α} (hexact : ∀ n ∈ memberKeys members, n ∈ fields.map Field.name)
    (hnodup : (memberKeys members).Nodup) {m : Raw × Tree Raw} (hm : m ∈ members)
    (hname : unquote m.1 = name) (h : decodeMembers fields members record = some record') :
    ∃ field ∈ fields, field.name = name ∧ ∃ before after, get before = get record ∧
      field.set m.2 before = some after ∧ get record' = get after := by
  induction members generalizing record with
  | nil => cases hm
  | cons head members ih =>
    simp only [memberKeys, List.map_cons, List.mem_cons, forall_eq_or_imp] at hexact
    rw [memberKeys, List.map_cons, List.nodup_cons] at hnodup
    obtain ⟨field, hfield, middle, hset, hrest⟩ := decodeMembers_cons_eq_some h
    obtain ⟨hmem, hfieldName⟩ := findField_name hfield hexact.1
    rcases List.mem_cons.mp hm with rfl | hm
    · refine ⟨field, hmem, hfieldName.trans hname, record, middle, rfl, hset, ?_⟩
      exact decodeMembers_absent hreads hexact.2 (hname ▸ hnodup.1) hrest
    · obtain ⟨g, hg, hgname, before, after, hbefore, hgset, hafter⟩ := ih hexact.2 hnodup.2 hm hrest
      have hother : field.name ≠ name := by
        intro heq
        apply hnodup.1
        rw [← hfieldName, heq, ← hname]
        exact List.mem_map_of_mem hm
      refine ⟨g, hg, hgname, before, after, ?_, hgset, hafter⟩
      rw [hbefore, hreads field hmem hother _ _ _ hset]

end Projection

end Talenro.Lib.Json
