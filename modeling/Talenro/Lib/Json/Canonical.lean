import Mathlib.Data.List.Sort
import Mathlib.Data.List.Lex
import Talenro.Lib.Json.Strings

/-!
# Values and their canonical text

A value is a tree whose strings are decoded.  `serialize` is the canonical text
RFC 8785 gives a value: no blanks, minimal spellings, and members sorted by the
UTF-16 code units of their names.  Numbers have a canonical spelling of their
own, which the documents handled here never need; the results are about values
without numbers.

`Rfc8785` states what a canonicalising function is documented to do.  It
follows that canonical text decodes to the sorted value (`decode_serialize`) and
is left alone by the canonicaliser (`Rfc8785.transform_serialize`).
-/

set_option autoImplicit false

namespace Talenro.Lib.Json

/-! ## Decoding and rendering values -/

/-- The value a text denotes. -/
def decode (b : Bytes) : Option (Tree Bytes) := (parse b).map (Tree.map unquote)

/-- The text of a value with minimal spellings and no blanks. -/
def encode (v : Tree Bytes) : Bytes := print (v.map quote)

/-- `json.Marshal` of a value some of whose parts were spelled already: the
escaping on output is applied to every spelling. -/
def marshal (t : Tree Raw) : Bytes := print (t.map htmlEscape)

/-- No part of the value is a number. -/
def NoNumbers {σ : Type} (t : Tree σ) : Prop := t.All (fun _ => True) fun _ => False

/-- Every string of the value is valid UTF-8. -/
def ValidStrings (v : Tree Bytes) : Prop := v.All (fun s => Utf8.valid s = true) fun _ => True

theorem NoNumbers.all {σ : Type} {t : Tree σ} (h : NoNumbers t) {p : σ → Prop}
    {q : Bytes → Prop} (hp : ∀ s, p s) : t.All p q :=
  Tree.All.mono (fun s _ => hp s) (fun _ hf => hf.elim) h

variable {v : Tree Bytes} {t : Tree Raw}

/-- Reading back the text of a value. -/
theorem parse_encode (hv : NoNumbers v) : parse (encode v) = some (v.map quote) :=
  parse_print (Tree.all_map.mpr (hv.all fun s => (rawScalar_quote s).wellFormed))

theorem map_unquote_quote (v : Tree Bytes) : (v.map quote).map unquote = v := by
  rw [Tree.map_map]
  refine Tree.map_eq_self ?_
  induction v with
  | null => simp
  | bool b => simp
  | num n => simp
  | str s => simpa using unquote_quote s
  | arr es ih => simpa using ih
  | obj ms ih => exact Tree.all_obj.mpr fun m hm => ⟨unquote_quote m.1, ih m hm⟩

theorem decode_encode (hv : NoNumbers v) : decode (encode v) = some v := by
  rw [decode, parse_encode hv, Option.map_some, map_unquote_quote]

/-- The text of a value is valid UTF-8 when its strings are. -/
theorem valid_encode (hn : NoNumbers v) (hv : ValidStrings v) : Utf8.valid (encode v) = true := by
  refine valid_print (Tree.all_map.mpr ?_)
  exact Tree.All.mono (fun s hs => by rw [valid_rawText_quote]; exact hs.2) (fun _ h => h.1.elim)
    (Tree.All.and hn hv)

theorem validUnicodeEscapes_encode (hv : NoNumbers v) : validUnicodeEscapes (encode v) = true :=
  validUnicodeEscapes_print (Tree.all_map.mpr (hv.all rawScalar_quote))

theorem wellFormed_marshal (ht : WellFormed t) : WellFormed (t.map htmlEscape) :=
  Tree.all_map.mpr (Tree.All.mono (fun _ => rawWellFormed_htmlEscape) (fun _ => id) ht)

theorem parse_marshal (ht : WellFormed t) : parse (marshal t) = some (t.map htmlEscape) :=
  parse_print (wellFormed_marshal ht)

theorem map_unquote_htmlEscape (t : Tree Raw) : (t.map htmlEscape).map unquote = t.map unquote := by
  rw [Tree.map_map]
  simp only [unquote_htmlEscape]

/-- Marshalling keeps the value. -/
theorem decode_marshal (ht : WellFormed t) : decode (marshal t) = some (t.map unquote) := by
  rw [decode, parse_marshal ht, Option.map_some, map_unquote_htmlEscape]

/-! ## Canonical order -/

/-- The rank of an octet in the UTF-16 order of UTF-8 texts.  Octets compare as
the code points they start, except that the characters from U+E000 to U+FFFF
follow those that UTF-16 writes as surrogate pairs. -/
def utf16Rank (c : UInt8) : ℕ := if c = 0xee ∨ c = 0xef then c.toNat + 0x10 else c.toNat

/-- The order of member names: that of their UTF-16 code units. -/
def NameLe {β : Type} (a b : Bytes × β) : Prop := a.1.map utf16Rank ≤ b.1.map utf16Rank

instance {β : Type} : DecidableRel (NameLe (β := β)) := fun a b =>
  inferInstanceAs (Decidable (a.1.map utf16Rank ≤ b.1.map utf16Rank))

instance {β : Type} : Std.Total (NameLe (β := β)) := ⟨fun _ _ => le_total _ _⟩

instance {β : Type} : IsTrans (Bytes × β) NameLe := ⟨fun _ _ _ => le_trans⟩

/-- Sorting members gives the one strictly sorted order of them. -/
theorem insertionSort_of_perm {β : Type} {l sorted : List (Bytes × β)} (hperm : l.Perm sorted)
    (hsorted : sorted.Pairwise fun a b => ¬ NameLe b a) : l.insertionSort NameLe = sorted := by
  have hle : sorted.Pairwise NameLe :=
    hsorted.imp fun {a b} h => (Std.Total.total (r := NameLe) a b).resolve_right h
  -- Two members that are ordered both ways are one member.
  have hanti : ∀ a ∈ sorted, ∀ b ∈ sorted, NameLe a b → NameLe b a → a = b := by
    intro a ha b hb hab hba
    by_contra hne
    have hsym : sorted.Pairwise fun a b => ¬ (NameLe a b ∧ NameLe b a) :=
      hsorted.imp fun h hboth => h hboth.2
    have : Std.Symm fun a b : Bytes × β => ¬ (NameLe a b ∧ NameLe b a) :=
      ⟨fun _ _ h hboth => h hboth.symm⟩
    exact hsym.forall ha hb hne ⟨hab, hba⟩
  have hp : (l.insertionSort NameLe).Perm sorted := (List.perm_insertionSort NameLe l).trans hperm
  refine hp.eq_of_pairwise (fun a b ha hb => ?_) (List.pairwise_insertionSort NameLe l) hle
  exact hanti a (hp.mem_iff.mp ha) b hb

mutual
/-- Sorts the members of every object. -/
def sort : Tree Bytes → Tree Bytes
  | .null => .null
  | .bool b => .bool b
  | .num n => .num n
  | .str s => .str s
  | .arr es => .arr (sortElements es)
  | .obj ms => .obj ((sortValues ms).insertionSort NameLe)
/-- `sort` on the elements of an array. -/
def sortElements : List (Tree Bytes) → List (Tree Bytes)
  | [] => []
  | v :: es => sort v :: sortElements es
/-- `sort` on the values of the members of an object. -/
def sortValues : List (Bytes × Tree Bytes) → List (Bytes × Tree Bytes)
  | [] => []
  | (n, v) :: ms => (n, sort v) :: sortValues ms
end

theorem sortElements_eq (es : List (Tree Bytes)) : sortElements es = es.map sort := by
  induction es with
  | nil => rfl
  | cons v es ih => rw [sortElements, ih, List.map_cons]

theorem sortValues_eq (ms : List (Bytes × Tree Bytes)) :
    sortValues ms = ms.map fun m => (m.1, sort m.2) := by
  induction ms with
  | nil => rfl
  | cons m ms ih => rw [sortValues, ih, List.map_cons]

@[simp] theorem sort_null : sort .null = .null := by rw [sort]
@[simp] theorem sort_bool (b : Bool) : sort (.bool b) = .bool b := by rw [sort]
@[simp] theorem sort_num (n : Bytes) : sort (.num n) = .num n := by rw [sort]
@[simp] theorem sort_str (s : Bytes) : sort (.str s) = .str s := by rw [sort]

@[simp] theorem sort_arr (es : List (Tree Bytes)) : sort (.arr es) = .arr (es.map sort) := by
  rw [sort, sortElements_eq]

@[simp] theorem sort_obj (ms : List (Bytes × Tree Bytes)) :
    sort (.obj ms) = .obj ((ms.map fun m => (m.1, sort m.2)).insertionSort NameLe) := by
  rw [sort, sortValues_eq]

/-- Sorting keeps properties of strings and numbers. -/
theorem all_sort {p : Bytes → Prop} {q : Bytes → Prop} (h : v.All p q) : (sort v).All p q := by
  induction v with
  | null => simp
  | bool b => simp
  | num n => simpa using h
  | str s => simpa using h
  | arr es ih =>
    rw [sort_arr]
    exact Tree.all_arr.mpr (List.forall_mem_map.mpr fun u hu => ih u hu (Tree.all_arr.mp h u hu))
  | obj ms ih =>
    rw [sort_obj]
    refine Tree.all_obj.mpr fun m hm => ?_
    rw [List.mem_insertionSort] at hm
    obtain ⟨k, hk, rfl⟩ := List.mem_map.mp hm
    exact ⟨(Tree.all_obj.mp h k hk).1, ih k hk (Tree.all_obj.mp h k hk).2⟩

/-- Sorting keeps member names distinct. -/
theorem distinct_sort (h : v.Distinct) : (sort v).Distinct := by
  induction v with
  | null => simp
  | bool b => simp
  | num n => simp
  | str s => simp
  | arr es ih =>
    rw [sort_arr]
    exact Tree.distinct_arr.mpr
      (List.forall_mem_map.mpr fun u hu => ih u hu (Tree.distinct_arr.mp h u hu))
  | obj ms ih =>
    rw [sort_obj]
    obtain ⟨hnames, hvalues⟩ := Tree.distinct_obj.mp h
    refine Tree.distinct_obj.mpr ⟨?_, fun m hm => ?_⟩
    · have hperm := (List.perm_insertionSort NameLe
        (ms.map fun m => (m.1, sort m.2))).map Prod.fst
      refine (hperm.nodup_iff).mpr ?_
      simpa [List.map_map, Function.comp_def] using hnames
    · rw [List.mem_insertionSort] at hm
      obtain ⟨k, hk, rfl⟩ := List.mem_map.mp hm
      exact ih k hk (hvalues k hk)

/-- Sorting a sorted value changes nothing. -/
theorem sort_sort (v : Tree Bytes) : sort (sort v) = sort v := by
  induction v with
  | null => simp
  | bool b => simp
  | num n => simp
  | str s => simp
  | arr es ih =>
    rw [sort_arr, sort_arr, List.map_map]
    exact congrArg Tree.arr (List.map_congr_left ih)
  | obj ms ih =>
    rw [sort_obj, sort_obj]
    generalize hl : (ms.map fun m => (m.1, sort m.2)).insertionSort NameLe = l
    have hsorted : List.Pairwise NameLe l := hl ▸ List.pairwise_insertionSort NameLe _
    have hfixed : (l.map fun m => (m.1, sort m.2)) = l := by
      refine (List.map_congr_left fun m hm => ?_).trans (List.map_id' l)
      rw [← hl, List.mem_insertionSort] at hm
      obtain ⟨k, hk, rfl⟩ := List.mem_map.mp hm
      rw [ih k hk]
    rw [hfixed, hsorted.insertionSort_eq]

/-! ## Canonical text -/

/-- The canonical text of a value without numbers. -/
def serialize (v : Tree Bytes) : Bytes := encode (sort v)

/-- Canonical text denotes the sorted value. -/
theorem decode_serialize (hv : NoNumbers v) : decode (serialize v) = some (sort v) :=
  decode_encode (all_sort hv)

/-- What a canonicalising function is documented to do on an object without
numbers, repeated member names, ill-formed UTF-8 or lone surrogates: to return
its canonical text. -/
structure Rfc8785 (transform : Bytes → Option Bytes) : Prop where
  transform_object : ∀ (body : Bytes) (ms : List (Bytes × Tree Bytes)),
    decode body = some (.obj ms) → Utf8.valid body = true → validUnicodeEscapes body = true →
    NoNumbers (.obj ms : Tree Bytes) → (Tree.obj ms).Distinct →
    transform body = some (serialize (.obj ms))

/-- The canonicaliser leaves canonical text alone. -/
theorem Rfc8785.transform_serialize {transform : Bytes → Option Bytes} (h : Rfc8785 transform)
    {ms : List (Bytes × Tree Bytes)} (hn : NoNumbers (.obj ms : Tree Bytes))
    (hv : ValidStrings (.obj ms)) (hd : (Tree.obj ms).Distinct) :
    transform (serialize (.obj ms)) = some (serialize (.obj ms)) := by
  obtain ⟨sorted, hs⟩ : ∃ l, sort (.obj ms) = .obj l := ⟨_, sort_obj ms⟩
  have hdecode := decode_serialize hn
  rw [hs] at hdecode
  have hsn : NoNumbers (.obj sorted : Tree Bytes) := hs ▸ all_sort hn
  have htransform := h.transform_object (serialize (.obj ms)) sorted hdecode
    (valid_encode (all_sort hn) (all_sort hv)) (validUnicodeEscapes_encode (all_sort hn)) hsn
    (hs ▸ distinct_sort hd)
  rw [htransform, serialize, ← hs, sort_sort, ← serialize]

/-! ## Lengths -/

theorem rawText_length_le (s : Raw) : (rawText s).length ≤ 6 * s.length := by
  induction s with
  | nil => exact Nat.le_refl 0
  | cons p s ih =>
    have hp : p.text.length ≤ 6 := by cases p <;> simp [Piece.text]
    rw [rawText_cons, List.length_append, List.length_cons]
    omega

theorem htmlEscape_length_le (s : Raw) : (htmlEscape s).length ≤ s.length := by
  induction s using htmlEscape.induct with
  | case1 a b c s hif ih =>
    rw [htmlEscape, if_pos hif]
    simp only [List.length_cons]
    omega
  | case2 a b c s hif ih =>
    rw [htmlEscape, if_neg hif]
    simpa using ih
  | case3 p s hne ih =>
    rw [htmlEscape]
    · simpa using ih
    · exact hne
  | case4 => exact Nat.le_refl 0

/-- On output a string takes at most six octets for each of its own. -/
theorem stringText_length_le (s : Bytes) :
    (stringText (htmlEscape (quote s))).length ≤ 6 * s.length + 2 := by
  have hraw := rawText_length_le (htmlEscape (quote s))
  have hescape := htmlEscape_length_le (quote s)
  rw [quote, List.length_map] at hescape
  simp only [stringText, List.length_cons, List.length_append, List.length_nil]
  rw [← quote] at hescape
  omega

theorem commaSeparated_length_le (xs : List Bytes) :
    (commaSeparated xs).length ≤ (xs.map fun x => x.length + 1).sum := by
  induction xs using commaSeparated.induct with
  | case1 => exact Nat.le_refl 0
  | case2 x => simp [commaSeparated]
  | case3 x y xs ih =>
    rw [commaSeparated, List.length_append, List.length_cons, List.map_cons, List.sum_cons]
    omega

/-- The length of an object of strings on output. -/
theorem marshal_strings_length_le (ms : List (Bytes × Bytes)) :
    (marshal ((Tree.obj (ms.map fun m => (m.1, .str m.2))).map quote)).length ≤
      2 + (ms.map fun m => 6 * (m.1.length + m.2.length) + 6).sum := by
  have hmembers : (ms.map fun m => (memberText
      (htmlEscape (quote m.1), .str (htmlEscape (quote m.2)))).length + 1).sum ≤
      (ms.map fun m => 6 * (m.1.length + m.2.length) + 6).sum := by
    apply List.sum_le_sum
    intro m _
    have hname := stringText_length_le m.1
    have hvalue := stringText_length_le m.2
    simp only [memberText, print_str, List.length_append, List.length_cons]
    omega
  have hcomma := commaSeparated_length_le (ms.map fun m => memberText
    (htmlEscape (quote m.1), .str (htmlEscape (quote m.2))))
  rw [List.map_map] at hcomma
  simp only [marshal, Tree.map_obj, Tree.map_str, List.map_map, print_obj, List.length_cons,
    List.length_append, List.length_nil]
  have htotal := hcomma.trans hmembers
  simp only [Function.comp_def] at htotal ⊢
  simp only [Tree.map_str]
  omega

end Talenro.Lib.Json
