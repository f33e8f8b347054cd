import Mathlib.Data.List.TakeWhile
import Talenro.Lib.Bytes

/-!
# JSON texts and their syntax trees

A JSON text is read into a tree whose strings are kept as they were spelled:
a string literal is a sequence of pieces, each a plain octet, a two-character
escape or a `\u` escape.  The tree is parametrised by the representation of its
strings, so the same type also carries decoded values.

`parse` is the grammar that `encoding/json` accepts: one value, surrounded by
blanks only.  `print` is the rendering without blanks.  The main result is
`parse_print`: the reader recovers every well-formed tree from its rendering.
-/

set_option autoImplicit false

namespace Talenro.Lib.Json

/-! ## String literals -/

/-- One element of the spelling of a string literal. -/
inductive Piece where
  /-- An octet that stands for itself. -/
  | plain (c : UInt8)
  /-- A backslash followed by one character. -/
  | short (c : UInt8)
  /-- A backslash, the letter u and four hexadecimal digits. -/
  | unicode (a b c d : UInt8)
  deriving DecidableEq, Repr

/-- The spelling of a string literal, without its quotes. -/
abbrev Raw : Type := List Piece

/-- Whether an octet is a hexadecimal digit. -/
def isHex (c : UInt8) : Bool :=
  decide (0x30 ≤ c ∧ c ≤ 0x39) || decide (0x41 ≤ c ∧ c ≤ 0x46) || decide (0x61 ≤ c ∧ c ≤ 0x66)

/-- The characters that may follow a backslash, the letter u apart. -/
def isShortEscape (c : UInt8) : Bool := c ∈ ascii "\"\\/bfnrt"

namespace Piece

/-- The octets of a piece. -/
def text : Piece → Bytes
  | plain c => [c]
  | short c => [0x5c, c]
  | unicode a b c d => [0x5c, 0x75, a, b, c, d]

/-- Whether the grammar allows a piece inside a string literal. -/
def wellFormed : Piece → Bool
  | plain c => decide (0x20 ≤ c) && decide (c ≠ 0x22) && decide (c ≠ 0x5c)
  | short c => isShortEscape c
  | unicode a b c d => isHex a && isHex b && isHex c && isHex d

end Piece

/-- Whether a spelling is one the grammar allows. -/
def RawWellFormed (s : Raw) : Prop := ∀ p ∈ s, p.wellFormed = true

/-- The octets of a spelling. -/
def rawText (s : Raw) : Bytes := s.flatMap Piece.text

@[simp] theorem rawText_cons (p : Piece) (s : Raw) : rawText (p :: s) = p.text ++ rawText s := rfl

/-- Reads the rest of a string literal, up to and including its closing quote. -/
def scanString : Bytes → Option (Raw × Bytes)
  | [] => none
  | c :: rest =>
    if c = 0x22 then some ([], rest)
    else if c = 0x5c then
      match rest with
      | [] => none
      | e :: rest =>
        if e = 0x75 then
          match rest with
          | p :: q :: r :: s :: rest =>
            if (Piece.unicode p q r s).wellFormed then
              (scanString rest).map fun found => (.unicode p q r s :: found.1, found.2)
            else none
          | _ => none
        else if (Piece.short e).wellFormed then
          (scanString rest).map fun found => (.short e :: found.1, found.2)
        else none
    else if (Piece.plain c).wellFormed then
      (scanString rest).map fun found => (.plain c :: found.1, found.2)
    else none

variable {b rest n : Bytes} {c : UInt8} {fuel : ℕ}

theorem isShortEscape_ne_u (h : isShortEscape c = true) : c ≠ 0x75 := by
  rintro rfl
  exact absurd h (by decide)

theorem scanString_quote (rest : Bytes) : scanString (0x22 :: rest) = some ([], rest) := by
  unfold scanString
  simp

/-- One piece is read in front of the rest of the literal. -/
theorem scanString_text {p : Piece} (hp : p.wellFormed = true) (rest : Bytes) :
    scanString (p.text ++ rest) = (scanString rest).map fun found => (p :: found.1, found.2) := by
  cases p with
  | plain c =>
    have hc := hp
    simp only [Piece.wellFormed, Bool.and_eq_true, decide_eq_true_eq] at hc
    rw [Piece.text, List.singleton_append]
    conv_lhs => unfold scanString
    simp [hc.1.2, hc.2, hp]
  | short c =>
    have hu : c ≠ 0x75 := isShortEscape_ne_u hp
    rw [Piece.text, List.cons_append, List.singleton_append]
    conv_lhs => unfold scanString
    simp [hu, hp]
  | unicode a b c d =>
    simp only [Piece.text, List.cons_append, List.nil_append]
    conv_lhs => unfold scanString
    simp [hp]

variable {s : Raw}

/-- The reader recovers a well-formed spelling and stops behind its closing
quote. -/
theorem scanString_rawText (hs : RawWellFormed s) (rest : Bytes) :
    scanString (rawText s ++ 0x22 :: rest) = some (s, rest) := by
  induction s with
  | nil => exact scanString_quote rest
  | cons p s ih =>
    rw [rawText_cons, List.append_assoc, scanString_text (hs p (List.mem_cons_self ..)),
      ih fun q hq => hs q (List.mem_cons_of_mem _ hq)]
    rfl

theorem rawWellFormed_cons {p : Piece} (hp : p.wellFormed = true) (hs : RawWellFormed s) :
    RawWellFormed (p :: s) := by
  intro q hq
  rcases List.mem_cons.mp hq with rfl | hq
  · exact hp
  · exact hs q hq

/-- What the reader returns is well formed. -/
theorem scanString_wellFormed (h : scanString b = some (s, rest)) : RawWellFormed s := by
  fun_induction scanString b generalizing s with
  | case1 => cases h
  | case2 => cases h; simp [RawWellFormed]
  | case3 => cases h
  | case4 p q r t rest' hw _ ih =>
    obtain ⟨found, hf, heq⟩ := Option.map_eq_some_iff.mp h
    cases heq
    exact rawWellFormed_cons hw (ih hf)
  | case5 => cases h
  | case6 => cases h
  | case7 e rest' _ hw _ ih =>
    obtain ⟨found, hf, heq⟩ := Option.map_eq_some_iff.mp h
    cases heq
    exact rawWellFormed_cons hw (ih hf)
  | case8 => cases h
  | case9 c rest' _ _ hw ih =>
    obtain ⟨found, hf, heq⟩ := Option.map_eq_some_iff.mp h
    cases heq
    exact rawWellFormed_cons hw (ih hf)
  | case10 => cases h

/-! ## Numbers -/

/-- The octets a number literal is made of. -/
def isNumberByte (c : UInt8) : Bool := Decimal.isDigit c || decide (c ∈ ascii "+-.eE")

/-- An optional exponent and nothing behind it. -/
def validExponent : Bytes → Bool
  | [] => true
  | c :: rest =>
    let digits := match rest with
      | sign :: tail => if sign = 0x2b ∨ sign = 0x2d then tail else rest
      | [] => []
    (decide (c = 0x65) || decide (c = 0x45)) && !digits.isEmpty && digits.all Decimal.isDigit

/-- An optional fraction, then an optional exponent. -/
def validFraction : Bytes → Bool
  | [] => true
  | c :: rest =>
    if c = 0x2e then
      !(rest.takeWhile Decimal.isDigit).isEmpty && validExponent (rest.dropWhile Decimal.isDigit)
    else validExponent (c :: rest)

/-- An integer part without superfluous leading zeros, then the optional parts. -/
def validUnsigned (b : Bytes) : Bool :=
  let digits := b.takeWhile Decimal.isDigit
  !digits.isEmpty && (decide (digits.length = 1) || decide (digits.head? ≠ some 0x30)) &&
    validFraction (b.dropWhile Decimal.isDigit)

/-- Whether a text is a JSON number. -/
def validNumber : Bytes → Bool
  | [] => false
  | c :: rest => if c = 0x2d then validUnsigned rest else validUnsigned (c :: rest)

/-- A number made of number octets only. -/
def NumberWellFormed (n : Bytes) : Prop := (∀ c ∈ n, isNumberByte c = true) ∧ validNumber n = true

/-- Reads the longest run of number octets, which must be a number. -/
def scanNumber (b : Bytes) : Option (Bytes × Bytes) :=
  if validNumber (b.takeWhile isNumberByte) then
    some (b.takeWhile isNumberByte, b.dropWhile isNumberByte)
  else none

/-! ## Trees -/

/-- A JSON value whose strings and member names are represented by `σ`. -/
inductive Tree (σ : Type) where
  | null
  | bool (b : Bool)
  /-- A number, as it was spelled. -/
  | num (spelling : Bytes)
  | str (s : σ)
  | arr (elements : List (Tree σ))
  | obj (members : List (σ × Tree σ))

namespace Tree

variable {σ τ υ : Type}

/-- Induction over a tree: the elements of an array and the values of an
object's members are smaller. -/
@[elab_as_elim, induction_eliminator]
theorem induct {motive : Tree σ → Prop} (null : motive .null) (bool : ∀ b, motive (.bool b))
    (num : ∀ n, motive (.num n)) (str : ∀ s, motive (.str s))
    (arr : ∀ es, (∀ v ∈ es, motive v) → motive (.arr es))
    (obj : ∀ ms, (∀ m ∈ ms, motive m.2) → motive (.obj ms)) (t : Tree σ) : motive t :=
  @Tree.rec σ motive (fun es => ∀ v ∈ es, motive v) (fun ms => ∀ m ∈ ms, motive m.2)
    (fun m => motive m.2) null bool num str arr obj (by simp) (by simp_all) (by simp)
    (by simp_all) (by simp) t

mutual
/-- Changes the representation of the strings. -/
def map (f : σ → τ) : Tree σ → Tree τ
  | .null => .null
  | .bool b => .bool b
  | .num n => .num n
  | .str s => .str (f s)
  | .arr es => .arr (mapElements f es)
  | .obj ms => .obj (mapMembers f ms)
/-- `map` on the elements of an array. -/
def mapElements (f : σ → τ) : List (Tree σ) → List (Tree τ)
  | [] => []
  | v :: es => map f v :: mapElements f es
/-- `map` on the members of an object. -/
def mapMembers (f : σ → τ) : List (σ × Tree σ) → List (τ × Tree τ)
  | [] => []
  | (n, v) :: ms => (f n, map f v) :: mapMembers f ms
end

mutual
/-- The tree and every tree inside it satisfy `P`. -/
def Every (P : Tree σ → Prop) : Tree σ → Prop
  | .null => P .null
  | .bool b => P (.bool b)
  | .num n => P (.num n)
  | .str s => P (.str s)
  | .arr es => P (.arr es) ∧ EveryElement P es
  | .obj ms => P (.obj ms) ∧ EveryMember P ms
/-- `Every` on the elements of an array. -/
def EveryElement (P : Tree σ → Prop) : List (Tree σ) → Prop
  | [] => True
  | v :: es => Every P v ∧ EveryElement P es
/-- `Every` on the members of an object. -/
def EveryMember (P : Tree σ → Prop) : List (σ × Tree σ) → Prop
  | [] => True
  | (_, v) :: ms => Every P v ∧ EveryMember P ms
end

/-- Every string, member names included, satisfies `p`, and every number `q`. -/
def All (p : σ → Prop) (q : Bytes → Prop) : Tree σ → Prop :=
  Every fun
    | .num n => q n
    | .str s => p s
    | .obj ms => ∀ m ∈ ms, p m.1
    | _ => True

/-- No object has two members of one name. -/
def Distinct : Tree σ → Prop :=
  Every fun
    | .obj ms => (ms.map Prod.fst).Nodup
    | _ => True

theorem mapElements_eq (f : σ → τ) (es : List (Tree σ)) : mapElements f es = es.map (map f) := by
  induction es with
  | nil => rfl
  | cons v es ih => rw [mapElements, ih, List.map_cons]

theorem mapMembers_eq (f : σ → τ) (ms : List (σ × Tree σ)) :
    mapMembers f ms = ms.map fun m => (f m.1, map f m.2) := by
  induction ms with
  | nil => rfl
  | cons m ms ih => rw [mapMembers, ih, List.map_cons]

@[simp] theorem map_null (f : σ → τ) : map f .null = .null := by rw [map]
@[simp] theorem map_bool (f : σ → τ) (b : Bool) : map f (.bool b) = .bool b := by rw [map]
@[simp] theorem map_num (f : σ → τ) (n : Bytes) : map f (.num n) = .num n := by rw [map]
@[simp] theorem map_str (f : σ → τ) (s : σ) : map f (.str s) = .str (f s) := by rw [map]

@[simp] theorem map_arr (f : σ → τ) (es : List (Tree σ)) :
    map f (.arr es) = .arr (es.map (map f)) := by
  rw [map, mapElements_eq]

@[simp] theorem map_obj (f : σ → τ) (ms : List (σ × Tree σ)) :
    map f (.obj ms) = .obj (ms.map fun m => (f m.1, map f m.2)) := by
  rw [map, mapMembers_eq]

variable {q : Bytes → Prop} {es : List (Tree σ)} {P : Tree σ → Prop} {p : σ → Prop}

theorem everyElement_iff : EveryElement P es ↔ ∀ v ∈ es, Every P v := by
  induction es with
  | nil => simp [EveryElement]
  | cons v es ih => simp [EveryElement, ih]

variable {ms : List (σ × Tree σ)}

theorem everyMember_iff : EveryMember P ms ↔ ∀ m ∈ ms, Every P m.2 := by
  induction ms with
  | nil => simp [EveryMember]
  | cons m ms ih => simp [EveryMember, ih]

theorem every_arr : Every P (.arr es) ↔ P (.arr es) ∧ ∀ v ∈ es, Every P v := by
  rw [Every, everyElement_iff]

theorem every_obj : Every P (.obj ms) ↔ P (.obj ms) ∧ ∀ m ∈ ms, Every P m.2 := by
  rw [Every, everyMember_iff]

@[simp] theorem all_null (p : σ → Prop) (q : Bytes → Prop) : All p q .null := by
  simp [All, Every]

@[simp] theorem all_bool (p : σ → Prop) (q : Bytes → Prop) (b : Bool) : All p q (.bool b) := by
  simp [All, Every]

@[simp] theorem all_num : All p q (.num n) ↔ q n := by
  simp [All, Every]

@[simp] theorem all_str {s : σ} : All p q (.str s) ↔ p s := by
  simp [All, Every]

@[simp] theorem all_arr : All p q (.arr es) ↔ ∀ v ∈ es, All p q v := by
  simp [All, every_arr]

@[simp] theorem all_obj : All p q (.obj ms) ↔ ∀ m ∈ ms, p m.1 ∧ All p q m.2 := by
  simp only [All, every_obj]
  exact ⟨fun h m hm => ⟨h.1 m hm, h.2 m hm⟩, fun h => ⟨fun m hm => (h m hm).1, fun m hm => (h m hm).2⟩⟩

@[simp] theorem distinct_null : Distinct (.null : Tree σ) := by simp [Distinct, Every]
@[simp] theorem distinct_bool (b : Bool) : Distinct (.bool b : Tree σ) := by simp [Distinct, Every]
@[simp] theorem distinct_num (n : Bytes) : Distinct (.num n : Tree σ) := by simp [Distinct, Every]
@[simp] theorem distinct_str (s : σ) : Distinct (.str s) := by simp [Distinct, Every]

@[simp] theorem distinct_arr : Distinct (.arr es) ↔ ∀ v ∈ es, Distinct v := by
  simp [Distinct, every_arr]

@[simp] theorem distinct_obj :
    Distinct (.obj ms) ↔ (ms.map Prod.fst).Nodup ∧ ∀ m ∈ ms, Distinct m.2 := by
  simp [Distinct, every_obj]

variable {t : Tree σ}

/-- A property of the new strings is a property of the old ones. -/
theorem all_map {f : σ → τ} {p : τ → Prop} : All p q (map f t) ↔ All (fun s => p (f s)) q t := by
  induction t with
  | null => simp
  | bool b => simp
  | num n => simp
  | str s => simp
  | arr es ih =>
    simp only [map_arr, all_arr, List.forall_mem_map]
    exact forall₂_congr ih
  | obj ms ih =>
    simp only [map_obj, all_obj, List.forall_mem_map]
    exact forall₂_congr fun m hm => and_congr_right fun _ => ih m hm

theorem All.mono {p' : σ → Prop} {q' : Bytes → Prop} (hp : ∀ s, p s → p' s) (hq : ∀ n, q n → q' n)
    (h : All p q t) : All p' q' t := by
  induction t with
  | null => simp
  | bool b => simp
  | num n => exact all_num.mpr (hq n (all_num.mp h))
  | str s => exact all_str.mpr (hp s (all_str.mp h))
  | arr es ih => exact all_arr.mpr fun v hv => ih v hv (all_arr.mp h v hv)
  | obj ms ih =>
    exact all_obj.mpr fun m hm => ⟨hp _ (all_obj.mp h m hm).1, ih m hm (all_obj.mp h m hm).2⟩

theorem All.and {p' : σ → Prop} {q' : Bytes → Prop} (h : All p q t) (h' : All p' q' t) :
    All (fun s => p s ∧ p' s) (fun n => q n ∧ q' n) t := by
  induction t with
  | null => simp
  | bool b => simp
  | num n => exact all_num.mpr ⟨all_num.mp h, all_num.mp h'⟩
  | str s => exact all_str.mpr ⟨all_str.mp h, all_str.mp h'⟩
  | arr es ih => exact all_arr.mpr fun v hv => ih v hv (all_arr.mp h v hv) (all_arr.mp h' v hv)
  | obj ms ih =>
    exact all_obj.mpr fun m hm => ⟨⟨(all_obj.mp h m hm).1, (all_obj.mp h' m hm).1⟩,
      ih m hm (all_obj.mp h m hm).2 (all_obj.mp h' m hm).2⟩

/-- Mapping twice is mapping the composition. -/
theorem map_map (f : σ → τ) (g : τ → υ) (t : Tree σ) : map g (map f t) = map (fun s => g (f s)) t := by
  induction t with
  | null => simp
  | bool b => simp
  | num n => simp
  | str s => simp
  | arr es ih => simpa using ih
  | obj ms ih => simpa using fun m v hm => ih (m, v) hm

/-- A function that fixes every string fixes the tree. -/
theorem map_eq_self {f : σ → σ} (h : All (fun s => f s = s) (fun _ => True) t) : map f t = t := by
  induction t with
  | null => simp
  | bool b => simp
  | num n => simp
  | str s => rw [map_str, all_str.mp h]
  | arr es ih =>
    rw [map_arr, List.map_congr_left fun v hv => ih v hv (all_arr.mp h v hv), List.map_id']
  | obj ms ih =>
    rw [map_obj, List.map_congr_left fun m hm => by
      rw [(all_obj.mp h m hm).1, ih m hm (all_obj.mp h m hm).2], List.map_id']

end Tree

/-! ## The grammar -/

/-- The blanks of JSON. -/
def isSpace (c : UInt8) : Bool := decide (c ∈ ascii " \t\n\r")

/-- Drops leading blanks. -/
def skipSpace (b : Bytes) : Bytes := b.dropWhile isSpace

/-- Reads one given character behind blanks. -/
def expect (c : UInt8) (b : Bytes) : Option Bytes :=
  match skipSpace b with
  | d :: rest => if d = c then some rest else none
  | [] => none

/-- Reads the rest of a literal name. -/
def literal (name : Bytes) (t : Tree Raw) (b : Bytes) : Option (Tree Raw × Bytes) :=
  if b.take name.length = name then some (t, b.drop name.length) else none

mutual
/-- Reads one value; the fuel bounds the number of nested and following reads. -/
def value : ℕ → Bytes → Option (Tree Raw × Bytes)
  | 0, _ => none
  | fuel + 1, b =>
    match skipSpace b with
    | [] => none
    | c :: rest =>
      if c = 0x7b then
        match expect 0x7d rest with
        | some rest => some (.obj [], rest)
        | none => (members fuel rest).map fun found => (.obj found.1, found.2)
      else if c = 0x5b then
        match expect 0x5d rest with
        | some rest => some (.arr [], rest)
        | none => (elements fuel rest).map fun found => (.arr found.1, found.2)
      else if c = 0x22 then (scanString rest).map fun found => (.str found.1, found.2)
      else if c = 0x74 then literal (ascii "rue") (.bool true) rest
      else if c = 0x66 then literal (ascii "alse") (.bool false) rest
      else if c = 0x6e then literal (ascii "ull") .null rest
      else (scanNumber (c :: rest)).map fun found => (.num found.1, found.2)
/-- Reads one or more elements and the closing bracket. -/
def elements : ℕ → Bytes → Option (List (Tree Raw) × Bytes)
  | 0, _ => none
  | fuel + 1, b =>
    match value fuel b with
    | none => none
    | some (v, rest) =>
      match expect 0x2c rest with
      | some rest => (elements fuel rest).map fun found => (v :: found.1, found.2)
      | none => (expect 0x5d rest).map fun rest => ([v], rest)
/-- Reads one or more members and the closing brace. -/
def members : ℕ → Bytes → Option (List (Raw × Tree Raw) × Bytes)
  | 0, _ => none
  | fuel + 1, b =>
    match ((expect 0x22 b).bind scanString).bind fun name =>
        ((expect 0x3a name.2).bind (value fuel)).map fun found => ((name.1, found.1), found.2) with
    | none => none
    | some (member, rest) =>
      match expect 0x2c rest with
      | some rest => (members fuel rest).map fun found => (member :: found.1, found.2)
      | none => (expect 0x7d rest).map fun rest => ([member], rest)
end

/-- Reads a text that is one value, surrounded by blanks only. -/
def parse (b : Bytes) : Option (Tree Raw) :=
  match value (b.length + 1) b with
  | some (t, rest) => if (skipSpace rest).isEmpty then some t else none
  | none => none

/-! ## Rendering -/

/-- Texts separated by commas. -/
def commaSeparated : List Bytes → Bytes
  | [] => []
  | [x] => x
  | x :: y :: xs => x ++ 0x2c :: commaSeparated (y :: xs)

/-- A string literal. -/
def stringText (s : Raw) : Bytes := 0x22 :: (rawText s ++ [0x22])

mutual
/-- The rendering without blanks. -/
def print : Tree Raw → Bytes
  | .null => ascii "null"
  | .bool true => ascii "true"
  | .bool false => ascii "false"
  | .num n => n
  | .str s => stringText s
  | .arr es => 0x5b :: (commaSeparated (printElements es) ++ [0x5d])
  | .obj ms => 0x7b :: (commaSeparated (printMembers ms) ++ [0x7d])
/-- The renderings of the elements of an array. -/
def printElements : List (Tree Raw) → List Bytes
  | [] => []
  | v :: es => print v :: printElements es
/-- The renderings of the members of an object. -/
def printMembers : List (Raw × Tree Raw) → List Bytes
  | [] => []
  | (n, v) :: ms => (stringText n ++ 0x3a :: print v) :: printMembers ms
end

/-- The rendering of one member of an object. -/
def memberText (m : Raw × Tree Raw) : Bytes := stringText m.1 ++ 0x3a :: print m.2

theorem printElements_eq (es : List (Tree Raw)) : printElements es = es.map print := by
  induction es with
  | nil => rfl
  | cons v es ih => rw [printElements, ih, List.map_cons]

theorem printMembers_eq (ms : List (Raw × Tree Raw)) : printMembers ms = ms.map memberText := by
  induction ms with
  | nil => rfl
  | cons m ms ih => rw [printMembers, ih, List.map_cons]; rfl

@[simp] theorem print_num (n : Bytes) : print (.num n) = n := by rw [print]
@[simp] theorem print_str (s : Raw) : print (.str s) = stringText s := by rw [print]

@[simp] theorem print_arr (es : List (Tree Raw)) :
    print (.arr es) = 0x5b :: (commaSeparated (es.map print) ++ [0x5d]) := by
  rw [print, printElements_eq]

@[simp] theorem print_obj (ms : List (Raw × Tree Raw)) :
    print (.obj ms) = 0x7b :: (commaSeparated (ms.map memberText) ++ [0x7d]) := by
  rw [print, printMembers_eq]

/-- Spellings and numbers are ones the grammar allows. -/
def WellFormed (t : Tree Raw) : Prop := t.All RawWellFormed NumberWellFormed

/-- A text that does not continue a number. -/
def Delimited (b : Bytes) : Prop := ∀ c rest, b = c :: rest → isNumberByte c = false

theorem delimited_nil : Delimited [] := by
  intro c rest h
  cases h

theorem delimited_cons (h : isNumberByte c = false) (rest : Bytes) : Delimited (c :: rest) := by
  intro d tail heq
  cases heq
  exact h

theorem skipSpace_cons (h : isSpace c = false) (rest : Bytes) :
    skipSpace (c :: rest) = c :: rest := by
  simp [skipSpace, h]

theorem expect_cons (h : isSpace c = false) (rest : Bytes) : expect c (c :: rest) = some rest := by
  simp [expect, skipSpace_cons h]

theorem expect_cons_ne {d : UInt8} (h : isSpace d = false) (hne : d ≠ c) (rest : Bytes) :
    expect c (d :: rest) = none := by
  simp [expect, skipSpace_cons h, hne]

theorem scanNumber_append (hn : NumberWellFormed n) (hr : Delimited rest) :
    scanNumber (n ++ rest) = some (n, rest) := by
  have htake : rest.takeWhile isNumberByte = [] := by
    cases rest with
    | nil => rfl
    | cons c rest => simp [hr c rest rfl]
  have hdrop : rest.dropWhile isNumberByte = rest := by
    cases rest with
    | nil => rfl
    | cons c rest => simp [hr c rest rfl]
  have hsplit : (n ++ rest).takeWhile isNumberByte = n := by
    rw [List.takeWhile_append_of_pos hn.1, htake, List.append_nil]
  rw [scanNumber, hsplit, List.dropWhile_append_of_pos hn.1, hdrop]
  simp [hn.2]

/-- The octets that start the other values are not number octets. -/
theorem number_head (h : isNumberByte c = true) :
    isSpace c = false ∧ c ≠ 0x7b ∧ c ≠ 0x5b ∧ c ≠ 0x22 ∧ c ≠ 0x74 ∧ c ≠ 0x66 ∧ c ≠ 0x6e ∧
      c ≠ 0x5d ∧ c ≠ 0x7d := by
  refine ⟨?_, ?_, ?_, ?_, ?_, ?_, ?_, ?_, ?_⟩
  · by_contra hs
    have hmem : c ∈ ascii " \t\n\r" := by simpa [isSpace] using hs
    have hcases : c = 0x20 ∨ c = 0x09 ∨ c = 0x0a ∨ c = 0x0d := by simpa [ascii] using hmem
    rcases hcases with rfl | rfl | rfl | rfl <;> exact absurd h (by decide)
  all_goals rintro rfl; exact absurd h (by decide)

theorem numberWellFormed_cons (hn : NumberWellFormed n) :
    ∃ c rest, n = c :: rest ∧ isNumberByte c = true := by
  cases n with
  | nil => exact absurd hn.2 (by decide)
  | cons c rest => exact ⟨c, rest, rfl, hn.1 c (List.mem_cons_self ..)⟩

variable {t : Tree Raw}

/-- A rendering starts with an octet that is neither a blank nor a closing
delimiter. -/
theorem print_head (ht : WellFormed t) :
    ∃ c rest, print t = c :: rest ∧ isSpace c = false ∧ c ≠ 0x5d ∧ c ≠ 0x7d := by
  cases t with
  | null => exact ⟨0x6e, ascii "ull", by rw [print]; rfl, by decide, by decide, by decide⟩
  | bool b =>
    cases b with
    | true => exact ⟨0x74, ascii "rue", by rw [print]; rfl, by decide, by decide, by decide⟩
    | false => exact ⟨0x66, ascii "alse", by rw [print]; rfl, by decide, by decide, by decide⟩
  | num n =>
    obtain ⟨c, rest, rfl, hc⟩ := numberWellFormed_cons (Tree.all_num.mp ht)
    have h := number_head hc
    exact ⟨c, rest, print_num _, h.1, h.2.2.2.2.2.2.2.1, h.2.2.2.2.2.2.2.2⟩
  | str s => exact ⟨0x22, _, print_str s, by decide, by decide, by decide⟩
  | arr es => exact ⟨0x5b, _, print_arr es, by decide, by decide, by decide⟩
  | obj ms => exact ⟨0x7b, _, print_obj ms, by decide, by decide, by decide⟩

/-- The reader recovers `t` from its rendering in front of any delimiter, given
as much fuel as the rendering is long. -/
def Recovered (t : Tree Raw) : Prop :=
  ∀ fuel rest, (print t).length ≤ fuel → Delimited rest →
    value fuel (print t ++ rest) = some (t, rest)

/-- Reading the elements of an array, from what is known of each of them. -/
theorem elements_print {es : List (Tree Raw)} (hne : es ≠ []) (hes : ∀ v ∈ es, Recovered v)
    (hf : (commaSeparated (es.map print)).length + 1 ≤ fuel) (rest : Bytes) :
    elements fuel (commaSeparated (es.map print) ++ 0x5d :: rest) = some (es, rest) := by
  induction es generalizing fuel with
  | nil => exact absurd rfl hne
  | cons v es ih =>
    obtain ⟨fuel, rfl⟩ : ∃ k, fuel = k + 1 := ⟨fuel - 1, by omega⟩
    have hv := hes v (List.mem_cons_self ..)
    cases es with
    | nil =>
      simp only [List.map_cons, List.map_nil, commaSeparated] at hf ⊢
      rw [elements, hv fuel _ (by omega) (delimited_cons (by decide) _)]
      simp [expect_cons_ne (c := 0x2c) (d := 0x5d) (by decide) (by decide),
        expect_cons (c := 0x5d) (by decide)]
    | cons w es =>
      simp only [List.map_cons, commaSeparated, List.append_assoc, List.cons_append,
        List.length_append, List.length_cons] at hf ⊢
      rw [elements, hv fuel _ (by omega) (delimited_cons (by decide) _)]
      have htail : elements fuel (commaSeparated (print w :: es.map print) ++ 0x5d :: rest) =
          some (w :: es, rest) :=
        ih (by simp) (fun u hu => hes u (List.mem_cons_of_mem _ hu))
          (by simp only [List.map_cons]; omega)
      simp [expect_cons (c := 0x2c) (by decide), htail]

/-- Reading one member in front of a delimiter. -/
theorem member_print {m : Raw × Tree Raw} (hn : RawWellFormed m.1) (hv : Recovered m.2)
    (hf : (memberText m).length ≤ fuel) (hr : Delimited rest) :
    (((expect 0x22 (memberText m ++ rest)).bind scanString).bind fun name =>
        ((expect 0x3a name.2).bind (value fuel)).map fun found =>
          ((name.1, found.1), found.2)) = some (m, rest) := by
  have hlen : (print m.2).length ≤ fuel := by
    simp only [memberText, List.length_append, List.length_cons] at hf
    omega
  have htext : memberText m ++ rest =
      0x22 :: (rawText m.1 ++ 0x22 :: (0x3a :: (print m.2 ++ rest))) := by
    simp [memberText, stringText]
  rw [htext, expect_cons (by decide), Option.bind_some, scanString_rawText hn, Option.bind_some,
    expect_cons (by decide), Option.bind_some, hv fuel rest hlen hr]
  rfl

/-- Reading the members of an object, from what is known of each of them. -/
theorem members_print {ms : List (Raw × Tree Raw)} (hne : ms ≠ [])
    (hms : ∀ m ∈ ms, RawWellFormed m.1 ∧ Recovered m.2)
    (hf : (commaSeparated (ms.map memberText)).length + 1 ≤ fuel) (rest : Bytes) :
    members fuel (commaSeparated (ms.map memberText) ++ 0x7d :: rest) = some (ms, rest) := by
  induction ms generalizing fuel with
  | nil => exact absurd rfl hne
  | cons m ms ih =>
    obtain ⟨fuel, rfl⟩ : ∃ k, fuel = k + 1 := ⟨fuel - 1, by omega⟩
    obtain ⟨hn, hv⟩ := hms m (List.mem_cons_self ..)
    cases ms with
    | nil =>
      simp only [List.map_cons, List.map_nil, commaSeparated] at hf ⊢
      rw [members, member_print hn hv (by omega) (delimited_cons (by decide) _)]
      simp [expect_cons_ne (c := 0x2c) (d := 0x7d) (by decide) (by decide),
        expect_cons (c := 0x7d) (by decide)]
    | cons k ms =>
      simp only [List.map_cons, commaSeparated, List.append_assoc, List.cons_append,
        List.length_append, List.length_cons] at hf ⊢
      rw [members, member_print hn hv (by omega) (delimited_cons (by decide) _)]
      have htail : members fuel (commaSeparated (memberText k :: ms.map memberText) ++
          0x7d :: rest) = some (k :: ms, rest) :=
        ih (by simp) (fun u hu => hms u (List.mem_cons_of_mem _ hu))
          (by simp only [List.map_cons]; omega)
      simp [expect_cons (c := 0x2c) (by decide), htail]

/-- The first octet of a non-empty comma-separated text is that of its first
part. -/
theorem commaSeparated_head {x : Bytes} {tail : Bytes} (hx : x = c :: tail) (xs : List Bytes) :
    ∃ rest, commaSeparated (x :: xs) = c :: rest := by
  subst hx
  cases xs with
  | nil => exact ⟨tail, rfl⟩
  | cons y ys => exact ⟨tail ++ 0x2c :: commaSeparated (y :: ys), rfl⟩

/-- The reader recovers every well-formed tree from its rendering. -/
theorem recovered (ht : WellFormed t) : Recovered t := by
  induction t with
  | null =>
    intro fuel rest hf _
    obtain ⟨fuel, rfl⟩ : ∃ k, fuel = k + 1 := ⟨fuel - 1, by rw [print] at hf; simp [ascii] at hf; omega⟩
    rw [print, value]
    rfl
  | bool b =>
    intro fuel rest hf _
    cases b with
    | true | false =>
      obtain ⟨fuel, rfl⟩ : ∃ k, fuel = k + 1 := ⟨fuel - 1, by rw [print] at hf; simp [ascii] at hf; omega⟩
      rw [print, value]
      rfl
  | num n =>
    intro fuel rest hf hr
    have hn : NumberWellFormed n := Tree.all_num.mp ht
    obtain ⟨c, tail, rfl, hc⟩ := numberWellFormed_cons hn
    rw [print_num] at hf ⊢
    obtain ⟨fuel, rfl⟩ : ∃ k, fuel = k + 1 := ⟨fuel - 1, by simp at hf; omega⟩
    obtain ⟨hs, h1, h2, h3, h4, h5, h6, -⟩ := number_head hc
    have hscan := scanNumber_append hn hr
    rw [List.cons_append] at hscan ⊢
    rw [value, skipSpace_cons hs]
    simp [h1, h2, h3, h4, h5, h6, hscan]
  | str s =>
    intro fuel rest hf _
    rw [print_str] at hf ⊢
    obtain ⟨fuel, rfl⟩ : ∃ k, fuel = k + 1 := ⟨fuel - 1, by simp [stringText] at hf; omega⟩
    have hscan := scanString_rawText (Tree.all_str.mp ht) rest
    have htext : stringText s ++ rest = 0x22 :: (rawText s ++ 0x22 :: rest) := by simp [stringText]
    rw [htext, value, skipSpace_cons (by decide)]
    simp [hscan]
  | arr es ih =>
    intro fuel rest hf _
    rw [print_arr] at hf ⊢
    obtain ⟨fuel, rfl⟩ : ∃ k, fuel = k + 1 := ⟨fuel - 1, by simp at hf; omega⟩
    rw [List.cons_append, value, skipSpace_cons (by decide)]
    cases es with
    | nil => simp [commaSeparated, expect_cons (c := 0x5d) (by decide)]
    | cons v es =>
      have hall := Tree.all_arr.mp ht
      obtain ⟨c, tail, hc, hspace, hclose, -⟩ := print_head (hall v (List.mem_cons_self ..))
      have hread : elements fuel (commaSeparated ((v :: es).map print) ++ 0x5d :: rest) =
          some (v :: es, rest) :=
        elements_print (List.cons_ne_nil v es) (fun u hu => ih u hu (hall u hu))
          (by simp at hf ⊢; omega) rest
      obtain ⟨text, htext⟩ := commaSeparated_head hc (es.map print)
      rw [List.map_cons, htext] at hread ⊢
      simp only [List.append_assoc, List.cons_append] at hread ⊢
      simp [expect_cons_ne hspace hclose, hread]
  | obj ms ih =>
    intro fuel rest hf _
    rw [print_obj] at hf ⊢
    obtain ⟨fuel, rfl⟩ : ∃ k, fuel = k + 1 := ⟨fuel - 1, by simp at hf; omega⟩
    rw [List.cons_append, value, skipSpace_cons (by decide)]
    cases ms with
    | nil => simp [commaSeparated, expect_cons (c := 0x7d) (by decide)]
    | cons m ms =>
      have hall := Tree.all_obj.mp ht
      have hread : members fuel (commaSeparated ((m :: ms).map memberText) ++ 0x7d :: rest) =
          some (m :: ms, rest) :=
        members_print (List.cons_ne_nil m ms)
          (fun u hu => ⟨(hall u hu).1, ih u hu (hall u hu).2⟩) (by simp at hf ⊢; omega) rest
      obtain ⟨text, htext⟩ := commaSeparated_head (x := memberText m) rfl (ms.map memberText)
      rw [List.map_cons, htext] at hread ⊢
      simp only [List.append_assoc, List.cons_append] at hread ⊢
      simp [expect_cons_ne (c := 0x7d) (d := 0x22) (by decide) (by decide), hread]

/-- Reading back a rendering. -/
theorem parse_print (ht : WellFormed t) : parse (print t) = some t := by
  have h := recovered ht ((print t).length + 1) [] (by omega) delimited_nil
  rw [List.append_nil] at h
  simp [parse, h, skipSpace]

/-! ## What the reader returns -/

theorem scanNumber_wellFormed (h : scanNumber b = some (n, rest)) : NumberWellFormed n := by
  unfold scanNumber at h
  split at h
  · next hvalid =>
    cases h
    exact ⟨fun c hc => List.mem_takeWhile_imp hc, hvalid⟩
  · cases h

theorem literal_tree {name : Bytes} {u : Tree Raw} (h : literal name t b = some (u, rest)) :
    u = t := by
  unfold literal at h
  split at h
  · cases h; rfl
  · cases h

/-- Every value, element and member the reader returns is well formed; the
induction is on the fuel the three readers share. -/
theorem reads_wellFormed (fuel : ℕ) :
    (∀ b t rest, value fuel b = some (t, rest) → WellFormed t) ∧
      (∀ b es rest, elements fuel b = some (es, rest) → ∀ v ∈ es, WellFormed v) ∧
      ∀ b ms rest, members fuel b = some (ms, rest) →
        ∀ m ∈ ms, RawWellFormed m.1 ∧ WellFormed m.2 := by
  induction fuel with
  | zero =>
    refine ⟨?_, ?_, ?_⟩
    · intro b t rest h
      rw [value] at h
      cases h
    · intro b es rest h
      rw [elements] at h
      cases h
    · intro b ms rest h
      rw [members] at h
      cases h
  | succ fuel ih =>
    obtain ⟨ihv, ihe, ihm⟩ := ih
    refine ⟨?_, ?_, ?_⟩
    · intro b t rest h
      rw [value] at h
      split at h
      · cases h
      · split_ifs at h
        · split at h
          · cases h
            exact Tree.all_obj.mpr (by simp)
          · obtain ⟨found, hf, heq⟩ := Option.map_eq_some_iff.mp h
            cases heq
            exact Tree.all_obj.mpr (ihm _ _ _ hf)
        · split at h
          · cases h
            exact Tree.all_arr.mpr (by simp)
          · obtain ⟨found, hf, heq⟩ := Option.map_eq_some_iff.mp h
            cases heq
            exact Tree.all_arr.mpr (ihe _ _ _ hf)
        · obtain ⟨found, hf, heq⟩ := Option.map_eq_some_iff.mp h
          cases heq
          exact Tree.all_str.mpr (scanString_wellFormed hf)
        · exact literal_tree h ▸ Tree.all_bool _ _ _
        · exact literal_tree h ▸ Tree.all_bool _ _ _
        · exact literal_tree h ▸ Tree.all_null _ _
        · obtain ⟨found, hf, heq⟩ := Option.map_eq_some_iff.mp h
          cases heq
          exact Tree.all_num.mpr (scanNumber_wellFormed hf)
    · intro b es rest h
      rw [elements] at h
      split at h
      · cases h
      · next v tail hv =>
        have hwf : WellFormed v := ihv _ _ _ hv
        split at h
        · obtain ⟨found, hf, heq⟩ := Option.map_eq_some_iff.mp h
          cases heq
          exact List.forall_mem_cons.mpr ⟨hwf, ihe _ _ _ hf⟩
        · obtain ⟨found, hf, heq⟩ := Option.map_eq_some_iff.mp h
          cases heq
          exact List.forall_mem_singleton.mpr hwf
    · intro b ms rest h
      rw [members] at h
      split at h
      · cases h
      · next m tail hm =>
        have hwf : RawWellFormed m.1 ∧ WellFormed m.2 := by
          obtain ⟨name, hname, hvalue⟩ := Option.bind_eq_some_iff.mp hm
          obtain ⟨start, -, hscan⟩ := Option.bind_eq_some_iff.mp hname
          obtain ⟨found, hf, heq⟩ := Option.map_eq_some_iff.mp hvalue
          obtain ⟨colon, -, hread⟩ := Option.bind_eq_some_iff.mp hf
          cases heq
          exact ⟨scanString_wellFormed hscan, ihv _ _ _ hread⟩
        split at h
        · obtain ⟨found, hf, heq⟩ := Option.map_eq_some_iff.mp h
          cases heq
          exact List.forall_mem_cons.mpr ⟨hwf, ihm _ _ _ hf⟩
        · obtain ⟨found, hf, heq⟩ := Option.map_eq_some_iff.mp h
          cases heq
          exact List.forall_mem_singleton.mpr hwf

/-- What `parse` returns is well formed. -/
theorem parse_wellFormed (h : parse b = some t) : WellFormed t := by
  unfold parse at h
  split at h
  · next t' rest hv =>
    split at h
    · cases h
      exact (reads_wellFormed _).1 _ _ _ hv
    · cases h
  · cases h

end Talenro.Lib.Json
