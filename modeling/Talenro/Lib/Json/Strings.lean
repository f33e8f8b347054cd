import Mathlib.Data.Bool.AllAny
import Talenro.Lib.Json.Tree

/-!
# Spelling and decoding of JSON strings

How octet strings are spelled as string literals and read back:

* `quote` is the minimal spelling (the one RFC 8785 prescribes);
* `htmlEscape` is the extra escaping `encoding/json` applies on output;
* `unquote` is the decoding, which joins surrogate pairs and replaces a lone
  surrogate by U+FFFD;
* `validUnicodeEscapes` is the loop that refuses a text with a lone surrogate.

Octets outside ASCII stand for themselves, so these functions are used on texts
that are valid UTF-8.
-/

set_option autoImplicit false

namespace Talenro.Lib.Json

/-! ## Code points -/

/-- The value of a hexadecimal digit. -/
def hexValue (c : UInt8) : ℕ :=
  if c ≤ 0x39 then c.toNat - 0x30
  else if c ≤ 0x46 then c.toNat - 0x41 + 10
  else c.toNat - 0x61 + 10

/-- The value of four hexadecimal digits. -/
def hexQuad (a b c d : UInt8) : ℕ :=
  ((hexValue a * 16 + hexValue b) * 16 + hexValue c) * 16 + hexValue d

/-- The lower-case hexadecimal digit of a number below sixteen. -/
def hexDigit (n : ℕ) : UInt8 := if n < 10 then UInt8.ofNat (0x30 + n) else UInt8.ofNat (0x57 + n)

/-- Whether a code unit starts a surrogate pair. -/
def isHighSurrogate (u : ℕ) : Bool := decide (0xd800 ≤ u) && decide (u ≤ 0xdbff)

/-- Whether a code unit ends a surrogate pair. -/
def isLowSurrogate (u : ℕ) : Bool := decide (0xdc00 ≤ u) && decide (u ≤ 0xdfff)

/-- The UTF-8 encoding of a code point. -/
def utf8Encode (u : ℕ) : Bytes :=
  if u < 0x80 then [UInt8.ofNat u]
  else if u < 0x800 then [UInt8.ofNat (0xc0 + u / 64), UInt8.ofNat (0x80 + u % 64)]
  else if u < 0x10000 then
    [UInt8.ofNat (0xe0 + u / 4096), UInt8.ofNat (0x80 + u / 64 % 64), UInt8.ofNat (0x80 + u % 64)]
  else
    [UInt8.ofNat (0xf0 + u / 262144), UInt8.ofNat (0x80 + u / 4096 % 64),
      UInt8.ofNat (0x80 + u / 64 % 64), UInt8.ofNat (0x80 + u % 64)]

/-- The encoding of U+FFFD. -/
def replacement : Bytes := utf8Encode 0xfffd

/-! ## Decoding -/

/-- The octet a two-character escape stands for. -/
def shortValue (c : UInt8) : UInt8 :=
  if c = 0x62 then 0x08
  else if c = 0x66 then 0x0c
  else if c = 0x6e then 0x0a
  else if c = 0x72 then 0x0d
  else if c = 0x74 then 0x09
  else c

/-- What a pending first half of a surrogate pair becomes when no second half
follows it. -/
def flush (pending : Option ℕ) : Bytes := if pending.isSome then replacement else []

/-- Decodes one piece, given the pending first half of a surrogate pair. -/
def unquotePiece (pending : Option ℕ) : Piece → Bytes × Option ℕ
  | .plain c => (flush pending ++ [c], none)
  | .short c => (flush pending ++ [shortValue c], none)
  | .unicode a b c d =>
    let u := hexQuad a b c d
    if isHighSurrogate u then (flush pending, some u)
    else if isLowSurrogate u then
      match pending with
      | some high => (utf8Encode (0x10000 + (high - 0xd800) * 0x400 + (u - 0xdc00)), none)
      | none => (replacement, none)
    else (flush pending ++ utf8Encode u, none)

/-- Decodes a spelling, given the pending first half of a surrogate pair. -/
def unquoteFrom : Option ℕ → Raw → Bytes
  | pending, [] => flush pending
  | pending, p :: s => (unquotePiece pending p).1 ++ unquoteFrom (unquotePiece pending p).2 s

/-- The octets a string literal stands for. -/
def unquote (s : Raw) : Bytes := unquoteFrom none s

/-! ## Spelling -/

/-- The spelling of an octet as a `\u00xx` escape. -/
def controlEscape (c : UInt8) : Piece :=
  .unicode 0x30 0x30 (hexDigit (c.toNat / 16)) (hexDigit (c.toNat % 16))

/-- The minimal spelling of an octet. -/
def quotePiece (c : UInt8) : Piece :=
  if c = 0x22 then .short c
  else if c = 0x5c then .short c
  else if c = 0x08 then .short 0x62
  else if c = 0x0c then .short 0x66
  else if c = 0x0a then .short 0x6e
  else if c = 0x0d then .short 0x72
  else if c = 0x09 then .short 0x74
  else if c < 0x20 then controlEscape c
  else .plain c

/-- The minimal spelling of a string. -/
def quote (s : Bytes) : Raw := s.map quotePiece

/-- `encoding/json` spells the characters that matter to HTML as escapes. -/
def htmlPiece : Piece → Piece
  | .plain c => if c ∈ ascii "<>&" then controlEscape c else .plain c
  | p => p

/-- The escaping `encoding/json` applies to spellings on output: HTML
characters, and the line separators U+2028 and U+2029. -/
def htmlEscape : Raw → Raw
  | .plain a :: .plain b :: .plain c :: s =>
    if a = 0xe2 ∧ b = 0x80 ∧ (c = 0xa8 ∨ c = 0xa9) then
      .unicode 0x32 0x30 0x32 (if c = 0xa8 then 0x38 else 0x39) :: htmlEscape s
    else htmlPiece (.plain a) :: htmlEscape (.plain b :: .plain c :: s)
  | p :: s => htmlPiece p :: htmlEscape s
  | [] => []

/-! ## The escape check -/

/-- Four hexadecimal digits, as a code unit. -/
def decodeHexQuad (a b c d : UInt8) : Option ℕ :=
  if isHex a && isHex b && isHex c && isHex d then some (hexQuad a b c d) else none

/-- The loop that looks for lone surrogates, from a position inside or outside
a string literal, and behind a backslash or not.  A pair of escapes joins to a
code point above U+FFFF, so the test against U+FFFD never fails. -/
def escapesFrom (inString escaped : Bool) : Bytes → Bool
  | [] => !inString && !escaped
  | character :: rest =>
    if !inString then escapesFrom (character = 0x22) escaped rest
    else if escaped then
      if character ≠ 0x75 then escapesFrom true false rest
      else
        match rest with
        | a :: b :: c :: d :: rest =>
          match decodeHexQuad a b c d with
          | none => false
          | some first =>
            if isLowSurrogate first then false
            else if !isHighSurrogate first then escapesFrom true false rest
            else
              match rest with
              | x :: y :: a :: b :: c :: d :: rest =>
                if x ≠ 0x5c ∨ y ≠ 0x75 then false
                else
                  match decodeHexQuad a b c d with
                  | none => false
                  | some second => isLowSurrogate second && escapesFrom true false rest
              | _ => false
        | _ => false
    else if character = 0x5c then escapesFrom true true rest
    else escapesFrom (character ≠ 0x22) false rest

/-- Whether the string literals of a text are closed and hold no lone surrogate
escape. -/
def validUnicodeEscapes (body : Bytes) : Bool := escapesFrom false false body

/-! ## Escapes of single characters -/

variable {b : Bytes} {p : Piece} {s : Raw} {t : Tree Raw} {c : UInt8} {n : ℕ}

theorem hexValue_hexDigit (h : n < 16) : hexValue (hexDigit n) = n := by
  have hall : ∀ m : Fin 16, hexValue (hexDigit m) = m.val := by decide
  exact hall ⟨n, h⟩

theorem isHex_hexDigit (h : n < 16) : isHex (hexDigit n) = true := by
  have hall : ∀ m : Fin 16, isHex (hexDigit m) = true := by decide
  exact hall ⟨n, h⟩

theorem hexDigit_ascii (h : n < 16) : hexDigit n < 0x80 := by
  have hall : ∀ m : Fin 16, hexDigit m < 0x80 := by decide
  exact hall ⟨n, h⟩

/-- A `\u00xx` escape denotes its octet. -/
theorem hexQuad_controlEscape (c : UInt8) :
    hexQuad 0x30 0x30 (hexDigit (c.toNat / 16)) (hexDigit (c.toNat % 16)) = c.toNat := by
  have hc := c.toNat_lt
  have h0 : hexValue 0x30 = 0 := by decide
  rw [hexQuad, hexValue_hexDigit (n := c.toNat / 16) (by omega),
    hexValue_hexDigit (n := c.toNat % 16) (by omega), h0]
  omega

/-- A piece that does not denote half of a surrogate pair. -/
def Piece.isScalar : Piece → Bool
  | .unicode a b c d => !isHighSurrogate (hexQuad a b c d) && !isLowSurrogate (hexQuad a b c d)
  | _ => true

/-- A spelling the grammar allows, without surrogates. -/
def RawScalar (s : Raw) : Prop := ∀ p ∈ s, p.wellFormed = true ∧ p.isScalar = true

theorem RawScalar.wellFormed (h : RawScalar s) : RawWellFormed s :=
  fun p hp => (h p hp).1

theorem controlEscape_scalar (c : UInt8) :
    (controlEscape c).wellFormed = true ∧ (controlEscape c).isScalar = true := by
  have hc := c.toNat_lt
  constructor
  · simp only [controlEscape, Piece.wellFormed, isHex_hexDigit (n := c.toNat / 16) (by omega),
      isHex_hexDigit (n := c.toNat % 16) (by omega)]
    decide
  · have hlow : ¬ 0xd800 ≤ c.toNat := by omega
    have hhigh : ¬ 0xdc00 ≤ c.toNat := by omega
    simp [controlEscape, Piece.isScalar, hexQuad_controlEscape, isHighSurrogate, isLowSurrogate,
      hlow, hhigh]

/-- A plain octet is neither a control character, a quote nor a backslash. -/
theorem plain_wellFormed (hlow : ¬ c < 0x20) (hquote : c ≠ 0x22) (hback : c ≠ 0x5c) :
    (Piece.plain c).wellFormed = true := by
  have hle : 0x20 ≤ c := by
    simp only [UInt8.le_iff_toNat_le, UInt8.lt_iff_toNat_lt] at hlow ⊢
    omega
  simp [Piece.wellFormed, hle, hquote, hback]

theorem quotePiece_scalar (c : UInt8) :
    (quotePiece c).wellFormed = true ∧ (quotePiece c).isScalar = true := by
  unfold quotePiece
  split_ifs with h1 h2 h3 h4 h5 h6 h7 h8
  · subst h1; decide
  · subst h2; decide
  · decide
  · decide
  · decide
  · decide
  · decide
  · exact controlEscape_scalar c
  · exact ⟨plain_wellFormed h8 h1 h2, rfl⟩

/-- The minimal spelling of any string is well formed and free of surrogates. -/
theorem rawScalar_quote (s : Bytes) : RawScalar (quote s) := by
  intro p hp
  obtain ⟨c, -, rfl⟩ := List.mem_map.mp hp
  exact quotePiece_scalar c

theorem htmlPiece_scalar (hp : p.wellFormed = true ∧ p.isScalar = true) :
    (htmlPiece p).wellFormed = true ∧ (htmlPiece p).isScalar = true := by
  cases p with
  | plain c =>
    simp only [htmlPiece]
    split
    · exact controlEscape_scalar c
    · exact hp
  | short c => exact hp
  | unicode a b c d => exact hp

theorem htmlPiece_wellFormed (hp : p.wellFormed = true) : (htmlPiece p).wellFormed = true := by
  cases p with
  | plain c =>
    simp only [htmlPiece]
    split
    · exact (controlEscape_scalar c).1
    · exact hp
  | short c => exact hp
  | unicode a b c d => exact hp

/-- A property of pieces that the escapes have and `htmlPiece` keeps is kept by
the whole escaping. -/
theorem forall_mem_htmlEscape {P : Piece → Prop} (hsep : ∀ d, d = 0x38 ∨ d = 0x39 →
    P (.unicode 0x32 0x30 0x32 d)) (hpiece : ∀ p, P p → P (htmlPiece p)) (hs : ∀ p ∈ s, P p) :
    ∀ p ∈ htmlEscape s, P p := by
  induction s using htmlEscape.induct with
  | case1 a b c s hif ih =>
    rw [htmlEscape, if_pos hif]
    refine List.forall_mem_cons.mpr ⟨hsep _ ?_, ih fun p hp => hs p (by simp [hp])⟩
    split
    · exact Or.inl rfl
    · exact Or.inr rfl
  | case2 a b c s hif ih =>
    rw [htmlEscape, if_neg hif]
    exact List.forall_mem_cons.mpr ⟨hpiece _ (hs _ (by simp)), ih fun p hp => hs p (by
      simp only [List.mem_cons] at hp ⊢; tauto)⟩
  | case3 p s hne ih =>
    rw [htmlEscape]
    · exact List.forall_mem_cons.mpr ⟨hpiece _ (hs _ (by simp)), ih fun q hq => hs q (by simp [hq])⟩
    · exact hne
  | case4 => simp [htmlEscape]

theorem rawScalar_htmlEscape (hs : RawScalar s) : RawScalar (htmlEscape s) :=
  forall_mem_htmlEscape (P := fun p => p.wellFormed = true ∧ p.isScalar = true)
    (by rintro d (rfl | rfl) <;> decide) (fun _ => htmlPiece_scalar) hs

theorem rawWellFormed_htmlEscape (hs : RawWellFormed s) : RawWellFormed (htmlEscape s) :=
  forall_mem_htmlEscape (P := fun p => p.wellFormed = true)
    (by rintro d (rfl | rfl) <;> decide) (fun _ => htmlPiece_wellFormed) hs

/-! ## Decoding undoes spelling -/

/-- A `\u00xx` escape of an ASCII octet decodes like the octet. -/
theorem unquotePiece_controlEscape (pending : Option ℕ) (hc : c < 0x80) :
    unquotePiece pending (controlEscape c) = (flush pending ++ [c], none) := by
  have hlt : c.toNat < 0x80 := by simpa [UInt8.lt_iff_toNat_lt] using hc
  have hlow : ¬ 0xd800 ≤ c.toNat := by omega
  have hhigh : ¬ 0xdc00 ≤ c.toNat := by omega
  simp [controlEscape, unquotePiece, hexQuad_controlEscape, isHighSurrogate, isLowSurrogate, hlow,
    hhigh, utf8Encode, hlt]

theorem unquotePiece_quotePiece (pending : Option ℕ) (c : UInt8) :
    unquotePiece pending (quotePiece c) = (flush pending ++ [c], none) := by
  unfold quotePiece
  split_ifs with h1 h2 h3 h4 h5 h6 h7 h8
  · subst h1; rfl
  · subst h2; rfl
  · subst h3; rfl
  · subst h4; rfl
  · subst h5; rfl
  · subst h6; rfl
  · subst h7; rfl
  · refine unquotePiece_controlEscape pending ?_
    simp only [UInt8.lt_iff_toNat_lt] at h8 ⊢
    exact lt_trans h8 (by decide)
  · rfl

/-- Decoding the minimal spelling of a string gives the string. -/
theorem unquote_quote (s : Bytes) : unquote (quote s) = s := by
  have h : ∀ pending, unquoteFrom pending (quote s) = flush pending ++ s := by
    induction s with
    | nil => intro pending; simp [quote, unquoteFrom]
    | cons c s ih =>
      intro pending
      rw [quote, List.map_cons, unquoteFrom, unquotePiece_quotePiece]
      show flush pending ++ [c] ++ unquoteFrom none (quote s) = flush pending ++ c :: s
      rw [ih none]
      simp [flush]
  simpa [unquote, flush] using h none

theorem unquotePiece_htmlPiece (pending : Option ℕ) (p : Piece) :
    unquotePiece pending (htmlPiece p) = unquotePiece pending p := by
  cases p with
  | plain c =>
    simp only [htmlPiece]
    split
    · next hmem =>
      have hlt : c < 0x80 := by
        have hcases : c = 0x3c ∨ c = 0x3e ∨ c = 0x26 := by simpa [ascii] using hmem
        rcases hcases with rfl | rfl | rfl <;> decide
      rw [unquotePiece_controlEscape pending hlt]
      rfl
    · rfl
  | short c => rfl
  | unicode a b c d => rfl

/-- The escaping on output does not change what a spelling denotes. -/
theorem unquoteFrom_htmlEscape (pending : Option ℕ) (s : Raw) :
    unquoteFrom pending (htmlEscape s) = unquoteFrom pending s := by
  induction s using htmlEscape.induct generalizing pending with
  | case1 a b c s hif ih =>
    rw [htmlEscape, if_pos hif]
    obtain ⟨rfl, rfl, hc⟩ := hif
    -- the three octets of the separator and its escape decode to the same octets
    rcases hc with rfl | rfl
    · simp only [unquoteFrom, ih]
      simp only [unquotePiece, ↓reduceIte]
      have hq : hexQuad 0x32 0x30 0x32 0x38 = 0x2028 := by decide
      rw [hq]
      simp [isHighSurrogate, isLowSurrogate, utf8Encode, flush]
    · simp only [unquoteFrom, ih]
      simp only [unquotePiece]
      have hq : hexQuad 0x32 0x30 0x32 0x39 = 0x2029 := by decide
      simp [hq, isHighSurrogate, isLowSurrogate, utf8Encode, flush]
  | case2 a b c s hif ih =>
    rw [htmlEscape, if_neg hif, unquoteFrom, unquotePiece_htmlPiece, ih]
    rfl
  | case3 p s hne ih =>
    rw [htmlEscape]
    · rw [unquoteFrom, unquotePiece_htmlPiece, ih]
      rfl
    · exact hne
  | case4 => simp [htmlEscape]

theorem unquote_htmlEscape (s : Raw) : unquote (htmlEscape s) = unquote s :=
  unquoteFrom_htmlEscape none s

/-! ## The escape check on renderings -/

theorem escapesFrom_outside (hc : c ≠ 0x22) (rest : Bytes) :
    escapesFrom false false (c :: rest) = escapesFrom false false rest := by
  conv_lhs => unfold escapesFrom
  simp [hc]

theorem escapesFrom_open (rest : Bytes) :
    escapesFrom false false (0x22 :: rest) = escapesFrom true false rest := by
  conv_lhs => unfold escapesFrom
  simp

theorem escapesFrom_close (rest : Bytes) :
    escapesFrom true false (0x22 :: rest) = escapesFrom false false rest := by
  conv_lhs => unfold escapesFrom
  simp

theorem escapesFrom_backslash (rest : Bytes) :
    escapesFrom true false (0x5c :: rest) = escapesFrom true true rest := by
  conv_lhs => unfold escapesFrom
  simp

/-- A piece without surrogates leaves the check inside its literal. -/
theorem escapesFrom_text (hw : p.wellFormed = true) (hs : p.isScalar = true) (rest : Bytes) :
    escapesFrom true false (p.text ++ rest) = escapesFrom true false rest := by
  cases p with
  | plain c =>
    simp only [Piece.wellFormed, Bool.and_eq_true, decide_eq_true_eq] at hw
    rw [Piece.text, List.singleton_append]
    conv_lhs => unfold escapesFrom
    simp [hw.1.2, hw.2]
  | short c =>
    have hu : c ≠ 0x75 := isShortEscape_ne_u hw
    rw [Piece.text, List.cons_append, List.singleton_append, escapesFrom_backslash]
    conv_lhs => unfold escapesFrom
    simp [hu]
  | unicode a b c d =>
    simp only [Piece.isScalar, Bool.and_eq_true, Bool.not_eq_true'] at hs
    simp only [Piece.text, List.cons_append, List.nil_append]
    rw [escapesFrom_backslash]
    conv_lhs => unfold escapesFrom
    simp only [Piece.wellFormed] at hw
    simp [decodeHexQuad, hw, hs.1, hs.2]

theorem escapesFrom_stringText (hs : RawScalar s) (rest : Bytes) :
    escapesFrom false false (stringText s ++ rest) = escapesFrom false false rest := by
  have hinside : escapesFrom true false (rawText s ++ 0x22 :: rest) =
      escapesFrom false false rest := by
    induction s with
    | nil => exact escapesFrom_close rest
    | cons p s ih =>
      obtain ⟨hw, hsc⟩ := hs p (List.mem_cons_self ..)
      rw [rawText_cons, List.append_assoc, escapesFrom_text hw hsc]
      exact ih fun q hq => hs q (List.mem_cons_of_mem _ hq)
  have htext : stringText s ++ rest = 0x22 :: (rawText s ++ 0x22 :: rest) := by simp [stringText]
  rw [htext, escapesFrom_open, hinside]

/-- A text that the check passes over, outside string literals. -/
def Transparent (b : Bytes) : Prop :=
  ∀ rest, escapesFrom false false (b ++ rest) = escapesFrom false false rest

theorem transparent_of_noQuote (h : ∀ c ∈ b, c ≠ 0x22) : Transparent b := by
  intro rest
  induction b with
  | nil => rfl
  | cons c b ih =>
    rw [List.cons_append, escapesFrom_outside (h c (List.mem_cons_self ..))]
    exact ih fun d hd => h d (List.mem_cons_of_mem _ hd)

theorem Transparent.append {a : Bytes} (ha : Transparent a) (hb : Transparent b) :
    Transparent (a ++ b) := by
  intro rest
  rw [List.append_assoc, ha, hb]

theorem Transparent.cons {c : UInt8} (hc : c ≠ 0x22) {b : Bytes} (hb : Transparent b) :
    Transparent (c :: b) := by
  intro rest
  rw [List.cons_append, escapesFrom_outside hc, hb]

theorem transparent_commaSeparated {xs : List Bytes} (h : ∀ x ∈ xs, Transparent x) :
    Transparent (commaSeparated xs) := by
  induction xs using commaSeparated.induct with
  | case1 => exact transparent_of_noQuote (by simp [commaSeparated])
  | case2 x => exact h x (by simp)
  | case3 x y xs ih =>
    rw [commaSeparated]
    exact (h x (by simp)).append (Transparent.cons (by decide) (ih fun z hz => h z (by
      simp only [List.mem_cons] at hz ⊢; tauto)))

/-- A rendering without surrogate escapes passes the check. -/
theorem transparent_print (ht : t.All RawScalar NumberWellFormed) : Transparent (print t) := by
  induction t with
  | null =>
    rw [print]
    exact transparent_of_noQuote (List.all_iff_forall_prop.mp (by decide))
  | bool b =>
    cases b <;> rw [print] <;> exact transparent_of_noQuote (List.all_iff_forall_prop.mp (by decide))
  | num n =>
    rw [print_num]
    exact transparent_of_noQuote fun c hc =>
      (number_head ((Tree.all_num.mp ht).1 c hc)).2.2.2.1
  | str s => exact fun rest => escapesFrom_stringText (Tree.all_str.mp ht) rest
  | arr es ih =>
    rw [print_arr]
    refine Transparent.cons (by decide) (Transparent.append ?_
      (transparent_of_noQuote (List.all_iff_forall_prop.mp (by decide))))
    exact transparent_commaSeparated
      (List.forall_mem_map.mpr fun v hv => ih v hv (Tree.all_arr.mp ht v hv))
  | obj ms ih =>
    rw [print_obj]
    refine Transparent.cons (by decide) (Transparent.append ?_
      (transparent_of_noQuote (List.all_iff_forall_prop.mp (by decide))))
    refine transparent_commaSeparated (List.forall_mem_map.mpr fun m hm => ?_)
    obtain ⟨hname, hvalue⟩ := Tree.all_obj.mp ht m hm
    exact Transparent.append (fun rest => escapesFrom_stringText hname rest)
      (Transparent.cons (by decide) (ih m hm hvalue))

theorem validUnicodeEscapes_print (ht : t.All RawScalar NumberWellFormed) :
    validUnicodeEscapes (print t) = true := by
  have h := transparent_print ht []
  rw [List.append_nil] at h
  rw [validUnicodeEscapes, h]
  rfl

/-! ## UTF-8 of renderings -/

/-- The octets of a minimal spelling. -/
theorem rawText_quote (s : Bytes) : rawText (quote s) = s.flatMap fun c => (quotePiece c).text := by
  simp [rawText, quote, List.flatMap_map]

theorem controlEscape_ascii (c : UInt8) : ∀ d ∈ (controlEscape c).text, d < 0x80 := by
  have hc := c.toNat_lt
  intro d hd
  simp only [controlEscape, Piece.text, List.mem_cons, List.not_mem_nil, or_false] at hd
  rcases hd with rfl | rfl | rfl | rfl | rfl | rfl
  · decide
  · decide
  · decide
  · decide
  · exact hexDigit_ascii (by omega)
  · exact hexDigit_ascii (by omega)

theorem escapesAscii_quotePiece : Utf8.EscapesAscii fun c => (quotePiece c).text where
  keeps c hc := by
    have hne : ∀ d : UInt8, d < 0x80 → c ≠ d := fun d hd h => hc (h ▸ hd)
    have hlow : ¬ c < 0x20 := by
      simp only [UInt8.lt_iff_toNat_lt] at hc ⊢
      exact fun h => hc (lt_trans h (by decide))
    simp [quotePiece, hne, hlow, Piece.text]
  nonempty c := by
    cases quotePiece c <;> simp [Piece.text]
  stays c hc := by
    unfold quotePiece
    split_ifs with h1 h2 h3 h4 h5 h6 h7 h8
    · subst h1; exact List.all_iff_forall_prop.mp (by decide)
    · subst h2; exact List.all_iff_forall_prop.mp (by decide)
    · exact List.all_iff_forall_prop.mp (by decide)
    · exact List.all_iff_forall_prop.mp (by decide)
    · exact List.all_iff_forall_prop.mp (by decide)
    · exact List.all_iff_forall_prop.mp (by decide)
    · exact List.all_iff_forall_prop.mp (by decide)
    · exact controlEscape_ascii c
    · intro d hd
      simp only [Piece.text, List.mem_singleton] at hd
      exact hd ▸ hc

/-- The minimal spelling of a string is valid UTF-8 exactly when the string is. -/
theorem valid_rawText_quote (s : Bytes) : Utf8.valid (rawText (quote s)) = Utf8.valid s := by
  rw [Utf8.valid, Utf8.valid, rawText_quote,
    Utf8.validFrom_flatMap escapesAscii_quotePiece Utf8.continuations_nil]

/-- Escaping one HTML character does not change what the recogniser decides. -/
theorem validFrom_htmlPiece {a : Bytes}
    (h : ∀ owed, Utf8.Continuations owed → Utf8.validFrom owed a = Utf8.validFrom owed b)
    (p : Piece) {owed : List (UInt8 × UInt8)} (ho : Utf8.Continuations owed) :
    Utf8.validFrom owed ((htmlPiece p).text ++ a) = Utf8.validFrom owed (p.text ++ b) := by
  cases p with
  | plain c =>
    simp only [htmlPiece]
    split
    · next hmem =>
      have hlt : c < 0x80 := by
        have hcases : c = 0x3c ∨ c = 0x3e ∨ c = 0x26 := by simpa [ascii] using hmem
        rcases hcases with rfl | rfl | rfl <;> decide
      refine Utf8.validFrom_ascii_congr (controlEscape_ascii c) ?_ (by simp [controlEscape, Piece.text])
        (by simp [Piece.text]) (h [] Utf8.continuations_nil) ho
      simpa [Piece.text] using hlt
    · exact Utf8.validFrom_append_congr h _ ho
  | short c | unicode a b c d => exact Utf8.validFrom_append_congr h _ ho

/-- The escaping on output does not change what the recogniser decides. -/
theorem validFrom_rawText_htmlEscape (s : Raw) {owed : List (UInt8 × UInt8)}
    (ho : Utf8.Continuations owed) :
    Utf8.validFrom owed (rawText (htmlEscape s)) = Utf8.validFrom owed (rawText s) := by
  induction s using htmlEscape.induct generalizing owed with
  | case1 a b c s hif ih =>
    rw [htmlEscape, if_pos hif]
    obtain ⟨rfl, rfl, hc⟩ := hif
    have hsep : ∀ d ∈ (Piece.unicode 0x32 0x30 0x32 (if c = 0xa8 then 0x38 else 0x39)).text,
        d < 0x80 := by
      rcases hc with rfl | rfl <;> exact List.all_iff_forall_prop.mp (by decide)
    cases owed with
    | nil =>
      rw [rawText_cons, Utf8.validFrom_nil_append_of_ascii hsep, ih Utf8.continuations_nil]
      rcases hc with rfl | rfl <;> simp [Piece.text, Utf8.validFrom, Utf8.lead]
    | cons range owed =>
      simp only [rawText_cons, Piece.text, List.cons_append]
      rw [Utf8.validFrom_cons_of_lt ho (by decide), Utf8.validFrom_cons_of_gt ho (by decide)]
  | case2 a b c s hif ih =>
    rw [htmlEscape, if_neg hif, rawText_cons, rawText_cons]
    exact validFrom_htmlPiece (fun owed ho => ih ho) _ ho
  | case3 p s hne ih =>
    rw [htmlEscape]
    · rw [rawText_cons, rawText_cons]
      exact validFrom_htmlPiece (fun owed ho => ih ho) _ ho
    · exact hne
  | case4 => simp [htmlEscape]

theorem valid_rawText_htmlEscape (s : Raw) :
    Utf8.valid (rawText (htmlEscape s)) = Utf8.valid (rawText s) :=
  validFrom_rawText_htmlEscape s Utf8.continuations_nil

theorem valid_cons (hc : c < 0x80) (hb : Utf8.valid b = true) : Utf8.valid (c :: b) = true :=
  Utf8.valid_append (Utf8.valid_of_ascii (a := [c]) (by simpa using hc)) hb

theorem valid_stringText (hs : Utf8.valid (rawText s) = true) : Utf8.valid (stringText s) = true :=
  valid_cons (by decide) (Utf8.valid_append hs (by decide))

theorem valid_commaSeparated {xs : List Bytes} (h : ∀ x ∈ xs, Utf8.valid x = true) :
    Utf8.valid (commaSeparated xs) = true := by
  induction xs using commaSeparated.induct with
  | case1 => rfl
  | case2 x => exact h x (by simp)
  | case3 x y xs ih =>
    rw [commaSeparated]
    exact Utf8.valid_append (h x (by simp)) (valid_cons (by decide) (ih fun z hz => h z (by
      simp only [List.mem_cons] at hz ⊢; tauto)))

theorem isNumberByte_ascii (h : isNumberByte c = true) : c < 0x80 := by
  simp only [isNumberByte, Decimal.isDigit, Bool.or_eq_true, Bool.and_eq_true,
    decide_eq_true_eq] at h
  rcases h with ⟨-, h⟩ | h
  · simp only [UInt8.le_iff_toNat_le, UInt8.lt_iff_toNat_lt] at h ⊢
    exact lt_of_le_of_lt h (by decide)
  · have hcases : c = 0x2b ∨ c = 0x2d ∨ c = 0x2e ∨ c = 0x65 ∨ c = 0x45 := by
      simpa [ascii] using h
    rcases hcases with rfl | rfl | rfl | rfl | rfl <;> decide

/-- A rendering is valid UTF-8 when its spellings are. -/
theorem valid_print (ht : t.All (fun s => Utf8.valid (rawText s) = true) NumberWellFormed) :
    Utf8.valid (print t) = true := by
  induction t with
  | null => rw [print]; decide
  | bool b => cases b <;> rw [print] <;> decide
  | num n =>
    rw [print_num]
    exact Utf8.valid_of_ascii fun c hc => isNumberByte_ascii ((Tree.all_num.mp ht).1 c hc)
  | str s =>
    rw [print_str]
    exact valid_stringText (by simpa using ht)
  | arr es ih =>
    rw [print_arr]
    refine valid_cons (by decide) (Utf8.valid_append ?_ (by decide))
    exact valid_commaSeparated
      (List.forall_mem_map.mpr fun v hv => ih v hv (Tree.all_arr.mp ht v hv))
  | obj ms ih =>
    rw [print_obj]
    refine valid_cons (by decide) (Utf8.valid_append ?_ (by decide))
    refine valid_commaSeparated (List.forall_mem_map.mpr fun m hm => ?_)
    obtain ⟨hname, hvalue⟩ := Tree.all_obj.mp ht m hm
    exact Utf8.valid_append (valid_stringText hname) (valid_cons (by decide) (ih m hm hvalue))

/-! ## Spellings of ASCII text -/

theorem replacement_not_ascii : ¬ ∀ c ∈ replacement, c < 0x80 :=
  fun h => absurd (h _ (List.mem_cons_self ..)) (by decide)

/-- Only the code points below 128 are encoded in ASCII octets. -/
theorem utf8Encode_not_ascii {u : ℕ} (h : 0x10000 ≤ u) (hu : u < 0x110000) :
    ¬ ∀ c ∈ utf8Encode u, c < 0x80 := by
  intro hascii
  rw [utf8Encode, if_neg (by omega), if_neg (by omega), if_neg (by omega)] at hascii
  have hfirst := hascii _ (List.mem_cons_self ..)
  rw [UInt8.lt_iff_toNat_lt, UInt8.toNat_ofNat', Nat.mod_eq_of_lt (by omega)] at hfirst
  simp only [UInt8.reduceToNat] at hfirst
  omega

theorem utf8Encode_length_pos (u : ℕ) : 1 ≤ (utf8Encode u).length := by
  unfold utf8Encode
  split_ifs <;> simp

theorem flush_ascii {pending : Option ℕ} (h : ∀ c ∈ flush pending, c < 0x80) : pending = none := by
  cases pending with
  | none => rfl
  | some u => exact absurd h replacement_not_ascii

theorem isHex_ascii (h : isHex c = true) : c < 0x80 := by
  simp only [isHex, Bool.or_eq_true, decide_eq_true_eq, UInt8.le_iff_toNat_le,
    UInt8.reduceToNat] at h
  simp only [UInt8.lt_iff_toNat_lt, UInt8.reduceToNat]
  omega

theorem isShortEscape_ascii (h : isShortEscape c = true) : c < 0x80 := by
  have hall : ∀ c ∈ ascii "\"\\/bfnrt", c < 0x80 := ascii_of_all (by decide)
  exact hall c (of_decide_eq_true h)

/-- What a spelling of ASCII text looks like: no half of a surrogate pair stands in
it or before it, its octets are ASCII, and each of its pieces denotes an octet or more. -/
theorem unquoteFrom_ascii (hs : RawWellFormed s) {pending : Option ℕ}
    (hpending : ∀ high ∈ pending, high ≤ 0xdbff) (h : ∀ c ∈ unquoteFrom pending s, c < 0x80) :
    pending = none ∧ RawScalar s ∧ (∀ c ∈ rawText s, c < 0x80) ∧
      s.length ≤ (unquoteFrom pending s).length := by
  induction s generalizing pending with
  | nil => exact ⟨flush_ascii h, by simp [RawScalar], by simp [rawText], Nat.zero_le _⟩
  | cons p s ih =>
    have hp : p.wellFormed = true := hs p (List.mem_cons_self ..)
    rw [unquoteFrom] at h ⊢
    simp only [List.mem_append, or_imp, forall_and] at h
    obtain ⟨hpiece, hrest⟩ := h
    -- A piece that is no half of a pair: the text before it and after it are ASCII.
    have hscalar : p.isScalar = true → (∀ c ∈ p.text, c < 0x80) →
        (unquotePiece pending p).2 = none → 1 ≤ (unquotePiece pending p).1.length →
        pending = none → pending = none ∧ RawScalar (p :: s) ∧
          (∀ c ∈ rawText (p :: s), c < 0x80) ∧
          (p :: s).length ≤ ((unquotePiece pending p).1 ++
            unquoteFrom (unquotePiece pending p).2 s).length := by
      intro hscalar htext hnone hlength hpend
      obtain ⟨-, hraw, hascii, hle⟩ := ih (fun q hq => hs q (List.mem_cons_of_mem _ hq))
        (by simp [hnone]) hrest
      refine ⟨hpend, List.forall_mem_cons.mpr ⟨⟨hp, hscalar⟩, hraw⟩, ?_, ?_⟩
      · rw [rawText_cons]
        simp only [List.mem_append, or_imp, forall_and]
        exact ⟨htext, hascii⟩
      · rw [List.length_append, List.length_cons]
        omega
    cases p with
    | plain c =>
      simp only [unquotePiece, List.mem_append, or_imp, forall_and] at hpiece
      refine hscalar rfl ?_ rfl (by simp [unquotePiece]) (flush_ascii hpiece.1)
      simpa [Piece.text] using hpiece.2
    | short c =>
      simp only [unquotePiece, List.mem_append, or_imp, forall_and] at hpiece
      refine hscalar rfl ?_ rfl (by simp [unquotePiece]) (flush_ascii hpiece.1)
      simp only [Piece.text, List.forall_mem_cons]
      exact ⟨by decide, isShortEscape_ascii hp, by simp⟩
    | unicode a b c d =>
      simp only [Piece.wellFormed, Bool.and_eq_true] at hp
      obtain ⟨⟨⟨ha, hb⟩, hc⟩, hd⟩ := hp
      simp only [unquotePiece] at hpiece hrest
      by_cases hhigh : isHighSurrogate (hexQuad a b c d) = true
      · -- The first half of a pair would still be pending afterwards.
        simp only [if_pos hhigh] at hrest
        simp only [isHighSurrogate, Bool.and_eq_true, decide_eq_true_eq] at hhigh
        have hcontra := (ih (fun q hq => hs q (List.mem_cons_of_mem _ hq))
          (by simpa using hhigh.2) hrest).1
        cases hcontra
      by_cases hlow : isLowSurrogate (hexQuad a b c d) = true
      · simp only [if_neg hhigh, if_pos hlow] at hpiece
        simp only [isLowSurrogate, Bool.and_eq_true, decide_eq_true_eq] at hlow
        cases pending with
        | none => exact absurd hpiece replacement_not_ascii
        | some high =>
          have hbound := hpending high rfl
          have hpair := utf8Encode_not_ascii
            (u := 0x10000 + (high - 0xd800) * 0x400 + (hexQuad a b c d - 0xdc00)) (by omega) (by omega)
          simp only at hpiece
          exact absurd hpiece hpair
      · simp only [if_neg hhigh, if_neg hlow, List.mem_append, or_imp, forall_and] at hpiece
        have hposition := utf8Encode_length_pos (hexQuad a b c d)
        refine hscalar (by simp [Piece.isScalar, hhigh, hlow]) ?_
          (by simp [unquotePiece, hhigh, hlow]) ?_ (flush_ascii hpiece.1)
        · simp only [Piece.text, List.forall_mem_cons]
          exact ⟨by decide, by decide, isHex_ascii ha, isHex_ascii hb, isHex_ascii hc,
            isHex_ascii hd, by simp⟩
        · simp only [unquotePiece, if_neg hhigh, if_neg hlow, List.length_append]
          omega

/-- A spelling of ASCII text has no surrogates, only ASCII octets, and no more pieces
than the text has octets. -/
theorem unquote_ascii (hs : RawWellFormed s) (h : ∀ c ∈ unquote s, c < 0x80) :
    RawScalar s ∧ (∀ c ∈ rawText s, c < 0x80) ∧ s.length ≤ (unquote s).length :=
  (unquoteFrom_ascii hs (by simp) h).2

end Talenro.Lib.Json
