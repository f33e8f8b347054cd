import Mathlib.Data.Nat.Digits.Defs
import Mathlib.Data.Nat.Digits.Lemmas
import Mathlib.Tactic

/-!
# Byte strings

The programs verified here move byte strings: a Go `string` and a `[]byte` are
both a finite sequence of octets.  This file fixes that representation and what
every later layer needs of it: big-endian integers, UTF-8 well-formedness
(`utf8.Valid`) and the decimal rendering of unsigned integers
(`strconv.FormatUint` and `strconv.ParseUint`).

UTF-8 is recognised by a machine that carries the ranges the next continuation
octets must fall in.  Escaping functions rewrite ASCII octets only, so they are
invisible to that machine (`validFrom_flatMap`).
-/

set_option autoImplicit false

namespace Talenro.Lib

/-- A sequence of octets: a Go `[]byte`, and equally a Go `string`. -/
abbrev Bytes : Type := List UInt8

/-- A sequence of exactly `n` octets: a Go `[n]byte`. -/
abbrev Octets (n : ℕ) : Type := {b : Bytes // b.length = n}

/-- The octet `c`, `n` times. -/
def Octets.replicate (n : ℕ) (c : UInt8) : Octets n := ⟨List.replicate n c, List.length_replicate⟩

instance instLawfulBEqBytes : LawfulBEq Bytes := inferInstanceAs (LawfulBEq (List UInt8))

/-- The octets of an ASCII literal. -/
def ascii (s : String) : Bytes := s.toList.map fun c => UInt8.ofNat c.toNat

/-- A text whose octets are tested one by one.  Deciding the right-hand side as it stands
would go through all the octets there are. -/
theorem ascii_of_all {s : Bytes} (h : s.all (fun c => decide (c < 0x80)) = true) :
    ∀ c ∈ s, c < 0x80 :=
  fun c hc => of_decide_eq_true (List.all_eq_true.mp h c hc)

/-! ## Big-endian integers -/

/-- The octets of `n`, most significant first, in `width` octets. -/
def bigEndian : ℕ → ℕ → Bytes
  | 0, _ => []
  | width + 1, n => UInt8.ofNat (n / 256 ^ width) :: bigEndian width n

/-- The integer whose octets, most significant first, are given. -/
def ofBigEndian (b : Bytes) : ℕ := b.foldl (fun n c => n * 256 + c.toNat) 0

@[simp] theorem bigEndian_length (width n : ℕ) : (bigEndian width n).length = width := by
  induction width with
  | zero => rfl
  | succ width ih => rw [bigEndian, List.length_cons, ih]

theorem foldl_bigEndian (width n acc : ℕ) :
    (bigEndian width n).foldl (fun n c => n * 256 + c.toNat) acc =
      acc * 256 ^ width + n % 256 ^ width := by
  induction width generalizing acc with
  | zero => simp [bigEndian, Nat.mod_one]
  | succ width ih =>
    have hoctet : (UInt8.ofNat (n / 256 ^ width)).toNat = n / 256 ^ width % 256 := by simp
    rw [bigEndian, List.foldl_cons, ih, hoctet, Nat.mod_pow_succ]
    ring

theorem ofBigEndian_bigEndian {width n : ℕ} (h : n < 256 ^ width) :
    ofBigEndian (bigEndian width n) = n := by
  rw [ofBigEndian, foldl_bigEndian, Nat.mod_eq_of_lt h, Nat.zero_mul, Nat.zero_add]

theorem foldl_octets (b : Bytes) (acc : ℕ) :
    b.foldl (fun n c => n * 256 + c.toNat) acc = acc * 256 ^ b.length + ofBigEndian b := by
  induction b generalizing acc with
  | nil => simp [ofBigEndian]
  | cons c b ih =>
    have hfirst : ofBigEndian (c :: b) = (0 * 256 + c.toNat) * 256 ^ b.length + ofBigEndian b :=
      ih (0 * 256 + c.toNat)
    rw [List.foldl_cons, ih, hfirst, List.length_cons]
    ring

theorem ofBigEndian_cons (c : UInt8) (b : Bytes) :
    ofBigEndian (c :: b) = c.toNat * 256 ^ b.length + ofBigEndian b := by
  rw [ofBigEndian, List.foldl_cons, foldl_octets, Nat.zero_mul, Nat.zero_add]

theorem ofBigEndian_lt (b : Bytes) : ofBigEndian b < 256 ^ b.length := by
  induction b with
  | nil => exact Nat.one_pos
  | cons c b ih =>
    have hc : c.toNat + 1 ≤ 256 := c.toNat_lt
    calc ofBigEndian (c :: b) < c.toNat * 256 ^ b.length + 256 ^ b.length := by
          rw [ofBigEndian_cons]
          omega
      _ = (c.toNat + 1) * 256 ^ b.length := by ring
      _ ≤ 256 * 256 ^ b.length := Nat.mul_le_mul_right _ hc
      _ = 256 ^ (c :: b).length := by rw [List.length_cons, pow_succ, Nat.mul_comm]

/-- Only the last `width` octets of a number are written. -/
theorem bigEndian_add_mul (width n k : ℕ) :
    bigEndian width (k * 256 ^ width + n) = bigEndian width n := by
  induction width generalizing k with
  | zero => rfl
  | succ width ih =>
    have hsplit : k * 256 ^ (width + 1) + n = k * 256 * 256 ^ width + n := by ring
    have hpos : 0 < 256 ^ width := Nat.pow_pos (by norm_num)
    have hhead : UInt8.ofNat ((k * 256 * 256 ^ width + n) / 256 ^ width) =
        UInt8.ofNat (n / 256 ^ width) := by
      rw [Nat.add_comm, Nat.add_mul_div_right _ _ hpos]
      apply UInt8.toNat_inj.mp
      simp
    rw [hsplit, bigEndian, hhead, ih, ← bigEndian]

/-- Octets are those of the number they denote. -/
theorem bigEndian_ofBigEndian (b : Bytes) : bigEndian b.length (ofBigEndian b) = b := by
  induction b with
  | nil => rfl
  | cons c b ih =>
    have hpos : 0 < 256 ^ b.length := Nat.pow_pos (by norm_num)
    have hhead : (c.toNat * 256 ^ b.length + ofBigEndian b) / 256 ^ b.length = c.toNat := by
      rw [Nat.mul_comm, Nat.mul_add_div hpos, Nat.div_eq_of_lt (ofBigEndian_lt b), Nat.add_zero]
    rw [List.length_cons, bigEndian, ofBigEndian_cons, hhead, bigEndian_add_mul, ih,
      UInt8.ofNat_toNat]

/-! ## Hexadecimal text -/

namespace Hex

/-- The lower-case digit of a number below sixteen. -/
def digit (n : ℕ) : UInt8 := UInt8.ofNat (if n < 10 then 0x30 + n else 0x57 + n)

/-- `hex.EncodeToString`. -/
def encode (b : Bytes) : Bytes := b.flatMap fun c => [digit (c.toNat / 16), digit (c.toNat % 16)]

/-- The value of a hexadecimal digit of either case. -/
def digitValue (c : UInt8) : Option ℕ :=
  if 0x30 ≤ c ∧ c ≤ 0x39 then some (c.toNat - 0x30)
  else if 0x61 ≤ c ∧ c ≤ 0x66 then some (c.toNat - 0x57)
  else if 0x41 ≤ c ∧ c ≤ 0x46 then some (c.toNat - 0x37)
  else none

/-- `hex.DecodeString`. -/
def decode : Bytes → Option Bytes
  | [] => some []
  | [_] => none
  | hi :: lo :: rest => do
    let high ← digitValue hi
    let low ← digitValue lo
    pure (UInt8.ofNat (high * 16 + low) :: (← decode rest))

variable {n : ℕ}

theorem digitValue_digit (h : n < 16) : digitValue (digit n) = some n := by
  have hall : ∀ n, n < 16 → digitValue (digit n) = some n := by decide
  exact hall n h

theorem digit_ascii (h : n < 16) : digit n < 0x80 ∧ digit n ≠ 0x2d := by
  have hall : ∀ n, n < 16 → digit n < 0x80 ∧ digit n ≠ 0x2d := by decide
  exact hall n h

theorem exists_digit_of_mem {b : Bytes} {c : UInt8} (h : c ∈ encode b) :
    ∃ n, n < 16 ∧ c = digit n := by
  obtain ⟨a, -, hc⟩ := List.mem_flatMap.mp h
  have ha := a.toNat_lt
  simp only [List.mem_cons, List.not_mem_nil, or_false] at hc
  obtain rfl | rfl := hc
  · exact ⟨_, by omega, rfl⟩
  · exact ⟨_, by omega, rfl⟩

@[simp] theorem encode_length (b : Bytes) : (encode b).length = 2 * b.length := by
  induction b with
  | nil => rfl
  | cons c b ih =>
    rw [encode, List.flatMap_cons, ← encode, List.length_append, ih, List.length_cons]
    simp only [List.length_cons, List.length_nil]
    omega

theorem decode_encode (b : Bytes) : decode (encode b) = some b := by
  induction b with
  | nil => rfl
  | cons c b ih =>
    have hc := c.toNat_lt
    have hback : UInt8.ofNat (c.toNat / 16 * 16 + c.toNat % 16) = c := by
      rw [Nat.div_add_mod', UInt8.ofNat_toNat]
    rw [encode, List.flatMap_cons, ← encode]
    simp only [List.cons_append, List.nil_append, decode, ih, Option.bind_eq_bind,
      digitValue_digit (show c.toNat / 16 < 16 by omega),
      digitValue_digit (show c.toNat % 16 < 16 by omega), Option.bind_some, hback, Option.pure_def]

/-- A digit that is not of the upper case is the one that is written. -/
theorem digit_of_digitValue {c : UInt8} (h : digitValue c = some n)
    (hlower : ¬(0x41 ≤ c ∧ c ≤ 0x5a)) : digit n = c ∧ n < 16 := by
  unfold digitValue at h
  simp only [UInt8.le_iff_toNat_le, UInt8.toNat_ofNat] at h hlower
  split_ifs at h with h₁ h₂ h₃
  · obtain rfl := Option.some.inj h
    norm_num at h₁
    rw [digit, if_pos (by omega), Nat.add_sub_cancel' h₁.1, UInt8.ofNat_toNat]
    exact ⟨rfl, by omega⟩
  · obtain rfl := Option.some.inj h
    norm_num at h₂
    rw [digit, if_neg (by omega), Nat.add_sub_cancel' (by omega), UInt8.ofNat_toNat]
    exact ⟨rfl, by omega⟩
  · norm_num at h₃ hlower
    omega

theorem encode_of_decode {text b : Bytes} (h : decode text = some b)
    (hlower : ∀ c ∈ text, ¬(0x41 ≤ c ∧ c ≤ 0x5a)) : encode b = text := by
  induction text using decode.induct generalizing b with
  | case1 =>
    obtain rfl := Option.some.inj h
    rfl
  | case2 c => exact nomatch h
  | case3 hi lo rest ih =>
    simp only [decode, Option.bind_eq_bind, Option.bind_eq_some_iff, Option.pure_def,
      Option.some.injEq] at h
    obtain ⟨high, hhigh, low, hlow, tail, htail, rfl⟩ := h
    simp only [List.forall_mem_cons] at hlower
    obtain ⟨rfl, hhigh16⟩ := digit_of_digitValue hhigh hlower.1
    obtain ⟨rfl, hlow16⟩ := digit_of_digitValue hlow hlower.2.1
    have hnat : (UInt8.ofNat (high * 16 + low)).toNat = high * 16 + low := by
      rw [UInt8.toNat_ofNat', Nat.mod_eq_of_lt (by omega)]
    have hdiv : (high * 16 + low) / 16 = high := by omega
    have hmod : (high * 16 + low) % 16 = low := by omega
    rw [encode, List.flatMap_cons, ← encode, ih htail hlower.2.2, hnat, hdiv, hmod]
    rfl
end Hex

/-! ## UTF-8 -/

namespace Utf8

/-- The ranges of the continuation octets that must follow the leading octet
`c`, or `none` when no UTF-8 character starts with `c`. -/
def lead (c : UInt8) : Option (List (UInt8 × UInt8)) :=
  if c < 0x80 then some []
  else if c < 0xc2 then none
  else if c < 0xe0 then some [(0x80, 0xbf)]
  else if c = 0xe0 then some [(0xa0, 0xbf), (0x80, 0xbf)]
  else if c = 0xed then some [(0x80, 0x9f), (0x80, 0xbf)]
  else if c < 0xf0 then some [(0x80, 0xbf), (0x80, 0xbf)]
  else if c = 0xf0 then some [(0x90, 0xbf), (0x80, 0xbf), (0x80, 0xbf)]
  else if c < 0xf4 then some [(0x80, 0xbf), (0x80, 0xbf), (0x80, 0xbf)]
  else if c = 0xf4 then some [(0x80, 0x8f), (0x80, 0xbf), (0x80, 0xbf)]
  else none

/-- The recogniser, owing the continuation octets whose ranges are listed. -/
def validFrom : List (UInt8 × UInt8) → Bytes → Bool
  | [], [] => true
  | _ :: _, [] => false
  | [], c :: rest =>
    match lead c with
    | none => false
    | some owed => validFrom owed rest
  | range :: owed, c :: rest =>
    decide (range.1 ≤ c) && decide (c ≤ range.2) && validFrom owed rest

/-- Go's `utf8.Valid`. -/
def valid (b : Bytes) : Bool := validFrom [] b

/-- Every owed range lies between the ASCII octets and the leading octets. -/
def Continuations (owed : List (UInt8 × UInt8)) : Prop :=
  ∀ range ∈ owed, 0x80 ≤ range.1 ∧ range.2 ≤ 0xbf

theorem continuations_nil : Continuations [] := by
  intro range h
  cases h

variable {owed : List (UInt8 × UInt8)} {c : UInt8} {range : UInt8 × UInt8}

theorem continuations_tail (h : Continuations (range :: owed)) : Continuations owed :=
  fun r hr => h r (List.mem_cons_of_mem _ hr)

/-- A leading octet owes continuation octets only. -/
theorem continuations_of_lead (h : lead c = some owed) : Continuations owed := by
  unfold lead at h
  split_ifs at h <;> cases h <;> intro range hr <;> fin_cases hr <;> decide

theorem lead_of_lt (h : c < 0x80) : lead c = some [] := by
  simp [lead, h]

/-- An ASCII octet at the start of a character owes nothing. -/
@[simp] theorem validFrom_nil_cons_of_lt (h : c < 0x80) (rest : Bytes) :
    validFrom [] (c :: rest) = validFrom [] rest := by
  simp [validFrom, lead_of_lt h]

/-- An ASCII octet inside a character is refused. -/
theorem validFrom_cons_of_lt (ho : Continuations (range :: owed)) (h : c < 0x80) (rest : Bytes) :
    validFrom (range :: owed) (c :: rest) = false := by
  have hlow : 0x80 ≤ range.1 := (ho range (List.mem_cons_self ..)).1
  have hgap : ¬ range.1 ≤ c := by
    simp only [UInt8.le_iff_toNat_le, UInt8.lt_iff_toNat_lt] at hlow h ⊢
    omega
  simp [validFrom, hgap]

/-- A leading octet inside a character is refused. -/
theorem validFrom_cons_of_gt (ho : Continuations (range :: owed)) (h : 0xbf < c) (rest : Bytes) :
    validFrom (range :: owed) (c :: rest) = false := by
  have hhigh : range.2 ≤ 0xbf := (ho range (List.mem_cons_self ..)).2
  have hgap : ¬ c ≤ range.2 := by
    simp only [UInt8.le_iff_toNat_le, UInt8.lt_iff_toNat_lt] at hhigh h ⊢
    omega
  simp [validFrom, hgap]

variable {a : Bytes}

/-- Reading a complete text leaves the recogniser where it started. -/
theorem validFrom_append (h : validFrom owed a = true) (b : Bytes) :
    validFrom owed (a ++ b) = validFrom [] b := by
  induction a generalizing owed with
  | nil =>
    cases owed with
    | nil => rfl
    | cons range owed => simp [validFrom] at h
  | cons c a ih =>
    cases owed with
    | nil =>
      simp only [validFrom, List.cons_append] at h ⊢
      cases hl : lead c with
      | none => simp [hl] at h
      | some owed =>
        simp only [hl] at h ⊢
        exact ih h
    | cons range owed =>
      simp only [validFrom, List.cons_append, Bool.and_eq_true, decide_eq_true_eq] at h ⊢
      rw [ih h.2]
      simp [h.1.1, h.1.2]

variable {b : Bytes}

/-- Two well-formed texts concatenate to a well-formed one. -/
theorem valid_append (ha : valid a = true) (hb : valid b = true) : valid (a ++ b) = true := by
  unfold valid at *
  rw [validFrom_append ha, hb]

/-- ASCII octets at a character boundary are skipped. -/
theorem validFrom_nil_append_of_ascii (ha : ∀ c ∈ a, c < 0x80) (b : Bytes) :
    validFrom [] (a ++ b) = validFrom [] b := by
  induction a with
  | nil => rfl
  | cons c a ih =>
    rw [List.cons_append, validFrom_nil_cons_of_lt (ha c (List.mem_cons_self ..))]
    exact ih fun d hd => ha d (List.mem_cons_of_mem _ hd)

/-- Every ASCII text is well formed. -/
theorem valid_of_ascii (ha : ∀ c ∈ a, c < 0x80) : valid a = true := by
  simpa [valid, validFrom] using validFrom_nil_append_of_ascii ha []

/-- An escaping function replaces each ASCII octet by ASCII octets and keeps
the others. -/
structure EscapesAscii (f : UInt8 → Bytes) : Prop where
  keeps : ∀ c, ¬ c < 0x80 → f c = [c]
  nonempty : ∀ c, f c ≠ []
  stays : ∀ c, c < 0x80 → ∀ d ∈ f c, d < 0x80

/-- Escaping ASCII octets does not change what the recogniser decides. -/
theorem validFrom_flatMap {f : UInt8 → Bytes} (hf : EscapesAscii f) (ho : Continuations owed)
    (s : Bytes) : validFrom owed (s.flatMap f) = validFrom owed s := by
  induction s generalizing owed with
  | nil => rfl
  | cons c s ih =>
    rw [List.flatMap_cons]
    by_cases hc : c < 0x80
    · cases owed with
      | nil =>
        rw [validFrom_nil_append_of_ascii (hf.stays c hc), validFrom_nil_cons_of_lt hc]
        exact ih continuations_nil
      | cons range owed =>
        obtain ⟨d, rest, hd⟩ := List.exists_cons_of_ne_nil (hf.nonempty c)
        have hdlt : d < 0x80 := hf.stays c hc d (by simp [hd])
        rw [hd, List.cons_append, validFrom_cons_of_lt ho hdlt, validFrom_cons_of_lt ho hc]
    · rw [hf.keeps c hc, List.singleton_append]
      cases owed with
      | nil =>
        simp only [validFrom]
        cases hl : lead c with
        | none => rfl
        | some owed => exact ih (continuations_of_lead hl)
      | cons range owed =>
        simp only [validFrom]
        rw [ih (continuations_tail ho)]

/-- Texts that no state tells apart stay so behind a common beginning. -/
theorem validFrom_append_congr
    (h : ∀ owed, Continuations owed → validFrom owed a = validFrom owed b) (x : Bytes)
    (ho : Continuations owed) : validFrom owed (x ++ a) = validFrom owed (x ++ b) := by
  induction x generalizing owed with
  | nil => exact h owed ho
  | cons c x ih =>
    cases owed with
    | nil =>
      simp only [List.cons_append, validFrom]
      cases hl : lead c with
      | none => rfl
      | some owed => exact ih (continuations_of_lead hl)
    | cons range owed =>
      simp only [List.cons_append, validFrom]
      rw [ih (continuations_tail ho)]

/-- One non-empty run of ASCII octets is as good as another. -/
theorem validFrom_ascii_congr {x y : Bytes} (hx : ∀ c ∈ x, c < 0x80) (hy : ∀ c ∈ y, c < 0x80)
    (hxne : x ≠ []) (hyne : y ≠ []) (h : validFrom [] a = validFrom [] b)
    (ho : Continuations owed) : validFrom owed (x ++ a) = validFrom owed (y ++ b) := by
  cases owed with
  | nil => rw [validFrom_nil_append_of_ascii hx, validFrom_nil_append_of_ascii hy, h]
  | cons range owed =>
    obtain ⟨c, x, rfl⟩ := List.exists_cons_of_ne_nil hxne
    obtain ⟨d, y, rfl⟩ := List.exists_cons_of_ne_nil hyne
    rw [List.cons_append, List.cons_append, validFrom_cons_of_lt ho (hx c (List.mem_cons_self ..)),
      validFrom_cons_of_lt ho (hy d (List.mem_cons_self ..))]

end Utf8

/-! ## Decimal integers -/

namespace Decimal

/-- Go's `strconv.FormatUint(n, 10)`. -/
def format (n : ℕ) : Bytes :=
  if n = 0 then [0x30] else (Nat.digits 10 n).reverse.map fun d => UInt8.ofNat (0x30 + d)

/-- Whether an octet is a decimal digit. -/
def isDigit (c : UInt8) : Bool := decide (0x30 ≤ c) && decide (c ≤ 0x39)

/-- The value of a decimal digit. -/
def digit (c : UInt8) : ℕ := c.toNat - 0x30

/-- The number a sequence of decimal digits denotes. -/
def value (b : Bytes) : ℕ := b.foldl (fun n c => 10 * n + digit c) 0

/-- The digit octet of a decimal digit carries that digit. -/
theorem digit_ofNat {d : ℕ} (h : d < 10) : digit (UInt8.ofNat (0x30 + d)) = d := by
  have hn : (UInt8.ofNat (0x30 + d)).toNat = 0x30 + d :=
    UInt8.toNat_ofNat_of_lt (by simp only [UInt8.size]; omega)
  simp only [digit, hn]
  omega

theorem isDigit_ofNat {d : ℕ} (h : d < 10) : isDigit (UInt8.ofNat (0x30 + d)) = true := by
  have hn : (UInt8.ofNat (0x30 + d)).toNat = 0x30 + d :=
    UInt8.toNat_ofNat_of_lt (by simp only [UInt8.size]; omega)
  simp only [isDigit, UInt8.le_iff_toNat_le, hn, Bool.and_eq_true, decide_eq_true_eq]
  constructor
  · show 48 ≤ 48 + d
    omega
  · show 48 + d ≤ 57
    omega

theorem value_append_singleton (b : Bytes) (c : UInt8) :
    value (b ++ [c]) = 10 * value b + digit c := by
  simp [value, List.foldl_append]

/-- Reading little-endian digits written in reading order. -/
theorem value_reverse_map {l : List ℕ} (hl : ∀ d ∈ l, d < 10) :
    value (l.reverse.map fun d => UInt8.ofNat (0x30 + d)) = Nat.ofDigits 10 l := by
  induction l with
  | nil => rfl
  | cons d l ih =>
    rw [List.reverse_cons, List.map_append, List.map_singleton, value_append_singleton,
      digit_ofNat (hl d (List.mem_cons_self ..)), ih fun e he => hl e (List.mem_cons_of_mem _ he),
      Nat.ofDigits_cons]
    ring

/-- `ParseUint` reads back what `FormatUint` wrote. -/
theorem value_format (n : ℕ) : value (format n) = n := by
  unfold format
  split
  · next h => rw [h]; rfl
  · rw [value_reverse_map fun d hd => Nat.digits_lt_base (by norm_num) hd, Nat.ofDigits_digits]

theorem format_digits (n : ℕ) : ∀ c ∈ format n, isDigit c = true := by
  unfold format
  split
  · simp [isDigit]
  · intro c hc
    obtain ⟨d, hd, rfl⟩ := List.mem_map.mp hc
    exact isDigit_ofNat (Nat.digits_lt_base (by norm_num) (List.mem_reverse.mp hd))

theorem isDigit_ascii {c : UInt8} (h : isDigit c = true) : c < 0x80 := by
  simp only [isDigit, Bool.and_eq_true, decide_eq_true_eq] at h
  exact UInt8.lt_of_le_of_lt h.2 (by decide)

theorem format_ne_nil (n : ℕ) : format n ≠ [] := by
  unfold format
  split
  · simp
  · next h => simpa [Nat.digits_eq_nil_iff_eq_zero] using h

/-- Only zero is written with a leading zero. -/
theorem format_head {n : ℕ} (h : n ≠ 0) : ∀ c rest, format n = c :: rest → c ≠ 0x30 := by
  intro c rest hf hc
  simp only [format, h, ↓reduceIte] at hf
  have hne : Nat.digits 10 n ≠ [] := by simpa [Nat.digits_eq_nil_iff_eq_zero] using h
  have hrev : (Nat.digits 10 n).reverse =
      (Nat.digits 10 n).getLast hne :: (Nat.digits 10 n).dropLast.reverse := by
    conv_lhs => rw [← List.dropLast_append_getLast hne]
    simp
  rw [hrev, List.map_cons, List.cons.injEq] at hf
  have hlast : (Nat.digits 10 n).getLast hne ≠ 0 := Nat.getLast_digit_ne_zero 10 h
  have hlt : (Nat.digits 10 n).getLast hne < 10 :=
    Nat.digits_lt_base (by norm_num) (List.getLast_mem hne)
  have hd := digit_ofNat hlt
  rw [hf.1, hc] at hd
  exact hlast (by simpa [digit] using hd.symm)

theorem format_length_le {n k : ℕ} (hk : 0 < k) (h : n < 10 ^ k) : (format n).length ≤ k := by
  unfold format
  split
  · simp only [List.length_singleton]
    omega
  · simpa using Nat.digits_length_le_iff (by norm_num) n |>.mpr h

end Decimal

end Talenro.Lib
