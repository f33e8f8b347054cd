import Talenro.Lib.Bytes

/-!
# Hexadecimal integers

Unsigned integers written in upper-case hexadecimal digits without leading zeros, as
`strings.ToUpper(strconv.FormatUint(n, 16))` writes them, and read back.
-/

set_option autoImplicit false

namespace Talenro.Lib.UpperHex

/-- The digit of a number below sixteen. -/
def digit (n : ℕ) : UInt8 := UInt8.ofNat (if n < 10 then 0x30 + n else 0x37 + n)

/-- Whether an octet is a digit. -/
def isDigit (c : UInt8) : Bool := (0x30 ≤ c && c ≤ 0x39) || (0x41 ≤ c && c ≤ 0x46)

/-- The number a digit stands for. -/
def digitValue (c : UInt8) : ℕ := if c.toNat ≤ 0x39 then c.toNat - 0x30 else c.toNat - 0x37

def format (n : ℕ) : Bytes :=
  if n = 0 then [0x30] else (Nat.digits 16 n).reverse.map digit

/-- The number a sequence of digits denotes. -/
def value (b : Bytes) : ℕ := b.foldl (fun n c => 16 * n + digitValue c) 0

theorem toNat_digit {n : ℕ} (h : n < 16) :
    (digit n).toNat = if n < 10 then 0x30 + n else 0x37 + n := by
  unfold digit
  apply UInt8.toNat_ofNat_of_lt
  split <;> simp only [UInt8.size] <;> omega

theorem digitValue_digit {n : ℕ} (h : n < 16) : digitValue (digit n) = n := by
  rw [digitValue, toNat_digit h]
  split <;> split <;> omega

theorem isDigit_digit {n : ℕ} (h : n < 16) : isDigit (digit n) = true := by
  simp only [isDigit, Bool.or_eq_true, Bool.and_eq_true, decide_eq_true_eq, UInt8.le_iff_toNat_le,
    toNat_digit h]
  show (48 ≤ _ ∧ _ ≤ 57) ∨ (65 ≤ _ ∧ _ ≤ 70)
  split <;> omega

theorem value_append_singleton (b : Bytes) (c : UInt8) :
    value (b ++ [c]) = 16 * value b + digitValue c := by
  simp [value, List.foldl_append]

/-- Reading little-endian digits written in reading order. -/
theorem value_reverse_map {l : List ℕ} (hl : ∀ d ∈ l, d < 16) :
    value (l.reverse.map digit) = Nat.ofDigits 16 l := by
  induction l with
  | nil => rfl
  | cons d l ih =>
    rw [List.reverse_cons, List.map_append, List.map_singleton, value_append_singleton,
      digitValue_digit (hl d (List.mem_cons_self ..)),
      ih fun e he => hl e (List.mem_cons_of_mem _ he), Nat.ofDigits_cons]
    ring

theorem value_format (n : ℕ) : value (format n) = n := by
  unfold format
  split
  · next h =>
    rw [h]
    rfl
  · rw [value_reverse_map fun d hd => Nat.digits_lt_base (by norm_num) hd, Nat.ofDigits_digits]

theorem format_digits (n : ℕ) : ∀ c ∈ format n, isDigit c = true := by
  unfold format
  split
  · intro c hc
    rw [List.mem_singleton.mp hc]
    rfl
  · intro c hc
    obtain ⟨d, hd, rfl⟩ := List.mem_map.mp hc
    exact isDigit_digit (Nat.digits_lt_base (by norm_num) (List.mem_reverse.mp hd))

theorem format_ne_nil (n : ℕ) : format n ≠ [] := by
  unfold format
  split
  · exact List.cons_ne_nil _ _
  · next h => simpa [Nat.digits_eq_nil_iff_eq_zero] using h

theorem isDigit_ne_slash {c : UInt8} (h : isDigit c = true) : c ≠ 0x2f := by
  rintro rfl
  exact absurd h (by decide)

theorem isDigit_ascii {c : UInt8} (h : isDigit c = true) : c < 0x80 := by
  simp only [isDigit, Bool.or_eq_true, Bool.and_eq_true, decide_eq_true_eq] at h
  rcases h with h | h
  · exact UInt8.lt_of_le_of_lt h.2 (by decide)
  · exact UInt8.lt_of_le_of_lt h.2 (by decide)

end Talenro.Lib.UpperHex
