import Mathlib.Tactic
import Talenro.Model.Authority.Records

/-!
# Positions and numbers of the database

A position of the write-ahead log is read as a 64-bit number, printed in one way only and
compared as that number; a numeric of the database is read as an integer exactly when it is one
(`positions_and_numerics_exact`).
-/

set_option autoImplicit false

namespace Talenro.Authority

open Lib

variable {value : WALPosition} {high low : ℕ}

/-! ## Positions -/

/-- The 64-bit number of a position: its halves are the numbers before and after the slash. -/
def walNumber (value : WALPosition) : ℕ :=
  UpperHex.value (value.takeWhile (· != 0x2f)) * 2 ^ 32 +
    UpperHex.value ((value.dropWhile (· != 0x2f)).drop 1)

theorem parseUint32_eq_some {text : Bytes} {n : ℕ} :
    parseUint32 text = some n ↔ n < 2 ^ 32 ∧ UpperHex.value text = n := by
  unfold parseUint32
  split
  · next h =>
    rw [Option.some.injEq]
    exact ⟨fun hn => ⟨hn ▸ h, hn⟩, fun hn => hn.2⟩
  · next h =>
    refine ⟨fun hn => (nomatch hn), fun hn => absurd ?_ h⟩
    rw [hn.2]
    exact hn.1

/-- The halves of an accepted text are those of its number. -/
theorem walHalves_eq_some (h : walHalves value = some (high, low)) :
    high < 2 ^ 32 ∧ low < 2 ^ 32 ∧ walNumber value = high * 2 ^ 32 + low := by
  simp only [walHalves, Option.bind_eq_bind, Option.bind_eq_some_iff, Option.pure_def,
    Option.some.injEq, Prod.mk.injEq, parseUint32_eq_some] at h
  obtain ⟨-, -, -, -, _, ⟨hhigh, hhighValue⟩, _, ⟨hlow, hlowValue⟩, rfl, rfl⟩ := h
  exact ⟨hhigh, hlow, by rw [walNumber, hhighValue, hlowValue]⟩

/-- A printed position is read back. -/
theorem walHalves_walText (hhigh : high < 2 ^ 32) (hlow : low < 2 ^ 32) :
    walHalves (walText high low) = some (high, low) := by
  have hslash : ∀ n, ∀ c ∈ UpperHex.format n, c ≠ 0x2f :=
    fun n c hc => UpperHex.isDigit_ne_slash (UpperHex.format_digits n c hc)
  have hinside : ∀ c ∈ UpperHex.format high, (c != 0x2f) = true :=
    fun c hc => bne_iff_ne.mpr (hslash high c hc)
  have htake : (walText high low).takeWhile (· != 0x2f) = UpperHex.format high := by
    rw [walText, List.takeWhile_append_of_pos hinside]
    simp
  have hdrop : ((walText high low).dropWhile (· != 0x2f)).drop 1 = UpperHex.format low := by
    rw [walText, List.dropWhile_append_of_pos hinside]
    simp
  have hcount : (walText high low).count 0x2f = 1 := by
    have hnone : ∀ n, (UpperHex.format n).count 0x2f = 0 :=
      fun n => List.count_eq_zero.mpr fun hmem => hslash n _ hmem rfl
    rw [walText, List.count_append, List.count_cons_self, hnone, hnone]
  have hhex : ∀ n, uppercaseHex (UpperHex.format n) = true := by
    intro n
    simp [uppercaseHex, UpperHex.format_ne_nil, List.all_eq_true.mpr (UpperHex.format_digits n)]
  have hparse : ∀ {n}, n < 2 ^ 32 → parseUint32 (UpperHex.format n) = some n :=
    fun h => parseUint32_eq_some.mpr ⟨h, UpperHex.value_format _⟩
  simp only [walHalves, hcount, htake, hdrop, hhex, hparse hhigh, hparse hlow, and_self, guard,
    if_true]
  rfl

theorem canonicalWALPosition_eq_some {canonical : WALPosition} :
    canonicalWALPosition value = some canonical ↔
      ∃ high low, walHalves value = some (high, low) ∧ walText high low = canonical := by
  simp [canonicalWALPosition, Option.bind_eq_some_iff]

/-- The canonical text of a position is canonical, and it is a text of the same number. -/
theorem canonicalWALPosition_spec {canonical : WALPosition}
    (h : canonicalWALPosition value = some canonical) :
    canonicalWALPosition canonical = some canonical ∧ walNumber canonical = walNumber value ∧
      walNumber value < 2 ^ 64 := by
  obtain ⟨high, low, hhalves, rfl⟩ := canonicalWALPosition_eq_some.mp h
  obtain ⟨hhigh, hlow, hnumber⟩ := walHalves_eq_some hhalves
  have hread := walHalves_walText hhigh hlow
  refine ⟨canonicalWALPosition_eq_some.mpr ⟨high, low, hread, rfl⟩, ?_, by omega⟩
  rw [hnumber, (walHalves_eq_some hread).2.2]

theorem walPositionLess_iff {left right : WALPosition}
    (hleft : canonicalWALPosition left = some left)
    (hright : canonicalWALPosition right = some right) :
    walPositionLess left right = true ↔ walNumber left < walNumber right := by
  obtain ⟨leftHigh, leftLow, hl, -⟩ := canonicalWALPosition_eq_some.mp hleft
  obtain ⟨rightHigh, rightLow, hr, -⟩ := canonicalWALPosition_eq_some.mp hright
  obtain ⟨-, hll, hleftNumber⟩ := walHalves_eq_some hl
  obtain ⟨-, hrl, hrightNumber⟩ := walHalves_eq_some hr
  have hparts : ∀ {position halves}, canonicalWALPosition position = some position →
      walHalves position = some halves → walPositionParts position = some halves := by
    intro position halves hcanonical hhalves
    simp [walPositionParts, hcanonical, hhalves]
  rw [walPositionLess, hparts hleft hl, hparts hright hr, hleftNumber, hrightNumber]
  simp only [decide_eq_true_eq]
  omega

/-! ## Numbers -/

/-- The rational number that a numeric stands for, if it is one. -/
def Numeric.rational (value : Numeric) : Option ℚ :=
  if value.valid = true ∧ value.nan = false ∧ value.infinityModifier = .finite then
    value.int.map fun int : ℤ => (int : ℚ) * 10 ^ value.exp
  else none

theorem scaledInteger_eq_some {int exp integer : ℤ} :
    scaledInteger int exp = some integer ↔ (int * 10 ^ exp : ℚ) = integer := by
  unfold scaledInteger
  split
  · next hpos =>
    obtain ⟨k, rfl⟩ := Int.eq_ofNat_of_zero_le (Int.le_of_lt hpos)
    rw [Int.toNat_natCast, zpow_natCast, Option.some.injEq]
    norm_cast
  · split
    · next hneg =>
      obtain ⟨k, rfl⟩ := Int.exists_eq_neg_ofNat (Int.le_of_lt hneg)
      have hpow : (10 ^ k : ℤ) ≠ 0 := by positivity
      have hscaled : (int * 10 ^ (-(k : ℤ)) : ℚ) = integer ↔ int = integer * 10 ^ k := by
        rw [zpow_neg, zpow_natCast, ← div_eq_mul_inv, div_eq_iff (by positivity)]
        norm_cast
      rw [hscaled, neg_neg, Int.toNat_natCast]
      dsimp only
      split
      · next hmod =>
        refine ⟨fun h => (nomatch h), fun h => absurd ?_ hmod⟩
        rw [h, Int.mul_tmod_left]
      · next hmod =>
        have hdivides := Int.mul_tdiv_add_tmod int (10 ^ k)
        rw [not_not.mp hmod, Int.add_zero] at hdivides
        rw [Option.some.injEq]
        constructor
        · rintro rfl
          rw [Int.mul_comm, hdivides]
        · intro h
          rw [h, Int.mul_tdiv_cancel _ hpow]
    · next hpos hneg =>
      obtain rfl : exp = 0 := by omega
      rw [Option.some.injEq, zpow_zero, mul_one]
      norm_cast

theorem uint64FromNumeric_eq_some {value : Numeric} {n : ℕ} (hlow : -20 ≤ value.exp)
    (hhigh : value.exp ≤ 20) :
    uint64FromNumeric value = some n ↔
      value.rational = some (n : ℚ) ∧ 1 ≤ n ∧ n ≤ 2 ^ 64 - 1 := by
  have hbits : ∀ integer : ℤ, (0 < integer ∧ integer.natAbs.log2 + 1 ≤ 64) ∧
      integer.natAbs % 2 ^ 64 = n ↔ integer = n ∧ 1 ≤ n ∧ n ≤ 2 ^ 64 - 1 := by
    intro integer
    rw [Nat.add_one_le_iff]
    constructor
    · rintro ⟨⟨hpos, hlog⟩, hmod⟩
      have hlt := (Nat.log2_lt (by omega)).mp hlog
      omega
    · rintro ⟨rfl, hone, hle⟩
      refine ⟨⟨by omega, (Nat.log2_lt (by omega)).mpr (by omega)⟩, by omega⟩
  simp only [uint64FromNumeric, Numeric.rational, hlow, hhigh, and_true, Option.bind_eq_bind,
    Option.bind_eq_some_iff, Option.guard_eq_some', Option.pure_def, Option.some.injEq]
  constructor
  · rintro ⟨-, hfinite, int, hint, integer, hscaled, -, hinteger, hn⟩
    obtain ⟨rfl, hrange⟩ := (hbits integer).mp ⟨hinteger, hn⟩
    refine ⟨?_, hrange⟩
    rw [if_pos hfinite, hint, Option.map_some, scaledInteger_eq_some.mp hscaled]
    rfl
  · rintro ⟨hrational, hrange⟩
    split at hrational
    · next hfinite =>
      obtain ⟨int, hint, hscaled⟩ := Option.map_eq_some_iff.mp hrational
      obtain ⟨hinteger, hn⟩ := (hbits n).mpr ⟨rfl, hrange⟩
      exact ⟨(), hfinite, int, hint, n, scaledInteger_eq_some.mpr hscaled, (), hinteger, hn⟩
    · cases hrational

/-- **Positions and numbers.**  The canonical text of a position is canonical and keeps the 64-bit
number; canonical texts are compared as these numbers; and a numeric is read exactly when it is an
integer of 64 bits above zero. -/
theorem positions_and_numerics_exact :
    (∀ value canonical, canonicalWALPosition value = some canonical →
      canonicalWALPosition canonical = some canonical ∧ walNumber canonical = walNumber value ∧
        walNumber value < 2 ^ 64) ∧
    (∀ left right, canonicalWALPosition left = some left →
      canonicalWALPosition right = some right →
      (walPositionLess left right = true ↔ walNumber left < walNumber right)) ∧
    ∀ value : Numeric, -20 ≤ value.exp → value.exp ≤ 20 → ∀ n,
      (uint64FromNumeric value = some n ↔
        value.rational = some (n : ℚ) ∧ 1 ≤ n ∧ n ≤ 2 ^ 64 - 1) :=
  ⟨fun _ _ => canonicalWALPosition_spec, fun _ _ => walPositionLess_iff,
    fun _ hlow hhigh _ => uint64FromNumeric_eq_some hlow hhigh⟩

end Talenro.Authority
