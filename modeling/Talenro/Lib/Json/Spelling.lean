import Talenro.Lib.Base64Url
import Talenro.Lib.Json.Canonical

/-!
# How long a text gets when it is quoted again

JSON inside a JSON string is spelled twice.  `spelled s` is the spelling of a string without
its quotation marks; most characters are left alone by it, and a string that is spelled twice
takes at most seven octets for each of its own.  Lengths of texts are additive over their parts,
and `measure_encode_obj` adds up the parts of an object for any such measure.
-/

set_option autoImplicit false

namespace Talenro.Lib.Json

/-- The spelling of a string, without its quotation marks. -/
def spelled (s : Bytes) : Bytes := rawText (quote s)

@[simp] theorem spelled_nil : spelled [] = [] := rfl

theorem spelled_cons (c : UInt8) (s : Bytes) :
    spelled (c :: s) = (quotePiece c).text ++ spelled s := by
  simp [spelled, rawText_quote]

theorem spelled_append (s t : Bytes) : spelled (s ++ t) = spelled s ++ spelled t := by
  simp [spelled, rawText_quote]

/-- The octets that are spelled as they are. -/
def Unescaped (s : Bytes) : Prop := ∀ c ∈ s, quotePiece c = .plain c

instance (s : Bytes) : Decidable (Unescaped s) :=
  List.decidableBAll (fun c => quotePiece c = .plain c) s

theorem quotePiece_of_le {c : UInt8} (hlow : 0x20 ≤ c) (hquote : c ≠ 0x22) (hslash : c ≠ 0x5c) :
    quotePiece c = .plain c := by
  have hnat : 32 ≤ c.toNat := UInt8.le_iff_toNat_le.mp hlow
  have hne : ∀ d : UInt8, d.toNat < 32 → c ≠ d := by
    rintro d hd rfl
    omega
  have hge : ¬ c < 0x20 := by
    rw [UInt8.lt_iff_toNat_lt]
    exact Nat.not_lt.mpr hnat
  unfold quotePiece
  rw [if_neg hquote, if_neg hslash, if_neg (hne 0x08 (by decide)), if_neg (hne 0x0c (by decide)),
    if_neg (hne 0x0a (by decide)), if_neg (hne 0x0d (by decide)), if_neg (hne 0x09 (by decide)),
    if_neg hge]

theorem Unescaped.spelled_eq {s : Bytes} (h : Unescaped s) : spelled s = s := by
  induction s with
  | nil => rfl
  | cons c s ih =>
    rw [spelled_cons, h c (List.mem_cons_self ..), ih fun d hd => h d (List.mem_cons_of_mem _ hd)]
    rfl

/-- A string that is spelled as it is stays so inside another string. -/
theorem Unescaped.length_twice {s : Bytes} (h : Unescaped s) :
    (spelled (spelled s)).length = s.length := by
  rw [h.spelled_eq, h.spelled_eq]

theorem unescaped_base64 (b : Bytes) : Unescaped (Base64Url.encode b) := by
  intro c hc
  obtain ⟨n, rfl⟩ := Base64Url.exists_encodeSextet_of_mem hc
  obtain ⟨-, hlow, hquote, hslash, -⟩ := Base64Url.encodeSextet_plain n
  exact quotePiece_of_le hlow hquote hslash

theorem length_le_spelled (s : Bytes) : s.length ≤ (spelled s).length := by
  induction s with
  | nil => exact Nat.le_refl 0
  | cons c s ih =>
    have hc : 1 ≤ (quotePiece c).text.length := by
      cases quotePiece c <;> simp [Piece.text]
    rw [spelled_cons, List.length_append, List.length_cons]
    omega

/-- One octet that is spelled twice. -/
theorem spelled_quotePiece_length_le (c : UInt8) : (spelled (quotePiece c).text).length ≤ 7 := by
  have hhex : ∀ n, n < 16 → (quotePiece (hexDigit n)).text.length = 1 := by decide
  unfold quotePiece
  split_ifs with h₁ h₂ h₃ h₄ h₅ h₆ h₇ h₈
  · subst h₁
    decide
  · subst h₂
    decide
  · decide
  · decide
  · decide
  · decide
  · decide
  · have hhigh := hhex (c.toNat / 16) (by have := c.toNat_lt; omega)
    have hlow := hhex (c.toNat % 16) (by omega)
    have hrest : (quotePiece 0x5c).text.length + (quotePiece 0x75).text.length +
        (quotePiece 0x30).text.length + (quotePiece 0x30).text.length = 5 := by decide
    have htext : (controlEscape c).text = [0x5c, 0x75, 0x30, 0x30, hexDigit (c.toNat / 16),
        hexDigit (c.toNat % 16)] := rfl
    simp only [htext, spelled_cons, spelled_nil, List.length_append, List.length_nil]
    omega
  · have hplain : quotePiece c = .plain c := by
      unfold quotePiece
      rw [if_neg h₁, if_neg h₂, if_neg h₃, if_neg h₄, if_neg h₅, if_neg h₆, if_neg h₇, if_neg h₈]
    simp [Piece.text, spelled_cons, hplain]

/-- A string that is spelled twice. -/
theorem spelled_spelled_length_le (s : Bytes) : (spelled (spelled s)).length ≤ 7 * s.length := by
  induction s with
  | nil => exact Nat.le_refl 0
  | cons c s ih =>
    have hc := spelled_quotePiece_length_le c
    rw [spelled_cons, spelled_append, List.length_append, List.length_cons]
    omega

/-! ## Objects -/

section Measure

variable {f : Bytes → ℕ} (hf : ∀ a b, f (a ++ b) = f a + f b)

include hf

theorem measure_cons (c : UInt8) (b : Bytes) : f (c :: b) = f [c] + f b := hf [c] b

theorem measure_commaSeparated {xs : List Bytes} (h : xs ≠ []) :
    f (commaSeparated xs) + f [0x2c] = (xs.map fun x => f x + f [0x2c]).sum := by
  induction xs using commaSeparated.induct with
  | case1 => exact absurd rfl h
  | case2 x => simp [commaSeparated]
  | case3 x y xs ih =>
    have hrest := ih (List.cons_ne_nil _ _)
    rw [commaSeparated, hf, measure_cons hf, List.map_cons, List.sum_cons, ← hrest]
    omega

theorem measure_encode_str (s : Bytes) :
    f (encode (.str s)) = f [0x22] + f (spelled s) + f [0x22] := by
  rw [encode, Tree.map_str, print_str, stringText, measure_cons hf, hf, spelled]
  omega

/-- The parts of an object add up. -/
theorem measure_encode_obj {ms : List (Bytes × Tree Bytes)} (h : ms ≠ []) :
    f (encode (.obj ms)) + f [0x2c] = f [0x7b] + f [0x7d] + (ms.map fun m =>
      f [0x22] + f (spelled m.1) + f [0x22] + f [0x3a] + f (encode m.2) + f [0x2c]).sum := by
  have hmember : ∀ m : Bytes × Tree Bytes, f (memberText (quote m.1, m.2.map quote)) =
      f [0x22] + f (spelled m.1) + f [0x22] + f [0x3a] + f (encode m.2) := by
    intro m
    rw [memberText, hf, measure_cons hf, stringText, measure_cons hf, hf, spelled, encode]
    dsimp only
    omega
  have hmembers : (ms.map fun m => memberText (quote m.1, m.2.map quote)) ≠ [] := by
    simpa using h
  have hcomma := measure_commaSeparated hf hmembers
  rw [List.map_map] at hcomma
  simp only [Function.comp_def, hmember] at hcomma
  rw [encode, Tree.map_obj, print_obj, measure_cons hf, hf, List.map_map, ← hcomma]
  simp only [Function.comp_def]
  omega

end Measure

theorem length_encode_str (s : Bytes) : (encode (.str s)).length = (spelled s).length + 2 := by
  have h := measure_encode_str (f := List.length) (fun _ _ => List.length_append ..) s
  simp only [List.length_singleton] at h
  omega

/-- The length of an object. -/
theorem length_encode_obj {ms : List (Bytes × Tree Bytes)} (h : ms ≠ []) :
    (encode (.obj ms)).length + 1 = 2 + (ms.map fun m =>
      (spelled m.1).length + (encode m.2).length + 4).sum := by
  have hsum := measure_encode_obj (f := List.length) (fun _ _ => List.length_append ..) h
  simp only [List.length_singleton] at hsum
  rw [hsum]
  refine congrArg (2 + ·) (congrArg List.sum (List.map_congr_left fun m _ => ?_))
  omega

theorem length_spelled_append (a b : Bytes) :
    (spelled (a ++ b)).length = (spelled a).length + (spelled b).length := by
  rw [spelled_append, List.length_append]

theorem length_spelled_encode_str (s : Bytes) :
    (spelled (encode (.str s))).length = (spelled (spelled s)).length + 4 := by
  have h := measure_encode_str (f := fun b => (spelled b).length) length_spelled_append s
  have hquote : (spelled [0x22]).length = 2 := by decide
  omega

/-- The length of an object inside a string. -/
theorem length_spelled_encode_obj {ms : List (Bytes × Tree Bytes)} (h : ms ≠ []) :
    (spelled (encode (.obj ms))).length + 1 = 2 + (ms.map fun m =>
      (spelled (spelled m.1)).length + (spelled (encode m.2)).length + 6).sum := by
  have hsum := measure_encode_obj (f := fun b => (spelled b).length) length_spelled_append h
  have hquote : (spelled [0x22]).length = 2 := by decide
  have hplain : (spelled [0x2c]).length = 1 ∧ (spelled [0x3a]).length = 1 ∧
      (spelled [0x7b]).length = 1 ∧ (spelled [0x7d]).length = 1 := by decide
  obtain ⟨hcomma, hcolon, hopen, hclose⟩ := hplain
  simp only [hquote, hcomma, hcolon, hopen, hclose] at hsum
  rw [hsum]
  refine congrArg (2 + ·) (congrArg List.sum (List.map_congr_left fun m _ => ?_))
  omega

end Talenro.Lib.Json
