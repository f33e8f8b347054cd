import Talenro.Lib.Bytes

/-!
# Unpadded base64url

`base64.RawURLEncoding`: three octets become four characters of the URL-safe
alphabet, and a last group of one or two octets becomes two or three
characters.  The decoder skips line breaks and ignores the unused low bits of
the last character, so several texts decode to the same octets; the callers
therefore compare the re-encoding with the text they were given, which
`decodeCanonical` packages.
-/

set_option autoImplicit false

namespace Talenro.Lib.Base64Url

/-- The character of a six-bit group. -/
def encodeSextet (n : ℕ) : UInt8 :=
  if n < 26 then UInt8.ofNat (0x41 + n)
  else if n < 52 then UInt8.ofNat (0x61 + (n - 26))
  else if n < 62 then UInt8.ofNat (0x30 + (n - 52))
  else if n = 62 then 0x2d
  else 0x5f

/-- The six-bit group of a character. -/
def decodeSextet (c : UInt8) : Option ℕ :=
  if 0x41 ≤ c ∧ c ≤ 0x5a then some (c.toNat - 0x41)
  else if 0x61 ≤ c ∧ c ≤ 0x7a then some (c.toNat - 0x61 + 26)
  else if 0x30 ≤ c ∧ c ≤ 0x39 then some (c.toNat - 0x30 + 52)
  else if c = 0x2d then some 62
  else if c = 0x5f then some 63
  else none

/-- `RawURLEncoding.EncodeToString`. -/
def encode : Bytes → Bytes
  | a :: b :: c :: rest =>
    encodeSextet (a.toNat / 4) :: encodeSextet (a.toNat % 4 * 16 + b.toNat / 16) ::
      encodeSextet (b.toNat % 16 * 4 + c.toNat / 64) :: encodeSextet (c.toNat % 64) :: encode rest
  | [a, b] =>
    [encodeSextet (a.toNat / 4), encodeSextet (a.toNat % 4 * 16 + b.toNat / 16),
      encodeSextet (b.toNat % 16 * 4)]
  | [a] => [encodeSextet (a.toNat / 4), encodeSextet (a.toNat % 4 * 16)]
  | [] => []

/-- The octets of a sequence of six-bit groups. -/
def join : List ℕ → Option Bytes
  | p :: q :: r :: s :: rest =>
    (join rest).map fun tail =>
      UInt8.ofNat (p * 4 + q / 16) :: UInt8.ofNat (q % 16 * 16 + r / 4) ::
        UInt8.ofNat (r % 4 * 64 + s) :: tail
  | [p, q, r] => some [UInt8.ofNat (p * 4 + q / 16), UInt8.ofNat (q % 16 * 16 + r / 4)]
  | [p, q] => some [UInt8.ofNat (p * 4 + q / 16)]
  | [_] => none
  | [] => some []

/-- `RawURLEncoding.DecodeString`: line breaks are skipped, and the unused low
bits of the last character are ignored. -/
def decode (s : Bytes) : Option Bytes :=
  ((s.filter fun c => c ≠ 0x0a ∧ c ≠ 0x0d).mapM decodeSextet).bind join

/-- Decoding a text that is the encoding of what it decodes to. -/
def decodeCanonical (s : Bytes) : Option Bytes :=
  (decode s).bind fun b => if encode b = s then some b else none

/-! ## The alphabet -/

theorem decodeSextet_encodeSextet {n : ℕ} (h : n < 64) :
    decodeSextet (encodeSextet n) = some n := by
  have hall : ∀ m : Fin 64, decodeSextet (encodeSextet m) = some m.val := by decide
  exact hall ⟨n, h⟩

/-- The alphabet is printable ASCII without quotes, backslashes or line breaks. -/
theorem encodeSextet_plain (n : ℕ) :
    encodeSextet n < 0x80 ∧ 0x20 ≤ encodeSextet n ∧ encodeSextet n ≠ 0x22 ∧
      encodeSextet n ≠ 0x5c ∧ encodeSextet n ≠ 0x0a ∧ encodeSextet n ≠ 0x0d := by
  by_cases h : n < 64
  · have hall : ∀ m : Fin 64, encodeSextet m < 0x80 ∧ 0x20 ≤ encodeSextet m ∧
        encodeSextet m ≠ 0x22 ∧ encodeSextet m ≠ 0x5c ∧ encodeSextet m ≠ 0x0a ∧
        encodeSextet m ≠ 0x0d := by decide
    exact hall ⟨n, h⟩
  · have h26 : ¬ n < 26 := by omega
    have h52 : ¬ n < 52 := by omega
    have h62 : ¬ n < 62 := by omega
    have hne : n ≠ 62 := by omega
    simp only [encodeSextet, h26, h52, h62, hne, ↓reduceIte]
    decide

/-- Every character of an encoding belongs to the alphabet. -/
theorem exists_encodeSextet_of_mem {b : Bytes} {c : UInt8} (h : c ∈ encode b) :
    ∃ n, c = encodeSextet n := by
  induction b using encode.induct with
  | case1 x y z rest ih =>
    simp only [encode, List.mem_cons] at h
    rcases h with h | h | h | h | h
    · exact ⟨_, h⟩
    · exact ⟨_, h⟩
    · exact ⟨_, h⟩
    · exact ⟨_, h⟩
    · exact ih h
  | case2 x y =>
    simp only [encode, List.mem_cons, List.not_mem_nil, or_false] at h
    rcases h with h | h | h <;> exact ⟨_, h⟩
  | case3 x =>
    simp only [encode, List.mem_cons, List.not_mem_nil, or_false] at h
    rcases h with h | h <;> exact ⟨_, h⟩
  | case4 => simp [encode] at h

theorem encode_ascii (b : Bytes) : ∀ c ∈ encode b, c < 0x80 := by
  intro c hc
  obtain ⟨n, rfl⟩ := exists_encodeSextet_of_mem hc
  exact (encodeSextet_plain n).1

/-! ## Decoding an encoding -/

/-- An octet is recovered from any arithmetic expression of its value. -/
theorem ofNat_eq {a : UInt8} {n : ℕ} (h : n = a.toNat) : UInt8.ofNat n = a := by
  rw [h, UInt8.ofNat_toNat]

/-- The six-bit groups of an encoding. -/
def sextets : Bytes → List ℕ
  | a :: b :: c :: rest =>
    a.toNat / 4 :: (a.toNat % 4 * 16 + b.toNat / 16) :: (b.toNat % 16 * 4 + c.toNat / 64) ::
      c.toNat % 64 :: sextets rest
  | [a, b] => [a.toNat / 4, a.toNat % 4 * 16 + b.toNat / 16, b.toNat % 16 * 4]
  | [a] => [a.toNat / 4, a.toNat % 4 * 16]
  | [] => []

theorem encode_eq_map (b : Bytes) : encode b = (sextets b).map encodeSextet := by
  induction b using encode.induct with
  | case1 a b c rest ih => simp [encode, sextets, ih]
  | case2 a b => rfl
  | case3 a => rfl
  | case4 => rfl

theorem sextets_lt (b : Bytes) : ∀ n ∈ sextets b, n < 64 := by
  induction b using encode.induct with
  | case1 a b c rest ih =>
    have ha := a.toNat_lt
    have hb := b.toNat_lt
    have hc := c.toNat_lt
    intro n hn
    simp only [sextets, List.mem_cons] at hn
    rcases hn with rfl | rfl | rfl | rfl | hn
    · omega
    · omega
    · omega
    · omega
    · exact ih n hn
  | case2 a b =>
    have ha := a.toNat_lt
    have hb := b.toNat_lt
    intro n hn
    simp only [sextets, List.mem_cons, List.not_mem_nil, or_false] at hn
    omega
  | case3 a =>
    have ha := a.toNat_lt
    intro n hn
    simp only [sextets, List.mem_cons, List.not_mem_nil, or_false] at hn
    omega
  | case4 => simp [sextets]

theorem join_sextets (b : Bytes) : join (sextets b) = some b := by
  induction b using encode.induct with
  | case1 a b c rest ih =>
    have ha := a.toNat_lt
    have hb := b.toNat_lt
    have hc := c.toNat_lt
    simp only [sextets, join, ih, Option.map_some, Option.some.injEq, List.cons.injEq, and_true]
    refine ⟨ofNat_eq ?_, ofNat_eq ?_, ofNat_eq ?_⟩ <;> omega
  | case2 a b =>
    have ha := a.toNat_lt
    have hb := b.toNat_lt
    simp only [sextets, join, Option.some.injEq, List.cons.injEq, and_true]
    refine ⟨ofNat_eq ?_, ofNat_eq ?_⟩ <;> omega
  | case3 a =>
    have ha := a.toNat_lt
    simp only [sextets, join, Option.some.injEq, List.cons.injEq, and_true]
    exact ofNat_eq (by omega)
  | case4 => rfl

theorem mapM_decodeSextet_map {l : List ℕ} (h : ∀ n ∈ l, n < 64) :
    (l.map encodeSextet).mapM decodeSextet = some l := by
  induction l with
  | nil => rfl
  | cons n l ih =>
    rw [List.map_cons, List.mapM_cons, decodeSextet_encodeSextet (h n (List.mem_cons_self ..)),
      ih fun m hm => h m (List.mem_cons_of_mem _ hm)]
    rfl

/-- Decoding inverts encoding. -/
theorem decode_encode (b : Bytes) : decode (encode b) = some b := by
  have hfilter : ((encode b).filter fun c => c ≠ 0x0a ∧ c ≠ 0x0d) = encode b := by
    rw [List.filter_eq_self]
    intro c hc
    obtain ⟨n, rfl⟩ := exists_encodeSextet_of_mem hc
    have h := encodeSextet_plain n
    simp [h.2.2.2.2.1, h.2.2.2.2.2]
  rw [decode, hfilter, encode_eq_map, mapM_decodeSextet_map (sextets_lt b), Option.bind_some,
    join_sextets]

/-- The canonical decoder accepts exactly the encodings. -/
theorem decodeCanonical_eq_some_iff {s b : Bytes} :
    decodeCanonical s = some b ↔ s = encode b := by
  constructor
  · intro h
    rw [decodeCanonical, Option.bind_eq_some_iff] at h
    obtain ⟨b', _, h⟩ := h
    split at h
    · next he => cases h; exact he.symm
    · cases h
  · rintro rfl
    simp [decodeCanonical, decode_encode]

theorem encode_length (b : Bytes) : (encode b).length = (b.length * 8 + 5) / 6 := by
  induction b using encode.induct with
  | case1 a b c rest ih =>
    simp only [encode, List.length_cons, ih]
    omega
  | case2 a b => simp [encode]
  | case3 a => simp [encode]
  | case4 => rfl

end Talenro.Lib.Base64Url
