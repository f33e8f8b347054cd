import Talenro.Lib.Bytes

/-!
# SHA-256

The digest as FIPS 180-4 defines it, on octet strings.  The protocols verified
here compare digests and cut identifiers from them; what their proofs need is
that a digest has thirty-two octets (`sha256_length`).
-/

set_option autoImplicit false

namespace Talenro.Lib.Sha256

/-- The round constants, FIPS 180-4 section 4.2.2. -/
def roundConstants : List UInt32 :=
  [0x428a2f98, 0x71374491, 0xb5c0fbcf, 0xe9b5dba5, 0x3956c25b, 0x59f111f1, 0x923f82a4, 0xab1c5ed5,
   0xd807aa98, 0x12835b01, 0x243185be, 0x550c7dc3, 0x72be5d74, 0x80deb1fe, 0x9bdc06a7, 0xc19bf174,
   0xe49b69c1, 0xefbe4786, 0x0fc19dc6, 0x240ca1cc, 0x2de92c6f, 0x4a7484aa, 0x5cb0a9dc, 0x76f988da,
   0x983e5152, 0xa831c66d, 0xb00327c8, 0xbf597fc7, 0xc6e00bf3, 0xd5a79147, 0x06ca6351, 0x14292967,
   0x27b70a85, 0x2e1b2138, 0x4d2c6dfc, 0x53380d13, 0x650a7354, 0x766a0abb, 0x81c2c92e, 0x92722c85,
   0xa2bfe8a1, 0xa81a664b, 0xc24b8b70, 0xc76c51a3, 0xd192e819, 0xd6990624, 0xf40e3585, 0x106aa070,
   0x19a4c116, 0x1e376c08, 0x2748774c, 0x34b0bcb5, 0x391c0cb3, 0x4ed8aa4a, 0x5b9cca4f, 0x682e6ff3,
   0x748f82ee, 0x78a5636f, 0x84c87814, 0x8cc70208, 0x90befffa, 0xa4506ceb, 0xbef9a3f7, 0xc67178f2]

/-- The eight working variables. -/
structure Words where
  a : UInt32
  b : UInt32
  c : UInt32
  d : UInt32
  e : UInt32
  f : UInt32
  g : UInt32
  h : UInt32

/-- The initial hash value, section 5.3.3. -/
def initial : Words :=
  ⟨0x6a09e667, 0xbb67ae85, 0x3c6ef372, 0xa54ff53a, 0x510e527f, 0x9b05688c, 0x1f83d9ab, 0x5be0cd19⟩

def rotateRight (x n : UInt32) : UInt32 := (x >>> n) ||| (x <<< (32 - n))

/-- One round, on a word of the schedule already added to its constant. -/
def round (s : Words) (word : UInt32) : Words :=
  let big1 := rotateRight s.e 6 ^^^ rotateRight s.e 11 ^^^ rotateRight s.e 25
  let choose := (s.e &&& s.f) ^^^ (~~~s.e &&& s.g)
  let t1 := s.h + big1 + choose + word
  let big0 := rotateRight s.a 2 ^^^ rotateRight s.a 13 ^^^ rotateRight s.a 22
  let majority := (s.a &&& s.b) ^^^ (s.a &&& s.c) ^^^ (s.b &&& s.c)
  ⟨t1 + (big0 + majority), s.a, s.b, s.c, s.d + t1, s.e, s.f, s.g⟩

/-- Appends `count` words to a schedule kept with the latest word first. -/
def extendSchedule : ℕ → List UInt32 → List UInt32
  | 0, words => words
  | count + 1, words =>
    let w15 := words.getD 14 0
    let w2 := words.getD 1 0
    let small0 := rotateRight w15 7 ^^^ rotateRight w15 18 ^^^ (w15 >>> 3)
    let small1 := rotateRight w2 17 ^^^ rotateRight w2 19 ^^^ (w2 >>> 10)
    extendSchedule count ((small1 + words.getD 6 0 + small0 + words.getD 15 0) :: words)

/-- The words of a block, most significant octet first. -/
def blockWords : Bytes → List UInt32
  | b0 :: b1 :: b2 :: b3 :: rest =>
    ((b0.toUInt32 <<< 24) ||| (b1.toUInt32 <<< 16) ||| (b2.toUInt32 <<< 8) ||| b3.toUInt32) ::
      blockWords rest
  | _ => []

/-- The message schedule of a block. -/
def schedule (block : Bytes) : List UInt32 := (extendSchedule 48 (blockWords block).reverse).reverse

/-- The intermediate hash value after one more block. -/
def compress (s : Words) (block : Bytes) : Words :=
  let t := (List.zipWith (· + ·) roundConstants (schedule block)).foldl round s
  ⟨s.a + t.a, s.b + t.b, s.c + t.c, s.d + t.d, s.e + t.e, s.f + t.f, s.g + t.g, s.h + t.h⟩

/-- The padded message, section 5.1.1. -/
def pad (m : Bytes) : Bytes :=
  m ++ 0x80 :: List.replicate ((119 - m.length % 64) % 64) 0 ++ bigEndian 8 (m.length * 8)

/-- Absorbs `count` blocks. -/
def absorb : ℕ → Words → Bytes → Words
  | 0, s, _ => s
  | count + 1, s, m => absorb count (compress s (m.take 64)) (m.drop 64)

/-- The octets of a hash value. -/
def digest (s : Words) : Bytes :=
  [s.a, s.b, s.c, s.d, s.e, s.f, s.g, s.h].flatMap fun w => bigEndian 4 w.toNat

/-- The digest of a message. -/
def sha256 (m : Bytes) : Bytes := digest (absorb ((pad m).length / 64) initial (pad m))

theorem digest_length (s : Words) : (digest s).length = 32 := by
  simp only [digest, List.flatMap_cons, List.flatMap_nil, List.length_append, List.length_nil,
    bigEndian_length]

@[simp] theorem sha256_length (m : Bytes) : (sha256 m).length = 32 := digest_length _

example : (sha256 (ascii "abc")).take 4 = [0xba, 0x78, 0x16, 0xbf] := by decide +kernel

end Talenro.Lib.Sha256
