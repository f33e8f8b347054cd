import Talenro.Lib.Bytes

/-!
# Texts behind their lengths

A text of variable length is framed by writing its length in front of it, in a fixed
number of octets; fields of a fixed length need no frame.  A concatenation of such fields
determines each of them: the lemmas peel the first field off on both sides.  Reading a
frame at an offset is the inverse.
-/

set_option autoImplicit false

namespace Talenro.Lib

/-- A text behind its length in `width` octets. -/
def framed (width : ℕ) (text : Bytes) : Bytes := bigEndian width text.length ++ text

@[simp] theorem framed_length (width : ℕ) (text : Bytes) :
    (framed width text).length = width + text.length := by
  rw [framed, List.length_append, bigEndian_length]

section Peel

variable {n width : ℕ} {x y : Bytes}

/-- A field of a fixed length is determined, and so is what follows. -/
theorem octets_append_inj {a b : Octets n} (h : a.1 ++ x = b.1 ++ y) : a = b ∧ x = y := by
  obtain ⟨hfirst, hrest⟩ := List.append_inj h (a.2.trans b.2.symm)
  exact ⟨Subtype.ext hfirst, hrest⟩

/-- A framed text is determined, and so is what follows. -/
theorem framed_append_inj {a b : Bytes} (ha : a.length < 256 ^ width) (hb : b.length < 256 ^ width)
    (h : framed width a ++ x = framed width b ++ y) : a = b ∧ x = y := by
  rw [framed, framed, List.append_assoc, List.append_assoc] at h
  obtain ⟨hlength, hrest⟩ := List.append_inj h (by rw [bigEndian_length, bigEndian_length])
  have hsame : a.length = b.length := by
    rw [← ofBigEndian_bigEndian ha, hlength, ofBigEndian_bigEndian hb]
  exact List.append_inj hrest hsame

end Peel

/-! ## Reading at an offset -/

/-- The octets from an offset on, as many as asked for. -/
def slice (wire : Bytes) (offset length : ℕ) : Bytes := (wire.drop offset).take length

/-- `copy` of octets into an array of zeros. -/
def Octets.copy (n : ℕ) (b : Bytes) : Octets n :=
  ⟨(b ++ List.replicate n 0).take n, by
    rw [List.length_take, List.length_append, List.length_replicate]
    omega⟩

theorem Octets.copy_val {n : ℕ} {b : Bytes} (h : b.length = n) : (Octets.copy n b).1 = b :=
  List.take_left' h

section Slice

variable {wire text rest : Bytes} {offset length : ℕ}

theorem slice_length (h : offset + length ≤ wire.length) :
    (slice wire offset length).length = length := by
  rw [slice, List.length_take, List.length_drop]
  omega

/-- The field that stands at an offset, and what stands behind it. -/
theorem slice_of_drop (h : wire.drop offset = text ++ rest) (htext : text.length = length) :
    slice wire offset length = text ∧ wire.drop (offset + length) = rest := by
  rw [slice, ← List.drop_drop, h, List.take_left' htext, List.drop_left' htext]
  exact ⟨rfl, rfl⟩

/-- What is left from an offset on begins with a slice. -/
theorem drop_eq_slice_append (wire : Bytes) (offset length : ℕ) :
    wire.drop offset = slice wire offset length ++ wire.drop (offset + length) := by
  rw [slice, ← List.drop_drop, List.take_append_drop]

/-- Reading the length and then the text gives back a framed text. -/
theorem framed_of_drop {width : ℕ} (h : wire.drop offset = framed width text ++ rest)
    (htext : text.length < 256 ^ width) :
    ofBigEndian (slice wire offset width) = text.length ∧
      slice wire (offset + width) text.length = text ∧
      wire.drop (offset + width + text.length) = rest := by
  rw [framed, List.append_assoc] at h
  obtain ⟨hlength, hrest⟩ := slice_of_drop h (bigEndian_length width text.length)
  obtain ⟨hslice, hend⟩ := slice_of_drop hrest rfl
  exact ⟨by rw [hlength, ofBigEndian_bigEndian htext], hslice, hend⟩

/-- What is read as a length and a text is a framed text. -/
theorem drop_eq_framed {width : ℕ} (hlength : ofBigEndian (slice wire offset width) = length)
    (h : offset + width + length ≤ wire.length) :
    wire.drop offset = framed width (slice wire (offset + width) length) ++
      wire.drop (offset + width + length) := by
  have hwidth : (slice wire offset width).length = width := slice_length (by omega)
  have hnumber := bigEndian_ofBigEndian (slice wire offset width)
  rw [hwidth, hlength] at hnumber
  rw [framed, slice_length h, hnumber, List.append_assoc, ← drop_eq_slice_append,
    ← drop_eq_slice_append]

end Slice

end Talenro.Lib
