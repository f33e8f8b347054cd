import Talenro.Model.TrustClient.Store

/-!
# The files of the directory store

The name of a version file determines the version and the other way round, a frame
is read back as it was written, and the loop over a listing finds the highest
version in it.
-/

set_option autoImplicit false

namespace Talenro.Analysis

open Lib TrustClient TrustClient.DirectoryStore

/-! ## Numbers of a fixed width -/

theorem padded_digits (width n : ℕ) : ∀ c ∈ Calendar.padded width n, Decimal.isDigit c = true := by
  intro c hc
  rcases List.mem_append.mp hc with hzero | hdigit
  · rw [(List.mem_replicate.mp hzero).2]
    decide
  · exact Decimal.format_digits n c hdigit

/-- A version has twenty digits. -/
theorem padded_version_length {version : ℕ} (h : version < 2 ^ 64) :
    (Calendar.padded 20 version).length = 20 := by
  apply Calendar.padded_length (by norm_num)
  calc version < 2 ^ 64 := h
    _ < 10 ^ 20 := by norm_num

/-! ## Names -/

/-- The versions a name can carry. -/
def IsVersion (version : ℕ) : Prop := version ≠ 0 ∧ version < 2 ^ 64

theorem isPrefixOf_append (a b : Bytes) : a.isPrefixOf (a ++ b) = true := by
  rw [List.isPrefixOf_iff_prefix]
  exact List.prefix_append a b

theorem isSuffixOf_append (a b : Bytes) : b.isSuffixOf (a ++ b) = true := by
  rw [List.isSuffixOf_iff_suffix]
  exact List.suffix_append a b

theorem trimSuffix_append (a b : Bytes) : trimSuffix (a ++ b) b = a := by
  rw [trimSuffix, if_pos (isSuffixOf_append a b)]
  simp

/-- The number of a well-formed name is found. -/
theorem entryVersion_name (head : Bytes) {version : ℕ} (h : IsVersion version) :
    entryVersion head ⟨head ++ Calendar.padded 20 version ++ stateSuffix, false⟩ =
      .ok (some version) := by
  have hhead : head.isPrefixOf (head ++ Calendar.padded 20 version ++ stateSuffix) = true := by
    rw [List.append_assoc]
    exact isPrefixOf_append ..
  have hnumber : trimSuffix ((head ++ Calendar.padded 20 version ++ stateSuffix).drop head.length)
      stateSuffix = Calendar.padded 20 version := by
    rw [List.append_assoc, List.drop_left, trimSuffix_append]
  have hdigits : (Calendar.padded 20 version).all Decimal.isDigit = true :=
    List.all_eq_true.mpr (padded_digits 20 version)
  unfold entryVersion
  simp only [hhead, isSuffixOf_append, and_self, not_true_eq_false, Bool.false_eq_true, or_self,
    ↓reduceIte, hnumber, hdigits, Calendar.value_padded, padded_version_length h.2]
  rw [if_pos ⟨trivial, trivial, h.2, h.1⟩]

/-- The names of different versions differ. -/
theorem name_injective {head : Bytes} {v w : ℕ} (hv : IsVersion v) (hw : IsVersion w)
    (h : head ++ Calendar.padded 20 v ++ stateSuffix =
      head ++ Calendar.padded 20 w ++ stateSuffix) : v = w := by
  have hentry := entryVersion_name head hv
  rw [h, entryVersion_name head hw] at hentry
  exact (Option.some.inj (Except.ok.inj hentry)).symm

theorem stageFilename_injective {v w : ℕ} (hv : IsVersion v) (hw : IsVersion w)
    (h : stageFilename v = stageFilename w) : v = w := name_injective hv hw h

theorem stageFilename_ne_activeFilename (v w : ℕ) : stageFilename v ≠ activeFilename w := by
  intro h
  have hhead := congrArg List.head? h
  simp [stageFilename, activeFilename, stagePrefix, activePrefix, ascii] at hhead

theorem entryVersion_stage_active (v : ℕ) (kind : Bool) :
    entryVersion stagePrefix ⟨activeFilename v, kind⟩ = .ok none := by
  unfold entryVersion
  rw [if_pos]
  right
  simp [stagePrefix, activeFilename, activePrefix, ascii]

theorem entryVersion_active_stage (v : ℕ) (kind : Bool) :
    entryVersion activePrefix ⟨stageFilename v, kind⟩ = .ok none := by
  unfold entryVersion
  rw [if_pos]
  right
  simp [stagePrefix, stageFilename, activePrefix, ascii]

/-- A temporary name is not the name of a version. -/
theorem temporary_ne_stageFilename {name : Bytes} (h : temporaryPrefix.isPrefixOf name = true)
    (v : ℕ) : name ≠ stageFilename v := by
  rintro rfl
  simp [temporaryPrefix, stageFilename, stagePrefix, ascii] at h

/-! ## The loop over a listing -/

/-- What the loop finds is the highest version of the listing. -/
theorem highestVersion_eq_ok {head : Bytes} {start highest : ℕ} {es : List Entry}
    (h : highestVersion head start es = .ok highest) :
    start ≤ highest ∧
      (∀ e ∈ es, ∀ v, entryVersion head e = .ok (some v) → v ≤ highest) ∧
      (highest = start ∨ ∃ e ∈ es, entryVersion head e = .ok (some highest)) := by
  induction es generalizing start with
  | nil =>
    obtain rfl := Except.ok.inj h
    exact ⟨le_refl _, fun e he => absurd he (List.not_mem_nil), Or.inl rfl⟩
  | cons e es ih =>
    rw [highestVersion, bind_eq_ok] at h
    obtain ⟨found, hfound, h⟩ := h
    cases found with
    | none =>
      obtain ⟨hstart, hall, hone⟩ := ih h
      refine ⟨hstart, ?_, ?_⟩
      · intro x hx v hv
        rcases List.mem_cons.mp hx with rfl | hx
        · rw [hfound] at hv
          cases hv
        · exact hall x hx v hv
      · rcases hone with rfl | ⟨x, hx, hv⟩
        · exact Or.inl rfl
        · exact Or.inr ⟨x, List.mem_cons_of_mem _ hx, hv⟩
    | some version =>
      obtain ⟨hstart, hall, hone⟩ := ih h
      have hstart' : start ≤ highest ∧ version ≤ highest := by
        split at hstart <;> omega
      refine ⟨hstart'.1, ?_, ?_⟩
      · intro x hx v hv
        rcases List.mem_cons.mp hx with rfl | hx
        · rw [hfound] at hv
          cases hv
          exact hstart'.2
        · exact hall x hx v hv
      · rcases hone with hsame | ⟨x, hx, hv⟩
        · split at hsame
          · exact Or.inr ⟨e, List.mem_cons_self .., hsame ▸ hfound⟩
          · exact Or.inl hsame
        · exact Or.inr ⟨x, List.mem_cons_of_mem _ hx, hv⟩

/-- The loop ends well when every entry is skipped or has a version. -/
theorem highestVersion_ok (head : Bytes) (start : ℕ) {es : List Entry}
    (h : ∀ e ∈ es, ∃ found, entryVersion head e = .ok found) :
    ∃ highest, highestVersion head start es = .ok highest := by
  induction es generalizing start with
  | nil => exact ⟨start, rfl⟩
  | cons e es ih =>
    obtain ⟨found, hfound⟩ := h e (List.mem_cons_self ..)
    rw [highestVersion, hfound, ok_bind]
    cases found with
    | none => exact ih start fun x hx => h x (List.mem_cons_of_mem _ hx)
    | some version => exact ih _ fun x hx => h x (List.mem_cons_of_mem _ hx)

/-! ## Frames -/

/-- The bodies a store takes. -/
def IsBody (body : Bytes) : Prop := 2 ≤ body.length ∧ body.length ≤ maximumStoredPayloadBytes

theorem encodeStoreFrame_length (version : ℕ) (body : Bytes) :
    (encodeStoreFrame version body).length = storeHeaderBytes + body.length := by
  have hmagic : storeMagic.length = 8 := rfl
  simp only [encodeStoreFrame, List.length_append, hmagic, bigEndian_length, Sha256.sha256_length]
  rfl

/-- A frame is read back as it was written. -/
theorem decodeStoreFrame_encodeStoreFrame {version : ℕ} {body : Bytes} (hversion : IsVersion version)
    (hbody : IsBody body) :
    decodeStoreFrame (encodeStoreFrame version body) = some (version, body) := by
  obtain ⟨hne, hlt⟩ := hversion
  obtain ⟨hlow, hhigh⟩ := hbody
  have hmagic : storeMagic.length = 8 := rfl
  have htake : (encodeStoreFrame version body).take 8 = storeMagic := by
    simp only [encodeStoreFrame, List.append_assoc]
    exact List.take_left' hmagic
  have hdrop8 : (encodeStoreFrame version body).drop 8 =
      bigEndian 8 version ++ (bigEndian 4 body.length ++ (Sha256.sha256 body ++ body)) := by
    simp only [encodeStoreFrame, List.append_assoc]
    exact List.drop_left' hmagic
  have hdrop16 : (encodeStoreFrame version body).drop 16 =
      bigEndian 4 body.length ++ (Sha256.sha256 body ++ body) := by
    rw [show (16 : ℕ) = 8 + 8 from rfl, ← List.drop_drop, hdrop8]
    exact List.drop_left' (bigEndian_length ..)
  have hdrop20 : (encodeStoreFrame version body).drop 20 = Sha256.sha256 body ++ body := by
    rw [show (20 : ℕ) = 16 + 4 from rfl, ← List.drop_drop, hdrop16]
    exact List.drop_left' (bigEndian_length ..)
  have hdrop52 : (encodeStoreFrame version body).drop storeHeaderBytes = body := by
    rw [show storeHeaderBytes = 20 + 32 from rfl, ← List.drop_drop, hdrop20]
    exact List.drop_left' (Sha256.sha256_length body)
  have hversionField : ofBigEndian (((encodeStoreFrame version body).drop 8).take 8) = version := by
    rw [hdrop8, List.take_left' (bigEndian_length ..)]
    apply ofBigEndian_bigEndian
    calc version < 2 ^ 64 := hlt
      _ = 256 ^ 8 := by norm_num
  have hlengthField : ofBigEndian (((encodeStoreFrame version body).drop 16).take 4) =
      body.length := by
    rw [hdrop16, List.take_left' (bigEndian_length ..)]
    apply ofBigEndian_bigEndian
    calc body.length ≤ maximumStoredPayloadBytes := hhigh
      _ < 256 ^ 4 := by decide
  have hdigest : ((encodeStoreFrame version body).drop 20).take 32 = Sha256.sha256 body := by
    rw [hdrop20, List.take_left' (Sha256.sha256_length body)]
  have hlength := encodeStoreFrame_length version body
  unfold decodeStoreFrame
  simp only [htake, hversionField, hlengthField, hdrop52, hdigest, hlength, Nat.le_add_right,
    Nat.add_sub_cancel_left, ne_eq, hne, hlow, hhigh, not_false_eq_true, and_self, guard]
  rfl

/-- A frame that is accepted is the encoding of what is read from it. -/
theorem eq_encodeStoreFrame {frame body : Bytes} {version : ℕ}
    (h : decodeStoreFrame frame = some (version, body)) :
    frame = encodeStoreFrame version body := by
  obtain ⟨_, hheader, h⟩ := Option.bind_eq_some_iff.mp h
  obtain ⟨hlength, hmagic⟩ := (Option.guard_eq_some' _).mp hheader
  obtain ⟨_, hfields, h⟩ := Option.bind_eq_some_iff.mp h
  obtain ⟨-, -, -, hbody⟩ := (Option.guard_eq_some' _).mp hfields
  obtain ⟨_, hdigest, hread⟩ := Option.bind_eq_some_iff.mp h
  obtain ⟨rfl, rfl⟩ := Prod.mk.inj (Option.some.inj hread)
  have hheader : 52 ≤ frame.length := hlength
  have hversionField : ((frame.drop 8).take 8).length = 8 := by simp; omega
  have hlengthField : ((frame.drop 16).take 4).length = 4 := by simp; omega
  have hcount : (frame.drop storeHeaderBytes).length = ofBigEndian ((frame.drop 16).take 4) := by
    rw [List.length_drop]
    exact hbody.symm
  have hversion := bigEndian_ofBigEndian ((frame.drop 8).take 8)
  have hsize := bigEndian_ofBigEndian ((frame.drop 16).take 4)
  rw [hversionField] at hversion
  rw [hlengthField] at hsize
  rw [encodeStoreFrame, hcount, hversion, hsize, ← hmagic, ← (Option.guard_eq_some' _).mp hdigest]
  -- The five parts are the frame, one after the other.
  calc frame = frame.take 8 ++ ((frame.drop 8).take 8 ++ ((frame.drop 16).take 4 ++
        ((frame.drop 20).take 32 ++ frame.drop storeHeaderBytes))) := by
        rw [show storeHeaderBytes = 20 + 32 from rfl, ← List.drop_drop, List.take_append_drop,
          show (20 : ℕ) = 16 + 4 from rfl, ← List.drop_drop, List.take_append_drop,
          show (16 : ℕ) = 8 + 8 from rfl, ← List.drop_drop, List.take_append_drop,
          List.take_append_drop]
    _ = _ := by simp only [List.append_assoc]

/-- Frames are read back as they were written, and nothing else is accepted. -/
theorem store_frames_exact :
    (∀ version body, IsVersion version → IsBody body →
      decodeStoreFrame (encodeStoreFrame version body) = some (version, body)) ∧
    ∀ frame version body, decodeStoreFrame frame = some (version, body) →
      frame = encodeStoreFrame version body :=
  ⟨fun _ _ hversion hbody => decodeStoreFrame_encodeStoreFrame hversion hbody,
    fun _ _ _ h => eq_encodeStoreFrame h⟩

end Talenro.Analysis
