import Talenro.Analysis.Acceptance
import Talenro.Analysis.StoreFiles

/-!
# The stores of a client, used by one process

What the programs of the directory store do when no other process interferes, from
any state of the disk and with any faults.  A program that only reads changes
nothing but its own handles.
-/

set_option autoImplicit false

namespace Talenro.Analysis

open Lib Lib.Prog TrustClient TrustClient.DirectoryStore

variable {Pid : Type} [DecidableEq Pid] {faults : Bool} {pid : Pid} {directory : Bytes}

/-! ## One operation -/

variable {body : Bytes} {d' d : Directory Pid} {s t : Disk Pid} {β : Type} {version : ℕ}
  {post : Except Error β → Disk Pid → Prop} {f : Unit → StoreM β}

/-- An operation on the directory, and then the rest of the program. -/
theorem wp_onDirectory_bind {o : DirectoryOp} {f : o.Answer → StoreM β}
    (hcan : ∃ c, c.healthy = true ∧ ((s directory).perform pid o c).isSome = true)
    (h : ∀ c r d, (c.healthy = true ∨ faults = true) →
      (s directory).perform pid o c = some (r, d) →
      Wp (Disk.exec faults pid) (f r).run (Function.update s directory d) post) :
    Wp (Disk.exec faults pid) (onDirectory directory o >>= f).run s post := by
  refine wp_run_bind.mpr ⟨?_, ?_⟩
  · obtain ⟨c, hc, hsome⟩ := hcan
    obtain ⟨⟨r, d⟩, hd⟩ := Option.isSome_iff_exists.mp hsome
    exact ⟨r, _, c, d, Or.inl hc, hd, rfl⟩
  · rintro r t ⟨c, d, hc, hd, rfl⟩
    exact h c r d hc hd

/-- An operation that fails only through a fault, and then the rest of the program. -/
theorem wp_onDirectory_or_fault {o : DirectoryOp} {f : o.Answer → StoreM β} {answer : o.Answer}
    (hsucceed : (s directory).perform pid o .succeed = some (answer, d'))
    (hperform : ∀ c r d, (s directory).perform pid o c = some (r, d) →
      (r = answer ∧ d = d') ∨ (r = o.failure ∧ d = s directory ∧ c = .fail))
    (hok : Wp (Disk.exec faults pid) (f answer).run (Function.update s directory d') post)
    (hfault : faults = true → Wp (Disk.exec faults pid) (f o.failure).run s post) :
    Wp (Disk.exec faults pid) (onDirectory directory o >>= f).run s post := by
  apply wp_onDirectory_bind
  · exact ⟨.succeed, rfl, by rw [hsucceed]; rfl⟩
  intro c r d hc hd
  rcases hperform c r d hd with ⟨rfl, rfl⟩ | ⟨rfl, rfl, rfl⟩
  · exact hok
  · rw [Function.update_eq_self]
    exact hfault (hc.resolve_left (by simp [Choice.healthy]))

/-- The state of the disk when only handles of one directory were changed. -/
def Handles (s : Disk Pid) (directory : Bytes) (t : Disk Pid) : Prop :=
  ∃ listing opened, t = Function.update s directory ((s directory).withHandles listing opened)

omit [DecidableEq Pid] in
theorem handles_refl (s : Disk Pid) : Handles s directory s :=
  ⟨(s directory).listing, (s directory).opened, (Function.update_eq_self _ _).symm⟩

omit [DecidableEq Pid] in
theorem Handles.update (h : Handles s directory t) (listing : Pid → Option Listing)
    (opened : Pid → Option Inode) :
    Handles s directory
      (Function.update t directory ((t directory).withHandles listing opened)) := by
  obtain ⟨l, o, rfl⟩ := h
  refine ⟨listing, opened, ?_⟩
  rw [Function.update_idem, Function.update_self]
  rfl

omit [DecidableEq Pid] in
theorem Handles.trans {u : Disk Pid} (h : Handles s directory t) (h' : Handles t directory u) :
    Handles s directory u := by
  obtain ⟨l, o, rfl⟩ := h'
  exact h.update l o

omit [DecidableEq Pid] in
theorem Handles.at (h : Handles s directory t) :
    ∃ listing opened, t directory = (s directory).withHandles listing opened := by
  obtain ⟨l, o, rfl⟩ := h
  exact ⟨l, o, Function.update_self ..⟩

/-! ## Reading a frame -/

/-- The file under a name is a regular file of an admissible size with the data
`frame`. -/
def Readable (d : Directory Pid) (name frame : Bytes) : Prop :=
  ∃ i, d.lookup name = some i ∧ (d.files i).directory = false ∧ (d.files i).data = frame ∧
    storeHeaderBytes ≤ frame.length ∧ frame.length ≤ storeHeaderBytes + maximumStoredPayloadBytes

/-- What reading a frame can result in. -/
def FrameRead (faults : Bool) (d : Directory Pid) (name : Bytes) : Except Error Bytes → Prop
  | .ok frame => Readable d name frame
  | .error e => e = .store ∧ (faults = false → ∀ frame, ¬ Readable d name frame)

/-- Closing the file, and then the rest of the program. -/
theorem wp_closeFile_bind (hs : Handles s directory t)
    (h : ∀ u, Handles s directory u → Wp (Disk.exec faults pid) (f ()).run u post) :
    Wp (Disk.exec faults pid) (onDirectory directory .closeFile >>= f).run t post := by
  apply wp_onDirectory_bind
  · exact ⟨.succeed, rfl, rfl⟩
  · intro c r d _ hd
    apply h
    rcases Directory.perform_closeFile hd with ⟨-, rfl⟩ | rfl
    · rwa [Function.update_eq_self]
    · exact hs.update (t directory).listing _

/-- Reading the opened file. -/
theorem wp_readOpenedFile {name : Bytes} {i : Inode} (hs : Handles s directory t)
    (hi : (s directory).lookup name = some i) (hopened : (t directory).opened pid = some i) :
    Wp (Disk.exec faults pid) (readOpenedFile directory).run t
      fun r u => Handles s directory u ∧ FrameRead faults (s directory) name r := by
  have hfiles : (t directory).files = (s directory).files := by
    obtain ⟨l, o, h⟩ := hs.at
    rw [h]
    rfl
  unfold readOpenedFile
  apply wp_onDirectory_bind
  · exact ⟨.succeed, rfl, by simp [Directory.perform, hopened]⟩
  intro c r d hc hd
  obtain ⟨rfl, hr⟩ := Directory.perform_fileStatus hd
  rw [Function.update_eq_self]
  rcases hr with ⟨rfl, rfl⟩ | ⟨j, hj, rfl⟩
  · apply wp_closeFile_bind hs
    intro u hu
    refine ⟨hu, rfl, fun hf => ?_⟩
    simp [Choice.healthy, hf] at hc
  obtain rfl : i = j := Option.some.inj (hopened.symm.trans hj)
  rw [hfiles]
  dsimp only
  split
  · next hadmissible =>
    simp only [Bool.and_eq_true, Bool.not_eq_true', decide_eq_true_eq] at hadmissible
    obtain ⟨hkind, hlow, hhigh⟩ := hadmissible
    apply wp_onDirectory_bind
    · exact ⟨.succeed, rfl, by simp [Directory.perform, hopened]⟩
    intro c r d hc hd
    obtain ⟨rfl, hr⟩ := Directory.perform_readFile hd
    rw [Function.update_eq_self]
    apply wp_closeFile_bind hs
    intro u hu
    rcases hr with ⟨rfl, rfl⟩ | ⟨j, hj, rfl⟩
    · refine ⟨hu, rfl, fun hf => ?_⟩
      simp [Choice.healthy, hf] at hc
    · obtain rfl : i = j := Option.some.inj (hopened.symm.trans hj)
      rw [hfiles, List.take_of_length_le (by omega)]
      rw [orThrow_some]
      refine wp_run_bind.mpr ?_
      apply wp_run_ofExcept.mpr
      refine wp_run_bind.mpr ?_
      apply wp_run_ofExcept.mpr
      rw [require_of hhigh]
      exact ⟨hu, i, hi, hkind, rfl, hlow, hhigh⟩
  · next hadmissible =>
    apply wp_closeFile_bind hs
    intro u hu
    refine ⟨hu, rfl, ?_⟩
    rintro - frame ⟨j, hj, hkind, rfl, hlow, hhigh⟩
    obtain rfl : i = j := Option.some.inj (hi.symm.trans hj)
    apply hadmissible
    simp only [hkind, Bool.not_false, Bool.true_and, decide_eq_true_eq]
    exact ⟨hlow, hhigh⟩

theorem wp_readStoreFrame (s : Disk Pid) (name : Bytes) :
    Wp (Disk.exec faults pid) (readStoreFrame directory name).run s
      fun r t => Handles s directory t ∧ FrameRead faults (s directory) name r := by
  unfold readStoreFrame
  apply wp_onDirectory_bind
  · refine ⟨.succeed, rfl, ?_⟩
    cases hl : (s directory).lookup name with
    | none => simp [Directory.perform, hl]
    | some i => simp [Directory.perform, hl]
  intro c r d hc hd
  rcases Directory.perform_openFile hd with ⟨rfl, rfl, hmiss⟩ | ⟨i, hi, rfl, rfl⟩
  · refine ⟨by simpa using handles_refl s, rfl, ?_⟩
    rintro hf frame ⟨i, hi, -⟩
    rcases hmiss with rfl | hnone
    · simp [Choice.healthy, hf] at hc
    · rw [hnone] at hi
      cases hi
  · have hs : Handles s directory _ := (handles_refl s).update (s directory).listing
      (Function.update (s directory).opened pid (some i))
    refine wp_readOpenedFile hs hi ?_
    rw [Function.update_self]
    exact Function.update_self ..

/-! ## Listing the directory -/

/-- A complete listing. -/
def Listed (d : Directory Pid) (shown : List Entry) : Prop :=
  (∀ e ∈ d.contents, e ∈ shown) ∧ shown.Subperm d.contents

/-- What listing the directory can result in. -/
def EntriesRead (faults : Bool) (d : Directory Pid) : Except Error (Option (List Entry)) → Prop
  | .ok none => d.present = false
  | .ok (some shown) => d.present = true ∧ Listed d shown ∧ shown.length ≤ maximumStateEntries
  | .error e => e = .store ∧ (faults = false → d.present = true ∧
      maximumStateEntries < d.contents.length)

/-- Closing the listing, and then the rest of the program. -/
theorem wp_closeListing_bind (hs : Handles s directory t)
    (h : ∀ u, Handles s directory u → Wp (Disk.exec faults pid) (f ()).run u post) :
    Wp (Disk.exec faults pid) (onDirectory directory .closeListing >>= f).run t post := by
  apply wp_onDirectory_bind
  · exact ⟨.succeed, rfl, rfl⟩
  · intro c r d _ hd
    apply h
    rcases Directory.perform_closeListing hd with ⟨-, rfl⟩ | rfl
    · rwa [Function.update_eq_self]
    · exact hs.update _ (t directory).opened

theorem wp_readBoundedDirectory (s : Disk Pid) :
    Wp (Disk.exec faults pid) (readBoundedDirectory directory).run s
      fun r t => Handles s directory t ∧ EntriesRead faults (s directory) r := by
  unfold readBoundedDirectory
  apply wp_onDirectory_bind
  · refine ⟨.succeed, rfl, ?_⟩
    cases hp : (s directory).present with
    | true => simp [Directory.perform, hp]
    | false => simp [Directory.perform, hp]
  intro c r d hc hd
  rcases Directory.perform_openListing hd with ⟨rfl, rfl, rfl⟩ | ⟨hp, rfl, rfl⟩ | ⟨hp, rfl, rfl⟩
  · refine ⟨by simpa using handles_refl s, rfl, fun hf => ?_⟩
    simp [Choice.healthy, hf] at hc
  · obtain ⟨t, ht⟩ : ∃ t, t = Function.update s directory
      ((s directory).setListing pid (some ⟨(s directory).contents, (s directory).contents⟩)) :=
      ⟨_, rfl⟩
    have hs : Handles s directory t := by
      rw [ht]
      exact (handles_refl s).update _ (s directory).opened
    have hlisting : (t directory).listing pid =
        some ⟨(s directory).contents, (s directory).contents⟩ := by
      rw [ht, Function.update_self]
      exact Function.update_self ..
    rw [← ht]
    apply wp_onDirectory_bind
    · refine ⟨.entries (s directory).contents, rfl, ?_⟩
      simp [Directory.perform, hlisting, List.Subperm.refl]
    intro c r d hc hd
    obtain ⟨rfl, hr⟩ := Directory.perform_readEntries hd
    rw [Function.update_eq_self]
    apply wp_closeListing_bind hs
    intro u hu
    rcases hr with ⟨rfl, rfl⟩ | ⟨l, shown, hl, hstable, hever, rfl⟩
    · refine ⟨hu, rfl, fun hf => ?_⟩
      simp [Choice.healthy, hf] at hc
    · obtain rfl := Option.some.inj (hlisting.symm.trans hl)
      by_cases hlength : (shown.take (maximumStateEntries + 1)).length ≤ maximumStateEntries
      · have hshort : shown.length ≤ maximumStateEntries := by
          rw [List.length_take] at hlength
          omega
        refine wp_run_bind.mpr (wp_run_ofExcept.mpr ?_)
        rw [orThrow_some]
        refine wp_run_bind.mpr (wp_run_ofExcept.mpr ?_)
        rw [require_of hlength, List.take_of_length_le (by omega)]
        exact ⟨hu, hp, ⟨hstable, hever⟩, hshort⟩
      · refine wp_run_bind.mpr (wp_run_ofExcept.mpr ?_)
        rw [orThrow_some]
        refine wp_run_bind.mpr (wp_run_ofExcept.mpr ?_)
        rw [require, if_neg hlength]
        refine ⟨hu, rfl, fun _ => ⟨hp, ?_⟩⟩
        have := hever.length_le
        rw [List.length_take] at hlength
        dsimp only at this
        omega
  · exact ⟨by simpa using handles_refl s, hp⟩

/-- What looking for the highest version can result in. -/
def HighestRead (faults : Bool) (d : Directory Pid) (head : Bytes) : Except Error ℕ → Prop
  | .ok highest => (d.present = false ∧ highest = 0) ∨ (d.present = true ∧ ∃ shown, Listed d shown ∧
      shown.length ≤ maximumStateEntries ∧ highestVersion head 0 shown = .ok highest)
  | .error _ => faults = false → d.present = true ∧ (maximumStateEntries < d.contents.length ∨
      ∃ shown e, Listed d shown ∧ highestVersion head 0 shown = .error e)

theorem wp_loadHighestVersion (s : Disk Pid) (head : Bytes) :
    Wp (Disk.exec faults pid) (loadHighestVersion directory head).run s
      fun r t => Handles s directory t ∧ HighestRead faults (s directory) head r := by
  unfold loadHighestVersion
  refine wp_run_bind.mpr ((wp_readBoundedDirectory s).mono ?_)
  rintro r t ⟨ht, hr⟩
  match r, hr with
  | .error e, hr => exact ⟨ht, fun hf => ⟨(hr.2 hf).1, Or.inl (hr.2 hf).2⟩⟩
  | .ok none, hr => exact ⟨ht, Or.inl ⟨hr, rfl⟩⟩
  | .ok (some shown), hr =>
    obtain ⟨hp, hlisted, hlength⟩ := hr
    refine wp_run_ofExcept.mpr ⟨ht, ?_⟩
    cases hh : highestVersion head 0 shown with
    | ok highest => exact Or.inr ⟨hp, shown, hlisted, hlength, hh⟩
    | error e => exact fun _ => ⟨hp, Or.inr ⟨shown, e, hlisted, hh⟩⟩

/-! ## The highest version -/

/-- The file under a name is a readable frame of the version. -/
def FramedAs (d : Directory Pid) (name : Bytes) (version : ℕ) : Prop :=
  ∃ frame body, Readable d name frame ∧ decodeStoreFrame frame = some (version, body)

def VersionRead (faults : Bool) (d : Directory Pid) (name : Bytes) (version : ℕ) :
    Except Error Unit → Prop
  | .ok _ => FramedAs d name version
  | .error e => e = .store ∧ (faults = false → ¬ FramedAs d name version)

omit [DecidableEq Pid] in
theorem Readable.unique {name frame frame' : Bytes} (h : Readable d name frame)
    (h' : Readable d name frame') : frame = frame' := by
  obtain ⟨i, hi, -, hdata, -⟩ := h
  obtain ⟨j, hj, -, hdata', -⟩ := h'
  obtain rfl : i = j := Option.some.inj (hi.symm.trans hj)
  rw [← hdata, ← hdata']

theorem wp_readVersion (s : Disk Pid) (name : Bytes) (version : ℕ) :
    Wp (Disk.exec faults pid) (readVersion directory name version).run s
      fun r t => Handles s directory t ∧ VersionRead faults (s directory) name version r := by
  unfold readVersion
  refine wp_run_bind.mpr (wp_run_mapError.mpr ((wp_readStoreFrame s name).mono ?_))
  rintro r t ⟨ht, hr⟩
  cases r with
  | error e =>
    refine ⟨ht, rfl, ?_⟩
    rintro hf ⟨frame, body, hreadable, -⟩
    exact hr.2 hf frame hreadable
  | ok frame =>
    refine wp_run_bind.mpr (wp_run_ofExcept.mpr ?_)
    cases hdecoded : decodeStoreFrame frame with
    | none =>
      refine ⟨ht, rfl, ?_⟩
      rintro - ⟨frame', body, hreadable, hdecoded'⟩
      rw [← Readable.unique hr hreadable, hdecoded] at hdecoded'
      cases hdecoded'
    | some decoded =>
      refine wp_run_ofExcept.mpr ⟨ht, ?_⟩
      by_cases hversion : decoded.1 = version
      · rw [require_of hversion]
        exact ⟨frame, decoded.2, hr, by rw [hdecoded, ← hversion]⟩
      · rw [require, if_neg hversion]
        refine ⟨rfl, ?_⟩
        rintro - ⟨frame', body, hreadable, hdecoded'⟩
        rw [← Readable.unique hr hreadable, hdecoded] at hdecoded'
        exact hversion (by rw [Option.some.inj hdecoded'])

/-- What `loadHighestDirectory` can result in. -/
def HighestLoaded (faults : Bool) (d : Directory Pid) : Except Error ℕ → Prop
  | .ok highest => HighestRead faults d stagePrefix (.ok highest) ∧
      (highest ≠ 0 → FramedAs d (stageFilename highest) highest)
  | .error e => faults = false → HighestRead faults d stagePrefix (.error e) ∨
      ∃ highest, highest ≠ 0 ∧ HighestRead faults d stagePrefix (.ok highest) ∧
        ¬ FramedAs d (stageFilename highest) highest

theorem wp_loadHighestDirectory (s : Disk Pid) :
    Wp (Disk.exec faults pid) (loadHighestDirectory directory).run s
      fun r t => Handles s directory t ∧ HighestLoaded faults (s directory) r := by
  unfold loadHighestDirectory
  refine wp_run_bind.mpr ((wp_loadHighestVersion s stagePrefix).mono ?_)
  rintro r t ⟨ht, hr⟩
  cases r with
  | error e => exact ⟨ht, fun _ => Or.inl hr⟩
  | ok highest =>
    dsimp only
    by_cases hzero : highest = 0
    · rw [if_pos hzero]
      subst hzero
      exact ⟨ht, hr, fun h => absurd rfl h⟩
    · rw [if_neg hzero]
      refine wp_run_bind.mpr ((wp_readVersion t _ _).mono ?_)
      rintro r u ⟨hu, hread⟩
      obtain ⟨l, o, hat⟩ := ht.at
      rw [hat] at hread
      cases r with
      | error e => exact ⟨ht.trans hu, fun hf => Or.inr ⟨highest, hzero, hr, hread.2 hf⟩⟩
      | ok _ => exact ⟨ht.trans hu, hr, fun _ => hread⟩

/-! ## Writing the temporary file -/

theorem wp_writeAll {t : Temporary} (ht : t.writable = true) {rounds : ℕ} {data : Bytes}
    {synced : Bool} (hs : s directory = d.working pid t ⟨data, synced, false⟩)
    (hrounds : body.length ≤ rounds) :
    Wp (Disk.exec faults pid) (writeAll directory rounds body).run s fun r u =>
      match r with
      | .ok _ => ∃ synced', u = Function.update s directory
          (d.working pid t ⟨data ++ body, synced', false⟩)
      | .error _ => faults = true := by
  induction rounds generalizing body data synced s with
  | zero =>
    obtain rfl := List.length_eq_zero_iff.mp (Nat.le_zero.mp hrounds)
    refine ⟨synced, ?_⟩
    rw [List.append_nil, ← hs, Function.update_eq_self]
  | succ rounds ih =>
    cases body with
    | nil =>
      refine ⟨synced, ?_⟩
      rw [List.append_nil, ← hs, Function.update_eq_self]
    | cons b rest =>
      unfold writeAll
      apply wp_onDirectory_bind
      · refine ⟨.count (b :: rest).length, by simp [Choice.healthy], ?_⟩
        simp [Directory.perform, hs, ht]
      intro c r e hc he
      rw [hs] at he
      rcases Directory.perform_write he with ⟨rfl, rfl, rfl⟩ | ⟨t', n, ht', -, hn, rfl, rfl, rfl⟩
      · exact Or.resolve_left hc (by simp [Choice.healthy])
      rw [Directory.working_temporary] at ht'
      obtain rfl := Option.some.inj ht'
      dsimp only
      by_cases hstop : n = 0 ∨ (b :: rest).length < n
      · rw [if_pos hstop]
        apply wp_run_throw.mpr
        rcases hstop with rfl | hlong
        · exact Or.resolve_left hc (by simp [Choice.healthy])
        · omega
      · rw [if_neg hstop]
        rw [Directory.working_file, Directory.working_setFile]
        have hshorter : ((b :: rest).drop n).length ≤ rounds := by
          rw [List.length_drop]
          omega
        refine (ih (Function.update_self ..) hshorter).mono ?_
        intro r u hu
        cases r with
        | error e => exact hu
        | ok _ =>
          obtain ⟨synced', rfl⟩ := hu
          refine ⟨synced', ?_⟩
          rw [Function.update_idem, List.append_assoc, List.take_append_drop]

/-- A check that fails only after a fault, and then the rest of the program. -/
theorem wp_require_bind {p : Prop} [Decidable p] {e : Error}
    (hok : p → Wp (Disk.exec faults pid) (f ()).run s post) (herror : ¬ p → post (.error e) s) :
    Wp (Disk.exec faults pid) (Prog.ofExcept (require p e) >>= f).run s post := by
  refine wp_run_bind.mpr (wp_run_ofExcept.mpr ?_)
  by_cases hp : p
  · rw [require_of hp]
    exact hok hp
  · rw [require, if_neg hp]
    exact herror hp

/-- The context is asked, and then the rest of the program runs. -/
theorem wp_contextError_bind {f : Bool → StoreM β}
    (h : ∀ canceled, (canceled = true → faults = true) →
      Wp (Disk.exec faults pid) (f canceled).run s post) :
    Wp (Disk.exec faults pid) ((Prog.perform StoreOp.contextError : StoreM Bool) >>= f).run s post := by
  refine wp_run_bind.mpr ⟨⟨false, s, And.intro (by simp) rfl⟩, ?_⟩
  rintro canceled t ⟨hcanceled, rfl⟩
  exact h canceled hcanceled

/-- The directory after the temporary file was written, linked and removed. -/
def published (d : Directory Pid) (pid : Pid) (i : Inode) (temporaryName frame target : Bytes) :
    Directory Pid :=
  ((d.working pid ⟨some temporaryName, i, false⟩ ⟨frame, true, false⟩).change
    (.link target i)).unlink pid temporaryName

section LinkTemporary

variable {t : Temporary} {file : File} {f : Bool → StoreM β}

theorem wp_syncFile_bind (hs : s directory = d.working pid t file) (ht : t.writable = true)
    (hok : Wp (Disk.exec faults pid) (f true).run
      (Function.update s directory (d.working pid t { file with synced := true })) post)
    (hfault : faults = true → Wp (Disk.exec faults pid) (f false).run s post) :
    Wp (Disk.exec faults pid) (onDirectory directory .syncFile >>= f).run s post := by
  refine wp_onDirectory_or_fault ?_ ?_ hok hfault
  · simp [Directory.perform, hs, ht, Directory.working_setFile]
  · intro c r e he
    rw [hs] at he ⊢
    rcases Directory.perform_syncFile he with ⟨rfl, rfl, hwhy⟩ | ⟨t', ht', -, rfl, rfl⟩
    · rcases hwhy with rfl | ⟨t', ht', hclosed⟩
      · exact Or.inr ⟨rfl, rfl, rfl⟩
      · rw [Directory.working_temporary] at ht'
        obtain rfl := Option.some.inj ht'
        rw [ht] at hclosed
        cases hclosed
    · rw [Directory.working_temporary] at ht'
      obtain rfl := Option.some.inj ht'
      exact Or.inl ⟨rfl, by rw [Directory.working_setFile, Directory.working_file]⟩

theorem wp_closeTemporary_bind (hs : s directory = d.working pid t file) (ht : t.writable = true)
    (hok : Wp (Disk.exec faults pid) (f true).run
      (Function.update s directory (d.working pid { t with writable := false } file)) post)
    (hfault : faults = true → Wp (Disk.exec faults pid) (f false).run s post) :
    Wp (Disk.exec faults pid) (onDirectory directory .closeTemporary >>= f).run s post := by
  refine wp_onDirectory_or_fault ?_ ?_ hok hfault
  · simp [Directory.perform, hs, ht, Directory.working_setTemporary]
  · intro c r e he
    rw [hs] at he ⊢
    rcases Directory.perform_closeTemporary he with ⟨rfl, rfl, hwhy⟩ | ⟨t', ht', rfl, rfl⟩
    · rcases hwhy with rfl | hnone
      · exact Or.inr ⟨rfl, rfl, rfl⟩
      · rw [Directory.working_temporary] at hnone
        cases hnone
    · rw [Directory.working_temporary] at ht'
      obtain rfl := Option.some.inj ht'
      exact Or.inl ⟨ht, Directory.working_setTemporary ..⟩

end LinkTemporary

theorem wp_linkTemporary {temporaryName target frame : Bytes} {i : Inode}
    (hs : s directory = d.working pid ⟨some temporaryName, i, true⟩ ⟨[], false, false⟩)
    (htemporary : d.lookup temporaryName = some i) (hne : temporaryName ≠ target) :
    Wp (Disk.exec faults pid) (linkTemporary directory temporaryName frame target).run s
      fun r u => match r with
        | .ok _ => d.lookup target = none ∧
            u = Function.update s directory (published d pid i temporaryName frame target)
        | .error _ => faults = false → d.lookup target ≠ none := by
  unfold linkTemporary
  refine wp_onDirectory_or_fault rfl ?_ ?_ fun hf => fun hno => absurd hno (by simp [hf])
  · intro c r e he
    obtain ⟨rfl, ⟨rfl, rfl⟩ | rfl⟩ := Directory.perform_changeMode he
    · exact Or.inr ⟨rfl, rfl, rfl⟩
    · exact Or.inl ⟨rfl, rfl⟩
  rw [Function.update_eq_self]
  refine wp_require_bind (fun _ => ?_) fun h => absurd rfl h
  refine wp_run_bind.mpr ((wp_writeAll rfl hs (le_refl _)).mono ?_)
  intro r u hu
  cases r with
  | error e => exact fun hf => absurd hu (by simp [hf])
  | ok _ =>
  obtain ⟨synced, rfl⟩ := hu
  rw [List.nil_append]
  refine wp_syncFile_bind (Function.update_self ..) rfl ?_ fun hf hno => absurd hno (by simp [hf])
  rw [Function.update_idem]
  refine wp_require_bind (fun _ => ?_) fun h => absurd rfl h
  refine wp_closeTemporary_bind (Function.update_self ..) rfl ?_
    fun hf hno => absurd hno (by simp [hf])
  rw [Function.update_idem]
  refine wp_require_bind (fun _ => ?_) fun h => absurd rfl h
  refine wp_contextError_bind fun canceled hcanceled => ?_
  refine wp_require_bind (fun _ => ?_) fun hno hf => ?_
  swap
  · cases canceled with
    | true => simp [hf] at hcanceled
    | false => exact absurd rfl hno
  obtain ⟨w, hw⟩ : ∃ w, w = d.working pid ⟨some temporaryName, i, false⟩ ⟨frame, true, false⟩ :=
    ⟨_, rfl⟩
  have hlookup : w.lookup = d.lookup := by rw [hw]; rfl
  have hfile : w.files i = ⟨frame, true, false⟩ := by
    rw [hw]
    exact Directory.working_file d pid ⟨some temporaryName, i, false⟩ _
  rw [← hw]
  apply wp_onDirectory_bind
  · exact ⟨.succeed, rfl, by simp [Directory.perform]⟩
  intro c r e hc he
  rw [Function.update_self] at he
  obtain ⟨rfl, hr⟩ := Directory.perform_status he
  rw [Function.update_idem]
  rw [hlookup] at hr
  rcases hr with ⟨rfl, rfl⟩ | ⟨rfl, hfound⟩ | ⟨rfl, hmissing⟩
  · exact fun hf => absurd hc (by simp [Choice.healthy, hf])
  · exact fun _ => hfound
  refine wp_onDirectory_or_fault (?_ : _ = some (true, e.change (.link target i))) ?_ ?_ ?_
  · simp [Directory.perform, hlookup, htemporary, hmissing, hfile]
  · intro c r e' he'
    rw [Function.update_self] at he' ⊢
    rcases Directory.perform_link he' with ⟨rfl, rfl, hwhy⟩ | ⟨j, hj, -, -, rfl, rfl⟩
    · rw [hlookup] at hwhy
      rcases hwhy with rfl | htaken | hkind
      · exact Or.inr ⟨rfl, rfl, rfl⟩
      · exact absurd hmissing htaken
      · have := hkind i htemporary
        rw [hfile] at this
        cases this
    · rw [hlookup, htemporary] at hj
      obtain rfl := Option.some.inj hj
      exact Or.inl ⟨rfl, rfl⟩
  · rw [Function.update_idem]
    have hthere : (e.change (.link target i)).lookup temporaryName = some i := by
      rw [Directory.lookup_change_link, if_neg hne, hlookup, htemporary]
    refine wp_onDirectory_or_fault
      (?_ : _ = some (true, (e.change (.link target i)).unlink pid temporaryName)) ?_ ?_ ?_
    · simp [Directory.perform, hthere]
    · intro c r e' he'
      rw [Function.update_self] at he' ⊢
      rcases Directory.perform_remove he' with ⟨rfl, rfl, hwhy⟩ | ⟨-, rfl, rfl⟩
      · rcases hwhy with rfl | hgone
        · exact Or.inr ⟨rfl, rfl, rfl⟩
        · rw [hthere] at hgone
          cases hgone
      · exact Or.inl ⟨rfl, rfl⟩
    · rw [Function.update_idem]
      refine wp_run_ofExcept.mpr ?_
      rw [require_of rfl]
      exact ⟨hmissing, by rw [hw, published]⟩
    · exact fun hf hno => absurd hno (by simp [hf])
  · intro hf
    -- after the failed link only the error is left to choose
    apply wp_onDirectory_bind
    · exact ⟨.succeed, rfl, by simp [Directory.perform]⟩
    · exact fun c r e' _ _ hno => absurd hno (by simp [hf])

/-! ## Staging -/

theorem wp_confirm (s : Disk Pid) (version : ℕ) :
    Wp (Disk.exec faults pid) (confirm directory version).run s fun r u => match r with
      | .ok _ => Handles (Function.update s directory (s directory).sync) directory u ∧
          HighestLoaded faults (s directory).sync (.ok version)
      | .error _ => faults = false → (s directory).present = true →
          ∃ loaded, HighestLoaded faults (s directory).sync loaded ∧ loaded ≠ .ok version := by
  unfold confirm
  apply wp_onDirectory_bind
  · refine ⟨.succeed, rfl, ?_⟩
    simp only [Directory.perform]
    split
    · rfl
    · rfl
  intro c r d hc hd
  rcases Directory.perform_syncDirectory hd with ⟨rfl, rfl, hwhy⟩ | ⟨-, rfl, rfl⟩
  · refine wp_require_bind (fun h => nomatch h) fun _ hf hpresent => ?_
    rcases hwhy with rfl | habsent
    · simp [Choice.healthy, hf] at hc
    · rw [habsent] at hpresent
      cases hpresent
  refine wp_require_bind (fun _ => ?_) fun h => absurd rfl h
  refine wp_run_bind.mpr ((wp_loadHighestDirectory _).mono ?_)
  rintro r u ⟨hu, hr⟩
  rw [Function.update_self] at hr
  cases r with
  | error e => exact fun _ _ => ⟨.error e, hr, fun h => nomatch h⟩
  | ok committed =>
    have hother : committed ≠ version → faults = false → (s directory).present = true →
        ∃ loaded, HighestLoaded faults (s directory).sync loaded ∧ loaded ≠ .ok version := by
      intro hne _ _
      exact ⟨.ok committed, hr, fun h => hne (Except.ok.inj h)⟩
    refine wp_require_bind (fun hle => ?_) fun hlt => hother (by omega)
    refine wp_run_ofExcept.mpr ?_
    by_cases heq : committed = version
    · rw [require_of heq]
      exact ⟨hu, heq ▸ hr⟩
    · rw [require, if_neg heq]
      exact hother heq

/-- The directory `d'` is `d` with one more version file, all of it on the disk. -/
structure Staged (d d' : Directory Pid) (version : ℕ) (body : Bytes) : Prop where
  present : d'.present = true
  entries : d'.entries = (stageFilename version, d.fresh) :: d.entries
  durable : d'.durable = d'.entries
  files : d'.files = Function.update d.files d.fresh ⟨encodeStoreFrame version body, true, false⟩
  fresh : d'.fresh = d.fresh + 1

/-- The entries after a temporary name was created, linked again and removed. -/
theorem staged_published {temporaryName : Bytes} (hpresent : d.present = true)
    (htemporary : d.lookup temporaryName = none) (hstage : d.lookup (stageFilename version) = none)
    (hne : temporaryName ≠ stageFilename version) :
    Staged d (published (d.create pid temporaryName) pid d.fresh temporaryName
      (encodeStoreFrame version body) (stageFilename version)).sync version body := by
  have hcreate : (d.create pid temporaryName).entries = (temporaryName, d.fresh) :: d.entries := by
    rw [Directory.entries_create, Directory.applyChange, Directory.filter_ne_of_lookup htemporary]
  have hentries : (published (d.create pid temporaryName) pid d.fresh temporaryName
      (encodeStoreFrame version body) (stageFilename version)).entries =
      (stageFilename version, d.fresh) :: d.entries := by
    rw [published, Directory.entries_unlink, Directory.entries_change, Directory.entries_working,
      hcreate, Directory.applyChange, Directory.applyChange,
      List.filter_cons_of_pos (by simpa using Ne.symm hne),
      List.filter_cons_of_pos (by simpa using hne), Directory.filter_ne_of_lookup hstage,
      List.filter_cons_of_neg (by simp), Directory.filter_ne_of_lookup htemporary]
  constructor
  · simp only [published, Directory.present_sync, Directory.present_unlink,
      Directory.present_change, Directory.present_working, Directory.present_create, hpresent]
  · rw [Directory.entries_sync, hentries]
  · rw [Directory.entries_sync, Directory.sync]
  · simp only [published, Directory.files_sync, Directory.files_unlink, Directory.files_change,
      Directory.files_working, Directory.files_create, Function.update_idem]
  · simp only [published, Directory.fresh_sync, Directory.fresh_unlink, Directory.fresh_change,
      Directory.fresh_working, Directory.fresh_create]

/-- The root of the store is synced, and then the rest of the program runs. -/
theorem wp_syncRoot_bind {f : Bool → StoreM β}
    (hok : Wp (Disk.exec faults pid) (f true).run s.syncRoot post)
    (hfault : faults = true → Wp (Disk.exec faults pid) (f false).run s post) :
    Wp (Disk.exec faults pid) ((Prog.perform StoreOp.syncRoot : StoreM Bool) >>= f).run s post := by
  refine wp_run_bind.mpr ⟨⟨true, s.syncRoot, Or.inr ⟨rfl, rfl⟩⟩, ?_⟩
  rintro r t (⟨rfl, hf, rfl⟩ | ⟨rfl, rfl⟩)
  · exact hfault hf
  · exact hok

/-- The directory once it exists, on the disk as well. -/
def made (d : Directory Pid) : Directory Pid := { d with present := true, rooted := true }

omit [DecidableEq Pid] in
/-- What the predicates about the stored files do not depend on: handles and the
temporary file. -/
theorem Staged.of_handles (h : Staged d d' version body) (listing : Pid → Option Listing)
    (opened : Pid → Option Inode) (temporary : Pid → Option Temporary) :
    Staged d { d' with listing := listing, opened := opened, temporary := temporary }
      version body :=
  ⟨h.present, h.entries, h.durable, h.files, h.fresh⟩

/-- What staging a version can result in. -/
def StageOutcome (faults : Bool) (d : Directory Pid) (version : ℕ) (body : Bytes) :
    Except Error Unit → Directory Pid → Prop
  | .ok _, d' => (∃ highest, HighestLoaded faults (made d) (.ok highest) ∧ highest < version) ∧
      d.lookup (stageFilename version) = none ∧ Staged (made d) d' version body ∧
      HighestLoaded faults d' (.ok version)
  | .error _, _ => faults = false →
      (∃ loaded, HighestLoaded faults (made d) loaded ∧ ∀ highest, loaded = .ok highest →
        version ≤ highest) ∨
      d.lookup (stageFilename version) ≠ none ∨
      ∃ d' loaded, Staged (made d) d' version body ∧ HighestLoaded faults d' loaded ∧
        loaded ≠ .ok version

/-- The end of staging after the temporary file was linked. -/
theorem wp_confirm_staged {e : Directory Pid} (hs : s directory = e)
    (hstaged : Staged (made d) e.sync version body)
    (hloaded : ∃ highest, HighestLoaded faults (made d) (.ok highest) ∧ highest < version)
    (hfree : d.lookup (stageFilename version) = none) :
    Wp (Disk.exec faults pid) (do
      let confirmed ← ExceptT.lift (confirm directory version).run
      let _ ← onDirectory directory .closeTemporary
      Prog.ofExcept confirmed : StoreM Unit).run s
      fun r u => StageOutcome faults d version body r (u directory) := by
  refine wp_run_bind.mpr (wp_run_lift.mpr ((wp_confirm s version).mono ?_))
  intro confirmed u hu
  apply wp_onDirectory_bind
  · refine ⟨.succeed, rfl, ?_⟩
    simp only [Directory.perform]
    split
    · rfl
    · rfl
  intro c r e' _ he'
  refine wp_run_ofExcept.mpr ?_
  cases confirmed with
  | error err =>
    intro hf
    obtain ⟨loaded, hload, hne⟩ := hu hf (by rw [hs]; exact hstaged.present)
    exact Or.inr (Or.inr ⟨e.sync, loaded, hstaged, hs ▸ hload, hne⟩)
  | ok _ =>
    obtain ⟨hhandles, hhighest⟩ := hu
    obtain ⟨listing, opened, hat⟩ := hhandles.at
    rw [Function.update_self, hs] at hat
    rw [hs] at hhighest
    rw [Function.update_self]
    have hclosed : ∃ temporary, e' =
        { e.sync with listing := listing, opened := opened, temporary := temporary } := by
      rcases Directory.perform_closeTemporary he' with ⟨-, rfl, -⟩ | ⟨t, -, -, rfl⟩
      · exact ⟨e.sync.temporary, by rw [hat]; rfl⟩
      · exact ⟨_, by rw [hat]; rfl⟩
    obtain ⟨temporary, rfl⟩ := hclosed
    exact ⟨hloaded, hfree, hstaged.of_handles listing opened temporary, hhighest⟩

/-- The rule for staging: what holds after a fault, when the version is refused, when its name
is taken, and once the temporary file was linked. -/
theorem wp_stageDirectory_of {post : Except Error Unit → Disk Pid → Prop}
    (hfaulty : faults = true → ∀ u e, post (.error e) u)
    (hunread : ∀ u e, HighestLoaded faults (made (s directory)) (.error e) → post (.error e) u)
    (hrefused : ∀ (u : Disk Pid) highest listing opened,
      u directory = (made (s directory)).withHandles listing opened →
      HighestLoaded faults (made (s directory)) (.ok highest) → version ≤ highest →
      post (.error .rollback) u)
    (htaken : ∀ u e highest, HighestLoaded faults (made (s directory)) (.ok highest) →
      highest < version → (faults = false → (s directory).lookup (stageFilename version) ≠ none) →
      post (.error e) u) (hlinked : ∀ (u : Disk Pid) e highest, u directory = e →
      Staged (made (s directory)) e.sync version body →
      HighestLoaded faults (made (s directory)) (.ok highest) → highest < version →
      (s directory).lookup (stageFilename version) = none →
      Wp (Disk.exec faults pid) (do
        let confirmed ← ExceptT.lift (confirm directory version).run
        let _ ← onDirectory directory .closeTemporary
        Prog.ofExcept confirmed : StoreM Unit).run u post) :
    Wp (Disk.exec faults pid) (stageDirectory directory version body).run s post := by
  unfold stageDirectory
  refine wp_onDirectory_or_fault rfl ?_ ?_ fun hf => ?_
  · intro c r d hd
    rcases Directory.perform_makeDirectory hd with ⟨rfl, rfl, rfl⟩ | ⟨rfl, rfl⟩
    · exact Or.inr ⟨rfl, rfl, rfl⟩
    · exact Or.inl ⟨rfl, rfl⟩
  swap
  · exact wp_require_bind (fun h => nomatch h) fun _ => hfaulty hf _ _
  refine wp_require_bind (fun _ => ?_) fun h => absurd rfl h
  refine wp_syncRoot_bind ?_ fun hf => wp_require_bind (fun h => nomatch h) fun _ => hfaulty hf _ _
  refine wp_require_bind (fun _ => ?_) fun h => absurd rfl h
  obtain ⟨s₁, hs₁⟩ : ∃ s₁ : Disk Pid, s₁ = (Disk.syncRoot (Function.update s directory
    { s directory with present := true })) := ⟨_, rfl⟩
  have hmade : s₁ directory = made (s directory) := by
    rw [hs₁, Disk.syncRoot, Function.update_self]
    rfl
  rw [← hs₁]
  refine wp_run_bind.mpr ((wp_loadHighestDirectory s₁).mono ?_)
  rintro loaded t ⟨ht, hloaded⟩
  rw [hmade] at hloaded
  obtain ⟨listing, opened, hat⟩ := ht.at
  rw [hmade] at hat
  cases loaded with
  | error e => exact hunread t e hloaded
  | ok highest =>
  refine wp_require_bind (fun hlt => ?_) fun hge =>
    hrefused t highest listing opened hat hloaded (Nat.not_lt.mp hge)
  have hlookup : (t directory).lookup = (s directory).lookup := by
    rw [hat]
    rfl
  apply wp_onDirectory_bind
  · obtain ⟨n, hhead, hfree⟩ := (t directory).exists_free_name temporaryPrefix
    have hpresent : (t directory).present = true := by rw [hat]; rfl
    exact ⟨.name n, rfl, by simp [Directory.perform, hpresent, hhead, hfree]⟩
  intro c r d hc hd
  rcases Directory.perform_createTemporary hd with ⟨rfl, rfl, rfl⟩ | ⟨n, hp, hhead, hfree, rfl, rfl⟩
  · refine wp_run_bind.mpr (wp_run_ofExcept.mpr ?_)
    exact hfaulty (hc.resolve_left (by simp [Choice.healthy])) _ _
  have hne := temporary_ne_stageFilename hhead version
  refine wp_run_bind.mpr (wp_run_ofExcept.mpr ?_)
  rw [orThrow_some]
  refine wp_run_bind.mpr (wp_run_lift.mpr ?_)
  have hworking : (Function.update t directory ((t directory).create pid n)) directory =
      ((t directory).create pid n).working pid ⟨some n, (t directory).fresh, true⟩
        ⟨[], false, false⟩ := by
    have hself := Directory.working_self (Directory.create_temporary (t directory) pid n)
    rw [Directory.create_file] at hself
    rw [Function.update_self, hself]
  have hthere : ((t directory).create pid n).lookup n = some (t directory).fresh := by
    rw [Directory.lookup_create, if_pos rfl]
  refine (wp_linkTemporary hworking hthere hne).mono ?_
  intro linked u hu
  have htarget : ((t directory).create pid n).lookup (stageFilename version) =
      (s directory).lookup (stageFilename version) := by
    rw [Directory.lookup_create, if_neg (Ne.symm hne), hlookup]
  cases linked with
  | error e =>
    rw [htarget] at hu
    apply wp_onDirectory_bind
    · refine ⟨.succeed, rfl, ?_⟩
      simp only [Directory.perform]
      split
      · rfl
      · rfl
    intro c r d _ _
    apply wp_onDirectory_bind
    · refine ⟨.succeed, rfl, ?_⟩
      simp only [Directory.perform]
      split
      · rfl
      · rfl
    intro c r d _ _
    exact htaken _ _ highest hloaded hlt hu
  | ok _ =>
    obtain ⟨hnone, rfl⟩ := hu
    rw [htarget] at hnone
    refine hlinked _ _ highest (Function.update_self ..) ?_ hloaded hlt hnone
    have hstaged : Staged (t directory) (published ((t directory).create pid n) pid
        (t directory).fresh n (encodeStoreFrame version body) (stageFilename version)).sync
        version body :=
      staged_published hp hfree (by rw [hlookup, hnone]) hne
    exact ⟨hstaged.present, by rw [hstaged.entries, hat]; rfl, hstaged.durable,
      by rw [hstaged.files, hat]; rfl, by rw [hstaged.fresh, hat]; rfl⟩

theorem wp_stageDirectory (s : Disk Pid) (version : ℕ) (body : Bytes) :
    Wp (Disk.exec faults pid) (stageDirectory directory version body).run s
      fun r u => StageOutcome faults (s directory) version body r (u directory) := by
  refine wp_stageDirectory_of ?_ ?_ ?_ ?_ ?_
  · intro hf u e hno
    rw [hf] at hno
    cases hno
  · exact fun u e hloaded _ => Or.inl ⟨.error e, hloaded, fun h hh => nomatch hh⟩
  · intro u highest listing opened _ hloaded hle _
    refine Or.inl ⟨.ok highest, hloaded, fun h hh => ?_⟩
    rwa [← Except.ok.inj hh]
  · exact fun u e highest _ _ htaken hf => Or.inr (Or.inl (htaken hf))
  · intro u e highest hu hstaged hloaded hlt hfree
    exact wp_confirm_staged hu hstaged ⟨highest, hloaded, hlt⟩ hfree

/-! ## Activating -/

/-- The directory `d'` holds the files of `d`, and its marker for the version is the
version file or was there before. -/
structure Activated (d d' : Directory Pid) (version : ℕ) : Prop where
  present : d'.present = d.present
  files : d'.files = d.files
  fresh : d'.fresh = d.fresh
  entries : (∃ i, d.lookup (stageFilename version) = some i ∧
      d.lookup (activeFilename version) = none ∧
      d'.entries = (activeFilename version, i) :: d.entries) ∨
    (d.lookup (activeFilename version) ≠ none ∧ d'.entries = d.entries)

omit [DecidableEq Pid] in
theorem Activated.of_handles (h : Activated d d' version) (listing : Pid → Option Listing)
    (opened : Pid → Option Inode) : Activated d (d'.withHandles listing opened) version :=
  ⟨h.present, h.files, h.fresh, h.entries⟩

/-- What activating a version can result in. -/
def ActivateOutcome (faults : Bool) (d : Directory Pid) (version : ℕ) :
    Except Error Unit → Directory Pid → Prop
  | .ok _, d' => HighestLoaded faults d (.ok version) ∧ Activated d d' version ∧
      HighestLoaded faults d' (.ok version)
  | .error _, _ => faults = false →
      (∃ loaded, HighestLoaded faults d loaded ∧ loaded ≠ .ok version) ∨
      ¬ FramedAs d (stageFilename version) version ∨
      d.lookup (activeFilename version) ≠ none ∨ d.present = false ∨
      ∃ d' loaded, Activated d d' version ∧ HighestLoaded faults d' loaded ∧ loaded ≠ .ok version

/-- The end of activating, once the marker is there. -/
theorem wp_confirm_activated {e : Directory Pid} (hs : s directory = e)
    (hactivated : Activated d e.sync version) (hloaded : HighestLoaded faults d (.ok version)) :
    Wp (Disk.exec faults pid) (confirm directory version).run s
      fun r u => ActivateOutcome faults d version r (u directory) := by
  refine (wp_confirm s version).mono ?_
  intro r u hu
  rw [hs] at hu
  cases r with
  | error err =>
    intro hf
    by_cases hp : d.present = true
    · obtain ⟨loaded, hload, hne⟩ := hu hf (hactivated.present.trans hp)
      exact Or.inr (Or.inr (Or.inr (Or.inr ⟨e.sync, loaded, hactivated, hload, hne⟩)))
    · exact Or.inr (Or.inr (Or.inr (Or.inl (Bool.not_eq_true _ ▸ hp))))
  | ok _ =>
    obtain ⟨hhandles, hhighest⟩ := hu
    obtain ⟨listing, opened, hat⟩ := hhandles.at
    rw [Function.update_self] at hat
    rw [hat]
    exact ⟨hloaded, hactivated.of_handles listing opened, hhighest⟩

theorem wp_activateDirectory (s : Disk Pid) (version : ℕ) :
    Wp (Disk.exec faults pid) (activateDirectory directory version).run s
      fun r u => ActivateOutcome faults (s directory) version r (u directory) := by
  have hfaulty : faults = true → ∀ (u : Disk Pid) (e : Error),
      ActivateOutcome faults (s directory) version (.error e) (u directory) := by
    intro hf u e hno
    rw [hf] at hno
    cases hno
  unfold activateDirectory
  refine wp_run_bind.mpr ((wp_loadHighestDirectory s).mono ?_)
  rintro loaded t ⟨ht, hloaded⟩
  cases loaded with
  | error e => exact fun _ => Or.inl ⟨.error e, hloaded, fun h => nomatch h⟩
  | ok highest =>
  refine wp_require_bind (fun heq => ?_) fun hne _ => Or.inl ⟨.ok highest, hloaded, ?_⟩
  swap
  · exact fun h => hne (Except.ok.inj h).symm
  subst heq
  refine wp_run_bind.mpr ((wp_readVersion t _ _).mono ?_)
  rintro read u ⟨hu, hread⟩
  obtain ⟨listing, opened, hat⟩ := ht.at
  rw [hat] at hread
  cases read with
  | error e => exact fun hf => Or.inr (Or.inl (hread.2 hf))
  | ok _ =>
  have hsu := ht.trans hu
  obtain ⟨listing', opened', hat'⟩ := hsu.at
  have hlookup : (u directory).lookup = (s directory).lookup := by
    rw [hat']
    rfl
  have hfiles : (u directory).files = (s directory).files := by
    rw [hat']
    rfl
  refine wp_contextError_bind fun canceled hcanceled => ?_
  refine wp_require_bind (fun _ => ?_) fun hno => ?_
  swap
  · cases canceled with
    | true => exact hfaulty (hcanceled rfl) _ _
    | false => exact absurd rfl hno
  obtain ⟨frame, body, ⟨i, hi, hkind, -⟩, -⟩ := hread
  apply wp_onDirectory_bind
  · refine ⟨.succeed, rfl, ?_⟩
    simp only [Directory.perform]
    split
    · split
      · rfl
      · rfl
    · rfl
  intro c r d hc hd
  rcases Directory.perform_link hd with ⟨rfl, rfl, hwhy⟩ | ⟨j, hj, hfree, -, rfl, rfl⟩
  · rw [Function.update_eq_self]
    -- the marker could not be linked: it must be there already, with the same version
    have hmarker : faults = false → (s directory).lookup (activeFilename version) ≠ none := by
      intro hf
      rw [hlookup] at hwhy
      rcases hwhy with rfl | htaken | hdirectory
      · simp [Choice.healthy, hf] at hc
      · exact htaken
      · have := hdirectory i hi
        rw [hfiles] at this
        exact absurd (hkind.symm.trans this) (by simp)
    have hrefused : ∀ (v : Disk Pid) (e : Error),
        ActivateOutcome faults (s directory) version (.error e) (v directory) :=
      fun v e hf => Or.inr (Or.inr (Or.inl (hmarker hf)))
    apply wp_onDirectory_bind
    · exact ⟨.succeed, rfl, rfl⟩
    intro c r d _ hd
    obtain ⟨rfl, hr⟩ := Directory.perform_status hd
    rw [Function.update_eq_self]
    refine wp_require_bind (fun hfound => ?_) fun _ => hrefused _ _
    have hthere : (s directory).lookup (activeFilename version) ≠ none := by
      rw [hlookup] at hr
      rcases hr with ⟨-, rfl⟩ | ⟨-, hsome⟩ | ⟨rfl, -⟩
      · cases hfound
      · exact hsome
      · cases hfound
    refine wp_run_bind.mpr ((wp_readVersion u _ _).mono ?_)
    rintro marked v ⟨hv, -⟩
    cases marked with
    | error e => exact hrefused _ _
    | ok _ =>
      obtain ⟨listing'', opened'', hat''⟩ := (hsu.trans hv).at
      refine wp_confirm_activated hat'' ⟨rfl, rfl, rfl, Or.inr ⟨hthere, ?_⟩⟩ hloaded
      rw [Directory.entries_sync]
      rfl
  · refine wp_confirm_activated (Function.update_self ..) ⟨?_, ?_, ?_, ?_⟩ hloaded
    · rw [Directory.present_sync, Directory.present_change, hat']
      rfl
    · rw [Directory.files_sync, Directory.files_change, hfiles]
    · rw [Directory.fresh_sync, Directory.fresh_change, hat']
      rfl
    · rw [hlookup] at hj hfree
      refine Or.inl ⟨j, hj, hfree, ?_⟩
      rw [Directory.entries_sync, Directory.entries_change, Directory.applyChange, hat']
      exact congrArg _ (Directory.filter_ne_of_lookup hfree)

/-! ## The calls with their argument checks -/

/-- The argument checks, and then the rest of the call. -/
theorem wp_checkArguments_bind {valid : Bool}
    (hok : valid = true → Wp (Disk.exec faults pid) (f ()).run s post)
    (herror : ∀ e, (faults = false → valid = false) → post (.error e) s) :
    Wp (Disk.exec faults pid) (checkArguments valid >>= f).run s post := by
  refine wp_run_bind.mpr ?_
  unfold checkArguments
  refine wp_contextError_bind fun canceled hcanceled => ?_
  refine wp_require_bind (fun _ => ?_) fun hno => herror _ fun hf => ?_
  · refine wp_run_ofExcept.mpr ?_
    by_cases hvalid : valid = true
    · rw [require_of hvalid]
      exact hok hvalid
    · rw [require, if_neg hvalid]
      exact herror _ fun _ => Bool.not_eq_true _ ▸ hvalid
  · cases canceled with
    | true => simp [hf] at hcanceled
    | false => exact absurd rfl hno

theorem wp_loadHighest (s : Disk Pid) (key : Bytes) :
    Wp (Disk.exec faults pid) (loadHighest key).run s fun r t =>
      Handles s (stateDirectory key) t ∧ match r with
        | .ok highest => HighestLoaded faults (s (stateDirectory key)) (.ok highest)
        | .error e => validStateKey key = true → HighestLoaded faults (s (stateDirectory key)) (.error e) := by
  unfold loadHighest
  refine wp_checkArguments_bind (fun _ => ?_) fun e hinvalid => ⟨handles_refl s, ?_⟩
  · refine (wp_loadHighestDirectory s).mono ?_
    rintro r t ⟨ht, hr⟩
    refine ⟨ht, ?_⟩
    cases r with
    | ok highest => exact hr
    | error e => exact fun _ => hr
  · intro hvalid hf
    rw [hinvalid hf] at hvalid
    cases hvalid

theorem wp_stageAndAdvance (s : Disk Pid) (key : Bytes) (version : ℕ) (body : Bytes) :
    Wp (Disk.exec faults pid) (stageAndAdvance key version body).run s fun r t => match r with
      | .ok _ => version ≠ 0 ∧ IsBody body ∧ StageOutcome faults (s (stateDirectory key)) version body
          (.ok ()) (t (stateDirectory key))
      | .error e => validStateKey key = true → version ≠ 0 → IsBody body →
          StageOutcome faults (s (stateDirectory key)) version body (.error e)
            (t (stateDirectory key)) := by
  unfold stageAndAdvance
  refine wp_checkArguments_bind (fun hvalid => ?_) fun e hinvalid => ?_
  · simp only [Bool.and_eq_true, decide_eq_true_eq] at hvalid
    refine (wp_stageDirectory s version body).mono ?_
    intro r t hr
    cases r with
    | ok _ => exact ⟨hvalid.2.1, hvalid.2.2, hr⟩
    | error e => exact fun _ _ _ => hr
  · intro hkey hversion hbody hf
    have := hinvalid hf
    simp [hkey, hversion, hbody.1, hbody.2] at this

theorem wp_activate (s : Disk Pid) (key : Bytes) (version : ℕ) :
    Wp (Disk.exec faults pid) (activate key version).run s fun r t => match r with
      | .ok _ => ActivateOutcome faults (s (stateDirectory key)) version (.ok ())
          (t (stateDirectory key))
      | .error e => validStateKey key = true → version ≠ 0 →
          ActivateOutcome faults (s (stateDirectory key)) version (.error e)
            (t (stateDirectory key)) := by
  unfold activate
  refine wp_checkArguments_bind (fun hvalid => ?_) fun e hinvalid => ?_
  · refine (wp_activateDirectory s version).mono ?_
    intro r t hr
    cases r with
    | ok _ => exact hr
    | error e => exact fun _ _ => hr
  · intro hkey hversion hf
    have := hinvalid hf
    simp [hkey, hversion] at this

/-- What reading the active snapshot can result in. -/
def ActiveLoaded (faults : Bool) (d : Directory Pid) : Except Error (ℕ × Bytes) → Prop
  | .ok decoded => ∃ active frame, active ≠ 0 ∧ HighestLoaded faults d (.ok active) ∧
      HighestRead faults d activePrefix (.ok active) ∧ Readable d (activeFilename active) frame ∧
      decodeStoreFrame frame = some decoded
  | .error _ => faults = false →
      (∃ e, HighestLoaded faults d (.error e)) ∨ (∃ e, HighestRead faults d activePrefix (.error e)) ∨
      ∃ highest active, HighestLoaded faults d (.ok highest) ∧
        HighestRead faults d activePrefix (.ok active) ∧
        (active = 0 ∨ active ≠ highest ∨
          ∀ frame, Readable d (activeFilename active) frame → decodeStoreFrame frame = none)

theorem wp_loadActive (s : Disk Pid) (key : Bytes) :
    Wp (Disk.exec faults pid) (loadActive key).run s fun r t =>
      Handles s (stateDirectory key) t ∧ match r with
        | .ok decoded => ActiveLoaded faults (s (stateDirectory key)) (.ok decoded)
        | .error e => validStateKey key = true →
            ActiveLoaded faults (s (stateDirectory key)) (.error e) := by
  unfold loadActive
  refine wp_checkArguments_bind (fun _ => ?_) fun e hinvalid => ⟨handles_refl s, ?_⟩
  swap
  · intro hvalid hf
    rw [hinvalid hf] at hvalid
    cases hvalid
  refine wp_run_bind.mpr ((wp_loadHighestDirectory s).mono ?_)
  rintro loaded t ⟨ht, hloaded⟩
  cases loaded with
  | error e => exact ⟨ht, fun _ _ => Or.inl ⟨e, hloaded⟩⟩
  | ok highest =>
  refine wp_run_bind.mpr ((wp_loadHighestVersion t activePrefix).mono ?_)
  rintro read u ⟨hu, hread⟩
  obtain ⟨listing, opened, hat⟩ := ht.at
  rw [hat] at hread
  cases read with
  | error e => exact ⟨ht.trans hu, fun _ _ => Or.inr (Or.inl ⟨e, hread⟩)⟩
  | ok active =>
  refine wp_require_bind (fun hactive => ?_) fun hno => ⟨ht.trans hu, fun _ _ => ?_⟩
  swap
  · refine Or.inr (Or.inr ⟨highest, active, hloaded, hread, ?_⟩)
    by_cases hzero : active = 0
    · exact Or.inl hzero
    · exact Or.inr (Or.inl fun heq => hno ⟨hzero, heq⟩)
  obtain ⟨hne, rfl⟩ := hactive
  refine wp_run_bind.mpr (wp_run_mapError.mpr ((wp_readStoreFrame u _).mono ?_))
  rintro framed v ⟨hv, hframed⟩
  obtain ⟨listing', opened', hat'⟩ := (ht.trans hu).at
  rw [hat'] at hframed
  cases framed with
  | error e =>
    refine ⟨(ht.trans hu).trans hv, fun _ hf => ?_⟩
    refine Or.inr (Or.inr ⟨active, active, hloaded, hread, Or.inr (Or.inr ?_)⟩)
    intro frame hframe
    exact absurd hframe (hframed.2 hf frame)
  | ok frame =>
    refine wp_run_ofExcept.mpr ?_
    cases hdecoded : decodeStoreFrame frame with
    | none =>
      refine ⟨(ht.trans hu).trans hv, fun _ _ => ?_⟩
      refine Or.inr (Or.inr ⟨active, active, hloaded, hread, Or.inr (Or.inr ?_)⟩)
      intro frame' hframe'
      rw [Readable.unique hframe' hframed]
      exact hdecoded
    | some decoded =>
      exact ⟨(ht.trans hu).trans hv, active, frame, hne, hloaded, hread, hframed, hdecoded⟩

end Talenro.Analysis
