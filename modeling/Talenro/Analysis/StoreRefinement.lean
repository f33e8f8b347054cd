import Talenro.Analysis.Rotations

/-!
# The directory store and the memory store

Calls are made one after the other by one process, without faults, and no state directory
has more entries than a listing may show.  A directory then holds the files of the
versions that were staged for its key (`Holding`), the latest of which is the version
that the memory store keeps (`Mirrors`).  Each call keeps this and answers as the
memory store does, as long as different keys have different directories.
-/

set_option autoImplicit false

namespace Talenro.Analysis

open Lib Lib.Prog TrustClient TrustClient.DirectoryStore

/-! ## Calls and their answers -/

/-- A call of a store; a version is an unsigned word of 64 bits. -/
inductive StoreCall where
  | loadHighest (key : Bytes)
  | stageAndAdvance (key : Bytes) (version : UInt64) (body : Bytes)
  | activate (key : Bytes) (version : UInt64)

/-- What a call answers: a version, nothing, or an error. -/
abbrev StoreAnswer : Type := Except Error (Option ℕ)

namespace StoreCall

def key : StoreCall → Bytes
  | .loadHighest key => key
  | .stageAndAdvance key _ _ => key
  | .activate key _ => key

/-- The call as a program of the store. -/
def program {Op : Type} {Res : Op → Type} (store : Store Op Res) (call : StoreCall) :
    Prog Op Res StoreAnswer :=
  ExceptT.run <| match call with
    | .loadHighest key => do
      let highest ← store.loadHighest key
      pure (some highest)
    | .stageAndAdvance key version body => do
      store.stageAndAdvance key version.toNat body
      pure none
    | .activate key version => do
      store.activate key version.toNat
      pure none

/-- The arguments are admissible. -/
def valid : StoreCall → Bool
  | .loadHighest key => validStateKey key
  | .stageAndAdvance key version body => validStateKey key && decide (version.toNat ≠ 0 ∧
      2 ≤ body.length ∧ body.length ≤ maximumStoredPayloadBytes)
  | .activate key version => validStateKey key && decide (version.toNat ≠ 0)

/-- The answer of a store of which `highest` is the highest version for the key. -/
def answer (highest : ℕ) (call : StoreCall) : StoreAnswer :=
  if call.valid then
    match call with
    | .loadHighest _ => .ok (some highest)
    | .stageAndAdvance _ version _ =>
      if highest < version.toNat then .ok none else .error .rollback
    | .activate _ version => if version.toNat = highest then .ok none else .error .rollback
  else .error .invalidArgument

/-- The highest version for the key after the call. -/
def next (highest : ℕ) (call : StoreCall) : ℕ :=
  match call with
  | .stageAndAdvance _ version _ =>
    if call.valid ∧ highest < version.toNat then version.toNat else highest
  | _ => highest

section

variable {call : StoreCall} (highest : ℕ)

theorem validStateKey_of_valid (h : call.valid = true) : validStateKey call.key = true := by
  cases call with
  | loadHighest key => exact h
  | stageAndAdvance key version body | activate key version => exact (Bool.and_eq_true_iff.mp h).1

theorem answer_of_invalid (h : call.valid = false) :
    call.answer highest = .error .invalidArgument := by
  simp [answer, h]

theorem next_of_invalid (h : call.valid = false) : call.next highest = highest := by
  cases call with
  | stageAndAdvance key version body => simp [next, h]
  | _ => rfl

end

end StoreCall

/-- Calls made one after the other, with their answers; `within` holds after each of them. -/
inductive Serves {Op σ : Type} {Res : Op → Type} (exec : (o : Op) → σ → Res o → σ → Prop)
    (store : Store Op Res) (within : σ → Prop) : σ → List (StoreCall × StoreAnswer) → σ → Prop where
  | nil {s : σ} : Serves exec store within s [] s
  | cons {s t u : σ} {call : StoreCall} {answer : StoreAnswer}
      {rest : List (StoreCall × StoreAnswer)} (hcall : Runs exec (call.program store) s answer t)
      (hwithin : within t) (hrest : Serves exec store within t rest u) :
      Serves exec store within s ((call, answer) :: rest) u

/-- No directory has more entries than a listing may show. -/
def WithinBound {Pid : Type} (s : Disk Pid) : Prop :=
  ∀ name, (s name).entries.length ≤ maximumStateEntries

/-! ## The memory store -/

/-- The memory store with a live context. -/
def liveMemory : (o : MemoryOp) → Memory → MemoryRes o → Memory → Prop
  | .contextError, s, r, t => r = false ∧ t = s
  | o, s, r, t => Memory.exec o s r t

section Memory

variable {β : Type} {m : Memory} {valid : Bool} {post : Except Error β → Memory → Prop}

theorem wp_memoryArguments_bind {f : Unit → ExceptT Error (Prog MemoryOp MemoryRes) β}
    (hok : valid = true → Wp liveMemory (f ()).run m post)
    (herror : valid = false → post (.error .invalidArgument) m) :
    Wp liveMemory (MemoryStore.checkArguments valid >>= f).run m post := by
  refine wp_run_bind.mpr ?_
  unfold MemoryStore.checkArguments
  refine wp_run_perform_bind.mpr ⟨⟨false, m, rfl, rfl⟩, ?_⟩
  rintro r t ⟨rfl, rfl⟩
  rw [require_of rfl, wp_run_ofExcept_bind_ok]
  cases valid with
  | true => exact hok rfl
  | false => exact herror rfl

/-- A call of the memory store answers from the version it keeps for the key. -/
theorem wp_memoryStore (m : Memory) (call : StoreCall) :
    Wp liveMemory (call.program memoryStore) m fun a m' =>
      a = call.answer (m.staged call.key).version ∧
      (fun key => (m'.staged key).version) = Function.update (fun key => (m.staged key).version)
        call.key (call.next (m.staged call.key).version) := by
  cases call with
  | loadHighest key =>
    refine wp_run_bind.mpr (wp_memoryArguments_bind (fun hvalid => ?_) fun hvalid => ?_)
    · refine ⟨⟨_, m, rfl, rfl⟩, ?_⟩
      rintro r t ⟨rfl, rfl⟩
      exact ⟨by simp [StoreCall.answer, StoreCall.valid, StoreCall.key, hvalid],
        (Function.update_eq_self _ _).symm⟩
    · have hcall : (StoreCall.loadHighest key).valid = false := hvalid
      exact ⟨(StoreCall.answer_of_invalid _ hcall).symm, (Function.update_eq_self _ _).symm⟩
  | stageAndAdvance key version body =>
    refine wp_run_bind.mpr (wp_memoryArguments_bind (fun hvalid => ?_) fun hvalid => ?_)
    · have hcall : (StoreCall.stageAndAdvance key version body).valid = true := hvalid
      by_cases hstale : version.toNat ≤ (m.staged key).version
      · have hexec : ∀ r t, liveMemory (.stage key ⟨version.toNat, body⟩) m r t ↔
            r = false ∧ t = m := fun r t => by simp [liveMemory, Memory.exec, hstale]
        have hlt : ¬ (m.staged key).version < version.toNat := Nat.not_lt.mpr hstale
        refine ⟨⟨_, m, (hexec _ _).mpr ⟨rfl, rfl⟩⟩, fun r t hrt => ?_⟩
        obtain ⟨rfl, rfl⟩ := (hexec r t).mp hrt
        refine ⟨?_, ?_⟩
        · simp [StoreCall.answer, StoreCall.key, hcall, hlt]
        · simp [StoreCall.next, StoreCall.key, hlt]
      · have hlt : (m.staged key).version < version.toNat := Nat.not_le.mp hstale
        have hexec : ∀ r t, liveMemory (.stage key ⟨version.toNat, body⟩) m r t ↔ r = true ∧
            t = { m with staged := Function.update m.staged key ⟨version.toNat, body⟩ } :=
          fun r t => by simp [liveMemory, Memory.exec, hstale]
        refine ⟨⟨_, _, (hexec _ _).mpr ⟨rfl, rfl⟩⟩, fun r t hrt => ?_⟩
        obtain ⟨rfl, rfl⟩ := (hexec r t).mp hrt
        refine ⟨?_, ?_⟩
        · simp [StoreCall.answer, StoreCall.key, hcall, hlt]
        · funext other
          by_cases hother : other = key
          · subst hother
            simp [StoreCall.next, StoreCall.key, hcall, hlt]
          · simp [StoreCall.key, hother]
    · have hcall : (StoreCall.stageAndAdvance key version body).valid = false := hvalid
      refine ⟨(StoreCall.answer_of_invalid _ hcall).symm, ?_⟩
      rw [StoreCall.next_of_invalid _ hcall]
      exact (Function.update_eq_self _ _).symm
  | activate key version =>
    refine wp_run_bind.mpr (wp_memoryArguments_bind (fun hvalid => ?_) fun hvalid => ?_)
    · have hcall : (StoreCall.activate key version).valid = true := hvalid
      by_cases hlatest : version.toNat = (m.staged key).version
      · have hexec : ∀ r t, liveMemory (.activate key version.toNat) m r t ↔ r = true ∧
            t = { m with active := Function.update m.active key (m.staged key) } :=
          fun r t => by simp [liveMemory, Memory.exec, hlatest]
        refine ⟨⟨_, _, (hexec _ _).mpr ⟨rfl, rfl⟩⟩, fun r t hrt => ?_⟩
        obtain ⟨rfl, rfl⟩ := (hexec r t).mp hrt
        exact ⟨by simp [StoreCall.answer, StoreCall.key, hcall, hlatest],
          by simp [StoreCall.next]⟩
      · have hexec : ∀ r t, liveMemory (.activate key version.toNat) m r t ↔
            r = false ∧ t = m := fun r t => by simp [liveMemory, Memory.exec, hlatest]
        refine ⟨⟨_, m, (hexec _ _).mpr ⟨rfl, rfl⟩⟩, fun r t hrt => ?_⟩
        obtain ⟨rfl, rfl⟩ := (hexec r t).mp hrt
        exact ⟨by simp [StoreCall.answer, StoreCall.key, hcall, hlatest],
          by simp [StoreCall.next]⟩
    · have hcall : (StoreCall.activate key version).valid = false := hvalid
      exact ⟨(StoreCall.answer_of_invalid _ hcall).symm, (Function.update_eq_self _ _).symm⟩

end Memory

/-! ## A directory that holds versions -/

section Directory

variable {Pid : Type} {d : Directory Pid} {held : List (Bundle × Inode)}

/-- Only the files, the entries and the directory itself matter. -/
theorem Holding.of_eq {d' : Directory Pid} (h : Holding d held)
    (hpresent : d'.present = d.present) (hentries : d'.entries = d.entries)
    (hfiles : d'.files = d.files) (hfresh : d'.fresh = d.fresh) : Holding d' held where
  present := by
    rw [hpresent, hentries]
    exact h.present
  entry := by
    rw [hentries]
    exact h.entry
  staged := by
    rw [hentries]
    exact h.staged
  nodup := by
    rw [hentries]
    exact h.nodup
  files := by
    rw [hfiles]
    exact h.files
  fresh := by
    rw [hfresh]
    exact h.fresh
  ordered := h.ordered

theorem Holding.of_handles {s t : Disk Pid} {directory : Bytes} (h : Holding (s directory) held)
    (ht : Handles s directory t) :
    Holding (t directory) held ∧ (t directory).entries = (s directory).entries := by
  obtain ⟨listing, opened, hat⟩ := ht.at
  rw [hat]
  exact ⟨h.of_eq rfl rfl rfl rfl, rfl⟩

/-- A marker is a second name of the file of its version. -/
theorem Holding.marker (h : Holding d held) {bundle : Bundle}
    (hmarked : d.lookup (activeFilename bundle.version) ≠ none) :
    FramedAs d (activeFilename bundle.version) bundle.version := by
  obtain ⟨i, hi⟩ := Option.ne_none_iff_exists'.mp hmarked
  have hmem : (activeFilename bundle.version, i) ∈ d.entries := by
    obtain ⟨before, after, hentries, -⟩ := List.lookup_eq_some_iff.mp hi
    rw [hentries]
    exact List.mem_append_right before (List.mem_cons_self ..)
  obtain ⟨q, hq, hinode, hname⟩ := h.entry _ hmem
  have hversion : q.1.version = bundle.version := by
    rcases hname with hname | hname
    · exact absurd hname.symm (stageFilename_ne_activeFilename _ _)
    · exact name_injective q.1.isVersion bundle.isVersion hname.symm
  obtain rfl : i = q.2 := hinode
  rw [← hversion] at hmem ⊢
  exact ⟨_, _, h.readable hq hmem, decodeStoreFrame_encodeStoreFrame q.1.isVersion q.1.isBody⟩

end Directory

/-! ## The calls of the directory store without faults -/

section Disk

variable {Pid : Type} [DecidableEq Pid] {pid : Pid} {directory : Bytes} {s : Disk Pid}
  {held : List (Bundle × Inode)} {bundle : Bundle} {version : ℕ} {body : Bytes}

theorem wp_liveArguments_bind {β : Type} {valid : Bool} {f : Unit → StoreM β}
    {post : Except Error β → Disk Pid → Prop}
    (hok : valid = true → Wp (Disk.exec false pid) (f ()).run s post)
    (herror : valid = false → post (.error .invalidArgument) s) :
    Wp (Disk.exec false pid) (checkArguments valid >>= f).run s post := by
  refine wp_run_bind.mpr ?_
  unfold checkArguments
  refine wp_contextError_bind fun canceled hcanceled => ?_
  cases canceled with
  | true => cases hcanceled rfl
  | false =>
    rw [require_of rfl, wp_run_ofExcept_bind_ok]
    cases valid with
    | true => exact hok rfl
    | false => exact herror rfl

/-- The latest version that is held is read. -/
theorem wp_loadHighest_holding (h : Holding (s directory) held)
    (hroom : (s directory).entries.length ≤ maximumStateEntries) :
    Wp (Disk.exec false pid) (loadHighestDirectory directory).run s
      fun r t => r = .ok (latest held) ∧ Handles s directory t := by
  refine (wp_loadHighestDirectory s).mono ?_
  rintro r t ⟨ht, hr⟩
  exact ⟨h.highestLoaded_eq hroom hr, ht⟩

/-- The latest version is confirmed unless there are too many entries. -/
theorem wp_confirm_holding (h : Holding (s directory).sync held)
    (hpresent : (s directory).present = true) (hlatest : latest held = version) :
    Wp (Disk.exec false pid) (confirm directory version).run s fun r u =>
      Handles (Function.update s directory (s directory).sync) directory u ∧
      ((s directory).entries.length ≤ maximumStateEntries → r = .ok ()) := by
  unfold confirm
  refine wp_onDirectory_or_fault (?_ : _ = some (true, (s directory).sync)) ?_ ?_
    fun hno => absurd hno (by decide)
  · simp [Directory.perform, hpresent]
  · intro c r d hd
    rcases Directory.perform_syncDirectory hd with ⟨rfl, rfl, rfl | habsent⟩ | ⟨-, rfl, rfl⟩
    · exact Or.inr ⟨rfl, rfl, rfl⟩
    · rw [hpresent] at habsent
      cases habsent
    · exact Or.inl ⟨rfl, rfl⟩
  rw [require_of rfl, wp_run_ofExcept_bind_ok]
  refine wp_run_bind.mpr ((wp_loadHighestDirectory _).mono ?_)
  rintro r u ⟨hu, hr⟩
  rw [Function.update_self] at hr
  have hread : (s directory).entries.length ≤ maximumStateEntries → r = .ok version := by
    intro hroom
    rw [← hlatest]
    exact h.highestLoaded_eq (by rwa [Directory.entries_sync]) hr
  cases r with
  | error e => exact ⟨hu, fun hroom => nomatch hread hroom⟩
  | ok committed =>
    have hread : (s directory).entries.length ≤ maximumStateEntries → committed = version :=
      fun hroom => Except.ok.inj (hread hroom)
    refine wp_require_bind (fun _ => wp_run_ofExcept.mpr ⟨hu, fun hroom => ?_⟩)
      fun hnot => ⟨hu, fun hroom => absurd (le_of_eq (hread hroom)) hnot⟩
    exact require_of (hread hroom)

/-- The latest version is confirmed, and the directory holds what it held. -/
theorem wp_confirm_latest {p : Bundle × Inode} (h : Holding (s directory) (p :: held)) :
    Wp (Disk.exec false pid) (confirm directory p.1.version).run s fun r u =>
      Holding (u directory) (p :: held) ∧ (u directory).entries = (s directory).entries ∧
      ((u directory).entries.length ≤ maximumStateEntries → r = .ok ()) := by
  have hmem : p ∈ p :: held := List.mem_cons_self ..
  have hsync : Holding (s directory).sync (p :: held) :=
    h.of_eq (Directory.present_sync _) (Directory.entries_sync _) (Directory.files_sync _)
      (Directory.fresh_sync _)
  refine (wp_confirm_holding hsync (h.present (List.ne_nil_of_mem (h.staged p hmem))) rfl).mono ?_
  rintro r u ⟨hu, hr⟩
  obtain ⟨hholding, hentries⟩ := Holding.of_handles (by rwa [Function.update_self]) hu
  rw [Function.update_self, Directory.entries_sync] at hentries
  refine ⟨hholding, hentries, fun hroom => hr ?_⟩
  rw [← hentries]
  exact hroom

/-- A version that is not newer is refused. -/
theorem wp_stage_stale (h : Holding (s directory) held)
    (hroom : (s directory).entries.length ≤ maximumStateEntries) (hle : version ≤ latest held) :
    Wp (Disk.exec false pid) (stageDirectory directory version body).run s fun r u =>
      r = .error .rollback ∧ Holding (u directory) held ∧
      (u directory).entries = (s directory).entries := by
  have hloaded : ∀ loaded, HighestLoaded false (made (s directory)) loaded →
      loaded = .ok (latest held) := fun loaded => h.made.highestLoaded_eq hroom
  refine wp_stageDirectory_of (fun hno => absurd hno (by decide)) ?_ ?_ ?_ ?_
  · exact fun u e he => nomatch hloaded _ he
  · intro u highest listing opened hu _ _
    rw [hu]
    exact ⟨rfl, h.made.of_eq rfl rfl rfl rfl, rfl⟩
  · intro u e highest hhighest hlt _
    rw [Except.ok.inj (hloaded _ hhighest)] at hlt
    omega
  · intro u e highest _ _ hhighest hlt _
    rw [Except.ok.inj (hloaded _ hhighest)] at hlt
    omega

/-- A newer version is staged, and the call succeeds unless there are too many entries. -/
theorem wp_stage_newer (h : Holding (s directory) held)
    (hroom : (s directory).entries.length ≤ maximumStateEntries)
    (hnewer : ∀ p ∈ held, p.1.version < bundle.version) :
    Wp (Disk.exec false pid) (stageDirectory directory bundle.version bundle.body).run s fun r u =>
      Holding (u directory) ((bundle, (s directory).fresh) :: held) ∧
      (u directory).entries.length = (s directory).entries.length + 1 ∧
      ((u directory).entries.length ≤ maximumStateEntries → r = .ok ()) := by
  have hloaded : ∀ loaded, HighestLoaded false (made (s directory)) loaded →
      loaded = .ok (latest held) := fun loaded => h.made.highestLoaded_eq hroom
  have hlatest := latest_lt hnewer
  refine wp_stageDirectory_of (fun hno => absurd hno (by decide)) ?_ ?_ ?_ ?_
  · exact fun u e he => nomatch hloaded _ he
  · intro u highest listing opened _ hhighest hle
    rw [Except.ok.inj (hloaded _ hhighest)] at hle
    omega
  · intro u e highest _ _ htaken
    exact absurd (h.lookup_eq_none hnewer (Or.inl rfl)) (htaken rfl)
  · intro u e highest hu hstaged _ _ _
    have hholding : Holding (u directory) ((bundle, (s directory).fresh) :: held) := by
      rw [hu]
      exact (h.made.stage hnewer hstaged).of_eq (Directory.present_sync _).symm
        (Directory.entries_sync _).symm (Directory.files_sync _).symm (Directory.fresh_sync _).symm
    refine wp_run_bind.mpr (wp_run_lift.mpr ((wp_confirm_latest hholding).mono ?_))
    rintro confirmed v ⟨hv, hentries, hconfirmed⟩
    have hlength : (v directory).entries.length = (s directory).entries.length + 1 := by
      rw [hentries, hu, ← Directory.entries_sync, hstaged.entries]
      rfl
    apply wp_onDirectory_bind
    · refine ⟨.succeed, rfl, ?_⟩
      simp only [Directory.perform]
      split
      · rfl
      · rfl
    intro c r e' _ he'
    have hclosed : ∃ temporary, e' = { v directory with temporary := temporary } := by
      rcases Directory.perform_closeTemporary he' with ⟨-, rfl, -⟩ | ⟨t, -, -, rfl⟩
      · exact ⟨(v directory).temporary, rfl⟩
      · exact ⟨_, rfl⟩
    obtain ⟨temporary, rfl⟩ := hclosed
    refine wp_run_ofExcept.mpr ?_
    rw [Function.update_self]
    exact ⟨hv.of_eq rfl rfl rfl rfl, hlength, hconfirmed⟩

/-- A version that is not the latest is not activated. -/
theorem wp_activate_other (h : Holding (s directory) held)
    (hroom : (s directory).entries.length ≤ maximumStateEntries) (hne : version ≠ latest held) :
    Wp (Disk.exec false pid) (activateDirectory directory version).run s fun r u =>
      r = .error .rollback ∧ Holding (u directory) held ∧
      (u directory).entries = (s directory).entries := by
  unfold activateDirectory
  refine wp_run_bind.mpr ((wp_loadHighest_holding h hroom).mono ?_)
  rintro r t ⟨rfl, ht⟩
  exact wp_require_bind (fun heq => absurd heq hne) fun _ => ⟨rfl, h.of_handles ht⟩

/-- The latest version is activated, and the call succeeds unless there are too many entries. -/
theorem wp_activate_latest {p : Bundle × Inode} (h : Holding (s directory) (p :: held))
    (hroom : (s directory).entries.length ≤ maximumStateEntries) :
    Wp (Disk.exec false pid) (activateDirectory directory p.1.version).run s fun r u =>
      Holding (u directory) (p :: held) ∧
      (u directory).entries.length ≤ (s directory).entries.length + 1 ∧
      ((u directory).entries.length ≤ maximumStateEntries → r = .ok ()) := by
  have hmem : p ∈ p :: held := List.mem_cons_self ..
  unfold activateDirectory
  refine wp_run_bind.mpr ((wp_loadHighest_holding h hroom).mono ?_)
  rintro r t ⟨rfl, ht⟩
  refine wp_require_bind (fun _ => ?_) fun hno => absurd rfl hno
  obtain ⟨ht_holding, ht_entries⟩ := h.of_handles ht
  refine wp_run_bind.mpr ((wp_readVersion t _ _).mono ?_)
  rintro read u ⟨hu, hread⟩
  cases read with
  | error e => exact absurd (ht_holding.framedAs hmem) (hread.2 rfl)
  | ok _ =>
  obtain ⟨hu_holding, hu_entries⟩ := ht_holding.of_handles hu
  refine wp_contextError_bind fun canceled hcanceled => ?_
  refine wp_require_bind (fun _ => ?_) fun hno => ?_
  swap
  · cases canceled with
    | true => cases hcanceled rfl
    | false => exact absurd rfl hno
  apply wp_onDirectory_bind
  · refine ⟨.succeed, rfl, ?_⟩
    simp only [Directory.perform]
    split
    · split
      · rfl
      · rfl
    · rfl
  intro c r d hc hd
  rcases Directory.perform_link hd with ⟨rfl, rfl, hwhy⟩ | ⟨j, hj, hfree, -, rfl, rfl⟩
  · -- the marker is there already
    rw [Function.update_eq_self]
    have hmarked : (u directory).lookup (activeFilename p.1.version) ≠ none := by
      rcases hwhy with rfl | htaken | hdirectory
      · simp [Choice.healthy] at hc
      · exact htaken
      · have hkind := hdirectory p.2 (lookup_of_nodup hu_holding.nodup (hu_holding.staged p hmem))
        rw [hu_holding.files p hmem] at hkind
        cases hkind
    apply wp_onDirectory_bind
    · exact ⟨.succeed, rfl, rfl⟩
    intro c r d hc hd
    obtain ⟨rfl, hr⟩ := Directory.perform_status hd
    rw [Function.update_eq_self]
    refine wp_require_bind (fun _ => ?_) fun hno => ?_
    swap
    · rcases hr with ⟨rfl, -⟩ | ⟨hfound, -⟩ | ⟨-, hmissing⟩
      · simp [Choice.healthy] at hc
      · exact absurd hfound hno
      · exact absurd hmissing hmarked
    refine wp_run_bind.mpr ((wp_readVersion u _ _).mono ?_)
    rintro read v ⟨hv, hread⟩
    cases read with
    | error e => exact absurd (hu_holding.marker hmarked) (hread.2 rfl)
    | ok _ =>
      obtain ⟨hv_holding, hv_entries⟩ := hu_holding.of_handles hv
      refine (wp_confirm_latest hv_holding).mono ?_
      rintro r w ⟨hw, hw_entries, hr⟩
      refine ⟨hw, ?_, hr⟩
      rw [hw_entries, hv_entries, hu_entries, ht_entries]
      exact Nat.le_succ _
  · -- the marker is new
    have hactivated : Activated (u directory)
        ((u directory).change (.link (activeFilename p.1.version) j)) p.1.version := by
      refine ⟨Directory.present_change .., Directory.files_change .., Directory.fresh_change ..,
        Or.inl ⟨j, hj, hfree, ?_⟩⟩
      rw [Directory.entries_change, Directory.applyChange, Directory.filter_ne_of_lookup hfree]
    obtain ⟨hd_holding, hd_entries⟩ := hu_holding.activate hmem hfree hactivated
    refine (wp_confirm_latest (by rwa [Function.update_self])).mono ?_
    rintro r w ⟨hw, hw_entries, hr⟩
    refine ⟨hw, ?_, hr⟩
    rw [hw_entries, Function.update_self, hd_entries, List.length_cons, hu_entries, ht_entries]

/-! ## What a call leaves alone -/

/-- The operation is one on the directory, or on none. -/
def OnlyOn (directory : Bytes) : StoreOp → Prop
  | .directory name _ => name = directory
  | _ => True

omit [DecidableEq Pid] in
/-- The other directories are the same, perhaps with their names on the disk. -/
def Beside (directory : Bytes) (s t : Disk Pid) : Prop :=
  ∀ name, name ≠ directory → ∃ rooted, t name = { s name with rooted := rooted }

variable {highest : Bytes → ℕ} {t : Disk Pid}

omit [DecidableEq Pid] in
theorem Beside.trans {u : Disk Pid} (h : Beside directory s t) (h' : Beside directory t u) :
    Beside directory s u := by
  intro name hname
  obtain ⟨rooted, ht⟩ := h name hname
  obtain ⟨rooted', hu⟩ := h' name hname
  exact ⟨rooted', by rw [hu, ht]⟩

theorem beside_exec {o : StoreOp} (ho : OnlyOn directory o) {r : StoreRes o}
    (h : Disk.exec false pid o s r t) : Beside directory s t := by
  intro name hname
  cases o with
  | contextError =>
    obtain ⟨-, rfl⟩ := h
    exact ⟨_, rfl⟩
  | syncRoot =>
    obtain ⟨-, hno, -⟩ | ⟨-, rfl⟩ := h
    · cases hno
    · exact ⟨_, rfl⟩
  | directory other o =>
    obtain ⟨c, d, -, -, rfl⟩ := h
    obtain rfl : other = directory := ho
    exact ⟨(s name).rooted, Function.update_of_ne hname _ _⟩

theorem beside_runs {α : Type} {p : Prog StoreOp StoreRes α} (hp : Performs (OnlyOn directory) p)
    {a : α} (h : Runs (Disk.exec false pid) p s a t) : Beside directory s t := by
  induction p generalizing s with
  | ret b =>
    obtain ⟨-, rfl⟩ := h
    exact fun name _ => ⟨_, rfl⟩
  | call o next ih =>
    obtain ⟨r, u, hexec, hrest⟩ := h
    exact (beside_exec hp.1 hexec).trans (ih r (hp.2 r) hrest)

section OnlyOn

theorem performs_onDirectory_bind {β : Type} {o : DirectoryOp} {f : o.Answer → StoreM β}
    (hf : ∀ r, Performs (OnlyOn directory) (f r).run) :
    Performs (OnlyOn directory) (onDirectory directory o >>= f).run :=
  performs_run_perform_bind rfl hf

theorem performs_readStoreFrame {name : Bytes} :
    Performs (OnlyOn directory) (readStoreFrame directory name).run := by
  refine performs_onDirectory_bind fun found => performs_run_ofExcept_bind fun _ => ?_
  refine performs_onDirectory_bind fun information => ?_
  dsimp only
  split_ifs
  · exact performs_onDirectory_bind fun _ => performs_onDirectory_bind fun _ =>
      performs_run_ofExcept_bind fun _ => performs_run_ofExcept_bind fun _ => performs_run_pure
  · exact performs_onDirectory_bind fun _ => performs_run_throw

theorem performs_readVersion {name : Bytes} :
    Performs (OnlyOn directory) (readVersion directory name version).run :=
  performs_run_bind (performs_run_mapError performs_readStoreFrame) fun _ =>
    performs_run_ofExcept_bind fun _ => performs_run_ofExcept

theorem performs_loadHighestDirectory :
    Performs (OnlyOn directory) (loadHighestDirectory directory).run := by
  refine performs_run_bind (performs_run_bind ?_ fun entries => ?_) fun highest => ?_
  · refine performs_onDirectory_bind fun presence => ?_
    cases presence with
    | missing => exact performs_run_pure
    | failed => exact performs_run_throw
    | found =>
      exact performs_onDirectory_bind fun _ => performs_onDirectory_bind fun _ =>
        performs_run_ofExcept_bind fun _ => performs_run_ofExcept_bind fun _ => performs_run_pure
  · cases entries with
    | none => exact performs_run_pure
    | some entries => exact performs_run_ofExcept
  · split
    · exact performs_run_pure
    · exact performs_run_bind performs_readVersion fun _ => performs_run_pure

theorem performs_confirm : Performs (OnlyOn directory) (confirm directory version).run :=
  performs_onDirectory_bind fun _ => performs_run_ofExcept_bind fun _ =>
    performs_run_bind performs_loadHighestDirectory fun _ => performs_run_ofExcept_bind fun _ =>
      performs_run_ofExcept

theorem performs_writeAll (rounds : ℕ) (frame : Bytes) :
    Performs (OnlyOn directory) (writeAll directory rounds frame).run := by
  induction rounds generalizing frame with
  | zero =>
    cases frame with
    | nil => exact performs_run_pure
    | cons octet frame => exact performs_run_throw
  | succ rounds ih =>
    cases frame with
    | nil => exact performs_run_pure
    | cons octet frame =>
      refine performs_onDirectory_bind fun written => ?_
      cases written with
      | none => exact performs_run_throw
      | some n =>
        dsimp only
        split
        · exact performs_run_throw
        · exact ih _

theorem performs_stageDirectory :
    Performs (OnlyOn directory) (stageDirectory directory version body).run := by
  refine performs_onDirectory_bind fun _ => performs_run_ofExcept_bind fun _ => ?_
  refine performs_run_perform_bind trivial fun _ => performs_run_ofExcept_bind fun _ => ?_
  refine performs_run_bind performs_loadHighestDirectory fun _ =>
    performs_run_ofExcept_bind fun _ => ?_
  refine performs_onDirectory_bind fun _ => performs_run_ofExcept_bind fun temporaryName => ?_
  refine performs_run_bind (performs_run_lift ?_) fun linked => ?_
  · refine performs_onDirectory_bind fun _ => performs_run_ofExcept_bind fun _ => ?_
    refine performs_run_bind (performs_writeAll _ _) fun _ => ?_
    refine performs_onDirectory_bind fun _ => performs_run_ofExcept_bind fun _ => ?_
    refine performs_onDirectory_bind fun _ => performs_run_ofExcept_bind fun _ => ?_
    refine performs_run_perform_bind trivial fun _ => performs_run_ofExcept_bind fun _ => ?_
    refine performs_onDirectory_bind fun presence => ?_
    cases presence with
    | found => exact performs_run_throw
    | failed => exact performs_run_throw
    | missing =>
      refine performs_onDirectory_bind fun linked => ?_
      split
      · exact performs_onDirectory_bind fun _ => performs_run_ofExcept
      · exact performs_onDirectory_bind fun _ => performs_run_throw
  · cases linked with
    | ok _ =>
      exact performs_run_bind (performs_run_lift performs_confirm) fun _ =>
        performs_onDirectory_bind fun _ => performs_run_ofExcept
    | error e =>
      exact performs_onDirectory_bind fun _ => performs_onDirectory_bind fun _ =>
        performs_run_throw

theorem performs_activateDirectory :
    Performs (OnlyOn directory) (activateDirectory directory version).run := by
  refine performs_run_bind performs_loadHighestDirectory fun _ =>
    performs_run_ofExcept_bind fun _ => performs_run_bind performs_readVersion fun _ => ?_
  refine performs_run_perform_bind trivial fun _ => performs_run_ofExcept_bind fun _ => ?_
  refine performs_onDirectory_bind fun linked => ?_
  split
  · exact performs_confirm
  · exact performs_onDirectory_bind fun _ => performs_run_ofExcept_bind fun _ =>
      performs_run_bind performs_readVersion fun _ => performs_confirm

/-- A call works on the directory of its key only. -/
theorem performs_storeCall (call : StoreCall) :
    Performs (OnlyOn (stateDirectory call.key)) (call.program directoryStore) := by
  have harguments : ∀ valid : Bool, Performs (OnlyOn (stateDirectory call.key))
      (checkArguments valid).run := fun valid =>
    performs_run_perform_bind trivial fun _ => performs_run_ofExcept_bind fun _ =>
      performs_run_ofExcept
  cases call with
  | loadHighest key =>
    exact performs_run_bind (performs_run_bind (harguments _) fun _ =>
      performs_loadHighestDirectory) fun _ => performs_run_pure
  | stageAndAdvance key version body =>
    exact performs_run_bind (performs_run_bind (harguments _) fun _ =>
      performs_stageDirectory) fun _ => performs_run_pure
  | activate key version =>
    exact performs_run_bind (performs_run_bind (harguments _) fun _ =>
      performs_activateDirectory) fun _ => performs_run_pure

end OnlyOn

/-! ## Sequences of calls -/

/-- The answers of a store that keeps a highest version under the index of each key. -/
def answers (index : Bytes → Bytes) : (Bytes → ℕ) → List StoreCall → List StoreAnswer
  | _, [] => []
  | highest, c :: rest =>
    c.answer (highest (index c.key)) ::
      answers index (Function.update highest (index c.key) (c.next (highest (index c.key)))) rest

omit [DecidableEq Pid] in
/-- Every directory holds versions, the latest of which is the one given for its name. -/
def Mirrors (s : Disk Pid) (highest : Bytes → ℕ) : Prop :=
  ∀ name, ∃ held, Holding (s name) held ∧ latest held = highest name

variable {call : StoreCall}

/-- A call with invalid arguments does nothing. -/
theorem wp_directoryStore_invalid (hvalid : call.valid = false) :
    Wp (Disk.exec false pid) (call.program directoryStore) s fun a t =>
      a = .error .invalidArgument ∧ t = s := by
  cases call with
  | loadHighest key =>
    refine wp_run_bind.mpr (wp_liveArguments_bind (fun htrue => ?_) fun _ => ⟨rfl, rfl⟩)
    rw [show validStateKey key = false from hvalid] at htrue
    cases htrue
  | stageAndAdvance key version body | activate key version =>
    refine wp_run_bind.mpr (wp_liveArguments_bind (fun htrue => ?_) fun _ => ⟨rfl, rfl⟩)
    cases htrue.symm.trans hvalid

/-- A call answers from the latest version that the directory of its key holds, unless it leaves
too many entries there. -/
theorem wp_directoryStore_valid (hvalid : call.valid = true)
    (h : Holding (s (stateDirectory call.key)) held)
    (hroom : (s (stateDirectory call.key)).entries.length ≤ maximumStateEntries) :
    Wp (Disk.exec false pid) (call.program directoryStore) s fun a t =>
      (∃ held', Holding (t (stateDirectory call.key)) held' ∧
        latest held' = call.next (latest held)) ∧
      (t (stateDirectory call.key)).entries.length ≤
        (s (stateDirectory call.key)).entries.length + 1 ∧
      ((t (stateDirectory call.key)).entries.length ≤ maximumStateEntries →
        a = call.answer (latest held)) := by
  cases call with
  | loadHighest key =>
    refine wp_run_bind.mpr (wp_liveArguments_bind (fun _ => ?_) fun hno => ?_)
    swap
    · cases hno.symm.trans hvalid
    refine (wp_loadHighest_holding h hroom).mono ?_
    rintro r t ⟨rfl, ht⟩
    obtain ⟨hholding, hentries⟩ := h.of_handles ht
    refine wp_run_pure.mpr ⟨⟨held, hholding, rfl⟩, ?_, fun _ => ?_⟩
    · rw [StoreCall.key] at hentries ⊢
      rw [hentries]
      exact Nat.le_succ _
    · rw [StoreCall.answer, if_pos hvalid]
  | stageAndAdvance key version body =>
    refine wp_run_bind.mpr (wp_liveArguments_bind (fun harguments => ?_) fun hno => ?_)
    swap
    · cases hno.symm.trans hvalid
    simp only [Bool.and_eq_true, decide_eq_true_eq] at harguments
    by_cases hnewer : latest held < version.toNat
    · let bundle : Bundle :=
        ⟨version.toNat, body, ⟨harguments.2.1, version.toNat_lt⟩, harguments.2.2⟩
      have hnewer' : ∀ p ∈ held, p.1.version < bundle.version :=
        fun p hp => lt_of_le_of_lt (le_latest h.ordered hp) hnewer
      refine (wp_stage_newer h hroom hnewer').mono ?_
      rintro r t ⟨hholding, hlength, hr⟩
      have hpost : (∃ held', Holding (t (stateDirectory key)) held' ∧
          latest held' = (StoreCall.stageAndAdvance key version body).next (latest held)) ∧
          (t (stateDirectory key)).entries.length ≤
            (s (stateDirectory key)).entries.length + 1 := by
        refine ⟨⟨_, hholding, ?_⟩, le_of_eq hlength⟩
        rw [StoreCall.next, if_pos ⟨hvalid, hnewer⟩]
        rfl
      have hanswer : (StoreCall.stageAndAdvance key version body).answer (latest held) =
          .ok none := by
        rw [StoreCall.answer, if_pos hvalid]
        exact if_pos hnewer
      cases r with
      | ok _ => exact ⟨hpost.1, hpost.2, fun _ => hanswer.symm⟩
      | error e => exact ⟨hpost.1, hpost.2, fun hroom => nomatch hr hroom⟩
    · refine (wp_stage_stale h hroom (Nat.not_lt.mp hnewer)).mono ?_
      rintro r t ⟨rfl, hholding, hentries⟩
      refine ⟨⟨held, hholding, ?_⟩, ?_, fun _ => ?_⟩
      · rw [StoreCall.next, if_neg fun hboth => hnewer hboth.2]
      · rw [StoreCall.key] at hentries ⊢
        rw [hentries]
        exact Nat.le_succ _
      · rw [StoreCall.answer, if_pos hvalid]
        exact (if_neg hnewer).symm
  | activate key version =>
    refine wp_run_bind.mpr (wp_liveArguments_bind (fun harguments => ?_) fun hno => ?_)
    swap
    · cases hno.symm.trans hvalid
    simp only [Bool.and_eq_true, decide_eq_true_eq] at harguments
    by_cases hlatest : version.toNat = latest held
    · cases held with
      | nil => exact absurd hlatest harguments.2
      | cons p held =>
        have hversion : version.toNat = p.1.version := hlatest
        rw [hversion]
        refine (wp_activate_latest h hroom).mono ?_
        rintro r t ⟨hholding, hlength, hr⟩
        have hanswer : (StoreCall.activate key version).answer p.1.version = .ok none := by
          rw [StoreCall.answer, if_pos hvalid]
          exact if_pos hversion
        cases r with
        | ok _ => exact ⟨⟨_, hholding, rfl⟩, hlength, fun _ => hanswer.symm⟩
        | error e => exact ⟨⟨_, hholding, rfl⟩, hlength, fun hroom => nomatch hr hroom⟩
    · refine (wp_activate_other h hroom hlatest).mono ?_
      rintro r t ⟨rfl, hholding, hentries⟩
      refine ⟨⟨held, hholding, rfl⟩, ?_, fun _ => ?_⟩
      · rw [StoreCall.key] at hentries ⊢
        rw [hentries]
        exact Nat.le_succ _
      · rw [StoreCall.answer, if_pos hvalid]
        exact (if_neg hlatest).symm

/-- The answer to one call, and the versions that are held after it. -/
theorem directoryStore_step {a : StoreAnswer} (h : Mirrors s highest) (hs : WithinBound s)
    (hrun : Runs (Disk.exec false pid) (call.program directoryStore) s a t) (ht : WithinBound t) :
    a = call.answer (highest (stateDirectory call.key)) ∧
      Mirrors t (Function.update highest (stateDirectory call.key)
        (call.next (highest (stateDirectory call.key)))) := by
  cases hvalid : call.valid with
  | false =>
    obtain ⟨rfl, rfl⟩ := (wp_directoryStore_invalid hvalid).runs hrun
    refine ⟨(StoreCall.answer_of_invalid _ hvalid).symm, ?_⟩
    rwa [StoreCall.next_of_invalid _ hvalid, Function.update_eq_self]
  | true =>
    obtain ⟨held, hholding, hlatest⟩ := h (stateDirectory call.key)
    obtain ⟨hheld, -, hanswer⟩ := (wp_directoryStore_valid hvalid hholding (hs _)).runs hrun
    rw [hlatest] at hheld hanswer
    refine ⟨hanswer (ht _), fun name => ?_⟩
    by_cases hname : name = stateDirectory call.key
    · subst hname
      rwa [Function.update_self]
    · obtain ⟨rooted, hother⟩ := beside_runs (performs_storeCall call) hrun name hname
      obtain ⟨held', hholding', hlatest'⟩ := h name
      rw [Function.update_of_ne hname]
      refine ⟨held', ?_, hlatest'⟩
      rw [hother]
      exact hholding'.of_eq rfl rfl rfl rfl

/-- The answers to a sequence of calls of the directory store. -/
theorem directoryStore_answers {u : Disk Pid} {answered : List (StoreCall × StoreAnswer)}
    (h : Mirrors s highest) (hs : WithinBound s)
    (hserves : Serves (Disk.exec false pid) directoryStore WithinBound s answered u) :
    answered.map Prod.snd = answers stateDirectory highest (answered.map Prod.fst) ∧
      ∃ highest', Mirrors u highest' ∧ WithinBound u := by
  induction hserves generalizing highest with
  | nil => exact ⟨rfl, highest, h, hs⟩
  | cons hcall hwithin _ ih =>
    obtain ⟨rfl, hnext⟩ := directoryStore_step h hs hcall hwithin
    obtain ⟨hrest, hend⟩ := ih hnext hwithin
    exact ⟨congrArg _ hrest, hend⟩

/-- Every call returns. -/
theorem exists_directoryStore_runs (pid : Pid) (h : Mirrors s highest) (hs : WithinBound s)
    (call : StoreCall) : ∃ a t, Runs (Disk.exec false pid) (call.program directoryStore) s a t := by
  cases hvalid : call.valid with
  | false => exact (wp_directoryStore_invalid hvalid).exists_runs
  | true =>
    obtain ⟨held, hholding, -⟩ := h (stateDirectory call.key)
    exact (wp_directoryStore_valid hvalid hholding (hs _)).exists_runs

end Disk

/-- The answers to a sequence of calls of the memory store. -/
theorem memoryStore_answers {m m' : Memory} {within : Memory → Prop}
    {answered : List (StoreCall × StoreAnswer)}
    (hserves : Serves liveMemory memoryStore within m answered m') :
    answered.map Prod.snd =
      answers id (fun key => (m.staged key).version) (answered.map Prod.fst) := by
  induction hserves with
  | nil => rfl
  | cons hcall _ _ ih =>
    obtain ⟨rfl, hnext⟩ := (wp_memoryStore _ _).runs hcall
    rw [hnext] at ih
    exact congrArg _ ih

variable {highest : Bytes → ℕ} {Pid : Type} {s : Disk Pid}

/-- Where different keys have different indices, only the versions matter. -/
theorem answers_index {index : Bytes → Bytes} {keys : Set Bytes} (hindex : Set.InjOn index keys)
    {calls : List StoreCall} (hkeys : ∀ c ∈ calls, c.valid = true → c.key ∈ keys)
    {highest' : Bytes → ℕ} (h : ∀ key ∈ keys, highest (index key) = highest' key) :
    answers index highest calls = answers id highest' calls := by
  induction calls generalizing highest highest' with
  | nil => rfl
  | cons c calls ih =>
    have hrest : ∀ c ∈ calls, c.valid = true → c.key ∈ keys :=
      fun c hc => hkeys c (List.mem_cons_of_mem _ hc)
    cases hvalid : c.valid with
    | false =>
      simp only [answers, StoreCall.answer_of_invalid _ hvalid, StoreCall.next_of_invalid _ hvalid,
        Function.update_eq_self]
      exact congrArg _ (ih hrest h)
    | true =>
      have hkey := hkeys c (List.mem_cons_self ..) hvalid
      simp only [answers, id, h c.key hkey]
      refine congrArg _ (ih hrest fun key hmem => ?_)
      by_cases heq : key = c.key
      · subst heq
        rw [Function.update_self, Function.update_self]
      · rw [Function.update_of_ne (fun hsame => heq (hindex hmem hkey hsame)),
          Function.update_of_ne heq]
        exact h key hmem

/-- Calls and answers make up what was answered. -/
theorem eq_of_calls_answers {answered answered' : List (StoreCall × StoreAnswer)}
    (hcalls : answered.map Prod.fst = answered'.map Prod.fst)
    (hanswers : answered.map Prod.snd = answered'.map Prod.snd) : answered = answered' := by
  rw [← List.zip_unzip answered, ← List.zip_unzip answered']
  simp only [List.unzip_eq_map, hcalls, hanswers]

/-- A disk on which nothing is stored mirrors an empty memory. -/
theorem mirrors_empty (hempty : ∀ name, (s name).entries = []) : Mirrors s fun _ => 0 :=
  fun name => ⟨[], (resting_empty (hempty name)).holding, rfl⟩

theorem withinBound_empty (hempty : ∀ name, (s name).entries = []) :
    WithinBound s := fun name => by
  rw [hempty name]
  exact Nat.zero_le _

/-- Without faults and within the bound on entries, the directory store answers every sequence of
calls as the memory store does, if no two different keys of the calls share a directory; and
there is always an answer. -/
theorem directoryStore_as_memoryStore {Pid : Type} [DecidableEq Pid] {pid : Pid} {s u : Disk Pid}
    {m : Memory} {answered answered' : List (StoreCall × StoreAnswer)}
    (hempty : ∀ name, (s name).entries = [])
    (hdisk : Serves (Disk.exec false pid) directoryStore WithinBound s answered u)
    (hmemory : Serves liveMemory memoryStore (fun _ => True) Memory.empty answered' m)
    (hcalls : answered.map Prod.fst = answered'.map Prod.fst)
    (hkeys : Set.InjOn stateDirectory
      {key | validStateKey key = true ∧ ∃ p ∈ answered, p.1.key = key}) :
    answered = answered' ∧ ∀ call : StoreCall, ∃ a t,
      Runs (Disk.exec false pid) (call.program directoryStore) u a t := by
  obtain ⟨hanswers, highest, hmirrors, hbound⟩ :=
    directoryStore_answers (mirrors_empty hempty) (withinBound_empty hempty) hdisk
  refine ⟨?_, exists_directoryStore_runs pid hmirrors hbound⟩
  have hanswers' := memoryStore_answers hmemory
  rw [← hcalls] at hanswers'
  have hvalid : ∀ c ∈ answered.map Prod.fst, c.valid = true →
      c.key ∈ {key | validStateKey key = true ∧ ∃ p ∈ answered, p.1.key = key} := by
    intro c hc hc_valid
    obtain ⟨p, hp, rfl⟩ := List.mem_map.mp hc
    exact ⟨StoreCall.validStateKey_of_valid hc_valid, p, hp, rfl⟩
  have hsame : answers stateDirectory (fun _ => 0) (answered.map Prod.fst) =
      answers id (fun _ => 0) (answered.map Prod.fst) :=
    answers_index hkeys hvalid fun _ _ => rfl
  exact eq_of_calls_answers hcalls ((hanswers.trans hsame).trans hanswers'.symm)

/-! ## Keys that share a directory -/

/-- There are more keys than names of directories, so two keys have the same. -/
theorem exists_shared_directory : ∃ key key', validStateKey key = true ∧
    validStateKey key' = true ∧ key ≠ key' ∧ stateDirectory key = stateDirectory key' := by
  let keyOf : Fin (256 ^ 33) → Bytes := fun n => Hex.encode (bigEndian 33 n)
  have hvalid : ∀ n, validStateKey (keyOf n) = true := by
    intro n
    have hlength : (keyOf n).length = 66 := by
      rw [Hex.encode_length, bigEndian_length]
    have hutf8 : Utf8.valid (keyOf n) = true := by
      refine Utf8.valid_of_ascii fun c hc => ?_
      obtain ⟨digit, hdigit, rfl⟩ := Hex.exists_digit_of_mem hc
      exact (Hex.digit_ascii hdigit).1
    rw [validStateKey, hlength, hutf8]
    decide
  let digestOf : Fin (256 ^ 33) → Fin (256 ^ 32) := fun n =>
    ⟨ofBigEndian (Sha256.sha256 (stateKeyDomain ++ keyOf n)), by
      have hlt := ofBigEndian_lt (Sha256.sha256 (stateKeyDomain ++ keyOf n))
      rwa [Sha256.sha256_length] at hlt⟩
  have hcard : Fintype.card (Fin (256 ^ 32)) < Fintype.card (Fin (256 ^ 33)) := by
    rw [Fintype.card_fin, Fintype.card_fin]
    exact Nat.pow_lt_pow_right (by decide) (by decide)
  obtain ⟨n, n', hne, hsame⟩ := Fintype.exists_ne_map_eq_of_card_lt digestOf hcard
  refine ⟨keyOf n, keyOf n', hvalid n, hvalid n', fun hkey => hne (Fin.ext ?_), ?_⟩
  · have hdecode := congrArg Hex.decode hkey
    rw [Hex.decode_encode, Hex.decode_encode] at hdecode
    rw [← ofBigEndian_bigEndian n.isLt, ← ofBigEndian_bigEndian n'.isLt, Option.some.inj hdecode]
  · have hdigest : Sha256.sha256 (stateKeyDomain ++ keyOf n) =
        Sha256.sha256 (stateKeyDomain ++ keyOf n') := by
      have hnumber : ofBigEndian (Sha256.sha256 (stateKeyDomain ++ keyOf n)) =
          ofBigEndian (Sha256.sha256 (stateKeyDomain ++ keyOf n')) := congrArg Fin.val hsame
      rw [← bigEndian_ofBigEndian (Sha256.sha256 (stateKeyDomain ++ keyOf n)), hnumber,
        Sha256.sha256_length, ← Sha256.sha256_length (stateKeyDomain ++ keyOf n'),
        bigEndian_ofBigEndian]
    rw [stateDirectory, stateDirectory, hdigest]

/-- A call adds at most one entry. -/
theorem entries_le_of_runs [DecidableEq Pid] {pid : Pid} {t : Disk Pid} {call : StoreCall}
    {a : StoreAnswer} (h : Mirrors s highest) (hs : WithinBound s)
    (hrun : Runs (Disk.exec false pid) (call.program directoryStore) s a t) (name : Bytes) :
    (t name).entries.length ≤ (s name).entries.length + 1 := by
  cases hvalid : call.valid with
  | false =>
    obtain ⟨-, rfl⟩ := (wp_directoryStore_invalid hvalid).runs hrun
    exact Nat.le_succ _
  | true =>
    obtain ⟨held, hholding, -⟩ := h (stateDirectory call.key)
    obtain ⟨-, hlength, -⟩ := (wp_directoryStore_valid hvalid hholding (hs _)).runs hrun
    by_cases hname : name = stateDirectory call.key
    · rw [hname]
      exact hlength
    · obtain ⟨rooted, hother⟩ := beside_runs (performs_storeCall call) hrun name hname
      rw [hother]
      exact Nat.le_succ _

/-- A sequence of calls for which there is room can be made. -/
theorem exists_serves [DecidableEq Pid] (pid : Pid) (calls : List StoreCall) {n : ℕ}
    (h : Mirrors s highest) (hs : ∀ name, (s name).entries.length ≤ n)
    (hn : n + calls.length ≤ maximumStateEntries) :
    ∃ answered u, answered.map Prod.fst = calls ∧
      Serves (Disk.exec false pid) directoryStore WithinBound s answered u := by
  induction calls generalizing s highest n with
  | nil => exact ⟨[], s, rfl, .nil⟩
  | cons c calls ih =>
    rw [List.length_cons] at hn
    have hbound : WithinBound s := fun name => (hs name).trans (by omega)
    obtain ⟨a, t, hrun⟩ := exists_directoryStore_runs pid h hbound c
    have ht : ∀ name, (t name).entries.length ≤ n + 1 := fun name =>
      (entries_le_of_runs h hbound hrun name).trans (Nat.succ_le_succ (hs name))
    have hbound' : WithinBound t := fun name => (ht name).trans (by omega)
    obtain ⟨answered, u, hcalls, hserves⟩ :=
      ih (directoryStore_step h hbound hrun hbound').2 ht (by omega)
    exact ⟨(c, a) :: answered, u, by rw [List.map_cons, hcalls], .cons hrun hbound' hserves⟩

theorem exists_serves_memory (calls : List StoreCall) (m : Memory) :
    ∃ answered m', answered.map Prod.fst = calls ∧
      Serves liveMemory memoryStore (fun _ => True) m answered m' := by
  induction calls generalizing m with
  | nil => exact ⟨[], m, rfl, .nil⟩
  | cons c calls ih =>
    obtain ⟨a, t, hrun⟩ := (wp_memoryStore m c).exists_runs
    obtain ⟨answered, m', hcalls, hserves⟩ := ih t
    exact ⟨(c, a) :: answered, m', by rw [List.map_cons, hcalls], .cons hrun trivial hserves⟩

/-- Two keys, a version that is staged twice and activated, and a version that is not there. -/
def fewCalls : List StoreCall :=
  [.stageAndAdvance [97] 1 [123, 125], .stageAndAdvance [97] 1 [123, 125], .activate [97] 1,
    .loadHighest [98], .activate [98] 1, .loadHighest [97]]

theorem fewCalls_answered : ∃ answered answered' u m,
    Serves (Disk.exec false ()) directoryStore WithinBound emptyDisk answered u ∧
    Serves liveMemory memoryStore (fun _ => True) Memory.empty answered' m ∧
    answered.map Prod.fst = fewCalls ∧ (answered = answered' ∧
      ∀ call : StoreCall, ∃ a t,
        Runs (Disk.exec false ()) (call.program directoryStore) u a t) := by
  obtain ⟨answered, u, hcalls, hdisk⟩ := exists_serves () fewCalls
    (mirrors_empty fun _ => rfl : Mirrors emptyDisk _) (fun _ => Nat.zero_le 0) (by decide)
  obtain ⟨answered', m, hcalls', hmemory⟩ := exists_serves_memory fewCalls Memory.empty
  refine ⟨answered, answered', u, m, hdisk, hmemory, hcalls, ?_⟩
  refine directoryStore_as_memoryStore (fun _ => rfl) hdisk hmemory (hcalls.trans hcalls'.symm) ?_
  have hne : stateDirectory [97] ≠ stateDirectory [98] := by decide +kernel
  have hkeys : ∀ key, (∃ p ∈ answered, p.1.key = key) → key = [97] ∨ key = [98] := by
    rintro key ⟨p, hp, rfl⟩
    have hmem : p.1 ∈ fewCalls := hcalls ▸ List.mem_map_of_mem hp
    simp only [fewCalls, List.mem_cons, List.not_mem_nil, or_false] at hmem
    rcases hmem with h | h | h | h | h | h
    all_goals simp [h, StoreCall.key]
  rintro key ⟨-, hkey⟩ key' ⟨-, hkey'⟩ hsame
  rcases hkeys key hkey with rfl | rfl
  · rcases hkeys key' hkey' with rfl | rfl
    · rfl
    · exact absurd hsame hne
  · rcases hkeys key' hkey' with rfl | rfl
    · exact absurd hsame.symm hne
    · rfl

/-- Where two keys share a directory, what is staged for one is the highest version of the other. -/
theorem sharedDirectory_answered : ∃ key key' u m, key ≠ key' ∧
    Serves (Disk.exec false ()) directoryStore WithinBound emptyDisk
      [(.stageAndAdvance key 1 [123, 125], .ok none), (.loadHighest key', .ok (some 1))] u ∧
    Serves liveMemory memoryStore (fun _ => True) Memory.empty
      [(.stageAndAdvance key 1 [123, 125], .ok none), (.loadHighest key', .ok (some 0))] m := by
  obtain ⟨key, key', hvalid, hvalid', hne, hshared⟩ := exists_shared_directory
  let calls : List StoreCall := [.stageAndAdvance key 1 [123, 125], .loadHighest key']
  obtain ⟨answered, u, hcalls, hdisk⟩ := exists_serves () calls
    (mirrors_empty fun _ => rfl : Mirrors emptyDisk _) (fun _ => Nat.zero_le 0)
    (show 2 ≤ maximumStateEntries by decide)
  obtain ⟨answered', m, hcalls', hmemory⟩ := exists_serves_memory calls Memory.empty
  have hanswers := (directoryStore_answers (mirrors_empty fun _ => rfl)
    (withinBound_empty fun _ => rfl) hdisk).1
  have hanswers' := memoryStore_answers hmemory
  rw [hcalls] at hanswers
  rw [hcalls'] at hanswers'
  have hstage : (StoreCall.stageAndAdvance key 1 [123, 125]).valid = true := by
    simp [StoreCall.valid, hvalid, maximumStoredPayloadBytes]
  have hload : (StoreCall.loadHighest key').valid = true := hvalid'
  refine ⟨key, key', u, m, hne, ?_, ?_⟩
  · convert hdisk
    refine eq_of_calls_answers hcalls.symm (Eq.trans ?_ hanswers.symm)
    simp [calls, answers, StoreCall.answer, StoreCall.next, StoreCall.key, hstage, hload, hshared]
  · convert hmemory
    refine eq_of_calls_answers hcalls'.symm (Eq.trans ?_ hanswers'.symm)
    simp [calls, answers, StoreCall.answer, StoreCall.next, StoreCall.key, hstage, hload,
      Memory.empty, Function.update_of_ne hne.symm]

end Talenro.Analysis
