import Talenro.Analysis.Verification

/-!
# A long sequence of rotations

Every staged version leaves a version file and every activated one a marker, and no
call removes either.  `Resting` says what a directory holds after some rotations; the
listing that every call makes is bounded, so the directory takes
`maximumStateEntries / 2` rotations and no more.
-/

set_option autoImplicit false

namespace Talenro.Analysis

open Lib Lib.Prog TrustClient TrustClient.DirectoryStore

/-- A version and a payload as a client stores them. -/
structure Bundle where
  version : ℕ
  body : Bytes
  isVersion : IsVersion version
  isBody : IsBody body

/-- Each bundle is staged and then activated. -/
def rotate (key : Bytes) : List Bundle → StoreM Unit
  | [] => pure ()
  | bundle :: bundles => do
    stageAndAdvance key bundle.version bundle.body
    activate key bundle.version
    rotate key bundles

section Holding

variable {Pid : Type}

/-- The directory holds the files of these bundles, the latest first, and nothing else. -/
structure Holding (d : Directory Pid) (held : List (Bundle × Inode)) : Prop where
  present : d.entries ≠ [] → d.present = true
  entry : ∀ e ∈ d.entries, ∃ p ∈ held, e.2 = p.2 ∧
    (e.1 = stageFilename p.1.version ∨ e.1 = activeFilename p.1.version)
  staged : ∀ p ∈ held, (stageFilename p.1.version, p.2) ∈ d.entries
  nodup : (d.entries.map Prod.fst).Nodup
  files : ∀ p ∈ held,
    d.files p.2 = ⟨encodeStoreFrame p.1.version p.1.body, true, false⟩
  fresh : ∀ p ∈ held, p.2 < d.fresh
  ordered : held.Pairwise fun p q => q.1.version < p.1.version

/-- The version of the latest bundle held. -/
def latest : List (Bundle × Inode) → ℕ
  | [] => 0
  | p :: _ => p.1.version

theorem le_latest {held : List (Bundle × Inode)}
    (h : held.Pairwise fun p q => q.1.version < p.1.version) {p : Bundle × Inode} (hp : p ∈ held) :
    p.1.version ≤ latest held := by
  cases held with
  | nil => cases hp
  | cons q held =>
    rcases List.mem_cons.mp hp with rfl | hp
    · exact le_refl _
    · exact Nat.le_of_lt ((List.pairwise_cons.mp h).1 p hp)

theorem lookup_of_nodup {es : List (Bytes × Inode)} {name : Bytes} {i : Inode}
    (hnodup : (es.map Prod.fst).Nodup) (hmem : (name, i) ∈ es) : es.lookup name = some i := by
  induction es with
  | nil => cases hmem
  | cons e es ih =>
    rw [List.map_cons, List.nodup_cons] at hnodup
    rw [Directory.lookup_cons_eq]
    rcases List.mem_cons.mp hmem with rfl | hmem
    · rw [if_pos rfl]
    · have hne : name ≠ e.1 := by
        rintro rfl
        exact hnodup.1 (List.mem_map.mpr ⟨_, hmem, rfl⟩)
      rw [if_neg hne]
      exact ih hnodup.2 hmem

namespace Holding

variable {d : Directory Pid} {held : List (Bundle × Inode)} (h : Holding d held)

include h

theorem contents_eq : d.contents = d.entries.map fun e => ⟨e.1, false⟩ := by
  apply List.map_congr_left
  intro e he
  obtain ⟨p, hp, hinode, -⟩ := h.entry e he
  rw [hinode, h.files p hp]

variable {name : Bytes} {r : Except Error ℕ}

theorem mem_contents {i : Inode} (hmem : (name, i) ∈ d.entries) : ⟨name, false⟩ ∈ d.contents := by
  rw [h.contents_eq]
  exact List.mem_map_of_mem (f := fun e : Bytes × Inode => (⟨e.1, false⟩ : Entry)) hmem

theorem contents_cases {e : Entry} (he : e ∈ d.contents) :
    ∃ p ∈ held, e = ⟨stageFilename p.1.version, false⟩ ∨ e = ⟨activeFilename p.1.version, false⟩ := by
  rw [h.contents_eq] at he
  obtain ⟨⟨name, i⟩, hmem, rfl⟩ := List.mem_map.mp he
  obtain ⟨p, hp, -, hname⟩ := h.entry _ hmem
  refine ⟨p, hp, hname.imp ?_ ?_⟩
  · intro heq
    rw [← heq]
  · intro heq
    rw [← heq]

theorem length_contents : d.contents.length = d.entries.length := by
  rw [h.contents_eq, List.length_map]

/-- A listing shows every entry, so its length is at least theirs. -/
theorem length_le_of_listed {shown : List Entry} (hlisted : Listed d shown) :
    d.entries.length ≤ shown.length := by
  have hnodup : d.contents.Nodup := by
    rw [h.contents_eq]
    apply List.Nodup.of_map Entry.name
    rw [List.map_map]
    exact h.nodup
  rw [← h.length_contents]
  exact (List.subperm_of_subset hnodup hlisted.1).length_le

/-- With one file for each bundle under a head, the highest version found there is the
latest one. -/
theorem highestRead_eq {head : Bytes}
    (hown : ∀ p ∈ held, ⟨head ++ Calendar.padded 20 p.1.version ++ stateSuffix, false⟩ ∈ d.contents)
    (hother : ∀ e ∈ d.contents,
      (∃ p ∈ held, e = ⟨head ++ Calendar.padded 20 p.1.version ++ stateSuffix, false⟩) ∨
        entryVersion head e = .ok none) (hlength : d.entries.length ≤ maximumStateEntries)
    (hr : HighestRead false d head r) : r = .ok (latest held) := by
  cases r with
  | error e =>
    obtain ⟨-, hmany | ⟨shown, e', hlisted, hbad⟩⟩ := hr rfl
    · rw [h.length_contents] at hmany
      omega
    · have hread : ∀ x ∈ shown, ∃ found, entryVersion head x = .ok found := by
        intro x hx
        rcases hother x (hlisted.2.subset hx) with ⟨p, -, rfl⟩ | hnone
        · exact ⟨_, entryVersion_name head p.1.isVersion⟩
        · exact ⟨_, hnone⟩
      obtain ⟨highest, hok⟩ := highestVersion_ok head 0 hread
      rw [hok] at hbad
      cases hbad
  | ok highest =>
    congr 1
    rcases hr with ⟨habsent, rfl⟩ | ⟨-, shown, hlisted, -, hhighest⟩
    · cases held with
      | nil => rfl
      | cons p held =>
        have hpresent := h.present (List.ne_nil_of_mem (h.staged p (List.mem_cons_self ..)))
        rw [habsent] at hpresent
        cases hpresent
    · obtain ⟨-, hbound, hreached⟩ := highestVersion_eq_ok hhighest
      apply le_antisymm
      · rcases hreached with rfl | ⟨e, he, hversion⟩
        · exact Nat.zero_le _
        · rcases hother e (hlisted.2.subset he) with ⟨p, hp, rfl⟩ | hnone
          · rw [entryVersion_name head p.1.isVersion] at hversion
            rw [← Option.some.inj (Except.ok.inj hversion)]
            exact le_latest h.ordered hp
          · rw [hnone] at hversion
            cases hversion
      · cases held with
        | nil => exact Nat.zero_le _
        | cons p held =>
          have hmem := hlisted.1 _ (hown p (List.mem_cons_self ..))
          exact hbound _ hmem _ (entryVersion_name head p.1.isVersion)

theorem highestRead_stage (hlength : d.entries.length ≤ maximumStateEntries)
    (hr : HighestRead false d stagePrefix r) : r = .ok (latest held) := by
  refine h.highestRead_eq (fun p hp => h.mem_contents (h.staged p hp)) (fun e he => ?_) hlength hr
  obtain ⟨p, hp, rfl | rfl⟩ := h.contents_cases he
  · exact Or.inl ⟨p, hp, rfl⟩
  · exact Or.inr (entryVersion_stage_active _ _)

theorem highestRead_active (hmarked : ∀ p ∈ held, (activeFilename p.1.version, p.2) ∈ d.entries)
    (hlength : d.entries.length ≤ maximumStateEntries) (hr : HighestRead false d activePrefix r) :
    r = .ok (latest held) := by
  refine h.highestRead_eq (fun p hp => h.mem_contents (hmarked p hp)) (fun e he => ?_) hlength hr
  obtain ⟨p, hp, rfl | rfl⟩ := h.contents_cases he
  · exact Or.inr (entryVersion_active_stage _ _)
  · exact Or.inl ⟨p, hp, rfl⟩

variable {p : Bundle × Inode}

/-- The file under a name of a bundle reads as its frame. -/
theorem readable (hp : p ∈ held) (hmem : (name, p.2) ∈ d.entries) :
    Readable d name (encodeStoreFrame p.1.version p.1.body) := by
  refine ⟨p.2, lookup_of_nodup h.nodup hmem, ?_, ?_, ?_⟩
  · rw [h.files p hp]
  · rw [h.files p hp]
  · have hbody := p.1.isBody.2
    rw [encodeStoreFrame_length]
    omega

theorem framedAs (hp : p ∈ held) : FramedAs d (stageFilename p.1.version) p.1.version :=
  ⟨_, _, h.readable hp (h.staged p hp),
    decodeStoreFrame_encodeStoreFrame p.1.isVersion p.1.isBody⟩

theorem highestLoaded_eq (hlength : d.entries.length ≤ maximumStateEntries)
    {loaded : Except Error ℕ} (hl : HighestLoaded false d loaded) : loaded = .ok (latest held) := by
  cases loaded with
  | ok highest => exact h.highestRead_stage hlength hl.1
  | error e =>
    rcases hl rfl with hread | ⟨highest, hne, hread, hframed⟩
    · exact h.highestRead_stage hlength hread
    · obtain rfl := Except.ok.inj (h.highestRead_stage hlength hread)
      cases held with
      | nil => exact absurd rfl hne
      | cons p held => exact absurd (h.framedAs (List.mem_cons_self ..)) hframed

/-- A directory with too many entries has no highest version. -/
theorem not_highestLoaded (hlength : maximumStateEntries < d.entries.length) {highest : ℕ} :
    ¬ HighestLoaded false d (.ok highest) := by
  rintro ⟨⟨habsent, -⟩ | ⟨-, shown, hlisted, hshort, -⟩, -⟩
  · have hpresent := h.present (List.ne_nil_of_length_pos (by omega))
    rw [habsent] at hpresent
    cases hpresent
  · have := h.length_le_of_listed hlisted
    omega

theorem made : Holding (made d) held :=
  { h with present := fun _ => rfl }

theorem activate {d' : Directory Pid} (hp : p ∈ held)
    (hfree : d.lookup (activeFilename p.1.version) = none)
    (hactivated : Activated d d' p.1.version) :
    Holding d' held ∧ d'.entries = (activeFilename p.1.version, p.2) :: d.entries := by
  rcases hactivated.entries with ⟨i, hi, -, hentries⟩ | ⟨hthere, -⟩
  swap
  · exact absurd hfree hthere
  have hinode := lookup_of_nodup h.nodup (h.staged p hp)
  obtain rfl : i = p.2 := Option.some.inj (hi.symm.trans hinode)
  refine ⟨?_, hentries⟩
  constructor
  · intro _
    rw [hactivated.present]
    exact h.present (List.ne_nil_of_mem (h.staged p hp))
  · intro e he
    rw [hentries] at he
    rcases List.mem_cons.mp he with rfl | he
    · exact ⟨p, hp, rfl, Or.inr rfl⟩
    · exact h.entry e he
  · intro q hq
    rw [hentries]
    exact List.mem_cons_of_mem _ (h.staged q hq)
  · rw [hentries, List.map_cons, List.nodup_cons]
    refine ⟨fun hmem => ?_, h.nodup⟩
    obtain ⟨e, he, heq⟩ := List.mem_map.mp hmem
    exact bne_iff_ne.mp (List.lookup_eq_none_iff.mp hfree e he) heq.symm
  · intro q hq
    rw [hactivated.files]
    exact h.files q hq
  · intro q hq
    rw [hactivated.fresh]
    exact h.fresh q hq
  · exact h.ordered

variable {bundle : Bundle} (hnewer : ∀ p ∈ held, p.1.version < bundle.version)

include hnewer

/-- The names of a bundle that is not held are free. -/
theorem not_mem_entries
    (hname : name = stageFilename bundle.version ∨ name = activeFilename bundle.version) :
    ∀ e ∈ d.entries, e.1 ≠ name := by
  rintro e he rfl
  obtain ⟨p, hp, -, hp'⟩ := h.entry e he
  have hlt := hnewer p hp
  rcases hname with hname | hname
  · rcases hp' with hp' | hp'
    · have := stageFilename_injective p.1.isVersion bundle.isVersion (hp'.symm.trans hname)
      omega
    · exact stageFilename_ne_activeFilename _ _ (hname.symm.trans hp')
  · rcases hp' with hp' | hp'
    · exact stageFilename_ne_activeFilename _ _ (hp'.symm.trans hname)
    · have := name_injective p.1.isVersion bundle.isVersion (hp'.symm.trans hname)
      omega

theorem lookup_eq_none
    (hname : name = stageFilename bundle.version ∨ name = activeFilename bundle.version) :
    d.lookup name = none := by
  apply List.lookup_eq_none_iff.mpr
  intro e he
  exact bne_iff_ne.mpr (h.not_mem_entries hnewer hname e he).symm

theorem stage {d' : Directory Pid} (hstaged : Staged d d' bundle.version bundle.body) :
    Holding d' ((bundle, d.fresh) :: held) := by
  have hfile : ∀ p ∈ held, p.2 ≠ d.fresh := fun p hp => Nat.ne_of_lt (h.fresh p hp)
  constructor
  · exact fun _ => hstaged.present
  · intro e he
    rw [hstaged.entries] at he
    rcases List.mem_cons.mp he with rfl | he
    · exact ⟨_, List.mem_cons_self .., rfl, Or.inl rfl⟩
    · obtain ⟨p, hp, hp'⟩ := h.entry e he
      exact ⟨p, List.mem_cons_of_mem _ hp, hp'⟩
  · intro p hp
    rw [hstaged.entries]
    rcases List.mem_cons.mp hp with rfl | hp
    · exact List.mem_cons_self ..
    · exact List.mem_cons_of_mem _ (h.staged p hp)
  · rw [hstaged.entries, List.map_cons, List.nodup_cons]
    refine ⟨fun hmem => ?_, h.nodup⟩
    obtain ⟨e, he, heq⟩ := List.mem_map.mp hmem
    exact h.not_mem_entries hnewer (Or.inl rfl) e he heq
  · intro p hp
    rw [hstaged.files]
    rcases List.mem_cons.mp hp with rfl | hp
    · exact Function.update_self ..
    · rw [Function.update_of_ne (hfile p hp)]
      exact h.files p hp
  · intro p hp
    rw [hstaged.fresh]
    rcases List.mem_cons.mp hp with rfl | hp
    · exact Nat.lt_succ_self _
    · exact Nat.lt_succ_of_lt (h.fresh p hp)
  · exact List.pairwise_cons.mpr ⟨hnewer, h.ordered⟩

end Holding

end Holding

/-! ## One rotation -/

section Runs

variable {Pid : Type} [DecidableEq Pid] {pid : Pid} {key : Bytes} {held : List (Bundle × Inode)}
  {bundle : Bundle}

/-- The directory between two rotations: a version file and a marker for each bundle. -/
structure Resting (d : Directory Pid) (held : List (Bundle × Inode)) : Prop where
  holding : Holding d held
  marked : ∀ p ∈ held, (activeFilename p.1.version, p.2) ∈ d.entries
  length : d.entries.length = 2 * held.length

/-- The directory between staging and activating a bundle. -/
structure Pending (d : Directory Pid) (bundle : Bundle) (i : Inode) (held : List (Bundle × Inode)) :
    Prop where
  holding : Holding d ((bundle, i) :: held)
  marked : ∀ p ∈ held, (activeFilename p.1.version, p.2) ∈ d.entries
  length : d.entries.length = 2 * held.length + 1
  free : d.lookup (activeFilename bundle.version) = none

omit [DecidableEq Pid] in
theorem Resting.stage {d d' : Directory Pid} (h : Resting d held)
    (hnewer : ∀ p ∈ held, p.1.version < bundle.version)
    (hstaged : Staged (made d) d' bundle.version bundle.body) : Pending d' bundle d.fresh held := by
  have hentries : d'.entries = (stageFilename bundle.version, d.fresh) :: d.entries := hstaged.entries
  refine ⟨h.holding.made.stage hnewer hstaged, ?_, ?_, ?_⟩
  · intro p hp
    rw [hentries]
    exact List.mem_cons_of_mem _ (h.marked p hp)
  · rw [hentries, List.length_cons, h.length]
  · rw [Directory.lookup, hentries, Directory.lookup_cons_eq,
      if_neg (stageFilename_ne_activeFilename _ _).symm]
    exact h.holding.lookup_eq_none hnewer (Or.inr rfl)

theorem latest_lt (hnewer : ∀ p ∈ held, p.1.version < bundle.version) :
    latest held < bundle.version := by
  cases held with
  | nil => exact Nat.pos_of_ne_zero bundle.isVersion.1
  | cons p held => exact hnewer p (List.mem_cons_self ..)

variable {s : Disk Pid}

/-- Staging one more bundle succeeds while there is room, and the staging that fills the
directory over its bound reports a failure. -/
theorem wp_stage_resting (hkey : validStateKey key = true)
    (h : Resting (s (stateDirectory key)) held) (hnewer : ∀ p ∈ held, p.1.version < bundle.version)
    (hheld : 2 * held.length ≤ maximumStateEntries) :
    Wp (Disk.exec false pid) (stageAndAdvance key bundle.version bundle.body).run s fun r t =>
      (2 * held.length < maximumStateEntries ∧ r = .ok () ∧
        ∃ i, Pending (t (stateDirectory key)) bundle i held) ∨
      (2 * held.length = maximumStateEntries ∧ ∃ e, r = .error e) := by
  refine (wp_stageAndAdvance s key bundle.version bundle.body).mono ?_
  intro r t hr
  cases r with
  | ok _ =>
    obtain ⟨-, -, -, -, hstaged, hloaded⟩ := hr
    have hpending := h.stage hnewer hstaged
    refine Or.inl ⟨?_, rfl, _, hpending⟩
    by_contra hfull
    refine hpending.holding.not_highestLoaded ?_ hloaded
    rw [hpending.length]
    omega
  | error e =>
    rcases hr hkey bundle.isVersion.1 bundle.isBody rfl with
      ⟨loaded, hloaded, hrefused⟩ | htaken | ⟨d', loaded, hstaged, hloaded, hne⟩
    · have hlatest := hrefused _ (h.holding.made.highestLoaded_eq
        (le_of_eq_of_le h.length hheld) hloaded)
      exact absurd (latest_lt hnewer) (Nat.not_lt.mpr hlatest)
    · exact absurd (h.holding.lookup_eq_none hnewer (Or.inl rfl)) htaken
    · have hpending := h.stage hnewer hstaged
      refine Or.inr ⟨?_, e, rfl⟩
      by_contra hroom
      refine hne (hpending.holding.highestLoaded_eq ?_ hloaded)
      rw [hpending.length]
      omega

/-- The bundle just staged can be activated. -/
theorem wp_activate_pending {i : Inode} (hkey : validStateKey key = true)
    (h : Pending (s (stateDirectory key)) bundle i held)
    (hheld : 2 * held.length < maximumStateEntries) :
    Wp (Disk.exec false pid) (activate key bundle.version).run s fun r t =>
      r = .ok () ∧ Resting (t (stateDirectory key)) ((bundle, i) :: held) := by
  have hmem : (bundle, i) ∈ (bundle, i) :: held := List.mem_cons_self ..
  have hroom : (s (stateDirectory key)).entries.length ≤ maximumStateEntries := by
    rw [h.length]
    omega
  have heven : maximumStateEntries = 2 * 2048 := rfl
  refine (wp_activate s key bundle.version).mono ?_
  intro r t hr
  cases r with
  | ok _ =>
    obtain ⟨-, hactivated, -⟩ := hr
    obtain ⟨hholding, hentries⟩ := h.holding.activate hmem h.free hactivated
    refine ⟨rfl, hholding, ?_, ?_⟩
    · intro p hp
      rw [hentries]
      rcases List.mem_cons.mp hp with rfl | hp
      · exact List.mem_cons_self ..
      · exact List.mem_cons_of_mem _ (h.marked p hp)
    · rw [hentries, List.length_cons, h.length, List.length_cons]
      omega
  | error e =>
    rcases hr hkey bundle.isVersion.1 rfl with ⟨loaded, hloaded, hne⟩ | hframed | htaken | habsent |
      ⟨d', loaded, hactivated, hloaded, hne⟩
    · exact absurd (h.holding.highestLoaded_eq hroom hloaded) hne
    · exact absurd (h.holding.framedAs hmem) hframed
    · exact absurd h.free htaken
    · have hpresent := h.holding.present (List.ne_nil_of_length_pos (by rw [h.length]; omega))
      rw [habsent] at hpresent
      cases hpresent
    · obtain ⟨hholding, hentries⟩ := h.holding.activate hmem h.free hactivated
      refine absurd (hholding.highestLoaded_eq ?_ hloaded) hne
      rw [hentries, List.length_cons, h.length]
      omega

/-! ## Any number of rotations -/

/-- While the directory has room for all of them, a sequence of rotations succeeds and
leaves a resting directory; a longer one fails. -/
theorem wp_rotate (hkey : validStateKey key = true) (bundles : List Bundle)
    (hincreasing : bundles.Pairwise fun a b => a.version < b.version) {s : Disk Pid}
    (h : Resting (s (stateDirectory key)) held)
    (hnewer : ∀ p ∈ held, ∀ b ∈ bundles, p.1.version < b.version)
    (hheld : 2 * held.length ≤ maximumStateEntries) :
    Wp (Disk.exec false pid) (rotate key bundles).run s fun r t =>
      (2 * (held.length + bundles.length) ≤ maximumStateEntries ∧ r = .ok () ∧
        ∃ held', Resting (t (stateDirectory key)) held' ∧
          held'.map Prod.fst = bundles.reverse ++ held.map Prod.fst) ∨
      (maximumStateEntries < 2 * (held.length + bundles.length) ∧ ∃ e, r = .error e) := by
  induction bundles generalizing s held with
  | nil => exact Or.inl ⟨hheld, rfl, held, h, rfl⟩
  | cons bundle bundles ih =>
    obtain ⟨hbelow, hincreasing⟩ := List.pairwise_cons.mp hincreasing
    have hfirst : ∀ p ∈ held, p.1.version < bundle.version :=
      fun p hp => hnewer p hp bundle (List.mem_cons_self ..)
    rw [List.length_cons]
    refine wp_run_bind.mpr ((wp_stage_resting hkey h hfirst hheld).mono ?_)
    rintro r t (⟨hroom, rfl, i, hpending⟩ | ⟨hfull, e, rfl⟩)
    swap
    · exact Or.inr ⟨by omega, e, rfl⟩
    refine wp_run_bind.mpr ((wp_activate_pending hkey hpending hroom).mono ?_)
    rintro r u ⟨rfl, hresting⟩
    have heven : maximumStateEntries = 2 * 2048 := rfl
    refine (ih hincreasing hresting ?_ ?_).mono ?_
    · intro p hp b hb
      rcases List.mem_cons.mp hp with rfl | hp
      · exact hbelow b hb
      · exact hnewer p hp b (List.mem_cons_of_mem _ hb)
    · rw [List.length_cons]
      omega
    · rintro r v (⟨hlength, rfl, held', hheld', hmap⟩ | ⟨hlength, e, rfl⟩)
      · rw [List.length_cons] at hlength
        refine Or.inl ⟨by omega, rfl, held', hheld', ?_⟩
        rw [hmap, List.reverse_cons, List.append_assoc]
        rfl
      · rw [List.length_cons] at hlength
        exact Or.inr ⟨by omega, e, rfl⟩

/-- The active snapshot of a resting directory is the latest bundle. -/
theorem wp_loadActive_resting {p : Bundle × Inode} (hkey : validStateKey key = true)
    (h : Resting (s (stateDirectory key)) (p :: held))
    (hheld : 2 * (held.length + 1) ≤ maximumStateEntries) :
    Wp (Disk.exec false pid) (loadActive key).run s
      fun r _ => r = .ok (p.1.version, p.1.body) := by
  have hmem : p ∈ p :: held := List.mem_cons_self ..
  have hlength : (s (stateDirectory key)).entries.length ≤ maximumStateEntries := by
    rw [h.length, List.length_cons]
    exact hheld
  have hframe := h.holding.readable hmem (h.marked p hmem)
  have hdecoded := decodeStoreFrame_encodeStoreFrame p.1.isVersion p.1.isBody
  refine (wp_loadActive s key).mono ?_
  rintro r t ⟨-, hr⟩
  cases r with
  | ok decoded =>
    obtain ⟨active, frame, -, hloaded, -, hreadable, hd⟩ := hr
    obtain rfl := Except.ok.inj (h.holding.highestLoaded_eq hlength hloaded)
    obtain rfl := Readable.unique hframe hreadable
    rw [Option.some.inj (hd.symm.trans hdecoded)]
  | error e =>
    rcases hr hkey rfl with ⟨e', hloaded⟩ | ⟨e', hread⟩ | ⟨highest, active, hloaded, hread, hwhy⟩
    · cases h.holding.highestLoaded_eq hlength hloaded
    · cases h.holding.highestRead_active h.marked hlength hread
    · obtain rfl := Except.ok.inj (h.holding.highestLoaded_eq hlength hloaded)
      obtain rfl := Except.ok.inj (h.holding.highestRead_active h.marked hlength hread)
      rcases hwhy with hzero | hne | hbroken
      · exact absurd hzero p.1.isVersion.1
      · exact absurd rfl hne
      · rw [hbroken _ hframe] at hdecoded
        cases hdecoded

omit [DecidableEq Pid] in
theorem resting_empty {d : Directory Pid} (h : d.entries = []) : Resting d [] := by
  refine ⟨⟨?_, ?_, ?_, ?_, ?_, ?_, ?_⟩, ?_, ?_⟩
  all_goals simp [h]

/-- Every rotation of the sequence, and then the active snapshot. -/
def rotateAndLoad (key : Bytes) (bundles : List Bundle) : StoreM (ℕ × Bytes) := do
  rotate key bundles
  loadActive key

theorem wp_rotateAndLoad (hkey : validStateKey key = true) (bundles : List Bundle) (last : Bundle)
    (hincreasing : (bundles ++ [last]).Pairwise fun a b => a.version < b.version) {s : Disk Pid}
    (hempty : (s (stateDirectory key)).entries = []) :
    Wp (Disk.exec false pid) (rotateAndLoad key (bundles ++ [last])).run s fun r _ =>
      ((bundles ++ [last]).length ≤ 2048 ∧ r = .ok (last.version, last.body)) ∨
      (2048 < (bundles ++ [last]).length ∧ ∃ e, r = .error e) := by
  have heven : maximumStateEntries = 2 * 2048 := rfl
  have hrotate := @wp_rotate Pid _ pid key [] hkey (bundles ++ [last]) hincreasing s
    (resting_empty hempty) (fun p hp => absurd hp List.not_mem_nil) (Nat.zero_le _)
  refine wp_run_bind.mpr (hrotate.mono ?_)
  rintro r t (⟨hlength, rfl, held', hresting, hmap⟩ | ⟨hlength, e, rfl⟩)
  · rw [List.length_nil] at hlength
    rw [List.reverse_append, List.reverse_singleton] at hmap
    cases held' with
    | nil => cases hmap
    | cons p held' =>
      obtain ⟨hlast, hrest⟩ := List.cons.inj hmap
      have hcount : held'.length = bundles.length := by
        have := congrArg List.length hrest
        simpa using this
      refine (wp_loadActive_resting hkey hresting ?_).mono ?_
      · rw [List.length_append, List.length_singleton] at hlength
        omega
      · intro r u hr
        refine Or.inl ⟨by omega, ?_⟩
        rw [hr, hlast]
  · rw [List.length_nil] at hlength
    exact Or.inr ⟨by omega, e, rfl⟩

/-- A sequence of rotations on an empty directory succeeds, and the last bundle is then
the active snapshot, exactly when the listing bound leaves room for two entries each. -/
theorem rotations_succeed_iff (hkey : validStateKey key = true) (bundles : List Bundle)
    (last : Bundle)
    (hincreasing : (bundles ++ [last]).Pairwise fun a b => a.version < b.version) (s : Disk Pid)
    (hempty : (s (stateDirectory key)).entries = []) :
    (Wp (Disk.exec false pid) (rotateAndLoad key (bundles ++ [last])).run s
      fun r _ => r = .ok (last.version, last.body)) ↔ (bundles ++ [last]).length ≤ 2048 := by
  have hrun := @wp_rotateAndLoad Pid _ pid key hkey bundles last hincreasing s hempty
  constructor
  · intro h
    obtain ⟨r, t, hr⟩ := h.exists_runs
    rcases hrun.runs hr with ⟨hlength, -⟩ | ⟨-, e, rfl⟩
    · exact hlength
    · cases h.runs hr
  · intro hlength
    refine hrun.mono ?_
    rintro r t (⟨-, hr⟩ | ⟨hmany, -⟩)
    · exact hr
    · omega

end Runs

/-- The bundle with the version `n + 1` and a payload of two bytes. -/
def smallBundle (n : ℕ) (h : n < 2 ^ 32) : Bundle where
  version := n + 1
  body := [123, 125]
  isVersion := ⟨Nat.succ_ne_zero n, by omega⟩
  isBody := ⟨le_refl 2, by decide⟩

/-- A process, an empty disk and a key, for the statements about fixed runs. -/
def emptyDisk : Disk Unit := fun _ => Directory.absent

theorem rotations_succeed_iff_two :
    (Wp (Disk.exec false ()) (rotateAndLoad [97] ([smallBundle 0 (by decide)] ++
      [smallBundle 1 (by decide)])).run emptyDisk fun r _ => r = .ok (2, [123, 125])) ↔
      ([smallBundle 0 (by decide)] ++ [smallBundle 1 (by decide)]).length ≤ 2048 :=
  rotations_succeed_iff (by decide) [smallBundle 0 (by decide)] (smallBundle 1 (by decide))
    (by simp [smallBundle]) emptyDisk rfl

/-- The first `n` small bundles. -/
def smallBundles (n : ℕ) (h : n ≤ 2 ^ 32) : List Bundle :=
  (List.finRange n).map fun k : Fin n => smallBundle k (lt_of_lt_of_le k.isLt h)

theorem smallBundles_increasing (n : ℕ) (h : n < 2 ^ 32) :
    (smallBundles n (Nat.le_of_lt h) ++ [smallBundle n h]).Pairwise
      fun a b => a.version < b.version := by
  refine List.pairwise_append.mpr ⟨?_, List.pairwise_singleton _ _, ?_⟩
  · rw [smallBundles, List.pairwise_map]
    refine (List.pairwise_lt_finRange n).imp ?_
    intro a b hab
    exact Nat.succ_lt_succ hab
  · intro a ha b hb
    obtain ⟨k, -, rfl⟩ := List.mem_map.mp ha
    rw [List.mem_singleton.mp hb]
    exact Nat.succ_lt_succ k.isLt

theorem not_wp_smallBundles (n : ℕ) (h : n < 2 ^ 32) (hn : 2048 ≤ n) :
    ¬ Wp (Disk.exec false ()) (rotateAndLoad [97] (smallBundles n (Nat.le_of_lt h) ++
      [smallBundle n h])).run emptyDisk fun r _ => ∃ loaded, r = .ok loaded := by
  intro hok
  have hrun := @wp_rotateAndLoad Unit _ () [97] (by decide) (smallBundles n (Nat.le_of_lt h))
    (smallBundle n h) (smallBundles_increasing n h) emptyDisk rfl
  obtain ⟨r, t, hr⟩ := hok.exists_runs
  obtain ⟨loaded, rfl⟩ := hok.runs hr
  rcases hrun.runs hr with ⟨hlength, -⟩ | ⟨-, e, he⟩
  · rw [List.length_append, smallBundles, List.length_map, List.length_finRange,
      List.length_singleton] at hlength
    omega
  · cases he

/-- The rotation number 2049 fails: its version file is the entry number 4097. -/
theorem rotations_exhaust_directory :
    ¬ Wp (Disk.exec false ()) (rotateAndLoad [97] (smallBundles 2048 (by omega) ++
      [smallBundle 2048 (by omega)])).run emptyDisk fun r _ => ∃ loaded, r = .ok loaded :=
  not_wp_smallBundles 2048 (by omega) (le_refl _)

end Talenro.Analysis
