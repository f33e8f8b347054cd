import Talenro.Analysis.StoredFences
import Talenro.Model.Authority.StagingImport

/-!
# Imports side by side

What calls of `begin_staging_import` do to the tables, however they interleave.  A call is followed
from inside its transaction: it has inserted the rows of the objects it has come to and nothing else
(`Recorded`), every one of them under a key that was free and stays so for the others until the end.
When it commits, it publishes exactly one row for each object together with the application
(`Imported`), and since the index by capability is part of the same commit, no capability is applied
twice.
-/

set_option autoImplicit false

namespace Talenro.Authority.StagingImport

open Lib Prog RowStore

variable {S : Server} {session : Session} {params : Params} {C : Contract Key Row}
  {fails : Statement Key Row → Prop} {x y : Inside Key Row} {entries : List Entry}

/-! ## Statements from inside -/

variable {capability : CapabilityRow} {k : Key} {objects : List Value} {type type' : ObjectType}
  {c d : Overlay Key Row} {q : Statement Key Row} {u : Unit} {value : Value}

theorem runs_ask {a : q.Answer} :
    Runs (within C constraints fails) (ask q).run x (.ok a) y ↔
      within C constraints fails q x (some a) y := by
  unfold ask
  rw [runs_run_perform_bind_ok]
  constructor
  · rintro ⟨r, z, hq, hr, rfl⟩
    obtain rfl := orThrow_eq_ok.mp hr.symm
    exact hq
  · intro hq
    exact ⟨some a, y, hq, rfl, rfl⟩

theorem runs_ask_bind {β : Type} {f : q.Answer → Action β} {b : β} :
    Runs (within C constraints fails) (ask q >>= f).run x (.ok b) y ↔
      ∃ a z, within C constraints fails q x (some a) z ∧
        Runs (within C constraints fails) (f a).run z (.ok b) y := by
  rw [runs_run_bind_ok]
  constructor
  · rintro ⟨a, z, hq, hf⟩
    exact ⟨a, z, runs_ask.mp hq, hf⟩
  · rintro ⟨a, z, hq, hf⟩
    exact ⟨a, z, runs_ask.mpr hq, hf⟩

/-! ## Rows that are inserted -/

/-- The transaction has inserted these rows and nothing else; nobody else has or can. -/
structure Recorded (entries : List Entry) (x : Inside Key Row) : Prop where
  written : ∀ k row, x.written k = some row ↔ (⟨k, row⟩ : Entry) ∈ entries
  nodup : (entries.map Sigma.fst).Nodup
  fresh : ∀ entry ∈ entries, x.owned entry.1 ∧ x.committed entry.1 = none

theorem recorded_start (c : Overlay Key Row) : Recorded [] (Inside.start c) where
  written _ _ := ⟨fun h => (nomatch h), fun h => (nomatch h)⟩
  nodup := List.nodup_nil
  fresh _ h := nomatch h

/-- What the transaction sees: its own rows, and the committed ones besides. -/
theorem Recorded.view (h : Recorded entries x) (k : Key) :
    (∃ row, (⟨k, row⟩ : Entry) ∈ entries ∧ x.view k = some row ∧ x.committed k = none) ∨
      (∀ row, (⟨k, row⟩ : Entry) ∉ entries) ∧ x.view k = x.committed k := by
  cases hk : x.written k with
  | some row =>
    have hmem := (h.written k row).mp hk
    refine Or.inl ⟨row, hmem, ?_, (h.fresh _ hmem).2⟩
    rw [Inside.view, hk]
    rfl
  | none =>
    refine Or.inr ⟨fun row hrow => ?_, ?_⟩
    · rw [(h.written k row).mpr hrow] at hk
      cases hk
    · rw [Inside.view, hk]
      rfl

theorem Recorded.others (h : Recorded entries x) (hothers : Others C x y) : Recorded entries y where
  written k row := by
    rw [hothers.written]
    exact h.written k row
  nodup := h.nodup
  fresh entry hentry := by
    obtain ⟨howned, hnone⟩ := h.fresh entry hentry
    exact ⟨hothers.owned ▸ howned, (hothers.kept _ howned).trans hnone⟩

theorem Recorded.own (h : Recorded entries x) (k : Key) : Recorded entries (x.own k) where
  written := h.written
  nodup := h.nodup
  fresh entry hentry := ⟨Or.inr (h.fresh entry hentry).1, (h.fresh entry hentry).2⟩

/-- A row is inserted under a key that is free. -/
theorem Recorded.write (h : Recorded entries x) (hfree : x.view k = none) (row : Row k) :
    Recorded (entries ++ [⟨k, row⟩]) (x.write k row) := by
  have hkeys : ∀ row', (⟨k, row'⟩ : Entry) ∉ entries ∧ x.committed k = none := by
    intro row'
    rcases h.view k with ⟨found, -, hview, -⟩ | ⟨habsent, hview⟩
    · rw [hview] at hfree
      cases hfree
    · exact ⟨habsent row', hview ▸ hfree⟩
  refine ⟨fun j row' => ?_, ?_, fun entry hentry => ?_⟩
  · rw [List.mem_append, List.mem_singleton]
    by_cases hj : j = k
    · subst hj
      simp only [Inside.write, Overlay.set_self, Option.some.injEq, (hkeys row').1, false_or]
      constructor
      · rintro rfl
        rfl
      · rintro ⟨⟩
        rfl
    · have hne : (⟨j, row'⟩ : Entry) ≠ ⟨k, row⟩ := fun heq => hj (congrArg Sigma.fst heq)
      simp only [Inside.write, Overlay.set_of_ne _ _ hj, hne, or_false]
      exact h.written j row'
  · rw [List.map_append, List.map_singleton, List.nodup_append]
    refine ⟨h.nodup, List.nodup_singleton _, ?_⟩
    rintro j hj _ hk rfl
    obtain ⟨⟨_, row'⟩, hmem, rfl⟩ := List.mem_map.mp hj
    obtain rfl := List.mem_singleton.mp hk
    exact (hkeys row').1 hmem
  · rcases List.mem_append.mp hentry with hold | hnew
    · exact ⟨Or.inr (h.fresh entry hold).1, (h.fresh entry hold).2⟩
    · obtain rfl := List.mem_singleton.mp hnew
      exact ⟨Or.inl rfl, (hkeys row).2⟩

/-- A statement that only reads or locks. -/
theorem Recorded.read (h : Recorded entries x) {a : q.Answer}
    (hq : (∃ k, q = .get k) ∨ ∃ k, q = .lock k) (hstep : within C constraints fails q x (some a) y) :
    Recorded entries y := by
  obtain ⟨z, hothers, hanswers, -⟩ := hstep
  rcases hq with ⟨k, rfl⟩ | ⟨k, rfl⟩
  · obtain ⟨-, rfl⟩ := hanswers
    exact h.others hothers
  · rcases hanswers with ⟨-, ⟨-, rfl⟩ | ⟨-, rfl⟩⟩
    · exact h.others hothers
    · exact (h.others hothers).own k

theorem runs_insertEntry {entry : Option Entry}
    (h : Runs (within C constraints fails) (insertEntry entry).run x (.ok u) y)
    (hx : Recorded entries x) : ∃ e, entry = some e ∧ Recorded (entries ++ [e]) y := by
  obtain ⟨e, he, h⟩ := runs_run_ofExcept_bind_ok.mp h
  obtain ⟨free, z, ⟨w, hothers, hanswers, -⟩, hfree, rfl⟩ := runs_ask_bind.mp h
  have hfree' : free = true := require_eq_ok.mp hfree.symm
  refine ⟨e, orThrow_eq_ok.mp he, ?_⟩
  rcases hanswers with ⟨hfalse, -, -⟩ | ⟨-, hnone, rfl⟩
  · rw [hfalse] at hfree'
    cases hfree'
  · exact (hx.others hothers).write hnone e.2

/-- Every object of the list gets its row. -/
theorem runs_insertEach {entryOf : Value → Option Entry}
    (h : Runs (within C constraints fails) (insertEach entryOf objects).run x (.ok u) y)
    (hx : Recorded entries x) :
    (∀ value ∈ objects, (entryOf value).isSome = true) ∧
      Recorded (entries ++ objects.filterMap entryOf) y := by
  induction objects generalizing x entries with
  | nil =>
    obtain ⟨-, rfl⟩ := runs_run_pure_ok.mp h
    refine ⟨fun _ h => (nomatch h), ?_⟩
    rwa [List.filterMap_nil, List.append_nil]
  | cons value rest ih =>
    obtain ⟨_, z, hfirst, hrest⟩ := runs_run_bind_ok.mp h
    obtain ⟨e, he, hz⟩ := runs_insertEntry hfirst hx
    obtain ⟨hsome, hy⟩ := ih hrest hz
    refine ⟨List.forall_mem_cons.mpr ⟨he ▸ rfl, hsome⟩, ?_⟩
    rw [List.filterMap_cons_some he]
    rwa [List.append_assoc] at hy

theorem runs_checkPops (h : Runs (within C constraints fails) (checkPops objects).run x (.ok u) y)
    (hx : Recorded entries x) : Recorded entries y := by
  induction objects generalizing x with
  | nil =>
    obtain ⟨-, rfl⟩ := runs_run_pure_ok.mp h
    exact hx
  | cons value rest ih =>
    obtain ⟨popCode, -, h⟩ := runs_run_ofExcept_bind_ok.mp h
    obtain ⟨found, z, hget, h⟩ := runs_ask_bind.mp h
    obtain ⟨-, -, h⟩ := runs_run_ofExcept_bind_ok.mp h
    exact ih h (hx.read (Or.inl ⟨_, rfl⟩) hget)

theorem runs_lockAdvisory {numbers : List (Fin 3)}
    (h : Runs (within C constraints fails) (lockAdvisory numbers).run x (.ok u) y)
    (hx : Recorded entries x) : Recorded entries y := by
  induction numbers generalizing x with
  | nil =>
    obtain ⟨-, rfl⟩ := runs_run_pure_ok.mp h
    exact hx
  | cons number rest ih =>
    obtain ⟨found, z, hlock, h⟩ := runs_ask_bind.mp h
    exact ih h (hx.read (Or.inr ⟨_, rfl⟩) hlock)

/-- The capability that admits the import is locked. -/
theorem runs_admitCapability {admitted : Option CapabilityRow}
    (h : Runs (within C constraints fails) (admitCapability session params).run x (.ok admitted) y)
    (hx : Recorded [] x) : Recorded [] y ∧ ∀ capability, admitted = some capability →
      y.owned (.capability params.capabilityDigest) ∧
        y.committed (.capability params.capabilityDigest) = some capability := by
  obtain ⟨_, x₁, hadvisory, h⟩ := runs_run_bind_ok.mp h
  have hx₁ := runs_lockAdvisory hadvisory hx
  obtain ⟨found, x₂, hlock, h⟩ := runs_ask_bind.mp h
  have hx₂ := hx₁.read (Or.inr ⟨_, rfl⟩) hlock
  obtain ⟨z, hothers, ⟨hfound, howned⟩, -⟩ := hlock
  have hz := hx₁.others hothers
  cases found with
  | none =>
    obtain ⟨rfl, rfl⟩ := runs_run_pure_ok.mp h
    exact ⟨hx₂, fun _ h => (nomatch h)⟩
  | some capability =>
    rcases howned with ⟨hnone, -⟩ | ⟨-, rfl⟩
    · cases hnone
    have hcommitted : z.committed (.capability params.capabilityDigest) = some capability := by
      rcases hz.view (.capability params.capabilityDigest) with ⟨row, hrow, -⟩ | ⟨-, hview⟩
      · cases hrow
      · rw [← hview, ← hfound]
    have hkept := runs_within_owned h ⟨Or.inl rfl, hcommitted⟩
    obtain ⟨intent, x₃, hintent, h⟩ := runs_ask_bind.mp h
    obtain ⟨recovered, x₄, hrecovered, h⟩ := runs_ask_bind.mp h
    obtain ⟨revoked, x₅, hrevoked, h⟩ := runs_ask_bind.mp h
    obtain ⟨applied, x₆, happlied, h⟩ := runs_ask_bind.mp h
    have hx₆ := (((hx₂.read (Or.inl ⟨_, rfl⟩) hintent).read (Or.inl ⟨_, rfl⟩) hrecovered).read
      (Or.inl ⟨_, rfl⟩) hrevoked).read (Or.inl ⟨_, rfl⟩) happlied
    split at h
    · obtain ⟨rfl, rfl⟩ := runs_run_pure_ok.mp h
      exact ⟨hx₆, fun _ h => (nomatch h)⟩
    · obtain ⟨rfl, rfl⟩ := runs_run_pure_ok.mp h
      refine ⟨hx₆, fun found hfound => ?_⟩
      obtain rfl := Option.some.inj hfound
      exact hkept

/-- The rows that the objects add, those of the indexes included. -/
def importedEntries (S : Server) (session : Session) (objects : List Value) : List Entry :=
  (objects.filter (isOfType .pop)).filterMap (popEntry session) ++
    (objects.filter (isOfType .failureDomainDefinition)).filterMap (failureDomainEntry S session) ++
    (objects.filter (isOfType .failureDomainDefinition)).filterMap (failureDomainIndexEntry S) ++
    (objects.filter (isOfType .capacityProfileDefinition)).filterMap
      (capacityProfileEntry S session) ++
    (objects.filter (isOfType .nodeReconstructionSeed)).filterMap (nodeEntry S session)

/-- The row of an object. -/
def objectEntry (S : Server) (session : Session) (value : Value) : Option Entry :=
  if isOfType .pop value then popEntry session value
  else if isOfType .failureDomainDefinition value then failureDomainEntry S session value
  else if isOfType .capacityProfileDefinition value then capacityProfileEntry S session value
  else nodeEntry S session value

theorem ObjectType.text_injective (h : type.text = type'.text) : type = type' := by
  revert h
  cases type <;> cases type' <;> decide

/-- An object is of one type. -/
theorem isOfType_unique (h : isOfType type value = true) (h' : isOfType type' value = true) :
    type = type' := by
  have htext := (eq_of_beq h).symm.trans (eq_of_beq h')
  exact ObjectType.text_injective (Option.some.inj htext)

theorem isOfType_of_ne (h : isOfType type value = true) (hne : type ≠ type') :
    isOfType type' value = false :=
  Bool.eq_false_iff.mpr fun h' => hne (isOfType_unique h h')

/-- The row of an object of a given type. -/
def ObjectType.entry (S : Server) (session : Session) : ObjectType → Value → Option Entry
  | .pop => popEntry session
  | .failureDomainDefinition => failureDomainEntry S session
  | .capacityProfileDefinition => capacityProfileEntry S session
  | .nodeReconstructionSeed => nodeEntry S session

theorem objectEntry_eq (h : isOfType type value = true) :
    objectEntry S session value = type.entry S session value := by
  have hother : ∀ type', type' ≠ type → isOfType type' value = false :=
    fun type' hne => isOfType_of_ne h (Ne.symm hne)
  unfold objectEntry
  cases type with
  | pop => rw [if_pos h, ObjectType.entry]
  | failureDomainDefinition =>
    rw [hother .pop (by decide), if_neg Bool.false_ne_true, if_pos h, ObjectType.entry]
  | capacityProfileDefinition =>
    rw [hother .pop (by decide), hother .failureDomainDefinition (by decide),
      if_neg Bool.false_ne_true, if_neg Bool.false_ne_true, if_pos h, ObjectType.entry]
  | nodeReconstructionSeed =>
    rw [hother .pop (by decide), hother .failureDomainDefinition (by decide),
      hother .capacityProfileDefinition (by decide), if_neg Bool.false_ne_true,
      if_neg Bool.false_ne_true, if_neg Bool.false_ne_true, ObjectType.entry]

/-- The rows of the objects of one type. -/
theorem filterMap_objectEntry :
    (objects.filter (isOfType type)).filterMap (objectEntry S session) =
      (objects.filter (isOfType type)).filterMap (type.entry S session) :=
  List.filterMap_congr fun _ hvalue => objectEntry_eq (List.mem_filter.mp hvalue).2

/-- Every object is of one of the types. -/
def Typed (objects : List Value) : Prop := ∀ value ∈ objects, ∃ type, isOfType type value = true

/-- The objects, type by type. -/
theorem Typed.perm (h : Typed objects) :
    objects.Perm (objects.filter (isOfType .pop) ++
      objects.filter (isOfType .failureDomainDefinition) ++
      objects.filter (isOfType .capacityProfileDefinition) ++
      objects.filter (isOfType .nodeReconstructionSeed)) := by
  classical
  rw [List.perm_iff_count]
  intro value
  by_cases hvalue : value ∈ objects
  · obtain ⟨type, htype⟩ := h value hvalue
    have hcount : ∀ type', (objects.filter (isOfType type')).count value =
        if type' = type then objects.count value else 0 := by
      intro type'
      split
      · next heq =>
        subst heq
        exact List.count_filter htype
      · next hne =>
        refine List.count_eq_zero.mpr fun hmem => hne ?_
        exact isOfType_unique (List.mem_filter.mp hmem).2 htype
    simp only [List.count_append, hcount]
    cases type <;> simp
  · have hnone : ∀ type', value ∉ objects.filter (isOfType type') :=
      fun type' hmem => hvalue (List.mem_filter.mp hmem).1
    simp only [List.count_append, List.count_eq_zero.mpr hvalue,
      List.count_eq_zero.mpr (hnone _)]

/-- The rows of the objects, type by type. -/
theorem Typed.perm_entries (h : Typed objects) :
    (objects.filterMap (objectEntry S session)).Perm
      ((objects.filter (isOfType .pop)).filterMap (popEntry session) ++
        (objects.filter (isOfType .failureDomainDefinition)).filterMap
          (failureDomainEntry S session) ++
        (objects.filter (isOfType .capacityProfileDefinition)).filterMap
          (capacityProfileEntry S session) ++
        (objects.filter (isOfType .nodeReconstructionSeed)).filterMap (nodeEntry S session)) := by
  have hperm := h.perm.filterMap (objectEntry S session)
  simp only [List.filterMap_append, filterMap_objectEntry] at hperm
  exact hperm

/-- The rows are those of the objects and those of the index. -/
theorem Typed.mem_importedEntries (h : Typed objects) {entry : Entry} :
    entry ∈ importedEntries S session objects ↔
      entry ∈ objects.filterMap (objectEntry S session) ∨
        entry ∈ (objects.filter (isOfType .failureDomainDefinition)).filterMap
          (failureDomainIndexEntry S) := by
  rw [h.perm_entries.mem_iff, importedEntries]
  simp only [List.mem_append]
  tauto

/-- The rows of different objects have different keys when all rows have. -/
theorem Typed.nodup_entries (h : Typed objects)
    (hnodup : ((importedEntries S session objects).map Sigma.fst).Nodup) :
    ((objects.filterMap (objectEntry S session)).map Sigma.fst).Nodup := by
  refine (h.perm_entries.map Sigma.fst).nodup_iff.mpr (hnodup.sublist (List.Sublist.map _ ?_))
  refine List.Sublist.append (List.Sublist.append ?_ (List.Sublist.refl _)) (List.Sublist.refl _)
  exact List.sublist_append_left ..

theorem runs_importObjects (htyped : Typed objects)
    (h : Runs (within C constraints fails) (importObjects S session objects).run x (.ok u) y)
    (hx : Recorded entries x) :
    (∀ value ∈ objects, (objectEntry S session value).isSome = true) ∧
      Recorded (entries ++ importedEntries S session objects) y := by
  obtain ⟨_, x₁, hpops, h⟩ := runs_run_bind_ok.mp h
  obtain ⟨hpop, hx₁⟩ := runs_insertEach hpops hx
  obtain ⟨_, x₂, hdomains, h⟩ := runs_run_bind_ok.mp h
  obtain ⟨hdomain, hx₂⟩ := runs_insertEach hdomains hx₁
  obtain ⟨_, x₃, hindex, h⟩ := runs_run_bind_ok.mp h
  obtain ⟨-, hx₃⟩ := runs_insertEach hindex hx₂
  obtain ⟨_, x₄, hprofiles, h⟩ := runs_run_bind_ok.mp h
  obtain ⟨hprofile, hx₄⟩ := runs_insertEach hprofiles hx₃
  obtain ⟨_, x₅, hnodes, h⟩ := runs_run_bind_ok.mp h
  obtain ⟨hnode, hx₅⟩ := runs_insertEach hnodes hx₄
  constructor
  · intro value hvalue
    obtain ⟨type, htype⟩ := htyped value hvalue
    have hmem : value ∈ objects.filter (isOfType type) := List.mem_filter.mpr ⟨hvalue, htype⟩
    rw [objectEntry_eq htype]
    cases type with
    | pop => exact hpop value hmem
    | failureDomainDefinition => exact hdomain value hmem
    | capacityProfileDefinition => exact hprofile value hmem
    | nodeReconstructionSeed => exact hnode value hmem
  · have hy := runs_checkPops h hx₅
    simp only [List.append_assoc] at hy
    simpa only [importedEntries, List.append_assoc] using hy

/-- The row of the application and its rows in the indexes. -/
def applicationEntries (applyID : UUID) (application : ApplicationRow) : List Entry :=
  [⟨.application applyID, application⟩,
    ⟨.applicationOfCapability application.stagingImportCapabilityDigest, applyID⟩,
    ⟨.applicationOfBody application.bodyDigest, applyID⟩]

theorem runs_insertApplication {applyID : UUID} {application : ApplicationRow}
    (h : Runs (within C constraints fails) (insertApplication applyID application).run x (.ok u) y)
    (hx : Recorded entries x) : Recorded (entries ++ applicationEntries applyID application) y := by
  obtain ⟨_, x₁, hrow, h⟩ := runs_run_bind_ok.mp h
  obtain ⟨e₁, he₁, hx₁⟩ := runs_insertEntry hrow hx
  obtain rfl := Option.some.inj he₁
  obtain ⟨_, x₂, hcapability, h⟩ := runs_run_bind_ok.mp h
  obtain ⟨e₂, he₂, hx₂⟩ := runs_insertEntry hcapability hx₁
  obtain rfl := Option.some.inj he₂
  obtain ⟨e₃, he₃, hy⟩ := runs_insertEntry h hx₂
  obtain rfl := Option.some.inj he₃
  rw [List.append_assoc, List.append_assoc] at hy
  exact hy

theorem typed_of_objectsRefused (h : objectsRefused S objects = false) : Typed objects := by
  simp only [objectsRefused, Bool.or_eq_false_iff] at h
  intro value hvalue
  have hbody := List.any_eq_false.mp h.1.2 value hvalue
  by_contra htype
  have hnot : ∀ type, isOfType type value = false :=
    fun type => Bool.eq_false_iff.mpr fun h => htype ⟨type, h⟩
  simp [bodyRefused, hnot] at hbody

/-- What the call has done when it answers. -/
theorem runs_beginStagingImport {answer : Option (UUID × ApplicationRow)}
    (h : Runs (within C constraints fails) (beginStagingImport S session params).run x
      (.ok answer) y) (hx : Recorded [] x) :
    (answer = none ∧ Recorded [] y) ∨ ∃ capability, Typed params.objects ∧
      (∀ value ∈ params.objects, (objectEntry S session value).isSome = true) ∧
      y.committed (.capability params.capabilityDigest) = some capability ∧
      y.owned (.capability params.capabilityDigest) ∧
      answer = some (capability.singleUseApplyID, applicationRow S session capability params) ∧
      Recorded (importedEntries S session params.objects ++
        applicationEntries capability.singleUseApplyID
          (applicationRow S session capability params)) y := by
  obtain ⟨-, -, h⟩ := runs_run_ofExcept_bind_ok.mp h
  split at h
  · obtain ⟨rfl, rfl⟩ := runs_run_pure_ok.mp h
    exact Or.inl ⟨rfl, hx⟩
  obtain ⟨admitted, x₁, hadmit, h⟩ := runs_run_bind_ok.mp h
  obtain ⟨hx₁, hcapability⟩ := runs_admitCapability hadmit hx
  cases admitted with
  | none =>
    obtain ⟨rfl, rfl⟩ := runs_run_pure_ok.mp h
    exact Or.inl ⟨rfl, hx₁⟩
  | some capability =>
    dsimp only at h
    obtain ⟨howned, hcommitted⟩ := runs_within_owned h (hcapability capability rfl)
    split at h
    · obtain ⟨rfl, rfl⟩ := runs_run_pure_ok.mp h
      exact Or.inl ⟨rfl, hx₁⟩
    next hobjects =>
    obtain ⟨refused, -, h⟩ := runs_run_ofExcept_bind_ok.mp h
    split at h
    · obtain ⟨rfl, rfl⟩ := runs_run_pure_ok.mp h
      exact Or.inl ⟨rfl, hx₁⟩
    have htyped := typed_of_objectsRefused (Bool.eq_false_iff.mpr hobjects)
    obtain ⟨_, x₂, himport, h⟩ := runs_run_bind_ok.mp h
    obtain ⟨hsome, hx₂⟩ := runs_importObjects htyped himport hx₁
    obtain ⟨_, x₃, hinsert, h⟩ := runs_run_bind_ok.mp h
    have hx₃ := runs_insertApplication hinsert hx₂
    obtain ⟨rfl, rfl⟩ := runs_run_pure_ok.mp h
    exact Or.inr ⟨capability, htyped, hsome, hcommitted, howned, rfl, hx₃⟩

/-! ## What an import commits -/

/-- The import for a capability took effect between two states of the committed rows: each object
has got its row, the application has got its own, and nothing else in the tables has changed. -/
structure Imported (S : Server) (session : Session) (params : Params) (capability : CapabilityRow)
    (c d : Overlay Key Row) : Prop where
  stored : c (.capability params.capabilityDigest) = some capability
  unapplied : c (.application capability.singleUseApplyID) = none
  unused : c (.applicationOfCapability params.capabilityDigest) = none
  application : d (.application capability.singleUseApplyID) =
    some (applicationRow S session capability params)
  used : d (.applicationOfCapability params.capabilityDigest) = some capability.singleUseApplyID
  objects : ∀ value ∈ params.objects, ∃ entry, objectEntry S session value = some entry ∧
    entry.1.isTable = true ∧ c entry.1 = none ∧ d entry.1 = some entry.2
  distinct : ((params.objects.filterMap (objectEntry S session)).map Sigma.fst).Nodup
  others : ∀ k, k.isTable = true → k ≠ .application capability.singleUseApplyID →
    (∀ value ∈ params.objects, ∀ entry, objectEntry S session value = some entry → entry.1 ≠ k) →
    d k = c k
  kept : ∀ k row, c k = some row → d k = some row

/-- The application of a capability is found by the capability. -/
def Kept (c : Overlay Key Row) : Prop :=
  ∀ id application, c (.application id) = some application →
    c (.applicationOfCapability application.stagingImportCapabilityDigest) = some id

theorem Recorded.view_of_mem (h : Recorded entries x) {entry : Entry} (hentry : entry ∈ entries) :
    x.committed entry.1 = none ∧ x.view entry.1 = some entry.2 := by
  refine ⟨(h.fresh entry hentry).2, ?_⟩
  rw [Inside.view, (h.written entry.1 entry.2).mpr hentry]
  rfl

theorem Recorded.view_of_not_mem (h : Recorded entries x) (hk : ∀ entry ∈ entries, entry.1 ≠ k) :
    x.view k = x.committed k := by
  rcases h.view k with ⟨row, hrow, -⟩ | ⟨-, hview⟩
  · exact absurd rfl (hk _ hrow)
  · exact hview

theorem Recorded.view_of_committed (h : Recorded entries x) {row : Row k}
    (hrow : x.committed k = some row) : x.view k = some row := by
  rcases h.view k with ⟨_, -, -, hnone⟩ | ⟨-, hview⟩
  · rw [hnone] at hrow
    cases hrow
  · rw [hview, hrow]

theorem popEntry_key {entry : Entry} (h : popEntry session value = some entry) :
    ∃ popCode row, entry = ⟨.pop popCode, row⟩ := by
  unfold popEntry at h
  iterate 3 obtain ⟨_, -, h⟩ := Option.bind_eq_some_iff.mp h
  exact ⟨_, _, (Option.some.inj h).symm⟩

theorem failureDomainEntry_key {entry : Entry}
    (h : failureDomainEntry S session value = some entry) :
    ∃ id row, entry = ⟨.failureDomain id, row⟩ := by
  unfold failureDomainEntry at h
  iterate 3 obtain ⟨_, -, h⟩ := Option.bind_eq_some_iff.mp h
  exact ⟨_, _, (Option.some.inj h).symm⟩

theorem failureDomainIndexEntry_key {entry : Entry}
    (h : failureDomainIndexEntry S value = some entry) :
    ∃ domainType stableID row, entry = ⟨.failureDomainOf domainType stableID, row⟩ := by
  unfold failureDomainIndexEntry at h
  iterate 3 obtain ⟨_, -, h⟩ := Option.bind_eq_some_iff.mp h
  exact ⟨_, _, _, (Option.some.inj h).symm⟩

theorem capacityProfileEntry_key {entry : Entry}
    (h : capacityProfileEntry S session value = some entry) :
    ∃ profileID version row, entry = ⟨.capacityProfile profileID version, row⟩ := by
  unfold capacityProfileEntry at h
  dsimp only at h
  iterate 14 obtain ⟨_, -, h⟩ := Option.bind_eq_some_iff.mp h
  exact ⟨_, _, _, (Option.some.inj h).symm⟩

theorem nodeEntry_key {entry : Entry} (h : nodeEntry S session value = some entry) :
    ∃ id popCode, entry = ⟨.node id, importedNode session popCode⟩ := by
  unfold nodeEntry at h
  iterate 2 obtain ⟨_, -, h⟩ := Option.bind_eq_some_iff.mp h
  exact ⟨_, _, (Option.some.inj h).symm⟩

/-- The row of an object is one of a table, not an application, and that of a node is as imported
nodes are. -/
structure Importable (session : Session) (entry : Entry) : Prop where
  table : entry.1.isTable = true
  application : ∀ id, entry.1 ≠ .application id
  node : ∀ id row, entry = ⟨.node id, row⟩ → ∃ popCode, row = importedNode session popCode

theorem importable_objectEntry {entry : Entry} (h : objectEntry S session value = some entry) :
    Importable session entry := by
  have hother : ∀ {k : Key} {row : Row k}, k.isTable = true → (∀ id, k ≠ .application id) →
      (∀ id, k ≠ .node id) → Importable session ⟨k, row⟩ := by
    intro k row htable happlication hnode
    exact ⟨htable, happlication, fun id row' heq => absurd (congrArg Sigma.fst heq) (hnode id)⟩
  unfold objectEntry at h
  split_ifs at h
  · obtain ⟨popCode, row, rfl⟩ := popEntry_key h
    exact hother rfl (fun _ => nofun) fun _ => nofun
  · obtain ⟨id, row, rfl⟩ := failureDomainEntry_key h
    exact hother rfl (fun _ => nofun) fun _ => nofun
  · obtain ⟨profileID, version, row, rfl⟩ := capacityProfileEntry_key h
    exact hother rfl (fun _ => nofun) fun _ => nofun
  · obtain ⟨id, popCode, rfl⟩ := nodeEntry_key h
    refine ⟨rfl, fun _ => nofun, ?_⟩
    rintro _ _ ⟨⟩
    exact ⟨popCode, rfl⟩

/-- The rows of an import that is committed. -/
theorem imported_of_recorded (htyped : Typed params.objects)
    (hsome : ∀ value ∈ params.objects, (objectEntry S session value).isSome = true)
    (hstored : x.committed (.capability params.capabilityDigest) = some capability)
    (h : Recorded (importedEntries S session params.objects ++
      applicationEntries capability.singleUseApplyID
        (applicationRow S session capability params)) x) :
    Imported S session params capability x.committed x.view := by
  have hobject : ∀ value ∈ params.objects, ∀ entry, objectEntry S session value = some entry →
      entry ∈ importedEntries S session params.objects := fun value hvalue entry hentry =>
    htyped.mem_importedEntries.mpr (Or.inl (List.mem_filterMap.mpr ⟨value, hvalue, hentry⟩))
  have happlication := h.view_of_mem (List.mem_append_right _ (List.mem_cons_self ..))
  have hcapability := h.view_of_mem (List.mem_append_right _
    (List.mem_cons_of_mem _ (List.mem_cons_self ..)))
  refine ⟨hstored, happlication.1, hcapability.1, happlication.2, hcapability.2, ?_, ?_, ?_, ?_⟩
  · intro value hvalue
    obtain ⟨entry, hentry⟩ := Option.isSome_iff_exists.mp (hsome value hvalue)
    exact ⟨entry, hentry, (importable_objectEntry hentry).table,
      h.view_of_mem (List.mem_append_left _ (hobject value hvalue entry hentry))⟩
  · have hnodup := h.nodup
    rw [List.map_append] at hnodup
    exact htyped.nodup_entries (hnodup.sublist (List.sublist_append_left ..))
  · intro k htable hne hk
    refine h.view_of_not_mem fun entry hentry => ?_
    rcases List.mem_append.mp hentry with himported | happlied
    · rcases htyped.mem_importedEntries.mp himported with hrow | hindex
      · obtain ⟨value, hvalue, hentry⟩ := List.mem_filterMap.mp hrow
        exact hk value hvalue entry hentry
      · obtain ⟨value, -, hentry⟩ := List.mem_filterMap.mp hindex
        obtain ⟨domainType, stableID, row, rfl⟩ := failureDomainIndexEntry_key hentry
        rintro rfl
        cases htable
    · simp only [applicationEntries, List.mem_cons, List.not_mem_nil, or_false] at happlied
      rcases happlied with rfl | rfl | rfl
      · exact Ne.symm hne
      · rintro rfl
        cases htable
      · rintro rfl
        cases htable
  · exact fun k row hrow => h.view_of_committed hrow

/-- The index by capability stays complete. -/
theorem Imported.index (h : Imported S session params capability c d) (hc : Kept c) : Kept d := by
  intro id application happlication
  by_cases hid : id = capability.singleUseApplyID
  · subst hid
    obtain rfl := Option.some.inj (h.application.symm.trans happlication)
    exact h.used
  · have hsame : d (.application id) = c (.application id) := by
      refine h.others _ rfl (fun heq => hid (Key.application.inj heq)) ?_
      intro value _ entry hentry
      exact (importable_objectEntry hentry).application id
    exact h.kept _ _ (hc id application (hsame ▸ happlication))

/-- The new nodes can do nothing. -/
theorem Imported.node (h : Imported S session params capability c d) {id : UUID} {row : NodeRow}
    (hc : c (.node id) = none) (hd : d (.node id) = some row) :
    ∃ popCode, row = importedNode session popCode := by
  by_contra hrow
  have hsame : d (.node id) = c (.node id) := by
    refine h.others _ rfl nofun fun value hvalue entry hentry hkey => hrow ?_
    obtain ⟨found, hfound, -, -, hstored⟩ := h.objects value hvalue
    obtain rfl := Option.some.inj (hfound.symm.trans hentry)
    obtain ⟨k, row'⟩ := found
    obtain rfl : k = .node id := hkey
    obtain rfl := Option.some.inj (hstored.symm.trans hd)
    exact (importable_objectEntry hentry).node id row' rfl
  rw [hsame, hc] at hd
  cases hd

/-! ## Calls side by side -/

/-- Between the statements of a call the others keep the index by capability complete. -/
def importContract : Contract Key Row where
  holds := Kept
  change _ _ _ := True
  refl _ _ := trivial
  trans _ _ _ _ _ _ := trivial
  mono _ _ _ _ _ _ := trivial

/-- The commits of a call. -/
def commitsImport (S : Server) (task : Session × Params) (_ : Key → Prop)
    (c d : Overlay Key Row) : Prop :=
  ∃ capability, Imported S task.1 task.2 capability c d

theorem performs_ask (h : Unending q) : Performs Unending (ask q).run :=
  performs_run_perform_bind h fun _ => performs_run_ofExcept

theorem performs_insertEntry (entry : Option Entry) : Performs Unending (insertEntry entry).run :=
  performs_run_ofExcept_bind fun _ =>
    performs_run_bind (performs_ask ⟨nofun, nofun⟩) fun _ => performs_run_ofExcept

theorem performs_insertEach (entryOf : Value → Option Entry) (objects : List Value) :
    Performs Unending (insertEach entryOf objects).run := by
  induction objects with
  | nil => exact performs_run_pure
  | cons value rest ih => exact performs_run_bind (performs_insertEntry _) fun _ => ih

theorem performs_checkPops (objects : List Value) : Performs Unending (checkPops objects).run := by
  induction objects with
  | nil => exact performs_run_pure
  | cons value rest ih =>
    exact performs_run_ofExcept_bind fun _ => performs_run_bind (performs_ask ⟨nofun, nofun⟩)
      fun _ => performs_run_ofExcept_bind fun _ => ih

theorem performs_lockAdvisory (numbers : List (Fin 3)) :
    Performs Unending (lockAdvisory numbers).run := by
  induction numbers with
  | nil => exact performs_run_pure
  | cons number rest ih => exact performs_run_bind (performs_ask ⟨nofun, nofun⟩) fun _ => ih

theorem performs_admitCapability (session : Session) (params : Params) :
    Performs Unending (admitCapability session params).run := by
  have hask : ∀ k : Key, Performs Unending (ask (.get k)).run := fun _ =>
    performs_ask ⟨nofun, nofun⟩
  refine performs_run_bind (performs_lockAdvisory _) fun _ =>
    performs_run_bind (performs_ask ⟨nofun, nofun⟩) fun found => ?_
  cases found with
  | none => exact performs_run_pure
  | some capability =>
    refine performs_run_bind (hask _) fun _ => performs_run_bind (hask _) fun _ =>
      performs_run_bind (hask _) fun _ => performs_run_bind (hask _) fun _ => ?_
    split <;> exact performs_run_pure

/-- The call leaves the end of its transaction to the server. -/
theorem performs_beginStagingImport (S : Server) (session : Session) (params : Params) :
    Performs Unending (beginStagingImport S session params).run := by
  refine performs_run_ofExcept_bind fun _ => ?_
  split
  · exact performs_run_pure
  refine performs_run_bind (performs_admitCapability _ _) fun admitted => ?_
  cases admitted with
  | none => exact performs_run_pure
  | some capability =>
    dsimp only
    split
    · exact performs_run_pure
    refine performs_run_ofExcept_bind fun refused => ?_
    split
    · exact performs_run_pure
    refine performs_run_bind ?_ fun _ => performs_run_bind ?_ fun _ => performs_run_pure
    · exact performs_run_bind (performs_insertEach _ _) fun _ =>
        performs_run_bind (performs_insertEach _ _) fun _ =>
        performs_run_bind (performs_insertEach _ _) fun _ =>
        performs_run_bind (performs_insertEach _ _) fun _ =>
        performs_run_bind (performs_insertEach _ _) fun _ => performs_checkPops _
    · exact performs_run_bind (performs_insertEntry _) fun _ =>
        performs_run_bind (performs_insertEntry _) fun _ => performs_insertEntry _

/-- What a call has done in its transaction, once others have acted, is an import or nothing. -/
theorem view_of_runs {answer : Option (UUID × ApplicationRow)}
    (h : Runs (within C constraints fails) (beginStagingImport S session params).run
      (Inside.start c) (.ok answer) x) (hothers : Others C x y) :
    y.view = y.committed ∨ ∃ capability, Imported S session params capability y.committed y.view := by
  rcases runs_beginStagingImport h (recorded_start c) with
    ⟨-, hx⟩ | ⟨capability, htyped, hsome, hstored, howned, -, hx⟩
  · left
    funext k
    exact (hx.others hothers).view_of_not_mem fun _ h => (nomatch h)
  · right
    refine ⟨capability, imported_of_recorded htyped hsome ?_ (hx.others hothers)⟩
    rw [hothers.kept _ howned, hstored]

/-- The calls are safe side by side. -/
theorem sound_importing (S : Server) : Sound (importing S) (Keeps importContract)
    (Guarantee (commitsImport S)) fun _ _ _ _ _ => True := by
  refine sound_serving (fun _ _ _ _ _ _ _ => trivial)
    (fun task => performs_beginStagingImport S task.1 task.2) ?_
  intro task c answer x y _ hruns hothers
  have hkept : Kept y.committed := hothers.holds
  rcases view_of_runs hruns hothers with hsame | ⟨capability, himported⟩
  · refine ⟨?_, Or.inl hsame⟩
    rw [hsame]
    exact hkept
  · exact ⟨himported.index hkept, Or.inr ⟨capability, himported⟩⟩

/-- The calls, and the committed rows they share. -/
abbrev ImportPool : Type :=
  Pool Pid (Session × Params) (Except Failed (Option (UUID × ApplicationRow))) (Statement Key Row)
    Answered Database

variable {init : Database} {pool pool' : ImportPool}

/-- In every state that is reached, the applications are found by their capabilities. -/
theorem kept_of_reachable (hinit : Kept init.committed)
    (hreach : (importing S).Reachable init pool) : Kept pool.state.committed :=
  ((sound_importing S).reachable hinit hreach).1

/-- A step leaves the committed rows as they are, or it is the import of a call. -/
theorem imported_of_step (hinit : Kept init.committed)
    (hreach : (importing S).Reachable init pool) {label} (hstep : (importing S).Step pool label pool') :
    pool'.state.committed = pool.state.committed ∨ ∃ pid run capability, label = .op pid ∧
      pool.running pid = some run ∧ Imported S run.task.1 run.task.2 capability
        pool.state.committed pool'.state.committed := by
  refine (commit_of_serving_step (sound_importing S) hinit hreach hstep).imp_right ?_
  rintro ⟨pid, run, -, hlabel, hrun, capability, himported⟩
  exact ⟨pid, run, capability, hlabel, hrun, himported⟩

/-- Committed rows stay. -/
theorem committed_of_reaches (hinit : Kept init.committed)
    (hreach : (importing S).Reachable init pool) (hrun : (importing S).Reaches pool pool')
    {row : Row k} (hrow : pool.state.committed k = some row) :
    pool'.state.committed k = some row := by
  induction hrun with
  | refl => exact hrow
  | tail hbefore hlast ih =>
    obtain ⟨label, hstep⟩ := hlast
    rcases imported_of_step hinit (hreach.reaches hbefore) hstep with
      hsame | ⟨pid, run, capability, -, -, himported⟩
    · rw [hsame]
      exact ih
    · exact himported.kept k row ih

/-- An import that took effect is the last one with its capability and its apply identifier. -/
theorem imported_last (hinit : Kept init.committed) (hreach : (importing S).Reachable init pool')
    (himported : Imported S session params capability c pool'.state.committed) {later : ImportPool}
    (hlater : (importing S).Reaches pool' later) {session' : Session} {params' : Params}
    {capability' : CapabilityRow}
    (himported' : Imported S session' params' capability' later.state.committed d) :
    params'.capabilityDigest ≠ params.capabilityDigest ∧
      capability'.singleUseApplyID ≠ capability.singleUseApplyID := by
  have happlied := committed_of_reaches hinit hreach hlater himported.application
  have hused := committed_of_reaches hinit hreach hlater himported.used
  constructor
  · intro heq
    have hunused := himported'.unused
    rw [heq, hused] at hunused
    cases hunused
  · intro heq
    have hunapplied := himported'.unapplied
    rw [heq, happlied] at hunapplied
    cases hunapplied

/-- A server whose casts read plain decimals and whose collation is that of the octets. -/
def plainServer : Server where
  jsonb := Json.decode
  uuid := plainArtifacts.uuidParse
  bigint b := if b ≠ [] ∧ b.all Decimal.isDigit ∧ Decimal.value b < 2 ^ 63 then
    some (Decimal.value b) else none
  integer b := if b ≠ [] ∧ b.all Decimal.isDigit ∧ Decimal.value b < 2 ^ 31 then
    some (Decimal.value b) else none
  jsonbEqual a b := Json.serialize a == Json.serialize b
  textLt a b := decide (a < b)
  uuidText := plainArtifacts.uuidString
  timestampText := plainArtifacts.timeFormat
  sha256 := plainArtifacts.sha256

end Talenro.Authority.StagingImport
