import Talenro.Lib.Bytes

/-!
# A directory of files on a disk

One directory of a POSIX file system, used by several processes.  Names are
linked to files; creating a link is atomic and fails when the name is taken.
Changes of the directory reach the disk when the directory is synced, the data of
a file when the file is.

A listing is not atomic: it reports every entry that is there from the moment the
directory is opened until the entries are read, and of the entries that were there
for a part of that time only some.

Every operation can fail without effect.  What is left open (the name of a
temporary file, how much of a buffer is written, what a listing shows) is decided
by a `Choice`, so that an execution can be replayed.
-/

set_option autoImplicit false

namespace Talenro.Lib

/-- The number of a file. -/
abbrev Inode : Type := ℕ

/-- A file: its data, whether the data is on the disk, and whether the file is a
directory and not a regular file. -/
structure File where
  data : Bytes
  synced : Bool
  directory : Bool
deriving DecidableEq

/-- What a listing reports: a name, and whether its file is a directory. -/
structure Entry where
  name : Bytes
  directory : Bool
deriving DecidableEq

/-- A change of the directory. -/
inductive Change where
  | link (name : Bytes) (inode : Inode)
  | unlink (name : Bytes)
deriving DecidableEq

/-- An open listing: the entries that were there all the time since the directory
was opened, and those that were there at some time. -/
structure Listing where
  stable : List Entry
  ever : List Entry
deriving DecidableEq

/-- The temporary file of a process; the name is dropped when it is removed. -/
structure Temporary where
  name : Option Bytes
  inode : Inode
  writable : Bool
deriving DecidableEq

/-- The directory.  `durable` is what is on the disk, `pending` the changes since;
`rooted` says whether the directory itself is on the disk.  `lost` are the names that
did not survive a crash; no operation reads it. -/
structure Directory (Pid : Type) where
  present : Bool
  rooted : Bool
  durable : List (Bytes × Inode)
  pending : List Change
  files : Inode → File
  fresh : Inode
  listing : Pid → Option Listing
  opened : Pid → Option Inode
  temporary : Pid → Option Temporary
  lost : List Bytes

/-! ## Operations -/

/-- What a process can do with the directory. -/
inductive DirectoryOp where
  | makeDirectory
  | openListing
  | readEntries (limit : ℕ)
  | closeListing
  | openFile (name : Bytes)
  | fileStatus
  | readFile (limit : ℕ)
  | closeFile
  | createTemporary (head : Bytes)
  | changeMode
  | write (body : Bytes)
  | syncFile
  | closeTemporary
  | status (name : Bytes)
  | link (source target : Bytes)
  | remove (name : Bytes)
  | syncDirectory
deriving DecidableEq

/-- The result of opening a directory or asking for a name. -/
inductive Presence where
  | found
  | missing
  | failed
deriving DecidableEq

/-- What the status of an open file says. -/
structure FileStatus where
  regular : Bool
  size : ℕ
deriving DecidableEq

namespace DirectoryOp

/-- What an operation answers; `false` and `none` are failures. -/
@[reducible] def Answer : DirectoryOp → Type
  | makeDirectory => Bool
  | openListing => Presence
  | readEntries _ => Option (List Entry)
  | closeListing => Unit
  | openFile _ => Bool
  | fileStatus => Option FileStatus
  | readFile _ => Option Bytes
  | closeFile => Unit
  | createTemporary _ => Option Bytes
  | changeMode => Bool
  | write _ => Option ℕ
  | syncFile => Bool
  | closeTemporary => Bool
  | status _ => Presence
  | link _ _ => Bool
  | remove _ => Bool
  | syncDirectory => Bool

/-- The answer of an operation that failed. -/
def failure : (o : DirectoryOp) → o.Answer
  | makeDirectory => false
  | openListing => .failed
  | readEntries _ => none
  | closeListing => ()
  | openFile _ => false
  | fileStatus => none
  | readFile _ => none
  | closeFile => ()
  | createTemporary _ => none
  | changeMode => false
  | write _ => none
  | syncFile => false
  | closeTemporary => false
  | status _ => .failed
  | link _ _ => false
  | remove _ => false
  | syncDirectory => false

end DirectoryOp

/-- What the system decides about an operation. -/
inductive Choice where
  | fail
  | succeed
  | name (name : Bytes)
  | entries (entries : List Entry)
  | count (n : ℕ)
deriving DecidableEq

/-- A choice without a fault: the operation does not fail, and a write makes
progress. -/
def Choice.healthy : Choice → Bool
  | .fail => false
  | .count n => decide (0 < n)
  | _ => true

namespace Directory

variable {Pid : Type}

/-! ## Entries -/

/-- The entries after a change. -/
def applyChange (entries : List (Bytes × Inode)) : Change → List (Bytes × Inode)
  | .link name inode => (name, inode) :: entries.filter fun e => e.1 ≠ name
  | .unlink name => entries.filter fun e => e.1 ≠ name

/-- The entries after changes, in their order. -/
def applyChanges (entries : List (Bytes × Inode)) (changes : List Change) :
    List (Bytes × Inode) :=
  changes.foldl applyChange entries

/-- The names processes see, with their files. -/
def entries (d : Directory Pid) : List (Bytes × Inode) := applyChanges d.durable d.pending

/-- The file a name is linked to. -/
def lookup (d : Directory Pid) (name : Bytes) : Option Inode := d.entries.lookup name

/-- What a listing of the directory shows while nothing changes. -/
def contents (d : Directory Pid) : List Entry :=
  d.entries.map fun e => ⟨e.1, (d.files e.2).directory⟩

/-- A directory that does not exist yet. -/
def absent : Directory Pid where
  present := false
  rooted := false
  durable := []
  pending := []
  files _ := ⟨[], false, false⟩
  fresh := 0
  listing _ := none
  opened _ := none
  temporary _ := none
  lost := []

/-! ## Steps -/

/-- An open listing after a change. -/
def updateListing (files : Inode → File) (c : Change) (l : Listing) : Listing :=
  match c with
  | .link name inode => { l with ever := ⟨name, (files inode).directory⟩ :: l.ever }
  | .unlink name => { l with stable := l.stable.filter fun e => e.name ≠ name }

/-- Records a change. -/
def change (d : Directory Pid) (c : Change) : Directory Pid :=
  { d with
    pending := d.pending ++ [c]
    listing := fun q => (d.listing q).map (updateListing d.files c) }

variable [DecidableEq Pid]

/-- Changes the file of a temporary file. -/
def setFile (d : Directory Pid) (inode : Inode) (file : File) : Directory Pid :=
  { d with files := Function.update d.files inode file }

def setListing (d : Directory Pid) (pid : Pid) (listing : Option Listing) : Directory Pid :=
  { d with listing := Function.update d.listing pid listing }

def setOpened (d : Directory Pid) (pid : Pid) (inode : Option Inode) : Directory Pid :=
  { d with opened := Function.update d.opened pid inode }

def setTemporary (d : Directory Pid) (pid : Pid) (temporary : Option Temporary) : Directory Pid :=
  { d with temporary := Function.update d.temporary pid temporary }

/-- A fresh empty file under a name, open for writing. -/
def create (d : Directory Pid) (pid : Pid) (name : Bytes) : Directory Pid :=
  (({ d with fresh := d.fresh + 1 }.setFile d.fresh ⟨[], false, false⟩).change
    (.link name d.fresh)).setTemporary pid (some ⟨some name, d.fresh, true⟩)

/-- Removes a name; a process that removes the name of its temporary file no longer
has it. -/
def unlink (d : Directory Pid) (pid : Pid) (name : Bytes) : Directory Pid :=
  (d.change (.unlink name)).setTemporary pid ((d.temporary pid).map fun t =>
    if t.name = some name then { t with name := none } else t)

/-- The directory with all its changes on the disk. -/
def sync (d : Directory Pid) : Directory Pid := { d with durable := d.entries, pending := [] }

/-- One operation of the process `pid`, as the choice decides; there is no result
when the choice is none for the operation. -/
def perform (d : Directory Pid) (pid : Pid) :
    (o : DirectoryOp) → Choice → Option (o.Answer × Directory Pid)
  | o, .fail => some (o.failure, d)
  | .makeDirectory, .succeed => some (true, { d with present := true })
  | .openListing, .succeed =>
    if d.present then some (.found, d.setListing pid (some ⟨d.contents, d.contents⟩))
    else some (.missing, d)
  | .readEntries limit, .entries shown =>
    match d.listing pid with
    | some l =>
      if (∀ e ∈ l.stable, e ∈ shown) ∧ shown.Subperm l.ever then some (some (shown.take limit), d)
      else none
    | none => none
  | .closeListing, .succeed => some ((), d.setListing pid none)
  | .openFile name, .succeed =>
    match d.lookup name with
    | some i => some (true, d.setOpened pid (some i))
    | none => some (false, d)
  | .fileStatus, .succeed =>
    match d.opened pid with
    | some i => some (some ⟨!(d.files i).directory, (d.files i).data.length⟩, d)
    | none => none
  | .readFile limit, .succeed =>
    match d.opened pid with
    | some i => some (some ((d.files i).data.take limit), d)
    | none => none
  | .closeFile, .succeed => some ((), d.setOpened pid none)
  | .createTemporary head, .name name =>
    if d.present ∧ head.isPrefixOf name ∧ d.lookup name = none then
      some (some name, d.create pid name)
    else none
  | .changeMode, .succeed => some (true, d)
  | .write body, .count n =>
    match d.temporary pid with
    | some t =>
      if t.writable ∧ n ≤ body.length then
        some (some n, d.setFile t.inode
          { d.files t.inode with data := (d.files t.inode).data ++ body.take n, synced := false })
      else none
    | none => none
  | .syncFile, .succeed =>
    match d.temporary pid with
    | some t =>
      if t.writable then some (true, d.setFile t.inode { d.files t.inode with synced := true })
      else some (false, d)
    | none => none
  | .closeTemporary, .succeed =>
    match d.temporary pid with
    | some t => some (t.writable, d.setTemporary pid (some { t with writable := false }))
    | none => some (false, d)
  | .status name, .succeed => some (if d.lookup name = none then .missing else .found, d)
  | .link source target, .succeed =>
    match d.lookup source with
    | some i =>
      if d.lookup target = none ∧ (d.files i).directory = false then
        some (true, d.change (.link target i))
      else some (false, d)
    | none => some (false, d)
  | .remove name, .succeed =>
    if d.lookup name = none then some (false, d) else some (true, d.unlink pid name)
  | .syncDirectory, .succeed =>
    if d.present then some (true, d.sync) else some (false, d)
  | _, _ => none

/-- The same directory with other handles open. -/
def withHandles (d : Directory Pid) (listing : Pid → Option Listing) (opened : Pid → Option Inode) :
    Directory Pid := { d with listing := listing, opened := opened }

/-- The directory with a temporary file of the process in a certain state. -/
def working (d : Directory Pid) (pid : Pid) (t : Temporary) (file : File) : Directory Pid :=
  (d.setFile t.inode file).setTemporary pid (some t)

@[simp] theorem working_temporary (d : Directory Pid) (pid : Pid) (t : Temporary) (file : File) :
    (d.working pid t file).temporary pid = some t := Function.update_self ..

@[simp] theorem working_file (d : Directory Pid) (pid : Pid) (t : Temporary) (file : File) :
    (d.working pid t file).files t.inode = file := Function.update_self ..

theorem working_setFile (d : Directory Pid) (pid : Pid) (t : Temporary) (file file' : File) :
    (d.working pid t file).setFile t.inode file' = d.working pid t file' := by
  simp [working, setFile, setTemporary]

theorem working_setTemporary (d : Directory Pid) (pid : Pid) (t : Temporary) (file : File)
    (writable : Bool) : (d.working pid t file).setTemporary pid (some { t with writable := writable }) =
      d.working pid { t with writable := writable } file := by
  simp [working, setFile, setTemporary]

theorem working_self {d : Directory Pid} {pid : Pid} {t : Temporary}
    (ht : d.temporary pid = some t) : d.working pid t (d.files t.inode) = d := by
  simp [working, setFile, setTemporary, ← ht]

theorem create_temporary (d : Directory Pid) (pid : Pid) (name : Bytes) :
    (d.create pid name).temporary pid = some ⟨some name, d.fresh, true⟩ := Function.update_self ..

theorem create_file (d : Directory Pid) (pid : Pid) (name : Bytes) :
    (d.create pid name).files d.fresh = ⟨[], false, false⟩ := Function.update_self ..

/-! ## What an operation can do -/

section Inversion

-- The equations of `perform` are made here once; the lemmas below wait for them otherwise.
attribute [local simp] perform

variable {d d' : Directory Pid} {pid : Pid} {c : Choice}

variable {r : Bool} {name : Bytes}

theorem perform_makeDirectory (h : d.perform pid .makeDirectory c = some (r, d')) :
    (c = .fail ∧ r = false ∧ d' = d) ∨ (r = true ∧ d' = { d with present := true }) := by
  cases c with
  | fail =>
    cases h
    exact Or.inl ⟨rfl, rfl, rfl⟩
  | succeed =>
    cases h
    exact Or.inr ⟨rfl, rfl⟩
  | _ => cases h

theorem perform_openListing {r : Presence}
    (h : d.perform pid .openListing c = some (r, d')) :
    (c = .fail ∧ r = .failed ∧ d' = d) ∨
      (d.present = true ∧ r = .found ∧ d' = d.setListing pid (some ⟨d.contents, d.contents⟩)) ∨
      (d.present = false ∧ r = .missing ∧ d' = d) := by
  cases c with
  | fail =>
    cases h
    exact Or.inl ⟨rfl, rfl, rfl⟩
  | succeed =>
    simp only [perform] at h
    split at h
    · next hp =>
      cases h
      exact Or.inr (Or.inl ⟨hp, rfl, rfl⟩)
    · next hp =>
      cases h
      exact Or.inr (Or.inr ⟨Bool.not_eq_true _ ▸ hp, rfl, rfl⟩)
  | _ => cases h

theorem perform_readEntries {limit : ℕ} {r : Option (List Entry)}
    (h : d.perform pid (.readEntries limit) c = some (r, d')) :
    d' = d ∧ ((c = .fail ∧ r = none) ∨ ∃ (l : Listing) (shown : List Entry), d.listing pid = some l ∧
      (∀ e ∈ l.stable, e ∈ shown) ∧ shown.Subperm l.ever ∧ r = some (shown.take limit)) := by
  cases c with
  | entries shown =>
    simp only [perform] at h
    split at h
    · next l hl =>
      split at h
      · next hshown =>
        cases h
        exact ⟨rfl, Or.inr ⟨l, shown, hl, hshown.1, hshown.2, rfl⟩⟩
      · cases h
    · cases h
  | fail =>
    cases h
    exact ⟨rfl, Or.inl ⟨rfl, rfl⟩⟩
  | _ => cases h

theorem perform_closeListing {r : Unit}
    (h : d.perform pid .closeListing c = some (r, d')) :
    (c = .fail ∧ d' = d) ∨ d' = d.setListing pid none := by
  cases c with
  | fail =>
    cases h
    exact Or.inl ⟨rfl, rfl⟩
  | succeed =>
    cases h
    exact Or.inr rfl
  | _ => cases h

theorem perform_openFile (h : d.perform pid (.openFile name) c = some (r, d')) :
    (r = false ∧ d' = d ∧ (c = .fail ∨ d.lookup name = none)) ∨
      ∃ i, d.lookup name = some i ∧ r = true ∧ d' = d.setOpened pid (some i) := by
  cases c with
  | fail =>
    cases h
    exact Or.inl ⟨rfl, rfl, Or.inl rfl⟩
  | succeed =>
    simp only [perform] at h
    split at h
    · next i hi =>
      cases h
      exact Or.inr ⟨i, hi, rfl, rfl⟩
    · next hnone =>
      cases h
      exact Or.inl ⟨rfl, rfl, Or.inr hnone⟩
  | _ => cases h

theorem perform_fileStatus {r : Option FileStatus}
    (h : d.perform pid .fileStatus c = some (r, d')) :
    d' = d ∧ ((c = .fail ∧ r = none) ∨ ∃ i, d.opened pid = some i ∧
      r = some ⟨!(d.files i).directory, (d.files i).data.length⟩) := by
  cases c with
  | fail =>
    cases h
    exact ⟨rfl, Or.inl ⟨rfl, rfl⟩⟩
  | succeed =>
    simp only [perform] at h
    split at h
    · next i hi =>
      cases h
      exact ⟨rfl, Or.inr ⟨i, hi, rfl⟩⟩
    · cases h
  | _ => cases h

theorem perform_readFile {limit : ℕ} {r : Option Bytes}
    (h : d.perform pid (.readFile limit) c = some (r, d')) :
    d' = d ∧ ((c = .fail ∧ r = none) ∨ ∃ i, d.opened pid = some i ∧
      r = some ((d.files i).data.take limit)) := by
  cases c with
  | fail =>
    cases h
    exact ⟨rfl, Or.inl ⟨rfl, rfl⟩⟩
  | succeed =>
    simp only [perform] at h
    split at h
    · next i hi =>
      cases h
      exact ⟨rfl, Or.inr ⟨i, hi, rfl⟩⟩
    · cases h
  | _ => cases h

theorem perform_closeFile {r : Unit}
    (h : d.perform pid .closeFile c = some (r, d')) :
    (c = .fail ∧ d' = d) ∨ d' = d.setOpened pid none := by
  cases c with
  | fail =>
    cases h
    exact Or.inl ⟨rfl, rfl⟩
  | succeed =>
    cases h
    exact Or.inr rfl
  | _ => cases h

theorem perform_createTemporary {head : Bytes} {r : Option Bytes}
    (h : d.perform pid (.createTemporary head) c = some (r, d')) :
    (c = .fail ∧ r = none ∧ d' = d) ∨ ∃ name, d.present = true ∧ head.isPrefixOf name = true ∧
      d.lookup name = none ∧ r = some name ∧ d' = d.create pid name := by
  cases c with
  | fail =>
    cases h
    exact Or.inl ⟨rfl, rfl, rfl⟩
  | name n =>
    simp only [perform] at h
    split at h
    · next hfree =>
      cases h
      exact Or.inr ⟨n, hfree.1, hfree.2.1, hfree.2.2, rfl, rfl⟩
    · cases h
  | _ => cases h

theorem perform_changeMode (h : d.perform pid .changeMode c = some (r, d')) :
    d' = d ∧ ((c = .fail ∧ r = false) ∨ r = true) := by
  cases c with
  | fail =>
    cases h
    exact ⟨rfl, Or.inl ⟨rfl, rfl⟩⟩
  | succeed =>
    cases h
    exact ⟨rfl, Or.inr rfl⟩
  | _ => cases h

theorem perform_write {body : Bytes} {r : Option ℕ}
    (h : d.perform pid (.write body) c = some (r, d')) :
    (c = .fail ∧ r = none ∧ d' = d) ∨ ∃ t n, d.temporary pid = some t ∧ t.writable = true ∧
      n ≤ body.length ∧ c = .count n ∧ r = some n ∧ d' = d.setFile t.inode
        { d.files t.inode with data := (d.files t.inode).data ++ body.take n, synced := false } := by
  cases c with
  | fail =>
    cases h
    exact Or.inl ⟨rfl, rfl, rfl⟩
  | count n =>
    simp only [perform] at h
    split at h
    · next t ht =>
      split at h
      · next hw =>
        cases h
        exact Or.inr ⟨t, n, ht, hw.1, hw.2, rfl, rfl, rfl⟩
      · cases h
    · cases h
  | _ => cases h

theorem perform_syncFile (h : d.perform pid .syncFile c = some (r, d')) :
    (r = false ∧ d' = d ∧ (c = .fail ∨ ∃ t, d.temporary pid = some t ∧ t.writable = false)) ∨
      ∃ t, d.temporary pid = some t ∧ t.writable = true ∧ r = true ∧
        d' = d.setFile t.inode { d.files t.inode with synced := true } := by
  cases c with
  | fail =>
    cases h
    exact Or.inl ⟨rfl, rfl, Or.inl rfl⟩
  | succeed =>
    simp only [perform] at h
    split at h
    · next t ht =>
      split at h
      · next hw =>
        cases h
        exact Or.inr ⟨t, ht, hw, rfl, rfl⟩
      · next hw =>
        cases h
        exact Or.inl ⟨rfl, rfl, Or.inr ⟨t, ht, Bool.not_eq_true _ ▸ hw⟩⟩
    · cases h
  | _ => cases h

theorem perform_closeTemporary (h : d.perform pid .closeTemporary c = some (r, d')) :
    (r = false ∧ d' = d ∧ (c = .fail ∨ d.temporary pid = none)) ∨
      ∃ t, d.temporary pid = some t ∧ r = t.writable ∧
        d' = d.setTemporary pid (some { t with writable := false }) := by
  cases c with
  | fail =>
    cases h
    exact Or.inl ⟨rfl, rfl, Or.inl rfl⟩
  | succeed =>
    simp only [perform] at h
    split at h
    · next t ht =>
      cases h
      exact Or.inr ⟨t, ht, rfl, rfl⟩
    · next hnone =>
      cases h
      exact Or.inl ⟨rfl, rfl, Or.inr hnone⟩
  | _ => cases h

theorem perform_status {r : Presence} (h : d.perform pid (.status name) c = some (r, d')) :
    d' = d ∧ ((c = .fail ∧ r = .failed) ∨ (r = .found ∧ d.lookup name ≠ none) ∨
      (r = .missing ∧ d.lookup name = none)) := by
  cases c with
  | fail =>
    cases h
    exact ⟨rfl, Or.inl ⟨rfl, rfl⟩⟩
  | succeed =>
    simp only [perform] at h
    obtain ⟨hr, rfl⟩ := Prod.mk.inj (Option.some.inj h)
    split at hr
    · next hnone => exact ⟨rfl, Or.inr (Or.inr ⟨hr.symm, hnone⟩)⟩
    · next hsome => exact ⟨rfl, Or.inr (Or.inl ⟨hr.symm, hsome⟩)⟩
  | _ => cases h

theorem perform_link {source target : Bytes}
    (h : d.perform pid (.link source target) c = some (r, d')) :
    (r = false ∧ d' = d ∧ (c = .fail ∨ d.lookup target ≠ none ∨ ∀ i, d.lookup source = some i →
        (d.files i).directory = true)) ∨
      ∃ i, d.lookup source = some i ∧ d.lookup target = none ∧ (d.files i).directory = false ∧
        r = true ∧ d' = d.change (.link target i) := by
  cases c with
  | fail =>
    cases h
    exact Or.inl ⟨rfl, rfl, Or.inl rfl⟩
  | succeed =>
    simp only [perform] at h
    split at h
    · next i hi =>
      split at h
      · next hfree =>
        cases h
        exact Or.inr ⟨i, hi, hfree.1, hfree.2, rfl, rfl⟩
      · next hno =>
        cases h
        refine Or.inl ⟨rfl, rfl, Or.inr ?_⟩
        by_cases htarget : d.lookup target = none
        · refine Or.inr fun j hj => ?_
          obtain rfl : i = j := Option.some.inj (hi.symm.trans hj)
          exact Bool.of_not_eq_false fun hkind => hno ⟨htarget, hkind⟩
        · exact Or.inl htarget
    · next hnone =>
      cases h
      refine Or.inl ⟨rfl, rfl, Or.inr (Or.inr fun j hj => ?_)⟩
      rw [hnone] at hj
      cases hj
  | _ => cases h

theorem perform_remove (h : d.perform pid (.remove name) c = some (r, d')) :
    (r = false ∧ d' = d ∧ (c = .fail ∨ d.lookup name = none)) ∨
      (d.lookup name ≠ none ∧ r = true ∧ d' = d.unlink pid name) := by
  cases c with
  | fail =>
    cases h
    exact Or.inl ⟨rfl, rfl, Or.inl rfl⟩
  | succeed =>
    simp only [perform] at h
    split at h
    · next hnone =>
      cases h
      exact Or.inl ⟨rfl, rfl, Or.inr hnone⟩
    · next hsome =>
      cases h
      exact Or.inr ⟨hsome, rfl, rfl⟩
  | _ => cases h

theorem perform_syncDirectory (h : d.perform pid .syncDirectory c = some (r, d')) :
    (r = false ∧ d' = d ∧ (c = .fail ∨ d.present = false)) ∨
      (d.present = true ∧ r = true ∧ d' = d.sync) := by
  cases c with
  | fail =>
    cases h
    exact Or.inl ⟨rfl, rfl, Or.inl rfl⟩
  | succeed =>
    simp only [perform] at h
    split at h
    · next hp =>
      cases h
      exact Or.inr ⟨hp, rfl, rfl⟩
    · next hp =>
      cases h
      exact Or.inl ⟨rfl, rfl, Or.inr (Bool.not_eq_true _ ▸ hp)⟩
  | _ => cases h

end Inversion

/-! ## Looking names up -/

omit [DecidableEq Pid]

theorem lookup_cons_eq (es : List (Bytes × Inode)) (m n : Bytes) (i : Inode) :
    ((m, i) :: es).lookup n = if n = m then some i else es.lookup n := by
  rw [List.lookup_cons]
  by_cases hn : n = m
  · rw [if_pos hn, beq_iff_eq.mpr hn]
  · rw [if_neg hn, beq_false_of_ne hn]

theorem lookup_filter_ne (es : List (Bytes × Inode)) (m n : Bytes) :
    (es.filter fun e => e.1 ≠ m).lookup n = if n = m then none else es.lookup n := by
  induction es with
  | nil => simp
  | cons e es ih =>
    obtain ⟨k, i⟩ := e
    by_cases hk : k = m
    · subst hk
      rw [List.filter_cons_of_neg (by simp), ih, lookup_cons_eq]
      split
      · rfl
      · rfl
    · rw [List.filter_cons_of_pos (by simpa using hk), lookup_cons_eq, lookup_cons_eq, ih]
      by_cases hn : n = k
      · subst hn
        simp [hk]
      · simp [hn]

theorem lookup_applyChange_link (es : List (Bytes × Inode)) (m n : Bytes) (i : Inode) :
    (applyChange es (.link m i)).lookup n = if n = m then some i else es.lookup n := by
  rw [applyChange, lookup_cons_eq, lookup_filter_ne]
  split
  · rfl
  · rfl

@[simp] theorem entries_change (d : Directory Pid) (c : Change) :
    (d.change c).entries = applyChange d.entries c := by
  simp [entries, change, applyChanges]

section Entries

variable [DecidableEq Pid] (d : Directory Pid) (pid : Pid)

theorem entries_create (name : Bytes) :
    (d.create pid name).entries = applyChange d.entries (.link name d.fresh) := by
  simp [entries, create, change, setFile, setTemporary, applyChanges]

theorem entries_unlink (name : Bytes) :
    (d.unlink pid name).entries = applyChange d.entries (.unlink name) := by
  simp [entries, unlink, change, setTemporary, applyChanges]

theorem entries_working (t : Temporary) (file : File) :
    (d.working pid t file).entries = d.entries := rfl

omit [DecidableEq Pid] in
theorem entries_sync : d.sync.entries = d.entries := rfl

@[simp] theorem present_create (name : Bytes) : (d.create pid name).present = d.present := rfl

@[simp] theorem present_unlink (name : Bytes) : (d.unlink pid name).present = d.present := rfl

@[simp] theorem present_working (t : Temporary) (file : File) :
    (d.working pid t file).present = d.present := rfl

omit [DecidableEq Pid] in
@[simp] theorem present_change (c : Change) : (d.change c).present = d.present := rfl

omit [DecidableEq Pid] in
@[simp] theorem present_sync : d.sync.present = d.present := rfl

@[simp] theorem files_create (name : Bytes) :
    (d.create pid name).files = Function.update d.files d.fresh ⟨[], false, false⟩ := rfl

@[simp] theorem files_unlink (name : Bytes) : (d.unlink pid name).files = d.files := rfl

@[simp] theorem files_working (t : Temporary) (file : File) :
    (d.working pid t file).files = Function.update d.files t.inode file := rfl

omit [DecidableEq Pid] in
@[simp] theorem files_change (c : Change) : (d.change c).files = d.files := rfl

omit [DecidableEq Pid] in
@[simp] theorem files_sync : d.sync.files = d.files := rfl

@[simp] theorem fresh_create (name : Bytes) : (d.create pid name).fresh = d.fresh + 1 := rfl

@[simp] theorem fresh_unlink (name : Bytes) : (d.unlink pid name).fresh = d.fresh := rfl

@[simp] theorem fresh_working (t : Temporary) (file : File) :
    (d.working pid t file).fresh = d.fresh := rfl

omit [DecidableEq Pid] in
@[simp] theorem fresh_change (c : Change) : (d.change c).fresh = d.fresh := rfl

omit [DecidableEq Pid] in
@[simp] theorem fresh_sync : d.sync.fresh = d.fresh := rfl

end Entries

theorem lookup_change_link (d : Directory Pid) (m n : Bytes) (i : Inode) :
    (d.change (.link m i)).lookup n = if n = m then some i else d.lookup n := by
  rw [lookup, entries_change, lookup_applyChange_link, lookup]

theorem filter_ne_of_lookup {es : List (Bytes × Inode)} {n : Bytes} (h : es.lookup n = none) :
    (es.filter fun e => e.1 ≠ n) = es := by
  apply List.filter_eq_self.mpr
  intro e he
  have hne : n ≠ e.1 := bne_iff_ne.mp (List.lookup_eq_none_iff.mp h e he)
  exact decide_eq_true (Ne.symm hne)

theorem lookup_create [DecidableEq Pid] (d : Directory Pid) (pid : Pid) (m n : Bytes) :
    (d.create pid m).lookup n = if n = m then some d.fresh else d.lookup n := by
  rw [lookup, entries_create, lookup_applyChange_link, lookup]

/-- There is always a free name with a given beginning. -/
theorem exists_free_name (d : Directory Pid) (head : Bytes) :
    ∃ n, head.isPrefixOf n = true ∧ d.lookup n = none := by
  -- a name longer than every name in use
  obtain ⟨bound, hbound⟩ : ∃ bound, ∀ e ∈ d.entries, e.1.length ≤ bound := by
    refine ⟨(d.entries.map fun e => e.1.length).sum, fun e he => ?_⟩
    exact List.single_le_sum (by simp) _ (List.mem_map.mpr ⟨e, he, rfl⟩)
  refine ⟨head ++ List.replicate (bound + 1) 0, ?_, ?_⟩
  · exact List.isPrefixOf_iff_prefix.mpr (List.prefix_append ..)
  · apply List.lookup_eq_none_iff.mpr
    intro e he
    apply bne_iff_ne.mpr
    intro heq
    have hlength := congrArg List.length heq
    have := hbound e he
    simp only [List.length_append, List.length_replicate] at hlength
    omega

end Directory

end Talenro.Lib
