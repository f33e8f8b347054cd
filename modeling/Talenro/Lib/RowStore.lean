import Mathlib.Data.List.Sigma
import Mathlib.Tactic

/-!
# A transactional store with row locks

The store behaves like a relational database at the READ COMMITTED isolation
level.  A transaction sees the committed rows and its own changes, every
statement reading the latest committed state.  A row it writes or locks is owned
by it until it finishes; other transactions wait for the row before they lock,
update or upsert it, and an insert waits for an unfinished insert of the same
key.  A commit publishes all rows of the transaction at once.

Rows are indexed by their primary key, `Row k` being the type of the row at `k`,
so that one store can hold several tables.  Keys are listed, for scans.  A
transaction is named by the process running it.
-/

set_option autoImplicit false
set_option linter.unusedSectionVars false

namespace Talenro.Lib

/-- Committed rows, and the rows that unfinished transactions own. -/
structure RowStore (Key : Type) (Row : Key → Type) (Pid : Type) where
  keys : List Key
  committed : (k : Key) → Option (Row k)
  owner : Key → Option Pid
  work : (k : Key) → Option (Row k)
  keys_nodup : keys.Nodup
  mem_keys : ∀ k, (committed k).isSome ∨ (work k).isSome → k ∈ keys

/-- The statements of a transaction.  `update` changes the row when the function
has a result, its condition being part of it; `upsert` inserts or replaces. -/
inductive Statement (Key : Type) (Row : Key → Type) where
  | begin
  | get (k : Key)
  | lock (k : Key)
  | insert (k : Key) (row : Row k)
  | update (k : Key) (f : Row k → Option (Row k))
  | upsert (k : Key) (f : Option (Row k) → Row k)
  | scan
  | commit
  | rollback

namespace Statement

variable {Key : Type} {Row : Key → Type}

/-- What a statement answers when it does not fail: the row found or written,
whether an insert found its key free, all visible rows. -/
@[reducible] def Answer : Statement Key Row → Type
  | begin => Unit
  | get k => Option (Row k)
  | lock k => Option (Row k)
  | insert _ _ => Bool
  | update k _ => Option (Row k)
  | upsert k _ => Row k
  | scan => List ((k : Key) × Row k)
  | commit => Unit
  | rollback => Unit

/-- The statement starts a transaction. -/
def begins : Statement Key Row → Bool
  | begin => true
  | _ => false

/-- The statement ends its transaction. -/
def ends : Statement Key Row → Bool
  | commit => true
  | rollback => true
  | _ => false

end Statement

namespace RowStore

variable {Key : Type} {Row : Key → Type} {Pid : Type} [DecidableEq Key] [DecidableEq Pid]

/-- A store without rows. -/
def empty : RowStore Key Row Pid where
  keys := []
  committed _ := none
  owner _ := none
  work _ := none
  keys_nodup := List.nodup_nil
  mem_keys := by simp

/-- A store with the given rows; of several rows at one key it holds the first. -/
def holding (rows : List ((k : Key) × Row k)) : RowStore Key Row Pid where
  keys := rows.keys.dedup
  committed k := rows.dlookup k
  owner _ := none
  work _ := none
  keys_nodup := List.nodup_dedup _
  mem_keys k hk := by
    rw [List.mem_dedup]
    exact List.dlookup_isSome.mp (hk.resolve_right (by simp))

theorem mem_of_holding {rows : List ((k : Key) × Row k)} {k : Key} {row : Row k}
    (h : (holding rows : RowStore Key Row Pid).committed k = some row) : ⟨k, row⟩ ∈ rows :=
  List.of_mem_dlookup h

/-- The row the transaction of `pid` sees. -/
def view (s : RowStore Key Row Pid) (pid : Pid) (k : Key) : Option (Row k) :=
  if s.owner k = some pid then s.work k else s.committed k

/-- The store in which the transaction of `pid` owns the row `v` at `k`. -/
def put (s : RowStore Key Row Pid) (pid : Pid) (k : Key) (v : Option (Row k)) :
    RowStore Key Row Pid where
  keys := if k ∈ s.keys then s.keys else k :: s.keys
  committed := s.committed
  owner := Function.update s.owner k (some pid)
  work := Function.update s.work k v
  keys_nodup := by
    split
    · exact s.keys_nodup
    · next h => exact List.nodup_cons.mpr ⟨h, s.keys_nodup⟩
  mem_keys := by
    intro j hj
    have hold : (s.committed j).isSome ∨ (s.work j).isSome → j ∈ s.keys := s.mem_keys j
    by_cases hjk : j = k
    · subst hjk
      by_cases hmem : j ∈ s.keys <;> simp [hmem]
    · rw [Function.update_of_ne hjk] at hj
      have hmem := hold hj
      by_cases hk : k ∈ s.keys <;> simp [hk, hmem]

/-- Ends the transaction of `pid`, publishing its rows when `keep` holds. -/
def finish (s : RowStore Key Row Pid) (pid : Pid) (keep : Bool) : RowStore Key Row Pid where
  keys := s.keys
  committed k := if keep ∧ s.owner k = some pid then s.work k else s.committed k
  owner k := if s.owner k = some pid then none else s.owner k
  work := s.work
  keys_nodup := s.keys_nodup
  mem_keys := by
    intro k hk
    apply s.mem_keys
    by_cases howned : keep ∧ s.owner k = some pid
    · rw [if_pos howned] at hk
      exact Or.inr (hk.elim id id)
    · rw [if_neg howned] at hk
      exact hk

/-- Ends all transactions without publishing their rows. -/
def restart (s : RowStore Key Row Pid) : RowStore Key Row Pid := { s with owner := fun _ => none }

/-- The store without the committed rows that `drop` names. -/
def remove (s : RowStore Key Row Pid) (drop : (k : Key) → Row k → Bool) : RowStore Key Row Pid where
  keys := s.keys
  committed k := (s.committed k).filter fun row => !drop k row
  owner := s.owner
  work := s.work
  keys_nodup := s.keys_nodup
  mem_keys k hk := s.mem_keys k (hk.imp_left (Option.isSome_of_isSome_filter _ _))

/-- The rows the transaction of `pid` sees. -/
def rows (s : RowStore Key Row Pid) (pid : Pid) : List ((k : Key) × Row k) :=
  s.keys.filterMap fun k => (s.view pid k).map fun row => ⟨k, row⟩

/-- Executes one statement; there is no result while it has to wait. -/
def perform (s : RowStore Key Row Pid) (pid : Pid) :
    (q : Statement Key Row) → Option (q.Answer × RowStore Key Row Pid)
  | .begin => some ((), s)
  | .get k => some (s.view pid k, s)
  | .lock k =>
    if s.owner k = some pid then some (s.work k, s)
    else
      match s.committed k with
      | none => some (none, s)
      | some row => if s.owner k = none then some (some row, s.put pid k (some row)) else none
  | .insert k row =>
    if (s.view pid k).isSome then some (false, s)
    else if s.owner k = none ∨ s.owner k = some pid then some (true, s.put pid k (some row))
    else none
  | .update k f =>
    match (s.view pid k).bind f with
    | none => some (none, s)
    | some row =>
      if s.owner k = none ∨ s.owner k = some pid then some (some row, s.put pid k (some row))
      else none
  | .upsert k f =>
    if s.owner k = none ∨ s.owner k = some pid then
      some (f (s.view pid k), s.put pid k (some (f (s.view pid k))))
    else none
  | .scan => some (s.rows pid, s)
  | .commit => some ((), s.finish pid true)
  | .rollback => some ((), s.finish pid false)

end RowStore

/-- Whether a statement with this answer respects the constraints of the tables. -/
def Statement.admissible {Key : Type} {Row : Key → Type} (check : (k : Key) → Row k → Bool) :
    (q : Statement Key Row) → q.Answer → Bool
  | .insert k row, _ => check k row
  | .update k _, row => row.all (check k)
  | .upsert k _, row => check k row
  | _, _ => true

namespace RowStore

variable {Key : Type} {Row : Key → Type} {Pid : Type} [DecidableEq Key] [DecidableEq Pid]

/-- A statement as the program experiences it.  It fails when it violates a
constraint of its table, and it can fail without effect when `fails` says so; a
commit that fails so may have taken effect, only its confirmation being lost.  A
rollback that fails closes the connection, which ends the transaction as well. -/
inductive Exec (check : (k : Key) → Row k → Bool) (fails : Statement Key Row → Prop) (pid : Pid) :
    (q : Statement Key Row) → RowStore Key Row Pid → Option q.Answer → RowStore Key Row Pid →
      Prop where
  | done {q s a t} (h : s.perform pid q = some (a, t)) (hcheck : q.admissible check a = true) :
      Exec check fails pid q s (some a) t
  | violation {q s a t} (h : s.perform pid q = some (a, t))
      (hcheck : q.admissible check a = false) : Exec check fails pid q s none s
  | failed {q s} (hfails : fails q) (h : q ≠ .rollback) : Exec check fails pid q s none s
  | unconfirmed {s} (hfails : fails .commit) :
      Exec check fails pid .commit s none (s.finish pid true)
  | closed {s} (hfails : fails .rollback) :
      Exec check fails pid .rollback s none (s.finish pid false)

/-! ## Statements that succeeded -/

/-- A transaction does not wait while there is no other. -/
theorem exists_perform (s : RowStore Key Row Pid) {pid : Pid}
    (h : ∀ k, s.owner k = none ∨ s.owner k = some pid) (q : Statement Key Row) :
    ∃ a t, s.perform pid q = some (a, t) := by
  cases q with
  | lock k =>
    rcases h k with hk | hk
    · cases hc : s.committed k with
      | none => exact ⟨none, s, by simp [perform, hk, hc]⟩
      | some row => exact ⟨some row, s.put pid k (some row), by simp [perform, hk, hc]⟩
    · exact ⟨s.work k, s, by simp [perform, hk]⟩
  | insert k row =>
    by_cases hview : (s.view pid k).isSome
    · exact ⟨false, s, if_pos hview⟩
    · exact ⟨true, s.put pid k (some row), (if_neg hview).trans (if_pos (h k))⟩
  | update k f =>
    cases hview : (s.view pid k).bind f with
    | none => exact ⟨none, s, by simp only [perform, hview]⟩
    | some row =>
      exact ⟨some row, s.put pid k (some row), by simp only [perform, hview, if_pos (h k)]⟩
  | upsert k f => exact ⟨_, _, if_pos (h k)⟩
  | _ => exact ⟨_, _, rfl⟩

theorem perform_insert {s t : RowStore Key Row Pid} {pid : Pid} {k : Key} {row : Row k} {free : Bool}
    (h : s.perform pid (.insert k row) = some (free, t)) :
    (free = false ∧ (s.view pid k).isSome ∧ t = s) ∨
      free = true ∧ s.view pid k = none ∧ (s.owner k = none ∨ s.owner k = some pid) ∧
        t = s.put pid k (some row) := by
  change (if (s.view pid k).isSome then some (false, s)
    else if s.owner k = none ∨ s.owner k = some pid then some (true, s.put pid k (some row))
    else none) = some (free, t) at h
  split at h
  · next hsome =>
    obtain ⟨rfl, rfl⟩ := Prod.mk.inj (Option.some.inj h)
    exact Or.inl ⟨rfl, hsome, rfl⟩
  · next hnone =>
    split at h
    · next howner =>
      obtain ⟨rfl, rfl⟩ := Prod.mk.inj (Option.some.inj h)
      exact Or.inr ⟨rfl, Option.not_isSome_iff_eq_none.mp hnone, howner, rfl⟩
    · cases h

theorem perform_upsert {s t : RowStore Key Row Pid} {pid : Pid} {k : Key} {f : Option (Row k) → Row k}
    {row : Row k} (h : s.perform pid (.upsert k f) = some (row, t)) :
    (s.owner k = none ∨ s.owner k = some pid) ∧ row = f (s.view pid k) ∧
      t = s.put pid k (some row) := by
  change (if s.owner k = none ∨ s.owner k = some pid then
    some (f (s.view pid k), s.put pid k (some (f (s.view pid k)))) else none) = some (row, t) at h
  split at h
  · next howner =>
    obtain ⟨rfl, rfl⟩ := Prod.mk.inj (Option.some.inj h)
    exact ⟨howner, rfl, rfl⟩
  · cases h

/-! ## Frame lemmas -/

variable {s : RowStore Key Row Pid} {pid other : Pid} {k j : Key} {v : Option (Row k)}

@[simp] theorem committed_put : (s.put pid k v).committed = s.committed := rfl

@[simp] theorem owner_put_self : (s.put pid k v).owner k = some pid := by simp [put]

@[simp] theorem owner_put_of_ne (h : j ≠ k) : (s.put pid k v).owner j = s.owner j := by
  simp [put, Function.update_of_ne h]

@[simp] theorem work_put_self : (s.put pid k v).work k = v := by simp [put]

@[simp] theorem work_put_of_ne (h : j ≠ k) : (s.put pid k v).work j = s.work j := by
  simp [put, Function.update_of_ne h]

@[simp] theorem view_put_self : (s.put pid k v).view pid k = v := by simp [view]

@[simp] theorem view_put_of_ne (h : j ≠ k) : (s.put pid k v).view other j = s.view other j := by
  simp [view, h]

theorem mem_rows {row : Row k} : (⟨k, row⟩ : (k : Key) × Row k) ∈ s.rows pid ↔
    s.view pid k = some row := by
  simp only [rows, List.mem_filterMap, Option.map_eq_some_iff]
  constructor
  · rintro ⟨j, -, r, hr, heq⟩
    cases heq
    exact hr
  · intro h
    refine ⟨k, s.mem_keys k ?_, row, h, rfl⟩
    unfold view at h
    split at h
    · exact Or.inr (by rw [h]; rfl)
    · exact Or.inl (by rw [h]; rfl)

theorem nodup_rows : ((s.rows pid).map Sigma.fst).Nodup := by
  have hsub : ((s.rows pid).map Sigma.fst).Sublist s.keys := by
    unfold rows
    induction s.keys with
    | nil => exact List.Sublist.slnil
    | cons k rest ih =>
      rw [List.filterMap_cons]
      cases s.view pid k with
      | none => exact ih.cons k
      | some row => exact ih.cons_cons k
  exact hsub.nodup s.keys_nodup

end RowStore

end Talenro.Lib
