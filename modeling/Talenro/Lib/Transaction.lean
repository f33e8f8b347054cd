import Talenro.Lib.RowStore

/-!
# What a transaction has written

An unfinished transaction is described by the rows it has written: `Wrote s pid W`
says that the transaction of `pid` sees the committed rows except where `W` has a
row, and that it owns the rows of `W`.  The statements of other transactions preserve
such a description, each statement of its own extends it in one way, and a commit
publishes exactly `W`.

`Inside` is a transaction seen from inside: what it has written, what it owns and what
is committed.  Its statements are executed by `Does`, between which the others change
committed rows within a `Contract` (`Others`).  `Sees.exec` says that this is what a
transaction of the store experiences.
-/

set_option autoImplicit false

namespace Talenro.Lib

namespace RowStore

variable {Key : Type} {Row : Key → Type} {Pid : Type} [DecidableEq Key] [DecidableEq Pid]
  {s t : RowStore Key Row Pid} {pid other : Pid} {k : Key}

/-! ## What one statement can do to the others -/

/-- A step of `pid`: the rows of the other transactions are left alone. -/
structure Respects (pid : Pid) (s t : RowStore Key Row Pid) : Prop where
  kept : ∀ k q, q ≠ pid → s.owner k = some q →
    t.owner k = some q ∧ t.work k = s.work k ∧ t.committed k = s.committed k
  taken : ∀ k q, q ≠ pid → t.owner k = some q → s.owner k = some q

theorem respects_refl : Respects pid s s :=
  ⟨fun _ _ _ h => ⟨h, rfl, rfl⟩, fun _ _ _ h => h⟩

theorem respects_put {v : Option (Row k)} (h : s.owner k = none ∨ s.owner k = some pid) :
    Respects pid s (s.put pid k v) := by
  constructor
  · intro j q hq hj
    have hjk : j ≠ k := by
      rintro rfl
      rcases h with h | h
      · rw [h] at hj
        cases hj
      · rw [h] at hj
        exact hq (Option.some.inj hj).symm
    rw [owner_put_of_ne hjk, work_put_of_ne hjk]
    exact ⟨hj, rfl, rfl⟩
  · intro j q hq hj
    by_cases hjk : j = k
    · subst hjk
      rw [owner_put_self] at hj
      exact absurd (Option.some.inj hj).symm hq
    · rwa [owner_put_of_ne hjk] at hj

theorem respects_finish (keep : Bool) : Respects pid s (s.finish pid keep) := by
  constructor
  · intro j q hq hj
    have hne : s.owner j ≠ some pid := by
      rw [hj]
      exact fun h => hq (Option.some.inj h)
    refine ⟨?_, rfl, ?_⟩
    · show (if s.owner j = some pid then none else s.owner j) = some q
      rw [if_neg hne, hj]
    · show (if keep ∧ s.owner j = some pid then s.work j else s.committed j) = s.committed j
      rw [if_neg fun h => hne h.2]
  · intro j q hq hj
    change (if s.owner j = some pid then none else s.owner j) = some q at hj
    split at hj
    · cases hj
    · exact hj

/-- Rows that nobody owns can be removed. -/
theorem respects_remove {drop : (k : Key) → Row k → Bool}
    (h : ∀ k row, s.committed k = some row → drop k row = true → s.owner k = none) :
    Respects pid s (s.remove drop) := by
  refine ⟨fun k q _ hk => ⟨hk, rfl, ?_⟩, fun _ _ _ hk => hk⟩
  show (s.committed k).filter (fun row => !drop k row) = s.committed k
  cases hc : s.committed k with
  | none => rfl
  | some row =>
    have hkeep : drop k row = false := by
      by_contra hdrop
      rw [h k row hc (Bool.not_eq_false _ ▸ hdrop)] at hk
      cases hk
    simp [Option.filter, hkeep]

/-! ## The overlay -/

/-- Rows that replace committed ones. -/
abbrev Overlay (Key : Type) (Row : Key → Type) : Type := (k : Key) → Option (Row k)

/-- The committed rows with the overlay on top. -/
def overlay (s : RowStore Key Row Pid) (W : Overlay Key Row) (k : Key) : Option (Row k) :=
  (W k).or (s.committed k)

/-- The overlay with one more row. -/
def Overlay.set (W : Overlay Key Row) (k : Key) (row : Row k) : Overlay Key Row :=
  Function.update W k (some row)

theorem Overlay.set_self (W : Overlay Key Row) (row : Row k) : W.set k row k = some row :=
  Function.update_self ..

theorem Overlay.set_of_ne (W : Overlay Key Row) {j : Key} (row : Row k) (h : j ≠ k) :
    W.set k row j = W j :=
  Function.update_of_ne h ..

/-- The transaction of `pid` has written the rows of `W` and nothing else. -/
structure Wrote (s : RowStore Key Row Pid) (pid : Pid) (W : Overlay Key Row) : Prop where
  own : ∀ k row, W k = some row → s.owner k = some pid
  view : ∀ k, s.view pid k = s.overlay W k

/-- The transaction of `pid` owns no row. -/
def Idle (s : RowStore Key Row Pid) (pid : Pid) : Prop := ∀ k, s.owner k ≠ some pid

theorem Idle.wrote (h : s.Idle pid) : s.Wrote pid fun _ => none :=
  ⟨fun _ _ hrow => (nomatch hrow), fun k => if_neg (h k)⟩

theorem Idle.respects (h : s.Idle pid) (hstep : Respects other s t) (hne : other ≠ pid) :
    t.Idle pid :=
  fun k hk => h k (hstep.taken k pid (Ne.symm hne) hk)

/-- The steps of the others leave the overlay as it is. -/
theorem Wrote.respects {W : Overlay Key Row} (h : s.Wrote pid W) (hstep : Respects other s t)
    (hne : other ≠ pid) : t.Wrote pid W := by
  constructor
  · intro k row hrow
    exact (hstep.kept k pid (Ne.symm hne) (h.own k row hrow)).1
  · intro k
    have hview := h.view k
    by_cases hown : s.owner k = some pid
    · obtain ⟨howner, hwork, hcommitted⟩ := hstep.kept k pid (Ne.symm hne) hown
      rw [RowStore.view, if_pos hown] at hview
      rw [RowStore.view, if_pos howner, hwork, hview, overlay, overlay, hcommitted]
    · have hown' : t.owner k ≠ some pid := fun ht => hown (hstep.taken k pid (Ne.symm hne) ht)
      have hnone : W k = none := by
        cases hW : W k with
        | none => rfl
        | some row => exact absurd (h.own k row hW) hown
      rw [RowStore.view, if_neg hown', overlay, hnone]
      rfl

/-- A row the transaction owns keeps its committed version. -/
theorem Respects.committed (hstep : Respects other s t) (hne : other ≠ pid)
    (hown : s.owner k = some pid) : t.owner k = some pid ∧ t.committed k = s.committed k :=
  ⟨(hstep.kept k pid (Ne.symm hne) hown).1, (hstep.kept k pid (Ne.symm hne) hown).2.2⟩

/-! ## The statements of the transaction itself -/

/-- A lock: the row it finds is the visible one, and from then on the transaction
owns it. -/
theorem Wrote.lock {W : Overlay Key Row} (h : s.Wrote pid W) {a : Option (Row k)}
    (hq : s.perform pid (.lock k) = some (a, t)) :
    t.Wrote pid W ∧ t.committed = s.committed ∧ Respects pid s t ∧ a = s.overlay W k ∧
      (∀ row, a = some row → t.owner k = some pid) ∧
      (∀ j, s.owner j = some pid → t.owner j = some pid) := by
  have hview := h.view k
  simp only [perform] at hq
  split at hq
  · next hown =>
    obtain ⟨rfl, rfl⟩ := Prod.mk.inj (Option.some.inj hq)
    rw [RowStore.view, if_pos hown] at hview
    exact ⟨h, rfl, respects_refl, hview, fun _ _ => hown, fun _ hj => hj⟩
  · next hown =>
    rw [RowStore.view, if_neg hown] at hview
    split at hq
    · next hnone =>
      obtain ⟨rfl, rfl⟩ := Prod.mk.inj (Option.some.inj hq)
      exact ⟨h, rfl, respects_refl, hnone ▸ hview, fun _ hrow => (by cases hrow), fun _ hj => hj⟩
    · next row hrow =>
      split at hq
      · next hfree =>
        obtain ⟨rfl, rfl⟩ := Prod.mk.inj (Option.some.inj hq)
        refine ⟨⟨?_, ?_⟩, rfl, respects_put (Or.inl hfree), hrow ▸ hview, fun _ _ => owner_put_self,
          ?_⟩
        · intro j row' hj
          by_cases hjk : j = k
          · subst hjk
            exact owner_put_self
          · rw [owner_put_of_ne hjk]
            exact h.own j row' hj
        · intro j
          by_cases hjk : j = k
          · subst hjk
            rw [view_put_self, ← hrow, hview]
            rfl
          · rw [view_put_of_ne hjk]
            exact h.view j
        · intro j hj
          by_cases hjk : j = k
          · subst hjk
            exact owner_put_self
          · rwa [owner_put_of_ne hjk]
      · cases hq

/-- A row that is written joins the overlay. -/
theorem Wrote.put {W : Overlay Key Row} (h : s.Wrote pid W) (row : Row k) :
    (s.put pid k (some row)).Wrote pid (W.set k row) := by
  constructor
  · intro j row' hj
    by_cases hjk : j = k
    · subst hjk
      exact owner_put_self
    · rw [Overlay.set_of_ne W row hjk] at hj
      rw [owner_put_of_ne hjk]
      exact h.own j row' hj
  · intro j
    by_cases hjk : j = k
    · subst hjk
      rw [view_put_self, overlay, Overlay.set_self]
      rfl
    · rw [view_put_of_ne hjk, overlay, Overlay.set_of_ne W row hjk]
      exact h.view j

theorem owner_put_mono {v : Option (Row k)} {j : Key} (h : s.owner j = some pid) :
    (s.put pid k v).owner j = some pid := by
  by_cases hjk : j = k
  · subst hjk
    exact owner_put_self
  · rwa [owner_put_of_ne hjk]

/-! ## The end of the transaction -/

theorem finish_idle (keep : Bool) : (s.finish pid keep).Idle pid := by
  intro k hk
  change (if s.owner k = some pid then none else s.owner k) = some pid at hk
  split at hk
  · cases hk
  · next hne => exact hne hk

/-- A commit publishes the overlay. -/
theorem Wrote.committed_finish {W : Overlay Key Row} (h : s.Wrote pid W) (k : Key) :
    (s.finish pid true).committed k = s.overlay W k := by
  have hview := h.view k
  show (if true = true ∧ s.owner k = some pid then s.work k else s.committed k) = s.overlay W k
  by_cases hown : s.owner k = some pid
  · rw [if_pos ⟨rfl, hown⟩, ← hview, RowStore.view, if_pos hown]
  · rw [if_neg fun hk => hown hk.2, ← hview, RowStore.view, if_neg hown]

theorem committed_rollback (k : Key) : (s.finish pid false).committed k = s.committed k := by
  show (if false = true ∧ s.owner k = some pid then s.work k else s.committed k) = s.committed k
  rw [if_neg fun h => (nomatch h.1)]

end RowStore

/-! ## A transaction seen from inside -/

open RowStore

/-- The rows a transaction has written, the rows it owns, and the committed rows. -/
structure Inside (Key : Type) (Row : Key → Type) where
  written : Overlay Key Row
  owned : Key → Prop
  committed : Overlay Key Row
  owned_of_written : ∀ k row, written k = some row → owned k

namespace Inside

variable {Key : Type} {Row : Key → Type} [DecidableEq Key]

/-- A transaction that begins. -/
def start (c : Overlay Key Row) : Inside Key Row where
  written _ := none
  owned _ := False
  committed := c
  owned_of_written _ _ h := nomatch h

/-- The row the transaction sees. -/
def view (x : Inside Key Row) (k : Key) : Option (Row k) := (x.written k).or (x.committed k)

/-- One more row is owned. -/
def own (x : Inside Key Row) (k : Key) : Inside Key Row where
  written := x.written
  owned j := j = k ∨ x.owned j
  committed := x.committed
  owned_of_written j row h := Or.inr (x.owned_of_written j row h)

/-- One more row is written. -/
def write (x : Inside Key Row) (k : Key) (row : Row k) : Inside Key Row where
  written := x.written.set k row
  owned j := j = k ∨ x.owned j
  committed := x.committed
  owned_of_written := by
    intro j row' h
    by_cases hjk : j = k
    · exact Or.inl hjk
    · rw [Overlay.set_of_ne x.written row hjk] at h
      exact Or.inr (x.owned_of_written j row' h)

variable {x y z : Inside Key Row} {k j : Key}

@[simp] theorem view_start (c : Overlay Key Row) : (start c).view k = c k := rfl

@[simp] theorem view_write_self {row : Row k} : (x.write k row).view k = some row := by
  simp [view, write, Overlay.set_self]

@[simp] theorem view_write_of_ne {row : Row k} (h : j ≠ k) : (x.write k row).view j = x.view j := by
  simp [view, write, Overlay.set_of_ne _ _ h]

/-- A row that is not owned is seen as it is committed. -/
theorem view_of_not_owned (h : ¬ x.owned k) : x.view k = x.committed k := by
  have hnone : x.written k = none := by
    cases hw : x.written k with
    | none => rfl
    | some row => exact absurd (x.owned_of_written k row hw) h
  rw [view, hnone]
  rfl

/-- What a statement answers and does, when it does not fail. -/
def Answers : (q : Statement Key Row) → Inside Key Row → q.Answer → Inside Key Row → Prop
  | .begin, x, _, y => y = x
  | .get k, x, a, y => a = x.view k ∧ y = x
  | .lock k, x, a, y => a = x.view k ∧ (a = none ∧ y = x ∨ a ≠ none ∧ y = x.own k)
  | .insert k row, x, free, y =>
    (free = false ∧ x.view k ≠ none ∧ y = x) ∨ free = true ∧ x.view k = none ∧ y = x.write k row
  | .update k f, x, a, y =>
    (a = none ∧ (x.view k).bind f = none ∧ y = x) ∨
      ∃ row, a = some row ∧ (x.view k).bind f = some row ∧ y = x.write k row
  | .upsert k f, x, row, y => row = f (x.view k) ∧ y = x.write k row
  | .scan, x, rows, y =>
    (∀ k row, (⟨k, row⟩ : (k : Key) × Row k) ∈ rows ↔ x.view k = some row) ∧
      (rows.map Sigma.fst).Nodup ∧ y = x
  | .commit, _, _, _ => False
  | .rollback, _, _, _ => False

/-- A statement that can answer and do one thing only. -/
def Yields (q : Statement Key Row) (x : Inside Key Row) (a : q.Answer) (y : Inside Key Row) : Prop :=
  Answers q x a y ∧ ∀ b z, Answers q x b z → b = a ∧ z = y

theorem yields_get : Yields (.get k) x (x.view k) x := ⟨⟨rfl, rfl⟩, fun _ _ h => h⟩

theorem yields_lock :
    Yields (.lock k) x (x.view k) (if x.view k = none then x else x.own k) := by
  split
  · next hnone =>
    refine ⟨⟨rfl, .inl ⟨hnone, rfl⟩⟩, ?_⟩
    rintro b z ⟨rfl, ⟨-, rfl⟩ | ⟨hsome, -⟩⟩
    · exact ⟨rfl, rfl⟩
    · exact absurd hnone hsome
  · next hsome =>
    refine ⟨⟨rfl, .inr ⟨hsome, rfl⟩⟩, ?_⟩
    rintro b z ⟨rfl, ⟨hnone, -⟩ | ⟨-, rfl⟩⟩
    · exact absurd hnone hsome
    · exact ⟨rfl, rfl⟩

variable {row : Row k} {g : Row k → Option (Row k)}

theorem yields_insert (hrow : x.view k = none) :
    Yields (.insert k row) x true (x.write k row) := by
  refine ⟨.inr ⟨rfl, hrow, rfl⟩, ?_⟩
  rintro b z (⟨-, hsome, -⟩ | ⟨rfl, -, rfl⟩)
  · exact absurd hrow hsome
  · exact ⟨rfl, rfl⟩

theorem yields_insert_taken (hrow : x.view k ≠ none) :
    Yields (.insert k row) x false x := by
  refine ⟨.inl ⟨rfl, hrow, rfl⟩, ?_⟩
  rintro b z (⟨rfl, -, rfl⟩ | ⟨-, hnone, -⟩)
  · exact ⟨rfl, rfl⟩
  · exact absurd hnone hrow

theorem yields_update (hrow : (x.view k).bind g = some row) :
    Yields (.update k g) x (some row) (x.write k row) := by
  refine ⟨.inr ⟨row, rfl, hrow, rfl⟩, ?_⟩
  rintro b z (⟨-, hnone, -⟩ | ⟨row', rfl, hrow', rfl⟩)
  · rw [hrow] at hnone
    cases hnone
  · obtain rfl := Option.some.inj (hrow.symm.trans hrow')
    exact ⟨rfl, rfl⟩

theorem yields_update_none (hrow : (x.view k).bind g = none) :
    Yields (.update k g) x none x := by
  refine ⟨.inl ⟨rfl, hrow, rfl⟩, ?_⟩
  rintro b z (⟨rfl, -, rfl⟩ | ⟨row', -, hrow', -⟩)
  · exact ⟨rfl, rfl⟩
  · rw [hrow] at hrow'
    cases hrow'

/-- A statement inside the transaction; one that fails has violated a constraint or
failed as `fails` allows. -/
def Does (check : (k : Key) → Row k → Bool) (fails : Statement Key Row → Prop)
    (q : Statement Key Row) (x : Inside Key Row) (r : Option q.Answer) (y : Inside Key Row) : Prop :=
  match r with
  | some a => Answers q x a y ∧ q.admissible check a = true
  | none => y = x ∧ (fails q ∨ ∃ a z, Answers q x a z ∧ q.admissible check a = false)

theorem Does.mono {check : (k : Key) → Row k → Bool} {fails fails' : Statement Key Row → Prop}
    {q : Statement Key Row} {r : Option q.Answer} (h : Does check fails q x r y)
    (hfails : ∀ q, fails q → fails' q) : Does check fails' q x r y := by
  cases r with
  | some a => exact h
  | none => exact ⟨h.1, h.2.imp_left (hfails q)⟩

end Inside

/-- The row a statement writes, if it does. -/
def Statement.target {Key : Type} {Row : Key → Type} : Statement Key Row → Option Key
  | .insert k _ => some k
  | .update k _ => some k
  | .upsert k _ => some k
  | _ => none

section Frame

variable {Key : Type} {Row : Key → Type} [DecidableEq Key] {x y : Inside Key Row} {k : Key}

theorem Inside.written_write_of_ne {j : Key} {row : Row j} (h : k ≠ j) :
    (x.write j row).written k = x.written k := Overlay.set_of_ne _ _ h

/-- What a statement does not target it does not write, what it finds owned stays owned,
and it commits nothing. -/
theorem Inside.Does.frame {check : (k : Key) → Row k → Bool} {fails : Statement Key Row → Prop}
    {q : Statement Key Row} {r : Option q.Answer} (h : Inside.Does check fails q x r y) :
    (q.target ≠ some k → y.written k = x.written k) ∧ (x.owned k → y.owned k) ∧
      y.committed = x.committed := by
  cases r with
  | none =>
    obtain ⟨rfl, -⟩ := h
    exact ⟨fun _ => rfl, id, rfl⟩
  | some a =>
    have hwrite : ∀ j (row : Row j), (some j ≠ some k → (x.write j row).written k = x.written k) ∧
        (x.owned k → (x.write j row).owned k) ∧ (x.write j row).committed = x.committed :=
      fun j row => ⟨fun hne => written_write_of_ne fun hk => hne (congrArg some hk.symm), Or.inr, rfl⟩
    obtain ⟨h, -⟩ := h
    cases q with
    | begin => exact h ▸ ⟨fun _ => rfl, id, rfl⟩
    | get j => exact h.2 ▸ ⟨fun _ => rfl, id, rfl⟩
    | lock j =>
      rcases h.2 with ⟨-, rfl⟩ | ⟨-, rfl⟩
      · exact ⟨fun _ => rfl, id, rfl⟩
      · exact ⟨fun _ => rfl, Or.inr, rfl⟩
    | insert j row =>
      rcases h with ⟨-, -, rfl⟩ | ⟨-, -, rfl⟩
      · exact ⟨fun _ => rfl, id, rfl⟩
      · exact hwrite j row
    | update j f =>
      rcases h with ⟨-, -, rfl⟩ | ⟨row, -, -, rfl⟩
      · exact ⟨fun _ => rfl, id, rfl⟩
      · exact hwrite j row
    | upsert j f => exact h.2 ▸ hwrite j _
    | scan => exact h.2.2 ▸ ⟨fun _ => rfl, id, rfl⟩
    | commit => exact h.elim
    | rollback => exact h.elim

end Frame

/-- An invariant of the committed rows, and how transactions may change them:
`change held c d` says that transactions that own none of the rows `held` may turn `c`
into `d`. -/
structure Contract (Key : Type) (Row : Key → Type) where
  holds : Overlay Key Row → Prop
  change : (Key → Prop) → Overlay Key Row → Overlay Key Row → Prop
  refl : ∀ held c, change held c c
  trans : ∀ held c d e, change held c d → change held d e → change held c e
  mono : ∀ held held' c d, (∀ k, held k → held' k) → change held' c d → change held c d

/-- The contract that allows every change. -/
def Contract.unrestricted (Key : Type) (Row : Key → Type) : Contract Key Row where
  holds _ := True
  change _ _ _ := True
  refl _ _ := trivial
  trans _ _ _ _ _ _ := trivial
  mono _ _ _ _ _ _ := trivial

/-- A change by any transactions. -/
abbrev Contract.anyChange {Key : Type} {Row : Key → Type} (C : Contract Key Row) :
    Overlay Key Row → Overlay Key Row → Prop :=
  C.change fun _ => False

theorem Contract.change.any {Key : Type} {Row : Key → Type} {C : Contract Key Row}
    {held : Key → Prop} {c d : Overlay Key Row} (h : C.change held c d) : C.anyChange c d :=
  C.mono _ held c d (fun _ hk => hk.elim) h

/-- What the other transactions can do between two statements: they leave alone what
the transaction owns. -/
structure Others {Key : Type} {Row : Key → Type} (C : Contract Key Row) (x y : Inside Key Row) :
    Prop where
  written : y.written = x.written
  owned : y.owned = x.owned
  kept : ∀ k, x.owned k → y.committed k = x.committed k
  change : C.change x.owned x.committed y.committed
  holds : C.holds y.committed

namespace Others

variable {Key : Type} {Row : Key → Type} {C : Contract Key Row} {x y z : Inside Key Row} {k : Key}

theorem refl (h : C.holds x.committed) : Others C x x :=
  ⟨rfl, rfl, fun _ _ => rfl, C.refl _ _, h⟩

theorem trans (hxy : Others C x y) (hyz : Others C y z) : Others C x z where
  written := hyz.written.trans hxy.written
  owned := hyz.owned.trans hxy.owned
  kept k hk := (hyz.kept k (hxy.owned ▸ hk)).trans (hxy.kept k hk)
  change := C.trans _ _ _ _ hxy.change (hxy.owned ▸ hyz.change)
  holds := hyz.holds

/-- An owned row is seen as before. -/
theorem view_eq (h : Others C x y) (hk : x.owned k) : y.view k = x.view k := by
  rw [Inside.view, Inside.view, h.written, h.kept k hk]

end Others

/-- A later point of the same transaction. -/
structure Advances {Key : Type} {Row : Key → Type} (C : Contract Key Row) (x y : Inside Key Row) :
    Prop where
  owned : ∀ k, x.owned k → y.owned k
  kept : ∀ k, x.owned k → y.committed k = x.committed k
  change : C.anyChange x.committed y.committed
  holds : C.holds x.committed → C.holds y.committed

namespace Advances

variable {Key : Type} {Row : Key → Type} {C : Contract Key Row} {x y z : Inside Key Row} {k : Key}

theorem refl : Advances C x x := ⟨fun _ => id, fun _ _ => rfl, C.refl _ _, id⟩

theorem trans (hxy : Advances C x y) (hyz : Advances C y z) : Advances C x z where
  owned k hk := hyz.owned k (hxy.owned k hk)
  kept k hk := (hyz.kept k (hxy.owned k hk)).trans (hxy.kept k hk)
  change := C.trans _ _ _ _ hxy.change hyz.change
  holds h := hyz.holds (hxy.holds h)

end Advances

theorem Others.advances {Key : Type} {Row : Key → Type} {C : Contract Key Row} {x y : Inside Key Row}
    (h : Others C x y) : Advances C x y where
  owned k hk := h.owned ▸ hk
  kept := h.kept
  change := h.change.any
  holds _ := h.holds

/-- The transaction of `pid` is the one seen from inside. -/
structure Sees {Key : Type} {Row : Key → Type} {Pid : Type} [DecidableEq Key] [DecidableEq Pid]
    (s : RowStore Key Row Pid) (pid : Pid) (x : Inside Key Row) : Prop where
  wrote : s.Wrote pid x.written
  owned : ∀ k, x.owned k → s.owner k = some pid
  committed : s.committed = x.committed

namespace Sees

variable {Key : Type} {Row : Key → Type} {Pid : Type} [DecidableEq Key] [DecidableEq Pid]
  {s t : RowStore Key Row Pid} {pid other : Pid} {k : Key} {x y : Inside Key Row}

theorem view (h : Sees s pid x) (k : Key) : s.view pid k = x.view k := by
  rw [h.wrote.view k, overlay, h.committed]
  rfl

theorem overlay_eq (h : Sees s pid x) (k : Key) : s.overlay x.written k = x.view k := by
  rw [overlay, h.committed]
  rfl

theorem of_idle (h : s.Idle pid) : Sees s pid (Inside.start s.committed) :=
  ⟨h.wrote, fun _ hk => hk.elim, rfl⟩

/-- A row that is written. -/
theorem put (h : Sees s pid x) (row : Row k) :
    Sees (s.put pid k (some row)) pid (x.write k row) where
  wrote := h.wrote.put row
  owned := by
    rintro j (rfl | hj)
    · exact owner_put_self
    · exact owner_put_mono (h.owned j hj)
  committed := h.committed

/-- A statement that was answered. -/
theorem perform (h : Sees s pid x) {q : Statement Key Row} {a : q.Answer}
    (hq : s.perform pid q = some (a, t)) (hcommit : q ≠ .commit) (hrollback : q ≠ .rollback) :
    ∃ y, Inside.Answers q x a y ∧ Sees t pid y ∧ t.committed = s.committed ∧
      Respects pid s t := by
  cases q with
  | begin =>
    obtain ⟨rfl, rfl⟩ := Prod.mk.inj (Option.some.inj hq)
    exact ⟨x, rfl, h, rfl, respects_refl⟩
  | get k =>
    obtain ⟨rfl, rfl⟩ := Prod.mk.inj (Option.some.inj hq)
    exact ⟨x, ⟨h.view k, rfl⟩, h, rfl, respects_refl⟩
  | lock k =>
    obtain ⟨hwrote, hcommitted, hrespects, ha, hown, hmono⟩ := h.wrote.lock hq
    rw [h.overlay_eq] at ha
    cases a with
    | none =>
      exact ⟨x, ⟨ha, Or.inl ⟨rfl, rfl⟩⟩,
        ⟨hwrote, fun j hj => hmono j (h.owned j hj), hcommitted.trans h.committed⟩, hcommitted,
        hrespects⟩
    | some row =>
      refine ⟨x.own k, ⟨ha, Or.inr ⟨Option.some_ne_none row, rfl⟩⟩, ⟨hwrote, ?_, ?_⟩, hcommitted,
        hrespects⟩
      · rintro j (rfl | hj)
        · exact hown row rfl
        · exact hmono j (h.owned j hj)
      · exact hcommitted.trans h.committed
  | insert k row =>
    rcases perform_insert hq with ⟨rfl, hsome, rfl⟩ | ⟨rfl, hnone, hfree, rfl⟩
    · rw [h.view] at hsome
      exact ⟨x, Or.inl ⟨rfl, Option.isSome_iff_ne_none.mp hsome, rfl⟩, h, rfl, respects_refl⟩
    · rw [h.view] at hnone
      exact ⟨x.write k row, Or.inr ⟨rfl, hnone, rfl⟩, h.put row, rfl, respects_put hfree⟩
  | update k f =>
    simp only [RowStore.perform, h.view k] at hq
    split at hq
    · next hnone =>
      obtain ⟨rfl, rfl⟩ := Prod.mk.inj (Option.some.inj hq)
      exact ⟨x, Or.inl ⟨rfl, hnone, rfl⟩, h, rfl, respects_refl⟩
    · next row hrow =>
      split at hq
      · next hfree =>
        obtain ⟨rfl, rfl⟩ := Prod.mk.inj (Option.some.inj hq)
        exact ⟨x.write k row, Or.inr ⟨row, rfl, hrow, rfl⟩, h.put row, rfl, respects_put hfree⟩
      · cases hq
  | upsert k f =>
    obtain ⟨hfree, rfl, rfl⟩ := perform_upsert hq
    rw [h.view]
    exact ⟨x.write k _, ⟨rfl, rfl⟩, h.put _, rfl, respects_put hfree⟩
  | scan =>
    obtain ⟨rfl, rfl⟩ := Prod.mk.inj (Option.some.inj hq)
    refine ⟨x, ⟨fun k row => ?_, nodup_rows, rfl⟩, h, rfl, respects_refl⟩
    rw [mem_rows, h.view]
  | commit => exact absurd rfl hcommit
  | rollback => exact absurd rfl hrollback

/-- A statement of the transaction, as it is seen from inside. -/
theorem exec (h : Sees s pid x) {check : (k : Key) → Row k → Bool} {fails : Statement Key Row → Prop}
    {q : Statement Key Row} {r : Option q.Answer} (hexec : Exec check fails pid q s r t)
    (hcommit : q ≠ .commit) (hrollback : q ≠ .rollback) :
    ∃ y, Inside.Does check fails q x r y ∧ Sees t pid y ∧ t.committed = s.committed ∧
      Respects pid s t := by
  cases hexec with
  | done hq hcheck =>
    obtain ⟨y, hanswers, hsees⟩ := h.perform hq hcommit hrollback
    exact ⟨y, ⟨hanswers, hcheck⟩, hsees⟩
  | violation hq hcheck =>
    obtain ⟨y, hanswers, -⟩ := h.perform hq hcommit hrollback
    exact ⟨x, ⟨rfl, Or.inr ⟨_, y, hanswers, hcheck⟩⟩, h, rfl, respects_refl⟩
  | failed hfails => exact ⟨x, ⟨rfl, Or.inl hfails⟩, h, rfl, respects_refl⟩
  | unconfirmed => exact absurd rfl hcommit
  | closed => exact absurd rfl hrollback

/-- The others leave the view from inside as it is, but for the committed rows. -/
theorem respects (h : Sees s pid x) (hstep : Respects other s t) (hne : other ≠ pid) :
    Sees t pid { x with committed := t.committed } where
  wrote := h.wrote.respects hstep hne
  owned k hk := (hstep.kept k pid (Ne.symm hne) (h.owned k hk)).1
  committed := rfl

/-- The commit publishes what the transaction sees. -/
theorem committed_finish (h : Sees s pid x) : (s.finish pid true).committed = x.view := by
  funext k
  rw [h.wrote.committed_finish, h.overlay_eq]

end Sees

section Statements

variable {Key : Type} {Row : Key → Type} {Pid : Type} [DecidableEq Key] [DecidableEq Pid]
  {check : (k : Key) → Row k → Bool} {fails : Statement Key Row → Prop} {pid : Pid}
  {s t : RowStore Key Row Pid} {x y z : Inside Key Row} {q : Statement Key Row}
  {r : Option q.Answer} {C : Contract Key Row}

/-- A statement inside a transaction commits nothing. -/
theorem Inside.Does.committed (h : Inside.Does check fails q x r y) : y.committed = x.committed :=
  funext fun k => congrFun (h.frame (k := k)).2.2 k

/-- A statement leads to a later point of the transaction. -/
theorem Others.does (h : Others C x z) (hdoes : Inside.Does check fails q z r y) :
    Advances C x y := by
  refine h.advances.trans ⟨fun k => (hdoes.frame (k := k)).2.1, ?_, ?_, ?_⟩
  · intro k _
    rw [hdoes.committed]
  · rw [hdoes.committed]
    exact C.refl _ _
  · rw [hdoes.committed]
    exact id

theorem exec_rollback_finish {r : Option Unit}
    (h : Exec check fails pid .rollback s r t) : t = s.finish pid false := by
  cases h with
  | done hq =>
    obtain ⟨-, rfl⟩ := Prod.mk.inj (Option.some.inj hq)
    rfl
  | violation hq hcheck => cases hcheck
  | failed _ hne => exact absurd rfl hne
  | closed => rfl

/-- A commit takes effect or, when it fails, may have none. -/
theorem exec_commit_cases {r : Option Unit}
    (h : Exec check fails pid .commit s r t) :
    (t = s.finish pid true ∧ (r = none → fails .commit)) ∨ t = s ∧ r = none ∧ fails .commit := by
  cases h with
  | done hq =>
    obtain ⟨-, rfl⟩ := Prod.mk.inj (Option.some.inj hq)
    exact Or.inl ⟨rfl, fun h => (nomatch h)⟩
  | violation hq hcheck => cases hcheck
  | failed hfails => exact Or.inr ⟨rfl, rfl, hfails⟩
  | unconfirmed hfails => exact Or.inl ⟨rfl, fun _ => hfails⟩

theorem exec_begin_same {r : Option Unit}
    (h : Exec check fails pid .begin s r t) : t = s ∧ (r = none → fails .begin) := by
  cases h with
  | done hq =>
    obtain ⟨-, rfl⟩ := Prod.mk.inj (Option.some.inj hq)
    exact ⟨rfl, fun h => (nomatch h)⟩
  | violation hq hcheck => cases hcheck
  | failed hfails => exact ⟨rfl, fun _ => hfails⟩

end Statements

end Talenro.Lib
