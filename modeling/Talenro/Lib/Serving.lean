import Talenro.Lib.Checks
import Talenro.Lib.Isolation

/-!
# Transactions served by one store

Processes that do nothing but run transactions on a store.  Each starts on a connection of its
own, every statement can fail, and when the store restarts all transactions end.

A transaction is verified from inside: by the runs of its body under the operation `within`, which
lets the others act before every statement.  `sound_serving` says that the processes are safe side
by side when every run of a body leads to an allowed commit, and `commit_of_step` that the committed
rows then change by such commits only.
-/

set_option autoImplicit false
set_option linter.unusedSectionVars false

namespace Talenro.Lib

open Prog RowStore

variable {Key : Type} {Row : Key → Type} {Pid Task Out α ε : Type} [DecidableEq Key]
  [DecidableEq Pid]

/-- What a statement answers, unless it fails. -/
abbrev Answered (q : Statement Key Row) : Type := Option q.Answer

/-- A transaction: what its body has done is committed, or rolled back when it failed. -/
def transaction (failed : ε) (body : ExceptT ε (Prog (Statement Key Row) Answered) α) :
    ExceptT ε (Prog (Statement Key Row) Answered) α := do
  let begun ← Prog.perform .begin
  match begun with
  | none => throw failed
  | some _ =>
    let outcome ← ExceptT.lift body.run
    match outcome with
    | .error e =>
      let _ ← Prog.perform .rollback
      throw e
    | .ok a =>
      let confirmed ← Prog.perform .commit
      match confirmed with
      | none => throw failed
      | some _ => pure a

/-- Processes that run transactions. -/
def serving (check : (k : Key) → Row k → Bool)
    (program : Task → Prog (Statement Key Row) Answered Out) :
    System Pid Task Out (Statement Key Row) Answered (RowStore Key Row Pid) where
  program := program
  arrive pid _ s := s.finish pid false
  exec pid q s r t := Exec check (fun _ => True) pid q s r t
  release pid s := s.finish pid false
  crash s t := t = s.restart

/-! ## The view from inside -/

/-- One statement of a transaction, after steps of the others. -/
def within (C : Contract Key Row) (check : (k : Key) → Row k → Bool)
    (fails : Statement Key Row → Prop) (q : Statement Key Row) (x : Inside Key Row)
    (r : Answered q) (y : Inside Key Row) : Prop :=
  ∃ z, Others C x z ∧ Inside.Does check fails q z r y

/-- The statement does not end the transaction. -/
def Unending (q : Statement Key Row) : Prop := q ≠ .commit ∧ q ≠ .rollback

variable {C : Contract Key Row} {check : (k : Key) → Row k → Bool} {x y : Inside Key Row}
  {fails : Statement Key Row → Prop}

/-- A row that the transaction owns stays owned and as it is committed. -/
theorem runs_within_owned {p : Prog (Statement Key Row) Answered α} {a : α} {k : Key}
    {row : Option (Row k)} (h : Runs (within C check fails) p x a y)
    (hx : x.owned k ∧ x.committed k = row) : y.owned k ∧ y.committed k = row := by
  refine h.preserves (P := fun z => z.owned k ∧ z.committed k = row) ?_ hx
  rintro q z r w ⟨v, hothers, hdoes⟩ ⟨howned, hrow⟩
  refine ⟨(hdoes.frame (k := k)).2.1 (hothers.owned ▸ howned), ?_⟩
  rw [hdoes.committed, hothers.kept k howned, hrow]

/-! ## The view from outside -/

/-- A step of a process: the rows of the other transactions are left alone, and the committed rows
are as before or changed by a commit of the task, which owns some rows. -/
def Guarantee (commits : Task → (Key → Prop) → Overlay Key Row → Overlay Key Row → Prop)
    (pid : Pid) (task : Task) (s t : RowStore Key Row Pid) : Prop :=
  Respects pid s t ∧ (t.committed = s.committed ∨
    ∃ owned, (∀ k, owned k → s.owner k = some pid) ∧ commits task owned s.committed t.committed)

/-- The commits of the tasks change what the contract allows. -/
def Lawful (C : Contract Key Row)
    (commits : Task → (Key → Prop) → Overlay Key Row → Overlay Key Row → Prop) : Prop :=
  ∀ task owned c d, commits task owned c d → ∀ held, (∀ k, held k → ¬ owned k) → C.change held c d

/-- The invariant of the committed rows. -/
def Keeps (C : Contract Key Row) (s : RowStore Key Row Pid) : Prop := C.holds s.committed

variable {commits : Task → (Key → Prop) → Overlay Key Row → Overlay Key Row → Prop} {pid : Pid}
  {task : Task} {s t : RowStore Key Row Pid}

theorem hosted_serving (hcommits : Lawful C commits) :
    Hosted (id : RowStore Key Row Pid → _) (Keeps C) (Guarantee commits) C where
  respects h := h.1
  change := by
    rintro q τ u v ⟨-, heq | ⟨owned, howned, hcommit⟩⟩ held hheld
    · show C.change held u.committed v.committed
      rw [heq]
      exact C.refl _ _
    · refine hcommits τ owned _ _ hcommit held fun k hk hown => ?_
      obtain ⟨p, hne, howner⟩ := hheld k hk
      exact hne (Option.some.inj (howner.symm.trans (howned k hown)))
  holds h := h

theorem guarantee_refl : Guarantee commits pid task s s := ⟨respects_refl, Or.inl rfl⟩

theorem guarantee_finish : Guarantee commits pid task s (s.finish pid false) :=
  ⟨respects_finish false, Or.inl (funext committed_rollback)⟩

theorem keeps_finish (h : Keeps C s) : Keeps C (s.finish pid false) := by
  have hsame : (s.finish pid false).committed = s.committed := funext committed_rollback
  rw [Keeps, hsame]
  exact h

/-- The body of a transaction is safe, and a run of it from inside tells how it ended. -/
theorem safe_body (hcommits : Lawful C commits) {p : Prog (Statement Key Row) Answered α}
    (hp : Performs Unending p) (hothers : Others C x y) (hsees : Sees s pid y) :
    Safe (Exec check (fun _ => True) pid) (Keeps C) (Guarantee commits) pid task
      (fun a t => ∃ z w, Runs (within C check fun _ => True) p x a z ∧ Others C z w ∧
        Sees t pid w) p s := by
  refine (hosted_serving hcommits).safe_inside ?_ hp hothers hsees
  intro q s r t x y hq hothers hsees hinv hexec
  obtain ⟨z, hdoes, hz, hcommitted, hrespects⟩ := Sees.exec hsees hexec hq.1 hq.2
  refine ⟨?_, ⟨hrespects, Or.inl hcommitted⟩, z, z, ⟨y, hothers, hdoes⟩, Others.refl ?_, hz⟩
  · rw [Keeps, hcommitted]
    exact hinv
  · rw [hdoes.committed]
    exact hothers.holds

/-- A transaction is safe when what its body commits is allowed. -/
theorem safe_transaction (hcommits : Lawful C commits) {failed : ε}
    {body : ExceptT ε (Prog (Statement Key Row) Answered) α} (hp : Performs Unending body.run)
    (hidle : s.Idle pid)
    (hcommit : ∀ c a x y, C.holds c →
      Runs (within C check fun _ => True) body.run (Inside.start c) (.ok a) x → Others C x y →
      C.holds y.view ∧ (y.view = y.committed ∨ commits task y.owned y.committed y.view)) :
    Safe (Exec check (fun _ => True) pid) (Keeps C) (Guarantee commits) pid task
      (fun _ _ => True) (transaction failed body).run s := by
  apply safe_run_perform_bind
  intro t hrely hinv r u hexec
  obtain ⟨rfl, -⟩ := exec_begin_same hexec
  refine ⟨hinv, guarantee_refl, ?_⟩
  cases r with
  | none => exact safe_run_throw fun _ _ _ => trivial
  | some _ =>
    apply safe_run_lift_bind hinv
    have hidle' : u.Idle pid := (hosted_serving hcommits).idle hidle hrely
    have hstart : Others C (Inside.start u.committed) (Inside.start u.committed) :=
      Others.refl hinv
    refine (safe_body hcommits hp hstart (Sees.of_idle hidle')).mono ?_
    rintro outcome v hinv' ⟨x, y, hruns, hothers, hsees⟩
    cases outcome with
    | error e =>
      apply safe_run_perform_bind
      intro w _ hinv'' r w' hexec
      obtain rfl := exec_rollback_finish hexec
      exact ⟨keeps_finish hinv'', guarantee_finish, safe_run_throw fun _ _ _ => trivial⟩
    | ok a =>
      apply safe_run_perform_bind
      intro w hrely' hinv'' r w' hexec
      have hend : ∀ v', Safe (Exec check (fun _ => True) pid) (Keeps C) (Guarantee commits) pid task
          (fun _ _ => True) (match r with
            | none => throw failed
            | some _ => pure a : ExceptT ε (Prog (Statement Key Row) Answered) α).run v' := by
        intro v'
        cases r <;> exact fun _ _ _ => trivial
      rcases exec_commit_cases hexec with ⟨rfl, -⟩ | ⟨rfl, -, -⟩
      · obtain ⟨z, hz, hsees'⟩ := (hosted_serving hcommits).sees hsees hrely' hinv''
        obtain ⟨hholds, hallowed⟩ := hcommit _ a x z hinv hruns (hothers.trans hz)
        have hfinish : (w.finish pid true).committed = z.view := Sees.committed_finish hsees'
        refine ⟨?_, ⟨respects_finish true, ?_⟩, hend _⟩
        · rw [Keeps, hfinish]
          exact hholds
        · rw [hfinish, show w.committed = z.committed from hsees'.committed]
          exact hallowed.imp_right fun h => ⟨z.owned, hsees'.owned, h⟩
      · exact ⟨hinv'', guarantee_refl, hend _⟩

/-! ## Processes side by side -/

variable {failed : ε} {body : Task → ExceptT ε (Prog (Statement Key Row) Answered) α}

/-- Transactions whose commits are allowed are safe side by side. -/
theorem sound_serving (hcommits : Lawful C commits) (hp : ∀ task, Performs Unending (body task).run)
    (hcommit : ∀ task c a x y, C.holds c →
      Runs (within C check fun _ => True) (body task).run (Inside.start c) (.ok a) x →
      Others C x y →
      C.holds y.view ∧ (y.view = y.committed ∨ commits task y.owned y.committed y.view)) :
    Sound (serving check fun task => (transaction failed (body task)).run) (Keeps C)
      (Guarantee commits) fun (_ : Pid) _ _ _ _ => True where
  arrive _ _ _ hinv := ⟨keeps_finish hinv, guarantee_finish⟩
  safe _ task _ _ := safe_transaction hcommits (hp task) (finish_idle false) (hcommit task)
  release _ _ _ hinv := ⟨keeps_finish hinv, guarantee_finish⟩
  crash s t hinv hcrash := by
    obtain rfl := hcrash
    exact hinv

/-- A step leaves the committed rows as they are, or it is a commit of some task. -/
theorem commit_of_serving_step {program : Task → Prog (Statement Key Row) Answered Out}
    {post : Pid → Task → RowStore Key Row Pid → Out → RowStore Key Row Pid → Prop}
    (hsound : Sound (serving check program) (Keeps C) (Guarantee commits) post)
    {init : RowStore Key Row Pid} (hinit : C.holds init.committed)
    {pool pool' : Pool Pid Task Out (Statement Key Row) Answered (RowStore Key Row Pid)}
    (hreach : (serving check program).Reachable init pool)
    {label : Label Pid Task Out (RowStore Key Row Pid)}
    (hstep : (serving check program).Step pool label pool') :
    pool'.state.committed = pool.state.committed ∨
      ∃ pid run owned, label = .op pid ∧ pool.running pid = some run ∧
        commits run.task owned pool.state.committed pool'.state.committed := by
  cases label with
  | op pid =>
    obtain ⟨run, hrun, -, hchange⟩ := hsound.op hinit hreach hstep
    exact hchange.imp_right fun ⟨owned, _, hcommit⟩ => ⟨pid, run, owned, rfl, hrun, hcommit⟩
  | crash =>
    cases hstep with
    | crash h =>
      obtain rfl := h
      exact Or.inl rfl
  | _ =>
    cases hstep
    exact Or.inl (funext committed_rollback)

end Talenro.Lib
