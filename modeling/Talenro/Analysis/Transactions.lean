import Talenro.Lib.Isolation
import Talenro.Model.Backend

/-!
# Transactions under interference

A request does its work in transactions, other requests running beside it.  This file
connects two views of a transaction.  From outside it is a process among others over
the `Backend`, and what is proved of it is `Safe`.  From inside it is a run of its body
by the operations `inside`, between which the others may change what they do not own.
`safe_withinTransaction` derives the first from the second: it is enough to look at the
runs of the body, and at what they commit.
-/

set_option autoImplicit false

namespace Talenro.Analysis

open Lib Prog RowStore

variable {P : Platform} {α ε : Type}

/-- The rows of the database. -/
abbrev Rows : Type := Overlay Key Row

/-! ## Inside a transaction -/

/-- The environment can answer an operation in this way. -/
def CanAnswer (environment : Environment P) (o : Op) (r : Res P o) : Prop :=
  ∃ s, environment s o r

/-- One operation of a transaction, after steps of the others. -/
def inside (C : Contract Key Row) (environment : Environment P) :
    (o : Op) → Inside Key Row → Res P o → Inside Key Row → Prop
  | .statement q, x, r, y => ∃ z, Others C x z ∧
      Inside.Does constraints (fun q => CanAnswer environment (.statement q) none) q z r y
  | o, x, r, y => CanAnswer environment o r ∧ y = x

/-- The operations that do not end a transaction. -/
def Unending : Op → Prop
  | .statement q => q ≠ .commit ∧ q ≠ .rollback
  | _ => True

variable {y : Inside Key Row} {o : Op} {p : Prog Op (Res P) α} {a : α} {r : Res P o}

/-- One operation leads to a later point of the transaction. -/
theorem inside_advances {C : Contract Key Row} {environment : Environment P} {x : Inside Key Row}
    (h : inside C environment o x r y) : Advances C x y := by
  cases o with
  | statement q =>
    obtain ⟨z, hothers, hdoes⟩ := h
    exact hothers.does hdoes
  | _ =>
    obtain ⟨-, rfl⟩ := h
    exact Advances.refl

/-- So does a run. -/
theorem runs_advances {C : Contract Key Row} {environment : Environment P} {x : Inside Key Row}
    (h : Runs (inside C environment) p x a y) : Advances C x y :=
  h.preserves (P := fun z => Advances C x z) (fun _ _ _ _ hstep hz => hz.trans (inside_advances hstep))
    Advances.refl

/-- The operation does not write the row. -/
def Avoids (k : Key) : Op → Prop
  | .statement q => q.target ≠ some k
  | _ => True

/-- A row that no operation of a program writes is not written by its runs. -/
theorem runs_written {C : Contract Key Row} {environment : Environment P} {k : Key}
    (hp : Performs (Avoids k) p) {x : Inside Key Row} (h : Runs (inside C environment) p x a y) :
    y.written k = x.written k := by
  induction p generalizing x with
  | ret b =>
    obtain ⟨-, rfl⟩ := h
    rfl
  | call o next ih =>
    obtain ⟨r, z, hstep, hrest⟩ := h
    rw [ih r (hp.2 r) hrest]
    cases o with
    | statement q =>
      obtain ⟨w, hothers, hdoes⟩ := hstep
      rw [hdoes.frame.1 hp.1, hothers.written]
    | _ =>
      obtain ⟨-, rfl⟩ := hstep
      rfl

/-! ## The view from outside -/

variable {Task : Type}

/-- A step of a process: the rows of the other transactions are left alone, and the
committed rows are as before or changed by a commit of the task, which owns some rows. -/
def guarantee (commits : Task → (Key → Prop) → Rows → Rows → Prop) (pid : Pid) (task : Task)
    (s t : Backend) : Prop :=
  Respects pid s.database t.database ∧
    (t.database.committed = s.database.committed ∨
      ∃ owned, (∀ k, owned k → s.database.owner k = some pid) ∧
        commits task owned s.database.committed t.database.committed)

/-- The commits of the tasks change what the contract allows. -/
def Lawful (C : Contract Key Row) (commits : Task → (Key → Prop) → Rows → Rows → Prop) : Prop :=
  ∀ task owned c d, commits task owned c d → ∀ held, (∀ k, held k → ¬ owned k) → C.change held c d

/-- The invariant of the committed rows. -/
def Invariant (C : Contract Key Row) (s : Backend) : Prop := C.holds s.database.committed

variable {C : Contract Key Row} {environment : Environment P} {pid : Pid} {task : Task}
  {commits : Task → (Key → Prop) → Rows → Rows → Prop} {s t : Backend} {x : Inside Key Row}

/-- The requests host the database. -/
theorem hosted (hcommits : Lawful C commits) :
    Hosted Backend.database (Invariant C) (guarantee commits) C where
  respects h := h.1
  change := by
    rintro q τ u v ⟨-, heq | ⟨owned, howned, hcommit⟩⟩ held hheld
    · rw [heq]
      exact C.refl _ _
    · refine hcommits τ owned _ _ hcommit held fun k hk hown => ?_
      obtain ⟨p, hne, howner⟩ := hheld k hk
      exact hne (Option.some.inj (howner.symm.trans (howned k hown)))
  holds h := h

/-- A process without an open transaction stays so. -/
theorem idle_rely (h : s.database.Idle pid) (hrely : Rely (guarantee commits) pid s t) :
    t.database.Idle pid :=
  hrely.preserves (P := fun u => u.database.Idle pid)
    (fun _ _ _ _ hq hguar hidle => hidle.respects hguar.1 hq) h

/-- The committed rows change as the contract allows. -/
theorem change_rely (hcommits : Lawful C commits)
    (hrely : Rely (guarantee commits) pid s t) :
    C.anyChange s.database.committed t.database.committed :=
  (hosted hcommits).anyChange hrely

/-- An operation that is not a statement leaves the database alone. -/
theorem exec_other (ho : ∀ q, o ≠ .statement q) (h : exec environment pid o s r t) :
    environment s o r ∧ t.database = s.database := by
  cases o with
  | statement q => exact absurd rfl (ho q)
  | sign message =>
    obtain ⟨henv, rfl⟩ := h
    exact ⟨henv, rfl⟩
  | setChallenge key record =>
    refine ⟨h.1, ?_⟩
    rcases h.2 with ⟨-, rfl⟩ | ⟨-, rfl | rfl⟩
    · split <;> rfl
    · rfl
    · split <;> rfl
  | takeChallenge key =>
    refine ⟨h.1, ?_⟩
    rcases h.2 with ⟨-, rfl⟩ | ⟨-, rfl | rfl⟩ <;> rfl
  | _ =>
    obtain ⟨henv, rfl⟩ := h
    exact ⟨henv, rfl⟩

/-- One operation of an open transaction, from outside and from inside. -/
theorem exec_inside (ho : Unending o) (hothers : Others C x y) (hsees : Sees s.database pid y)
    (h : exec environment pid o s r t) :
    t.database.committed = s.database.committed ∧ Respects pid s.database t.database ∧
      ∃ z w, inside C environment o x r z ∧ Others C z w ∧ Sees t.database pid w := by
  cases o with
  | statement q =>
    obtain ⟨d, hexec, rfl⟩ := h
    obtain ⟨z, hdoes, hz, hcommitted, hrespects⟩ := hsees.exec hexec ho.1 ho.2
    refine ⟨hcommitted, hrespects, z, z, ⟨y, hothers, ?_⟩, Others.refl ?_, hz⟩
    · exact hdoes.mono fun q hq => ⟨s, hq⟩
    · rw [← hz.committed, hcommitted, hsees.committed]
      exact hothers.holds
  | _ =>
    obtain ⟨henv, hdatabase⟩ := exec_other (by simp) h
    rw [hdatabase]
    exact ⟨rfl, respects_refl, x, y, ⟨⟨s, henv⟩, rfl⟩, hothers, hsees⟩

/-- The body of a transaction is safe, and a run of it from inside tells how it ended. -/
theorem safe_inside (hcommits : Lawful C commits) (hp : Performs Unending p)
    (hothers : Others C x y) (hsees : Sees s.database pid y) :
    Safe (exec environment pid) (Invariant C) (guarantee commits) pid task
      (fun a t => ∃ z w, Runs (inside C environment) p x a z ∧ Others C z w ∧
        Sees t.database pid w) p s := by
  refine (hosted hcommits).safe_inside ?_ hp hothers hsees
  intro o s r t x y ho hothers hsees hinv hexec
  obtain ⟨hcommitted, hrespects, hinside⟩ := exec_inside ho hothers hsees hexec
  refine ⟨?_, ⟨hrespects, Or.inl hcommitted⟩, hinside⟩
  rwa [Invariant, hcommitted]

/-! ## Whole transactions -/

/-- The environment can make an operation of a transaction fail. -/
def Faulty (environment : Environment P) : Prop :=
  CanAnswer environment .contextError true ∨ ∃ q, CanAnswer environment (.statement q) none

theorem exec_rollback {r : Option Unit} (h : exec environment pid (.statement .rollback) s r t) :
    t = { s with database := s.database.finish pid false } := by
  obtain ⟨d, hexec, rfl⟩ := h
  rw [exec_rollback_finish hexec]

/-- A commit takes effect or, in a faulty environment, has none. -/
theorem exec_commit {r : Option Unit} (h : exec environment pid (.statement .commit) s r t) :
    (t = { s with database := s.database.finish pid true } ∧
        (r = some () ∨ r = none ∧ Faulty environment)) ∨
      t = s ∧ r = none ∧ Faulty environment := by
  obtain ⟨d, hexec, rfl⟩ := h
  have hfaulty : environment s (.statement .commit) none → Faulty environment :=
    fun hfails => Or.inr ⟨_, s, hfails⟩
  rcases exec_commit_cases hexec with ⟨rfl, hr⟩ | ⟨rfl, rfl, hfails⟩
  · refine Or.inl ⟨rfl, ?_⟩
    cases r with
    | some _ => exact Or.inl rfl
    | none => exact Or.inr ⟨rfl, hfaulty (hr rfl)⟩
  · exact Or.inr ⟨rfl, rfl, hfaulty hfails⟩

theorem exec_begin {r : Option Unit} (h : exec environment pid (.statement .begin) s r t) :
    t = s ∧ (r = some () ∨ r = none ∧ Faulty environment) := by
  obtain ⟨d, hexec, rfl⟩ := h
  obtain ⟨rfl, hr⟩ := exec_begin_same hexec
  refine ⟨rfl, ?_⟩
  cases r with
  | some _ => exact Or.inl rfl
  | none => exact Or.inr ⟨rfl, Or.inr ⟨_, s, hr rfl⟩⟩

/-- How a transaction that began in `s` ended: its body ran from inside, and what it
saw at its commit has been published; or it had no effect. -/
def Ended (C : Contract Key Row) (environment : Environment P) (repository : ε)
    (operation : ExceptT ε (Prog Op (Res P)) α) (s : Backend) (r : Except ε α) (t : Backend) : Prop :=
  match r with
  | .ok a => ∃ c x y, C.holds c ∧ C.anyChange s.database.committed c ∧
      Runs (inside C environment) operation.run (Inside.start c) (.ok a) x ∧ Others C x y ∧
      C.anyChange y.view t.database.committed
  | .error e => (e = repository ∧ Faulty environment) ∨
      ∃ c x, C.holds c ∧ C.anyChange s.database.committed c ∧
        Runs (inside C environment) operation.run (Inside.start c) (.error e) x

/-- A rollback, and what follows it. -/
theorem safe_rollback {post : Except ε α → Backend → Prop} {e : ε}
    (h : ∀ t, t.database.Idle pid → post (.error e) t) :
    Safe (exec environment pid) (Invariant C) (guarantee commits) pid task post
      (do
        let _ ← Prog.perform (Op.statement .rollback)
        throw e : ExceptT ε (Prog Op (Res P)) α).run s := by
  apply safe_run_perform_bind
  intro t hrely hinv r u hexec
  obtain rfl := exec_rollback hexec
  have hcommitted : (t.database.finish pid false).committed = t.database.committed :=
    funext committed_rollback
  refine ⟨?_, ⟨respects_finish false, Or.inl hcommitted⟩, ?_⟩
  · rwa [Invariant, hcommitted]
  · apply safe_run_throw
    intro v hrely' _
    exact h v (idle_rely (finish_idle false) hrely')

/-- The commit of a transaction that sees `x`. -/
theorem safe_commit (hcommits : Lawful C commits) {repository : ε}
    {post : Except ε α → Backend → Prop} (hsees : Sees s.database pid x)
    (hcommit : ∀ y, Others C x y →
      C.holds y.view ∧ (y.view = y.committed ∨ commits task y.owned y.committed y.view))
    (hok : ∀ y t, Others C x y → t.database.Idle pid → C.anyChange y.view t.database.committed →
      post (.ok a) t)
    (herror : Faulty environment → ∀ t, t.database.Idle pid → post (.error repository) t) :
    Safe (exec environment pid) (Invariant C) (guarantee commits) pid task post
      (do
        let confirmed ← Prog.perform (Op.statement .commit)
        match confirmed with
        | some _ => pure a
        | none =>
          let _ ← Prog.perform (Op.statement .rollback)
          throw repository : ExceptT ε (Prog Op (Res P)) α).run s := by
  apply safe_run_perform_bind
  intro t hrely hinv r u hexec
  obtain ⟨y, hothers, hy⟩ := (hosted hcommits).sees hsees hrely hinv
  obtain ⟨hholds, hcommitted⟩ := hcommit y hothers
  rcases exec_commit hexec with ⟨rfl, hr⟩ | ⟨rfl, rfl, hfaulty⟩
  · refine ⟨?_, ⟨respects_finish true, ?_⟩, ?_⟩
    · rwa [Invariant, hy.committed_finish]
    · rw [hy.committed_finish, hy.committed]
      exact hcommitted.imp_right fun hcommit => ⟨y.owned, hy.owned, hcommit⟩
    · rcases hr with rfl | ⟨rfl, hfaulty⟩
      · apply safe_run_pure
        intro v hrely' _
        refine hok y v hothers (idle_rely (finish_idle true) hrely') ?_
        rw [← hy.committed_finish]
        exact change_rely hcommits hrely'
      · exact safe_rollback (herror hfaulty)
  · exact ⟨hinv, ⟨respects_refl, Or.inl rfl⟩, safe_rollback (herror hfaulty)⟩

/-- A transaction is safe when what its body commits is allowed. -/
theorem safe_withinTransaction (hcommits : Lawful C commits)
    {repository : ε} {operation : ExceptT ε (Prog Op (Res P)) α}
    (hp : Performs Unending operation.run) (hidle : s.database.Idle pid)
    (hcommit : ∀ c a x y, C.holds c → C.anyChange s.database.committed c →
      Runs (inside C environment) operation.run (Inside.start c) (.ok a) x → Others C x y →
      C.holds y.view ∧ (y.view = y.committed ∨ commits task y.owned y.committed y.view)) :
    Safe (exec environment pid) (Invariant C) (guarantee commits) pid task
      (fun r t => t.database.Idle pid ∧ Ended C environment repository operation s r t)
      (withinTransaction P repository operation).run s := by
  apply safe_run_perform_bind
  rintro t hrely hinv canceled _ ⟨henv, rfl⟩
  refine ⟨hinv, ⟨respects_refl, Or.inl rfl⟩, ?_⟩
  have hidle₁ := idle_rely hidle hrely
  have hchange := change_rely (C := C) hcommits hrely
  apply safe_run_ofExcept_bind
  · -- the context is alive
    intro _ _
    apply safe_run_bind hinv
    apply safe_run_perform_bind
    intro u hrely₂ hinv₂ r v hexec
    obtain ⟨rfl, hr⟩ := exec_begin hexec
    refine ⟨hinv₂, ⟨respects_refl, Or.inl rfl⟩, ?_⟩
    apply safe_run_ofExcept
    intro v hrely₃ hinv₃
    have hidle₃ := idle_rely (idle_rely hidle₁ hrely₂) hrely₃
    have hchange₃ := C.trans _ _ _ _ (C.trans _ _ _ _ hchange (change_rely (C := C) hcommits hrely₂))
      (change_rely (C := C) hcommits hrely₃)
    rcases hr with rfl | ⟨rfl, hfaulty⟩
    · apply safe_run_lift_bind hinv₃
      have hstart : Others C (Inside.start v.database.committed) (Inside.start v.database.committed) :=
        Others.refl hinv₃
      apply (safe_inside hcommits hp hstart (Sees.of_idle hidle₃)).mono
      rintro outcome w - ⟨x, y, hruns, hothers, hsees⟩
      cases outcome with
      | error e =>
        apply safe_rollback
        intro t' hidle'
        exact ⟨hidle', Or.inr ⟨_, x, hinv₃, hchange₃, hruns⟩⟩
      | ok a =>
        refine safe_commit hcommits hsees ?_ ?_ ?_
        · intro z hz
          exact hcommit _ a x z hinv₃ hchange₃ hruns (hothers.trans hz)
        · intro z t' hz hidle' hchange'
          exact ⟨hidle', _, x, z, hinv₃, hchange₃, hruns, hothers.trans hz, hchange'⟩
        · intro hfaulty t' hidle'
          exact ⟨hidle', Or.inl ⟨rfl, hfaulty⟩⟩
    · intro w hrely₄ _
      exact ⟨idle_rely hidle₃ hrely₄, Or.inl ⟨rfl, hfaulty⟩⟩
  · intro e he u hrely₂ _
    obtain ⟨hcanceled, rfl⟩ := require_eq_error.mp he
    rw [Bool.not_eq_false] at hcanceled
    subst hcanceled
    exact ⟨idle_rely hidle₁ hrely₂, Or.inl ⟨rfl, Or.inl ⟨_, henv⟩⟩⟩

/-! ## Requests served side by side -/

/-- The connection of `pid` is closed: its transaction ends without effect. -/
def disconnect (pid : Pid) (s : Backend) : Backend :=
  { s with database := s.database.finish pid false }

theorem committed_disconnect (pid : Pid) (s : Backend) :
    (disconnect pid s).database.committed = s.database.committed := funext committed_rollback

theorem disconnect_idle (pid : Pid) (s : Backend) : (disconnect pid s).database.Idle pid :=
  finish_idle false

theorem guarantee_disconnect : guarantee commits pid task s (disconnect pid s) :=
  ⟨respects_finish false, Or.inl (committed_disconnect pid s)⟩

variable {Out : Type}

/-- Processes that serve requests: each starts on a connection of its own, and when the
database restarts all transactions end. -/
def serve (environment : Environment P) (program : Task → Prog Op (Res P) Out) :
    System Pid Task Out Op (Res P) Backend where
  program := program
  arrive pid _ := disconnect pid
  exec := exec environment
  release := disconnect
  crash s t := t = { s with database := s.database.restart }

/-- Requests that are safe one by one are safe side by side. -/
theorem sound_serve {program : Task → Prog Op (Res P) Out}
    {post : Pid → Task → Backend → Out → Backend → Prop}
    (h : ∀ pid task s, Invariant C s → s.database.Idle pid →
      Safe (exec environment pid) (Invariant C) (guarantee commits) pid task (post pid task s)
        (program task) s) :
    Sound (serve environment program) (Invariant C) (guarantee commits) post where
  arrive pid task s hinv := by
    refine ⟨?_, guarantee_disconnect⟩
    rwa [Invariant, serve, committed_disconnect]
  safe pid task s hinv := by
    apply h
    · rwa [Invariant, serve, committed_disconnect]
    · exact disconnect_idle pid s
  release pid task s hinv := by
    refine ⟨?_, guarantee_disconnect⟩
    rwa [Invariant, serve, committed_disconnect]
  crash s t hinv hcrash := by
    obtain rfl := hcrash
    exact hinv

/-- A step that changes the committed rows is a commit of some process, within the
guarantee of its task. -/
theorem commit_of_step {program : Task → Prog Op (Res P) Out}
    {post : Pid → Task → Backend → Out → Backend → Prop}
    (hsound : Sound (serve environment program) (Invariant C) (guarantee commits) post)
    {init : Backend} (hinit : Invariant C init)
    {pool pool' : Pool Pid Task Out Op (Res P) Backend}
    (hreach : (serve environment program).Reachable init pool) {label : Label Pid Task Out Backend}
    (hstep : (serve environment program).Step pool label pool')
    (hchange : pool'.state.database.committed ≠ pool.state.database.committed) :
    ∃ pid run owned, label = .op pid ∧ pool.running pid = some run ∧
      commits run.task owned pool.state.database.committed pool'.state.database.committed := by
  cases label with
  | op pid =>
    obtain ⟨run, hrun, -, hcommit⟩ := hsound.op hinit hreach hstep
    obtain ⟨owned, -, hcommit⟩ := hcommit.resolve_left hchange
    exact ⟨pid, run, owned, rfl, hrun, hcommit⟩
  | crash =>
    cases hstep with
    | crash h =>
      obtain rfl := h
      exact absurd rfl hchange
  | _ =>
    cases hstep
    exact absurd (committed_disconnect _ _) hchange

end Talenro.Analysis
