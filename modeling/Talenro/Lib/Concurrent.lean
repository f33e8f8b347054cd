import Mathlib.Logic.Relation
import Talenro.Lib.Prog

/-!
# Programs running side by side

A `System` runs tasks as processes over one shared state.  A process performs one
operation at a time, steps of different processes interleave freely, a process
can be killed between any two of its steps, and a crash of the machine ends all
of them.

Programs are verified one by one, under interference.  `Safe` says that a
program, whatever the other processes do within their guarantees, keeps the
invariant, keeps to its own guarantee at every step, and ends in a state that
satisfies its postcondition.  `Sound.reachable` then says that in every state the
whole system reaches the invariant holds and every process is still safe.
-/

set_option autoImplicit false

namespace Talenro.Lib

open Relation

/-- Tasks, the programs that serve them, and what their operations do. -/
structure System (Pid Task Out Op : Type) (Res : Op → Type) (σ : Type) where
  /-- The program of a task. -/
  program : Task → Prog Op Res Out
  /-- What the start of a task changes. -/
  arrive : Pid → Task → σ → σ
  /-- One operation of a process. -/
  exec : Pid → (o : Op) → σ → Res o → σ → Prop
  /-- What the end of a process releases. -/
  release : Pid → σ → σ
  /-- A crash of the machine. -/
  crash : σ → σ → Prop

/-- A process: its task, the state in which it started, and what is left to do. -/
structure Running (Task Out Op : Type) (Res : Op → Type) (σ : Type) where
  task : Task
  start : σ
  rest : Prog Op Res Out

/-- The shared state and the processes. -/
structure Pool (Pid Task Out Op : Type) (Res : Op → Type) (σ : Type) where
  state : σ
  running : Pid → Option (Running Task Out Op Res σ)

/-- What happens in a step. -/
inductive Label (Pid Task Out σ : Type) where
  | spawn (pid : Pid) (task : Task)
  | op (pid : Pid)
  | done (pid : Pid) (task : Task) (start : σ) (out : Out)
  | kill (pid : Pid)
  | crash

namespace System

variable {Pid Task Out Op : Type} {Res : Op → Type} {σ : Type} [DecidableEq Pid]
  (S : System Pid Task Out Op Res σ)

/-- One step of the system. -/
inductive Step : Pool Pid Task Out Op Res σ → Label Pid Task Out σ → Pool Pid Task Out Op Res σ →
    Prop where
  | spawn {pool pid task} (h : pool.running pid = none) :
      Step pool (.spawn pid task)
        ⟨S.arrive pid task pool.state, Function.update pool.running pid
          (some ⟨task, S.arrive pid task pool.state, S.program task⟩)⟩
  | op {pool pid task start o next r t} (h : pool.running pid = some ⟨task, start, .call o next⟩)
      (hexec : S.exec pid o pool.state r t) :
      Step pool (.op pid) ⟨t, Function.update pool.running pid (some ⟨task, start, next r⟩)⟩
  | done {pool pid task start out} (h : pool.running pid = some ⟨task, start, .ret out⟩) :
      Step pool (.done pid task start out)
        ⟨S.release pid pool.state, Function.update pool.running pid none⟩
  | kill {pool pid run} (h : pool.running pid = some run) :
      Step pool (.kill pid) ⟨S.release pid pool.state, Function.update pool.running pid none⟩
  | crash {pool t} (h : S.crash pool.state t) : Step pool .crash ⟨t, fun _ => none⟩

/-- The pools reached from a state without processes. -/
inductive Reachable (init : σ) : Pool Pid Task Out Op Res σ → Prop where
  | init : Reachable init ⟨init, fun _ => none⟩
  | step {pool label pool'} (h : Reachable init pool) (hstep : S.Step pool label pool') :
      Reachable init pool'

/-- The pools reached from a pool. -/
def Reaches : Pool Pid Task Out Op Res σ → Pool Pid Task Out Op Res σ → Prop :=
  ReflTransGen fun pool pool' => ∃ label, S.Step pool label pool'

variable {pid : Pid} {pool pool' : Pool Pid Task Out Op Res σ} {task : Task} {t : σ}

theorem Reachable.reaches {S : System Pid Task Out Op Res σ} {init : σ} (h : S.Reachable init pool)
    (hrun : S.Reaches pool pool') : S.Reachable init pool' := by
  induction hrun with
  | refl => exact h
  | tail _ hlast ih =>
    obtain ⟨label, hstep⟩ := hlast
    exact ih.step hstep

/-- A run of a process that nobody interrupts. -/
theorem reaches_of_runs {α : Type} {start : σ} {p : Prog Op Res α} {f : α → Prog Op Res Out} {a : α}
    (hrunning : pool.running pid = some ⟨task, start, p >>= f⟩)
    (h : Prog.Runs (S.exec pid) p pool.state a t) :
    S.Reaches pool ⟨t, Function.update pool.running pid (some ⟨task, start, f a⟩)⟩ := by
  induction p generalizing pool with
  | ret b =>
    obtain ⟨rfl, rfl⟩ := h
    have hsame : Function.update pool.running pid (some ⟨task, start, f a⟩) = pool.running := by
      have hrest : pool.running pid = some ⟨task, start, f a⟩ := hrunning
      rw [← hrest, Function.update_eq_self]
    rw [hsame]
    exact ReflTransGen.refl
  | call o next ih =>
    obtain ⟨r, u, hexec, hrest⟩ := h
    have hstep : S.Step pool (.op pid)
        ⟨u, Function.update pool.running pid (some ⟨task, start, next r >>= f⟩)⟩ :=
      .op hrunning hexec
    have hlater := @ih r ⟨u, Function.update pool.running pid (some ⟨task, start, next r >>= f⟩)⟩
      (Function.update_self ..) hrest
    rw [Function.update_idem] at hlater
    exact ReflTransGen.head ⟨_, hstep⟩ hlater

/-- The program can get alone from `p` in one state to `q` in another. -/
inductive Leads {α : Type} (exec : (o : Op) → σ → Res o → σ → Prop) :
    Prog Op Res α → σ → Prog Op Res α → σ → Prop where
  | refl {p s} : Leads exec p s p s
  | step {o next s r t q u} (h : exec o s r t) (hrest : Leads exec (next r) t q u) :
      Leads exec (.call o next) s q u

theorem Leads.trans {α : Type} {exec : (o : Op) → σ → Res o → σ → Prop} {p q l : Prog Op Res α}
    {s u : σ} (h : Leads exec p s q t) (hrest : Leads exec q t l u) : Leads exec p s l u := by
  induction h with
  | refl => exact hrest
  | step hexec _ ih => exact .step hexec (ih hrest)

/-- A process that nobody interrupts gets to any point of its program. -/
theorem reaches_of_leads {start : σ} {p q : Prog Op Res Out}
    (h : Leads (S.exec pid) p pool.state q t)
    (hrunning : pool.running pid = some ⟨task, start, p⟩) :
    S.Reaches pool ⟨t, Function.update pool.running pid (some ⟨task, start, q⟩)⟩ := by
  obtain ⟨s, running⟩ := pool
  dsimp only at h hrunning
  induction h generalizing running with
  | refl =>
    rw [← hrunning, Function.update_eq_self]
    exact ReflTransGen.refl
  | @step o next s r t q u hexec _ ih =>
    have hstep : S.Step ⟨s, running⟩ (.op pid)
        ⟨t, Function.update running pid (some ⟨task, start, next r⟩)⟩ := .op hrunning hexec
    have hrest := ih (Function.update running pid (some ⟨task, start, next r⟩)) (Function.update_self ..)
    rw [Function.update_idem] at hrest
    exact ReflTransGen.head ⟨_, hstep⟩ hrest

/-- A process starts and gets to some point of its program. -/
theorem reaches_spawned {q : Prog Op Res Out} (hfree : pool.running pid = none)
    (h : Leads (S.exec pid) (S.program task) (S.arrive pid task pool.state) q t) :
    S.Reaches pool ⟨t, Function.update pool.running pid
      (some ⟨task, S.arrive pid task pool.state, q⟩)⟩ := by
  have hleads : S.Reaches ⟨S.arrive pid task pool.state, Function.update pool.running pid
      (some ⟨task, S.arrive pid task pool.state, S.program task⟩)⟩ _ :=
    S.reaches_of_leads h (Function.update_self ..)
  rw [Function.update_idem] at hleads
  exact ReflTransGen.head ⟨_, .spawn hfree⟩ hleads

/-- A process is killed. -/
theorem reaches_kill {run : Running Task Out Op Res σ} {s : σ}
    {running : Pid → Option (Running Task Out Op Res σ)} (hfree : running pid = none) :
    S.Reaches ⟨s, Function.update running pid (some run)⟩ ⟨S.release pid s, running⟩ := by
  have hstep : S.Step ⟨s, Function.update running pid (some run)⟩ (.kill pid)
      ⟨S.release pid s, Function.update (Function.update running pid (some run)) pid none⟩ :=
    .kill (Function.update_self ..)
  rw [Function.update_idem, ← hfree, Function.update_eq_self] at hstep
  exact ReflTransGen.single ⟨_, hstep⟩

/-- A run that changes something has a step that changes it. -/
theorem Reaches.exists_step {S : System Pid Task Out Op Res σ} {β : Type} (view : σ → β)
    (h : S.Reaches pool pool') (hne : view pool'.state ≠ view pool.state) :
    ∃ before label after, S.Reaches pool before ∧ S.Step before label after ∧
      view after.state ≠ view before.state := by
  induction h with
  | refl => exact absurd rfl hne
  | @tail middle last hrun hlast ih =>
    by_cases hmiddle : view middle.state = view pool.state
    · obtain ⟨label, hstep⟩ := hlast
      exact ⟨middle, label, last, hrun, hstep, fun h => hne (h.trans hmiddle)⟩
    · exact ih hmiddle

/-- A run that loses a property has a step that loses it. -/
theorem Reaches.exists_loss {S : System Pid Task Out Op Res σ} (P : σ → Prop)
    (h : S.Reaches pool pool') (hfrom : P pool.state) (hto : ¬ P pool'.state) :
    ∃ before label after, S.Reaches pool before ∧ S.Step before label after ∧
      S.Reaches after pool' ∧ P before.state ∧ ¬ P after.state := by
  induction h with
  | refl => exact absurd hfrom hto
  | @tail middle last hrun hlast ih =>
    by_cases hmiddle : P middle.state
    · obtain ⟨label, hstep⟩ := hlast
      exact ⟨middle, label, last, hrun, hstep, ReflTransGen.refl, hmiddle, hto⟩
    · obtain ⟨before, label, after, hbefore, hstep, hafter, hlost⟩ := ih hmiddle
      exact ⟨before, label, after, hbefore, hstep, hafter.tail hlast, hlost⟩

/-- The system in which only operations that meet a condition happen: its runs are those
of the system whose operations all meet it. -/
def restrict (allowed : Pid → (o : Op) → σ → Res o → σ → Prop) : System Pid Task Out Op Res σ where
  program := S.program
  arrive := S.arrive
  exec pid o s r t := S.exec pid o s r t ∧ allowed pid o s r t
  release := S.release
  crash := S.crash

end System

/-! ## Safety under interference -/

section Safety

variable {Pid Task Op : Type} {Res : Op → Type} {σ α β ε : Type}

/-- The steps other processes can take, whatever their tasks are. -/
def Rely (guar : Pid → Task → σ → σ → Prop) (pid : Pid) : σ → σ → Prop :=
  ReflTransGen fun s t => ∃ q task, q ≠ pid ∧ guar q task s t

theorem rely_refl {guar : Pid → Task → σ → σ → Prop} {pid : Pid} (s : σ) : Rely guar pid s s :=
  ReflTransGen.refl

variable {o : Op} {p : Prog Op Res α} {f : α → ExceptT ε (Prog Op Res) β} {post : α → σ → Prop}
  {s t : σ}

/-- What every step of another process preserves, the other processes preserve. -/
theorem Rely.preserves {guar : Pid → Task → σ → σ → Prop} {pid : Pid} {P : σ → Prop}
    (h : Rely guar pid s t) (hstep : ∀ q task s t, q ≠ pid → guar q task s t → P s → P t) (hs : P s) :
    P t := by
  induction h with
  | refl => exact hs
  | tail _ hlast ih =>
    obtain ⟨q, task, hq, hg⟩ := hlast
    exact hstep q task _ _ hq hg ih

/-- A relation that contains every step of the others and is a preorder contains
their runs. -/
theorem Rely.le {guar : Pid → Task → σ → σ → Prop} {pid : Pid} {R : σ → σ → Prop}
    (h : Rely guar pid s t) (hrefl : ∀ s, R s s) (htrans : ∀ s t u, R s t → R t u → R s u)
    (hstep : ∀ q task s t, q ≠ pid → guar q task s t → R s t) : R s t := by
  induction h with
  | refl => exact hrefl s
  | tail _ hlast ih =>
    obtain ⟨q, task, hq, hg⟩ := hlast
    exact htrans _ _ _ ih (hstep q task _ _ hq hg)

variable (exec : (o : Op) → σ → Res o → σ → Prop) (inv : σ → Prop)
  (guar : Pid → Task → σ → σ → Prop) (pid : Pid) (task : Task)

/-- The program is safe from state `s` on: at each of its steps, taken after any
steps of the others, it keeps the invariant and its guarantee, and when it ends its
postcondition holds and the others cannot destroy it. -/
def Safe (post : α → σ → Prop) : Prog Op Res α → σ → Prop
  | .ret a, s => ∀ t, Rely guar pid s t → inv t → post a t
  | .call o next, s => ∀ t, Rely guar pid s t → inv t → ∀ r u, exec o t r u →
      inv u ∧ guar pid task t u ∧ Safe post (next r) u

variable {exec inv guar pid task}

/-- Safety is stable under the steps of the others. -/
theorem Safe.stable (h : Safe exec inv guar pid task post p s) (hrely : Rely guar pid s t) :
    Safe exec inv guar pid task post p t := by
  cases p with
  | ret a | call o next => exact fun u hu => h u (hrely.trans hu)

theorem Safe.mono {post' : α → σ → Prop} (h : Safe exec inv guar pid task post p s)
    (hpost : ∀ a t, inv t → post a t → post' a t) : Safe exec inv guar pid task post' p s := by
  induction p generalizing s with
  | ret a => exact fun t ht hi => hpost a t hi (h t ht hi)
  | call o next ih =>
    intro t ht hi r u he
    obtain ⟨hinv, hguar, hnext⟩ := h t ht hi r u he
    exact ⟨hinv, hguar, ih r hnext⟩

/-- A composition is safe when its first part ends in states from which the second
is. -/
theorem Safe.bind {post : β → σ → Prop} {f : α → Prog Op Res β} (hs : inv s)
    (h : Safe exec inv guar pid task (fun a t => Safe exec inv guar pid task post (f a) t) p s) :
    Safe exec inv guar pid task post (p >>= f) s := by
  induction p generalizing s with
  | ret a => exact h s (rely_refl s) hs
  | call o next ih =>
    rw [Prog.call_bind]
    intro t ht hi r u he
    obtain ⟨hinv, hguar, hnext⟩ := h t ht hi r u he
    exact ⟨hinv, hguar, ih r hinv hnext⟩

/-! ### Programs that can fail -/

theorem safe_run_pure {post : Except ε α → σ → Prop} {a : α}
    (h : ∀ t, Rely guar pid s t → inv t → post (.ok a) t) :
    Safe exec inv guar pid task post (pure a : ExceptT ε (Prog Op Res) α).run s := h

theorem safe_run_throw {post : Except ε α → σ → Prop} {e : ε}
    (h : ∀ t, Rely guar pid s t → inv t → post (.error e) t) :
    Safe exec inv guar pid task post (throw e : ExceptT ε (Prog Op Res) α).run s := h

theorem safe_run_ofExcept {post : Except ε α → σ → Prop} {x : Except ε α}
    (h : ∀ t, Rely guar pid s t → inv t → post x t) :
    Safe exec inv guar pid task post (Prog.ofExcept x : ExceptT ε (Prog Op Res) α).run s := h

/-- An operation, and then the rest of the program. -/
theorem safe_run_perform_bind {post : Except ε β → σ → Prop} {f : Res o → ExceptT ε (Prog Op Res) β}
    (h : ∀ t, Rely guar pid s t → inv t → ∀ r u, exec o t r u →
      inv u ∧ guar pid task t u ∧ Safe exec inv guar pid task post (f r).run u) :
    Safe exec inv guar pid task post (Prog.perform o >>= f).run s := h

/-- A check, and then the rest of the program. -/
theorem safe_run_ofExcept_bind {post : Except ε β → σ → Prop} {x : Except ε α}
    (hok : ∀ a, x = .ok a → Safe exec inv guar pid task post (f a).run s)
    (herror : ∀ e, x = .error e → ∀ t, Rely guar pid s t → inv t → post (.error e) t) :
    Safe exec inv guar pid task post (Prog.ofExcept x >>= f).run s := by
  cases x with
  | ok a => exact hok a rfl
  | error e => exact herror e rfl

/-- A composition of programs that can fail. -/
theorem safe_run_bind {post : Except ε β → σ → Prop} {x : ExceptT ε (Prog Op Res) α} (hs : inv s)
    (h : Safe exec inv guar pid task (fun r t =>
      match r with
      | .ok a => Safe exec inv guar pid task post (f a).run t
      | .error e => ∀ u, Rely guar pid t u → inv u → post (.error e) u) x.run s) :
    Safe exec inv guar pid task post (x >>= f).run s := by
  rw [ExceptT.run_bind]
  apply Safe.bind hs
  apply h.mono
  intro r t _ hr
  cases r with
  | ok a => exact hr
  | error e => exact hr

theorem safe_run_lift_bind {post : Except ε β → σ → Prop} (hs : inv s)
    (h : Safe exec inv guar pid task (fun a t => Safe exec inv guar pid task post (f a).run t) p s)
    :
    Safe exec inv guar pid task post (ExceptT.lift p >>= f).run s := by
  rw [ExceptT.run_bind]
  have hrun : (ExceptT.lift p : ExceptT ε (Prog Op Res) α).run = p >>= fun a => .ret (.ok a) := rfl
  rw [hrun, Prog.bind_bind]
  exact Safe.bind hs h

end Safety

/-! ## Soundness -/

section Soundness

variable {Pid Task Out Op : Type} {Res : Op → Type} {σ : Type} [DecidableEq Pid]

/-- Every task is safe from the moment it starts, and starting, ending and crashing
keep the invariant. -/
structure Sound (S : System Pid Task Out Op Res σ) (inv : σ → Prop) (guar : Pid → Task → σ → σ → Prop)
    (post : Pid → Task → σ → Out → σ → Prop) : Prop where
  arrive : ∀ pid task s, inv s → inv (S.arrive pid task s) ∧
    guar pid task s (S.arrive pid task s)
  safe : ∀ pid task s, inv s → Safe (S.exec pid) inv guar pid task (post pid task (S.arrive pid task s))
    (S.program task) (S.arrive pid task s)
  release : ∀ pid task s, inv s → inv (S.release pid s) ∧ guar pid task s (S.release pid s)
  crash : ∀ s t, inv s → S.crash s t → inv t

variable {S : System Pid Task Out Op Res σ} {inv : σ → Prop} {guar : Pid → Task → σ → σ → Prop}
  {post : Pid → Task → σ → Out → σ → Prop}

/-- The invariant holds and every process is safe. -/
def PoolSafe (S : System Pid Task Out Op Res σ) (inv : σ → Prop) (guar : Pid → Task → σ → σ → Prop)
    (post : Pid → Task → σ → Out → σ → Prop) (pool : Pool Pid Task Out Op Res σ) : Prop :=
  inv pool.state ∧ ∀ pid run, pool.running pid = some run →
    Safe (S.exec pid) inv guar pid run.task (post pid run.task run.start) run.rest pool.state

/-- A step of one process leaves the others safe. -/
theorem safe_others {pool : Pool Pid Task Out Op Res σ} {pid : Pid} {task : Task} {t : σ}
    {new : Option (Running Task Out Op Res σ)}
    (hsafe : ∀ q run, pool.running q = some run →
      Safe (S.exec q) inv guar q run.task (post q run.task run.start) run.rest pool.state)
    (hguar : guar pid task pool.state t)
    (hnew : ∀ run, new = some run → Safe (S.exec pid) inv guar pid run.task (post pid run.task run.start) run.rest t) :
    ∀ q run, Function.update pool.running pid new q = some run →
      Safe (S.exec q) inv guar q run.task (post q run.task run.start) run.rest t := by
  intro q run hrun
  by_cases hq : q = pid
  · subst hq
    rw [Function.update_self] at hrun
    exact hnew run hrun
  · rw [Function.update_of_ne hq] at hrun
    exact (hsafe q run hrun).stable (.single ⟨pid, task, Ne.symm hq, hguar⟩)

/-- One step keeps the pool safe; but for a crash, it is a step some process
guarantees. -/
theorem Sound.step (h : Sound S inv guar post) {pool pool' : Pool Pid Task Out Op Res σ}
    {label : Label Pid Task Out σ} (hpool : PoolSafe S inv guar post pool)
    (hstep : S.Step pool label pool') :
    PoolSafe S inv guar post pool' ∧
      (label = .crash ∨ ∃ pid task, guar pid task pool.state pool'.state) := by
  obtain ⟨hinv, hsafe⟩ := hpool
  cases hstep with
  | @spawn pid task hfree =>
    obtain ⟨hinv', hguar⟩ := h.arrive pid task pool.state hinv
    refine ⟨⟨hinv', safe_others hsafe hguar ?_⟩, Or.inr ⟨pid, _, hguar⟩⟩
    intro run hrun
    obtain rfl := Option.some.inj hrun
    exact h.safe pid task pool.state hinv
  | @op pid task start o next r t hrun hexec =>
    obtain ⟨hinv', hguar, hnext⟩ := hsafe pid _ hrun pool.state (rely_refl _) hinv r t hexec
    refine ⟨⟨hinv', safe_others hsafe hguar ?_⟩, Or.inr ⟨pid, _, hguar⟩⟩
    intro run hnew
    obtain rfl := Option.some.inj hnew
    exact hnext
  | @done pid task start out hrun =>
    obtain ⟨hinv', hguar⟩ := h.release pid task pool.state hinv
    refine ⟨⟨hinv', safe_others hsafe hguar ?_⟩, Or.inr ⟨pid, _, hguar⟩⟩
    intro run hnew
    cases hnew
  | @kill pid run hrun =>
    obtain ⟨hinv', hguar⟩ := h.release pid run.task pool.state hinv
    refine ⟨⟨hinv', safe_others hsafe hguar ?_⟩, Or.inr ⟨pid, _, hguar⟩⟩
    intro run hnew
    cases hnew
  | @crash t hcrash =>
    refine ⟨⟨h.crash _ _ hinv hcrash, ?_⟩, Or.inl rfl⟩
    intro pid run hrun
    cases hrun

/-- In every pool the system reaches, the invariant holds and every process is
safe. -/
theorem Sound.reachable (h : Sound S inv guar post) {init : σ} (hinit : inv init)
    {pool : Pool Pid Task Out Op Res σ} (hreach : S.Reachable init pool) :
    PoolSafe S inv guar post pool := by
  induction hreach with
  | init => exact ⟨hinit, fun pid run hrun => by cases hrun⟩
  | step _ hstep ih => exact (h.step ih hstep).1

/-- An operation of a process keeps to the guarantee of its task. -/
theorem Sound.op (h : Sound S inv guar post) {init : σ} (hinit : inv init)
    {pool pool' : Pool Pid Task Out Op Res σ} (hreach : S.Reachable init pool) {pid : Pid}
    (hstep : S.Step pool (.op pid) pool') :
    ∃ run, pool.running pid = some run ∧ guar pid run.task pool.state pool'.state := by
  obtain ⟨hinv, hsafe⟩ := h.reachable hinit hreach
  cases hstep with
  | op hrun hexec =>
    exact ⟨_, hrun, (hsafe pid _ hrun pool.state (rely_refl _) hinv _ _ hexec).2.1⟩

/-- A task that ends satisfies its postcondition. -/
theorem Sound.done (h : Sound S inv guar post) {init : σ} (hinit : inv init)
    {pool pool' : Pool Pid Task Out Op Res σ} (hreach : S.Reachable init pool) {pid : Pid} {task : Task}
    {start : σ} {out : Out} (hstep : S.Step pool (.done pid task start out) pool') :
    post pid task start out pool.state := by
  obtain ⟨hinv, hsafe⟩ := h.reachable hinit hreach
  cases hstep with
  | done hrun => exact hsafe pid _ hrun pool.state (rely_refl _) hinv

end Soundness

end Talenro.Lib
