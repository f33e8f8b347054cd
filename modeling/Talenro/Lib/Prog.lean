import Mathlib.Tactic

/-!
# Programs that perform operations

A program either returns or performs an operation of a signature `Op` and goes
on with its result, of type `Res o`.  The programs verified here perform file
system steps, database statements and calls to other services; the signature
names those steps, and a semantics says what each can answer and do.

`Runs` is the meaning of a program executed alone: the operations are performed
one after the other by a relation `exec`, which may be nondeterministic, so
that faults and the choices of the environment are covered.  Programs that can
fail are written in `ExceptT`; the lemmas at the end peel such a run apart.
-/

set_option autoImplicit false

namespace Talenro.Lib

/-- A program over the operations `Op`, an operation `o` being answered by a
value of type `Res o`. -/
inductive Prog (Op : Type) (Res : Op → Type) (α : Type) : Type where
  | ret (a : α)
  | call (o : Op) (next : Res o → Prog Op Res α)

namespace Prog

variable {Op : Type} {Res : Op → Type} {α β γ ε : Type}

/-- Runs `p`, then the program `f` chooses from its result. -/
def bind (p : Prog Op Res α) (f : α → Prog Op Res β) : Prog Op Res β :=
  match p with
  | ret a => f a
  | call o next => call o fun r => bind (next r) f

instance : Monad (Prog Op Res) where
  pure := ret
  bind := bind

@[simp] theorem pure_eq (a : α) : (pure a : Prog Op Res α) = ret a := rfl

@[simp] theorem ret_bind (a : α) (f : α → Prog Op Res β) : (ret a >>= f) = f a := rfl

@[simp] theorem call_bind (o : Op) (next : Res o → Prog Op Res α) (f : α → Prog Op Res β) :
    (call o next >>= f) = call o fun r => next r >>= f := rfl

theorem bind_ret (p : Prog Op Res α) : (p >>= ret) = p := by
  induction p with
  | ret a => rfl
  | call o next ih =>
    rw [call_bind]
    exact congrArg (call o) (funext ih)

theorem bind_bind (p : Prog Op Res α) (f : α → Prog Op Res β) (g : β → Prog Op Res γ) :
    (p >>= f >>= g) = p >>= fun a => f a >>= g := by
  induction p with
  | ret a => rfl
  | call o next ih =>
    simp only [call_bind]
    exact congrArg (call o) (funext ih)

/-- The program that performs one operation. -/
def op (o : Op) : Prog Op Res (Res o) := call o ret

/-- One operation inside a program that can fail. -/
def perform (o : Op) : ExceptT ε (Prog Op Res) (Res o) := ExceptT.lift (op o)

/-- A pure check inside a program that can fail. -/
def ofExcept (x : Except ε α) : ExceptT ε (Prog Op Res) α := ExceptT.mk (ret x)

/-- A program whose failure is replaced. -/
def mapError {δ : Type} (f : ε → δ) (x : ExceptT ε (Prog Op Res) α) : ExceptT δ (Prog Op Res) α :=
  ExceptT.mk (x.run >>= fun r => ret (r.mapError f))

/-! ## Execution alone -/

variable {σ : Type} (exec : (o : Op) → σ → Res o → σ → Prop)

/-- `Runs exec p s a t`: started in `s`, the program can return `a` and leave `t`. -/
def Runs : Prog Op Res α → σ → α → σ → Prop
  | ret a, s, b, t => b = a ∧ t = s
  | call o next, s, b, t => ∃ r u, exec o s r u ∧ Runs (next r) u b t

variable {exec}

variable {o : Op} {δ : Type} {a : α} {b : β} {s t : σ}

theorem runs_op {r : Res o} : Runs exec (op o) s r t ↔ exec o s r t := by
  constructor
  · rintro ⟨r', u, h, rfl, rfl⟩
    exact h
  · intro h
    exact ⟨r, t, h, rfl, rfl⟩

variable {p : Prog Op Res α}

/-- A sequential composition runs its parts one after the other. -/
theorem runs_bind {f : α → Prog Op Res β} :
    Runs exec (p >>= f) s b t ↔ ∃ a u, Runs exec p s a u ∧ Runs exec (f a) u b t := by
  induction p generalizing s with
  | ret a =>
    constructor
    · intro h
      exact ⟨a, s, ⟨rfl, rfl⟩, h⟩
    · rintro ⟨a', u, ⟨rfl, rfl⟩, h⟩
      exact h
  | call o next ih =>
    rw [call_bind]
    constructor
    · rintro ⟨r, v, he, h⟩
      obtain ⟨a, u, hp, hf⟩ := ih r |>.mp h
      exact ⟨a, u, ⟨r, v, he, hp⟩, hf⟩
    · rintro ⟨a, u, ⟨r, v, he, hp⟩, hf⟩
      exact ⟨r, v, he, (ih r).mpr ⟨a, u, hp, hf⟩⟩

/-- What every operation preserves, a run preserves. -/
theorem Runs.preserves {P : σ → Prop} (hstep : ∀ o s r t, exec o s r t → P s → P t)
    (h : Runs exec p s a t) (hs : P s) : P t := by
  induction p generalizing s with
  | ret a => exact h.2 ▸ hs
  | call o next ih =>
    obtain ⟨r, u, he, h⟩ := h
    exact ih r h (hstep o s r u he hs)

/-! ## Programs that can fail -/

theorem runs_run_pure {b : Except ε α} :
    Runs exec (pure a : ExceptT ε (Prog Op Res) α).run s b t ↔ b = .ok a ∧ t = s := Iff.rfl

theorem runs_run_throw {e : ε} {b : Except ε α} :
    Runs exec (throw e : ExceptT ε (Prog Op Res) α).run s b t ↔ b = .error e ∧ t = s := Iff.rfl

theorem runs_run_perform {b : Except ε (Res o)} :
    Runs exec (perform o : ExceptT ε (Prog Op Res) (Res o)).run s b t ↔
      ∃ r, b = .ok r ∧ exec o s r t := by
  constructor
  · rintro ⟨r, u, h, rfl, rfl⟩
    exact ⟨r, rfl, h⟩
  · rintro ⟨r, rfl, h⟩
    exact ⟨r, t, h, rfl, rfl⟩

theorem runs_run_lift {b : Except ε α} :
    Runs exec (ExceptT.lift p : ExceptT ε (Prog Op Res) α).run s b t ↔
      ∃ a, b = .ok a ∧ Runs exec p s a t := by
  constructor
  · intro h
    obtain ⟨a, u, hp, rfl, rfl⟩ := runs_bind.mp h
    exact ⟨a, rfl, hp⟩
  · rintro ⟨a, rfl, hp⟩
    exact runs_bind.mpr ⟨a, t, hp, rfl, rfl⟩

theorem runs_run_ofExcept {x b : Except ε α} :
    Runs exec (ofExcept x : ExceptT ε (Prog Op Res) α).run s b t ↔ b = x ∧ t = s := Iff.rfl

variable {x : ExceptT ε (Prog Op Res) α}

theorem runs_run_mapError {f : ε → δ} {b : Except δ α} :
    Runs exec (mapError f x).run s b t ↔ ∃ r, b = r.mapError f ∧ Runs exec x.run s r t := by
  constructor
  · intro h
    obtain ⟨r, u, hx, rfl, rfl⟩ := runs_bind.mp h
    exact ⟨r, rfl, hx⟩
  · rintro ⟨r, rfl, hx⟩
    exact runs_bind.mpr ⟨r, t, hx, rfl, rfl⟩

variable {f : α → ExceptT ε (Prog Op Res) β}

/-- A composition of programs that can fail either passes a value on or stops
with the first failure. -/
theorem runs_run_bind {b : Except ε β} :
    Runs exec (x >>= f).run s b t ↔
      (∃ a u, Runs exec x.run s (.ok a) u ∧ Runs exec (f a).run u b t) ∨
        ∃ e, b = .error e ∧ Runs exec x.run s (.error e) t := by
  rw [ExceptT.run_bind, runs_bind]
  constructor
  · rintro ⟨r, u, hx, hf⟩
    cases r with
    | ok a => exact Or.inl ⟨a, u, hx, hf⟩
    | error e =>
      obtain ⟨rfl, rfl⟩ := hf
      exact Or.inr ⟨e, rfl, hx⟩
  · rintro (⟨a, u, hx, hf⟩ | ⟨e, rfl, hx⟩)
    · exact ⟨.ok a, u, hx, hf⟩
    · exact ⟨.error e, t, hx, rfl, rfl⟩

/-- A successful composition ran both its parts successfully. -/
theorem runs_run_bind_ok :
    Runs exec (x >>= f).run s (.ok b) t ↔
      ∃ a u, Runs exec x.run s (.ok a) u ∧ Runs exec (f a).run u (.ok b) t := by
  rw [runs_run_bind]
  constructor
  · rintro (h | ⟨e, he, -⟩)
    · exact h
    · cases he
  · exact Or.inl

theorem runs_run_mapError_ok {f : ε → δ} :
    Runs exec (mapError f x).run s (.ok a) t ↔ Runs exec x.run s (.ok a) t := by
  rw [runs_run_mapError]
  constructor
  · rintro ⟨r, hr, h⟩
    cases r with
    | error e => cases hr
    | ok b =>
      obtain rfl : a = b := Except.ok.inj hr
      exact h
  · intro h
    exact ⟨.ok a, rfl, h⟩

theorem runs_run_perform_bind {f : Res o → ExceptT ε (Prog Op Res) β} {b : Except ε β} :
    Runs exec (perform o >>= f).run s b t ↔
      ∃ r u, exec o s r u ∧ Runs exec (f r).run u b t := Iff.rfl

theorem runs_run_ofExcept_bind {x : Except ε α} {b : Except ε β} :
    Runs exec (ofExcept x >>= f).run s b t ↔
      (∃ a, x = .ok a ∧ Runs exec (f a).run s b t) ∨
        ∃ e, x = .error e ∧ b = .error e ∧ t = s := by
  cases x with
  | ok a =>
    constructor
    · intro h
      exact Or.inl ⟨a, rfl, h⟩
    · rintro (⟨a', ha, h⟩ | ⟨e, he, -⟩)
      · obtain rfl := Except.ok.inj ha
        exact h
      · cases he
  | error e =>
    constructor
    · rintro ⟨rfl, rfl⟩
      exact Or.inr ⟨e, rfl, rfl, rfl⟩
    · rintro (⟨a, ha, -⟩ | ⟨e', he, rfl, rfl⟩)
      · cases ha
      · obtain rfl := Except.error.inj he
        exact ⟨rfl, rfl⟩

theorem runs_run_perform_bind_ok {f : Res o → ExceptT ε (Prog Op Res) β} :
    Runs exec (perform o >>= f).run s (.ok b) t ↔
      ∃ r u, exec o s r u ∧ Runs exec (f r).run u (.ok b) t := by
  rw [runs_run_bind_ok]
  constructor
  · rintro ⟨a, u, ha, hf⟩
    obtain ⟨r, hr, he⟩ := runs_run_perform.mp ha
    obtain rfl := Except.ok.inj hr
    exact ⟨a, u, he, hf⟩
  · rintro ⟨r, u, he, hf⟩
    exact ⟨r, u, runs_run_perform.mpr ⟨r, rfl, he⟩, hf⟩

theorem runs_run_ofExcept_bind_ok {x : Except ε α} : Runs exec (ofExcept x >>= f).run s (.ok b) t ↔
      ∃ a, x = .ok a ∧ Runs exec (f a).run s (.ok b) t := by
  rw [runs_run_bind_ok]
  constructor
  · rintro ⟨a, u, ⟨hx, rfl⟩, hf⟩
    exact ⟨a, hx.symm, hf⟩
  · rintro ⟨a, hx, hf⟩
    exact ⟨a, s, ⟨hx.symm, rfl⟩, hf⟩

theorem runs_run_pure_ok {b : α} :
    Runs exec (pure a : ExceptT ε (Prog Op Res) α).run s (.ok b) t ↔ b = a ∧ t = s := by
  rw [runs_run_pure, Except.ok.injEq]

/-! ## Which operations a program performs -/

/-- Every operation the program can come to perform satisfies `ok`. -/
def Performs (ok : Op → Prop) : Prog Op Res α → Prop
  | ret _ => True
  | call o next => ok o ∧ ∀ r, Performs ok (next r)

section Performs

variable {ok ok' : Op → Prop}

theorem Performs.mono (h : Performs ok p) (hok : ∀ o, ok o → ok' o) : Performs ok' p := by
  induction p with
  | ret a => trivial
  | call o next ih => exact ⟨hok o h.1, fun r => ih r (h.2 r)⟩

theorem Performs.bind {f : α → Prog Op Res β} (h : Performs ok p) (hf : ∀ a, Performs ok (f a)) :
    Performs ok (p >>= f) := by
  induction p with
  | ret a => exact hf a
  | call o next ih => exact ⟨h.1, fun r => ih r (h.2 r)⟩

theorem performs_run_pure : Performs ok (pure a : ExceptT ε (Prog Op Res) α).run := trivial

theorem performs_run_throw {e : ε} :
    Performs ok (throw e : ExceptT ε (Prog Op Res) α).run := trivial

theorem performs_run_ofExcept {x : Except ε α} :
    Performs ok (ofExcept x : ExceptT ε (Prog Op Res) α).run := trivial

theorem performs_run_perform (h : ok o) :
    Performs ok (perform o : ExceptT ε (Prog Op Res) (Res o)).run := ⟨h, fun _ => trivial⟩

theorem performs_run_mapError {f : ε → δ} (h : Performs ok x.run) :
    Performs ok (mapError f x).run := h.bind fun _ => trivial

theorem performs_run_lift (h : Performs ok p) :
    Performs ok (ExceptT.lift p : ExceptT ε (Prog Op Res) α).run := h.bind fun _ => trivial

theorem performs_run_bind (h : Performs ok x.run) (hf : ∀ a, Performs ok (f a).run) :
    Performs ok (x >>= f).run := by
  rw [ExceptT.run_bind]
  apply h.bind
  intro r
  cases r with
  | ok a => exact hf a
  | error e => trivial

theorem performs_run_perform_bind {f : Res o → ExceptT ε (Prog Op Res) β} (h : ok o)
    (hf : ∀ r, Performs ok (f r).run) : Performs ok (perform o >>= f).run :=
  performs_run_bind (performs_run_perform h) hf

theorem performs_run_ofExcept_bind {x : Except ε α} (hf : ∀ a, Performs ok (f a).run) :
    Performs ok (ofExcept x >>= f).run :=
  performs_run_bind performs_run_ofExcept hf

end Performs

/-! ## Weakest preconditions -/

/-- Started in `s`, the program is never stuck and ends with a result and a state
that satisfy `post`, whatever its operations answer. -/
def Wp (exec : (o : Op) → σ → Res o → σ → Prop) : Prog Op Res α → σ → (α → σ → Prop) → Prop
  | ret a, s, post => post a s
  | call o next, s, post =>
    (∃ r t, exec o s r t) ∧ ∀ r t, exec o s r t → Wp exec (next r) t post

variable {post : α → σ → Prop}

theorem Wp.mono {post' : α → σ → Prop} (h : Wp exec p s post) (hpost : ∀ a t, post a t → post' a t) :
    Wp exec p s post' := by
  induction p generalizing s with
  | ret a => exact hpost a s h
  | call o next ih => exact ⟨h.1, fun r t he => ih r (h.2 r t he)⟩

theorem wp_bind {f : α → Prog Op Res β} {post : β → σ → Prop} :
    Wp exec (p >>= f) s post ↔ Wp exec p s fun a t => Wp exec (f a) t post := by
  induction p generalizing s with
  | ret a => exact Iff.rfl
  | call o next ih =>
    rw [call_bind]
    constructor
    · rintro ⟨hcan, hall⟩
      exact ⟨hcan, fun r t he => (ih r).mp (hall r t he)⟩
    · rintro ⟨hcan, hall⟩
      exact ⟨hcan, fun r t he => (ih r).mpr (hall r t he)⟩

/-- Every run ends as the precondition promises. -/
theorem Wp.runs (h : Wp exec p s post) (hrun : Runs exec p s a t) : post a t := by
  induction p generalizing s with
  | ret b =>
    obtain ⟨rfl, rfl⟩ := hrun
    exact h
  | call o next ih =>
    obtain ⟨r, u, he, hrun⟩ := hrun
    exact ih r (h.2 r u he) hrun

/-- Operations that always answer leave no program stuck, so that it is enough to
look at its runs. -/
theorem wp_of_runs (htotal : ∀ o s, ∃ r t, exec o s r t) (h : ∀ a t, Runs exec p s a t → post a t) :
    Wp exec p s post := by
  induction p generalizing s with
  | ret a => exact h a s ⟨rfl, rfl⟩
  | call o next ih =>
    refine ⟨htotal o s, fun r t he => ih r ?_⟩
    intro a u hrun
    exact h a u ⟨r, t, he, hrun⟩

/-- There is a run. -/
theorem Wp.exists_runs (h : Wp exec p s post) : ∃ a t, Runs exec p s a t := by
  induction p generalizing s with
  | ret a => exact ⟨a, s, rfl, rfl⟩
  | call o next ih =>
    obtain ⟨⟨r, u, he⟩, hall⟩ := h
    obtain ⟨a, t, hrun⟩ := ih r (hall r u he)
    exact ⟨a, t, r, u, he, hrun⟩

theorem wp_run_pure {post : Except ε α → σ → Prop} :
    Wp exec (pure a : ExceptT ε (Prog Op Res) α).run s post ↔ post (.ok a) s := Iff.rfl

theorem wp_run_throw {e : ε} {post : Except ε α → σ → Prop} :
    Wp exec (throw e : ExceptT ε (Prog Op Res) α).run s post ↔ post (.error e) s := Iff.rfl

theorem wp_run_ofExcept {x : Except ε α} {post : Except ε α → σ → Prop} :
    Wp exec (ofExcept x : ExceptT ε (Prog Op Res) α).run s post ↔ post x s := Iff.rfl

theorem wp_run_lift {post : Except ε α → σ → Prop} :
    Wp exec (ExceptT.lift p : ExceptT ε (Prog Op Res) α).run s post ↔
      Wp exec p s fun a t => post (.ok a) t := wp_bind

theorem wp_run_mapError {f : ε → δ} {post : Except δ α → σ → Prop} :
    Wp exec (mapError f x).run s post ↔ Wp exec x.run s fun r t => post (r.mapError f) t := wp_bind

/-- What a composition of programs that can fail needs: the first part either
establishes what the second needs, or its failure is the outcome. -/
theorem wp_run_bind {post : Except ε β → σ → Prop} :
    Wp exec (x >>= f).run s post ↔ Wp exec x.run s fun r t =>
      match r with
      | .ok a => Wp exec (f a).run t post
      | .error e => post (.error e) t := by
  rw [ExceptT.run_bind, wp_bind]
  constructor
  · intro h
    refine h.mono fun r t hr => ?_
    cases r with
    | ok a => exact hr
    | error e => exact hr
  · intro h
    refine h.mono fun r t hr => ?_
    cases r with
    | ok a => exact hr
    | error e => exact hr

theorem wp_run_perform_bind {f : Res o → ExceptT ε (Prog Op Res) β} {post : Except ε β → σ → Prop} :
    Wp exec (perform o >>= f).run s post ↔
      (∃ r t, exec o s r t) ∧ ∀ r t, exec o s r t → Wp exec (f r).run t post := Iff.rfl

theorem wp_run_ofExcept_bind_ok {post : Except ε β → σ → Prop} :
    Wp exec (ofExcept (.ok a) >>= f).run s post ↔ Wp exec (f a).run s post := Iff.rfl

end Prog

end Talenro.Lib
