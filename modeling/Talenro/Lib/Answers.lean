import Talenro.Lib.Prog

/-!
# Programs whose operations have fixed answers

When nobody else acts and nothing fails, a program that only reads gets one answer to each
operation, and its result is a function of these answers.  `answered` computes it; over programs
that can fail it commutes with sequencing, so that such a program becomes a pure computation in
`Except`.
-/

set_option autoImplicit false

namespace Talenro.Lib.Prog

variable {Op : Type} {Res : Op → Type} {α β ε : Type} (answer : (o : Op) → Res o)

/-- The result of a program whose operations are answered by `answer`. -/
def answered : Prog Op Res α → α
  | ret a => a
  | call o next => answered (next (answer o))

theorem answered_bind (p : Prog Op Res α) (f : α → Prog Op Res β) :
    answered answer (p >>= f) = answered answer (f (answered answer p)) := by
  induction p with
  | ret a => rfl
  | call o next ih => exact ih (answer o)

@[simp] theorem answered_pure (a : α) :
    answered answer (pure a : ExceptT ε (Prog Op Res) α).run = .ok a := rfl

@[simp] theorem answered_throw (e : ε) :
    answered answer (throw e : ExceptT ε (Prog Op Res) α).run = .error e := rfl

@[simp] theorem answered_perform (o : Op) :
    answered answer (perform o : ExceptT ε (Prog Op Res) (Res o)).run = .ok (answer o) := rfl

@[simp] theorem answered_ofExcept (x : Except ε α) :
    answered answer (ofExcept x : ExceptT ε (Prog Op Res) α).run = x := rfl

@[simp] theorem answered_run_bind (x : ExceptT ε (Prog Op Res) α)
    (f : α → ExceptT ε (Prog Op Res) β) :
    answered answer (x >>= f).run =
      (answered answer x.run >>= fun a => answered answer (f a).run) := by
  have h : (x >>= f).run = x.run >>= ExceptT.bindCont f := rfl
  rw [h, answered_bind]
  cases answered answer x.run <;> rfl

end Talenro.Lib.Prog
