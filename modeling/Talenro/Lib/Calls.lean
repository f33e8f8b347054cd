import Talenro.Lib.Concurrent

/-!
# Calls side by side

Any number of calls share a state.  Each of them performs its operations one at a time, in any
interleaving with the others; one that has returned stays as it is, and one that is never
scheduled again has been abandoned.  Unlike the processes of a `System`, a call is made once, so
that one can speak of all calls that have returned in a run.  `Reachable.returned` is the rule for
them: when every call is safe, each that has returned has its postcondition.
-/

set_option autoImplicit false

namespace Talenro.Lib

/-- The shared state, and what is left to do of every call. -/
structure Calls (Pid Op : Type) (Res : Op → Type) (Out σ : Type) where
  state : σ
  rest : Pid → Prog Op Res Out

namespace Calls

variable {Pid Op : Type} {Res : Op → Type} {Out σ : Type} [DecidableEq Pid]

/-- What interleavings of the programs reach. -/
inductive Reachable (exec : Pid → (o : Op) → σ → Res o → σ → Prop) (init : σ)
    (program : Pid → Prog Op Res Out) : Calls Pid Op Res Out σ → Prop
  | init : Reachable exec init program ⟨init, program⟩
  | op {calls : Calls Pid Op Res Out σ} {pid : Pid} {o : Op} {next : Res o → Prog Op Res Out}
      {r : Res o} {t : σ} (before : Reachable exec init program calls)
      (pending : calls.rest pid = .call o next) (executes : exec pid o calls.state r t) :
      Reachable exec init program ⟨t, Function.update calls.rest pid (next r)⟩

variable {exec : Pid → (o : Op) → σ → Res o → σ → Prop} {init : σ}
  {program : Pid → Prog Op Res Out} {inv : σ → Prop} {guar : Pid → Unit → σ → σ → Prop}
  {post : Pid → Out → σ → Prop} {calls : Calls Pid Op Res Out σ}

/-- Calls that are safe stay safe, and keep the invariant. -/
theorem Reachable.safe (h : Reachable exec init program calls) (hinit : inv init)
    (hprogram : ∀ pid, Safe (exec pid) inv guar pid () (post pid) (program pid) init) :
    inv calls.state ∧
      ∀ pid, Safe (exec pid) inv guar pid () (post pid) (calls.rest pid) calls.state := by
  induction h with
  | init => exact ⟨hinit, hprogram⟩
  | @op calls pid o next r t before pending executes ih =>
    obtain ⟨hinv, hsafe⟩ := ih
    have hown := hsafe pid
    rw [pending] at hown
    obtain ⟨hinv', hguar, hnext⟩ := hown calls.state (rely_refl _) hinv r t executes
    refine ⟨hinv', fun other => ?_⟩
    dsimp only
    by_cases hother : other = pid
    · subst hother
      rw [Function.update_self]
      exact hnext
    · rw [Function.update_of_ne hother]
      exact (hsafe other).stable (.single ⟨pid, (), Ne.symm hother, hguar⟩)

/-- A safe call that has returned has its postcondition. -/
theorem Reachable.returned (h : Reachable exec init program calls) (hinit : inv init)
    (hprogram : ∀ pid, Safe (exec pid) inv guar pid () (post pid) (program pid) init) {pid : Pid}
    {out : Out} (hout : calls.rest pid = .ret out) : post pid out calls.state := by
  obtain ⟨hinv, hsafe⟩ := h.safe hinit hprogram
  have hown := hsafe pid
  rw [hout] at hown
  exact hown calls.state (rely_refl _) hinv

end Calls

end Talenro.Lib
