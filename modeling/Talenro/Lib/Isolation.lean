import Talenro.Lib.Concurrent
import Talenro.Lib.Transaction

/-!
# Transactions of a process among others

The store is part of the state of a larger system, whose processes keep an invariant and
guarantees.  `Hosted` is what has to be known of them: their steps respect the rows of the
others, and the committed rows change within a contract.  A transaction can then be read
from inside.  `Hosted.safe_inside` says that its body is safe and that a run from inside
tells how it ended, once this is known of the single operations.
-/

set_option autoImplicit false
set_option linter.unusedSectionVars false

namespace Talenro.Lib

open Prog RowStore

variable {Key : Type} {Row : Key → Type} {Pid σ Task Op α : Type} {Res : Op → Type}
  [DecidableEq Key] [DecidableEq Pid]

/-- The guarantees of a system whose state holds a store. -/
structure Hosted (database : σ → RowStore Key Row Pid) (inv : σ → Prop)
    (guar : Pid → Task → σ → σ → Prop) (C : Contract Key Row) : Prop where
  respects : ∀ {q τ s t}, guar q τ s t → Respects q (database s) (database t)
  change : ∀ {q τ s t}, guar q τ s t → ∀ held,
    (∀ k, held k → ∃ p, p ≠ q ∧ (database s).owner k = some p) →
    C.change held (database s).committed (database t).committed
  holds : ∀ {s}, inv s → C.holds (database s).committed

namespace Hosted

variable {database : σ → RowStore Key Row Pid} {inv : σ → Prop}
  {guar : Pid → Task → σ → σ → Prop} {C : Contract Key Row} {pid : Pid} {task : Task} {s t : σ}
  {x y : Inside Key Row}

/-- What the other processes do while a transaction is open. -/
theorem sees (h : Hosted database inv guar C) (hsees : Sees (database s) pid x)
    (hrely : Rely guar pid s t) (hinv : inv t) :
    ∃ y, Others C x y ∧ Sees (database t) pid y := by
  have hsteps : Sees (database t) pid { x with committed := (database t).committed } ∧
      (∀ k, x.owned k → (database t).committed k = x.committed k) ∧
      C.change x.owned x.committed (database t).committed := by
    refine hrely.preserves (P := fun u =>
      Sees (database u) pid { x with committed := (database u).committed } ∧
      (∀ k, x.owned k → (database u).committed k = x.committed k) ∧
      C.change x.owned x.committed (database u).committed) ?_ ?_
    · rintro q τ u v hq hguar ⟨hsees, hkept, hpast⟩
      have hrespects := h.respects hguar
      refine ⟨hsees.respects hrespects hq, ?_, ?_⟩
      · intro k hk
        exact (hrespects.committed hq (hsees.owned k hk)).2.trans (hkept k hk)
      · refine C.trans _ _ _ _ hpast (h.change hguar x.owned ?_)
        intro k hk
        exact ⟨pid, Ne.symm hq, hsees.owned k hk⟩
    · have hcommitted := hsees.committed
      exact ⟨⟨hsees.wrote, hsees.owned, rfl⟩, fun k _ => by rw [hcommitted],
        hcommitted ▸ C.refl _ _⟩
  exact ⟨{ x with committed := (database t).committed },
    ⟨rfl, rfl, hsteps.2.1, hsteps.2.2, h.holds hinv⟩, hsteps.1⟩

/-- A process without an open transaction stays so. -/
theorem idle (h : Hosted database inv guar C) (hidle : (database s).Idle pid)
    (hrely : Rely guar pid s t) : (database t).Idle pid :=
  hrely.preserves (P := fun u => (database u).Idle pid)
    (fun _ _ _ _ hq hguar hidle => hidle.respects (h.respects hguar) hq) hidle

/-- The committed rows change as the contract allows. -/
theorem anyChange (h : Hosted database inv guar C) (hrely : Rely guar pid s t) :
    C.anyChange (database s).committed (database t).committed := by
  refine hrely.le (R := fun u v => C.anyChange (database u).committed (database v).committed)
    (fun u => C.refl _ _) (fun u v w => C.trans _ _ _ _) ?_
  intro q τ u v _ hguar
  exact h.change hguar _ fun _ hk => hk.elim

/-- The body of a transaction is safe, and a run of it from inside tells how it ended. -/
theorem safe_inside (h : Hosted database inv guar C) {exec : (o : Op) → σ → Res o → σ → Prop}
    {inside : (o : Op) → Inside Key Row → Res o → Inside Key Row → Prop} {ok : Op → Prop}
    (hop : ∀ {o s r t x y}, ok o → Others C x y → Sees (database s) pid y → inv s →
      exec o s r t → inv t ∧ guar pid task s t ∧
        ∃ z w, inside o x r z ∧ Others C z w ∧ Sees (database t) pid w)
    {p : Prog Op Res α} (hp : Performs ok p) (hothers : Others C x y)
    (hsees : Sees (database s) pid y) :
    Safe exec inv guar pid task
      (fun a t => ∃ z w, Runs inside p x a z ∧ Others C z w ∧ Sees (database t) pid w) p s := by
  induction p generalizing s x y with
  | ret a =>
    intro t hrely hinv
    obtain ⟨z, hz, hsees'⟩ := h.sees hsees hrely hinv
    exact ⟨x, z, ⟨rfl, rfl⟩, hothers.trans hz, hsees'⟩
  | call o next ih =>
    intro t hrely hinv r u hexec
    obtain ⟨z, hz, hsees'⟩ := h.sees hsees hrely hinv
    obtain ⟨hinv', hguar, v, w, hinside, hw, hsees''⟩ :=
      hop hp.1 (hothers.trans hz) hsees' hinv hexec
    refine ⟨hinv', hguar, ?_⟩
    apply (ih r (hp.2 r) hw hsees'').mono
    rintro a t' - ⟨v', w', hruns, hrest⟩
    exact ⟨v', w', ⟨r, v, hinside, hruns⟩, hrest⟩

end Hosted

end Talenro.Lib
