import Mathlib.Tactic

/-!
# Chains of checks

A verifier is a sequence of checks, each with the error it reports.  In the
`Except` monad such a chain succeeds exactly when every check does; the lemmas
below turn a successful chain into the conjunction of its checks.
-/

set_option autoImplicit false

namespace Talenro.Lib

variable {ε α β : Type}

/-- Stops with `e` unless the condition holds. -/
def require (c : Prop) [Decidable c] (e : ε) : Except ε Unit := if c then .ok () else .error e

/-- Stops with `e` when there is no value. -/
def orThrow (o : Option α) (e : ε) : Except ε α :=
  match o with
  | some a => .ok a
  | none => .error e

variable {o : Option α} {c : Prop} {a : α} {f : α → Except ε β} {b : β} {e e' : ε}

theorem require_of [Decidable c] (h : c) : require c e = .ok () := if_pos h

theorem orThrow_some : orThrow (some a) e = .ok a := rfl

theorem ok_bind : (Except.ok a >>= f) = f a := rfl

theorem require_eq_error [Decidable c] : require c e = .error e' ↔ ¬ c ∧ e = e' := by
  unfold require
  by_cases h : c
  · rw [if_pos h]
    exact ⟨fun heq => (nomatch heq), fun hc => absurd h hc.1⟩
  · rw [if_neg h]
    exact ⟨fun heq => ⟨h, Except.error.inj heq⟩, fun hc => congrArg _ hc.2⟩

theorem require_eq_ok [Decidable c] {u : Unit} : require c e = .ok u ↔ c := by
  unfold require
  split <;> simp_all

theorem orThrow_eq_error : orThrow o e = .error e' ↔ o = none ∧ e = e' := by
  cases o <;> simp [orThrow]

theorem orThrow_eq_ok : orThrow o e = .ok a ↔ o = some a := by
  cases o <;> simp [orThrow]

theorem bind_eq_ok {x : Except ε α} : x >>= f = .ok b ↔ ∃ a, x = .ok a ∧ f a = .ok b := by
  cases x with
  | error e => simp [bind, Except.bind]
  | ok a => simp [bind, Except.bind]

theorem pure_eq_ok {b : α} : (pure a : Except ε α) = .ok b ↔ a = b := by
  simp [pure, Except.pure]

theorem mapError_eq_ok {δ : Type} {f : ε → δ} {x : Except ε α} :
    x.mapError f = .ok a ↔ x = .ok a := by
  cases x <;> simp [Except.mapError]

/-! ## Chains that do not answer with an error -/

/-- A chain without the error of its first check passed it. -/
theorem require_of_bind_ne [Decidable c] {f : Unit → Except ε β}
    (h : (require c e >>= f) ≠ .error e) : c ∧ f () ≠ .error e := by
  by_cases hc : c
  · rw [require_of hc, ok_bind] at h
    exact ⟨hc, h⟩
  · have herror : require c e = .error e := require_eq_error.mpr ⟨hc, rfl⟩
    exact absurd (by rw [herror]; rfl) h

theorem orThrow_of_bind_ne (h : (orThrow o e >>= f) ≠ .error e) :
    ∃ a, o = some a ∧ f a ≠ .error e := by
  cases o with
  | none => exact absurd rfl h
  | some a => exact ⟨a, rfl, h⟩

/-- A check does not answer with an error of another kind. -/
theorem require_bind_ne [Decidable c] {f : Unit → Except ε β} (he : e ≠ e') (hf : f () ≠ .error e') :
    (require c e >>= f) ≠ .error e' := by
  by_cases hc : c
  · rwa [require_of hc, ok_bind]
  · rw [require_eq_error.mpr ⟨hc, rfl⟩]
    exact fun heq => he (Except.error.inj heq)

theorem orThrow_bind_ne (he : e ≠ e') (hf : ∀ a, f a ≠ .error e') :
    (orThrow o e >>= f) ≠ .error e' := by
  cases o with
  | none => exact fun heq => he (Except.error.inj heq)
  | some a => exact hf a

/-! ## Chains that answer with an option -/

theorem bind_eq_some {x : Option α} {f : α → Option β} (hx : x = some a) (hf : f a = some b) :
    x >>= f = some b := by
  rw [hx]
  exact hf

theorem guard_bind_eq_some {p : Prop} [Decidable p] {f : Unit → Option β} (h : p)
    (hf : f () = some b) : guard p >>= f = some b :=
  bind_eq_some (if_pos h) hf

end Talenro.Lib
