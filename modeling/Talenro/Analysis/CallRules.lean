import Talenro.Analysis.Records
import Talenro.Model.Calls

/-!
# Rules for the steps of a call

Weakest preconditions of the steps the services are made of, in a transaction that is
alone: statements whose failure is a failure of the repository, statements over several
rows, tokens and identifiers.
-/

set_option autoImplicit false

namespace Talenro.Analysis

open Lib Lib.Calendar Prog RowStore Idempotency Calls

variable {P : Platform} {κ α : Type} {environment : Environment P} {start : Backend}
  {x y : Inside Key Row} {k : Key}

/-! ## Checks -/

section Checks

variable {ε β σ : Type} {exec : (o : Op) → σ → Res P o → σ → Prop} {s : σ}
  {post : Except ε β → σ → Prop}

variable {e : ε}

theorem wp_require {c : Prop} [Decidable c] {f : Unit → ExceptT ε (Prog Op (Res P)) β} (hc : c)
    (h : Wp exec (f ()).run s post) : Wp exec (Prog.ofExcept (require c e) >>= f).run s post := by
  rw [require_of hc]
  exact h

theorem wp_orThrow {o : Option α} {a : α} {f : α → ExceptT ε (Prog Op (Res P)) β} (ho : o = some a)
    (h : Wp exec (f a).run s post) : Wp exec (Prog.ofExcept (orThrow o e) >>= f).run s post := by
  rw [ho]
  exact h

theorem wp_orThrow_none {o : Option α} {f : α → ExceptT ε (Prog Op (Res P)) β} (ho : o = none)
    (h : post (.error e) s) : Wp exec (Prog.ofExcept (orThrow o e) >>= f).run s post := by
  rw [ho]
  exact h

end Checks

/-! ## Statements -/

section Statements

variable {q : Statement Key Row} {post : Except (Failure κ) q.Answer → Inside Key Row → Prop}

/-- A statement that has one answer, which respects the constraints. -/
theorem wp_ask (hreliable : Reliable environment) {a : q.Answer} (hyields : Inside.Yields q x a y)
    (hcheck : q.admissible constraints a = true) (h : post (.ok a) y) :
    Wp (alone environment start) (ask P q : Body P κ _).run x post :=
  wp_alone_statement hreliable hyields hcheck h

/-- A statement that has one answer, which violates a constraint. -/
theorem wp_ask_violation {a : q.Answer} (hyields : Inside.Yields q x a y)
    (hcheck : q.admissible constraints a = false) (h : post (.error unavailable) x) :
    Wp (alone environment start) (ask P q : Body P κ _).run x post := by
  refine ⟨⟨none, x, rfl, Or.inr ⟨a, y, hyields.1, hcheck⟩⟩, ?_⟩
  intro r z hdoes
  cases r with
  | some b =>
    obtain ⟨rfl, -⟩ := hyields.2 b z hdoes.1
    exact absurd hdoes.2 (by rw [hcheck]; exact Bool.false_ne_true)
  | none =>
    obtain ⟨rfl, -⟩ := hdoes
    exact h

end Statements

variable {post : Except (Failure κ) (Option (Row k)) → Inside Key Row → Prop} {row : Row k}

/-- A lock changes nothing that the transaction sees. -/
theorem wp_ask_lock (hreliable : Reliable environment)
    (h : ∀ y : Inside Key Row, y.view = x.view → post (.ok (x.view k)) y) :
    Wp (alone environment start) (ask P (.lock k) : Body P κ _).run x post := by
  refine wp_ask hreliable Inside.yields_lock rfl (h _ ?_)
  split <;> rfl

/-- A list of rows shows what the transaction sees. -/
def Shows (snapshot : List ((k : Key) × Row k)) (x : Inside Key Row) : Prop :=
  (∀ k row, (⟨k, row⟩ : (k : Key) × Row k) ∈ snapshot ↔ x.view k = some row) ∧
    (snapshot.map Sigma.fst).Nodup

/-- The rows the transaction sees can be listed. -/
def Enumerable (x : Inside Key Row) : Prop := ∃ snapshot, Shows snapshot x

theorem AtRest.enumerable {s : Backend} (h : AtRest s) : Enumerable (Inside.start s.database.committed) := by
  refine ⟨s.database.rows 0, ?_, RowStore.nodup_rows⟩
  intro k row
  have hview : s.database.view 0 k = s.database.committed k := by
    rw [RowStore.view, h k]
    exact if_neg (Option.some_ne_none 0).symm
  rw [RowStore.mem_rows, hview]
  exact Iff.rfl

theorem wp_ask_scan (hreliable : Reliable environment) (henumerable : Enumerable x)
    {post : Except (Failure κ) (List ((k : Key) × Row k)) → Inside Key Row → Prop}
    (h : ∀ snapshot, Shows snapshot x → post (.ok snapshot) x) :
    Wp (alone environment start) (ask P .scan : Body P κ _).run x post := by
  obtain ⟨snapshot, hsnapshot⟩ := henumerable
  refine ⟨⟨some snapshot, x, ⟨hsnapshot.1, hsnapshot.2, rfl⟩, rfl⟩, ?_⟩
  intro r z hdoes
  cases r with
  | some rows =>
    obtain ⟨⟨hmem, hnodup, rfl⟩, -⟩ := hdoes
    exact h rows ⟨hmem, hnodup⟩
  | none =>
    rcases hdoes.2 with ⟨s, hfails⟩ | ⟨b, w, -, hviolation⟩
    · exact absurd hfails (hreliable.statement s .scan)
    · cases hviolation

theorem wp_insertRow (hreliable : Reliable environment) (hrow : x.view k = none)
    (hcheck : constraints k row = true) {post : Except (Failure κ) Unit → Inside Key Row → Prop}
    (h : post (.ok ()) (x.write k row)) :
    Wp (alone environment start) (insertRow P k row : Body P κ Unit).run x post := by
  refine wp_run_bind.mpr (wp_alone_statement hreliable (Inside.yields_insert hrow) hcheck ?_)
  exact h

/-! ## Statements over several rows -/

section Rows

variable {ι ρ : Type} {key : ι → Key}

/-- The rows that `lockEach` returns. -/
def lockedRows (key : ι → Key) (read : (i : ι) → Row (key i) → ρ) (keep : ρ → Bool)
    (view : (k : Key) → Option (Row k)) (ids : List ι) : List (ι × ρ) :=
  ids.filterMap fun i => ((view (key i)).map (read i)).bind fun row =>
    if keep row then some (i, row) else none

theorem wp_lockEach (hreliable : Reliable environment) {read : (i : ι) → Row (key i) → ρ}
    {keep : ρ → Bool} (ids : List ι)
    {post : Except (Failure κ) (List (ι × ρ)) → Inside Key Row → Prop}
    (h : ∀ y : Inside Key Row, y.view = x.view →
      post (.ok (lockedRows key read keep x.view ids)) y) :
    Wp (alone environment start) (lockEach P key read keep ids : Body P κ _).run x post := by
  induction ids generalizing x post with
  | nil => exact h x rfl
  | cons i rest ih =>
    refine wp_run_bind.mpr (wp_ask_lock hreliable fun y hy => ?_)
    refine wp_run_bind.mpr (ih fun z hz => ?_)
    have hview : z.view = x.view := hz.trans hy
    have hlocked := h z hview
    unfold lockedRows at hlocked ⊢
    rw [List.filterMap_cons] at hlocked
    rw [hy]
    cases hrow : x.view (key i) with
    | none =>
      rw [hrow] at hlocked
      exact hlocked
    | some row =>
      rw [hrow] at hlocked
      simp only [Option.map_some, Option.bind_some] at hlocked
      show post (.ok (if keep (read i row) = true then _ else _)) z
      split
      · next hkeep =>
        rw [if_pos hkeep] at hlocked
        exact hlocked
      · next hkeep =>
        rw [if_neg hkeep] at hlocked
        exact hlocked

end Rows

/-! ## Clock, tokens and identifiers -/

theorem wp_newOpaqueToken (hreliable : Reliable environment)
    (hrandom : ∀ s n, ¬ environment s (.random n) none)
    {post : Except (Failure κ) (Octets 32) → Inside Key Row → Prop}
    (h : ∀ token, AnswersAt environment start (.random 32) (some token) → post (.ok token) x) :
    Wp (alone environment start) (newOpaqueToken P : Body P κ _).run x post := by
  apply wp_alone_other hreliable (by simp)
  intro r hr
  cases r with
  | none =>
    obtain ⟨s, -, hs⟩ := hr
    exact absurd hs (hrandom s 32)
  | some token => exact h token hr

theorem wp_newID (hreliable : Reliable environment)
    (hid : ∀ s id, environment s .newUUID id → id ≠ UUID.zero)
    {post : Except (Failure κ) UUID → Inside Key Row → Prop}
    (h : ∀ id, AnswersAt environment start .newUUID id → id ≠ UUID.zero → post (.ok id) x) :
    Wp (alone environment start) (newID P : Body P κ _).run x post := by
  apply wp_alone_other hreliable (by simp)
  intro id hanswer
  have hne : id ≠ UUID.zero := by
    obtain ⟨s, -, hs⟩ := hanswer
    exact hid s id hs
  rw [require_of hne]
  exact h id hanswer hne

/-! ## Which operations the steps perform -/

section Performs

variable {ok : Op → Prop} {ι ρ : Type} {key : ι → Key}

theorem performs_ask {q : Statement Key Row} (h : ok (.statement q)) :
    Performs ok (ask P q : Body P κ _).run :=
  performs_run_perform_bind h fun _ => performs_run_ofExcept

theorem performs_insertRow (h : ok (.statement (.insert k row))) :
    Performs ok (insertRow P k row : Body P κ Unit).run :=
  performs_run_bind (performs_ask h) fun _ => performs_run_ofExcept

theorem performs_lockEach {read : (i : ι) → Row (key i) → ρ} {keep : ρ → Bool}
    (h : ∀ i, ok (.statement (.lock (key i)))) (ids : List ι) :
    Performs ok (lockEach P key read keep ids : Body P κ _).run := by
  induction ids with
  | nil => exact performs_run_pure
  | cons i rest ih =>
    refine performs_run_bind (performs_ask (h i)) fun found => performs_run_bind ih fun others => ?_
    cases found <;> exact performs_run_pure

theorem performs_newOpaqueToken (h : ok (.random 32)) :
    Performs ok (newOpaqueToken P : Body P κ _).run :=
  performs_run_perform_bind h fun _ => performs_run_ofExcept

theorem performs_newID (h : ok .newUUID) : Performs ok (newID P : Body P κ _).run :=
  performs_run_perform_bind h fun _ => performs_run_ofExcept_bind fun _ => performs_run_pure

theorem performs_beginIdempotency (h : ∀ o, RecordOp o → ok o) {scope : Option Scope}
    {key canonical : Bytes} {createdAt expiresAt : Instant} :
    Performs ok (beginIdempotency P scope key canonical createdAt expiresAt : Body P κ _).run :=
  performs_run_ofExcept_bind fun _ => performs_run_mapError (performs_beginRecord.mono h)

theorem performs_completeIdempotency (h : ∀ o, RecordOp o → ok o) {record : Record} {status : ℕ}
    {body : Bytes} : Performs ok (completeIdempotency P record status body : Body P κ _).run :=
  performs_run_mapError (performs_completeRecord.mono h)

end Performs

end Talenro.Analysis
