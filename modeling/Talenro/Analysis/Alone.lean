import Talenro.Analysis.Transactions

/-!
# A request that runs alone

When no other request is running and the services do not fail, a transaction does exactly
what its statements say.  `alone` executes the operations of such a transaction, and the
rules below compute weakest preconditions of its body statement by statement;
`wp_withinTransaction` carries them over to the backend.
-/

set_option autoImplicit false

namespace Talenro.Analysis

open Lib Prog RowStore

variable {P : Platform} {α β ε : Type} {environment : Environment P} {pid : Pid}
  {start s t : Backend} {x y : Inside Key Row}

/-- The services answer and do not fail. -/
structure Reliable (environment : Environment P) : Prop where
  statement : ∀ s q, ¬ environment s (.statement q) none
  context : ∀ s r, environment s .contextError r → r = false
  total : ∀ s o, (∀ q, o ≠ .statement q) → ∃ r, environment s o r
  setChallenge : ∀ s key record,
    environment s (.setChallenge key record) (some (decide (s.challenges key = none)))
  takeChallenge : ∀ s key, environment s (.takeChallenge key) (some (s.challenges key))

/-- The environment can answer an operation in this way while the rows of `start` are
committed. -/
def AnswersAt (environment : Environment P) (start : Backend) (o : Op) (r : Res P o) : Prop :=
  ∃ s, s.database.committed = start.database.committed ∧ environment s o r

/-- One operation of a transaction that is alone and began in `start`. -/
def alone (environment : Environment P) (start : Backend) :
    (o : Op) → Inside Key Row → Res P o → Inside Key Row → Prop
  | .statement q, x, r, y =>
    Inside.Does constraints (fun q => CanAnswer environment (.statement q) none) q x r y
  | o, x, r, y => AnswersAt environment start o r ∧ y = x

/-- The transaction of `pid` that began in `start` is the one seen from inside, and there
is no other. -/
structure Alone (start s : Backend) (pid : Pid) (x : Inside Key Row) : Prop where
  sees : Sees s.database pid x
  committed : x.committed = start.database.committed
  quiet : ∀ k, s.database.owner k = none ∨ s.database.owner k = some pid

/-! ## Statements of a transaction that is alone -/

/-- Every operation of a transaction that is alone is executed. -/
theorem Alone.exists_exec (hreliable : Reliable environment) (h : Alone start s pid x) (o : Op) :
    ∃ r t, exec environment pid o s r t := by
  have hother : (∀ q, o ≠ .statement q) → ∃ r t, exec environment pid o s r t := by
    intro ho
    obtain ⟨r, hr⟩ := hreliable.total s o ho
    cases o with
    | statement q => exact absurd rfl (ho q)
    | setChallenge key record =>
      exact ⟨_, _, hreliable.setChallenge s key record, Or.inl ⟨rfl, rfl⟩⟩
    | takeChallenge key => exact ⟨_, _, hreliable.takeChallenge s key, Or.inl ⟨Or.inl rfl, rfl⟩⟩
    | _ => exact ⟨r, _, hr, rfl⟩
  cases o with
  | statement q =>
    obtain ⟨a, d, hperform⟩ := s.database.exists_perform h.quiet q
    cases hcheck : q.admissible constraints a with
    | true => exact ⟨some a, _, d, .done hperform hcheck, rfl⟩
    | false => exact ⟨none, _, s.database, .violation hperform hcheck, rfl⟩
  | _ => exact hother (by simp)

/-- An operation as it is seen from inside. -/
theorem Alone.exec {o : Op} (ho : Unending o) {r : Res P o} (h : Alone start s pid x)
    (hexec : exec environment pid o s r t) :
    ∃ y, alone environment start o x r y ∧ Alone start t pid y := by
  cases o with
  | statement q =>
    obtain ⟨d, hexec, rfl⟩ := hexec
    obtain ⟨y, hdoes, hsees, -, hrespects⟩ := h.sees.exec hexec ho.1 ho.2
    have halone : alone environment start (.statement q) x r y := by
      apply hdoes.mono
      intro q hq
      exact ⟨s, hq⟩
    have hcommitted : y.committed = x.committed :=
      funext fun k => congrFun (hdoes.frame (k := k)).2.2 k
    refine ⟨y, halone, hsees, hcommitted.trans h.committed, ?_⟩
    intro k
    cases howner : d.owner k with
    | none => exact Or.inl rfl
    | some q =>
      by_cases hq : q = pid
      · exact Or.inr (congrArg some hq)
      · have hold := hrespects.taken k q hq howner
        rcases h.quiet k with hk | hk
        · rw [hk] at hold
          cases hold
        · exact absurd (Option.some.inj (hold.symm.trans hk)) hq
  | _ =>
    obtain ⟨henv, hdatabase⟩ := exec_other (by simp) hexec
    refine ⟨x, ⟨⟨s, h.sees.committed.trans h.committed, henv⟩, rfl⟩, ?_, h.committed, ?_⟩
    · rw [hdatabase]
      exact h.sees
    · rw [hdatabase]
      exact h.quiet

/-- What a body does from inside, it does in the backend. -/
theorem wp_exec_of_alone (hreliable : Reliable environment) {p : Prog Op (Res P) α}
    (hp : Performs Unending p) {post : α → Inside Key Row → Prop}
    (h : Wp (alone environment start) p x post) (halone : Alone start s pid x) :
    Wp (exec environment pid) p s fun a t =>
      ∃ y, post a y ∧ Alone start t pid y := by
  induction p generalizing s x with
  | ret a => exact ⟨x, h, halone⟩
  | call o next ih =>
    refine ⟨halone.exists_exec hreliable o, ?_⟩
    intro r t hexec
    obtain ⟨y, hstep, hy⟩ := halone.exec hp.1 hexec
    exact ih r (hp.2 r) (h.2 r y hstep) hy

/-! ## Rules for the statements -/

section Rules

variable {post : Except ε β → Inside Key Row → Prop}

variable (hreliable : Reliable environment)

include hreliable

/-- A statement that has one answer, which respects the constraints. -/
theorem wp_alone_statement {q : Statement Key Row} {a : q.Answer}
    {f : Option q.Answer → ExceptT ε (Prog Op (Res P)) β} (hyields : Inside.Yields q x a y)
    (hcheck : q.admissible constraints a = true)
    (h : Wp (alone environment start) (f (some a)).run y post) :
    Wp (alone environment start) (Prog.perform (Op.statement q) >>= f).run x post := by
  refine ⟨⟨some a, y, hyields.1, hcheck⟩, ?_⟩
  intro r z hdoes
  cases r with
  | some b =>
    obtain ⟨rfl, rfl⟩ := hyields.2 b z hdoes.1
    exact h
  | none =>
    rcases hdoes.2 with ⟨s, hfails⟩ | ⟨b, w, hb, hviolation⟩
    · exact absurd hfails (hreliable.statement s q)
    · obtain ⟨rfl, -⟩ := hyields.2 b w hb
      rw [hcheck] at hviolation
      cases hviolation

/-- An operation of another service. -/
theorem wp_alone_other {o : Op} (ho : ∀ q, o ≠ .statement q)
    {f : Res P o → ExceptT ε (Prog Op (Res P)) β}
    (h : ∀ r, AnswersAt environment start o r → Wp (alone environment start) (f r).run x post) :
    Wp (alone environment start) (Prog.perform o >>= f).run x post := by
  obtain ⟨r, hr⟩ := hreliable.total start o ho
  cases o with
  | statement q => exact absurd rfl (ho q)
  | _ =>
    refine ⟨⟨r, x, ⟨start, rfl, hr⟩, rfl⟩, ?_⟩
    rintro r y ⟨hs, rfl⟩
    exact h r hs

/-- An operation that is answered in one way. -/
theorem wp_alone_answer {o : Op} (ho : ∀ q, o ≠ .statement q) {a : Res P o}
    (ha : ∀ s r, environment s o r → r = a) {f : Res P o → ExceptT ε (Prog Op (Res P)) β}
    (h : Wp (alone environment start) (f a).run x post) :
    Wp (alone environment start) (Prog.perform o >>= f).run x post := by
  apply wp_alone_other hreliable ho
  rintro r ⟨s, -, hs⟩
  obtain rfl := ha s r hs
  exact h

theorem wp_alone_context {f : Bool → ExceptT ε (Prog Op (Res P)) β}
    (h : Wp (alone environment start) (f false).run x post) :
    Wp (alone environment start) (Prog.perform Op.contextError >>= f).run x post :=
  wp_alone_answer hreliable (by simp) hreliable.context h

end Rules

/-! ## Whole transactions -/

/-- No transaction is open. -/
def AtRest (s : Backend) : Prop := ∀ k, s.database.owner k = none

theorem AtRest.alone (h : AtRest s) (pid : Pid) :
    Alone s s pid (Inside.start s.database.committed) where
  sees := Sees.of_idle fun k hk => by
    rw [h k] at hk
    cases hk
  committed := rfl
  quiet k := Or.inl (h k)

theorem Alone.finish (h : Alone start s pid x) (keep : Bool) :
    AtRest { s with database := s.database.finish pid keep } := by
  intro k
  show (if s.database.owner k = some pid then none else s.database.owner k) = none
  split
  · rfl
  · next hne => exact (h.quiet k).resolve_right hne

/-- A transaction alone: it publishes what its body sees at its end, or nothing. -/
theorem wp_withinTransaction (hreliable : Reliable environment) {repository : ε}
    {operation : ExceptT ε (Prog Op (Res P)) α} (hp : Performs Unending operation.run)
    (hrest : AtRest s) {post : Except ε α → Inside Key Row → Prop}
    (h : Wp (alone environment s) operation.run (Inside.start s.database.committed) post) :
    Wp (exec environment pid) (withinTransaction P repository operation).run s fun r t =>
      AtRest t ∧ ∃ y, post r y ∧ t.database.committed =
        match r with
        | .ok _ => y.view
        | .error _ => s.database.committed := by
  have hfails : ¬ Faulty environment := by
    rintro (⟨u, hu⟩ | ⟨q, u, hu⟩)
    · cases hreliable.context u true hu
    · exact hreliable.statement u q hu
  have halone := hrest.alone pid
  refine ⟨halone.exists_exec hreliable .contextError, ?_⟩
  rintro canceled t ⟨henv, ht⟩
  subst t
  obtain rfl := hreliable.context s canceled henv
  refine ⟨halone.exists_exec hreliable (.statement .begin), ?_⟩
  intro r t hexec
  obtain ⟨ht, rfl | ⟨-, hfaulty⟩⟩ := exec_begin hexec
  swap
  · exact absurd hfaulty hfails
  subst t
  refine wp_run_bind.mpr (wp_run_lift.mpr ((wp_exec_of_alone hreliable hp h halone).mono ?_))
  rintro outcome u ⟨y, hpost, hy⟩
  cases outcome with
  | error e =>
    refine ⟨hy.exists_exec hreliable (.statement .rollback), ?_⟩
    intro r v hrollback
    obtain rfl := exec_rollback hrollback
    refine ⟨hy.finish false, y, hpost, ?_⟩
    exact (committed_disconnect pid u).trans (hy.sees.committed.trans hy.committed)
  | ok a =>
    refine ⟨hy.exists_exec hreliable (.statement .commit), ?_⟩
    intro r v hcommit
    rcases exec_commit hcommit with ⟨rfl, rfl | ⟨-, hfaulty⟩⟩ | ⟨-, -, hfaulty⟩
    · exact ⟨hy.finish true, y, hpost, hy.sees.committed_finish⟩
    · exact absurd hfaulty hfails
    · exact absurd hfaulty hfails

/-- A run of the operations of a transaction that is alone, seen from inside. -/
theorem runs_alone {p : Prog Op (Res P) α} (hp : Performs Unending p) {a : α}
    (h : Runs (exec environment pid) p s a t) (halone : Alone start s pid x) :
    ∃ y, Runs (alone environment start) p x a y ∧ Alone start t pid y := by
  induction p generalizing s x with
  | ret b =>
    obtain ⟨rfl, rfl⟩ := h
    exact ⟨x, ⟨rfl, rfl⟩, halone⟩
  | call o next ih =>
    obtain ⟨r, u, hexec, hrest⟩ := h
    obtain ⟨z, hstep, hz⟩ := halone.exec hp.1 hexec
    obtain ⟨y, hruns, hy⟩ := ih r (hp.2 r) hrest hz
    exact ⟨y, ⟨r, z, hstep, hruns⟩, hy⟩

/-- A transaction that ran alone and was confirmed has published what its body saw at its end. -/
theorem runs_withinTransaction {repository : ε} {operation : ExceptT ε (Prog Op (Res P)) α}
    (hp : Performs Unending operation.run) (hrest : AtRest s) {a : α}
    (h : Runs (exec environment pid) (withinTransaction P repository operation).run s (.ok a) t) :
    AtRest t ∧ ∃ y, Runs (alone environment s) operation.run
      (Inside.start s.database.committed) (.ok a) y ∧ t.database.committed = y.view := by
  obtain ⟨canceled, u, ⟨-, hu⟩, h1⟩ := runs_run_perform_bind_ok.mp h
  obtain rfl : u = s := hu
  obtain ⟨_, -, h2⟩ := runs_run_ofExcept_bind_ok.mp h1
  obtain ⟨_, v, hquery, h3⟩ := runs_run_bind_ok.mp h2
  obtain ⟨answer, w, hbegin, hanswer⟩ := runs_run_perform_bind_ok.mp hquery
  obtain ⟨-, rfl⟩ := runs_run_ofExcept.mp hanswer
  obtain ⟨rfl, -⟩ := exec_begin hbegin
  obtain ⟨outcome, w, hlift, h4⟩ := runs_run_bind_ok.mp h3
  obtain ⟨outcome', hok, hoperation⟩ := runs_run_lift.mp hlift
  obtain rfl := Except.ok.inj hok
  obtain ⟨y, hruns, hy⟩ := runs_alone hp hoperation (hrest.alone pid)
  cases outcome with
  | error e =>
    obtain ⟨_, _, -, h5⟩ := runs_run_perform_bind_ok.mp h4
    cases (runs_run_throw.mp h5).1
  | ok b =>
    obtain ⟨confirmed, z, hcommit, h5⟩ := runs_run_perform_bind_ok.mp h4
    cases confirmed with
    | none =>
      obtain ⟨_, _, -, h6⟩ := runs_run_perform_bind_ok.mp h5
      cases (runs_run_throw.mp h6).1
    | some _ =>
      obtain ⟨rfl, rfl⟩ := runs_run_pure_ok.mp h5
      rcases exec_commit hcommit with ⟨rfl, -⟩ | ⟨-, hnone, -⟩
      · exact ⟨hy.finish true, y, hruns, hy.sees.committed_finish⟩
      · cases hnone

end Talenro.Analysis
