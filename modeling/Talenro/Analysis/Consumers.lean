import Talenro.Lib.Isolation
import Talenro.Model.Outbox.Consumer

/-!
# The effect of an event

Any number of deliveries of events to consumers run beside prunings of the consumption
records, with processes killed and the database restarting at any time.  A step that
changes committed rows is a commit of a delivery, which publishes the effect of its handler
together with a record that was not there before, or a pruning.  So the effect of an event
is committed once for as long as its record is kept, and a delivery that returns without
an error has an effect before it to refer to.
-/

set_option autoImplicit false
set_option linter.unusedSectionVars false

namespace Talenro.Consumption

open Lib Lib.Calendar Prog RowStore Idempotency

variable {C : Contracts} {κ : Type} {R : κ → Type}

/-- The rows of the database. -/
abbrev Rows (R : κ → Type) : Type := Overlay (Key κ) (Row R)

/-- Nothing is required of the other transactions. -/
abbrev anyContract (R : κ → Type) : Contract (Key κ) (Row R) := .unrestricted (Key κ) (Row R)

/-! ## Deliveries seen from outside -/

/-- The event of a delivery. -/
def Delivery.event (τ : Delivery C R) : Option (C.Envelope × UUID) := do
  let envelope ← C.unmarshalEnvelope τ.encoded
  let eventID ← eventIDOf C envelope
  pure (envelope, eventID)

section Effects

variable [DecidableEq κ] (check : (k : κ) → R k → Bool)

/-- One operation of a transaction, after steps of the others; any statement can fail. -/
def inside : (o : Op R) → Inside (Key κ) (Row R) → Res R o → Inside (Key κ) (Row R) → Prop
  | .contextError, x, _, y => y = x
  | .statement q, x, r, y => ∃ z, Others (anyContract R) x z ∧
      Inside.Does (constraints check) (fun _ => True) q z r y
  | .pruneConsumedEvents _, _, _, _ => False

/-- The commit of a delivery turns `c` into `d`: the record was not there and is, no other
record changes, and all other rows are what an execution of the handler that succeeded left
in the same transaction. -/
structure Commits (τ : Delivery C R) (envelope : C.Envelope) (eventID : UUID) (c d : Rows R) :
    Prop where
  fresh : c (.consumedEvent τ.consumer.name eventID) = none
  recorded : (d (.consumedEvent τ.consumer.name eventID)).isSome
  others : ∀ consumer id,
    (.consumedEvent consumer id : Key κ) ≠ .consumedEvent τ.consumer.name eventID →
    d (.consumedEvent consumer id) = c (.consumedEvent consumer id)
  handled : ∃ b row x y, Runs (inside check)
      (τ.consumer.handler.handleInTransaction envelope).run
      ((Inside.start b).write (.consumedEvent τ.consumer.name eventID) row) (.ok ()) x ∧
    Others (anyContract R) x y ∧ y.committed = c ∧ y.view = d

/-- What a task can change. -/
def Changes : Task C R → Rows R → Rows R → Prop
  | .deliver τ, c, d => ∃ envelope eventID, τ.event = some (envelope, eventID) ∧
      Commits check τ envelope eventID c d
  | .prune expiresAt, c, d =>
      d = fun k => (c k).filter fun row => !expired (timestamptz expiresAt) k row

/-- A step of a process. -/
structure Guarantee (pid : Pid) (task : Task C R) (s t : World R) : Prop where
  respects : Respects pid s.database t.database
  recorded : ∀ consumer eventID, s.recorded consumer eventID → t.recorded consumer eventID
  committed : t.database.committed = s.database.committed ∨
    Changes check task s.database.committed t.database.committed

/-- Committed records have been noted. -/
def Invariant (s : World R) : Prop :=
  ∀ consumer eventID, (s.database.committed (.consumedEvent consumer eventID)).isSome →
    s.recorded consumer eventID

variable {check}

theorem hosted : Hosted World.database Invariant
    (Guarantee check : Pid → Task C R → World R → World R → Prop) (anyContract R) where
  respects h := h.respects
  change _ _ _ := trivial
  holds _ := trivial

theorem recorded_rely {pid : Pid} {s t : World R}
    (hrely : Rely (Guarantee check : Pid → Task C R → World R → World R → Prop) pid s t)
    {consumer : Bytes} {eventID : UUID} (h : s.recorded consumer eventID) :
    t.recorded consumer eventID :=
  hrely.preserves (P := fun u => u.recorded consumer eventID)
    (fun _ _ _ _ _ hguar hu => hguar.recorded consumer eventID hu) h

variable {pid : Pid} {task : Task C R} {s t : World R}

theorem invariant_advance {aborted : Bool} {d : RowStore (Key κ) (Row R) Pid} :
    Invariant (s.advance pid aborted d) :=
  fun _ _ h => Or.inr h

/-- A step that commits nothing. -/
theorem guarantee_advance {aborted : Bool} {d : RowStore (Key κ) (Row R) Pid}
    (hrespects : Respects pid s.database d) (hcommitted : d.committed = s.database.committed) :
    Guarantee check pid task s (s.advance pid aborted d) :=
  ⟨hrespects, fun _ _ h => Or.inl h, Or.inl hcommitted⟩

theorem guarantee_refl : Guarantee check pid task s s :=
  ⟨respects_refl, fun _ _ h => h, Or.inl rfl⟩

end Effects

/-! ## Statements -/

section Statements

variable [DecidableEq κ] {check : (k : κ) → R k → Bool} {pid : Pid} {s t : World R}
  {q : Statement (Key κ) (Row R)}

/-- A statement is executed by the database, or fails because its transaction has. -/
theorem executes_cases {r : Option q.Answer} (h : Executes check pid q s r t) :
    (∃ d, RowStore.Exec (constraints check) (fun _ => True) pid q s.database r d ∧
        t = s.advance pid r.isNone d) ∨
      q.begins = false ∧ r = none ∧ t = s.advance pid true
        (if q.ends then s.database.finish pid false else s.database) := by
  unfold Executes at h
  split at h
  · next haborted =>
    rw [Bool.and_eq_true, Bool.not_eq_true'] at haborted
    exact Or.inr ⟨haborted.2, h⟩
  · exact Or.inl h

variable {r : Option Unit}

theorem executes_begin (h : Executes check pid .begin s r t) :
    t = s.advance pid r.isNone s.database := by
  rcases executes_cases h with ⟨d, hexec, rfl⟩ | ⟨hbegins, -⟩
  · rw [(exec_begin_same hexec).1]
  · cases hbegins

theorem executes_rollback (h : Executes check pid .rollback s r t) :
    ∃ aborted, t = s.advance pid aborted (s.database.finish pid false) := by
  rcases executes_cases h with ⟨d, hexec, rfl⟩ | ⟨-, -, rfl⟩
  · exact ⟨_, by rw [exec_rollback_finish hexec]⟩
  · exact ⟨true, rfl⟩

/-- A commit publishes the rows of its transaction or, when it fails, may leave them. -/
theorem executes_commit (h : Executes check pid .commit s r t) :
    (∃ aborted, t = s.advance pid aborted (s.database.finish pid true)) ∨
      r = none ∧ ∃ aborted, t = s.advance pid aborted s.database ∨
        t = s.advance pid aborted (s.database.finish pid false) := by
  rcases executes_cases h with ⟨d, hexec, rfl⟩ | ⟨-, rfl, rfl⟩
  · rcases exec_commit_cases hexec with ⟨rfl, -⟩ | ⟨rfl, rfl, -⟩
    · exact Or.inl ⟨_, rfl⟩
    · exact Or.inr ⟨rfl, _, Or.inl rfl⟩
  · exact Or.inr ⟨rfl, true, Or.inr rfl⟩

/-- A statement inside a transaction, as the transaction sees it. -/
theorem executes_inside {r : Option q.Answer} {x : Inside (Key κ) (Row R)} (hends : q.ends = false)
    (hsees : Sees s.database pid x) (h : Executes check pid q s r t) :
    ∃ aborted d y, t = s.advance pid aborted d ∧ Respects pid s.database d ∧
      d.committed = s.database.committed ∧
      Inside.Does (constraints check) (fun _ => True) q x r y ∧ Sees d pid y := by
  rcases executes_cases h with ⟨d, hexec, rfl⟩ | ⟨-, rfl, rfl⟩
  · have hcommit : q ≠ .commit := by
      rintro rfl
      cases hends
    have hrollback : q ≠ .rollback := by
      rintro rfl
      cases hends
    obtain ⟨y, hdoes, hy, hcommitted, hrespects⟩ := hsees.exec hexec hcommit hrollback
    exact ⟨_, d, y, rfl, hrespects, hcommitted, hdoes, hy⟩
  · rw [if_neg (by rw [hends]; exact Bool.false_ne_true)]
    exact ⟨true, s.database, x, rfl, respects_refl, rfl, ⟨rfl, Or.inl trivial⟩, hsees⟩

end Statements

/-! ## One delivery -/

section Deliveries

variable [DecidableEq κ] {check : (k : κ) → R k → Bool} {pid : Pid} {task : Task C R}
  {τ : Delivery C R} {s : World R} {x y : Inside (Key κ) (Row R)} {envelope : C.Envelope}
  {eventID : UUID}

/-- What is known when a delivery has ended: without an error, its event was recorded. -/
def Reported (τ : Delivery C R) (out : Except Error Unit) (t : World R) : Prop :=
  out = .ok () → ∃ envelope eventID, τ.event = some (envelope, eventID) ∧
    t.recorded τ.consumer.name eventID

variable {t : World R}

theorem reported_error {e : Error} : Reported τ (.error e) t :=
  fun h => (by cases h)

theorem Reported.rely {out : Except Error Unit} (h : Reported τ out s)
    (hrely : Rely (Guarantee check : Pid → Task C R → World R → World R → Prop) pid s t) :
    Reported τ out t := by
  intro hout
  obtain ⟨envelope, eventID, hevent, hrecorded⟩ := h hout
  exact ⟨envelope, eventID, hevent, recorded_rely hrely hrecorded⟩

theorem safe_contextOr {e : Error} :
    Safe (exec check pid) Invariant (Guarantee check) pid task (Reported τ)
      (contextOr e).run s := by
  apply safe_run_perform_bind
  rintro t _ hinv r u rfl
  refine ⟨hinv, guarantee_refl, ?_⟩
  apply safe_run_throw
  intro _ _ _
  exact reported_error

/-- One operation of a handler. -/
theorem exec_handlerOp {o : Op R} {r : Res R o} (ho : HandlerOp o)
    (hothers : Others (anyContract R) x y) (hsees : Sees s.database pid y) (hinv : Invariant s)
    (h : exec check pid o s r t) :
    Invariant t ∧ Guarantee check pid task s t ∧ ∃ z w, inside check o x r z ∧
      Others (anyContract R) z w ∧ Sees t.database pid w := by
  cases o with
  | contextError =>
    obtain rfl := h
    exact ⟨hinv, guarantee_refl, x, y, rfl, hothers, hsees⟩
  | statement q =>
    obtain ⟨aborted, d, z, rfl, hrespects, hcommitted, hdoes, hz⟩ := executes_inside ho.2.1 hsees h
    exact ⟨invariant_advance, guarantee_advance hrespects hcommitted, z, z, ⟨y, hothers, hdoes⟩,
      Others.refl trivial, hz⟩
  | pruneConsumedEvents expiresAt => exact ho.elim

/-- The work of a handler, and how it looks from inside. -/
theorem safe_handler {handler : Handler C R} (hsees : Sees s.database pid x) :
    Safe (exec check pid) Invariant (Guarantee check) pid task
      (fun outcome t => ∃ z w,
        Runs (inside check) (handler.handleInTransaction envelope).run x outcome z ∧
        Others (anyContract R) z w ∧ Sees t.database pid w)
      (handler.handleInTransaction envelope).run s := by
  refine hosted.safe_inside ?_ (handler.performs envelope) (Others.refl trivial) hsees
  intro o s r t x y ho hothers hsees hinv h
  exact exec_handlerOp ho hothers hsees hinv h

/-- A handler does not write consumption records. -/
theorem handler_written {p : Prog (Op R) (Res R) (Except HandlerFailure Unit)}
    (hp : Performs HandlerOp p) {r : Except HandlerFailure Unit} (h : Runs (inside check) p x r y)
    (consumer : Bytes) (id : UUID) :
    y.written (.consumedEvent consumer id) = x.written (.consumedEvent consumer id) := by
  induction p generalizing x with
  | ret b =>
    obtain ⟨-, rfl⟩ := h
    rfl
  | call o next ih =>
    obtain ⟨r', z, hstep, hrest⟩ := h
    rw [ih r' (hp.2 r') hrest]
    cases o with
    | contextError =>
      obtain rfl := hstep
      rfl
    | statement q =>
      obtain ⟨w, hothers, hdoes⟩ := hstep
      rw [hdoes.frame.1 (hp.1.2.2 consumer id), hothers.written]
    | pruneConsumedEvents expiresAt => exact hstep.elim

/-- One operation leads to a later point of the transaction. -/
theorem inside_advances {o : Op R} {r : Res R o} (h : inside check o x r y) :
    Advances (anyContract R) x y := by
  cases o with
  | contextError =>
    obtain rfl := h
    exact Advances.refl
  | statement q =>
    obtain ⟨z, hothers, hdoes⟩ := h
    exact hothers.does hdoes
  | pruneConsumedEvents expiresAt => exact h.elim

theorem runs_advances {p : Prog (Op R) (Res R) (Except HandlerFailure Unit)}
    {r : Except HandlerFailure Unit} (h : Runs (inside check) p x r y) :
    Advances (anyContract R) x y :=
  h.preserves (P := fun z => Advances (anyContract R) x z)
    (fun _ _ _ _ hstep hz => hz.trans (inside_advances hstep)) Advances.refl

/-- The commit of a transaction that sees `x`. -/
theorem safe_commit (hsees : Sees s.database pid x)
    (hcommit : ∀ y, Others (anyContract R) x y →
      y.view = y.committed ∨ Changes check task y.committed y.view)
    (hdone : ∀ y t, Others (anyContract R) x y → (∀ consumer id, s.recorded consumer id →
        t.recorded consumer id) → (∀ consumer id, (y.view (.consumedEvent consumer id)).isSome →
        t.recorded consumer id) → Reported τ (.ok ()) t) :
    Safe (exec check pid) Invariant (Guarantee check) pid task (Reported τ)
      (do
        let committed ← Prog.perform (Op.statement (R := R) .commit)
        match committed with
        | some _ => pure ()
        | none => contextOr .commit : ExceptT Error (Prog (Op R) (Res R)) Unit).run s := by
  apply safe_run_perform_bind
  intro t hrely hinv r u hexec
  obtain ⟨y, hothers, hy⟩ := hosted.sees hsees hrely hinv
  rcases executes_commit hexec with ⟨aborted, rfl⟩ | ⟨rfl, aborted, rfl | rfl⟩
  · have hview : (t.database.finish pid true).committed = y.view := hy.committed_finish
    refine ⟨invariant_advance, ⟨respects_finish true, fun _ _ h => Or.inl h, ?_⟩, ?_⟩
    · show (t.database.finish pid true).committed = t.database.committed ∨
        Changes check task t.database.committed (t.database.finish pid true).committed
      rw [hview, hy.committed]
      exact hcommit y hothers
    · cases r with
      | some _ =>
        apply safe_run_pure
        intro v hrely' _
        apply hdone y v hothers
        · intro consumer id hrecorded
          exact recorded_rely hrely' (Or.inl (recorded_rely hrely hrecorded))
        · intro consumer id hsome
          refine recorded_rely hrely' (Or.inr ?_)
          rwa [hview]
      | none => exact safe_contextOr
  · exact ⟨invariant_advance, guarantee_advance respects_refl rfl, safe_contextOr⟩
  · exact ⟨invariant_advance, guarantee_advance (respects_finish false)
      (funext committed_rollback), safe_contextOr⟩

/-- What the transaction of a delivery commits when its handler has succeeded. -/
theorem commits_of_handled {b : Rows R} {row : ConsumedEventRow}
    (hfresh : b (.consumedEvent τ.consumer.name eventID) = none)
    (hrun : Runs (inside check) (τ.consumer.handler.handleInTransaction envelope).run
      ((Inside.start b).write (.consumedEvent τ.consumer.name eventID) row) (.ok ()) x)
    (hothers : Others (anyContract R) x y) :
    Commits check τ envelope eventID y.committed y.view := by
  have hwritten : ∀ consumer id, y.written (.consumedEvent consumer id) =
      ((Inside.start b).write (.consumedEvent τ.consumer.name eventID) row).written
        (.consumedEvent consumer id) := by
    intro consumer id
    rw [hothers.written]
    exact handler_written (τ.consumer.handler.performs envelope) hrun consumer id
  have hadvances := (runs_advances hrun).trans hothers.advances
  have hkept := hadvances.kept (.consumedEvent τ.consumer.name eventID) (Or.inl rfl)
  refine ⟨hkept.trans hfresh, ?_, ?_, b, row, x, y, hrun, hothers, rfl, rfl⟩
  · rw [Inside.view, hwritten]
    simp [Inside.write, Overlay.set_self]
  · intro consumer id hne
    rw [Inside.view, hwritten, Inside.written_write_of_ne hne]
    rfl

/-- The transaction of a delivery. -/
theorem safe_consumeInTransaction {row : ConsumedEventRow}
    (hevent : τ.event = some (envelope, eventID)) (hidle : s.database.Idle pid) :
    Safe (exec check pid) Invariant (Guarantee check) pid (.deliver τ) (Reported τ)
      (consumeInTransaction τ.consumer envelope eventID row).run s := by
  apply safe_run_perform_bind
  intro t hrely hinv r u hexec
  have hsees := Sees.of_idle (hosted.idle hidle hrely)
  obtain ⟨aborted, d, z, rfl, hrespects, hcommitted, hdoes, hz⟩ := executes_inside rfl hsees hexec
  refine ⟨invariant_advance, guarantee_advance hrespects hcommitted, ?_⟩
  cases r with
  | none => exact safe_contextOr
  | some inserted =>
    rcases hdoes.1 with ⟨rfl, hsome, rfl⟩ | ⟨rfl, hnone, rfl⟩
    · -- the record was there: nothing is written, and the record has been noted
      have hrecorded : t.recorded τ.consumer.name eventID :=
        hinv _ _ (Option.isSome_iff_ne_none.mpr hsome)
      apply safe_commit hz
      · intro y hothers
        refine Or.inl (funext fun k => ?_)
        rw [Inside.view, hothers.written]
        rfl
      · intro y v _ hkept _ _
        exact ⟨envelope, eventID, hevent, hkept _ _ (Or.inl hrecorded)⟩
    · -- the record is new, and the handler runs
      apply safe_run_bind invariant_advance
      apply safe_run_lift_bind invariant_advance
      have hstart : Sees (t.advance pid aborted d).database pid _ := hz
      apply (safe_handler hstart).mono
      rintro outcome v hinv' ⟨x, w, hrun, hothers, hw⟩
      cases outcome with
      | error e =>
        apply safe_run_pure
        intro v' _ _
        exact safe_contextOr
      | ok _ =>
        apply safe_run_pure
        intro v' hrely' hinv''
        obtain ⟨w', hothers', hw'⟩ := hosted.sees hw hrely' hinv''
        apply safe_commit hw'
        · intro y hy
          exact Or.inr ⟨envelope, eventID, hevent,
            commits_of_handled hnone hrun ((hothers.trans hothers').trans hy)⟩
        · intro y v'' hy _ hview _
          have hcommits := commits_of_handled hnone hrun ((hothers.trans hothers').trans hy)
          exact ⟨envelope, eventID, hevent, hview _ _ hcommits.recorded⟩

/-- The deferred rollback. -/
theorem safe_deferred {out : Except Error Unit} (hout : Reported τ out s) :
    Safe (exec check pid) Invariant (Guarantee check) pid task (Reported τ)
      (do
        let _ ← Prog.perform (Op.statement (R := R) .rollback)
        Prog.ofExcept out : ExceptT Error (Prog (Op R) (Res R)) Unit).run s := by
  apply safe_run_perform_bind
  intro t hrely hinv r u hexec
  obtain ⟨aborted, rfl⟩ := executes_rollback hexec
  have hguar : Guarantee check pid task t (t.advance pid aborted (t.database.finish pid false)) :=
    guarantee_advance (respects_finish false) (funext committed_rollback)
  refine ⟨invariant_advance, hguar, ?_⟩
  apply safe_run_ofExcept
  intro v hrely' _ hok
  obtain ⟨envelope, eventID, hevent, hrecorded⟩ := (hout.rely hrely) hok
  exact ⟨envelope, eventID, hevent, recorded_rely hrely' (hguar.recorded _ _ hrecorded)⟩

/-- A delivery is safe among others. -/
theorem safe_consume (hidle : s.database.Idle pid) :
    Safe (exec check pid) Invariant (Guarantee check) pid (.deliver τ) (Reported τ)
      (consume τ.consumer τ.encoded τ.consumedAt τ.year).run s := by
  have herror : ∀ {e : Error} {s : World R}, ∀ t, Rely (Guarantee check : Pid → Task C R → World R →
      World R → Prop) pid s t → Invariant t → Reported τ (.error e) t :=
    fun _ _ _ => reported_error
  apply safe_run_ofExcept_bind
  · intro _ _
    apply safe_run_perform_bind
    rintro s₁ hrely₁ hinv₁ canceled _ rfl
    refine ⟨hinv₁, guarantee_refl, ?_⟩
    have hidle₁ := hosted.idle hidle hrely₁
    apply safe_run_ofExcept_bind
    · intro _ _
      apply safe_run_ofExcept_bind
      · intro envelope henvelope
        apply safe_run_ofExcept_bind
        · intro eventID heventID
          have hevent : τ.event = some (envelope, eventID) := by
            rw [orThrow_eq_ok] at henvelope heventID
            rw [Delivery.event, henvelope]
            show (eventIDOf C envelope).bind _ = _
            rw [heventID]
            rfl
          apply safe_run_ofExcept_bind
          · intro _ _
            apply safe_run_perform_bind
            intro s₂ hrely₂ hinv₂ begun s₃ hexec
            obtain rfl := executes_begin hexec
            refine ⟨invariant_advance, guarantee_advance respects_refl rfl, ?_⟩
            cases begun with
            | none => exact safe_contextOr
            | some _ =>
              apply safe_run_lift_bind invariant_advance
              have hidle₂ : s₂.database.Idle pid := hosted.idle hidle₁ hrely₂
              have hidle₃ : (s₂.advance pid false s₂.database).database.Idle pid := hidle₂
              apply (safe_consumeInTransaction hevent hidle₃).mono
              intro out v _ hout
              exact safe_deferred hout
          · exact fun _ _ => herror
        · exact fun _ _ => herror
      · exact fun _ _ => herror
    · exact fun _ _ => herror
  · exact fun _ _ => herror

end Deliveries

/-! ## Deliveries side by side -/

section Running

variable [DecidableEq κ] {check : (k : κ) → R k → Bool}

variable {name : Bytes} {pid : Pid} {eventID : UUID} {s : World R}

theorem safe_pruneConsumedEvents {expiresAt : Instant} :
    Safe (exec check pid) Invariant (Guarantee check) pid (Task.prune (C := C) expiresAt)
      (fun _ _ => True) (pruneConsumedEvents expiresAt).run s := by
  apply safe_run_perform_bind
  rintro t _ hinv r u ⟨hfree, hprunes⟩
  have hafter : Guarantee check pid (Task.prune (C := C) expiresAt) t
      (t.advance pid (t.aborted pid) (t.database.remove (expired (timestamptz expiresAt)))) :=
    ⟨respects_remove hfree, fun _ _ h => Or.inl h, Or.inr rfl⟩
  rcases hprunes with ⟨rfl, rfl⟩ | ⟨rfl, rfl | rfl⟩
  · exact ⟨invariant_advance, hafter, safe_run_pure fun _ _ _ => trivial⟩
  · exact ⟨hinv, guarantee_refl, safe_run_throw fun _ _ _ => trivial⟩
  · exact ⟨invariant_advance, hafter, safe_run_throw fun _ _ _ => trivial⟩

theorem committed_disconnect (pid : Pid) (s : World R) :
    (disconnect pid s).database.committed = s.database.committed := funext committed_rollback

theorem guarantee_disconnect {task : Task C R} : Guarantee check pid task s (disconnect pid s) :=
  ⟨respects_finish false, fun _ _ h => h, Or.inl (committed_disconnect pid s)⟩

theorem invariant_disconnect (h : Invariant s) : Invariant (disconnect pid s) := by
  intro consumer eventID hsome
  rw [committed_disconnect] at hsome
  exact h consumer eventID hsome

/-- What is known when a task has ended. -/
def Ended : Task C R → Except Error Unit → World R → Prop
  | .deliver τ => Reported τ
  | .prune _ => fun _ _ => True

theorem sound_consuming : Sound (consuming C check) Invariant (Guarantee check)
    fun _ task _ out t => Ended task out t where
  arrive pid task s hinv := ⟨invariant_disconnect hinv, guarantee_disconnect⟩
  safe pid task s hinv := by
    cases task with
    | deliver τ => exact safe_consume (finish_idle false)
    | prune expiresAt => exact safe_pruneConsumedEvents
  release pid task s hinv := ⟨invariant_disconnect hinv, guarantee_disconnect⟩
  crash s t hinv hcrash := by
    obtain rfl := hcrash
    exact hinv

abbrev ConsumingPool (C : Contracts) (R : κ → Type) : Type :=
  Pool Pid (Task C R) (Except Error Unit) (Op R) (Res R) (World R)

/-- No event has been consumed yet. -/
structure Unconsumed (s : World R) : Prop where
  records : ∀ consumer eventID, s.database.committed (.consumedEvent consumer eventID) = none
  recorded : ∀ consumer eventID, ¬ s.recorded consumer eventID

theorem Unconsumed.invariant (h : Unconsumed s) : Invariant s := by
  intro consumer eventID hsome
  rw [h.records] at hsome
  cases hsome

/-- In this step a delivery of the event to the consumer of this name commits the effect of
its handler. -/
def CommitsEffect (check : (k : κ) → R k → Bool) (name : Bytes) (eventID : UUID)
    (pool pool' : ConsumingPool C R) : Prop :=
  ∃ pid run τ envelope, (consuming C check).Step pool (.op pid) pool' ∧
    pool.running pid = some run ∧ run.task = .deliver τ ∧ τ.consumer.name = name ∧
    τ.event = some (envelope, eventID) ∧
    Commits check τ envelope eventID pool.state.database.committed pool'.state.database.committed

/-- In this step the record of the event, which has expired, is pruned. -/
def PrunesRecord (check : (k : κ) → R k → Bool) (name : Bytes) (eventID : UUID)
    (pool pool' : ConsumingPool C R) : Prop :=
  ∃ pid run expiresAt row, (consuming C check).Step pool (.op pid) pool' ∧
    pool.running pid = some run ∧ run.task = .prune expiresAt ∧
    pool.state.database.committed (.consumedEvent name eventID) = some row ∧
    row.expiresAt < timestamptz expiresAt ∧
    pool'.state.database.committed (.consumedEvent name eventID) = none

variable {init : World R} {pool pool' : ConsumingPool C R}
  {label : Label Pid (Task C R) (Except Error Unit) (World R)}

/-- A step that changes the committed rows is an operation of some process, within what its
task can change. -/
theorem changes_of_step (hinit : Unconsumed init)
    (hreach : (consuming C check).Reachable init pool)
    (hstep : (consuming C check).Step pool label pool')
    (hchange : pool'.state.database.committed ≠ pool.state.database.committed) :
    ∃ pid run, label = .op pid ∧ pool.running pid = some run ∧
      Changes check run.task pool.state.database.committed pool'.state.database.committed := by
  cases label with
  | op pid =>
    obtain ⟨run, hrun, hguar⟩ := sound_consuming.op hinit.invariant hreach hstep
    exact ⟨pid, run, rfl, hrun, hguar.committed.resolve_left hchange⟩
  | crash =>
    cases hstep with
    | crash h =>
      obtain rfl := h
      exact absurd rfl hchange
  | _ =>
    cases hstep
    exact absurd (committed_disconnect _ _) hchange

/-- A step that changes a record commits the effect of its event, or prunes it. -/
theorem record_changes (hinit : Unconsumed init) (hreach : (consuming C check).Reachable init pool)
    (hstep : (consuming C check).Step pool label pool')
    (hchange : pool'.state.database.committed (.consumedEvent name eventID) ≠
      pool.state.database.committed (.consumedEvent name eventID)) :
    CommitsEffect check name eventID pool pool' ∨ PrunesRecord check name eventID pool pool' := by
  obtain ⟨pid, run, rfl, hrun, hchanges⟩ := changes_of_step hinit hreach hstep
    fun h => hchange (congrFun h _)
  cases htask : run.task with
  | deliver τ =>
    rw [htask] at hchanges
    obtain ⟨envelope, id, hevent, hcommits⟩ := hchanges
    have hkey : (.consumedEvent name eventID : Key κ) = .consumedEvent τ.consumer.name id := by
      by_contra hne
      exact hchange (hcommits.others name eventID hne)
    obtain ⟨rfl, rfl⟩ := Key.consumedEvent.inj hkey
    exact Or.inl ⟨pid, run, τ, envelope, hstep, hrun, htask, rfl, hevent, hcommits⟩
  | prune expiresAt =>
    rw [htask] at hchanges
    have hafter := congrFun hchanges (.consumedEvent name eventID)
    cases hrow : pool.state.database.committed (.consumedEvent name eventID) with
    | none =>
      rw [hafter, hrow] at hchange
      exact absurd rfl hchange
    | some row =>
      rw [hrow, Option.filter_some] at hafter
      by_cases hexpired : row.expiresAt < timestamptz expiresAt
      · refine Or.inr ⟨pid, run, expiresAt, row, hstep, hrun, htask, hrow, hexpired, ?_⟩
        rw [hafter]
        simp [expired, hexpired]
      · rw [hafter, hrow] at hchange
        simp [expired, hexpired] at hchange

/-- What an operation notes is committed. -/
theorem exec_recorded {o : Op R} {r : Res R o} {t : World R} (h : exec check pid o s r t)
    (hnew : t.recorded name eventID) :
    s.recorded name eventID ∨ (t.database.committed (.consumedEvent name eventID)).isSome := by
  cases o with
  | contextError =>
    obtain rfl := h
    exact Or.inl hnew
  | statement q =>
    rcases executes_cases h with ⟨d, -, rfl⟩ | ⟨-, -, rfl⟩
    · exact hnew
    · exact hnew
  | pruneConsumedEvents expiresAt =>
    rcases h.2 with ⟨-, rfl⟩ | ⟨-, rfl | rfl⟩
    · exact hnew
    · exact Or.inl hnew
    · exact hnew

theorem step_recorded (hstep : (consuming C check).Step pool label pool')
    (hnew : pool'.state.recorded name eventID) :
    pool.state.recorded name eventID ∨
      (pool'.state.database.committed (.consumedEvent name eventID)).isSome := by
  cases hstep with
  | spawn => exact Or.inl hnew
  | op _ hexec => exact exec_recorded hexec hnew
  | done => exact Or.inl hnew
  | kill => exact Or.inl hnew
  | crash h =>
    obtain rfl := h
    exact Or.inl hnew

/-- An event that has been recorded has had its effect committed. -/
theorem recorded_earlier (hinit : Unconsumed init)
    (hreach : (consuming C check).Reachable init pool)
    (hrecorded : pool.state.recorded name eventID) :
    ∃ before after, (consuming C check).Reachable init before ∧
      CommitsEffect check name eventID before after ∧ (consuming C check).Reaches after pool := by
  induction hreach with
  | init => exact absurd hrecorded (hinit.recorded name eventID)
  | @step middle label last hmiddle hstep ih =>
    by_cases hold : middle.state.recorded name eventID
    · obtain ⟨before, after, hbefore, hcommits, hafter⟩ := ih hold
      exact ⟨before, after, hbefore, hcommits, hafter.tail ⟨label, hstep⟩⟩
    · have hsome := (step_recorded hstep hrecorded).resolve_left hold
      have hnone : middle.state.database.committed (.consumedEvent name eventID) = none := by
        by_contra hne
        exact hold ((sound_consuming.reachable hinit.invariant hmiddle).1 name eventID
          (Option.isSome_iff_ne_none.mpr hne))
      have hchange : last.state.database.committed (.consumedEvent name eventID) ≠
          middle.state.database.committed (.consumedEvent name eventID) := by
        rw [hnone]
        exact Option.isSome_iff_ne_none.mp hsome
      rcases record_changes hinit hmiddle hstep hchange with
        hcommits | ⟨_, _, _, _, -, -, -, hrow, -⟩
      · exact ⟨middle, last, hmiddle, hcommits, Relation.ReflTransGen.refl⟩
      · rw [hnone] at hrow
        cases hrow

/-- In every run of deliveries and prunings: a step that changes committed rows commits the
effect of one event, or is a pruning; after the effect of an event has been committed for a
consumer, it is committed again only after its record has been pruned; and a delivery that
returns without an error comes after a step that committed the effect of its event. -/
theorem effect_committed_once_while_recorded (hinit : Unconsumed init)
    (hreach : (consuming C check).Reachable init pool)
    (hstep : (consuming C check).Step pool label pool') :
    (pool'.state.database.committed ≠ pool.state.database.committed →
      (∃ name eventID, CommitsEffect check name eventID pool pool') ∨
      ∃ pid run expiresAt, label = .op pid ∧ pool.running pid = some run ∧
        run.task = .prune expiresAt ∧ pool'.state.database.committed =
          fun k => (pool.state.database.committed k).filter fun row =>
            !expired (timestamptz expiresAt) k row) ∧
    (∀ name eventID, CommitsEffect check name eventID pool pool' →
      ∀ later later', (consuming C check).Reaches pool' later →
        CommitsEffect check name eventID later later' →
        ∃ before after, (consuming C check).Reaches pool' before ∧
          PrunesRecord check name eventID before after ∧
          (consuming C check).Reaches after later) ∧
    (∀ pid τ start, label = .done pid (.deliver τ) start (.ok ()) →
      ∃ envelope eventID before after, τ.event = some (envelope, eventID) ∧
        (consuming C check).Reachable init before ∧
        CommitsEffect check τ.consumer.name eventID before after ∧
        (consuming C check).Reaches after pool) := by
  refine ⟨?_, ?_, ?_⟩
  · intro hchange
    obtain ⟨pid, run, rfl, hrun, hchanges⟩ := changes_of_step hinit hreach hstep hchange
    cases htask : run.task with
    | deliver τ =>
      rw [htask] at hchanges
      obtain ⟨envelope, eventID, hevent, hcommits⟩ := hchanges
      exact Or.inl ⟨_, eventID, pid, run, τ, envelope, hstep, hrun, htask, rfl, hevent, hcommits⟩
    | prune expiresAt =>
      rw [htask] at hchanges
      exact Or.inr ⟨pid, run, expiresAt, rfl, hrun, htask, hchanges⟩
  · rintro name eventID ⟨_, _, τ, _, -, -, -, rfl, -, hfirst⟩ later later' hlater
      ⟨_, _, τ', _, -, -, -, hname, -, hsecond⟩
    have hgone : ¬ (later.state.database.committed
        (.consumedEvent τ.consumer.name eventID)).isSome := by
      have hfresh := hsecond.fresh
      rw [hname] at hfresh
      rw [hfresh]
      exact Bool.false_ne_true
    obtain ⟨before, label', after, hbefore, hloss, hafter, hthere, hlost⟩ := hlater.exists_loss
      (fun s => (s.database.committed (.consumedEvent τ.consumer.name eventID)).isSome)
      hfirst.recorded hgone
    have hchange : after.state.database.committed (.consumedEvent τ.consumer.name eventID) ≠
        before.state.database.committed (.consumedEvent τ.consumer.name eventID) := by
      intro heq
      rw [heq] at hlost
      exact hlost hthere
    refine ⟨before, after, hbefore, ?_, hafter⟩
    have hreach' := (hreach.step hstep).reaches hbefore
    refine (record_changes hinit hreach' hloss hchange).resolve_left ?_
    rintro ⟨_, _, τ'', _, -, -, -, hname', -, hcommits⟩
    have hrecorded := hcommits.recorded
    rw [hname'] at hrecorded
    exact hlost hrecorded
  · rintro pid τ start rfl
    have hended : Reported τ (.ok ()) pool.state :=
      sound_consuming.done hinit.invariant hreach hstep
    obtain ⟨envelope, eventID, hevent, hrecorded⟩ := hended rfl
    obtain ⟨before, after, hbefore, hcommits, hafter⟩ := recorded_earlier hinit hreach hrecorded
    exact ⟨envelope, eventID, before, after, hevent, hbefore, hcommits, hafter⟩

end Running

/-! ## A delivery -/

section Sample

/-- A database with one more table, of one row. -/
abbrev NoteRow : Unit → Type := fun _ => ℕ

/-- Every delivery carries the same event. -/
def noteContracts : Contracts where
  Envelope := Unit
  unmarshalEnvelope _ := some ()
  eventId _ := []
  uuidParse _ := some (Octets.replicate 16 1)
  uuidString _ := []

/-- A handler that inserts a row. -/
def noteHandler : Handler noteContracts NoteRow where
  handleInTransaction _ := do
    let _ ← Prog.perform (Op.statement (R := NoteRow) (.insert (.table ()) 1))
    pure ()
  performs _ := by
    refine performs_run_perform_bind ⟨rfl, rfl, ?_⟩ fun _ => performs_run_pure
    intro consumer eventID h
    cases h

def noteDelivery : Delivery noteContracts NoteRow where
  consumer :=
    { name := ascii "notes"
      retention := 30 * day
      handler := noteHandler
      name_valid := by decide
      retention_valid := by
        constructor
        · show (0 : ℤ) < 30 * (86400 * 1000000000)
          norm_num
        · show (30 : ℤ) * (86400 * 1000000000) ≤ 365 * (86400 * 1000000000)
          norm_num }
  encoded := []
  consumedAt := 1
  year _ := 2025

/-- Nothing is stored. -/
def noteStart : World NoteRow where
  database := RowStore.empty
  aborted _ := false
  recorded _ _ := False

theorem noteStart_unconsumed : Unconsumed noteStart := ⟨fun _ _ => rfl, fun _ _ h => h⟩

/-- A statement that succeeds. -/
theorem executes_of_perform {check : (k : Unit) → NoteRow k → Bool} {pid : Pid}
    {q : Statement (Key Unit) (Row NoteRow)} {s : World NoteRow} {a : q.Answer}
    {d : RowStore (Key Unit) (Row NoteRow) Pid} (haborted : s.aborted pid = false)
    (hperform : s.database.perform pid q = some (a, d))
    (hcheck : q.admissible (constraints check) a = true) :
    Executes check pid q s (some a) (s.advance pid false d) := by
  unfold Executes
  rw [haborted, Bool.false_and, if_neg Bool.false_ne_true]
  exact ⟨d, .done hperform hcheck, rfl⟩


/-- All rows are admitted. -/
def noteCheck : (k : Unit) → NoteRow k → Bool := fun _ _ => true

theorem note_leads : ∃ t, System.Leads (exec noteCheck 0) (program (.deliver noteDelivery))
    (disconnect 0 noteStart) (.ret (.ok ())) t :=
  ⟨_, .step (o := Op.contextError) (r := false) rfl <|
    .step (o := Op.statement .begin) (r := some ()) (executes_of_perform rfl rfl rfl) <|
    .step (o := Op.statement (.insert (.consumedEvent (ascii "notes") (Octets.replicate 16 1)) _))
      (r := some true) (executes_of_perform rfl rfl rfl) <|
    .step (o := Op.statement (.insert (.table ()) 1)) (r := some true)
      (executes_of_perform rfl rfl rfl) <|
    .step (o := Op.statement .commit) (r := some ()) (executes_of_perform rfl rfl rfl) <|
    .step (o := Op.statement .rollback) (r := some ()) (executes_of_perform rfl rfl rfl) .refl⟩

/-- The delivery has done its work. -/
def notePool (t : World NoteRow) : ConsumingPool noteContracts NoteRow :=
  ⟨t, Function.update (fun _ => none) 0
    (some ⟨.deliver noteDelivery, disconnect 0 noteStart, .ret (.ok ())⟩)⟩

theorem notePool_running (t : World NoteRow) : (notePool t).running 0 =
    some ⟨.deliver noteDelivery, disconnect 0 noteStart, .ret (.ok ())⟩ := by
  simp [notePool]

theorem note_effect_committed : ∃ before after,
    (consuming noteContracts noteCheck).Reachable noteStart before ∧
      CommitsEffect noteCheck (ascii "notes") (Octets.replicate 16 1) before after := by
  obtain ⟨t, hleads⟩ := note_leads
  have hrun : (consuming noteContracts noteCheck).Reaches ⟨noteStart, fun _ => none⟩ (notePool t) :=
    (consuming noteContracts noteCheck).reaches_spawned rfl hleads
  have hstep : (consuming noteContracts noteCheck).Step (notePool t)
      (.done 0 (.deliver noteDelivery) (disconnect 0 noteStart) (.ok ())) _ :=
    .done (notePool_running t)
  obtain ⟨_, eventID, before, after, hevent, hbefore, hcommits, -⟩ :=
    (effect_committed_once_while_recorded noteStart_unconsumed
      (System.Reachable.init.reaches hrun) hstep).2.2 0 noteDelivery _ rfl
  obtain ⟨-, rfl⟩ := Prod.mk.inj (Option.some.inj hevent)
  exact ⟨before, after, hbefore, hcommits⟩

end Sample

end Talenro.Consumption
