import Talenro.Analysis.Records

/-!
# Transactions protected by an idempotency record

A protected transaction begins a record, does its work when the record is new, and
completes the record before it commits.  Any number of them run side by side, with any
work between `Begin` and `Complete`.  For each scope and key at most one of them commits,
and the others find its response.
-/

set_option autoImplicit false

namespace Talenro.Analysis

open Lib Lib.Calendar Prog RowStore Idempotency

variable {P : Platform}

/-! ## Protected transactions -/

/-- The operations a caller performs between `Begin` and `Complete`: they neither end the
transaction nor write records. -/
def CallerOp (o : Op) : Prop :=
  Unending o ∧ ∀ scope keyHash, Avoids (.idempotency scope keyHash) o

/-- A transaction with arguments that `Begin` does not refuse.  Its effect is any program
of the caller, which returns the response to store. -/
structure Protected (P : Platform) where
  scope : Scope
  key : Bytes
  canonical : Bytes
  createdAt : Instant
  expiresAt : Instant
  valid : validScope scope = true ∧ createdAt ≠ 0 ∧ createdAt < expiresAt
  digest : Bytes
  digest_eq : requestDigest scope.operation canonical = some digest
  keyHash : Bytes
  keyHash_eq : keyDigest key = some keyHash
  effect : ExceptT Idempotency.Error (Prog Op (Res P)) (ℕ × Bytes)
  effect_performs : Performs CallerOp effect.run

/-- What a protected transaction reports: the response it stored, or the outcome of a
`Begin` that found a record. -/
inductive Report where
  | completed (status : ℕ) (body : Bytes)
  | refused (outcome : Outcome)

namespace Protected

variable (τ : Protected P)

/-- The record of the transaction. -/
abbrev recordKey : Key := .idempotency τ.scope τ.keyHash

/-- What the transaction does once `Begin` has answered. -/
def respond (record : Record) : Outcome → ExceptT Idempotency.Error (Prog Op (Res P)) Report
  | .started => do
    let (status, body) ← τ.effect
    completeRecord P record status body
    pure (.completed status body)
  | outcome => pure (.refused outcome)

/-- The body of the transaction. -/
def body : ExceptT Idempotency.Error (Prog Op (Res P)) Report := do
  let (record, outcome) ← beginRecord P τ.scope τ.key τ.canonical τ.createdAt τ.expiresAt
  τ.respond record outcome

/-- The transaction. -/
def program : Prog Op (Res P) (Except Idempotency.Error Report) :=
  (withinTransaction P .store τ.body).run

end Protected

/-- Transactions of one scope and key share their record. -/
theorem recordKey_eq {τ τ' : Protected P} (hscope : τ'.scope = τ.scope) (hkey : τ'.key = τ.key)
    (c : Rows) : (c τ'.recordKey : Option IdempotencyRow) = c τ.recordKey := by
  have hhash : τ'.keyHash = τ.keyHash :=
    Option.some.inj (τ'.keyHash_eq.symm.trans (hkey ▸ τ.keyHash_eq))
  have hsame : ∀ {scope scope' : Scope} {hash hash' : Bytes}, scope = scope' → hash = hash' →
      (c (.idempotency scope hash) : Option IdempotencyRow) = c (.idempotency scope' hash') := by
    rintro scope _ hash _ rfl rfl
    rfl
  exact hsame hscope hhash

theorem performs_body (τ : Protected P) : Performs Unending τ.body.run := by
  refine performs_run_bind (performs_beginRecord.mono fun _ => RecordOp.unending) ?_
  rintro ⟨record, outcome⟩
  cases outcome with
  | started =>
    refine performs_run_bind (τ.effect_performs.mono fun _ h => h.1) ?_
    rintro ⟨status, body⟩
    refine performs_run_bind (performs_completeRecord.mono fun _ => RecordOp.unending) fun _ => ?_
    exact performs_run_pure
  | _ => exact performs_run_pure

/-! ## What one transaction does -/

variable {C : Contract Key Row} {environment : Environment P} {protector : Protector environment}

/-- An execution of the effect returned this response. -/
def Produces (C : Contract Key Row) (environment : Environment P) (τ : Protected P) (status : ℕ)
    (body : Bytes) : Prop :=
  ∃ x y, Runs (inside C environment) τ.effect.run x (.ok (status, body)) y

/-- The row holds a response of the transaction. -/
structure Holds (C : Contract Key Row) (environment : Environment P)
    (protector : Protector environment) (τ : Protected P) (row : IdempotencyRow) (status : ℕ)
    (body : Bytes) : Prop where
  stored : Stored protector.unprotect row status body
  digest : row.requestDigest = τ.digest
  expiresAt : row.expiresAt = timestamptz τ.expiresAt
  produced : Produces C environment τ status body

/-- A run of the body that succeeds: the record was new and is completed, or it was
found and nothing is written. -/
inductive BodyRun (C : Contract Key Row) (environment : Environment P)
    (protector : Protector environment) (τ : Protected P) (x : Inside Key Row) :
    Report → Prop where
  | completed {row : IdempotencyRow} {status body} (hown : x.owned τ.recordKey)
      (hnone : x.committed τ.recordKey = none) (hrow : x.view τ.recordKey = some row)
      (hholds : Holds C environment protector τ row status body)
      (hothers : ∀ scope keyHash, .idempotency scope keyHash ≠ τ.recordKey →
        x.written (.idempotency scope keyHash) = none) :
      BodyRun C environment protector τ x (.completed status body)
  | refused {row : IdempotencyRow} {status body record outcome} (hwritten : ∀ k, x.written k = none)
      (hrow : x.committed τ.recordKey = some row)
      (hstored : Stored protector.unprotect row status body)
      (hreply : reply τ.scope τ.keyHash τ.digest τ.createdAt row status body =
        .ok (record, outcome)) :
      BodyRun C environment protector τ x (.refused outcome)

variable {c : Rows} {x : Inside Key Row} {τ : Protected P}

variable {s : Backend} {body : Bytes} {row : IdempotencyRow} {report : Report} {status : ℕ}

/-- The work of a transaction whose record is new. -/
theorem work_inside {z : Inside Key Row} (hnone : z.committed τ.recordKey = none)
    (hwritten : ∀ k, z.written k = none) (h : Runs (inside C environment) (τ.respond
        (freshRecord τ.scope τ.keyHash τ.digest τ.createdAt τ.expiresAt) .started).run
      (z.write τ.recordKey (freshRow τ.digest τ.createdAt τ.expiresAt))
      (.ok report) x) : BodyRun C environment protector τ x report := by
  obtain ⟨⟨status, body⟩, u, heffect, h1⟩ := runs_run_bind_ok.mp h
  obtain ⟨_, v, hcomplete, h2⟩ := runs_run_bind_ok.mp h1
  obtain ⟨rfl, rfl⟩ := runs_run_pure_ok.mp h2
  have hadvances := runs_advances heffect
  have hown : u.owned τ.recordKey := hadvances.owned _ (Or.inl rfl)
  have hkept : u.committed τ.recordKey = none := (hadvances.kept _ (Or.inl rfl)).trans hnone
  have hframe : ∀ scope keyHash, u.written (.idempotency scope keyHash) =
      (z.write τ.recordKey (freshRow τ.digest τ.createdAt τ.expiresAt)).written
        (.idempotency scope keyHash) :=
    fun scope keyHash => runs_written (τ.effect_performs.mono fun _ ho => ho.2 scope keyHash) heffect
  have hview : u.view τ.recordKey = some (freshRow τ.digest τ.createdAt τ.expiresAt) := by
    rw [Inside.view, hframe]
    exact congrArg (Option.or · _) (Overlay.set_self _ _)
  obtain ⟨w, field, hw, hstored, rfl⟩ := complete_inside_ok protector hown hview hcomplete
  refine .completed (Or.inl rfl) ((hw.kept _ hown).trans hkept) Inside.view_write_self
    ⟨hstored, rfl, rfl, _, u, heffect⟩ ?_
  intro scope keyHash hne
  rw [Inside.written_write_of_ne hne, hw.written, hframe, Inside.written_write_of_ne hne]
  exact hwritten _

/-- `Begin` on a record that holds a response never starts a new one. -/
theorem reply_ne_started {scope : Scope} {keyHash digest : Bytes} {createdAt : Instant}
    {record : Record} :
    reply scope keyHash digest createdAt row status body ≠ .ok (record, .started) := by
  unfold reply
  split
  · exact fun h => (nomatch h)
  split
  · exact fun h => (nomatch h)
  · exact fun h => (nomatch h)

/-- A transaction that does not start only reports. -/
theorem respond_inside {y : Inside Key Row} {record : Record} {outcome : Outcome}
    (hne : outcome ≠ .started) {r : Except Idempotency.Error Report}
    (h : Runs (inside C environment) (τ.respond record outcome).run y r x) :
    r = .ok (.refused outcome) ∧ x = y := by
  cases outcome with
  | started => exact absurd rfl hne
  | _ => exact h

/-- The body of a transaction that succeeds. -/
theorem body_inside_ok (hkeeps : KeepsRecords C protector.unprotect)
    (h : Runs (inside C environment) τ.body.run (Inside.start c) (.ok report) x) :
    BodyRun C environment protector τ x report := by
  obtain ⟨⟨record, outcome⟩, y, hbegin, hrest⟩ := runs_run_bind_ok.mp h
  have hbegun := begin_inside hkeeps τ.valid τ.digest_eq τ.keyHash_eq (fun hown => hown) hbegin
  generalize hr : (Except.ok (record, outcome) : Except Idempotency.Error _) = r at hbegun
  cases hbegun with
  | impaired => cases hr
  | started hothers hnone =>
    obtain ⟨rfl, rfl⟩ := Prod.mk.inj (Except.ok.inj hr)
    exact work_inside hnone (fun k => congrFun hothers.written k) hrest
  | found hothers hrow hstored =>
    have hne : outcome ≠ .started := by
      rintro rfl
      exact reply_ne_started hr.symm
    obtain ⟨hreport, rfl⟩ := respond_inside hne hrest
    obtain rfl := Except.ok.inj hreport
    exact .refused (fun k => congrFun hothers.written k) hrow hstored hr.symm

/-- The answer of a transaction that finds its record. -/
def refusal (τ : Protected P) (row : IdempotencyRow) (status : ℕ) (body : Bytes) :
    Except Idempotency.Error Report :=
  (reply τ.scope τ.keyHash τ.digest τ.createdAt row status body).map fun answer => .refused answer.2

/-- The body of a transaction whose record is committed before it starts. -/
theorem body_inside_found (hkeeps : KeepsRecords C protector.unprotect)
    (hrow : c τ.recordKey = some row) (hstored : Stored protector.unprotect row status body)
    {r : Except Idempotency.Error Report}
    (h : Runs (inside C environment) τ.body.run (Inside.start c) r x) :
    r = refusal τ row status body ∨ (∃ e, r = .error e) ∧ Impaired environment protector := by
  have hfound : ∀ {b y}, Runs (inside C environment) (beginRecord P τ.scope τ.key τ.canonical
      τ.createdAt τ.expiresAt).run (Inside.start c) b y →
      b = reply τ.scope τ.keyHash τ.digest τ.createdAt row status body ∨
        (∃ e, b = .error e) ∧ Impaired environment protector := by
    intro b y hbegin
    cases begin_inside hkeeps τ.valid τ.digest_eq τ.keyHash_eq (fun hown => hown) hbegin with
    | impaired himpaired => exact Or.inr ⟨⟨_, rfl⟩, himpaired⟩
    | started hothers hnone =>
      have hkept := hkeeps.kept _ _ _ _ _ hothers.change.any hrow
      rw [hnone] at hkept
      cases hkept
    | found hothers hrow' hstored' =>
      have hkept := hkeeps.kept _ _ _ _ _ hothers.change.any hrow
      obtain rfl := Option.some.inj (hrow'.symm.trans hkept)
      obtain ⟨rfl, rfl⟩ := hstored'.unique hstored
      exact Or.inl rfl
  rcases runs_run_bind.mp h with ⟨⟨record, outcome⟩, y, hbegin, hrest⟩ | ⟨e, rfl, hbegin⟩
  · have hreply := (hfound hbegin).resolve_right fun herror => (nomatch herror.1)
    have hne : outcome ≠ .started := by
      rintro rfl
      exact reply_ne_started hreply.symm
    obtain ⟨rfl, -⟩ := respond_inside hne hrest
    rw [refusal, ← hreply]
    exact Or.inl rfl
  · rcases hfound hbegin with hreply | ⟨-, himpaired⟩
    · rw [refusal, ← hreply]
      exact Or.inl rfl
    · exact Or.inr ⟨⟨e, rfl⟩, himpaired⟩

/-! ## Transactions side by side -/

/-- Committed records hold responses and stay as they are. -/
def recordContract (unprotect : Bytes → EncryptedField → Option Bytes) : Contract Key Row where
  holds c := ∀ scope keyHash row, c (.idempotency scope keyHash) = some row →
    ∃ status body, Stored unprotect row status body
  change _ c d := ∀ scope keyHash row, c (.idempotency scope keyHash) = some row →
    d (.idempotency scope keyHash) = some row
  refl _ _ _ _ _ h := h
  trans _ _ _ _ hcd hde scope keyHash row h := hde scope keyHash row (hcd scope keyHash row h)
  mono _ _ _ _ _ h := h

theorem recordContract_keeps (unprotect : Bytes → EncryptedField → Option Bytes) :
    KeepsRecords (recordContract unprotect) unprotect :=
  ⟨fun _ scope keyHash row hholds => hholds scope keyHash row,
    fun _ _ scope keyHash row hchange => hchange scope keyHash row⟩

/-- What a commit of the transaction publishes: its record, which was not there before,
and no other record. -/
structure Commits (protector : Protector environment) (τ : Protected P) (c d : Rows) : Prop where
  fresh : c τ.recordKey = none
  published : ∃ row status body, d τ.recordKey = some row ∧
    Holds (recordContract protector.unprotect) environment protector τ row status body
  others : ∀ scope keyHash, .idempotency scope keyHash ≠ τ.recordKey →
    d (.idempotency scope keyHash) = c (.idempotency scope keyHash)

theorem Commits.change {d : Rows} (h : Commits protector τ c d) :
    (recordContract protector.unprotect).anyChange c d := by
  intro scope keyHash row hrow
  by_cases heq : .idempotency scope keyHash = τ.recordKey
  · obtain ⟨rfl, rfl⟩ := Key.idempotency.inj heq
    rw [h.fresh] at hrow
    cases hrow
  · rwa [h.others scope keyHash heq]

/-- What is known of a transaction that has ended: it left its response, or it answered
from a record that is there; and if the record was there when it started, its answer is
that of the record. -/
structure Reported (protector : Protector environment) (τ : Protected P) (start : Backend)
    (out : Except Idempotency.Error Report) (t : Backend) : Prop where
  completed : ∀ status body, out = .ok (.completed status body) → ∃ row,
    t.database.committed τ.recordKey = some row ∧
      Holds (recordContract protector.unprotect) environment protector τ row status body
  refused : ∀ outcome, out = .ok (.refused outcome) → ∃ row status body record,
    t.database.committed τ.recordKey = some row ∧ Stored protector.unprotect row status body ∧
      reply τ.scope τ.keyHash τ.digest τ.createdAt row status body = .ok (record, outcome)
  found : ∀ row status body, start.database.committed τ.recordKey = some row →
    Stored protector.unprotect row status body →
    out = refusal τ row status body ∨ (∃ e, out = .error e) ∧ Impaired environment protector

/-- What a body leaves is allowed. -/
theorem BodyRun.commits {y : Inside Key Row}
    (h : BodyRun (recordContract protector.unprotect) environment protector τ x report)
    (hothers : Others (recordContract protector.unprotect) x y) :
    (recordContract protector.unprotect).holds y.view ∧
      (y.view = y.committed ∨ Commits protector τ y.committed y.view) := by
  cases h with
  | @completed row status body hown hnone hrow hholds hwritten =>
    have hcommits : Commits protector τ y.committed y.view := by
      refine ⟨(hothers.kept _ hown).trans hnone, ⟨row, status, body, ?_, hholds⟩, ?_⟩
      · rw [hothers.view_eq hown, hrow]
      · intro scope keyHash hne
        rw [Inside.view, hothers.written, hwritten scope keyHash hne, Option.none_or]
    refine ⟨?_, Or.inr hcommits⟩
    intro scope keyHash row' hrow'
    by_cases heq : .idempotency scope keyHash = τ.recordKey
    · obtain ⟨rfl, rfl⟩ := Key.idempotency.inj heq
      rw [hothers.view_eq hown, hrow] at hrow'
      obtain rfl := Option.some.inj hrow'
      exact ⟨status, body, hholds.stored⟩
    · rw [hcommits.others scope keyHash heq] at hrow'
      exact hothers.holds scope keyHash row' hrow'
  | refused hwritten =>
    have hview : y.view = y.committed := by
      funext k
      rw [Inside.view, hothers.written, hwritten k, Option.none_or]
    rw [hview]
    exact ⟨hothers.holds, Or.inl rfl⟩

/-- What is known of a body is known of its transaction. -/
theorem reported_of_ended {t : Backend} {out : Except Idempotency.Error Report}
    (h : Ended (recordContract protector.unprotect) environment .store τ.body s out t) :
    Reported protector τ s out t := by
  have hkeeps := recordContract_keeps protector.unprotect
  cases out with
  | ok report =>
    obtain ⟨c, x, y, -, hpast, hrun, hothers, hlater⟩ := h
    have hbody := body_inside_ok hkeeps hrun
    refine ⟨?_, ?_, ?_⟩
    · rintro status body hreport
      obtain rfl := Except.ok.inj hreport
      cases hbody with
      | @completed row _ _ hown _ hrow hholds _ =>
        rw [← hothers.view_eq hown] at hrow
        exact ⟨row, hlater _ _ row hrow, hholds⟩
    · rintro outcome hreport
      obtain rfl := Except.ok.inj hreport
      cases hbody with
      | @refused row status body record _ hwritten hrow hstored hreply =>
        have hview : y.view τ.recordKey = some row := by
          rw [Inside.view, hothers.written, hwritten, Option.none_or]
          exact hothers.change _ _ row hrow
        exact ⟨row, status, body, record, hlater _ _ row hview, hstored, hreply⟩
    · intro row status body hrow hstored
      exact body_inside_found hkeeps (hpast _ _ row hrow) hstored hrun
  | error e =>
    refine ⟨fun _ _ h => (by cases h), fun _ h => (by cases h), ?_⟩
    intro row status body hrow hstored
    rcases h with ⟨rfl, hfaulty⟩ | ⟨c, x, -, hpast, hrun⟩
    · exact Or.inr ⟨⟨_, rfl⟩, Or.inl hfaulty⟩
    · exact body_inside_found hkeeps (hpast _ _ row hrow) hstored hrun

/-- A protected transaction is safe among others. -/
theorem safe_protected {pid : Pid} (hidle : s.database.Idle pid) :
    Safe (exec environment pid) (Invariant (recordContract protector.unprotect))
      (guarantee fun τ _ => Commits protector τ) pid τ (Reported protector τ s) τ.program s := by
  have hkeeps := recordContract_keeps protector.unprotect
  apply (safe_withinTransaction (fun _ _ _ _ h _ _ => h.change) (performs_body τ) hidle ?_).mono
  · rintro out t - ⟨-, hended⟩
    exact reported_of_ended hended
  · intro c report x y _ _ hrun hothers
    exact (body_inside_ok hkeeps hrun).commits hothers

/-- Any number of protected transactions. -/
def protectedSystem (environment : Environment P) :
    System Pid (Protected P) (Except Idempotency.Error Report) Op (Res P) Backend :=
  serve environment Protected.program

theorem sound_protected (protector : Protector environment) :
    Sound (protectedSystem environment) (Invariant (recordContract protector.unprotect))
      (guarantee fun τ _ => Commits protector τ) fun _ τ => Reported protector τ :=
  sound_serve fun _ _ _ _ hidle => safe_protected hidle

/-- The state of a running system. -/
abbrev ProtectedPool (P : Platform) : Type :=
  Pool Pid (Protected P) (Except Idempotency.Error Report) Op (Res P) Backend

/-- Records outlive every run. -/
theorem record_reaches (protector : Protector environment) {init : Backend}
    (hinit : Invariant (recordContract protector.unprotect) init) {pool later : ProtectedPool P}
    (hreach : (protectedSystem environment).Reachable init pool)
    (hlater : (protectedSystem environment).Reaches pool later) :
    (recordContract protector.unprotect).anyChange pool.state.database.committed
      later.state.database.committed := by
  induction hlater with
  | refl => exact Contract.refl _ _ _
  | @tail middle last hrun hlast ih =>
    obtain ⟨label, hstep⟩ := hlast
    refine Contract.trans _ _ _ _ _ ih ?_
    by_cases hsame : last.state.database.committed = middle.state.database.committed
    · rw [hsame]
      exact Contract.refl _ _ _
    · obtain ⟨_, run, -, -, -, hcommits⟩ := commit_of_step (sound_protected protector) hinit
        (hreach.reaches hrun) hstep hsame
      exact hcommits.change

/-- What holds after a transaction has committed its effect with a response: no other
transaction of the scope and the key commits an effect, and one that begins before the
record expires replays the response or, when its request is another one, reports the
conflict.  A transaction can fail instead when a service it needs fails, and two
different requests are confused only if their digests collide. -/
structure Settled (protector : Protector environment) (τ : Protected P) (row : IdempotencyRow)
    (status : ℕ) (body : Bytes) (later : ProtectedPool P) : Prop where
  record : later.state.database.committed τ.recordKey = some row
  once : ∀ pid run next, (protectedSystem environment).Step later (.op pid) next →
    next.state.database.committed ≠ later.state.database.committed →
    later.running pid = some run → run.task.scope = τ.scope → run.task.key ≠ τ.key
  waited : ∀ pid τ' start outcome next, (protectedSystem environment).Step later
    (.done pid τ' start (.ok (.refused outcome))) next → τ'.scope = τ.scope → τ'.key = τ.key →
    τ'.createdAt < row.expiresAt ∧ (outcome = .replay status body ∧ τ'.digest = τ.digest ∨
      outcome = .conflict ∧ τ'.canonical ≠ τ.canonical)
  same : ∀ pid τ' start out next, (protectedSystem environment).Step later
    (.done pid τ' start out) next → τ'.scope = τ.scope → τ'.key = τ.key →
    start.database.committed τ.recordKey = some row → τ'.createdAt < row.expiresAt →
    τ'.canonical = τ.canonical → out = .ok (.refused (.replay status body)) ∨
      (∃ e, out = .error e) ∧ Impaired environment protector
  different : ∀ pid τ' start out next, (protectedSystem environment).Step later
    (.done pid τ' start out) next → τ'.scope = τ.scope → τ'.key = τ.key →
    start.database.committed τ.recordKey = some row → τ'.createdAt < row.expiresAt →
    τ'.canonical ≠ τ.canonical → out = .ok (.refused .conflict) ∨ τ'.digest = τ.digest ∨
      (∃ e, out = .error e) ∧ Impaired environment protector
  expired : ∀ pid τ' start out next, (protectedSystem environment).Step later
    (.done pid τ' start out) next → τ'.scope = τ.scope → τ'.key = τ.key →
    start.database.committed τ.recordKey = some row → row.expiresAt ≤ τ'.createdAt →
    ∃ e, out = .error e

/-- Equal requests of one scope have equal digests. -/
theorem digest_eq {τ' : Protected P} (hscope : τ'.scope = τ.scope)
    (hcanonical : τ'.canonical = τ.canonical) : τ'.digest = τ.digest := by
  have h := τ'.digest_eq
  rw [hscope, hcanonical, τ.digest_eq] at h
  exact (Option.some.inj h).symm

section Refusal

variable {τ' : Protected P}

theorem refusal_expired (h : row.expiresAt ≤ τ'.createdAt) :
    refusal τ' row status body = .error .recordUnavailable := by
  rw [refusal, reply, if_pos h]
  rfl

theorem refusal_same (h : τ'.createdAt < row.expiresAt) (hdigest : row.requestDigest = τ'.digest) :
    refusal τ' row status body = .ok (.refused (.replay status body)) := by
  rw [refusal, reply, if_neg (not_le.mpr h), if_pos hdigest]
  rfl

theorem refusal_different (h : τ'.createdAt < row.expiresAt)
    (hdigest : row.requestDigest ≠ τ'.digest) :
    refusal τ' row status body = .ok (.refused .conflict) := by
  rw [refusal, reply, if_neg (not_le.mpr h), if_neg hdigest]
  rfl

/-- An answer from a record, read backwards. -/
theorem reply_eq_ok {record : Record} {outcome : Outcome}
    (h : reply τ'.scope τ'.keyHash τ'.digest τ'.createdAt row status body = .ok (record, outcome)) :
    τ'.createdAt < row.expiresAt ∧ (outcome = .replay status body ∧ row.requestDigest = τ'.digest ∨
      outcome = .conflict ∧ row.requestDigest ≠ τ'.digest) := by
  unfold reply at h
  split at h
  · cases h
  next hlive =>
    refine ⟨not_le.mp hlive, ?_⟩
    split at h
    · next hdigest =>
      obtain ⟨-, rfl⟩ := Prod.mk.inj (Except.ok.inj h)
      exact Or.inl ⟨rfl, hdigest⟩
    · next hdigest =>
      obtain ⟨-, rfl⟩ := Prod.mk.inj (Except.ok.inj h)
      exact Or.inr ⟨rfl, hdigest⟩

end Refusal

/-- Once the record of a transaction is committed, the others are settled by it. -/
theorem settled_of_record {init : Backend}
    (hinit : Invariant (recordContract protector.unprotect) init) {later : ProtectedPool P}
    (hreach : (protectedSystem environment).Reachable init later)
    (hrow : later.state.database.committed τ.recordKey = some row)
    (hholds : Holds (recordContract protector.unprotect) environment protector τ row status body) :
    Settled protector τ row status body later := by
  have hsound := sound_protected protector
  have hfound : ∀ {pid τ' start out next}, (protectedSystem environment).Step later
      (.done pid τ' start out) next → τ'.scope = τ.scope → τ'.key = τ.key →
      start.database.committed τ.recordKey = some row →
      out = refusal τ' row status body ∨ (∃ e, out = .error e) ∧ Impaired environment protector := by
    intro pid τ' start out next hstep hscope hkey hstart
    rw [← recordKey_eq hscope hkey start.database.committed] at hstart
    exact (hsound.done hinit hreach hstep).found row status body hstart hholds.stored
  constructor
  · exact hrow
  · intro pid run next hstep hchange hrun hscope hkey
    obtain ⟨pid', run', -, hlabel, hrun', hcommits⟩ := commit_of_step hsound hinit hreach hstep hchange
    obtain rfl := Label.op.inj hlabel
    obtain rfl := Option.some.inj (hrun.symm.trans hrun')
    have hfresh := (recordKey_eq hscope hkey later.state.database.committed).symm.trans hcommits.fresh
    rw [hrow] at hfresh
    cases hfresh
  · intro pid τ' start outcome next hstep hscope hkey
    obtain ⟨row', status', body', record, hrow', hstored, hreply⟩ :=
      (hsound.done hinit hreach hstep).refused outcome rfl
    rw [recordKey_eq hscope hkey later.state.database.committed, hrow] at hrow'
    obtain rfl := Option.some.inj hrow'
    obtain ⟨rfl, rfl⟩ := hstored.unique hholds.stored
    obtain ⟨hlive, ⟨rfl, hdigest⟩ | ⟨rfl, hdigest⟩⟩ := reply_eq_ok hreply
    · exact ⟨hlive, Or.inl ⟨rfl, hdigest.symm.trans hholds.digest⟩⟩
    · refine ⟨hlive, Or.inr ⟨rfl, fun hcanonical => hdigest ?_⟩⟩
      rw [digest_eq hscope hcanonical, hholds.digest]
  · intro pid τ' start out next hstep hscope hkey hstart hlive hcanonical
    have hdigest : row.requestDigest = τ'.digest := by
      rw [digest_eq hscope hcanonical, hholds.digest]
    rw [← refusal_same hlive hdigest]
    exact hfound hstep hscope hkey hstart
  · intro pid τ' start out next hstep hscope hkey hstart hlive _
    by_cases hdigest : τ'.digest = τ.digest
    · exact Or.inr (Or.inl hdigest)
    · have hne : row.requestDigest ≠ τ'.digest := by
        rw [hholds.digest]
        exact Ne.symm hdigest
      rw [← refusal_different hlive hne]
      exact (hfound hstep hscope hkey hstart).imp_right Or.inr
  · intro pid τ' start out next hstep hscope hkey hstart hexpired
    rcases hfound hstep hscope hkey hstart with rfl | ⟨herror, -⟩
    · exact ⟨_, refusal_expired hexpired⟩
    · exact herror

/-- In every run of protected transactions, whatever they do between `Begin` and
`Complete`: a transaction that ends without a commit leaves nothing behind, and every
step that changes the committed rows is a commit that publishes the record of its
transaction, which was not there before, with the response given to `Complete`; from
then on the transactions of this scope and key are settled by it. -/
theorem protected_transactions_exactly_once (protector : Protector environment) {init : Backend}
    (hinit : Invariant (recordContract protector.unprotect) init) {pool pool' : ProtectedPool P}
    (hreach : (protectedSystem environment).Reachable init pool)
    {label : Label Pid (Protected P) (Except Idempotency.Error Report) Backend}
    (hstep : (protectedSystem environment).Step pool label pool') :
    (∀ pid, (label = .kill pid ∨ ∃ τ start out, label = .done pid τ start out) →
      pool'.state.database.committed = pool.state.database.committed ∧
        pool'.state.database.Idle pid) ∧
    (pool'.state.database.committed ≠ pool.state.database.committed →
      ∃ pid run row status body, label = .op pid ∧ pool.running pid = some run ∧
        pool.state.database.committed run.task.recordKey = none ∧
        pool'.state.database.committed run.task.recordKey = some row ∧
        Holds (recordContract protector.unprotect) environment protector run.task row status body ∧
        ∀ later, (protectedSystem environment).Reaches pool' later →
          Settled protector run.task row status body later) := by
  constructor
  · rintro pid (rfl | ⟨τ, start, out, rfl⟩)
    · cases hstep
      exact ⟨committed_disconnect _ _, disconnect_idle _ _⟩
    · cases hstep
      exact ⟨committed_disconnect _ _, disconnect_idle _ _⟩
  · intro hchange
    obtain ⟨pid, run, -, rfl, hrun, hcommits⟩ := commit_of_step (sound_protected protector) hinit hreach
      hstep hchange
    obtain ⟨row, status, body, hrow, hholds⟩ := hcommits.published
    refine ⟨pid, run, row, status, body, rfl, hrun, hcommits.fresh, hrow, hholds, ?_⟩
    intro later hlater
    have hreach' := hreach.step hstep
    exact settled_of_record hinit (hreach'.reaches hlater)
      (record_reaches protector hinit hreach' hlater _ _ row hrow) hholds

/-! ## A transaction that runs alone -/

/-- Alone, a transaction whose effect is only its response leaves its record. -/
theorem protected_runs (hreliable : Reliable environment) (hprotector : protector.Reliable)
    (heffect : τ.effect = pure (status, body)) (hrecord : validInternalRecord
      (freshRecord τ.scope τ.keyHash τ.digest τ.createdAt τ.expiresAt) = true)
    (hrow : validRow (freshRow τ.digest τ.createdAt τ.expiresAt) = true)
    (hstatus : 100 ≤ status ∧ status ≤ 599) (hlength : body.length ≤ maximumResponseBytes)
    {pid : Pid} (hrest : AtRest s) (hnone : s.database.committed τ.recordKey = none) :
    ∃ out t, Runs (exec environment pid) τ.program s out t ∧
      t.database.committed τ.recordKey ≠ none := by
  have hbody : Wp (alone environment s) τ.body.run (Inside.start s.database.committed)
      fun r y => (∃ report, r = .ok report) ∧ y.view τ.recordKey ≠ none := by
    refine wp_run_bind.mpr (wp_beginRecord_fresh hreliable τ.valid τ.digest_eq τ.keyHash_eq
      ((Inside.view_start _).trans hnone) ?_)
    unfold Protected.respond
    rw [heffect]
    refine wp_run_bind.mpr (wp_run_pure.mpr ?_)
    refine wp_run_bind.mpr (wp_completeRecord hreliable protector hprotector hrecord hrow
      (keyDigest_length τ.keyHash_eq) hstatus hlength Inside.view_write_self ?_)
    intro field _
    refine ⟨⟨_, rfl⟩, ?_⟩
    rw [Inside.view_write_self]
    exact Option.some_ne_none _
  have hwp : Wp (exec environment pid) τ.program s _ :=
    wp_withinTransaction hreliable (performs_body τ) hrest hbody
  obtain ⟨out, t, hrun⟩ := hwp.exists_runs
  obtain ⟨-, y, ⟨⟨report, rfl⟩, hy⟩, hcommitted⟩ := hwp.runs hrun
  refine ⟨_, t, hrun, ?_⟩
  rw [hcommitted]
  exact hy

/-- A platform that offers nothing. -/
def idlePlatform : Platform where
  PrivateKey := Unit
  Sender := Unit
  jcsTransform _ := none
  uuidParse _ := none
  uuidString _ := []
  ed25519Verify _ _ _ := false
  x25519PublicKey _ := none
  hpkeNewSender _ _ _ := none
  hpkeSeal _ _ _ := none
  hpkeOpen _ _ _ _ _ := none
  timeFormat _ := []
  timeParse _ := none

/-- A protector that appends twenty-eight octets, and no failures. -/
def plainEnvironment : Environment idlePlatform := fun s o =>
  match o with
  | .statement _ => fun _ => False
  | .contextError => fun r => r = false
  | .encrypt _ plaintext => fun r => r = some ⟨1, plaintext ++ List.replicate 28 0⟩
  | .decrypt _ field => fun r => r = some (field.ciphertext.take (field.ciphertext.length - 28))
  | .clock => fun r => r = ⟨second, true⟩
  | .random n => fun r => r = some (Octets.replicate n 1)
  | .signerKeyID => fun r => r = []
  | .sign _ => fun r => r = .error .closed
  | .newSender _ _ => fun r => r = none
  | .authorizeBundle _ => fun r => r = .error .authenticationFailed
  | .currentTestConfig => fun r => r = none
  | .newUUID => fun r => r = Octets.replicate 16 1
  | .allow _ => fun r => r = some true
  | .setChallenge key _ => fun r => r = some (decide (s.challenges key = none))
  | .takeChallenge key => fun r => r = some (s.challenges key)

theorem plainEnvironment_reliable : Reliable plainEnvironment where
  statement _ _ h := h
  context _ _ h := h
  total s o ho := by
    cases o with
    | statement q => exact absurd rfl (ho q)
    | _ => exact ⟨_, rfl⟩
  setChallenge _ _ _ := rfl
  takeChallenge _ _ := rfl

/-- The protector of the environment. -/
def plainProtector : Protector plainEnvironment where
  unprotect _ field := some (field.ciphertext.take (field.ciphertext.length - 28))
  encrypted := by
    rintro s domain plaintext field h
    obtain rfl := Option.some.inj h
    simp
  decrypted _ _ _ _ h := h.symm

/-- A request whose effect is only its response. -/
def emptyRequest : Protected idlePlatform where
  scope := ⟨.anonymousRegistration, .registerAccount⟩
  key := ascii "0123456789abcdefghijkl"
  canonical := ascii "[]"
  createdAt := second
  expiresAt := hour
  valid := by decide
  digest := Sha256.sha256 (requestDigestDomain ++ operationName .registerAccount ++ 0 :: ascii "[]")
  digest_eq := rfl
  keyHash := Sha256.sha256 (keyDigestDomain ++ bigEndian 2 22 ++ ascii "0123456789abcdefghijkl")
  keyHash_eq := by decide +kernel
  effect := pure (204, [])
  effect_performs := performs_run_pure

theorem plainProtector_reliable : plainProtector.Reliable where
  encrypt _ _ _ h := nomatch h
  decrypt _ _ _ h := nomatch h

/-- In an empty database the request has a step that changes the committed rows, and from
then on its scope and key are settled. -/
theorem emptyRequest_settled : ∃ pool label pool' pid run row status body,
    (protectedSystem plainEnvironment).Reachable Backend.empty pool ∧
    (protectedSystem plainEnvironment).Step pool label pool' ∧ label = .op pid ∧
    pool.running pid = some run ∧
    ∀ later, (protectedSystem plainEnvironment).Reaches pool' later →
      Settled plainProtector run.task row status body later := by
  have hinit : Invariant (recordContract plainProtector.unprotect) Backend.empty :=
    fun _ _ _ hrow => nomatch hrow
  let start : Backend := disconnect 0 Backend.empty
  let spawned : ProtectedPool idlePlatform :=
    ⟨start, Function.update (fun _ => none) 0 (some ⟨emptyRequest, start, emptyRequest.program⟩)⟩
  have hspawn : (protectedSystem plainEnvironment).Reachable Backend.empty spawned :=
    .step .init (.spawn rfl)
  have hruns : ∃ out t, Runs (exec plainEnvironment 0) emptyRequest.program start out t ∧
      t.database.committed emptyRequest.recordKey ≠ none :=
    protected_runs plainEnvironment_reliable plainProtector_reliable rfl (by decide +kernel)
      (by decide +kernel) (by decide) (by decide) (fun _ => rfl) rfl
  obtain ⟨out, t, hrun, hne⟩ := hruns
  have hrunning : spawned.running 0 = some ⟨emptyRequest, start, emptyRequest.program >>= .ret⟩ := by
    rw [bind_ret]
    rfl
  have hreaches := (protectedSystem plainEnvironment).reaches_of_runs hrunning hrun
  obtain ⟨pool, label, pool', hbefore, hstep, hchange⟩ :=
    hreaches.exists_step (fun s => s.database.committed)
      fun h => hne (congrFun h emptyRequest.recordKey)
  obtain ⟨pid, run, row, status, body, hlabel, hpid, -, -, -, hlater⟩ :=
    (protected_transactions_exactly_once plainProtector hinit (hspawn.reaches hbefore) hstep).2
      hchange
  exact ⟨pool, label, pool', pid, run, row, status, body, hspawn.reaches hbefore, hstep, hlabel, hpid,
    hlater⟩

end Talenro.Analysis
