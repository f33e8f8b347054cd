import Talenro.Analysis.Alone
import Talenro.Model.Idempotency

/-!
# Idempotency records

What `Begin` and `Complete` do inside a transaction, for every contract that keeps the
committed records as they are (`KeepsRecords`).  A committed record holds a response
(`Stored`), and `Begin` on it answers as `reply` says; otherwise it inserts a record that
`Complete` turns into one that holds the response it was given.
-/

set_option autoImplicit false

namespace Talenro.Analysis

open Lib Lib.Calendar Prog RowStore Idempotency

variable {P : Platform}

/-! ## The protector -/

/-- The behaviour of the field protector: it opens what it has sealed, and a sealed
field carries a nonce and a tag of twenty-eight octets. -/
structure Protector (environment : Environment P) where
  unprotect : Bytes → EncryptedField → Option Bytes
  encrypted : ∀ s domain plaintext field,
    environment s (.encrypt domain plaintext) (some field) →
    unprotect domain field = some plaintext ∧ 0 < field.keyVersion ∧ field.keyVersion < 2 ^ 31 ∧
      field.ciphertext.length = plaintext.length + 28
  decrypted : ∀ s domain field plaintext,
    environment s (.decrypt domain field) (some plaintext) → unprotect domain field = some plaintext

/-- The environment can make an operation on records fail. -/
def Impaired (environment : Environment P) (protector : Protector environment) : Prop :=
  Faulty environment ∨ (∃ domain plaintext, CanAnswer environment (.encrypt domain plaintext) none) ∨
    ∃ domain field, CanAnswer environment (.decrypt domain field) none ∧
      protector.unprotect domain field ≠ none

/-! ## Committed records -/

/-- The record holds a response. -/
structure Stored (unprotect : Bytes → EncryptedField → Option Bytes) (row : IdempotencyRow)
    (status : ℕ) (body : Bytes) : Prop where
  valid : validRow row = true
  completed : row.state = .completed
  responseStatus : row.responseStatus = some status
  status_range : 100 ≤ status ∧ status ≤ 599
  response : ∃ field, row.response = some field ∧ 0 < field.keyVersion ∧
    28 < field.ciphertext.length ∧ field.ciphertext.length ≤ maximumStoredResponseBytes ∧
    unprotect responseProtectionDomain field = some (responseFrameVersion :: body)
  body_length : body.length ≤ maximumResponseBytes

/-- A record holds one response. -/
theorem Stored.unique {unprotect : Bytes → EncryptedField → Option Bytes} {row : IdempotencyRow}
    {status status' : ℕ} {body body' : Bytes} (h : Stored unprotect row status body)
    (h' : Stored unprotect row status' body') : status = status' ∧ body = body' := by
  constructor
  · exact Option.some.inj (h.responseStatus.symm.trans h'.responseStatus)
  · obtain ⟨field, hfield, -, -, -, hopen⟩ := h.response
    obtain ⟨field', hfield', -, -, -, hopen'⟩ := h'.response
    obtain rfl := Option.some.inj (hfield.symm.trans hfield')
    exact (List.cons.inj (Option.some.inj (hopen.symm.trans hopen'))).2

/-- Under the contract, committed records hold responses and are never changed. -/
structure KeepsRecords (C : Contract Key Row) (unprotect : Bytes → EncryptedField → Option Bytes) :
    Prop where
  stored : ∀ c scope keyHash row, C.holds c → c (.idempotency scope keyHash) = some row →
    ∃ status body, Stored unprotect row status body
  kept : ∀ c d scope keyHash row, C.anyChange c d → c (.idempotency scope keyHash) = some row →
    d (.idempotency scope keyHash) = some row

/-! ## `Begin` -/

/-- The row `Begin` inserts. -/
def freshRow (digest : Bytes) (createdAt expiresAt : Instant) : IdempotencyRow :=
  { requestDigest := digest
    state := .inProgress
    responseStatus := none
    response := none
    createdAt := timestamptz createdAt
    expiresAt := timestamptz expiresAt }

/-- The handle `Begin` returns for the row it inserts. -/
def freshRecord (scope : Scope) (keyHash digest : Bytes) (createdAt expiresAt : Instant) : Record :=
  ⟨scope, keyHash, digest, .inProgress, createdAt, expiresAt, true⟩

/-- What `Begin` answers when it finds a record that holds a response. -/
def reply (scope : Scope) (keyHash digest : Bytes) (createdAt : Instant) (row : IdempotencyRow)
    (status : ℕ) (body : Bytes) : Except Idempotency.Error (Record × Outcome) :=
  if row.expiresAt ≤ createdAt then .error .recordUnavailable
  else if row.requestDigest = digest then
    .ok (recordFromStore scope keyHash row, .replay status body)
  else .ok (recordFromStore scope keyHash row, .conflict)

theorem requestDigest_length {operation : Operation} {canonical digest : Bytes}
    (h : requestDigest operation canonical = some digest) : digest.length = 32 := by
  simp only [requestDigest, Option.bind_eq_bind, Option.bind_eq_some_iff, Option.pure_def,
    Option.some.injEq] at h
  obtain ⟨_, -, rfl⟩ := h
  exact Sha256.sha256_length _

theorem keyDigest_length {key keyHash : Bytes} (h : keyDigest key = some keyHash) :
    keyHash.length = 32 := by
  simp only [keyDigest, Option.bind_eq_bind, Option.bind_eq_some_iff, Option.pure_def,
    Option.some.injEq] at h
  obtain ⟨_, -, rfl⟩ := h
  exact Sha256.sha256_length _

section Programs

variable {C : Contract Key Row} {environment : Environment P} {protector : Protector environment}
  {start : Backend} {x y : Inside Key Row} {scope : Scope} {key canonical digest keyHash : Bytes}
  {createdAt expiresAt : Instant}

/-- The three ways in which `Begin` can end on a record the transaction does not own. -/
inductive Begun (C : Contract Key Row) (environment : Environment P)
    (protector : Protector environment) (scope : Scope) (keyHash digest : Bytes)
    (createdAt expiresAt : Instant) (x : Inside Key Row) :
    Except Idempotency.Error (Record × Outcome) → Inside Key Row → Prop where
  | impaired {e y} (h : Impaired environment protector) :
      Begun C environment protector scope keyHash digest createdAt expiresAt x (.error e) y
  | started {z} (hothers : Others C x z) (hnone : z.committed (.idempotency scope keyHash) = none) :
      Begun C environment protector scope keyHash digest createdAt expiresAt x
        (.ok (freshRecord scope keyHash digest createdAt expiresAt, .started))
        (z.write (.idempotency scope keyHash) (freshRow digest createdAt expiresAt))
  | found {z row status body} (hothers : Others C x z)
      (hrow : z.committed (.idempotency scope keyHash) = some row)
      (hstored : Stored protector.unprotect row status body) :
      Begun C environment protector scope keyHash digest createdAt expiresAt x
        (reply scope keyHash digest createdAt row status body)
        (z.own (.idempotency scope keyHash))

variable {body : Bytes} {row : IdempotencyRow} {record : Record} {status : ℕ}

/-- On a record that holds a response, `Begin` answers as `reply` says. -/
theorem recordOutcome_inside (hstored : Stored protector.unprotect row status body)
    {r : Except Idempotency.Error (Record × Outcome)} (h : Runs (inside C environment)
      (recordOutcome P scope keyHash digest createdAt row).run x r y) :
    y = x ∧ (r = reply scope keyHash digest createdAt row status body ∨
      (∃ e, r = .error e) ∧ Impaired environment protector) := by
  unfold recordOutcome at h
  unfold reply
  rcases runs_run_ofExcept_bind.mp h with ⟨_, hvalid, h1⟩ | ⟨e, he, rfl, rfl⟩
  swap
  · obtain ⟨hexpired, rfl⟩ := require_eq_error.mp he
    rw [hstored.valid, eq_self, true_and, not_lt] at hexpired
    rw [if_pos hexpired]
    exact ⟨rfl, Or.inl rfl⟩
  rw [if_neg (not_le.mpr (require_eq_ok.mp hvalid).2)]
  by_cases hsame : row.requestDigest = digest
  swap
  · rw [if_pos hsame] at h1
    obtain ⟨rfl, rfl⟩ := runs_run_pure.mp h1
    rw [if_neg hsame]
    exact ⟨rfl, Or.inl rfl⟩
  obtain ⟨field, hfield, hversion, hlong, hshort, hopen⟩ := hstored.response
  rw [if_neg (not_not.mpr hsame), hstored.completed, hstored.responseStatus, hfield] at h1
  rw [if_pos hsame]
  dsimp only at h1
  rw [require_of ⟨hstored.status_range.1, hstored.status_range.2, hversion, hlong, hshort⟩] at h1
  obtain ⟨plaintext, _, ⟨hdecrypt, rfl⟩, h2⟩ := runs_run_perform_bind.mp h1
  cases plaintext with
  | none =>
    obtain ⟨rfl, rfl⟩ := runs_run_throw.mp h2
    refine ⟨rfl, Or.inr ⟨⟨_, rfl⟩, Or.inr (Or.inr ⟨_, field, hdecrypt, ?_⟩)⟩⟩
    rw [hopen]
    exact Option.some_ne_none _
  | some plaintext =>
    obtain ⟨s, hs⟩ := hdecrypt
    obtain rfl := Option.some.inj ((protector.decrypted s _ _ _ hs).symm.trans hopen)
    dsimp only at h2
    rw [require_of ⟨rfl, hstored.body_length⟩] at h2
    obtain ⟨rfl, rfl⟩ := runs_run_pure.mp h2
    exact ⟨rfl, Or.inl rfl⟩

theorem constraints_freshRow (hdigest : requestDigest scope.operation canonical = some digest)
    (hkey : keyDigest key = some keyHash) :
    constraints (.idempotency scope keyHash) (freshRow digest createdAt expiresAt) = true := by
  simp [constraints, freshRow, requestDigest_length hdigest, keyDigest_length hkey]

/-- Every run of `Begin` with arguments it does not refuse. -/
theorem begin_inside (hkeeps : KeepsRecords C protector.unprotect)
    (hvalid : validScope scope = true ∧ createdAt ≠ 0 ∧ createdAt < expiresAt)
    (hdigest : requestDigest scope.operation canonical = some digest)
    (hkey : keyDigest key = some keyHash) (hown : ¬ x.owned (.idempotency scope keyHash))
    {r : Except Idempotency.Error (Record × Outcome)}
    (h : Runs (inside C environment)
      (beginRecord P scope key canonical createdAt expiresAt).run x r y) :
    Begun C environment protector scope keyHash digest createdAt expiresAt x r y := by
  unfold beginRecord at h
  rw [hdigest, hkey, require_of hvalid] at h
  obtain ⟨canceled, _, ⟨henv, rfl⟩, h1⟩ := runs_run_perform_bind.mp h
  rcases runs_run_ofExcept_bind.mp h1 with ⟨_, -, h2⟩ | ⟨e, he, rfl, rfl⟩
  swap
  · obtain ⟨hcanceled, rfl⟩ := require_eq_error.mp he
    rw [Bool.not_eq_false] at hcanceled
    subst hcanceled
    exact .impaired (Or.inl (Or.inl henv))
  obtain ⟨inserted, w, ⟨z, hz, hdoes⟩, h3⟩ := runs_run_perform_bind.mp h2
  rcases runs_run_ofExcept_bind.mp h3 with ⟨free, hfree, h4⟩ | ⟨e, he, rfl, rfl⟩
  swap
  · obtain ⟨rfl, rfl⟩ := orThrow_eq_error.mp he
    rcases hdoes.2 with hfails | ⟨_, _, -, hviolation⟩
    · exact .impaired (Or.inl (Or.inr ⟨_, hfails⟩))
    · change constraints (.idempotency scope keyHash) (freshRow digest createdAt expiresAt) = false
        at hviolation
      rw [constraints_freshRow hdigest hkey] at hviolation
      cases hviolation
  obtain rfl := orThrow_eq_ok.mp hfree
  rcases hdoes.1 with ⟨rfl, hsome, rfl⟩ | ⟨rfl, hnone, rfl⟩
  · obtain ⟨row, hrow⟩ := Option.ne_none_iff_exists'.mp hsome
    have howned : ¬ w.owned (.idempotency scope keyHash) := hz.owned ▸ hown
    rw [Inside.view_of_not_owned howned] at hrow
    obtain ⟨answer, u, ⟨v, hv, hdoes'⟩, h5⟩ := runs_run_perform_bind.mp h4
    have hrow' := hkeeps.kept _ _ _ _ _ hv.change.any hrow
    have hview : v.view (.idempotency scope keyHash) = some row := by
      rw [Inside.view_of_not_owned (hv.owned ▸ howned), hrow']
    rcases runs_run_ofExcept_bind.mp h5 with ⟨found, hfound, h6⟩ | ⟨e, he, rfl, rfl⟩
    swap
    · obtain ⟨rfl, rfl⟩ := orThrow_eq_error.mp he
      rcases hdoes'.2 with hfails | ⟨_, _, -, hviolation⟩
      · exact .impaired (Or.inl (Or.inr ⟨_, hfails⟩))
      · cases hviolation
    obtain rfl := orThrow_eq_ok.mp hfound
    obtain ⟨⟨rfl, hlock⟩, -⟩ := hdoes'
    rw [hview] at h6 hlock
    rcases hlock with ⟨habsent, -⟩ | ⟨-, rfl⟩
    · cases habsent
    obtain ⟨status, body, hstored⟩ := hkeeps.stored _ _ _ _ hv.holds hrow'
    obtain ⟨rfl, rfl | ⟨⟨e, rfl⟩, himpaired⟩⟩ := recordOutcome_inside hstored h6
    · exact .found (hz.trans hv) hrow' hstored
    · exact .impaired himpaired
  · rw [Inside.view_of_not_owned (hz.owned ▸ hown)] at hnone
    obtain ⟨rfl, rfl⟩ := runs_run_pure.mp h4
    exact .started hz hnone

/-! ## `Complete` -/

/-- The row `Complete` leaves. -/
def completedRow (row : IdempotencyRow) (status : ℕ) (field : EncryptedField) : IdempotencyRow :=
  { row with
    state := .completed
    responseStatus := some status
    response := some field }

/-- A successful `Complete` of the record that `Begin` inserted stores the response. -/
theorem complete_inside_ok (protector : Protector environment)
    (hown : x.owned (.idempotency scope keyHash))
    (hview : x.view (.idempotency scope keyHash) = some (freshRow digest createdAt expiresAt))
    (h : Runs (inside C environment) (completeRecord P
      (freshRecord scope keyHash digest createdAt expiresAt) status body).run x (.ok ()) y) :
    ∃ z field, Others C x z ∧
      Stored protector.unprotect
        (completedRow (freshRow digest createdAt expiresAt) status field) status body ∧
      y = z.write (.idempotency scope keyHash)
        (completedRow (freshRow digest createdAt expiresAt) status field) := by
  simp only [completeRecord, runs_run_perform_bind_ok, runs_run_ofExcept_bind_ok, inside,
    orThrow_eq_ok, require_eq_ok, runs_run_ofExcept] at h
  obtain ⟨_, ⟨-, hlow, hhigh, hbody⟩, _, -, _, _, ⟨-, rfl⟩, _, -, encrypted, _, ⟨⟨s, henv⟩, rfl⟩,
    field, rfl, _, ⟨hversion, -, -, hlength⟩, _, _, ⟨-, rfl⟩, _, -, updated, w, ⟨z, hz, hdoes⟩,
    found, rfl, stored, rfl, hcheck, rfl⟩ := h
  obtain ⟨hopen, -, -, hlength'⟩ := protector.encrypted s _ _ _ henv
  rw [hlength', List.length_cons] at hlength
  rcases hdoes.1 with ⟨hnone, -⟩ | ⟨row, hrow, hbind, rfl⟩
  · cases hnone
  obtain rfl := Option.some.inj hrow
  change (z.view (.idempotency scope keyHash)).bind _ = _ at hbind
  rw [hz.view_eq hown, hview, Option.bind_some] at hbind
  change (if _ ∧ _ then some (completedRow (freshRow digest createdAt expiresAt) status field)
    else none) = _ at hbind
  split at hbind
  swap
  · cases hbind
  obtain rfl := Option.some.inj hbind
  obtain ⟨hvalid, -, -⟩ := require_eq_ok.mp hcheck.symm
  refine ⟨z, field, hz, ⟨hvalid, rfl, rfl, ⟨hlow, hhigh⟩, ⟨field, rfl, hversion, ?_, ?_, hopen⟩,
    hbody⟩, rfl⟩
  · rw [hlength', List.length_cons]
    omega
  · rw [hlength', List.length_cons]
    exact hlength

/-! ## The two calls in a transaction that is alone -/

/-- The protector answers, and it opens what it has sealed. -/
structure Protector.Reliable (protector : Protector environment) : Prop where
  encrypt : ∀ s domain plaintext, ¬ environment s (.encrypt domain plaintext) none
  decrypt : ∀ s domain field, environment s (.decrypt domain field) none →
    protector.unprotect domain field = none

theorem wp_alone_encrypt {ε β : Type} (hreliable : Reliable environment)
    (hprotector : protector.Reliable) {domain plaintext : Bytes}
    {f : Option EncryptedField → ExceptT ε (Prog Op (Res P)) β}
    {post : Except ε β → Inside Key Row → Prop}
    (h : ∀ field s, environment s (.encrypt domain plaintext) (some field) →
      Wp (alone environment start) (f (some field)).run x post) :
    Wp (alone environment start) (Prog.perform (Op.encrypt domain plaintext) >>= f).run x post := by
  apply wp_alone_other hreliable (by simp)
  rintro r ⟨s, -, hs⟩
  cases r with
  | none => exact absurd hs (hprotector.encrypt s domain plaintext)
  | some field => exact h field s hs

theorem wp_beginRecord_fresh (hreliable : Reliable environment)
    (hvalid : validScope scope = true ∧ createdAt ≠ 0 ∧ createdAt < expiresAt)
    (hdigest : requestDigest scope.operation canonical = some digest)
    (hkey : keyDigest key = some keyHash) (hnone : x.view (.idempotency scope keyHash) = none)
    {post : Except Idempotency.Error (Record × Outcome) → Inside Key Row → Prop}
    (h : post (.ok (freshRecord scope keyHash digest createdAt expiresAt, .started))
      (x.write (.idempotency scope keyHash) (freshRow digest createdAt expiresAt))) :
    Wp (alone environment start) (beginRecord P scope key canonical createdAt expiresAt).run x post := by
  unfold beginRecord
  rw [hdigest, hkey, require_of hvalid]
  apply wp_alone_context hreliable
  rw [require_of rfl]
  apply wp_alone_statement hreliable (Inside.yields_insert hnone)
    (constraints_freshRow hdigest hkey)
  exact h

theorem wp_completeRecord (hreliable : Reliable environment) (protector : Protector environment)
    (hprotector : protector.Reliable)
    (hrecord : validInternalRecord (freshRecord scope keyHash digest createdAt expiresAt) = true)
    (hrow : validRow (freshRow digest createdAt expiresAt) = true) (hhash : keyHash.length = 32)
    (hstatus : 100 ≤ status ∧ status ≤ 599) (hbody : body.length ≤ maximumResponseBytes)
    (hview : x.view (.idempotency scope keyHash) = some (freshRow digest createdAt expiresAt))
    {post : Except Idempotency.Error Unit → Inside Key Row → Prop}
    (h : ∀ field, Stored protector.unprotect
        (completedRow (freshRow digest createdAt expiresAt) status field) status body →
      post (.ok ()) (x.write (.idempotency scope keyHash)
        (completedRow (freshRow digest createdAt expiresAt) status field))) :
    Wp (alone environment start) (completeRecord P
      (freshRecord scope keyHash digest createdAt expiresAt) status body).run x post := by
  unfold completeRecord
  rw [require_of ⟨hrecord, hstatus.1, hstatus.2, hbody⟩, require_of ⟨rfl, rfl⟩]
  apply wp_alone_context hreliable
  rw [require_of rfl]
  apply wp_alone_encrypt hreliable hprotector
  intro field s henv
  obtain ⟨hopen, hpositive, hversion, hlength⟩ := protector.encrypted s _ _ _ henv
  have hlong : 28 < field.ciphertext.length := by
    rw [hlength, List.length_cons]
    omega
  have hshort : field.ciphertext.length ≤ maximumStoredResponseBytes := by
    rw [hlength, List.length_cons]
    unfold maximumResponseBytes at hbody
    unfold maximumStoredResponseBytes
    omega
  have hstored : Stored protector.unprotect
      (completedRow (freshRow digest createdAt expiresAt) status field) status body :=
    ⟨hrow, rfl, rfl, hstatus, ⟨field, rfl, hpositive, hlong, hshort, hopen⟩, hbody⟩
  have hne : field.ciphertext ≠ [] := List.ne_nil_of_length_pos (Nat.lt_trans (by decide) hlong)
  rw [orThrow_some]
  show Wp (alone environment start) (Prog.ofExcept (require _ _) >>= _).run x post
  rw [require_of ⟨hpositive, hversion, hne, hshort⟩]
  apply wp_alone_context hreliable
  rw [require_of rfl]
  have hdigest : digest.length = 32 := by
    simp only [validRow, freshRow, Bool.and_eq_true] at hrow
    exact of_decide_eq_true hrow.1.1
  have hcheck : constraints (.idempotency scope keyHash)
      (completedRow (freshRow digest createdAt expiresAt) status field) = true := by
    simp [constraints, completedRow, freshRow, hhash, hdigest, hpositive]
    exact hshort
  refine wp_alone_statement (a := some (completedRow (freshRow digest createdAt expiresAt) status
    field)) hreliable (Inside.yields_update ?_) ?_ ?_
  · show (x.view (.idempotency scope keyHash)).bind _ = _
    rw [hview]
    exact if_pos ⟨rfl, rfl⟩
  · exact hcheck
  · rw [orThrow_some]
    show Wp (alone environment start) (Prog.ofExcept (require _ _)).run _ post
    rw [require_of ⟨hrow, rfl, rfl⟩]
    exact h field hstored

/-- What `Begin` says about a record that exists, and it changes no row. -/
theorem recordOutcome_alone {outcome : Outcome} (h : Runs (alone environment start)
      (recordOutcome P scope keyHash digest createdAt row).run x (.ok (record, outcome)) y) :
    y = x ∧ outcome ≠ .started := by
  unfold recordOutcome at h
  obtain ⟨_, -, h1⟩ := runs_run_ofExcept_bind_ok.mp h
  dsimp only at h1
  split at h1
  · obtain ⟨hresult, rfl⟩ := runs_run_pure_ok.mp h1
    exact ⟨rfl, by rw [(Prod.mk.inj hresult).2]; exact fun hne => nomatch hne⟩
  split at h1
  · obtain ⟨hresult, rfl⟩ := runs_run_pure_ok.mp h1
    exact ⟨rfl, by rw [(Prod.mk.inj hresult).2]; exact fun hne => nomatch hne⟩
  · cases (runs_run_throw.mp h1).1
  split at h1
  · obtain ⟨_, -, h2⟩ := runs_run_ofExcept_bind_ok.mp h1
    obtain ⟨plaintext, _, ⟨-, rfl⟩, h3⟩ := runs_run_perform_bind_ok.mp h2
    split at h3
    · obtain ⟨_, -, h4⟩ := runs_run_ofExcept_bind_ok.mp h3
      obtain ⟨hresult, rfl⟩ := runs_run_pure_ok.mp h4
      exact ⟨rfl, by rw [(Prod.mk.inj hresult).2]; exact fun hne => nomatch hne⟩
    · cases (runs_run_throw.mp h3).1
  · cases (runs_run_throw.mp h1).1

/-- A successful `Begin` has inserted a record, or it has found one and changed no row. -/
theorem beginRecord_alone {outcome : Outcome} (h : Runs (alone environment start)
      (beginRecord P scope key canonical createdAt expiresAt).run x (.ok (record, outcome)) y) :
    ∃ keyHash digest, keyDigest key = some keyHash ∧
      ((outcome = .started ∧ x.view (.idempotency scope keyHash) = none ∧
          record = freshRecord scope keyHash digest createdAt expiresAt ∧
          y = x.write (.idempotency scope keyHash) (freshRow digest createdAt expiresAt)) ∨
        outcome ≠ .started ∧ x.view (.idempotency scope keyHash) ≠ none ∧ y.view = x.view) := by
  unfold beginRecord at h
  obtain ⟨_, -, h1⟩ := runs_run_ofExcept_bind_ok.mp h
  obtain ⟨_, _, ⟨-, rfl⟩, h2⟩ := runs_run_perform_bind_ok.mp h1
  obtain ⟨_, -, h3⟩ := runs_run_ofExcept_bind_ok.mp h2
  obtain ⟨digest, -, h4⟩ := runs_run_ofExcept_bind_ok.mp h3
  obtain ⟨keyHash, hkey, h5⟩ := runs_run_ofExcept_bind_ok.mp h4
  obtain ⟨inserted, z, hinsert, h6⟩ := runs_run_perform_bind_ok.mp h5
  obtain ⟨free, hfree, h7⟩ := runs_run_ofExcept_bind_ok.mp h6
  obtain rfl := orThrow_eq_ok.mp hfree
  refine ⟨keyHash, digest, orThrow_eq_ok.mp hkey, ?_⟩
  rcases hinsert.1 with ⟨rfl, hsome, rfl⟩ | ⟨rfl, hnone, rfl⟩
  · -- the record exists: it is locked and read
    obtain ⟨answer, u, hlock, h8⟩ := runs_run_perform_bind_ok.mp h7
    obtain ⟨found, hfound, h9⟩ := runs_run_ofExcept_bind_ok.mp h8
    obtain rfl := orThrow_eq_ok.mp hfound
    obtain ⟨row, -, h10⟩ := runs_run_ofExcept_bind_ok.mp h9
    obtain ⟨rfl, hne⟩ := recordOutcome_alone h10
    refine Or.inr ⟨hne, hsome, ?_⟩
    rcases hlock.1.2 with ⟨-, rfl⟩ | ⟨-, rfl⟩
    · rfl
    · rfl
  · obtain ⟨hresult, rfl⟩ := runs_run_pure_ok.mp h7
    obtain ⟨rfl, rfl⟩ := Prod.mk.inj hresult
    exact Or.inl ⟨rfl, hnone, rfl, rfl⟩

/-- A successful `Complete` has written the row of its record. -/
theorem completeRecord_alone
    (h : Runs (alone environment start) (completeRecord P record status body).run x (.ok ()) y) :
    ∃ row, y = x.write (.idempotency record.scope record.keyDigest) row := by
  simp only [completeRecord, runs_run_perform_bind_ok, runs_run_ofExcept_bind_ok, alone,
    orThrow_eq_ok, require_eq_ok, runs_run_ofExcept] at h
  obtain ⟨_, -, _, -, _, _, ⟨-, rfl⟩, _, -, encrypted, _, ⟨-, rfl⟩, field, rfl, _, -, _, _, ⟨-, rfl⟩,
    _, -, updated, w, hdoes, found, rfl, stored, rfl, -, rfl⟩ := h
  rcases hdoes.1 with ⟨hnone, -⟩ | ⟨row, -, -, rfl⟩
  · cases hnone
  · exact ⟨row, rfl⟩

/-! ## The operations of the two calls -/

/-- The operations `Begin` and `Complete` perform. -/
def RecordOp : Op → Prop
  | .contextError => True
  | .encrypt _ _ => True
  | .decrypt _ _ => True
  | .statement (.insert (.idempotency _ _) _) => True
  | .statement (.lock (.idempotency _ _)) => True
  | .statement (.update (.idempotency _ _) _) => True
  | _ => False

theorem RecordOp.unending {o : Op} (h : RecordOp o) : Unending o := by
  unfold RecordOp at h
  split at h <;> simp_all [Unending]

theorem performs_recordOutcome :
    Performs RecordOp (recordOutcome P scope keyHash digest createdAt row).run := by
  refine performs_run_ofExcept_bind fun _ => ?_
  dsimp only
  split
  · exact performs_run_pure
  split
  · exact performs_run_pure
  · exact performs_run_throw
  split
  · refine performs_run_ofExcept_bind fun _ => ?_
    refine performs_run_perform_bind trivial fun plaintext => ?_
    split
    · exact performs_run_ofExcept_bind fun _ => performs_run_pure
    · exact performs_run_throw
  · exact performs_run_throw

theorem performs_beginRecord :
    Performs RecordOp (beginRecord P scope key canonical createdAt expiresAt).run := by
  refine performs_run_ofExcept_bind fun _ => ?_
  refine performs_run_perform_bind trivial fun canceled => ?_
  refine performs_run_ofExcept_bind fun _ => ?_
  refine performs_run_ofExcept_bind fun digest => ?_
  refine performs_run_ofExcept_bind fun keyHash => ?_
  refine performs_run_perform_bind trivial fun inserted => ?_
  refine performs_run_ofExcept_bind fun rows => ?_
  split
  · exact performs_run_pure
  · refine performs_run_perform_bind trivial fun answer => ?_
    refine performs_run_ofExcept_bind fun found => ?_
    exact performs_run_ofExcept_bind fun stored => performs_recordOutcome

theorem performs_completeRecord : Performs RecordOp (completeRecord P record status body).run := by
  refine performs_run_ofExcept_bind fun _ => performs_run_ofExcept_bind fun _ => ?_
  refine performs_run_perform_bind trivial fun canceled => ?_
  refine performs_run_ofExcept_bind fun _ => ?_
  refine performs_run_perform_bind trivial fun encrypted => ?_
  refine performs_run_ofExcept_bind fun response => performs_run_ofExcept_bind fun _ => ?_
  refine performs_run_perform_bind trivial fun canceledAgain => ?_
  refine performs_run_ofExcept_bind fun _ => ?_
  refine performs_run_perform_bind trivial fun updated => ?_
  refine performs_run_ofExcept_bind fun found => performs_run_ofExcept_bind fun stored => ?_
  exact performs_run_ofExcept

end Programs

end Talenro.Analysis
