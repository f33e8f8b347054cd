import Talenro.Analysis.SessionRules

/-!
# Recovery codes

A set of recovery codes is presented code by code.  Each presentation is followed through
`ConsumeRecoveryCode`: a code of the set is accepted while another one is left, a code that
is not in the set is refused, and the last code is refused as well, because the row without
it violates the cardinality that the table demands.  Whether a sequence of presentations is
honoured is thus decided by whether it leaves a code of the set out.
-/

set_option autoImplicit false

namespace Talenro.Analysis

open Lib Lib.Calendar Prog RowStore Idempotency Calls Identity

variable {P : Platform} {environment : Environment P} {protector : Protector environment}
  {service : Service} {s t start : Backend} {x y : Inside Key Row} {pid : Pid}
  {email digest canonical keyHash requestHash : Bytes} {principalID setID : UUID}
  {set : RecoveryCodeSetRow} {command : ConsumeRecoveryCodeCommand} {now : Instant}

/-! ## Sets and requests -/

/-- The account of an e-mail address is active, and this is its active set of codes. -/
structure RecoverySet (service : Service) (c : Rows) (email : Bytes) (principalID setID : UUID)
    (set : RecoveryCodeSetRow) : Prop where
  principal : principalID ≠ UUID.zero
  lookup : (service.lookupDigest emailFieldDomain email).1 ≠ zeroDigest
  identity : c (.emailIdentity (service.lookupDigest emailFieldDomain email).1) = some principalID
  account : ∃ account : AccountRow, c (.account principalID) = some account ∧ account.state = .active
  row : c (.recoveryCodeSet setID) = some set
  valid : validRecoveryCodeSet setID set principalID = true
  only : ∀ (id : UUID) (row : RecoveryCodeSetRow), c (.recoveryCodeSet id) = some row →
    row.principalID = principalID → row.state = .active → id = setID

/-- The command is well formed; what is computed from it before the transaction. -/
structure ValidCommand (service : Service) (command : ConsumeRecoveryCodeCommand)
    (email digest canonical keyHash requestHash : Bytes) : Prop where
  signingKey : command.clientSigningPublicKey.1 ≠ zeroDigest
  idempotencyKey : validIdempotencyKey command.idempotencyKey = true
  code_eq : recoveryCodeDigest command.code = some digest
  email_eq : canonicalizeEmail command.email = some email
  canonical_eq : canonicalRequest service.lookupDigest strongAuthRequestDigestDomain
    .consumeRecoveryCode [email, command.code, command.clientSigningPublicKey.1] = some canonical
  keyHash_eq : keyDigest command.idempotencyKey = some keyHash ∧ keyHash ≠ zeroDigest
  requestHash_eq : requestDigest .consumeRecoveryCode canonical = some requestHash ∧
    requestHash ≠ zeroDigest

/-- The scope of the idempotency keys of the call. -/
def recoveryScope (principalID : UUID) : Scope :=
  ⟨.authenticated principalID .recovery, .consumeRecoveryCode⟩

/-! ## The set -/

theorem validRecoveryCodeSet_iff : validRecoveryCodeSet setID set principalID = true ↔
    (setID ≠ UUID.zero ∧ set.principalID = principalID ∧ 1 ≤ set.generation ∧ set.state = .active) ∧
      (1 ≤ set.codeHashes.length ∧ set.codeHashes.length ≤ recoveryCodeCount) ∧
      (∀ hash ∈ set.codeHashes, hash.length = 32 ∧ hash ≠ zeroDigest) ∧ set.codeHashes.Nodup := by
  simp only [validRecoveryCodeSet, validRecoveryHashCount, Bool.and_eq_true, bne_iff_ne, beq_iff_eq,
    decide_eq_true_eq, List.all_eq_true]
  tauto

/-- The set without a code. -/
def without (digest : Bytes) (set : RecoveryCodeSetRow) : RecoveryCodeSetRow :=
  let rest := set.codeHashes.filter (· != digest)
  { set with codeHashes := rest, state := if rest = [] then .exhausted else .active }

theorem removeCode_of_mem (hactive : set.state = .active) (h : digest ∈ set.codeHashes) :
    removeCode digest set = some (without digest set) := by
  rw [removeCode, if_pos ⟨hactive, h⟩, hactive]
  rfl

theorem removeCode_of_notMem (h : digest ∉ set.codeHashes) : removeCode digest set = none :=
  if_neg fun hboth => h hboth.2

theorem without_length (hnodup : set.codeHashes.Nodup) (h : digest ∈ set.codeHashes) :
    (without digest set).codeHashes.length = set.codeHashes.length - 1 := by
  show (set.codeHashes.filter (· != digest)).length = _
  rw [← hnodup.erase_eq_filter, List.length_erase_of_mem h]

/-- The set without a code is a valid set again while a code is left. -/
theorem validRecoveryCodeSet_without (hvalid : validRecoveryCodeSet setID set principalID = true)
    (hleft : (without digest set).codeHashes ≠ []) :
    validRecoveryCodeSet setID (without digest set) principalID = true := by
  obtain ⟨⟨hid, hprincipal, hgeneration, -⟩, ⟨-, hmost⟩, hhashes, hnodup⟩ :=
    validRecoveryCodeSet_iff.mp hvalid
  refine validRecoveryCodeSet_iff.mpr ⟨⟨hid, hprincipal, hgeneration, if_neg hleft⟩, ⟨?_, ?_⟩, ?_, ?_⟩
  · exact List.length_pos_iff.mpr hleft
  · exact (List.length_filter_le _ _).trans hmost
  · intro hash hmem
    exact hhashes hash (List.mem_of_mem_filter hmem)
  · exact hnodup.filter _

theorem validConsumedSet_without (hvalid : validRecoveryCodeSet setID set principalID = true)
    (h : digest ∈ set.codeHashes) (hleft : (without digest set).codeHashes ≠ []) :
    validConsumedSet set (without digest set) principalID digest = true := by
  obtain ⟨⟨-, hprincipal, -, -⟩, ⟨-, hmost⟩, hhashes, hnodup⟩ := validRecoveryCodeSet_iff.mp hvalid
  have hlength := without_length hnodup h
  have hpositive : set.codeHashes.length - 1 ≠ 0 := by
    rw [← hlength]
    exact (List.length_pos_iff.mpr hleft).ne'
  have hstate : (without digest set).state = .active := if_neg hleft
  have hgeneration : (without digest set).generation = set.generation := rfl
  have hprincipal' : (without digest set).principalID = principalID := hprincipal
  have hmem : ∀ hash ∈ (without digest set).codeHashes, hash ∈ set.codeHashes ∧ hash ≠ digest := by
    intro hash hhash
    simpa [without] using hhash
  simp only [validConsumedSet, validRecoveryHashCount, hprincipal', hgeneration, hstate, hpositive,
    if_false, beq_self_eq_true, Bool.true_and, Bool.and_eq_true, decide_eq_true_eq, List.all_eq_true,
    Bool.not_eq_true', bne_iff_ne]
  refine ⟨⟨⟨⟨by omega, hlength⟩, fun hash hhash => hhashes hash (hmem hash hhash).1⟩, ?_⟩, ?_⟩
  · exact hnodup.filter _
  · rw [List.contains_eq_mem, decide_eq_false_iff_not]
    exact fun hhash => (hmem digest hhash).2 rfl

/-! ## The transaction -/

section Transaction

variable {κ : Type}

theorem wp_getActiveRecoveryCodeSetForUpdate (hreliable : Reliable environment)
    (hset : RecoverySet service x.view email principalID setID set) (henumerable : Enumerable x)
    {post : Except (Failure κ) (Option (UUID × RecoveryCodeSetRow)) → Inside Key Row → Prop}
    (h : ∀ y : Inside Key Row, y.view = x.view → post (.ok (some (setID, set))) y) :
    Wp (alone environment start) (getActiveRecoveryCodeSetForUpdate P principalID : Body P κ _).run
      x post := by
  obtain ⟨⟨-, hprincipal, -, hactive⟩, -⟩ := validRecoveryCodeSet_iff.mp hset.valid
  refine wp_run_bind.mpr (wp_ask_scan hreliable henumerable fun snapshot hsnapshot => ?_)
  have hfound : (snapshot.filterMap recoveryCodeSetOf).filter (fun entry =>
      entry.2.principalID == principalID && entry.2.state == .active) = [(setID, set)] := by
    apply List.perm_singleton.mp
    rw [List.perm_ext_iff_of_nodup ((picks_recoveryCodeSet.nodup hsnapshot).filter _)
      (List.nodup_singleton _)]
    rintro ⟨id, row⟩
    rw [List.mem_filter, picks_recoveryCodeSet.mem hsnapshot, List.mem_singleton]
    simp only [Bool.and_eq_true, beq_iff_eq]
    constructor
    · rintro ⟨hrow, hrowPrincipal, hrowActive⟩
      obtain rfl := hset.only id row hrow hrowPrincipal hrowActive
      obtain rfl := Option.some.inj (hrow.symm.trans hset.row)
      rfl
    · rintro ⟨⟩
      exact ⟨hset.row, hprincipal, hactive⟩
  refine wp_run_bind.mpr (wp_lockEach hreliable _ fun y hy => ?_)
  show post (.ok (lockedRows _ _ _ _ (((snapshot.filterMap recoveryCodeSetOf).filter _).map
    Prod.fst)).head?) y
  rw [hfound, show lockedRows Key.recoveryCodeSet (fun _ row => row) (fun row : RecoveryCodeSetRow =>
    row.principalID == principalID && row.state == .active) x.view ([(setID, set)].map Prod.fst) =
      [(setID, set)] by simp [lockedRows, hset.row, hprincipal, hactive]]
  exact h y hy

variable {post : Except (Failure κ) SessionTokens → Inside Key Row → Prop} {key : Octets 32}

/-- A code that is not in the set is refused. -/
theorem wp_redeemRecoveryCode_absent (hreliable : Reliable environment)
    (hrow : x.view (.recoveryCodeSet setID) = some set)
    (hvalid : validRecoveryCodeSet setID set principalID = true) (hdigest : digest ∉ set.codeHashes)
    {record : Record} (h : post (.error authenticationFailed) x) :
    Wp (alone environment start) (redeemRecoveryCode P key principalID (some (setID, set)) record
      digest now : Body P κ _).run x post := by
  refine wp_orThrow (a := (setID, set)) (by simp [Option.filter, hvalid]) ?_
  refine wp_run_bind.mpr (wp_ask hreliable (Inside.yields_update_none ?_) rfl ?_)
  · rw [hrow]
    exact removeCode_of_notMem hdigest
  · exact wp_orThrow_none rfl h

/-- The last code of the set is refused: the table demands that a code be left. -/
theorem wp_redeemRecoveryCode_last (hrow : x.view (.recoveryCodeSet setID) = some set)
    (hvalid : validRecoveryCodeSet setID set principalID = true) (hdigest : digest ∈ set.codeHashes)
    (hlast : (without digest set).codeHashes = []) {record : Record}
    (h : post (.error unavailable) x) :
    Wp (alone environment start) (redeemRecoveryCode P key principalID (some (setID, set)) record
      digest now : Body P κ _).run x post := by
  obtain ⟨⟨-, -, -, hactive⟩, -⟩ := validRecoveryCodeSet_iff.mp hvalid
  refine wp_orThrow (a := (setID, set)) (by simp [Option.filter, hvalid]) ?_
  have hremoved : (x.view (.recoveryCodeSet setID)).bind (removeCode digest) =
      some (without digest set) := by
    rw [hrow]
    exact removeCode_of_mem hactive hdigest
  refine wp_run_bind.mpr (wp_ask_violation (Inside.yields_update hremoved) ?_ h)
  simp [Statement.admissible, constraints, hlast]

/-- Any other code of the set is accepted. -/
theorem wp_redeemRecoveryCode (hP : P.Times) (hserving : Serving environment protector)
    (huncollided : Uncollided environment start) (hrow : x.view (.recoveryCodeSet setID) = some set)
    (hvalid : validRecoveryCodeSet setID set principalID = true) (hdigest : digest ∈ set.codeHashes)
    (hleft : (without digest set).codeHashes ≠ []) (hprincipal : principalID ≠ UUID.zero)
    (hkey : key.1 ≠ zeroDigest) (hnow : validClock now = true) {scope : Scope} {expiresAt : Instant}
    (hrecord : validInternalRecord (freshRecord scope keyHash requestHash now expiresAt) = true)
    (hfresh : validRow (freshRow requestHash now expiresAt) = true) (hhash : keyHash.length = 32)
    (hview : x.view (.idempotency scope keyHash) = some (freshRow requestHash now expiresAt))
    (hothers : ∀ k, k ≠ .idempotency scope keyHash → x.view k = start.database.committed k)
    (h : ∀ sessionID tokens row, start.database.committed (.accountSession sessionID) = none →
      post (.ok tokens) ((((x.write (.recoveryCodeSet setID) (without digest set)).write
        (.accountSession sessionID) (issuedSession principalID key tokens)).write
        (.accountRefreshToken (digestToken .accountRefresh tokens.refreshToken))
        (issuedToken sessionID now tokens)).write (.idempotency scope keyHash) row)) :
    Wp (alone environment start) (redeemRecoveryCode P key principalID (some (setID, set))
      (freshRecord scope keyHash requestHash now expiresAt) digest now : Body P κ _).run x post := by
  obtain ⟨⟨-, -, hgeneration, hactive⟩, ⟨-, hmost⟩, -⟩ := validRecoveryCodeSet_iff.mp hvalid
  refine wp_orThrow (a := (setID, set)) (by simp [Option.filter, hvalid]) ?_
  have hremoved : (x.view (.recoveryCodeSet setID)).bind (removeCode digest) =
      some (without digest set) := by
    rw [hrow]
    exact removeCode_of_mem hactive hdigest
  refine wp_run_bind.mpr (wp_ask hserving.reliable (Inside.yields_update hremoved) ?_ ?_)
  · have hfew : (without digest set).codeHashes.length ≤ 10 :=
      (List.length_filter_le _ _).trans hmost
    have hsome := List.length_pos_iff.mpr hleft
    simp only [Statement.admissible, Option.all_some, constraints, decide_eq_true_eq]
    exact ⟨hgeneration, hsome, hfew⟩
  refine wp_orThrow rfl (wp_require (validConsumedSet_without hvalid hdigest hleft) ?_)
  refine wp_run_bind.mpr (wp_issueAccountSessionUntil hserving huncollided hprincipal hkey
    (ne_zero_of_validClock hnow) ?_ ?_ fun sessionID tokens htokens hsession => ?_)
  · intro id hid
    rw [Inside.view_write_of_ne (by simp), hothers _ (by simp)]
    exact hid
  · intro hash hfree
    rw [Inside.view_write_of_ne (by simp), hothers _ (by simp)]
    exact hfree
  refine wp_completeWithTokens hP hserving hnow htokens hrecord hfresh hhash ?_ fun row => ?_
  · rw [Inside.view_write_of_ne (by simp), Inside.view_write_of_ne (by simp),
      Inside.view_write_of_ne (by simp)]
    exact hview
  · exact h sessionID tokens row hsession

end Transaction

/-! ## The call -/

/-- One session is added to those of the principal, and it is active. -/
def CreatesSession (principalID : UUID) (c d : Rows) : Prop :=
  ∃ (id : UUID) (row : AccountSessionRow), c (.accountSession id) = none ∧
    d (.accountSession id) = some row ∧ row.principalID = principalID ∧ row.state = .active ∧
    ∀ other, other ≠ id → d (.accountSession other) = c (.accountSession other)

/-- How a call with a code ends, by what the code is to the set. -/
inductive Presents (principalID setID : UUID) (set : RecoveryCodeSetRow) (digest : Bytes) (c : Rows) :
    Except ApiError SessionTokens → Rows → Prop where
  | absent (hdigest : digest ∉ set.codeHashes) :
      Presents principalID setID set digest c (.error .authenticationFailed) c
  | last (hdigest : digest ∈ set.codeHashes) (hlast : (without digest set).codeHashes = []) :
      Presents principalID setID set digest c (.error .dependencyUnavailable) c
  | accepted {tokens : SessionTokens} {d : Rows} (hdigest : digest ∈ set.codeHashes)
      (hleft : (without digest set).codeHashes ≠ []) (hsession : CreatesSession principalID c d)
      (hset : d (.recoveryCodeSet setID) = some (without digest set))
      (hsets : ∀ id, id ≠ setID → d (.recoveryCodeSet id) = c (.recoveryCodeSet id))
      (hidentities : ∀ hash, d (.emailIdentity hash) = c (.emailIdentity hash))
      (haccounts : ∀ id, d (.account id) = c (.account id)) :
      Presents principalID setID set digest c (.ok tokens) d

/-- The transaction up to the point where a record has been started for the request. -/
theorem wp_consumeRecoveryCodeTransaction (hreliable : Reliable environment) (hrest : AtRest s)
    (hset : RecoverySet service s.database.committed email principalID setID set)
    (hcommand : ValidCommand service command email digest canonical keyHash requestHash)
    (hfresh : s.database.committed (.idempotency (recoveryScope principalID) keyHash) = none)
    (hnow : now ≠ 0) {post : Except (Failure Empty) SessionTokens → Inside Key Row → Prop}
    (h : ∀ y : Inside Key Row, y.view = s.database.committed →
      Wp (alone environment s) (redeemRecoveryCode P command.clientSigningPublicKey principalID
        (some (setID, set)) (freshRecord (recoveryScope principalID) keyHash requestHash now
          (now + securityIdempotencyRetention)) digest now).run
        (y.write (.idempotency (recoveryScope principalID) keyHash)
          (freshRow requestHash now (now + securityIdempotencyRetention))) post) :
    Wp (alone environment s)
      (consumeRecoveryCodeTransaction P service command email digest canonical now).run
      (Inside.start s.database.committed) post := by
  obtain ⟨account, haccount, hactive⟩ := hset.account
  have hscope : authenticatedScope principalID .recovery .consumeRecoveryCode =
      some (recoveryScope principalID) := by
    simp [authenticatedScope, recoveryScope, hset.principal]
  refine wp_require hset.lookup ?_
  refine wp_run_bind.mpr (wp_ask hreliable Inside.yields_get rfl ?_)
  rw [Inside.view_start, hset.identity]
  refine wp_run_bind.mpr
    (wp_getActiveRecoveryCodeSetForUpdate hreliable hset hrest.enumerable fun x hx => ?_)
  refine wp_run_bind.mpr (wp_ask_lock hreliable fun y hy => ?_)
  have hview : y.view = s.database.committed := hy.trans hx
  have haccountView : x.view (.account principalID) = some account :=
    (congrFun hx _).trans haccount
  dsimp only [Option.getD_some]
  rw [haccountView, hscope]
  refine wp_require ⟨rfl, by simp [hactive]⟩ ?_
  have hrequest : requestDigest (recoveryScope principalID).operation canonical = some requestHash :=
    hcommand.requestHash_eq.1
  refine wp_run_bind.mpr (wp_orThrow rfl (wp_run_mapError.mpr
    (wp_beginRecord_fresh hreliable ?_ hrequest hcommand.keyHash_eq.1 ?_ ?_)))
  · refine ⟨?_, hnow, ?_⟩
    · simp [validScope, recoveryScope, hset.principal]
    · exact Int.lt_add_of_pos_right _ (by decide)
  · rw [hview]
    exact hfresh
  · exact h y hview

/-- What becomes of the code once a record has been started for the request. -/
theorem wp_redeem_presents (hP : P.Times) (hserving : Serving environment protector)
    (huncollided : Uncollided environment s)
    (hset : RecoverySet service s.database.committed email principalID setID set)
    (hcommand : ValidCommand service command email digest canonical keyHash requestHash)
    (hnow : validClock now = true) (hy : y.view = s.database.committed) :
    Wp (alone environment s) (redeemRecoveryCode P command.clientSigningPublicKey principalID
      (some (setID, set)) (freshRecord (recoveryScope principalID) keyHash requestHash now
        (now + securityIdempotencyRetention)) digest now).run
      (y.write (.idempotency (recoveryScope principalID) keyHash)
        (freshRow requestHash now (now + securityIdempotencyRetention)))
      (Concludes (Presents principalID setID set digest s.database.committed)
        s.database.committed) := by
  have hothers : ∀ k, k ≠ .idempotency (recoveryScope principalID) keyHash →
      (y.write (.idempotency (recoveryScope principalID) keyHash)
        (freshRow requestHash now (now + securityIdempotencyRetention))).view k =
        s.database.committed k := by
    intro k hk
    rw [Inside.view_write_of_ne hk, hy]
  have hrow := (hothers (.recoveryCodeSet setID) (by simp)).trans hset.row
  by_cases hdigest : digest ∈ set.codeHashes
  swap
  · exact wp_redeemRecoveryCode_absent hserving.reliable hrow hset.valid hdigest (.absent hdigest)
  by_cases hlast : (without digest set).codeHashes = []
  · exact wp_redeemRecoveryCode_last hrow hset.valid hdigest hlast (.last hdigest hlast)
  have hlong : now + microsecond ≤ now + securityIdempotencyRetention := by
    apply Int.add_le_add_left
    decide
  refine wp_redeemRecoveryCode hP hserving huncollided hrow hset.valid hdigest hlast hset.principal
    hcommand.signingKey hnow ?_ ?_ (keyDigest_length hcommand.keyHash_eq.1)
    Inside.view_write_self hothers ?_
  · have hpositive : now < now + securityIdempotencyRetention :=
      Int.lt_add_of_pos_right _ (by decide)
    simp [validInternalRecord, freshRecord, validScope, recoveryScope, hset.principal,
      ne_zero_of_validClock hnow, hpositive, hcommand.keyHash_eq.2, hcommand.requestHash_eq.2]
  · exact validRow_freshRow (requestDigest_length hcommand.requestHash_eq.1) hnow hlong
  · intro sessionID tokens row hsession
    refine .accepted hdigest hlast ⟨sessionID,
      issuedSession principalID command.clientSigningPublicKey tokens, hsession, ?_, rfl, rfl, ?_⟩
      ?_ ?_ ?_ ?_
    · rw [Inside.view_write_of_ne (by simp), Inside.view_write_of_ne (by simp),
        Inside.view_write_self]
    · intro other hother
      rw [Inside.view_write_of_ne (by simp), Inside.view_write_of_ne (by simp),
        Inside.view_write_of_ne (by simpa using hother), Inside.view_write_of_ne (by simp),
        hothers _ (by simp)]
    · rw [Inside.view_write_of_ne (by simp), Inside.view_write_of_ne (by simp),
        Inside.view_write_of_ne (by simp), Inside.view_write_self]
    · intro id hid
      rw [Inside.view_write_of_ne (by simp), Inside.view_write_of_ne (by simp),
        Inside.view_write_of_ne (by simp), Inside.view_write_of_ne (by simpa using hid),
        hothers _ (by simp)]
    all_goals
      intro id
      rw [Inside.view_write_of_ne (by simp), Inside.view_write_of_ne (by simp),
        Inside.view_write_of_ne (by simp), Inside.view_write_of_ne (by simp), hothers _ (by simp)]

/-- A call with a code, alone and with healthy services. -/
theorem wp_consumeRecoveryCode (hP : P.Times) (hserving : Serving environment protector)
    (huncollided : Uncollided environment s) (hrest : AtRest s)
    (hset : RecoverySet service s.database.committed email principalID setID set)
    (hcommand : ValidCommand service command email digest canonical keyHash requestHash)
    (hfresh : s.database.committed (.idempotency (recoveryScope principalID) keyHash) = none) :
    Wp (exec environment pid) (consumeRecoveryCode P service command).run s fun r t =>
      AtRest t ∧
        Presents principalID setID set digest s.database.committed r t.database.committed := by
  have hemail : command.email ≠ [] := by
    intro hempty
    have heq := hcommand.email_eq
    rw [hempty] at heq
    cases heq
  refine wp_require ⟨hemail, hcommand.signingKey, hcommand.idempotencyKey⟩ ?_
  refine wp_orThrow hcommand.code_eq (wp_orThrow hcommand.email_eq
    (wp_orThrow hcommand.canonical_eq ?_))
  refine wp_run_bind.mpr (wp_exec_now hserving fun time htime => ?_)
  refine wp_run_bind.mpr (wp_allowLogin hserving ?_)
  refine wp_transaction hserving.reliable performs_consumeRecoveryCodeTransaction hrest ?_
  exact wp_consumeRecoveryCodeTransaction hserving.reliable hrest hset hcommand hfresh
    (ne_zero_of_validClock htime) fun y hy =>
      wp_redeem_presents hP hserving huncollided hset hcommand htime hy

/-! ## Sequences of presentations -/

/-- A call with a code, and the states before and after it. -/
structure Presentation where
  command : ConsumeRecoveryCodeCommand
  digest : Bytes
  pid : Pid
  before : Backend
  result : Except ApiError SessionTokens
  after : Backend

/-- The presentation is a run of the call, alone, with a well-formed command whose
idempotency key has not been used. -/
structure Presentation.Ran (p : Presentation) (environment : Environment P) (service : Service)
    (email : Bytes) (principalID : UUID) : Prop where
  rest : AtRest p.before
  valid : ∃ canonical keyHash requestHash,
    ValidCommand service p.command email p.digest canonical keyHash requestHash ∧
      p.before.database.committed (.idempotency (recoveryScope principalID) keyHash) = none
  uncollided : Uncollided environment p.before
  runs : Runs (exec environment p.pid) (consumeRecoveryCode P service p.command).run p.before
    p.result p.after

/-- The accounts, their addresses and their recovery codes are the same. -/
def SameCodes (c d : Rows) : Prop :=
  (∀ id, d (.account id) = c (.account id)) ∧ (∀ hash, d (.emailIdentity hash) = c (.emailIdentity hash)) ∧
    ∀ id, d (.recoveryCodeSet id) = c (.recoveryCodeSet id)

/-- Presentations one after the other; what happens in between does not touch the codes. -/
inductive Presented (environment : Environment P) (service : Service) (email : Bytes)
    (principalID : UUID) : Backend → List Presentation → Prop where
  | nil {s : Backend} : Presented environment service email principalID s []
  | cons {s : Backend} {p : Presentation} {rest : List Presentation}
      (hsame : SameCodes s.database.committed p.before.database.committed)
      (hran : p.Ran environment service email principalID)
      (hrest : Presented environment service email principalID p.after rest) :
      Presented environment service email principalID s (p :: rest)

/-- A presentation is honoured: it succeeds exactly if the code is left in the set, and
then it creates a session and takes the code out of the set, which is exhausted when no
code is left. -/
structure Presentation.Honoured (p : Presentation) (principalID setID : UUID) (left : List Bytes) :
    Prop where
  accepted : (∃ tokens, p.result = .ok tokens) ↔ p.digest ∈ left
  session : p.digest ∈ left →
    CreatesSession principalID p.before.database.committed p.after.database.committed
  set : p.digest ∈ left → ∃ row : RecoveryCodeSetRow,
    p.after.database.committed (.recoveryCodeSet setID) = some row ∧
      row.codeHashes = left.filter (· != p.digest) ∧
      row.state = if left.filter (· != p.digest) = [] then .exhausted else .active

/-- Every presentation is honoured, each by the codes that those before it have left. -/
def AllHonoured (principalID setID : UUID) : List Bytes → List Presentation → Prop
  | _, [] => True
  | left, p :: rest => p.Honoured principalID setID left ∧
      AllHonoured principalID setID (left.filter (· != p.digest)) rest

theorem RecoverySet.congr {c d : Rows} (h : RecoverySet service c email principalID setID set)
    (hsame : SameCodes c d) : RecoverySet service d email principalID setID set where
  principal := h.principal
  lookup := h.lookup
  identity := (hsame.2.1 _).trans h.identity
  account := by
    obtain ⟨account, haccount, hactive⟩ := h.account
    exact ⟨account, (hsame.1 _).trans haccount, hactive⟩
  row := (hsame.2.2 _).trans h.row
  valid := h.valid
  only id row hrow := h.only id row ((hsame.2.2 id).symm.trans hrow)

/-- What a presentation does, and the set after it. -/
theorem Presentation.Ran.presents {p : Presentation} (hP : P.Times)
    (hserving : Serving environment protector) (hran : p.Ran environment service email principalID)
    (hset : RecoverySet service p.before.database.committed email principalID setID set) :
    Presents principalID setID set p.digest p.before.database.committed p.result
      p.after.database.committed := by
  obtain ⟨canonical, keyHash, requestHash, hcommand, hfresh⟩ := hran.valid
  exact ((wp_consumeRecoveryCode hP hserving hran.uncollided hran.rest hset hcommand hfresh).runs
    hran.runs).2

theorem RecoverySet.without {c d : Rows} (h : RecoverySet service c email principalID setID set)
    (hleft : (without digest set).codeHashes ≠ [])
    (hset : d (.recoveryCodeSet setID) = some (without digest set))
    (hsets : ∀ id, id ≠ setID → d (.recoveryCodeSet id) = c (.recoveryCodeSet id))
    (hidentities : ∀ hash, d (.emailIdentity hash) = c (.emailIdentity hash))
    (haccounts : ∀ id, d (.account id) = c (.account id)) :
    RecoverySet service d email principalID setID (Analysis.without digest set) where
  principal := h.principal
  lookup := h.lookup
  identity := (hidentities _).trans h.identity
  account := by
    obtain ⟨account, haccount, hactive⟩ := h.account
    exact ⟨account, (haccounts _).trans haccount, hactive⟩
  row := hset
  valid := validRecoveryCodeSet_without h.valid hleft
  only id row hrow hprincipal hactive := by
    by_contra hne
    exact hne (h.only id row ((hsets id hne).symm.trans hrow) hprincipal hactive)

/-- A sequence of presentations is honoured exactly if it leaves out a code of the set: the
code that would be the last is refused. -/
theorem presentations_honoured_iff (hP : P.Times) (hserving : Serving environment protector)
    {presentations : List Presentation}
    (hset : RecoverySet service s.database.committed email principalID setID set)
    (hpresented : Presented environment service email principalID s presentations) :
    AllHonoured principalID setID set.codeHashes presentations ↔
      ∃ code ∈ set.codeHashes, code ∉ presentations.map Presentation.digest := by
  induction hpresented generalizing set with
  | nil =>
    obtain ⟨-, ⟨hsome, -⟩, -⟩ := validRecoveryCodeSet_iff.mp hset.valid
    obtain ⟨code, hcode⟩ := List.exists_mem_of_length_pos hsome
    exact ⟨fun _ => ⟨code, hcode, List.not_mem_nil⟩, fun _ => trivial⟩
  | @cons s p rest hsame hran hrest ih =>
    have hbefore := hset.congr hsame
    have hpresents := hran.presents hP hserving hbefore
    rw [AllHonoured]
    generalize hc : p.before.database.committed = c at hpresents hbefore
    generalize hr : p.result = r at hpresents
    generalize hd : p.after.database.committed = d at hpresents ih
    cases hpresents with
    | absent hdigest =>
      have hsame : set.codeHashes.filter (· != p.digest) = set.codeHashes := by
        rw [List.filter_eq_self]
        intro code hcode
        simpa using fun heq : code = p.digest => hdigest (heq ▸ hcode)
      have hhonoured : p.Honoured principalID setID set.codeHashes :=
        ⟨by simp [hr, hdigest], fun h => absurd h hdigest, fun h => absurd h hdigest⟩
      rw [hsame, ih hbefore]
      constructor
      · rintro ⟨-, code, hcode, hnot⟩
        refine ⟨code, hcode, ?_⟩
        rw [List.map_cons, List.mem_cons, not_or]
        exact ⟨fun heq => hdigest (heq ▸ hcode), hnot⟩
      · rintro ⟨code, hcode, hnot⟩
        exact ⟨hhonoured, code, hcode, fun h => hnot (List.mem_cons_of_mem _ h)⟩
    | last hdigest hlast =>
      -- The code is in the set, but the call fails.
      constructor
      · rintro ⟨hhonoured, -⟩
        obtain ⟨tokens, htokens⟩ := hhonoured.accepted.mpr hdigest
        rw [hr] at htokens
        cases htokens
      · rintro ⟨code, hcode, hnot⟩
        rw [List.map_cons, List.mem_cons, not_or] at hnot
        have hmem : code ∈ set.codeHashes.filter (· != p.digest) :=
          List.mem_filter.mpr ⟨hcode, by simpa using hnot.1⟩
        change set.codeHashes.filter (· != p.digest) = [] at hlast
        rw [hlast] at hmem
        cases hmem
    | accepted hdigest hleft hsession hrow hsets hidentities haccounts =>
      have hafter := hbefore.without hleft hrow hsets hidentities haccounts
      have hhonoured : p.Honoured principalID setID set.codeHashes := by
        refine ⟨⟨fun _ => hdigest, fun _ => ⟨_, hr⟩⟩, fun _ => ?_,
          fun _ => ⟨without p.digest set, ?_, rfl, rfl⟩⟩
        · rw [hc, hd]
          exact hsession
        · rw [hd]
          exact hrow
      rw [show set.codeHashes.filter (· != p.digest) = (without p.digest set).codeHashes from rfl,
        ih hafter]
      constructor
      · rintro ⟨-, code, hcode, hnot⟩
        obtain ⟨hcode, hne⟩ := List.mem_filter.mp hcode
        refine ⟨code, hcode, ?_⟩
        rw [List.map_cons, List.mem_cons, not_or]
        exact ⟨by simpa using hne, hnot⟩
      · rintro ⟨code, hcode, hnot⟩
        rw [List.map_cons, List.mem_cons, not_or] at hnot
        exact ⟨hhonoured, code, List.mem_filter.mpr ⟨hcode, by simpa using hnot.1⟩, hnot.2⟩

/-- The codes that were accepted. -/
def acceptedCodes (presentations : List Presentation) : List Bytes :=
  (presentations.filter (·.result.isOk)).map Presentation.digest

/-- In whatever order and however often codes are presented, each is accepted at most once, only
codes of the set are, and a code of the set is left. -/
theorem codes_accepted_once (hP : P.Times) (hserving : Serving environment protector)
    {presentations : List Presentation}
    (hset : RecoverySet service s.database.committed email principalID setID set)
    (hpresented : Presented environment service email principalID s presentations) :
    (acceptedCodes presentations).Nodup ∧ acceptedCodes presentations ⊆ set.codeHashes ∧
      ∃ code ∈ set.codeHashes, code ∉ acceptedCodes presentations := by
  induction hpresented generalizing set with
  | nil =>
    obtain ⟨-, ⟨hsome, -⟩, -⟩ := validRecoveryCodeSet_iff.mp hset.valid
    obtain ⟨code, hcode⟩ := List.exists_mem_of_length_pos hsome
    exact ⟨.nil, List.nil_subset _, code, hcode, List.not_mem_nil⟩
  | @cons s p rest hsame hran _ ih =>
    have hbefore := hset.congr hsame
    have hpresents := hran.presents hP hserving hbefore
    generalize hr : p.result = r at hpresents
    generalize p.after.database.committed = d at hpresents ih
    cases hpresents with
    | absent | last =>
      rw [acceptedCodes, List.filter_cons_of_neg (by rw [hr]; exact Bool.false_ne_true)]
      exact ih hbefore
    | accepted hdigest hleft _ hrow hsets hidentities haccounts =>
      -- the code is taken out of the set, so that it is not accepted again
      obtain ⟨hnodup, hsubset, code, hcode, hnot⟩ :=
        ih (hbefore.without hleft hrow hsets hidentities haccounts)
      have hrest : ∀ c ∈ (without p.digest set).codeHashes, c ∈ set.codeHashes ∧ c ≠ p.digest := by
        simp [without]
      rw [acceptedCodes, List.filter_cons_of_pos (by rw [hr]; rfl), List.map_cons]
      refine ⟨List.nodup_cons.mpr ⟨fun h => (hrest _ (hsubset h)).2 rfl, hnodup⟩,
        List.cons_subset.mpr ⟨hdigest, fun _ h => (hrest _ (hsubset h)).1⟩, code,
        (hrest _ hcode).1, ?_⟩
      rw [List.mem_cons, not_or]
      exact ⟨(hrest _ hcode).2, hnot⟩

/-! ## An account with recovery codes -/

/-- A principal and the identifier of its set. -/
def holder : UUID := Octets.replicate 16 2

/-- The digest of the code `AAAA-AAAA-…`. -/
def firstCode : Bytes := Sha256.sha256 (recoveryCodeDigestPrefix ++ List.replicate 20 0)

/-- An active account with a set of codes. -/
def codesBackend (codes : List Bytes) : Backend where
  database := holding
    [⟨.emailIdentity (List.replicate 32 1), holder⟩, ⟨.account holder, ⟨.active, 1, day⟩⟩,
     ⟨.recoveryCodeSet holder, ⟨holder, 1, codes, .active⟩⟩]
  signed := []
  challenges _ := none

/-- A request with the first code. -/
def firstRequest : ConsumeRecoveryCodeCommand where
  email := ascii "a@b.c"
  code := ascii "AAAA-AAAA-AAAA-AAAA-AAAA-AAAA-AAAA-AAAA"
  clientSigningPublicKey := Octets.replicate 32 1
  idempotencyKey := ascii "0123456789abcdefghijkl"

theorem firstRequest_valid : ValidCommand steadyService firstRequest (ascii "a@b.c") firstCode
    (List.replicate 32 1)
    (Sha256.sha256 (keyDigestDomain ++ bigEndian 2 22 ++ ascii "0123456789abcdefghijkl"))
    (Sha256.sha256 (requestDigestDomain ++ operationName .consumeRecoveryCode ++
      0 :: List.replicate 32 1)) where
  signingKey := by decide
  idempotencyKey := by decide
  code_eq := by decide +kernel
  email_eq := by decide +kernel
  canonical_eq := by decide +kernel
  keyHash_eq := by decide +kernel
  requestHash_eq := by decide +kernel

theorem codesBackend_set {codes : List Bytes} (hvalid : validRecoveryCodeSet holder
    ⟨holder, 1, codes, .active⟩ holder = true) :
    RecoverySet steadyService (codesBackend codes).database.committed (ascii "a@b.c") holder holder
      ⟨holder, 1, codes, .active⟩ where
  principal := by decide
  lookup := by decide
  identity := rfl
  account := ⟨⟨.active, 1, day⟩, rfl, rfl⟩
  row := rfl
  valid := hvalid
  only id row hrow _ _ := by
    have hmem := mem_of_holding hrow
    simp only [List.mem_cons, Sigma.mk.injEq, reduceCtorEq, false_and, Key.recoveryCodeSet.injEq,
      List.not_mem_nil, or_false, false_or] at hmem
    exact hmem.1

/-- The run of the first request. -/
theorem firstRequest_ran {codes : List Bytes} (hvalid : validRecoveryCodeSet holder
    ⟨holder, 1, codes, .active⟩ holder = true) : ∃ r t,
    (⟨firstRequest, firstCode, 0, codesBackend codes, r, t⟩ : Presentation).Ran steadyEnvironment
      steadyService (ascii "a@b.c") holder := by
  have hrest : AtRest (codesBackend codes) := fun _ => rfl
  have huncollided : Uncollided steadyEnvironment (codesBackend codes) :=
    steadyEnvironment_uncollided rfl rfl
  have hruns : ∃ r t, Runs (exec steadyEnvironment 0)
      (consumeRecoveryCode steadyPlatform steadyService firstRequest).run (codesBackend codes) r t :=
    (wp_consumeRecoveryCode steadyPlatform_times steadyEnvironment_serving huncollided hrest
      (codesBackend_set hvalid) firstRequest_valid rfl).exists_runs
  obtain ⟨r, t, hruns⟩ := hruns
  exact ⟨r, t, hrest, ⟨_, _, _, firstRequest_valid, rfl⟩, huncollided, hruns⟩

/-- With two codes the first is honoured. -/
theorem presentations_honoured_two : ∃ r t, AllHonoured holder holder [firstCode, List.replicate 32 7]
    [⟨firstRequest, firstCode, 0, codesBackend [firstCode, List.replicate 32 7], r, t⟩] := by
  have hvalid : validRecoveryCodeSet holder
      ⟨holder, 1, [firstCode, List.replicate 32 7], .active⟩ holder = true := by decide +kernel
  obtain ⟨r, t, hran⟩ := firstRequest_ran hvalid
  refine ⟨r, t, ?_⟩
  refine (presentations_honoured_iff steadyPlatform_times steadyEnvironment_serving
    (codesBackend_set hvalid)
    (.cons ⟨fun _ => rfl, fun _ => rfl, fun _ => rfl⟩ hran .nil)).mpr ?_
  refine ⟨List.replicate 32 7, by simp, ?_⟩
  rw [List.map_cons, List.map_nil, List.mem_singleton]
  show List.replicate 32 7 ≠ firstCode
  decide +kernel

/-- The first of two codes is presented. -/
theorem codes_accepted_once_two : ∃ r t, ∃ code ∈ [firstCode, List.replicate 32 7],
    code ∉ acceptedCodes
      [⟨firstRequest, firstCode, 0, codesBackend [firstCode, List.replicate 32 7], r, t⟩] := by
  have hvalid : validRecoveryCodeSet holder
      ⟨holder, 1, [firstCode, List.replicate 32 7], .active⟩ holder = true := by decide +kernel
  obtain ⟨r, t, hran⟩ := firstRequest_ran hvalid
  exact ⟨r, t, (codes_accepted_once steadyPlatform_times steadyEnvironment_serving
    (codesBackend_set hvalid) (.cons ⟨fun _ => rfl, fun _ => rfl, fun _ => rfl⟩ hran .nil)).2.2⟩

/-- The only code of a set is presented once, with healthy services and a new idempotency
key, and is refused: the set stays as it is. -/
theorem only_code_refused : ∃ (p : Presentation),
    p.Ran steadyEnvironment steadyService (ascii "a@b.c") holder ∧
      p.before = codesBackend [firstCode] ∧ p.digest = firstCode ∧
      p.result = .error .dependencyUnavailable ∧
      p.after.database.committed (.recoveryCodeSet holder) =
        some ⟨holder, 1, [firstCode], .active⟩ ∧
      ¬ AllHonoured holder holder [firstCode] [p] := by
  have hvalid : validRecoveryCodeSet holder ⟨holder, 1, [firstCode], .active⟩ holder = true := by
    decide +kernel
  obtain ⟨r, t, hran⟩ := firstRequest_ran hvalid
  have hpresents := hran.presents steadyPlatform_times steadyEnvironment_serving
    (codesBackend_set hvalid)
  have hend : r = .error .dependencyUnavailable ∧
      t.database.committed = (codesBackend [firstCode]).database.committed := by
    generalize hd : t.database.committed = d at hpresents
    cases hpresents with
    | absent hdigest => exact absurd (List.mem_singleton.mpr rfl) hdigest
    | last => exact ⟨rfl, rfl⟩
    | accepted _ hleft => exact absurd (by simp [without]) hleft
  refine ⟨_, hran, rfl, rfl, hend.1, ?_, ?_⟩
  · rw [hend.2]
    rfl
  · rintro ⟨hhonoured, -⟩
    obtain ⟨tokens, htokens⟩ := hhonoured.accepted.mpr (List.mem_singleton.mpr rfl)
    rw [hend.1] at htokens
    cases htokens

end Talenro.Analysis
