import Talenro.Analysis.CallRules
import Talenro.Model.Identity.Sessions

/-!
# Rules for the identity service

What the operations of the identity service have in common: the tables of a snapshot, the
statements their transactions consist of, and the weakest preconditions of issuing a
session and of storing its tokens as a response.
-/

set_option autoImplicit false

namespace Talenro.Analysis

open Lib Lib.Calendar Lib.Json Prog RowStore Idempotency Calls Identity

variable {P : Platform} {κ : Type} {environment : Environment P} {start : Backend}
  {x y : Inside Key Row}

/-! ## Tables of a snapshot -/

section Tables

variable {ι ρ : Type} {pick : ((k : Key) × Row k) → Option (ι × ρ)} {key : ι → Key}
  {row : (i : ι) → ρ → Row (key i)} {snapshot : List ((k : Key) × Row k)}

/-- The function picks the rows of one table. -/
def Picks (pick : ((k : Key) × Row k) → Option (ι × ρ)) (key : ι → Key)
    (row : (i : ι) → ρ → Row (key i)) : Prop :=
  ∀ entry i r, pick entry = some (i, r) ↔ entry = ⟨key i, row i r⟩

theorem Picks.mem (hpick : Picks pick key row) (h : Shows snapshot x) {i : ι} {r : ρ} :
    (i, r) ∈ snapshot.filterMap pick ↔ x.view (key i) = some (row i r) := by
  rw [List.mem_filterMap, ← h.1]
  constructor
  · rintro ⟨entry, hentry, heq⟩
    rwa [(hpick entry i r).mp heq] at hentry
  · intro hentry
    exact ⟨_, hentry, (hpick _ i r).mpr rfl⟩

theorem Picks.nodup (hpick : Picks pick key row) (h : Shows snapshot x) :
    (snapshot.filterMap pick).Nodup := by
  apply List.Nodup.filterMap _ (List.Nodup.of_map Sigma.fst h.2)
  rintro a b ⟨i, r⟩ ha hb
  rw [(hpick a i r).mp ha, (hpick b i r).mp hb]

theorem picks_recoveryCodeSet : Picks recoveryCodeSetOf Key.recoveryCodeSet fun _ r => r := by
  rintro ⟨k, row⟩ i r
  cases k <;> simp [recoveryCodeSetOf]

end Tables

/-! ## Session tokens -/

theorem ne_zero_of_validClock {t : Instant} (h : validClock t = true) : t ≠ 0 := by
  rintro rfl
  revert h
  decide

/-- A valid time lies a few centuries after the zero time. -/
theorem day_le_of_validClock {t : ℤ} (h : validClock t = true) : day ≤ t := by
  simp only [validClock, Bool.and_eq_true, decide_eq_true_eq] at h
  obtain ⟨y, doy, hsum, hdoy, hy⟩ := dateOfDays_year (t / day)
  simp only [daysBeforeMarch, marchOffset] at hsum
  have hone : 1 ≤ t / day := by omega
  have hday : (0 : ℤ) < day := by decide
  have := (Int.le_ediv_iff_mul_le hday).mp hone
  rwa [one_mul] at this

/-- Half a year after a valid time the year still has four digits. -/
theorem four_digit_year {t d : ℤ} (h : validClock t = true) (hd : 0 ≤ d) (hlong : d ≤ 180 * day) :
    0 ≤ t + d ∧ (dateOfDays ((t + d) / day)).year ≤ 9999 := by
  have hday : (0 : ℤ) < day := by decide
  have hpositive := day_le_of_validClock h
  simp only [validClock, Bool.and_eq_true, decide_eq_true_eq] at h
  obtain ⟨y, doy, hsum, hdoy, hy⟩ := dateOfDays_year (t / day)
  obtain ⟨y', doy', hsum', hdoy', hy'⟩ := dateOfDays_year ((t + d) / day)
  have hle : (t + d) / day ≤ t / day + 180 := by
    rw [← Int.add_mul_ediv_right t 180 hday.ne']
    apply Int.ediv_le_ediv hday
    omega
  simp only [daysBeforeMarch, marchOffset] at hsum hsum'
  omega

/-- The row of a record that begins at a valid time is valid. -/
theorem validRow_freshRow {digest : Bytes} {t u : ℤ} (hdigest : digest.length = 32)
    (ht : validClock t = true) (hu : t + microsecond ≤ u) : validRow (freshRow digest t u) = true := by
  have hday := day_le_of_validClock ht
  have hmicro : (microsecond : ℤ) = 1000 := rfl
  have hlong : (1000 : ℤ) ≤ day := by decide
  simp only [validRow, freshRow, timestamptz, hmicro, Bool.and_eq_true, bne_iff_ne,
    decide_eq_true_eq] at hu ⊢
  have hnonzero : t - t % 1000 ≠ 0 := by omega
  have hordered : t - t % 1000 < u - u % 1000 := by omega
  exact ⟨⟨hdigest, hnonzero⟩, hordered⟩

/-- Tokens whose times have four-digit years have an encoding, which is short. -/
theorem exists_encodeSessionTokens (hP : P.Times) {tokens : SessionTokens}
    (haccess : 0 ≤ tokens.accessExpiresAt ∧
      (dateOfDays (tokens.accessExpiresAt / day)).year ≤ 9999)
    (hidle : 0 ≤ tokens.refreshIdleExpiresAt ∧
      (dateOfDays (tokens.refreshIdleExpiresAt / day)).year ≤ 9999)
    (habsolute : 0 ≤ tokens.refreshAbsoluteExpiresAt ∧
      (dateOfDays (tokens.refreshAbsoluteExpiresAt / day)).year ≤ 9999) :
    ∃ body, encodeSessionTokens P tokens = some body ∧ body.length ≤ maximumPrivateReplayBytes := by
  have hlength := marshal_strings_length_le
    [(ascii "access_token", encodeOpaqueToken tokens.accessToken),
     (ascii "access_expires_at", P.timeFormat tokens.accessExpiresAt),
     (ascii "refresh_token", encodeOpaqueToken tokens.refreshToken),
     (ascii "refresh_idle_expires_at", P.timeFormat tokens.refreshIdleExpiresAt),
     (ascii "refresh_absolute_expires_at", P.timeFormat tokens.refreshAbsoluteExpiresAt)]
  have htoken (token : Octets 32) : (encodeOpaqueToken token).length = 43 := by
    rw [encodeOpaqueToken, Base64Url.encode_length, token.2]
  have h1 := hP.format_length _ haccess.1 haccess.2
  have h2 := hP.format_length _ hidle.1 hidle.2
  have h3 := hP.format_length _ habsolute.1 habsolute.2
  have hshort : (marshal ((Json.Tree.obj
      [(ascii "access_token", .str (encodeOpaqueToken tokens.accessToken)),
       (ascii "access_expires_at", .str (P.timeFormat tokens.accessExpiresAt)),
       (ascii "refresh_token", .str (encodeOpaqueToken tokens.refreshToken)),
       (ascii "refresh_idle_expires_at", .str (P.timeFormat tokens.refreshIdleExpiresAt)),
       (ascii "refresh_absolute_expires_at",
        .str (P.timeFormat tokens.refreshAbsoluteExpiresAt))]).map quote)).length ≤
      maximumPrivateReplayBytes := by
    refine hlength.trans ?_
    simp only [List.map_cons, List.map_nil, List.sum_cons, List.sum_nil, htoken]
    have hnames : (ascii "access_token").length = 12 ∧ (ascii "access_expires_at").length = 17 ∧
        (ascii "refresh_token").length = 13 ∧ (ascii "refresh_idle_expires_at").length = 23 ∧
        (ascii "refresh_absolute_expires_at").length = 27 := by decide
    simp only [hnames, maximumPrivateReplayBytes]
    omega
  refine ⟨_, ?_, hshort⟩
  simp only [encodeSessionTokens, hshort, guard, if_true]
  rfl

/-! ## The operations of the transactions -/

/-- The operations that the transactions of the identity service consist of. -/
inductive IdentityOp : Op → Prop where
  | record {o : Op} (h : RecordOp o) : IdentityOp o
  | clock : IdentityOp .clock
  | random (n : ℕ) : IdentityOp (.random n)
  | newUUID : IdentityOp .newUUID
  | get (k : Key) : IdentityOp (.statement (.get k))
  | lock (k : Key) : IdentityOp (.statement (.lock k))
  | scan : IdentityOp (.statement .scan)
  | insertSession {id : UUID} {row : AccountSessionRow} (hstate : row.state = .active) :
      IdentityOp (.statement (.insert (.accountSession id) row))
  | insertToken {hash : Bytes} {row : AccountRefreshTokenRow} (hstate : row.state = .active) :
      IdentityOp (.statement (.insert (.accountRefreshToken hash) row))
  | insertEvent (id : UUID) (row : SecurityEventRow) :
      IdentityOp (.statement (.insert (.securityEvent id) row))
  | markUsed (hash : Bytes) (t : Instant) :
      IdentityOp (.statement (.update (.accountRefreshToken hash) (markUsed t)))
  | revokeToken (hash : Bytes) (t : Instant) :
      IdentityOp (.statement (.update (.accountRefreshToken hash) (revokeToken t)))
  | endSession (id : UUID) {state : SessionState} (hstate : state = .revoked ∨ state = .compromised) :
      IdentityOp (.statement (.update (.accountSession id) (endSession state)))
  | reviewSession (id : UUID) : IdentityOp (.statement (.update (.accountSession id) reviewSession))
  | rotateAccess (id : UUID) (hash : Bytes) (expiresAt t : Instant) :
      IdentityOp (.statement (.update (.accountSession id) (rotateAccess hash expiresAt t)))
  | updateCredential (id : UUID) (f : PasswordCredentialRow → Option PasswordCredentialRow) :
      IdentityOp (.statement (.update (.passwordCredential id) f))
  | updatePasskey (id : Bytes) (f : PasskeyRow → Option PasskeyRow) :
      IdentityOp (.statement (.update (.passkey id) f))
  | removeCode (id : UUID) (digest : Bytes) :
      IdentityOp (.statement (.update (.recoveryCodeSet id) (removeCode digest)))

theorem IdentityOp.unending {o : Op} (h : IdentityOp o) : Unending o := by
  cases h with
  | record h => exact h.unending
  | _ => simp [Unending]

section Performs

variable {service : Service} {principalID : UUID}

theorem performs_getActiveRecoveryCodeSetForUpdate :
    Performs IdentityOp (getActiveRecoveryCodeSetForUpdate P principalID : Body P κ _).run := by
  refine performs_run_bind (performs_ask .scan) fun snapshot => ?_
  exact performs_run_bind (performs_lockEach (fun _ => .lock _) _) fun _ => performs_run_pure

theorem performs_newSessionTokensUntil {now : Instant} {deadline : Option Instant} :
    Performs IdentityOp (newSessionTokensUntil P now deadline : Body P κ _).run := by
  refine performs_run_ofExcept_bind fun _ => ?_
  refine performs_run_bind (performs_newOpaqueToken (.random 32)) fun _ => ?_
  refine performs_run_bind (performs_newOpaqueToken (.random 32)) fun _ => ?_
  refine performs_run_bind (performs_newID .newUUID) fun _ => ?_
  exact performs_run_ofExcept_bind fun _ => performs_run_pure

theorem performs_storeSession {key : Octets 32} {now : Instant} {sessionID : UUID}
    {tokens : SessionTokens} :
    Performs IdentityOp (storeSession P principalID key now sessionID tokens : Body P κ _).run :=
  performs_run_bind (performs_insertRow (.insertSession rfl)) fun _ =>
    performs_insertRow (.insertToken rfl)

theorem performs_issueAccountSessionUntil {key : Octets 32} {now : Instant}
    {deadline : Option Instant} :
    Performs IdentityOp (issueAccountSessionUntil P principalID key now deadline : Body P κ _).run := by
  refine performs_run_ofExcept_bind fun _ => ?_
  refine performs_run_bind performs_newSessionTokensUntil fun issued => ?_
  exact performs_run_bind performs_storeSession fun _ => performs_run_pure

theorem performs_completeWithTokens {record : Record} {tokens : SessionTokens} :
    Performs IdentityOp (completeWithTokens P record tokens : Body P κ _).run :=
  performs_run_ofExcept_bind fun _ =>
    performs_run_bind (performs_completeIdempotency fun _ => .record) fun _ => performs_run_pure

theorem performs_consumeRecoveryCodeTransaction {command : ConsumeRecoveryCodeCommand}
    {email digest canonical : Bytes} {now : Instant} :
    Performs IdentityOp
      (consumeRecoveryCodeTransaction P service command email digest canonical now).run := by
  refine performs_run_ofExcept_bind fun _ => ?_
  refine performs_run_bind (performs_ask (.get _)) fun _ => ?_
  refine performs_run_bind performs_getActiveRecoveryCodeSetForUpdate fun _ => ?_
  refine performs_run_bind (performs_ask (.lock _)) fun _ => ?_
  refine performs_run_ofExcept_bind fun _ => ?_
  refine performs_run_bind (performs_beginIdempotency fun _ => .record) fun begun => ?_
  obtain ⟨record, outcome⟩ := begun
  cases outcome with
  | started =>
    refine performs_run_ofExcept_bind fun set => ?_
    refine performs_run_bind (performs_ask (.removeCode _ _)) fun _ => ?_
    refine performs_run_ofExcept_bind fun _ => performs_run_ofExcept_bind fun _ => ?_
    exact performs_run_bind performs_issueAccountSessionUntil fun _ => performs_completeWithTokens
  | _ => exact performs_run_ofExcept

end Performs

/-! ## Healthy services -/

/-- The services answer, and what they answer can be used. -/
structure Serving (environment : Environment P) (protector : Protector environment) : Prop where
  reliable : Reliable environment
  protector : protector.Reliable
  clock : ∀ s r, environment s .clock r → validClock r.instant = true
  random : ∀ s n, ¬ environment s (.random n) none
  newUUID : ∀ s id, environment s .newUUID id → id ≠ UUID.zero
  allow : ∀ s limit r, environment s (.allow limit) r → r = some true

/-- The tokens and the identifier that can be drawn in a state are not in use there. -/
structure Uncollided (environment : Environment P) (s : Backend) : Prop where
  access : ∀ token, AnswersAt environment s (.random 32) (some token) →
    digestToken .accountAccess token ≠ zeroDigest
  refresh : ∀ token, AnswersAt environment s (.random 32) (some token) →
    digestToken .accountRefresh token ≠ zeroDigest ∧
      s.database.committed (.accountRefreshToken (digestToken .accountRefresh token)) = none
  session : ∀ id, AnswersAt environment s .newUUID id →
    s.database.committed (.accountSession id) = none

/-! ## Issuing a session -/

/-- The row of a new session. -/
def issuedSession (principalID : UUID) (key : Octets 32) (tokens : SessionTokens) :
    AccountSessionRow :=
  { principalID := principalID
    state := .active
    stateVersion := 1
    clientSigningPublicKey := key.1
    accessTokenHash := digestToken .accountAccess tokens.accessToken
    accessExpiresAt := timestamptz tokens.accessExpiresAt
    absoluteExpiresAt := timestamptz tokens.refreshAbsoluteExpiresAt
    deviceAuthorizationID := none }

/-- The row of the first refresh token of a session. -/
def issuedToken (sessionID : UUID) (now : Instant) (tokens : SessionTokens) :
    AccountRefreshTokenRow :=
  { sessionID := sessionID
    previousTokenHash := none
    state := .active
    issuedAt := timestamptz now
    idleExpiresAt := timestamptz tokens.refreshIdleExpiresAt
    absoluteExpiresAt := timestamptz tokens.refreshAbsoluteExpiresAt
    usedAt := none
    revokedAt := none }

/-- The times of the tokens of an account that has no deadline. -/
structure Undated (now : Instant) (tokens : SessionTokens) : Prop where
  access : tokens.accessExpiresAt = now + accountAccessTTL
  idle : tokens.refreshIdleExpiresAt = now + accountRefreshIdleTTL
  absolute : tokens.refreshAbsoluteExpiresAt = now + accountRefreshAbsoluteTTL

theorem wp_issueAccountSessionUntil {protector : Protector environment}
    (hserving : Serving environment protector) (huncollided : Uncollided environment start)
    {principalID : UUID} {key : Octets 32} {now : Instant} (hprincipal : principalID ≠ UUID.zero)
    (hkey : key.1 ≠ zeroDigest) (hnow : now ≠ 0)
    (hsession : ∀ id, start.database.committed (.accountSession id) = none →
      x.view (.accountSession id) = none)
    (htoken : ∀ hash, start.database.committed (.accountRefreshToken hash) = none →
      x.view (.accountRefreshToken hash) = none)
    {post : Except (Failure κ) SessionTokens → Inside Key Row → Prop}
    (h : ∀ sessionID tokens, Undated now tokens →
      start.database.committed (.accountSession sessionID) = none →
      post (.ok tokens) ((x.write (.accountSession sessionID)
        (issuedSession principalID key tokens)).write
        (.accountRefreshToken (digestToken .accountRefresh tokens.refreshToken))
        (issuedToken sessionID now tokens))) :
    Wp (alone environment start) (issueAccountSessionUntil P principalID key now none :
      Body P κ _).run x post := by
  refine wp_require ⟨hprincipal, hkey, hnow⟩ ?_
  refine wp_run_bind.mpr (wp_require (by rintro d ⟨⟩) ?_)
  refine wp_run_bind.mpr (wp_newOpaqueToken hserving.reliable hserving.random fun access haccess => ?_)
  refine wp_run_bind.mpr
    (wp_newOpaqueToken hserving.reliable hserving.random fun refresh hrefresh => ?_)
  refine wp_run_bind.mpr (wp_newID hserving.reliable hserving.newUUID fun sessionID hid _ => ?_)
  obtain ⟨hrefreshDigest, hrefreshFree⟩ := huncollided.refresh refresh hrefresh
  refine wp_require ⟨huncollided.access access haccess, hrefreshDigest⟩ ?_
  have hsessionFree := huncollided.session sessionID hid
  have hdigest (domain : TokenDomain) (token : Octets 32) : (digestToken domain token).length = 32 :=
    Sha256.sha256_length _
  refine wp_run_bind.mpr (wp_run_bind.mpr
    (wp_insertRow hserving.reliable (hsession sessionID hsessionFree) ?_ ?_))
  · simp [constraints, hdigest, key.2]
  refine wp_insertRow hserving.reliable ?_ ?_ ?_
  · rw [Inside.view_write_of_ne (by simp)]
    exact htoken _ hrefreshFree
  · simp [constraints, hdigest]
  · exact h sessionID _ ⟨rfl, rfl, rfl⟩ hsessionFree

theorem Undated.exists_encode (hP : P.Times) {now : Instant} (hnow : validClock now = true)
    {tokens : SessionTokens} (h : Undated now tokens) :
    ∃ body, encodeSessionTokens P tokens = some body ∧ body.length ≤ maximumPrivateReplayBytes := by
  apply exists_encodeSessionTokens hP
  · rw [h.access]
    exact four_digit_year hnow (by decide) (by decide)
  · rw [h.idle]
    exact four_digit_year hnow (by decide) (by decide)
  · rw [h.absolute]
    exact four_digit_year hnow (by decide) (by decide)

theorem wp_completeWithTokens (hP : P.Times) {protector : Protector environment}
    (hserving : Serving environment protector) {scope : Scope} {keyHash digest : Bytes}
    {createdAt expiresAt : Instant} (hnow : validClock createdAt = true) {tokens : SessionTokens}
    (htokens : Undated createdAt tokens)
    (hrecord : validInternalRecord (freshRecord scope keyHash digest createdAt expiresAt) = true)
    (hrow : validRow (freshRow digest createdAt expiresAt) = true) (hhash : keyHash.length = 32)
    (hview : x.view (.idempotency scope keyHash) = some (freshRow digest createdAt expiresAt))
    {post : Except (Failure κ) SessionTokens → Inside Key Row → Prop}
    (h : ∀ row, post (.ok tokens) (x.write (.idempotency scope keyHash) row)) :
    Wp (alone environment start) (completeWithTokens P
      (freshRecord scope keyHash digest createdAt expiresAt) tokens : Body P κ _).run x post := by
  obtain ⟨body, hencode, hlength⟩ := htokens.exists_encode hP hnow
  refine wp_orThrow hencode ?_
  refine wp_run_bind.mpr (wp_run_mapError.mpr (wp_completeRecord hserving.reliable protector
    hserving.protector hrecord hrow hhash (by decide) (hlength.trans (by decide)) hview
    fun field _ => ?_))
  exact h _

/-! ## Steps outside a transaction -/

section Outside

variable {s : Backend} {pid : Pid} {protector : Protector environment}

theorem wp_exec_now (hserving : Serving environment protector) {ε : Type} {e : ε}
    {post : Except ε Instant → Backend → Prop} (h : ∀ t, validClock t = true → post (.ok t) s) :
    Wp (exec environment pid) (now P e).run s post := by
  obtain ⟨time, htime⟩ := hserving.reliable.total s .clock (by simp)
  refine ⟨⟨time, s, htime, rfl⟩, ?_⟩
  rintro r t ⟨hr, ht⟩
  subst t
  have hvalid := hserving.clock s r hr
  exact wp_require hvalid (h r.instant hvalid)

theorem wp_allowLogin (hserving : Serving environment protector) {email : Bytes}
    {post : Except ApiError Unit → Backend → Prop} (h : post (.ok ()) s) :
    Wp (exec environment pid) (allowLogin P email).run s post := by
  obtain ⟨answer, hanswer⟩ := hserving.reliable.total s (.allow (.login email))
    (by simp)
  refine ⟨⟨answer, s, hanswer, rfl⟩, ?_⟩
  rintro r t ⟨hr, ht⟩
  subst t
  obtain rfl := hserving.allow s _ r hr
  exact h

/-- What the body of a transaction has to establish, so that the transaction establishes
`post`: a failure leaves the committed rows as they were. -/
def Concludes {α : Type} (post : Except ApiError α → Rows → Prop) (c : Rows) :
    Except (Failure Empty) α → Inside Key Row → Prop
  | .ok a, y => post (.ok a) y.view
  | .error e, _ => post (.error (mapApplicationError e)) c

/-- A transaction of a call that is alone. -/
theorem wp_transaction {α : Type} (hreliable : Reliable environment) {body : Body P Empty α}
    (hp : Performs IdentityOp body.run) (hrest : AtRest s)
    {post : Except ApiError α → Rows → Prop}
    (h : Wp (alone environment s) body.run (Inside.start s.database.committed)
      (Concludes post s.database.committed)) :
    Wp (exec environment pid) (transaction P body).run s fun r t =>
      AtRest t ∧ post r t.database.committed := by
  refine wp_run_mapError.mpr
    ((wp_withinTransaction hreliable (hp.mono fun _ => IdentityOp.unending) hrest h).mono ?_)
  rintro r t ⟨ht, y, hy, hcommitted⟩
  refine ⟨ht, ?_⟩
  cases r with
  | ok a =>
    rw [hcommitted]
    exact hy
  | error e =>
    rw [hcommitted]
    exact hy

end Outside

/-! ## Steady services -/

/-- A platform that writes times as numbers and identifiers as they are. -/
def steadyPlatform : Platform where
  PrivateKey := Unit
  Sender := Unit
  jcsTransform _ := none
  uuidParse b := if h : b.length = 16 then some ⟨b, h⟩ else none
  uuidString id := id.1
  ed25519Verify _ _ _ := true
  x25519PublicKey _ := none
  hpkeNewSender _ _ _ := none
  hpkeSeal _ _ _ := none
  hpkeOpen _ _ _ _ _ := none
  timeFormat t := Decimal.format t.toNat
  timeParse b := some (Decimal.value b)

theorem steadyPlatform_times : steadyPlatform.Times where
  format_ascii t _ _ c hc := Decimal.isDigit_ascii (Decimal.format_digits _ c hc)
  format_length t hlow hyear := by
    apply Decimal.format_length_le (by decide)
    obtain ⟨y, doy, hsum, hdoy, hy⟩ := dateOfDays_year (t / day)
    simp only [daysBeforeMarch, marchOffset] at hsum
    have hday : (day : ℤ) = 86400000000000 := rfl
    rw [hday] at hsum hyear hy
    have hlarge : (t : ℤ) < 10 ^ 30 := by omega
    exact (Int.toNat_lt hlow).mpr hlarge
  parse_format t hlow _ := by
    show some ((Decimal.value (Decimal.format t.toNat) : ℕ) : ℤ) = some t
    rw [Decimal.value_format, Int.toNat_of_nonneg hlow]

/-- Services that never fail and always answer alike; the time is one of the year 2024. -/
def steadyEnvironment : Environment steadyPlatform := fun s o =>
  match o with
  | .statement _ => fun _ => False
  | .contextError => fun r => r = false
  | .encrypt _ plaintext => fun r => r = some ⟨1, plaintext ++ List.replicate 28 0⟩
  | .decrypt _ field => fun r => r = some (field.ciphertext.take (field.ciphertext.length - 28))
  | .clock => fun r => r = ⟨738900 * day, true⟩
  | .random n => fun r => r = some (Octets.replicate n 1)
  | .signerKeyID => fun r => r = []
  | .sign _ => fun r => r = .error .closed
  | .newSender _ _ => fun r => r = none
  | .authorizeBundle _ => fun r => r = .error .authenticationFailed
  | .currentTestConfig => fun r => r = none
  | .newUUID => fun r => r = Octets.replicate 16 1
  | .allow _ => fun r => r = some true
  | .setChallenge key _ => fun r => r = some (decide (s.challenges key = none))
  | .takeChallenge key => fun r => r = some (s.challenges key)

/-- The protector of the environment. -/
def steadyProtector : Protector steadyEnvironment where
  unprotect _ field := some (field.ciphertext.take (field.ciphertext.length - 28))
  encrypted := by
    rintro s domain plaintext field h
    obtain rfl := Option.some.inj h
    simp
  decrypted _ _ _ _ h := h.symm

theorem steadyEnvironment_serving : Serving steadyEnvironment steadyProtector where
  reliable :=
    { statement := fun _ _ h => h
      context := fun _ _ h => h
      total := by
        intro s o ho
        cases o with
        | statement q => exact absurd rfl (ho q)
        | _ => exact ⟨_, rfl⟩
      setChallenge := fun _ _ _ => rfl
      takeChallenge := fun _ _ => rfl }
  protector := ⟨fun _ _ _ h => (nomatch h), fun _ _ _ h => (nomatch h)⟩
  clock := by
    rintro s r rfl
    decide
  random _ _ h := nomatch h
  newUUID := by
    rintro s id rfl
    decide
  allow _ _ _ h := h

/-- The tokens of the environment collide with no others in a database that does not hold
them. -/
theorem steadyEnvironment_uncollided {s : Backend}
    (htoken : s.database.committed (.accountRefreshToken
      (digestToken .accountRefresh (Octets.replicate 32 1))) = none)
    (hsession : s.database.committed (.accountSession (Octets.replicate 16 1)) = none) :
    Uncollided steadyEnvironment s where
  access := by
    rintro token ⟨_, -, htoken⟩
    obtain rfl := Option.some.inj htoken
    decide +kernel
  refresh := by
    rintro token ⟨_, -, hanswer⟩
    obtain rfl := Option.some.inj hanswer
    exact ⟨by decide +kernel, htoken⟩
  session := by
    rintro id ⟨_, -, rfl⟩
    exact hsession

/-- A service whose digests and derivations are constant. -/
def steadyService : Service where
  lookupDigest _ _ := Octets.replicate 32 1
  derive _ _ _ := List.replicate 32 1
  emailVerification := .disabled
  publicBaseURL := ascii "https://talenro"
  publicBaseURL_ne := by decide

end Talenro.Analysis
