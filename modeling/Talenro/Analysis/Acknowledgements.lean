import Talenro.Analysis.PlainPlatform
import Talenro.Analysis.Records
import Talenro.Model.Trust.Application

/-!
# Acknowledging a bundle

`Acknowledge` inserts a row for the bundle and appends a `BundleAcknowledged`
event.  The row is inserted only once, since the insert passes over a row that is
there; the event is appended whenever the call is not the replay of an earlier one.
`acknowledge_ok` says all that a successful call does to the tables.  A call
appends an event without inserting the row exactly when the row is there and the
idempotency key is new (`announced_iff`); in a sequence of calls without such a
call, each bundle has one event for its row (`announced_of_acknowledges`).
-/

set_option autoImplicit false

namespace Talenro.Analysis

open Lib Lib.Calendar Prog RowStore Idempotency

variable {P : Platform} {environment : Environment P} {pid : Pid} {start s t : Backend}
  {x y : Inside Key Row} {command : Trust.AcknowledgeCommand}

/-! ## What a call does inside its transaction -/

/-- The scope of the records of `Acknowledge`. -/
def acknowledgeScope (authorizationID : UUID) : Scope :=
  ⟨.authenticated authorizationID .device, .acknowledgeBundle⟩

/-- A statement that was answered. -/
theorem query_alone {q : Statement Key Row} {a : q.Answer}
    (h : Runs (alone environment start) (Trust.query P q).run x (.ok a) y) :
    Inside.Answers q x a y := by
  obtain ⟨answer, z, hdoes, hanswer⟩ := runs_run_perform_bind_ok.mp h
  obtain ⟨ha, rfl⟩ := runs_run_ofExcept.mp hanswer
  obtain rfl := orThrow_eq_ok.mp ha.symm
  exact hdoes.1

/-- The bundle that is found, and no row is changed. -/
theorem bundleByID_alone {bundleID : UUID} {found : Option Trust.StoredBundle}
    (h : Runs (alone environment start) (Trust.bundleByID P bundleID).run x (.ok found) y) :
    y = x ∧ ∀ bundle ∈ found, bundle.id = bundleID := by
  obtain ⟨_, -, h1⟩ := runs_run_ofExcept_bind_ok.mp h
  obtain ⟨row, z, hquery, h2⟩ := runs_run_bind_ok.mp h1
  obtain ⟨-, rfl⟩ := query_alone hquery
  cases row with
  | none =>
    obtain ⟨rfl, rfl⟩ := runs_run_pure_ok.mp h2
    exact ⟨rfl, by simp⟩
  | some row =>
    obtain ⟨bundle, w, hstored, h3⟩ := runs_run_bind_ok.mp h2
    obtain ⟨rfl, rfl⟩ := runs_run_pure_ok.mp h3
    simp only [Trust.storedBundleFromRow, runs_run_perform_bind_ok, runs_run_ofExcept_bind_ok,
      alone, runs_run_pure_ok] at hstored
    obtain ⟨_, -, _, _, ⟨-, rfl⟩, _, -, _, -, rfl, rfl⟩ := hstored
    exact ⟨rfl, by simp⟩

/-- The acknowledgement row is there afterwards. -/
theorem insertAcknowledgement_alone {bundle : Trust.StoredBundle} {now : Instant}
    (h : Runs (alone environment start) (Trust.insertAcknowledgement P bundle now).run x (.ok ())
      y) :
    y.view (.bundleAcknowledgement bundle.id bundle.authorizationID) ≠ none ∧
      ∀ k, k ≠ .bundleAcknowledgement bundle.id bundle.authorizationID → y.view k = x.view k := by
  obtain ⟨_, -, h1⟩ := runs_run_ofExcept_bind_ok.mp h
  obtain ⟨free, z, hquery, h2⟩ := runs_run_bind_ok.mp h1
  obtain ⟨-, rfl⟩ := runs_run_pure_ok.mp h2
  rcases query_alone hquery with ⟨-, hsome, rfl⟩ | ⟨-, hnone, rfl⟩
  · exact ⟨hsome, fun _ _ => rfl⟩
  · refine ⟨?_, fun k hk => Inside.view_write_of_ne hk⟩
    rw [Inside.view_write_self]
    exact Option.some_ne_none _

/-- An event is appended under an identifier that is new. -/
theorem appendEvent_alone {event : EventEnvelope}
    (h : Runs (alone environment start) (Trust.appendEvent P event).run x (.ok ()) y) :
    x.view (.outbox event.eventID) = none ∧ y = x.write (.outbox event.eventID) event := by
  obtain ⟨_, _, ⟨-, rfl⟩, h1⟩ := runs_run_perform_bind_ok.mp h
  obtain ⟨_, -, h2⟩ := runs_run_ofExcept_bind_ok.mp h1
  obtain ⟨free, z, hquery, h3⟩ := runs_run_bind_ok.mp h2
  obtain ⟨hfree, rfl⟩ := runs_run_ofExcept.mp h3
  obtain rfl := require_eq_ok.mp hfree.symm
  rcases query_alone hquery with ⟨hfalse, -⟩ | ⟨-, hnone, rfl⟩
  · cases hfalse
  · exact ⟨hnone, rfl⟩

/-- What a call that is not a replay does to the tables: it records its key, it leaves a row for
the bundle, and it appends an event. -/
structure Announces (command : Trust.AcknowledgeCommand) (keyHash : Bytes) (c d : Rows) : Prop where
  unrecorded : c (.idempotency (acknowledgeScope command.authorizationID) keyHash) = none
  acknowledged : d (.bundleAcknowledgement command.bundleID command.authorizationID) ≠ none
  event : ∃ event, c (.outbox event.eventID) = none ∧ d (.outbox event.eventID) = some event ∧
    event.payload = .bundleAcknowledged command.authorizationID command.bundleID
      command.bundleVersion ∧ ∀ id, id ≠ event.eventID → d (.outbox id) = c (.outbox id)
  others : ∀ bundleID authorizationID,
    (bundleID, authorizationID) ≠ (command.bundleID, command.authorizationID) →
    d (.bundleAcknowledgement bundleID authorizationID) =
      c (.bundleAcknowledgement bundleID authorizationID)

theorem authenticatedScope_eq {id : UUID} {domain : CredentialDomain} {operation : Operation}
    {scope : Scope} (h : authenticatedScope id domain operation = some scope) :
    scope = ⟨.authenticated id domain, operation⟩ := by
  simp only [authenticatedScope, Option.bind_eq_bind, Option.bind_eq_some_iff, Option.pure_def,
    Option.some.injEq] at h
  obtain ⟨_, -, rfl⟩ := h
  rfl

/-- The writes of a call that is not a replay. -/
theorem announces_of_writes {keyHash : Bytes} {fresh completed : IdempotencyRow}
    {z : Inside Key Row} {event : EventEnvelope}
    (hnone : x.view (.idempotency (acknowledgeScope command.authorizationID) keyHash) = none)
    (hrow : z.view (.bundleAcknowledgement command.bundleID command.authorizationID) ≠ none)
    (hothers : ∀ k, k ≠ .bundleAcknowledgement command.bundleID command.authorizationID →
      z.view k =
        (x.write (.idempotency (acknowledgeScope command.authorizationID) keyHash) fresh).view k)
    (hfresh : z.view (.outbox event.eventID) = none)
    (hpayload : event.payload = .bundleAcknowledged command.authorizationID command.bundleID
      command.bundleVersion) :
    Announces command keyHash x.view ((z.write (.outbox event.eventID) event).write
      (.idempotency (acknowledgeScope command.authorizationID) keyHash) completed).view := by
  have hevents : ∀ id, z.view (.outbox id) = x.view (.outbox id) := by
    intro id
    rw [hothers _ (by simp), Inside.view_write_of_ne (by simp)]
  refine ⟨hnone, ?_, ⟨event, ?_, ?_, hpayload, ?_⟩, ?_⟩
  · rwa [Inside.view_write_of_ne (by simp), Inside.view_write_of_ne (by simp)]
  · rw [← hevents]
    exact hfresh
  · rw [Inside.view_write_of_ne (by simp), Inside.view_write_self]
  · intro id hid
    rw [Inside.view_write_of_ne (by simp), Inside.view_write_of_ne (by simpa using hid), hevents]
  · intro bundleID authorizationID hne
    have hkey : Key.bundleAcknowledgement bundleID authorizationID ≠
        .bundleAcknowledgement command.bundleID command.authorizationID := by
      intro heq
      obtain ⟨rfl, rfl⟩ := Key.bundleAcknowledgement.inj heq
      exact hne rfl
    rw [Inside.view_write_of_ne (by simp), Inside.view_write_of_ne (by simp), hothers _ hkey,
      Inside.view_write_of_ne (by simp)]

/-- A successful run of the transaction's body: a replay, which changes nothing, or else. -/
theorem acknowledgeTransaction_alone {canonical : Bytes}
    (h : Runs (alone environment start) (Trust.acknowledgeTransaction P command canonical).run x
      (.ok ()) y) :
    ∃ keyHash, keyDigest command.idempotencyKey = some keyHash ∧
      ((x.view (.idempotency (acknowledgeScope command.authorizationID) keyHash) ≠ none ∧
          y.view = x.view) ∨ Announces command keyHash x.view y.view) := by
  obtain ⟨now, x₁, hnow, h1⟩ := runs_run_bind_ok.mp h
  simp only [Trust.serviceNow, runs_run_perform_bind_ok, runs_run_ofExcept_bind_ok, alone,
    runs_run_pure_ok] at hnow
  obtain ⟨_, _, ⟨-, rfl⟩, _, -, -, rfl⟩ := hnow
  obtain ⟨⟨record, outcome⟩, x₂, hbegin, h2⟩ := runs_run_bind_ok.mp h1
  obtain ⟨scope, hscope, hbegin⟩ := runs_run_ofExcept_bind_ok.mp hbegin
  obtain rfl := authenticatedScope_eq (orThrow_eq_ok.mp hscope)
  obtain ⟨keyHash, digest, hkey, hbegun⟩ := beginRecord_alone (runs_run_mapError_ok.mp hbegin)
  refine ⟨keyHash, hkey, ?_⟩
  rcases hbegun with ⟨rfl, hnone, rfl, rfl⟩ | ⟨hreplay, hsome, hview⟩
  · -- a new key: the row is inserted unless it is there, and the event is appended
    right
    dsimp only at h2
    obtain ⟨authority, x₃, hauthorize, h3⟩ := runs_run_bind_ok.mp h2
    simp only [Trust.authorize, runs_run_perform_bind_ok, runs_run_ofExcept_bind_ok, alone,
      runs_run_pure_ok] at hauthorize
    obtain ⟨_, _, ⟨-, rfl⟩, _, -, _, -, -, rfl⟩ := hauthorize
    obtain ⟨found, x₄, hfound, h4⟩ := runs_run_bind_ok.mp h3
    obtain ⟨rfl, hid⟩ := bundleByID_alone hfound
    obtain ⟨bundle, hbundle, h5⟩ := runs_run_ofExcept_bind_ok.mp h4
    obtain rfl := orThrow_eq_ok.mp hbundle
    obtain ⟨_, hmatches, h6⟩ := runs_run_ofExcept_bind_ok.mp h5
    obtain ⟨hauthorization, hversion⟩ := require_eq_ok.mp hmatches
    obtain ⟨_, x₅, hinsert, h7⟩ := runs_run_bind_ok.mp h6
    obtain ⟨eventID, x₆, hrandom, h8⟩ := runs_run_bind_ok.mp h7
    have hx₆ : x₆ = x₅ := by
      have hrandom := runs_run_mapError_ok.mp hrandom
      simp only [Trust.randomUUID, runs_run_perform_bind_ok, runs_run_ofExcept_bind_ok, alone,
        runs_run_pure_ok] at hrandom
      obtain ⟨_, _, ⟨-, rfl⟩, _, -, _, -, -, rfl⟩ := hrandom
      rfl
    subst hx₆
    obtain ⟨_, x₇, happend, h9⟩ := runs_run_bind_ok.mp h8
    obtain ⟨hfresh, rfl⟩ := appendEvent_alone happend
    obtain ⟨row, rfl⟩ := completeRecord_alone (runs_run_mapError_ok.mp h9)
    obtain ⟨hrow, hothers⟩ := insertAcknowledgement_alone hinsert
    rw [hid bundle rfl, hauthorization] at hrow hothers
    refine announces_of_writes hnone hrow hothers hfresh ?_
    simp only [hid bundle rfl, hauthorization, hversion]
  · left
    refine ⟨hsome, ?_⟩
    cases outcome with
    | started => exact absurd rfl hreplay
    | conflict | inProgress => cases (runs_run_throw.mp h2).1
    | replay status body =>
      obtain ⟨-, rfl⟩ := runs_run_ofExcept.mp h2
      exact hview

/-! ## What a successful call does -/

/-- The body of the transaction neither commits nor rolls back. -/
theorem performs_acknowledgeTransaction {canonical : Bytes} :
    Performs Unending (Trust.acknowledgeTransaction P command canonical).run := by
  have hquery : ∀ q : Statement Key Row, Unending (.statement q) →
      Performs Unending (Trust.query P q).run := fun q hq =>
    performs_run_perform_bind hq fun _ => performs_run_ofExcept
  refine performs_run_bind (performs_run_perform_bind trivial fun _ =>
    performs_run_ofExcept_bind fun _ => performs_run_pure) fun now => ?_
  refine performs_run_bind (performs_run_ofExcept_bind fun scope =>
    performs_run_mapError (performs_beginRecord.mono fun _ => RecordOp.unending)) ?_
  rintro ⟨record, outcome⟩
  cases outcome with
  | replay status body => exact performs_run_ofExcept
  | conflict => exact performs_run_throw
  | inProgress => exact performs_run_throw
  | started =>
    refine performs_run_bind (performs_run_perform_bind trivial fun _ =>
      performs_run_ofExcept_bind fun _ => performs_run_ofExcept_bind fun _ =>
        performs_run_pure) fun authority => ?_
    refine performs_run_bind (performs_run_ofExcept_bind fun _ =>
      performs_run_bind (hquery _ ⟨nofun, nofun⟩) fun found => ?_) fun found => ?_
    · cases found with
      | none => exact performs_run_pure
      | some row =>
        exact performs_run_bind (performs_run_ofExcept_bind fun _ =>
          performs_run_perform_bind trivial fun _ => performs_run_ofExcept_bind fun _ =>
            performs_run_ofExcept_bind fun _ => performs_run_pure) fun _ => performs_run_pure
    refine performs_run_ofExcept_bind fun bundle => performs_run_ofExcept_bind fun _ => ?_
    refine performs_run_bind (performs_run_ofExcept_bind fun _ =>
      performs_run_bind (hquery _ ⟨nofun, nofun⟩) fun _ => performs_run_pure) fun _ => ?_
    refine performs_run_bind (performs_run_mapError (performs_run_perform_bind trivial fun _ =>
      performs_run_ofExcept_bind fun _ => performs_run_ofExcept_bind fun _ =>
        performs_run_pure)) fun eventID => ?_
    refine performs_run_bind (performs_run_perform_bind trivial fun _ =>
      performs_run_ofExcept_bind fun _ => performs_run_bind (hquery _ ⟨nofun, nofun⟩) fun _ =>
        performs_run_ofExcept) fun _ => ?_
    exact performs_run_mapError (performs_completeRecord.mono fun _ => RecordOp.unending)

/-- All that a successful call does: nothing, when its key is recorded, and otherwise what
`Announces` says. -/
theorem acknowledge_ok (hrest : AtRest s)
    (h : Runs (exec environment pid) (Trust.acknowledge P command).run s (.ok ()) t) :
    AtRest t ∧ ∃ keyHash, keyDigest command.idempotencyKey = some keyHash ∧
      ((s.database.committed
            (.idempotency (acknowledgeScope command.authorizationID) keyHash) ≠ none ∧
          t.database.committed = s.database.committed) ∨
        Announces command keyHash s.database.committed t.database.committed) := by
  have h1 := runs_run_mapError_ok.mp h
  obtain ⟨canceled, u, ⟨-, hu⟩, h2⟩ := runs_run_perform_bind_ok.mp h1
  obtain rfl : u = s := hu
  obtain ⟨_, -, h3⟩ := runs_run_ofExcept_bind_ok.mp h2
  obtain ⟨canonical, -, h4⟩ := runs_run_ofExcept_bind_ok.mp h3
  obtain ⟨hrest', y, hruns, hcommitted⟩ :=
    runs_withinTransaction performs_acknowledgeTransaction hrest h4
  refine ⟨hrest', ?_⟩
  rw [hcommitted]
  exact acknowledgeTransaction_alone hruns

/-! ## The events of a bundle -/

/-- The events that announce the acknowledgement of a bundle. -/
def acknowledgementEvents (c : Rows) (bundleID authorizationID : UUID) : Set UUID :=
  {id | ∃ event version, c (.outbox id) = some event ∧
    event.payload = .bundleAcknowledged authorizationID bundleID version}

/-- Between two states of the tables one event was appended for the acknowledgement row if it was
inserted, and none otherwise. -/
structure AnnouncedOnce (bundleID authorizationID : UUID) (c d : Rows) : Prop where
  inserted : c (.bundleAcknowledgement bundleID authorizationID) = none →
    d (.bundleAcknowledgement bundleID authorizationID) ≠ none →
    ∃ id, id ∉ acknowledgementEvents c bundleID authorizationID ∧
      acknowledgementEvents d bundleID authorizationID =
        insert id (acknowledgementEvents c bundleID authorizationID)
  kept : ¬ (c (.bundleAcknowledgement bundleID authorizationID) = none ∧
      d (.bundleAcknowledgement bundleID authorizationID) ≠ none) →
    acknowledgementEvents d bundleID authorizationID =
      acknowledgementEvents c bundleID authorizationID

/-- The bundle is not acknowledged yet, or the key of the call is recorded. -/
def FirstOrReplay (c : Rows) (command : Trust.AcknowledgeCommand) : Prop :=
  c (.bundleAcknowledgement command.bundleID command.authorizationID) = none ∨
    ∃ keyHash, keyDigest command.idempotencyKey = some keyHash ∧
      c (.idempotency (acknowledgeScope command.authorizationID) keyHash) ≠ none

section Events

variable {c d : Rows} {keyHash : Bytes} {bundleID authorizationID : UUID}

theorem announcedOnce_refl (c : Rows) : AnnouncedOnce bundleID authorizationID c c where
  inserted hnone hsome := absurd hnone hsome
  kept _ := rfl

/-- A call that is not a replay adds one event to those of its bundle. -/
theorem Announces.events (h : Announces command keyHash c d) :
    ∃ id, id ∉ acknowledgementEvents c command.bundleID command.authorizationID ∧
      acknowledgementEvents d command.bundleID command.authorizationID =
        insert id (acknowledgementEvents c command.bundleID command.authorizationID) := by
  obtain ⟨event, hnew, hevent, hpayload, hothers⟩ := h.event
  refine ⟨event.eventID, ?_, ?_⟩
  · rintro ⟨old, version, hold, -⟩
    rw [hnew] at hold
    cases hold
  · ext id
    by_cases hid : id = event.eventID
    · subst hid
      exact ⟨fun _ => Or.inl rfl, fun _ => ⟨event, _, hevent, hpayload⟩⟩
    · simp only [acknowledgementEvents, Set.mem_insert_iff, Set.mem_ofPred_eq, hid, false_or,
        hothers id hid]

/-- It adds none to those of another. -/
theorem Announces.other_events (h : Announces command keyHash c d)
    (hne : (bundleID, authorizationID) ≠ (command.bundleID, command.authorizationID)) :
    acknowledgementEvents d bundleID authorizationID =
      acknowledgementEvents c bundleID authorizationID := by
  obtain ⟨event, hnew, hevent, hpayload, hothers⟩ := h.event
  ext id
  by_cases hid : id = event.eventID
  · subst hid
    constructor
    · rintro ⟨event', version, hevent', hpayload'⟩
      obtain rfl := Option.some.inj (hevent.symm.trans hevent')
      obtain ⟨rfl, rfl, -⟩ := EventPayload.bundleAcknowledged.inj (hpayload.symm.trans hpayload')
      exact absurd rfl hne
    · rintro ⟨old, version, hold, -⟩
      rw [hnew] at hold
      cases hold
  · simp only [acknowledgementEvents, Set.mem_ofPred_eq, hothers id hid]

/-- Such a call announces rows once exactly when it inserts the row of its bundle. -/
theorem Announces.announcedOnce_iff (h : Announces command keyHash c d) :
    (∀ bundleID authorizationID, AnnouncedOnce bundleID authorizationID c d) ↔
      c (.bundleAcknowledgement command.bundleID command.authorizationID) = none := by
  obtain ⟨id, hid, hevents⟩ := h.events
  constructor
  · intro honce
    by_contra hsome
    have hkept := (honce command.bundleID command.authorizationID).kept fun hnone => hsome hnone.1
    rw [hevents] at hkept
    exact hid (hkept ▸ Set.mem_insert id _)
  · intro hnone bundleID authorizationID
    by_cases heq : (bundleID, authorizationID) = (command.bundleID, command.authorizationID)
    · obtain ⟨rfl, rfl⟩ := Prod.mk.inj heq
      exact ⟨fun _ _ => ⟨id, hid, hevents⟩, fun hkept => absurd ⟨hnone, h.acknowledged⟩ hkept⟩
    · refine ⟨fun hnone' hsome' => ?_, fun _ => h.other_events heq⟩
      rw [h.others _ _ heq] at hsome'
      exact absurd hnone' hsome'

end Events

/-- A successful call announces rows once exactly when it is the first for its bundle or a
replay. -/
theorem announced_iff (hrest : AtRest s)
    (h : Runs (exec environment pid) (Trust.acknowledge P command).run s (.ok ()) t) :
    (∀ bundleID authorizationID,
        AnnouncedOnce bundleID authorizationID s.database.committed t.database.committed) ↔
      FirstOrReplay s.database.committed command := by
  obtain ⟨-, keyHash, hkey, ⟨hrecord, hsame⟩ | hannounces⟩ := acknowledge_ok hrest h
  · rw [hsame]
    exact ⟨fun _ => Or.inr ⟨keyHash, hkey, hrecord⟩, fun _ _ _ => announcedOnce_refl _⟩
  · rw [hannounces.announcedOnce_iff]
    refine ⟨Or.inl, ?_⟩
    rintro (hnone | ⟨keyHash', hkey', hrecord⟩)
    · exact hnone
    · obtain rfl := Option.some.inj (hkey.symm.trans hkey')
      exact absurd hannounces.unrecorded hrecord

/-! ## Sequences of calls -/

/-- One successful call after the other, each of them allowed by `allowed` when it begins. -/
inductive Acknowledges (P : Platform) (allowed : Rows → Trust.AcknowledgeCommand → Prop) :
    Backend → Backend → Prop where
  | none {s : Backend} : Acknowledges P allowed s s
  | call {s t u : Backend} {environment : Environment P} {pid : Pid}
      {command : Trust.AcknowledgeCommand} (hcalls : Acknowledges P allowed s t)
      (hallowed : allowed t.database.committed command)
      (hcall : Runs (exec environment pid) (Trust.acknowledge P command).run t (.ok ()) u) :
      Acknowledges P allowed s u

/-- An acknowledgement row stays. -/
theorem acknowledgement_kept (hrest : AtRest s)
    (h : Runs (exec environment pid) (Trust.acknowledge P command).run s (.ok ()) t)
    {bundleID authorizationID : UUID}
    (hrow : s.database.committed (.bundleAcknowledgement bundleID authorizationID) ≠ none) :
    t.database.committed (.bundleAcknowledgement bundleID authorizationID) ≠ none := by
  obtain ⟨-, keyHash, -, ⟨-, hsame⟩ | hannounces⟩ := acknowledge_ok hrest h
  · rwa [hsame]
  · by_cases heq : (bundleID, authorizationID) = (command.bundleID, command.authorizationID)
    · obtain ⟨rfl, rfl⟩ := Prod.mk.inj heq
      exact hannounces.acknowledged
    · rwa [hannounces.others _ _ heq]

/-- Rows that are announced once in each of two periods are announced once. -/
theorem AnnouncedOnce.trans {bundleID authorizationID : UUID} {c d e : Rows}
    (h : AnnouncedOnce bundleID authorizationID c d)
    (h' : AnnouncedOnce bundleID authorizationID d e)
    (hkept : d (.bundleAcknowledgement bundleID authorizationID) ≠ none →
      e (.bundleAcknowledgement bundleID authorizationID) ≠ none)
    (hkept' : c (.bundleAcknowledgement bundleID authorizationID) ≠ none →
      d (.bundleAcknowledgement bundleID authorizationID) ≠ none) :
    AnnouncedOnce bundleID authorizationID c e := by
  by_cases hd : d (.bundleAcknowledgement bundleID authorizationID) = none
  · have hsame := h.kept fun hboth => hboth.2 hd
    refine ⟨fun _ he => ?_, fun hboth => ?_⟩
    · rw [← hsame]
      exact h'.inserted hd he
    · rw [← hsame]
      refine h'.kept fun hinserted => hboth ⟨?_, hinserted.2⟩
      by_contra hc
      exact hkept' hc hd
  · have hsame := h'.kept fun hboth => hd hboth.1
    refine ⟨fun hc _ => ?_, fun hboth => ?_⟩
    · rw [hsame]
      exact h.inserted hc hd
    · rw [hsame]
      exact h.kept fun hinserted => hboth ⟨hinserted.1, hkept hd⟩

/-- In a sequence of calls that are first or replays, every row is announced once. -/
theorem announced_of_acknowledges (hrest : AtRest s) (h : Acknowledges P FirstOrReplay s t) :
    AtRest t ∧ ∀ bundleID authorizationID,
      AnnouncedOnce bundleID authorizationID s.database.committed t.database.committed ∧
      (s.database.committed (.bundleAcknowledgement bundleID authorizationID) ≠ none →
        t.database.committed (.bundleAcknowledgement bundleID authorizationID) ≠ none) := by
  induction h with
  | none => exact ⟨hrest, fun _ _ => ⟨announcedOnce_refl _, id⟩⟩
  | call hcalls hallowed hcall ih =>
    obtain ⟨hrest', honce⟩ := ih
    refine ⟨(acknowledge_ok hrest' hcall).1, fun bundleID authorizationID => ?_⟩
    obtain ⟨hbefore, hkept⟩ := honce bundleID authorizationID
    have hstep := (announced_iff hrest' hcall).mpr hallowed bundleID authorizationID
    exact ⟨hbefore.trans hstep (acknowledgement_kept hrest' hcall) hkept,
      fun hrow => acknowledgement_kept hrest' hcall (hkept hrow)⟩

/-- A successful call appends one event if it inserts the acknowledgement row of a bundle, and
none otherwise, exactly when it is the first for its bundle or a replay; over a sequence of
such calls every acknowledgement row that is inserted has one event. -/
theorem acknowledgements_announced_once (hrest : AtRest s) :
    (∀ (environment : Environment P) (pid : Pid) (command : Trust.AcknowledgeCommand) (t : Backend),
      Runs (exec environment pid) (Trust.acknowledge P command).run s (.ok ()) t →
      ((∀ bundleID authorizationID,
          AnnouncedOnce bundleID authorizationID s.database.committed t.database.committed) ↔
        FirstOrReplay s.database.committed command)) ∧
    ∀ t, Acknowledges P FirstOrReplay s t → ∀ bundleID authorizationID,
      AnnouncedOnce bundleID authorizationID s.database.committed t.database.committed := by
  refine ⟨fun _ _ _ _ => announced_iff hrest, fun t h bundleID authorizationID => ?_⟩
  exact ((announced_of_acknowledges hrest h).2 bundleID authorizationID).1

/-! ## Two calls for one bundle -/

/-- Services that authorise the device; the random octets are all `seed`. -/
def authorizedServices (seed : UInt8) : Environment plainPlatform := fun s o =>
  match o with
  | .authorizeBundle _ => fun r => r = .ok plainAuthority
  | .random n => fun r => r = some (Octets.replicate n seed)
  | o => plainServices s o

theorem authorizedServices_reliable (seed : UInt8) : Reliable (authorizedServices seed) where
  statement _ _ h := h
  context _ _ h := h
  total s o ho := by
    cases o with
    | statement q => exact absurd rfl (ho q)
    | _ => exact ⟨_, rfl⟩
  setChallenge _ _ _ := rfl
  takeChallenge _ _ := rfl

def authorizedProtector (seed : UInt8) : Protector (authorizedServices seed) where
  unprotect _ field := some (field.ciphertext.take (field.ciphertext.length - 28))
  encrypted := by
    rintro s domain plaintext field h
    obtain rfl := Option.some.inj h
    simp
  decrypted _ _ _ _ h := h.symm

theorem authorizedProtector_reliable (seed : UInt8) : (authorizedProtector seed).Reliable where
  encrypt _ _ _ h := nomatch h
  decrypt _ _ _ h := nomatch h

/-- A bundle that was issued to the device. -/
@[irreducible]
def plainIssuance : BundleIssuanceRow where
  authorizationID := Octets.replicate 16 2
  bundleVersion := 1
  locatorHash := Trust.locatorDigest (List.replicate 32 1)
  locator := ⟨1, List.replicate 32 1 ++ List.replicate 28 0⟩
  envelope := List.replicate 64 0
  envelopeSHA256 := Sha256.sha256 (List.replicate 64 0)
  signerKeyID := ascii "plain-signing-key"
  issuedAt := 738900 * day
  notBefore := 738900 * day
  expiresAt := 738901 * day

/-- The call that acknowledges it. -/
def plainAcknowledge (key : Bytes) : Trust.AcknowledgeCommand where
  authorizationID := Octets.replicate 16 2
  accessToken := ascii "token"
  bundleID := Octets.replicate 16 1
  bundleVersion := 1
  idempotencyKey := key

/-- The event a call appends. -/
def plainEvent (seed : UInt8) : EventEnvelope where
  eventID := Trust.uuidOfRandom (Octets.replicate 16 seed)
  occurredAt := 738900 * day
  aggregateID := Octets.replicate 16 1
  aggregateVersion := 1
  payload := .bundleAcknowledged (Octets.replicate 16 2) (Octets.replicate 16 1) 1

/-- The bundle in it. -/
def plainBundle : Trust.StoredBundle where
  id := Octets.replicate 16 1
  authorizationID := Octets.replicate 16 2
  bundleVersion := 1
  locator := List.replicate 32 1
  envelopeSHA256 := Sha256.sha256 (List.replicate 64 0)
  issuedAt := 738900 * day
  notBefore := 738900 * day
  expiresAt := 738901 * day

section Plain

variable {seed : UInt8} {keyHash digest canonical key : Bytes}

/-- The bundle is read from its row. -/
theorem wp_plainIssuance :
    Wp (alone (authorizedServices seed) start) (Trust.storedBundleFromRow plainPlatform
      (Octets.replicate 16 1) plainIssuance).run x fun r y => r = .ok plainBundle ∧ y = x := by
  unfold Trust.storedBundleFromRow
  have hvalid : Trust.validStoredRow (Octets.replicate 16 1) plainIssuance = true := by
    decide +kernel
  rw [require_of hvalid]
  have hopen : plainIssuance.locator.ciphertext.take
      (plainIssuance.locator.ciphertext.length - 28) = List.replicate 32 1 := by
    decide +kernel
  refine wp_alone_answer (o := .decrypt _ _) (authorizedServices_reliable seed) (by simp)
    (fun _ _ hr => Eq.trans hr (congrArg some hopen)) ?_
  have hread : (List.replicate 32 (1 : UInt8)).length = 32 ∧
      Trust.locatorDigest (List.replicate 32 1) = plainIssuance.locatorHash := by
    decide +kernel
  rw [orThrow_some, wp_run_ofExcept_bind_ok, require_of hread, wp_run_ofExcept_bind_ok,
    wp_run_pure]
  unfold plainIssuance
  exact ⟨rfl, rfl⟩

/-- The rows other than those a call writes. -/
def Untouched (keyHash : Bytes) (seed : UInt8) (k : Key) : Prop :=
  k ≠ .idempotency (acknowledgeScope (Octets.replicate 16 2)) keyHash ∧
    k ≠ .bundleAcknowledgement (Octets.replicate 16 1) (Octets.replicate 16 2) ∧
    k ≠ .outbox (plainEvent seed).eventID

/-- The bundle was issued, and the key and the identifier of the event are new. -/
structure FreshCall (keyHash : Bytes) (seed : UInt8) (c : Rows) : Prop where
  key : c (.idempotency (acknowledgeScope (Octets.replicate 16 2)) keyHash) = none
  bundle : c (.bundleIssuance (Octets.replicate 16 1)) = some plainIssuance
  event : c (.outbox (plainEvent seed).eventID) = none

/-- The event was appended, and the rows the call does not write are as they were. -/
structure Appended (keyHash : Bytes) (seed : UInt8) (c d : Rows) : Prop where
  event : d (.outbox (plainEvent seed).eventID) = some (plainEvent seed)
  others : ∀ k, Untouched keyHash seed k → d k = c k

/-- The insertion of the row, whether it is there or not. -/
theorem wp_insertAcknowledgement {bundle : Trust.StoredBundle} {now : Instant}
    (hvalid : bundle.id ≠ UUID.zero ∧ bundle.authorizationID ≠ UUID.zero ∧
      0 < bundle.bundleVersion ∧ bundle.bundleVersion ≤ maxInt64 ∧ now ≠ 0)
    {post : Except Trust.Error Unit → Inside Key Row → Prop}
    (h : ∀ y, (∀ k, k ≠ .bundleAcknowledgement bundle.id bundle.authorizationID →
      y.view k = x.view k) → post (.ok ()) y) :
    Wp (alone (authorizedServices seed) start)
      (Trust.insertAcknowledgement plainPlatform bundle now).run x post := by
  unfold Trust.insertAcknowledgement
  rw [require_of hvalid]
  have hcheck : constraints (.bundleAcknowledgement bundle.id bundle.authorizationID)
      (⟨bundle.bundleVersion, now⟩ : AcknowledgementRow) = true := decide_eq_true hvalid.2.2.1
  by_cases hrow : x.view (.bundleAcknowledgement bundle.id bundle.authorizationID) = none
  · refine wp_alone_statement (authorizedServices_reliable seed) (Inside.yields_insert hrow) hcheck
      (h _ fun k hk => ?_)
    exact Inside.view_write_of_ne hk
  · exact wp_alone_statement (authorizedServices_reliable seed) (Inside.yields_insert_taken hrow)
      hcheck (h _ fun _ _ => rfl)

theorem wp_serviceNow {post : Except Trust.Error Instant → Inside Key Row → Prop}
    (h : post (.ok (738900 * day)) x) :
    Wp (alone (authorizedServices seed) start) (Trust.serviceNow plainPlatform).run x post := by
  have hnow : (738900 * day : Instant) ≠ 0 := by decide +kernel
  have hwhole : (738900 * day - 738900 * day % second : Instant) = 738900 * day := by decide +kernel
  unfold Trust.serviceNow
  refine wp_alone_answer (o := .clock) (authorizedServices_reliable seed) (by simp)
    (fun _ _ hr => hr) ?_
  rw [require_of hnow, wp_run_ofExcept_bind_ok, wp_run_pure, hwhole]
  exact h

/-- The key is recorded. -/
theorem wp_beginAcknowledge (hdigest : requestDigest .acknowledgeBundle canonical = some digest)
    (hkey : keyDigest key = some keyHash)
    (hnone : x.view (.idempotency (acknowledgeScope (Octets.replicate 16 2)) keyHash) = none)
    {post : Except Trust.Error (Record × Outcome) → Inside Key Row → Prop}
    (h : post (.ok (freshRecord (acknowledgeScope (Octets.replicate 16 2)) keyHash digest
        (738900 * day) (738900 * day + Trust.bundleIdempotencyRetention), .started))
      (x.write (.idempotency (acknowledgeScope (Octets.replicate 16 2)) keyHash)
        (freshRow digest (738900 * day) (738900 * day + Trust.bundleIdempotencyRetention)))) :
    Wp (alone (authorizedServices seed) start)
      (Trust.beginTrustIdempotency plainPlatform (Octets.replicate 16 2) .acknowledgeBundle key
        canonical (738900 * day)).run x post := by
  have hscope : authenticatedScope (Octets.replicate 16 2) .device .acknowledgeBundle =
      some (acknowledgeScope (Octets.replicate 16 2)) := by decide +kernel
  have hvalid : validScope (acknowledgeScope (Octets.replicate 16 2)) = true ∧
      (738900 * day : Instant) ≠ 0 ∧
      738900 * day < 738900 * day + Trust.bundleIdempotencyRetention := by decide +kernel
  unfold Trust.beginTrustIdempotency
  rw [hscope, orThrow_some, wp_run_ofExcept_bind_ok, wp_run_mapError]
  exact wp_beginRecord_fresh (authorizedServices_reliable seed) hvalid hdigest hkey hnone h

/-- The device is authorised. -/
theorem wp_authorize {accessToken : Bytes}
    {post : Except Trust.Error BundleAuthority → Inside Key Row → Prop}
    (h : post (.ok plainAuthority) x) :
    Wp (alone (authorizedServices seed) start)
      (Trust.authorize plainPlatform (Octets.replicate 16 2) accessToken).run x post := by
  have hauthority : plainAuthority.authorizationID = Octets.replicate 16 2 ∧
      plainAuthority.principalID ≠ UUID.zero ∧ plainAuthority.deviceID ≠ UUID.zero ∧
      plainAuthority.hpkePublicKey.1 ≠ List.replicate 32 0 ∧ plainAuthority.deviceKeyVersion ≠ 0 ∧
      plainAuthority.policySchema = ascii "device-policy-v1" ∧
      Trust.validDevicePolicyV1 plainAuthority.policy := by decide +kernel
  unfold Trust.authorize
  refine wp_alone_answer (o := .authorizeBundle _) (authorizedServices_reliable seed) (by simp)
    (fun _ _ hr => hr) ?_
  rw [Except.mapError, wp_run_ofExcept_bind_ok, require_of hauthority, wp_run_ofExcept_bind_ok]
  exact h

/-- The bundle is found. -/
theorem wp_bundleByID (hrow : x.view (.bundleIssuance (Octets.replicate 16 1)) = some plainIssuance)
    {post : Except Trust.Error (Option Trust.StoredBundle) → Inside Key Row → Prop}
    (h : post (.ok (some plainBundle)) x) :
    Wp (alone (authorizedServices seed) start)
      (Trust.bundleByID plainPlatform (Octets.replicate 16 1)).run x post := by
  have hid : (Octets.replicate 16 1 : UUID) ≠ UUID.zero := by decide +kernel
  unfold Trust.bundleByID
  rw [require_of hid, wp_run_ofExcept_bind_ok]
  refine wp_run_bind.mpr (wp_alone_statement (authorizedServices_reliable seed)
    Inside.yields_get rfl ?_)
  rw [hrow, orThrow_some, wp_run_ofExcept]
  dsimp only
  rw [wp_run_bind]
  refine wp_plainIssuance.mono ?_
  rintro _ _ ⟨rfl, rfl⟩
  exact h

theorem wp_randomUUID (hid : (plainEvent seed).eventID ≠ UUID.zero)
    {post : Except Trust.Error UUID → Inside Key Row → Prop}
    (h : post (.ok (plainEvent seed).eventID) x) :
    Wp (alone (authorizedServices seed) start) (Trust.randomUUID plainPlatform).run x post := by
  unfold Trust.randomUUID
  refine wp_alone_answer (o := .random 16) (authorizedServices_reliable seed) (by simp)
    (fun _ _ hr => hr) ?_
  rw [orThrow_some, wp_run_ofExcept_bind_ok]
  dsimp only
  have hid : Trust.uuidOfRandom (Octets.replicate 16 seed) ≠ UUID.zero := hid
  rw [require_of hid, wp_run_ofExcept_bind_ok]
  exact h

/-- The event is appended. -/
theorem wp_appendEvent (hevent : Trust.validEvent (plainEvent seed) = true)
    (hfresh : x.view (.outbox (plainEvent seed).eventID) = none)
    {post : Except Trust.Error Unit → Inside Key Row → Prop}
    (h : post (.ok ()) (x.write (.outbox (plainEvent seed).eventID) (plainEvent seed))) :
    Wp (alone (authorizedServices seed) start)
      (Trust.appendEvent plainPlatform (plainEvent seed)).run x post := by
  have hreliable := authorizedServices_reliable seed
  unfold Trust.appendEvent
  apply wp_alone_context hreliable
  rw [require_of ⟨rfl, hevent⟩, wp_run_ofExcept_bind_ok]
  refine wp_run_bind.mpr (wp_alone_statement hreliable (Inside.yields_insert hfresh) rfl ?_)
  exact h

variable (hkey : keyDigest key = some keyHash) (hkey_ne : keyHash ≠ zeroDigest)
  (hevent : Trust.validEvent (plainEvent seed) = true)
  (hid : (plainEvent seed).eventID ≠ UUID.zero)

include hkey hkey_ne hevent hid

/-- A call under a new key and with a new event identifier succeeds. -/
theorem wp_plainAcknowledge (hdigest : requestDigest .acknowledgeBundle canonical = some digest)
    (hdigest_ne : digest ≠ zeroDigest) (hcall : FreshCall keyHash seed x.view) :
    Wp (alone (authorizedServices seed) start)
      (Trust.acknowledgeTransaction plainPlatform (plainAcknowledge key) canonical).run x
      fun r y => r = .ok () ∧ Appended keyHash seed x.view y.view := by
  have hreliable := authorizedServices_reliable seed
  unfold Trust.acknowledgeTransaction
  refine wp_run_bind.mpr (wp_serviceNow ?_)
  refine wp_run_bind.mpr (wp_beginAcknowledge hdigest hkey hcall.key ?_)
  dsimp only
  refine wp_run_bind.mpr (wp_authorize ?_)
  refine wp_run_bind.mpr (wp_bundleByID
    (by rw [Inside.view_write_of_ne (by simp), hcall.bundle]) ?_)
  dsimp only
  rw [orThrow_some, wp_run_ofExcept_bind_ok, require_of ⟨rfl, rfl⟩, wp_run_ofExcept_bind_ok]
  refine wp_run_bind.mpr (wp_insertAcknowledgement (by decide +kernel) fun y hy => ?_)
  refine wp_run_bind.mpr (wp_run_mapError.mpr (wp_randomUUID hid ?_))
  have hy_fresh : y.view (.outbox (plainEvent seed).eventID) = none := by
    rw [hy _ (by simp), Inside.view_write_of_ne (by simp), hcall.event]
  refine wp_run_bind.mpr (wp_appendEvent hevent hy_fresh ?_)
  refine wp_run_mapError.mpr (wp_completeRecord hreliable (authorizedProtector seed)
    (authorizedProtector_reliable seed) ?_ ?_ (keyDigest_length hkey) (by decide) (by decide) ?_ ?_)
  · have hvalid : validScope (acknowledgeScope (Octets.replicate 16 2)) = true ∧
        (738900 * day : Instant) ≠ 0 ∧
        738900 * day < 738900 * day + Trust.bundleIdempotencyRetention := by decide +kernel
    simp [validInternalRecord, freshRecord, hvalid, hkey_ne, hdigest_ne]
  · have hvalid : timestamptz (738900 * day) ≠ 0 ∧
        timestamptz (738900 * day) <
          timestamptz (738900 * day + Trust.bundleIdempotencyRetention) := by decide +kernel
    simp [validRow, freshRow, hvalid, requestDigest_length hdigest]
  · rw [Inside.view_write_of_ne (by simp), hy _ (by simp), Inside.view_write_self]
  · intro field _
    refine ⟨rfl, ?_, ?_⟩
    · rw [Inside.view_write_of_ne (by simp), Inside.view_write_self]
    · rintro k ⟨hrecord, hacknowledgement, houtbox⟩
      rw [Inside.view_write_of_ne hrecord, Inside.view_write_of_ne houtbox, hy k hacknowledgement,
        Inside.view_write_of_ne hrecord]

/-- The call succeeds. -/
theorem exists_plainAcknowledge (hrest : AtRest s)
    (hcall : FreshCall keyHash seed s.database.committed) :
    ∃ t, Runs (exec (authorizedServices seed) pid)
        (Trust.acknowledge plainPlatform (plainAcknowledge key)).run s (.ok ()) t ∧ AtRest t ∧
      Appended keyHash seed s.database.committed t.database.committed := by
  have hreliable := authorizedServices_reliable seed
  have hcommand : Trust.validAcknowledgeCommand (plainAcknowledge key) = true := by
    have hvalid : validIdempotencyKey key = true := by
      simp only [keyDigest, Option.bind_eq_bind, Option.bind_eq_some_iff] at hkey
      obtain ⟨_, hguard, -⟩ := hkey
      simpa using hguard
    simp only [Trust.validAcknowledgeCommand, plainAcknowledge, hvalid, Bool.and_true]
    rfl
  have hcanonical : ((Trust.canonicalTrustedJSON plainPlatform (.obj
      [(ascii "authorization_id", .str (uuidText (Octets.replicate 16 2))),
       (ascii "bundle_id", .str (uuidText (Octets.replicate 16 1))),
       (ascii "bundle_version", .str (Decimal.format 1))])).bind
        (requestDigest .acknowledgeBundle)).any (fun digest => digest ≠ zeroDigest) = true := by
    decide +kernel
  obtain ⟨digest, hbind, hdigest_ne⟩ := (Option.any_eq_true _ _).mp hcanonical
  obtain ⟨canonical, hcanonical, hdigest⟩ := Option.bind_eq_some_iff.mp hbind
  have hstart : (Inside.start s.database.committed).view = s.database.committed :=
    funext fun _ => Inside.view_start _
  have htransaction : Wp (exec (authorizedServices seed) pid) (Trust.withinTransaction plainPlatform
      (Trust.acknowledgeTransaction plainPlatform (plainAcknowledge key) canonical)).run s _ :=
    wp_withinTransaction hreliable performs_acknowledgeTransaction hrest
      (wp_plainAcknowledge hkey hkey_ne hevent hid hdigest (of_decide_eq_true hdigest_ne)
        (hstart ▸ hcall))
  have hwp : Wp (exec (authorizedServices seed) pid)
      (Trust.acknowledge plainPlatform (plainAcknowledge key)).run s fun r t => r = .ok () ∧
        AtRest t ∧ Appended keyHash seed s.database.committed t.database.committed := by
    unfold Trust.acknowledge
    refine wp_run_mapError.mpr (wp_run_perform_bind.mpr
      ⟨(hrest.alone pid).exists_exec hreliable .contextError, ?_⟩)
    rintro canceled t ⟨henv, ht⟩
    obtain rfl : t = s := ht
    obtain rfl := hreliable.context _ canceled henv
    rw [require_of ⟨rfl, hcommand⟩, wp_run_ofExcept_bind_ok]
    have hrequest : orThrow (Trust.canonicalTrustedJSON plainPlatform (.obj
        [(ascii "authorization_id",
            .str (plainPlatform.uuidString (plainAcknowledge key).authorizationID)),
          (ascii "bundle_id", .str (plainPlatform.uuidString (plainAcknowledge key).bundleID)),
          (ascii "bundle_version", .str (Decimal.format (plainAcknowledge key).bundleVersion))]))
          (Trust.Error.api .malformedRequest) = .ok canonical := by
      rw [← orThrow_some (e := Trust.Error.api .malformedRequest), ← hcanonical]
      rfl
    rw [hrequest, wp_run_ofExcept_bind_ok]
    refine htransaction.mono ?_
    rintro r u ⟨hrest', y, ⟨rfl, happended⟩, hcommitted⟩
    rw [hcommitted]
    exact ⟨rfl, hrest', hstart ▸ happended⟩
  obtain ⟨r, t, hrun⟩ := hwp.exists_runs
  obtain ⟨rfl, hpost⟩ := hwp.runs hrun
  exact ⟨t, hrun, hpost⟩

end Plain

/-- The bundle was issued, and nothing else happened. -/
def issuedBackend : Backend where
  database := holding [⟨.bundleIssuance (Octets.replicate 16 1), plainIssuance⟩]
  signed := []
  challenges _ := none

theorem issuedBackend_atRest : AtRest issuedBackend := fun _ => rfl

theorem issuedBackend_bundle : issuedBackend.database.committed
    (.bundleIssuance (Octets.replicate 16 1)) = some plainIssuance := by
  exact List.dlookup_cons_eq ([] : List ((k : Key) × Row k))
    (.bundleIssuance (Octets.replicate 16 1)) plainIssuance

theorem issuedBackend_none {k : Key} (h : k ≠ .bundleIssuance (Octets.replicate 16 1)) :
    issuedBackend.database.committed k = none := by
  show List.dlookup k [⟨Key.bundleIssuance _, _⟩] = none
  rw [List.dlookup_cons_ne _ _ h, List.dlookup_nil]

/-- The first call succeeds. -/
theorem exists_firstAcknowledge : ∃ t, Runs (exec (authorizedServices 1) 0)
      (Trust.acknowledge plainPlatform (plainAcknowledge (ascii "0123456789abcdefghijkl"))).run
      issuedBackend (.ok ()) t ∧ AtRest t ∧
    Appended (Sha256.sha256 (keyDigestDomain ++ bigEndian 2 22 ++ ascii "0123456789abcdefghijkl"))
      1 issuedBackend.database.committed t.database.committed :=
  exists_plainAcknowledge (by decide +kernel) (by decide +kernel) (by decide +kernel)
    (by decide +kernel) issuedBackend_atRest
    ⟨issuedBackend_none (by simp), issuedBackend_bundle, issuedBackend_none (by simp)⟩

/-- The first call for a bundle announces its row once. -/
theorem firstAcknowledge_announced : ∃ t, Runs (exec (authorizedServices 1) 0)
      (Trust.acknowledge plainPlatform (plainAcknowledge (ascii "0123456789abcdefghijkl"))).run
      issuedBackend (.ok ()) t ∧
    ∀ bundleID authorizationID, AnnouncedOnce bundleID authorizationID
      issuedBackend.database.committed t.database.committed := by
  obtain ⟨t, hrun, -⟩ := exists_firstAcknowledge
  refine ⟨t, hrun, ?_⟩
  exact ((acknowledgements_announced_once issuedBackend_atRest).1 _ _ _ t hrun).mpr
    (Or.inl (issuedBackend_none (by simp)))

/-- A second call under another key appends a second event for the same row. -/
theorem acknowledged_twice : ∃ t u, AtRest t ∧
    Runs (exec (authorizedServices 1) 0)
      (Trust.acknowledge plainPlatform (plainAcknowledge (ascii "0123456789abcdefghijkl"))).run
      issuedBackend (.ok ()) t ∧
    Runs (exec (authorizedServices 2) 0)
      (Trust.acknowledge plainPlatform (plainAcknowledge (ascii "abcdefghijkl0123456789"))).run
      t (.ok ()) u ∧
    (plainEvent 1).eventID ≠ (plainEvent 2).eventID ∧
    {(plainEvent 1).eventID, (plainEvent 2).eventID} ⊆
      acknowledgementEvents u.database.committed (Octets.replicate 16 1)
        (Octets.replicate 16 2) := by
  obtain ⟨t, hfirst, hrest, hevent, huntouched⟩ := exists_firstAcknowledge
  have hdiffers : (plainEvent 1).eventID ≠ (plainEvent 2).eventID := by decide +kernel
  have hkeys : Sha256.sha256 (keyDigestDomain ++ bigEndian 2 22 ++
        ascii "abcdefghijkl0123456789") ≠
      Sha256.sha256 (keyDigestDomain ++ bigEndian 2 22 ++ ascii "0123456789abcdefghijkl") := by
    decide +kernel
  have hkey : keyDigest (ascii "abcdefghijkl0123456789") = some (Sha256.sha256
      (keyDigestDomain ++ bigEndian 2 22 ++ ascii "abcdefghijkl0123456789")) := by
    decide +kernel
  have hvalid : Trust.validEvent (plainEvent 2) = true := by decide +kernel
  obtain ⟨u, hsecond, -, hevent', huntouched'⟩ :=
    exists_plainAcknowledge hkey (by decide +kernel) hvalid (by decide +kernel) hrest
      ⟨(huntouched _ ⟨by simpa using hkeys, by simp, by simp⟩).trans
          (issuedBackend_none (by simp)),
        (huntouched _ ⟨by simp, by simp, by simp⟩).trans issuedBackend_bundle,
        (huntouched _ ⟨by simp, by simp, by simpa using hdiffers.symm⟩).trans
          (issuedBackend_none (by simp))⟩
  refine ⟨t, u, hrest, hfirst, hsecond, hdiffers, ?_⟩
  rintro id (rfl | rfl)
  · refine ⟨plainEvent 1, 1, ?_, rfl⟩
    rw [huntouched' _ ⟨by simp, by simp, by simpa using hdiffers⟩]
    exact hevent
  · exact ⟨plainEvent 2, 1, hevent', rfl⟩

end Talenro.Analysis
