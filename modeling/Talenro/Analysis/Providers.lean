import Mathlib.Data.Option.Basic
import Talenro.Lib.Latest
import Talenro.Model.Authority.Provider

/-!
# Runs of the deterministic provider

Whatever calls are made of a provider, with whatever failures injected, its records stay sound:
the reservations are numbered from one without a gap, every record is valid, and a record that
has ended never changes.  All of it follows from what one call can do (`perform_outcome`): it is
refused, it is answered from the records, or it makes one of three changes, and its response is
lost or not (`provider_runs`).
-/

set_option autoImplicit false

namespace Talenro.Authority

open Lib DeterministicProvider

variable {P : Platform} {p q : DeterministicProvider} {ctx : Context} {call : Call}
  {answer : Answer}

/-! ## What one call can do -/

/-- The records answer the call. -/
inductive Recorded (p : DeterministicProvider) : Call → Answer → Prop
  | reserved {request : ReserveRequest} {stored : DeterministicRecord}
      (record : p.records.lookup request.operationID = some stored)
      (same : stored.reserveRequest = request) :
      Recorded p (.reserve request) (.reservation stored.record.reservation)
  | finalized {request normalized : FinalizeRequest} {stored : DeterministicRecord}
      {receipt : Receipt} (record : p.records.lookup request.operationID = some stored)
      (terminal : stored.record.terminalReceipt = some receipt)
      (status : receipt.status = .committed)
      (normal : normalizeFinalizeRequest request = some normalized)
      (same : stored.finalizeRequest = some normalized) :
      Recorded p (.finalize request) (.receipt receipt)
  | aborted {request : AbortRequest} {stored : DeterministicRecord} {receipt : Receipt}
      (record : p.records.lookup request.operationID = some stored)
      (terminal : stored.record.terminalReceipt = some receipt)
      (status : receipt.status = .aborted) (same : stored.abortRequest = some request) :
      Recorded p (.abort request) (.receipt receipt)

/-- The record of a new reservation. -/
def reservedRecord (request : ReserveRequest) (reservation : Reservation) : DeterministicRecord where
  reserveRequest := request
  record := ⟨reservation, none, none, none⟩
  finalizeRequest := none
  abortRequest := none

/-- The change that a call makes, and what it answers. -/
inductive Changed (P : Platform) (p : DeterministicProvider) :
    Call → Answer → DeterministicProvider → Prop
  | reserved {request : ReserveRequest} {reservation : Reservation}
      (fresh : p.records.lookup request.operationID = none) (valid : request.validate P = true)
      (room : p.nextSequence < maxInt64)
      (issued : issueReservation P request p.epoch (p.nextSequence + 1) = some reservation) :
      Changed P p (.reserve request) (.reservation reservation)
        ({ p with nextSequence := reservation.sequence }.store request.operationID
          (reservedRecord request reservation))
  | finalized {request : FinalizeRequest} {stored stored' : DeterministicRecord}
      {receipt : Receipt} (record : p.records.lookup request.operationID = some stored)
      (pending : stored.record.terminalReceipt = none)
      (ended : finalizeRecord P stored request = some (receipt, stored')) :
      Changed P p (.finalize request) (.receipt receipt) (p.store request.operationID stored')
  | aborted {request : AbortRequest} {stored stored' : DeterministicRecord} {receipt : Receipt}
      (record : p.records.lookup request.operationID = some stored)
      (pending : stored.record.terminalReceipt = none)
      (ended : abortRecord P stored request = some (receipt, stored')) :
      Changed P p (.abort request) (.receipt receipt) (p.store request.operationID stored')

/-- Two states that differ at most in the failures that are armed. -/
structure SameRecords (p q : DeterministicProvider) : Prop where
  epoch : q.epoch = p.epoch
  nextSequence : q.nextSequence = p.nextSequence
  records : q.records = p.records

theorem SameRecords.refl (p : DeterministicProvider) : SameRecords p p := ⟨rfl, rfl, rfl⟩

/-- Everything that can come of a call. -/
inductive Outcome (P : Platform) (p : DeterministicProvider) (call : Call) :
    Except Error Answer × DeterministicProvider → Prop
  | injected {operation : Operation} (operates : call.operation = some operation)
      (armed : p.failures operation = some .beforeMutation) :
      Outcome P p call (.error .injectedFailure, p.clear operation)
  | refused {err : Error} (notLost : err ≠ .responseLost) : Outcome P p call (.error err, p)
  | answered {answer : Answer} (recorded : Recorded p call answer) :
      Outcome P p call (.ok answer, p)
  | other {answer : Answer} {q : DeterministicProvider} (reads : call.mutates = false)
      (same : SameRecords p q) : Outcome P p call (.ok answer, q)
  | changed {operation : Operation} {answer : Answer} {q : DeterministicProvider}
      (operates : call.operation = some operation) (change : Changed P p call answer q) :
      Outcome P p call (q.respond operation answer)

/-- Both checks of the context pass. -/
def Context.Passes (ctx : Context) : Prop :=
  contextError ctx.entry = none ∧ contextError ctx.locked = none

theorem perform_of_passes (h : ctx.Passes) (p : DeterministicProvider) :
    p.perform P ctx call = p.perform P .live call := by
  have hmethod : ∀ {α : Type} (method : Except Error α × DeterministicProvider),
      p.inContext ctx method = p.inContext .live method := by
    intro α method
    rw [inContext, h.1, h.2]
    rfl
  cases call <;> simp only [perform, hmethod]

theorem contextError_ne_responseLost {state : ContextState} {err : Error}
    (h : contextError state = some err) : err ≠ .responseLost := by
  cases state <;> simp [contextError] at h <;> simp [← h]

/-- A call whose context has ended is refused. -/
theorem perform_of_not_passes (h : ¬ ctx.Passes) (hcall : call.operation ≠ none)
    (p : DeterministicProvider) :
    ∃ err, err ≠ .responseLost ∧ p.perform P ctx call = (.error err, p) := by
  obtain ⟨err, hlost, hrefused⟩ : ∃ err, err ≠ .responseLost ∧ ∀ {α : Type}
      (method : Except Error α × DeterministicProvider),
        p.inContext ctx method = (.error err, p) := by
    cases hentry : contextError ctx.entry with
    | some err => exact ⟨err, contextError_ne_responseLost hentry, by simp [inContext, hentry]⟩
    | none =>
      cases hlocked : contextError ctx.locked with
      | some err =>
        exact ⟨err, contextError_ne_responseLost hlocked, by simp [inContext, hentry, hlocked]⟩
      | none => exact absurd ⟨hentry, hlocked⟩ h
  cases call with
  | failNext operation failure => exact absurd rfl hcall
  | _ => exact ⟨err, hlost, by simp only [perform, hrefused, answering, Except.map]⟩

theorem answering_respond {α : Type} (f : α → Answer) (operation : Operation) (value : α) :
    answering f (q.respond operation value) = q.respond operation (f value) := by
  unfold respond answering
  split <;> rfl

theorem inContext_live {α : Type} (method : Except Error α × DeterministicProvider) :
    p.inContext .live method = method := rfl

theorem outcome_reserve (request : ReserveRequest) :
    Outcome P p (.reserve request) (answering .reservation (p.reserve P request)) := by
  unfold reserve
  split
  · next harmed => exact .injected rfl harmed
  · cases hlookup : p.records.lookup request.operationID with
    | some stored =>
      dsimp only
      split
      · next hsame => exact .answered (.reserved hlookup hsame)
      · exact .refused (by decide)
    | none =>
      dsimp only
      split
      · exact .refused (by decide)
      · next hvalid =>
        obtain ⟨hvalid, hroom⟩ := not_or.mp hvalid
        cases hissued : issueReservation P request p.epoch (p.nextSequence + 1) with
        | none => exact .refused (by decide)
        | some reservation =>
          rw [answering_respond]
          exact .changed rfl (.reserved hlookup (by simpa using hvalid) (Nat.lt_of_not_le hroom)
            hissued)

theorem outcome_finalize (request : FinalizeRequest) :
    Outcome P p (.finalize request) (answering .receipt (p.finalize P request)) := by
  unfold finalize
  split
  · next harmed => exact .injected rfl harmed
  · cases hlookup : p.records.lookup request.operationID with
    | none => exact .refused (by split <;> decide)
    | some stored =>
      cases hterminal : stored.record.terminalReceipt with
      | some receipt =>
        simp only [hterminal]
        split
        · exact .refused (by decide)
        · next hstatus =>
          split
          · exact .refused (by decide)
          · next hsame =>
            obtain ⟨hnormal, hsame⟩ := not_or.mp hsame
            obtain ⟨normalized, hnormal⟩ := Option.ne_none_iff_exists'.mp hnormal
            refine .answered (.finalized hlookup hterminal ?_ hnormal
              ((not_not.mp hsame).trans hnormal))
            cases h : receipt.status <;> simp_all
      | none =>
        simp only [hterminal]
        cases hended : finalizeRecord P stored request with
        | none => exact .refused (by decide)
        | some ended =>
          dsimp only
          rw [answering_respond]
          exact .changed rfl (.finalized hlookup hterminal hended)

theorem outcome_abort (request : AbortRequest) :
    Outcome P p (.abort request) (answering .receipt (p.abort P request)) := by
  unfold abort
  split
  · next harmed => exact .injected rfl harmed
  · cases hlookup : p.records.lookup request.operationID with
    | none => exact .refused (by split <;> decide)
    | some stored =>
      cases hterminal : stored.record.terminalReceipt with
      | some receipt =>
        simp only [hterminal]
        split
        · exact .refused (by decide)
        · next hstatus =>
          split
          · exact .refused (by decide)
          · next hsame =>
            refine .answered (.aborted hlookup hterminal ?_ (not_not.mp hsame))
            cases h : receipt.status <;> simp_all
      | none =>
        simp only [hterminal]
        cases hended : abortRecord P stored request with
        | none => exact .refused (by decide)
        | some ended =>
          dsimp only
          rw [answering_respond]
          exact .changed rfl (.aborted hlookup hterminal hended)

theorem perform_outcome (ctx : Context) (call : Call) :
    Outcome P p call (p.perform P ctx call) := by
  have hlive : Outcome P p call (p.perform P .live call) := by
    cases call with
    | reserve request => exact outcome_reserve request
    | finalize request => exact outcome_finalize request
    | abort request => exact outcome_abort request
    | inspect operationID =>
      simp only [perform, inContext_live, inspect]
      split
      · next harmed => exact .injected rfl harmed
      · split
        · exact .refused (by decide)
        · split
          · exact .refused (by decide)
          · exact .other rfl (.refl p)
    | head =>
      simp only [perform, inContext_live, head, headIn]
      split
      · next harmed => exact .injected rfl harmed
      · split
        · exact .other rfl (.refl p)
        · exact .refused (by decide)
    | failNext operation failure =>
      simp only [perform, failNext]
      split
      · exact .refused (by decide)
      · exact .other rfl ⟨rfl, rfl, rfl⟩
  by_cases hctx : ctx.Passes
  · rwa [perform_of_passes hctx]
  by_cases hcall : call.operation = none
  · cases call <;> first | exact hlive | cases hcall
  · obtain ⟨err, hlost, h⟩ := perform_of_not_passes (P := P) hctx hcall p
    rw [h]
    exact .refused hlost

theorem SameRecords.respond (operation : Operation) (answer : Answer) :
    SameRecords q (q.respond operation answer).2 := by
  unfold DeterministicProvider.respond
  split
  · exact ⟨rfl, rfl, rfl⟩
  · exact .refl q

/-- A call changes the records in one of three ways, or not at all. -/
theorem perform_cases (ctx : Context) (call : Call) :
    SameRecords p (p.perform P ctx call).2 ∨
      ∃ answer q, Changed P p call answer q ∧ SameRecords q (p.perform P ctx call).2 := by
  have houtcome := perform_outcome (P := P) (p := p) ctx call
  generalize p.perform P ctx call = result at houtcome ⊢
  cases houtcome with
  | injected operates armed => exact Or.inl ⟨rfl, rfl, rfl⟩
  | refused notLost => exact Or.inl (.refl p)
  | answered recorded => exact Or.inl (.refl p)
  | other reads same => exact Or.inl same
  | changed operates change => exact Or.inr ⟨_, _, change, .respond _ _⟩

/-! ## Records stay sound -/

/-- How a record stands: it is pending, or it has ended in one way, and the request that ended it
is kept. -/
inductive Standing (stored : DeterministicRecord) : Prop
  | pending (terminal : stored.record.terminalReceipt = none)
      (finalize : stored.finalizeRequest = none) (abort : stored.abortRequest = none)
      (digest : stored.record.boundEffectDigest = none)
      (point : stored.record.boundDatabasePoint = none)
  | committed {receipt : Receipt} (terminal : stored.record.terminalReceipt = some receipt)
      (status : receipt.status = .committed) (finalize : stored.finalizeRequest.isSome)
      (abort : stored.abortRequest = none)
  | aborted {receipt : Receipt} (terminal : stored.record.terminalReceipt = some receipt)
      (status : receipt.status = .aborted) (finalize : stored.finalizeRequest = none)
      (abort : stored.abortRequest.isSome)

/-- A record of an operation is sound. -/
structure SoundRecord (P : Platform) (epoch : ℕ) (operationID : UUID)
    (stored : DeterministicRecord) : Prop where
  operation : stored.record.reservation.operationID = operationID
  request : stored.record.reservation.request = stored.reserveRequest
  epoch : stored.record.reservation.epoch = epoch
  valid : stored.record.validate P = true
  standing : Standing stored

/-- The reserved operations have the numbers from one to the last one, one each. -/
structure Numbered (p : DeterministicProvider) : Prop where
  exactly : ∀ k, (∃ operationID stored, p.records.lookup operationID = some stored ∧
    stored.record.reservation.sequence = k) ↔ 1 ≤ k ∧ k ≤ p.nextSequence
  injective : ∀ {operationID operationID' stored stored'},
    p.records.lookup operationID = some stored → p.records.lookup operationID' = some stored' →
    stored.record.reservation.sequence = stored'.record.reservation.sequence →
    operationID = operationID'

/-- The invariant of a provider. -/
structure Intact (P : Platform) (p : DeterministicProvider) : Prop where
  epoch : validPositiveCoordinate p.epoch = true
  bound : p.nextSequence ≤ maxInt64
  records : ∀ {operationID stored}, p.records.lookup operationID = some stored →
    SoundRecord P p.epoch operationID stored
  numbered : Numbered p

theorem Intact.congr (h : Intact P p) (hq : SameRecords p q) : Intact P q := by
  obtain ⟨hepoch, hnext, hrecords⟩ := hq
  refine ⟨hepoch ▸ h.epoch, hnext ▸ h.bound, ?_, ?_, ?_⟩
  · rw [hrecords, hepoch]
    exact h.records
  · rw [hrecords, hnext]
    exact h.numbered.exactly
  · rw [hrecords]
    exact h.numbered.injective

variable {stored stored' : DeterministicRecord} {request : FinalizeRequest} {receipt : Receipt}
  {reservation : Reservation} {operationID : UUID} {epoch : ℕ}

theorem issueReservation_eq_some {request : ReserveRequest} {sequence : ℕ}
    (h : issueReservation P request epoch sequence = some reservation) :
    reservation.request = request ∧ reservation.epoch = epoch ∧
      reservation.sequence = sequence ∧ reservation.validate P = true := by
  obtain ⟨digest, -, h⟩ := Option.bind_eq_some_iff.mp h
  obtain ⟨_, hvalid, h⟩ := Option.bind_eq_some_iff.mp h
  obtain rfl := Option.some.inj h
  exact ⟨rfl, rfl, rfl, (Option.guard_eq_some' _).mp hvalid⟩

theorem sealReceipt_eq_some {sealed : Receipt} (h : sealReceipt P receipt = some sealed) :
    (∃ digest, sealed = { receipt with receiptDigest := digest }) ∧ sealed.validate P = true := by
  obtain ⟨digest, -, h⟩ := Option.bind_eq_some_iff.mp h
  obtain ⟨_, hvalid, h⟩ := Option.bind_eq_some_iff.mp h
  obtain rfl := Option.some.inj h
  exact ⟨⟨digest, rfl⟩, (Option.guard_eq_some' _).mp hvalid⟩

theorem Receipt.validBinding_of_validate (h : receipt.validate P = true) :
    validBinding receipt.effectDigest receipt.databasePoint = true := by
  simp only [Receipt.validate, Bool.and_eq_true] at h
  exact h.1.1.2

theorem Record.reservation_validate {record : Record} (h : record.validate P = true) :
    record.reservation.validate P = true := by
  simp only [Record.validate, Bool.and_eq_true] at h
  exact h.1.1

/-- A record that is ended by a valid receipt about it is valid. -/
theorem Record.validate_of_terminal {record : Record}
    (hreservation : record.reservation.validate P = true) (hreceipt : receipt.validate P = true)
    (hsame : receipt.reservation = record.reservation)
    (hdigest : record.boundEffectDigest = receipt.effectDigest)
    (hpoint : record.boundDatabasePoint = receipt.databasePoint)
    (hterminal : record.terminalReceipt = some receipt) : record.validate P = true := by
  simp [Record.validate, hreservation, hterminal, hreceipt, hsame, hdigest, hpoint,
    receipt.validBinding_of_validate hreceipt]

/-- What `Finalize` makes of a record. -/
theorem finalizeRecord_eq_some (h : finalizeRecord P stored request = some (receipt, stored')) :
    ∃ normalized, normalizeFinalizeRequest request = some normalized ∧
      receipt.validate P = true ∧ receipt.reservation = stored.record.reservation ∧
      receipt.status = .committed ∧
      stored' = { stored with
        finalizeRequest := some normalized
        record :=
          { stored.record with
            boundEffectDigest := receipt.effectDigest
            boundDatabasePoint := receipt.databasePoint
            terminalReceipt := some receipt } } := by
  obtain ⟨normalized, hnormal, h⟩ := Option.bind_eq_some_iff.mp h
  obtain ⟨sealed, hsealed, h⟩ := Option.bind_eq_some_iff.mp h
  obtain ⟨⟨digest, hdigest⟩, hvalid⟩ := sealReceipt_eq_some hsealed
  obtain ⟨rfl, rfl⟩ := Prod.mk.inj (Option.some.inj h)
  refine ⟨normalized, hnormal, hvalid, ?_, ?_, ?_⟩ <;> rw [hdigest]

/-- What `Abort` makes of a record. -/
theorem abortRecord_eq_some {request : AbortRequest}
    (h : abortRecord P stored request = some (receipt, stored')) :
    receipt.validate P = true ∧ receipt.reservation = stored.record.reservation ∧
      receipt.status = .aborted ∧ stored.record.boundEffectDigest = receipt.effectDigest ∧
      stored.record.boundDatabasePoint = receipt.databasePoint ∧
      stored' = { stored with
        abortRequest := some request
        record := { stored.record with terminalReceipt := some receipt } } := by
  obtain ⟨-, -, h⟩ := Option.bind_eq_some_iff.mp h
  obtain ⟨sealed, hsealed, h⟩ := Option.bind_eq_some_iff.mp h
  obtain ⟨⟨digest, hdigest⟩, hvalid⟩ := sealReceipt_eq_some hsealed
  obtain ⟨rfl, rfl⟩ := Prod.mk.inj (Option.some.inj h)
  refine ⟨hvalid, ?_, ?_, ?_, ?_, rfl⟩ <;> rw [hdigest]

theorem SoundRecord.reserved {epoch sequence : ℕ} {request : ReserveRequest}
    {reservation : Reservation}
    (h : issueReservation P request epoch sequence = some reservation) :
    SoundRecord P epoch request.operationID (reservedRecord request reservation) := by
  obtain ⟨hrequest, hepoch, -, hvalid⟩ := issueReservation_eq_some h
  refine ⟨congrArg ReserveRequest.operationID hrequest, hrequest, hepoch, ?_,
    .pending rfl rfl rfl rfl rfl⟩
  simp [reservedRecord, Record.validate, hvalid, validBinding]

/-- A record without an ending has no request of one. -/
theorem Standing.of_pending (h : Standing stored)
    (hpending : stored.record.terminalReceipt = none) :
    stored.finalizeRequest = none ∧ stored.abortRequest = none := by
  cases h with
  | pending terminal finalize abort digest point => exact ⟨finalize, abort⟩
  | committed terminal | aborted terminal => exact nomatch hpending.symm.trans terminal

theorem SoundRecord.finalized (hsound : SoundRecord P epoch operationID stored)
    (hpending : stored.record.terminalReceipt = none)
    (h : finalizeRecord P stored request = some (receipt, stored')) :
    SoundRecord P epoch operationID stored' := by
  obtain ⟨normalized, -, hvalid, hsame, hstatus, rfl⟩ := finalizeRecord_eq_some h
  refine ⟨hsound.operation, hsound.request, hsound.epoch, ?_, ?_⟩
  · have hreservation := Record.reservation_validate hsound.valid
    exact Record.validate_of_terminal hreservation hvalid hsame rfl rfl rfl
  · exact .committed rfl hstatus rfl (hsound.standing.of_pending hpending).2

theorem SoundRecord.aborted {request : AbortRequest}
    (hsound : SoundRecord P epoch operationID stored)
    (hpending : stored.record.terminalReceipt = none)
    (h : abortRecord P stored request = some (receipt, stored')) :
    SoundRecord P epoch operationID stored' := by
  obtain ⟨hvalid, hsame, hstatus, hdigest, hpoint, rfl⟩ := abortRecord_eq_some h
  refine ⟨hsound.operation, hsound.request, hsound.epoch, ?_, ?_⟩
  · have hreservation := Record.reservation_validate hsound.valid
    exact Record.validate_of_terminal hreservation hvalid hsame hdigest hpoint rfl
  · exact .aborted rfl hstatus (hsound.standing.of_pending hpending).1 rfl

theorem lookup_store (operationID other : UUID) (stored : DeterministicRecord) :
    (p.store operationID stored).records.lookup other =
      if other = operationID then some stored else p.records.lookup other := by
  unfold store
  split
  · next h => rw [h, AList.lookup_insert]
  · next h => exact AList.lookup_insert_ne h

/-- A record with another ending in place of a pending one keeps the provider sound. -/
theorem Intact.store (h : Intact P p) (hlookup : p.records.lookup operationID = some stored)
    (hsound : SoundRecord P p.epoch operationID stored')
    (hsame : stored'.record.reservation = stored.record.reservation) :
    Intact P (p.store operationID stored') := by
  -- Every record of the new state stands for one of the old state with the same reservation.
  have hold : ∀ {other current}, (p.store operationID stored').records.lookup other =
      some current → ∃ before, p.records.lookup other = some before ∧
        current.record.reservation = before.record.reservation := by
    intro other current hcurrent
    rw [lookup_store] at hcurrent
    split at hcurrent
    · next hid =>
      obtain rfl := Option.some.inj hcurrent
      exact ⟨stored, hid ▸ hlookup, hsame⟩
    · exact ⟨current, hcurrent, rfl⟩
  refine ⟨h.epoch, h.bound, ?_, ?_, ?_⟩
  · intro other current hcurrent
    rw [lookup_store] at hcurrent
    split at hcurrent
    · next hid =>
      obtain rfl := Option.some.inj hcurrent
      rw [hid]
      exact hsound
    · exact h.records hcurrent
  · intro k
    rw [show (p.store operationID stored').nextSequence = p.nextSequence from rfl,
      ← h.numbered.exactly k]
    constructor
    · rintro ⟨other, current, hcurrent, hk⟩
      obtain ⟨before, hbefore, hreservation⟩ := hold hcurrent
      exact ⟨other, before, hbefore, hreservation ▸ hk⟩
    · rintro ⟨other, before, hbefore, hk⟩
      by_cases hid : other = operationID
      · refine ⟨other, stored', by rw [lookup_store, if_pos hid], ?_⟩
        rw [hid, hlookup] at hbefore
        rw [hsame, Option.some.inj hbefore, hk]
      · exact ⟨other, before, by rw [lookup_store, if_neg hid, hbefore], hk⟩
  · intro first second current current' hfirst hsecond hk
    obtain ⟨before, hbefore, hreservation⟩ := hold hfirst
    obtain ⟨before', hbefore', hreservation'⟩ := hold hsecond
    rw [hreservation, hreservation'] at hk
    exact h.numbered.injective hbefore hbefore' hk

/-- A new record with the next number keeps the provider sound. -/
theorem Intact.reserve (h : Intact P p) (hfresh : p.records.lookup operationID = none)
    (hroom : p.nextSequence < maxInt64) (hsound : SoundRecord P p.epoch operationID stored)
    (hsequence : stored.record.reservation.sequence = p.nextSequence + 1) :
    Intact P ({ p with nextSequence := stored.record.reservation.sequence }.store operationID
      stored) := by
  have hlookup : ∀ other, ({ p with nextSequence := stored.record.reservation.sequence }.store
      operationID stored).records.lookup other =
        if other = operationID then some stored else p.records.lookup other :=
    fun other => lookup_store operationID other stored
  have hbelow : ∀ {other current}, p.records.lookup other = some current →
      current.record.reservation.sequence ≤ p.nextSequence := fun hcurrent =>
    ((h.numbered.exactly _).mp ⟨_, _, hcurrent, rfl⟩).2
  refine ⟨h.epoch, ?_, ?_, ?_, ?_⟩
  · change stored.record.reservation.sequence ≤ maxInt64
    omega
  · intro other current hcurrent
    rw [hlookup] at hcurrent
    split at hcurrent
    · next hid =>
      obtain rfl := Option.some.inj hcurrent
      rw [hid]
      exact hsound
    · exact h.records hcurrent
  · intro k
    change _ ↔ 1 ≤ k ∧ k ≤ stored.record.reservation.sequence
    constructor
    · rintro ⟨other, current, hcurrent, hk⟩
      rw [hlookup] at hcurrent
      split at hcurrent
      · obtain rfl := Option.some.inj hcurrent
        omega
      · have hrange := (h.numbered.exactly k).mp ⟨other, current, hcurrent, hk⟩
        omega
    · rintro ⟨hone, hle⟩
      rcases Nat.lt_or_ge k stored.record.reservation.sequence with hlt | hge
      · obtain ⟨other, current, hcurrent, hk⟩ := (h.numbered.exactly k).mpr ⟨hone, by omega⟩
        have hid : other ≠ operationID := by
          rintro rfl
          exact nomatch hfresh.symm.trans hcurrent
        exact ⟨other, current, by rw [hlookup, if_neg hid, hcurrent], hk⟩
      · exact ⟨operationID, stored, by rw [hlookup, if_pos rfl], by omega⟩
  · intro first second current current' hfirst hsecond hk
    rw [hlookup] at hfirst hsecond
    -- The new number is above all others, so equal numbers are of one kind.
    split at hfirst <;> split at hsecond
    · next hid hid' => rw [hid, hid']
    · obtain rfl := Option.some.inj hfirst
      have := hbelow hsecond
      omega
    · obtain rfl := Option.some.inj hsecond
      have := hbelow hfirst
      omega
    · exact h.numbered.injective hfirst hsecond hk

theorem Intact.changed (h : Intact P p) (hchange : Changed P p call answer q) : Intact P q := by
  cases hchange with
  | reserved fresh valid room issued =>
    exact h.reserve fresh room (.reserved issued) (issueReservation_eq_some issued).2.2.1
  | finalized record pending ended =>
    obtain ⟨normalized, -, -, -, -, rfl⟩ := finalizeRecord_eq_some ended
    exact h.store record ((h.records record).finalized pending ended) rfl
  | aborted record pending ended =>
    obtain ⟨-, -, -, -, -, rfl⟩ := abortRecord_eq_some ended
    exact h.store record ((h.records record).aborted pending ended) rfl

theorem Intact.perform (h : Intact P p) (ctx : Context) (call : Call) :
    Intact P (p.perform P ctx call).2 := by
  rcases perform_cases (P := P) ctx call with hsame | ⟨answer, q, hchange, hsame⟩
  · exact h.congr hsame
  · exact (h.changed hchange).congr hsame

theorem Intact.after (h : Intact P p) (calls : List (Context × Call)) :
    Intact P (p.after P calls) := by
  induction calls generalizing p with
  | nil => exact h
  | cons call calls ih => exact ih (h.perform call.1 call.2)

theorem Intact.start (h : newDeterministicProvider epoch = some p) : Intact P p := by
  unfold newDeterministicProvider at h
  split at h
  · next hepoch =>
    obtain rfl := Option.some.inj h
    refine ⟨hepoch, Nat.zero_le _, ?_, ?_, ?_⟩
    · intro operationID stored hlookup
      simp at hlookup
    · intro k
      simp only [AList.lookup_empty, reduceCtorEq, false_and, exists_false, false_iff]
      omega
    · intro operationID operationID' stored stored' hlookup
      simp at hlookup
  · cases h

/-! ## What is recorded stays -/

/-- How a record can go on: it keeps its request and its reservation, and all of it once it has
ended. -/
structure Continues (stored stored' : DeterministicRecord) : Prop where
  request : stored'.reserveRequest = stored.reserveRequest
  reservation : stored'.record.reservation = stored.record.reservation
  ended : stored.record.terminalReceipt.isSome → stored' = stored

theorem Continues.refl (stored : DeterministicRecord) : Continues stored stored :=
  ⟨rfl, rfl, fun _ => rfl⟩

theorem Continues.trans {first second third : DeterministicRecord} (h : Continues first second)
    (h' : Continues second third) : Continues first third where
  request := h'.request.trans h.request
  reservation := h'.reservation.trans h.reservation
  ended := fun hended => by
    obtain rfl := h.ended hended
    exact h'.ended hended

/-- A record that is stored in place of a pending one continues it. -/
theorem lookup_store_continues {other : UUID} {current : DeterministicRecord}
    (hlookup : p.records.lookup operationID = some stored) (hcontinues : Continues stored stored')
    (hother : p.records.lookup other = some current) :
    ∃ current', (p.store operationID stored').records.lookup other = some current' ∧
      Continues current current' := by
  rw [lookup_store]
  split
  · next hid =>
    rw [hid, hlookup] at hother
    obtain rfl := Option.some.inj hother
    exact ⟨stored', rfl, hcontinues⟩
  · exact ⟨current, hother, .refl current⟩

theorem continues_changed (hchange : Changed P p call answer q)
    (hlookup : p.records.lookup operationID = some stored) :
    ∃ stored', q.records.lookup operationID = some stored' ∧ Continues stored stored' := by
  cases hchange with
  | reserved fresh valid room issued =>
    refine ⟨stored, ?_, .refl stored⟩
    refine (lookup_store _ _ _).trans ?_
    rw [if_neg]
    · exact hlookup
    · rintro rfl
      exact nomatch fresh.symm.trans hlookup
  | finalized record pending ended =>
    obtain ⟨normalized, -, -, -, -, rfl⟩ := finalizeRecord_eq_some ended
    exact lookup_store_continues record ⟨rfl, rfl, by simp [pending]⟩ hlookup
  | aborted record pending ended =>
    obtain ⟨-, -, -, -, -, rfl⟩ := abortRecord_eq_some ended
    exact lookup_store_continues record ⟨rfl, rfl, by simp [pending]⟩ hlookup

theorem continues_perform (ctx : Context) (call : Call)
    (hlookup : p.records.lookup operationID = some stored) :
    ∃ stored', (p.perform P ctx call).2.records.lookup operationID = some stored' ∧
      Continues stored stored' := by
  rcases perform_cases (P := P) (p := p) ctx call with hsame | ⟨answer, q, hchange, hsame⟩
  · rw [hsame.records]
    exact ⟨stored, hlookup, .refl stored⟩
  · rw [hsame.records]
    exact continues_changed hchange hlookup

/-- Whatever calls follow, a record goes on. -/
theorem continues_after (calls : List (Context × Call))
    (hlookup : p.records.lookup operationID = some stored) :
    ∃ stored', (p.after P calls).records.lookup operationID = some stored' ∧
      Continues stored stored' := by
  induction calls generalizing p stored with
  | nil => exact ⟨stored, hlookup, .refl stored⟩
  | cons call calls ih =>
    obtain ⟨next, hnext, hcontinues⟩ := continues_perform (P := P) call.1 call.2 hlookup
    obtain ⟨stored', hstored', hrest⟩ := ih hnext
    exact ⟨stored', hstored', hcontinues.trans hrest⟩

/-! ## Repeated calls -/

/-- A call that is made again: the same one, or one to finalize with another spelling of the same
position. -/
inductive SameCall : Call → Call → Prop
  | refl (call : Call) : SameCall call call
  | spelling {request : FinalizeRequest} {requiredLSN : WALPosition}
      (position : walHalves requiredLSN = walHalves request.requiredLSN) :
      SameCall (.finalize request) (.finalize { request with requiredLSN := requiredLSN })

theorem normalizeFinalizeRequest_spelling {requiredLSN : WALPosition}
    (h : walHalves requiredLSN = walHalves request.requiredLSN) :
    normalizeFinalizeRequest { request with requiredLSN := requiredLSN } =
      normalizeFinalizeRequest request := by
  simp only [normalizeFinalizeRequest, FinalizeRequest.validate, canonicalWALPosition, h]
  rfl

theorem Recorded.same {call' : Call} (h : Recorded p call answer) (hsame : SameCall call call') :
    Recorded p call' answer := by
  cases hsame with
  | refl => exact h
  | spelling position =>
    cases h with
    | finalized record terminal status normal same =>
      exact .finalized record terminal status
        ((normalizeFinalizeRequest_spelling position).trans normal) same

/-- What is recorded stays recorded. -/
theorem Recorded.continues (h : Recorded p call answer)
    (hq : ∀ {operationID stored}, p.records.lookup operationID = some stored →
      ∃ stored', q.records.lookup operationID = some stored' ∧ Continues stored stored') :
    Recorded q call answer := by
  cases h with
  | reserved record same =>
    obtain ⟨stored', hlookup, hcontinues⟩ := hq record
    rw [← hcontinues.reservation]
    exact .reserved hlookup (hcontinues.request.trans same)
  | finalized record terminal status normal same =>
    obtain ⟨stored', hlookup, hcontinues⟩ := hq record
    obtain rfl := hcontinues.ended (by simp [terminal])
    exact .finalized hlookup terminal status normal same
  | aborted record terminal status same =>
    obtain ⟨stored', hlookup, hcontinues⟩ := hq record
    obtain rfl := hcontinues.ended (by simp [terminal])
    exact .aborted hlookup terminal status same

/-- A change records its answer. -/
theorem recorded_changed (h : Changed P p call answer q) : Recorded q call answer := by
  cases h with
  | @reserved request reservation fresh valid room issued =>
    exact @Recorded.reserved _ _ (reservedRecord request reservation)
      ((lookup_store _ _ _).trans (if_pos rfl)) rfl
  | finalized record pending ended =>
    obtain ⟨normalized, hnormal, -, -, hstatus, rfl⟩ := finalizeRecord_eq_some ended
    exact .finalized ((lookup_store _ _ _).trans (if_pos rfl)) rfl hstatus hnormal rfl
  | aborted record pending ended =>
    obtain ⟨-, -, hstatus, -, -, rfl⟩ := abortRecord_eq_some ended
    exact .aborted ((lookup_store _ _ _).trans (if_pos rfl)) rfl hstatus rfl

/-- A call that is recorded is answered from the records and changes nothing. -/
theorem perform_of_recorded (h : Recorded p call answer)
    (harmed : ∀ operation ∈ call.operation, p.failures operation ≠ some .beforeMutation) :
    p.perform P .live call = (.ok answer, p) := by
  cases h with
  | reserved record same =>
    simp [perform, inContext_live, reserve, harmed _ rfl, record, same, answering, Except.map]
  | finalized record terminal status normal same =>
    simp [perform, inContext_live, finalize, harmed _ rfl, record, terminal, status, normal, same,
      answering, Except.map]
  | aborted record terminal status same =>
    simp [perform, inContext_live, abort, harmed _ rfl, record, terminal, status, same, answering,
      Except.map]

/-- A call makes its change when no failure is armed before it. -/
theorem perform_of_changed (h : Changed P p call answer q)
    (harmed : ∀ operation ∈ call.operation, p.failures operation ≠ some .beforeMutation) :
    ∃ operation, call.operation = some operation ∧
      p.perform P .live call = q.respond operation answer := by
  cases h with
  | reserved fresh valid room issued =>
    refine ⟨.reserve, rfl, ?_⟩
    rw [perform, inContext_live, reserve, if_neg (harmed _ rfl), ← answering_respond]
    simp only [fresh, valid, Nat.not_le.mpr room, issued, Bool.true_eq_false, or_self, if_false]
    rfl
  | finalized record pending ended =>
    refine ⟨.finalize, rfl, ?_⟩
    rw [perform, inContext_live, finalize, if_neg (harmed _ rfl), ← answering_respond]
    simp only [record, pending, ended]
  | aborted record pending ended =>
    refine ⟨.abort, rfl, ?_⟩
    rw [perform, inContext_live, abort, if_neg (harmed _ rfl), ← answering_respond]
    simp only [record, pending, ended]

theorem Changed.clear (h : Changed P p call answer q) (operation : Operation) :
    Changed P (p.clear operation) call answer (q.clear operation) := by
  cases h with
  | reserved fresh valid room issued => exact .reserved fresh valid room issued
  | finalized record pending ended => exact .finalized record pending ended
  | aborted record pending ended => exact .aborted record pending ended

/-- A call whose response is lost has made its change, and without the failure it would have
returned its answer. -/
theorem changed_of_lost (h : (p.perform P ctx call).1 = .error .responseLost) :
    ∃ operation answer q, call.operation = some operation ∧ Changed P p call answer q ∧
      SameRecords q (p.perform P ctx call).2 ∧
      ((p.clear operation).perform P ctx call).1 = .ok answer := by
  have houtcome := perform_outcome (P := P) (p := p) ctx call
  have hclear : ∀ {operation answer q}, call.operation = some operation →
      Changed P p call answer q → ((p.clear operation).perform P ctx call).1 = .ok answer := by
    intro operation answer q hoperation hchange
    have hctx : ctx.Passes := by
      by_contra hctx
      have hsome : call.operation ≠ none := by simp [hoperation]
      obtain ⟨err, hlost, hrefused⟩ := perform_of_not_passes (P := P) hctx hsome p
      rw [hrefused] at h
      exact hlost (Except.error.inj h)
    have hcleared : ∀ other ∈ call.operation,
        (p.clear operation).failures other ≠ some .beforeMutation := by
      intro other hother
      obtain rfl := Option.some.inj (hoperation.symm.trans hother)
      simp [DeterministicProvider.clear]
    obtain ⟨other, hother, hperform⟩ := perform_of_changed (hchange.clear operation) hcleared
    obtain rfl := Option.some.inj (hoperation.symm.trans hother)
    rw [perform_of_passes hctx, hperform]
    simp [respond, DeterministicProvider.clear]
  generalize p.perform P ctx call = result at houtcome h
  cases houtcome with
  | injected operates armed => cases h
  | refused notLost => exact absurd (Except.error.inj h) notLost
  | answered recorded => cases h
  | other reads same => cases h
  | changed operates change =>
    exact ⟨_, _, _, operates, change, .respond _ _, hclear operates change⟩

/-- A call succeeded with the answer, or the answer was lost: it is what the call would have
returned without the failure. -/
inductive Gave (P : Platform) (p : DeterministicProvider) (ctx : Context) (call : Call)
    (answer : Answer) : Prop
  | returned (result : (p.perform P ctx call).1 = .ok answer)
  | lost {operation : Operation} (operates : call.operation = some operation)
      (result : (p.perform P ctx call).1 = .error .responseLost)
      (cleared : ((p.clear operation).perform P ctx call).1 = .ok answer)

theorem Recorded.congr (h : Recorded p call answer) (hq : SameRecords p q) :
    Recorded q call answer :=
  h.continues fun {_ stored} hlookup => ⟨stored, hq.records.symm ▸ hlookup, .refl stored⟩

theorem respond_eq_ok {operation : Operation} {value : Answer}
    (h : (q.respond operation value).1 = .ok answer) : value = answer := by
  unfold respond at h
  split at h
  · cases h
  · exact Except.ok.inj h

theorem recorded_of_gave (h : Gave P p ctx call answer) (hcall : call.mutates = true) :
    Recorded (p.perform P ctx call).2 call answer := by
  cases h with
  | returned result =>
    have houtcome := perform_outcome (P := P) (p := p) ctx call
    generalize p.perform P ctx call = result at *
    cases houtcome with
    | injected operates armed => cases result
    | refused notLost => cases result
    | answered recorded => exact Except.ok.inj result ▸ recorded
    | other reads same => exact nomatch reads.symm.trans hcall
    | changed operates change =>
      obtain rfl := respond_eq_ok result
      exact (recorded_changed change).congr (.respond _ _)
  | lost operates result cleared =>
    obtain ⟨operation, other, q, hoperation, hchange, hsame, hother⟩ := changed_of_lost result
    obtain rfl := Option.some.inj (operates.symm.trans hoperation)
    obtain rfl := Except.ok.inj (cleared.symm.trans hother)
    exact (recorded_changed hchange).congr hsame

/-! ## The head and the checkpoints -/

theorem mem_all : stored ∈ p.all ↔ ∃ operationID, p.records.lookup operationID = some stored := by
  rw [DeterministicProvider.all, List.mem_map]
  constructor
  · rintro ⟨⟨operationID, current⟩, hmem, rfl⟩
    exact ⟨operationID, AList.mem_lookup_iff.mpr hmem⟩
  · rintro ⟨operationID, hlookup⟩
    exact ⟨⟨operationID, stored⟩, AList.mem_lookup_iff.mp hlookup, rfl⟩

/-- The number of a record's reservation. -/
def DeterministicRecord.sequence (stored : DeterministicRecord) : ℕ :=
  stored.record.reservation.sequence

/-- The head with this newest reservation and this latest committed operation. -/
def headOf (epoch : ℕ) (newest latest : Option DeterministicRecord) : Head where
  epoch := epoch
  latestReservedSequence := newest.elim 0 DeterministicRecord.sequence
  latestCommittedSequence := latest.elim 0 DeterministicRecord.sequence
  latestReservationDigest := newest.elim Digest.zero fun stored =>
    stored.record.reservation.reservationDigest
  latestCommittedOperationID := latest.elim UUID.zero fun stored =>
    stored.record.reservation.operationID
  latestCommittedReceiptDigest := (latest.bind DeterministicRecord.committed).elim Digest.zero
    Receipt.receiptDigest
  latestCommittedDatabasePoint := (latest.bind DeterministicRecord.committed).bind
    Receipt.databasePoint

/-- What the loop of `Head` keeps, in whatever order it walks. -/
theorem headStep_foldl (epoch nextSequence : ℕ) {order : List DeterministicRecord}
    (hpos : ∀ stored ∈ order, 0 < stored.sequence) :
    ∃ newest latest, Latest (fun stored => stored.sequence = nextSequence)
        DeterministicRecord.sequence order newest ∧
      Latest (fun stored => stored.committed.isSome) DeterministicRecord.sequence order latest ∧
      order.foldl (headStep nextSequence)
          ⟨epoch, nextSequence, 0, Digest.zero, UUID.zero, Digest.zero, none⟩ =
        { headOf epoch newest latest with latestReservedSequence := nextSequence } := by
  induction order using List.reverseRecOn with
  | nil => exact ⟨none, none, .nil, .nil, rfl⟩
  | append_singleton order stored ih =>
    obtain ⟨newest, latest, hnewest, hlatest, hfold⟩ :=
      ih fun other hother => hpos other (List.mem_append_left _ hother)
    have hstored := hpos stored (List.mem_append_right _ (List.mem_singleton_self stored))
    obtain ⟨newest', hnewest', hdigest⟩ : ∃ newest', Latest
        (fun stored => stored.sequence = nextSequence) DeterministicRecord.sequence
          (order ++ [stored]) newest' ∧
        (if stored.record.reservation.sequence = nextSequence then
          { headOf epoch newest latest with
            latestReservedSequence := nextSequence
            latestReservationDigest := stored.record.reservation.reservationDigest }
        else { headOf epoch newest latest with latestReservedSequence := nextSequence }) =
          { headOf epoch newest' latest with latestReservedSequence := nextSequence } := by
      split
      · next hcount =>
        refine ⟨some stored, hnewest.take hcount fun other hother => ?_, rfl⟩
        subst hother
        exact Nat.le_of_eq (hnewest.count.trans hcount.symm)
      · next hcount => exact ⟨newest, hnewest.skip hcount, rfl⟩
    rw [List.foldl_append, hfold, List.foldl_cons, List.foldl_nil]
    unfold headStep
    rw [hdigest]
    cases hcommitted : stored.committed with
    | none => exact ⟨newest', latest, hnewest', hlatest.skip (by simp [hcommitted]), rfl⟩
    | some receipt =>
      dsimp only
      split
      · next hle =>
        cases latest with
        | none => exact absurd hle (Nat.not_le.mpr hstored)
        | some best => exact ⟨newest', some best, hnewest', hlatest.keep hle, rfl⟩
      · next hgt =>
        refine ⟨newest', some stored, hnewest', hlatest.take (by simp [hcommitted]) ?_, ?_⟩
        · intro best hbest
          subst hbest
          exact Nat.le_of_not_le hgt
        · simp [headOf, hcommitted, DeterministicRecord.sequence]

/-- The scope of a record is the node's or that of all nodes, and it is committed. -/
def CommittedFor (P : Platform) (nodeScopeDigest : Digest) (stored : DeterministicRecord) : Prop :=
  stored.committed.isSome ∧
    (stored.record.reservation.scopeKind = .node ∧
        stored.record.reservation.scopeDigest = nodeScopeDigest ∨
      stored.record.reservation.scopeKind = .globalNodeTrust ∧
        stored.record.reservation.scopeDigest = globalNodeScopeDigest P)

/-- The checkpoint at this committed operation. -/
def checkpointOf (epoch : ℕ) (latest : Option DeterministicRecord) : NodeCheckpoint where
  authorityEpoch := epoch
  sequence := latest.elim 0 DeterministicRecord.sequence
  receiptDigest := (latest.bind DeterministicRecord.committed).elim Digest.zero
    Receipt.receiptDigest

/-- What the loop of `CommittedNodeCheckpoint` keeps, in whatever order it walks. -/
theorem checkpointStep_foldl (epoch : ℕ) (nodeScopeDigest : Digest)
    {order : List DeterministicRecord} (hpos : ∀ stored ∈ order, 0 < stored.sequence) :
    ∃ latest, Latest (CommittedFor P nodeScopeDigest) DeterministicRecord.sequence order latest ∧
      order.foldl (checkpointStep P nodeScopeDigest) ⟨epoch, 0, Digest.zero⟩ =
        checkpointOf epoch latest := by
  induction order using List.reverseRecOn with
  | nil => exact ⟨none, .nil, rfl⟩
  | append_singleton order stored ih =>
    obtain ⟨latest, hlatest, hfold⟩ :=
      ih fun other hother => hpos other (List.mem_append_left _ hother)
    have hstored := hpos stored (List.mem_append_right _ (List.mem_singleton_self stored))
    rw [List.foldl_append, hfold, List.foldl_cons, List.foldl_nil]
    unfold checkpointStep
    cases hcommitted : stored.committed with
    | none => exact ⟨latest, hlatest.skip fun h => by simp [CommittedFor, hcommitted] at h, rfl⟩
    | some receipt =>
      dsimp only
      split
      · next hle =>
        cases latest with
        | none => exact absurd hle (Nat.not_le.mpr hstored)
        | some best => exact ⟨some best, hlatest.keep hle, rfl⟩
      · next hgt =>
        split
        · next hscope =>
          refine ⟨some stored, hlatest.take ⟨by simp [hcommitted], hscope⟩ ?_, ?_⟩
          · intro best hbest
            subst hbest
            exact Nat.le_of_not_le hgt
          · simp [checkpointOf, hcommitted, DeterministicRecord.sequence]
        · next hscope => exact ⟨latest, hlatest.skip fun h => hscope h.2, rfl⟩

theorem Intact.sequence_pos (h : Intact P p) :
    ∀ stored ∈ p.all, 0 < stored.sequence ∧ stored.sequence ≤ p.nextSequence := by
  intro stored hstored
  obtain ⟨operationID, hlookup⟩ := mem_all.mp hstored
  exact (h.numbered.exactly _).mp ⟨operationID, stored, hlookup, rfl⟩

theorem Intact.sequence_injective (h : Intact P p) :
    ∀ stored ∈ p.all, ∀ stored' ∈ p.all, stored.sequence = stored'.sequence →
      stored = stored' := by
  intro stored hstored stored' hstored' hsequence
  obtain ⟨operationID, hlookup⟩ := mem_all.mp hstored
  obtain ⟨operationID', hlookup'⟩ := mem_all.mp hstored'
  obtain rfl := h.numbered.injective hlookup hlookup' hsequence
  exact Option.some.inj (hlookup.symm.trans hlookup')

/-- The record with the last number is the newest, and without it there is none. -/
theorem Intact.newest (h : Intact P p) {newest : Option DeterministicRecord}
    (hnewest : Latest (fun stored => stored.sequence = p.nextSequence)
      DeterministicRecord.sequence p.all newest) :
    newest.elim 0 DeterministicRecord.sequence = p.nextSequence ∧
      Latest (fun _ => True) DeterministicRecord.sequence p.all newest := by
  cases hnewest with
  | none absent =>
    have hzero : p.nextSequence = 0 := by
      by_contra hne
      obtain ⟨operationID, stored, hlookup, hlast⟩ :=
        (h.numbered.exactly p.nextSequence).mpr ⟨Nat.one_le_iff_ne_zero.mpr hne, Nat.le_refl _⟩
      exact absent stored (mem_all.mpr ⟨operationID, hlookup⟩) hlast
    refine ⟨hzero.symm, .none fun stored hstored => ?_⟩
    have := h.sequence_pos stored hstored
    omega
  | some mem count above =>
    refine ⟨count, .some mem trivial fun stored hstored _ => ?_⟩
    exact Nat.le_trans (h.sequence_pos stored hstored).2 (Nat.le_of_eq count.symm)

/-- The receipt of a committed record has a digest and a valid position. -/
theorem SoundRecord.committed_receipt (h : SoundRecord P epoch operationID stored)
    (hcommitted : stored.committed = some receipt) :
    receipt.receiptDigest ≠ Digest.zero ∧ receipt.databasePoint.any DatabasePoint.validate := by
  obtain ⟨hterminal, hstatus⟩ := Option.filter_eq_some_iff.mp hcommitted
  have hvalid : receipt.validate P = true := by
    have hrecord := h.valid
    simp only [Record.validate, hterminal, Bool.and_eq_true] at hrecord
    exact hrecord.2.1.1.1
  have hbinding := receipt.validBinding_of_validate hvalid
  simp only [Receipt.validate, of_decide_eq_true hstatus, Bool.and_eq_true, bne_iff_ne] at hvalid
  refine ⟨hvalid.1.1.1.2, ?_⟩
  obtain ⟨digest, hdigest⟩ := Option.isSome_iff_exists.mp hvalid.1.2.1.1
  obtain ⟨point, hpoint⟩ := Option.isSome_iff_exists.mp hvalid.1.2.1.2
  rw [hdigest, hpoint, validBinding, Bool.and_eq_true] at hbinding
  rw [hpoint]
  exact hbinding.2

theorem Reservation.validOperationID (h : reservation.validate P = true) :
    Authority.validOperationID reservation.operationID = true := by
  simp only [Reservation.validate, ReserveRequest.validate, Bool.and_eq_true] at h
  exact h.1.1.1.1.1.1

theorem Reservation.digest_of_validate (h : reservation.validate P = true) :
    Authority.reservationDigest P reservation = some reservation.reservationDigest := by
  simp only [Reservation.validate, Bool.and_eq_true, beq_iff_eq] at h
  exact h.2

/-- The digest of the newest reservation is zero, which its head does not admit. -/
def ZeroDigest (P : Platform) (newest : Option DeterministicRecord) : Prop :=
  ∃ stored ∈ newest, reservationDigest P stored.record.reservation = some Digest.zero

/-- The head of a sound provider is valid, unless the newest reservation has the digest zero. -/
theorem Intact.headOf_validate (h : Intact P p) {newest latest : Option DeterministicRecord}
    (hnewest : Latest (fun _ => True) DeterministicRecord.sequence p.all newest)
    (hlatest : Latest (fun stored => stored.committed.isSome) DeterministicRecord.sequence p.all
      latest) :
    (headOf p.epoch newest latest).validate = true ∨ ZeroDigest P newest := by
  cases hnewest with
  | none absent =>
    cases hlatest with
    | none _ => exact Or.inl (by simp [headOf, Head.validate, h.epoch])
    | some mem _ _ => exact absurd trivial (absent _ mem)
  | @some newest hmem _ above =>
    obtain ⟨operationID, hlookup⟩ := mem_all.mp hmem
    obtain ⟨hpos, hle⟩ := h.sequence_pos newest hmem
    have hbound := Nat.le_trans hle h.bound
    by_cases hzero : newest.record.reservation.reservationDigest = Digest.zero
    · refine Or.inr ⟨newest, rfl, ?_⟩
      rw [← hzero]
      exact Reservation.digest_of_validate (Record.reservation_validate (h.records hlookup).valid)
    have hzero := beq_eq_false_iff_ne.mpr hzero
    refine Or.inl ?_
    cases hlatest with
    | none _ => simp [headOf, Head.validate, h.epoch, hzero, hbound, Nat.ne_of_gt hpos]
    | @some latest hmem' hcommitted _ =>
      obtain ⟨operationID', hlookup'⟩ := mem_all.mp hmem'
      obtain ⟨receipt, hreceipt⟩ := Option.isSome_iff_exists.mp hcommitted
      obtain ⟨hpos', hle'⟩ := h.sequence_pos latest hmem'
      have hsound := h.records hlookup'
      obtain ⟨hdigest, hpoint⟩ := hsound.committed_receipt hreceipt
      have hdigest := bne_iff_ne.mpr hdigest
      have hoperation := Reservation.validOperationID (Record.reservation_validate hsound.valid)
      simp [headOf, Head.validate, h.epoch, hzero, hbound, Nat.ne_of_gt hpos, Nat.ne_of_gt hpos',
        Nat.le_trans hle' h.bound, above latest hmem' trivial, hreceipt, hdigest, hpoint,
        hoperation]

/-- A committed checkpoint of a sound provider is valid. -/
theorem Intact.checkpointOf_validate (h : Intact P p) {nodeScopeDigest : Digest}
    {latest : Option DeterministicRecord}
    (hlatest : Latest (CommittedFor P nodeScopeDigest) DeterministicRecord.sequence p.all
      latest) : (checkpointOf p.epoch latest).validate = true := by
  cases hlatest with
  | none _ => simp [checkpointOf, NodeCheckpoint.validate, h.epoch]
  | @some latest hmem hcommitted _ =>
    obtain ⟨operationID, hlookup⟩ := mem_all.mp hmem
    obtain ⟨receipt, hreceipt⟩ := Option.isSome_iff_exists.mp hcommitted.1
    obtain ⟨hpos, hle⟩ := h.sequence_pos latest hmem
    obtain ⟨hdigest, -⟩ := (h.records hlookup).committed_receipt hreceipt
    have hdigest := beq_eq_false_iff_ne.mpr hdigest
    simp [checkpointOf, NodeCheckpoint.validate, h.epoch, Nat.ne_of_gt hpos,
      Nat.le_trans hle h.bound, hreceipt, hdigest]

/-! ## Every run -/

/-- What holds of a provider in every state that calls can bring it to. -/
structure RunsCorrectly (P : Platform) (p : DeterministicProvider) : Prop where
  /-- The reserved numbers are those from one to the last, one for each operation. -/
  numbered : Numbered p
  /-- Every record is valid, and it has ended in one way at most. -/
  valid : ∀ {operationID stored}, p.records.lookup operationID = some stored →
    stored.record.validate P = true ∧ Standing stored
  /-- A record that has ended never changes. -/
  ended : ∀ {operationID stored}, p.records.lookup operationID = some stored →
    stored.record.terminalReceipt.isSome → ∀ later : List (Context × Call),
      (p.after P later).records.lookup operationID = some stored
  /-- A call that fails otherwise than by losing its response changes nothing; at most it uses up
  the failure that was armed for it. -/
  failed : ∀ ctx call err, (p.perform P ctx call).1 = .error err → err ≠ .responseLost →
    (p.perform P ctx call).2 = p ∨
      err = .injectedFailure ∧ ∃ operation, call.operation = some operation ∧
        (p.perform P ctx call).2 = p.clear operation
  /-- When a response is lost, there is an answer that was lost. -/
  lost : ∀ ctx call, (p.perform P ctx call).1 = .error .responseLost →
    ∃ answer, Gave P p ctx call answer
  /-- A call that was answered, or whose answer was lost, is given that answer whenever it is made
  again, and then changes nothing. -/
  repeated : ∀ ctx call answer, call.mutates = true → Gave P p ctx call answer →
    ∀ (later : List (Context × Call)) call' q, SameCall call call' →
      q = (p.perform P ctx call).2.after P later →
      (∀ operation ∈ call'.operation, q.failures operation ≠ some .beforeMutation) →
      q.perform P .live call' = (.ok answer, q)
  /-- The head is that of the newest reservation and of the latest committed operation, unless
  SHA-256 takes the newest reservation to zero. -/
  head : ∃ newest latest, Latest (fun _ => True) DeterministicRecord.sequence p.all newest ∧
    Latest (fun stored => stored.committed.isSome) DeterministicRecord.sequence p.all latest ∧
    ∀ order, order.Perm p.all → p.failures .head ≠ some .beforeMutation →
      p.headIn order = (.ok (headOf p.epoch newest latest), p) ∨ ZeroDigest P newest
  /-- The checkpoint of a node is at the latest operation that was committed for it. -/
  checkpoint : ∀ nodeScopeDigest, nodeScopeDigest ≠ Digest.zero →
    nodeScopeDigest ≠ globalNodeScopeDigest P → nodeScopeDigest ≠ globalOperatorScopeDigest P →
    ∃ latest, Latest (CommittedFor P nodeScopeDigest) DeterministicRecord.sequence p.all latest ∧
      ∀ order, order.Perm p.all →
        p.committedNodeCheckpointIn P order nodeScopeDigest = .ok (checkpointOf p.epoch latest)

/-- A sound provider is correct. -/
theorem Intact.runsCorrectly (h : Intact P p) : RunsCorrectly P p where
  numbered := h.numbered
  valid hlookup := ⟨(h.records hlookup).valid, (h.records hlookup).standing⟩
  ended := by
    intro operationID stored hlookup hended later
    obtain ⟨stored', hlookup', hcontinues⟩ := continues_after (P := P) later hlookup
    rw [hlookup', hcontinues.ended hended]
  failed := by
    intro ctx call err herror hlost
    have houtcome := perform_outcome (P := P) (p := p) ctx call
    generalize p.perform P ctx call = result at *
    cases houtcome with
    | injected operates armed => exact Or.inr ⟨(Except.error.inj herror).symm, _, operates, rfl⟩
    | refused notLost => exact Or.inl rfl
    | answered recorded => cases herror
    | other reads same => cases herror
    | @changed operation answer q operates change =>
      unfold respond at herror
      split at herror
      · exact absurd (Except.error.inj herror).symm hlost
      · cases herror
  lost := by
    intro ctx call hlost
    obtain ⟨operation, answer, q, hoperation, -, -, hcleared⟩ := changed_of_lost hlost
    exact ⟨answer, .lost hoperation hlost hcleared⟩
  repeated := by
    intro ctx call answer hcall hgave later call' q hsame hq harmed
    have hrecorded : Recorded q call answer := by
      rw [hq]
      exact (recorded_of_gave hgave hcall).continues (continues_after later)
    exact perform_of_recorded (hrecorded.same hsame) harmed
  head := by
    have hpos := fun stored hstored => (h.sequence_pos stored hstored).1
    obtain ⟨newest, latest, hnewest, hlatest, -⟩ := headStep_foldl p.epoch p.nextSequence hpos
    obtain ⟨hlast, hall⟩ := h.newest hnewest
    refine ⟨newest, latest, hall, hlatest, fun order hperm harmed => ?_⟩
    -- Another order keeps the same records, as their numbers differ.
    obtain ⟨newest', latest', hnewest', hlatest', hfold⟩ := headStep_foldl p.epoch p.nextSequence
      fun stored hstored => hpos stored (hperm.mem_iff.mp hstored)
    have hmem : ∀ stored, stored ∈ p.all ↔ stored ∈ order := fun stored => hperm.mem_iff.symm
    obtain rfl := (hnewest'.congr hmem fun _ _ => Iff.rfl).unique hnewest h.sequence_injective
    obtain rfl := (hlatest'.congr hmem fun _ _ => Iff.rfl).unique hlatest h.sequence_injective
    have hhead : ({ headOf p.epoch newest' latest' with
        latestReservedSequence := p.nextSequence } : Head) = headOf p.epoch newest' latest' := by
      rw [← hlast]
      rfl
    rcases h.headOf_validate hall hlatest with hvalid | hzero
    · refine Or.inl ?_
      simp only [headIn, if_neg harmed, hfold, hhead, hvalid, if_true]
    · exact Or.inr hzero
  checkpoint := by
    intro nodeScopeDigest hzero hnode hoperator
    have hpos := fun stored hstored => (h.sequence_pos stored hstored).1
    obtain ⟨latest, hlatest, -⟩ := checkpointStep_foldl (P := P) p.epoch nodeScopeDigest hpos
    refine ⟨latest, hlatest, fun order hperm => ?_⟩
    obtain ⟨latest', hlatest', hfold⟩ := checkpointStep_foldl (P := P) p.epoch nodeScopeDigest
      fun stored hstored => hpos stored (hperm.mem_iff.mp hstored)
    have hmem : ∀ stored, stored ∈ p.all ↔ stored ∈ order := fun stored => hperm.mem_iff.symm
    obtain rfl := (hlatest'.congr hmem fun _ _ => Iff.rfl).unique hlatest h.sequence_injective
    simp only [committedNodeCheckpointIn, hzero, hnode, hoperator, or_self, if_false, hfold,
      h.checkpointOf_validate hlatest, if_true]

/-- **Runs of the provider.**  After any sequence of calls, in whatever contexts and with whatever
failures injected, a provider that was started is correct. -/
theorem provider_runs (P : Platform) {epoch : ℕ} {start : DeterministicProvider}
    (hstart : newDeterministicProvider epoch = some start) (calls : List (Context × Call)) :
    RunsCorrectly P (start.after P calls) := ((Intact.start hstart).after calls).runsCorrectly

/-- A platform whose canonical form is the text itself and whose digests are all alike. -/
def echoPlatform : Platform := ⟨some, fun _ => [], fun _ => Octets.replicate 32 1⟩

/-- The operation of the run below. -/
def reservedOperation : UUID := Octets.replicate 16 0x81

/-- A reservation whose response is lost, and its end by a position that is not canonical. -/
def grantCalls : List (Context × Call) :=
  [(.live, .failNext .reserve .afterMutationResponseLost),
   (.live, .reserve ⟨reservedOperation, .grantCreate, .node, Octets.replicate 32 2⟩),
   (.live, .finalize ⟨reservedOperation, Octets.replicate 32 3, 1, 1, ascii "0/00A0"⟩)]

theorem grantCalls_correct :
    ((⟨1, 0, ∅, fun _ => none⟩ : DeterministicProvider).after echoPlatform
        grantCalls).nextSequence = 1 ∧
      RunsCorrectly echoPlatform
        ((⟨1, 0, ∅, fun _ => none⟩ : DeterministicProvider).after echoPlatform grantCalls) :=
  ⟨by decide +kernel, provider_runs echoPlatform (show newDeterministicProvider 1 = _ from rfl)
    grantCalls⟩

end Talenro.Authority
