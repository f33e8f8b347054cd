import Talenro.Analysis.PlainPlatform
import Talenro.Model.Authority.ProofOwners

/-!
# When a stored fence can be read

A row of the table of fences says by its columns which record it stores and which claim.  For a
row that the table admits, `storedFenceFromV7Row` finds them exactly when the columns have sound
values (`storedFence_iff_sound`).  After that `GetStoredFence` and `Lock` look for the proof owner
and take its absence, beside a terminal receipt, for a failure; and they take a checkpoint and time
bounds only together, which the database admits only apart.  `stored_fence_read_iff` says for every
state that the database admits whether the two methods return the record and the claim.
-/

set_option autoImplicit false

namespace Talenro.Authority

open Lib Lib.Calendar

/-! ## What the columns of a fence say -/

namespace FenceRow

/-- The reservation of a row. -/
def reservation (operationID : UUID) (row : FenceRow) : Reservation where
  operationID := operationID
  kind := row.effectKind
  scopeKind := row.scopeKind
  scopeDigest := row.scopeDigest
  epoch := row.authorityEpoch
  sequence := row.authoritySequence
  reservationDigest := row.providerReservationDigest

/-- The position of a bound row. -/
def point (row : FenceRow) : Option DatabasePoint := do
  let systemID ← row.dbSystemID
  let timeline ← row.dbTimeline
  let requiredLSN ← row.requiredLSN
  pure ⟨systemID, timeline, requiredLSN⟩

/-- The terminal receipt of a row. -/
def receipt (operationID : UUID) (row : FenceRow) : Option Receipt :=
  row.providerReceiptDigest.bind fun digest =>
    match row.providerStatus with
    | .reserved => none
    | .committed => some ⟨row.reservation operationID, row.effectDigest, row.point, .committed,
        none, digest⟩
    | .aborted => some ⟨row.reservation operationID, none, none, .aborted, row.abortReason, digest⟩

/-- The record of a row. -/
def record (operationID : UUID) (row : FenceRow) : Record :=
  ⟨row.reservation operationID, row.effectDigest, row.point, row.receipt operationID⟩

/-- The claim of the abort of a row. -/
def abortClaim (row : FenceRow) : Option AbortClaim := do
  let reason ← row.abortReason
  let claimedAt ← row.abortClaimedAt
  pure ⟨reason, claimedAt⟩

/-- The terminal columns of a row have sound values. -/
def TerminalSound (P : Platform) (operationID : UUID) (row : FenceRow) : Prop :=
  row.terminalAt ≠ some 0 ∧ ∀ receipt ∈ row.receipt operationID, receipt.validate P = true

/-- The columns that a record is made of have sound values: the digests are those of the
reservation and the receipt, and no digest or time is zero. -/
structure RecordSound (P : Platform) (operationID : UUID) (row : FenceRow) : Prop where
  reservation : (row.reservation operationID).validate P = true
  reservationDigest : row.providerReservationDigest ≠ Digest.zero
  reservedAt : row.reservedAt ≠ 0
  boundAt : row.effectBoundAt ≠ some 0
  effectDigest : row.effectDigest ≠ some Digest.zero
  point : ∀ point ∈ row.point, point.validate = true
  terminal : row.TerminalSound P operationID

/-- The columns of a row of the profile `claim_v1` have sound values. -/
structure Sound (P : Platform) (operationID : UUID) (row : FenceRow) : Prop extends
    RecordSound P operationID row where
  activation : row.protocolActivationID.any validOperationID = true
  claimedAt : row.abortClaimedAt ≠ some 0

/-! ## The shapes of a row -/

/-- The columns of a binding. -/
inductive Bound (row : FenceRow) : Prop where
  | unbound (effectDigest : row.effectDigest = none) (dbSystemID : row.dbSystemID = none)
      (dbTimeline : row.dbTimeline = none) (requiredLSN : row.requiredLSN = none)
      (effectBoundAt : row.effectBoundAt = none)
  | bound {digest : Digest} {systemID : UInt64} {timeline : UInt32} {lsn : WALPosition}
      {boundAt : Instant} (effectDigest : row.effectDigest = some digest)
      (dbSystemID : row.dbSystemID = some systemID) (dbTimeline : row.dbTimeline = some timeline)
      (requiredLSN : row.requiredLSN = some lsn) (effectBoundAt : row.effectBoundAt = some boundAt)
      (late : row.reservedAt ≤ boundAt)

variable {row : FenceRow}

theorem bound_of_fenceCheck (h : fenceCheck row = true) : row.Bound := by
  simp only [fenceCheck, Bool.and_eq_true, bindingAllOrNone] at h
  obtain ⟨⟨⟨⟨⟨⟨⟨⟨⟨⟨-, hbinding⟩, -⟩, -⟩, -⟩, -⟩, -⟩, -⟩, hlate⟩, -⟩, -⟩ := h
  cases heffect : row.effectDigest <;> cases hsystem : row.dbSystemID <;>
    cases htimeline : row.dbTimeline <;> cases hlsn : row.requiredLSN <;>
    cases hbound : row.effectBoundAt <;>
    simp [heffect, hsystem, htimeline, hlsn, hbound] at hbinding hlate
  · exact .unbound heffect hsystem htimeline hlsn hbound
  · exact .bound heffect hsystem htimeline hlsn hbound hlate

/-- How far a fence of the profile `claim_v1` has come. -/
inductive Stage (row : FenceRow) : Prop where
  | reserved (status : row.providerStatus = .reserved)
      (visibility : row.visibilityState = .fencePending)
      (receiptDigest : row.providerReceiptDigest = none) (terminalAt : row.terminalAt = none)
      (claimedAt : row.abortClaimedAt = none) (reason : row.abortReason = none)
  | claimed {claimed : Instant} {claimReason : AbortReason}
      (status : row.providerStatus = .reserved) (visibility : row.visibilityState = .fencePending)
      (receiptDigest : row.providerReceiptDigest = none) (terminalAt : row.terminalAt = none)
      (claimedAt : row.abortClaimedAt = some claimed) (reason : row.abortReason = some claimReason)
      (unbound : row.effectDigest = none)
  | committed {digest effect : Digest} {ended : Instant} (status : row.providerStatus = .committed)
      (visibility : row.visibilityState = .active)
      (receiptDigest : row.providerReceiptDigest = some digest)
      (terminalAt : row.terminalAt = some ended) (late : row.reservedAt ≤ ended)
      (claimedAt : row.abortClaimedAt = none) (reason : row.abortReason = none)
      (bound : row.effectDigest = some effect)
  | aborted {digest : Digest} {ended claimed : Instant} {claimReason : AbortReason}
      (status : row.providerStatus = .aborted) (visibility : row.visibilityState = .aborted)
      (receiptDigest : row.providerReceiptDigest = some digest)
      (terminalAt : row.terminalAt = some ended) (late : row.reservedAt ≤ ended)
      (claimedAt : row.abortClaimedAt = some claimed) (reason : row.abortReason = some claimReason)
      (unbound : row.effectDigest = none)

theorem terminal_of_fenceCheck (h : fenceCheck row = true)
    (hstatus : row.providerStatus ≠ .reserved) : ∃ digest ended,
      row.providerReceiptDigest = some digest ∧ row.terminalAt = some ended ∧
        row.reservedAt ≤ ended := by
  simp only [fenceCheck, Bool.and_eq_true] at h
  obtain ⟨⟨⟨⟨⟨⟨⟨⟨⟨-, -⟩, hdigest⟩, hterminal⟩, -⟩, -⟩, hlate⟩, -⟩, -⟩, -⟩ := h
  rw [beq_eq_false_iff_ne.mpr hstatus] at hdigest hterminal
  cases hreceipt : row.providerReceiptDigest with
  | none => simp [hreceipt] at hdigest
  | some digest =>
    cases hended : row.terminalAt with
    | none => simp [hended] at hterminal
    | some ended => exact ⟨digest, ended, rfl, rfl, by simpa [hended] using hlate⟩

theorem stage_of_fenceCheck (h : fenceCheck row = true)
    (hprofile : row.authorityProtocolProfile = .claimV1) : row.Stage := by
  have hends := terminal_of_fenceCheck h
  simp only [fenceCheck, claimCheck, hprofile, Bool.and_eq_true] at h
  obtain ⟨⟨⟨⟨⟨⟨⟨⟨⟨-, hcommitted⟩, hdigest⟩, hterminal⟩, hactive⟩, haborted⟩, -⟩, -⟩, -⟩, hclaim⟩ := h
  obtain ⟨⟨⟨⟨⟨-, hpair⟩, hclaimed⟩, hunbound⟩, -⟩, -⟩ := hclaim
  cases hstatus : row.providerStatus with
  | reserved =>
    have hvisible : row.visibilityState = .fencePending := by
      cases hv : row.visibilityState <;> simp [hstatus, hv] at hactive haborted ⊢
    have hreceipt : row.providerReceiptDigest = none := by simpa [hstatus] using hdigest
    have hended : row.terminalAt = none := by simpa [hstatus] using hterminal
    cases hat : row.abortClaimedAt with
    | none => exact .reserved hstatus hvisible hreceipt hended hat (by simpa [hat] using hpair)
    | some claimed =>
      obtain ⟨reason, hreason⟩ := Option.isSome_iff_exists.mp (by simpa [hat] using hpair)
      exact .claimed hstatus hvisible hreceipt hended hat hreason (by simpa [hat] using hunbound)
  | committed =>
    have hvisible : row.visibilityState = .active := by simpa [hstatus] using hactive
    obtain ⟨digest, ended, hreceipt, hended, hlate⟩ := hends (by simp [hstatus])
    obtain ⟨effect, heffect⟩ := Option.isSome_iff_exists.mp (by simpa [hstatus] using hcommitted)
    have hat : row.abortClaimedAt = none := by simpa [heffect] using hunbound
    exact .committed hstatus hvisible hreceipt hended hlate hat
      (by simpa [hat] using hpair) heffect
  | aborted =>
    have hvisible : row.visibilityState = .aborted := by simpa [hstatus] using haborted
    obtain ⟨digest, ended, hreceipt, hended, hlate⟩ := hends (by simp [hstatus])
    obtain ⟨claimed, hat⟩ := Option.isSome_iff_exists.mp (by simpa [hstatus] using hclaimed)
    obtain ⟨reason, hreason⟩ := Option.isSome_iff_exists.mp (by simpa [hat] using hpair)
    exact .aborted hstatus hvisible hreceipt hended hlate hat hreason
      (by simpa [hat] using hunbound)

/-! ## Reading the columns -/

/-- The values of a bound row. -/
def binding (row : FenceRow) : Option (Digest × DatabasePoint × Instant) := do
  let effectDigest ← row.effectDigest
  let point ← row.point
  let boundAt ← row.effectBoundAt
  pure (effectDigest, point, boundAt)

end FenceRow

variable {db : ClaimDatabase} {digest : Digest} {row : FenceRow}
  {outcome : Option PersistedAuthorityEffectOutcome} {receipt : Option Receipt} {group : ProofGroup}
  {record : Record} {result : Record × Option AbortClaim} {operationID : UUID}

section Columns

variable {P : Platform}

theorem exactDigest_eq_ok {value : Digest} :
    exactDigest value = .ok digest ↔ value ≠ Digest.zero ∧ value = digest := by
  simp only [exactDigest, bind_eq_ok, require_eq_ok, pure_eq_ok, exists_and_left, exists_const]

theorem reservationFromRow_eq_ok {reservation : Reservation} :
    reservationFromRow P operationID row = .ok reservation ↔
      (row.reservation operationID).validate P = true ∧
        row.providerReservationDigest ≠ Digest.zero ∧ row.reservation operationID = reservation := by
  simp only [reservationFromRow, bind_eq_ok, require_eq_ok, pure_eq_ok, exactDigest_eq_ok]
  constructor
  · rintro ⟨-, -, _, ⟨-, rfl⟩, _, ⟨hdigest, rfl⟩, -, hvalid, rfl⟩
    exact ⟨hvalid, hdigest, rfl⟩
  · rintro ⟨hvalid, hdigest, rfl⟩
    have hparts := hvalid
    simp only [Reservation.validate, ReserveRequest.validate, validPositiveCoordinate,
      Bool.and_eq_true, decide_eq_true_eq, bne_iff_ne] at hparts
    exact ⟨(), ⟨hparts.1.1.2.1, hparts.1.2.1⟩, _, ⟨hparts.1.1.1.1.1.2, rfl⟩, _, ⟨hdigest, rfl⟩, (),
      hvalid, rfl⟩

theorem databasePoint_eq_ok {systemID : UInt64} {timeline : UInt32} {lsn : WALPosition}
    {point : DatabasePoint} : databasePoint systemID timeline lsn = .ok point ↔
      (DatabasePoint.mk systemID timeline lsn).validate = true ∧
        DatabasePoint.mk systemID timeline lsn = point := by
  simp only [databasePoint, bind_eq_ok, require_eq_ok, pure_eq_ok, exists_and_left, exists_const]

theorem optionalBinding_eq_ok (hrow : row.Bound)
    {binding : Option (Digest × DatabasePoint × Instant)} :
    optionalBinding row = .ok binding ↔
      row.effectBoundAt ≠ some 0 ∧ row.effectDigest ≠ some Digest.zero ∧
        (∀ point ∈ row.point, point.validate = true) ∧ row.binding = binding := by
  cases hrow with
  | unbound heffect hsystem htimeline hlsn hbound =>
    simp [optionalBinding, FenceRow.binding, FenceRow.point, heffect, hsystem, htimeline, hlsn,
      hbound, pure_eq_ok]
  | @bound digest systemID timeline lsn boundAt heffect hsystem htimeline hlsn hbound hlate =>
    have hpoint : row.point = some ⟨systemID, timeline, lsn⟩ := by
      simp [FenceRow.point, hsystem, htimeline, hlsn]
    have hbinding : row.binding = some (digest, ⟨systemID, timeline, lsn⟩, boundAt) := by
      simp [FenceRow.binding, heffect, hpoint, hbound]
    simp only [optionalBinding, heffect, hsystem, htimeline, hlsn, hbound, hpoint, hbinding,
      bind_eq_ok, pure_eq_ok, require_eq_ok, exactDigest_eq_ok, databasePoint_eq_ok, ne_eq,
      Option.some.injEq, Option.mem_some_iff, forall_eq']
    constructor
    · rintro ⟨-, hat, _, ⟨hdigest, rfl⟩, _, ⟨hvalid, rfl⟩, rfl⟩
      exact ⟨hat, hdigest, hvalid, rfl⟩
    · rintro ⟨hat, hdigest, hvalid, rfl⟩
      exact ⟨(), hat, _, ⟨hdigest, rfl⟩, _, ⟨hvalid, rfl⟩, rfl⟩

/-- The binding of an admitted row is not before its reservation. -/
theorem reservedAt_le_binding (hrow : row.Bound) :
    ∀ binding ∈ row.binding, row.reservedAt ≤ binding.2.2 := by
  intro binding hbinding
  cases hrow with
  | unbound heffect => simp [FenceRow.binding, heffect] at hbinding
  | bound heffect hsystem htimeline hlsn hbound hlate =>
    simp [FenceRow.binding, FenceRow.point, heffect, hsystem, htimeline, hlsn, hbound] at hbinding
    obtain rfl := hbinding
    exact hlate

/-- A binding with the time left out. -/
theorem map_binding (hrow : row.Bound) :
    (row.binding.map fun binding => (binding.1, binding.2.1)).map Prod.fst = row.effectDigest ∧
      (row.binding.map fun binding => (binding.1, binding.2.1)).map Prod.snd = row.point := by
  cases hrow with
  | unbound heffect hsystem =>
    simp [FenceRow.binding, FenceRow.point, heffect, hsystem]
  | bound heffect hsystem htimeline hlsn hbound hlate =>
    simp [FenceRow.binding, FenceRow.point, heffect, hsystem, htimeline, hlsn, hbound]

theorem receiptDigest_ne_zero {receipt : Receipt} (h : receipt.validate P = true) :
    receipt.receiptDigest ≠ Digest.zero := by
  simp only [Receipt.validate, Bool.and_eq_true, bne_iff_ne] at h
  exact h.1.1.1.2

theorem terminalReceiptFromRow_committed {effect : Digest} {ended : Instant} (hrow : row.Bound)
    (status : row.providerStatus = .committed) (visibility : row.visibilityState = .active)
    (hdigest : row.providerReceiptDigest = some digest) (hended : row.terminalAt = some ended)
    (hlate : row.reservedAt ≤ ended) (hreason : row.abortReason = none)
    (heffect : row.effectDigest = some effect) :
    terminalReceiptFromRow P (row.reservation operationID)
        (row.binding.map fun binding => (binding.1, binding.2.1)) row = .ok receipt ↔
      row.TerminalSound P operationID ∧ row.receipt operationID = receipt := by
  obtain ⟨hfst, hsnd⟩ := map_binding hrow
  have hbound : (row.binding.map fun binding => (binding.1, binding.2.1)).isSome = true := by
    rw [heffect] at hfst
    cases hb : row.binding.map fun binding => (binding.1, binding.2.1) with
    | none =>
      rw [hb] at hfst
      cases hfst
    | some b => rfl
  simp only [terminalReceiptFromRow, FenceRow.TerminalSound, FenceRow.receipt, status, visibility,
    hdigest, hended, hreason, hfst, hsnd, hbound, validTerminalAt, bind_eq_ok, require_eq_ok,
    pure_eq_ok, orThrow_some, exactDigest_eq_ok, Except.ok.injEq, Option.bind_some, Option.any_some,
    Bool.and_eq_true, bne_iff_ne, decide_eq_true_eq, Option.mem_some_iff, forall_eq', ne_eq,
    Option.some.injEq, true_and, and_true, hlate]
  constructor
  · rintro ⟨-, hat, _, rfl, _, ⟨-, rfl⟩, -, hvalid, rfl⟩
    exact ⟨⟨hat, hvalid⟩, rfl⟩
  · rintro ⟨⟨hat, hvalid⟩, rfl⟩
    exact ⟨(), hat, digest, rfl, digest, ⟨receiptDigest_ne_zero hvalid, rfl⟩, (), hvalid, rfl⟩

theorem terminalReceiptFromRow_aborted {ended : Instant} {reason : AbortReason}
    (status : row.providerStatus = .aborted) (visibility : row.visibilityState = .aborted)
    (hdigest : row.providerReceiptDigest = some digest) (hended : row.terminalAt = some ended)
    (hlate : row.reservedAt ≤ ended) (hreason : row.abortReason = some reason) :
    terminalReceiptFromRow P (row.reservation operationID) none row = .ok receipt ↔
      row.TerminalSound P operationID ∧ row.receipt operationID = receipt := by
  simp only [terminalReceiptFromRow, FenceRow.TerminalSound, FenceRow.receipt, status, visibility,
    hdigest, hended, hreason, validTerminalAt, abortedReceiptFromRow, bind_eq_ok, require_eq_ok,
    pure_eq_ok, orThrow_some, exactDigest_eq_ok, Except.ok.injEq, Option.bind_some, Option.any_some,
    Bool.and_eq_true, bne_iff_ne, decide_eq_true_eq, Option.mem_some_iff, forall_eq', ne_eq,
    Option.some.injEq, true_and, and_true, hlate]
  constructor
  · rintro ⟨-, hat, _, rfl, _, rfl, _, ⟨-, rfl⟩, built, hbuilt, rfl⟩
    split at hbuilt
    · rename_i hvalid
      rw [pure_eq_ok] at hbuilt
      exact ⟨⟨hat, hvalid⟩, congrArg some hbuilt⟩
    · cases hbuilt
  · rintro ⟨⟨hat, hvalid⟩, rfl⟩
    refine ⟨(), hat, reason, rfl, digest, rfl, digest, ⟨receiptDigest_ne_zero hvalid, rfl⟩, _, ?_, rfl⟩
    rw [if_pos hvalid]
    rfl

theorem terminalReceiptFromRow_reserved (status : row.providerStatus = .reserved)
    (visibility : row.visibilityState = .fencePending) (hdigest : row.providerReceiptDigest = none)
    (hended : row.terminalAt = none) (hreason : row.abortReason = none)
    (binding : Option (Digest × DatabasePoint)) :
    terminalReceiptFromRow P (row.reservation operationID) binding row = .ok receipt ↔
      row.TerminalSound P operationID ∧ row.receipt operationID = receipt := by
  simp [terminalReceiptFromRow, FenceRow.TerminalSound, FenceRow.receipt, status, visibility,
    hdigest, hended, hreason, require_of]

theorem authorityRecordFromRow_eq_ok (hrow : row.Bound)
    (hterminal : ∀ receipt, terminalReceiptFromRow P (row.reservation operationID)
        (row.binding.map fun binding => (binding.1, binding.2.1)) row = .ok receipt ↔
      row.TerminalSound P operationID ∧ row.receipt operationID = receipt) :
    authorityRecordFromRow P operationID row = .ok record ↔
      row.RecordSound P operationID ∧ row.record operationID = record := by
  obtain ⟨hfst, hsnd⟩ := map_binding hrow
  simp only [authorityRecordFromRow, bind_eq_ok, require_eq_ok, pure_eq_ok,
    reservationFromRow_eq_ok, optionalBinding_eq_ok hrow]
  constructor
  · rintro ⟨_, ⟨hvalid, hdigest, rfl⟩, -, hat, _, ⟨hbound, heffect, hpoint, rfl⟩, -, -, receipt,
      hreceipt, rfl⟩
    obtain ⟨hsound, rfl⟩ := (hterminal receipt).mp hreceipt
    refine ⟨⟨hvalid, hdigest, hat, hbound, heffect, hpoint, hsound⟩, ?_⟩
    rw [FenceRow.record, hfst, hsnd]
  · rintro ⟨hsound, rfl⟩
    refine ⟨_, ⟨hsound.reservation, hsound.reservationDigest, rfl⟩, (), hsound.reservedAt, _,
      ⟨hsound.boundAt, hsound.effectDigest, hsound.point, rfl⟩, (), reservedAt_le_binding hrow, _,
      (hterminal _).mpr ⟨hsound.terminal, rfl⟩, ?_⟩
    rw [FenceRow.record, hfst, hsnd]

/-- The record of a claimed row is read from the row without its reason. -/
theorem recordSound_withoutReason (hdigest : row.providerReceiptDigest = none) :
    FenceRow.RecordSound P operationID { row with abortReason := none } ↔
      row.RecordSound P operationID := by
  have hreceipt : FenceRow.receipt operationID { row with abortReason := none } =
      row.receipt operationID := by
    simp [FenceRow.receipt, hdigest]
  constructor
  · rintro ⟨h₁, h₂, h₃, h₄, h₅, h₆, h₇⟩
    exact ⟨h₁, h₂, h₃, h₄, h₅, h₆, h₇.1, hreceipt ▸ h₇.2⟩
  · rintro ⟨h₁, h₂, h₃, h₄, h₅, h₆, h₇⟩
    exact ⟨h₁, h₂, h₃, h₄, h₅, h₆, h₇.1, hreceipt ▸ h₇.2⟩

theorem storedFenceFromV7Row_unclaimed (hprofile : row.authorityProtocolProfile = .claimV1)
    (hat : row.abortClaimedAt = none) (hreason : row.abortReason = none)
    (hrecord : ∀ record, authorityRecordFromRow P operationID row = .ok record ↔
      row.RecordSound P operationID ∧ row.record operationID = record) :
    storedFenceFromV7Row P operationID row = .ok result ↔
      row.Sound P operationID ∧ (row.record operationID, row.abortClaim) = result := by
  have hclaim : row.abortClaim = none := by simp [FenceRow.abortClaim, hreason]
  simp only [storedFenceFromV7Row, hprofile, hat, hreason, hclaim, bind_eq_ok, require_eq_ok,
    pure_eq_ok, hrecord]
  constructor
  · rintro ⟨-, hactivation, _, ⟨hsound, rfl⟩, rfl⟩
    exact ⟨⟨hsound, hactivation.1, by simp [hat]⟩, rfl⟩
  · rintro ⟨hsound, rfl⟩
    exact ⟨(), ⟨hsound.activation, rfl⟩, _, ⟨hsound.toRecordSound, rfl⟩, rfl⟩

theorem storedFenceFromV7Row_claimed {claimed : Instant} {reason : AbortReason}
    (hprofile : row.authorityProtocolProfile = .claimV1) (hat : row.abortClaimedAt = some claimed)
    (hreason : row.abortReason = some reason) (heffect : row.effectDigest = none)
    (hrecord : ∀ record, authorityRecordFromRow P operationID
        (if row.providerStatus = .reserved then { row with abortReason := none } else row) =
          .ok record ↔ row.RecordSound P operationID ∧ row.record operationID = record) :
    storedFenceFromV7Row P operationID row = .ok result ↔
      row.Sound P operationID ∧ (row.record operationID, row.abortClaim) = result := by
  have hclaim : row.abortClaim = some ⟨reason, claimed⟩ := by
    simp [FenceRow.abortClaim, hreason, hat]
  unfold storedFenceFromV7Row
  generalize (if row.providerStatus = .reserved then ({ row with abortReason := none } : FenceRow)
    else row) = read at hrecord ⊢
  simp only [hprofile, hat, hreason, hclaim, bind_eq_ok, require_eq_ok, pure_eq_ok, hrecord]
  constructor
  · rintro ⟨-, hactivation, -, hsome, _, ⟨hsound, rfl⟩, rfl⟩
    exact ⟨⟨hsound, hactivation.1, by simpa [hat] using hsome.1⟩, rfl⟩
  · rintro ⟨hsound, rfl⟩
    have hne : claimed ≠ 0 := by simpa [hat] using hsound.claimedAt
    exact ⟨(), ⟨hsound.activation, rfl⟩, (), ⟨hne, heffect⟩, _, ⟨hsound.toRecordSound, rfl⟩, rfl⟩

/-- A row of the profile `claim_v1` is read exactly when its columns are sound, and then as what
they say. -/
theorem storedFenceFromV7Row_eq_ok (hcheck : fenceCheck row = true)
    (hprofile : row.authorityProtocolProfile = .claimV1) :
    storedFenceFromV7Row P operationID row = .ok result ↔
      row.Sound P operationID ∧ (row.record operationID, row.abortClaim) = result := by
  have hrow := FenceRow.bound_of_fenceCheck hcheck
  cases FenceRow.stage_of_fenceCheck hcheck hprofile with
  | reserved status visibility hdigest hended hat hreason =>
    refine storedFenceFromV7Row_unclaimed hprofile hat hreason fun record => ?_
    exact authorityRecordFromRow_eq_ok hrow fun receipt =>
      terminalReceiptFromRow_reserved status visibility hdigest hended hreason _
  | claimed status visibility hdigest hended hat hreason heffect =>
    refine storedFenceFromV7Row_claimed hprofile hat hreason heffect fun record => ?_
    rw [if_pos status, ← recordSound_withoutReason hdigest]
    have hrecord : FenceRow.record operationID { row with abortReason := none } =
        row.record operationID := by
      simp [FenceRow.record, FenceRow.receipt, FenceRow.reservation, FenceRow.point, hdigest]
    rw [← hrecord]
    have hbound : FenceRow.Bound { row with abortReason := none } := by
      cases hrow with
      | unbound h₁ h₂ h₃ h₄ h₅ => exact .unbound h₁ h₂ h₃ h₄ h₅
      | bound h₁ h₂ h₃ h₄ h₅ h₆ => exact .bound h₁ h₂ h₃ h₄ h₅ h₆
    exact authorityRecordFromRow_eq_ok hbound fun receipt =>
      terminalReceiptFromRow_reserved
        (show FenceRow.providerStatus { row with abortReason := none } = .reserved from status)
        visibility hdigest hended rfl _
  | committed status visibility hdigest hended hlate hat hreason heffect =>
    refine storedFenceFromV7Row_unclaimed hprofile hat hreason fun record => ?_
    exact authorityRecordFromRow_eq_ok hrow fun receipt =>
      terminalReceiptFromRow_committed hrow status visibility hdigest hended hlate hreason heffect
  | aborted status visibility hdigest hended hlate hat hreason heffect =>
    refine storedFenceFromV7Row_claimed hprofile hat hreason heffect fun record => ?_
    have hbinding : row.binding = none := by simp [FenceRow.binding, heffect]
    rw [if_neg (by simp [status])]
    refine authorityRecordFromRow_eq_ok hrow fun receipt => ?_
    rw [hbinding]
    exact terminalReceiptFromRow_aborted status visibility hdigest hended hlate hreason

theorem validOperationID_of_validate {reservation : Reservation}
    (h : reservation.validate P = true) : validOperationID reservation.operationID = true := by
  simp only [Reservation.validate, ReserveRequest.validate, Bool.and_eq_true] at h
  exact h.1.1.1.1.1.1

end Columns

variable {P : ArtifactPlatform}

/-! ## Reading a proof -/

/-- The text is an artifact of the kind, with this digest. -/
def Holds (P : ArtifactPlatform) (kind : PersistedAuthorityArtifactKind)
    (jcs digest : Option Bytes) (value : Bytes × Digest) : Prop :=
  jcs = some value.1 ∧ digest = some value.2.1 ∧ value.2 ≠ Digest.zero ∧
    computedDigest P kind value.1 = some value.2

/-- The two columns hold an artifact of the kind. -/
def Readable (P : ArtifactPlatform) (kind : PersistedAuthorityArtifactKind)
    (jcs digest : Option Bytes) : Prop :=
  ∃ value, Holds P kind jcs digest value

/-- A terminal proof whose artifacts can be read, without a checkpoint and without time bounds. -/
structure TerminalReadable (P : ArtifactPlatform) (group : ProofGroup) : Prop where
  commitment : Readable P .commitment group.commitmentJCS group.commitmentDigest
  providerHead : Readable P .providerHead group.providerHeadJCS group.providerHeadDigest
  evidence : Readable P .evidence group.activationEvidenceJCS group.activationEvidenceDigest
  resolution : Readable P .resolution group.effectResolutionJCS group.effectResolutionDigest
  checkpoint : group.checkpointAnchorJCS = none
  bounds : group.attestationExpiresAt = none

theorem exactColumnDigest_eq_ok {column : Option Bytes} {value : Digest} :
    exactColumnDigest column = .ok value ↔ column = some value.1 ∧ value ≠ Digest.zero := by
  cases column with
  | none => simp [exactColumnDigest, throw, throwThe, MonadExceptOf.throw]
  | some text =>
    unfold exactColumnDigest
    by_cases hlength : text.length = 32
    · simp only [dif_pos hlength, exactDigest_eq_ok]
      constructor
      · rintro ⟨hne, rfl⟩
        exact ⟨rfl, hne⟩
      · rintro ⟨htext, hne⟩
        have heq : (⟨text, hlength⟩ : Digest) = value := Subtype.ext (Option.some.inj htext)
        exact ⟨heq ▸ hne, heq⟩
    · simp only [dif_neg hlength]
      constructor
      · intro h
        cases h
      · rintro ⟨htext, -⟩
        exact absurd (Option.some.inj htext ▸ value.2) hlength

theorem exactJCSAndDigest_eq_ok {jcs digest : Option Bytes} {kind : PersistedAuthorityArtifactKind}
    (hpair : ProofGroup.pairValid jcs digest = true) {value : Bytes × Digest} :
    exactJCSAndDigest P jcs digest kind = .ok value ↔ Holds P kind jcs digest value := by
  simp only [exactJCSAndDigest, bind_eq_ok, orThrow_eq_ok, require_eq_ok, exactColumnDigest_eq_ok,
    pure_eq_ok, Holds]
  constructor
  · rintro ⟨text, rfl, -, -, stored, ⟨hdigest, hne⟩, computed, hcomputed, -, rfl, rfl⟩
    exact ⟨rfl, hdigest, hne, hcomputed⟩
  · rintro ⟨rfl, hdigest, hne, hcomputed⟩
    have hlength : 1 ≤ value.1.length ∧ value.1.length ≤ 4096 := by
      simp only [ProofGroup.pairValid, Bool.and_eq_true, Option.all_some, decide_eq_true_eq] at hpair
      exact hpair.1.2
    exact ⟨_, rfl, (), hlength, _, ⟨hdigest, hne⟩, _, hcomputed, (), rfl, rfl⟩

/-! ### Phases -/

theorem phase_eq_legacy : group.phase = .legacy ↔ group.allNull = true := by
  unfold ProofGroup.phase
  split_ifs <;> simp_all

theorem phase_eq_commitment (h : group.phase = .commitment) :
    group.allNull = false ∧ group.terminalProofAbsent = true := by
  unfold ProofGroup.phase at h
  split_ifs at h with hnull hcommitment
  · simp only [Bool.and_eq_true] at hcommitment
    exact ⟨by simpa using hnull, hcommitment.2⟩

theorem pairValid_isNone {jcs digest : Option Bytes}
    (h : ProofGroup.pairValid jcs digest = true) : digest.isNone = jcs.isNone := by
  simp only [ProofGroup.pairValid, Bool.and_eq_true, beq_iff_eq] at h
  exact h.1.1.symm

/-- The pairs of columns of a valid proof. -/
structure PairsValid (group : ProofGroup) : Prop where
  commitment : ProofGroup.pairValid group.commitmentJCS group.commitmentDigest = true
  providerHead : ProofGroup.pairValid group.providerHeadJCS group.providerHeadDigest = true
  checkpoint : ProofGroup.pairValid group.checkpointAnchorJCS group.checkpointAnchorDigest = true
  evidence :
    ProofGroup.pairValid group.activationEvidenceJCS group.activationEvidenceDigest = true
  resolution : ProofGroup.pairValid group.effectResolutionJCS group.effectResolutionDigest = true

theorem pairsValid_of_proofGroupValid (h : proofGroupValid group = true) : PairsValid group := by
  simp only [proofGroupValid, Bool.and_eq_true] at h
  obtain ⟨⟨⟨⟨⟨⟨h₁, h₂⟩, h₃⟩, h₄⟩, h₅⟩, -⟩, -⟩ := h
  exact ⟨h₁, h₂, h₃, h₄, h₅⟩

/-- A valid proof in the last phase has the shape of a terminal proof. -/
theorem terminalShape_of_phase (hvalid : proofGroupValid group = true) (h : group.phase = .terminal) :
    group.terminalShape = true := by
  have hpairs := pairsValid_of_proofGroupValid hvalid
  have hcommitment := pairValid_isNone hpairs.commitment
  have hhead := pairValid_isNone hpairs.providerHead
  have hcheckpoint := pairValid_isNone hpairs.checkpoint
  have hevidence := pairValid_isNone hpairs.evidence
  have hresolution := pairValid_isNone hpairs.resolution
  simp only [proofGroupValid, Bool.and_eq_true, Bool.or_eq_true] at hvalid
  rcases hvalid.2 with (hshape | hshape) | hshape
  · -- A proof without any text has no digest either, so nothing of it is set.
    simp only [ProofGroup.legacyShape, Bool.and_eq_true] at hshape
    have hnull : group.allNull = true := by
      simp only [ProofGroup.allNull, ProofGroup.terminalProofAbsent, hcommitment, hhead,
        hcheckpoint, hevidence, hresolution, hshape, Bool.and_self]
    rw [phase_eq_legacy.mpr hnull] at h
    cases h
  · simp only [ProofGroup.commitmentShape, Bool.and_eq_true] at hshape
    have habsent : group.terminalProofAbsent = true := by
      simp only [ProofGroup.terminalProofAbsent, hhead, hcheckpoint, hevidence, hresolution, hshape,
        Bool.and_self]
    have hsome : group.commitmentJCS.isSome = true := hshape.1.1.1.1.1.1.1.1
    have hdigest : group.commitmentDigest.isSome = true := by
      rw [← Option.not_isNone, hcommitment, Option.not_isNone]
      exact hsome
    have hphase : group.phase = .commitment := by
      have hnull : group.allNull = false := by
        rw [ProofGroup.allNull, ← Option.not_isSome, hsome]
        rfl
      rw [ProofGroup.phase, hnull, hsome, hdigest, habsent]
      rfl
    rw [hphase] at h
    cases h
  · exact hshape

theorem terminalProofAbsent_of_terminalShape (h : group.terminalShape = true) :
    group.allNull = false ∧ group.terminalProofAbsent = false := by
  simp only [ProofGroup.terminalShape, Bool.and_eq_true] at h
  have habsent : group.terminalProofAbsent = false := by
    rw [ProofGroup.terminalProofAbsent, ← Option.not_isSome, h.1.1.1.2]
    rfl
  exact ⟨by rw [ProofGroup.allNull, habsent, Bool.and_false], habsent⟩

/-- The database admits a checkpoint and time bounds only apart, and the reader takes them only
together; so it takes neither. -/
theorem checkpointAndBounds_eq_ok {reason : AuthorityEffectReason} (hpairs : PairsValid group)
    (hbounds : group.terminalBounds reason = true)
    {value : Option Bytes × Digest × Instant × Instant × Digest} :
    checkpointAndBounds P group = .ok value ↔ group.checkpointAnchorJCS = none ∧
      group.attestationExpiresAt = none ∧ (none, Digest.zero, 0, 0, Digest.zero) = value := by
  have hpair := pairValid_isNone hpairs.checkpoint
  simp only [ProofGroup.terminalBounds, Bool.or_eq_true, Bool.and_eq_true, Option.isNone_iff_eq_none,
    Option.any_eq_true _ _] at hbounds
  rcases hbounds with (⟨⟨hcheckpoint, ⟨hexpires, hdeadline⟩, hidentity⟩, -⟩ |
    ⟨⟨hcheckpoint, ⟨hexpires, -⟩, -⟩, -⟩) | ⟨⟨⟨hcheckpoint, expires, hexpires, -⟩, -⟩, -⟩
  · have hdigest : group.checkpointAnchorDigest = none := by simpa [hcheckpoint] using hpair
    simp [checkpointAndBounds, hcheckpoint, hdigest, hexpires, hdeadline, hidentity, require_of]
  · obtain ⟨text, htext⟩ := Option.isSome_iff_exists.mp hcheckpoint
    simp only [checkpointAndBounds, htext, hexpires, bind_eq_ok, orThrow_eq_ok, reduceCtorEq,
      false_and, exists_false, and_false]
  · have hdigest : group.checkpointAnchorDigest = none := by simpa [hcheckpoint] using hpair
    simp only [checkpointAndBounds, hcheckpoint, hdigest, hexpires, bind_eq_ok, require_eq_ok,
      reduceCtorEq, false_and, exists_false, and_false]

/-- What the reader makes of a terminal proof. -/
def readOutcome (receipt : Receipt) (reason : AuthorityEffectReason)
    (commitment head evidence resolution : Bytes × Digest) : PersistedAuthorityEffectOutcome where
  commitmentJCS := commitment.1
  commitmentDigest := commitment.2
  receipt := receipt
  providerHeadJCS := head.1
  providerHeadDigest := head.2
  checkpointAnchorJCS := none
  checkpointAnchorDigest := Digest.zero
  reason := reason
  attestationExpiresAt := 0
  activationDeadline := 0
  expectedProviderIdentityDigest := Digest.zero
  evidenceJCS := evidence.1
  evidenceDigest := evidence.2
  resolutionJCS := resolution.1
  resolutionDigest := resolution.2

/-- An outcome that was read from a terminal proof. -/
structure ReadFrom (P : ArtifactPlatform) (receipt : Option Receipt) (group : ProofGroup)
    (outcome : PersistedAuthorityEffectOutcome) : Prop where
  parts : ∃ terminal reason commitment head evidence resolution, receipt = some terminal ∧
    group.effectReason = some reason ∧
    Holds P .commitment group.commitmentJCS group.commitmentDigest commitment ∧
    Holds P .providerHead group.providerHeadJCS group.providerHeadDigest head ∧
    Holds P .evidence group.activationEvidenceJCS group.activationEvidenceDigest evidence ∧
    Holds P .resolution group.effectResolutionJCS group.effectResolutionDigest resolution ∧
    readOutcome terminal reason commitment head evidence resolution = outcome
  checkpoint : group.checkpointAnchorJCS = none
  bounds : group.attestationExpiresAt = none

theorem terminalOutcome_eq_ok (hpairs : PairsValid group) (hshape : group.terminalShape = true)
    {outcome : PersistedAuthorityEffectOutcome} :
    (∃ commitment, exactJCSAndDigest P group.commitmentJCS group.commitmentDigest .commitment =
        .ok commitment ∧ terminalOutcome P record group commitment = .ok outcome) ↔
      ReadFrom P record.terminalReceipt group outcome := by
  simp only [ProofGroup.terminalShape, Bool.and_eq_true, Option.any_eq_true _ _] at hshape
  obtain ⟨-, reason, hreason, hbounds⟩ := hshape
  simp only [terminalOutcome, hreason, bind_eq_ok, orThrow_eq_ok, pure_eq_ok,
    exactJCSAndDigest_eq_ok hpairs.commitment, exactJCSAndDigest_eq_ok hpairs.providerHead,
    exactJCSAndDigest_eq_ok hpairs.evidence, exactJCSAndDigest_eq_ok hpairs.resolution,
    checkpointAndBounds_eq_ok hpairs hbounds, Option.some.injEq]
  constructor
  · rintro ⟨commitment, hcommitment, receipt, hreceipt, _, rfl, head, hhead, evidence, hevidence,
      resolution, hresolution, _, ⟨hcheckpoint, hexpires, rfl⟩, rfl⟩
    exact ⟨⟨receipt, reason, commitment, head, evidence, resolution, hreceipt, hreason, hcommitment,
      hhead, hevidence, hresolution, rfl⟩, hcheckpoint, hexpires⟩
  · rintro ⟨⟨receipt, reason', commitment, head, evidence, resolution, hreceipt, hreason',
      hcommitment, hhead, hevidence, hresolution, rfl⟩, hcheckpoint, hexpires⟩
    obtain rfl : reason = reason' := Option.some.inj (hreason.symm.trans hreason')
    exact ⟨commitment, hcommitment, receipt, hreceipt, reason, rfl, head, hhead, evidence, hevidence,
      resolution, hresolution, _, ⟨hcheckpoint, hexpires, rfl⟩, rfl⟩

theorem outcome_legacy (hphase : group.phase = .legacy) :
    persistedOutcomeFromDatabaseRow P record group = .ok outcome ↔
      record.terminalReceipt = none ∧ none = outcome := by
  simp only [persistedOutcomeFromDatabaseRow, phase_eq_legacy.mp hphase, if_true, bind_eq_ok,
    require_eq_ok, pure_eq_ok, exists_const]

theorem outcome_commitment (hvalid : proofGroupValid group = true)
    (hphase : group.phase = .commitment) :
    persistedOutcomeFromDatabaseRow P record group = .ok outcome ↔
      Readable P .commitment group.commitmentJCS group.commitmentDigest ∧
        record.terminalReceipt = none ∧ none = outcome := by
  obtain ⟨hnull, habsent⟩ := phase_eq_commitment hphase
  simp only [persistedOutcomeFromDatabaseRow, hnull, habsent, if_true, Bool.false_eq_true, if_false,
    bind_eq_ok, require_eq_ok, pure_eq_ok, Readable,
    exactJCSAndDigest_eq_ok (pairsValid_of_proofGroupValid hvalid).commitment, exists_const,
    exists_and_right]

theorem outcome_terminal (hvalid : proofGroupValid group = true)
    (hphase : group.phase = .terminal) :
    persistedOutcomeFromDatabaseRow P record group = .ok outcome ↔
      ∃ read, ReadFrom P record.terminalReceipt group read ∧ some read = outcome := by
  have hshape := terminalShape_of_phase hvalid hphase
  obtain ⟨hnull, habsent⟩ := terminalProofAbsent_of_terminalShape hshape
  simp only [persistedOutcomeFromDatabaseRow, hnull, habsent, Bool.false_eq_true, if_false,
    bind_eq_ok, pure_eq_ok,
    ← terminalOutcome_eq_ok (pairsValid_of_proofGroupValid hvalid) hshape]
  constructor
  · rintro ⟨commitment, hcommitment, read, hread, rfl⟩
    exact ⟨read, ⟨commitment, hcommitment, hread⟩, rfl⟩
  · rintro ⟨read, ⟨commitment, hcommitment, hread⟩, rfl⟩
    exact ⟨commitment, hcommitment, read, hread, rfl⟩

/-- A terminal proof can be read beside a receipt when its parts can. -/
theorem exists_readFrom_iff (receipt : Receipt) (hshape : group.terminalShape = true) :
    (∃ read, ReadFrom P (some receipt) group read) ↔ TerminalReadable P group := by
  simp only [ProofGroup.terminalShape, Bool.and_eq_true, Option.any_eq_true _ _] at hshape
  obtain ⟨-, reason, hreason, -⟩ := hshape
  constructor
  · rintro ⟨read, ⟨⟨_, _, commitment, head, evidence, resolution, -, -, hcommitment, hhead,
      hevidence, hresolution, -⟩, hcheckpoint, hexpires⟩⟩
    exact ⟨⟨_, hcommitment⟩, ⟨_, hhead⟩, ⟨_, hevidence⟩, ⟨_, hresolution⟩, hcheckpoint, hexpires⟩
  · rintro ⟨⟨_, hcommitment⟩, ⟨_, hhead⟩, ⟨_, hevidence⟩, ⟨_, hresolution⟩, hcheckpoint, hexpires⟩
    exact ⟨_, ⟨_, _, _, _, _, _, rfl, hreason, hcommitment, hhead, hevidence, hresolution, rfl⟩,
      hcheckpoint, hexpires⟩

/-! ## Reading a fence with its owner -/

/-- The outcome of a fence can be read: the fence is not aborted, a committed fence has its owner,
and what the owner carries is readable. -/
def OutcomeReadable (P : ArtifactPlatform) (row : FenceRow) (owners : List ProofOwner) : Prop :=
  match row.providerStatus with
  | .aborted => False
  | .committed => ∃ owner, owners = [owner] ∧ TerminalReadable P owner.proof
  | .reserved => ∀ owner ∈ owners, owner.proof.phase = .commitment →
      Readable P .commitment owner.proof.commitmentJCS owner.proof.commitmentDigest

/-- The answers to a program are those of a database that nobody changes. -/
abbrev returns {α : Type} (db : ClaimDatabase) (action : StoredFence.Action α) : Except Error α :=
  Prog.answered db.answers action.run

theorem ownerGroup_isSome {kind : EffectKind} (h : claimV1Kind kind = true) :
    ∃ group, ownerGroup kind = some group := by
  cases kind <;> simp_all [claimV1Kind, ownerGroup]

/-- The owner that the reader finds is the first one. -/
theorem answers_lockOutcome {kind : EffectKind} {group : OwnerGroup}
    (hgroup : ownerGroup kind = some group)
    (hkinds : ∀ owner ∈ db.ownersOf operationID, owner.effectKind = kind) :
    db.answers (.lockOutcome group operationID) =
      some ((db.ownersOf operationID).head?.map ProofOwner.proof) := by
  have hfind : (db.ownersOf operationID).find? (fun owner =>
      decide (ownerGroup owner.effectKind = some group)) = (db.ownersOf operationID).head? := by
    cases hlist : db.ownersOf operationID with
    | nil => rfl
    | cons owner rest =>
      have hkind : owner.effectKind = kind := hkinds owner (by simp [hlist])
      simp [hkind, hgroup]
  rw [ClaimDatabase.answers, hfind]

/-- What the reader makes of the owners of a fence. -/
def outcomeOf (P : ArtifactPlatform) (record : Record) :
    List ProofOwner → Except Error (Option PersistedAuthorityEffectOutcome)
  | [] => do
    require (record.terminalReceipt = none) .injectedFailure
    pure none
  | owner :: _ => persistedOutcomeFromDatabaseRow P record owner.proof

@[simp] theorem outcomeOf_nil :
    outcomeOf P record [] = .ok outcome ↔ record.terminalReceipt = none ∧ none = outcome := by
  simp only [outcomeOf, bind_eq_ok, require_eq_ok, pure_eq_ok, exists_const]

@[simp] theorem outcomeOf_cons (owner : ProofOwner) (rest : List ProofOwner) :
    outcomeOf P record (owner :: rest) = persistedOutcomeFromDatabaseRow P record owner.proof := rfl

@[simp] theorem FenceRow.terminalReceipt_record :
    (row.record operationID).terminalReceipt = row.receipt operationID := rfl

theorem ClaimDatabase.Admits.returns_outcome (h : db.Admits operationID row) :
    returns db (StoredFence.persistedOutcomeForUpdate P (row.record operationID)) =
      outcomeOf P (row.record operationID) (db.ownersOf operationID) := by
  obtain ⟨group, hgroup⟩ := ownerGroup_isSome h.kind
  have hkind : ownerGroup (row.record operationID).reservation.kind = some group := hgroup
  have hanswer : db.answers (.lockOutcome group (row.record operationID).reservation.operationID) =
      some ((db.ownersOf operationID).head?.map ProofOwner.proof) :=
    answers_lockOutcome hgroup h.kinds
  simp only [returns, StoredFence.persistedOutcomeForUpdate, hkind, Prog.answered_run_bind,
    Prog.answered_perform, ok_bind, hanswer]
  cases db.ownersOf operationID <;> rfl

/-- A fence that the database admits has an outcome that can be read. -/
theorem exists_outcome_iff (h : db.Admits operationID row) :
    (∃ outcome, outcomeOf P (row.record operationID) (db.ownersOf operationID) = .ok outcome) ↔
      OutcomeReadable P row (db.ownersOf operationID) := by
  have howners := h.owners
  have hproofs := h.proofs
  generalize db.ownersOf operationID = owners at howners hproofs ⊢
  cases FenceRow.stage_of_fenceCheck h.check h.profile with
  | reserved status visibility hdigest hended hat hreason =>
    have hreceipt : row.receipt operationID = none := by simp [FenceRow.receipt, hdigest]
    simp only [OutcomeReadable, status]
    cases owners with
    | nil => simp [hreceipt]
    | cons owner rest =>
      -- In either case there is one owner, whose proof is not terminal.
      have hone : rest = [] ∧ owner.proof.phase ≠ .terminal := by
        simp only [ownersAdmitted, status, hat, Option.isSome_none, Bool.false_eq_true,
          if_false] at howners
        split_ifs at howners with hbound
        · obtain ⟨only, honly, hphase, -⟩ := howners
          obtain ⟨rfl, rfl⟩ := List.cons.inj honly
          exact ⟨rfl, by simp [hphase]⟩
        · exact ⟨List.length_eq_zero_iff.mp (by simpa using howners.1), howners.2 owner (by simp)⟩
      obtain ⟨rfl, hphase⟩ := hone
      have hvalid := hproofs owner (by simp)
      cases hwhich : owner.proof.phase with
      | legacy => simp [outcome_legacy hwhich, hreceipt, hwhich]
      | commitment => simp [outcome_commitment hvalid hwhich, hreceipt, hwhich]
      | terminal => exact absurd hwhich hphase
  | claimed status visibility hdigest hended hat hreason heffect =>
    have hreceipt : row.receipt operationID = none := by simp [FenceRow.receipt, hdigest]
    simp only [ownersAdmitted, status, heffect, hat, Option.isSome_none, Option.isSome_some,
      Bool.false_eq_true, if_false, if_true] at howners
    simp [OutcomeReadable, status, howners, hreceipt]
  | committed status visibility hdigest hended hlate hat hreason heffect =>
    obtain ⟨receipt, hreceipt⟩ : ∃ receipt, row.receipt operationID = some receipt := by
      simp [FenceRow.receipt, hdigest, status]
    simp only [ownersAdmitted, status] at howners
    simp only [OutcomeReadable, status]
    cases owners with
    | nil => simp [hreceipt]
    | cons owner rest =>
      obtain rfl : rest = [] := List.length_eq_zero_iff.mp (by simpa using howners.1)
      have hvalid := hproofs owner (by simp)
      have hphase := (howners.2 owner (by simp)).1
      have hread := exists_readFrom_iff (P := P) receipt (terminalShape_of_phase hvalid hphase)
      simp [outcome_terminal hvalid hphase, hreceipt, hread]
  | aborted status visibility hdigest hended hlate hat hreason heffect =>
    simp only [ownersAdmitted, status] at howners
    simp [OutcomeReadable, status, howners, FenceRow.receipt, hdigest]

theorem returns_callCheck (db : ClaimDatabase) (valid : Bool) :
    returns db (StoredFence.callCheck valid) = if valid then .ok () else .error .invalidArgument := by
  cases valid <;> rfl

theorem returns_getStoredFence :
    returns db (getStoredFence P operationID) = if validOperationID operationID then
      returns db (StoredFence.fromAnswer P operationID (some (db.fences operationID)))
    else .error .invalidArgument := by
  have hcheck := returns_callCheck db (validOperationID operationID)
  simp only [returns, getStoredFence, Prog.answered_run_bind, Prog.answered_perform] at hcheck ⊢
  rw [hcheck]
  split_ifs <;> rfl

theorem returns_lock :
    returns db (lock P operationID) = returns db (getStoredFence P operationID) := by
  rw [returns_getStoredFence]
  have hcheck := returns_callCheck db (validOperationID operationID)
  simp only [returns, lock, Prog.answered_run_bind, Prog.answered_perform] at hcheck ⊢
  rw [hcheck]
  split_ifs <;> rfl

/-- A fence with sound columns is read with what its owners say. -/
theorem returns_of_sound (h : db.Admits operationID row)
    (hsound : row.Sound P.toPlatform operationID) :
    returns db (getStoredFence P operationID) = (do
      let outcome ← outcomeOf P (row.record operationID) (db.ownersOf operationID)
      pure ⟨row.record operationID, row.abortClaim, outcome⟩) := by
  have hread := (storedFenceFromV7Row_eq_ok h.check h.profile).mpr ⟨hsound, rfl⟩
  have hid : validOperationID operationID = true :=
    validOperationID_of_validate hsound.reservation
  have houtcome := h.returns_outcome (P := P)
  rw [returns] at houtcome
  rw [returns_getStoredFence, if_pos hid, h.stored]
  simp only [returns, StoredFence.fromAnswer, StoredFence.foundFence, Prog.answered_run_bind,
    Prog.answered_pure, ok_bind, Prog.answered_ofExcept, hread, h.profile, if_true, houtcome]
  rfl

/-- No other fence is read. -/
theorem returns_eq_ok (h : db.Admits operationID row) {stored : StoredFence} :
    returns db (getStoredFence P operationID) = .ok stored ↔
      row.Sound P.toPlatform operationID ∧ ∃ outcome,
        outcomeOf P (row.record operationID) (db.ownersOf operationID) = .ok outcome ∧
          ⟨row.record operationID, row.abortClaim, outcome⟩ = stored := by
  constructor
  · intro hget
    have hsound : row.Sound P.toPlatform operationID := by
      rw [returns_getStoredFence, h.stored] at hget
      simp only [returns, StoredFence.fromAnswer, StoredFence.foundFence, Prog.answered_run_bind,
        Prog.answered_pure, ok_bind, Prog.answered_ofExcept, h.profile, if_true] at hget
      split_ifs at hget
      obtain ⟨_, hread, -⟩ := bind_eq_ok.mp hget
      exact ((storedFenceFromV7Row_eq_ok h.check h.profile).mp hread).1
    rw [returns_of_sound h hsound] at hget
    obtain ⟨outcome, houtcome, hstored⟩ := bind_eq_ok.mp hget
    exact ⟨hsound, outcome, houtcome, Except.ok.inj hstored⟩
  · rintro ⟨hsound, outcome, houtcome, rfl⟩
    rw [returns_of_sound h hsound, houtcome]
    rfl

/-- In a state that the database admits for a fence of the profile `claim_v1`, `GetStoredFence` and
`Lock` return the record and the claim of the fence exactly when its columns are sound, it is not
aborted, and the artifacts that belong to it are stored and readable. -/
theorem stored_fence_read_iff (P : ArtifactPlatform) (db : ClaimDatabase) (operationID : UUID)
    (row : FenceRow) (h : db.Admits operationID row) :
    (∃ outcome,
      returns db (getStoredFence P operationID) =
        .ok ⟨row.record operationID, row.abortClaim, outcome⟩ ∧
      returns db (lock P operationID) =
        .ok ⟨row.record operationID, row.abortClaim, outcome⟩) ↔
      row.Sound P.toPlatform operationID ∧ OutcomeReadable P row (db.ownersOf operationID) := by
  simp only [returns_lock, and_self, returns_eq_ok h, ← exists_outcome_iff h]
  constructor
  · rintro ⟨-, hsound, read, hread, -⟩
    exact ⟨hsound, read, hread⟩
  · rintro ⟨hsound, outcome, houtcome⟩
    exact ⟨outcome, hsound, outcome, houtcome, rfl⟩

/-- An aborted fence is never read: its owner is missed. -/
theorem returns_of_aborted (h : db.Admits operationID row)
    (hsound : row.Sound P.toPlatform operationID) (hstatus : row.providerStatus = .aborted) :
    returns db (getStoredFence P operationID) = .error .injectedFailure := by
  have howners : db.ownersOf operationID = [] := by
    have hadmitted := h.owners
    rwa [ownersAdmitted, hstatus] at hadmitted
  obtain ⟨digest, ended, hdigest, -⟩ := FenceRow.terminal_of_fenceCheck h.check (by simp [hstatus])
  have hfails : require ((row.record operationID).terminalReceipt = none) Error.injectedFailure =
      .error .injectedFailure :=
    require_eq_error.mpr ⟨by simp [FenceRow.receipt, hdigest, hstatus], rfl⟩
  rw [returns_of_sound h hsound, howners, outcomeOf, hfails]
  rfl

/-! ### A fence of a grant -/

/-- The libraries of `plainPlatform`, with SHA-256 and the calendar. -/
def plainArtifacts : ArtifactPlatform where
  jcsTransform := Analysis.plainTransform
  uuidString := Analysis.uuidText
  sha256 m := ⟨Sha256.sha256 m, Sha256.sha256_length m⟩
  uuidParse := Analysis.uuidOfText
  timeFormat := Calendar.format
  timeParse := Calendar.parse

/-- An identifier of version 4. -/
def grantOperation : UUID :=
  ⟨[0x5c, 0x1d, 0x0a, 0x77, 0x2e, 0x43, 0x4b, 0x90, 0x8f, 0x12, 0x66, 0x0e, 0x9d, 0x31, 0x54, 0xc8],
    rfl⟩

/-- The first reservation of an epoch, for a node. -/
def grantReservation : Reservation where
  operationID := grantOperation
  kind := .grantCreate
  scopeKind := .node
  scopeDigest := Octets.replicate 32 7
  epoch := 1
  sequence := 1
  reservationDigest :=
    ⟨[0xdc, 0xf2, 0x95, 0xd3, 0x2b, 0x16, 0xe0, 0xb2, 0xaf, 0xf2, 0x02, 0x73, 0x2a, 0xf2, 0x18,
      0xd8, 0xc1, 0xef, 0xfd, 0x1b, 0x20, 0x55, 0xab, 0xaf, 0x59, 0x20, 0x9c, 0x15, 0x6c, 0x3f,
      0xa2, 0xc3], rfl⟩

/-- The receipt of its abort. -/
def abortedGrantReceipt : Receipt where
  reservation := grantReservation
  effectDigest := none
  databasePoint := none
  status := .aborted
  abortReason := some .validationFailed
  receiptDigest :=
    ⟨[0x98, 0x94, 0xbd, 0x1f, 0x96, 0xdc, 0x56, 0x15, 0xc3, 0xdd, 0xb7, 0xc8, 0x70, 0x63, 0xf8,
      0x64, 0x86, 0x1b, 0x7c, 0x89, 0xc8, 0x03, 0xd0, 0xe5, 0x45, 0x1a, 0xde, 0xf1, 0x90, 0x9e,
      0xb0, 0x03], rfl⟩

theorem abortedGrantReceipt_valid :
    abortedGrantReceipt.validate plainArtifacts.toPlatform = true := by
  decide +kernel

theorem grantReservation_valid : grantReservation.validate plainArtifacts.toPlatform = true := by
  have h := abortedGrantReceipt_valid
  simp only [Receipt.validate, Bool.and_eq_true] at h
  exact h.1.1.1.1

/-- The fence of the reservation. -/
def reservedGrantFence : FenceRow :=
  pendingClaimV1Fence grantReservation (1 * second) grantOperation

/-- The fence after its abort was claimed and recorded. -/
def abortedGrantFence : FenceRow :=
  { reservedGrantFence with
    providerStatus := .aborted
    providerReceiptDigest := some abortedGrantReceipt.receiptDigest
    abortReason := some .validationFailed
    visibilityState := .aborted
    terminalAt := some (3 * second)
    abortClaimedAt := some (2 * second) }

/-- The database with one fence and no owners. -/
def withFence (row : FenceRow) : ClaimDatabase where
  fences operationID := if operationID = grantOperation then some row else none
  owners := []

theorem withFence_admits (row : FenceRow) (hcheck : fenceCheck row = true)
    (hprofile : row.authorityProtocolProfile = .claimV1)
    (hkind : claimV1Kind row.effectKind = true) (howners : ownersAdmitted row []) :
    (withFence row).Admits grantOperation row where
  stored := by simp [withFence]
  check := hcheck
  profile := hprofile
  kind := hkind
  proofs := by simp [withFence, ClaimDatabase.ownersOf]
  kinds := by simp [withFence, ClaimDatabase.ownersOf]
  owners := howners

theorem abortedGrantFence_sound :
    abortedGrantFence.Sound plainArtifacts.toPlatform grantOperation where
  reservation := grantReservation_valid
  reservationDigest := by decide
  reservedAt := by decide
  boundAt := by decide
  effectDigest := by decide
  point := by decide
  terminal := by
    refine ⟨by decide, ?_⟩
    intro receipt hreceipt
    obtain rfl : abortedGrantReceipt = receipt := Option.some.inj hreceipt
    exact abortedGrantReceipt_valid
  activation := by decide
  claimedAt := by decide

/-- An aborted fence that the database admits, with sound columns, cannot be read. -/
theorem aborted_fence_unreadable :
    (withFence abortedGrantFence).Admits grantOperation abortedGrantFence ∧
      abortedGrantFence.Sound plainArtifacts.toPlatform grantOperation ∧
      abortedGrantFence.abortClaim = some ⟨.validationFailed, 2 * second⟩ ∧
      returns (withFence abortedGrantFence) (getStoredFence plainArtifacts grantOperation) =
        .error .injectedFailure ∧
      returns (withFence abortedGrantFence) (lock plainArtifacts grantOperation) =
        .error .injectedFailure := by
  have hadmits := withFence_admits abortedGrantFence (by decide) rfl rfl rfl
  have hread := returns_of_aborted hadmits abortedGrantFence_sound rfl
  exact ⟨hadmits, abortedGrantFence_sound, rfl, hread, returns_lock.trans hread⟩

/-- The fence can be read before its abort. -/
theorem reserved_fence_read :
    (withFence reservedGrantFence).Admits grantOperation reservedGrantFence ∧ ∃ outcome,
      returns (withFence reservedGrantFence) (getStoredFence plainArtifacts grantOperation) =
        .ok ⟨reservedGrantFence.record grantOperation, reservedGrantFence.abortClaim, outcome⟩ ∧
      returns (withFence reservedGrantFence) (lock plainArtifacts grantOperation) =
        .ok ⟨reservedGrantFence.record grantOperation, reservedGrantFence.abortClaim, outcome⟩ := by
  have hadmits := withFence_admits reservedGrantFence (by decide) rfl rfl
    ⟨Nat.zero_le 1, by simp⟩
  have hsound : reservedGrantFence.Sound plainArtifacts.toPlatform grantOperation :=
    { reservation := grantReservation_valid
      reservationDigest := by decide
      reservedAt := by decide
      boundAt := by decide
      effectDigest := by decide
      point := by decide
      terminal := ⟨by decide, by decide⟩
      activation := by decide
      claimedAt := by decide }
  refine ⟨hadmits, ?_⟩
  exact (stored_fence_read_iff plainArtifacts _ grantOperation reservedGrantFence hadmits).mpr
    ⟨hsound, by simp [OutcomeReadable, withFence, ClaimDatabase.ownersOf, reservedGrantFence,
      pendingClaimV1Fence, pendingFence]⟩

end Talenro.Authority
