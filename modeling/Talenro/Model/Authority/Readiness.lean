import Talenro.Model.Authority.Fences
import Talenro.Model.Authority.Provider

/-!
# The inspection of pending fences

A control plane with pending fences is not ready.  The reason it reports is the most urgent
problem of the fences: for each of them the provider is asked for its record and the resolver
for its effect, and what they answer is compared with the row.

Sources named without a directory are in `internal/nodecontrol/authority`.
-/

set_option autoImplicit false

namespace Talenro.Authority

open Lib

/-- SOURCE: coordinator.go:18-25 -/
inductive EffectState where
  | absent
  | prepared
  | committed
  | terminal
deriving DecidableEq

/-- The empty strings of an absent effect are `none`.

SOURCE: coordinator.go:27-33 -/
structure ResolvedEffect where
  kind : Option EffectKind
  scopeKind : Option ScopeKind
  scopeDigest : Digest
  effectDigest : Digest
  state : EffectState
deriving DecidableEq

/-- SOURCE: coordinator.go:46-64 -/
inductive ReadinessReason where
  | ready
  | providerUnavailable
  | databaseUnavailable
  | effectUnavailable
  | databaseIdentityMismatch
  | databaseTimelineBehind
  | databaseWALBehind
  | databaseBehindProvider
  | databaseAheadProvider
  | databaseSequenceGap
  | reservationMismatch
  | committedMismatch
  | pendingCountMismatch
  | pendingMismatch
  | pendingUnresolved
deriving DecidableEq

variable (P : Platform)

/-- SOURCE: coordinator.go:735-753 -/
def ResolvedEffect.validate (resolved : ResolvedEffect) : Bool :=
  match resolved.state with
  | .absent => resolved.kind == none && resolved.scopeKind == none &&
      resolved.scopeDigest == Digest.zero && resolved.effectDigest == Digest.zero
  | .prepared | .committed | .terminal =>
    match resolved.kind, resolved.scopeKind with
    | some kind, some scopeKind => validEffectScope kind scopeKind &&
        validScopeDigest P scopeKind resolved.scopeDigest && resolved.effectDigest != Digest.zero
    | _, _ => false

/-- SOURCE: coordinator.go:755-758 -/
def resolvedMatchesReservation (resolved : ResolvedEffect) (reservation : Reservation) : Bool :=
  resolved.kind == some reservation.kind && resolved.scopeKind == some reservation.scopeKind &&
    resolved.scopeDigest == reservation.scopeDigest

/-- SOURCE: coordinator.go:534-554 -/
def validPendingFence (value : PendingFence) (epoch : ℕ) : Bool :=
  if value.reservation.epoch ≠ epoch ∨ value.reservation.validate P = false ∨
      value.reservedAt.instant = 0 ∨ value.reservedAt.utc = false ∨
      value.boundEffectDigest.isNone ≠ value.boundDatabasePoint.isNone ∨
      value.boundEffectDigest.isNone ≠ value.effectBoundAt.isNone then false
  else
    match value.boundEffectDigest, value.boundDatabasePoint, value.effectBoundAt with
    | some effectDigest, some point, some boundAt => effectDigest != Digest.zero &&
        point.validate && decide (boundAt.instant ≠ 0) && boundAt.utc &&
        decide (value.reservedAt.instant ≤ boundAt.instant)
    | _, _, _ => true

/-- SOURCE: coordinator.go:453-499 -/
def pendingStateMatches (fence : PendingFence) (providerRecord : Record)
    (resolved : ResolvedEffect) : Bool :=
  if providerRecord.validate P = false ∨ providerRecord.reservation ≠ fence.reservation then false
  else if (match providerRecord.terminalReceipt with
      | none => providerRecord.boundEffectDigest.isSome || providerRecord.boundDatabasePoint.isSome
      | some _ => providerRecord.boundEffectDigest != fence.boundEffectDigest ||
          providerRecord.boundDatabasePoint != fence.boundDatabasePoint) then false
  else
    match resolved.state with
    | .absent => fence.boundEffectDigest.isNone && providerRecord.terminalReceipt.isNone
    | .prepared => resolvedMatchesReservation resolved fence.reservation &&
        fence.boundEffectDigest.isNone && providerRecord.terminalReceipt.isNone
    | .committed =>
      if resolvedMatchesReservation resolved fence.reservation = false then false
      else if (fence.boundEffectDigest.any fun digest => digest != resolved.effectDigest) then false
      else
        match providerRecord.terminalReceipt with
        | none => true
        | some receipt => receipt.status == .committed &&
            receipt.effectDigest == some resolved.effectDigest
    | .terminal => false

/-- SOURCE: coordinator.go:557-570 -/
def ReadinessReason.priority : ReadinessReason → ℕ
  | .providerUnavailable => 4
  | .effectUnavailable => 3
  | .pendingMismatch => 2
  | .pendingUnresolved => 1
  | _ => 0

/-- SOURCE: coordinator.go:556-575 -/
def readinessReasonWithPriority (current candidate : ReadinessReason) : ReadinessReason :=
  if candidate.priority > current.priority then candidate else current

/-- What one iteration of the loop is answered: whether the context has ended after both calls,
the record of the provider and the effect of the resolver.  The errors of a context that has ended
are `canceled`. -/
structure Inspection where
  contextEnded : Bool
  provider : Except Error Record
  resolver : Except Error ResolvedEffect

/-- SOURCE: coordinator.go:428-432 -/
def Inspection.canceled (answers : Inspection) : Bool :=
  answers.contextEnded || (match answers.provider with
    | .error e => e == .canceled
    | .ok _ => false) || (match answers.resolver with
    | .error e => e == .canceled
    | .ok _ => false)

/-- SOURCE: coordinator.go:434-437 -/
def providerReason (providerErr : Error) : ReadinessReason :=
  if providerErr = .notFound ∨ providerErr = .conflict ∨ providerErr = .terminalConflict then
    .pendingMismatch
  else .providerUnavailable

/-- The reason after one iteration that was not canceled.

SOURCE: coordinator.go:425-448 -/
def inspectFence (epoch : ℕ) (reason : ReadinessReason) (fence : PendingFence)
    (answers : Inspection) : ReadinessReason :=
  let rowMismatch := !validPendingFence P fence epoch
  let reason :=
    match answers.provider with
    | .error providerErr => readinessReasonWithPriority reason (providerReason providerErr)
    | .ok _ => reason
  let reason :=
    match answers.resolver with
    | .error _ => readinessReasonWithPriority reason .effectUnavailable
    | .ok _ => reason
  match rowMismatch, answers.provider, answers.resolver with
  | false, .ok providerRecord, .ok resolved =>
    if resolved.validate P = false ∨ pendingStateMatches P fence providerRecord resolved = false then
      readinessReasonWithPriority reason .pendingMismatch
    else reason
  | _, _, _ => reason

/-- The loop over the fences, each with the answers of its iteration.

SOURCE: coordinator.go:424-450 -/
def inspectLoop (P : Platform) (epoch : ℕ) :
    ReadinessReason → List (PendingFence × Inspection) → Except Error ReadinessReason
  | reason, [] => .ok reason
  | reason, (fence, answers) :: rest =>
    if answers.canceled then .error .canceled
    else inspectLoop P epoch (inspectFence P epoch reason fence answers) rest

/-- SOURCE: coordinator.go:422-451 -/
def inspectPending (epoch : ℕ) (pending : List (PendingFence × Inspection)) :
    Except Error ReadinessReason :=
  inspectLoop P epoch .pendingUnresolved pending

end Talenro.Authority
