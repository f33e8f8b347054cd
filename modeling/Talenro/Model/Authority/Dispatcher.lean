import Talenro.Model.Authority.Readiness

/-!
# The effect dispatcher

Every kind of effect has its own owner, and the dispatcher asks all of them what they know of a
reserved operation.

Sources named without a directory are in `internal/nodecontrol/authority`.
-/

set_option autoImplicit false

namespace Talenro.Authority

open Lib

/-- SOURCE: effect_dispatcher.go:13-27 -/
def supportedDispatcherKinds : List EffectKind :=
  [.certificateActivate, .certificateRevoke, .desiredActivate, .grantClaim, .grantCreate,
   .identityEpochAdvance, .metadataPublish, .operatorTransition, .recoveryActivate,
   .resourceEnvelopeActivate, .rootPublish, .securityIncidentOpen, .securityIncidentResolve]

/-- SOURCE: effect_dispatcher.go:29-32 -/
structure TransactionalEffectQuery where
  registeredKind : EffectKind
  expected : Reservation

/-- An effect is `none` when it has a text that its enumerations do not have: its `Validate` then
fails in every state.

SOURCE: effect_dispatcher.go:37-42 -/
structure TransactionalResolvedEffect where
  operationID : UUID
  epoch : ℕ
  sequence : ℕ
  effect : Option ResolvedEffect

/-- The first error of these that an error is, by `errors.Is`.

SOURCE: effect_dispatcher.go:331-338 -/
inductive HandlerError where
  | canceled
  | conflict
  | other

/-- What a resolver does when it is asked: it returns, and the context has ended meanwhile or
not. -/
structure HandlerAnswer where
  contextEnded : Bool
  result : Except HandlerError TransactionalResolvedEffect

/-- A resolver is asked once in a call, so that its answer is a function of the question. -/
abbrev Resolver : Type := TransactionalEffectQuery → HandlerAnswer

/-- An interface value: nil, a nil pointer, or a value. -/
inductive Handler (α : Type) where
  | nil
  | nilPointer
  | value (handler : α)

/-- SOURCE: effect_dispatcher.go:354-365 -/
def Handler.isNil {α : Type} : Handler α → Bool
  | value _ => false
  | _ => true

/-- A registration; the kind is `none` when its text is not one of a kind.

SOURCE: effect_dispatcher.go:68-72 -/
structure EffectRegistration (Activator : Type) where
  kind : Option EffectKind
  resolver : Handler Resolver
  activator : Handler Activator

variable {Activator : Type}

/-- The registrations of the kinds that were seen. -/
abbrev Registry (Activator : Type) : Type := List (EffectKind × EffectRegistration Activator)

/-- The kinds that are not supported are the two that are registered without handlers.

SOURCE: effect_dispatcher.go:95-106 -/
def handlersAllowed (kind : EffectKind) (registration : EffectRegistration Activator) : Bool :=
  if kind ∈ supportedDispatcherKinds then
    !registration.resolver.isNil && !registration.activator.isNil
  else registration.resolver matches .nil && registration.activator matches .nil

/-- The loop of `NewEffectDispatcher`.

SOURCE: effect_dispatcher.go:88-108 -/
def registerAll : List (EffectRegistration Activator) → Registry Activator →
    Except Error (Registry Activator)
  | [], registry => .ok registry
  | registration :: rest, registry => do
    let kind ← orThrow registration.kind .invalidArgument
    require (registry.lookup kind).isNone .invalidArgument
    require (handlersAllowed kind registration) .invalidArgument
    registerAll rest ((kind, registration) :: registry)

/-- SOURCE: effect_dispatcher.go:83-121 -/
def newEffectDispatcher (registrations : List (EffectRegistration Activator)) :
    Except Error (Registry Activator) := do
  require (registrations.length = 15) .invalidArgument
  let registry ← registerAll registrations []
  require (∀ kind ∈ supportedDispatcherKinds ++ [.trustBundlePublish, .operatorAuthorizerChange],
    (registry.lookup kind).isSome) .invalidArgument
  pure registry

/-- SOURCE: effect_dispatcher.go:324-339 -/
def dispatcherHandlerError (answer : HandlerAnswer) :
    Except Error TransactionalResolvedEffect :=
  if answer.contextEnded then .error .canceled
  else
    match answer.result with
    | .ok result => .ok result
    | .error .canceled => .error .canceled
    | .error .conflict => .error .conflict
    | .error .other => .error .injectedFailure

/-- SOURCE: effect_dispatcher.go:350-352 -/
def validTransactionalEcho (result : TransactionalResolvedEffect) : Bool :=
  validOperationID result.operationID && validPositiveCoordinate result.epoch &&
    validPositiveCoordinate result.sequence

/-- SOURCE: effect_dispatcher.go:162-179 -/
def classifyTransactionalResolvedEffect (P : Platform) (result : TransactionalResolvedEffect)
    (registeredKind : EffectKind) (expected : Reservation) : Except Error ResolvedEffect := do
  let effect ← orThrow result.effect .injectedFailure
  if effect.state = .absent then
    require (effect.validate P ∧ validTransactionalEcho result ∧
      result.operationID = expected.operationID ∧ result.epoch = expected.epoch ∧
      result.sequence = expected.sequence) .injectedFailure
  else
    require (effect.validate P ∧ validTransactionalEcho result) .injectedFailure
    require (result.operationID = expected.operationID ∧ result.epoch = expected.epoch ∧
      result.sequence = expected.sequence ∧ effect.kind = some registeredKind ∧
      effect.kind = some expected.kind ∧ effect.scopeKind = some expected.scopeKind ∧
      effect.scopeDigest = expected.scopeDigest) .conflict
  pure effect

/-- The answer of the resolver of a kind; calling one that is nil would panic. -/
def Registry.ask (registry : Registry Activator) (kind : EffectKind) (expected : Reservation) :
    Option HandlerAnswer :=
  match (registry.lookup kind).map EffectRegistration.resolver with
  | some (.value resolver) => some (resolver ⟨kind, expected⟩)
  | _ => none

/-- What the loop makes of one answer.

SOURCE: effect_dispatcher.go:141-147 -/
def classifyAnswer (P : Platform) (expected : Reservation) (kind : EffectKind)
    (answer : HandlerAnswer) : Except Error ResolvedEffect := do
  let result ← dispatcherHandlerError answer
  classifyTransactionalResolvedEffect P result kind expected

/-- The loop over the kinds that are left; `none` when it panics.

SOURCE: effect_dispatcher.go:136-151 -/
def Registry.resolveKinds (registry : Registry Activator) (P : Platform) (expected : Reservation) :
    List EffectKind → List ResolvedEffect → Option (Except Error (List ResolvedEffect))
  | [], resolved => some (.ok resolved)
  | kind :: kinds, resolved =>
    match (registry.ask kind expected).map (classifyAnswer P expected kind) with
    | none => none
    | some (.error err) => some (.error err)
    | some (.ok classification) => registry.resolveKinds P expected kinds
        (if classification.state ≠ .absent then resolved ++ [classification] else resolved)

/-- `ResolvedEffect{State: EffectAbsent}`. -/
def ResolvedEffect.empty : ResolvedEffect := ⟨none, none, Digest.zero, Digest.zero, .absent⟩

/-- Whether the context has ended and whether the transaction is nil are what the call begins
with.

SOURCE: effect_dispatcher.go:125-160, 314-322 -/
def Registry.resolveAuthorityEffectForUpdate (registry : Registry Activator) (P : Platform)
    (contextEnded databaseNil : Bool) (expected : Reservation) :
    Option (Except Error ResolvedEffect) :=
  if contextEnded then some (.error .canceled)
  else if expected.kind ∉ supportedDispatcherKinds then some (.error .conflict)
  else if databaseNil ∨ expected.validate P = false then some (.error .invalidArgument)
  else
    (registry.resolveKinds P expected supportedDispatcherKinds []).map fun result =>
      result.bind fun
        | [] => .ok .empty
        | [effect] => .ok effect
        | _ => .error .conflict

end Talenro.Authority
