import Talenro.Analysis.StoredFences
import Talenro.Model.Authority.Dispatcher

/-!
# What the dispatcher resolves

A resolver may answer with an effect of its own kind only, and of the kind that was reserved.  So
at most the resolver of the reserved kind can have found an effect, and all others must say that
they have none (`effect_resolved_iff`).
-/

set_option autoImplicit false

namespace Talenro.Authority

open Lib

variable {Activator : Type} {registrations rest : List (EffectRegistration Activator)}
  {registry registry' : Registry Activator} {P : Platform} {expected : Reservation}
  {kind : EffectKind} {effect : ResolvedEffect} {result : TransactionalResolvedEffect}

/-! ## Registries -/

/-- A registration that the registry may hold under a kind. -/
structure Registered (registrations : List (EffectRegistration Activator)) (kind : EffectKind)
    (registration : EffectRegistration Activator) : Prop where
  mem : registration ∈ registrations
  kind_eq : registration.kind = some kind
  resolves : kind ∈ supportedDispatcherKinds → registration.resolver.isNil = false

theorem registerAll_ok (h : registerAll rest registry = .ok registry')
    (hrest : ∀ registration ∈ rest, registration ∈ registrations)
    (hregistry : ∀ kind registration, registry.lookup kind = some registration →
      Registered registrations kind registration) :
    ∀ kind registration, registry'.lookup kind = some registration →
      Registered registrations kind registration := by
  induction rest generalizing registry with
  | nil =>
    obtain rfl := Except.ok.inj h
    exact hregistry
  | cons registration rest ih =>
    simp only [registerAll, bind_eq_ok, orThrow_eq_ok, require_eq_ok] at h
    obtain ⟨kind, hkind, -, -, -, hhandlers, h⟩ := h
    refine ih h (fun r hr => hrest r (List.mem_cons_of_mem _ hr)) fun other found hfound => ?_
    rw [List.lookup_cons] at hfound
    split at hfound
    · next hsame =>
      obtain rfl := Option.some.inj hfound
      obtain rfl := eq_of_beq hsame
      refine ⟨hrest _ (List.mem_cons_self ..), hkind, fun hsupported => ?_⟩
      rw [handlersAllowed, if_pos hsupported, Bool.and_eq_true] at hhandlers
      exact (Bool.not_eq_true' _).mp hhandlers.1
    · exact hregistry other found hfound

/-- The registry that is accepted has the resolver that was registered for each kind. -/
theorem newEffectDispatcher_ok (h : newEffectDispatcher registrations = .ok registry)
    (expected : Reservation) : ∀ kind ∈ supportedDispatcherKinds, ∃ registration ∈ registrations,
      registration.kind = some kind ∧ ∃ resolver, registration.resolver = .value resolver ∧
        registry.ask kind expected = some (resolver ⟨kind, expected⟩) := by
  intro kind hkind
  simp only [newEffectDispatcher, bind_eq_ok, require_eq_ok, pure_eq_ok] at h
  obtain ⟨-, -, registry', hregister, -, hall, rfl⟩ := h
  obtain ⟨registration, hlookup⟩ := Option.isSome_iff_exists.mp
    (hall kind (List.mem_append_left _ hkind))
  obtain ⟨hmem, hkindEq, hresolves⟩ := registerAll_ok hregister (fun _ hr => hr)
    (fun _ _ h => by cases h) kind registration hlookup
  have hnil := hresolves hkind
  cases hresolver : registration.resolver with
  | nil | nilPointer => simp [hresolver, Handler.isNil] at hnil
  | value resolver =>
    refine ⟨registration, hmem, hkindEq, resolver, hresolver, ?_⟩
    rw [Registry.ask, hlookup, Option.map_some, hresolver]

/-! ## One answer -/

/-- The result names the operation that was asked for. -/
def Echoes (result : TransactionalResolvedEffect) (expected : Reservation) : Prop :=
  result.operationID = expected.operationID ∧ result.epoch = expected.epoch ∧
    result.sequence = expected.sequence

/-- The effect is of the kind and the scope that were reserved. -/
def MatchesReservation (effect : ResolvedEffect) (expected : Reservation) : Prop :=
  effect.kind = some expected.kind ∧ effect.scopeKind = some expected.scopeKind ∧
    effect.scopeDigest = expected.scopeDigest

theorem validTransactionalEcho_of (hexpected : expected.validate P = true)
    (h : Echoes result expected) : validTransactionalEcho result = true := by
  obtain ⟨hoperation, hepoch, hsequence⟩ := h
  simp only [Reservation.validate, ReserveRequest.validate, Bool.and_eq_true] at hexpected
  rw [validTransactionalEcho, hoperation, hepoch, hsequence, Bool.and_eq_true, Bool.and_eq_true]
  exact ⟨⟨hexpected.1.1.1.1.1.1, hexpected.1.1.2⟩, hexpected.1.2⟩

theorem dispatcherHandlerError_eq_ok {answer : HandlerAnswer} :
    dispatcherHandlerError answer = .ok result ↔ answer = ⟨false, .ok result⟩ := by
  obtain ⟨contextEnded, _ | answered⟩ := answer
  · cases contextEnded <;> rename_i err <;> cases err <;> simp [dispatcherHandlerError]
  · cases contextEnded <;> simp [dispatcherHandlerError]

/-- What an answer is accepted as. -/
theorem classify_eq_ok (hexpected : expected.validate P = true) :
    classifyTransactionalResolvedEffect P result kind expected = .ok effect ↔
      result.effect = some effect ∧ Echoes result expected ∧ effect.validate P = true ∧
        (effect.state ≠ .absent → kind = expected.kind ∧ MatchesReservation effect expected) := by
  have hecho : Echoes result expected → validTransactionalEcho result = true :=
    validTransactionalEcho_of hexpected
  unfold classifyTransactionalResolvedEffect
  simp only [bind_eq_ok, orThrow_eq_ok]
  constructor
  · rintro ⟨found, hfound, h⟩
    split at h
    · next habsent =>
      simp only [bind_eq_ok, require_eq_ok, pure_eq_ok] at h
      obtain ⟨-, ⟨hvalid, -, hechoes⟩, rfl⟩ := h
      exact ⟨hfound, hechoes, hvalid, fun hne => absurd habsent hne⟩
    · simp only [bind_eq_ok, require_eq_ok, pure_eq_ok] at h
      obtain ⟨-, ⟨hvalid, -⟩, -, ⟨hoperation, hepoch, hsequence, hregistered, hmatches⟩, rfl⟩ := h
      refine ⟨hfound, ⟨hoperation, hepoch, hsequence⟩, hvalid, fun _ => ⟨?_, hmatches⟩⟩
      exact Option.some.inj (hregistered.symm.trans hmatches.1)
  · rintro ⟨hfound, hechoes, hvalid, hmatches⟩
    refine ⟨effect, hfound, ?_⟩
    split
    · simp only [bind_eq_ok, require_eq_ok, pure_eq_ok]
      exact ⟨(), ⟨hvalid, hecho hechoes, hechoes⟩, trivial⟩
    · next hpresent =>
      obtain ⟨rfl, hsame⟩ := hmatches hpresent
      simp only [bind_eq_ok, require_eq_ok, pure_eq_ok]
      exact ⟨(), ⟨hvalid, hecho hechoes⟩, (), ⟨hechoes.1, hechoes.2.1, hechoes.2.2, hsame.1, hsame⟩,
        trivial⟩

/-- The answer of a resolver is accepted as the effect. -/
def Classified (registry : Registry Activator) (P : Platform) (expected : Reservation)
    (kind : EffectKind) (effect : ResolvedEffect) : Prop :=
  ∃ result, registry.ask kind expected = some ⟨false, .ok result⟩ ∧ result.effect = some effect ∧
    Echoes result expected ∧ effect.validate P = true ∧
    (effect.state ≠ .absent → kind = expected.kind ∧ MatchesReservation effect expected)

theorem ask_eq_ok (hexpected : expected.validate P = true) :
    (registry.ask kind expected).map (classifyAnswer P expected kind) = some (.ok effect) ↔
      Classified registry P expected kind effect := by
  simp only [Option.map_eq_some_iff, classifyAnswer, bind_eq_ok, dispatcherHandlerError_eq_ok,
    classify_eq_ok hexpected, Classified]
  constructor
  · rintro ⟨_, hask, result, rfl, hresult⟩
    exact ⟨result, hask, hresult⟩
  · rintro ⟨result, hask, hresult⟩
    exact ⟨_, hask, result, rfl, hresult⟩

/-! ## The loop -/

/-- What the loop adds for a kind. -/
def Registry.found (registry : Registry Activator) (P : Platform) (expected : Reservation)
    (kind : EffectKind) : Option ResolvedEffect :=
  match (registry.ask kind expected).map (classifyAnswer P expected kind) with
  | some (.ok effect) => if effect.state ≠ .absent then some effect else none
  | _ => none

theorem resolveKinds_ok (hexpected : expected.validate P = true) {kinds : List EffectKind}
    (hasked : ∀ kind ∈ kinds, (registry.ask kind expected).isSome)
    (resolved : List ResolvedEffect) :
    ∃ answer, registry.resolveKinds P expected kinds resolved = some answer ∧
      ∀ final, answer = .ok final ↔ (∀ kind ∈ kinds, ∃ effect,
        Classified registry P expected kind effect) ∧
          final = resolved ++ kinds.filterMap (registry.found P expected) := by
  induction kinds generalizing resolved with
  | nil => exact ⟨.ok resolved, rfl, fun final => by simp [eq_comm]⟩
  | cons kind kinds ih =>
    have hrest := fun other hother => hasked other (List.mem_cons_of_mem kind hother)
    rw [Registry.resolveKinds]
    cases hclassify : (registry.ask kind expected).map (classifyAnswer P expected kind) with
    | none =>
      rw [Option.map_eq_none_iff] at hclassify
      have hkind := hasked kind (List.mem_cons_self ..)
      rw [hclassify] at hkind
      cases hkind
    | some classified =>
      cases classified with
      | error err =>
        refine ⟨.error err, rfl, fun final => ⟨nofun, fun h => ?_⟩⟩
        obtain ⟨effect, heffect⟩ := h.1 kind (List.mem_cons_self ..)
        cases hclassify.symm.trans ((ask_eq_ok hexpected).mpr heffect)
      | ok effect =>
        obtain ⟨answer, hanswer, hiff⟩ := ih hrest
          (if effect.state ≠ .absent then resolved ++ [effect] else resolved)
        refine ⟨answer, hanswer, fun final => (hiff final).trans ?_⟩
        have hfound : (if effect.state ≠ .absent then resolved ++ [effect] else resolved) ++
            kinds.filterMap (registry.found P expected) =
              resolved ++ (kind :: kinds).filterMap (registry.found P expected) := by
          rw [List.filterMap_cons, Registry.found, hclassify]
          by_cases habsent : effect.state = .absent <;> simp [habsent]
        rw [hfound, List.forall_mem_cons]
        have hkind := (ask_eq_ok hexpected).mp hclassify
        exact ⟨fun h => ⟨⟨⟨effect, hkind⟩, h.1⟩, h.2⟩, fun h => ⟨h.1.2, h.2⟩⟩

/-- At most one kind is found. -/
theorem filterMap_of_unique {α β : Type} {f : α → Option β} {a : α} {l : List α} (hnodup : l.Nodup)
    (ha : a ∈ l) (hf : ∀ b ∈ l, b ≠ a → f b = none) : l.filterMap f = (f a).toList := by
  induction l with
  | nil => cases ha
  | cons b l ih =>
    obtain ⟨hb, hl⟩ := List.nodup_cons.mp hnodup
    rw [List.filterMap_cons]
    by_cases hba : b = a
    · subst hba
      have hnone : l.filterMap f = [] := List.filterMap_eq_nil_iff.mpr fun c hc =>
        hf c (List.mem_cons_of_mem _ hc) fun heq => hb (heq ▸ hc)
      rw [hnone]
      cases f b <;> rfl
    · rw [hf b (List.mem_cons_self ..) hba]
      exact ih hl ((List.mem_cons.mp ha).resolve_left (Ne.symm hba)) fun c hc =>
        hf c (List.mem_cons_of_mem _ hc)

/-! ## The answer of the dispatcher -/

/-- The resolver of the kind has answered that it has no effect of the operation. -/
def AnswersAbsent (registry : Registry Activator) (expected : Reservation) (kind : EffectKind) :
    Prop :=
  ∃ result, registry.ask kind expected = some ⟨false, .ok result⟩ ∧
    result.effect = some .empty ∧ Echoes result expected

/-- The resolver of the reserved kind has answered with the effect, which is present and matches
the reservation. -/
def AnswersEffect (registry : Registry Activator) (P : Platform) (expected : Reservation)
    (effect : ResolvedEffect) : Prop :=
  ∃ result, registry.ask expected.kind expected = some ⟨false, .ok result⟩ ∧
    result.effect = some effect ∧ Echoes result expected ∧ effect.validate P = true ∧
    effect.state ≠ .absent ∧ MatchesReservation effect expected

theorem eq_empty (hvalid : effect.validate P = true) (habsent : effect.state = .absent) :
    effect = .empty := by
  obtain ⟨kind, scopeKind, scopeDigest, effectDigest, state⟩ := effect
  subst habsent
  simp only [ResolvedEffect.validate, Bool.and_eq_true, beq_iff_eq] at hvalid
  obtain ⟨⟨⟨rfl, rfl⟩, rfl⟩, rfl⟩ := hvalid
  rfl

theorem classified_absent_iff :
    (Classified registry P expected kind effect ∧ effect.state = .absent) ↔
      AnswersAbsent registry expected kind ∧ effect = .empty := by
  constructor
  · rintro ⟨⟨result, hask, heffect, hechoes, hvalid, -⟩, habsent⟩
    obtain rfl := eq_empty hvalid habsent
    exact ⟨⟨result, hask, heffect, hechoes⟩, rfl⟩
  · rintro ⟨⟨result, hask, heffect, hechoes⟩, rfl⟩
    exact ⟨⟨result, hask, heffect, hechoes, rfl, fun h => absurd rfl h⟩, rfl⟩

/-- Only the resolver of the reserved kind can have found an effect. -/
theorem found_eq_some_iff (hexpected : expected.validate P = true) :
    registry.found P expected kind = some effect ↔
      kind = expected.kind ∧ AnswersEffect registry P expected effect := by
  constructor
  · intro h
    unfold Registry.found at h
    split at h
    · next hclassify =>
      obtain ⟨hpresent, h⟩ := Option.ite_none_right_eq_some.mp h
      obtain rfl := Option.some.inj h
      obtain ⟨result, hask, heffect, hechoes, hvalid, hmatches⟩ :=
        (ask_eq_ok hexpected).mp hclassify
      obtain ⟨rfl, hsame⟩ := hmatches hpresent
      exact ⟨rfl, result, hask, heffect, hechoes, hvalid, hpresent, hsame⟩
    · cases h
  · rintro ⟨rfl, result, hask, heffect, hechoes, hvalid, hpresent, hsame⟩
    have hclassify := (ask_eq_ok hexpected).mpr
      ⟨result, hask, heffect, hechoes, hvalid, fun _ => ⟨rfl, hsame⟩⟩
    simp only [Registry.found, hclassify, if_pos hpresent]

/-- A resolver whose answer is accepted has found nothing exactly when it answered absent. -/
theorem found_eq_none_iff (hexpected : expected.validate P = true)
    (h : ∃ effect, Classified registry P expected kind effect) :
    registry.found P expected kind = none ↔ AnswersAbsent registry expected kind := by
  obtain ⟨effect, heffect⟩ := h
  have hclassify := (ask_eq_ok hexpected).mpr heffect
  simp only [Registry.found, hclassify, ite_eq_right_iff, reduceCtorEq, imp_false, not_not]
  constructor
  · exact fun habsent => (classified_absent_iff.mp ⟨heffect, habsent⟩).1
  · intro habsent
    have hempty := (ask_eq_ok hexpected).mpr (classified_absent_iff.mpr ⟨habsent, rfl⟩).1
    obtain rfl : effect = .empty := by simpa [hclassify] using hempty
    rfl

/-- What the loop over all kinds makes of the answers. -/
theorem resolved_iff (hexpected : expected.validate P = true)
    (hkind : expected.kind ∈ supportedDispatcherKinds) :
    (∀ kind ∈ supportedDispatcherKinds, ∃ found, Classified registry P expected kind found) ∧
        (registry.found P expected expected.kind).getD .empty = effect ↔
      (AnswersEffect registry P expected effect ∧ ∀ kind ∈ supportedDispatcherKinds,
          kind ≠ expected.kind → AnswersAbsent registry expected kind) ∨
        (effect = .empty ∧ ∀ kind ∈ supportedDispatcherKinds,
          AnswersAbsent registry expected kind) := by
  have hother : ∀ kind, kind ≠ expected.kind → registry.found P expected kind = none :=
    fun kind hne => Option.eq_none_iff_forall_ne_some.mpr fun _ h =>
      hne ((found_eq_some_iff hexpected).mp h).1
  have hclassified : ∀ kind, AnswersAbsent registry expected kind →
      ∃ found, Classified registry P expected kind found :=
    fun kind habsent => ⟨.empty, (classified_absent_iff.mpr ⟨habsent, rfl⟩).1⟩
  constructor
  · rintro ⟨hall, heffect⟩
    cases hfound : registry.found P expected expected.kind with
    | none =>
      refine .inr ⟨by simpa [hfound] using heffect.symm, fun kind hmem => ?_⟩
      refine (found_eq_none_iff hexpected (hall kind hmem)).mp ?_
      by_cases hsame : kind = expected.kind
      · rw [hsame, hfound]
      · exact hother kind hsame
    | some found =>
      obtain rfl : found = effect := by simpa [hfound] using heffect
      exact .inl ⟨((found_eq_some_iff hexpected).mp hfound).2, fun kind hmem hne =>
        (found_eq_none_iff hexpected (hall kind hmem)).mp (hother kind hne)⟩
  · rintro (⟨hanswers, habsent⟩ | ⟨rfl, habsent⟩)
    · refine ⟨fun kind hmem => ?_, by rw [(found_eq_some_iff hexpected).mpr ⟨rfl, hanswers⟩]; rfl⟩
      by_cases hsame : kind = expected.kind
      · obtain ⟨result, hask, heffect, hechoes, hvalid, -, hmatches⟩ := hanswers
        exact ⟨effect, result, hsame ▸ hask, heffect, hechoes, hvalid, fun _ => ⟨hsame, hmatches⟩⟩
      · exact hclassified kind (habsent kind hmem hsame)
    · have hall := fun kind hmem => hclassified kind (habsent kind hmem)
      refine ⟨hall, ?_⟩
      rw [(found_eq_none_iff hexpected (hall _ hkind)).mpr (habsent _ hkind)]
      rfl

/-- The dispatcher asks the resolver that was registered for each kind, and it returns an effect
exactly when these agree on it: the resolver of the reserved kind has answered with the effect, or
with none, and all others with none. -/
theorem effect_resolved_iff (h : newEffectDispatcher registrations = .ok registry) (P : Platform)
    (contextEnded databaseNil : Bool) (expected : Reservation) :
    (∀ kind ∈ supportedDispatcherKinds, ∃ registration ∈ registrations,
      registration.kind = some kind ∧ ∃ resolver, registration.resolver = .value resolver ∧
        registry.ask kind expected = some (resolver ⟨kind, expected⟩)) ∧
    ∃ result, registry.resolveAuthorityEffectForUpdate P contextEnded databaseNil expected =
        some result ∧
      ∀ effect, result = .ok effect ↔
        contextEnded = false ∧ databaseNil = false ∧ expected.kind ∈ supportedDispatcherKinds ∧
        expected.validate P = true ∧
        ((AnswersEffect registry P expected effect ∧ ∀ kind ∈ supportedDispatcherKinds,
            kind ≠ expected.kind → AnswersAbsent registry expected kind) ∨
          (effect = .empty ∧ ∀ kind ∈ supportedDispatcherKinds,
            AnswersAbsent registry expected kind)) := by
  have hresolvers := newEffectDispatcher_ok h expected
  refine ⟨hresolvers, ?_⟩
  unfold Registry.resolveAuthorityEffectForUpdate
  by_cases hended : contextEnded = true
  · exact ⟨.error .canceled, by rw [if_pos hended], by simp [hended]⟩
  by_cases hkind : expected.kind ∈ supportedDispatcherKinds
  swap
  · exact ⟨.error .conflict, by rw [if_neg hended, if_pos hkind], by simp [hkind]⟩
  by_cases hinvalid : databaseNil = true ∨ expected.validate P = false
  · refine ⟨.error .invalidArgument, ?_, fun effect => ⟨nofun, ?_⟩⟩
    · rw [if_neg hended, if_neg (not_not.mpr hkind), if_pos hinvalid]
    · rintro ⟨-, hdatabase, -, hexpected, -⟩
      rw [hdatabase, hexpected] at hinvalid
      simp at hinvalid
  rw [if_neg hended, if_neg (not_not.mpr hkind), if_neg hinvalid]
  simp only [not_or, Bool.not_eq_true, Bool.not_eq_false] at hended hinvalid
  obtain ⟨hdatabase, hexpected⟩ := hinvalid
  have hasked : ∀ kind ∈ supportedDispatcherKinds, (registry.ask kind expected).isSome := by
    intro kind hmem
    obtain ⟨_, -, -, resolver, -, hask⟩ := hresolvers kind hmem
    rw [hask, Option.isSome_some]
  obtain ⟨answer, hanswer, hiff⟩ := resolveKinds_ok hexpected hasked []
  have hfound : supportedDispatcherKinds.filterMap (registry.found P expected) =
      (registry.found P expected expected.kind).toList :=
    filterMap_of_unique (by decide) hkind fun kind _ hne =>
      Option.eq_none_iff_forall_ne_some.mpr fun _ hsome =>
        hne ((found_eq_some_iff hexpected).mp hsome).1
  rw [hfound, List.nil_append] at hiff
  refine ⟨_, congrArg (Option.map _) hanswer, fun effect => ?_⟩
  rw [← resolved_iff hexpected hkind]
  simp only [hended, hdatabase, hkind, hexpected, true_and]
  cases answer with
  | error err => exact ⟨nofun, fun hall => nomatch (hiff _).mpr ⟨hall.1, rfl⟩⟩
  | ok final =>
    obtain ⟨hall, rfl⟩ := (hiff final).mp rfl
    refine ⟨fun hok => ⟨hall, ?_⟩, ?_⟩
    · cases hone : registry.found P expected expected.kind <;> rw [hone] at hok <;>
        exact Except.ok.inj hok
    · rintro ⟨-, rfl⟩
      cases registry.found P expected expected.kind <;> rfl

/-- The effect of the grant. -/
def preparedGrant : ResolvedEffect :=
  ⟨some .grantCreate, some .node, Octets.replicate 32 7, Octets.replicate 32 9, .prepared⟩

/-- The owner of the grants has prepared the effect, and no other owner knows of it. -/
def grantOwners : List (EffectRegistration Unit) := EffectKind.all.map fun kind =>
  if kind ∈ supportedDispatcherKinds then
    ⟨some kind, .value fun query => ⟨false, .ok ⟨query.expected.operationID, query.expected.epoch,
      query.expected.sequence, some (if kind = .grantCreate then preparedGrant else .empty)⟩⟩,
      .value ()⟩
  else ⟨some kind, .nil, .nil⟩

theorem grantOwners_resolve : ∃ registry, newEffectDispatcher grantOwners = .ok registry ∧
    registry.resolveAuthorityEffectForUpdate plainArtifacts.toPlatform false false
      grantReservation = some (.ok preparedGrant) := by
  refine ⟨_, rfl, ?_⟩
  obtain ⟨-, result, hresult, hiff⟩ :=
    effect_resolved_iff (show newEffectDispatcher grantOwners = .ok _ from rfl)
      plainArtifacts.toPlatform false false grantReservation
  rw [hresult,
    (hiff preparedGrant).mpr ⟨rfl, rfl, by decide, grantReservation_valid, .inl ⟨?_, ?_⟩⟩]
  · exact ⟨_, rfl, rfl, ⟨rfl, rfl, rfl⟩, by decide +kernel, by decide, rfl, rfl, rfl⟩
  · intro kind hkind hother
    cases kind <;> first
      | exact absurd rfl hother
      | exact absurd hkind (by decide)
      | exact ⟨_, rfl, rfl, rfl, rfl, rfl⟩

end Talenro.Authority
