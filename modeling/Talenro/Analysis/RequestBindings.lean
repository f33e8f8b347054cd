import Talenro.Model.Identity.Requests

/-!
# Requests and their bindings

The material of a binding determines the operation and the parts (`material_injective`):
all three are framed by numbers of four octets, which the guards keep from wrapping around.
No operation is admitted by both functions, so the material also determines which of
them was called.  Two different requests can therefore share a binding only through a
collision of the keyed digest (`request_bindings_separate`).
-/

set_option autoImplicit false

namespace Talenro.Analysis

open Lib Identity

/-! ## The material -/

/-- Lists of framed texts of equal length are determined, and so is what follows them. -/
theorem flatMap_framed_inj {width : ℕ} {xs ys : List Bytes} (hlength : xs.length = ys.length)
    (hx : ∀ x ∈ xs, x.length < 256 ^ width) (hy : ∀ y ∈ ys, y.length < 256 ^ width)
    (h : xs.flatMap (framed width) = ys.flatMap (framed width)) : xs = ys := by
  induction xs generalizing ys with
  | nil =>
    cases ys with
    | nil => rfl
    | cons y ys => cases hlength
  | cons x xs ih =>
    cases ys with
    | nil => cases hlength
    | cons y ys =>
      rw [List.flatMap_cons, List.flatMap_cons] at h
      obtain ⟨rfl, hrest⟩ := framed_append_inj (hx x (List.mem_cons_self ..))
        (hy y (List.mem_cons_self ..)) h
      rw [ih (Nat.succ.inj hlength) (fun u hu => hx u (List.mem_cons_of_mem _ hu))
        (fun u hu => hy u (List.mem_cons_of_mem _ hu)) hrest]

variable {operation : Bytes} {lookupDigest : Bytes → Bytes → Octets 32} {parts : List Bytes}

/-- The loop over the lengths admits only parts whose lengths fit into four octets. -/
theorem length_le_of_materialLength {total sum : ℕ} (h : materialLength total parts = some sum) :
    ∀ part ∈ parts, part.length ≤ maxUint32 := by
  induction parts generalizing total with
  | nil => simp
  | cons part parts ih =>
    rw [materialLength] at h
    split at h
    · cases h
    · next hguard =>
      intro u hu
      rcases List.mem_cons.mp hu with rfl | hu
      · omega
      · exact ih h u hu

/-- What the guards establish of the operation and the parts. -/
structure Framable (operation : Bytes) (parts : List Bytes) : Prop where
  operation : operation.length ≤ maxUint32
  count : parts.length ≤ maxUint32
  parts : ∀ part ∈ parts, part.length ≤ maxUint32

theorem lt_of_le_maxUint32 {n : ℕ} (h : n ≤ maxUint32) : n < 256 ^ 4 := by
  unfold maxUint32 at h
  omega

/-- The material of a request determines its operation and its parts. -/
theorem material_injective {operation' : Bytes} {parts' : List Bytes} (h : Framable operation parts)
    (h' : Framable operation' parts')
    (heq : material operation parts = material operation' parts') :
    operation = operation' ∧ parts = parts' := by
  obtain ⟨hoperation, hrest⟩ := framed_append_inj (lt_of_le_maxUint32 h.operation)
    (lt_of_le_maxUint32 h'.operation) heq
  obtain ⟨hcount, hparts⟩ := List.append_inj hrest (by rw [bigEndian_length, bigEndian_length])
  have hlength : parts.length = parts'.length := by
    rw [← ofBigEndian_bigEndian (lt_of_le_maxUint32 h.count), hcount,
      ofBigEndian_bigEndian (lt_of_le_maxUint32 h'.count)]
  exact ⟨hoperation, flatMap_framed_inj hlength (fun u hu => lt_of_le_maxUint32 (h.parts u hu))
    (fun u hu => lt_of_le_maxUint32 (h'.parts u hu)) hparts⟩

/-! ## The bindings -/

/-- The two functions that bind requests. -/
inductive Binder where
  | account
  | strongAuth
deriving DecidableEq

def Binder.validOperation : Binder → Bytes → Bool
  | .account => validPrivateRequestOperation
  | .strongAuth => validStrongAuthOperation

def Binder.domain : Binder → Bytes
  | .account => privateRequestDigestDomain
  | .strongAuth => strongAuthRequestDigestDomain

/-- A request: the function that binds it, its operation and its parts. -/
structure BoundRequest where
  binder : Binder
  operation : Bytes
  parts : List Bytes
deriving DecidableEq

/-- The binding of a request. -/
def BoundRequest.binding (protector : Option (Bytes → Bytes → Octets 32)) (request : BoundRequest) :
    Except RequestError Bytes :=
  match request.binder with
  | .account => privateCanonicalRequest protector request.operation request.parts
  | .strongAuth => strongAuthCanonicalRequest protector request.operation request.parts

/-- What the keyed digest is asked for. -/
def BoundRequest.preimage (request : BoundRequest) : Bytes × Bytes :=
  (request.binder.domain, material request.operation request.parts)

/-- A keyed digest has the same value for two inputs. -/
def Collides (lookupDigest : Bytes → Bytes → Octets 32) (x y : Bytes × Bytes) : Prop :=
  x ≠ y ∧ lookupDigest x.1 x.2 = lookupDigest y.1 y.2

theorem bindRequest_ok {validOperation : Bytes → Bool} {domain : Bytes} {e : RequestError}
    {binding : Bytes}
    (h : bindRequest validOperation domain e (some lookupDigest) operation parts = .ok binding) :
    validOperation operation = true ∧ Framable operation parts ∧
      binding = (lookupDigest domain (material operation parts)).1 := by
  simp only [bindRequest, bind_eq_ok, orThrow_eq_ok, require_eq_ok, pure_eq_ok, exists_const,
    Option.some.injEq] at h
  obtain ⟨lookup, rfl, ⟨hvalid, -, hcount, hoperation⟩, sum, hsum, -, rfl⟩ := h
  exact ⟨hvalid, ⟨hoperation, hcount, length_le_of_materialLength hsum⟩, rfl⟩

/-- What a request that is bound satisfies. -/
theorem BoundRequest.binding_ok {request : BoundRequest} {binding : Bytes}
    (h : request.binding (some lookupDigest) = .ok binding) :
    request.binder.validOperation request.operation = true ∧
      Framable request.operation request.parts ∧
      binding = (lookupDigest request.preimage.1 request.preimage.2).1 := by
  obtain ⟨binder, operation, parts⟩ := request
  cases binder with
  | account => exact bindRequest_ok h
  | strongAuth => exact bindRequest_ok h

/-- No operation is admitted by both functions. -/
theorem binder_of_operation {a b : Binder} (ha : a.validOperation operation = true)
    (hb : b.validOperation operation = true) : a = b := by
  have hdisjoint : ¬ (validPrivateRequestOperation operation = true ∧
      validStrongAuthOperation operation = true) := by
    rintro ⟨hprivate, hstrong⟩
    simp only [validPrivateRequestOperation, List.contains_iff_mem, List.mem_cons,
      List.not_mem_nil, or_false] at hprivate
    rcases hprivate with rfl | rfl | rfl | rfl | rfl | rfl | rfl | rfl | rfl | rfl | rfl
    all_goals exact absurd hstrong (by decide)
  cases a with
  | account =>
    cases b with
    | account => rfl
    | strongAuth => exact absurd ⟨ha, hb⟩ hdisjoint
  | strongAuth =>
    cases b with
    | account => exact absurd ⟨hb, ha⟩ hdisjoint
    | strongAuth => rfl

/-- **Bindings tell requests apart.**  The material of two requests that are bound is the same
only if they are the same request of the same function; and two different ones share a
binding only if the keyed digest collides on what it is asked for. -/
theorem request_bindings_separate (lookupDigest : Bytes → Bytes → Octets 32) (a b : BoundRequest)
    (x y : Bytes) (ha : a.binding (some lookupDigest) = .ok x)
    (hb : b.binding (some lookupDigest) = .ok y) :
    (material a.operation a.parts = material b.operation b.parts → a = b) ∧
      (a ≠ b → x = y → Collides lookupDigest a.preimage b.preimage) := by
  obtain ⟨hvalid, hframable, hx⟩ := BoundRequest.binding_ok ha
  obtain ⟨hvalid', hframable', hy⟩ := BoundRequest.binding_ok hb
  have hmaterial : material a.operation a.parts = material b.operation b.parts → a = b := by
    intro heq
    obtain ⟨hoperation, hparts⟩ := material_injective hframable hframable' heq
    rw [← hoperation] at hvalid'
    have hbinder := binder_of_operation hvalid hvalid'
    obtain ⟨binder, operation, parts⟩ := a
    obtain ⟨binder', operation', parts'⟩ := b
    rw [BoundRequest.mk.injEq]
    exact ⟨hbinder, hoperation, hparts⟩
  refine ⟨hmaterial, fun hne hxy => ⟨fun hpreimage => hne (hmaterial ?_), ?_⟩⟩
  · exact congrArg Prod.snd hpreimage
  · rw [hx, hy] at hxy
    exact Subtype.ext hxy

/-- A keyed digest for the witness: the last octets of what it is asked for. -/
def lastOctets (_ input : Bytes) : Octets 32 := Octets.copy 32 (1 :: input.reverse)

theorem resetRequests_separate :
    (⟨.account, ascii "verify_email", [[1]]⟩ : BoundRequest).binding (some lastOctets) ≠
      (⟨.strongAuth, ascii "revoke_totp", [[1], []]⟩ : BoundRequest).binding (some lastOctets) ∧
    (material (ascii "verify_email") [[1]] = material (ascii "revoke_totp") [[1], []] →
      (⟨.account, ascii "verify_email", [[1]]⟩ : BoundRequest) =
        ⟨.strongAuth, ascii "revoke_totp", [[1], []]⟩) := by
  refine ⟨by decide +kernel, ?_⟩
  exact (request_bindings_separate lastOctets ⟨.account, ascii "verify_email", [[1]]⟩
    ⟨.strongAuth, ascii "revoke_totp", [[1], []]⟩
    (lastOctets privateRequestDigestDomain (material (ascii "verify_email") [[1]])).1
    (lastOctets strongAuthRequestDigestDomain (material (ascii "revoke_totp") [[1], []])).1
    (by decide +kernel) (by decide +kernel)).1

end Talenro.Analysis
