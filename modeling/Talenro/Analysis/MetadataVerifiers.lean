import Talenro.Analysis.Metadata
import Talenro.Analysis.PlainPlatform

/-!
# Which metadata the two ends accept

Both ends read a signed document, check it and verify the signature of a root.  They make
the same checks with readers of their own, and the readers differ in one point: the server
asks that the members of a signing key are spelled exactly, the client decodes them
whatever the case of their letters.  The server also asks for a time in UTC that is set,
which the client has checked before.  So the server accepts exactly the documents of the
client that meet both (`metadata_accepted_iff`).
-/

set_option autoImplicit false

namespace Talenro.Analysis

open Lib Lib.Json Lib.Calendar

/-! ## What the client's scan has checked -/

variable {body : Bytes} {roots : List (Bytes × Bytes)} {ms : List (Raw × Json.Tree Raw)}
  {P : Platform} {payload : RootMetadataWire} {value : SignedMetadataWire} {α : Type} {depth : ℕ}

/-- The client's scan looks at all numbers. -/
theorem numbersInRange_of_scan {t : Json.Tree Raw} (h : TrustClient.scanJSONValue depth t = true) :
    Trust.numbersInRange t = true := by
  induction t generalizing depth with
  | null => rfl
  | bool b => rfl
  | str s => rfl
  | num n =>
    rw [TrustClient.scanJSONValue, Bool.and_eq_true] at h
    exact h.2
  | arr es ih =>
    obtain ⟨-, hvalues⟩ := scanJSONValue_arr.mp h
    exact numbersInRange_arr.mpr fun e he => ih e he (hvalues e he)
  | obj ms ih =>
    obtain ⟨-, -, hvalues⟩ := scanJSONValue_obj.mp h
    exact numbersInRange_obj.mpr fun m hm => ih m hm (hvalues m hm)

/-- What the client's reader checked of a text it decoded into a record. -/
structure ReadObject {α : Type} (body : Bytes) (maximum : ℕ) (fields : List (Json.Field α))
    (zero value : α) (ms : List (Raw × Json.Tree Raw)) : Prop where
  bounds : 1 ≤ body.length ∧ body.length ≤ maximum
  utf8 : Utf8.valid body = true
  escapes : validUnicodeEscapes body = true
  parsed : Json.parse body = some (.obj ms)
  scanned : TrustClient.scanJSONValue 0 (.obj ms) = true
  nodup : (memberKeys ms).Nodup
  exact : ∀ n ∈ memberKeys ms, n ∈ fields.map Json.Field.name
  decoded : decodeMembers fields ms zero = some value

/-- Members that are all there, and no more than they are, are no others. -/
theorem mem_of_required {required keys : List Bytes} (hnodup : required.Nodup)
    (hrequired : ∀ n ∈ required, n ∈ keys) (hcount : keys.length = required.length) :
    ∀ n ∈ keys, n ∈ required := by
  have hperm : required.Perm keys :=
    (List.subperm_of_subset hnodup hrequired).perm_of_length_le hcount.le
  exact fun n hn => hperm.mem_iff.mpr hn

theorem decodeStrictObject_eq_some {maximum : ℕ} {fields : List (Json.Field α)} {zero value : α}
    {keys : List Bytes} (hfields : fields ≠ []) (hnodupFields : (fields.map Json.Field.name).Nodup)
    (h : TrustClient.decodeStrictObject body maximum fields zero (TrustClient.memberNames fields) =
      some (keys, value)) : ∃ ms, ReadObject body maximum fields zero value ms := by
  simp only [TrustClient.decodeStrictObject, TrustClient.scanStrictJSON, Option.bind_eq_bind,
    Option.bind_eq_some_iff, Option.guard_eq_some', Option.pure_def, Option.some.injEq,
    Prod.mk.injEq] at h
  obtain ⟨scanned, ⟨-, hbounds, -, ⟨hutf8, hescapes⟩, t, hparse, -, hscan, hkeys⟩, names, hnames, -,
    hrequired, -, hcount, t', hparse', decoded, hdecode, rfl, rfl⟩ := h
  obtain rfl := Option.some.inj (hparse.symm.trans hparse')
  cases t with
  | obj ms =>
    rw [← hkeys] at hnames
    obtain rfl : memberKeys ms = names := Option.some.inj hnames
    have hne : TrustClient.memberNames fields ≠ [] := by
      simpa [TrustClient.memberNames] using hfields
    exact ⟨ms, hbounds, hutf8, hescapes, hparse, hscan, (scanJSONValue_obj.mp hscan).2.1,
      mem_of_required hnodupFields hrequired (hcount.resolve_left hne), hdecode⟩
  | _ =>
    rw [← hkeys] at hnames
    cases hnames

/-! ## The server's walk through what the client decoded -/

/-- Every member of a decoded record was stored in a field. -/
theorem decodeMembers_mem {fields : List (Json.Field α)} {record record' : α}
    (hexact : ∀ n ∈ memberKeys ms, n ∈ fields.map Json.Field.name)
    (h : decodeMembers fields ms record = some record') :
    ∀ m ∈ ms, ∃ field ∈ fields, field.name = unquote m.1 ∧
      ∃ before after, field.set m.2 before = some after := by
  induction ms generalizing record with
  | nil => simp
  | cons head ms ih =>
    simp only [memberKeys, List.map_cons, List.mem_cons, forall_eq_or_imp] at hexact
    obtain ⟨field, hfield, middle, hset, hrest⟩ := decodeMembers_cons_eq_some h
    obtain ⟨hmem, hname⟩ := findField_name hfield hexact.1
    intro m hm
    rcases List.mem_cons.mp hm with rfl | hm
    · exact ⟨field, hmem, hname, record, middle, hset⟩
    · exact ih hexact.2 hrest m hm

/-- A value stored in a string needs no walk. -/
theorem walkValue_of_stringField {name : Bytes} {set : Bytes → α → α} {value : Json.Tree Raw}
    {before after : α} (h : (stringField name set).set value before = some after) (depth : ℕ)
    (schema : Trust.Schema) : Trust.walkValue depth schema value = true := by
  rcases stringField_set_eq_some h with ⟨s, rfl, -⟩ | ⟨rfl, -⟩ <;> rfl

/-- Every element of an array that was decoded was. -/
theorem exists_of_mapM {β : Type} {f : α → Option β} {l : List α} {r : List β}
    (h : l.mapM f = some r) : ∀ a ∈ l, ∃ b, f a = some b := by
  induction l generalizing r with
  | nil => simp
  | cons a l ih =>
    simp only [List.mapM_cons, Option.bind_eq_bind, Option.bind_eq_some_iff] at h
    obtain ⟨b, hb, rest, hrest, -⟩ := h
    intro x hx
    rcases List.mem_cons.mp hx with rfl | hx
    · exact ⟨b, hb⟩
    · exact ih hrest x hx

/-- The members of a signing key are spelled as its fields are named. -/
def exactSigningKey : Json.Tree Raw → Bool
  | .obj members => (memberKeys members).all fun name =>
    decide (name ∈ SigningKeyMetadataWire.fields.map Json.Field.name)
  | _ => true

/-- The signing keys in the text of a document are spelled so. -/
def exactSigningKeys (body : Bytes) : Bool :=
  match Json.parse body with
  | some (.obj members) => members.all fun m =>
    match m.2 with
    | .arr elements => elements.all exactSigningKey
    | _ => true
  | _ => true

/-- The walk through a signing key that was decoded. -/
theorem walkValue_signingKey {e : Json.Tree Raw} {key : SigningKeyMetadataWire}
    (hdecode : decodeStruct SigningKeyMetadataWire.fields .zero e = some key)
    (hscan : TrustClient.scanJSONValue depth e = true) (hexact : exactSigningKey e = true) :
    Trust.walkValue 2 (Trust.flatSchema SigningKeyMetadataWire.fields) e = true := by
  cases e with
  | obj ms =>
    have hnames : ∀ n ∈ memberKeys ms, n ∈ SigningKeyMetadataWire.fields.map Json.Field.name := by
      simpa [exactSigningKey] using hexact
    refine walkValue_obj.mpr ⟨by decide, (scanJSONValue_obj.mp hscan).2.1, fun m hm => ?_⟩
    obtain ⟨field, hfield, hname, before, after, hset⟩ := decodeMembers_mem hnames hdecode m hm
    rw [← hname]
    simp only [SigningKeyMetadataWire.fields, List.mem_cons, List.not_mem_nil, or_false] at hfield
    rcases hfield with rfl | rfl | rfl | rfl | rfl | rfl
    all_goals exact ⟨.leaf, rfl, walkValue_of_stringField hset _ _⟩
  | null => rfl
  | _ => cases hdecode

/-- The walk through the list of signing keys. -/
theorem walkValue_signingKeys {value : Json.Tree Raw} {before after : RootMetadataWire}
    {set : List SigningKeyMetadataWire → RootMetadataWire → RootMetadataWire}
    (hset : (listField (ascii "signing_keys") (decodeStruct SigningKeyMetadataWire.fields .zero)
      set).set value before = some after)
    (hscan : TrustClient.scanJSONValue 1 value = true)
    (hexact : ∀ es, value = .arr es → es.all exactSigningKey = true) :
    Trust.walkValue 1 (.slice (Trust.flatSchema SigningKeyMetadataWire.fields)) value = true := by
  cases value with
  | arr es =>
    obtain ⟨list, hlist, -⟩ := Option.map_eq_some_iff.mp hset
    refine walkValue_arr.mpr ⟨by decide, fun e he => ?_⟩
    obtain ⟨key, hkey⟩ := exists_of_mapM hlist e he
    exact walkValue_signingKey hkey ((scanJSONValue_arr.mp hscan).2 e he)
      (List.all_eq_true.mp (hexact es rfl) e he)
  | null => rfl
  | _ => cases hset

/-- The server's walk through the document the client decoded. -/
theorem ReadObject.walk {maximum : ℕ}
    (h : ReadObject body maximum RootMetadataWire.fields .zero payload ms)
    (hexact : exactSigningKeys body = true) :
    Trust.walkValue 0 Trust.rootMetadataSchema (.obj ms) = true := by
  obtain ⟨-, -, hvalues⟩ := scanJSONValue_obj.mp h.scanned
  rw [exactSigningKeys, h.parsed] at hexact
  refine walkValue_obj.mpr ⟨by decide, h.nodup, fun m hm => ?_⟩
  have hkeys : ∀ es, m.2 = .arr es → es.all exactSigningKey = true := by
    intro es hes
    have hmember := List.all_eq_true.mp hexact m hm
    rwa [hes] at hmember
  obtain ⟨field, hfield, hname, before, after, hset⟩ := decodeMembers_mem h.exact h.decoded m hm
  rw [← hname]
  simp only [RootMetadataWire.fields, List.mem_cons, List.not_mem_nil, or_false] at hfield
  rcases hfield with rfl | rfl | rfl | rfl | rfl | rfl | rfl
  case inr.inr.inr.inr.inr.inr =>
    exact ⟨_, rfl, walkValue_signingKeys hset (hvalues m hm) hkeys⟩
  all_goals exact ⟨.leaf, rfl, walkValue_of_stringField hset _ _⟩

/-- A signing key the server has walked through is spelled exactly. -/
theorem exactSigningKey_of_walk {e : Json.Tree Raw}
    (h : Trust.walkValue depth (Trust.flatSchema SigningKeyMetadataWire.fields) e = true) :
    exactSigningKey e = true := by
  cases e with
  | obj ms =>
    have hnames := (walkValue_record h).2
    simp only [exactSigningKey, List.all_eq_true, decide_eq_true_eq]
    exact fun n hn => by simpa using hnames n hn
  | _ => rfl

/-- The server has walked through keys that are spelled exactly. -/
theorem exactSigningKeys_of_walk {t : Json.Tree Raw} (hparse : Json.parse body = some t)
    (hwalk : Trust.walkValue 0 Trust.rootMetadataSchema t = true)
    (hdecode : decodeStruct RootMetadataWire.fields .zero t = some payload) :
    exactSigningKeys body = true := by
  rw [exactSigningKeys, hparse]
  cases t with
  | obj ms =>
    have hexact : ∀ n ∈ memberKeys ms, n ∈ RootMetadataWire.fields.map Json.Field.name :=
      (walkValue_record hwalk).2
    refine List.all_eq_true.mpr fun m hm => ?_
    obtain ⟨field, hfield, hname, before, after, hset⟩ := decodeMembers_mem hexact hdecode m hm
    obtain ⟨expected, hexpected, hvalue⟩ := (walkValue_obj.mp hwalk).2.2 m hm
    split
    next es hes =>
      rw [hes] at hset hvalue
      rw [← hname] at hexpected
      simp only [RootMetadataWire.fields, List.mem_cons, List.not_mem_nil, or_false] at hfield
      -- An array is stored in the list of keys only.
      rcases hfield with rfl | rfl | rfl | rfl | rfl | rfl | rfl
      case inr.inr.inr.inr.inr.inr =>
        obtain rfl := Option.some.inj hexpected
        exact List.all_eq_true.mpr fun e he =>
          exactSigningKey_of_walk ((walkValue_arr.mp hvalue).2 e he)
      all_goals cases hset
    next => rfl
  | _ => rfl

/-! ## The two verifications -/

/-- What the client decoded is decoded by the server's reader when its keys are spelled
exactly. -/
theorem strictDecode_of_read {names : List Bytes}
    (hread : TrustClient.decodeStrictObject body TrustClient.maximumMetadataBytes
      RootMetadataWire.fields .zero (TrustClient.memberNames RootMetadataWire.fields) =
        some (names, payload)) (hexact : exactSigningKeys body = true) :
    Trust.strictDecode body Trust.maximumCanonicalPayloadBytes Trust.rootMetadataSchema
        (decodeStruct RootMetadataWire.fields .zero) = some payload ∧
      Trust.validIJSON body = true := by
  obtain ⟨ms, hobject⟩ := decodeStrictObject_eq_some (by decide) (by decide) hread
  constructor
  · exact (strictDecode_of_parse (by decide) ⟨hobject.bounds.2, hobject.utf8⟩ hobject.parsed
      (hobject.walk hexact)).trans hobject.decoded
  · rw [Trust.validIJSON, hobject.utf8, hobject.escapes, hobject.parsed]
    simpa using numbersInRange_of_scan hobject.scanned

/-- The client accepts a document: what it may still miss is a key of it that signs bundles. -/
def AcceptsDocument (answer : Except TrustClient.Error (RootMetadataWire × Bytes)) : Prop :=
  answer ≠ .error .metadata ∧ answer ≠ .error .metadataRollback

section Client

variable {metadata : TrustClient.TrustMetadata} {names : List Bytes} {signerKeyID : Bytes}
  {now : Instant}

/-- A document that is accepted passed every check before the choice of a key. -/
theorem clientMetadata_of_accepts
    (hread : TrustClient.decodeStrictObject metadata.signed TrustClient.maximumMetadataBytes
      SignedMetadataWire.fields .zero (TrustClient.memberNames SignedMetadataWire.fields) =
        some (names, value))
    (h : AcceptsDocument (TrustClient.verifyTrustMetadata P metadata signerKeyID now)) :
    ∃ payload, ClientMetadata P value metadata.trustedRoots metadata.highestTrusted now
      payload := by
  obtain ⟨h, hrollback⟩ := h
  unfold TrustClient.verifyTrustMetadata at h hrollback
  rw [hread, orThrow_some, ok_bind] at h hrollback
  obtain ⟨hbounds, h⟩ := require_of_bind_ne h
  obtain ⟨⟨payloadNames, payload⟩, hpayload, h⟩ := orThrow_of_bind_ne h
  obtain ⟨hfixed, h⟩ := require_of_bind_ne h
  obtain ⟨version, hversion, h⟩ := orThrow_of_bind_ne h
  obtain ⟨publicKey, hlookup, h⟩ := orThrow_of_bind_ne h
  obtain ⟨hroot, h⟩ := require_of_bind_ne h
  obtain ⟨signature, hsignature, h⟩ := orThrow_of_bind_ne h
  obtain ⟨hverify, -⟩ := require_of_bind_ne h
  -- The check of the version has an error of its own.
  dsimp only at hrollback
  rw [require_of hbounds, ok_bind, hpayload, orThrow_some, ok_bind] at hrollback
  dsimp only at hrollback
  rw [require_of hfixed, ok_bind, hversion, orThrow_some, ok_bind, hlookup, orThrow_some, ok_bind,
    require_of hroot, ok_bind, hsignature, orThrow_some, ok_bind, require_of hverify,
    ok_bind] at hrollback
  obtain ⟨hfloor, -⟩ := require_of_bind_ne hrollback
  exact ⟨payload, hbounds, ⟨payloadNames, hpayload⟩, hfixed, ⟨version, hversion, hfloor⟩,
    publicKey, signature, hlookup, hroot.1, hroot.2, hsignature, hverify⟩

/-- The search for a key answers with an error about the signature only. -/
theorem signerKey_accepts (payload : RootMetadataWire) (signerKeyID : Bytes) :
    AcceptsDocument (signerKey payload signerKeyID) := by
  constructor
  all_goals
    refine orThrow_bind_ne (by decide) fun key => orThrow_bind_ne (by decide) fun publicKey => ?_
    exact require_bind_ne (by decide) fun heq => by cases heq

/-- The document lists the key as one whose signatures are accepted. -/
def ListsSigner (payload : RootMetadataWire) (signerKeyID : Bytes) : Prop :=
  ∃ key, (payload.signingKeys.find? fun key => key.keyID = signerKeyID) = some key ∧
    (key.state = ascii "active" ∨ key.state = ascii "retiring")

/-- The search succeeds for the keys the document lists so. -/
theorem ClientMetadata.signerKey_ok_iff {highestTrusted : ℕ}
    (h : ClientMetadata P value roots highestTrusted now payload) :
    (∃ answer, signerKey payload signerKeyID = .ok answer) ↔ ListsSigner payload signerKeyID := by
  constructor
  · rintro ⟨answer, hanswer⟩
    simp only [signerKey, bind_eq_ok, orThrow_eq_ok, require_eq_ok, pure_eq_ok,
      exists_const] at hanswer
    obtain ⟨key, hfind, publicKey, -, ⟨-, -, hstate⟩, -⟩ := hanswer
    exact ⟨key, hfind, hstate⟩
  · rintro ⟨key, hfind, hstate⟩
    obtain ⟨version, hversion, -⟩ := h.valid
    obtain ⟨publicKey, -, hok⟩ :=
      signerKey_eq_ok (validateMetadataPayload_eq_some.mp hversion).1 hfind hstate
    exact ⟨_, hok⟩

end Client

theorem VerifiedMetadata.verifyRootMetadataSignature (h : VerifiedMetadata P value roots payload) :
    Trust.verifyRootMetadataSignature P value roots =
      .ok (payload, Decimal.value payload.version) := by
  obtain ⟨publicKey, signature, hlookup, hlength, hderive, hsignature, hverify⟩ := h.signed
  have hpos : 1 ≤ value.payloadJCS.length := Nat.le_of_succ_le h.bounds.1
  have hcanonical : Trust.canonicalizeJSON P value.payloadJCS Trust.rootMetadataSchema
      (decodeStruct RootMetadataWire.fields .zero) = some (value.payloadJCS, payload) := by
    simp only [Trust.canonicalizeJSON, guard, if_pos (And.intro hpos h.bounds.2), h.decoded,
      if_pos h.json, h.fixed, Option.bind_eq_bind, Option.bind_some, Option.pure_def]
  have hdecode : Base64Url.decode value.signature = some signature := by
    rw [(decodeExactBase64URL_eq_some.mp hsignature).1, Base64Url.decode_encode]
  have hsize : (decodeExactBase64URL value.signature 64).isSome = true := by
    rw [hsignature]
    rfl
  unfold Trust.verifyRootMetadataSignature
  rw [require_of ⟨h.bounds.1, h.bounds.2, hsize⟩, ok_bind, hcanonical, orThrow_some, ok_bind]
  dsimp only
  rw [require_of ⟨rfl, h.valid⟩, ok_bind, hlookup, orThrow_some, ok_bind,
    require_of ⟨hlength, hderive⟩, ok_bind, hdecode, orThrow_some, ok_bind, require_of hverify,
    ok_bind]
  rfl

/-- The window of a valid document, read as the server reads it. -/
theorem metadataWindow_iff (hvalid : Trust.validateRootMetadataV1 payload = true) {now : Instant} :
    MetadataWindow payload now ↔ (parseProtocolTime payload.validFrom).getD 0 ≤ now ∧
      now < (parseProtocolTime payload.validUntil).getD 0 := by
  obtain ⟨validFrom, validUntil, h⟩ := validateRootMetadataV1_iff.mp hvalid
  simp [MetadataWindow, h.from_time, h.until_time]

/-- The server accepts what the client accepts with exactly spelled keys, at a time it admits. -/
theorem verifyRootMetadataV1_iff_clientMetadata {highestTrusted : ℕ} {now : Time} :
    Trust.verifyRootMetadataV1 P value roots highestTrusted now = .ok payload ↔
      ClientMetadata P value roots highestTrusted now.instant payload ∧
        exactSigningKeys value.payloadJCS = true ∧ now.utc = true ∧ now.instant ≠ 0 := by
  simp only [Trust.verifyRootMetadataV1, bind_eq_ok, require_eq_ok, pure_eq_ok, exists_const,
    Prod.exists]
  constructor
  · rintro ⟨payload', version, hsignature, hfloor, ⟨hzero, hutc, hwindow⟩, rfl⟩
    obtain ⟨hverified, rfl⟩ := verifyRootMetadataSignature_eq_ok hsignature
    obtain ⟨-, -, t, hparse, hwalk, htarget⟩ := strictDecode_eq_some hverified.decoded
    exact ⟨hverified.client hfloor ((metadataWindow_iff hverified.valid).mpr hwindow),
      exactSigningKeys_of_walk hparse hwalk htarget, hutc, hzero⟩
  · rintro ⟨hclient, hexact, hutc, hzero⟩
    obtain ⟨version, hversion, hfloor⟩ := hclient.valid
    obtain ⟨hvalid, rfl, hwindow⟩ := validateMetadataPayload_eq_some.mp hversion
    obtain ⟨names, hread⟩ := hclient.decoded
    obtain ⟨hdecoded, hjson⟩ := strictDecode_of_read hread hexact
    have hverified : VerifiedMetadata P value roots payload :=
      ⟨hclient.bounds, hdecoded, hjson, hclient.fixed, hvalid, hclient.signed⟩
    exact ⟨payload, _, hverified.verifyRootMetadataSignature, hfloor,
      ⟨hzero, hutc, (metadataWindow_iff hvalid).mp hwindow⟩, rfl⟩

/-- **The two ends on metadata.**  For a text that is read as a signed document, the server
accepts the document exactly when the client does, the members of its keys are spelled
exactly and the time is set and in UTC.  The client in addition has a key for the signers
the document lists.  A key the server selects for an interval is one the client accepts
for it. -/
theorem metadata_accepted_iff (P : Platform) :
    (∀ signed names value roots highestTrusted (now : Time) signerKeyID,
      TrustClient.decodeStrictObject signed TrustClient.maximumMetadataBytes
          SignedMetadataWire.fields .zero (TrustClient.memberNames SignedMetadataWire.fields) =
        some (names, value) →
      ((∃ payload, Trust.verifyRootMetadataV1 P value roots highestTrusted now = .ok payload) ↔
        AcceptsDocument (TrustClient.verifyTrustMetadata P ⟨signed, roots, highestTrusted⟩
            signerKeyID now.instant) ∧
          exactSigningKeys value.payloadJCS = true ∧ now.utc = true ∧ now.instant ≠ 0) ∧
      ((∃ answer, TrustClient.verifyTrustMetadata P ⟨signed, roots, highestTrusted⟩ signerKeyID
          now.instant = .ok answer) ↔
        AcceptsDocument (TrustClient.verifyTrustMetadata P ⟨signed, roots, highestTrusted⟩
            signerKeyID now.instant) ∧
          ∃ names payload, TrustClient.decodeStrictObject value.payloadJCS
              TrustClient.maximumMetadataBytes RootMetadataWire.fields .zero
              (TrustClient.memberNames RootMetadataWire.fields) = some (names, payload) ∧
            ListsSigner payload signerKeyID)) ∧
    ∀ payload keyID notBefore expiresAt publicKey,
      Trust.selectSigningKeyForIssue payload keyID notBefore expiresAt = .ok publicKey →
        TrustClient.metadataKeyAuthorizes payload keyID notBefore.instant expiresAt.instant =
          true := by
  refine ⟨fun signed names value roots highestTrusted now signerKeyID hread => ?_,
    fun _ _ _ _ _ h => metadataKeyAuthorizes_of_select h⟩
  have hanswer {payload : RootMetadataWire}
      (h : ClientMetadata P value roots highestTrusted now.instant payload) :
      TrustClient.verifyTrustMetadata P ⟨signed, roots, highestTrusted⟩ signerKeyID now.instant =
        signerKey payload signerKeyID := h.verifyTrustMetadata hread
  constructor
  · constructor
    · rintro ⟨payload, hserver⟩
      obtain ⟨hclient, hconditions⟩ := verifyRootMetadataV1_iff_clientMetadata.mp hserver
      rw [hanswer hclient]
      exact ⟨signerKey_accepts payload signerKeyID, hconditions⟩
    · rintro ⟨haccepts, hconditions⟩
      obtain ⟨payload, hclient⟩ := clientMetadata_of_accepts hread haccepts
      exact ⟨payload, verifyRootMetadataV1_iff_clientMetadata.mpr ⟨hclient, hconditions⟩⟩
  · constructor
    · rintro ⟨answer, hok⟩
      have haccepts : AcceptsDocument (TrustClient.verifyTrustMetadata P
          ⟨signed, roots, highestTrusted⟩ signerKeyID now.instant) := by
        rw [hok]
        exact ⟨nofun, nofun⟩
      obtain ⟨payload, hclient⟩ := clientMetadata_of_accepts hread haccepts
      obtain ⟨payloadNames, hpayload⟩ := hclient.decoded
      rw [hanswer hclient] at hok
      exact ⟨haccepts, payloadNames, payload, hpayload,
        hclient.signerKey_ok_iff.mp ⟨answer, hok⟩⟩
    · rintro ⟨haccepts, payloadNames, payload, hpayload, hlists⟩
      obtain ⟨payload', hclient⟩ := clientMetadata_of_accepts hread haccepts
      obtain ⟨payloadNames', hpayload'⟩ := hclient.decoded
      -- Both read the same text.
      obtain ⟨-, rfl⟩ := Prod.mk.inj (Option.some.inj (hpayload.symm.trans hpayload'))
      rw [hanswer hclient]
      exact hclient.signerKey_ok_iff.mpr hlists

/-- A document with one key, whose identifier stands under the given name. -/
def plainDocument (keyName : Bytes) : Json.Tree Bytes :=
  .obj [(ascii "root_algorithm", .str (ascii "Ed25519")),
    (ascii "root_key_id", .str (ascii "RSSD6sLAyk8eyrsZ0QYKtg")),
    (ascii "schema_version", .str (ascii "talenro-trust-metadata/v1")),
    (ascii "signing_keys", .arr [.obj
      [(keyName, .str (ascii "CO4LPhHWIzenGcMOFWfzFQ")),
       (ascii "algorithm", .str (ascii "Ed25519")),
       (ascii "not_after", .str (ascii "2100-01-01T00:00:00Z")),
       (ascii "not_before", .str (ascii "2020-01-01T00:00:00Z")),
       (ascii "public_key", .str (Base64Url.encode (List.replicate 32 1))),
       (ascii "state", .str (ascii "active"))]]),
    (ascii "valid_from", .str (ascii "2020-01-01T00:00:00Z")),
    (ascii "valid_until", .str (ascii "2100-01-01T00:00:00Z")),
    (ascii "version", .str (ascii "1"))]

/-- The document with a signature. -/
def plainSignedDocument (keyName : Bytes) : SignedMetadataWire :=
  ⟨serialize (plainDocument keyName), Base64Url.encode (List.replicate 64 0)⟩

/-- A client that trusts the root of the document and has seen no version of it. -/
def plainTrustMetadata (keyName : Bytes) : TrustClient.TrustMetadata where
  signed := signedMetadataText (plainSignedDocument keyName)
  trustedRoots := [(ascii "RSSD6sLAyk8eyrsZ0QYKtg", List.replicate 32 2)]
  highestTrusted := 0

/-- A day of the year 2024. -/
def plainNow : Time := ⟨738900 * day, true⟩

/-- The server accepts the document of the client. -/
def serverAccepts (keyName : Bytes) : Bool :=
  (Trust.verifyRootMetadataV1 plainPlatform (plainSignedDocument keyName)
    (plainTrustMetadata keyName).trustedRoots 0 plainNow).toBool

/-- The client accepts it for bundles of its key. -/
def clientAccepts (keyName : Bytes) : Bool :=
  (TrustClient.verifyTrustMetadata plainPlatform (plainTrustMetadata keyName)
    (ascii "CO4LPhHWIzenGcMOFWfzFQ") plainNow.instant).toBool

/-- The document once it is read. -/
def plainRootMetadata : RootMetadataWire where
  schemaVersion := ascii "talenro-trust-metadata/v1"
  version := ascii "1"
  rootKeyID := ascii "RSSD6sLAyk8eyrsZ0QYKtg"
  rootAlgorithm := ascii "Ed25519"
  validFrom := ascii "2020-01-01T00:00:00Z"
  validUntil := ascii "2100-01-01T00:00:00Z"
  signingKeys := [⟨ascii "CO4LPhHWIzenGcMOFWfzFQ", ascii "Ed25519",
    Base64Url.encode (List.replicate 32 1), ascii "active", ascii "2020-01-01T00:00:00Z",
    ascii "2100-01-01T00:00:00Z"⟩]

theorem plainDocument_accepted :
    (Trust.verifyRootMetadataV1 plainPlatform (plainSignedDocument (ascii "key_id"))
          (plainTrustMetadata (ascii "key_id")).trustedRoots 0 plainNow = .ok plainRootMetadata ∧
        Trust.selectSigningKeyForIssue plainRootMetadata (ascii "CO4LPhHWIzenGcMOFWfzFQ") plainNow
          ⟨738901 * day, true⟩ = .ok (List.replicate 32 1) ∧
        TrustClient.metadataKeyAuthorizes plainRootMetadata (ascii "CO4LPhHWIzenGcMOFWfzFQ")
          plainNow.instant (738901 * day) = true) ∧
      AcceptsDocument (TrustClient.verifyTrustMetadata plainPlatform
        (plainTrustMetadata (ascii "key_id")) (ascii "CO4LPhHWIzenGcMOFWfzFQ")
        plainNow.instant) := by
  obtain ⟨hagree, hauthorizes⟩ := metadata_accepted_iff plainPlatform
  have hread : TrustClient.decodeStrictObject
      (signedMetadataText (plainSignedDocument (ascii "key_id"))) TrustClient.maximumMetadataBytes
      SignedMetadataWire.fields .zero (TrustClient.memberNames SignedMetadataWire.fields) =
        some ([ascii "payload_jcs", ascii "signature"], plainSignedDocument (ascii "key_id")) := by
    decide +kernel
  have hserver : Trust.verifyRootMetadataV1 plainPlatform (plainSignedDocument (ascii "key_id"))
      (plainTrustMetadata (ascii "key_id")).trustedRoots 0 plainNow = .ok plainRootMetadata := by
    decide +kernel
  have hselect : Trust.selectSigningKeyForIssue plainRootMetadata
      (ascii "CO4LPhHWIzenGcMOFWfzFQ") plainNow ⟨738901 * day, true⟩ =
        .ok (List.replicate 32 1) := by
    decide +kernel
  have haccepts := (hagree _ _ _ _ _ plainNow (ascii "CO4LPhHWIzenGcMOFWfzFQ") hread).1.mp
    ⟨plainRootMetadata, hserver⟩
  exact ⟨⟨hserver, hselect, hauthorizes _ _ _ _ _ hselect⟩, haccepts.1⟩

/-- The client accepts a document whose key has a member spelled `KEY_ID`, the server does
not. -/
theorem upperCaseKey_accepted_by_client :
    clientAccepts (ascii "KEY_ID") = true ∧ serverAccepts (ascii "KEY_ID") = false := by
  decide +kernel

end Talenro.Analysis
