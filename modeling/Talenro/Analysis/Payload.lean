import Talenro.Analysis.Envelope

/-!
# The payload on both ends

The server checks a payload and writes it in canonical form
(`canonicalizePayloadV1`); the client decodes the canonical text with its own
record type, in which the policy and the test configuration are still text.  Two
kinds of policy pass the server's check, and each has one canonical text
(`validDevicePolicyV1_cases`).
-/

set_option autoImplicit false

namespace Talenro.Analysis

open Lib Lib.Json Lib.Calendar

/-! ## Policies -/

/-- The members of a standard policy. -/
def standardPolicy : List (Bytes × Json.Tree Bytes) :=
  [(ascii "mode", .str (ascii "standard"))]

/-- The members of a trial policy, in canonical order. -/
def trialPolicy (expiresAt : Bytes) : List (Bytes × Json.Tree Bytes) :=
  [(ascii "expires_at", .str expiresAt), (ascii "max_devices", .str (ascii "1")),
    (ascii "mode", .str (ascii "trial_restricted"))]

/-- The values a policy can denote: standard, or a trial with an expiry. -/
inductive PolicyMembers : List (Bytes × Json.Tree Bytes) → Option Instant → Prop where
  | standard : PolicyMembers standardPolicy none
  | trial {expiresAt : Bytes} {expiry : Instant} (h : parseProtocolTime expiresAt = some expiry) :
      PolicyMembers (trialPolicy expiresAt) (some expiry)

variable {value canonical : Bytes} {issuedAt : Instant} {ms : List (Bytes × Json.Tree Bytes)}
  {expiry : Option Instant} {P : Platform} {v : Trust.PayloadV1}

theorem valid_of_parseProtocolTime {t : Instant} (h : parseProtocolTime value = some t) :
    Utf8.valid value = true := by
  apply Utf8.valid_of_ascii
  rw [← (format_of_parse h).1]
  exact format_ascii t

theorem PolicyMembers.flat (h : PolicyMembers ms expiry) : Flat ms := by
  cases h with
  | standard =>
    refine ⟨by decide, ?_⟩
    simp only [standardPolicy, List.forall_mem_cons]
    exact ⟨⟨_, rfl, by decide, by decide⟩, by simp⟩
  | @trial expiresAt expiry htime =>
    refine ⟨?_, ?_⟩
    · simp only [trialPolicy, List.map_cons, List.map_nil]
      decide
    · simp only [trialPolicy, List.forall_mem_cons]
      exact ⟨⟨_, rfl, by decide, valid_of_parseProtocolTime htime⟩,
        ⟨_, rfl, by decide, by decide⟩, ⟨_, rfl, by decide, by decide⟩, by simp⟩

/-- The members of a policy are listed in canonical order. -/
theorem PolicyMembers.sorted (h : PolicyMembers ms expiry) :
    ms.Pairwise fun a b => ¬ NameLe b a := by
  cases h with
  | standard => exact List.pairwise_singleton _ _
  | @trial expiresAt expiry htime =>
    simp only [trialPolicy, List.pairwise_cons, List.forall_mem_cons, NameLe]
    refine ⟨⟨by decide, by decide, by simp⟩, ⟨by decide, by simp⟩, by simp⟩

/-- Members that are pairwise the same under the same names, listed in some order. -/
theorem perm_of_names {β : Type} {ms ns : List (Bytes × β)} (hms : (ms.map Prod.fst).Nodup)
    (hns : (ns.map Prod.fst).Nodup) (hnames : ∀ n, n ∈ ms.map Prod.fst ↔ n ∈ ns.map Prod.fst)
    (hvalues : ∀ m ∈ ms, ∀ n ∈ ns, m.1 = n.1 → m = n) : ms.Perm ns := by
  apply (List.perm_ext_iff_of_nodup hms.of_map hns.of_map).mpr
  intro p
  constructor
  · intro hp
    obtain ⟨q, hq, hname⟩ := List.mem_map.mp ((hnames p.1).mp (List.mem_map_of_mem hp))
    rw [hvalues p hp q hq hname.symm]
    exact hq
  · intro hp
    obtain ⟨q, hq, hname⟩ := List.mem_map.mp ((hnames p.1).mpr (List.mem_map_of_mem hp))
    rw [← hvalues q hq p hp hname]
    exact hq

theorem reads_mode : Reads PolicyWire.fields (ascii "mode") PolicyWire.mode := by
  intro f hf hne
  simp only [PolicyWire.fields, List.mem_cons, List.not_mem_nil, or_false] at hf
  rcases hf with rfl | rfl | rfl
  · exact absurd rfl hne
  · exact rawField_frame fun _ _ => rfl
  · exact rawField_frame fun _ _ => rfl

theorem reads_expiresAt : Reads PolicyWire.fields (ascii "expires_at") PolicyWire.expiresAt := by
  intro f hf hne
  simp only [PolicyWire.fields, List.mem_cons, List.not_mem_nil, or_false] at hf
  rcases hf with rfl | rfl | rfl
  · exact stringField_frame fun _ _ => rfl
  · exact absurd rfl hne
  · exact rawField_frame fun _ _ => rfl

theorem stores_expiresAt : ∀ f ∈ PolicyWire.fields, f.name = ascii "expires_at" →
    ∀ value before after, f.set value before = some after → after.expiresAt = print value := by
  intro f hf hname value before after hset
  simp only [PolicyWire.fields, List.mem_cons, List.not_mem_nil, or_false] at hf
  rcases hf with rfl | rfl | rfl
  · exact absurd hname (by decide)
  · obtain rfl := Option.some.inj hset
    rfl
  · exact absurd hname (by decide)

theorem stores_maxDevices : ∀ f ∈ PolicyWire.fields, f.name = ascii "max_devices" →
    ∀ value before after, f.set value before = some after → after.maxDevices = print value := by
  intro f hf hname value before after hset
  simp only [PolicyWire.fields, List.mem_cons, List.not_mem_nil, or_false] at hf
  rcases hf with rfl | rfl | rfl
  · exact absurd hname (by decide)
  · exact absurd hname (by decide)
  · obtain rfl := Option.some.inj hset
    rfl

theorem reads_maxDevices : Reads PolicyWire.fields (ascii "max_devices") PolicyWire.maxDevices := by
  intro f hf hne
  simp only [PolicyWire.fields, List.mem_cons, List.not_mem_nil, or_false] at hf
  rcases hf with rfl | rfl | rfl
  · exact stringField_frame fun _ _ => rfl
  · exact rawField_frame fun _ _ => rfl
  · exact absurd rfl hne

/-- An object that decodes into a policy, as the server's reader left it. -/
structure DecodedPolicy (ms : List (Raw × Json.Tree Raw)) (decoded : PolicyWire) : Prop where
  exact_names : ∀ n ∈ memberKeys ms, n ∈ PolicyWire.fields.map Json.Field.name
  nodup : (memberKeys ms).Nodup
  decode : decodeMembers PolicyWire.fields ms .zero = some decoded
  wellFormed : ∀ m ∈ ms, WellFormed m.2

/-- The text of a value is never empty. -/
theorem print_ne_nil {t : Json.Tree Raw} (ht : WellFormed t) : print t ≠ [] := by
  obtain ⟨c, rest, hprint, -⟩ := print_head ht
  rw [hprint]
  exact List.cons_ne_nil c rest

/-- A raw member that the server then reads as a string is one. -/
theorem raw_string {t : Json.Tree Raw} (ht : WellFormed t) {maxBytes : ℕ} (hne : value ≠ [])
    (h : Trust.strictDecode (print t) maxBytes .leaf Trust.decodeString = some value) :
    t.map unquote = .str value := by
  obtain ⟨-, -, u, hparse, -, hstring⟩ := strictDecode_eq_some h
  rw [parse_print ht] at hparse
  obtain rfl := Option.some.inj hparse
  cases t with
  | str s =>
    rw [Json.Tree.map_str, ← Option.some.inj hstring]
  | null => exact absurd (Option.some.inj hstring).symm hne
  | _ => cases hstring

section Policy

variable {ms : List (Raw × Json.Tree Raw)} {decoded : PolicyWire}

/-- A mode comes from a member that is a string. -/
theorem DecodedPolicy.mode_member (h : DecodedPolicy ms decoded) (hmode : decoded.mode ≠ []) :
    ascii "mode" ∈ memberKeys ms ∧
      ∀ m ∈ ms, unquote m.1 = ascii "mode" → m.2.map unquote = .str decoded.mode := by
  refine ⟨?_, ?_⟩
  · by_contra habsent
    exact hmode (decodeMembers_absent reads_mode h.exact_names habsent h.decode)
  · intro m hm hname
    obtain ⟨f, hf, hfname, before, after, hbefore, hset, hafter⟩ :=
      decodeMembers_present reads_mode h.exact_names h.nodup hm hname h.decode
    simp only [PolicyWire.fields, List.mem_cons, List.not_mem_nil, or_false] at hf
    rcases hf with rfl | rfl | rfl
    · rcases stringField_set_eq_some hset with ⟨s, hs, rfl⟩ | ⟨-, rfl⟩
      · rw [hs, Json.Tree.map_str, hafter]
      · exact absurd (hafter.trans hbefore) hmode
    · exact absurd hfname (by decide)
    · exact absurd hfname (by decide)

/-- The part of a policy that one raw field stores is the text of its member. -/
theorem DecodedPolicy.raw_member (h : DecodedPolicy ms decoded) {name : Bytes}
    {get : PolicyWire → Bytes} (hreads : Reads PolicyWire.fields name get) (hzero : get .zero = [])
    (hstores : ∀ f ∈ PolicyWire.fields, f.name = name → ∀ value before after,
      f.set value before = some after → get after = print value) :
    (get decoded ≠ [] → name ∈ memberKeys ms) ∧
      ∀ m ∈ ms, unquote m.1 = name → get decoded = print m.2 := by
  refine ⟨?_, ?_⟩
  · intro hne
    by_contra habsent
    exact hne ((decodeMembers_absent hreads h.exact_names habsent h.decode).trans hzero)
  · intro m hm hname
    obtain ⟨f, hf, hfname, before, after, -, hset, hafter⟩ :=
      decodeMembers_present hreads h.exact_names h.nodup hm hname h.decode
    rw [hafter]
    exact hstores f hf hfname m.2 before after hset

/-- The decoded members of an object. -/
def decodedMembers (ms : List (Raw × Json.Tree Raw)) : List (Bytes × Json.Tree Bytes) :=
  ms.map fun m => (unquote m.1, m.2.map unquote)

theorem map_fst_decodedMembers (ms : List (Raw × Json.Tree Raw)) :
    (decodedMembers ms).map Prod.fst = memberKeys ms := by
  rw [decodedMembers, memberKeys, List.map_map]
  rfl

theorem DecodedPolicy.names (h : DecodedPolicy ms decoded) : ∀ n ∈ memberKeys ms,
    n = ascii "mode" ∨ n = ascii "expires_at" ∨ n = ascii "max_devices" := by
  intro n hn
  simpa [PolicyWire.fields, stringField, rawField] using h.exact_names n hn

/-- A policy without raw members has its mode only. -/
theorem DecodedPolicy.standard (h : DecodedPolicy ms decoded)
    (hmode : decoded.mode = ascii "standard") (hexpires : decoded.expiresAt = [])
    (hmax : decoded.maxDevices = []) : (decodedMembers ms).Perm standardPolicy := by
  obtain ⟨hmodeMem, hmodeValue⟩ := h.mode_member (by rw [hmode]; decide)
  have hexpText := (h.raw_member reads_expiresAt rfl stores_expiresAt).2
  have hmaxText := (h.raw_member reads_maxDevices rfl stores_maxDevices).2
  -- A raw member would have left its text, which is never empty.
  have honly : ∀ m ∈ ms, unquote m.1 = ascii "mode" := by
    intro m hm
    rcases h.names _ (List.mem_map_of_mem hm) with hn | hn | hn
    · exact hn
    · exact absurd ((hexpText m hm hn).symm.trans hexpires) (print_ne_nil (h.wellFormed m hm))
    · exact absurd ((hmaxText m hm hn).symm.trans hmax) (print_ne_nil (h.wellFormed m hm))
  apply perm_of_names
  · rw [map_fst_decodedMembers]
    exact h.nodup
  · decide
  · intro n
    rw [map_fst_decodedMembers]
    constructor
    · intro hn
      obtain ⟨m, hm, rfl⟩ := List.mem_map.mp hn
      rw [honly m hm]
      exact List.mem_singleton.mpr rfl
    · intro hn
      obtain rfl := List.mem_singleton.mp hn
      exact hmodeMem
  · intro p hp q hq _
    obtain ⟨m, hm, rfl⟩ := List.mem_map.mp hp
    obtain rfl := List.mem_singleton.mp hq
    rw [honly m hm, hmodeValue m hm (honly m hm), hmode]

/-- A policy whose raw members are read as strings has all three members. -/
theorem DecodedPolicy.trial (h : DecodedPolicy ms decoded)
    (hmode : decoded.mode = ascii "trial_restricted") (hexpires : decoded.expiresAt ≠ [])
    (hmax : decoded.maxDevices ≠ []) {expiresAt : Bytes} (hne : expiresAt ≠ [])
    (hexpiresString : Trust.strictDecode decoded.expiresAt decoded.expiresAt.length .leaf
      Trust.decodeString = some expiresAt)
    (hmaxString : Trust.strictDecode decoded.maxDevices decoded.maxDevices.length .leaf
      Trust.decodeString = some (ascii "1")) :
    (decodedMembers ms).Perm (trialPolicy expiresAt) := by
  obtain ⟨hmodeMem, hmodeValue⟩ := h.mode_member (by rw [hmode]; decide)
  obtain ⟨hexpMem, hexpText⟩ := h.raw_member reads_expiresAt rfl stores_expiresAt
  obtain ⟨hmaxMem, hmaxText⟩ := h.raw_member reads_maxDevices rfl stores_maxDevices
  apply perm_of_names
  · rw [map_fst_decodedMembers]
    exact h.nodup
  · simp only [trialPolicy, List.map_cons, List.map_nil]
    decide
  · intro n
    rw [map_fst_decodedMembers]
    constructor
    · intro hn
      rcases h.names n hn with rfl | rfl | rfl <;> simp [trialPolicy]
    · intro hn
      simp only [trialPolicy, List.map_cons, List.map_nil, List.mem_cons, List.not_mem_nil,
        or_false] at hn
      rcases hn with rfl | rfl | rfl
      · exact hexpMem hexpires
      · exact hmaxMem hmax
      · exact hmodeMem
  · intro p hp q hq hname
    obtain ⟨m, hm, rfl⟩ := List.mem_map.mp hp
    change unquote m.1 = q.1 at hname
    simp only [trialPolicy, List.mem_cons, List.not_mem_nil, or_false] at hq
    rcases hq with rfl | rfl | rfl
    · have htext := hexpText m hm hname
      rw [htext] at hexpiresString
      rw [raw_string (h.wellFormed m hm) hne hexpiresString, hname]
    · have htext := hmaxText m hm hname
      rw [htext] at hmaxString
      rw [raw_string (h.wellFormed m hm) (by decide) hmaxString, hname]
    · rw [hmodeValue m hm hname, hmode, hname]

end Policy

/-- A policy the server accepts is a standard policy or a trial with an expiry;
its members are written in some order. -/
theorem validDevicePolicyV1_cases {policy : Bytes} (h : Trust.validDevicePolicyV1 policy = true) :
    ∃ ms sorted expiry, Json.parse policy = some (.obj ms) ∧ (decodedMembers ms).Perm sorted ∧
      PolicyMembers sorted expiry := by
  unfold Trust.validDevicePolicyV1 at h
  split at h
  · cases h
  cases hdecode : Trust.strictDecode policy Trust.maximumPolicyBytes
      (Trust.flatSchema PolicyWire.fields) (decodeStruct PolicyWire.fields .zero) with
  | none => simp [hdecode] at h
  | some decoded =>
    simp only [hdecode] at h
    have hzero : decoded ≠ .zero := by
      rintro rfl
      revert h
      decide
    obtain ⟨ms, hparse, hnodup, hexact, hmembers⟩ := strictDecode_record (by rfl) hzero hdecode
    have hpolicy : DecodedPolicy ms decoded :=
      ⟨hexact, hnodup, hmembers, fun m hm =>
        (Json.Tree.all_obj.mp (parse_wellFormed hparse) m hm).2⟩
    by_cases hstandard : decoded.mode = ascii "standard"
    · rw [if_pos hstandard, Bool.and_eq_true, List.isEmpty_iff, List.isEmpty_iff] at h
      exact ⟨ms, standardPolicy, none, hparse, hpolicy.standard hstandard h.1 h.2, .standard⟩
    · rw [if_neg hstandard] at h
      split at h
      · cases h
      next hpresent =>
      simp only [not_or, not_not] at hpresent
      cases hexpires : Trust.strictDecode decoded.expiresAt decoded.expiresAt.length .leaf
          Trust.decodeString with
      | none => simp [hexpires] at h
      | some expiresAt =>
        cases hmax : Trust.strictDecode decoded.maxDevices decoded.maxDevices.length .leaf
            Trust.decodeString with
        | none => simp [hexpires, hmax] at h
        | some maxDevices =>
          simp only [hexpires, hmax, Bool.and_eq_true, beq_iff_eq] at h
          obtain ⟨htime, rfl⟩ := h
          obtain ⟨expiry, hexpiry⟩ := Option.isSome_iff_exists.mp htime
          have hne : expiresAt ≠ [] := by
            rintro rfl
            cases hexpiry
          exact ⟨ms, trialPolicy expiresAt, some expiry, hparse,
            hpolicy.trial hpresent.1 hpresent.2.1 hpresent.2.2 hne hexpires hmax, .trial hexpiry⟩

/-! ## The payload -/

/-- The members of a test configuration. -/
def configMembers (config : TestConfigWire) : List (Bytes × Json.Tree Bytes) :=
  [(ascii "message", .str config.message), (ascii "sequence", .str config.sequence)]

/-- The members of a payload as the server marshals them. -/
def payloadMembers (v : Trust.PayloadV1) (policy : Json.Tree Bytes) :
    List (Bytes × Json.Tree Bytes) :=
  [(ascii "schema_version", .str v.schemaVersion), (ascii "bundle_id", .str v.bundleID),
    (ascii "bundle_locator", .str v.bundleLocator), (ascii "bundle_version", .str v.bundleVersion),
    (ascii "audience", .str v.audience), (ascii "issued_at", .str v.issuedAt),
    (ascii "not_before", .str v.notBefore), (ascii "expires_at", .str v.expiresAt),
    (ascii "policy_snapshot", policy), (ascii "test_config", .obj (configMembers v.testConfig))]

/-- The members of a payload in canonical order. -/
def sortedPayload (v : Trust.PayloadV1) (policy : Json.Tree Bytes) :
    List (Bytes × Json.Tree Bytes) :=
  [(ascii "audience", .str v.audience), (ascii "bundle_id", .str v.bundleID),
    (ascii "bundle_locator", .str v.bundleLocator), (ascii "bundle_version", .str v.bundleVersion),
    (ascii "expires_at", .str v.expiresAt), (ascii "issued_at", .str v.issuedAt),
    (ascii "not_before", .str v.notBefore), (ascii "policy_snapshot", policy),
    (ascii "schema_version", .str v.schemaVersion),
    (ascii "test_config", .obj (configMembers v.testConfig))]

/-- The record the client decodes a payload into. -/
def clientPayload (v : Trust.PayloadV1) (policy : Json.Tree Bytes) : TrustClient.PayloadWire :=
  { schemaVersion := v.schemaVersion
    bundleID := v.bundleID
    bundleLocator := v.bundleLocator
    bundleVersion := v.bundleVersion
    audience := v.audience
    issuedAt := v.issuedAt
    notBefore := v.notBefore
    expiresAt := v.expiresAt
    policySnapshot := encode policy
    testConfig := encode (.obj (configMembers v.testConfig)) }

theorem sort_payloadMembers (v : Trust.PayloadV1) {policy sorted : Json.Tree Bytes}
    (hpolicy : sort policy = sorted) :
    sort (.obj (payloadMembers v policy)) = .obj (sortedPayload v sorted) := by
  have hconfig : sort (.obj (configMembers v.testConfig)) = .obj (configMembers v.testConfig) := by
    rw [sort_obj]
    rfl
  rw [sort_obj]
  simp only [payloadMembers, List.map_cons, List.map_nil, sort_str, hpolicy, hconfig]
  rfl

/-- The strings of a payload are valid UTF-8. -/
structure PayloadStrings (v : Trust.PayloadV1) : Prop where
  schemaVersion : Utf8.valid v.schemaVersion = true
  bundleID : Utf8.valid v.bundleID = true
  bundleLocator : Utf8.valid v.bundleLocator = true
  bundleVersion : Utf8.valid v.bundleVersion = true
  audience : Utf8.valid v.audience = true
  issuedAt : Utf8.valid v.issuedAt = true
  notBefore : Utf8.valid v.notBefore = true
  expiresAt : Utf8.valid v.expiresAt = true
  message : Utf8.valid v.testConfig.message = true
  sequence : Utf8.valid v.testConfig.sequence = true

theorem valid_of_canonicalUUID (hP : P.Documented) (h : canonicalUUID P value = true) :
    Utf8.valid value = true := by
  unfold canonicalUUID at h
  split at h
  · next parsed hparse =>
    rw [Bool.and_eq_true, beq_iff_eq] at h
    rw [← h.2]
    exact Utf8.valid_of_ascii (hP.uuid_string_ascii parsed)
  · cases h

theorem valid_of_unsignedIntegerString (h : unsignedIntegerString value = true) :
    Utf8.valid value = true := by
  simp only [unsignedIntegerString, Bool.and_eq_true, List.all_eq_true] at h
  exact Utf8.valid_of_ascii fun c hc => Decimal.isDigit_ascii (h.1.2 c hc)

theorem parsePositiveUint_eq_some {n : ℕ} (h : parsePositiveUint value = some n) :
    unsignedIntegerString value = true ∧ n = Decimal.value value := by
  unfold parsePositiveUint at h
  split at h
  · next hvalid => exact ⟨hvalid.1, (Option.some.inj h).symm⟩
  · cases h

/-- What the server checked of a payload. -/
structure ValidPayload (P : Platform) (v : Trust.PayloadV1) (issuedAt notBefore expiresAt : Instant) :
    Prop where
  issued_time : parseProtocolTime v.issuedAt = some issuedAt
  notBefore_time : parseProtocolTime v.notBefore = some notBefore
  expires_time : parseProtocolTime v.expiresAt = some expiresAt
  schemaVersion : v.schemaVersion = Trust.bundleSchemaV1
  bundleID : canonicalUUID P v.bundleID = true
  audience : canonicalUUID P v.audience = true
  bundleLocator : (decodeExactBase64URL v.bundleLocator 32).isSome = true
  bundleVersion : (parsePositiveUint v.bundleVersion).isSome = true
  issued_le : issuedAt ≤ notBefore
  lt_expires : notBefore < expiresAt
  message_length : v.testConfig.message.length ≤ Trust.maximumMessageBytes
  message : Utf8.valid v.testConfig.message = true
  sequence : unsignedIntegerString v.testConfig.sequence = true
  policy : Trust.validDevicePolicyV1 v.policySnapshot = true

theorem validatePayloadV1_eq_true (h : Trust.validatePayloadV1 P v = true) :
    ∃ issuedAt notBefore expiresAt, ValidPayload P v issuedAt notBefore expiresAt := by
  unfold Trust.validatePayloadV1 at h
  split at h
  · next issuedAt notBefore expiresAt hissued hbefore hexpires =>
    simp only [Bool.and_eq_true, beq_iff_eq, decide_eq_true_eq] at h
    obtain ⟨⟨⟨⟨⟨⟨⟨⟨⟨⟨hschema, hid⟩, haudience⟩, hlocator⟩, hversion⟩, hle⟩, hlt⟩, hlen⟩, hmessage⟩,
      hsequence⟩, hpolicy⟩ := h
    exact ⟨issuedAt, notBefore, expiresAt, hissued, hbefore, hexpires, hschema, hid, haudience,
      hlocator, hversion, hle, hlt, hlen, hmessage, hsequence, hpolicy⟩
  · cases h

theorem ValidPayload.strings (hP : P.Documented) {notBefore expiresAt : Instant}
    (h : ValidPayload P v issuedAt notBefore expiresAt) : PayloadStrings v := by
  obtain ⟨version, hversion⟩ := Option.isSome_iff_exists.mp h.bundleVersion
  exact
    { schemaVersion := by rw [h.schemaVersion]; decide
      bundleID := valid_of_canonicalUUID hP h.bundleID
      bundleLocator := valid_of_decodeExactBase64URL h.bundleLocator
      bundleVersion := valid_of_unsignedIntegerString (parsePositiveUint_eq_some hversion).1
      audience := valid_of_canonicalUUID hP h.audience
      issuedAt := valid_of_parseProtocolTime h.issued_time
      notBefore := valid_of_parseProtocolTime h.notBefore_time
      expiresAt := valid_of_parseProtocolTime h.expires_time
      message := h.message
      sequence := valid_of_unsignedIntegerString h.sequence }

theorem PayloadStrings.flat_config (h : PayloadStrings v) : Flat (configMembers v.testConfig) := by
  refine ⟨?_, ?_⟩
  · simp only [configMembers, List.map_cons, List.map_nil]
    decide
  · simp only [configMembers, List.forall_mem_cons]
    exact ⟨⟨_, rfl, by decide, h.message⟩, ⟨_, rfl, by decide, h.sequence⟩, by simp⟩

/-- A payload with a flat policy has no numbers, valid strings and distinct names. -/
theorem PayloadStrings.members (h : PayloadStrings v) {policy : List (Bytes × Json.Tree Bytes)}
    (hpolicy : Flat policy) :
    NoNumbers (.obj (payloadMembers v (.obj policy)) : Json.Tree Bytes) ∧
      ValidStrings (.obj (payloadMembers v (.obj policy))) ∧
      (Json.Tree.obj (payloadMembers v (.obj policy))).Distinct := by
  have hconfig := h.flat_config
  refine ⟨?_, ?_, ?_⟩
  · rw [NoNumbers, Json.Tree.all_obj]
    simp only [payloadMembers, List.forall_mem_cons, Json.Tree.all_str, true_and]
    exact ⟨hpolicy.noNumbers, hconfig.noNumbers, by simp⟩
  · rw [ValidStrings, Json.Tree.all_obj]
    simp only [payloadMembers, List.forall_mem_cons, Json.Tree.all_str]
    exact ⟨⟨by decide, h.schemaVersion⟩, ⟨by decide, h.bundleID⟩, ⟨by decide, h.bundleLocator⟩,
      ⟨by decide, h.bundleVersion⟩, ⟨by decide, h.audience⟩, ⟨by decide, h.issuedAt⟩,
      ⟨by decide, h.notBefore⟩, ⟨by decide, h.expiresAt⟩, ⟨by decide, hpolicy.validStrings⟩,
      ⟨by decide, hconfig.validStrings⟩, by simp⟩
  · rw [Json.Tree.distinct_obj]
    refine ⟨?_, ?_⟩
    · simp only [payloadMembers, List.map_cons, List.map_nil]
      decide
    · simp only [payloadMembers, List.forall_mem_cons, Json.Tree.distinct_str, true_and]
      exact ⟨hpolicy.distinct, hconfig.distinct, by simp⟩

/-- What a successful `canonicalizeJSON` did. -/
theorem canonicalizeJSON_eq_some {α : Type} {body : Bytes} {schema : Trust.Schema}
    {target : Json.Tree Raw → Option α} {value : α}
    (h : Trust.canonicalizeJSON P body schema target = some (canonical, value)) :
    Trust.strictDecode body Trust.maximumCanonicalPayloadBytes schema target = some value ∧
      Trust.validIJSON body = true ∧ P.jcsTransform body = some canonical ∧
      canonical.length ≤ Trust.maximumCanonicalPayloadBytes ∧
      ∃ again, Trust.strictDecode canonical Trust.maximumCanonicalPayloadBytes schema target =
        some again := by
  simp only [Trust.canonicalizeJSON, Option.bind_eq_bind, Option.bind_eq_some_iff,
    Option.guard_eq_some', Option.pure_def, Option.some.injEq, Prod.mk.injEq] at h
  obtain ⟨-, -, decoded, hdecoded, -, hjson, text, htext, -, hlen, again, hagain, rfl, rfl⟩ := h
  exact ⟨hdecoded, hjson, htext, hlen.2, again, hagain⟩

/-- The policy with this text is a trial that expires at `expiry`. -/
def PolicyExpires (policy : Bytes) (expiry : Instant) : Prop :=
  ∃ ms expiresAt, Json.decode policy = some (.obj ms) ∧
    (ascii "expires_at", .str expiresAt) ∈ ms ∧ parseProtocolTime expiresAt = some expiry

theorem decode_of_parse_obj {body : Bytes} {ms : List (Raw × Json.Tree Raw)}
    (h : Json.parse body = some (.obj ms)) :
    Json.decode body = some (.obj (decodedMembers ms)) := by
  rw [Json.decode, h, Option.map_some, Json.Tree.map_obj]
  rfl

theorem PolicyMembers.expires {policy : Bytes} {ms : List (Raw × Json.Tree Raw)}
    {sorted : List (Bytes × Json.Tree Bytes)} (h : PolicyMembers sorted expiry)
    (hparse : Json.parse policy = some (.obj ms)) (hperm : (decodedMembers ms).Perm sorted) :
    ∀ e, expiry = some e → PolicyExpires policy e := by
  intro e he
  cases h with
  | standard => cases he
  | @trial expiresAt expiry htime =>
    obtain rfl := Option.some.inj he
    refine ⟨decodedMembers ms, expiresAt, decode_of_parse_obj hparse, ?_, htime⟩
    exact hperm.mem_iff.mpr (List.mem_cons_self ..)

end Talenro.Analysis
