import Talenro.Analysis.StrictReaders
import Talenro.Model.Authority.Evidence

/-!
# Artifacts are read back

An artifact is built from its facts, and stored as canonical text.  The parser of its kind decodes
the text, reads each member and builds the value again.  `decode_canonicalAuthorityArtifact` says
for every record of strings that decoding its canonical text gives the record; the rest is one lemma
for each way in which a member is written, and one round trip for each kind of artifact.
-/

set_option autoImplicit false

namespace Talenro.Authority

open Lib Lib.Json Lib.Calendar Analysis

/-! ## Records of strings -/

/-- A record that canonical JSON can express: its names differ, and its texts are UTF-8. -/
def Printable (wire : List (Bytes × Bytes)) : Prop :=
  (wire.map Prod.fst).Nodup ∧ ∀ m ∈ wire, Utf8.valid m.1 = true ∧ Utf8.valid m.2 = true

variable {facts : ActivationDecisionEvidenceFacts} {P : ArtifactPlatform}
  {input : AuthorityEffectCommitmentFacts} {canonical : Bytes} {digest : Digest} {head : Head}
  {wire members : List (Bytes × Bytes)} {names : List Bytes}

theorem Printable.perm {other : List (Bytes × Bytes)} (h : Printable wire) (hp : other.Perm wire) :
    Printable other :=
  ⟨(hp.map Prod.fst).nodup_iff.mpr h.1, fun m hm => h.2 m (hp.mem_iff.mp hm)⟩

theorem Printable.flat (h : Printable wire) :
    Flat (wire.map fun member => (member.1, .str member.2)) := by
  refine ⟨?_, ?_⟩
  · rw [List.map_map]
    exact h.1
  · intro m hm
    obtain ⟨member, hmember, rfl⟩ := List.mem_map.mp hm
    exact ⟨member.2, rfl, h.2 member hmember⟩

/-- The canonical text of a record has its members in order. -/
theorem Printable.jcsTransform {P : Platform} (hjcs : Rfc8785 P.jcsTransform) (h : Printable wire) :
    P.jcsTransform (marshal ((stringObject wire).map quote)) =
      some (encode (stringObject (wire.insertionSort NameLe))) := by
  have hn := h.flat.noNumbers
  have hsort := List.map_insertionSort NameLe NameLe
    (fun member : Bytes × Bytes => (member.1, (Json.Tree.str member.2 : Json.Tree Bytes))) wire
    fun a _ b _ => Iff.rfl
  rw [stringObject, hjcs.transform_object _ _ (decode_marshal_quote hn)
    (valid_marshal_quote hn h.flat.validStrings) (validUnicodeEscapes_marshal_quote hn) hn
    h.flat.distinct, serialize, h.flat.sort_eq, ← hsort, stringObject]

/-- The canonical text of a record that is in order already. -/
theorem Printable.canonicalAuthorityArtifact_eq {P : Platform} (hjcs : Rfc8785 P.jcsTransform)
    (h : Printable wire) (hsorted : wire.Pairwise fun a b => ¬NameLe b a)
    (hlength : (encode (stringObject wire)).length ≤ authorityCanonicalMaximumBytes)
    {domain : Bytes} (hdigest : P.sha256 (domain ++ encode (stringObject wire)) = digest) :
    canonicalAuthorityArtifact P domain wire = some (encode (stringObject wire), digest) := by
  have htransform := h.jcsTransform hjcs
  rw [insertionSort_of_perm (List.Perm.refl wire) hsorted] at htransform
  rw [canonicalAuthorityArtifact, htransform, ← hdigest]
  exact guard_bind_eq_some ⟨encode_obj_length_pos _, hlength⟩ rfl

/-! ### Decoding the members -/

theorem findField_stringFields {name : Bytes} (h : name ∈ names) :
    findField (stringFields names) name =
      some (stringField name fun value record => Function.update record name value) := by
  have hfind : (stringFields names).find? (fun f => f.name = name) =
      some (stringField name fun value record => Function.update record name value) := by
    induction names with
    | nil => cases h
    | cons other names ih =>
      by_cases hname : other = name
      · subst hname
        simp [stringFields, stringField]
      · have hrest := ih ((List.mem_cons.mp h).resolve_left (Ne.symm hname))
        simpa [stringFields, stringField, hname] using hrest
  rw [findField, hfind]

/-- Decoding sets each member and leaves the other fields. -/
theorem decodeMembers_stringFields (names : List Bytes) (hnames : ∀ m ∈ members, m.1 ∈ names)
    (hnodup : (members.map Prod.fst).Nodup) (start : StringRecord) :
    ∃ record, decodeMembers (stringFields names)
        (members.map fun m => (quote m.1, .str (quote m.2))) start = some record ∧
      (∀ m ∈ members, record m.1 = m.2) ∧
      ∀ name, name ∉ members.map Prod.fst → record name = start name := by
  induction members generalizing start with
  | nil => exact ⟨start, rfl, by simp, fun _ _ => rfl⟩
  | cons m members ih =>
    rw [List.map_cons, List.nodup_cons] at hnodup
    obtain ⟨record, hdecode, hset, hkept⟩ := ih (fun u hu => hnames u (List.mem_cons_of_mem _ hu))
      hnodup.2 (Function.update start m.1 m.2)
    refine ⟨record, ?_, ?_, ?_⟩
    · rw [List.map_cons, decodeMembers_cons_quote,
        findField_stringFields (hnames m (List.mem_cons_self ..)), Option.bind_some,
        stringField_set_quote, Option.bind_some, hdecode]
    · intro u hu
      rcases List.mem_cons.mp hu with rfl | hu
      · rw [hkept u.1 hnodup.1, Function.update_self]
      · exact hset u hu
    · intro name hname
      rw [List.map_cons, List.mem_cons, not_or] at hname
      rw [hkept name hname.2, Function.update_of_ne hname.1]

/-- The strict reader walks through a record of strings. -/
theorem walkValue_strings (hnames : ∀ m ∈ members, m.1 ∈ names)
    (hnodup : (members.map Prod.fst).Nodup) :
    Trust.walkValue 0 (.record (names.map fun name => (name, .leaf)))
      (.obj (members.map fun m => (quote m.1, .str (quote m.2)))) = true := by
  have hkeys : memberKeys (members.map fun m => (quote m.1, .str (quote m.2))) =
      members.map Prod.fst := by
    rw [memberKeys, List.map_map]
    exact List.map_congr_left fun m _ => unquote_quote m.1
  refine walkValue_obj.mpr ⟨by decide, hkeys ▸ hnodup, List.forall_mem_map.mpr fun m hm => ?_⟩
  refine ⟨.leaf, ?_, rfl⟩
  rw [unquote_quote, Trust.Schema.member]
  have hmem := hnames m hm
  clear hnames
  induction names with
  | nil => cases hmem
  | cons name names ih =>
    by_cases hname : m.1 = name
    · simp [hname]
    · have hfalse : (m.1 == name) = false := beq_eq_false_iff_ne.mpr hname
      have hlater := ih ((List.mem_cons.mp hmem).resolve_left hname)
      simpa [List.lookup_cons, hfalse] using hlater

/-- The strict decoder reads the members of a record of strings. -/
theorem strictDecode_stringObject {maximum : ℕ} (h : Printable members)
    (hnames : ∀ m ∈ members, m.1 ∈ names)
    (hmaximum : 0 < maximum ∧ maximum ≤ Trust.maximumBodyBytes)
    (hlength : (encode (stringObject members)).length ≤ maximum) :
    Json.parse (encode (stringObject members)) = some ((stringObject members).map quote) ∧
      ∃ record, Trust.strictDecode (encode (stringObject members)) maximum
          (.record (names.map fun name => (name, .leaf)))
          (decodeStruct (stringFields names) fun _ => []) = some record ∧
        ∀ m ∈ members, record m.1 = m.2 := by
  have hn := h.flat.noNumbers
  have hparse : Json.parse (encode (stringObject members)) =
      some ((stringObject members).map quote) := parse_encode hn
  have hquoted : (stringObject members).map quote =
      .obj (members.map fun m => (quote m.1, .str (quote m.2))) := by
    rw [stringObject, Json.Tree.map_obj, List.map_map]
    simp only [Function.comp_def, Json.Tree.map_str]
  obtain ⟨record, hdecode, hset, -⟩ := decodeMembers_stringFields names hnames h.1 fun _ => []
  refine ⟨hparse, record, ?_, hset⟩
  rw [strictDecode_of_parse hmaximum ⟨hlength, valid_encode hn h.flat.validStrings⟩
    (hquoted ▸ hparse) (walkValue_strings hnames h.1)]
  exact hdecode

/-- The record that is decoded from a canonical text holds the members it was made of. -/
theorem decode_canonicalAuthorityArtifact {P : Platform} (hjcs : Rfc8785 P.jcsTransform)
    {domain : Bytes} (hwire : Printable wire) {text : Bytes × Digest}
    (h : canonicalAuthorityArtifact P domain wire = some text) :
    ∃ record, decodeCanonicalAuthorityArtifact P (wire.map Prod.fst) text.1 = some record ∧
      stringMembers (wire.map Prod.fst) record = wire := by
  have hsorted := hwire.jcsTransform hjcs
  have hperm := List.perm_insertionSort NameLe wire
  have hprintable := hwire.perm hperm
  generalize wire.insertionSort NameLe = sorted at hsorted hperm hprintable
  simp only [canonicalAuthorityArtifact, hsorted, guard, Option.bind_eq_bind, Option.bind_some,
    Option.pure_def] at h
  split_ifs at h with hlength
  · obtain rfl := Option.some.inj h
    obtain ⟨-, record, hstrict, hset⟩ := strictDecode_stringObject hprintable
      (fun m hm => List.mem_map_of_mem (f := Prod.fst) (hperm.mem_iff.mp hm))
      (show 0 < authorityCanonicalMaximumBytes ∧ _ by decide) hlength.2
    have hmembers : stringMembers (wire.map Prod.fst) record = wire := by
      rw [stringMembers, List.map_map]
      refine (List.map_congr_left fun m hm => ?_).trans (List.map_id' wire)
      exact Prod.ext rfl (hset m (hperm.mem_iff.mpr hm))
    refine ⟨record, ?_, hmembers⟩
    simp only [decodeCanonicalAuthorityArtifact, guard, hstrict, hmembers, hsorted, if_pos hlength,
      if_true, Option.bind_eq_bind, Option.bind_some, Option.pure_def]
  · cases h

/-- A record with these names and ASCII values is printable. -/
theorem printable_of_ascii (names : List Bytes) (hnames : wire.map Prod.fst = names)
    (hnodup : names.Nodup) (hvalid : ∀ name ∈ names, Utf8.valid name = true)
    (hascii : ∀ m ∈ wire, ∀ c ∈ m.2, c < 0x80) : Printable wire := by
  subst hnames
  exact ⟨hnodup, fun m hm =>
    ⟨hvalid m.1 (List.mem_map_of_mem hm), Utf8.valid_of_ascii (hascii m hm)⟩⟩

/-! ## Texts of members -/

theorem digestString_ascii (value : Digest) : ∀ c ∈ digestString value, c < 0x80 := by
  intro c hc
  obtain ⟨n, hn, rfl⟩ := Hex.exists_digit_of_mem hc
  exact (Hex.digit_ascii hn).1

theorem format_ascii (n : ℕ) : ∀ c ∈ Decimal.format n, c < 0x80 :=
  fun c hc => Decimal.isDigit_ascii (Decimal.format_digits n c hc)

theorem EffectKind.text_ascii (kind : EffectKind) : ∀ c ∈ kind.text, c < 0x80 := by
  cases kind <;> exact ascii_of_all (by decide)

theorem ScopeKind.text_ascii (kind : ScopeKind) : ∀ c ∈ kind.text, c < 0x80 := by
  cases kind <;> exact ascii_of_all (by decide)

theorem CommitmentMode.text_ascii (mode : CommitmentMode) : ∀ c ∈ mode.text, c < 0x80 := by
  cases mode <;> exact ascii_of_all (by decide)

theorem AuthorityEffectReason.text_ascii (reason : AuthorityEffectReason) :
    ∀ c ∈ reason.text, c < 0x80 := by
  cases reason <;> exact ascii_of_all (by decide)

theorem CheckpointKind.text_ascii (kind : CheckpointKind) : ∀ c ∈ kind.text, c < 0x80 := by
  cases kind <;> exact ascii_of_all (by decide)

theorem TrustedTimeKind.text_ascii (kind : TrustedTimeKind) : ∀ c ∈ kind.text, c < 0x80 := by
  cases kind <;> exact ascii_of_all (by decide)

theorem DecisionCapability.text_ascii (capability : DecisionCapability) :
    ∀ c ∈ capability.text, c < 0x80 := by
  cases capability <;> exact ascii_of_all (by decide)

theorem EffectDisposition.text_ascii (disposition : EffectDisposition) :
    ∀ c ∈ disposition.text, c < 0x80 := by
  cases disposition <;> exact ascii_of_all (by decide)

theorem DecisionAnchorKind.text_ascii (kind : DecisionAnchorKind) : ∀ c ∈ kind.text, c < 0x80 := by
  cases kind <;> exact ascii_of_all (by decide)

theorem walText_ascii (high low : ℕ) : ∀ c ∈ walText high low, c < 0x80 := by
  intro c hc
  rw [walText, List.mem_append, List.mem_cons] at hc
  rcases hc with hc | rfl | hc
  · exact UpperHex.isDigit_ascii (UpperHex.format_digits high c hc)
  · decide
  · exact UpperHex.isDigit_ascii (UpperHex.format_digits low c hc)

theorem requiredLSN_ascii {point : DatabasePoint} (h : point.validate = true) :
    ∀ c ∈ point.requiredLSN, c < 0x80 := by
  simp only [DatabasePoint.validate, canonicalWALPosition, Bool.and_eq_true, beq_iff_eq,
    Option.bind_eq_bind, Option.bind_eq_some_iff, Option.pure_def, Option.some.injEq] at h
  obtain ⟨-, halves, -, htext⟩ := h
  rw [← htext]
  exact walText_ascii halves.1 halves.2

theorem parseDigestString_digestString {value : Digest} {allowAbsent : Bool}
    (h : value ≠ Digest.zero ∨ allowAbsent = true) :
    parseDigestString (digestString value) allowAbsent = some value := by
  have hlength : (digestString value).length = 64 := by
    rw [digestString, Hex.encode_length, value.2]
  have hlower : (digestString value).all (fun c => !(0x41 ≤ c && c ≤ 0x5a)) = true := by
    have hdigits : ∀ n < 16, (!((0x41 : UInt8) ≤ Hex.digit n && Hex.digit n ≤ 0x5a)) = true := by
      decide
    rw [List.all_eq_true]
    intro c hc
    obtain ⟨n, hn, rfl⟩ := Hex.exists_digit_of_mem hc
    exact hdigits n hn
  have hdecode : Hex.decode (digestString value) = some value.1 := Hex.decode_encode value.1
  simp only [parseDigestString, guard, if_pos (And.intro hlength hlower), hdecode, value.2,
    dif_pos, if_pos h, Option.bind_eq_bind, Option.bind_some, Option.pure_def]

theorem parsePositiveDecimal_format {n maximum : ℕ} (hpos : 0 < n) (hle : n ≤ maximum)
    (hmaximum : maximum < 2 ^ 64) : parsePositiveDecimal (Decimal.format n) maximum = some n := by
  have hhead : ¬(1 < (Decimal.format n).length ∧ (Decimal.format n).head? = some 0x30) := by
    rintro ⟨-, hzero⟩
    obtain ⟨rest, hrest⟩ := List.head?_eq_some_iff.mp hzero
    exact Decimal.format_head hpos.ne' _ rest hrest rfl
  have hdigits : (Decimal.format n).all Decimal.isDigit = true :=
    List.all_eq_true.mpr (Decimal.format_digits n)
  have hvalue := Decimal.value_format n
  simp only [parsePositiveDecimal, guard, hvalue,
    if_pos (And.intro (Decimal.format_ne_nil n) hhead),
    if_pos (And.intro hdigits (Nat.lt_of_le_of_lt hle hmaximum)), hpos, hle, and_self, if_true,
    Option.bind_eq_bind, Option.bind_some, Option.pure_def]

theorem parsePositiveDecimal_coordinate {n : ℕ} (h : validPositiveCoordinate n = true) :
    parsePositiveDecimal (Decimal.format n) maxInt64 = some n := by
  simp only [validPositiveCoordinate, decide_eq_true_eq] at h
  exact parsePositiveDecimal_format h.1 h.2 (by decide)

theorem parseCanonicalUUID_uuidString (hP : P.Documented) {value : UUID}
    (h : validOperationID value = true) :
    parseCanonicalUUID P (P.uuidString value) = some value := by
  simp only [parseCanonicalUUID, hP.uuid_parse, guard, h, and_self, if_true, Option.bind_eq_bind,
    Option.bind_some, Option.pure_def]

theorem ofText_effectKind (kind : EffectKind) :
    ofText EffectKind.all EffectKind.text kind.text = some kind := by
  cases kind <;> decide

theorem ofText_scopeKind (kind : ScopeKind) :
    ofText ScopeKind.all ScopeKind.text kind.text = some kind := by
  cases kind <;> decide

theorem ofText_mode (mode : CommitmentMode) :
    ofText CommitmentMode.all CommitmentMode.text mode.text = some mode := by
  cases mode <;> decide

theorem ofText_reason (reason : AuthorityEffectReason) :
    ofText AuthorityEffectReason.all AuthorityEffectReason.text reason.text = some reason := by
  cases reason <;> decide

theorem ofText_checkpointKind (kind : CheckpointKind) :
    ofText CheckpointKind.all CheckpointKind.text kind.text = some kind := by
  cases kind <;> decide

theorem ofText_trustedTimeKind (kind : TrustedTimeKind) :
    ofText TrustedTimeKind.all TrustedTimeKind.text kind.text = some kind := by
  cases kind <;> decide

theorem ofText_capability (capability : DecisionCapability) :
    ofText DecisionCapability.all DecisionCapability.text capability.text = some capability := by
  cases capability <;> decide

theorem ofText_disposition (disposition : EffectDisposition) :
    ofText EffectDisposition.all EffectDisposition.text disposition.text = some disposition := by
  cases disposition <;> decide

theorem ofText_anchorKind (kind : DecisionAnchorKind) :
    ofText DecisionAnchorKind.all DecisionAnchorKind.text kind.text = some kind := by
  cases kind <;> decide

/-! ## Commitments -/

theorem authorityEffectActivationInputsEmpty_ne_zero (hP : P.Documented) :
    authorityEffectActivationInputsEmpty P.toPlatform ≠ Digest.zero := by
  intro h
  have hdigest := congrArg Subtype.val h
  rw [authorityEffectActivationInputsEmpty, hP.sha256] at hdigest
  exact absurd hdigest (by decide +kernel)

/-- What the constructor of a commitment has checked. -/
structure CommitmentChecked (input : AuthorityEffectCommitmentFacts) : Prop where
  operationID : validOperationID input.operationID = true
  kind : input.kind ≠ .trustBundlePublish ∧ input.kind ≠ .operatorAuthorizerChange
  epoch : validPositiveCoordinate input.epoch = true
  sequence : validPositiveCoordinate input.sequence = true
  baseEffectDigest : input.baseEffectDigest ≠ Digest.zero

theorem newAuthorityEffectCommitment_eq_some {P : Platform} {value : AuthorityEffectCommitment}
    (h : newAuthorityEffectCommitment P input = some value) :
    CommitmentChecked input ∧ ∃ inputs policy, commitmentPolicy P input = some (inputs, policy) ∧
      canonicalAuthorityArtifact P authorityEffectCommitmentDomain (authorityEffectCommitmentV1 P
        { input with activationInputsDigest := inputs } policy) =
          some (value.canonical, value.digest) ∧
      value.facts = { input with activationInputsDigest := inputs } := by
  simp only [newAuthorityEffectCommitment, Option.bind_eq_bind, Option.bind_eq_some_iff,
    Option.guard_eq_some', Option.pure_def, Option.some.injEq] at h
  obtain ⟨-, ⟨hid, htrust, hauthorizer, -, -, hepoch, hsequence, hbase⟩, ⟨inputs, policy⟩, hpolicy,
    ⟨canonical, digest⟩, htext, rfl⟩ := h
  exact ⟨⟨hid, ⟨htrust, hauthorizer⟩, hepoch, hsequence, hbase⟩, inputs, policy, hpolicy, htext, rfl⟩

/-- The text of a policy is read back, and the digest beside it is not zero. -/
theorem parseCommitmentPolicy_commitmentPolicy (hP : P.Documented) {inputs : Digest}
    {policy : Bytes} (h : commitmentPolicy P.toPlatform input = some (inputs, policy)) :
    parseCommitmentPolicy P.toPlatform input.mode policy inputs =
        some (input.activationPolicyVersion, input.activationInputsDigest) ∧
      inputs ≠ Digest.zero ∧ ∀ c ∈ policy, c < 0x80 := by
  cases hmode : input.mode with
  | conditionalApply =>
    simp only [commitmentPolicy, hmode, Option.bind_eq_bind, Option.bind_eq_some_iff,
      Option.guard_eq_some', Option.pure_def, Option.some.injEq, Prod.mk.injEq] at h
    obtain ⟨-, ⟨-, hversion, hinputs, -⟩, rfl, rfl⟩ := h
    refine ⟨?_, hinputs, format_ascii _⟩
    simp only [parseCommitmentPolicy, parsePositiveDecimal_coordinate hversion, Option.bind_eq_bind,
      Option.bind_some, Option.pure_def]
  | finalNotApplied =>
    simp only [commitmentPolicy, hmode, Option.bind_eq_bind, Option.bind_eq_some_iff,
      Option.guard_eq_some', Option.pure_def, Option.some.injEq, Prod.mk.injEq] at h
    obtain ⟨-, ⟨-, hversion, hinputs⟩, rfl, rfl⟩ := h
    refine ⟨?_, authorityEffectActivationInputsEmpty_ne_zero hP, ascii_of_all (by decide)⟩
    simp only [parseCommitmentPolicy, guard, and_self, if_true, hversion, hinputs,
      Option.bind_eq_bind, Option.bind_some, Option.pure_def]

theorem authorityEffectCommitmentV1_printable (hP : P.Documented)
    (facts : AuthorityEffectCommitmentFacts) {policy : Bytes} (hpolicy : ∀ c ∈ policy, c < 0x80) :
    Printable (authorityEffectCommitmentV1 P.toPlatform facts policy) := by
  refine printable_of_ascii authorityEffectCommitmentNames rfl (by decide) (by decide) ?_
  simp only [authorityEffectCommitmentV1, List.forall_mem_cons, List.not_mem_nil, false_implies,
    implies_true, and_true]
  exact ⟨digestString_ascii _, hpolicy, format_ascii _, format_ascii _, digestString_ascii _,
    CommitmentMode.text_ascii _, EffectKind.text_ascii _, hP.uuid_ascii _,
    AuthorityEffectReason.text_ascii _, ascii_of_all (by decide), digestString_ascii _,
    ScopeKind.text_ascii _⟩

/-- A commitment is read back from its text. -/
theorem parse_newAuthorityEffectCommitment (hP : P.Documented) {value : AuthorityEffectCommitment}
    (h : newAuthorityEffectCommitment P.toPlatform input = some value)
    (hscope : input.scopeDigest ≠ Digest.zero) :
    parseAuthorityEffectCommitment P value.canonical = some value := by
  obtain ⟨hchecked, inputs, policy, hpolicy, htext, -⟩ := newAuthorityEffectCommitment_eq_some h
  obtain ⟨hparsed, hinputs, hascii⟩ := parseCommitmentPolicy_commitmentPolicy hP hpolicy
  obtain ⟨record, hdecode, hmembers⟩ := decode_canonicalAuthorityArtifact hP.jcs
    (authorityEffectCommitmentV1_printable hP _ hascii) htext
  replace hdecode : decodeCanonicalAuthorityArtifact P.toPlatform authorityEffectCommitmentNames
    value.canonical = some record := hdecode
  simp only [authorityEffectCommitmentV1, stringMembers, List.map_cons, List.map_nil,
    List.cons.injEq, Prod.mk.injEq, true_and, and_true] at hmembers
  obtain ⟨h₁, h₂, h₃, h₄, h₅, h₆, h₇, h₈, h₉, h₁₀, h₁₁, h₁₂⟩ := hmembers
  unfold parseAuthorityEffectCommitment
  refine bind_eq_some hdecode (guard_bind_eq_some h₁₀ ?_)
  refine bind_eq_some (h₈ ▸ parseCanonicalUUID_uuidString hP hchecked.operationID) ?_
  refine bind_eq_some (h₃ ▸ parsePositiveDecimal_coordinate hchecked.epoch) ?_
  refine bind_eq_some (h₄ ▸ parsePositiveDecimal_coordinate hchecked.sequence) ?_
  refine bind_eq_some (h₁₁ ▸ parseDigestString_digestString (Or.inl hscope)) ?_
  refine bind_eq_some (h₅ ▸ parseDigestString_digestString (Or.inl hchecked.baseEffectDigest)) ?_
  refine bind_eq_some (h₁ ▸ parseDigestString_digestString (Or.inl hinputs)) ?_
  refine bind_eq_some (h₇ ▸ ofText_effectKind _) (bind_eq_some (h₁₂ ▸ ofText_scopeKind _) ?_)
  refine bind_eq_some (h₆ ▸ ofText_mode _) (bind_eq_some (h₉ ▸ ofText_reason _) ?_)
  refine bind_eq_some (h₂ ▸ hparsed) ?_
  exact bind_eq_some h (guard_bind_eq_some rfl rfl)

/-! ## Snapshots of the provider's head -/

/-- A head from which a snapshot is made has a valid last committed operation. -/
structure HeadChecked (head : Head) (point : DatabasePoint) : Prop where
  epoch : validPositiveCoordinate head.epoch = true
  reserved : validPositiveCoordinate head.latestReservedSequence = true
  committed : validPositiveCoordinate head.latestCommittedSequence = true
  reservationDigest : head.latestReservationDigest ≠ Digest.zero
  operationID : validOperationID head.latestCommittedOperationID = true
  receiptDigest : head.latestCommittedReceiptDigest ≠ Digest.zero
  point_eq : head.latestCommittedDatabasePoint = some point
  point_valid : point.validate = true

theorem newAuthorityProviderHeadSnapshot_eq_some {P : Platform}
    {value : AuthorityProviderHeadSnapshot}
    (h : newAuthorityProviderHeadSnapshot P head = some value) :
    ∃ point, HeadChecked head point ∧ canonicalAuthorityArtifact P authorityProviderHeadDomain
      (authorityProviderHeadV1 P head point) = some (value.canonical, value.digest) ∧
        value.facts = head := by
  simp only [newAuthorityProviderHeadSnapshot, Option.bind_eq_bind, Option.bind_eq_some_iff,
    Option.guard_eq_some', Option.pure_def, Option.some.injEq] at h
  obtain ⟨-, ⟨hvalid, hreserved, hcommitted, hdigest⟩, point, hpoint, ⟨canonical, digest⟩, htext,
    rfl⟩ := h
  simp only [Head.validate, hpoint, if_neg hcommitted, Option.any_some, Bool.and_eq_true,
    decide_eq_true_eq, bne_iff_ne] at hvalid
  obtain ⟨⟨⟨⟨⟨hepoch, hreservedMax⟩, hcommittedMax⟩, -⟩, -⟩, ⟨hid, hreceipt⟩, hpointValid⟩ := hvalid
  refine ⟨point, ⟨hepoch, ?_, ?_, hdigest, hid, hreceipt, hpoint, hpointValid⟩, htext, rfl⟩
  · exact decide_eq_true ⟨Nat.pos_of_ne_zero hreserved, hreservedMax⟩
  · exact decide_eq_true ⟨Nat.pos_of_ne_zero hcommitted, hcommittedMax⟩

theorem authorityProviderHeadV1_printable (hP : P.Documented) {point : DatabasePoint}
    (h : point.validate = true) : Printable (authorityProviderHeadV1 P.toPlatform head point) := by
  refine printable_of_ascii authorityProviderHeadNames rfl (by decide) (by decide) ?_
  simp only [authorityProviderHeadV1, List.forall_mem_cons, List.not_mem_nil, false_implies,
    implies_true, and_true]
  exact ⟨format_ascii _, format_ascii _, format_ascii _, hP.uuid_ascii _, digestString_ascii _,
    format_ascii _, digestString_ascii _, format_ascii _, requiredLSN_ascii h,
    ascii_of_all (by decide)⟩

/-- A snapshot is read back from its text. -/
theorem parse_newAuthorityProviderHeadSnapshot (hP : P.Documented)
    {value : AuthorityProviderHeadSnapshot}
    (h : newAuthorityProviderHeadSnapshot P.toPlatform head = some value) :
    parseAuthorityProviderHeadSnapshot P value.canonical = some value := by
  obtain ⟨point, hchecked, htext, -⟩ := newAuthorityProviderHeadSnapshot_eq_some h
  obtain ⟨record, hdecode, hmembers⟩ := decode_canonicalAuthorityArtifact hP.jcs
    (authorityProviderHeadV1_printable hP hchecked.point_valid) htext
  replace hdecode : decodeCanonicalAuthorityArtifact P.toPlatform authorityProviderHeadNames
    value.canonical = some record := hdecode
  simp only [authorityProviderHeadV1, stringMembers, List.map_cons, List.map_nil,
    List.cons.injEq, Prod.mk.injEq, true_and, and_true] at hmembers
  obtain ⟨h₁, h₂, h₃, h₄, h₅, h₆, h₇, h₈, h₉, h₁₀⟩ := hmembers
  have hpoint := hchecked.point_valid
  simp only [DatabasePoint.validate, Bool.and_eq_true, bne_iff_ne] at hpoint
  have hsystem : parsePositiveDecimal (Decimal.format point.systemID.toNat) (2 ^ 64 - 1) =
      some point.systemID.toNat :=
    parsePositiveDecimal_format
      (Nat.pos_of_ne_zero fun hzero => hpoint.1.1 (UInt64.toNat_inj.mp hzero))
      (Nat.le_pred_of_lt point.systemID.toNat_lt) (by decide)
  have htimeline : parsePositiveDecimal (Decimal.format point.timeline.toNat) (2 ^ 32 - 1) =
      some point.timeline.toNat :=
    parsePositiveDecimal_format
      (Nat.pos_of_ne_zero fun hzero => hpoint.1.2 (UInt32.toNat_inj.mp hzero))
      (Nat.le_pred_of_lt point.timeline.toNat_lt) (by decide)
  unfold parseAuthorityProviderHeadSnapshot
  refine bind_eq_some hdecode (guard_bind_eq_some h₁₀ ?_)
  refine bind_eq_some (h₁ ▸ parsePositiveDecimal_coordinate hchecked.epoch) ?_
  refine bind_eq_some (h₈ ▸ parsePositiveDecimal_coordinate hchecked.reserved) ?_
  refine bind_eq_some (h₆ ▸ parsePositiveDecimal_coordinate hchecked.committed) ?_
  refine bind_eq_some (h₂ ▸ hsystem) (bind_eq_some (h₃ ▸ htimeline) ?_)
  refine bind_eq_some (h₄ ▸ parseCanonicalUUID_uuidString hP hchecked.operationID) ?_
  refine bind_eq_some (h₇ ▸ parseDigestString_digestString (Or.inl hchecked.reservationDigest)) ?_
  refine bind_eq_some (h₅ ▸ parseDigestString_digestString (Or.inl hchecked.receiptDigest)) ?_
  refine bind_eq_some (a := value) ?_ (guard_bind_eq_some rfl rfl)
  rw [h₉, UInt64.ofNat_toNat, UInt32.ofNat_toNat, ← hchecked.point_eq]
  exact h

/-! ## Evidence -/

/-- The text of a time of evidence. -/
def evidenceTimeText (P : ArtifactPlatform) (facts : ActivationDecisionEvidenceFacts)
    (t : Instant) : Bytes :=
  if facts.trustedTimeKind = .rollbackResistant then P.timeFormat t else []

theorem evidenceTimeText_of_none (h : facts.trustedTimeKind = .none) (t : Instant) :
    evidenceTimeText P facts t = [] := by
  rw [evidenceTimeText, h, if_neg nofun]

theorem evidenceTimeText_ascii_of_none (h : facts.trustedTimeKind = .none) (t : Instant) :
    ∀ c ∈ evidenceTimeText P facts t, c < 0x80 := by
  simp [evidenceTimeText_of_none h t]

theorem activationEvidenceWire_printable (hP : P.Documented)
    (htime : ∀ t, ∀ c ∈ evidenceTimeText P facts t, c < 0x80) :
    Printable (activationEvidenceWire P facts) := by
  refine printable_of_ascii activationDecisionEvidenceNames rfl (by decide) (by decide) ?_
  simp only [activationEvidenceWire, List.forall_mem_cons, List.not_mem_nil, false_implies,
    implies_true, and_true]
  exact ⟨digestString_ascii _, CheckpointKind.text_ascii _, digestString_ascii _,
    digestString_ascii _, DecisionCapability.text_ascii _, htime _, digestString_ascii _,
    hP.uuid_ascii _, digestString_ascii _, digestString_ascii _, ascii_of_all (by decide),
    htime _, TrustedTimeKind.text_ascii _⟩

/-- Facts of evidence that the parser accepts. -/
structure ReadableEvidence (P : ArtifactPlatform) (facts : ActivationDecisionEvidenceFacts) :
    Prop where
  operationID : validOperationID facts.operationID = true
  commitmentDigest : facts.commitmentDigest ≠ Digest.zero
  providerHeadDigest : facts.providerHeadDigest ≠ Digest.zero
  checkpoint : parsedCheckpointValid P.toPlatform facts.checkpointKind facts.checkpointScopeDigest
    facts.checkpointDigest = true
  time : parsedTrustedTime P facts (evidenceTimeText P facts facts.trustedInstant)
    (evidenceTimeText P facts facts.evidenceValidUntil) =
      some (facts.trustedInstant, facts.evidenceValidUntil)

/-- Evidence is read back from its text. -/
theorem parse_readableEvidence (hP : P.Documented) (hfacts : ReadableEvidence P facts)
    (htime : ∀ t, ∀ c ∈ evidenceTimeText P facts t, c < 0x80)
    (htext : canonicalAuthorityArtifact P.toPlatform activationDecisionEvidenceDomain
      (activationEvidenceWire P facts) = some (canonical, digest)) :
    parseActivationDecisionEvidence P canonical =
      some ⟨⟨facts, canonical, digest⟩, .parsed, none⟩ := by
  obtain ⟨record, hdecode, hmembers⟩ := decode_canonicalAuthorityArtifact hP.jcs
    (activationEvidenceWire_printable hP htime) htext
  replace hdecode : decodeCanonicalAuthorityArtifact P.toPlatform activationDecisionEvidenceNames
    canonical = some record := hdecode
  have hwire : stringMembers activationDecisionEvidenceNames record =
    activationEvidenceWire P facts := hmembers
  simp only [activationEvidenceWire, stringMembers, List.map_cons, List.map_nil, List.cons.injEq,
    Prod.mk.injEq, true_and, and_true] at hmembers
  obtain ⟨h₁, h₂, h₃, h₄, h₅, h₆, h₇, h₈, h₉, h₁₀, h₁₁, h₁₂, h₁₃⟩ := hmembers
  unfold parseActivationDecisionEvidence
  refine bind_eq_some hdecode (guard_bind_eq_some h₁₁ ?_)
  refine bind_eq_some (h₈ ▸ parseCanonicalUUID_uuidString hP hfacts.operationID) ?_
  refine bind_eq_some (h₄ ▸ parseDigestString_digestString (Or.inl hfacts.commitmentDigest)) ?_
  refine bind_eq_some (h₉ ▸ parseDigestString_digestString (Or.inl hfacts.providerHeadDigest)) ?_
  refine bind_eq_some (h₃ ▸ parseDigestString_digestString (Or.inr rfl)) ?_
  refine bind_eq_some (h₁ ▸ parseDigestString_digestString (Or.inr rfl)) ?_
  refine bind_eq_some (h₁₀ ▸ parseDigestString_digestString (Or.inr rfl)) ?_
  refine bind_eq_some (h₇ ▸ parseDigestString_digestString (Or.inr rfl)) ?_
  refine bind_eq_some (h₂ ▸ ofText_checkpointKind _) ?_
  refine bind_eq_some (h₁₃ ▸ ofText_trustedTimeKind _) ?_
  refine bind_eq_some (h₅ ▸ ofText_capability _) (guard_bind_eq_some hfacts.checkpoint ?_)
  rw [h₁₂, h₆]
  exact bind_eq_some hfacts.time (bind_eq_some (hwire ▸ htext) (guard_bind_eq_some rfl rfl))

/-- Facts of evidence without a trusted time, as the constructors leave them. -/
structure TimelessEvidence (P : Platform) (facts : ActivationDecisionEvidenceFacts) : Prop where
  operationID : validOperationID facts.operationID = true
  commitmentDigest : facts.commitmentDigest ≠ Digest.zero
  checkpoint : parsedCheckpointValid P facts.checkpointKind facts.checkpointScopeDigest
    facts.checkpointDigest = true
  trustedTimeKind : facts.trustedTimeKind = .none
  trustedInstant : facts.trustedInstant = 0
  evidenceValidUntil : facts.evidenceValidUntil = 0
  providerIdentityDigest : facts.providerIdentityDigest = Digest.zero
  floorAttestationDigest : facts.floorAttestationDigest = Digest.zero
  capability : facts.capability = .notAppliedOnly

/-- Evidence without a trusted time is read back from its text. -/
theorem parse_activationEvidenceWire (hP : P.Documented)
    (hfacts : TimelessEvidence P.toPlatform facts) (hhead : facts.providerHeadDigest ≠ Digest.zero)
    (htext : canonicalAuthorityArtifact P.toPlatform activationDecisionEvidenceDomain
      (activationEvidenceWire P facts) = some (canonical, digest)) :
    parseActivationDecisionEvidence P canonical =
      some ⟨⟨facts, canonical, digest⟩, .parsed, none⟩ := by
  have hempty := evidenceTimeText_of_none (P := P) hfacts.trustedTimeKind
  refine parse_readableEvidence hP ⟨hfacts.operationID, hfacts.commitmentDigest, hhead,
    hfacts.checkpoint, ?_⟩ (evidenceTimeText_ascii_of_none hfacts.trustedTimeKind) htext
  rw [hempty, hempty, parsedTrustedTime, hfacts.trustedTimeKind, hfacts.trustedInstant,
    hfacts.evidenceValidUntil]
  exact guard_bind_eq_some ⟨rfl, rfl, hfacts.providerIdentityDigest,
    hfacts.floorAttestationDigest, hfacts.capability⟩ rfl

/-! ## Resolutions -/

theorem authorityEffectResolutionV1_printable (facts : AuthorityEffectResolutionFacts) :
    Printable (authorityEffectResolutionV1 facts) := by
  refine printable_of_ascii authorityEffectResolutionNames rfl (by decide) (by decide) ?_
  simp only [authorityEffectResolutionV1, List.forall_mem_cons, List.not_mem_nil, false_implies,
    implies_true, and_true]
  exact ⟨digestString_ascii _, digestString_ascii _, DecisionAnchorKind.text_ascii _,
    EffectDisposition.text_ascii _, AuthorityEffectReason.text_ascii _, ascii_of_all (by decide)⟩

/-- A resolution is read back from its text. -/
theorem parse_authorityEffectResolutionV1 (hP : P.Documented)
    {facts : AuthorityEffectResolutionFacts} (hcommitment : facts.commitmentDigest ≠ Digest.zero)
    (hanchor : facts.anchorDigest ≠ Digest.zero)
    (hpair : resolutionSelfContainedPairValid facts.disposition facts.reason facts.anchorKind =
      true) (htext : canonicalAuthorityArtifact P.toPlatform authorityEffectResolutionDomain
      (authorityEffectResolutionV1 facts) = some (canonical, digest)) :
    parseAuthorityEffectResolution P canonical = some ⟨facts, canonical, digest⟩ := by
  obtain ⟨record, hdecode, hmembers⟩ := decode_canonicalAuthorityArtifact hP.jcs
    (authorityEffectResolutionV1_printable facts) htext
  replace hdecode : decodeCanonicalAuthorityArtifact P.toPlatform authorityEffectResolutionNames
    canonical = some record := hdecode
  have hwire : stringMembers authorityEffectResolutionNames record =
    authorityEffectResolutionV1 facts := hmembers
  simp only [authorityEffectResolutionV1, stringMembers, List.map_cons, List.map_nil,
    List.cons.injEq, Prod.mk.injEq, true_and, and_true] at hmembers
  obtain ⟨h₁, h₂, h₃, h₄, h₅, h₆⟩ := hmembers
  unfold parseAuthorityEffectResolution
  refine bind_eq_some hdecode (guard_bind_eq_some h₆ ?_)
  refine bind_eq_some (h₄ ▸ ofText_disposition _) (bind_eq_some (h₅ ▸ ofText_reason _) ?_)
  refine bind_eq_some (h₃ ▸ ofText_anchorKind _) ?_
  refine bind_eq_some (h₁ ▸ parseDigestString_digestString (Or.inl hcommitment)) ?_
  refine bind_eq_some (h₂ ▸ parseDigestString_digestString (Or.inl hanchor)) ?_
  exact guard_bind_eq_some hpair (bind_eq_some (hwire ▸ htext) (guard_bind_eq_some rfl rfl))

end Talenro.Authority
