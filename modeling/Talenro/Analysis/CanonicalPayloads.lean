import Talenro.Analysis.Payload
import Talenro.Lib.Json.Spelling

/-!
# The canonical form of a payload

A payload that passes `ValidatePayloadV1` has a canonical form, which both ends read:

* a policy snapshot that passes the check has one or three members, all of them
  short ASCII strings, however they are spelled (`PolicyText`), and any text of
  the same members passes as well (`PolicyText.valid`);
* the marshalled payload is read back as the payload it came from, and so is its
  canonical form (`Speller.decode_payload`, `ValidPayload.strictDecode_canonical`);
* hence every valid payload has a canonical form
  (`canonicalizePayloadV1_of_valid`), which `DecodePayloadV1` accepts
  (`ValidPayload.decodePayloadV1`) and which the client reads as the server meant it
  (`validatePayload_clientPayload`).
-/

set_option autoImplicit false

namespace Talenro.Analysis

open Lib Lib.Json Lib.Calendar

/-! ## The lengths of fields -/

theorem unescaped_unsignedIntegerString {s : Bytes} (h : unsignedIntegerString s = true) :
    Unescaped s ∧ s.length ≤ 20 := by
  simp only [unsignedIntegerString, Bool.and_eq_true, decide_eq_true_eq, List.all_eq_true] at h
  refine ⟨?_, h.1.1.1.2⟩
  intro c hc
  have hdigit := h.1.2 c hc
  simp only [Decimal.isDigit, Bool.and_eq_true, decide_eq_true_eq] at hdigit
  refine quotePiece_of_le (UInt8.le_trans (b := 0x30) (by decide) hdigit.1) ?_ ?_
  · rintro rfl
    exact absurd hdigit.1 (by decide)
  · rintro rfl
    exact absurd hdigit.2 (by decide)

/-- A field that holds the encoding of so many octets. -/
theorem unescaped_of_decodeExactBase64URL {s : Bytes} {size : ℕ}
    (h : (decodeExactBase64URL s size).isSome = true) :
    Unescaped s ∧ s.length = (size * 8 + 5) / 6 := by
  obtain ⟨b, hb⟩ := Option.isSome_iff_exists.mp h
  obtain ⟨rfl, rfl⟩ := decodeExactBase64URL_eq_some.mp hb
  exact ⟨unescaped_base64 b, Base64Url.encode_length b⟩

theorem length_of_canonicalUUID {P : Platform} (hP : P.Documented) {s : Bytes}
    (h : canonicalUUID P s = true) : s.length = 36 := by
  unfold canonicalUUID at h
  split at h
  · next parsed _ =>
    rw [Bool.and_eq_true, beq_iff_eq] at h
    rw [← h.2]
    exact hP.uuid_string_length parsed
  · cases h

/-! ## The strict reader on printed values -/

variable {publicKey : Bytes} {issuedAt notBefore expiresAt : Instant}
  {policy : List (Bytes × Json.Tree Bytes)} {ms : List (Raw × Json.Tree Raw)}
  {expiry : Option Instant} {P : Platform} {v payload : Trust.PayloadV1} {schema : Trust.Schema}

/-- What is accepted against a schema is accepted without one. -/
theorem walkValue_leaf {t : Json.Tree Raw} {depth : ℕ} (h : Trust.walkValue depth schema t = true) :
    Trust.walkValue depth .leaf t = true := by
  induction t generalizing depth schema with
  | null => rfl
  | bool b => rfl
  | num n => rfl
  | str s => rfl
  | arr es ih =>
    obtain ⟨hdepth, hvalues⟩ := walkValue_arr.mp h
    exact walkValue_arr.mpr ⟨hdepth, fun e he => ih e he (hvalues e he)⟩
  | obj ms ih =>
    obtain ⟨hdepth, hnodup, hvalues⟩ := walkValue_obj.mp h
    refine walkValue_obj.mpr ⟨hdepth, hnodup, fun m hm => ?_⟩
    obtain ⟨expected, -, hvalue⟩ := hvalues m hm
    exact ⟨.leaf, rfl, ih m hm hvalue⟩

/-- The strict reader on the text of a value it walks through. -/
theorem strictDecode_print {α : Type} {t : Json.Tree Raw} (ht : WellFormed t) {maxBytes : ℕ}
    (hmax : 0 < maxBytes ∧ maxBytes ≤ Trust.maximumBodyBytes) (hlen : (print t).length ≤ maxBytes)
    (hutf8 : Utf8.valid (print t) = true) (hwalk : Trust.walkValue 0 schema t = true)
    (target : Json.Tree Raw → Option α) :
    Trust.strictDecode (print t) maxBytes schema target = target t :=
  strictDecode_of_parse hmax ⟨hlen, hutf8⟩ (parse_print ht) hwalk

/-- The text of an object whose members have texts of a bounded length. -/
theorem print_obj_length_le {bound : ℕ} (h : ∀ m ∈ ms, (memberText m).length ≤ bound) :
    (print (.obj ms)).length ≤ 2 + ms.length * (bound + 1) := by
  have hsum : (ms.map fun m => (memberText m).length + 1).sum ≤ ms.length * (bound + 1) := by
    have hle := List.sum_le_card_nsmul (ms.map fun m => (memberText m).length + 1) (bound + 1)
      (List.forall_mem_map.mpr fun m hm => Nat.succ_le_succ (h m hm))
    simpa using hle
  have hcomma := commaSeparated_length_le (ms.map memberText)
  rw [List.map_map] at hcomma
  simp only [print_obj, List.length_cons, List.length_append, List.length_nil]
  have htotal := hcomma.trans hsum
  omega

/-- A member is stored when its field takes its value. -/
theorem exists_decodeMembers {α : Type} {fields : List (Json.Field α)}
    (hnames : ∀ n ∈ memberKeys ms, n ∈ fields.map Json.Field.name)
    (hset : ∀ f ∈ fields, ∀ m ∈ ms, ∀ record, (f.set m.2 record).isSome = true) (record : α) :
    ∃ record', decodeMembers fields ms record = some record' := by
  induction ms generalizing record with
  | nil => exact ⟨record, rfl⟩
  | cons m ms ih =>
    rw [memberKeys, List.map_cons] at hnames
    have hfind : ∃ f, findField fields (unquote m.1) = some f := by
      obtain ⟨g, hg, hname⟩ := List.mem_map.mp (hnames _ (List.mem_cons_self ..))
      cases hfound : fields.find? fun f => f.name = unquote m.1 with
      | some f => exact ⟨f, by rw [findField, hfound]⟩
      | none => exact absurd hname (by simpa using List.find?_eq_none.mp hfound g hg)
    obtain ⟨f, hf⟩ := hfind
    have hmem := (findField_name hf (hnames _ (List.mem_cons_self ..))).1
    obtain ⟨middle, hmiddle⟩ := Option.isSome_iff_exists.mp
      (hset f hmem m (List.mem_cons_self ..) record)
    obtain ⟨record', hrecord'⟩ := ih (fun n hn => hnames n (List.mem_cons_of_mem _ hn))
      (fun g hg u hu => hset g hg u (List.mem_cons_of_mem _ hu)) middle
    refine ⟨record', ?_⟩
    simp only [decodeMembers, hf, Option.bind_eq_bind, Option.bind_some, hmiddle, hrecord']

/-! ## Texts of a policy -/

/-- Members that spell a policy, in some order. -/
structure PolicyText (ms : List (Raw × Json.Tree Raw)) (policy : List (Bytes × Json.Tree Bytes))
    (expiry : Option Instant) : Prop where
  members : PolicyMembers policy expiry
  perm : (decodedMembers ms).Perm policy
  wellFormed : WellFormed (.obj ms)

/-- The members of a policy are short ASCII strings. -/
theorem PolicyMembers.strings (h : PolicyMembers policy expiry) :
    ∀ m ∈ policy, m.1.length ≤ 11 ∧ (∀ c ∈ m.1, c < 0x80) ∧
      ∃ s : Bytes, m.2 = .str s ∧ s.length ≤ 20 ∧ ∀ c ∈ s, c < 0x80 := by
  cases h with
  | standard =>
    simp only [standardPolicy, List.forall_mem_cons]
    exact ⟨⟨by decide, ascii_of_all (by decide), _, rfl, by decide, ascii_of_all (by decide)⟩,
      by simp⟩
  | @trial expiresAt expiry htime =>
    obtain ⟨hformat, -, hlength⟩ := format_of_parse htime
    simp only [trialPolicy, List.forall_mem_cons]
    refine ⟨⟨by decide, ascii_of_all (by decide), _, rfl, hlength.le, ?_⟩,
      ⟨by decide, ascii_of_all (by decide), _, rfl, by decide, ascii_of_all (by decide)⟩,
      ⟨by decide, ascii_of_all (by decide), _, rfl, by decide, ascii_of_all (by decide)⟩, by simp⟩
    rw [← hformat]
    exact format_ascii expiry

theorem PolicyMembers.count_le (h : PolicyMembers policy expiry) : policy.length ≤ 3 := by
  cases h with
  | standard => decide
  | trial => exact Nat.le_refl 3

/-- A member that is read again as a string. -/
theorem strictDecode_stringText {s : Raw} (hs : RawScalar s)
    (hutf8 : Utf8.valid (rawText s) = true) (hlength : s.length ≤ 20) :
    Trust.strictDecode (stringText s) (stringText s).length .leaf Trust.decodeString =
      some (unquote s) := by
  have hlen := rawText_length_le s
  have hprint : stringText s = print (.str s) := (print_str s).symm
  have htext : 0 < (stringText s).length ∧ (stringText s).length ≤ Trust.maximumBodyBytes := by
    simp only [stringText, List.length_cons, List.length_append, List.length_nil,
      Trust.maximumBodyBytes]
    omega
  rw [hprint] at htext ⊢
  refine strictDecode_print (Json.Tree.all_str.mpr hs.wellFormed) htext (Nat.le_refl _) ?_ rfl _
  exact valid_print (Json.Tree.all_str.mpr hutf8)

theorem stores_mode : ∀ f ∈ PolicyWire.fields, f.name = ascii "mode" → ∀ s before after,
    f.set (.str s) before = some after → after.mode = unquote s := by
  intro f hf hname s before after hset
  simp only [PolicyWire.fields, List.mem_cons, List.not_mem_nil, or_false] at hf
  rcases hf with rfl | rfl | rfl
  · obtain rfl := Option.some.inj hset
    rfl
  · exact absurd hname (by decide)
  · exact absurd hname (by decide)

section PolicyText

variable (h : PolicyText ms policy expiry)

include h

/-- The spelling of a member of a policy. -/
theorem PolicyText.string {m : Raw × Json.Tree Raw} (hm : m ∈ ms) :
    ∃ s, m.2 = .str s ∧ (unquote m.1, .str (unquote s)) ∈ policy ∧
      RawScalar m.1 ∧ RawScalar s ∧ Utf8.valid (rawText m.1) = true ∧
      Utf8.valid (rawText s) = true ∧ m.1.length ≤ 11 ∧ s.length ≤ 20 := by
  have hmem : (unquote m.1, m.2.map unquote) ∈ policy :=
    h.perm.mem_iff.mp (List.mem_map_of_mem hm)
  obtain ⟨hnameLength, hnameAscii, value, hvalue, hvalueLength, hvalueAscii⟩ :=
    h.members.strings _ hmem
  obtain ⟨hname, hstring⟩ := Json.Tree.all_obj.mp h.wellFormed m hm
  obtain ⟨name, t⟩ := m
  cases t with
  | str s =>
    rw [Json.Tree.map_str] at hmem hvalue
    obtain rfl := Json.Tree.str.inj hvalue
    obtain ⟨hnameScalar, hnameText, hnameCount⟩ := unquote_ascii hname hnameAscii
    obtain ⟨hscalar, htext, hcount⟩ := unquote_ascii (Json.Tree.all_str.mp hstring) hvalueAscii
    exact ⟨s, rfl, hmem, hnameScalar, hscalar, Utf8.valid_of_ascii hnameText,
      Utf8.valid_of_ascii htext, hnameCount.trans hnameLength, hcount.trans hvalueLength⟩
  | null => simp at hvalue
  | bool b => simp at hvalue
  | num n => simp at hvalue
  | arr es => simp at hvalue
  | obj ms => simp at hvalue

/-- Spelling the members in another way keeps the policy. -/
theorem PolicyText.respell {f : Raw → Raw}
    (hf : ∀ s, unquote (f s) = unquote s) (hwell : WellFormed ((Json.Tree.obj ms).map f)) :
    PolicyText (ms.map fun m => (f m.1, m.2.map f)) policy expiry where
  members := h.members
  perm := by
    have hdecoded : decodedMembers (ms.map fun m => (f m.1, m.2.map f)) = decodedMembers ms := by
      simp only [decodedMembers, List.map_map, Function.comp_def, hf, Json.Tree.map_map]
    rw [hdecoded]
    exact h.perm
  wellFormed := by
    rw [← Json.Tree.map_obj]
    exact hwell

theorem PolicyText.length : 2 ≤ (print (.obj ms)).length ∧ (print (.obj ms)).length ≤ 578 := by
  have hcount : ms.length ≤ 3 := by
    have hperm := h.perm.length_eq
    rw [decodedMembers, List.length_map] at hperm
    exact hperm ▸ h.members.count_le
  have hmember : ∀ m ∈ ms, (memberText m).length ≤ 191 := by
    intro m hm
    obtain ⟨s, hs, -, -, -, -, -, hnameLength, hlength⟩ := h.string hm
    have hname := rawText_length_le m.1
    have hvalue := rawText_length_le s
    simp only [memberText, hs, print_str, stringText, List.length_append, List.length_cons,
      List.length_nil]
    omega
  have hle := print_obj_length_le hmember
  refine ⟨?_, by omega⟩
  simp [print_obj]

theorem PolicyText.scalar : (Json.Tree.obj ms).All RawScalar NumberWellFormed := by
  refine Json.Tree.all_obj.mpr fun m hm => ?_
  obtain ⟨s, hs, -, hname, hvalue, -⟩ := h.string hm
  rw [hs]
  exact ⟨hname, Json.Tree.all_str.mpr hvalue⟩

theorem PolicyText.utf8 :
    (Json.Tree.obj ms).All (fun s => Utf8.valid (rawText s) = true) NumberWellFormed := by
  refine Json.Tree.all_obj.mpr fun m hm => ?_
  obtain ⟨s, hs, -, -, -, hname, hvalue, -⟩ := h.string hm
  rw [hs]
  exact ⟨hname, Json.Tree.all_str.mpr hvalue⟩

theorem PolicyText.nodup : (memberKeys ms).Nodup := by
  rw [← map_fst_decodedMembers]
  exact (h.perm.map Prod.fst).nodup_iff.mpr h.members.flat.1

theorem PolicyText.names : ∀ n ∈ memberKeys ms, n ∈ PolicyWire.fields.map Json.Field.name := by
  intro n hn
  rw [← map_fst_decodedMembers, (h.perm.map Prod.fst).mem_iff] at hn
  have hfields : PolicyWire.fields.map Json.Field.name =
      [ascii "mode", ascii "expires_at", ascii "max_devices"] := rfl
  rw [hfields]
  revert n
  cases h.members with
  | standard => decide
  | trial =>
    simp only [trialPolicy, List.map_cons, List.map_nil]
    decide

/-- The strict reader walks through a policy, whether it knows the members or not. -/
theorem PolicyText.walk {depth : ℕ} (hdepth : depth < Trust.maximumDepth)
    (hschema : ∀ n ∈ memberKeys ms, ∃ expected, schema.member n = some expected) :
    Trust.walkValue depth schema (.obj ms) = true := by
  refine walkValue_obj.mpr ⟨hdepth, h.nodup, fun m hm => ?_⟩
  obtain ⟨expected, hexpected⟩ := hschema _ (List.mem_map_of_mem hm)
  obtain ⟨s, hs, -⟩ := h.string hm
  refine ⟨expected, hexpected, ?_⟩
  rw [hs]
  rfl

/-- The record a policy is decoded into. -/
theorem PolicyText.decoded :
    ∃ decoded, DecodedPolicy ms decoded ∧
      ∀ m ∈ ms, ∀ s, m.2 = .str s → unquote m.1 = ascii "mode" → decoded.mode = unquote s := by
  have hset : ∀ f ∈ PolicyWire.fields, ∀ m ∈ ms, ∀ record, (f.set m.2 record).isSome = true := by
    intro f hf m hm record
    obtain ⟨s, hs, -⟩ := h.string hm
    rw [hs]
    simp only [PolicyWire.fields, List.mem_cons, List.not_mem_nil, or_false] at hf
    rcases hf with rfl | rfl | rfl <;> rfl
  obtain ⟨decoded, hdecoded⟩ := exists_decodeMembers h.names hset .zero
  refine ⟨decoded, ⟨h.names, h.nodup, hdecoded, fun m hm =>
    (Json.Tree.all_obj.mp h.wellFormed m hm).2⟩, ?_⟩
  intro m hm s hs hname
  obtain ⟨f, hf, hfname, before, after, -, hstored, hafter⟩ :=
    decodeMembers_present reads_mode h.names h.nodup hm hname hdecoded
  rw [hs] at hstored
  rw [hafter]
  exact stores_mode f hf hfname s before after hstored

/-- The member of a policy with a given value, as it is spelled. -/
theorem PolicyText.member {name value : Bytes} (hmem : (name, .str value) ∈ policy) :
    ∃ m ∈ ms, ∃ s, unquote m.1 = name ∧ m.2 = .str s ∧ unquote s = value := by
  obtain ⟨m, hm, hdecoded⟩ := List.mem_map.mp (h.perm.mem_iff.mpr hmem)
  obtain ⟨hname, hvalue⟩ := Prod.mk.inj hdecoded
  obtain ⟨s, hs, -⟩ := h.string hm
  rw [hs, Json.Tree.map_str] at hvalue
  exact ⟨m, hm, s, hname, hs, Json.Tree.str.inj hvalue⟩

/-- A raw member of a policy is read again as the string it denotes. -/
theorem PolicyText.raw {decoded : PolicyWire} (hdecoded : DecodedPolicy ms decoded)
    {name value : Bytes} {get : PolicyWire → Bytes} (hmem : (name, .str value) ∈ policy)
    (hreads : Reads PolicyWire.fields name get) (hzero : get .zero = [])
    (hstores : ∀ f ∈ PolicyWire.fields, f.name = name →
      ∀ value before after, f.set value before = some after → get after = print value) :
    get decoded ≠ [] ∧ Trust.strictDecode (get decoded) (get decoded).length .leaf
      Trust.decodeString = some value := by
  obtain ⟨m, hm, s, hname, hs, rfl⟩ := h.member hmem
  have htext := (hdecoded.raw_member hreads hzero hstores).2 m hm hname
  obtain ⟨s', hs', -, -, hscalar, -, hutf8, -, hlength⟩ := h.string hm
  rw [hs] at hs' htext
  obtain rfl := Json.Tree.str.inj hs'
  rw [htext, print_str]
  exact ⟨by simp [stringText], strictDecode_stringText hscalar hutf8 hlength⟩

/-- Every text of a policy, without blanks, passes the server's check. -/
theorem PolicyText.valid : Trust.validDevicePolicyV1 (print (.obj ms)) = true := by
  obtain ⟨hmin, hmax⟩ := h.length
  obtain ⟨decoded, hdecoded, hmode⟩ := h.decoded
  have hbounds : 2 ≤ (print (.obj ms)).length ∧
      (print (.obj ms)).length ≤ Trust.maximumPolicyBytes := by
    unfold Trust.maximumPolicyBytes
    omega
  have hwalk : Trust.walkValue 0 (Trust.flatSchema PolicyWire.fields) (.obj ms) = true := by
    refine h.walk (by decide) fun n hn => ⟨.leaf, ?_⟩
    have hfields : ∀ n ∈ PolicyWire.fields.map Json.Field.name,
        (Trust.flatSchema PolicyWire.fields).member n = some .leaf := by
      simp only [PolicyWire.fields, List.map_cons, List.map_nil, List.forall_mem_cons]
      exact ⟨rfl, rfl, rfl, by simp⟩
    exact hfields n (h.names n hn)
  have hdecode : Trust.strictDecode (print (.obj ms)) Trust.maximumPolicyBytes
      (Trust.flatSchema PolicyWire.fields) (decodeStruct PolicyWire.fields .zero) =
        some decoded := by
    rw [strictDecode_print h.wellFormed (by decide) hbounds.2 (valid_print h.utf8) hwalk]
    exact hdecoded.decode
  rw [Trust.validDevicePolicyV1, if_neg (not_not.mpr hbounds), hdecode]
  have hpolicy := h.members
  cases hpolicy with
  | standard =>
    have hmem : (ascii "mode", .str (ascii "standard")) ∈ standardPolicy := List.mem_cons_self ..
    obtain ⟨m, hm, s, hname, hs, hvalue⟩ := h.member hmem
    have hkeys : ∀ n ∈ memberKeys ms, n = ascii "mode" := by
      intro n hn
      rw [← map_fst_decodedMembers, (h.perm.map Prod.fst).mem_iff] at hn
      exact List.mem_singleton.mp hn
    have hexpires : decoded.expiresAt = [] := decodeMembers_absent reads_expiresAt h.names
      (fun hmem => absurd (hkeys _ hmem) (by decide)) hdecoded.decode
    have hdevices : decoded.maxDevices = [] := decodeMembers_absent reads_maxDevices h.names
      (fun hmem => absurd (hkeys _ hmem) (by decide)) hdecoded.decode
    simp only
    rw [if_pos ((hmode m hm s hs hname).trans hvalue), hexpires, hdevices]
    rfl
  | @trial expiresAt expiry htime =>
    have hmodeMem : (ascii "mode", .str (ascii "trial_restricted")) ∈ trialPolicy expiresAt := by
      simp [trialPolicy]
    have hexpiresMem : (ascii "expires_at", .str expiresAt) ∈ trialPolicy expiresAt := by
      simp [trialPolicy]
    have hdevicesMem : (ascii "max_devices", .str (ascii "1")) ∈ trialPolicy expiresAt := by
      simp [trialPolicy]
    obtain ⟨m, hm, s, hname, hs, hvalue⟩ := h.member hmodeMem
    have hdecodedMode := (hmode m hm s hs hname).trans hvalue
    obtain ⟨hexpires, hexpiresText⟩ :=
      h.raw hdecoded hexpiresMem reads_expiresAt rfl stores_expiresAt
    obtain ⟨hdevices, hdevicesText⟩ :=
      h.raw hdecoded hdevicesMem reads_maxDevices rfl stores_maxDevices
    simp only
    rw [if_neg (by rw [hdecodedMode]; decide), if_neg (by simp [hdecodedMode, hexpires, hdevices]),
      hexpiresText, hdevicesText]
    simp [htime]

end PolicyText

/-- The canonical spelling of a policy. -/
theorem PolicyMembers.text (h : PolicyMembers policy expiry) :
    PolicyText (policy.map fun m => (quote m.1, m.2.map quote)) policy expiry where
  members := h
  perm := by
    rw [decodedMembers, List.map_map]
    refine List.Perm.of_eq ((List.map_congr_left fun m _ => ?_).trans (List.map_id' policy))
    simp only [Function.comp_apply, unquote_quote, map_unquote_quote]
  wellFormed := by
    rw [← Json.Tree.map_obj]
    exact wellFormed_map_quote h.flat.noNumbers

/-! ## Spellings of a payload -/

/-- A way to spell strings, in no more pieces than they have octets. -/
structure Speller (f : Bytes → Raw) : Prop where
  unquote_eq : ∀ s, unquote (f s) = s
  length_le : ∀ s, (f s).length ≤ s.length
  scalar : ∀ s, RawScalar (f s)
  utf8 : ∀ s, Utf8.valid s = true → Utf8.valid (rawText (f s)) = true

theorem speller_quote : Speller quote where
  unquote_eq := unquote_quote
  length_le s := by rw [quote, List.length_map]
  scalar := rawScalar_quote
  utf8 s hs := by rw [valid_rawText_quote, hs]

/-- What `json.Marshal` makes of a string. -/
theorem speller_marshal : Speller fun s => htmlEscape (quote s) where
  unquote_eq s := by rw [unquote_htmlEscape, unquote_quote]
  length_le s := (htmlEscape_length_le _).trans (speller_quote.length_le s)
  scalar s := rawScalar_htmlEscape (rawScalar_quote s)
  utf8 s hs := by rw [valid_rawText_htmlEscape, valid_rawText_quote, hs]

/-- The test configuration, as it is spelled. -/
def spelledConfig (f : Bytes → Raw) (config : TestConfigWire) : List (Raw × Json.Tree Raw) :=
  [(f (ascii "message"), .str (f config.message)), (f (ascii "sequence"), .str (f config.sequence))]

/-- The members of a payload in the order `json.Marshal` writes them. -/
def spelledPayload (f : Bytes → Raw) (v : Trust.PayloadV1) (policy : Json.Tree Raw) :
    List (Raw × Json.Tree Raw) :=
  [(f (ascii "schema_version"), .str (f v.schemaVersion)),
    (f (ascii "bundle_id"), .str (f v.bundleID)),
    (f (ascii "bundle_locator"), .str (f v.bundleLocator)),
    (f (ascii "bundle_version"), .str (f v.bundleVersion)),
    (f (ascii "audience"), .str (f v.audience)), (f (ascii "issued_at"), .str (f v.issuedAt)),
    (f (ascii "not_before"), .str (f v.notBefore)), (f (ascii "expires_at"), .str (f v.expiresAt)),
    (f (ascii "policy_snapshot"), policy),
    (f (ascii "test_config"), .obj (spelledConfig f v.testConfig))]

/-- A member of a payload that the strict reader can read. -/
structure ReadableMember (m : Raw × Json.Tree Raw) : Prop where
  nameScalar : RawScalar m.1
  nameUtf8 : Utf8.valid (rawText m.1) = true
  valueScalar : m.2.All RawScalar NumberWellFormed
  valueUtf8 : m.2.All (fun s => Utf8.valid (rawText s) = true) NumberWellFormed
  noNumbers : NoNumbers m.2
  length_le : (memberText m).length ≤ 4000
  walk : ∃ expected, Trust.PayloadV1.schema.member (unquote m.1) = some expected ∧
    Trust.walkValue 1 expected m.2 = true

/-- Members of a payload that the strict reader can read. -/
structure ReadablePayload (raw : List (Raw × Json.Tree Raw)) : Prop where
  length_eq : raw.length = 10
  nodup : (memberKeys raw).Nodup
  members : ∀ m ∈ raw, ReadableMember m

theorem ReadablePayload.perm {raw raw' : List (Raw × Json.Tree Raw)} (h : ReadablePayload raw)
    (hperm : raw'.Perm raw) : ReadablePayload raw' where
  length_eq := hperm.length_eq.trans h.length_eq
  nodup := (hperm.map _).nodup_iff.mpr h.nodup
  members m hm := h.members m (hperm.mem_iff.mp hm)

section ReadablePayload

variable {raw : List (Raw × Json.Tree Raw)} (h : ReadablePayload raw)

include h

theorem ReadablePayload.scalar : (Json.Tree.obj raw).All RawScalar NumberWellFormed :=
  Json.Tree.all_obj.mpr fun m hm => ⟨(h.members m hm).nameScalar, (h.members m hm).valueScalar⟩

theorem ReadablePayload.wellFormed : WellFormed (.obj raw) :=
  Json.Tree.All.mono (fun _ hs => hs.wellFormed) (fun _ hn => hn) h.scalar

theorem ReadablePayload.utf8 : Utf8.valid (print (.obj raw)) = true :=
  valid_print (Json.Tree.all_obj.mpr fun m hm =>
    ⟨(h.members m hm).nameUtf8, (h.members m hm).valueUtf8⟩)

theorem ReadablePayload.length_print :
    2 ≤ (print (.obj raw)).length ∧
      (print (.obj raw)).length ≤ Trust.maximumCanonicalPayloadBytes := by
  have hle := print_obj_length_le fun m hm => (h.members m hm).length_le
  rw [h.length_eq] at hle
  refine ⟨by simp [print_obj], ?_⟩
  unfold Trust.maximumCanonicalPayloadBytes
  omega

theorem ReadablePayload.noNumbers : NoNumbers (.obj raw : Json.Tree Raw) :=
  Json.Tree.all_obj.mpr fun m hm => ⟨trivial, (h.members m hm).noNumbers⟩

theorem ReadablePayload.validIJSON : Trust.validIJSON (print (.obj raw)) = true := by
  rw [Trust.validIJSON, h.utf8, validUnicodeEscapes_print h.scalar, parse_print h.wellFormed]
  exact numbersInRange_of_noNumbers h.noNumbers

theorem ReadablePayload.walk : Trust.walkValue 0 Trust.PayloadV1.schema (.obj raw) = true :=
  walkValue_obj.mpr ⟨by decide, h.nodup, fun m hm => (h.members m hm).walk⟩

/-- The strict reader decodes the text of a readable payload. -/
theorem ReadablePayload.strictDecode {α : Type} (target : Json.Tree Raw → Option α) :
    Trust.strictDecode (print (.obj raw)) Trust.maximumCanonicalPayloadBytes Trust.PayloadV1.schema
      target = target (.obj raw) :=
  strictDecode_print h.wellFormed (by decide) h.length_print.2 h.utf8 h.walk target

/-- It also decodes the text into a map of its members. -/
theorem ReadablePayload.rawMembers :
    Trust.strictDecode (print (.obj raw)) Trust.maximumCanonicalPayloadBytes .leaf
      Trust.decodeRawMembers = some (raw.map fun m => (unquote m.1, print m.2)) :=
  strictDecode_print h.wellFormed (by decide) h.length_print.2 h.utf8 (walkValue_leaf h.walk) _

/-- The client decodes it too, with all its members. -/
theorem ReadablePayload.decodeStrictObject {α : Type} {fields : List (Json.Field α)}
    {zero value : α} {required : List Bytes} (hrequired : ∀ name ∈ required, name ∈ memberKeys raw)
    (hcount : required = [] ∨ (memberKeys raw).length = required.length)
    (hdecode : decodeMembers fields raw zero = some value) :
    TrustClient.decodeStrictObject (print (.obj raw)) TrustClient.maximumPlaintextBytes fields zero
      required = some (memberKeys raw, value) := by
  have hscan := scanJSONValue_of_walkValue (Nat.zero_le 16) h.walk
    (numbersInRange_of_noNumbers h.noNumbers)
  exact decodeStrictObject_of_parse ⟨Nat.le_of_succ_le h.length_print.1, h.length_print.2⟩
    ⟨h.utf8, validUnicodeEscapes_print h.scalar⟩ (parse_print h.wellFormed) hscan hrequired hcount
    hdecode

end ReadablePayload

/-- The strings of a payload. -/
def payloadTexts (v : Trust.PayloadV1) : List Bytes :=
  [v.schemaVersion, v.bundleID, v.bundleLocator, v.bundleVersion, v.audience, v.issuedAt,
    v.notBefore, v.expiresAt, v.testConfig.message, v.testConfig.sequence]

/-- The strings of a valid payload are short. -/
theorem ValidPayload.lengths (hP : P.Documented)
    (h : ValidPayload P v issuedAt notBefore expiresAt) : ∀ s ∈ payloadTexts v, s.length ≤ 256 := by
  obtain ⟨version, hversion⟩ := Option.isSome_iff_exists.mp h.bundleVersion
  have hschema : v.schemaVersion.length ≤ 256 := by
    rw [h.schemaVersion]
    decide
  have hid := length_of_canonicalUUID hP h.bundleID
  have haudience := length_of_canonicalUUID hP h.audience
  have hlocator := (unescaped_of_decodeExactBase64URL h.bundleLocator).2
  have hnumber := (unescaped_unsignedIntegerString (parsePositiveUint_eq_some hversion).1).2
  have hissued := (format_of_parse h.issued_time).2.2
  have hbefore := (format_of_parse h.notBefore_time).2.2
  have hexpires := (format_of_parse h.expires_time).2.2
  have hsequence := (unescaped_unsignedIntegerString h.sequence).2
  simp only [payloadTexts, List.forall_mem_cons]
  refine ⟨hschema, ?_, ?_, ?_, ?_, ?_, ?_, ?_, h.message_length, ?_, by simp⟩ <;> omega

section Spelled

variable {f : Bytes → Raw} (hf : Speller f)

include hf

theorem Speller.stringText_length (s : Bytes) : (stringText (f s)).length ≤ 6 * s.length + 2 := by
  have hraw := rawText_length_le (f s)
  have hlength := hf.length_le s
  simp only [stringText, List.length_cons, List.length_append, List.length_nil]
  omega

theorem Speller.readable_string {name value : Bytes}
    (hname : Utf8.valid name = true ∧ name.length ≤ 16)
    (hvalue : Utf8.valid value = true) (hlength : value.length ≤ 256)
    (hschema : Trust.PayloadV1.schema.member name = some .leaf) :
    ReadableMember (f name, .str (f value)) where
  nameScalar := hf.scalar name
  nameUtf8 := hf.utf8 name hname.1
  valueScalar := Json.Tree.all_str.mpr (hf.scalar value)
  valueUtf8 := Json.Tree.all_str.mpr (hf.utf8 value hvalue)
  noNumbers := Json.Tree.all_str.mpr trivial
  length_le := by
    have hnameText := hf.stringText_length name
    have hvalueText := hf.stringText_length value
    simp only [memberText, print_str, List.length_append, List.length_cons]
    omega
  walk := ⟨.leaf, by rw [hf.unquote_eq, hschema], rfl⟩

theorem Speller.readable_policy {pol : List (Raw × Json.Tree Raw)}
    (hpolicy : PolicyText pol policy expiry) :
    ReadableMember (f (ascii "policy_snapshot"), .obj pol) where
  nameScalar := hf.scalar _
  nameUtf8 := hf.utf8 _ (by decide)
  valueScalar := hpolicy.scalar
  valueUtf8 := hpolicy.utf8
  noNumbers := by
    refine Json.Tree.all_obj.mpr fun m hm => ?_
    obtain ⟨s, hs, -⟩ := hpolicy.string hm
    rw [hs]
    exact ⟨trivial, Json.Tree.all_str.mpr trivial⟩
  length_le := by
    have hname := hf.stringText_length (ascii "policy_snapshot")
    have hvalue := hpolicy.length.2
    have hcount : (ascii "policy_snapshot").length = 15 := by decide
    simp only [memberText, List.length_append, List.length_cons]
    omega
  walk := ⟨.leaf, by rw [hf.unquote_eq]; rfl,
    hpolicy.walk (by decide) fun n _ => ⟨.leaf, rfl⟩⟩

theorem Speller.config_length {config : TestConfigWire} (hmessage : config.message.length ≤ 256)
    (hsequence : config.sequence.length ≤ 256) :
    (print (.obj (spelledConfig f config))).length ≤ 3212 := by
  have hmember : ∀ m ∈ spelledConfig f config, (memberText m).length ≤ 1604 := by
    have hmessageName := hf.stringText_length (ascii "message")
    have hsequenceName := hf.stringText_length (ascii "sequence")
    have hmessageText := hf.stringText_length config.message
    have hsequenceText := hf.stringText_length config.sequence
    have hmessageCount : (ascii "message").length = 7 := by decide
    have hsequenceCount : (ascii "sequence").length = 8 := by decide
    simp only [spelledConfig, List.forall_mem_cons, memberText, print_str, List.length_append,
      List.length_cons]
    exact ⟨by omega, by omega, by simp⟩
  have hle := print_obj_length_le hmember
  simp only [spelledConfig, List.length_cons, List.length_nil] at hle ⊢
  omega

theorem Speller.walk_config (config : TestConfigWire) {depth : ℕ}
    (hdepth : depth < Trust.maximumDepth) :
    Trust.walkValue depth (Trust.flatSchema TestConfigWire.fields)
      (.obj (spelledConfig f config)) = true := by
  refine walkValue_obj.mpr ⟨hdepth, ?_, ?_⟩
  · simp only [spelledConfig, memberKeys, List.map_cons, List.map_nil, hf.unquote_eq]
    decide
  · simp only [spelledConfig, List.forall_mem_cons, hf.unquote_eq]
    exact ⟨⟨.leaf, rfl, rfl⟩, ⟨.leaf, rfl, rfl⟩, by simp⟩

theorem Speller.readable_config (hv : PayloadStrings v)
    (hmessage : v.testConfig.message.length ≤ 256)
    (hsequence : v.testConfig.sequence.length ≤ 256) :
    ReadableMember (f (ascii "test_config"), .obj (spelledConfig f v.testConfig)) where
  nameScalar := hf.scalar _
  nameUtf8 := hf.utf8 _ (by decide)
  valueScalar := by
    simp only [spelledConfig, Json.Tree.all_obj, List.forall_mem_cons, Json.Tree.all_str]
    exact ⟨⟨hf.scalar _, hf.scalar _⟩, ⟨hf.scalar _, hf.scalar _⟩, by simp⟩
  valueUtf8 := by
    simp only [spelledConfig, Json.Tree.all_obj, List.forall_mem_cons, Json.Tree.all_str]
    exact ⟨⟨hf.utf8 _ (by decide), hf.utf8 _ hv.message⟩,
      ⟨hf.utf8 _ (by decide), hf.utf8 _ hv.sequence⟩, by simp⟩
  noNumbers := by
    simp only [NoNumbers, spelledConfig, Json.Tree.all_obj, List.forall_mem_cons, Json.Tree.all_str]
    exact ⟨⟨trivial, trivial⟩, ⟨trivial, trivial⟩, by simp⟩
  length_le := by
    have hname := hf.stringText_length (ascii "test_config")
    have hvalue := hf.config_length hmessage hsequence
    have hcount : (ascii "test_config").length = 11 := by decide
    simp only [memberText, List.length_append, List.length_cons]
    omega
  walk := ⟨_, by rw [hf.unquote_eq]; rfl, hf.walk_config v.testConfig (by decide)⟩

/-- Every spelling of a valid payload can be read. -/
theorem Speller.readable_payload (hv : PayloadStrings v)
    (hlengths : ∀ s ∈ payloadTexts v, s.length ≤ 256) {pol : List (Raw × Json.Tree Raw)}
    (hpolicy : PolicyText pol policy expiry) : ReadablePayload (spelledPayload f v (.obj pol)) where
  length_eq := rfl
  nodup := by
    simp only [spelledPayload, memberKeys, List.map_cons, List.map_nil, hf.unquote_eq]
    decide
  members := by
    simp only [payloadTexts, List.forall_mem_cons] at hlengths
    obtain ⟨hschema, hid, hlocator, hversion, haudience, hissued, hbefore, hexpires, hmessage,
      hsequence, -⟩ := hlengths
    simp only [spelledPayload, List.forall_mem_cons]
    exact ⟨hf.readable_string (by decide) hv.schemaVersion hschema rfl,
      hf.readable_string (by decide) hv.bundleID hid rfl,
      hf.readable_string (by decide) hv.bundleLocator hlocator rfl,
      hf.readable_string (by decide) hv.bundleVersion hversion rfl,
      hf.readable_string (by decide) hv.audience haudience rfl,
      hf.readable_string (by decide) hv.issuedAt hissued rfl,
      hf.readable_string (by decide) hv.notBefore hbefore rfl,
      hf.readable_string (by decide) hv.expiresAt hexpires rfl,
      hf.readable_policy hpolicy, hf.readable_config hv hmessage hsequence, by simp⟩

/-- A payload is decoded from its members as it was, but for the spelling of its policy. -/
theorem Speller.decode_payload (v : Trust.PayloadV1) (policy : Json.Tree Raw) :
    decodeStruct Trust.PayloadV1.fields .zero (.obj (spelledPayload f v policy)) =
      some { v with policySnapshot := print policy } := by
  simp only [spelledPayload, decodeStruct, decodeMembers, hf.unquote_eq]
  simp +decide [findField, Trust.PayloadV1.fields, List.find?, stringField, rawField, recordField,
    decodeStruct, spelledConfig, decodeMembers, TestConfigWire.fields, hf.unquote_eq]

end Spelled

/-! ## The canonical form of a valid payload -/

/-- Replacing the policy by another that passes keeps a payload valid. -/
theorem ValidPayload.with_policy (h : ValidPayload P v issuedAt notBefore expiresAt)
    {policy : Bytes} (hpolicy : Trust.validDevicePolicyV1 policy = true) :
    Trust.validatePayloadV1 P { v with policySnapshot := policy } = true := by
  simp only [Trust.validatePayloadV1, h.issued_time, h.notBefore_time, h.expires_time,
    h.schemaVersion, h.bundleID, h.audience, h.bundleLocator, h.bundleVersion, h.issued_le,
    h.lt_expires, h.message_length, h.message, h.sequence, hpolicy, beq_self_eq_true, decide_true,
    Bool.and_self]

/-- The canonical members of a payload, spelled minimally. -/
theorem map_quote_sortedPayload (v : Trust.PayloadV1) (policy : List (Bytes × Json.Tree Bytes)) :
    ((sortedPayload v (.obj policy)).map fun m => (quote m.1, m.2.map quote)).Perm
      (spelledPayload quote v (.obj (policy.map fun m => (quote m.1, m.2.map quote)))) := by
  have hsorted : (payloadMembers v (.obj policy)).insertionSort NameLe =
      sortedPayload v (.obj policy) := rfl
  rw [← hsorted]
  refine ((List.perm_insertionSort NameLe _).map _).trans (List.Perm.of_eq ?_)
  simp only [payloadMembers, spelledPayload, spelledConfig, configMembers, List.map_cons,
    List.map_nil, Json.Tree.map_str, Json.Tree.map_obj]

/-- A payload is decoded from its canonical text as it was, but for the text of its policy. -/
theorem decode_sortedPayload (v : Trust.PayloadV1) (policy : Json.Tree Bytes) :
    decodeStruct Trust.PayloadV1.fields .zero ((Json.Tree.obj (sortedPayload v policy)).map quote) =
      some { v with policySnapshot := encode policy } := by
  simp only [sortedPayload, Json.Tree.map_obj, List.map_cons, List.map_nil, Json.Tree.map_str,
    decodeStruct, decodeMembers_cons_quote]
  simp +decide [findField, Trust.PayloadV1.fields, List.find?, stringField, rawField, recordField,
    decodeStruct, decodeMembers, configMembers, TestConfigWire.fields, unquote_quote, encode]

/-- The canonical text of a payload, given the members of its policy. -/
def canonicalText (v : Trust.PayloadV1) (policy : List (Bytes × Json.Tree Bytes)) : Bytes :=
  encode (.obj (sortedPayload v (.obj policy)))

theorem canonicalText_eq (v : Trust.PayloadV1) (policy : List (Bytes × Json.Tree Bytes)) :
    canonicalText v policy =
      print (.obj ((sortedPayload v (.obj policy)).map fun m => (quote m.1, m.2.map quote))) := by
  rw [canonicalText, encode, Json.Tree.map_obj]

/-- The members `json.Marshal` writes for a payload. -/
def marshalledPayload (v : Trust.PayloadV1) (ms : List (Raw × Json.Tree Raw)) :
    List (Raw × Json.Tree Raw) :=
  spelledPayload (fun s => htmlEscape (quote s)) v
    (.obj (ms.map fun m => (htmlEscape m.1, m.2.map htmlEscape)))

theorem payloadTree_marshal (hparse : Json.parse v.policySnapshot = some (.obj ms)) :
    ∃ t, Trust.payloadTree v = some t ∧ marshal t = print (.obj (marshalledPayload v ms)) := by
  have hne : v.policySnapshot ≠ [] := by
    intro hempty
    rw [hempty] at hparse
    cases hparse
  have hraw : Trust.rawTree v.policySnapshot = some (.obj ms) := by
    rw [Trust.rawTree, if_neg hne, hparse]
  refine ⟨_, by rw [Trust.payloadTree, hraw]; rfl, ?_⟩
  simp only [marshal, marshalledPayload, spelledPayload, spelledConfig, Json.Tree.map_obj,
    List.map_cons, List.map_nil, Json.Tree.map_str]

/-- The policy as `json.Marshal` writes it. -/
theorem PolicyText.marshalled (h : PolicyText ms policy expiry) :
    PolicyText (ms.map fun m => (htmlEscape m.1, m.2.map htmlEscape)) policy expiry :=
  h.respell unquote_htmlEscape (wellFormed_marshal h.wellFormed)

theorem exactJSONMembers_eq {body : Bytes} {maximumBytes : ℕ} {required : List Bytes}
    {members : List (Bytes × Bytes)} (hdecode : Trust.strictDecode body maximumBytes .leaf
      Trust.decodeRawMembers = some members) (hlength : members.length = required.length)
    (hrequired : ∀ name ∈ required, name ∈ members.map Prod.fst) :
    Trust.exactJSONMembers body maximumBytes required = some members := by
  simp only [Trust.exactJSONMembers, hdecode, guard, if_pos hlength, if_pos hrequired,
    Option.bind_eq_bind, Option.bind_some, Option.pure_def]

theorem encode_config (config : TestConfigWire) :
    encode (.obj (configMembers config)) = print (.obj (spelledConfig quote config)) := by
  simp only [encode, configMembers, spelledConfig, Json.Tree.map_obj, List.map_cons, List.map_nil,
    Json.Tree.map_str]

/-- The test configuration of a canonical payload has exactly its two members. -/
theorem exactJSONMembers_config (hv : PayloadStrings v)
    (hmessage : v.testConfig.message.length ≤ 256)
    (hsequence : v.testConfig.sequence.length ≤ 256) :
    ∃ members, Trust.exactJSONMembers (encode (.obj (configMembers v.testConfig)))
      Trust.maximumCanonicalPayloadBytes [ascii "message", ascii "sequence"] = some members := by
  have hreadable := speller_quote.readable_config hv hmessage hsequence
  have hlength : (print (.obj (spelledConfig quote v.testConfig))).length ≤
      Trust.maximumCanonicalPayloadBytes :=
    (speller_quote.config_length hmessage hsequence).trans (by decide)
  have hmembers := strictDecode_print
    (Json.Tree.All.mono (fun _ hs => hs.wellFormed) (fun _ hn => hn) hreadable.valueScalar)
    (by decide) hlength (valid_print hreadable.valueUtf8)
    (walkValue_leaf (speller_quote.walk_config v.testConfig (by decide))) Trust.decodeRawMembers
  rw [encode_config]
  refine ⟨_, exactJSONMembers_eq hmembers rfl ?_⟩
  simp only [spelledConfig, List.map_cons, List.map_nil, unquote_quote]
  decide

section Canonical

variable (hP : P.Documented) (h : ValidPayload P v issuedAt notBefore expiresAt)

include hP h

theorem ValidPayload.readable_canonical (hpolicy : PolicyMembers policy expiry) :
    ReadablePayload ((sortedPayload v (.obj policy)).map fun m => (quote m.1, m.2.map quote)) :=
  (speller_quote.readable_payload (h.strings hP) (h.lengths hP) hpolicy.text).perm
    (map_quote_sortedPayload v policy)

/-- The canonical text of a payload is read as the payload, its policy in canonical form. -/
theorem ValidPayload.strictDecode_canonical (hpolicy : PolicyMembers policy expiry) :
    Trust.strictDecode (canonicalText v policy) Trust.maximumCanonicalPayloadBytes
      Trust.PayloadV1.schema (decodeStruct Trust.PayloadV1.fields .zero) =
        some { v with policySnapshot := encode (.obj policy) } := by
  rw [canonicalText_eq, (h.readable_canonical hP hpolicy).strictDecode, ← Json.Tree.map_obj]
  exact decode_sortedPayload v _

theorem ValidPayload.readable_marshalled (htext : PolicyText ms policy expiry) :
    ReadablePayload (marshalledPayload v ms) :=
  speller_marshal.readable_payload (h.strings hP) (h.lengths hP) htext.marshalled

/-- The library turns the marshalled payload into the canonical text. -/
theorem ValidPayload.transform (htext : PolicyText ms policy expiry) :
    P.jcsTransform (print (.obj (marshalledPayload v ms))) = some (canonicalText v policy) := by
  have hreadable := h.readable_marshalled hP htext
  have hflat : Flat (decodedMembers ms) := htext.members.flat.perm htext.perm
  obtain ⟨hn, -, hd⟩ := (h.strings hP).members hflat
  have hdecode : Json.decode (print (.obj (marshalledPayload v ms))) =
      some (.obj (payloadMembers v (.obj (decodedMembers ms)))) := by
    rw [Json.decode, parse_print hreadable.wellFormed, Option.map_some]
    simp only [marshalledPayload, spelledPayload, spelledConfig, Json.Tree.map_obj, List.map_cons,
      List.map_nil, Json.Tree.map_str, speller_marshal.unquote_eq, List.map_map, Function.comp_def,
      unquote_htmlEscape, map_unquote_htmlEscape]
    rfl
  rw [hP.jcs.transform_object _ _ hdecode hreadable.utf8
    (validUnicodeEscapes_print hreadable.scalar) hn hd, canonicalText, serialize,
    sort_payloadMembers v]
  rw [hflat.sort_eq, insertionSort_of_perm htext.perm htext.members.sorted]

/-- Every valid payload has a canonical form. -/
theorem canonicalizePayloadV1_of_valid (hparse : Json.parse v.policySnapshot = some (.obj ms))
    (htext : PolicyText ms policy expiry) :
    Trust.canonicalizePayloadV1 P v = some (canonicalText v policy) := by
  obtain ⟨t, htree, hmarshal⟩ := payloadTree_marshal hparse
  have hvalid : Trust.validatePayloadV1 P v = true := h.with_policy h.policy
  have hreadable := h.readable_marshalled hP htext
  have hcanonical := (h.readable_canonical hP htext.members).length_print
  rw [← canonicalText_eq] at hcanonical
  have hdecode := hreadable.strictDecode (decodeStruct Trust.PayloadV1.fields .zero)
  rw [marshalledPayload, speller_marshal.decode_payload, ← marshalledPayload] at hdecode
  have hbody : 1 ≤ (print (.obj (marshalledPayload v ms))).length ∧
      (print (.obj (marshalledPayload v ms))).length ≤ Trust.maximumCanonicalPayloadBytes :=
    ⟨Nat.le_of_succ_le hreadable.length_print.1, hreadable.length_print.2⟩
  have hlength : 1 ≤ (canonicalText v policy).length ∧
      (canonicalText v policy).length ≤ Trust.maximumCanonicalPayloadBytes :=
    ⟨Nat.le_of_succ_le hcanonical.1, hcanonical.2⟩
  simp only [Trust.canonicalizePayloadV1, Trust.canonicalizeJSON, htree, hmarshal, hvalid, hdecode,
    hreadable.validIJSON, h.transform hP htext, h.strictDecode_canonical hP htext.members,
    h.with_policy htext.marshalled.valid, guard, if_pos hbody, if_pos hlength, if_true,
    Option.bind_eq_bind, Option.bind_some, Option.pure_def]

/-- `DecodePayloadV1` on the canonical text of a valid payload. -/
theorem ValidPayload.decodePayloadV1 (hpolicy : PolicyMembers policy expiry) :
    Trust.decodePayloadV1 P (canonicalText v policy) =
      .ok { v with policySnapshot := encode (.obj policy) } := by
  have hreadable := h.readable_canonical hP hpolicy
  have hmembers := hreadable.rawMembers
  have hjson := hreadable.validIJSON
  have hlength := hreadable.length_print
  rw [← canonicalText_eq] at hmembers hjson hlength
  rw [List.map_map] at hmembers
  simp only [Function.comp_def, unquote_quote] at hmembers
  have hexact : Trust.exactJSONMembers (canonicalText v policy) Trust.maximumCanonicalPayloadBytes
      [ascii "schema_version", ascii "bundle_id", ascii "bundle_locator", ascii "bundle_version",
        ascii "audience", ascii "issued_at", ascii "not_before", ascii "expires_at",
        ascii "policy_snapshot", ascii "test_config"] =
      some ((sortedPayload v (.obj policy)).map fun m => (m.1, print (m.2.map quote))) := by
    refine exactJSONMembers_eq hmembers rfl ?_
    simp only [sortedPayload, List.map_cons, List.map_nil]
    decide
  obtain ⟨config, hconfig⟩ := exactJSONMembers_config (h.strings hP)
    (h.lengths hP _ (by simp [payloadTexts])) (h.lengths hP _ (by simp [payloadTexts]))
  have hlookup : ((sortedPayload v (.obj policy)).map fun m => (m.1, print (m.2.map quote))).lookup
      (ascii "test_config") = some (encode (.obj (configMembers v.testConfig))) := rfl
  have hencode : print (.obj (policy.map fun m => (quote m.1, m.2.map quote))) =
      encode (.obj policy) := by
    rw [encode, Json.Tree.map_obj]
  have hvalid := h.with_policy hpolicy.text.valid
  rw [hencode] at hvalid
  rw [Trust.decodePayloadV1, require_of ⟨hlength.1, hlength.2, hjson⟩, ok_bind, hexact,
    orThrow_some, ok_bind, hlookup, Option.getD_some, hconfig, orThrow_some, ok_bind,
    h.strictDecode_canonical hP hpolicy, orThrow_some, ok_bind, require_of hvalid]
  rfl

end Canonical

/-! ## The client's reading -/

theorem decodeStruct_sortedPayload (v : Trust.PayloadV1) (policy : Json.Tree Bytes) :
    decodeStruct TrustClient.PayloadWire.fields .zero
      ((Json.Tree.obj (sortedPayload v policy)).map quote) = some (clientPayload v policy) := by
  simp only [sortedPayload, Json.Tree.map_obj, List.map_cons, List.map_nil, Json.Tree.map_str,
    decodeStruct, decodeMembers_cons_quote]
  simp +decide [findField, TrustClient.PayloadWire.fields, List.find?, decodeMembers, rawField,
    clientPayload, encode]

/-- The canonical payload as both ends see it: the text of the checked value, with
the policy in canonical order. -/
structure CanonicalPayload (P : Platform) (v : Trust.PayloadV1) (canonical : Bytes)
    (policy : List (Bytes × Json.Tree Bytes)) (expiry : Option Instant) : Prop where
  members : PolicyMembers policy expiry
  expires : ∀ e, expiry = some e → PolicyExpires v.policySnapshot e
  fixed : P.jcsTransform canonical = some canonical
  utf8 : Utf8.valid canonical = true
  decoded : ∃ keys, TrustClient.decodeStrictObject canonical TrustClient.maximumPlaintextBytes
    TrustClient.PayloadWire.fields .zero (TrustClient.memberNames TrustClient.PayloadWire.fields) =
      some (keys, clientPayload v (.obj policy))

/-- The client reads the canonical text of a valid payload. -/
theorem ValidPayload.canonicalPayload (hP : P.Documented)
    (h : ValidPayload P v issuedAt notBefore expiresAt) (hpolicy : PolicyMembers policy expiry)
    (hexpires : ∀ e, expiry = some e → PolicyExpires v.policySnapshot e) :
    CanonicalPayload P v (canonicalText v policy) policy expiry := by
  have hreadable := h.readable_canonical hP hpolicy
  obtain ⟨hn, hv, hd⟩ := (h.strings hP).members hpolicy.flat
  have hsort : sort (.obj (payloadMembers v (.obj policy))) =
      .obj (sortedPayload v (.obj policy)) := by
    apply sort_payloadMembers
    rw [hpolicy.flat.sort_eq, insertionSort_of_perm (.refl _) hpolicy.sorted]
  have hfixed := hP.jcs.transform_serialize hn hv hd
  rw [serialize, hsort] at hfixed
  have hdecode := decodeStruct_sortedPayload v (.obj policy)
  rw [Json.Tree.map_obj] at hdecode
  rw [canonicalText_eq]
  refine ⟨hpolicy, hexpires, ?_, hreadable.utf8, _,
    hreadable.decodeStrictObject ?_ (Or.inr rfl) hdecode⟩
  · rwa [encode, Json.Tree.map_obj] at hfixed
  · rw [memberKeys_map_quote]
    simp only [sortedPayload, List.map_cons, List.map_nil]
    decide

/-- What a successful `canonicalizePayloadV1` did. -/
theorem canonicalizePayloadV1_eq_some (hP : P.Documented) {canonical : Bytes}
    (h : Trust.canonicalizePayloadV1 P v = some canonical) :
    ∃ issuedAt notBefore expiresAt policy expiry,
      ValidPayload P v issuedAt notBefore expiresAt ∧ canonical = canonicalText v policy ∧
        CanonicalPayload P v canonical policy expiry := by
  have hvalid : Trust.validatePayloadV1 P v = true := by
    by_contra hinvalid
    rw [Trust.canonicalizePayloadV1, guard, if_neg hinvalid] at h
    cases h
  obtain ⟨issuedAt, notBefore, expiresAt, hpayload⟩ := validatePayloadV1_eq_true hvalid
  obtain ⟨ms, policy, expiry, hparse, hperm, hpolicy⟩ := validDevicePolicyV1_cases hpayload.policy
  rw [canonicalizePayloadV1_of_valid hP hpayload hparse ⟨hpolicy, hperm, parse_wellFormed hparse⟩]
    at h
  obtain rfl := Option.some.inj h
  exact ⟨issuedAt, notBefore, expiresAt, policy, expiry, hpayload, rfl,
    hpayload.canonicalPayload hP hpolicy (hpolicy.expires hparse hperm)⟩

/-- The text of a string value, read back by the client. -/
theorem decodeStrictValue_encode {s : Bytes} (hvalid : Utf8.valid s = true) {maximum : ℕ}
    (hlen : 6 * s.length + 2 ≤ maximum) :
    TrustClient.decodeStrictValue (encode (.str s)) maximum = some s := by
  have hn : NoNumbers (.str s : Json.Tree Bytes) := Json.Tree.all_str.mpr trivial
  have hparse := parse_encode hn
  have htext := And.intro (valid_encode hn (Json.Tree.all_str.mpr hvalid))
    (validUnicodeEscapes_encode hn)
  have hlength := (speller_quote.stringText_length s).trans hlen
  rw [← print_str, ← Json.Tree.map_str, ← encode] at hlength
  have hpos : 1 ≤ (encode (.str s)).length := by
    rw [encode, Json.Tree.map_str, print_str, stringText, List.length_cons]
    omega
  rw [Json.Tree.map_str] at hparse
  have hstrict := scanStrictJSON_of_parse ⟨hpos, hlength⟩ htext hparse rfl
  have htop : TrustClient.topKeys (.str (quote s)) = none := rfl
  simp only [TrustClient.decodeStrictValue, hstrict, htop, hparse, guard, Option.bind_eq_bind,
    Option.bind_some, Option.pure_def, if_true, unquote_quote]

/-- The window in which the client accepts a policy: always for a standard policy,
and between issue and expiry for a trial. -/
def PolicyWindow (expiry : Option Instant) (issuedAt bundleExpiresAt now : Instant) : Prop :=
  ∀ e, expiry = some e → issuedAt < e ∧ e ≤ issuedAt + TrustClient.fixedTrialGrace ∧
    e ≤ bundleExpiresAt ∧ now < e

theorem decodeStruct_standardPolicy :
    decodeStruct PolicyWire.fields .zero ((Json.Tree.obj standardPolicy).map quote) =
      some ⟨ascii "standard", [], []⟩ := by
  simp only [standardPolicy, Json.Tree.map_obj, List.map_cons, List.map_nil, Json.Tree.map_str,
    decodeStruct, decodeMembers_cons_quote]
  simp +decide

theorem decodeStruct_trialPolicy (expiresAt : Bytes) :
    decodeStruct PolicyWire.fields .zero ((Json.Tree.obj (trialPolicy expiresAt)).map quote) =
      some ⟨ascii "trial_restricted", encode (.str expiresAt), encode (.str (ascii "1"))⟩ := by
  simp only [trialPolicy, Json.Tree.map_obj, List.map_cons, List.map_nil, Json.Tree.map_str,
    decodeStruct, decodeMembers_cons_quote]
  simp +decide [findField, PolicyWire.fields, List.find?, decodeMembers, PolicyWire.zero, rawField,
    encode]

/-- The canonical text of a policy is short. -/
theorem encode_policy_length (h : PolicyMembers policy expiry) :
    2 ≤ (encode (.obj policy)).length ∧
      (encode (.obj policy)).length ≤ TrustClient.maximumPolicyBytes := by
  rw [encode, Json.Tree.map_obj]
  exact ⟨h.text.length.1, h.text.length.2.trans (by decide)⟩

/-- The client accepts the canonical text of a policy inside its window. -/
theorem validPolicy_canonical (h : PolicyMembers policy expiry) {bundleExpiresAt now : Instant}
    (hwindow : PolicyWindow expiry issuedAt bundleExpiresAt now) :
    TrustClient.validPolicy (encode (.obj policy)) issuedAt bundleExpiresAt now = true := by
  have hlen := encode_policy_length h
  have hflat := h.flat
  unfold TrustClient.validPolicy
  rw [if_neg (not_not.mpr hlen)]
  cases h with
  | standard =>
    have hdecoded := hflat.decodeStrictObject hlen.2 (by simp) (Or.inl rfl)
      decodeStruct_standardPolicy
    rw [hdecoded]
    dsimp only
    rw [if_pos rfl]
    decide
  | @trial expiresAt expiry htime =>
    have hdecoded := hflat.decodeStrictObject hlen.2 (by simp) (Or.inl rfl)
      (decodeStruct_trialPolicy expiresAt)
    obtain ⟨hissued, hgrace, hbundle, hnow⟩ := hwindow expiry rfl
    have hlength : 6 * expiresAt.length + 2 ≤ TrustClient.maximumPolicyBytes := by
      rw [(format_of_parse htime).2.2]
      decide
    have hexpires : TrustClient.decodeStrictValue (encode (.str expiresAt))
        TrustClient.maximumPolicyBytes = some expiresAt :=
      decodeStrictValue_encode (valid_of_parseProtocolTime htime) hlength
    have hmax : TrustClient.decodeStrictValue (encode (.str (ascii "1")))
        TrustClient.maximumPolicyBytes = some (ascii "1") :=
      decodeStrictValue_encode (by decide) (by decide)
    have hkeys : (trialPolicy expiresAt).map Prod.fst =
        [ascii "expires_at", ascii "max_devices", ascii "mode"] := rfl
    rw [hdecoded, hkeys]
    dsimp only
    rw [if_neg (by decide), if_neg (by decide), hexpires, hmax]
    simp only [htime, decide_eq_true hissued, decide_eq_true hgrace, decide_eq_true hbundle,
      decide_eq_true hnow, Bool.and_true]
    decide

/-- The client finds the test configuration the server wrote. -/
theorem decodeStrictObject_config (h : PayloadStrings v)
    (hmessage : v.testConfig.message.length ≤ Trust.maximumMessageBytes)
    (hsequence : unsignedIntegerString v.testConfig.sequence = true) :
    ∃ keys, TrustClient.decodeStrictObject (encode (.obj (configMembers v.testConfig)))
      TrustClient.maximumPlaintextBytes TestConfigWire.fields .zero
      (TrustClient.memberNames TestConfigWire.fields) = some (keys, v.testConfig) := by
  have hlen : (encode (.obj (configMembers v.testConfig))).length ≤
      TrustClient.maximumPlaintextBytes := by
    rw [encode_config]
    exact (speller_quote.config_length hmessage ((unescaped_unsignedIntegerString hsequence).2.trans (by decide))).trans (by decide)
  refine ⟨_, h.flat_config.decodeStrictObject hlen ?_ (Or.inr rfl) ?_⟩
  · simp only [configMembers, List.map_cons, List.map_nil]
    decide
  · simp only [configMembers, Json.Tree.map_obj, List.map_cons, List.map_nil, Json.Tree.map_str,
      decodeStruct, decodeMembers_cons_quote]
    simp +decide [findField, TestConfigWire.fields, List.find?, decodeMembers]

/-- The window in which the client accepts a bundle. -/
def BundleWindow (notBefore expiresAt now : Instant) (skew : ℤ) : Prop :=
  notBefore ≤ now + skew ∧ now - skew < expiresAt

/-- The client's checks on the payload follow from the server's, from what the
client expects, and from its clock. -/
theorem validatePayload_clientPayload (hP : P.Documented)
    (hpayload : ValidPayload P v issuedAt notBefore expiresAt)
    (hmembers : PolicyMembers policy expiry) {expected : TrustClient.Expected}
    (haudience : v.audience = expected.audience)
    (hlocator : v.bundleLocator = Base64Url.encode expected.locator.1) {version : ℕ}
    (hversion : parsePositiveUint v.bundleVersion = some version) {now : Instant} {skew : ℤ}
    (hlifetime : expiresAt - notBefore = TrustClient.fixedBundleLifetime)
    (hbundle : BundleWindow notBefore expiresAt now skew)
    (hpolicy : PolicyWindow expiry issuedAt expiresAt now) :
    TrustClient.validatePayload P (clientPayload v (.obj policy)) expected now skew =
      some (version, notBefore, expiresAt) := by
  obtain ⟨keys, hconfig⟩ := decodeStrictObject_config (hpayload.strings hP) hpayload.message_length
    hpayload.sequence
  -- The record is kept folded: the facts are about the fields the client reads.
  obtain ⟨w, hw⟩ : ∃ w, w = clientPayload v (.obj policy) := ⟨_, rfl⟩
  obtain ⟨locator, hbytes⟩ : ∃ locator, locator = expected.locator.1 := ⟨_, rfl⟩
  have hversion' : parsePositiveUint w.bundleVersion = some version := by rw [hw]; exact hversion
  have hissued : parseProtocolTime w.issuedAt = some issuedAt := by
    rw [hw]; exact hpayload.issued_time
  have hbefore : parseProtocolTime w.notBefore = some notBefore := by
    rw [hw]; exact hpayload.notBefore_time
  have hexpires : parseProtocolTime w.expiresAt = some expiresAt := by
    rw [hw]; exact hpayload.expires_time
  have hlocator' : decodeExactBase64URL w.bundleLocator 32 = some locator := by
    have hencoded : w.bundleLocator = Base64Url.encode expected.locator.1 := by
      rw [hw]; exact hlocator
    rw [hencoded, hbytes]
    exact decodeExactBase64URL_encode expected.locator.2
  have hconfig' : TrustClient.decodeStrictObject w.testConfig TrustClient.maximumPlaintextBytes
      TestConfigWire.fields .zero (TrustClient.memberNames TestConfigWire.fields) =
        some (keys, v.testConfig) := by rw [hw]; exact hconfig
  have hfields : w.schemaVersion = TrustClient.bundleSchema ∧ canonicalUUID P w.bundleID = true ∧
      canonicalUUID P w.audience = true ∧ w.audience = expected.audience ∧
      locator = expected.locator.1 := by
    rw [hw]
    exact ⟨hpayload.schemaVersion, hpayload.bundleID, hpayload.audience, haudience, hbytes⟩
  have hwindow : issuedAt ≤ notBefore ∧ notBefore < expiresAt ∧ issuedAt ≤ now + skew ∧
      notBefore ≤ now + skew ∧ now - skew < expiresAt :=
    ⟨hpayload.issued_le, hpayload.lt_expires, hpayload.issued_le.trans hbundle.1, hbundle.1,
      hbundle.2⟩
  have hrest : v.testConfig.message.length ≤ TrustClient.maximumMessageBytes ∧
      Utf8.valid v.testConfig.message = true ∧
      expiresAt - notBefore = TrustClient.fixedBundleLifetime ∧
      unsignedIntegerString v.testConfig.sequence = true ∧
      TrustClient.validPolicy w.policySnapshot issuedAt expiresAt now = true := by
    rw [hw]
    exact ⟨hpayload.message_length, hpayload.message, hlifetime, hpayload.sequence,
      validPolicy_canonical hmembers hpolicy⟩
  rw [← hw]
  unfold TrustClient.validatePayload
  simp only [hversion', hissued, hbefore, hexpires, hlocator', hconfig', guard, if_pos hfields,
    if_pos hwindow, if_pos hrest, Option.bind_eq_bind, Option.bind_some, Option.pure_def]

end Talenro.Analysis
