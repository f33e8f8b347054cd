import Talenro.Model.Trust.StrictJson
import Talenro.Model.TrustClient.Verify

/-!
# The two strict readers agree on canonical text

The server and the client check JSON texts with readers of their own.  Whatever
the server's `walkValue` accepts, with numbers in range, the client's
`scanJSONValue` accepts too (`scanJSONValue_of_walkValue`).  The texts the server
produces are canonical texts of objects without numbers; on those the client's
`decodeStrictObject` reduces to decoding the members (`decodeStrictObject_encode`).
-/

set_option autoImplicit false

namespace Talenro.Analysis

open Lib Lib.Json

/-! ## Container by container

The loops over the members of an object carry the names they have seen.  What they accept does
not mention them: the names are distinct, and each value is accepted. -/

variable {v : Json.Tree Bytes} {ms : List (Bytes × Json.Tree Bytes)} {α : Type} {depth maximum : ℕ}
  {fields : List (Json.Field α)} {value zero : α} {schema : Trust.Schema}
  {elements : List (Json.Tree Raw)} {members : List (Raw × Json.Tree Raw)} {seen : List Bytes}

/-- The names are distinct and not among those seen. -/
def Fresh (seen names : List Bytes) : Prop := names.Nodup ∧ ∀ n ∈ names, n ∉ seen

theorem memberKeys_cons (m : Raw × Json.Tree Raw) (members : List (Raw × Json.Tree Raw)) :
    memberKeys (m :: members) = unquote m.1 :: memberKeys members := rfl

theorem fresh_cons {name : Bytes} {names : List Bytes} :
    Fresh seen (name :: names) ↔ name ∉ seen ∧ Fresh (name :: seen) names := by
  simp only [Fresh, List.nodup_cons, List.mem_cons, forall_eq_or_imp, not_or]
  constructor
  · rintro ⟨⟨hname, hnodup⟩, hnew, hall⟩
    exact ⟨hnew, hnodup, fun n hn => ⟨fun heq => hname (heq ▸ hn), hall n hn⟩⟩
  · rintro ⟨hnew, hnodup, hall⟩
    exact ⟨⟨fun hin => (hall _ hin).1 rfl, hnodup⟩, hnew, fun n hn => (hall n hn).2⟩

theorem walkMembers_iff : Trust.walkMembers depth schema seen members = true ↔
    Fresh seen (memberKeys members) ∧ ∀ m ∈ members, ∃ expected,
      schema.member (unquote m.1) = some expected ∧ Trust.walkValue depth expected m.2 = true := by
  induction members generalizing seen with
  | nil => simp [Trust.walkMembers, memberKeys, Fresh]
  | cons m members ih =>
    cases hmember : schema.member (unquote m.1) with
    | none => simp [Trust.walkMembers, hmember]
    | some expected =>
      simp [Trust.walkMembers, hmember, ih, memberKeys_cons, fresh_cons, and_assoc, and_left_comm]

theorem scanJSONMembers_iff : TrustClient.scanJSONMembers depth seen members = true ↔
    Fresh seen (memberKeys members) ∧
      ∀ m ∈ members, TrustClient.scanJSONValue depth m.2 = true := by
  induction members generalizing seen with
  | nil => simp [TrustClient.scanJSONMembers, memberKeys, Fresh]
  | cons m members ih =>
    simp [TrustClient.scanJSONMembers, ih, memberKeys_cons, fresh_cons, and_assoc, and_left_comm]

theorem walkValue_arr : Trust.walkValue depth schema (.arr elements) = true ↔
    depth < Trust.maximumDepth ∧
      ∀ e ∈ elements, Trust.walkValue (depth + 1) schema.element e = true := by
  rw [Trust.walkValue, Bool.and_eq_true, decide_eq_true_eq, and_congr_right_iff]
  intro _
  induction elements with
  | nil => simp [Trust.walkElements]
  | cons e elements ih => simp [Trust.walkElements, ih]

theorem walkValue_obj : Trust.walkValue depth schema (.obj members) = true ↔
    depth < Trust.maximumDepth ∧ (memberKeys members).Nodup ∧ ∀ m ∈ members, ∃ expected,
      schema.member (unquote m.1) = some expected ∧
        Trust.walkValue (depth + 1) expected m.2 = true := by
  rw [Trust.walkValue, Bool.and_eq_true, decide_eq_true_eq, walkMembers_iff]
  simp [Fresh]

theorem scanJSONValue_arr : TrustClient.scanJSONValue depth (.arr elements) = true ↔
    depth ≤ TrustClient.maximumJSONDepth ∧
      ∀ e ∈ elements, TrustClient.scanJSONValue (depth + 1) e = true := by
  rw [TrustClient.scanJSONValue, Bool.and_eq_true, decide_eq_true_eq, and_congr_right_iff]
  intro _
  induction elements with
  | nil => simp [TrustClient.scanJSONElements]
  | cons e elements ih => simp [TrustClient.scanJSONElements, ih]

theorem scanJSONValue_obj : TrustClient.scanJSONValue depth (.obj members) = true ↔
    depth ≤ TrustClient.maximumJSONDepth ∧ (memberKeys members).Nodup ∧
      ∀ m ∈ members, TrustClient.scanJSONValue (depth + 1) m.2 = true := by
  rw [TrustClient.scanJSONValue, Bool.and_eq_true, decide_eq_true_eq, scanJSONMembers_iff]
  simp [Fresh]

theorem numbersInRange_arr : Trust.numbersInRange (.arr elements) = true ↔
    ∀ e ∈ elements, Trust.numbersInRange e = true := by
  rw [Trust.numbersInRange]
  induction elements with
  | nil => simp [Trust.elementNumbersInRange]
  | cons e elements ih => simp [Trust.elementNumbersInRange, ih]

theorem numbersInRange_obj : Trust.numbersInRange (.obj members) = true ↔
    ∀ m ∈ members, Trust.numbersInRange m.2 = true := by
  rw [Trust.numbersInRange]
  induction members with
  | nil => simp [Trust.memberNumbersInRange]
  | cons m members ih => simp [Trust.memberNumbersInRange, ih]

/-! ## From the server's walk to the client's scan -/

variable {body : Bytes} {t : Json.Tree Raw} {required : List Bytes} {maxBytes : ℕ}

/-- A value the server's walk accepts passes the client's scan at the same depth:
the walk admits containers below depth sixteen, so every value inside one is at
depth sixteen at most. -/
theorem scanJSONValue_of_walkValue (hdepth : depth ≤ 16)
    (hwalk : Trust.walkValue depth schema t = true) (hnumbers : Trust.numbersInRange t = true) :
    TrustClient.scanJSONValue depth t = true := by
  have hd : depth ≤ TrustClient.maximumJSONDepth := hdepth
  induction t generalizing depth schema with
  | null | bool b => simpa [TrustClient.scanJSONValue] using hd
  | num n =>
    rw [Trust.numbersInRange] at hnumbers
    simpa [TrustClient.scanJSONValue, hnumbers] using hd
  | str s => simpa [TrustClient.scanJSONValue] using hd
  | arr es ih =>
    obtain ⟨hlt, hwalk⟩ := walkValue_arr.mp hwalk
    refine scanJSONValue_arr.mpr ⟨hd, fun e he => ?_⟩
    exact ih e he hlt (hwalk e he) (numbersInRange_arr.mp hnumbers e he) hlt
  | obj ms ih =>
    obtain ⟨hlt, hnodup, hwalk⟩ := walkValue_obj.mp hwalk
    refine scanJSONValue_obj.mpr ⟨hd, hnodup, fun m hm => ?_⟩
    obtain ⟨expected, -, hvalue⟩ := hwalk m hm
    exact ih m hm hlt hvalue (numbersInRange_obj.mp hnumbers m hm) hlt

/-- A value without numbers has all its numbers in range. -/
theorem numbersInRange_of_noNumbers (h : NoNumbers t) : Trust.numbersInRange t = true := by
  induction t with
  | null => rfl
  | bool b => rfl
  | num n => exact (Json.Tree.all_num.mp h).elim
  | str s => rfl
  | arr es ih => exact numbersInRange_arr.mpr fun e he => ih e he (Json.Tree.all_arr.mp h e he)
  | obj ms ih => exact numbersInRange_obj.mpr fun m hm => ih m hm (Json.Tree.all_obj.mp h m hm).2

/-- An object the server's walk accepts against a record has distinct members, all
of them fields of the record. -/
theorem walkValue_record {fields : List (Bytes × Trust.Schema)}
    (h : Trust.walkValue depth (.record fields) (.obj members) = true) :
    (memberKeys members).Nodup ∧ ∀ n ∈ memberKeys members, n ∈ fields.map Prod.fst := by
  obtain ⟨-, hnodup, hvalues⟩ := walkValue_obj.mp h
  refine ⟨hnodup, List.forall_mem_map.mpr fun m hm => ?_⟩
  obtain ⟨expected, hlookup, -⟩ := hvalues m hm
  obtain ⟨before, after, rfl, -⟩ := List.lookup_eq_some_iff.mp hlookup
  simp

/-- What the server's reader checked of a text it accepted. -/
theorem strictDecode_eq_some {target : Json.Tree Raw → Option α}
    (h : Trust.strictDecode body maxBytes schema target = some value) :
    body.length ≤ maxBytes ∧ Utf8.valid body = true ∧
      ∃ t, parse body = some t ∧ Trust.walkValue 0 schema t = true ∧ target t = some value := by
  simp only [Trust.strictDecode, Option.bind_eq_bind, Option.bind_eq_some_iff,
    Option.guard_eq_some'] at h
  obtain ⟨-, -, -, hbody, t, hparse, -, hwalk, htarget⟩ := h
  exact ⟨hbody.1, hbody.2, t, hparse, hwalk, htarget⟩

/-- The server's reader on a text whose value it walks through. -/
theorem strictDecode_of_parse {target : Json.Tree Raw → Option α}
    (hmax : 0 < maxBytes ∧ maxBytes ≤ Trust.maximumBodyBytes)
    (hbody : body.length ≤ maxBytes ∧ Utf8.valid body = true) (hparse : parse body = some t)
    (hwalk : Trust.walkValue 0 schema t = true) :
    Trust.strictDecode body maxBytes schema target = target t := by
  simp only [Trust.strictDecode, guard, if_pos hmax, if_pos hbody, hparse, if_pos hwalk,
    Option.bind_eq_bind, Option.bind_some, Option.pure_def]

/-- A record the server's reader decoded from an object: its members are fields of
the record, each at most once. -/
theorem strictDecode_record {schemas : List (Bytes × Trust.Schema)}
    (hschemas : schemas.map Prod.fst = fields.map Json.Field.name) (hzero : value ≠ zero)
    (h : Trust.strictDecode body maxBytes (.record schemas) (decodeStruct fields zero) =
      some value) : ∃ ms, parse body = some (.obj ms) ∧ (memberKeys ms).Nodup ∧
      (∀ n ∈ memberKeys ms, n ∈ fields.map Json.Field.name) ∧
      decodeMembers fields ms zero = some value := by
  obtain ⟨-, -, t, hparse, hwalk, htarget⟩ := strictDecode_eq_some h
  cases t with
  | obj ms =>
    obtain ⟨hnodup, hall⟩ := walkValue_record hwalk
    exact ⟨ms, hparse, hnodup, fun n hn => hschemas ▸ hall n hn, htarget⟩
  | null => exact absurd (Option.some.inj htarget).symm hzero
  | _ => cases htarget

/-! ## Flat objects -/

/-- An object of strings: every record of the protocol but the payload and the
metadata is one. -/
def Flat (ms : List (Bytes × Json.Tree Bytes)) : Prop :=
  (ms.map Prod.fst).Nodup ∧ ∀ m ∈ ms, ∃ s, m.2 = .str s ∧ Utf8.valid m.1 = true ∧ Utf8.valid s = true

theorem Flat.noNumbers (h : Flat ms) : NoNumbers (.obj ms : Json.Tree Bytes) := by
  refine Json.Tree.all_obj.mpr fun m hm => ?_
  obtain ⟨s, hs, -, -⟩ := h.2 m hm
  rw [hs]
  exact ⟨trivial, Json.Tree.all_str.mpr trivial⟩

theorem Flat.validStrings (h : Flat ms) : ValidStrings (.obj ms) := by
  refine Json.Tree.all_obj.mpr fun m hm => ?_
  obtain ⟨s, hs, hname, hvalue⟩ := h.2 m hm
  rw [hs]
  exact ⟨hname, Json.Tree.all_str.mpr hvalue⟩

theorem Flat.distinct (h : Flat ms) : (Json.Tree.obj ms).Distinct := by
  refine Json.Tree.distinct_obj.mpr ⟨h.1, fun m hm => ?_⟩
  obtain ⟨s, hs, -, -⟩ := h.2 m hm
  rw [hs]
  exact Json.Tree.distinct_str s

/-- Reordering the members keeps an object flat. -/
theorem Flat.perm {ns : List (Bytes × Json.Tree Bytes)} (h : Flat ms) (hp : ns.Perm ms) : Flat ns :=
  ⟨(hp.map Prod.fst).nodup_iff.mpr h.1, fun m hm => h.2 m (hp.mem_iff.mp hm)⟩

/-- The members of a flat object are sorted as they are. -/
theorem Flat.sort_eq (h : Flat ms) : sort (.obj ms) = .obj (ms.insertionSort NameLe) := by
  rw [sort_obj]
  congr 2
  refine (List.map_congr_left fun m hm => ?_).trans (List.map_id' ms)
  obtain ⟨s, hs, -, -⟩ := h.2 m hm
  rw [hs, sort_str, ← hs]

theorem memberKeys_map_quote (ms : List (Bytes × Json.Tree Bytes)) :
    memberKeys (ms.map fun m => (quote m.1, m.2.map quote)) = ms.map Prod.fst := by
  rw [memberKeys, List.map_map]
  exact List.map_congr_left fun m _ => unquote_quote m.1

/-- The client's scan accepts flat objects. -/
theorem Flat.scan (h : Flat ms) (hdepth : depth < 16) :
    TrustClient.scanJSONValue depth ((Json.Tree.obj ms).map quote) = true := by
  rw [Json.Tree.map_obj, scanJSONValue_obj, memberKeys_map_quote]
  refine ⟨hdepth.le, h.1, List.forall_mem_map.mpr fun m hm => ?_⟩
  obtain ⟨s, hs, -, -⟩ := h.2 m hm
  rw [hs, Json.Tree.map_str, TrustClient.scanJSONValue]
  exact decide_eq_true hdepth

/-! ## Decoding canonical text -/

/-- The client's reader on a text whose value it scans. -/
theorem scanStrictJSON_of_parse (hbounds : 1 ≤ body.length ∧ body.length ≤ maximum)
    (htext : Utf8.valid body = true ∧ validUnicodeEscapes body = true)
    (hparse : parse body = some t) (hscan : TrustClient.scanJSONValue 0 t = true) :
    TrustClient.scanStrictJSON body maximum = some (TrustClient.topKeys t) := by
  simp only [TrustClient.scanStrictJSON, guard, if_pos hbounds, if_pos htext, hparse,
    if_pos hscan, Option.bind_eq_bind, Option.bind_some, Option.pure_def]

/-- `decodeStrictObject` on such a text: the members required are there, no others, and
they decode. -/
theorem decodeStrictObject_of_parse (hbounds : 1 ≤ body.length ∧ body.length ≤ maximum)
    (htext : Utf8.valid body = true ∧ validUnicodeEscapes body = true)
    (hparse : parse body = some (.obj members))
    (hscan : TrustClient.scanJSONValue 0 (.obj members) = true)
    (hrequired : ∀ name ∈ required, name ∈ memberKeys members)
    (hcount : required = [] ∨ (memberKeys members).length = required.length)
    (hdecode : decodeMembers fields members zero = some value) :
    TrustClient.decodeStrictObject body maximum fields zero required =
      some (memberKeys members, value) := by
  have htop : TrustClient.topKeys (.obj members) = some (memberKeys members) := rfl
  simp only [TrustClient.decodeStrictObject, scanStrictJSON_of_parse hbounds htext hparse hscan,
    htop, hparse, decodeStruct, hdecode, guard, if_pos hrequired, if_pos hcount,
    Option.bind_eq_bind, Option.bind_some, Option.pure_def]

/-- Text of an object is never empty. -/
theorem encode_obj_length_pos (ms : List (Bytes × Json.Tree Bytes)) :
    1 ≤ (encode (.obj ms)).length := by
  rw [encode, Json.Tree.map_obj, print_obj]
  simp

/-- `decodeStrictObject` on the text of an object without numbers. -/
theorem decodeStrictObject_encode (hn : NoNumbers (.obj ms : Json.Tree Bytes))
    (hv : ValidStrings (.obj ms))
    (hscan : TrustClient.scanJSONValue 0 ((Json.Tree.obj ms).map quote) = true)
    (hlen : (encode (.obj ms)).length ≤ maximum)
    (hrequired : ∀ name ∈ required, name ∈ ms.map Prod.fst)
    (hcount : required = [] ∨ ms.length = required.length)
    (hdecode : decodeStruct fields zero ((Json.Tree.obj ms).map quote) = some value) :
    TrustClient.decodeStrictObject (encode (.obj ms)) maximum fields zero required =
      some (ms.map Prod.fst, value) := by
  have hparse := parse_encode hn
  rw [← List.length_map (f := Prod.fst)] at hcount
  rw [Json.Tree.map_obj] at hscan hdecode hparse
  rw [← memberKeys_map_quote] at hrequired hcount ⊢
  exact decodeStrictObject_of_parse ⟨encode_obj_length_pos ms, hlen⟩
    ⟨valid_encode hn hv, validUnicodeEscapes_encode hn⟩ hparse hscan hrequired hcount hdecode

/-- The client's scan sees spellings only through the strings they denote. -/
theorem scanJSONValue_map {f : Raw → Raw} (hf : ∀ s, unquote (f s) = unquote s) (t : Json.Tree Raw)
    (depth : ℕ) : TrustClient.scanJSONValue depth (t.map f) = TrustClient.scanJSONValue depth t := by
  induction t generalizing depth with
  | null => rw [Json.Tree.map_null]
  | bool b => rw [Json.Tree.map_bool]
  | num n => rw [Json.Tree.map_num]
  | str s =>
    rw [Json.Tree.map_str]
    rfl
  | arr es ih =>
    rw [Json.Tree.map_arr, Bool.eq_iff_iff, scanJSONValue_arr, scanJSONValue_arr,
      List.forall_mem_map]
    exact and_congr_right fun _ => forall₂_congr fun e he => by rw [ih e he]
  | obj ms ih =>
    have hkeys : memberKeys (ms.map fun m => (f m.1, m.2.map f)) = memberKeys ms := by
      rw [memberKeys, List.map_map]
      exact List.map_congr_left fun m _ => hf m.1
    rw [Json.Tree.map_obj, Bool.eq_iff_iff, scanJSONValue_obj, scanJSONValue_obj, hkeys,
      List.forall_mem_map]
    exact and_congr_right fun _ => and_congr_right fun _ => forall₂_congr fun m hm => by
      rw [ih m hm]

/-! ## Canonicalisation of what the server marshals -/

theorem wellFormed_map_quote (hn : NoNumbers v) : WellFormed (v.map quote) :=
  Json.Tree.all_map.mpr (hn.all fun s => (rawScalar_quote s).wellFormed)

/-- The text `json.Marshal` writes for a value is valid UTF-8 when its strings are. -/
theorem valid_marshal_quote (hn : NoNumbers v) (hv : ValidStrings v) :
    Utf8.valid (marshal (v.map quote)) = true := by
  rw [marshal, Json.Tree.map_map]
  refine valid_print (Json.Tree.all_map.mpr ?_)
  refine Json.Tree.All.mono (fun s hs => ?_) (fun _ h => h.1.elim) (Json.Tree.All.and hn hv)
  rw [valid_rawText_htmlEscape, valid_rawText_quote]
  exact hs.2

theorem validUnicodeEscapes_marshal_quote (hn : NoNumbers v) :
    validUnicodeEscapes (marshal (v.map quote)) = true := by
  rw [marshal, Json.Tree.map_map]
  refine validUnicodeEscapes_print (Json.Tree.all_map.mpr ?_)
  exact hn.all fun s => rawScalar_htmlEscape (rawScalar_quote s)

theorem decode_marshal_quote (hn : NoNumbers v) : decode (marshal (v.map quote)) = some v := by
  rw [decode_marshal (wellFormed_map_quote hn), map_unquote_quote]

/-- `decodeStrictObject` on a flat object as `json.Marshal` writes it. -/
theorem decodeStrictObject_marshal (h : Flat ms)
    (hlen : (marshal ((Json.Tree.obj ms).map quote)).length ≤ maximum)
    (hrequired : ∀ name ∈ required, name ∈ ms.map Prod.fst)
    (hcount : required = [] ∨ (ms.map Prod.fst).length = required.length)
    (hdecode : decodeStruct fields zero (((Json.Tree.obj ms).map quote).map htmlEscape) =
      some value) :
    TrustClient.decodeStrictObject (marshal ((Json.Tree.obj ms).map quote)) maximum fields zero
      required = some (ms.map Prod.fst, value) := by
  have hn := h.noNumbers
  have hpos : 1 ≤ (marshal ((Json.Tree.obj ms).map quote)).length := by
    rw [marshal, Json.Tree.map_obj, Json.Tree.map_obj, print_obj]
    simp
  have hparse := parse_marshal (wellFormed_map_quote hn)
  have hscan : TrustClient.scanJSONValue 0 (((Json.Tree.obj ms).map quote).map htmlEscape) = true := by
    rw [scanJSONValue_map unquote_htmlEscape]
    exact h.scan (by decide)
  have hobj : ((Json.Tree.obj ms).map quote).map htmlEscape =
      .obj (ms.map fun m => (htmlEscape (quote m.1), (m.2.map quote).map htmlEscape)) := by
    rw [Json.Tree.map_obj, Json.Tree.map_obj, List.map_map]
    rfl
  have hkeys : memberKeys (ms.map fun m => (htmlEscape (quote m.1),
      (m.2.map quote).map htmlEscape)) = ms.map Prod.fst := by
    rw [memberKeys, List.map_map]
    refine List.map_congr_left fun m _ => ?_
    simp only [Function.comp_apply, unquote_htmlEscape, unquote_quote]
  rw [hobj] at hscan hdecode hparse
  rw [← hkeys] at hrequired hcount ⊢
  exact decodeStrictObject_of_parse ⟨hpos, hlen⟩ ⟨valid_marshal_quote hn h.validStrings,
    validUnicodeEscapes_marshal_quote hn⟩ hparse hscan hrequired hcount hdecode

/-- `canonicalTrustedJSON` of an object is its canonical text. -/
theorem canonicalTrustedJSON_eq {P : Platform} (hP : P.Documented)
    (hn : NoNumbers (.obj ms : Json.Tree Bytes)) (hv : ValidStrings (.obj ms))
    (hd : (Json.Tree.obj ms).Distinct) :
    Trust.canonicalTrustedJSON P (.obj ms) = some (serialize (.obj ms)) :=
  hP.jcs.transform_object _ ms (decode_marshal_quote hn) (valid_marshal_quote hn hv)
    (validUnicodeEscapes_marshal_quote hn) hn hd

end Talenro.Analysis
