import Talenro.Analysis.Artifacts
import Talenro.Lib.Json.Spelling
import Talenro.Model.Identity.Deliveries

/-!
# Deliveries are read back

The JSON of a delivery is put together without escaping.  No address that is accepted holds a
character that JSON would escape, so the text is the one an encoder would have written: it has the
four members and no others, and the consumer reads from it what was put in.
-/

set_option autoImplicit false

namespace Talenro.Identity

open Lib Lib.Json Calls Sensitive

/-! ## Parts between separators -/

section Split

variable {separator c : UInt8} {text part rest : Bytes} {parts : List Bytes}

theorem exists_splitOn (separator : UInt8) (text : Bytes) :
    ∃ part parts, splitOn separator text = part :: parts := by
  induction text with
  | nil => exact ⟨[], [], rfl⟩
  | cons c text ih =>
    obtain ⟨part, parts, h⟩ := ih
    rw [splitOn, h]
    by_cases hc : c = separator
    · exact ⟨_, _, if_pos hc⟩
    · exact ⟨_, _, if_neg hc⟩

theorem splitOn_self : splitOn separator (separator :: text) = [] :: splitOn separator text := by
  obtain ⟨part, parts, h⟩ := exists_splitOn separator text
  rw [splitOn, h]
  exact if_pos rfl

theorem splitOn_cons (hc : c ≠ separator) (h : splitOn separator text = part :: parts) :
    splitOn separator (c :: text) = (c :: part) :: parts := by
  rw [splitOn, h]
  exact if_neg hc

/-- The first part, and what the rest was split from. -/
theorem splitOn_inv (h : splitOn separator text = part :: parts) :
    separator ∉ part ∧ (parts = [] ∧ text = part ∨ ∃ rest, text = part ++ separator :: rest ∧
      splitOn separator rest = parts) := by
  induction text generalizing part with
  | nil =>
    obtain ⟨rfl, rfl⟩ := List.cons.inj h
    exact ⟨List.not_mem_nil, Or.inl ⟨rfl, rfl⟩⟩
  | cons c text ih =>
    by_cases hc : c = separator
    · subst hc
      rw [splitOn_self] at h
      obtain ⟨rfl, hparts⟩ := List.cons.inj h
      exact ⟨List.not_mem_nil, Or.inr ⟨text, rfl, hparts⟩⟩
    · obtain ⟨first, others, hrest⟩ := exists_splitOn separator text
      rw [splitOn_cons hc hrest] at h
      obtain ⟨rfl, rfl⟩ := List.cons.inj h
      obtain ⟨hfirst, hcases⟩ := ih hrest
      refine ⟨fun hmem => (List.mem_cons.mp hmem).elim (fun heq => hc heq.symm) hfirst, ?_⟩
      rcases hcases with ⟨hnil, rfl⟩ | ⟨rest, rfl, hsplit⟩
      · exact Or.inl ⟨hnil, rfl⟩
      · exact Or.inr ⟨rest, rfl, hsplit⟩

theorem splitOn_append (h : separator ∉ part) :
    splitOn separator (part ++ separator :: rest) = part :: splitOn separator rest := by
  induction part with
  | nil => exact splitOn_self
  | cons c part ih =>
    rw [List.mem_cons, not_or] at h
    exact splitOn_cons (Ne.symm h.1) (ih h.2)

theorem splitOn_of_not_mem (h : separator ∉ text) : splitOn separator text = [text] := by
  induction text with
  | nil => rfl
  | cons c text ih =>
    rw [List.mem_cons, not_or] at h
    exact splitOn_cons (Ne.symm h.1) (ih h.2)

/-- A change of characters that leaves the separator alone is made in each part. -/
theorem splitOn_map {f : UInt8 → UInt8} (hf : ∀ c, f c = separator ↔ c = separator)
    (text : Bytes) : splitOn separator (text.map f) = (splitOn separator text).map (List.map f) := by
  induction text with
  | nil => rfl
  | cons c text ih =>
    by_cases hc : c = separator
    · rw [hc, List.map_cons, (hf separator).mpr rfl, splitOn_self, splitOn_self, ih]
      rfl
    · obtain ⟨part, parts, h⟩ := exists_splitOn separator text
      rw [h] at ih
      rw [splitOn_cons hc h, List.map_cons, splitOn_cons (fun heq => hc ((hf c).mp heq)) ih]
      rfl

/-- Every character is a separator or in one of the parts. -/
theorem mem_splitOn (h : c ∈ text) :
    c = separator ∨ ∃ part ∈ splitOn separator text, c ∈ part := by
  induction text with
  | nil => exact absurd h List.not_mem_nil
  | cons d text ih =>
    obtain ⟨part, parts, hsplit⟩ := exists_splitOn separator text
    by_cases hd : d = separator
    · subst hd
      rw [splitOn_self]
      rcases List.mem_cons.mp h with rfl | h
      · exact Or.inl rfl
      · exact (ih h).imp_right fun ⟨p, hp, hmem⟩ => ⟨p, List.mem_cons_of_mem _ hp, hmem⟩
    · rw [splitOn_cons hd hsplit]
      rcases List.mem_cons.mp h with rfl | h
      · exact Or.inr ⟨_, List.mem_cons_self .., List.mem_cons_self ..⟩
      · rw [hsplit] at ih
        rcases ih h with heq | ⟨p, hp, hmem⟩
        · exact Or.inl heq
        · rcases List.mem_cons.mp hp with rfl | hp
          · exact Or.inr ⟨_, List.mem_cons_self .., List.mem_cons_of_mem _ hmem⟩
          · exact Or.inr ⟨p, List.mem_cons_of_mem _ hp, hmem⟩

end Split

/-! ## Addresses -/

/-- Folding to lower case. -/
def lowerCase (c : UInt8) : UInt8 := if 0x41 ≤ c ∧ c ≤ 0x5a then c + 0x20 else c

theorem forall_octet {p : UInt8 → Prop} (h : ∀ n < 256, p (UInt8.ofNat n)) (c : UInt8) : p c := by
  have hc := h c.toNat c.toNat_lt
  rwa [UInt8.ofNat_toNat] at hc

/-- What folding does to the characters of a domain. -/
theorem lowerCase_facts (c : UInt8) : (lowerCase c = 0x2e ↔ c = 0x2e) ∧
    (lowerCase c = 0x2d ↔ c = 0x2d) ∧ lowerCase (lowerCase c) = lowerCase c ∧
    (isLetterOrDigit c = true → isLetterOrDigit (lowerCase c) = true) :=
  forall_octet (p := fun c => (lowerCase c = 0x2e ↔ c = 0x2e) ∧ (lowerCase c = 0x2d ↔ c = 0x2d) ∧
    lowerCase (lowerCase c) = lowerCase c ∧
    (isLetterOrDigit c = true → isLetterOrDigit (lowerCase c) = true)) (by decide +kernel) c

/-- The characters of an address need no escaping. -/
theorem localCharacter_plain {c : UInt8}
    (h : (decide (0x80 ≤ c) || isEmailAtomASCII c || c == 0x2e) = true) :
    quotePiece c = .plain c :=
  forall_octet (p := fun c => (decide (0x80 ≤ c) || isEmailAtomASCII c || c == 0x2e) = true →
    quotePiece c = .plain c) (by decide +kernel) c h

theorem domainCharacter_facts {c : UInt8}
    (h : c = 0x2e ∨ (isLetterOrDigit c || c == 0x2d) = true) :
    c < 0x80 ∧ c ≠ 0 ∧ c ≠ 0x40 ∧ quotePiece c = .plain c :=
  forall_octet (p := fun c => c = 0x2e ∨ (isLetterOrDigit c || c == 0x2d) = true →
    c < 0x80 ∧ c ≠ 0 ∧ c ≠ 0x40 ∧ quotePiece c = .plain c) (by decide +kernel) c h

theorem domain_characters {domain : Bytes} (h : validEmailDomain domain = true) :
    ∀ c ∈ domain, c < 0x80 ∧ c ≠ 0 ∧ c ≠ 0x40 ∧ quotePiece c = .plain c := by
  intro c hc
  rw [validEmailDomain, Bool.and_eq_true, List.all_eq_true] at h
  refine domainCharacter_facts ((mem_splitOn hc).imp_right fun ⟨label, hlabel, hmem⟩ => ?_)
  have hvalid := h.2 label hlabel
  rw [Bool.and_eq_true, List.all_eq_true] at hvalid
  exact hvalid.2 c hmem

/-- A domain stays valid when it is folded. -/
theorem validEmailDomain_lowerCase {domain : Bytes} (h : validEmailDomain domain = true) :
    validEmailDomain (domain.map lowerCase) = true := by
  have hdash (c : Option UInt8) (h : c ≠ some 0x2d) : c.map lowerCase ≠ some 0x2d := by
    rw [Ne, Option.map_eq_some_iff]
    rintro ⟨d, rfl, hd⟩
    exact h (congrArg some ((lowerCase_facts d).2.1.mp hd))
  rw [validEmailDomain, Bool.and_eq_true, List.all_eq_true] at h ⊢
  refine ⟨by simpa using h.1, ?_⟩
  rw [splitOn_map fun c => (lowerCase_facts c).1]
  intro folded hfolded
  obtain ⟨label, hlabel, rfl⟩ := List.mem_map.mp hfolded
  have hvalid := h.2 label hlabel
  simp only [Bool.and_eq_true, bne_iff_ne, List.all_eq_true] at hvalid ⊢
  obtain ⟨⟨⟨hlength, hfirst⟩, hlast⟩, hall⟩ := hvalid
  refine ⟨⟨⟨by simpa using hlength, ?_⟩, ?_⟩, ?_⟩
  · rw [List.head?_map]
    exact hdash _ hfirst
  · rw [List.getLast?_map]
    exact hdash _ hlast
  · intro folded hfolded
    obtain ⟨c, hc, rfl⟩ := List.mem_map.mp hfolded
    simp only [Bool.or_eq_true, beq_iff_eq] at hall ⊢
    exact (hall c hc).imp (lowerCase_facts c).2.2.2 (lowerCase_facts c).2.1.mpr

/-- What `CanonicalizeEmail` returns. -/
theorem canonicalizeEmail_eq_some {value recipient : Bytes} :
    canonicalizeEmail value = some recipient ↔
      (3 ≤ value.length ∧ value.length ≤ 254 ∧ Utf8.valid value = true ∧ 0 ∉ value) ∧
      ∃ text domain, splitOn 0x40 value = [text, domain] ∧ validEmailLocal text = true ∧
        validEmailDomain domain = true ∧ text ++ 0x40 :: domain.map lowerCase = recipient := by
  constructor
  · intro h
    obtain ⟨_, hguard, h⟩ := Option.bind_eq_some_iff.mp h
    refine ⟨(Option.guard_eq_some' _).mp hguard, ?_⟩
    split at h
    next text domain hsplit =>
      obtain ⟨_, hparts, h⟩ := Option.bind_eq_some_iff.mp h
      obtain ⟨htext, hdomain⟩ := (Option.guard_eq_some' _).mp hparts
      exact ⟨text, domain, hsplit, htext, hdomain, Option.some.inj h⟩
    next => cases h
  · rintro ⟨hbounds, text, domain, hsplit, htext, hdomain, rfl⟩
    refine guard_bind_eq_some hbounds ?_
    rw [hsplit]
    exact guard_bind_eq_some ⟨htext, hdomain⟩ rfl

/-- An accepted address is canonical, and JSON spells it as it is. -/
theorem canonicalizeEmail_facts {value recipient : Bytes}
    (h : canonicalizeEmail value = some recipient) :
    canonicalizeEmail recipient = some recipient ∧ Unescaped recipient ∧
      Utf8.valid recipient = true ∧ recipient.length ≤ 254 := by
  obtain ⟨⟨hmin, hmax, hutf8, hzero⟩, text, domain, hsplit, htext, hdomain, rfl⟩ :=
    canonicalizeEmail_eq_some.mp h
  obtain ⟨hat, ⟨hnil, -⟩ | ⟨rest, hvalue, hrest⟩⟩ := splitOn_inv hsplit
  · cases hnil
  obtain ⟨-, ⟨-, hdomainEq⟩ | ⟨_, -, hempty⟩⟩ := splitOn_inv hrest
  swap
  · obtain ⟨_, _, hsome⟩ := exists_splitOn 0x40 _
    cases hempty.symm.trans hsome
  subst hdomainEq hvalue
  have hfolded := validEmailDomain_lowerCase hdomain
  have hcharacters := domain_characters hfolded
  have hunescaped : Unescaped text := by
    simp only [validEmailLocal, Bool.and_eq_true] at htext
    exact fun c hc => localCharacter_plain (List.all_eq_true.mp htext.2 c hc)
  have hlength : (text ++ 0x40 :: rest.map lowerCase).length = (text ++ 0x40 :: rest).length := by
    simp
  have hrecipient : Utf8.valid (text ++ 0x40 :: rest.map lowerCase) = true := by
    have hat {domain : Bytes} (h : ∀ c ∈ domain, c < 0x80) : ∀ c ∈ 0x40 :: domain, c < 0x80 := by
      rintro c (_ | ⟨_, hc⟩)
      · decide
      · exact h c hc
    have hascii {owed} (ho : Utf8.Continuations owed) := Utf8.validFrom_ascii_congr
      (hat fun c hc => (domain_characters hdomain c hc).1) (hat fun c hc => (hcharacters c hc).1)
      (List.cons_ne_nil _ _) (List.cons_ne_nil _ _) (a := []) (b := []) rfl ho
    simp only [List.append_nil] at hascii
    exact (Utf8.validFrom_append_congr (fun _ ho => hascii ho) text
      Utf8.continuations_nil).symm.trans hutf8
  refine ⟨canonicalizeEmail_eq_some.mpr ⟨⟨hlength ▸ hmin, hlength ▸ hmax, hrecipient, ?_⟩,
    text, rest.map lowerCase, ?_, htext, hfolded, ?_⟩, ?_, hrecipient, hlength ▸ hmax⟩
  · rw [List.mem_append, List.mem_cons] at hzero ⊢
    rintro (hmem | hmem | hmem)
    · exact hzero (Or.inl hmem)
    · cases hmem
    · exact (hcharacters 0 hmem).2.1 rfl
  · rw [splitOn_append hat, splitOn_of_not_mem fun hmem => (hcharacters _ hmem).2.2.1 rfl]
  · rw [List.map_map]
    congr 2
    exact List.map_congr_left fun c _ => (lowerCase_facts c).2.2.1
  · intro c hc
    rcases List.mem_append.mp hc with hc | hc
    · exact hunescaped c hc
    rcases List.mem_cons.mp hc with rfl | hc
    · rfl
    · exact (hcharacters c hc).2.2.2

/-! ## The text of a delivery -/

/-- The members of a delivery. -/
def deliveryMembers (recipient rawToken : Bytes) (template : TemplateID) (locale : Bytes) :
    List (Bytes × Bytes) :=
  [(ascii "recipient", recipient), (ascii "token", Base64Url.encode rawToken),
    (ascii "template", template.text), (ascii "locale", locale)]

/-- A member whose name and text need no escaping. -/
theorem memberText_unescaped {name text : Bytes} (h : Unescaped name ∧ Unescaped text) :
    memberText (quote name, .str (quote text)) =
      0x22 :: (name ++ 0x22 :: 0x3a :: 0x22 :: (text ++ [0x22])) := by
  have hname : rawText (quote name) = name := h.1.spelled_eq
  have htext : rawText (quote text) = text := h.2.spelled_eq
  simp [memberText, stringText, hname, htext]

theorem validIdentityLocale_facts {locale : Bytes} (h : validIdentityLocale locale = true) :
    Unescaped locale ∧ Utf8.valid locale = true ∧ locale.length ≤ 7 := by
  have hall : ∀ locale ∈ [ascii "zh-Hans", ascii "en", ascii "ru", ascii "fa", ascii "ja"],
      Unescaped locale ∧ Utf8.valid locale = true ∧ locale.length ≤ 7 := by decide
  exact hall locale (List.contains_iff_mem.mp h)

theorem templateText_facts (template : TemplateID) : Unescaped template.text ∧
    Utf8.valid template.text = true ∧ template.text.length ≤ 14 := by
  cases template <;> decide

section Delivery

variable {value recipient locale : Bytes} {rawToken : Octets 32} {template : TemplateID}

/-- The members of a delivery to an accepted address. -/
theorem deliveryMembers_facts (hrecipient : canonicalizeEmail value = some recipient)
    (hlocale : validIdentityLocale locale = true) :
    Authority.Printable (deliveryMembers recipient rawToken.1 template locale) ∧
      ∀ m ∈ deliveryMembers recipient rawToken.1 template locale,
        Unescaped m.1 ∧ Unescaped m.2 := by
  obtain ⟨-, hplain, hvalid, -⟩ := canonicalizeEmail_facts hrecipient
  obtain ⟨hlocalePlain, hlocaleValid, -⟩ := validIdentityLocale_facts hlocale
  obtain ⟨htemplatePlain, htemplateValid, -⟩ := templateText_facts template
  refine ⟨⟨show pendingDeliveryNames.Nodup by decide, ?_⟩, ?_⟩
  · simp only [deliveryMembers, List.forall_mem_cons, List.not_mem_nil]
    exact ⟨⟨by decide, hvalid⟩, ⟨by decide, Utf8.valid_of_ascii (Base64Url.encode_ascii _)⟩,
      ⟨by decide, htemplateValid⟩, ⟨by decide, hlocaleValid⟩, fun _ h => h.elim⟩
  · simp only [deliveryMembers, List.forall_mem_cons, List.not_mem_nil]
    exact ⟨⟨by decide, hplain⟩, ⟨by decide, unescaped_base64 _⟩, ⟨by decide, htemplatePlain⟩,
      ⟨by decide, hlocalePlain⟩, fun _ h => h.elim⟩

/-- The text is the one an encoder would have written. -/
theorem pendingDeliveryJSON_eq (hrecipient : canonicalizeEmail value = some recipient)
    (hlocale : validIdentityLocale locale = true) :
    pendingDeliveryJSON recipient rawToken.1 template locale =
      encode (Authority.stringObject (deliveryMembers recipient rawToken.1 template locale)) := by
  have hmembers : ∀ m ∈ deliveryMembers recipient rawToken.1 template locale,
      Unescaped m.1 ∧ Unescaped m.2 := (deliveryMembers_facts hrecipient hlocale).2
  simp only [deliveryMembers, List.forall_mem_cons] at hmembers
  obtain ⟨hfirst, hsecond, hthird, hfourth, -⟩ := hmembers
  simp only [encode, Authority.stringObject, deliveryMembers, List.map_cons, List.map_nil,
    Tree.map_obj, Tree.map_str, print_obj, memberText_unescaped hfirst,
    memberText_unescaped hsecond, memberText_unescaped hthird, memberText_unescaped hfourth,
    commaSeparated, pendingDeliveryJSON, List.append_assoc, List.cons_append]
  rfl

theorem pendingDeliveryJSON_length (hrecipient : canonicalizeEmail value = some recipient)
    (hlocale : validIdentityLocale locale = true) :
    1 ≤ (pendingDeliveryJSON recipient rawToken.1 template locale).length ∧
      (pendingDeliveryJSON recipient rawToken.1 template locale).length ≤ 400 := by
  obtain ⟨-, -, -, hlength⟩ := canonicalizeEmail_facts hrecipient
  obtain ⟨-, -, hlocaleLength⟩ := validIdentityLocale_facts hlocale
  obtain ⟨-, -, htemplateLength⟩ := templateText_facts template
  have hparts : (ascii "\x7b\"recipient\":\"").length = 14 ∧ (ascii "\",\"token\":\"").length = 11 ∧
      (ascii "\",\"template\":\"").length = 14 ∧ (ascii "\",\"locale\":\"").length = 12 ∧
      (ascii "\"\x7d").length = 2 := by decide
  simp only [pendingDeliveryJSON, List.length_append, Base64Url.encode_length, rawToken.2, hparts]
  omega

/-- Every delivery to an accepted address is the JSON object with its four members and no others,
is decoded to what it was put together from, and is stored and opened again within the bounds. -/
theorem deliveries_read_back (hrecipient : canonicalizeEmail value = some recipient)
    (hlocale : validIdentityLocale locale = true) (rawToken : Octets 32) (template : TemplateID)
    (deliveryID : UUID) :
    let text := pendingDeliveryJSON recipient rawToken.1 template locale
    let delivery : Delivery := ⟨deliveryID, template, locale, recipient, rawToken⟩
    Json.parse text = some ((Authority.stringObject
        (deliveryMembers recipient rawToken.1 template locale)).map quote) ∧
      decodePendingDelivery text deliveryID template locale = some delivery ∧
      ∀ protector : Local, protector.aead.Documented → ∀ nonce, ∃ field,
        protectDelivery protector nonce recipient rawToken template locale = some field ∧
        field.ciphertext.length ≤ maximumPendingDeliveryBytes ∧
        openDelivery protector field deliveryID template locale = some delivery := by
  intro text delivery
  have hlength : 1 ≤ text.length ∧ text.length ≤ 400 :=
    pendingDeliveryJSON_length hrecipient hlocale
  have htext : text = encode (Authority.stringObject _) :=
    pendingDeliveryJSON_eq hrecipient hlocale
  have hprintable : Authority.Printable (deliveryMembers recipient rawToken.1 template locale) :=
    (deliveryMembers_facts hrecipient hlocale).1
  have hnames : ∀ m ∈ deliveryMembers recipient rawToken.1 template locale,
      m.1 ∈ pendingDeliveryNames := fun m hm => List.mem_map_of_mem (f := Prod.fst) hm
  have hmaximum : text.length ≤ maximumPendingDeliveryBytes := hlength.2.trans (by decide)
  obtain ⟨hparse, record, hdecode, hrecord⟩ := Authority.strictDecode_stringObject hprintable hnames
    (show 0 < maximumPendingDeliveryBytes ∧ _ by decide) (htext ▸ hmaximum)
  rw [← htext] at hparse hdecode
  have hdelivery : decodePendingDelivery text deliveryID template locale = some delivery := by
    simp only [deliveryMembers, List.forall_mem_cons] at hrecord
    obtain ⟨hfirst, hsecond, hthird, hfourth, -⟩ := hrecord
    refine bind_eq_some hdecode (guard_bind_eq_some ⟨hthird, hfourth⟩ ?_)
    rw [hfirst, hsecond]
    refine bind_eq_some (canonicalizeEmail_facts hrecipient).1 (guard_bind_eq_some rfl ?_)
    refine bind_eq_some ?_ rfl
    simp [decodeOpaqueToken, Base64Url.decodeCanonical_eq_some_iff.mpr rfl, rawToken.2]
  refine ⟨hparse, hdelivery, fun protector hprotector nonce => ?_⟩
  have hdomain : validDomain template.domain = true := by cases template <;> decide
  obtain ⟨field, hencrypt, hversion, hciphertext, hdecrypt⟩ := Local.exists_encrypt hprotector nonce
    hdomain ⟨hlength.1, hlength.2.trans (by decide : 400 ≤ maximumProtectedBytes)⟩
  have hfield : 29 ≤ field.ciphertext.length ∧
      field.ciphertext.length ≤ maximumPendingDeliveryBytes := by
    rw [hciphertext, maximumPendingDeliveryBytes]
    omega
  refine ⟨field, ?_, hfield.2, ?_⟩
  · refine guard_bind_eq_some ⟨hlength.1, hmaximum⟩ (bind_eq_some hencrypt ?_)
    exact guard_bind_eq_some (decide_eq_true ⟨hversion.1, hversion.2, hfield⟩) rfl
  · refine guard_bind_eq_some ⟨hversion.1, hfield⟩ (bind_eq_some hdecrypt ?_)
    exact guard_bind_eq_some ⟨hlength.1, hmaximum⟩ hdelivery

end Delivery

/-- A seal that only appends a tag, with which a delivery runs. -/
def plainAead : Aead where
  sealWith _ plaintext _ := plaintext ++ List.replicate 16 0
  openWith _ sealed _ := some (sealed.take (sealed.length - 16))

theorem plainAead_documented : plainAead.Documented where
  open_seal _ plaintext _ := by simp [plainAead]
  seal_length _ plaintext _ := by simp [plainAead]

/-- The protector with that seal. -/
def plainLocal : Local := ⟨plainAead, 1, by decide⟩

theorem bracedAddress_readBack :
    canonicalizeEmail (ascii "\x7ba,b\x7d@C.d") = none ∧
    canonicalizeEmail (ascii "\x7ba\x7d@C.d") = some (ascii "\x7ba\x7d@c.d") ∧
    ∃ field, protectDelivery plainLocal (Octets.replicate 12 1) (ascii "\x7ba\x7d@c.d")
        (Octets.replicate 32 2) .verifyEmail (ascii "en") = some field ∧
      openDelivery plainLocal field (Octets.replicate 16 3) .verifyEmail (ascii "en") =
        some ⟨Octets.replicate 16 3, .verifyEmail, ascii "en", ascii "\x7ba\x7d@c.d",
          Octets.replicate 32 2⟩ := by
  have haddress : canonicalizeEmail (ascii "\x7ba\x7d@C.d") = some (ascii "\x7ba\x7d@c.d") := by
    decide +kernel
  have hlocale : validIdentityLocale (ascii "en") = true := by decide
  obtain ⟨-, -, hread⟩ := deliveries_read_back haddress hlocale (Octets.replicate 32 2)
    .verifyEmail (Octets.replicate 16 3)
  obtain ⟨field, hprotect, -, hopen⟩ := hread plainLocal plainAead_documented (Octets.replicate 12 1)
  exact ⟨by decide +kernel, haddress, field, hprotect, hopen⟩

end Talenro.Identity
