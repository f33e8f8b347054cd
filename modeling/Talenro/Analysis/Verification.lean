import Talenro.Analysis.StoreRuns

/-!
# What an accepted envelope proves to the client

`Request.verify` is the chain of checks before the store.  `authenticated_of_verify`
turns its success into the facts a client relies on; the rest of the file composes
them with what the stores do.
-/

set_option autoImplicit false

namespace Talenro.Analysis

open Lib Lib.Json Lib.Calendar Lib.Prog TrustClient

/-! ## The metadata -/

/-- The document is the payload of the client's metadata, signed by one of the
roots the client was provisioned with, and newer than the client's floor. -/
structure RootSigned (P : Platform) (metadata : TrustMetadata) (document : RootMetadataWire) :
    Prop where
  signed : ∃ keys names envelope rootKey signature,
    decodeStrictObject metadata.signed maximumMetadataBytes SignedMetadataWire.fields .zero
      (memberNames SignedMetadataWire.fields) = some (keys, envelope) ∧
    decodeStrictObject envelope.payloadJCS maximumMetadataBytes RootMetadataWire.fields .zero
      (memberNames RootMetadataWire.fields) = some (names, document) ∧
    (document.rootKeyID, rootKey) ∈ metadata.trustedRoots ∧
    decodeExactBase64URL envelope.signature 64 = some signature ∧
    P.ed25519Verify rootKey (metadataSignatureDomain ++ envelope.payloadJCS) signature = true
  newer : ∃ version, parsePositiveUint document.version = some version ∧
    metadata.highestTrusted < version

theorem mem_of_lookup {β : Type} {l : List (Bytes × β)} {a : Bytes} {b : β}
    (h : l.lookup a = some b) : (a, b) ∈ l := by
  obtain ⟨l₁, l₂, rfl, -⟩ := List.lookup_eq_some_iff.mp h
  simp

/-- What the check of the metadata establishes, and the key it returns. -/
theorem verifyTrustMetadata_eq_ok {P : Platform} {metadata : TrustMetadata} {signerKeyID : Bytes}
    {now : Instant} {document : RootMetadataWire} {publicKey : Bytes}
    (h : verifyTrustMetadata P metadata signerKeyID now = .ok (document, publicKey)) :
    RootSigned P metadata document ∧
      ∃ key, (document.signingKeys.find? fun key => key.keyID = signerKeyID) = some key ∧
        (key.state = ascii "active" ∨ key.state = ascii "retiring") ∧
        decodeExactBase64URL key.publicKey 32 = some publicKey := by
  simp only [verifyTrustMetadata, bind_eq_ok, orThrow_eq_ok, require_eq_ok, pure_eq_ok,
    Prod.exists] at h
  obtain ⟨keys, envelope, henvelope, -, -, names, payload, hpayload, -, -, version, hversion,
    rootKey, hroot, -, -, signature, hsignature, -, hverify, -, hfloor, key, hfind, decoded,
    hdecoded, -, ⟨-, -, hstate⟩, heq⟩ := h
  obtain ⟨rfl, rfl⟩ := Prod.mk.inj heq
  refine ⟨⟨⟨keys, names, envelope, rootKey, signature, henvelope, hpayload, mem_of_lookup hroot,
    hsignature, hverify⟩, version, ?_, hfloor⟩, key, hfind, hstate, hdecoded⟩
  simp only [validateMetadataPayload, Option.bind_eq_bind, Option.bind_eq_some_iff] at hversion
  obtain ⟨parsed, hparsed, validFrom, -, validUntil, -, -, -, -, -, hsome⟩ := hversion
  rw [hparsed, ← hsome]
  rfl

/-! ## The bundle -/

/-- The bundle with this version and canonical payload is authentic for the request:
a usable key of root-signed metadata signed it for an interval that key covers, and
it is addressed to the device and the locator the client expects. -/
structure Authenticated {P : Platform} (request : Request P) (version : ℕ) (body : Bytes)
    (signed : SignedBundleWire) (payload : PayloadWire) (document : RootMetadataWire)
    (key : SigningKeyMetadataWire) : Prop where
  metadata : RootSigned P request.metadata document
  member : key ∈ document.signingKeys
  signer : key.keyID = signed.signerKeyID
  usable : key.state = ascii "active" ∨ key.state = ascii "retiring"
  signature : ∃ publicKey signature, decodeExactBase64URL key.publicKey 32 = some publicKey ∧
    decodeExactBase64URL signed.signature 64 = some signature ∧
    P.ed25519Verify publicKey (bundleSignatureDomain ++ body) signature = true
  decoded : ∃ names, decodeStrictObject body maximumPlaintextBytes PayloadWire.fields .zero
    (memberNames PayloadWire.fields) = some (names, payload)
  covered : ∃ notBefore expiresAt keyNotBefore keyNotAfter,
    parseProtocolTime payload.notBefore = some notBefore ∧
    parseProtocolTime payload.expiresAt = some expiresAt ∧
    parseProtocolTime key.notBefore = some keyNotBefore ∧
    parseProtocolTime key.notAfter = some keyNotAfter ∧
    keyNotBefore ≤ notBefore ∧ expiresAt ≤ keyNotAfter
  audience : payload.audience = request.expected.audience
  locator : decodeExactBase64URL payload.bundleLocator 32 = some request.expected.locator.1
  version : parsePositiveUint payload.bundleVersion = some version

/-- What the check of a payload establishes. -/
theorem validatePayload_eq_some {P : Platform} {payload : PayloadWire} {expected : Expected}
    {now : Instant} {skew : ℤ} {version : ℕ} {notBefore expiresAt : Instant}
    (h : validatePayload P payload expected now skew = some (version, notBefore, expiresAt)) :
    parsePositiveUint payload.bundleVersion = some version ∧
      parseProtocolTime payload.notBefore = some notBefore ∧
      parseProtocolTime payload.expiresAt = some expiresAt ∧
      payload.audience = expected.audience ∧
      decodeExactBase64URL payload.bundleLocator 32 = some expected.locator.1 := by
  simp only [validatePayload, Option.bind_eq_bind, Option.bind_eq_some_iff, Option.guard_eq_some',
    Prod.exists] at h
  obtain ⟨v, hv, issuedAt, -, nb, hnb, ex, hex, locator, hlocator, names, config, -, -,
    ⟨-, -, -, haudience, hsame⟩, -, -, -, -, hsome⟩ := h
  obtain ⟨rfl, hrest⟩ := Prod.mk.inj (Option.some.inj hsome)
  obtain ⟨rfl, rfl⟩ := Prod.mk.inj hrest
  exact ⟨hv, hnb, hex, haudience, hsame ▸ hlocator⟩

/-- The interval of the key that authorizes a bundle. -/
theorem metadataKeyAuthorizes_eq_true {document : RootMetadataWire} {keyID : Bytes}
    {notBefore expiresAt : Instant} {key : SigningKeyMetadataWire}
    (h : metadataKeyAuthorizes document keyID notBefore expiresAt = true)
    (hfind : (document.signingKeys.find? fun key => key.keyID = keyID) = some key)
    (hstate : key.state = ascii "active" ∨ key.state = ascii "retiring") :
    ∃ keyNotBefore keyNotAfter, parseProtocolTime key.notBefore = some keyNotBefore ∧
      parseProtocolTime key.notAfter = some keyNotAfter ∧ keyNotBefore ≤ notBefore ∧
      expiresAt ≤ keyNotAfter := by
  unfold metadataKeyAuthorizes at h
  rw [find_usable hfind hstate] at h
  dsimp only at h
  split at h
  · next keyNotBefore keyNotAfter hbefore hafter =>
    simp only [Bool.and_eq_true, decide_eq_true_eq] at h
    exact ⟨keyNotBefore, keyNotAfter, hbefore, hafter, h.1, h.2⟩
  · cases h

theorem authenticated_of_verify {P : Platform} {request : Request P} {version : ℕ} {body : Bytes}
    (h : request.verify = .ok (version, body)) :
    ∃ signed payload document key, Authenticated request version body signed payload document key := by
  rw [Request.verify, bind_eq_ok] at h
  obtain ⟨signedBytes, -, h⟩ := h
  simp only [verifySigned, bind_eq_ok, orThrow_eq_ok, require_eq_ok, pure_eq_ok, Prod.exists] at h
  obtain ⟨keys, signed, -, -, -, -, -, names, payload, hpayload, -, -, -, -, document, publicKey,
    hmetadata, signature, hsignature, -, hverify, v, notBefore, expiresAt, hchecked, -, hauthorizes,
    heq⟩ := h
  obtain ⟨rfl, rfl⟩ := Prod.mk.inj heq
  obtain ⟨hroot, key, hfind, hstate, hkey⟩ := verifyTrustMetadata_eq_ok hmetadata
  obtain ⟨hversion, hbefore, hexpires, haudience, hlocator⟩ := validatePayload_eq_some hchecked
  obtain ⟨keyNotBefore, keyNotAfter, hkb, hka, hle, hge⟩ :=
    metadataKeyAuthorizes_eq_true hauthorizes hfind hstate
  refine ⟨signed, payload, document, key, ?_⟩
  exact
    { metadata := hroot
      member := List.mem_of_find?_eq_some hfind
      signer := by simpa using List.find?_some hfind
      usable := hstate
      signature := ⟨publicKey, signature, hkey, hsignature, hverify⟩
      decoded := ⟨names, hpayload⟩
      covered := ⟨notBefore, expiresAt, keyNotBefore, keyNotAfter, hbefore, hexpires, hkb, hka, hle, hge⟩
      audience := haudience
      locator := hlocator
      version := hversion }

/-! ## The whole call, over any store -/

section Call

variable {Op : Type} {Res : Op → Type} {σ : Type} {exec : (o : Op) → σ → Res o → σ → Prop}

/-- What a call has done when it ends: it failed before it consulted the store, or
its checks passed and the store was asked for its highest version; a higher or equal
one ends the call, and only then is the version staged and activated. -/
inductive CallRun {P : Platform} (exec : (o : Op) → σ → Res o → σ → Prop) (store : Store Op Res)
    (request : Request P) (s : σ) : Except Error VerifiedBundle → σ → Prop where
  | refused (e : Error) : CallRun exec store request s (.error e) s
  | unloaded {version body t} (e e' : Error) (hverify : request.verify = .ok (version, body))
      (hload : Runs exec (store.loadHighest request.expected.audience).run s (.error e') t) :
      CallRun exec store request s (.error e) t
  | stale {version body highest t} (e : Error) (hverify : request.verify = .ok (version, body))
      (hload : Runs exec (store.loadHighest request.expected.audience).run s (.ok highest) t)
      (hstale : version ≤ highest) : CallRun exec store request s (.error e) t
  | staging {version body highest u t} (e : Error) (hvalid : request.valid)
      (hverify : request.verify = .ok (version, body))
      (hload : Runs exec (store.loadHighest request.expected.audience).run s (.ok highest) u)
      (hnewer : highest < version) : CallRun exec store request s (.error e) t
  | done {version body highest u v t} (hverify : request.verify = .ok (version, body))
      (hload : Runs exec (store.loadHighest request.expected.audience).run s (.ok highest) u)
      (hnewer : highest < version)
      (hstage : Runs exec (store.stageAndAdvance request.expected.audience version body).run u
        (.ok ()) v)
      (hactivate : Runs exec (store.activate request.expected.audience version).run v (.ok ()) t) :
      CallRun exec store request s
        (.ok ⟨version, body, Sha256.sha256 request.envelopeBytes⟩) t

theorem verifyAndStage_run {P : Platform} {cancelled : Prog Op Res Bool} {store : Store Op Res}
    {request : Request P} {s t : σ} {r : Except Error VerifiedBundle}
    (hcancelled : ∀ b u v, Runs exec cancelled u b v → v = u)
    (h : Runs exec (verifyAndStage cancelled store request).run s r t) :
    CallRun exec store request s r t := by
  unfold verifyAndStage at h
  rcases runs_run_bind.mp h with ⟨_, u, hlength, h1⟩ | ⟨e, rfl, -, rfl⟩
  swap
  · exact .refused e
  obtain ⟨-, rfl⟩ := hlength
  rcases runs_run_bind.mp h1 with ⟨canceled, u, hrun, h2⟩ | ⟨e, -, hrun⟩
  swap
  · obtain ⟨b, hb, -⟩ := runs_run_lift.mp hrun
    cases hb
  obtain ⟨b, -, hrun⟩ := runs_run_lift.mp hrun
  obtain rfl := hcancelled _ _ _ hrun
  rcases runs_run_bind.mp h2 with ⟨_, v, hvalid, h3⟩ | ⟨e, rfl, -, rfl⟩
  swap
  · exact .refused e
  obtain ⟨hvalid, rfl⟩ := hvalid
  obtain ⟨-, hvalid⟩ := require_eq_ok.mp hvalid.symm
  rcases runs_run_bind.mp h3 with ⟨⟨version, body⟩, v, ⟨hverify, rfl⟩, h4⟩ | ⟨e, rfl, -, rfl⟩
  swap
  · exact .refused e
  rcases runs_run_bind.mp h4 with ⟨highest, v, hload, h5⟩ | ⟨e, rfl, hload⟩
  swap
  · obtain ⟨loaded, hloaded, hload⟩ := runs_run_mapError.mp hload
    cases loaded with
    | ok highest => cases hloaded
    | error e' => exact .unloaded e e' hverify.symm hload
  rw [runs_run_mapError_ok] at hload
  rcases runs_run_bind.mp h5 with ⟨_, w, ⟨hnewer, rfl⟩, h6⟩ | ⟨e, rfl, hnewer, rfl⟩
  swap
  · exact .stale e hverify.symm hload (Nat.le_of_not_lt (require_eq_error.mp hnewer.symm).1)
  have hnewer := require_eq_ok.mp hnewer.symm
  rcases runs_run_bind.mp h6 with ⟨_, w, hstage, h7⟩ | ⟨e, rfl, -⟩
  swap
  · exact .staging e hvalid hverify.symm hload hnewer
  rcases runs_run_bind.mp h7 with ⟨_, x, hactivate, rfl, rfl⟩ | ⟨e, rfl, -⟩
  swap
  · exact .staging e hvalid hverify.symm hload hnewer
  exact .done hverify.symm hload hnewer (runs_run_mapError_ok.mp hstage)
    (runs_run_mapError_ok.mp hactivate)

end Call

/-! ## The directory store -/

section DirectoryStore

variable {Pid : Type} [DecidableEq Pid]

/-- The version is staged in the directory: a file of its name is listed. -/
structure Visible (d : Directory Pid) (version : ℕ) : Prop where
  present : d.present = true
  isVersion : IsVersion version
  listed : ⟨stageFilename version, false⟩ ∈ d.contents

omit [DecidableEq Pid] in
theorem HighestLoaded.le {faults : Bool} {d : Directory Pid} {highest version : ℕ}
    (h : HighestLoaded faults d (.ok highest)) (hv : Visible d version) : version ≤ highest := by
  rcases h.1 with ⟨habsent, -⟩ | ⟨-, shown, hlisted, -, hhighest⟩
  · rw [hv.present] at habsent
    cases habsent
  · have hshown := hlisted.1 _ hv.listed
    exact (highestVersion_eq_ok hhighest).2.1 _ hshown version (entryVersion_name _ hv.isVersion)

omit [DecidableEq Pid] in
theorem Staged.readable {d d' : Directory Pid} {version : ℕ} {body : Bytes}
    (h : Staged d d' version body) (hbody : IsBody body) :
    Readable d' (stageFilename version) (encodeStoreFrame version body) := by
  refine ⟨d.fresh, ?_, ?_, ?_, ?_⟩
  · rw [Directory.lookup, h.entries, Directory.lookup_cons_eq, if_pos rfl]
  · rw [h.files, Function.update_self]
  · rw [h.files, Function.update_self]
  · have := hbody.2
    rw [encodeStoreFrame_length]
    omega

omit [DecidableEq Pid] in
/-- Activating a version leaves its file as it is, and the marker is another name of it
unless there was one before. -/
theorem Activated.readable {d d' : Directory Pid} {version : ℕ} {frame : Bytes}
    (h : Activated d d' version) (hframe : Readable d (stageFilename version) frame) :
    Readable d' (stageFilename version) frame ∧
      (d.lookup (activeFilename version) = none → Readable d' (activeFilename version) frame) := by
  obtain ⟨i, hi, hkind, hdata, hsize⟩ := hframe
  rcases h.entries with ⟨j, hj, -, hentries⟩ | ⟨hthere, hentries⟩
  · obtain rfl := Option.some.inj (hi.symm.trans hj)
    have hstage : d'.lookup (stageFilename version) = some i := by
      rw [Directory.lookup, hentries, Directory.lookup_cons_eq,
        if_neg (stageFilename_ne_activeFilename _ _)]
      exact hi
    have hactive : d'.lookup (activeFilename version) = some i := by
      rw [Directory.lookup, hentries, Directory.lookup_cons_eq, if_pos rfl]
    exact ⟨⟨i, hstage, h.files ▸ hkind, h.files ▸ hdata, hsize⟩,
      fun _ => ⟨i, hactive, h.files ▸ hkind, h.files ▸ hdata, hsize⟩⟩
  · refine ⟨⟨i, ?_, h.files ▸ hkind, h.files ▸ hdata, hsize⟩, fun hnone => absurd hnone hthere⟩
    rw [Directory.lookup, hentries]
    exact hi

/-- What a call over the directory store leaves behind.  A failed call has opened and
closed files and nothing else, unless it had passed every check and was staging. -/
def DirectoryAfter {P : Platform} (request : Request P) (s : Disk Pid) :
    Except Error VerifiedBundle → Disk Pid → Prop
  | .ok bundle, t =>
    (∃ signed payload document key,
      Authenticated request bundle.version bundle.payloadJCS signed payload document key) ∧
    (∀ version, Visible (s (stateDirectory request.expected.audience)) version →
      version < bundle.version) ∧
    Readable (t (stateDirectory request.expected.audience)) (stageFilename bundle.version)
      (encodeStoreFrame bundle.version bundle.payloadJCS) ∧
    ((s (stateDirectory request.expected.audience)).lookup (activeFilename bundle.version) = none →
      Readable (t (stateDirectory request.expected.audience)) (activeFilename bundle.version)
        (encodeStoreFrame bundle.version bundle.payloadJCS))
  | .error _, t => Handles s (stateDirectory request.expected.audience) t ∨
    ∃ version body highest, request.valid ∧ request.verify = .ok (version, body) ∧
      HighestLoaded true (s (stateDirectory request.expected.audience)) (.ok highest) ∧
      highest < version

theorem directoryAfter_of_callRun {P : Platform} {request : Request P} {pid : Pid} {s t : Disk Pid}
    {r : Except Error VerifiedBundle} (h : CallRun (Disk.exec true pid) directoryStore request s r t) :
    DirectoryAfter request s r t := by
  cases h with
  | refused e => exact Or.inl (handles_refl s)
  | unloaded e e' hverify hload | stale e hverify hload hstale =>
    exact Or.inl ((wp_loadHighest s _).runs hload).1
  | staging e hvalid hverify hload hnewer =>
    exact Or.inr ⟨_, _, _, hvalid, hverify, ((wp_loadHighest s _).runs hload).2, hnewer⟩
  | @done version body highest u v t hverify hload hnewer hstage hactivate =>
    obtain ⟨hhandles, hhighest⟩ := (wp_loadHighest s _).runs hload
    obtain ⟨-, hbody, -, hfree, hstaged, -⟩ := (wp_stageAndAdvance u _ _ _).runs hstage
    obtain ⟨-, hactivated, -⟩ := (wp_activate v _ _).runs hactivate
    obtain ⟨hstage, hactive⟩ := hactivated.readable (hstaged.readable hbody)
    refine ⟨authenticated_of_verify hverify, fun w hw => ?_, hstage, fun hnone => hactive ?_⟩
    · exact lt_of_le_of_lt (hhighest.le hw) hnewer
    · obtain ⟨listing, opened, hat⟩ := hhandles.at
      rw [Directory.lookup, hstaged.entries, Directory.lookup_cons_eq,
        if_neg (stageFilename_ne_activeFilename _ _).symm]
      rw [hat]
      exact hnone

end DirectoryStore

/-! ## The memory store -/

theorem runs_checkArguments {valid : Bool} {s t : Memory} {r : Except Error Unit}
    (h : Runs Memory.exec (MemoryStore.checkArguments valid).run s r t) : t = s := by
  unfold MemoryStore.checkArguments at h
  rcases runs_run_bind.mp h with ⟨canceled, u, hcontext, h1⟩ | ⟨e, -, hcontext⟩
  swap
  · obtain ⟨b, hb, -⟩ := runs_run_perform.mp hcontext
    cases hb
  obtain ⟨b, -, hu⟩ := runs_run_perform.mp hcontext
  obtain rfl : u = s := hu
  rcases runs_run_bind.mp h1 with ⟨_, v, ⟨-, rfl⟩, -, rfl⟩ | ⟨e, -, -, rfl⟩
  · rfl
  · rfl

theorem runs_memory_loadHighest {key : Bytes} {s t : Memory} {r : Except Error ℕ}
    (h : Runs Memory.exec (MemoryStore.loadHighest key).run s r t) :
    t = s ∧ ∀ highest, r = .ok highest → highest = (s.staged key).version := by
  unfold MemoryStore.loadHighest at h
  rcases runs_run_bind.mp h with ⟨_, u, hchecked, h1⟩ | ⟨e, rfl, hchecked⟩
  · obtain rfl := runs_checkArguments hchecked
    obtain ⟨highest, rfl, hhighest, rfl⟩ := runs_run_perform.mp h1
    refine ⟨rfl, fun loaded heq => ?_⟩
    rw [← Except.ok.inj heq]
    exact hhighest
  · exact ⟨runs_checkArguments hchecked, fun _ heq => (nomatch heq)⟩

theorem runs_memory_stageAndAdvance {key body : Bytes} {version : ℕ} {s t : Memory}
    (h : Runs Memory.exec (MemoryStore.stageAndAdvance key version body).run s (.ok ()) t) :
    t = { s with staged := Function.update s.staged key ⟨version, body⟩ } := by
  unfold MemoryStore.stageAndAdvance at h
  obtain ⟨_, u, hchecked, hrest⟩ := runs_run_bind_ok.mp h
  obtain rfl := runs_checkArguments hchecked
  simp only [runs_run_perform_bind_ok, runs_run_ofExcept, Memory.exec] at hrest
  obtain ⟨staged, v, hstaged, hok, rfl⟩ := hrest
  have hok := require_eq_ok.mp hok.symm
  split at hstaged
  · obtain ⟨rfl, -⟩ := hstaged
    cases hok
  · exact hstaged.2

theorem runs_memory_activate {key : Bytes} {version : ℕ} {s t : Memory}
    (h : Runs Memory.exec (MemoryStore.activate key version).run s (.ok ()) t) :
    t = { s with active := Function.update s.active key (s.staged key) } := by
  unfold MemoryStore.activate at h
  obtain ⟨_, u, hchecked, hrest⟩ := runs_run_bind_ok.mp h
  obtain rfl := runs_checkArguments hchecked
  simp only [runs_run_perform_bind_ok, runs_run_ofExcept, Memory.exec] at hrest
  obtain ⟨activated, v, hactivated, hok, rfl⟩ := hrest
  have hok := require_eq_ok.mp hok.symm
  split at hactivated
  · exact hactivated.2
  · obtain ⟨rfl, -⟩ := hactivated
    cases hok

/-- What a call over the memory store leaves behind. -/
def MemoryAfter {P : Platform} (request : Request P) (s : Memory) :
    Except Error VerifiedBundle → Memory → Prop
  | .ok bundle, t =>
    (∃ signed payload document key,
      Authenticated request bundle.version bundle.payloadJCS signed payload document key) ∧
    (s.staged request.expected.audience).version < bundle.version ∧
    t.staged request.expected.audience = ⟨bundle.version, bundle.payloadJCS⟩ ∧
    t.active request.expected.audience = ⟨bundle.version, bundle.payloadJCS⟩
  | .error _, t => t = s ∨ ∃ version body, request.valid ∧ request.verify = .ok (version, body) ∧
      (s.staged request.expected.audience).version < version

theorem memoryAfter_of_callRun {P : Platform} {request : Request P} {s t : Memory}
    {r : Except Error VerifiedBundle} (h : CallRun Memory.exec memoryStore request s r t) :
    MemoryAfter request s r t := by
  cases h with
  | refused e => exact Or.inl rfl
  | unloaded e e' hverify hload | stale e hverify hload hstale =>
    exact Or.inl (runs_memory_loadHighest hload).1
  | staging e hvalid hverify hload hnewer =>
    obtain ⟨-, hhighest⟩ := runs_memory_loadHighest hload
    exact Or.inr ⟨_, _, hvalid, hverify, hhighest _ rfl ▸ hnewer⟩
  | done hverify hload hnewer hstage hactivate =>
    obtain ⟨rfl, hhighest⟩ := runs_memory_loadHighest hload
    obtain rfl := runs_memory_stageAndAdvance hstage
    obtain rfl := runs_memory_activate hactivate
    refine ⟨authenticated_of_verify hverify, hhighest _ rfl ▸ hnewer, ?_, ?_⟩
    · exact Function.update_self ..
    · simp only [Function.update_self]

/-! ## Both stores -/

theorem disk_exec_total {Pid : Type} [DecidableEq Pid] (pid : Pid) (o : StoreOp) (s : Disk Pid) :
    ∃ r t, Disk.exec true pid o s r t := by
  cases o with
  | contextError => exact ⟨false, s, fun h => (nomatch h), rfl⟩
  | syncRoot => exact ⟨true, s.syncRoot, Or.inr ⟨rfl, rfl⟩⟩
  | directory name o =>
    refine ⟨o.failure, _, .fail, s name, Or.inr rfl, ?_, rfl⟩
    cases o <;> rfl

theorem memory_exec_total (o : MemoryOp) (s : Memory) : ∃ r t, Memory.exec o s r t := by
  cases o with
  | contextError => exact ⟨false, s, rfl⟩
  | loadStaged key => exact ⟨_, s, rfl, rfl⟩
  | stage key entry =>
    simp only [Memory.exec]
    split
    · exact ⟨false, s, rfl, rfl⟩
    · exact ⟨true, _, rfl, rfl⟩
  | activate key version =>
    simp only [Memory.exec]
    split
    · exact ⟨true, _, rfl, rfl⟩
    · exact ⟨false, s, rfl, rfl⟩

end Talenro.Analysis
