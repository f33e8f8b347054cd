import Talenro.Lib.Directory
import Talenro.Model.TrustClient.Verify

/-!
# The client's stores

`DirectoryStore` keeps, for every state key, a directory of immutable files: one
`stage-…` file for each version that was staged, and an `active-…` link to it once
the version was activated.  `MemoryStore` keeps the latest staged and the active
version of each key in memory.

The programs of the directory store perform one file-system operation at a time;
the mutex of the source is left out, so that what is proved holds for processes
that do not share it.

Sources named without a directory are in `internal/trustclient`.
-/

set_option autoImplicit false

namespace Talenro.TrustClient

open Lib

/-! ## Names and frames

SOURCE: store.go:23-32, types.go:18-22 -/

def maximumStoredPayloadBytes : ℕ := 64 * 1024
def maximumStateEntries : ℕ := 4096
def maximumStateKeyBytes : ℕ := 256
def stateKeyDomain : Bytes := ascii "TALENRO-CLIENT-STATE-KEY-V1\x00"
def stagePrefix : Bytes := ascii "stage-"
def activePrefix : Bytes := ascii "active-"
def stateSuffix : Bytes := ascii ".bin"
def temporaryPrefix : Bytes := ascii ".stage-"
def storeMagic : Bytes := ascii "TLSTG001"
def storeHeaderBytes : ℕ := 8 + 8 + 4 + 32

/-- SOURCE: store.go:483-485 -/
def validStateKey (key : Bytes) : Bool :=
  decide (0 < key.length ∧ key.length ≤ maximumStateKeyBytes) && Utf8.valid key

/-- The directory of a key, below the root of the store.

SOURCE: store.go:238-243 -/
def stateDirectory (key : Bytes) : Bytes := Hex.encode (Sha256.sha256 (stateKeyDomain ++ key))

/-- SOURCE: store.go:385-387 -/
def stageFilename (version : ℕ) : Bytes :=
  stagePrefix ++ Calendar.padded 20 version ++ stateSuffix

/-- SOURCE: store.go:389-391 -/
def activeFilename (version : ℕ) : Bytes :=
  activePrefix ++ Calendar.padded 20 version ++ stateSuffix

/-- SOURCE: store.go:393-402 -/
def encodeStoreFrame (version : ℕ) (body : Bytes) : Bytes :=
  storeMagic ++ bigEndian 8 version ++ bigEndian 4 body.length ++ Sha256.sha256 body ++ body

/-- SOURCE: store.go:404-420 -/
def decodeStoreFrame (frame : Bytes) : Option (ℕ × Bytes) := do
  guard (storeHeaderBytes ≤ frame.length ∧ frame.take 8 = storeMagic)
  let version := ofBigEndian ((frame.drop 8).take 8)
  let length := ofBigEndian ((frame.drop 16).take 4)
  guard (version ≠ 0 ∧ 2 ≤ length ∧ length ≤ maximumStoredPayloadBytes ∧
    length = frame.length - storeHeaderBytes)
  let body := frame.drop storeHeaderBytes
  guard ((frame.drop 20).take 32 = Sha256.sha256 body)
  pure (version, body)

/-! ## The directory store -/

/-- What the directory store asks of its surroundings. -/
inductive StoreOp where
  | contextError
  | syncRoot
  | directory (name : Bytes) (o : DirectoryOp)

/-- The type of the answer to an operation. -/
@[reducible] def StoreRes : StoreOp → Type
  | .contextError => Bool
  | .syncRoot => Bool
  | .directory _ o => o.Answer

/-- A program of the directory store. -/
abbrev StoreM (α : Type) : Type := ExceptT Error (Prog StoreOp StoreRes) α

namespace DirectoryStore

variable (directory : Bytes)

/-- One operation on the directory `directory`. -/
def onDirectory (o : DirectoryOp) : StoreM o.Answer :=
  Prog.perform (StoreOp.directory directory o)

/-- Stops unless the arguments are valid and the context is live.

SOURCE: store.go:59-61, 72-75, 147-149, 207-209, 487-495 -/
def checkArguments (valid : Bool) : StoreM Unit := do
  let canceled ← Prog.perform .contextError
  Prog.ofExcept (require (canceled = false) .store)
  Prog.ofExcept (require (valid = true) .invalidArgument)

/-- The part of `readStoreFrame` behind the opening of the file.

SOURCE: store.go:438-449 -/
def readOpenedFile : StoreM Bytes := do
  let information ← onDirectory directory .fileStatus
  let maximum := storeHeaderBytes + maximumStoredPayloadBytes
  let admissible := match information with
    | some ⟨regular, size⟩ => regular && decide (storeHeaderBytes ≤ size ∧ size ≤ maximum)
    | none => false
  if admissible then
    let frame ← onDirectory directory (.readFile (maximum + 1))
    let _ ← onDirectory directory .closeFile
    let frame ← Prog.ofExcept (orThrow frame .store)
    Prog.ofExcept (require (frame.length ≤ maximum) .store)
    pure frame
  else
    let _ ← onDirectory directory .closeFile
    throw .store

/-- SOURCE: store.go:433-450 -/
def readStoreFrame (directory name : Bytes) : StoreM Bytes := do
  let found ← onDirectory directory (.openFile name)
  Prog.ofExcept (require (found = true) .store)
  readOpenedFile directory

/-- `readBoundedDirectory`, with no entries to report when the directory does not
exist.

SOURCE: store.go:452-466 -/
def readBoundedDirectory : StoreM (Option (List Entry)) := do
  let presence ← onDirectory directory .openListing
  match presence with
  | .missing => pure none
  | .failed => throw .store
  | .found =>
    let entries ← onDirectory directory (.readEntries (maximumStateEntries + 1))
    let _ ← onDirectory directory .closeListing
    let entries ← Prog.ofExcept (orThrow entries .store)
    Prog.ofExcept (require (entries.length ≤ maximumStateEntries) .store)
    pure (some entries)

/-- `strings.TrimSuffix`. -/
def trimSuffix (text suffix : Bytes) : Bytes :=
  if suffix.isSuffixOf text then text.take (text.length - suffix.length) else text

/-- The version in the name of an entry, or `none` when the entry is skipped.

SOURCE: store.go:362-377 -/
def entryVersion (head : Bytes) (entry : Entry) : Except Error (Option ℕ) :=
  if entry.directory ∨ ¬(head.isPrefixOf entry.name ∧ stateSuffix.isSuffixOf entry.name) then
    .ok none
  else
    let number := trimSuffix (entry.name.drop head.length) stateSuffix
    if number.length = 20 ∧ number.all Decimal.isDigit ∧ Decimal.value number < 2 ^ 64 ∧
        Decimal.value number ≠ 0 then
      .ok (some (Decimal.value number))
    else .error .store

/-- The loop over the entries.

SOURCE: store.go:361-381 -/
def highestVersion (head : Bytes) : ℕ → List Entry → Except Error ℕ
  | highest, [] => .ok highest
  | highest, entry :: rest => do
    match ← entryVersion head entry with
    | none => highestVersion head highest rest
    | some version => highestVersion head (if highest < version then version else highest) rest

/-- SOURCE: store.go:353-383 -/
def loadHighestVersion (directory head : Bytes) : StoreM ℕ := do
  match ← readBoundedDirectory directory with
  | none => pure 0
  | some entries => Prog.ofExcept (highestVersion head 0 entries)

/-- Reads a frame and checks that it carries the version of its name.

SOURCE: store.go:339-350, 161-174 -/
def readVersion (directory name : Bytes) (version : ℕ) : StoreM Unit := do
  let frame ← Prog.mapError (fun _ => .store) (readStoreFrame directory name)
  let decoded ← Prog.ofExcept (orThrow (decodeStoreFrame frame) .store)
  Prog.ofExcept (require (decoded.1 = version) .store)

/-- SOURCE: store.go:334-351 -/
def loadHighestDirectory : StoreM ℕ := do
  let highest ← loadHighestVersion directory stagePrefix
  if highest = 0 then pure 0
  else
    readVersion directory (stageFilename highest) highest
    pure highest

/-- SOURCE: store.go:58-65 -/
def loadHighest (key : Bytes) : StoreM ℕ := do
  checkArguments (validStateKey key)
  loadHighestDirectory (stateDirectory key)

/-- The loop of `writeAll`; every round writes at least one octet, so there are at
most as many as there are octets.

SOURCE: store.go:422-431 -/
def writeAll (directory : Bytes) : ℕ → Bytes → StoreM Unit
  | _, [] => pure ()
  | 0, _ :: _ => throw .store
  | rounds + 1, body => do
    let written ← onDirectory directory (.write body)
    match written with
    | none => throw .store
    | some n =>
      if n = 0 ∨ body.length < n then throw .store
      else writeAll directory rounds (body.drop n)

/-- Writes the temporary file, links it under the name of the version and removes
the temporary name.

SOURCE: store.go:106-127 -/
def linkTemporary (directory temporaryName frame target : Bytes) : StoreM Unit := do
  let moded ← onDirectory directory .changeMode
  Prog.ofExcept (require (moded = true) .store)
  writeAll directory frame.length frame
  let synced ← onDirectory directory .syncFile
  Prog.ofExcept (require (synced = true) .store)
  let closed ← onDirectory directory .closeTemporary
  Prog.ofExcept (require (closed = true) .store)
  let canceled ← Prog.perform .contextError
  Prog.ofExcept (require (canceled = false) .store)
  match ← onDirectory directory (.status target) with
  | .found => throw .rollback
  | .failed => throw .store
  | .missing =>
    let linked ← onDirectory directory (.link temporaryName target)
    if linked then
      let removed ← onDirectory directory (.remove temporaryName)
      Prog.ofExcept (require (removed = true) .store)
    else
      let presence ← onDirectory directory (.status target)
      throw (if presence = .found then .rollback else .store)

/-- Syncs the directory and checks that the version is still the highest.

SOURCE: store.go:129-139, 190-202 -/
def confirm (version : ℕ) : StoreM Unit := do
  let synced ← onDirectory directory .syncDirectory
  Prog.ofExcept (require (synced = true) .store)
  let committed ← loadHighestDirectory directory
  Prog.ofExcept (require (committed ≤ version) .rollback)
  Prog.ofExcept (require (committed = version) .store)

/-- The part of `StageAndAdvance` behind the argument checks.

SOURCE: store.go:76-140 -/
def stageDirectory (version : ℕ) (body : Bytes) : StoreM Unit := do
  let made ← onDirectory directory .makeDirectory
  Prog.ofExcept (require (made = true) .store)
  let synced ← Prog.perform .syncRoot
  Prog.ofExcept (require (synced = true) .store)
  let highest ← loadHighestDirectory directory
  Prog.ofExcept (require (highest < version) .rollback)
  let created ← onDirectory directory (.createTemporary temporaryPrefix)
  let temporaryName ← Prog.ofExcept (orThrow created .store)
  let linked ← ExceptT.lift (linkTemporary directory temporaryName
    (encodeStoreFrame version body) (stageFilename version)).run
  match linked with
  | .ok () =>
    let confirmed ← ExceptT.lift (confirm directory version).run
    let _ ← onDirectory directory .closeTemporary
    Prog.ofExcept confirmed
  | .error e =>
    let _ ← onDirectory directory .closeTemporary
    let _ ← onDirectory directory (.remove temporaryName)
    throw e

/-- SOURCE: store.go:69-140 -/
def stageAndAdvance (key : Bytes) (version : ℕ) (body : Bytes) : StoreM Unit := do
  checkArguments (validStateKey key && decide (version ≠ 0 ∧ 2 ≤ body.length ∧
    body.length ≤ maximumStoredPayloadBytes))
  stageDirectory (stateDirectory key) version body

/-- The part of `Activate` behind the argument checks.

SOURCE: store.go:152-203 -/
def activateDirectory (version : ℕ) : StoreM Unit := do
  let highest ← loadHighestDirectory directory
  Prog.ofExcept (require (version = highest) .rollback)
  readVersion directory (stageFilename version) version
  let canceled ← Prog.perform .contextError
  Prog.ofExcept (require (canceled = false) .store)
  let linked ← onDirectory directory (.link (stageFilename version) (activeFilename version))
  if linked then confirm directory version
  else
    let presence ← onDirectory directory (.status (activeFilename version))
    Prog.ofExcept (require (presence = .found) .store)
    readVersion directory (activeFilename version) version
    confirm directory version

/-- SOURCE: store.go:146-203 -/
def activate (key : Bytes) (version : ℕ) : StoreM Unit := do
  checkArguments (validStateKey key && decide (version ≠ 0))
  activateDirectory (stateDirectory key) version

/-- SOURCE: store.go:206-236 -/
def loadActive (key : Bytes) : StoreM (ℕ × Bytes) := do
  checkArguments (validStateKey key)
  let directory := stateDirectory key
  let highest ← loadHighestDirectory directory
  let active ← loadHighestVersion directory activePrefix
  Prog.ofExcept (require (active ≠ 0 ∧ active = highest) .stateNotFound)
  let frame ← Prog.mapError (fun _ => .store) (readStoreFrame directory (activeFilename active))
  Prog.ofExcept (orThrow (decodeStoreFrame frame) .store)

end DirectoryStore

/-- The directory store as a client uses it. -/
def directoryStore : Store StoreOp StoreRes where
  loadHighest := DirectoryStore.loadHighest
  stageAndAdvance := DirectoryStore.stageAndAdvance
  activate := DirectoryStore.activate

/-- The state directories below the root of the store. -/
abbrev Disk (Pid : Type) : Type := Bytes → Directory Pid

/-- The disk after its root was synced. -/
def Disk.syncRoot {Pid : Type} (disk : Disk Pid) : Disk Pid :=
  fun name => { disk name with rooted := (disk name).present }

/-- One operation of the process `pid`; without `faults` the context is live and no
operation fails. -/
def Disk.exec {Pid : Type} [DecidableEq Pid] (faults : Bool) (pid : Pid) :
    (o : StoreOp) → Disk Pid → StoreRes o → Disk Pid → Prop
  | .contextError, s, r, t => (r = true → faults = true) ∧ t = s
  | .syncRoot, s, r, t => (r = false ∧ faults = true ∧ t = s) ∨ (r = true ∧ t = s.syncRoot)
  | .directory name o, s, r, t => ∃ c d, (c.healthy = true ∨ faults = true) ∧
      (s name).perform pid o c = some (r, d) ∧ t = Function.update s name d

/-! ## The memory store -/

/-- SOURCE: store.go:261-264 -/
structure MemoryEntry where
  version : ℕ
  body : Bytes
deriving DecidableEq

/-- The two maps of the store; a key that is not in a map reads as the zero entry.

SOURCE: store.go:268-272 -/
structure Memory where
  staged : Bytes → MemoryEntry
  active : Bytes → MemoryEntry

/-- SOURCE: store.go:275-277 -/
def Memory.empty : Memory := ⟨fun _ => ⟨0, []⟩, fun _ => ⟨0, []⟩⟩

/-- What the memory store asks of its surroundings; the mutex makes each use of the
maps one operation. -/
inductive MemoryOp where
  | contextError
  | loadStaged (key : Bytes)
  | stage (key : Bytes) (entry : MemoryEntry)
  | activate (key : Bytes) (version : ℕ)

@[reducible] def MemoryRes : MemoryOp → Type
  | .contextError => Bool
  | .loadStaged _ => ℕ
  | .stage _ _ => Bool
  | .activate _ _ => Bool

/-- The use of the maps under the mutex; `false` refuses a rollback.

SOURCE: store.go:285-287, 295-300, 308-315 -/
def Memory.exec : (o : MemoryOp) → Memory → MemoryRes o → Memory → Prop
  | .contextError, s, _, t => t = s
  | .loadStaged key, s, r, t => r = (s.staged key).version ∧ t = s
  | .stage key entry, s, r, t =>
    if entry.version ≤ (s.staged key).version then r = false ∧ t = s
    else r = true ∧ t = { s with staged := Function.update s.staged key entry }
  | .activate key version, s, r, t =>
    if version = (s.staged key).version then
      r = true ∧ t = { s with active := Function.update s.active key (s.staged key) }
    else r = false ∧ t = s

namespace MemoryStore

def checkArguments (valid : Bool) : ExceptT Error (Prog MemoryOp MemoryRes) Unit := do
  let canceled ← Prog.perform .contextError
  Prog.ofExcept (require (canceled = false) .store)
  Prog.ofExcept (require (valid = true) .invalidArgument)

/-- SOURCE: store.go:280-287 -/
def loadHighest (key : Bytes) : ExceptT Error (Prog MemoryOp MemoryRes) ℕ := do
  checkArguments (validStateKey key)
  Prog.perform (MemoryOp.loadStaged key)

/-- SOURCE: store.go:291-301 -/
def stageAndAdvance (key : Bytes) (version : ℕ) (body : Bytes) :
    ExceptT Error (Prog MemoryOp MemoryRes) Unit := do
  checkArguments (validStateKey key && decide (version ≠ 0 ∧ 2 ≤ body.length ∧
    body.length ≤ maximumStoredPayloadBytes))
  let staged ← Prog.perform (.stage key ⟨version, body⟩)
  Prog.ofExcept (require (staged = true) .rollback)

/-- SOURCE: store.go:304-316 -/
def activate (key : Bytes) (version : ℕ) : ExceptT Error (Prog MemoryOp MemoryRes) Unit := do
  checkArguments (validStateKey key && decide (version ≠ 0))
  let activated ← Prog.perform (.activate key version)
  Prog.ofExcept (require (activated = true) .rollback)

end MemoryStore

/-- The memory store as a client uses it. -/
def memoryStore : Store MemoryOp MemoryRes where
  loadHighest := MemoryStore.loadHighest
  stageAndAdvance := MemoryStore.stageAndAdvance
  activate := MemoryStore.activate

end Talenro.TrustClient
