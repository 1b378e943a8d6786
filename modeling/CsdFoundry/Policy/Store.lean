import Mathlib.Data.List.AList
import CsdFoundry.Policy.Publication
import CsdFoundry.Storage.Program

/-! The filesystem publisher of the policy ledger: the store directory, its lock, the sweep of
orphaned temporary files, and the write that replaces the ledger. -/
namespace CsdFoundry.Policy.Store
open Storage

/-- A Python text by its code points. A file name may hold any of them but `/` and NUL. -/
abbrev Name := List Nat

def text (value : String) : Name := value.toList.map Char.toNat

def ledgerName : Name := text "ledger.json"

def lockName : Name := text "publication.lock"

def tempPrefix : Name := text ".policy-ledger."

def tempSuffix : Name := text ".tmp"

/-- `[0-9a-f]`. -/
def isHex (c : Nat) : Bool := (48 ≤ c && c ≤ 57) || (97 ≤ c && c ≤ 102)

/-- `uuid.uuid4().hex`. -/
structure Uuid where
  hex : List Nat
  length : hex.length = 32
  digits : hex.all isHex = true

/-- `_new_temp_path`. -/
def newTempPath (uuid : Uuid) : Name := tempPrefix ++ uuid.hex ++ tempSuffix

/-- The body of the pattern, between `^` and `$`. -/
def managed (name : Name) : Bool :=
  let middle := (name.drop tempPrefix.length).take 32
  middle.length == 32 && middle.all isHex && name == tempPrefix ++ middle ++ tempSuffix

/-- `_TEMP_NAME_PATTERN.match`: `$` matches at the end of the text, and before a newline there. -/
def tempNameMatches (name : Name) : Bool :=
  managed name || (name.getLast? == some 10 && managed name.dropLast)

/-- What a name of the directory stands for. The last kind is a FIFO, a socket or a device. -/
inductive Node where
  | regular (bytes : List UInt8)
  | directory
  | symlink
  | other
  deriving DecidableEq

abbrev Directory := AList (fun _ : Name => Node)

/-- The path of the store: nothing, something that is no directory, or a directory. -/
inductive Root where
  | missing
  | notDirectory
  | directory (entries : Directory)

namespace Root

def lookup : Root → Name → Option Node
  | .directory entries, name => entries.lookup name
  | _, _ => none

/-- A change of the entries. -/
def change (f : Directory → Directory) : Root → Root
  | .directory entries => .directory (f entries)
  | root => root

def put (root : Root) (name : Name) (node : Node) : Root := root.change (·.insert name node)

def unlink (root : Root) (name : Name) : Root := root.change (·.erase name)

def names : Root → List Name
  | .directory entries => entries.keys
  | _ => []

end Root

/-- What the operating system says of symbolic links, which it follows, and of special files: whether
a link leads to something, and the bytes that a read gives. -/
structure Links where
  leads : Root → Name → Bool
  contents : Root → Name → Option (List UInt8)

/-- An exception: of the store, of the contracts, of another class with its `code` attribute, or
one that is no `Exception`. -/
inductive Raised where
  | store (code : String) (detail : Option Name)
  | policy (error : PolicyError)
  | other (code : Option String)
  | exit
  deriving DecidableEq

/-- `PolicyStoreError(code)`. -/
abbrev failure (code : String) : Raised := .store code none

/-- `getattr(exc, "code", None)`. -/
def Raised.code : Raised → Option String
  | .store code _ => some code
  | .policy (.governance code) | .policy (.execution code) | .policy (.activation code)
  | .policy (.denied code _) | .policy (.conflict code) | .policy (.assumption code) => some code
  | .policy (.uncaught _) => none
  | .other code => code
  | .exit => none

inductive Checkpoint where
  | beforeTempCreate
  | afterPartialTempWrite
  | afterTempFlush
  | beforeReplace
  | afterReplace
  | beforeDirectoryFsync
  | beforePostWriteRead
  | duringPostWriteRead
  deriving DecidableEq

/-- `_fault_hook`: what it raises at each checkpoint. -/
abbrev FaultHook := Checkpoint → Option Raised

variable {D : Type} [Sha256 D] [DigestText D] [DecidableEq D]

/-- The bytes of a ledger: `canonical_bytes` and `parse_ledger_v3`. -/
structure Codec (D : Type) [Sha256 D] [DigestText D] [DecidableEq D] where
  canonicalBytes : AssumptionPolicyLedgerV3 D → List UInt8
  parseLedgerV3 : List UInt8 → Except Raised (AssumptionPolicyLedgerV3 D)

/-- A program over the directory. -/
abbrev Op := Prog Root Raised

/-- `except Exception as exc`: what is no `Exception` passes by. -/
def exceptException (body : Op α) (handler : Raised → Op α) : Op α :=
  tryCatch body fun
    | .exit => throw .exit
    | raised => handler raised

def checkpoint (hook : FaultHook) (name : Checkpoint) : Op Unit :=
  .done (match hook name with
    | some raised => .error raised
    | none => .ok ())

/-! ### The root and the lock -/

/-- `Path.exists`, which follows links. -/
def pathExists (links : Links) (name : Name) (root : Root) : Bool :=
  match root.lookup name with
  | none => false
  | some .symlink => links.leads root name
  | some _ => true

def validateRoot : Op Unit :=
  .read (.other none) fun
    | .notDirectory => .error (failure "ASSUMPTION_POLICY_STORE_ROOT_NOT_DIRECTORY")
    | _ => .ok ()

def requireExistingRoot : Op Unit :=
  .read (.other none) fun
    | .missing => .error (failure "ASSUMPTION_POLICY_STORE_ROOT_MISSING")
    | .notDirectory => .error (failure "ASSUMPTION_POLICY_STORE_ROOT_NOT_DIRECTORY")
    | .directory _ => .ok ()

/-- `mkdir(parents=True, exist_ok=True)`. -/
def mkdir (fault : Raised) : Op Unit :=
  .atomically fault
    (fun
      | .missing => .directory ∅
      | root => root)
    fun
      | .notDirectory => .error fault
      | _ => .ok ()

/-- `fsync_directory`, which changes no entry. -/
def fsyncDirectory (fault : Raised) : Op Unit := .write fault id

/-- A regular file, or nothing. -/
def absentOrRegular : Option Node → Bool
  | none | some (.regular _) => true
  | some _ => false

/-- `os.open(lock_path, O_RDWR | O_CREAT | O_APPEND | O_NOFOLLOW)` and `fstat`, which take no link,
directory or special file for a lock. -/
def openLock : Op Unit :=
  .atomically (failure "ASSUMPTION_POLICY_STORE_LOCK_INVALID")
    (fun root => if root.lookup lockName = none then root.put lockName (.regular []) else root)
    fun root =>
      if absentOrRegular (root.lookup lockName) then .ok ()
      else .error (failure "ASSUMPTION_POLICY_STORE_LOCK_INVALID")

/-- `_finish_lock_file_open`: an empty lock file gets its one byte. -/
def seedLock : Op Unit :=
  .write (failure "ASSUMPTION_POLICY_STORE_LOCK_FAILED") fun root =>
    if root.lookup lockName = some (.regular []) then root.put lockName (.regular [0]) else root

def openLockFileStrict : Op Unit := do
  mkdir (failure "ASSUMPTION_POLICY_STORE_LOCK_FAILED")
  openLock
  seedLock

/-- `_locked`. -/
def locked (body : Op α) : Op α := do
  openLockFileStrict
  fsyncDirectory (failure "ASSUMPTION_POLICY_STORE_LOCK_FAILED")
  Prog.locked body

def ensureRoot : Op Unit := do
  mkdir (failure "ASSUMPTION_POLICY_STORE_ROOT_CREATE_FAILED")
  fsyncDirectory (failure "ASSUMPTION_POLICY_STORE_ROOT_CREATE_FAILED")

/-! ### The sweep -/

def cleanupFailed (detail : Name) : Raised :=
  .store "ASSUMPTION_POLICY_STORE_TEMP_CLEANUP_FAILED" (some detail)

/-- `Path.unlink`, of a name that is there and is no directory. -/
def unlink (name : Name) (missingOk : Bool) (fault : Raised) : Op Unit :=
  .atomically fault
    (fun root => if root.lookup name = some .directory then root else root.unlink name)
    fun root =>
      match root.lookup name with
      | some .directory => .error fault
      | none => if missingOk then .ok () else .error fault
      | some _ => .ok ()

/-- The loop over the candidates; the result says whether one was removed. -/
def sweep : List Name → Bool → Op Bool
  | [], removedAny => pure removedAny
  | name :: rest, removedAny =>
      if tempNameMatches name then do
        let isSymlink ← Prog.read (cleanupFailed name) fun root =>
          .ok (decide (root.lookup name = some .symlink))
        if isSymlink then sweep rest removedAny
        else do
          let isDir ← Prog.read (cleanupFailed name) fun root =>
            .ok (decide (root.lookup name = some .directory))
          if isDir then sweep rest removedAny
          else do
            unlink name false (cleanupFailed name)
            sweep rest true
      else sweep rest removedAny

def cleanupOrphans : Op Unit := do
  let candidates ← Prog.read (cleanupFailed (text "<root>")) fun root => .ok root.names
  let removedAny ← sweep candidates false
  if removedAny then fsyncDirectory (failure "ASSUMPTION_POLICY_STORE_DURABILITY_FAILED")

/-! ### The ledger file -/

/-- `read_bytes`, which follows links. -/
def readBytes (links : Links) (name : Name) (fault : Raised) : Op (List UInt8) :=
  .read fault fun root =>
    match root.lookup name with
    | some (.regular bytes) => .ok bytes
    | some .symlink | some .other =>
        match links.contents root name with
        | some bytes => .ok bytes
        | none => .error fault
    | some .directory | none => .error fault

def readLedgerBytes (links : Links) : Op (List UInt8) := do
  let found ← Prog.read (.other none) fun root => .ok (pathExists links ledgerName root)
  Prog.require (found = true) (failure "ASSUMPTION_POLICY_STORED_BYTES_MISSING")
  readBytes links ledgerName (failure "ASSUMPTION_POLICY_STORED_BYTES_INVALID")

def reconstruct (codec : Codec D) (links : Links) : Op (AssumptionPolicyLedgerV3 D) := do
  let payload ← readLedgerBytes links
  .done (codec.parseLedgerV3 payload)

/-- `_cleanup_own_temp`. -/
def cleanupOwnTemp (temp : Name) : Op Unit :=
  unlink temp true (failure "ASSUMPTION_POLICY_STORE_TEMP_CLEANUP_FAILED")

/-- The shapes that `_write_and_fsync_temp` refuses to write on. -/
def refuseShape (links : Links) (temp : Name) : Op Unit :=
  .read (.other none) fun root =>
    if pathExists links temp root = true ∧
        (root.lookup temp = some .directory ∨ root.lookup temp = some .symlink) then
      .error (failure "ASSUMPTION_POLICY_PUBLICATION_WRITE_FAILED")
    else .ok ()

/-- The directory with these bytes in a file that `open(temp, "wb")` makes or takes over. -/
def Root.write (root : Root) (temp : Name) (bytes : List UInt8) : Root :=
  if absentOrRegular (root.lookup temp) then root.put temp (.regular bytes) else root

/-- A write to the open temporary file. -/
def writeTemp (temp : Name) (bytes : List UInt8) : Op Unit :=
  .atomically (.other none) (·.write temp bytes) fun root =>
    if root.lookup temp = some .directory then .error (.other none) else .ok ()

/-- `open(temp, "wb")` makes the file, then come the two halves of the payload. -/
def writeAndFsyncTemp (links : Links) (hook : FaultHook) (temp : Name) (payload : List UInt8) :
    Op Name :=
  exceptException
    (do
      checkpoint hook .beforeTempCreate
      refuseShape links temp
      writeTemp temp []
      let midpoint := max 1 (payload.length / 2)
      writeTemp temp (payload.take midpoint)
      checkpoint hook .afterPartialTempWrite
      writeTemp temp payload
      fsyncDirectory (.other none)
      checkpoint hook .afterTempFlush
      return temp)
    fun _ => do
      cleanupOwnTemp temp
      throw (failure "ASSUMPTION_POLICY_PUBLICATION_WRITE_FAILED")

/-- The directory in which the file is the ledger. A directory is not replaced. -/
def Root.replace (root : Root) (temp : Name) : Root :=
  match root.lookup temp with
  | none => root
  | some node =>
      if root.lookup ledgerName = some .directory then root
      else (root.unlink temp).put ledgerName node

/-- `os.replace(temp, self.ledger_path)`. -/
def osReplace (temp : Name) : Op Unit :=
  .atomically (.other none) (·.replace temp) fun root =>
    if root.lookup temp = none ∨ root.lookup ledgerName = some .directory then .error (.other none)
    else .ok ()

/-- The replacement of the ledger by the temporary file, up to the commit point. -/
def replaceLedger (hook : FaultHook) (temp : Name) : Op Unit :=
  exceptException
    (do
      checkpoint hook .beforeReplace
      osReplace temp)
    fun _ => do
      cleanupOwnTemp temp
      throw (failure "ASSUMPTION_POLICY_STORE_REPLACE_FAILED")

def outcomeUncertain (detail : Option Name) : Raised :=
  .store "ASSUMPTION_POLICY_PUBLICATION_OUTCOME_UNCERTAIN" detail

def readAuthoritativeAfterCommit (links : Links) (hook : FaultHook) : Op (List UInt8) := do
  checkpoint hook .beforePostWriteRead
  exceptException
    (do
      checkpoint hook .duringPostWriteRead
      readBytes links ledgerName (.other none))
    fun _ => throw (outcomeUncertain none)

def verificationFailed : Raised := outcomeUncertain (some (text "STORED_VERIFICATION_FAILED"))

/-- `_verify_create_post_write`. -/
def verifyCreatePostWrite (intendedBytes storedBytes : List UInt8) : Op Unit :=
  .require (storedBytes = intendedBytes) verificationFailed

/-- `_verify_post_write`. -/
def verifyPostWrite (codec : Codec D) (oldLedger updated verified : AssumptionPolicyLedgerV3 D)
    (intendedBytes : List UInt8) (result : AssumptionPolicyActivationResult D) : Op Unit := do
  Prog.require (codec.canonicalBytes verified = intendedBytes) verificationFailed
  Prog.require (codec.canonicalBytes verified = codec.canonicalBytes updated) verificationFailed
  Prog.require (verified.entries = updated.entries) verificationFailed
  Prog.require (verified.ledgerRootDigest = updated.ledgerRootDigest) verificationFailed
  Prog.require (verified.ledgerRootDigest = result.resultingLedgerRoot) verificationFailed
  Prog.require (updated.ledgerRootDigest = result.resultingLedgerRoot) verificationFailed
  match updated.entries.getLast?, verified.entries.getLast? with
  | some head, some verifiedHead =>
      Prog.require (verifiedHead.ledgerEntryDigest = head.ledgerEntryDigest) verificationFailed
      Prog.require (head.ledgerEntryDigest = result.ledgerEntryDigest) verificationFailed
      Prog.require (result.predecessorLedgerRoot = oldLedger.ledgerRootDigest) verificationFailed
      Prog.require (result.policyCommitReceiptDigest = head.commitReceiptDigest) verificationFailed
      Prog.require (head.signingPayload.predecessorCommitReceiptDigest =
        verifiedHead.signingPayload.predecessorCommitReceiptDigest) verificationFailed
  | some _, none => throw (.other none)
  -- The digest that the result claims is never the empty text.
  | none, _ => throw verificationFailed

/-- What follows the commit point in `create`. -/
def afterCreate (links : Links) (hook : FaultHook) (intendedBytes : List UInt8) : Op Unit :=
  exceptException
    (do
      checkpoint hook .afterReplace
      checkpoint hook .beforeDirectoryFsync
      fsyncDirectory (.other none)
      let storedBytes ← readAuthoritativeAfterCommit links hook
      verifyCreatePostWrite intendedBytes storedBytes)
    fun
      | .store code detail =>
          if code = "ASSUMPTION_POLICY_PUBLICATION_OUTCOME_UNCERTAIN" then
            throw (.store code detail)
          else throw (outcomeUncertain (some (text code)))
      | _ => throw (outcomeUncertain none)

/-- What follows the commit point in `_commit`. -/
def afterCommit (codec : Codec D) (links : Links) (hook : FaultHook)
    (oldLedger updated : AssumptionPolicyLedgerV3 D)
    (result : AssumptionPolicyActivationResult D) : Op Unit :=
  exceptException
    (do
      checkpoint hook .afterReplace
      checkpoint hook .beforeDirectoryFsync
      fsyncDirectory (.other none)
      let storedBytes ← readAuthoritativeAfterCommit links hook
      let verified ← Prog.done (codec.parseLedgerV3 storedBytes)
      verifyPostWrite codec oldLedger updated verified (codec.canonicalBytes updated) result)
    fun
      | .store code detail =>
          if code = "ASSUMPTION_POLICY_PUBLICATION_OUTCOME_UNCERTAIN" then
            throw (.store code detail)
          else throw (outcomeUncertain (some (text code)))
      | raised => throw (outcomeUncertain (raised.code.map text))

/-- `_commit`, of a ledger that has the candidate now. -/
def commit (codec : Codec D) (links : Links) (hook : FaultHook) (uuid : Uuid)
    (oldLedger updated : AssumptionPolicyLedgerV3 D)
    (result : AssumptionPolicyActivationResult D) : Op Unit :=
  if result.appendResult = .committed then do
    let temp ← writeAndFsyncTemp links hook (newTempPath uuid) (codec.canonicalBytes updated)
    replaceLedger hook temp
    afterCommit codec links hook oldLedger updated result
  else pure ()

/-! ### The calls -/

/-- `create` leaves a ledger that is there alone, a corrupt one included. -/
def refuseInitialized (codec : Codec D) (links : Links) : Op Unit := do
  let initialized ← Prog.read (.other none) fun root => .ok (pathExists links ledgerName root)
  if initialized then do
    let _ ← reconstruct codec links
    throw (failure "ASSUMPTION_POLICY_STORE_ALREADY_INITIALIZED")
  else pure ()

def create (codec : Codec D) (links : Links) (hook : FaultHook) (uuid : Uuid) : Op Unit := do
  validateRoot
  locked do
    ensureRoot
    cleanupOrphans
    refuseInitialized codec links
    let intendedBytes := codec.canonicalBytes .empty
    let temp ← writeAndFsyncTemp links hook (newTempPath uuid) intendedBytes
    replaceLedger hook temp
    afterCreate links hook intendedBytes

def openStore (codec : Codec D) (links : Links) : Op Unit := do
  requireExistingRoot
  locked do
    cleanupOrphans
    let _ ← reconstruct codec links
    return ()

def publish (codec : Codec D) (links : Links) (hook : FaultHook) (uuid : Uuid)
    (candidate : AssumptionPolicyLedgerEntryV3 D)
    (expectedState : ExpectedPolicyLedgerStateV3 D) : Op (AssumptionPolicyActivationResult D) := do
  requireExistingRoot
  locked do
    cleanupOrphans
    let ledger ← reconstruct codec links
    let (updated, result) ← Prog.done
      ((compareAndAppendPolicyEntryV3 ledger expectedState candidate).mapError .policy)
    commit codec links hook uuid ledger updated result
    return result

/-- The calls that a process may make of a directory. `uuid4` gives a name that nothing in it
has. -/
inductive Calls (codec : Codec D) (links : Links) (root : Root) : Op Unit → Prop where
  | create (hook : FaultHook) (uuid : Uuid) (unused : root.lookup (newTempPath uuid) = none) :
      Calls codec links root (create codec links hook uuid)
  | openStore : Calls codec links root (openStore codec links)
  | publish (hook : FaultHook) (uuid : Uuid) (unused : root.lookup (newTempPath uuid) = none)
      (candidate : AssumptionPolicyLedgerEntryV3 D)
      (expectedState : ExpectedPolicyLedgerStateV3 D) :
      Calls codec links root (publish codec links hook uuid candidate expectedState).discard

end CsdFoundry.Policy.Store
