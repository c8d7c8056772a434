import Ork3.Model.ProjectCatalog

/-!
# Background scans

The scanner of `projects/adapters.rs` with its cache, and the worker of `projects/service.rs` that
writes what a scan found and then commits its completion. What the file system shows at the time of
a scan is a `RootView`; reading the transcripts themselves is left to it.
-/

namespace Ork3.Projects

open Ork3.Library

/-! ### The scanner -/

inductive AdapterRootOrigin
  | default | explicit
  deriving DecidableEq, Repr

structure AdapterRoot where
  adapter : String
  rootKey : String
  origin : AdapterRootOrigin
  preflight : Option ScanCompletion

structure AdapterScan where
  adapter : String
  rootKey : String
  candidates : List SessionCandidate
  seenSourceKeys : List String
  /-- Known records of no session, whose copies leave the catalog. -/
  excludedSourceKeys : List String
  completion : ScanCompletion
  reusedCache : Bool
  deriving DecidableEq

structure FileWatermark where
  sourceKey : String
  size : Nat
  modifiedNs : Nat
  deriving DecidableEq

structure RootFingerprint where
  files : List FileWatermark
  traversalErrors : Nat
  deriving DecidableEq

structure CachedScan where
  fingerprint : RootFingerprint
  scan : AdapterScan
  deriving DecidableEq

structure AdapterScanner where
  cache : Table (String × String) CachedScan
  parseAttempts : Nat

structure ScanPayload where
  candidates : List SessionCandidate
  seenSourceKeys : List String
  excludedSourceKeys : List String
  malformed : Nat
  attempts : Nat

inductive ScanFailure
  | unsupportedFormat | failed
  deriving DecidableEq, Repr

/-- What is found at a root: whether its path exists, its canonical directory, the watermarks of its
files and what the adapter parses from them. -/
structure RootView where
  pathExists : Bool
  canonicalDirectory : Option String
  rootFingerprint : Option RootFingerprint
  scanned : Except ScanFailure ScanPayload

def AdapterScanner.default : AdapterScanner where
  cache := ∅
  parseAttempts := 0

def emptyScanWithKey (root : AdapterRoot) (rootKey : String) (completion : ScanCompletion) :
    AdapterScan where
  adapter := root.adapter
  rootKey := rootKey
  candidates := []
  seenSourceKeys := []
  excludedSourceKeys := []
  completion := completion
  reusedCache := false

def emptyScan (root : AdapterRoot) (completion : ScanCompletion) : AdapterScan :=
  emptyScanWithKey root root.rootKey completion

/-- The scan of what was parsed, and the number of files it took. -/
def performScan (adapter rootKey : String) (view : RootView) : AdapterScan × Nat :=
  match view.scanned with
  | .ok payload =>
    ({ adapter := adapter
       rootKey := rootKey
       candidates := payload.candidates
       seenSourceKeys := payload.seenSourceKeys
       excludedSourceKeys := payload.excludedSourceKeys
       completion := if payload.malformed = 0 then .complete else .degraded
       reusedCache := false }, payload.attempts)
  | .error failure =>
    let completion : ScanCompletion :=
      match failure with
      | .unsupportedFormat => .unsupportedFormat
      | .failed => .failed
    (⟨adapter, rootKey, [], [], [], completion, false⟩, if adapter = "opencode" then 1 else 0)

/-- The completions after which a scan is not cached. -/
def ScanCompletion.isUncached (completion : ScanCompletion) : Bool :=
  completion = .failed || completion = .rootUnavailable || completion = .configurationError ||
    completion = .cancelled

/-- The cached scan of a root whose files have not changed since. -/
def AdapterScanner.reusable (scanner : AdapterScanner) (cacheKey : String × String)
    (fingerprint : RootFingerprint) (forceFull : Bool) : Option CachedScan :=
  if forceFull then none
  else (scanner.cache.lookup cacheKey).filter fun cached => cached.fingerprint = fingerprint

def AdapterScanner.scanRoot (scanner : AdapterScanner) (root : AdapterRoot) (view : RootView)
    (forceFull : Bool) : AdapterScanner × AdapterScan :=
  match root.preflight with
  | some completion => (scanner, emptyScan root completion)
  | none =>
    match view.canonicalDirectory with
    | none =>
      let completion :=
        match root.origin with
        | .default => if !view.pathExists then .notInstalled else .rootUnavailable
        | .explicit => .configurationError
      (scanner, emptyScan root completion)
    | some rootKey =>
      match view.rootFingerprint with
      | none => (scanner, emptyScanWithKey root rootKey .failed)
      | some fingerprint =>
        let cacheKey := (root.adapter, rootKey)
        match scanner.reusable cacheKey fingerprint forceFull with
        | some cached => (scanner, { cached.scan with reusedCache := true })
        | none =>
          let (scan, attempts) := performScan root.adapter rootKey view
          let scanner := { scanner with parseAttempts := scanner.parseAttempts + attempts }
          if scan.completion.isUncached then
            (scanner, scan)
          else
            ({ scanner with cache := scanner.cache.insert cacheKey ⟨fingerprint, scan⟩ }, scan)

/-! ### The worker -/

def scanWriteBatchSize : Nat := 256

/-- A list in chunks of `n`; there are no more of them than `fuel`. -/
def chunksOf {α : Type} (n : Nat) : Nat → List α → List (List α)
  | 0, _ => []
  | _ + 1, [] => []
  | fuel + 1, x :: xs => (x :: xs).take n :: chunksOf n fuel ((x :: xs).drop n)

def scanBatches (candidates : List SessionCandidate) : List (List SessionCandidate) :=
  chunksOf scanWriteBatchSize candidates.length candidates

section
variable (ext : External)

/-- A batch is written in one transaction; one that is refused degrades a complete scan. -/
def writeBatch (written : ProjectCatalog × ScanCompletion) (batch : List SessionCandidate) :
    ProjectCatalog × ScanCompletion :=
  let (db, completion) := written
  match db.upsertScannedCandidates ext batch with
  | .ok db => (db, completion)
  | .error _ => (db, if completion = .complete then .degraded else completion)

def writeScan (db : ProjectCatalog) (scan : AdapterScan) : ProjectCatalog × ScanCompletion :=
  if !scan.reusedCache then
    (scanBatches scan.candidates).foldl (writeBatch ext) (db, scan.completion)
  else
    (db, scan.completion)

structure ScanService where
  scanner : AdapterScanner
  catalog : ProjectCatalog

/-- `run_background_scan` for one root: the service after it, and the completion it committed. -/
def ScanService.runBackgroundScan (service : ScanService) (root : AdapterRoot) (view : RootView)
    (observedAt : Int) : ScanService × ScanCompletion :=
  let (scanner, scan) := service.scanner.scanRoot root view false
  let (db, completion) := writeScan ext service.catalog scan
  let db := db.completeRootScan scan.adapter scan.rootKey completion scan.seenSourceKeys
    scan.excludedSourceKeys observedAt
  (⟨scanner, db⟩, completion)

end

end Ork3.Projects
