import Ork3.Library.Table
import Ork3.Model.ProjectDomain

/-!
# The project catalog

The tables of `projects/catalog.rs` and the operations on them. A table is keyed by its primary key
(projects by their unique key), which is not repeated in the row;
a foreign key that cascades is a deletion in `deleteSession`. An operation is a transaction: one
that fails leaves the catalog as it was.
-/

namespace Ork3.Projects

open Ork3.Library

inductive CatalogError
  | notFound | aliasConflict | crossBackendAlias | sqlite
  deriving DecidableEq, Repr

structure ProjectRow where
  id : Nat
  kind : ProjectKind
  canonicalPath : String
  displayName : String
  createdAt : Int
  updatedAt : Int
  deriving DecidableEq

structure SessionRow where
  backend : String
  refKind : SessionRefKind
  refValue : String
  title : String
  titleObservedAt : Int
  titlePriority : Int
  titleSourceKey : String
  cwd : Option String
  cwdObservedAt : Option Int
  cwdPriority : Option Int
  cwdSourceKey : Option String
  transcriptRef : Option String
  transcriptObservedAt : Option Int
  transcriptPriority : Option Int
  transcriptSourceKey : Option String
  firstActivityAt : Int
  lastActivityAt : Int
  userTurns : Int
  userChars : Int
  userWeightKnown : Bool
  sessionClass : SessionClass
  createdAt : Int
  updatedAt : Int
  deriving DecidableEq

inductive AssignmentSource
  | automatic | manual | semantic
  deriving DecidableEq, Repr

structure AssignmentRow where
  projectId : Nat
  source : AssignmentSource
  evidence : String
  locked : Bool
  updatedAt : Int
  deriving DecidableEq

structure AliasRow where
  primaryStableKey : String
  evidence : String
  deriving DecidableEq

inductive SourceState
  | present | suspectedMissing | missing
  deriving DecidableEq, Repr

structure SourceRow where
  observedAt : Int
  lastSeenGeneration : Int
  state : SourceState
  missingStreak : Int
  deriving DecidableEq

structure ScanRootRow where
  successfulGeneration : Int
  state : String
  lastSuccessAt : Option Int
  lastErrorCategory : Option String
  deriving DecidableEq

structure RuntimeRow where
  workspaceId : String
  paneId : String
  generation : Int
  updatedAt : Int
  deriving DecidableEq

structure SemanticRow where
  topicKey : String
  topicLabel : String
  fingerprint : String
  backendUsed : String
  modelUsed : Option String
  classifiedAt : Int
  deriving DecidableEq

structure ProjectCatalog where
  revision : Int
  projects : Table String ProjectRow
  sessions : Table String SessionRow
  assignments : Table String AssignmentRow
  aliases : Table (String × SessionRefKind × String) AliasRow
  /-- Keyed by session, adapter, root and source. -/
  sources : Table (String × String × String × String) SourceRow
  scanRoots : Table (String × String) ScanRootRow
  runtimeMappings : Table String RuntimeRow
  semanticAssignments : Table String SemanticRow
  automationTitleThreshold : Nat
  deriving DecidableEq

inductive ScanCompletion
  | complete | notInstalled | rootUnavailable | configurationError | unsupportedFormat | cancelled
  | degraded | failed
  deriving DecidableEq, Repr

def ScanCompletion.isComplete (completion : ScanCompletion) : Bool :=
  completion = .complete

def ScanCompletion.state : ScanCompletion → String
  | .complete => "ready"
  | .notInstalled => "not_installed"
  | .rootUnavailable => "root_unavailable"
  | .configurationError => "degraded"
  | .unsupportedFormat => "unsupported_format"
  | .cancelled => "cancelled"
  | .degraded => "degraded"
  | .failed => "failed"

def ScanCompletion.diagnosticCategory : ScanCompletion → Option String
  | .complete | .notInstalled => none
  | .rootUnavailable => some "root_unavailable"
  | .configurationError => some "configuration_error"
  | .unsupportedFormat => some "unsupported_format"
  | .cancelled => some "cancelled"
  | .degraded => some "malformed_input"
  | .failed => some "scan_failed"

namespace ProjectCatalog

/-- A fresh catalog. -/
def empty (automationTitleThreshold : Nat) : ProjectCatalog where
  revision := 0
  projects := ∅
  sessions := ∅
  assignments := ∅
  aliases := ∅
  sources := ∅
  scanRoots := ∅
  runtimeMappings := ∅
  semanticAssignments := ∅
  automationTitleThreshold := max automationTitleThreshold 1

/-! ### Rows -/

def projectById (db : ProjectCatalog) (id : Nat) : Option ProjectRow :=
  db.projects.values.find? (·.id = id)

def isLocked (db : ProjectCatalog) (stableKey : String) : Bool :=
  (db.assignments.lookup stableKey).any (·.locked)

/-- A session goes with everything that refers to it. -/
def deleteSession (db : ProjectCatalog) (stableKey : String) : ProjectCatalog :=
  { db with
    sessions := db.sessions.erase stableKey
    assignments := db.assignments.erase stableKey
    aliases := db.aliases.retain fun _ row => row.primaryStableKey ≠ stableKey
    sources := db.sources.retain fun k _ => k.1 ≠ stableKey
    runtimeMappings := db.runtimeMappings.erase stableKey
    semanticAssignments := db.semanticAssignments.erase stableKey }

def bumpRevision (db : ProjectCatalog) : ProjectCatalog :=
  { db with revision := db.revision + 1 }

/-! ### Writing one candidate -/

section
variable (ext : External)

def resolveAliasPrimary (db : ProjectCatalog) (candidate : SessionCandidate) : SessionCandidate :=
  let identity := candidate.identity
  let primary := do
    let row ← db.aliases.lookup (identity.backend, identity.refKind, identity.canonicalRefValue)
    db.sessions.lookup row.primaryStableKey
  match primary with
  | none => candidate
  | some s => { candidate with identity := .fromCanonical ext s.backend s.refKind s.refValue }

/-- Whether a candidate leaves the assignment of its session alone: its directory is absent or the
one stored, and the session is not assigned to a topic. -/
def canPreserveExistingAssignment (db : ProjectCatalog) (candidate : SessionCandidate) : Bool :=
  let existing := do
    let s ← db.sessions.lookup candidate.identity.stableKey
    let a ← db.assignments.lookup candidate.identity.stableKey
    let p ← db.projectById a.projectId
    return (s.cwd, p.kind, a.source)
  match existing with
  | none => false
  | some (existingCwd, projectKind, assignmentSource) =>
    if projectKind = .semantic ∨ assignmentSource = .semantic then
      false
    else
      match candidate.cwd with
      | none => true
      | some incomingCwd => existingCwd = incomingCwd.value.toStr

/-- Whether a field takes the place of the stored one. -/
def replacesField {α : Type} (field : CandidateField α) (observedAt priority : Option Int)
    (sourceKey : Option String) : Bool :=
  let observedAt := observedAt.getD (-1)
  let priority := priority.getD (-1)
  let sourceKey := sourceKey.getD ""
  let sameSourceReparse := field.observedAt = observedAt && field.priority.asI64 = priority &&
    field.sourceKey = sourceKey
  field.outranks observedAt priority sourceKey || sameSourceReparse

def updateTitle (field : CandidateField String) (row : SessionRow) : SessionRow :=
  if replacesField field (some row.titleObservedAt) (some row.titlePriority)
      (some row.titleSourceKey) then
    { row with
      title := field.value
      titleObservedAt := field.observedAt
      titlePriority := field.priority.asI64
      titleSourceKey := field.sourceKey }
  else
    row

def updateCwd (field : CandidateField PathBuf) (row : SessionRow) : SessionRow :=
  if replacesField field row.cwdObservedAt row.cwdPriority row.cwdSourceKey then
    { row with
      cwd := some field.value.toStringLossy
      cwdObservedAt := some field.observedAt
      cwdPriority := some field.priority.asI64
      cwdSourceKey := some field.sourceKey }
  else
    row

def updateTranscriptRef (field : CandidateField String) (row : SessionRow) : SessionRow :=
  if replacesField field row.transcriptObservedAt row.transcriptPriority
      row.transcriptSourceKey then
    { row with
      transcriptRef := some field.value
      transcriptObservedAt := some field.observedAt
      transcriptPriority := some field.priority.asI64
      transcriptSourceKey := some field.sourceKey }
  else
    row

/-- The row a candidate inserts when its session has none. -/
def insertedSession (candidate : SessionCandidate) : SessionRow where
  backend := candidate.identity.backend
  refKind := candidate.identity.refKind
  refValue := candidate.identity.canonicalRefValue
  title := candidate.fallbackTitle
  titleObservedAt := candidate.title.elim candidate.observedAt (·.observedAt)
  titlePriority := candidate.title.elim 0 (·.priority.asI64)
  titleSourceKey := candidate.title.elim candidate.sourceKey (·.sourceKey)
  cwd := none
  cwdObservedAt := none
  cwdPriority := none
  cwdSourceKey := none
  transcriptRef := none
  transcriptObservedAt := none
  transcriptPriority := none
  transcriptSourceKey := none
  firstActivityAt := candidate.firstActivityAt
  lastActivityAt := candidate.lastActivityAt
  userTurns := asI64 candidate.weight.turns
  userChars := asI64 candidate.weight.chars
  userWeightKnown := candidate.weight.known
  sessionClass := candidate.sessionClass.getD .interactive
  createdAt := candidate.observedAt
  updatedAt := candidate.observedAt

/-- What a candidate changes in the row of its session before the ranked fields. -/
def mergedSession (row : SessionRow) (candidate : SessionCandidate) : SessionRow :=
  { row with
    firstActivityAt := min row.firstActivityAt candidate.firstActivityAt
    lastActivityAt := max row.lastActivityAt candidate.lastActivityAt
    userTurns := max row.userTurns (asI64 candidate.weight.turns)
    userChars := max row.userChars (asI64 candidate.weight.chars)
    userWeightKnown := row.userWeightKnown || candidate.weight.known
    sessionClass := candidate.sessionClass.getD row.sessionClass
    updatedAt := max row.updatedAt candidate.observedAt }

def upsertedSession (existing : Option SessionRow) (candidate : SessionCandidate) : SessionRow :=
  let row := existing.elim (insertedSession candidate) fun row => mergedSession row candidate
  let row := candidate.title.elim row fun field => updateTitle field row
  let row := candidate.cwd.elim row fun field => updateCwd field row
  candidate.transcriptRef.elim row fun field => updateTranscriptRef field row

def upsertSession (db : ProjectCatalog) (candidate : SessionCandidate) : ProjectCatalog :=
  let key := candidate.identity.stableKey
  { db with sessions :=
      db.sessions.insert key (upsertedSession (db.sessions.lookup key) candidate) }

/-- The next row number of a table from which nothing is deleted. -/
def nextProjectId (db : ProjectCatalog) : Nat :=
  (db.projects.values.map (·.id)).foldr max 0 + 1

def upsertProject (db : ProjectCatalog) (project : ProjectClassification) (observedAt : Int) :
    ProjectCatalog × Nat :=
  match db.projects.lookup project.canonicalKey with
  | some row =>
    let row := { row with updatedAt := max row.updatedAt observedAt }
    ({ db with projects := db.projects.insert project.canonicalKey row }, row.id)
  | none =>
    let row := ⟨db.nextProjectId, project.kind, project.canonicalPath, project.displayName,
      observedAt, observedAt⟩
    ({ db with projects := db.projects.insert project.canonicalKey row }, row.id)

def upsertAssignment (db : ProjectCatalog) (sessionKey : String) (projectId : Nat)
    (project : ProjectClassification) (observedAt : Int) : ProjectCatalog :=
  let row := ⟨projectId, .automatic, project.evidence, false, observedAt⟩
  if db.isLocked sessionKey then
    db
  else
    { db with assignments := db.assignments.insert sessionKey row }

/-- A topic inferred from other metadata, or for a session that is no longer interactive, goes. -/
def reconcileSemanticAssignment (db : ProjectCatalog) (stableKey : String) : ProjectCatalog :=
  let metadata := do
    let s ← db.sessions.lookup stableKey
    let sa ← db.semanticAssignments.lookup stableKey
    return (s, sa.fingerprint)
  match metadata with
  | none => db
  | some (s, storedFingerprint) =>
    let currentFingerprint := semanticFingerprint ext s.title s.cwd s.backend
    if storedFingerprint ≠ currentFingerprint ∨
        (s.sessionClass ≠ .interactive ∧ !db.isLocked stableKey) then
      { db with semanticAssignments := db.semanticAssignments.erase stableKey }
    else
      db

def upsertSource (db : ProjectCatalog) (candidate : SessionCandidate) : ProjectCatalog :=
  let key := (candidate.identity.stableKey, candidate.adapter, candidate.rootKey,
    candidate.sourceKey)
  let row :=
    match db.sources.lookup key with
    | none => ⟨candidate.observedAt, 0, .present, 0⟩
    | some row =>
      { row with
        observedAt := max row.observedAt candidate.observedAt
        state := .present
        missingStreak := 0 }
  { db with sources := db.sources.insert key row }

/-- The last check is the trigger on the table of aliases. -/
def upsertAlias (db : ProjectCatalog) (candidate : SessionCandidate)
    (sessionAlias : SessionAliasCandidate) : Except CatalogError ProjectCatalog :=
  let primaryStableKey := candidate.identity.stableKey
  let identity := sessionAlias.identity
  let key := (identity.backend, identity.refKind, identity.canonicalRefValue)
  if identity.backend ≠ candidate.identity.backend then
    .error .crossBackendAlias
  else if (db.aliases.lookup key).any fun row => row.primaryStableKey ≠ primaryStableKey then
    .error .aliasConflict
  else if (db.sessions.lookup primaryStableKey).map (·.backend) ≠ some identity.backend then
    .error .sqlite
  else
    .ok { db with aliases := db.aliases.insert key ⟨primaryStableKey, sessionAlias.evidence⟩ }

def upsertAliases (db : ProjectCatalog) (candidate : SessionCandidate) :
    Except CatalogError ProjectCatalog :=
  candidate.aliases.foldlM (fun db sessionAlias => db.upsertAlias candidate sessionAlias) db

def upsertRuntime (db : ProjectCatalog) (candidate : SessionCandidate) : ProjectCatalog :=
  match candidate.runtime with
  | none => db
  | some runtime =>
    let key := candidate.identity.stableKey
    let row := ⟨runtime.workspaceId, runtime.paneId, asI64 runtime.generation.toNat,
      candidate.observedAt⟩
    if (db.runtimeMappings.lookup key).any fun old => row.generation < old.generation then
      db
    else
      { db with runtimeMappings := db.runtimeMappings.insert key row }

/-- The directory and the assignment a resolved candidate writes; `project` is its directory's
project, or `none` where the assignment is preserved. -/
def writeSession (db : ProjectCatalog) (candidate : SessionCandidate)
    (project : Option ProjectClassification) : ProjectCatalog :=
  let db := db.upsertSession candidate
  match project with
  | none => db
  | some project =>
    let (db, projectId) := db.upsertProject project candidate.observedAt
    db.upsertAssignment candidate.identity.stableKey projectId project candidate.observedAt

def writeCandidate (db : ProjectCatalog) (candidate : SessionCandidate)
    (project : Option ProjectClassification) : Except CatalogError ProjectCatalog := do
  let db := db.writeSession candidate project
  let db := db.reconcileSemanticAssignment ext candidate.identity.stableKey
  let db := db.upsertSource candidate
  let db ← db.upsertAliases candidate
  return db.upsertRuntime candidate

def upsertCandidate (db : ProjectCatalog) (candidate : SessionCandidate) :
    Except CatalogError ProjectCatalog := do
  let candidate := db.resolveAliasPrimary ext candidate
  let project :=
    if db.canPreserveExistingAssignment candidate then
      none
    else
      some (classify ext (candidate.cwd.map (·.value)))
  let db ← db.writeCandidate ext candidate project
  return db.bumpRevision

/-! ### Scans -/

def refreshAutomationClasses (db : ProjectCatalog) : ProjectCatalog × Nat :=
  let threshold := max db.automationTitleThreshold 1
  let normalized (row : SessionRow) : String := normalizeSessionTitle ext row.title
  let isTemplate (row : SessionRow) : Bool :=
    normalized row ≠ "" &&
      threshold ≤ db.sessions.values.countP fun other => normalized other = normalized row
  let promoted := db.sessions.entries.filter fun e =>
    isTemplate e.2 && e.2.sessionClass ≠ .automation
  let sessions := promoted.foldl (fun t e =>
    t.modify e.1 fun row => { row with sessionClass := .automation }) db.sessions
  let dropped (key : String) : Bool :=
    (sessions.lookup key).any (·.sessionClass = .automation) && !db.isLocked key
  let topics := db.semanticAssignments.retain fun key _ => !dropped key
  ({ db with sessions := sessions, semanticAssignments := topics },
    promoted.length + (db.semanticAssignments.entries.filter fun e => dropped e.1).length)

/-- The classifications of one chunk; a path is classified once. -/
abbrev Classifications := List (PathBuf × ProjectClassification)

def classifyCached (cache : Classifications) (path : PathBuf) :
    Classifications × ProjectClassification :=
  match cache.find? fun e => e.1.components = path.components with
  | some e => (cache, e.2)
  | none => ((path, ext.classify path) :: cache, ext.classify path)

def upsertScannedCandidate (cache : Classifications) (db : ProjectCatalog)
    (candidate : SessionCandidate) : Except CatalogError (Classifications × ProjectCatalog) := do
  let candidate := db.resolveAliasPrimary ext candidate
  let (cache, project) :=
    if db.canPreserveExistingAssignment candidate then
      (cache, none)
    else
      match candidate.cwd with
      | some field =>
        let (cache, project) := classifyCached ext cache field.value
        (cache, some project)
      | none => (cache, some (.unclassified ext))
  let db ← db.writeCandidate ext candidate project
  return (cache, db)

def upsertScannedCandidates (db : ProjectCatalog) (candidates : List SessionCandidate) :
    Except CatalogError ProjectCatalog := do
  if candidates.isEmpty then return db
  let (_, db) ← candidates.foldlM (fun (cache, db) candidate =>
    upsertScannedCandidate ext cache db candidate) (([] : Classifications), db)
  return (db.refreshAutomationClasses ext).1.bumpRevision

end

/-- The sessions whose transcript the scan excluded go, unless the user locked them. -/
def deleteExcluded (adapter rootKey : String) (db : ProjectCatalog) (sourceKey : String) :
    ProjectCatalog :=
  let excluded := (db.sources.keys.filter fun k => k.2 = (adapter, rootKey, sourceKey)).map (·.1)
  (excluded.filter fun key => !db.isLocked key).foldl deleteSession db

def seenSource (row : SourceRow) (observedAt nextGeneration : Int) : SourceRow where
  observedAt := max row.observedAt observedAt
  lastSeenGeneration := nextGeneration
  state := .present
  missingStreak := 0

def missedSource (row : SourceRow) : SourceRow :=
  { row with
    missingStreak := row.missingStreak + 1
    state := if row.missingStreak + 1 ≥ 2 then .missing else .suspectedMissing }

def completeRootScan (db : ProjectCatalog) (adapter rootKey : String) (completion : ScanCompletion)
    (seenSourceKeys excludedSourceKeys : List String) (observedAt : Int) : ProjectCatalog :=
  let root := db.scanRoots.lookup (adapter, rootKey)
  let currentGeneration := root.elim 0 (·.successfulGeneration)
  let db :=
    if completion.isComplete then
      let db := excludedSourceKeys.foldl (deleteExcluded adapter rootKey) db
      let nextGeneration := min (currentGeneration + 1) (2 ^ 63 - 1)
      let db := { db with scanRoots :=
          db.scanRoots.insert (adapter, rootKey) ⟨nextGeneration, "ready", some observedAt, none⟩ }
      let rows := db.sources.keys.filter fun k => k.2.1 = adapter && k.2.2.1 = rootKey
      let sources := rows.foldl (fun t k =>
        if k.2.2.2 ∈ seenSourceKeys then
          t.modify k fun row => seenSource row observedAt nextGeneration
        else
          t.modify k missedSource) db.sources
      { db with sources := sources }
    else
      let row : ScanRootRow :=
        match root with
        | none => ⟨currentGeneration, completion.state, none, completion.diagnosticCategory⟩
        | some row =>
          { row with
            state := completion.state
            lastErrorCategory := completion.diagnosticCategory }
      { db with scanRoots := db.scanRoots.insert (adapter, rootKey) row }
  db.bumpRevision

/-! ### The user's and the classifier's assignments -/

def assignSession (db : ProjectCatalog) (stableKey projectKey : String) (lock : Bool)
    (observedAt : Int) : Except CatalogError ProjectCatalog :=
  match db.projects.lookup projectKey, db.assignments.lookup stableKey with
  | none, _ => .error .notFound
  | some _, none => .error .notFound
  | some project, some _ =>
    let row := ⟨project.id, .manual, "manual", lock, observedAt⟩
    .ok { db with assignments := db.assignments.insert stableKey row }.bumpRevision

def unlockSession (db : ProjectCatalog) (stableKey : String) (observedAt : Int) :
    Except CatalogError ProjectCatalog :=
  match db.assignments.lookup stableKey with
  | none => .error .notFound
  | some row =>
    let row := { row with locked := false, updatedAt := observedAt }
    .ok { db with assignments := db.assignments.insert stableKey row }.bumpRevision

section
variable (ext : External)

def applySemantic (db : ProjectCatalog) (item : SemanticAssignment) (observedAt : Int) :
    ProjectCatalog :=
  let eligible := (db.assignments.lookup item.sessionKey).any fun a =>
    !a.locked && (db.sessions.lookup item.sessionKey).any (·.sessionClass = .interactive)
  if !eligible then
    db
  else
    let classification := ProjectClassification.new ext .semantic item.topicKey item.topicLabel
      "semantic"
    let (db, _) := db.upsertProject classification observedAt
    let row := ⟨item.topicKey, item.topicLabel, item.fingerprint, item.backendUsed, item.modelUsed,
      observedAt⟩
    { db with semanticAssignments := db.semanticAssignments.insert item.sessionKey row }

def applySemanticBatch (db : ProjectCatalog) (batch : List SemanticAssignment) (observedAt : Int) :
    ProjectCatalog :=
  (batch.foldl (fun db item => db.applySemantic ext item observedAt) db).bumpRevision

end

end ProjectCatalog

end Ork3.Projects
