import Ork3.Model.SemanticTopics

/-!
# Reopening a catalog

A catalog file has a schema version and the columns its tables were created with. Opening it brings
the schema up to date and then repairs what earlier versions wrote, each in a transaction of its
own (`ProjectCatalog::initialize` of `projects/catalog.rs`).
-/

namespace Ork3.Projects

open Ork3.Library

/-- A column that the file does not have holds nothing in `catalog` that is read. -/
structure CatalogFile where
  userVersion : Nat
  columns : List (String × String)
  catalog : ProjectCatalog
  deriving DecidableEq

inductive OpenError
  | unsupportedSchema (version : Nat) | sqlite
  deriving DecidableEq, Repr

def catalogSchemaVersion : Nat := 4

/-- The columns of a new catalog that opening an old one asks for or adds. -/
def currentColumns : List (String × String) :=
  [("sessions", "stable_key"), ("sessions", "backend"), ("sessions", "title"), ("sessions", "cwd"),
    ("sessions", "user_turns"), ("sessions", "user_chars"), ("sessions", "user_weight_known"),
    ("sessions", "session_class"), ("assignments", "source"), ("assignments", "evidence"),
    ("assignments", "locked"), ("semantic_assignments", "session_key")]

/-- `LIKE` compares ASCII letters without case. -/
def likeLetters (s : String) : List Char :=
  s.toList.map Char.toLower

def ProjectClassification.ephemeralAgent (ext : External) : ProjectClassification :=
  .new ext .unclassified "ephemeral-agent-cwd" "Ephemeral agent sessions" "ephemeral-agent-cwd"

namespace CatalogFile

def tableHasColumn (file : CatalogFile) (table column : String) : Bool :=
  file.columns.contains (table, column)

def mapSessions (file : CatalogFile) (f : SessionRow → SessionRow) : CatalogFile :=
  { file with catalog := { file.catalog with sessions := file.catalog.sessions.map f } }

def addColumn (file : CatalogFile) (table column : String) : CatalogFile :=
  { file with columns := (table, column) :: file.columns }

/-! ### Migrations -/

def addUserTurns (file : CatalogFile) : CatalogFile :=
  if file.tableHasColumn "sessions" "user_turns" then file
  else (file.mapSessions fun row => { row with userTurns := 0 }).addColumn "sessions" "user_turns"

def addUserChars (file : CatalogFile) : CatalogFile :=
  if file.tableHasColumn "sessions" "user_chars" then file
  else (file.mapSessions fun row => { row with userChars := 0 }).addColumn "sessions" "user_chars"

def addSemanticAssignments (file : CatalogFile) : CatalogFile :=
  if file.tableHasColumn "semantic_assignments" "session_key" then file
  else
    addColumn { file with catalog := { file.catalog with semanticAssignments := ∅ } }
      "semantic_assignments" "session_key"

def migrateV1ToV2 (file : CatalogFile) : CatalogFile :=
  { file.addUserTurns.addUserChars.addSemanticAssignments with userVersion := 2 }

/-- What a classifier left behind; the user may have locked it nevertheless. -/
def isDoomed (db : ProjectCatalog) (stableKey : String) (row : SessionRow) : Bool :=
  row.backend = "opencode" && (likeLetters "New session - ").isPrefixOf (likeLetters row.title) &&
    row.userChars = 0 && !db.isLocked stableKey

def addSessionClass (file : CatalogFile) : CatalogFile :=
  if file.tableHasColumn "sessions" "session_class" then file
  else
    (file.mapSessions fun row => { row with sessionClass := .interactive }).addColumn "sessions"
      "session_class"

def deleteDoomed (db : ProjectCatalog) : ProjectCatalog :=
  let doomed := db.sessions.entries.filter fun e => isDoomed db e.1 e.2
  (doomed.map (·.1)).foldl ProjectCatalog.deleteSession db

def migrateV2ToV3 (file : CatalogFile) : CatalogFile :=
  let canCleanClassifierRows :=
    (["backend", "title", "user_chars"].all fun column => file.tableHasColumn "sessions" column) &&
      file.tableHasColumn "assignments" "locked"
  let file := file.addSessionClass
  let catalog := if canCleanClassifierRows then deleteDoomed file.catalog else file.catalog
  { file with catalog := catalog, userVersion := 3 }

/-- Codex was the only backend whose sessions were measured before. -/
def addUserWeightKnown (file : CatalogFile) : CatalogFile :=
  let hasLegacyWeightColumns := ["backend", "user_turns", "user_chars"].all fun column =>
    file.tableHasColumn "sessions" column
  if file.tableHasColumn "sessions" "user_weight_known" then file
  else
    (file.mapSessions fun row =>
      { row with userWeightKnown := hasLegacyWeightColumns &&
          (row.backend = "codex" || row.userTurns > 0 || row.userChars > 0) }).addColumn "sessions"
      "user_weight_known"

def migrateV3ToV4 (file : CatalogFile) : CatalogFile :=
  { file.addUserWeightKnown with userVersion := 4 }

/-- A new file has no tables yet; creating them fails where there are some. -/
def createTables (file : CatalogFile) : Except OpenError CatalogFile :=
  if file.columns.isEmpty then
    .ok ⟨catalogSchemaVersion, currentColumns, .empty file.catalog.automationTitleThreshold⟩
  else
    .error .sqlite

def migrate (file : CatalogFile) : Except OpenError CatalogFile :=
  if file.userVersion > catalogSchemaVersion then
    .error (.unsupportedSchema file.userVersion)
  else
  let file := if file.userVersion = 1 then file.migrateV1ToV2 else file
  let file := if file.userVersion = 2 then file.migrateV2ToV3 else file
  if file.userVersion = 3 then
    .ok file.migrateV3ToV4
  else if file.userVersion = catalogSchemaVersion then
    .ok file
  else
    file.createTables

/-! ### Repairs -/

section
variable (ext : External)

def refreshAutomationClasses (file : CatalogFile) : CatalogFile :=
  if !file.tableHasColumn "sessions" "title" then
    file
  else
    let (db, changed) := file.catalog.refreshAutomationClasses ext
    { file with catalog := if changed > 0 then db.bumpRevision else db }

/-- The assignments that satisfy `p`, by session, with the directory of the session. -/
def assignmentsWithCwd (db : ProjectCatalog) (p : AssignmentRow → Option String → Bool) :
    List (String × Option String × Int) :=
  let rows := db.assignments.entries.filterMap fun e =>
    (db.sessions.lookup e.1).bind fun s =>
      if p e.2 s.cwd then some (e.1, s.cwd, e.2.updatedAt) else none
  rows.insertionSort fun a b => a.1 ≤ b.1

/-- The assignment of one session goes to a project where it satisfies `p`. -/
def rehome (db : ProjectCatalog) (p : AssignmentRow → Bool) (sessionKey : String)
    (projectId : Nat) (evidence : String) (updatedAt : Int) : ProjectCatalog :=
  let assignments := db.assignments.modify sessionKey fun a =>
    if p a then ⟨projectId, .automatic, evidence, a.locked, updatedAt⟩ else a
  { db with assignments := assignments }

/-- Assignments that a topic once replaced go back to the project of the directory. -/
def restoreLegacySemanticAssignments (file : CatalogFile) : CatalogFile :=
  if !file.tableHasColumn "assignments" "source" || !file.tableHasColumn "sessions" "cwd" then
    file
  else
    let rows := assignmentsWithCwd file.catalog fun a _ => a.source = .semantic
    if rows.isEmpty then
      file
    else
      let db := rows.foldl (fun db (sessionKey, cwd, observedAt) =>
        let project := classify ext (cwd.map PathBuf.ofStr)
        let (db, projectId) := db.upsertProject project observedAt
        rehome db (·.source = .semantic) sessionKey projectId project.evidence observedAt)
        file.catalog
      { file with catalog := db.bumpRevision }

/-- Sessions in disposable directories of agents go to a hidden project. -/
def excludeEphemeralAgentAssignments (isEphemeralAgentCwd : PathBuf → Bool) (file : CatalogFile) :
    CatalogFile :=
  if !file.tableHasColumn "assignments" "evidence" || !file.tableHasColumn "assignments" "locked" ||
      !file.tableHasColumn "sessions" "cwd" then
    file
  else
    let rows := assignmentsWithCwd file.catalog fun a cwd =>
      !a.locked && a.evidence ≠ "ephemeral-agent-cwd" &&
        cwd.any fun cwd => decide (likeLetters "paseo-multica-agent-" <:+: likeLetters cwd)
    let rows := rows.filter fun row =>
      row.2.1.any fun cwd => isEphemeralAgentCwd (PathBuf.ofStr cwd)
    if rows.isEmpty then
      file
    else
      let project := ProjectClassification.ephemeralAgent ext
      let observedAt := ((rows.map (·.2.2)).max?).getD 0
      let (db, projectId) := file.catalog.upsertProject project observedAt
      let db := rows.foldl (fun db (sessionKey, _, updatedAt) =>
        rehome db (!·.locked) sessionKey projectId project.evidence updatedAt) db
      { file with catalog := db.bumpRevision }

/-- The threshold is a setting of the process that opens the file. -/
def withThreshold (file : CatalogFile) (automationTitleThreshold : Nat) : CatalogFile :=
  let catalog := { file.catalog with automationTitleThreshold := max automationTitleThreshold 1 }
  { file with catalog := catalog }

/-- `initialize`: the migration, then the repairs. -/
def reopen (isEphemeralAgentCwd : PathBuf → Bool) (automationTitleThreshold : Nat)
    (file : CatalogFile) : Except OpenError CatalogFile := do
  let file ← migrate (file.withThreshold automationTitleThreshold)
  let file := file.refreshAutomationClasses ext
  let file := file.restoreLegacySemanticAssignments ext
  return file.excludeEphemeralAgentAssignments ext isEphemeralAgentCwd

end

end CatalogFile

namespace ProjectCatalog

def clearRuntimeMapping (db : ProjectCatalog) (stableKey : String) (expectedGeneration : UInt64) :
    ProjectCatalog :=
  let cleared := db.runtimeMappings.retain fun k row =>
    !(k = stableKey && row.generation = asI64 expectedGeneration.toNat)
  { db with runtimeMappings := cleared }.bumpRevision

end ProjectCatalog

end Ork3.Projects
