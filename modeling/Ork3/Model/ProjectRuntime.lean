import Ork3.Model.CatalogReopening
import Ork3.Model.Layout

/-!
# Sessions that panes show

The leases of `app/project_runtime.rs`: which session each pane last reported, and the generation
its report was committed under. The service is available; each of its commands is one transaction
of the catalog.
-/

namespace Ork3.Projects

open Ork3.Library

structure RuntimeLease where
  sessionKey : String
  workspaceId : String
  paneId : String
  generation : UInt64
  observedAt : Int
  deriving DecidableEq

/-- What is found out about a pane with an agent session. The identity is what
`identity_from_report` makes of it, if it accepts the report. -/
structure PaneReport where
  identity : Option (String × SessionRefKind × String)
  cwd : PathBuf
  workspaceId : String
  publicPaneId : String

structure ProjectRuntime where
  projectService : ProjectCatalog
  projectRuntimeLeases : Table PaneId RuntimeLease
  nextProjectRuntimeGeneration : UInt64

def ProjectCatalog.clearAllRuntimeMappings (db : ProjectCatalog) : ProjectCatalog :=
  let cleared := { db with runtimeMappings := ∅ }
  if db.runtimeMappings.entries.isEmpty then cleared else cleared.bumpRevision

namespace ProjectRuntime

/-- A catalog is opened without live sessions. -/
def start (db : ProjectCatalog) : ProjectRuntime where
  projectService := db.clearAllRuntimeMappings
  projectRuntimeLeases := ∅
  nextProjectRuntimeGeneration := 1

def takeNextProjectRuntimeGeneration (rt : ProjectRuntime) : ProjectRuntime × UInt64 :=
  let generation := rt.nextProjectRuntimeGeneration
  let next := if generation.toNat + 1 < 2 ^ 64 then generation + 1 else generation
  ({ rt with nextProjectRuntimeGeneration := next }, generation)

def clearProjectRuntimeForPane (rt : ProjectRuntime) (paneId : PaneId) : ProjectRuntime :=
  match rt.projectRuntimeLeases.lookup paneId with
  | none => rt
  | some lease =>
    { rt with
      projectRuntimeLeases := rt.projectRuntimeLeases.erase paneId
      projectService := rt.projectService.clearRuntimeMapping lease.sessionKey lease.generation }

def sameMapping (lease : RuntimeLease) (identity : SessionIdentity) (report : PaneReport) : Bool :=
  lease.sessionKey = identity.stableKey && lease.workspaceId = report.workspaceId &&
    lease.paneId = report.publicPaneId

section
variable (ext : External)

/-- The report is committed under the generation, and the pane holds the lease. -/
def commitReport (rt : ProjectRuntime) (paneId : PaneId) (identity : SessionIdentity)
    (report : PaneReport) (generation : UInt64) (now : Int) : ProjectRuntime :=
  let observedAt := max now <| (rt.projectRuntimeLeases.lookup paneId).elim 0 fun lease =>
    min (lease.observedAt + 1) (2 ^ 63 - 1)
  let candidate := candidateFromReport
    ⟨identity, report.cwd, report.workspaceId, report.publicPaneId, generation, observedAt⟩
  match rt.projectService.upsertCandidate ext candidate with
  | .ok db =>
    { rt with
      projectService := db
      projectRuntimeLeases := rt.projectRuntimeLeases.insert paneId
        ⟨identity.stableKey, report.workspaceId, report.publicPaneId, generation, observedAt⟩ }
  | .error _ => rt

/-- `report` is `none` where the pane is gone or has no session. -/
def syncProjectRuntimeForPane (rt : ProjectRuntime) (paneId : PaneId) (report : Option PaneReport)
    (forceMetadataRefresh : Bool) (now : Int) : ProjectRuntime :=
  match report with
  | none => rt.clearProjectRuntimeForPane paneId
  | some report =>
    match report.identity with
    | none => rt.clearProjectRuntimeForPane paneId
    | some (backend, refKind, refValue) =>
      let identity := SessionIdentity.fromCanonical ext backend refKind refValue
      match rt.projectRuntimeLeases.lookup paneId with
      | none =>
        let (rt, generation) := rt.takeNextProjectRuntimeGeneration
        rt.commitReport ext paneId identity report generation now
      | some existing =>
        if sameMapping existing identity report then
          if forceMetadataRefresh then
            rt.commitReport ext paneId identity report existing.generation now
          else rt
        else
          let rt := rt.clearProjectRuntimeForPane paneId
          let (rt, generation) := rt.takeNextProjectRuntimeGeneration
          rt.commitReport ext paneId identity report generation now

end

end ProjectRuntime

end Ork3.Projects
