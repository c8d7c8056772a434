import Ork3.Model.ProjectCatalog

/-!
# Pages of sessions

The page queries of the catalog, evaluated as they are written: the join, the filter, the order by
activity and key, and the limit.
-/

namespace Ork3.Projects

open Ork3.Library

structure SessionCursor where
  lastActivityAt : Int
  stableKey : String
  deriving DecidableEq

structure IndexedSessionSummary where
  stableKey : String
  backend : String
  refKind : SessionRefKind
  title : String
  cwd : Option String
  firstActivityAt : Int
  lastActivityAt : Int
  live : Bool
  workspaceId : Option String
  paneId : Option String
  runtimeGeneration : Option UInt64
  sessionClass : SessionClass
  deriving DecidableEq

/-- A row of a page query: a session and its runtime mapping. -/
structure PageRow where
  stableKey : String
  session : SessionRow
  runtime : Option RuntimeRow
  deriving DecidableEq

namespace PageRow

def summary (row : PageRow) : IndexedSessionSummary where
  stableKey := row.stableKey
  backend := row.session.backend
  refKind := row.session.refKind
  title := row.session.title
  cwd := row.session.cwd
  firstActivityAt := row.session.firstActivityAt
  lastActivityAt := row.session.lastActivityAt
  live := row.runtime.isSome
  workspaceId := row.runtime.map (·.workspaceId)
  paneId := row.runtime.map (·.paneId)
  runtimeGeneration := row.runtime.map fun runtime => UInt64.ofInt runtime.generation
  sessionClass := row.session.sessionClass

/-- The user said too little, or nothing is known of what the user said. -/
def thin (row : PageRow) : Bool :=
  !row.session.userWeightKnown || row.session.userChars < minAnyChars ||
    (row.session.userTurns < minSubstantiveTurns && row.session.userChars < minSubstantiveChars)

def cursor (row : PageRow) : SessionCursor :=
  ⟨row.session.lastActivityAt, row.stableKey⟩

/-- `ORDER BY last_activity_at DESC, stable_key ASC`. -/
def queriedBefore (x y : PageRow) : Prop :=
  x.session.lastActivityAt > y.session.lastActivityAt ∨
    (x.session.lastActivityAt = y.session.lastActivityAt ∧
      x.stableKey ≤ y.stableKey)

/-- The order of a page. -/
def shownBefore (x y : PageRow) : Prop :=
  (x.thin = false ∧ y.thin = true) ∨ (x.thin = y.thin ∧ queriedBefore x y)

instance : DecidableRel queriedBefore := fun _ _ => inferInstanceAs (Decidable (_ ∨ _))

instance : DecidableRel shownBefore := fun _ _ => inferInstanceAs (Decidable (_ ∨ _))

/-- The part of the filter that a cursor adds. -/
def afterCursor (cursor : Option SessionCursor) (row : PageRow) : Bool :=
  cursor.all fun c => row.session.lastActivityAt < c.lastActivityAt ||
    (row.session.lastActivityAt = c.lastActivityAt && row.stableKey > c.stableKey)

end PageRow

namespace ProjectCatalog
variable (db : ProjectCatalog)

/-- The sessions of a page query without its cursor and limit. -/
def pageRows (selected : String → SessionRow → Bool) : List PageRow :=
  ((db.sessions.entries.filter fun e => selected e.1 e.2).map fun e =>
    PageRow.mk e.1 e.2 (db.runtimeMappings.lookup e.1)).insertionSort PageRow.queriedBefore

/-- The filter of the query on a project's directory. -/
def inProject (projectId : Nat) (stableKey : String) (session : SessionRow) : Bool :=
  (db.assignments.lookup stableKey).any fun a =>
    a.projectId = projectId && (session.sessionClass = .interactive || a.locked)

/-- The filter of the query on a topic. -/
def inTopic (topicKey : String) (stableKey : String) (session : SessionRow) : Bool :=
  (db.semanticAssignments.lookup stableKey).any fun sa =>
    sa.topicKey = topicKey && session.sessionClass = .interactive

/-- One row more than shown tells whether another page follows; it is taken from the end of the
rows in the order of the page. -/
def sessionsPageOf (selected : String → SessionRow → Bool) (cursor : Option SessionCursor)
    (limit : Nat) : List IndexedSessionSummary × Option SessionCursor :=
  let limit := min (max limit 1) 500
  let rows := ((db.pageRows selected).filter (PageRow.afterCursor cursor)).take (limit + 1)
  let hasMore := rows.length > limit
  let sessions := rows.insertionSort PageRow.shownBefore
  let sessions := if hasMore then sessions.dropLast else sessions
  let nextCursor := if hasMore then sessions.getLast?.map PageRow.cursor else none
  (sessions.map PageRow.summary, nextCursor)

def sessionsPageById (projectId : Nat) (cursor : Option SessionCursor) (limit : Nat) :
    List IndexedSessionSummary × Option SessionCursor :=
  db.sessionsPageOf (db.inProject projectId) cursor limit

def topicSessionsPage (topicKey : String) (cursor : Option SessionCursor) (limit : Nat) :
    List IndexedSessionSummary × Option SessionCursor :=
  db.sessionsPageOf (db.inTopic topicKey) cursor limit

/-- The filter that the page query of a project uses. -/
def selects (project : ProjectRow) : String → SessionRow → Bool :=
  if project.kind = .semantic then db.inTopic project.canonicalPath else db.inProject project.id

def sessionsPage (projectKey : String) (cursor : Option SessionCursor) (limit : Nat) :
    Except CatalogError (List IndexedSessionSummary × Option SessionCursor) :=
  match db.projects.lookup projectKey with
  | none => .error .notFound
  | some project =>
    if project.kind = .semantic then
      .ok (db.topicSessionsPage project.canonicalPath cursor limit)
    else
      .ok (db.sessionsPageById project.id cursor limit)

end ProjectCatalog

end Ork3.Projects
